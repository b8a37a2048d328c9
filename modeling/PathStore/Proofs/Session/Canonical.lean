import PathStore.Proofs.World.Operations
import PathStore.Session.Run

/-!
# Sessions with canonical keys

A session is canonical if its stores are and the locations of all handles that variables name. What
tasks are built from keeps sessions canonical: finding and naming objects, and programs over the
world that keep that canonical.
-/

namespace PathStore

/-- A handle has a canonical location; nothing is asked of other objects. -/
def Object.Canonical : Object → Prop
  | .handle named => named.location.Canonical
  | _ => True

/-- Every handle that a variable names has a canonical location. -/
def Variables.Canonical (bindings : Variables) : Prop :=
  ∀ entry ∈ bindings, entry.2.Canonical

/-- The stores and the handles of a session are canonical. -/
structure Session.Canonical (session : Session) : Prop where
  world : session.world.Canonical
  bindings : Variables.Canonical session.bindings

theorem Session.canonical_default : (default : Session).Canonical where
  world _ := Entries.canonical_empty
  bindings := List.forall_mem_nil _

theorem Variables.Canonical.filter {bindings : Variables} (canonical : bindings.Canonical)
    (keep : String × Object → Bool) : Variables.Canonical (bindings.filter keep) :=
  fun entry member => canonical entry (List.mem_filter.mp member).1

theorem Variables.Canonical.lookup {bindings : Variables} (canonical : bindings.Canonical)
    {name : String} {object : Object} (found : bindings.lookup name = some object) :
    object.Canonical := by
  obtain ⟨before, after, rfl, -⟩ := List.lookup_eq_some_iff.mp found
  exact canonical (name, object) (by simp)

theorem Session.Canonical.forget {session : Session} (canonical : session.Canonical)
    (name : String) : (session.forget name).Canonical := by
  unfold Session.forget
  dsimp only
  split
  · exact ⟨canonical.world, canonical.bindings.filter _⟩
  · exact ⟨canonical.world, canonical.bindings.filter _⟩

theorem Session.active_forget (session : Session) (name : String) :
    (session.forget name).world.active = session.world.active := by
  unfold Session.forget
  dsimp only
  split <;> rfl

theorem Session.Canonical.bind {session : Session} (canonical : session.Canonical) (name : String)
    {object : Object} (objectCanonical : object.Canonical) :
    (session.bind name object).Canonical where
  world := (canonical.forget name).world
  bindings := List.forall_mem_cons.mpr ⟨objectCanonical, (canonical.forget name).bindings⟩

/-- Sessions stay canonical, and the same claims are held before and after. -/
def Session.canonicity : Invariant Session where
  holds := Session.Canonical
  follows before after := after.world.active = before.world.active
  refl _ := rfl
  trans first second := second.trans first

namespace Task

open Invariant

variable {α β : Type}

/-- The task keeps sessions canonical and gives up what it claims, and its result satisfies a
condition. -/
abbrev Keeps (task : Task α) (ensures : α → Prop) : Prop :=
  Session.canonicity.Keeps task ensures

/-- The task keeps sessions canonical and gives up what it claims. -/
abbrev Steady (task : Task α) : Prop := Session.canonicity.Steady task

namespace Keeps

variable {ensures : α → Prop}

/-- A program over the world keeps the session canonical if it keeps the world so. -/
theorem ofOp {program : Op α} (keeps : Op.Keeps program ensures) :
    Keeps (Task.ofOp program) ensures := by
  intro session canonical
  unfold Task.ofOp
  have kept := keeps session.world canonical.world
  generalize program session.world = outcome at kept
  cases kept with
  | ok world claims ensured => exact .ok ⟨world, canonical.bindings⟩ claims ensured
  | error world claims => exact .error ⟨world, canonical.bindings⟩ claims

theorem carrying {program : Variables → Op (α × Variables)}
    (keeps : ∀ bindings : Variables, bindings.Canonical →
      Op.Keeps (program bindings) fun result => ensures result.1 ∧ result.2.Canonical) :
    Keeps (Task.carrying program) ensures := by
  intro session canonical
  unfold Task.carrying
  have kept := keeps session.bindings canonical.bindings session.world canonical.world
  generalize program session.bindings session.world = outcome at kept
  cases kept with
  | ok world claims ensured => exact .ok ⟨world, ensured.2⟩ claims ensured.1
  | error world claims => exact .error ⟨world, canonical.bindings⟩ claims

theorem lending {name : String} {object : β → Object}
    {program : Variables → Op ((α × Variables) × β)} (plain : ∀ held, (object held).Canonical)
    (keeps : ∀ bindings : Variables, bindings.Canonical →
      Op.Keeps (program bindings) fun result => ensures result.1.1 ∧ result.1.2.Canonical) :
    Keeps (Task.lending name object program) ensures := by
  intro session canonical
  unfold Task.lending
  have kept := keeps _ (canonical.bindings.filter (·.1 != name)) session.world canonical.world
  generalize program _ session.world = outcome at kept
  cases kept with
  | @ok result left world claims ensured =>
      refine .ok ⟨world, ?_⟩ claims ensured.1
      dsimp only
      split
      · exact ensured.2
      · exact List.forall_mem_cons.mpr ⟨plain _, ensured.2⟩
  | error world claims => exact .error ⟨world, canonical.bindings⟩ claims

end Keeps

theorem steady_ofExcept (decided : Except Failure α) : Steady (Task.ofOp (Op.ofExcept decided)) :=
  Keeps.ofOp (Op.steady_ofExcept decided)

theorem steady_bind (name : String) {object : Object} (canonical : object.Canonical) :
    Steady (Task.bind name object) :=
  fun _ known => .ok (known.bind name canonical) (Session.active_forget _ name) trivial

theorem steady_forget (name : String) : Steady (modify (·.forget name)) :=
  fun _ known => .ok (known.forget name) (Session.active_forget _ name) trivial

/-- What a variable is found to name is canonical. -/
theorem keeps_named (name kind : String) (select : Object → Option α) :
    Keeps (Task.named name kind select) fun found =>
      ∃ object, select object = some found ∧ object.Canonical := by
  apply Keeps.bind Keeps.get
  intro session canonical
  apply Keeps.ofOp
  apply Op.Keeps.ofExcept
  intro found given
  cases looked : (session.bindings.lookup name).bind select with
  | none => rw [Variables.named, looked] at given; cases given
  | some other =>
      rw [Variables.named, looked] at given
      cases given
      obtain ⟨object, listed, selected⟩ := Option.bind_eq_some_iff.mp looked
      exact ⟨object, selected, canonical.bindings.lookup listed⟩

theorem steady_named (name kind : String) (select : Object → Option α) :
    Steady (Task.named name kind select) :=
  (keeps_named name kind select).mono fun _ _ => trivial

theorem keeps_handle (name : String) :
    Keeps (Task.handle name) fun handle => handle.location.Canonical := by
  apply (keeps_named name "map" _).mono
  rintro handle ⟨object, selected, canonical⟩
  cases object with
  | handle named => cases selected; exact canonical
  | _ => cases selected

theorem steady_value (name : String) : Steady (Task.value name) :=
  Keeps.get.bind fun _ _ => steady_ofExcept _

theorem steady_cell (name : String) : Steady (Task.cell name) :=
  steady_named _ _ _

theorem steady_buffer (name : String) : Steady (Task.buffer name) :=
  steady_named _ _ _

theorem steady_cursor (name : String) : Steady (Task.cursor name) :=
  steady_named _ _ _

theorem steady_entry (name : String) : Steady (Task.entry name) :=
  steady_named _ _ _

end Task

end PathStore
