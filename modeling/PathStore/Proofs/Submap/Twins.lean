import PathStore.Proofs.Entries.Rerooted
import PathStore.Proofs.World.Claims
import PathStore.Cursor

/-!
# Two runs side by side

One program works on a subtree of a store, another one on a store of its own that holds the rerooted
subtree. The two are twins if they come to related results and keep the two stores in step. Twins
are closed under sequence, and reading or writing the two stores makes twins of programs that agree
on the entries they are given.
-/

namespace PathStore

open PathStore.Path

/-- A failure without the full key that the text of some failures shows. -/
def Failure.redacted : Failure → Failure
  | .error (.emptyEntry _) => .error (.emptyEntry "")
  | failure => failure

/-- Both programs succeed with related results, or both fail alike; what is left is related too. -/
inductive Op.Agree {α β : Type} (related : α → β → Prop) (left : World → World → Prop) :
    EStateM.Result Failure World α → EStateM.Result Failure World β → Prop where
  | ok {first second firstLeft secondLeft} (result : related first second)
      (world : left firstLeft secondLeft) :
      Agree related left (.ok first firstLeft) (.ok second secondLeft)
  | error {first second firstLeft secondLeft} (failure : first.redacted = second.redacted)
      (world : left firstLeft secondLeft) :
      Agree related left (.error first firstLeft) (.error second secondLeft)

namespace Op.Agree

variable {α β : Type} {related weaker : α → β → Prop} {left right : World → World → Prop}
  {first : EStateM.Result Failure World α} {second : EStateM.Result Failure World β}

theorem imp (agree : Agree related left first second)
    (results : ∀ first second, related first second → weaker first second)
    (worlds : ∀ first second, left first second → right first second) :
    Agree weaker right first second := by
  cases agree with
  | ok result world => exact .ok (results _ _ result) (worlds _ _ world)
  | error failure world => exact .error failure (worlds _ _ world)

end Op.Agree

/-! ## Programs that do not look at stores -/

/-- Buffers and owners, which lie around the stores. -/
structure Surroundings where
  buffers : Heap (List Scalar)
  hosts : Heap (Option String)

namespace World

def surroundings (world : World) : Surroundings := ⟨world.buffers, world.hosts⟩

def withSurroundings (world : World) (around : Surroundings) : World :=
  { world with buffers := around.buffers, hosts := around.hosts }

end World

/-- What a caller does with a value that is lent to it: a program that may use all buffers and
owners but no store. -/
abbrev Use := EStateM Failure Surroundings

/-- Run a use where there are stores. -/
def Use.run {α : Type} (use : Use α) : Op α := fun world =>
  match use world.surroundings with
  | .ok result around => .ok result (world.withSurroundings around)
  | .error failure around => .error failure (world.withSurroundings around)

namespace Op

/-- The stores and claims of both worlds are as they were, and the surroundings are the same. -/
def Around (firstBefore secondBefore first second : World) : Prop :=
  ∃ around, first = firstBefore.withSurroundings around ∧
    second = secondBefore.withSurroundings around

/-- Two programs agree wherever their surroundings are the same, and change nothing else. -/
def Blind {α β : Type} (related : α → β → Prop) (first : Op α) (second : Op β) : Prop :=
  ∀ firstWorld secondWorld : World, firstWorld.surroundings = secondWorld.surroundings →
    Agree related (Around firstWorld secondWorld) (first firstWorld) (second secondWorld)

theorem Around.refl {first second : World} (same : first.surroundings = second.surroundings) :
    Around first second first second :=
  ⟨first.surroundings, rfl, by rw [same]; rfl⟩

theorem Around.trans {first second : World} {around : Surroundings} {firstLeft secondLeft : World}
    (later : Around (first.withSurroundings around) (second.withSurroundings around) firstLeft
      secondLeft) : Around first second firstLeft secondLeft := by
  obtain ⟨last, firstEqual, secondEqual⟩ := later
  exact ⟨last, firstEqual, secondEqual⟩

namespace Blind

variable {α β γ δ : Type} {related : α → β → Prop} {further : γ → δ → Prop}

theorem pure {first : α} {second : β} (result : related first second) :
    Blind related (Pure.pure first) (Pure.pure second) :=
  fun _ _ same => .ok result (.refl same)

theorem throw {first second : Failure} (failure : first.redacted = second.redacted) :
    Blind related (MonadExcept.throw first) (MonadExcept.throw second) :=
  fun _ _ same => .error failure (.refl same)

theorem bind {first : Op α} {second : Op β} {firstNext : α → Op γ} {secondNext : β → Op δ}
    (begins : Blind related first second)
    (continues : ∀ left right, related left right →
      Blind further (firstNext left) (secondNext right)) :
    Blind further (first >>= firstNext) (second >>= secondNext) := by
  intro firstWorld secondWorld same
  rw [bind_apply, bind_apply]
  have begun := begins firstWorld secondWorld same
  generalize first firstWorld = firstOutcome at begun
  generalize second secondWorld = secondOutcome at begun
  cases begun with
  | ok result world =>
      obtain ⟨around, rfl, rfl⟩ := world
      have continued := continues _ _ result (firstWorld.withSurroundings around)
        (secondWorld.withSurroundings around) rfl
      exact continued.imp (fun _ _ => id) fun _ _ => Around.trans
  | error failure world => exact .error failure world

/-- What goes on from equal results agrees if it does so for every result. -/
theorem bind_eq {first second : Op α} {firstNext : α → Op γ} {secondNext : α → Op δ}
    (begins : Blind Eq first second)
    (continues : ∀ result, Blind further (firstNext result) (secondNext result)) :
    Blind further (first >>= firstNext) (second >>= secondNext) := by
  apply begins.bind
  intro result _ same
  exact same ▸ continues result

/-- What is decided already is the same for both. -/
theorem ofExcept (decided : Except Failure α) :
    Blind Eq (Op.ofExcept decided) (Op.ofExcept decided) := by
  cases decided with
  | ok result => exact pure rfl
  | error failure => exact throw rfl

theorem discard {first : Op α} {second : Op β} (begins : Blind related first second) :
    Blind Eq (Functor.discard first) (Functor.discard second) := by
  have left : Functor.discard first = first >>= fun _ => Pure.pure () :=
    (bind_pure_comp _ first).symm
  have right : Functor.discard second = second >>= fun _ => Pure.pure () :=
    (bind_pure_comp _ second).symm
  rw [left, right]
  exact begins.bind fun _ _ _ => pure rfl

theorem use (use : Use α) : Blind Eq use.run use.run := by
  intro firstWorld secondWorld same
  unfold Use.run
  rw [same]
  cases use secondWorld.surroundings with
  | ok result around => exact .ok rfl ⟨around, rfl, rfl⟩
  | error failure around => exact .error rfl ⟨around, rfl, rfl⟩

end Blind

end Op

/-! ## A subtree and its copy -/

/-- The first world holds under a location what the second one holds in a store of its own, and
outside of it what was there at the start. Nobody uses either store. -/
structure Mirrored (home : Handle) (twin : StoreId) (start : Entries Cell) (first second : World) :
    Prop where
  entries : (first.entries home.store).rerooted home.location.key = second.entries twin
  confined : Entries.Confined home.location.key start (first.entries home.store)
  surroundings : first.surroundings = second.surroundings
  firstFree : first.admits ⟨.store home.store, .writing⟩ = true
  secondFree : second.admits ⟨.store twin, .writing⟩ = true

section

variable (home : Handle) (twin : StoreId) (start : Entries Cell)

/-- Two programs, the first for the subtree and the second for its copy, agree and keep the two in
step. -/
def Op.Twins {α β : Type} (related : α → β → Prop) (first : Op α) (second : Op β) : Prop :=
  ∀ firstWorld secondWorld, Mirrored home twin start firstWorld secondWorld →
    Agree related (Mirrored home twin start) (first firstWorld) (second secondWorld)

end

namespace Op.Twins

variable {home : Handle} {twin : StoreId} {start : Entries Cell} {α β γ δ : Type}
  {related : α → β → Prop} {further : γ → δ → Prop}

theorem pure {first : α} {second : β} (result : related first second) :
    Twins home twin start related (Pure.pure first) (Pure.pure second) :=
  fun _ _ mirrored => .ok result mirrored

theorem throw {first second : Failure} (failure : first.redacted = second.redacted) :
    Twins home twin start related (MonadExcept.throw first) (MonadExcept.throw second) :=
  fun _ _ mirrored => .error failure mirrored

theorem bind {first : Op α} {second : Op β} {firstNext : α → Op γ} {secondNext : β → Op δ}
    (begins : Twins home twin start related first second)
    (continues : ∀ left right, related left right →
      Twins home twin start further (firstNext left) (secondNext right)) :
    Twins home twin start further (first >>= firstNext) (second >>= secondNext) := by
  intro firstWorld secondWorld mirrored
  rw [bind_apply, bind_apply]
  have begun := begins firstWorld secondWorld mirrored
  generalize first firstWorld = firstOutcome at begun
  generalize second secondWorld = secondOutcome at begun
  cases begun with
  | ok result world => exact continues _ _ result _ _ world
  | error failure world => exact .error failure world

/-- What goes on from equal results are twins if they are so for every result. -/
theorem bind_eq {first second : Op α} {firstNext : α → Op γ} {secondNext : α → Op δ}
    (begins : Twins home twin start Eq first second)
    (continues : ∀ result,
      Twins home twin start further (firstNext result) (secondNext result)) :
    Twins home twin start further (first >>= firstNext) (second >>= secondNext) := by
  apply begins.bind
  intro result _ same
  exact same ▸ continues result

/-- Reading the two stores makes twins of programs that agree on the subtree and its copy. -/
theorem reading {first : Entries Cell → Op α} {second : Entries Cell → Op β} (refusal : Failure)
    (agree : ∀ entries : Entries Cell, entries.Rooted →
      Blind related (first entries) (second (entries.rerooted home.location.key))) :
    Twins home twin start related (home.store.reading refusal first)
      (twin.reading refusal second) := by
  intro firstWorld secondWorld mirrored
  rw [StoreId.reading_apply, StoreId.reading_apply,
    if_pos (World.admits_reading mirrored.firstFree),
    if_pos (World.admits_reading mirrored.secondFree), ← mirrored.entries]
  have agreed := agree (firstWorld.entries home.store) mirrored.confined.rooted
    (firstWorld.acquire ⟨.store home.store, .reading⟩)
    (secondWorld.acquire ⟨.store twin, .reading⟩) mirrored.surroundings
  generalize first _ _ = firstOutcome at agreed
  generalize second _ _ = secondOutcome at agreed
  cases agreed with
  | ok result world =>
      obtain ⟨around, rfl, rfl⟩ := world
      exact .ok result ⟨mirrored.entries, mirrored.confined, rfl, mirrored.firstFree,
        mirrored.secondFree⟩
  | error failure world =>
      obtain ⟨around, rfl, rfl⟩ := world
      exact .error failure ⟨mirrored.entries, mirrored.confined, rfl, mirrored.firstFree,
        mirrored.secondFree⟩

/-- Results together with new entries, for the subtree and for its copy. -/
def Written (base : String) (related : α → β → Prop) (before : Entries Cell)
    (first : α × Entries Cell) (second : β × Entries Cell) : Prop :=
  related first.1 second.1 ∧ first.2.rerooted base = second.2 ∧
    ∀ start, Entries.Confined base start before → Entries.Confined base start first.2

/-- Storing a value behind the base and in the copy. -/
theorem Written.insert {base : String} (baseRooted : IsRooted base) {key : String}
    (keyRooted : IsRooted key) (entries : Entries Cell) (cell : Cell) {first : α} {second : β}
    (result : related first second) :
    Written base related entries (first, entries.insert (base ++ key) cell)
      (second, (entries.rerooted base).insert key cell) :=
  ⟨result, entries.rerooted_insert base keyRooted cell,
    fun _ confined => confined.insert baseRooted keyRooted cell⟩

/-- Writing the two stores makes twins of programs that agree on the subtree and its copy and what
they put there. -/
theorem writing {first : Entries Cell → Op (α × Entries Cell)}
    {second : Entries Cell → Op (β × Entries Cell)}
    (agree : ∀ entries : Entries Cell, entries.Rooted →
      Blind (Written home.location.key related entries) (first entries)
        (second (entries.rerooted home.location.key))) :
    Twins home twin start related (home.store.writing first) (twin.writing second) := by
  intro firstWorld secondWorld mirrored
  rw [StoreId.writing_apply, StoreId.writing_apply, if_pos mirrored.firstFree,
    if_pos mirrored.secondFree, ← mirrored.entries]
  have agreed := agree (firstWorld.entries home.store) mirrored.confined.rooted
    (firstWorld.acquire ⟨.store home.store, .writing⟩)
    (secondWorld.acquire ⟨.store twin, .writing⟩) mirrored.surroundings
  generalize first _ _ = firstOutcome at agreed
  generalize second _ _ = secondOutcome at agreed
  cases agreed with
  | ok written world =>
      obtain ⟨around, rfl, rfl⟩ := world
      obtain ⟨result, equal, confined⟩ := written
      refine .ok result ⟨?_, ?_, rfl, mirrored.firstFree, mirrored.secondFree⟩
      · rw [World.entries_release, World.entries_release, World.entries_setEntries, if_pos rfl,
          World.entries_setEntries, if_pos rfl, equal]
      · rw [World.entries_release, World.entries_setEntries, if_pos rfl]
        exact confined start mirrored.confined
  | error failure world =>
      obtain ⟨around, rfl, rfl⟩ := world
      exact .error failure ⟨mirrored.entries, mirrored.confined, rfl, mirrored.firstFree,
        mirrored.secondFree⟩

end Op.Twins

end PathStore
