import PathStore.Proofs.Session.Accessors
import PathStore.Proofs.Submap.Copies
import PathStore.Proofs.World.Dealings

/-!
# What is done with one key

Whatever is done with one key through a handle deals with the entry under its canonical form alone. So
where two written keys name one canonical key, it does not matter through which handle and under which
of them something is done, and where they name different ones, it does not matter what is done first,
however the keys lie to each other.
-/

namespace PathStore

open Op

namespace Handle

variable (handle : Handle) {key : String} {world : World}

theorem cell_eq_present (entries : Entries Cell) (key : String) :
    handle.cell entries key =
      Dealing.present (.error (.keyNotFound key)) (entries.find? (handle.resolve key)) := by
  unfold cell Dealing.present
  cases entries.find? (handle.resolve key) <;> rfl

theorem get_eq {type : ValueType} (free : world.admits ⟨.store handle.store, .reading⟩) :
    handle.get key type world =
      settled (handle.valueAt (world.entries handle.store) key type) world := by
  rw [get, withValue_eq, StoreId.reading_apply, if_pos free]
  cases handle.valueAt (world.entries handle.store) key type <;> rfl

end Handle

/-! ## Deeds -/

/-- What is done with the entry under one key. Values and cells can be lent to a use. -/
inductive Deed (α : Type) where
  | update (value : Value)
  | insertDefault (value : Value)
  | get (type : ValueType)
  | getOr (type : ValueType) (default : Value)
  | getAny
  | withValue (type : ValueType) (use : Value → Op α)
  | withValueOr (type : ValueType) (default : Value) (use : Value → Op α)
  | modifyValue (type : ValueType) (use : Value → Op (α × Value))
  | modifyCell (use : Cell → Op (α × Cell))
  | typeName
  | isStored
  | erase

namespace Deed

variable {α : Type}

/-- Do it with a handle and a written key. -/
def run (handle : Handle) (key : String) : Deed α → Op (Reply α)
  | .update value => (fun _ => .done) <$> handle.update key value
  | .insertDefault value => .truth <$> handle.insertDefault key value
  | .get type => .value <$> handle.get key type
  | .getOr type default => .value <$> handle.getOr key type default
  | .getAny => .value <$> handle.getAny key
  | .withValue type use => .result <$> handle.withValue key type use
  | .withValueOr type default use => .result <$> handle.withValueOr key type default use
  | .modifyValue type use => .result <$> handle.modifyValue key type use
  | .modifyCell use => .result <$> handle.modifyCell key use
  | .typeName => .text <$> handle.typeName key
  | .isStored => .truth <$> handle.isStored key
  | .erase => .count <$> handle.erase key

/-- The use that something is lent to keeps away from the store: it changes nothing but what is lent
to it. -/
def Aloof (store : StoreId) : Deed α → Prop
  | .withValue _ use => ∀ value, Op.Aloof store .reading (use value)
  | .withValueOr _ _ use => ∀ value, Op.Aloof store .reading (use value)
  | .modifyValue _ use => ∀ value, Op.Aloof store .writing (use value)
  | .modifyCell use => ∀ cell, Op.Aloof store .writing (use cell)
  | _ => True

/-- How the entry under a canonical key is dealt with, given the failure for a key that is absent. -/
def dealing (canonical : String) (absent : Failure) : Deed α → Dealing (Reply α)
  | .update value => .puts fun _ => pure (.done, some (some value))
  | .insertDefault value => .puts fun found =>
    pure (.truth found.isNone, some (found.getD (some value)))
  | .get type => .looks fun found => do
    let cell ← Dealing.present absent found
    return .value (← cell.expect type)
  | .getOr type default => .looks fun found =>
    match found with
    | some cell => do return .value (← cell.expect type)
    | none => return .value default
  | .getAny => .puts fun found => do
    match ← Dealing.present absent found with
    | some value => return (.value value, some (some value))
    | none => throw (.error (.emptyEntry (Path.shown canonical)))
  | .withValue type use => .looks fun found => do
    let cell ← Dealing.present absent found
    return .result (← use (← cell.expect type))
  | .withValueOr type default use => .looks fun found =>
    match found with
    | some cell => do return .result (← use (← cell.expect type))
    | none => do return .result (← use default)
  | .modifyValue type use => .puts fun found => do
    let cell ← Dealing.present absent found
    let (result, value) ← use (← cell.expect type)
    return (.result result, some (some value))
  | .modifyCell use => .puts fun found => do
    let (result, cell) ← use (← Dealing.present absent found)
    return (.result result, some cell)
  | .typeName => .looks fun found => return .text (← Dealing.present absent found).typeName
  | .isStored => .looks fun found => pure (.truth found.isSome)
  | .erase => .puts fun found => pure (.count found.isSome.toNat, none)

/-- What is told of a deed depends on the canonical key alone, but for a key that is not there. -/
theorem alikeBut_dealing (deed : Deed α) (canonical : String) (absent missing : Failure)
    (store : StoreId) (key : String) (world : World) :
    AlikeBut absent missing ((deed.dealing canonical absent).run store key)
      ((deed.dealing canonical missing).run store key) world := by
  cases deed with
  | get type => exact Dealing.alikeBut_looks _
  | withValue type use => exact Dealing.alikeBut_looks _
  | typeName => exact Dealing.alikeBut_looks _
  | getAny => exact Dealing.alikeBut_puts _
  | modifyValue type use => exact Dealing.alikeBut_puts _
  | modifyCell use => exact Dealing.alikeBut_puts _
  | update value => exact .inl rfl
  | insertDefault value => exact .inl rfl
  | getOr type default => exact .inl rfl
  | withValueOr type default use => exact .inl rfl
  | isStored => exact .inl rfl
  | erase => exact .inl rfl

theorem aloof_dealing {deed : Deed α} {store : StoreId} (aloof : deed.Aloof store)
    (canonical : String) (absent : Failure) : (deed.dealing canonical absent).Aloof store := by
  cases deed with
  | update value => exact fun _ => .pure _
  | insertDefault value => exact fun _ => .pure _
  | get type =>
      exact fun _ => (Op.Aloof.ofExcept _).bind fun _ =>
        (Op.Aloof.ofExcept _).bind fun _ => .pure _
  | withValue type use =>
      exact fun _ => (Op.Aloof.ofExcept _).bind fun _ =>
        (Op.Aloof.ofExcept _).bind fun value => (aloof value).bind fun _ => .pure _
  | typeName => exact fun _ => (Op.Aloof.ofExcept _).bind fun _ => .pure _
  | getAny =>
      refine fun _ => (Op.Aloof.ofExcept _).bind fun cell => ?_
      cases cell with
      | some value => exact .pure _
      | none => exact .throw _
  | modifyValue type use =>
      exact fun _ => (Op.Aloof.ofExcept _).bind fun _ =>
        (Op.Aloof.ofExcept _).bind fun value => (aloof value).bind fun _ => .pure _
  | modifyCell use =>
      exact fun _ => (Op.Aloof.ofExcept _).bind fun cell => (aloof cell).bind fun _ => .pure _
  | getOr type default =>
      intro found
      cases found with
      | some cell => exact (Op.Aloof.ofExcept _).bind fun _ => .pure _
      | none => exact .pure _
  | withValueOr type default use =>
      intro found
      cases found with
      | some cell =>
          exact (Op.Aloof.ofExcept _).bind fun value => (aloof value).bind fun _ => .pure _
      | none => exact (aloof default).bind fun _ => .pure _
  | isStored => exact fun _ => .pure _
  | erase => exact fun _ => .pure _

/-- The cell that is asked for its value is put back as it was. -/
theorem run_getAny (handle : Handle) (key : String) :
    Reply.value <$> handle.getAny key =
      ((getAny : Deed α).dealing (handle.resolve key) (.error (.keyNotFound key))).run
        handle.store (handle.resolve key) := by
  funext world
  rw [map_apply, dealing, Dealing.run, StoreId.writing_apply]
  cases found : (world.entries handle.store).find? (handle.resolve key) with
  | none =>
      have read : handle.modifyCell key (fun cell => pure (cell, cell)) world =
          if world.admits ⟨.store handle.store, .writing⟩ then
            .error (.error (.keyNotFound key)) world else .error .busy world := by
        rw [Handle.modifyCell, StoreId.writing_apply, Handle.cell_eq_present, found]
        rfl
      rw [Handle.getAny, bind_apply, read]
      by_cases free : world.admits ⟨.store handle.store, .writing⟩
      · rw [if_pos free, if_pos free]
        rfl
      · rw [if_neg free, if_neg free]
  | some cell =>
      have made := World.made_of_find? found
      rw [Handle.getAny_eq made, Handle.anyAt, Handle.cell_eq_present, found]
      by_cases free : world.admits ⟨.store handle.store, .writing⟩
      · rw [if_pos free, if_pos free]
        cases cell with
        | none => rfl
        | some value =>
            have back : (world.entries handle.store).assign (handle.resolve key)
                (some (some value)) = world.entries handle.store := Entries.insert_found found
            change EStateM.Result.ok (Reply.value value) world =
              .ok (.value value) (world.setEntries handle.store
                ((world.entries handle.store).assign (handle.resolve key) (some (some value))))
            rw [back, World.setEntries_entries made]
      · rw [if_neg free, if_neg free]

/-- What a deed does is to deal with the entry under the canonical key. -/
theorem run_eq (deed : Deed α) (handle : Handle) (key : String) :
    deed.run handle key =
      (deed.dealing (handle.resolve key) (.error (.keyNotFound key))).run handle.store
        (handle.resolve key) := by
  cases deed with
  | update value => exact StoreId.map_writing_eq_run fun _ => rfl
  | insertDefault value =>
      refine StoreId.map_writing_eq_run fun entries => ?_
      cases found : entries.find? (handle.resolve key) with
      | none => simp [Entries.contains, Entries.assign, found]
      | some cell => simp [Entries.contains, Entries.assign, found, Entries.insert_found found]
  | get type =>
      rw [run, Handle.get, Handle.withValue]
      refine StoreId.map_reading_eq_run fun entries => ?_
      rw [Handle.cell_eq_present]
      simp
  | getOr type default =>
      rw [run, Handle.getOr, Handle.withValueOr]
      refine StoreId.map_reading_eq_run fun entries => ?_
      cases entries.find? (handle.resolve key) <;> simp
  | getAny => exact run_getAny handle key
  | withValue type use =>
      refine StoreId.map_reading_eq_run fun entries => ?_
      rw [Handle.cell_eq_present]
      simp
  | withValueOr type default use =>
      refine StoreId.map_reading_eq_run fun entries => ?_
      cases entries.find? (handle.resolve key) <;> simp
  | modifyValue type use =>
      refine StoreId.map_writing_eq_run fun entries => ?_
      rw [Handle.cell_eq_present]
      simp [Entries.assign]
  | modifyCell use =>
      refine StoreId.map_writing_eq_run fun entries => ?_
      rw [Handle.cell_eq_present]
      simp [Entries.assign]
  | typeName =>
      refine StoreId.map_reading_eq_run fun entries => ?_
      rw [Handle.cell_eq_present]
      simp
  | isStored => exact StoreId.map_reading_eq_run fun _ => rfl
  | erase =>
      rw [run, Handle.erase, Handle.eraseKey]
      exact StoreId.map_writing_eq_run fun _ => rfl

/-! ## Through any handle, in any order -/

/-- A deed tells and does the same through two handles under two written keys, except that a key that
is not there is shown as it was written. -/
structure Alike (first second : Handle) (key other : String) (deed : Deed α) (world : World) :
    Prop where
  told : (deed.run first key).told world = (deed.run second other).told world ∨
    (deed.run first key).told world = .error (.error (.keyNotFound key)) ∧
      (deed.run second other).told world = .error (.error (.keyNotFound other))
  leaves : (deed.run first key).leaves world = (deed.run second other).leaves world

/-- Two deeds can be done in either order, and neither changes what stands under the other's key. -/
structure Apart {β : Type} (first second : Handle) (key other : String) (deed : Deed α)
    (further : Deed β) (world : World) : Prop where
  commutes : Commutes (deed.run first key) (further.run second other) world
  first_kept :
    (((further.run second other).leaves world).entries first.store).find? (first.resolve key) =
      (world.entries first.store).find? (first.resolve key)
  second_kept :
    (((deed.run first key).leaves world).entries second.store).find? (second.resolve other) =
      (world.entries second.store).find? (second.resolve other)

section Shared

variable {first second : Handle} (shared : second.store = first.store) {key other : String}

include shared

theorem alike_of_resolve_eq (same : second.resolve other = first.resolve key) (deed : Deed α)
    (world : World) : Alike first second key other deed world := by
  have ends := deed.alikeBut_dealing (first.resolve key) (.error (.keyNotFound key))
    (.error (.keyNotFound other)) first.store (first.resolve key) world
  have through := deed.run_eq second other
  rw [shared, same] at through
  rw [← run_eq, ← through] at ends
  rcases ends with equal | ⟨absent, missing⟩
  · constructor
    · exact .inl (by rw [told, told, equal])
    · rw [leaves, leaves, equal]
  · constructor
    · exact .inr ⟨by rw [told, absent], by rw [told, missing]⟩
    · rw [leaves, leaves, absent, missing]

theorem apart_of_resolve_ne {β : Type} (different : second.resolve other ≠ first.resolve key)
    {deed : Deed α} {further : Deed β} (aloof : deed.Aloof first.store)
    (also : further.Aloof first.store) (world : World) :
    Apart first second key other deed further world := by
  have one := aloof_dealing aloof (first.resolve key) (.error (.keyNotFound key))
  have two := aloof_dealing also (second.resolve other) (.error (.keyNotFound other))
  have through := further.run_eq second other
  rw [shared] at through
  constructor
  · rw [run_eq, through]
    exact one.commutes two different world
  · rw [through]
    exact two.find?_leaves (Ne.symm different) world
  · rw [run_eq, shared]
    exact one.find?_leaves different world

/-- What was stored is found under every spelling of its key, as a value of its type. -/
theorem get_update (same : second.resolve other = first.resolve key) {world : World}
    (free : world.admits ⟨.store first.store, .writing⟩) (value : Value) (type : ValueType) :
    ∃ left, first.update key value world = .ok () left ∧
      second.get other type left =
        if value.type = type then .ok value left
        else .error (.error (.typeMismatch type (some value.type))) left := by
  let left := world.setEntries first.store
    ((world.entries first.store).insert (first.resolve key) (some value))
  have stored : first.update key value world = .ok () left :=
    (StoreId.writing_pure first.store _ world).trans (if_pos free)
  have found : (left.entries second.store).find? (second.resolve other) = some (some value) := by
    rw [shared, same, World.entries_setEntries, if_pos rfl, Entries.find?_insert, if_pos rfl]
  have readable : left.admits ⟨.store second.store, .reading⟩ := by
    rw [shared]
    exact World.admits_reading free
  refine ⟨left, stored, ?_⟩
  rw [second.get_eq readable, Handle.valueAt, Handle.cell_eq_present, found]
  change settled (value.expect type) left = _
  rw [Value.expect]
  split <;> rfl

end Shared

/-- What is done with one key depends on its canonical form alone. Through handles on one store, and
under written keys that name one canonical key, each deed tells and does the same, and a value that was
stored under one of them is found under the other. Under written keys that name different canonical
keys two deeds can be done in either order, as long as what they lend a value to changes nothing but
that. -/
theorem alike_or_apart (first second : Handle) (shared : second.store = first.store)
    (key other : String) (world : World) :
    (second.resolve other = first.resolve key →
      (∀ {α : Type} (deed : Deed α), Alike first second key other deed world) ∧
      (world.admits ⟨.store first.store, .writing⟩ → ∀ value type,
        ∃ left, first.update key value world = .ok () left ∧
          second.get other type left =
            if value.type = type then .ok value left
            else .error (.error (.typeMismatch type (some value.type))) left)) ∧
    (second.resolve other ≠ first.resolve key →
      ∀ {α β : Type} (deed : Deed α) (further : Deed β), deed.Aloof first.store →
        further.Aloof first.store → Apart first second key other deed further world) :=
  ⟨fun same => ⟨fun deed => alike_of_resolve_eq shared same deed world,
      fun free => get_update shared same free⟩,
    fun different _ _ _ _ aloof also => apart_of_resolve_ne shared different aloof also world⟩

/-- A tree and its leaf: the leaf has a spelling at the top of the store and another one below the
tree, and the tree can be overwritten before or after the leaf is read out. -/
theorem alike_or_apart_tree :
    (Handle.submap ⟨⟨0⟩, .root⟩ "tree").store = (⟨⟨0⟩, .root⟩ : Handle).store ∧
      (Handle.submap ⟨⟨0⟩, .root⟩ "tree").resolve "./leaf/" =
        (⟨⟨0⟩, .root⟩ : Handle).resolve "tree//leaf" ∧
      Alike ⟨⟨0⟩, .root⟩ (.submap ⟨⟨0⟩, .root⟩ "tree") "tree//leaf" "./leaf/"
        (.withValue ⟨.scalar, .bool⟩ Value.snapshot) (Session.after Handle.plantedTree).world ∧
      (Session.after Handle.plantedTree).world.admits ⟨.store ⟨0⟩, .writing⟩ ∧
      (∃ left, Handle.update ⟨⟨0⟩, .root⟩ "tree//leaf" (.scalar (.bool false))
          (Session.after Handle.plantedTree).world = .ok () left ∧
        (Handle.submap ⟨⟨0⟩, .root⟩ "tree").get "./leaf/" ⟨.scalar, .bool⟩ left =
          .ok (.scalar (.bool false)) left) ∧
      (Handle.submap ⟨⟨0⟩, .root⟩ "tree").resolve "leaf" ≠
        (⟨⟨0⟩, .root⟩ : Handle).resolve "tree" ∧
      Apart ⟨⟨0⟩, .root⟩ (.submap ⟨⟨0⟩, .root⟩ "tree") "tree" "leaf"
        (.modifyValue ⟨.scalar, .bool⟩ fun value => pure (value, .scalar (.bool false)))
        (.withValue ⟨.scalar, .bool⟩ Value.snapshot) (Session.after Handle.plantedTree).world := by
  have same : (Handle.submap ⟨⟨0⟩, .root⟩ "tree").resolve "./leaf/" =
      (⟨⟨0⟩, .root⟩ : Handle).resolve "tree//leaf" := by decide +kernel
  have different : (Handle.submap ⟨⟨0⟩, .root⟩ "tree").resolve "leaf" ≠
      (⟨⟨0⟩, .root⟩ : Handle).resolve "tree" := by decide +kernel
  have free : (Session.after Handle.plantedTree).world.admits ⟨.store ⟨0⟩, .writing⟩ := by
    rw [World.admits, Session.active_after]
    rfl
  obtain ⟨spelled, -⟩ := alike_or_apart ⟨⟨0⟩, .root⟩ (.submap ⟨⟨0⟩, .root⟩ "tree") rfl
    "tree//leaf" "./leaf/" (Session.after Handle.plantedTree).world
  obtain ⟨alike, found⟩ := spelled same
  obtain ⟨-, apart⟩ := alike_or_apart ⟨⟨0⟩, .root⟩ (.submap ⟨⟨0⟩, .root⟩ "tree") rfl
    "tree" "leaf" (Session.after Handle.plantedTree).world
  exact ⟨rfl, same, alike _, free, found free _ ⟨.scalar, .bool⟩, different,
    apart different _ _ (fun _ => .pure _) fun value => value.aloof_snapshot⟩

end Deed

end PathStore
