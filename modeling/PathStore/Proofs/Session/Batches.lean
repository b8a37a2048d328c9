import PathStore.Proofs.Session.Accessors
import PathStore.Proofs.Session.Isolation
import PathStore.Proofs.Submap.Grafting

/-!
# Several values at once

Values that are stored one after the other under written keys may come to stand under the same
canonical key. Of several updates the last one stands, of several defaults the first one, and only
where nothing was before; the count that is told of defaults is the number of entries that are new. A
map that is made of a list has the last values of the list, which are the first ones of the reversed
list.
-/

namespace PathStore

open PathStore.Path

/-! ## New stores -/

namespace World

variable {world : World}

/-- Nobody claims a store that is still to be made. -/
theorem admits_next (bears : world.Bears world.active) (mode : Mode) :
    world.admits ⟨.store ⟨world.stores.next⟩, mode⟩ := by
  rw [admits_iff]
  intro held member conflict
  have made := bears held member
  rw [(Claim.conflicts_iff.mp conflict).1] at made
  exact Nat.lt_irrefl _ made

end World

/-- At each moment of a run all that is claimed has been made. -/
theorem Step.Passes.bears_active {steps remaining : List Step} {session now : Session}
    {frames : List Frame} (passes : Passes steps session frames remaining now)
    (complete : session.Complete) (bears : session.world.Bears session.world.active) :
    now.world.Bears now.world.active := by
  induction passes with
  | here => exact bears
  | @later step rest remaining session now frames passes ih =>
      have follows := step.follows_world_run session
      refine ih (step.complete_run complete) fun claim held => follows.grows _ (bears claim ?_)
      rwa [← follows.active]
  | @inside access body rest remaining session inner now frames lends passes ih =>
      refine ih (lends.complete complete) ?_
      rw [lends.opening.2.1]
      exact (complete.bears_claims access).append bears

namespace Task

variable {α β : Type}

theorem ofOp_pure (result : α) : ofOp (pure result) = pure result := rfl

theorem ofOp_bind (program : Op α) (next : α → Op β) :
    ofOp (program >>= next) = ofOp program >>= fun result => ofOp (next result) := by
  funext session
  cases ran : program session.world with
  | ok result left =>
      have lifted : ofOp program session = .ok result { session with world := left } := by
        rw [ofOp, ran]
      rw [bind_of_ok lifted, ofOp, bind_of_ok ran]
      rfl
  | error failure left =>
      have lifted : ofOp program session = .error failure { session with world := left } := by
        rw [ofOp, ran]
      rw [bind_of_error lifted, ofOp, bind_of_error ran]

end Task

namespace Handle

variable {handle : Handle} {world left : World} {list : List (String × Value)}

/-- A new map with the entries of a list. -/
def ofEntries (list : List (String × Value)) : Op Handle := do
  let handle ← create .empty
  handle.updateMany list
  return handle

/-- This is what is done to make a map of a list. -/
theorem run_ofEntries (entries : List (String × ValueSpec)) :
    (MapAction.ofEntries entries).run = do
      let list ← ValueSpec.buildEntries entries
      return .handle (← ofEntries list) := by
  rw [MapAction.run]
  refine bind_congr fun list => ?_
  change Task.ofOp (create .empty) >>= (fun handle => Task.ofOp (handle.updateMany list) >>=
    fun _ => pure (Outcome.handle handle)) = Task.ofOp (ofEntries list) >>= fun handle =>
      pure (Outcome.handle handle)
  simp only [ofEntries, Task.ofOp_bind, Task.ofOp_pure, bind_assoc, pure_bind]

/-! ## Items that name a key -/

/-- The items of a list whose written keys name a canonical key, in order. -/
def naming (handle : Handle) (list : List (String × Value)) (key : String) :
    List (String × Value) :=
  list.filter fun item => handle.resolve item.1 == key

theorem valuesUnder_resolved (handle : Handle) (list : List (String × Value)) (key : String) :
    Entries.valuesUnder (list.map fun item => (handle.resolve item.1, some item.2)) key =
      (handle.naming list key).map fun item => some item.2 := by
  rw [Entries.valuesUnder, naming, List.filter_map, List.map_map]
  rfl

theorem find?_afterUpdates (entries : Entries Cell) (key : String) :
    (handle.afterUpdates entries list).find? key =
      ((handle.naming list key).getLast?.map fun item => some item.2).or (entries.find? key) := by
  rw [afterUpdates, Entries.find?_insertAll_eq_getLast?, valuesUnder_resolved, List.getLast?_map]

theorem find?_afterDefaults (entries : Entries Cell) (key : String) :
    (handle.afterDefaults entries list).find? key =
      (entries.find? key).or ((handle.naming list key).head?.map fun item => some item.2) := by
  rw [afterDefaults_eq, Entries.find?_insertDefaults, valuesUnder_resolved, List.head?_map]

theorem inSubtree_resolve (handle : Handle) (key : String) :
    InSubtree handle.location.key (handle.resolve key) := by
  rw [resolve, Location.resolve_eq]
  exact inSubtree_append _ (Location.isCanonical_resolve_root key).isRooted

/-- Storing changes nothing outside of what the handle reaches. -/
theorem naming_of_not_inSubtree {key : String} (outside : ¬InSubtree handle.location.key key) :
    handle.naming list key = [] := by
  rw [naming, List.filter_eq_nil_iff]
  intro item _ same
  exact outside (beq_iff_eq.mp same ▸ handle.inSubtree_resolve item.1)

/-! ## Updates -/

/-- What updates with a list come to. -/
structure UpdatedBy (handle : Handle) (list : List (String × Value)) (world left : World) :
    Prop where
  /-- The last value that the list gives a key stands there, or else what was there. -/
  stands : ∀ key, (left.entries handle.store).find? key =
    ((handle.naming list key).getLast?.map fun item => some item.2).or
      ((world.entries handle.store).find? key)
  changed : OnlyEntries handle.store (left.entries handle.store) world left

theorem updateMany_apply (list : List (String × Value))
    (free : world.admits ⟨.store handle.store, .writing⟩) :
    ∃ left, handle.updateMany list world = .ok () left ∧
      OnlyEntries handle.store (handle.afterUpdates (world.entries handle.store) list) world left := by
  cases list with
  | nil => exact ⟨world, rfl, .refl handle.store world⟩
  | cons item rest =>
      exact ⟨_, handle.updateMany_cons_apply item rest free, onlyEntries_setEntries _ _ _⟩

/-! ## Defaults -/

/-- What storing the values of a list as defaults comes to, and the count that is told. -/
structure DefaultedBy (handle : Handle) (list : List (String × Value)) (count : Nat)
    (world left : World) : Prop where
  /-- What was under a key still stands there, or else the first value that the list gives it. -/
  stands : ∀ key, (left.entries handle.store).find? key =
    ((world.entries handle.store).find? key).or
      ((handle.naming list key).head?.map fun item => some item.2)
  changed : OnlyEntries handle.store (left.entries handle.store) world left
  /-- As many keys are there that were not there before. -/
  counted : count = ((world.entries handle.store).added (left.entries handle.store)).length
  /-- The handle reaches as many entries more. -/
  grown : ∃ size, handle.size world = .ok size world ∧ handle.size left = .ok (size + count) left
  /-- Nothing is left to be stored. -/
  again : handle.insertDefaultMany list left = .ok 0 left

theorem insertDefaultMany_apply (list : List (String × Value))
    (free : world.admits ⟨.store handle.store, .writing⟩) :
    ∃ count left, handle.insertDefaultMany list world = .ok count left ∧
      OnlyEntries handle.store (handle.afterDefaults (world.entries handle.store) list) world left ∧
      (world.entries handle.store).size + count = (left.entries handle.store).size := by
  cases list with
  | nil => exact ⟨0, world, rfl, .refl handle.store world, rfl⟩
  | cons item rest =>
      obtain ⟨count, ran, grown⟩ := handle.insertDefaultMany_cons_apply item rest free
      exact ⟨count, _, ran, onlyEntries_setEntries _ _ _,
        by rw [World.entries_setEntries, if_pos rfl, grown]⟩

/-- A default for a key that has an entry changes nothing. -/
theorem insertDefault_of_contains {key : String}
    (free : world.admits ⟨.store handle.store, .writing⟩)
    (held : (world.entries handle.store).contains (handle.resolve key) = true) (value : Value) :
    handle.insertDefault key value world = .ok false world := by
  obtain ⟨cell, found⟩ := Option.isSome_iff_exists.mp held
  rw [insertDefault_apply _ _ _ free, Entries.insertDefault, held, if_pos rfl,
    World.setEntries_entries (World.made_of_find? found)]
  rfl

theorem insertDefaultMany_of_contains (free : world.admits ⟨.store handle.store, .writing⟩)
    (held : ∀ item ∈ list, (world.entries handle.store).contains (handle.resolve item.1) = true) :
    handle.insertDefaultMany list world = .ok 0 world := by
  induction list with
  | nil => rfl
  | cons item rest ih =>
      obtain ⟨first, others⟩ := List.forall_mem_cons.mp held
      rw [insertDefaultMany, bind_of_ok (insertDefault_of_contains free first item.2),
        bind_of_ok (ih others)]
      rfl

theorem defaultedBy_of_onlyEntries {count : Nat}
    (free : world.admits ⟨.store handle.store, .writing⟩)
    (changed : OnlyEntries handle.store (handle.afterDefaults (world.entries handle.store) list)
      world left)
    (grown : (world.entries handle.store).size + count = (left.entries handle.store).size) :
    DefaultedBy handle list count world left := by
  have stands (key : String) : (left.entries handle.store).find? key =
      ((world.entries handle.store).find? key).or
        ((handle.naming list key).head?.map fun item => some item.2) := by
    rw [changed.entries_eq, find?_afterDefaults]
  have stillFree : left.admits ⟨.store handle.store, .writing⟩ :=
    (World.admits_congr changed.active _).trans free
  refine ⟨stands, ?changed, ?counted, ?grown, ?again⟩
  case changed => exact changed.entries_eq.symm ▸ changed
  case counted =>
    have kept : ∀ key value, (world.entries handle.store).find? key = some value →
        (left.entries handle.store).find? key = some value := by
      intro key value found
      rw [stands key, found, Option.some_or]
    have added := Entries.size_add_length_added kept
    omega
  case grown =>
    have outside : ∀ key, ¬InSubtree handle.location.key key →
        (left.entries handle.store).find? key = (world.entries handle.store).find? key := by
      intro key beyond
      rw [stands key, naming_of_not_inSubtree beyond, List.head?_nil, Option.map_none, Option.or_none]
    have reached := Entries.length_subtree_add_size outside
    refine ⟨_, size_apply (World.admits_reading free), ?_⟩
    rw [size_apply (World.admits_reading stillFree)]
    congr 1
    rw [reach, reach]
    omega
  case again =>
    refine insertDefaultMany_of_contains stillFree fun item member => ?_
    have given : (handle.resolve item.1, some item.2) ∈
        list.map fun item => (handle.resolve item.1, some item.2) :=
      List.mem_map_of_mem member
    rw [changed.entries_eq, afterDefaults_eq]
    exact Entries.contains_insertDefaults given _

/-! ## New maps -/

theorem create_apply (entries : Entries Cell) (world : World) :
    create entries world = .ok ⟨⟨world.stores.next⟩, .root⟩ (world.pushStore entries) := rfl

section Made

variable (made : (Target.store handle.store).Made world)
  (free : world.admits ⟨.store handle.store, .writing⟩)

include made free

theorem updateMany_of_made (list : List (String × Value)) :
    handle.updateMany list world =
      .ok () (world.setEntries handle.store
        (handle.afterUpdates (world.entries handle.store) list)) := by
  cases list with
  | nil =>
      change EStateM.Result.ok () world =
        .ok () (world.setEntries handle.store (world.entries handle.store))
      rw [World.setEntries_entries made]
  | cons item rest => exact handle.updateMany_cons_apply item rest free

theorem insertDefaultMany_of_made (list : List (String × Value)) :
    ∃ count, handle.insertDefaultMany list world =
      .ok count (world.setEntries handle.store
        (handle.afterDefaults (world.entries handle.store) list)) := by
  cases list with
  | nil =>
      refine ⟨0, ?_⟩
      change EStateM.Result.ok 0 world =
        .ok 0 (world.setEntries handle.store (world.entries handle.store))
      rw [World.setEntries_entries made]
  | cons item rest =>
      obtain ⟨count, ran, -⟩ := handle.insertDefaultMany_cons_apply item rest free
      exact ⟨count, ran⟩

end Made

/-- The last values of a list are the first ones of the reversed list. -/
theorem afterDefaults_reverse (list : List (String × Value)) :
    handle.afterDefaults .empty list.reverse = handle.afterUpdates .empty list := by
  rw [afterDefaults_eq, List.map_reverse, Entries.insertDefaults_reverse]
  rfl

/-- Where all that is claimed has been made, a map can be made of every list, and it is the one that
the reversed list is stored in as defaults. -/
theorem ofEntries_apply (bears : world.Bears world.active) (list : List (String × Value)) :
    ∃ made between count left, create .empty world = .ok made between ∧
      ofEntries list world = .ok made left ∧
        made.insertDefaultMany list.reverse between = .ok count left := by
  let made : Handle := ⟨⟨world.stores.next⟩, .root⟩
  let between := world.pushStore .empty
  have known : (Target.store made.store).Made between := by
    simp [Target.Made, made, between, World.pushStore, Heap.push, Heap.next]
  have free : between.admits ⟨.store made.store, .writing⟩ := World.admits_next bears .writing
  have nothing : between.entries made.store = .empty :=
    (world.entries_pushStore .empty made.store).trans (if_pos rfl)
  have updated := updateMany_of_made known free list
  obtain ⟨count, defaulted⟩ := insertDefaultMany_of_made known free list.reverse
  rw [nothing, afterDefaults_reverse] at defaulted
  rw [nothing] at updated
  refine ⟨made, between, count, _, create_apply .empty world, ?_, defaulted⟩
  rw [ofEntries, bind_of_ok (create_apply .empty world), bind_of_ok updated]
  rfl

/-- Values that are stored under several spellings of a canonical key have a fixed precedence. Of
updates the last one stands, of defaults the first one, where nothing was before; the count that is
told of defaults is the number of keys that are new, and of the entries that the handle reaches more.
At each moment of a run a map can be made of every list: the one in which the reversed list is stored
as defaults. -/
theorem duplicates_by_precedence (handle : Handle) (list : List (String × Value)) :
    (∀ world : World, world.admits ⟨.store handle.store, .writing⟩ →
      (∃ left, handle.updateMany list world = .ok () left ∧ UpdatedBy handle list world left) ∧
      ∃ count left, handle.insertDefaultMany list world = .ok count left ∧
        DefaultedBy handle list count world left) ∧
    ∀ steps remaining frames now, Step.Passes steps default frames remaining now →
      ∃ made between count left, create .empty now.world = .ok made between ∧
        ofEntries list now.world = .ok made left ∧
        made.insertDefaultMany list.reverse between = .ok count left ∧
        ∀ entries, ValueSpec.buildEntries entries now = .ok list now →
          (MapAction.ofEntries entries).run now =
            .ok (.handle made) { now with world := left } := by
  refine ⟨fun world free => ⟨?updates, ?defaults⟩, fun _ _ _ now passes => ?maps⟩
  case updates =>
    obtain ⟨left, ran, changed⟩ := updateMany_apply list free
    refine ⟨left, ran, fun key => ?_, changed.entries_eq.symm ▸ changed⟩
    rw [changed.entries_eq, find?_afterUpdates]
  case defaults =>
    obtain ⟨count, left, ran, changed, grown⟩ := insertDefaultMany_apply list free
    exact ⟨count, left, ran, defaultedBy_of_onlyEntries free changed grown⟩
  case maps =>
    have bears := passes.bears_active Session.complete_default World.bears_nil
    obtain ⟨made, between, count, left, created, ran, defaulted⟩ := ofEntries_apply bears list
    refine ⟨made, between, count, left, created, ran, defaulted, fun entries built => ?_⟩
    have lifted : Task.ofOp (ofEntries list) now = .ok made { now with world := left } := by
      rw [Task.ofOp, ran]
    rw [run_ofEntries, bind_of_ok built]
    exact bind_of_ok lifted

/-- Values under three spellings of one key, and one under another key in between. -/
def spelled : List (String × Value) :=
  [("leaf", .scalar (.bool true)), ("/leaf/", .scalar (.bool false)), ("twig", .scalar (.bool true)),
    ("twig/../leaf", .scalar (.bool false))]

/-- The list is stored in a submap of a new world: the last value of the leaf stands after updates, the
first one after defaults. -/
theorem duplicates_by_precedence_spelled :
    (default : World).admits ⟨.store (submap ⟨⟨0⟩, .root⟩ "tree").store, .writing⟩ ∧
      (∃ left, (submap ⟨⟨0⟩, .root⟩ "tree").updateMany spelled default = .ok () left ∧
        (left.entries ⟨0⟩).find? "/tree/leaf" = some (some (.scalar (.bool false)))) ∧
      (∃ count left, (submap ⟨⟨0⟩, .root⟩ "tree").insertDefaultMany spelled default =
          .ok count left ∧
        (left.entries ⟨0⟩).find? "/tree/leaf" = some (some (.scalar (.bool true))) ∧
        (submap ⟨⟨0⟩, .root⟩ "tree").insertDefaultMany spelled left = .ok 0 left) ∧
      Step.Passes [] default [] [] default ∧
      ∃ made between count left, create .empty default = .ok made between ∧
        ofEntries spelled default = .ok made left ∧
        made.insertDefaultMany spelled.reverse between = .ok count left := by
  have free : (default : World).admits ⟨.store (submap ⟨⟨0⟩, .root⟩ "tree").store, .writing⟩ :=
    rfl
  have leaves : naming (submap ⟨⟨0⟩, .root⟩ "tree") spelled "/tree/leaf" =
      [("leaf", .scalar (.bool true)), ("/leaf/", .scalar (.bool false)),
        ("twig/../leaf", .scalar (.bool false))] := by decide +kernel
  obtain ⟨stored, maps⟩ := duplicates_by_precedence (submap ⟨⟨0⟩, .root⟩ "tree") spelled
  obtain ⟨⟨updated, ran, updates⟩, count, defaulted, told, defaults⟩ := stored default free
  obtain ⟨made, between, number, left, created, listed, reversed, -⟩ :=
    maps [] [] [] default (.here [] default)
  have last := updates.stands "/tree/leaf"
  have first := defaults.stands "/tree/leaf"
  rw [leaves] at last first
  exact ⟨free, ⟨updated, ran, last⟩, ⟨count, defaulted, told, first, defaults.again⟩,
    .here [] default, made, between, number, left, created, listed, reversed⟩

end Handle

end PathStore
