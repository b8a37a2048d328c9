import PathStore.Proofs.Entries.Planting
import PathStore.Proofs.Session.Listings
import PathStore.Proofs.Session.Origins

/-!
# Grafting and pruning

What a handle reaches is listed under relative keys, and grafting resolves those behind a written key.
For canonical keys the two cancel, so grafting plants the rerooted subtree at the key that the written
one resolves to. A submap that was empty then holds just what was grafted, under the same keys, and
removing it leads back; what is grafted where it came from changes nothing.
-/

namespace PathStore

open PathStore.Path

/-- Whatever exists in a reachable session names what exists. -/
theorem Session.complete_after (steps : List Step) : (after steps).Complete :=
  (Step.Passes.atEnd steps default).complete complete_default

/-- A canonical world stays one when canonical entries are put into a store. -/
theorem World.Canonical.setEntries {world : World} (canonical : world.Canonical) (id : StoreId)
    {entries : Entries Cell} (proper : entries.Canonical) :
    (world.setEntries id entries).Canonical := by
  intro other
  rw [World.entries_setEntries]
  split
  · exact proper
  · exact canonical other

/-- The world with one more store. -/
def World.pushStore (world : World) (entries : Entries Cell) : World :=
  { world with stores := world.stores.push entries }

/-- A new store gets its entries and leaves the other stores alone. -/
theorem World.entries_pushStore (world : World) (entries : Entries Cell) (id : StoreId) :
    (world.pushStore entries).entries id =
      if id.number = world.stores.next then entries else world.entries id :=
  Heap.read_push world.stores entries id.number

theorem World.Canonical.pushStore {world : World} (canonical : world.Canonical)
    {entries : Entries Cell} (proper : entries.Canonical) :
    (world.pushStore entries).Canonical := by
  intro id
  rw [entries_pushStore]
  split
  · exact proper
  · exact canonical id

namespace Handle

variable {handle source : Handle} {world : World}

@[simp] theorem key_submap (handle : Handle) (path : String) :
    (handle.submap path).location.key = handle.resolve path :=
  Location.key_ofKey _

@[simp] theorem store_submap (handle : Handle) (path : String) :
    (handle.submap path).store = handle.store := rfl

/-! ## What a handle reaches -/

/-- What a handle reaches are the entries of the rerooted subtree, behind its location. -/
theorem reach_eq_map {entries : Entries Cell} (canonical : entries.Canonical) :
    handle.reach entries =
      (entries.rerooted handle.location.key).toList.map fun entry =>
        (handle.location.key ++ entry.1, entry.2) := by
  have whole := entries.subtree_append handle.location.key isRooted_empty canonical.rooted
  rwa [String.append_empty, Entries.subtree_empty] at whole

/-- Seen from its location, a handle reaches the entries of the rerooted subtree. -/
theorem relativeEntries_eq_map {entries : Entries Cell} (canonical : entries.Canonical) :
    handle.relativeEntries entries =
      (entries.rerooted handle.location.key).toList.map fun entry => (shown entry.1, entry.2) := by
  rw [relativeEntries, reach_eq_map canonical, List.map_map]
  refine List.map_congr_left fun entry member => ?_
  have rooted := ((entries.mem_rerooted_iff _ entry).mp member).2
  simp only [Function.comp_apply, handle.location.relative_append rooted]

theorem size_apply (free : world.admits ⟨.store handle.store, .reading⟩) :
    handle.size world = .ok (handle.reach (world.entries handle.store)).length world := by
  rw [size, StoreId.reading_pure, if_pos free]

theorem size_eq (canonical : world.Canonical)
    (free : world.admits ⟨.store handle.store, .reading⟩) :
    handle.size world =
      .ok ((world.entries handle.store).rerooted handle.location.key).toList.length world := by
  rw [size_apply free, reach_eq_map (canonical handle.store), List.length_map]

theorem keys_eq (canonical : world.Canonical)
    (free : world.admits ⟨.store handle.store, .reading⟩) :
    handle.keys world =
      .ok (((world.entries handle.store).rerooted handle.location.key).toList.map fun entry =>
        shown entry.1) world := by
  have listed := handle.relativeEntries_eq_map (canonical handle.store)
  have keys := congrArg (List.map (·.1)) listed
  simp only [relativeEntries, List.map_map, Function.comp_def] at keys
  rw [Handle.keys, StoreId.reading_pure, if_pos free, keys]

/-- A handle that is empty has nothing in its subtree. -/
theorem vacant_of_isEmpty (free : world.admits ⟨.store handle.store, .reading⟩)
    (empty : handle.isEmpty world = .ok true world) :
    (world.entries handle.store).Vacant handle.location.key := by
  rw [isEmpty, StoreId.reading_pure, if_pos free] at empty
  have none : handle.reach (world.entries handle.store) = [] := by simpa using empty
  intro key inside
  refine Option.eq_none_iff_forall_ne_some.mpr fun value found => ?_
  have member := (handle.mem_reach_iff _ (key, value)).mpr ⟨found, inside⟩
  rw [none] at member
  exact List.not_mem_nil member

/-! ## Grafting -/

/-- The key that is shown of an entry, put behind a written one, names a place behind the key that the
written one resolves to. -/
theorem resolve_append_relative (handle source : Handle) (key : String) {rest : String}
    (proper : IsCanonical rest) :
    handle.resolve (key ++ source.location.relative (source.location.key ++ rest)) =
      handle.resolve key ++ rest := by
  rw [source.location.relative_append proper.isRooted]
  exact Location.resolve_append_shown _ _ proper

/-- Grafting plants the rerooted subtree of the other handle at the key that is written. -/
theorem graft_apply (canonical : world.Canonical)
    (readable : world.admits ⟨.store source.store, .reading⟩)
    (writable : world.admits ⟨.store handle.store, .writing⟩) (key : String) :
    handle.graft key source world =
      .ok () (world.setEntries handle.store
        ((world.entries handle.store).planted (handle.resolve key)
          ((world.entries source.store).rerooted source.location.key))) := by
  have resolved : ((source.relativeEntries (world.entries source.store)).map fun entry =>
      (handle.resolve (key ++ entry.1), entry.2)) =
      ((world.entries source.store).rerooted source.location.key).toList.map fun entry =>
        (handle.resolve key ++ entry.1, entry.2) := by
    rw [relativeEntries_eq_map (canonical source.store), List.map_map]
    refine List.map_congr_left fun entry member => ?_
    have held := ((canonical source.store).rerooted source.location.key) entry.1 entry.2
      ((Entries.find?_eq_some_iff _ _ _).mpr member)
    simp only [Function.comp_apply, resolve, Location.resolve_append_shown _ _ held]
  have read := source.store.reading_pure .busy source.relativeEntries world
  rw [if_pos readable] at read
  unfold graft
  rw [bind_of_ok read, StoreId.writing_pure, if_pos writable, resolved]
  rfl

/-- A graft that succeeds was allowed to read the one store and then to write the other. -/
theorem admitted_of_graft {key : String} {left : World}
    (grafted : handle.graft key source world = .ok () left) :
    world.admits ⟨.store source.store, .reading⟩ ∧
      world.admits ⟨.store handle.store, .writing⟩ := by
  obtain ⟨incoming, between, read, written⟩ := exists_of_bind_ok grafted
  rw [StoreId.reading_pure] at read
  split at read
  · rename_i readable
    cases read
    rw [StoreId.writing_pure] at written
    split at written
    · rename_i writable
      exact ⟨readable, writable⟩
    · cases written
  · cases read

/-- What a handle does to its store changes no other, nor anything else. -/
structure OnlyEntries (id : StoreId) (entries : Entries Cell) (world left : World) : Prop where
  entries_eq : left.entries id = entries
  apart : ∀ other, other ≠ id → left.entries other = world.entries other
  buffers : left.buffers = world.buffers
  hosts : left.hosts = world.hosts
  active : left.active = world.active

theorem onlyEntries_setEntries (id : StoreId) (entries : Entries Cell) (world : World) :
    OnlyEntries id entries world (world.setEntries id entries) where
  entries_eq := by rw [World.entries_setEntries, if_pos rfl]
  apart other distinct := by rw [World.entries_setEntries, if_neg distinct]
  buffers := rfl
  hosts := rfl
  active := rfl

theorem OnlyEntries.refl (id : StoreId) (world : World) :
    OnlyEntries id (world.entries id) world world :=
  ⟨rfl, fun _ _ => rfl, rfl, rfl, rfl⟩

theorem OnlyEntries.trans {id : StoreId} {middle last : Entries Cell} {world between left : World}
    (first : OnlyEntries id middle world between) (second : OnlyEntries id last between left) :
    OnlyEntries id last world left where
  entries_eq := second.entries_eq
  apart other distinct := (second.apart other distinct).trans (first.apart other distinct)
  buffers := second.buffers.trans first.buffers
  hosts := second.hosts.trans first.hosts
  active := second.active.trans first.active

/-- What holds once a root has been grafted to a submap that was empty. -/
structure Grafted (handle source : Handle) (key : String) (world grafted : World) : Prop where
  /-- Nothing but the store of the handle has changed. -/
  changed : OnlyEntries handle.store (grafted.entries handle.store) world grafted
  /-- A copy of the submap holds what the root holds. -/
  copied : ∃ copy left, (handle.submap key).copy .locked grafted = .ok copy left ∧
    copy.location = .root ∧ left.entries copy.store = world.entries source.store
  /-- Both list the same keys. -/
  listed : ∃ keys, (handle.submap key).keys grafted = .ok keys grafted ∧
    source.keys grafted = .ok keys grafted
  /-- Removing the submap removes as many entries as the root has, and leads back. -/
  removed : ∃ size left, source.size grafted = .ok size grafted ∧
    handle.eraseRecursive key grafted = .ok size left ∧
      OnlyEntries handle.store (world.entries handle.store) world left

/-- What grafting a submap, or a copy of it, to where it is comes to: nothing. -/
structure Regrafted (handle : Handle) (key : String) (world : World) : Prop where
  itself : ∃ left, handle.graft key (handle.submap key) world = .ok () left ∧
    OnlyEntries handle.store (world.entries handle.store) world left
  copied : ∃ copy made left, (handle.submap key).copy .locked world = .ok copy made ∧
    handle.graft key copy made = .ok () left ∧
      OnlyEntries handle.store (world.entries handle.store) made left

section Unclaimed

variable (canonical : world.Canonical) (unclaimed : world.active = [])

include unclaimed in
theorem admits_of_unclaimed (claim : Claim) : world.admits claim = true := by
  rw [World.admits, unclaimed]
  rfl

include canonical unclaimed

/-- Removing a submap tells how many entries it had and prunes them. -/
theorem eraseRecursive_eq (key : String) :
    handle.eraseRecursive key world =
      .ok ((world.entries handle.store).rerooted (handle.resolve key)).toList.length
        (world.setEntries handle.store
          ((world.entries handle.store).prune (handle.resolve key))) := by
  have counted := congrArg List.length
    ((handle.submap key).reach_eq_map (canonical handle.store))
  rw [reach, key_submap, List.length_map] at counted
  rw [eraseRecursive, eraseSubtree, StoreId.writing_pure, if_pos (admits_of_unclaimed unclaimed _),
    counted]

/-- A root that is grafted to an empty submap is all that is there, until it is removed again. -/
theorem exists_grafted (located : handle.location.Canonical) (top : source.location = .root)
    (apart : source.store ≠ handle.store) (key : String)
    (empty : (handle.submap key).isEmpty world = .ok true world) :
    ∃ grafted, handle.graft key source world = .ok () grafted ∧
      Grafted handle source key world grafted := by
  have vacant : (world.entries handle.store).Vacant (handle.resolve key) := by
    rw [← key_submap]
    exact (handle.submap key).vacant_of_isEmpty (admits_of_unclaimed unclaimed _) empty
  have whole : (world.entries source.store).rerooted source.location.key =
      world.entries source.store := by
    rw [top]
    exact Entries.rerooted_empty (canonical source.store).rooted
  have applied : handle.graft key source world = .ok () (world.setEntries handle.store _) :=
    graft_apply canonical (admits_of_unclaimed unclaimed _) (admits_of_unclaimed unclaimed _) key
  rw [whole] at applied
  refine ⟨_, applied, ?_⟩
  have proper := canonical.setEntries handle.store ((canonical handle.store).planted
    (canonical source.store) (Location.isCanonical_resolve located.key key))
  have changed := onlyEntries_setEntries handle.store ((world.entries handle.store).planted
    (handle.resolve key) (world.entries source.store)) world
  rw [← resolve] at proper
  generalize world.setEntries handle.store _ = grafted at proper changed ⊢
  have kept : grafted.entries source.store = world.entries source.store :=
    changed.apart source.store apart
  have quiet : grafted.active = [] := changed.active.trans unclaimed
  have shows : (grafted.entries handle.store).rerooted (handle.resolve key) =
      world.entries source.store := by
    rw [changed.entries_eq, Entries.rerooted_planted vacant (canonical source.store).rooted]
  have all : (grafted.entries source.store).rerooted source.location.key =
      world.entries source.store := by rw [kept, whole]
  refine ⟨?changed, ?copied, ?listed, ?removed⟩
  case changed =>
    rw [changed.entries_eq]
    exact changed
  case copied =>
    have copied := (handle.submap key).copy_apply .locked proper (admits_of_unclaimed quiet _)
    rw [key_submap, store_submap, shows] at copied
    refine ⟨_, _, copied, rfl, ?_⟩
    exact (World.entries_pushStore grafted _ _).trans (if_pos rfl)
  case listed =>
    have left := (handle.submap key).keys_eq proper (admits_of_unclaimed quiet _)
    have right := source.keys_eq proper (admits_of_unclaimed quiet _)
    rw [key_submap, store_submap, shows] at left
    rw [all] at right
    exact ⟨_, left, right⟩
  case removed =>
    have counted := source.size_eq proper (admits_of_unclaimed quiet _)
    have erased := handle.eraseRecursive_eq proper quiet key
    rw [all] at counted
    rw [shows, changed.entries_eq,
      Entries.prune_planted vacant (canonical source.store).rooted] at erased
    exact ⟨_, _, counted, erased, changed.trans (onlyEntries_setEntries _ _ _)⟩

/-- What is grafted where it came from changes nothing, be it the submap itself or a copy of it. -/
theorem regrafted (made : handle.store.number < world.stores.next) (key : String) :
    Regrafted handle key world := by
  refine ⟨?itself, ?copied⟩
  case itself =>
    have applied : handle.graft key (handle.submap key) world =
        .ok () (world.setEntries handle.store _) :=
      graft_apply canonical (admits_of_unclaimed unclaimed _) (admits_of_unclaimed unclaimed _) key
    rw [store_submap, key_submap, Entries.planted_rerooted] at applied
    exact ⟨_, applied, onlyEntries_setEntries _ _ _⟩
  case copied =>
    have copied := (handle.submap key).copy_apply .locked canonical
      (admits_of_unclaimed unclaimed _)
    rw [store_submap, key_submap] at copied
    have moved := (canonical handle.store).rerooted (handle.resolve key)
    have proper := canonical.pushStore moved
    have fresh := world.entries_pushStore
      ((world.entries handle.store).rerooted (handle.resolve key)) ⟨world.stores.next⟩
    have kept := world.entries_pushStore
      ((world.entries handle.store).rerooted (handle.resolve key)) handle.store
    rw [if_pos rfl] at fresh
    rw [if_neg (Nat.ne_of_lt made)] at kept
    have applied : handle.graft key ⟨⟨world.stores.next⟩, .root⟩ (world.pushStore _) =
        .ok () ((world.pushStore _).setEntries handle.store _) :=
      graft_apply proper (admits_of_unclaimed unclaimed _) (admits_of_unclaimed unclaimed _) key
    -- The copy is a root, so it is grafted whole.
    rw [kept, fresh, Location.key, Entries.rerooted_empty moved.rooted,
      Entries.planted_rerooted] at applied
    exact ⟨_, _, _, copied, applied, onlyEntries_setEntries _ _ _⟩

end Unclaimed

/-- Grafting and pruning undo each other in every reachable session between its steps. What a root holds
can be grafted to an empty submap of a handle on another store; then the submap holds and lists just
that, and removing it gives back the number of its entries and the store as it was. And what is at a
submap, or a copy of it, can be grafted there without any change. -/
theorem graft_inverse (steps : List Step) (name : String) (handle : Handle)
    (named : (Session.after steps).bindings.lookup name = some (.handle handle)) (key : String) :
    (∀ source : Handle, source.location = .root → source.store ≠ handle.store →
      (handle.submap key).isEmpty (Session.after steps).world =
          .ok true (Session.after steps).world →
        ∃ grafted, handle.graft key source (Session.after steps).world = .ok () grafted ∧
          Grafted handle source key (Session.after steps).world grafted) ∧
      Regrafted handle key (Session.after steps).world := by
  have reached := Session.canonical_after steps
  have unclaimed := Session.active_after steps
  have located : handle.location.Canonical := reached.bindings.lookup named
  have known := (Session.complete_after steps).bindings.subset (Object.targets_subset named)
  have made : handle.store.number < (Session.after steps).world.stores.next :=
    known (.store handle.store) List.mem_cons_self
  constructor
  · intro source top apart empty
    exact exists_grafted reached.world unclaimed located top apart key empty
  · exact regrafted reached.world unclaimed made key

/-- A tree, and a twig in a store of its own with an entry at its top and one below. -/
def treeAndTwig : List Step :=
  plantedTree ++
    [.act (.map .create) (some "twig"),
      .act (.map (.update "twig" "" (.scalar (.bool true)))) none,
      .act (.map (.update "twig" "leaf" (.scalar (.bool false)))) none]

/-- The twig is grafted next to entries whose keys begin with the same text, under a key that is written
with a detour. -/
theorem graft_inverse_twig :
    (Session.after treeAndTwig).bindings.lookup "all" = some (.handle ⟨⟨0⟩, .root⟩) ∧
      (submap ⟨⟨0⟩, .root⟩ "tree/../treeho/").isEmpty (Session.after treeAndTwig).world =
        .ok true (Session.after treeAndTwig).world ∧
      (∃ grafted, graft ⟨⟨0⟩, .root⟩ "tree/../treeho/" ⟨⟨1⟩, .root⟩
          (Session.after treeAndTwig).world = .ok () grafted ∧
        Grafted ⟨⟨0⟩, .root⟩ ⟨⟨1⟩, .root⟩ "tree/../treeho/" (Session.after treeAndTwig).world
          grafted) ∧
      Regrafted ⟨⟨0⟩, .root⟩ "tree/../treeho/" (Session.after treeAndTwig).world := by
  have named : (Session.after treeAndTwig).bindings.lookup "all" =
      some (.handle ⟨⟨0⟩, .root⟩) := rfl
  have nothing : (reach (submap ⟨⟨0⟩, .root⟩ "tree/../treeho/")
      ((Session.after treeAndTwig).world.entries ⟨0⟩)).isEmpty = true := by decide +kernel
  have empty : (submap ⟨⟨0⟩, .root⟩ "tree/../treeho/").isEmpty (Session.after treeAndTwig).world =
      .ok true (Session.after treeAndTwig).world := by
    rw [isEmpty, StoreId.reading_pure, if_pos (admits_of_unclaimed (Session.active_after _) _),
      store_submap, nothing]
  obtain ⟨grafts, regrafts⟩ := graft_inverse treeAndTwig "all" _ named "tree/../treeho/"
  exact ⟨named, empty, grafts ⟨⟨1⟩, .root⟩ rfl (by decide) empty, regrafts⟩

end Handle

end PathStore
