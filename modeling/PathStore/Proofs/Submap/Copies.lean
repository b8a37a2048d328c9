import PathStore.Proofs.Session.Reachable
import PathStore.Proofs.Submap.Requests

/-!
# A submap and its copy

The copy of a handle holds the rerooted subtree of its location. From there on the handle and the
copy reply alike to all requests through relative keys, the copy keeps holding the rerooted subtree,
and what lies outside of the subtree stays as it was.
-/

namespace PathStore

open Op PathStore.Path

theorem Entries.Canonical.rooted {α : Type} {entries : Entries α} (canonical : entries.Canonical) :
    entries.Rooted :=
  fun key value found => (canonical key value found).isRooted

namespace Handle

variable {handle : Handle}

/-- What a handle reaches, under keys as they are resolved again, is the rerooted subtree. -/
theorem map_relativeEntries {entries : Entries Cell} (canonical : entries.Canonical) :
    ((handle.relativeEntries entries).map fun entry =>
        (Location.root.resolve entry.1, entry.2)) =
      (entries.rerooted handle.location.key).toList := by
  have whole := entries.subtree_append handle.location.key isRooted_empty canonical.rooted
  rw [String.append_empty, Entries.subtree_empty] at whole
  unfold relativeEntries reach
  rw [whole, List.map_map, List.map_map]
  apply (List.map_congr_left _).trans (List.map_id _)
  intro entry member
  obtain ⟨stored, restRooted⟩ := (entries.mem_rerooted_iff _ entry).mp member
  have held := canonical _ _ ((entries.find?_eq_some_iff _ _).mpr stored)
  simp only [Function.comp_apply,
    handle.location.resolve_relative_append (held.of_append restRooted), id_eq]

/-- A copy holds the rerooted subtree. -/
theorem copied_eq_rerooted {entries : Entries Cell} (canonical : entries.Canonical) :
    handle.copied entries = entries.rerooted handle.location.key := by
  unfold copied
  split
  · rename_i top
    rw [top]
    exact (Entries.rerooted_empty canonical.rooted).symm
  · rw [map_relativeEntries canonical, Entries.insertAll_toList]

/-- A copy is made in a store of its own and of nothing but the entries of the subtree. -/
theorem copy_apply (refusal : Failure) {world : World} (canonical : world.Canonical)
    (free : world.admits ⟨.store handle.store, .writing⟩ = true) :
    handle.copy refusal world =
      .ok ⟨⟨world.stores.next⟩, .root⟩
        { world with
          stores := world.stores.push
            ((world.entries handle.store).rerooted handle.location.key) } := by
  have copied := handle.store.reading_pure refusal handle.copied world
  rw [if_pos (World.admits_reading free), copied_eq_rerooted (canonical handle.store)] at copied
  unfold copy
  rw [bind_of_ok copied]
  rfl

end Handle

/-- Where nothing is claimed, a handle and its copy are in step from the beginning. -/
theorem Mirrored.of_copy (handle : Handle) {world : World} (canonical : world.Canonical)
    (unclaimed : world.active = []) :
    Mirrored handle ⟨world.stores.next⟩ (world.entries handle.store) world
      { world with
        stores := world.stores.push
          ((world.entries handle.store).rerooted handle.location.key) } where
  entries := by
    change _ = (world.stores.push _).read world.stores.next
    rw [Heap.read_push, if_pos rfl]
  confined := .refl _ (canonical handle.store).rooted
  surroundings := rfl
  firstFree := by rw [World.admits, unclaimed]; rfl
  secondFree := by rw [World.admits, unclaimed]; rfl

/-- The first holdings of a caller with the copy are at the same place as those with the handle. -/
theorem Holdings.initial_relocated {handle : Handle} (proper : handle.location ≠ .within "")
    (store : StoreId) :
    initial handle = (initial ⟨store, .root⟩).relocated handle := by
  have same : (⟨store, .root⟩ : Handle).relocated handle = handle := by
    rw [Handle.relocated, Location.relocated, Location.key, String.append_empty,
      Location.ofKey_key proper]
  rw [initial, initial, relocated, List.map_singleton, same]
  rfl

/-- A copy is a root. -/
theorem Holdings.seated_initial (store : StoreId) : (initial ⟨store, .root⟩).Seated store where
  maps := List.forall_mem_singleton.mpr ⟨rfl, isRooted_empty⟩
  cursors := List.forall_mem_nil _
  entries := List.forall_mem_nil _

namespace Handle

/-- What requests come to through a handle and through its copy. -/
structure Matches {α : Type} (handle copy : Handle) (world copied : World)
    (requests : List (Request α)) : Prop where
  /-- The replies are the same, but for full keys in failures. -/
  replies : (Request.performAll requests (.initial handle) world).1.map Reply.redacted =
    (Request.performAll requests (.initial copy) copied).1.map Reply.redacted
  /-- The store of the copy holds what the handle reaches, under the keys without the location. -/
  rerooted : ((Request.performAll requests (.initial handle) world).2.2.entries
      handle.store).rerooted handle.location.key =
    (Request.performAll requests (.initial copy) copied).2.2.entries copy.store
  /-- Outside of the subtree the store of the handle is as it was at the start. -/
  outside : ∀ key, ¬InSubtree handle.location.key key →
    ((Request.performAll requests (.initial handle) world).2.2.entries handle.store).find? key =
      (world.entries handle.store).find? key

/-- Whatever handle a variable names after some steps, it can be copied, and from then on no
sequence of requests tells the two apart, nor reaches beyond the subtree. As every beginning of a
sequence of requests is one itself, this holds after each of its requests. -/
theorem copy_indistinguishable {α : Type} (steps : List Step) (name : String) (handle : Handle)
    (named : (Session.after steps).bindings.lookup name = some (.handle handle)) :
    ∃ copy copied, handle.copy .locked (Session.after steps).world = .ok copy copied ∧
      ∀ requests : List (Request α),
        handle.Matches copy (Session.after steps).world copied requests := by
  have reached := Session.canonical_after steps
  have located : handle.location.Canonical := reached.bindings.lookup named
  have mirrored := Mirrored.of_copy handle reached.world (Session.active_after steps)
  refine ⟨_, _, handle.copy_apply .locked reached.world mirrored.firstFree, ?_⟩
  intro requests
  have begun : Request.InStep handle ⟨(Session.after steps).world.stores.next⟩ _
      (.initial handle, (Session.after steps).world) (.initial _, _) :=
    ⟨Holdings.initial_relocated located.proper _, Holdings.seated_initial _, mirrored⟩
  obtain ⟨replies, inStep⟩ := Request.performAll_agree located.key.isRooted requests begun
  exact ⟨replies, inStep.worlds.entries, inStep.worlds.confined.outside⟩

/-- A store with a submap that holds `/tree` and `/tree/leaf`, but not `/treehouse`. -/
def plantedTree : List Step :=
  [.act (.map .create) (some "all"),
    .act (.map (.update "all" "tree" (.scalar (.bool true)))) none,
    .act (.map (.update "all" "tree/leaf" (.scalar (.bool true)))) none,
    .act (.map (.update "all" "treehouse" (.scalar (.bool false)))) none,
    .act (.map (.submap "all" "tree")) (some "tree")]

/-- The submap and its copy, which hold the submap's own entry and one below it. -/
theorem copy_indistinguishable_tree :
    (Session.after plantedTree).bindings.lookup "tree" =
        some (.handle ⟨⟨0⟩, Location.root.join "tree"⟩) ∧
      ∃ copy copied,
        Handle.copy ⟨⟨0⟩, Location.root.join "tree"⟩ .locked (Session.after plantedTree).world =
          .ok copy copied ∧
        ∀ requests : List (Request Unit),
          Matches ⟨⟨0⟩, Location.root.join "tree"⟩ copy (Session.after plantedTree).world copied
            requests :=
  ⟨rfl, copy_indistinguishable plantedTree "tree" _ rfl⟩

end Handle

end PathStore
