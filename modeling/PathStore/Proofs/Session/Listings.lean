import PathStore.Proofs.Cursor.Enumeration
import PathStore.Proofs.Session.Moments
import PathStore.Proofs.Submap.Copies

/-!
# Listed keys lead back to their entries

At every moment of a run from a new session all stores and handles are canonical. A canonical key of a
subtree is what its relative key resolves to again, so whatever a handle or one of its cursors lists
can be looked up, read and removed under the key under which it is listed.
-/

namespace PathStore

open PathStore.Path

/-! ## Canonical moments -/

/-- A session with fewer variables and further claims is as canonical. -/
theorem Session.Canonical.under {session inner : Session} (canonical : session.Canonical)
    {claims : List Claim} (world : inner.world = session.world.under claims)
    (bindings : inner.bindings ⊆ session.bindings) : inner.Canonical where
  world := by
    rw [world]
    exact canonical.world
  bindings entry member := canonical.bindings entry (bindings member)

theorem Step.Passes.canonical {steps remaining : List Step} {session now : Session}
    {frames : List Frame} (passes : Step.Passes steps session frames remaining now)
    (canonical : session.Canonical) : now.Canonical := by
  induction passes with
  | here => exact canonical
  | @later step rest remaining session now frames passes ih =>
      exact ih (step.follows_run canonical).canonical
  | inside lends passes ih =>
      obtain ⟨-, world, bindings⟩ := lends.opening
      exact ih (canonical.under world bindings)

/-! ## Looking up what is listed -/

namespace Handle

/-- Whatever looks up a written key through the handle comes to a certain entry of the store. -/
structure LeadsTo (handle : Handle) (world : World) (written : String) (entry : String × Cell) :
    Prop where
  stored : (world.entries handle.store).find? entry.1 = some entry.2
  resolved : handle.resolve written = entry.1
  shown : handle.path written = Path.shown entry.1
  found : world.admits ⟨.store handle.store, .reading⟩ →
    handle.isStored written world = .ok true world
  read : world.admits ⟨.store handle.store, .reading⟩ → ∀ type,
    handle.get written type world = settled (Cell.expect entry.2 type) world
  erased : world.admits ⟨.store handle.store, .writing⟩ →
    handle.erase written world =
      .ok 1 (world.setEntries handle.store ((world.entries handle.store).erase entry.1))

variable {handle : Handle} {world : World}

theorem LeadsTo.of_resolve {written : String} {entry : String × Cell}
    (stored : (world.entries handle.store).find? entry.1 = some entry.2)
    (resolved : handle.resolve written = entry.1) : handle.LeadsTo world written entry where
  stored := stored
  resolved := resolved
  shown := by rw [path, resolved]
  found admits := by
    rw [isStored, StoreId.reading_pure, if_pos admits, resolved, Entries.contains, stored]
    rfl
  read admits type := by
    have valued : handle.valueAt (world.entries handle.store) written type =
        Cell.expect entry.2 type := by
      simp only [valueAt, cell, resolved, stored]
      rfl
    rw [get, withValue_eq, StoreId.reading_apply, if_pos admits, valued]
    cases Cell.expect entry.2 type <;> rfl
  erased admits := by
    rw [erase, eraseKey, StoreId.writing_pure, if_pos admits, resolved, Entries.contains, stored]
    rfl

theorem leadsTo_relative (canonical : (world.entries handle.store).Canonical)
    {entry : String × Cell}
    (stored : (world.entries handle.store).find? entry.1 = some entry.2)
    (inside : InSubtree handle.location.key entry.1) :
    handle.LeadsTo world (handle.location.relative entry.1) entry :=
  .of_resolve stored (Location.resolve_relative inside (canonical _ _ stored))

theorem mem_reach_iff (entries : Entries Cell) (entry : String × Cell) :
    entry ∈ handle.reach entries ↔
      entries.find? entry.1 = some entry.2 ∧ InSubtree handle.location.key entry.1 := by
  rw [reach, Entries.subtree_eq_between, Entries.mem_between_iff, Entries.find?_eq_some_iff]
  simp [Between]

theorem reach_keys_nodup (entries : Entries Cell) :
    ((handle.reach entries).map (·.1)).Nodup := by
  rw [← pending_cursor]
  exact (handle.cursor.pending_sorted entries).imp fun before => ne_of_lt before

/-- What a handle lists leads back, and different keys in it lead to different entries. -/
structure Lists (handle : Handle) (world : World) (listed : List String) : Prop where
  /-- The listed keys resolve to the keys of the subtree. -/
  resolved : listed.map handle.resolve =
    (handle.reach (world.entries handle.store)).map (·.1)
  leads : ∀ written ∈ listed, ∃ cell,
    handle.LeadsTo world written (handle.resolve written, cell)
  apart : ∀ written ∈ listed, ∀ other ∈ listed, written ≠ other →
    handle.resolve written ≠ handle.resolve other
  nodup : listed.Nodup

theorem lists_relative (canonical : (world.entries handle.store).Canonical) :
    handle.Lists world
      ((handle.reach (world.entries handle.store)).map fun entry =>
        handle.location.relative entry.1) := by
  have back : ∀ entry ∈ handle.reach (world.entries handle.store),
      handle.LeadsTo world (handle.location.relative entry.1) entry := fun entry member =>
    have ⟨stored, inside⟩ := (mem_reach_iff _ entry).mp member
    leadsTo_relative canonical stored inside
  have resolved : ((handle.reach (world.entries handle.store)).map fun entry =>
      handle.location.relative entry.1).map handle.resolve =
      (handle.reach (world.entries handle.store)).map (·.1) := by
    rw [List.map_map]
    exact List.map_congr_left fun entry member => (back entry member).resolved
  refine ⟨resolved, ?_, ?_, ?_⟩
  · intro written member
    obtain ⟨entry, listed, rfl⟩ := List.mem_map.mp member
    refine ⟨entry.2, ?_⟩
    rw [(back entry listed).resolved]
    exact back entry listed
  · intro written member other otherMember apart same
    obtain ⟨entry, listed, rfl⟩ := List.mem_map.mp member
    obtain ⟨another, also, rfl⟩ := List.mem_map.mp otherMember
    rw [(back entry listed).resolved, (back another also).resolved] at same
    exact apart (congrArg handle.location.relative same)
  · apply List.Nodup.of_map handle.resolve
    rw [resolved]
    exact handle.reach_keys_nodup _

end Handle

/-! ## Cursors over what a handle reaches -/

/-- The cursor walks through all that the handle reaches, wherever it has come to. -/
structure Cursor.Walks (cursor : Cursor) (handle : Handle) : Prop where
  store : cursor.store = handle.store
  location : cursor.location = handle.location
  scope : cursor.scope = handle.location.key

section Cursors

variable {handle : Handle} {world left : World} {cursor after : Cursor} {side : End}
  {entry : EntryRef}

namespace Cursor

/-- A step that gives out an entry gives out one that is pending. -/
theorem seek_of_step (ran : cursor.step side world = .ok (some entry, after) left) :
    ∃ key, cursor.seek side (world.entries cursor.store) = some key ∧ entry = cursor.entry key ∧
      after = cursor.pass side key := by
  rw [step_apply] at ran
  split at ran
  · cases sought : cursor.seek side (world.entries cursor.store) with
    | none => rw [sought] at ran; cases ran
    | some key =>
        rw [sought] at ran
        cases ran
        exact ⟨key, rfl, rfl, rfl⟩
  · cases ran

theorem Walks.step (walks : cursor.Walks handle)
    (ran : cursor.step side world = .ok (some entry, after) left) : after.Walks handle := by
  obtain ⟨key, -, -, rfl⟩ := seek_of_step ran
  exact ⟨by rw [store_pass, walks.store], by rw [location_pass, walks.location],
    by rw [scope_pass, walks.scope]⟩

end Cursor

namespace Handle

theorem walks_cursor (handle : Handle) : handle.cursor.Walks handle := ⟨rfl, rfl, rfl⟩

theorem leadsTo_stepped (canonical : (world.entries handle.store).Canonical)
    (walks : cursor.Walks handle)
    (ran : cursor.step side world = .ok (some entry, after) left) :
    ∃ cell, handle.LeadsTo world entry.relativeKey (entry.key, cell) := by
  obtain ⟨key, sought, rfl, -⟩ := Cursor.seek_of_step ran
  obtain ⟨member, inside, -⟩ := (cursor.mem_pending_iff _ _).mp (Cursor.mem_pending_of_seek sought)
  rw [walks.store, Entries.mem_keys_iff] at member
  rw [walks.scope] at inside
  obtain ⟨cell, stored⟩ := member
  refine ⟨cell, ?_⟩
  rw [EntryRef.relativeKey, Cursor.entry, walks.location]
  exact @leadsTo_relative handle world canonical (key, cell) stored inside

/-- At every moment of a run from a new session, the keys of all stores are canonical, and so are the
locations of all handles, which are the top or have a key. Whatever key a handle lists, or a cursor
over its subtree gives out, leads back to its entry. -/
theorem listed_lead_back {steps remaining : List Step} {frames : List Frame} {now : Session}
    (passes : Step.Passes steps default frames remaining now) :
    (∀ store key cell, (now.world.entries store).find? key = some cell → IsCanonical key) ∧
      ∀ name handle, now.bindings.lookup name = some (.handle handle) →
        (handle.location = .root ∨
          ∃ key, handle.location = .within key ∧ key ≠ "" ∧ IsCanonical key) ∧
        (∀ listed left, handle.keys now.world = .ok listed left →
          handle.Lists now.world listed) ∧
        ∀ (cursor after : Cursor) side entry left, cursor.Walks handle →
          cursor.step side now.world = .ok (some entry, after) left →
            ∃ cell, handle.LeadsTo now.world entry.relativeKey (entry.key, cell) := by
  have canonical := passes.canonical Session.canonical_default
  refine ⟨canonical.world, fun name handle named => ?_⟩
  have located : handle.location.Canonical := canonical.bindings.lookup named
  refine ⟨?_, ?_, ?_⟩
  · cases place : handle.location with
    | root => exact .inl rfl
    | within key =>
        rw [place] at located
        exact .inr ⟨key, rfl, fun empty => located.proper (congrArg Location.within empty),
          located.key⟩
  · intro listed left ran
    rw [keys, StoreId.reading_pure] at ran
    split at ran
    · cases ran
      exact lists_relative (canonical.world handle.store)
    · cases ran
  · intro cursor after side entry left walks ran
    exact leadsTo_stepped (canonical.world handle.store) walks ran

/-- A submap lists its own entry and one below it, but not the one whose key merely begins like its
own. -/
theorem listed_lead_back_tree :
    let tree : Handle := ⟨⟨0⟩, Location.root.join "tree"⟩
    let now := Session.after plantedTree
    Step.Passes plantedTree default [] [] now ∧
      now.bindings.lookup "tree" = some (.handle tree) ∧
      tree.keys now.world = .ok ["/", "/leaf"] now.world ∧
      tree.Lists now.world ["/", "/leaf"] := by
  intro tree now
  have passes : Step.Passes plantedTree default [] [] now := .atEnd plantedTree default
  have named : now.bindings.lookup "tree" = some (.handle tree) := rfl
  have free : now.world.admits ⟨.store tree.store, .reading⟩ = true := rfl
  have listed : ((tree.reach (now.world.entries tree.store)).map fun entry =>
      tree.location.relative entry.1) = ["/", "/leaf"] := by decide +kernel
  have keys : tree.keys now.world = .ok ["/", "/leaf"] now.world := by
    rw [Handle.keys, StoreId.reading_pure, if_pos free, listed]
  exact ⟨passes, named, keys, ((listed_lead_back passes).2 "tree" tree named).2.1 _ _ keys⟩

end Handle

end Cursors

end PathStore
