import PathStore.Proofs.Session.Listings
import PathStore.Proofs.World.Readings

/-!
# Entries stand for their keys

An entry keeps the canonical key that it was given out for and shows it as seen from its location. What
it shows resolves to that key again below any handle at the same location, so reading, overwriting and
removing through the entry is doing so through the handle under the key shown. This depends on nothing
that is stored, so it holds in every later world, also after the key has been removed or stored anew.
-/

namespace PathStore

theorem World.made_of_find? {world : World} {store : StoreId} {key : String} {cell : Cell}
    (found : (world.entries store).find? key = some cell) : (Target.store store).Made world := by
  by_contra unmade
  rw [World.entries, Heap.read, List.getD_eq_getElem?_getD,
    List.getElem?_eq_none (Nat.le_of_not_lt unmade)] at found
  cases found

namespace EntryRef

/-- Whatever is done through the entry is done through the handle under the key that the entry shows,
with the same result or failure and the same effect. -/
structure StandsFor (entry : EntryRef) (handle : Handle) : Prop where
  value : ∀ type, entry.value type = handle.get entry.relativeKey type
  typeName : entry.typeName = handle.typeName entry.relativeKey
  withValue : ∀ {α : Type} type (use : Value → Op α),
    entry.withValue type use = handle.withValue entry.relativeKey type use
  modifyValue : ∀ {α : Type} type (use : Value → Op (α × Value)),
    entry.modifyValue type use = handle.modifyValue entry.relativeKey type use
  /-- The handle needs the store alone to read a value of any type, the entry does not. -/
  anyValue : ∀ world, world.admits ⟨.store entry.store, .writing⟩ →
    entry.anyValue world = handle.getAny entry.relativeKey world
  /-- Any handle of the store can be asked to remove the entry. -/
  erase : ∀ other : Handle, other.store = entry.store →
    other.eraseEntry entry = handle.erase entry.relativeKey
  /-- An entry that is there is overwritten. -/
  update : ∀ world value, (world.entries entry.store).contains entry.key →
    entry.set value world = handle.update entry.relativeKey value world
  /-- An entry that is not there is not stored anew. -/
  refuse : ∀ world value, (world.entries entry.store).contains entry.key = false →
    world.admits ⟨.store entry.store, .writing⟩ →
    entry.set value world = .error (.error (.keyNotFound entry.relativeKey)) world

section Standing

variable {entry : EntryRef} {handle : Handle} {world : World}

theorem cell_relativeKey (resolved : handle.resolve entry.relativeKey = entry.key)
    (entries : Entries Cell) : handle.cell entries entry.relativeKey = entry.cell entries := by
  cases found : entries.find? entry.key with
  | none => simp only [Handle.cell, cell, resolved, found]
  | some held => simp only [Handle.cell, cell, resolved, found]

/-- Reading off an entry changes nothing. -/
theorem anyValue_eq (free : world.admits ⟨.store entry.store, .writing⟩) :
    entry.anyValue world =
      settled (do
        match ← entry.cell (world.entries entry.store) with
        | some value => return value
        | none => throw (.error (.emptyEntry entry.fullKey))) world := by
  have read : entry.withCell pure world =
      settled (entry.cell (world.entries entry.store)) world := by
    rw [withCell, StoreId.reading_apply, if_pos (World.admits_reading free)]
    cases entry.cell (world.entries entry.store) <;> rfl
  cases found : entry.cell (world.entries entry.store) with
  | error failure =>
      rw [found] at read
      exact bind_of_error read
  | ok cell =>
      rw [found] at read
      refine (bind_of_ok read).trans ?_
      cases cell <;> rfl

/-- A handle puts a cell that it has read back, which is no change either. -/
theorem getAny_relativeKey (same : handle.store = entry.store)
    (resolved : handle.resolve entry.relativeKey = entry.key)
    (free : world.admits ⟨.store entry.store, .writing⟩) :
    entry.anyValue world = handle.getAny entry.relativeKey world := by
  rw [anyValue_eq free]
  cases found : entry.cell (world.entries entry.store) with
  | ok cell =>
      have made := World.made_of_find? (entry.find?_of_cell found)
      rw [← same] at made found free
      rw [Handle.getAny_eq made, if_pos free, Handle.anyAt, cell_relativeKey resolved, found,
        Handle.path, resolved]
      rfl
  | error failure =>
      rw [← same] at found free
      have refused : handle.modifyCell entry.relativeKey (fun cell => pure (cell, cell)) world =
          .error failure world := by
        rw [Handle.modifyCell, StoreId.writing_apply, if_pos free, cell_relativeKey resolved, found]
        rfl
      exact (bind_of_error refused).symm

theorem set_apply (value : Value) :
    entry.set value world =
      if world.admits ⟨.store entry.store, .writing⟩ then
        match entry.cell (world.entries entry.store) with
        | .ok _ => .ok () (world.setEntries entry.store
            ((world.entries entry.store).insert entry.key (some value)))
        | .error failure => .error failure world
      else .error .busy world := by
  rw [set, StoreId.writing_apply]
  cases entry.cell (world.entries entry.store) <;> rfl

theorem StandsFor.of_resolve (same : handle.store = entry.store)
    (resolved : handle.resolve entry.relativeKey = entry.key) : entry.StandsFor handle := by
  have cells := cell_relativeKey resolved
  have withValue : ∀ {α : Type} type (use : Value → Op α),
      entry.withValue type use = handle.withValue entry.relativeKey type use := by
    intro α type use
    simp only [EntryRef.withValue, withCell, Handle.withValue, same, cells]
  refine ⟨?value, ?typeName, withValue, ?modifyValue, ?anyValue, ?erase, ?update, ?refuse⟩
  case value => exact fun type => withValue type pure
  case typeName => simp only [EntryRef.typeName, withCell, Handle.typeName, same, cells]
  case modifyValue =>
    intro α type use
    simp only [EntryRef.modifyValue, Handle.modifyValue, same, cells, resolved]
  case anyValue => exact fun world => getAny_relativeKey same resolved
  case erase =>
    intro other also
    rw [Handle.eraseEntry, if_pos also, Handle.erase, resolved, same, also]
  case update =>
    intro world value stored
    obtain ⟨cell, found⟩ := Option.isSome_iff_exists.1 stored
    have held : entry.cell (world.entries entry.store) = .ok cell := by rw [EntryRef.cell, found]
    rw [set_apply, held, Handle.update, StoreId.writing_pure, same, resolved]
  case refuse =>
    intro world value missing free
    have unknown : entry.cell (world.entries entry.store) =
        .error (.error (.keyNotFound entry.relativeKey)) := by
      rw [EntryRef.cell, Option.not_isSome_iff_eq_none.1 (Bool.eq_false_iff.1 missing)]
    rw [set_apply, if_pos free, unknown]

end Standing

end EntryRef

/-! ## What iterations give out -/

namespace Cursor

/-- The cursor walks through what the handle reaches, or through what it reaches below a path. -/
def Iterates (cursor : Cursor) (handle : Handle) : Prop :=
  cursor.Walks handle ∨ ∃ path, cursor.Walks (handle.submap path)

variable {cursor after : Cursor} {handle : Handle} {world left : World} {side : End}
  {entry : EntryRef}

/-- Both kinds of cursors that a handle makes go over it. -/
theorem iterates_cursor (handle : Handle) :
    handle.cursor.Iterates handle ∧ ∀ path, (handle.cursorAt path).Iterates handle :=
  ⟨.inl handle.walks_cursor, fun path => .inr ⟨path, rfl, rfl, (Location.key_ofKey _).symm⟩⟩

theorem Iterates.step (iterates : cursor.Iterates handle)
    (ran : cursor.step side world = .ok (some entry, after) left) : after.Iterates handle :=
  iterates.imp (·.step ran) fun ⟨path, walks⟩ => ⟨path, walks.step ran⟩

/-- An entry that is given out by a walk is seen from the location of the cursor, and what it shows
leads back to it below that location. -/
theorem Walks.resolve_relativeKey (walks : cursor.Walks handle)
    (canonical : (world.entries handle.store).Canonical)
    (ran : cursor.step side world = .ok (some entry, after) left) :
    entry.store = handle.store ∧ cursor.location.resolve entry.relativeKey = entry.key := by
  obtain ⟨cell, leads⟩ := Handle.leadsTo_stepped canonical walks ran
  obtain ⟨key, -, rfl, -⟩ := seek_of_step ran
  exact ⟨walks.store, by rw [walks.location]; exact leads.resolved⟩

theorem Iterates.resolve_relativeKey (iterates : cursor.Iterates handle)
    (canonical : (world.entries handle.store).Canonical)
    (ran : cursor.step side world = .ok (some entry, after) left) :
    entry.store = handle.store ∧ cursor.location.resolve entry.relativeKey = entry.key := by
  rcases iterates with walks | ⟨path, walks⟩
  · exact walks.resolve_relativeKey canonical ran
  · have below : (world.entries (handle.submap path).store).Canonical := canonical
    exact walks.resolve_relativeKey below ran

end Cursor

/-- At some moment of a run from a new session an iteration over what a handle reaches, or over what it
reaches below a path, gives out an entry. The iteration may have been begun at any moment, and may have
given out any number of entries since. From then on, in whatever world, the entry stands for its key
below any handle of that store at the location of the iteration. -/
theorem entries_stand_for_keys {steps remaining : List Step} {frames : List Frame} {now : Session}
    {handle : Handle} {cursor after : Cursor} {side : End} {entry : EntryRef} {left : World}
    (passes : Step.Passes steps default frames remaining now) (iterates : cursor.Iterates handle)
    (ran : cursor.step side now.world = .ok (some entry, after) left) :
    after.Iterates handle ∧
      ∀ other : Handle, other.store = handle.store → other.location = cursor.location →
        entry.StandsFor other := by
  have canonical := (passes.canonical Session.canonical_default).world handle.store
  obtain ⟨store, resolved⟩ := iterates.resolve_relativeKey canonical ran
  refine ⟨iterates.step ran, fun other same placed => ?_⟩
  refine .of_resolve (same.trans store.symm) ?_
  rw [Handle.resolve, placed, resolved]

open Handle in
/-- The entry of a submap itself, which an iteration below a path gives out first and shows as the top,
stands for the top of the submap. Once the key has been removed it cannot be overwritten. -/
theorem entries_stand_for_keys_tree :
    let all : Handle := ⟨⟨0⟩, .root⟩
    let tree : Handle := ⟨⟨0⟩, Location.root.join "tree"⟩
    let now := Session.after plantedTree
    let entry : EntryRef := ⟨⟨0⟩, Location.root.join "tree", "/tree"⟩
    let erased : World := now.world.setEntries ⟨0⟩ ((now.world.entries ⟨0⟩).erase "/tree")
    (Step.Passes plantedTree default [] [] now ∧ (all.cursorAt "tree").Iterates all ∧
        (all.cursorAt "tree").step .front now.world =
          .ok (some entry, (all.cursorAt "tree").pass .front "/tree") now.world) ∧
      entry.relativeKey = "/" ∧ entry.StandsFor tree ∧
      ∀ value, entry.set value erased = .error (.error (.keyNotFound "/")) erased := by
  intro all tree now entry erased
  have passes : Step.Passes plantedTree default [] [] now := .atEnd plantedTree default
  have iterates := (Cursor.iterates_cursor all).2 "tree"
  have reading : now.world.admits ⟨.store (all.cursorAt "tree").store, .reading⟩ = true := rfl
  have writing : erased.admits ⟨.store ⟨0⟩, .writing⟩ = true := rfl
  have first : (all.cursorAt "tree").seek .front (now.world.entries (all.cursorAt "tree").store) =
      some "/tree" := by decide +kernel
  have ran : (all.cursorAt "tree").step .front now.world =
      .ok (some entry, (all.cursorAt "tree").pass .front "/tree") now.world := by
    rw [Cursor.step_apply, if_pos reading, first]
    rfl
  have shown : entry.relativeKey = "/" := by decide +kernel
  have stands : entry.StandsFor tree := (entries_stand_for_keys passes iterates ran).2 tree rfl rfl
  refine ⟨⟨passes, iterates, ran⟩, shown, stands, fun value => ?_⟩
  have missing : (erased.entries entry.store).contains entry.key = false := by
    rw [World.entries_setEntries, if_pos rfl]
    decide +kernel
  rw [← shown]
  exact stands.refuse erased value missing writing

end PathStore
