import PathStore.Proofs.Cursor.Enumeration
import PathStore.Proofs.Submap.Twins

/-!
# Handles, cursors and entries behind a base

What names a place in the copy of a subtree is relocated to the subtree itself: its keys go behind
the location of the subtree, in the store of the subtree. Each operation through the relocated name
is a twin of the same operation through the name itself.
-/

namespace PathStore

open Op PathStore.Path

/-- The location with the key of this one behind a base. -/
def Location.relocated (location : Location) (base : String) : Location :=
  .ofKey (base ++ location.key)

/-- The handle at the same place below another handle. -/
def Handle.relocated (handle home : Handle) : Handle :=
  ⟨home.store, handle.location.relocated home.location.key⟩

/-- The cursor at the same place below a handle. -/
def Cursor.relocated (cursor : Cursor) (home : Handle) : Cursor where
  store := home.store
  location := cursor.location.relocated home.location.key
  scope := home.location.key ++ cursor.scope
  front := cursor.front.map (home.location.key ++ ·)
  back := cursor.back.map (home.location.key ++ ·)

/-- The entry at the same place below a handle. -/
def EntryRef.relocated (entry : EntryRef) (home : Handle) : EntryRef :=
  ⟨home.store, entry.location.relocated home.location.key, home.location.key ++ entry.key⟩

namespace Location

@[simp] theorem key_relocated (location : Location) (base : String) :
    (location.relocated base).key = base ++ location.key :=
  key_ofKey _

theorem resolve_relocated (location : Location) (base key : String) :
    (location.relocated base).resolve key = base ++ location.resolve key := by
  rw [resolve_eq, key_relocated, location.resolve_eq, String.append_assoc]

theorem join_relocated (location : Location) (base path : String) :
    (location.relocated base).join path = (location.join path).relocated base := by
  rw [join, join, resolve_relocated, relocated, key_ofKey]

theorem isRooted_resolve {location : Location} (rooted : IsRooted location.key) (key : String) :
    IsRooted (location.resolve key) := by
  rw [resolve_eq]
  exact rooted.append (isCanonical_resolve_root key).isRooted

/-- A key in the subtree of a location is seen from there as it is behind a base. -/
theorem relative_relocated (location : Location) (base : String) {key : String}
    (inside : InSubtree location.key key) (rooted : IsRooted key) :
    (location.relocated base).relative (base ++ key) = location.relative key := by
  obtain ⟨rest, restRooted, rfl⟩ := inside.exists_rest rooted
  rw [relative_append location restRooted, ← String.append_assoc, ← key_relocated,
    relative_append _ restRooted]

end Location

namespace Handle

variable {home handle : Handle} {start : Entries Cell}

@[simp] theorem resolve_relocated (handle home : Handle) (key : String) :
    (handle.relocated home).resolve key = home.location.key ++ handle.resolve key :=
  Location.resolve_relocated ..

theorem cell_relocated (handle home : Handle) (entries : Entries Cell) {key : String}
    (rooted : IsRooted (handle.resolve key)) :
    (handle.relocated home).cell entries key =
      handle.cell (entries.rerooted home.location.key) key := by
  rw [cell, cell, resolve_relocated, Entries.find?_rerooted_of_isRooted _ _ rooted]

theorem isRooted_resolve (rooted : IsRooted handle.location.key) (key : String) :
    IsRooted (handle.resolve key) :=
  Location.isRooted_resolve rooted key

/-! ## Single entries -/

theorem twins_update (homeRooted : IsRooted home.location.key)
    (rooted : IsRooted handle.location.key) (key : String) (value : Value) :
    Twins home handle.store start Eq ((handle.relocated home).update key value)
      (handle.update key value) := by
  have keyRooted := isRooted_resolve rooted key
  unfold update
  apply Twins.writing
  intro entries _
  rw [resolve_relocated]
  exact Blind.pure (Twins.Written.insert homeRooted keyRooted entries _ rfl)

theorem twins_updateMany (homeRooted : IsRooted home.location.key)
    (rooted : IsRooted handle.location.key) (list : List (String × Value)) :
    Twins home handle.store start Eq ((handle.relocated home).updateMany list)
      (handle.updateMany list) := by
  induction list with
  | nil => exact Twins.pure rfl
  | cons head rest ih =>
      apply Twins.bind_eq (twins_update homeRooted rooted head.1 head.2)
      intro _
      exact ih

theorem twins_insertDefault (homeRooted : IsRooted home.location.key)
    (rooted : IsRooted handle.location.key) (key : String) (value : Value) :
    Twins home handle.store start Eq ((handle.relocated home).insertDefault key value)
      (handle.insertDefault key value) := by
  have keyRooted := isRooted_resolve rooted key
  unfold insertDefault
  apply Twins.writing
  intro entries _
  dsimp only
  rw [resolve_relocated, entries.contains_rerooted _ keyRooted]
  split
  · exact Blind.pure ⟨rfl, rfl, fun _ confined => confined⟩
  · exact Blind.pure (Twins.Written.insert homeRooted keyRooted entries _ rfl)

theorem twins_insertDefaultMany (homeRooted : IsRooted home.location.key)
    (rooted : IsRooted handle.location.key) (list : List (String × Value)) :
    Twins home handle.store start Eq ((handle.relocated home).insertDefaultMany list)
      (handle.insertDefaultMany list) := by
  induction list with
  | nil => exact Twins.pure rfl
  | cons head rest ih =>
      apply Twins.bind_eq (twins_insertDefault homeRooted rooted head.1 head.2)
      intro stored
      apply Twins.bind_eq ih
      intro count
      exact Twins.pure rfl

theorem twins_get (rooted : IsRooted handle.location.key) (key : String) (type : ValueType) :
    Twins home handle.store start Eq ((handle.relocated home).get key type)
      (handle.get key type) := by
  unfold get withValue
  apply Twins.reading
  intro entries _
  rw [cell_relocated _ _ _ (isRooted_resolve rooted key)]
  apply Blind.bind_eq (Blind.ofExcept _)
  intro cell
  apply Blind.bind_eq (Blind.ofExcept _)
  intro value
  exact Blind.pure rfl

theorem twins_getOr (rooted : IsRooted handle.location.key) (key : String) (type : ValueType)
    (default : Value) :
    Twins home handle.store start Eq ((handle.relocated home).getOr key type default)
      (handle.getOr key type default) := by
  unfold getOr withValueOr
  apply Twins.reading
  intro entries _
  rw [resolve_relocated, ← entries.find?_rerooted_of_isRooted _ (isRooted_resolve rooted key)]
  split
  · apply Blind.bind_eq (Blind.ofExcept _)
    intro value
    exact Blind.pure rfl
  · exact Blind.pure rfl

theorem twins_modifyValue {α : Type} (homeRooted : IsRooted home.location.key)
    (rooted : IsRooted handle.location.key) (key : String) (type : ValueType)
    (use : Value → Use (α × Value)) :
    Twins home handle.store start Eq
      ((handle.relocated home).modifyValue key type fun value => (use value).run)
      (handle.modifyValue key type fun value => (use value).run) := by
  have keyRooted := isRooted_resolve rooted key
  unfold modifyValue
  apply Twins.writing
  intro entries _
  rw [cell_relocated _ _ _ keyRooted, resolve_relocated]
  apply Blind.bind_eq (Blind.ofExcept _)
  intro cell
  apply Blind.bind_eq (Blind.ofExcept _)
  intro value
  apply Blind.bind_eq (Blind.use _)
  intro result
  exact Blind.pure (Twins.Written.insert homeRooted keyRooted entries _ rfl)

theorem twins_modifyCell {α : Type} (homeRooted : IsRooted home.location.key)
    (rooted : IsRooted handle.location.key) (key : String) (use : Cell → Use (α × Cell)) :
    Twins home handle.store start Eq
      ((handle.relocated home).modifyCell key fun cell => (use cell).run)
      (handle.modifyCell key fun cell => (use cell).run) := by
  have keyRooted := isRooted_resolve rooted key
  unfold modifyCell
  apply Twins.writing
  intro entries _
  rw [cell_relocated _ _ _ keyRooted, resolve_relocated]
  apply Blind.bind_eq (Blind.ofExcept _)
  intro cell
  apply Blind.bind_eq (Blind.use _)
  intro result
  exact Blind.pure (Twins.Written.insert homeRooted keyRooted entries _ rfl)

theorem twins_getAny (homeRooted : IsRooted home.location.key)
    (rooted : IsRooted handle.location.key) (key : String) :
    Twins home handle.store start Eq ((handle.relocated home).getAny key)
      (handle.getAny key) := by
  unfold getAny
  apply Twins.bind_eq (twins_modifyCell homeRooted rooted key fun cell => pure (cell, cell))
  intro cell
  cases cell with
  | some value => exact Twins.pure rfl
  | none => exact Twins.throw rfl

theorem twins_typeName (rooted : IsRooted handle.location.key) (key : String) :
    Twins home handle.store start Eq ((handle.relocated home).typeName key)
      (handle.typeName key) := by
  unfold typeName
  apply Twins.reading
  intro entries _
  rw [cell_relocated _ _ _ (isRooted_resolve rooted key)]
  apply Blind.bind_eq (Blind.ofExcept _)
  intro cell
  exact Blind.pure rfl

theorem twins_isStored (rooted : IsRooted handle.location.key) (key : String) :
    Twins home handle.store start Eq ((handle.relocated home).isStored key)
      (handle.isStored key) := by
  unfold isStored
  apply Twins.reading
  intro entries _
  rw [resolve_relocated, entries.contains_rerooted _ (isRooted_resolve rooted key)]
  exact Blind.pure rfl

theorem twins_eraseKey {key : String} (twin : StoreId) (rooted : IsRooted key) :
    Twins home twin start Eq (eraseKey home.store (home.location.key ++ key))
      (eraseKey twin key) := by
  unfold eraseKey
  apply Twins.writing
  intro entries _
  rw [← entries.contains_rerooted _ rooted]
  exact Blind.pure ⟨rfl, entries.rerooted_erase _ key, fun _ confined => confined.erase rooted⟩

theorem twins_erase (rooted : IsRooted handle.location.key) (key : String) :
    Twins home handle.store start Eq ((handle.relocated home).erase key) (handle.erase key) := by
  unfold erase
  rw [resolve_relocated]
  exact twins_eraseKey handle.store (isRooted_resolve rooted key)

/-! ## Subtrees -/

theorem twins_eraseSubtree {scope : String} (twin : StoreId) (rooted : IsRooted scope) :
    Twins home twin start Eq (eraseSubtree home.store (home.location.key ++ scope))
      (eraseSubtree twin scope) := by
  unfold eraseSubtree
  apply Twins.writing
  intro entries entriesRooted
  rw [entries.subtree_append _ rooted entriesRooted, List.length_map]
  exact Blind.pure ⟨rfl, entries.rerooted_prune _ scope, fun _ confined => confined.prune rooted⟩

theorem twins_eraseRecursive (rooted : IsRooted handle.location.key) (path : String) :
    Twins home handle.store start Eq ((handle.relocated home).eraseRecursive path)
      (handle.eraseRecursive path) := by
  unfold eraseRecursive
  rw [resolve_relocated]
  exact twins_eraseSubtree handle.store (isRooted_resolve rooted path)

theorem twins_clear (rooted : IsRooted handle.location.key) :
    Twins home handle.store start Eq (handle.relocated home).clear handle.clear := by
  unfold clear
  rw [relocated, Location.key_relocated]
  exact twins_eraseSubtree handle.store rooted

theorem reach_relocated (handle home : Handle) {entries : Entries Cell}
    (rooted : IsRooted handle.location.key) (entriesRooted : entries.Rooted) :
    (handle.relocated home).reach entries =
      (handle.reach (entries.rerooted home.location.key)).map fun entry =>
        (home.location.key ++ entry.1, entry.2) := by
  unfold reach
  rw [relocated, Location.key_relocated]
  exact entries.subtree_append _ rooted entriesRooted

theorem twins_size (rooted : IsRooted handle.location.key) :
    Twins home handle.store start Eq (handle.relocated home).size handle.size := by
  unfold size
  apply Twins.reading
  intro entries entriesRooted
  rw [reach_relocated handle home rooted entriesRooted, List.length_map]
  exact Blind.pure rfl

theorem twins_isEmpty (rooted : IsRooted handle.location.key) :
    Twins home handle.store start Eq (handle.relocated home).isEmpty handle.isEmpty := by
  unfold isEmpty
  apply Twins.reading
  intro entries entriesRooted
  rw [reach_relocated handle home rooted entriesRooted, List.isEmpty_map]
  exact Blind.pure rfl

theorem twins_keys (rooted : IsRooted handle.location.key) :
    Twins home handle.store start Eq (handle.relocated home).keys handle.keys := by
  unfold keys
  apply Twins.reading
  intro entries entriesRooted
  apply Blind.pure
  rw [reach_relocated handle home rooted entriesRooted, List.map_map]
  apply List.map_congr_left
  intro entry member
  rw [reach, Entries.subtree_eq_between, Entries.mem_between_iff] at member
  obtain ⟨stored, inside, _⟩ := member
  exact handle.location.relative_relocated _ inside
    ((entries.mem_rerooted_iff _ entry).mp stored).2

end Handle

/-! ## Entries -/

/-- The entry is one of the store, with a rooted key in the subtree of its location. -/
structure EntryRef.Seated (entry : EntryRef) (store : StoreId) : Prop where
  store_eq : entry.store = store
  rooted : IsRooted entry.key
  inside : InSubtree entry.location.key entry.key

namespace EntryRef

variable {home : Handle} {entry : EntryRef} {start : Entries Cell}

theorem relativeKey_relocated (home : Handle) (seated : entry.Seated entry.store) :
    (entry.relocated home).relativeKey = entry.relativeKey :=
  entry.location.relative_relocated _ seated.inside seated.rooted

theorem cell_relocated (home : Handle) (entries : Entries Cell)
    (seated : entry.Seated entry.store) :
    (entry.relocated home).cell entries = entry.cell (entries.rerooted home.location.key) := by
  rw [cell, cell, relativeKey_relocated home seated,
    entries.find?_rerooted_of_isRooted _ seated.rooted]
  rfl

theorem twins_value (seated : entry.Seated entry.store) (type : ValueType) :
    Twins home entry.store start Eq ((entry.relocated home).value type) (entry.value type) := by
  unfold value withValue withCell
  apply Twins.reading
  intro entries _
  rw [cell_relocated home entries seated]
  apply Blind.bind_eq (Blind.ofExcept _)
  intro cell
  apply Blind.bind_eq (Blind.ofExcept _)
  intro value
  exact Blind.pure rfl

theorem twins_set (homeRooted : IsRooted home.location.key) (seated : entry.Seated entry.store)
    (value : Value) :
    Twins home entry.store start Eq ((entry.relocated home).set value) (entry.set value) := by
  unfold set
  apply Twins.writing
  intro entries _
  rw [cell_relocated home entries seated]
  apply Blind.bind_eq (Blind.discard (Blind.ofExcept _))
  intro _
  exact Blind.pure (Twins.Written.insert homeRooted seated.rooted entries _ rfl)

theorem twins_eraseEntry {handle : Handle} (seated : entry.Seated handle.store) :
    Twins home handle.store start Eq
      ((handle.relocated home).eraseEntry (entry.relocated home)) (handle.eraseEntry entry) := by
  have first : (handle.relocated home).store = (entry.relocated home).store := rfl
  unfold Handle.eraseEntry
  rw [if_pos first, if_pos seated.store_eq.symm]
  exact Handle.twins_eraseKey handle.store seated.rooted

end EntryRef

/-! ## Cursors -/

/-- The cursor walks through a store and shows keys as seen from its scope, which is rooted. -/
structure Cursor.Seated (cursor : Cursor) (store : StoreId) : Prop where
  store_eq : cursor.store = store
  rooted : IsRooted cursor.scope
  shown : cursor.location.key = cursor.scope

namespace Cursor

variable {home : Handle} {cursor : Cursor} {start : Entries Cell}

theorem pending_relocated (home : Handle) {entries : Entries Cell} (rooted : IsRooted cursor.scope)
    (entriesRooted : entries.Rooted) :
    (cursor.relocated home).pending entries =
      (cursor.pending (entries.rerooted home.location.key)).map (home.location.key ++ ·) := by
  unfold pending relocated
  rw [entries.between_append _ _ _ rooted entriesRooted, List.map_map, List.map_map]
  rfl

theorem seek_relocated (home : Handle) (side : End) {entries : Entries Cell}
    (rooted : IsRooted cursor.scope) (entriesRooted : entries.Rooted) :
    (cursor.relocated home).seek side entries =
      (cursor.seek side (entries.rerooted home.location.key)).map (home.location.key ++ ·) := by
  unfold seek
  rw [pending_relocated home rooted entriesRooted]
  cases side with
  | front => exact List.head?_map
  | back => exact List.getLast?_map

theorem pass_relocated (cursor : Cursor) (home : Handle) (side : End) (key : String) :
    (cursor.relocated home).pass side (home.location.key ++ key) =
      (cursor.pass side key).relocated home := by
  cases side <;> rfl

theorem Seated.pass {store : StoreId} (seated : cursor.Seated store) (side : End) (key : String) :
    (cursor.pass side key).Seated store := by
  cases side <;> exact ⟨seated.store_eq, seated.rooted, seated.shown⟩

/-- What a step gives out and leaves, for the subtree and for its copy. -/
structure Stepped (home : Handle) (twin : StoreId) (first second : Option EntryRef × Cursor) :
    Prop where
  given : first.1 = second.1.map (·.relocated home)
  cursor : first.2 = second.2.relocated home
  entrySeated : ∀ entry ∈ second.1, entry.Seated twin
  cursorSeated : second.2.Seated twin

theorem twins_step (seated : cursor.Seated cursor.store) (side : End) :
    Twins home cursor.store start (Stepped home cursor.store)
      ((cursor.relocated home).step side) (cursor.step side) := by
  rw [step_eq_reading, step_eq_reading]
  apply Twins.reading
  intro entries entriesRooted
  apply Blind.pure
  rw [seek_relocated home side seated.rooted entriesRooted]
  cases found : cursor.seek side (entries.rerooted home.location.key) with
  | none => exact ⟨rfl, rfl, by simp, seated⟩
  | some key =>
      have pending := mem_pending_of_seek found
      obtain ⟨stored, inside, _⟩ := (mem_pending_iff ..).mp pending
      obtain ⟨value, held⟩ := (Entries.mem_keys_iff ..).mp stored
      refine ⟨rfl, pass_relocated cursor home side key, ?_, seated.pass side key⟩
      rintro entry ⟨⟩
      exact ⟨rfl, entries.rooted_rerooted _ key value held, seated.shown ▸ inside⟩

/-- The keys that a cursor has left, for the subtree and for its copy. -/
def Left (home : Handle) (first second : List String) : Prop :=
  first = second.map (home.location.key ++ ·) ∧ ∀ key ∈ second, IsRooted key

theorem twins_remaining (twin : StoreId) (rooted : IsRooted cursor.scope) :
    Twins home twin start (Left home)
      (home.store.reading .locked fun entries => pure ((cursor.relocated home).remaining entries))
      (twin.reading .locked fun entries => pure (cursor.remaining entries)) := by
  apply Twins.reading
  intro entries entriesRooted
  apply Blind.pure
  constructor
  · rw [remaining_eq_pending, remaining_eq_pending, pending_relocated home rooted entriesRooted]
  · intro key member
    rw [remaining_eq_pending, mem_pending_iff, Entries.mem_keys_iff] at member
    obtain ⟨⟨value, held⟩, _⟩ := member
    exact entries.rooted_rerooted _ key value held

theorem twins_eraseRange {handle : Handle} (seated : cursor.Seated handle.store) :
    Twins home handle.store start Eq
      ((handle.relocated home).eraseRange (cursor.relocated home)) (handle.eraseRange cursor) := by
  have first : (handle.relocated home).store = (cursor.relocated home).store := rfl
  unfold Handle.eraseRange
  rw [if_neg (not_not_intro first), if_neg (not_not_intro seated.store_eq.symm), seated.store_eq]
  apply Twins.bind (twins_remaining handle.store seated.rooted)
  rintro keys others ⟨rfl, rooted⟩
  apply Twins.writing
  intro entries _
  have counted : ((others.map (home.location.key ++ ·)).filter entries.contains).length =
      (others.filter (entries.rerooted home.location.key).contains).length := by
    rw [List.filter_map, List.length_map]
    congr 1
    apply List.filter_congr
    intro key member
    exact (entries.contains_rerooted _ (rooted key member)).symm
  rw [counted]
  exact Blind.pure ⟨rfl, entries.rerooted_eraseAll _ others,
    fun _ confined => confined.eraseAll rooted⟩

end Cursor

/-! ## New handles and cursors -/

namespace Handle

variable {handle : Handle}

theorem submap_relocated (handle home : Handle) (path : String) :
    (handle.relocated home).submap path = (handle.submap path).relocated home := by
  rw [submap, submap, relocated, relocated, Location.join_relocated]

theorem isRooted_submap (rooted : IsRooted handle.location.key) (path : String) :
    IsRooted (handle.submap path).location.key := by
  rw [submap, Location.join, Location.key_ofKey]
  exact Location.isRooted_resolve rooted path

theorem cursor_relocated (handle home : Handle) :
    (handle.relocated home).cursor = handle.cursor.relocated home := by
  rw [cursor, cursor, Cursor.relocated, relocated, Location.key_relocated]
  rfl

theorem cursorAt_relocated (handle home : Handle) (path : String) :
    (handle.relocated home).cursorAt path = (handle.cursorAt path).relocated home := by
  rw [cursorAt, cursorAt, Cursor.relocated, resolve_relocated, Location.relocated,
    Location.key_ofKey]
  rfl

theorem seated_cursor (rooted : IsRooted handle.location.key) :
    handle.cursor.Seated handle.store :=
  ⟨rfl, rooted, rfl⟩

theorem seated_cursorAt (rooted : IsRooted handle.location.key) (path : String) :
    (handle.cursorAt path).Seated handle.store :=
  ⟨rfl, isRooted_resolve rooted path, Location.key_ofKey _⟩

end Handle

end PathStore
