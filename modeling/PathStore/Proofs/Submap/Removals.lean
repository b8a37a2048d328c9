import PathStore.Proofs.Cursor.Removals
import PathStore.Proofs.Submap.Overlays

/-!
# Ways to remove a subtree

A subtree is removed at its path, through a submap that is cleared, or as the range of a fresh cursor. Each
of them goes about it in its own way, but all take away just the entries whose keys the location contains.
-/

namespace PathStore

open PathStore.Path

namespace Handle

variable {handle : Handle} {world : World}

/-! ## What a submap contains -/

theorem proper_submap (handle : Handle) (path : String) :
    (handle.submap path).location ≠ .within "" :=
  Location.ofKey_ne_within_empty _

theorem contains_submap (handle : Handle) (path key : String) :
    (handle.submap path).location.contains key = decide (InSubtree (handle.resolve path) key) := by
  rw [Location.contains_eq_decide (proper_submap handle path), key_submap]

/-- A fresh cursor at a path has what the submap there contains ahead of it. -/
theorem ahead_cursorAt (handle : Handle) (path key : String) :
    decide ((handle.cursorAt path).Ahead key) = (handle.submap path).location.contains key := by
  rw [contains_submap, decide_eq_decide]
  exact Cursor.ahead_of_fresh rfl rfl key

/-- A key that continues that of a submap other than by a separator is not contained, unless the submap is
all there is. -/
theorem contains_submap_sibling {path : String} (below : handle.resolve path ≠ "") {char : Char}
    (other : char ≠ separator) (rest : List Char) :
    (handle.submap path).location.contains (handle.resolve path ++ String.ofList (char :: rest)) =
      false := by
  rw [Bool.eq_false_iff]
  intro inside
  rw [← key_submap] at inside below
  rcases Location.eq_root_or_isRooted inside with top | rooted
  · exact below (by rw [top, Location.key])
  · simp [IsRooted, other] at rooted

theorem length_reach (proper : handle.location ≠ .within "") (entries : Entries Cell) :
    (handle.reach entries).length = (entries.keys.filter handle.location.contains).length := by
  rw [reach_eq_filter handle proper, Entries.keys, List.filter_map, List.length_map]
  rfl

/-- Nothing is reached where all that the location contains has been removed. -/
theorem reach_keepKeys (proper : handle.location ≠ .within "") (entries : Entries Cell) :
    handle.reach (entries.keepKeys fun key => !handle.location.contains key) = [] := by
  rw [reach_eq_filter handle proper, List.filter_eq_nil_iff]
  intro entry kept
  simpa using (List.mem_filter.mp kept).2

/-! ## Removing it -/

/-- Clearing a handle takes away what its location contains. -/
theorem clear_apply (proper : handle.location ≠ .within "")
    (free : world.admits ⟨.store handle.store, .writing⟩ = true) :
    handle.clear world =
      .ok ((world.entries handle.store).keys.filter handle.location.contains).length
        (world.setEntries handle.store
          ((world.entries handle.store).keepKeys fun key => !handle.location.contains key)) := by
  rw [clear, eraseSubtree, StoreId.writing_pure, if_pos free, ← length_reach proper,
    Entries.prune_eq_keepKeys]
  simp only [← Location.contains_eq_decide proper]
  rfl

/-- The three ways to remove the subtree at a path agree, whatever the path and the handle, as long as the
store is not in use. They keep exactly the entries that the location of the path does not contain, and tell
how many others there were, which is the size of the submap. Afterwards the submap is empty, and entries
whose keys only begin with the same text are still there. -/
theorem removals_agree (handle : Handle) (path : String) {world : World}
    (free : world.admits ⟨.store handle.store, .writing⟩ = true) :
    let submap := handle.submap path
    let entries := world.entries handle.store
    let kept := entries.keepKeys fun key => !submap.location.contains key
    let count := (entries.keys.filter submap.location.contains).length
    let left := world.setEntries handle.store kept
    (handle.eraseRecursive path world = .ok count left ∧
        submap.clear world = .ok count left ∧
        handle.eraseRange (handle.cursorAt path) world = .ok count left) ∧
      submap.size world = .ok count world ∧
      kept.size + count = entries.size ∧
      (∀ key, (left.entries handle.store).find? key =
        if submap.location.contains key then none else entries.find? key) ∧
      submap.isEmpty left = .ok true left ∧
      ∀ char rest, handle.resolve path ≠ "" → char ≠ separator →
        (left.entries handle.store).find? (handle.resolve path ++ String.ofList (char :: rest)) =
          entries.find? (handle.resolve path ++ String.ofList (char :: rest)) := by
  intro submap entries kept count left
  have proper : submap.location ≠ .within "" := proper_submap handle path
  have cleared : submap.clear world = .ok count left := clear_apply proper free
  have recursive : handle.eraseRecursive path world = submap.clear world := by
    rw [eraseRecursive, clear, key_submap, store_submap]
  have ranged : handle.eraseRange (handle.cursorAt path) world = _ := eraseRange_apply rfl free
  have found (key : String) : (left.entries handle.store).find? key =
      if submap.location.contains key then none else entries.find? key := by
    rw [World.entries_setEntries, if_pos rfl, Entries.find?_keepKeys]
    cases submap.location.contains key <;> rfl
  simp only [ahead_cursorAt] at ranged
  refine ⟨⟨recursive.trans cleared, cleared, ranged⟩, ?size, ?sum, found, ?empty, ?siblings⟩
  case size =>
    rw [size, StoreId.reading_pure, store_submap, if_pos (World.admits_reading free),
      length_reach proper]
  case sum => exact entries.size_keepKeys_add submap.location.contains
  case empty =>
    have readable : left.admits ⟨.store handle.store, .reading⟩ = true :=
      World.admits_reading free
    rw [isEmpty, StoreId.reading_pure, store_submap, if_pos readable, World.entries_setEntries,
      if_pos rfl, reach_keepKeys proper]
    rfl
  case siblings =>
    intro char rest below other
    rw [found, contains_submap_sibling below other, if_neg Bool.false_ne_true]

/-- Of five keys that begin with the same text, two belong to the submap. The path is written with a
detour. -/
theorem removals_agree_tree :
    let all : Handle := ⟨⟨0⟩, .root⟩
    let entries : Entries Cell :=
      ⟨[("/tree", none), ("/tree.x", none), ("/tree/x", none), ("/tree0", none),
        ("/treehouse", none)], by decide +kernel⟩
    let world : World := ⟨⟨[entries]⟩, default, default, []⟩
    let path := "house/..//tree/."
    world.admits ⟨.store all.store, .writing⟩ = true ∧
      ∃ left, all.eraseRecursive path world = .ok 2 left ∧
        (all.submap path).clear world = .ok 2 left ∧
        all.eraseRange (all.cursorAt path) world = .ok 2 left ∧
        (left.entries ⟨0⟩).keys = ["/tree.x", "/tree0", "/treehouse"] := by
  intro all entries world path
  let left := world.setEntries ⟨0⟩ (entries.keepKeys fun key =>
    !(all.submap path).location.contains key)
  have free : world.admits ⟨.store all.store, .writing⟩ = true := rfl
  have counted : (entries.keys.filter (all.submap path).location.contains).length = 2 := by
    decide +kernel
  have told := congrArg (fun count => (.ok count left : EStateM.Result Failure World Nat)) counted
  obtain ⟨recursive, cleared, ranged⟩ := (removals_agree all path free).1
  refine ⟨free, left, recursive.trans told, cleared.trans told, ranged.trans told, ?_⟩
  decide +kernel

end Handle

end PathStore
