import PathStore.Proofs.Submap.Grafting

/-!
# Grafting as an overlay

A graft stores each entry of a subtree behind the key that is written, under what follows the location of
the subtree in its key. So it lays the subtree, as it was before, over what is at that key: nothing is lost
or merged on the way, however the key is written, and nothing else changes. This holds where one of the two
places lies in the other as well.
-/

namespace PathStore

open PathStore.Path

namespace Handle

variable {handle source : Handle} {key : String} {world left : World}

/-- A handle sees a cell under the key that continues its location by a suffix. -/
structure Sees (handle : Handle) (world : World) (suffix : String) (cell : Cell) : Prop where
  found : (world.entries handle.store).find? (handle.location.key ++ suffix) = some cell
  inside : handle.location.contains (handle.location.key ++ suffix) = true

/-- A handle sees what its subtree holds as a map of its own. -/
theorem sees_iff (canonical : (world.entries handle.store).Canonical) {suffix : String}
    {cell : Cell} :
    handle.Sees world suffix cell ↔
      ((world.entries handle.store).rerooted handle.location.key).find? suffix = some cell := by
  constructor
  · rintro ⟨found, inside⟩
    have rooted : IsRooted suffix := by
      rcases Location.eq_root_or_isRooted inside with top | rooted
      · rw [top, Location.key, String.empty_append] at found
        exact canonical.rooted suffix cell found
      · exact rooted
    rw [Entries.find?_rerooted_of_isRooted _ _ rooted, found]
  · intro held
    have rooted := Entries.rooted_rerooted _ _ suffix cell held
    rw [Entries.find?_rerooted_of_isRooted _ _ rooted] at held
    exact ⟨held, handle.location.contains_append rooted⟩

/-- What one handle sees is laid over what is behind a key written below another. -/
structure Overlays (handle source : Handle) (key : String) (world left : World) : Prop where
  /-- What was seen before stands behind the key. -/
  landed : ∀ suffix cell, source.Sees world suffix cell →
    (left.entries handle.store).find? (handle.resolve key ++ suffix) = some cell
  /-- What is under any other key was there before. -/
  kept : ∀ other,
    (∀ suffix cell, source.Sees world suffix cell → other ≠ handle.resolve key ++ suffix) →
      (left.entries handle.store).find? other = (world.entries handle.store).find? other
  /-- The key that is shown of an entry, put behind the written one, names where it stands. -/
  placed : ∀ suffix cell, source.Sees world suffix cell →
    handle.resolve (key ++ source.location.relative (source.location.key ++ suffix)) =
      handle.resolve key ++ suffix
  /-- Different entries are stored under different keys. -/
  apart : ∀ first second cell other, source.Sees world first cell →
    source.Sees world second other →
      handle.resolve (key ++ source.location.relative (source.location.key ++ first)) =
        handle.resolve (key ++ source.location.relative (source.location.key ++ second)) →
      first = second
  /-- Nothing changes outside of the submap that the key names. -/
  outside : ∀ other, (handle.submap key).location.contains other = false →
    (left.entries handle.store).find? other = (world.entries handle.store).find? other
  /-- Nothing but the store of the handle changes. -/
  changed : OnlyEntries handle.store (left.entries handle.store) world left

/-- Planting the subtree that a handle sees lays it over what is there. -/
theorem overlays_planted (canonical : world.Canonical) (handle source : Handle) (key : String) :
    Overlays handle source key world (world.setEntries handle.store
      ((world.entries handle.store).planted (handle.resolve key)
        ((world.entries source.store).rerooted source.location.key))) := by
  have sees {suffix : String} {cell : Cell} :
      source.Sees world suffix cell ↔ _ := sees_iff (canonical source.store)
  have changed := onlyEntries_setEntries handle.store
    ((world.entries handle.store).planted (handle.resolve key)
      ((world.entries source.store).rerooted source.location.key)) world
  generalize world.setEntries handle.store _ = left at changed
  have rooted {suffix : String} {cell : Cell} (seen : source.Sees world suffix cell) :
      IsRooted suffix := Entries.rooted_rerooted _ _ suffix cell (sees.mp seen)
  have kept : ∀ other,
      (∀ suffix cell, source.Sees world suffix cell → other ≠ handle.resolve key ++ suffix) →
        (left.entries handle.store).find? other = (world.entries handle.store).find? other := by
    intro other far
    rw [changed.entries_eq]
    exact Entries.find?_planted_of_forall_ne fun suffix cell held => far suffix cell (sees.mpr held)
  have placed {suffix : String} {cell : Cell} (seen : source.Sees world suffix cell) :
      handle.resolve (key ++ source.location.relative (source.location.key ++ suffix)) =
        handle.resolve key ++ suffix :=
    handle.resolve_append_relative source key
      (((canonical source.store).rerooted source.location.key) suffix cell (sees.mp seen))
  refine ⟨?landed, kept, fun suffix cell => placed, ?apart, ?outside, ?changed⟩
  case landed =>
    intro suffix cell seen
    rw [changed.entries_eq, Entries.find?_planted_append, sees.mp seen, Option.some_or]
  case apart =>
    intro first second cell other seen seenToo same
    rw [placed seen, placed seenToo] at same
    exact (String.append_right_inj _).mp same
  case outside =>
    intro other beyond
    refine kept other fun suffix cell seen same => ?_
    have inside := (handle.submap key).location.contains_append (rooted seen)
    rw [key_submap, ← same, beyond] at inside
    cases inside
  case changed =>
    rw [changed.entries_eq]
    exact changed

/-- A graft at any moment of a run from a new session, between handles on the same store or on two, ends
well if the one store may be read and the other one written. If it does, it lays what the one handle saw
at that moment over what was behind the key that is written below the other. -/
theorem graft_overlays {steps remaining : List Step} {frames : List Frame} {now : Session}
    (passes : Step.Passes steps default frames remaining now) (handle source : Handle)
    (key : String) :
    (now.world.admits ⟨.store source.store, .reading⟩ →
      now.world.admits ⟨.store handle.store, .writing⟩ →
        ∃ left, handle.graft key source now.world = .ok () left) ∧
    ∀ left, handle.graft key source now.world = .ok () left →
      Overlays handle source key now.world left := by
  have canonical := (passes.canonical Session.canonical_default).world
  constructor
  · intro readable writable
    exact ⟨_, graft_apply canonical readable writable key⟩
  · intro left grafted
    obtain ⟨readable, writable⟩ := admitted_of_graft grafted
    rw [graft_apply canonical readable writable] at grafted
    cases grafted
    exact overlays_planted canonical handle source key

/-- A submap is grafted into itself. Its own entry takes the place of the one below it, of which a copy is
still made: what is copied is what was there before. -/
theorem graft_overlays_nested :
    let all : Handle := ⟨⟨0⟩, .root⟩
    let tree : Handle := all.submap "tree"
    let now := Session.after plantedTree
    Step.Passes plantedTree default [] [] now ∧
      ∃ left, all.graft "tree//leaf" tree now.world = .ok () left ∧
        Overlays all tree "tree//leaf" now.world left ∧
        (left.entries ⟨0⟩).find? "/tree/leaf/leaf" =
          (now.world.entries ⟨0⟩).find? "/tree/leaf" := by
  intro all tree now
  have passes : Step.Passes plantedTree default [] [] now := .atEnd plantedTree default
  obtain ⟨succeeds, overlays⟩ := graft_overlays passes all tree "tree//leaf"
  obtain ⟨left, grafted⟩ := succeeds rfl rfl
  have overlaid := overlays left grafted
  have leaf : tree.Sees now.world "/leaf" (some (.scalar (.bool true))) :=
    ⟨by decide +kernel, by decide +kernel⟩
  have target : all.resolve "tree//leaf" ++ "/leaf" = "/tree/leaf/leaf" := by decide +kernel
  have stands := overlaid.landed "/leaf" _ leaf
  rw [target] at stands
  exact ⟨passes, left, grafted, overlaid, stands.trans leaf.found.symm⟩

end Handle

end PathStore
