import PathStore.Proofs.Entries.Rerooted
import PathStore.Proofs.World.Canonical

/-!
# Entries planted behind a base

Planting stores the entries of one map in another, each behind the same base. Rerooting at the base
brings them to light again, and pruning there takes them away; if nothing was there before, that is all
that was and all that will be. What is rerooted and planted where it came from changes nothing.
-/

namespace PathStore

open PathStore.Path

namespace Entries

variable {α : Type} {entries incoming : Entries α} {base : String}

/-- Entries stored in others, each behind a base. -/
def planted (entries : Entries α) (base : String) (incoming : Entries α) : Entries α :=
  entries.insertAll (incoming.toList.map fun entry => (base ++ entry.1, entry.2))

/-- Nothing is held in the subtree at a base. -/
def Vacant (entries : Entries α) (base : String) : Prop :=
  ∀ key, InSubtree base key → entries.find? key = none

/-- Keys behind a common base are in the same order. -/
theorem behind_sorted (incoming : Entries α) (base : String) :
    (incoming.toList.map fun entry => (base ++ entry.1, entry.2)).Pairwise
      fun first second => first.1 < second.1 := by
  rw [List.pairwise_map]
  refine incoming.sorted.imp ?_
  intro first second before
  exact (append_lt_append_iff base _ _).mpr before

theorem lookup_behind (incoming : Entries α) (base key : String) (value : α) :
    (incoming.toList.map fun entry => (base ++ entry.1, entry.2)).lookup key = some value ↔
      ∃ rest, incoming.find? rest = some value ∧ key = base ++ rest := by
  rw [lookup_eq_some_iff (behind_sorted incoming base)]
  simp only [List.mem_map, Prod.mk.injEq, Prod.exists, find?_eq_some_iff]
  constructor
  · rintro ⟨rest, held, member, rfl, rfl⟩
    exact ⟨rest, member, rfl⟩
  · rintro ⟨rest, member, rfl⟩
    exact ⟨rest, value, member, rfl, rfl⟩

/-- What is planted is found behind the base, in the place of what was there. -/
theorem find?_planted_append (entries incoming : Entries α) (base rest : String) :
    (entries.planted base incoming).find? (base ++ rest) =
      (incoming.find? rest).or (entries.find? (base ++ rest)) := by
  rw [planted, find?_insertAll entries (behind_sorted incoming base)]
  congr 1
  ext value
  rw [lookup_behind]
  constructor
  · rintro ⟨other, found, same⟩
    exact (String.append_right_inj base).mp same ▸ found
  · intro found
    exact ⟨rest, found, rfl⟩

/-- Only keys behind the base are planted. -/
theorem find?_planted_of_forall_ne {key : String}
    (apart : ∀ rest value, incoming.find? rest = some value → key ≠ base ++ rest) :
    (entries.planted base incoming).find? key = entries.find? key := by
  have absent : (incoming.toList.map fun entry => (base ++ entry.1, entry.2)).lookup key =
      none := by
    refine Option.eq_none_iff_forall_ne_some.mpr fun value found => ?_
    obtain ⟨rest, held, same⟩ := (lookup_behind incoming base key value).mp found
    exact apart rest value held same
  rw [planted, find?_insertAll entries (behind_sorted incoming base), absent, Option.none_or]

/-- What is planted where nothing was is the subtree there. -/
theorem rerooted_planted (vacant : entries.Vacant base) (rooted : incoming.Rooted) :
    (entries.planted base incoming).rerooted base = incoming := by
  apply ext_find?
  intro rest
  rw [find?_rerooted]
  split
  · rename_i restRooted
    rw [find?_planted_append, vacant _ (inSubtree_append base restRooted), Option.or_none]
  · rename_i unrooted
    refine (Option.eq_none_iff_forall_ne_some.mpr fun value found => ?_).symm
    exact unrooted (rooted rest value found)

/-- Pruning where entries were planted leaves what was there before them. -/
theorem prune_planted (vacant : entries.Vacant base) (rooted : incoming.Rooted) :
    (entries.planted base incoming).prune base = entries := by
  apply ext_find?
  intro key
  rw [find?_prune]
  split
  · rename_i inside
    exact (vacant key inside).symm
  · rename_i outside
    refine find?_planted_of_forall_ne fun rest value found same => outside ?_
    exact same ▸ inSubtree_append base (rooted rest value found)

/-- A subtree planted at its own place changes nothing. -/
theorem planted_rerooted (entries : Entries α) (base : String) :
    entries.planted base (entries.rerooted base) = entries := by
  apply ext_find?
  intro key
  by_cases held : ∃ rest value, (entries.rerooted base).find? rest = some value ∧ key = base ++ rest
  · obtain ⟨rest, value, found, rfl⟩ := held
    have rooted := entries.rooted_rerooted base rest value found
    have whole := entries.find?_rerooted_of_isRooted base rooted
    rw [find?_planted_append, ← whole, found, Option.some_or]
  · refine find?_planted_of_forall_ne fun rest value found same => held ?_
    exact ⟨rest, value, found, same⟩

/-- Canonical entries planted behind a canonical key are canonical. -/
theorem Canonical.planted (canonical : entries.Canonical) (grown : incoming.Canonical)
    (proper : IsCanonical base) : (entries.planted base incoming).Canonical := by
  refine canonical.insertAll fun entry member => ?_
  obtain ⟨given, listed, rfl⟩ := List.mem_map.mp member
  exact proper.append (grown given.1 given.2 ((find?_eq_some_iff _ _ _).mpr listed))

/-- The rerooted subtree of canonical entries is canonical. -/
theorem Canonical.rerooted (canonical : entries.Canonical) (base : String) :
    (entries.rerooted base).Canonical := by
  intro rest value found
  have rooted := entries.rooted_rerooted base rest value found
  rw [find?_rerooted_of_isRooted _ _ rooted] at found
  exact (canonical _ value found).of_append rooted

end Entries

end PathStore
