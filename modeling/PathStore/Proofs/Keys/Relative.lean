import PathStore.Proofs.Keys.Canonical
import PathStore.Proofs.Keys.Subtree

/-!
# Keys as seen from a location

A location contains the keys of its subtree: those that continue its own key by a rooted text. What it
leaves of such a key is that text, and a canonical key is what the text is resolved to again.
-/

namespace PathStore

namespace Path

theorem isBelow_iff_exists (scope key : String) :
    IsBelow scope key ↔ ∃ tail, key.toList = scope.toList ++ separator :: tail := by
  unfold IsBelow
  rw [String.toList_append]
  constructor
  · rintro ⟨tail, equal⟩
    exact ⟨tail, by rw [← equal, List.append_assoc]; rfl⟩
  · rintro ⟨tail, equal⟩
    exact ⟨tail, by rw [equal, List.append_assoc]; rfl⟩

/-- The keys of a subtree are those that continue its scope by a rooted text. -/
theorem inSubtree_iff_exists {scope : String} (named : scope ≠ "") (key : String) :
    InSubtree scope key ↔ ∃ rest, IsRooted rest ∧ key = scope ++ rest := by
  rw [inSubtree_iff named, isBelow_iff_exists]
  constructor
  · rintro (rfl | ⟨tail, equal⟩)
    · exact ⟨"", isRooted_empty, String.append_empty.symm⟩
    · refine ⟨String.ofList (separator :: tail), .inr (by simp), ?_⟩
      rw [← String.toList_inj, equal, String.toList_append, String.toList_ofList]
  · rintro ⟨rest, rooted, rfl⟩
    rcases rooted with empty | behind
    · rw [String.toList_eq_nil_iff.mp empty, String.append_empty]
      exact .inl rfl
    · obtain ⟨tail, equal⟩ := List.head?_eq_some_iff.mp behind
      exact .inr ⟨tail, by rw [String.toList_append, equal]⟩

theorem inSubtree_append (base : String) {rest : String} (rooted : IsRooted rest) :
    InSubtree base (base ++ rest) := by
  by_cases empty : base = ""
  · exact .inl empty
  · exact (inSubtree_iff_exists empty _).mpr ⟨rest, rooted, rfl⟩

/-- A rooted key lies in a subtree exactly if it does so behind a common base. -/
theorem inSubtree_append_iff (base : String) {scope key : String} (rooted : IsRooted key) :
    InSubtree (base ++ scope) (base ++ key) ↔ InSubtree scope key := by
  by_cases empty : scope = ""
  · rw [empty, String.append_empty]
    exact iff_of_true (inSubtree_append base rooted) (inSubtree_empty key)
  · have named : base ++ scope ≠ "" := by
      intro none
      rw [String.append_eq_empty_iff] at none
      exact empty none.2
    rw [inSubtree_iff_exists named, inSubtree_iff_exists empty]
    constructor
    · rintro ⟨rest, restRooted, equal⟩
      rw [String.append_assoc] at equal
      exact ⟨rest, restRooted, (String.append_right_inj base).mp equal⟩
    · rintro ⟨rest, restRooted, rfl⟩
      exact ⟨rest, restRooted, String.append_assoc.symm⟩

/-- A subtree behind a base lies in the subtree of the base. -/
theorem InSubtree.of_append {base scope key : String} (rooted : IsRooted scope)
    (inside : InSubtree (base ++ scope) key) : InSubtree base key := by
  by_cases empty : base = ""
  · exact .inl empty
  · have named : base ++ scope ≠ "" := by
      intro none
      rw [String.append_eq_empty_iff] at none
      exact empty none.1
    obtain ⟨rest, restRooted, rfl⟩ := (inSubtree_iff_exists named key).mp inside
    rw [String.append_assoc]
    exact inSubtree_append base (rooted.append restRooted)

/-- A key of a subtree continues the base by a rooted text. If the base is empty that is the key. -/
theorem InSubtree.exists_rest {base key : String} (inside : InSubtree base key)
    (whole : IsRooted key) : ∃ rest, IsRooted rest ∧ key = base ++ rest := by
  by_cases empty : base = ""
  · exact ⟨key, whole, by rw [empty, String.empty_append]⟩
  · exact (inSubtree_iff_exists empty key).mp inside

end Path

namespace Location

open PathStore.Path

/-- The remainder of a key below a location that is not the top. -/
theorem remainder?_within (path key : String) (rest : List Char) :
    (within path).remainder? key = some rest ↔
      key.toList = path.toList ++ rest ∧ (rest = [] ∨ rest.head? = some separator) := by
  unfold remainder?
  by_cases within : path.toList <+: key.toList
  · obtain ⟨tail, equal⟩ := within
    simp only [← equal, List.prefix_append, if_true, List.drop_left, List.append_cancel_left_eq]
    by_cases bounded : tail = [] ∨ tail.head? = some separator
    · rw [if_pos (by simpa using bounded), Option.some.injEq]
      constructor
      · rintro rfl
        exact ⟨rfl, bounded⟩
      · rintro ⟨rfl, _⟩
        rfl
    · rw [if_neg (by simpa using bounded)]
      constructor
      · intro impossible
        cases impossible
      · rintro ⟨rfl, fits⟩
        exact absurd fits bounded
  · simp only [within, if_false]
    constructor
    · intro impossible
      cases impossible
    · rintro ⟨equal, _⟩
      exact absurd ⟨rest, equal.symm⟩ within

/-- A location contains the keys of its subtree. -/
theorem contains_iff_inSubtree {location : Location} (proper : location ≠ .within "")
    (key : String) : location.contains key = true ↔ InSubtree location.key key := by
  cases location with
  | root => exact iff_of_true rfl (inSubtree_empty key)
  | within path =>
      have named : path ≠ "" := fun empty => proper (congrArg within empty)
      simp only [contains, Option.isSome_iff_exists, remainder?_within]
      rw [Location.key, inSubtree_iff named, isBelow_iff_exists, ← String.toList_inj]
      constructor
      · rintro ⟨rest, equal, rfl | behind⟩
        · exact .inl (equal.trans (List.append_nil _))
        · obtain ⟨tail, rfl⟩ := List.head?_eq_some_iff.mp behind
          exact .inr ⟨tail, equal⟩
      · rintro (equal | ⟨tail, equal⟩)
        · exact ⟨[], equal.trans (List.append_nil _).symm, .inl rfl⟩
        · exact ⟨separator :: tail, equal, .inr rfl⟩

theorem contains_eq_decide {location : Location} (proper : location ≠ .within "") (key : String) :
    location.contains key = decide (InSubtree location.key key) := by
  rw [Bool.eq_iff_iff, decide_eq_true_iff, contains_iff_inSubtree proper]

theorem contains_append (location : Location) {rest : String} (rooted : IsRooted rest) :
    location.contains (location.key ++ rest) = true := by
  cases location with
  | root => rfl
  | within path =>
      rw [contains, Option.isSome_iff_exists]
      exact ⟨rest.toList, (remainder?_within ..).mpr ⟨String.toList_append, rooted⟩⟩

/-- What follows the key of a location in the keys that it contains begins with a separator, except at
the top. -/
theorem eq_root_or_isRooted {location : Location} {rest : String}
    (inside : location.contains (location.key ++ rest) = true) :
    location = .root ∨ IsRooted rest := by
  cases location with
  | root => exact .inl rfl
  | within path =>
      obtain ⟨chars, remainder⟩ := Option.isSome_iff_exists.mp inside
      obtain ⟨equal, rooted⟩ := (remainder?_within ..).mp remainder
      rw [key, String.toList_append, List.append_cancel_left_eq] at equal
      exact .inr (by rwa [IsRooted, equal])

/-- A key behind that of a location is shown without it. -/
theorem relative_append (location : Location) {rest : String} (rooted : IsRooted rest) :
    location.relative (location.key ++ rest) = shown rest := by
  unfold relative
  cases location with
  | root =>
      simp only [remainder?, key, String.empty_append, String.ofList_toList]
  | within path =>
      have remainder : (within path).remainder? (path ++ rest) = some rest.toList :=
        (remainder?_within path _ _).mpr ⟨String.toList_append, rooted⟩
      rw [key, remainder]
      dsimp only
      rw [String.ofList_toList]

/-- What is shown of a canonical text behind the key of a location is resolved to the text. -/
theorem resolve_relative_append (location : Location) {rest : String}
    (canonical : IsCanonical rest) :
    root.resolve (location.relative (location.key ++ rest)) = rest := by
  rw [location.relative_append canonical.isRooted, resolve_root_shown canonical]

/-- A key of a subtree is what its relative key resolves to. -/
theorem resolve_relative {location : Location} {key : String}
    (inside : InSubtree location.key key) (canonical : IsCanonical key) :
    location.resolve (location.relative key) = key := by
  obtain ⟨rest, rooted, rfl⟩ := inside.exists_rest canonical.isRooted
  rw [resolve_eq, location.resolve_relative_append (canonical.of_append rooted)]

end Location

end PathStore
