import PathStore.Proofs.Entries.Seeking
import PathStore.Proofs.Keys.Relative

/-!
# A subtree as a map of its own

Rerooting takes the entries of the subtree at a base and strips the base from their keys. Every
operation on entries through keys that continue the base corresponds to the same operation through
the stripped keys on the rerooted entries, and leaves what lies outside the subtree as it was.
-/

namespace PathStore

namespace Path

/-- What follows a base in a key of its subtree. -/
def rest? (base key : String) : Option String :=
  ((Location.within base).remainder? key).map String.ofList

theorem rest?_eq_some_iff (base key rest : String) :
    rest? base key = some rest ↔ key = base ++ rest ∧ IsRooted rest := by
  rw [rest?, Option.map_eq_some_iff]
  constructor
  · rintro ⟨chars, remainder, rfl⟩
    obtain ⟨equal, rooted⟩ := (Location.remainder?_within base key chars).mp remainder
    refine ⟨?_, by rwa [IsRooted, String.toList_ofList]⟩
    rw [← String.toList_inj, equal, String.toList_append, String.toList_ofList]
  · rintro ⟨rfl, rooted⟩
    refine ⟨rest.toList, ?_, String.ofList_toList⟩
    rw [Location.remainder?_within, String.toList_append]
    exact ⟨rfl, rooted⟩

/-- Texts behind a common base are ordered as they are without it. -/
theorem append_lt_append_iff (base left right : String) :
    base ++ left < base ++ right ↔ left < right := by
  rw [String.lt_iff_toList_lt, String.lt_iff_toList_lt, String.toList_append, String.toList_append]
  induction base.toList with
  | nil => rfl
  | cons char rest ih =>
      rw [List.cons_append, List.cons_append, List.cons_lt_cons_iff, ih]
      simp

theorem between_append_iff (base : String) {scope key : String} (after before : Option String)
    (rooted : IsRooted key) :
    Between (base ++ scope) (after.map (base ++ ·)) (before.map (base ++ ·)) (base ++ key) ↔
      Between scope after before key := by
  simp only [Between, inSubtree_append_iff base rooted, Option.mem_map, forall_exists_index,
    and_imp, forall_apply_eq_imp_iff₂, append_lt_append_iff]

end Path

namespace Entries

variable {α : Type}

/-- Every key is empty or begins with a separator. -/
def Rooted (entries : Entries α) : Prop :=
  ∀ key value, entries.find? key = some value → Path.IsRooted key

/-- The subtree at a base as entries of their own, whose keys are what follows the base. -/
def rerooted (entries : Entries α) (base : String) : Entries α where
  toList := entries.toList.filterMap fun entry =>
    (Path.rest? base entry.1).map fun rest => (rest, entry.2)
  sorted := by
    refine List.Pairwise.filterMap _ ?_ entries.sorted
    intro first second before left isLeft right isRight
    obtain ⟨leftRest, leftEqual, rfl⟩ := Option.map_eq_some_iff.mp isLeft
    obtain ⟨rightRest, rightEqual, rfl⟩ := Option.map_eq_some_iff.mp isRight
    rw [((Path.rest?_eq_some_iff ..).mp leftEqual).1,
      ((Path.rest?_eq_some_iff ..).mp rightEqual).1, Path.append_lt_append_iff] at before
    exact before

theorem mem_rerooted_iff (entries : Entries α) (base : String) (entry : String × α) :
    entry ∈ (entries.rerooted base).toList ↔
      (base ++ entry.1, entry.2) ∈ entries.toList ∧ Path.IsRooted entry.1 := by
  obtain ⟨rest, value⟩ := entry
  simp only [rerooted, List.mem_filterMap, Option.map_eq_some_iff, Path.rest?_eq_some_iff,
    Prod.mk.injEq, Prod.exists]
  constructor
  · rintro ⟨key, held, member, _, ⟨rfl, rooted⟩, rfl, rfl⟩
    exact ⟨member, rooted⟩
  · rintro ⟨member, rooted⟩
    exact ⟨_, value, member, rest, ⟨rfl, rooted⟩, rfl, rfl⟩

/-- What is found under a rooted key is what the whole holds behind the base. -/
theorem find?_rerooted (entries : Entries α) (base key : String) :
    (entries.rerooted base).find? key =
      if Path.IsRooted key then entries.find? (base ++ key) else none := by
  ext value
  rw [find?_eq_some_iff, mem_rerooted_iff]
  split
  · rename_i rooted
    rw [find?_eq_some_iff]
    exact and_iff_left rooted
  · rename_i unrooted
    exact iff_of_false (fun found => unrooted found.2) (Option.some_ne_none value).symm

theorem find?_rerooted_of_isRooted (entries : Entries α) (base : String) {key : String}
    (rooted : Path.IsRooted key) :
    (entries.rerooted base).find? key = entries.find? (base ++ key) := by
  rw [find?_rerooted, if_pos rooted]

theorem contains_rerooted (entries : Entries α) (base : String) {key : String}
    (rooted : Path.IsRooted key) :
    (entries.rerooted base).contains key = entries.contains (base ++ key) := by
  rw [contains, contains, find?_rerooted_of_isRooted entries base rooted]

theorem rooted_rerooted (entries : Entries α) (base : String) : (entries.rerooted base).Rooted := by
  intro key value found
  rw [find?_rerooted] at found
  split at found
  · assumption
  · cases found

/-- Rerooting at the top changes nothing. -/
theorem rerooted_empty {entries : Entries α} (rooted : entries.Rooted) :
    entries.rerooted "" = entries := by
  apply ext_find?
  intro key
  rw [find?_rerooted, String.empty_append]
  split
  · rfl
  · rename_i unrooted
    apply (Option.eq_none_iff_forall_ne_some.mpr _).symm
    exact fun value found => unrooted (rooted key value found)

/-! ## Changes -/

theorem rerooted_insert (entries : Entries α) (base : String) {key : String}
    (rooted : Path.IsRooted key) (value : α) :
    (entries.insert (base ++ key) value).rerooted base =
      (entries.rerooted base).insert key value := by
  apply ext_find?
  intro other
  rw [find?_rerooted, find?_insert, find?_insert, find?_rerooted]
  by_cases same : other = key
  · rw [if_pos same, if_pos (same ▸ rooted), if_pos (congrArg _ same)]
  · have apart : base ++ other ≠ base ++ key := fun equal =>
      same ((String.append_right_inj base).mp equal)
    rw [if_neg same, if_neg apart]

theorem rerooted_erase (entries : Entries α) (base key : String) :
    (entries.erase (base ++ key)).rerooted base = (entries.rerooted base).erase key := by
  apply ext_find?
  intro other
  rw [find?_rerooted, find?_erase, find?_erase, find?_rerooted]
  by_cases same : other = key
  · rw [if_pos same, if_pos (congrArg _ same), ite_self]
  · have apart : base ++ other ≠ base ++ key := fun equal =>
      same ((String.append_right_inj base).mp equal)
    rw [if_neg same, if_neg apart]

theorem rerooted_eraseAll (entries : Entries α) (base : String) (keys : List String) :
    (entries.eraseAll (keys.map (base ++ ·))).rerooted base =
      (entries.rerooted base).eraseAll keys := by
  induction keys generalizing entries with
  | nil => rfl
  | cons key keys ih =>
      change ((entries.erase (base ++ key)).eraseAll (keys.map (base ++ ·))).rerooted base =
        ((entries.rerooted base).erase key).eraseAll keys
      rw [ih, rerooted_erase]

/-! ## Scans -/

/-- A scan behind the base lists what the scan of the rerooted entries lists. -/
theorem between_append (entries : Entries α) (base : String) {scope : String}
    (after before : Option String) (scopeRooted : Path.IsRooted scope) (rooted : entries.Rooted) :
    entries.between (base ++ scope) (after.map (base ++ ·)) (before.map (base ++ ·)) =
      ((entries.rerooted base).between scope after before).map fun entry =>
        (base ++ entry.1, entry.2) := by
  apply eq_of_mem_iff (entries.between_sorted _ _ _)
  · rw [List.pairwise_map]
    apply ((entries.rerooted base).between_sorted scope after before).imp
    intro first second less
    exact (Path.append_lt_append_iff base _ _).mpr less
  · rintro ⟨key, value⟩
    simp only [mem_between_iff, List.mem_map, mem_rerooted_iff, Prod.exists, Prod.mk.injEq]
    constructor
    · rintro ⟨member, inside, bounds⟩
      have found := (entries.find?_eq_some_iff key value).mpr member
      obtain ⟨rest, restRooted, rfl⟩ :=
        (inside.of_append scopeRooted).exists_rest (rooted key value found)
      exact ⟨rest, value, ⟨⟨member, restRooted⟩,
        (Path.between_append_iff base after before restRooted).mp ⟨inside, bounds⟩⟩, rfl, rfl⟩
    · rintro ⟨rest, held, ⟨⟨member, restRooted⟩, between⟩, rfl, rfl⟩
      exact ⟨member, (Path.between_append_iff base after before restRooted).mpr between⟩

/-- The subtree behind the base is the subtree of the rerooted entries. -/
theorem subtree_append (entries : Entries α) (base : String) {scope : String}
    (scopeRooted : Path.IsRooted scope) (rooted : entries.Rooted) :
    entries.subtree (base ++ scope) =
      ((entries.rerooted base).subtree scope).map fun entry => (base ++ entry.1, entry.2) := by
  rw [subtree_eq_between, subtree_eq_between]
  exact entries.between_append base none none scopeRooted rooted

theorem rerooted_prune (entries : Entries α) (base scope : String) :
    (entries.prune (base ++ scope)).rerooted base = (entries.rerooted base).prune scope := by
  apply ext_find?
  intro key
  rw [find?_rerooted, find?_prune, find?_prune, find?_rerooted]
  by_cases keyRooted : Path.IsRooted key
  · rw [if_pos keyRooted, if_pos keyRooted]
    simp only [Path.inSubtree_append_iff base keyRooted]
  · rw [if_neg keyRooted, if_neg keyRooted, ite_self]

/-! ## What lies outside -/

/-- Two maps hold the same outside the subtree at a base, and only rooted keys. -/
structure Confined (base : String) (before after : Entries α) : Prop where
  rooted : after.Rooted
  outside : ∀ key, ¬Path.InSubtree base key → after.find? key = before.find? key

namespace Confined

variable {base : String} {before after : Entries α}

theorem refl (base : String) (rooted : before.Rooted) : Confined base before before :=
  ⟨rooted, fun _ _ => rfl⟩

theorem insert (confined : Confined base before after) (baseRooted : Path.IsRooted base)
    {key : String} (keyRooted : Path.IsRooted key) (value : α) :
    Confined base before (after.insert (base ++ key) value) where
  rooted other held found := by
    rw [find?_insert] at found
    split at found
    · rename_i same
      exact same ▸ baseRooted.append keyRooted
    · exact confined.rooted other held found
  outside other far := by
    rw [find?_insert, if_neg, confined.outside other far]
    rintro rfl
    exact far (Path.inSubtree_append base keyRooted)

/-- Whatever removes keys of the subtree only keeps what lies outside. -/
theorem of_removed {left : Entries α} (confined : Confined base before after)
    (removed : ∀ key, left.find? key = after.find? key ∨
      left.find? key = none ∧ Path.InSubtree base key) : Confined base before left where
  rooted key value found := by
    rcases removed key with same | ⟨gone, _⟩
    · exact confined.rooted key value (same ▸ found)
    · rw [gone] at found
      cases found
  outside key far := by
    rcases removed key with same | ⟨_, inside⟩
    · rw [same, confined.outside key far]
    · exact absurd inside far

theorem erase (confined : Confined base before after) {key : String}
    (keyRooted : Path.IsRooted key) : Confined base before (after.erase (base ++ key)) := by
  apply confined.of_removed
  intro other
  rw [find?_erase]
  split
  · rename_i same
    exact .inr ⟨rfl, same ▸ Path.inSubtree_append base keyRooted⟩
  · exact .inl rfl

theorem eraseAll (confined : Confined base before after) {keys : List String}
    (keysRooted : ∀ key ∈ keys, Path.IsRooted key) :
    Confined base before (after.eraseAll (keys.map (base ++ ·))) := by
  apply confined.of_removed
  intro other
  rw [find?_eraseAll]
  split
  · rename_i member
    obtain ⟨key, listed, rfl⟩ := List.mem_map.mp member
    exact .inr ⟨rfl, Path.inSubtree_append base (keysRooted key listed)⟩
  · exact .inl rfl

theorem prune (confined : Confined base before after) {scope : String}
    (scopeRooted : Path.IsRooted scope) :
    Confined base before (after.prune (base ++ scope)) := by
  apply confined.of_removed
  intro other
  rw [find?_prune]
  split
  · rename_i inside
    exact .inr ⟨rfl, inside.of_append scopeRooted⟩
  · exact .inl rfl

end Confined

end Entries

end PathStore
