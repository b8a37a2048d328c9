import Mathlib.Order.Bounds.Basic
import PathStore.Proofs.Entries.Seeking
import PathStore.Proofs.Keys.Bytes

/-!
# Seeking between any bounds

A seek may be given any two keys to look between, in whatever order they stand to each other and to the
scope, and none of the keys has to be canonical. It finds the least or the greatest key of the subtree
between the two, and the range that it asks the map for is one that can be asked for.
-/

namespace PathStore

open PathStore.Path

/-! ## Ranges that can be asked for -/

namespace KeyRange

/-- A map breaks off if it is asked for a range that ends before it begins, or both of whose ends leave
out one and the same key. -/
def BreaksOff (range : KeyRange) : Prop :=
  (∃ lower upper, range.lower.key? = some lower ∧ range.upper.key? = some upper ∧ upper < lower) ∨
    ∃ key, range = ⟨.excluded key, .excluded key⟩

theorem crossed_of_breaksOff {range : KeyRange} (breaks : range.BreaksOff) :
    range.crossed = true := by
  rcases breaks with ⟨lower, upper, begins, ends, inverted⟩ | ⟨key, rfl⟩
  · rw [crossed, begins, ends]
    exact decide_eq_true inverted.le
  · exact decide_eq_true le_rfl

/-- The range below a scope and between two keys is asked for only if that can be done. -/
theorem not_breaksOff_of_descendants {scope : String} {after before : Option String}
    {range : KeyRange} (asked : descendants scope after before = some range) :
    ¬range.BreaksOff := by
  intro breaks
  dsimp only [descendants] at asked
  split at asked
  · cases asked
  · rename_i apart
    cases asked
    exact apart (crossed_of_breaksOff breaks)

end KeyRange

/-! ## Ends of sorted lists -/

namespace Entries

theorem head?_eq_some_iff_isLeast {keys : List String} (sorted : keys.Pairwise (· < ·))
    (key : String) : keys.head? = some key ↔ IsLeast {other | other ∈ keys} key := by
  cases keys with
  | nil => simp [IsLeast]
  | cons first rest =>
      have above := (List.pairwise_cons.mp sorted).1
      have least : IsLeast {other | other ∈ first :: rest} first := by
        refine ⟨List.mem_cons_self, fun other member => ?_⟩
        rcases List.mem_cons.mp member with rfl | later
        · exact le_rfl
        · exact (above other later).le
      rw [List.head?_cons, Option.some.injEq]
      constructor
      · rintro rfl
        exact least
      · exact least.unique

theorem getLast?_eq_some_iff_isGreatest {keys : List String} (sorted : keys.Pairwise (· < ·))
    (key : String) : keys.getLast? = some key ↔ IsGreatest {other | other ∈ keys} key := by
  rcases keys.eq_nil_or_concat' with rfl | ⟨rest, last, rfl⟩
  · simp [IsGreatest]
  · have under := (List.pairwise_append.mp sorted).2.2
    have greatest : IsGreatest {other | other ∈ rest ++ [last]} last := by
      refine ⟨by simp, fun other member => ?_⟩
      rcases List.mem_append.mp member with earlier | same
      · exact (under other earlier last List.mem_cons_self).le
      · exact (List.mem_singleton.mp same).le
    rw [List.getLast?_concat, Option.some.injEq]
    constructor
    · rintro rfl
      exact greatest
    · exact greatest.unique

/-! ## Seeks -/

variable {α : Type}

/-- The keys of a subtree strictly between two keys. -/
def sought (entries : Entries α) (scope : String) (after before : Option String) : Set String :=
  {key | key ∈ entries.keys ∧ Between scope after before key}

theorem sought_eq (entries : Entries α) (scope : String) (after before : Option String) :
    entries.sought scope after before =
      {key | key ∈ (entries.between scope after before).map (·.1)} := by
  ext key
  exact (entries.mem_keys_between_iff scope after before key).symm

theorem sought_eq_empty_iff (entries : Entries α) (scope : String) (after before : Option String) :
    entries.sought scope after before = ∅ ↔
      (entries.between scope after before).map (·.1) = [] := by
  rw [sought_eq, Set.eq_empty_iff_forall_notMem, List.eq_nil_iff_forall_not_mem]
  rfl

/-- Seeking finds the least and the greatest key of a subtree between any two keys, and nothing only if
there is none, without ever asking for a range that cannot be asked for. The keys behind a scope and a
separator are those from the one text up to the other, in the order of the bytes, which is the order of
keys. -/
theorem seeks_exactly (entries : Entries α) (scope : String) (after before : Option String) :
    ((∀ key, entries.firstBetween scope after before = some key ↔
        IsLeast (entries.sought scope after before) key) ∧
      (∀ key, entries.lastBetween scope after before = some key ↔
        IsGreatest (entries.sought scope after before) key) ∧
      (entries.firstBetween scope after before = none ↔ entries.sought scope after before = ∅) ∧
      (entries.lastBetween scope after before = none ↔ entries.sought scope after before = ∅)) ∧
    (∀ range, KeyRange.descendants scope after before = some range → ¬range.BreaksOff) ∧
    (∀ key, bytes (scope ++ "/") ≤ bytes key ∧ bytes key < bytes (scope ++ "0") ↔
      (scope ++ "/").toList <+: key.toList) ∧
    ∀ left right : String, left < right ↔ bytes left < bytes right := by
  have sorted : ((entries.between scope after before).map (·.1)).Pairwise (· < ·) :=
    List.pairwise_map.mpr (entries.between_sorted scope after before)
  refine ⟨⟨fun key => ?least, fun key => ?greatest, ?noFirst, ?noLast⟩,
    fun _ => KeyRange.not_breaksOff_of_descendants, fun key => ?behind, lt_iff_bytes_lt⟩
  case least =>
    rw [firstBetween_eq_head?, sought_eq]
    exact head?_eq_some_iff_isLeast sorted key
  case greatest =>
    rw [lastBetween_eq_getLast?, sought_eq]
    exact getLast?_eq_some_iff_isGreatest sorted key
  case noFirst => rw [firstBetween_eq_head?, List.head?_eq_none_iff, sought_eq_empty_iff]
  case noLast => rw [lastBetween_eq_getLast?, List.getLast?_eq_none_iff, sought_eq_empty_iff]
  case behind =>
    rw [← lt_iff_bytes_lt, ← List.not_lt, ← lt_iff_bytes_lt, not_lt]
    exact (isBelow_iff_between scope key).symm

/-- The bounds stand in a subtree, but one of them is a stranger between its own entry and the rest. -/
theorem seeks_exactly_tree :
    let entries : Entries Unit :=
      ⟨[("/tree", ()), ("/tree.x", ()), ("/tree/i", ()), ("/tree/sub", ()), ("/tree0", ())],
        by decide +kernel⟩
    KeyRange.descendants "/tree" (some "/tree.x") (some "/tree/sub") =
        some ⟨.included "/tree/", .excluded "/tree/sub"⟩ ∧
      ¬KeyRange.BreaksOff ⟨.included "/tree/", .excluded "/tree/sub"⟩ ∧
      IsLeast (entries.sought "/tree" (some "/tree.x") (some "/tree/sub")) "/tree/i" ∧
      entries.sought "/tree" (some "/tree/sub") (some "/tree") = ∅ := by
  intro entries
  obtain ⟨⟨least, -⟩, asked, -⟩ :=
    seeks_exactly entries "/tree" (some "/tree.x") (some "/tree/sub")
  obtain ⟨⟨-, -, none, -⟩, -⟩ := seeks_exactly entries "/tree" (some "/tree/sub") (some "/tree")
  have range : KeyRange.descendants "/tree" (some "/tree.x") (some "/tree/sub") =
      some ⟨.included "/tree/", .excluded "/tree/sub"⟩ := by decide +kernel
  exact ⟨range, asked _ range, (least _).mp (by decide +kernel), none.mp (by decide +kernel)⟩

end Entries

end PathStore
