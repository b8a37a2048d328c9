import Mathlib.Data.String.Basic
import PathStore.Path

/-!
# The keys of a subtree

A key belongs to the subtree of a scope if it is the scope itself or continues it behind a
separator. This is a statement about components. The store finds the same keys by their order: those
that continue the scope are exactly the ones from the scope with a separator up to the scope with
the character after the separator.
-/

namespace PathStore.Path

/-- The key continues the scope behind a separator. -/
def IsBelow (scope key : String) : Prop :=
  (scope ++ "/").toList <+: key.toList

instance (scope key : String) : Decidable (IsBelow scope key) :=
  inferInstanceAs (Decidable ((scope ++ "/").toList <+: key.toList))

/-- The key is the scope's own or lies below it. Everything is in the subtree of the empty scope. -/
def InSubtree (scope key : String) : Prop :=
  scope = "" ∨ key = scope ∨ IsBelow scope key

instance (scope key : String) : Decidable (InSubtree scope key) :=
  inferInstanceAs (Decidable (scope = "" ∨ key = scope ∨ IsBelow scope key))

theorem inSubtree_empty (key : String) : InSubtree "" key :=
  .inl rfl

theorem inSubtree_iff {scope : String} (named : scope ≠ "") (key : String) :
    InSubtree scope key ↔ key = scope ∨ IsBelow scope key := by
  simp [InSubtree, named]

/-! ## Order of the keys below a scope -/

/-- The separator is the only character from itself up to the next one. -/
theorem eq_separator_iff (char : Char) : '/' = char ↔ '/' ≤ char ∧ char < '0' := by
  constructor
  · rintro rfl
    decide
  · rintro ⟨above, below⟩
    apply Char.ext
    apply UInt32.toNat_inj.mp
    have least : '/'.val.toNat ≤ char.val.toNat := above
    have greatest : char.val.toNat < '0'.val.toNat := below
    have first : '/'.val.toNat = 47 := rfl
    have next : '0'.val.toNat = 48 := rfl
    omega

/-- The texts that begin with a text and a separator form one interval. -/
theorem isPrefix_iff_between (scope key : List Char) :
    scope ++ ['/'] <+: key ↔ ¬key < scope ++ ['/'] ∧ key < scope ++ ['0'] := by
  induction scope generalizing key with
  | nil =>
      cases key with
      | nil => simp [List.prefix_nil]
      | cons char rest =>
          simp only [List.nil_append, List.cons_prefix_cons, List.nil_prefix, and_true,
            List.cons_lt_cons_iff, List.not_lt_nil, and_false, or_false, not_lt]
          exact eq_separator_iff char
  | cons first scope ih =>
      cases key with
      | nil => simp [List.prefix_nil]
      | cons char rest =>
          simp only [List.cons_append, List.cons_prefix_cons, List.cons_lt_cons_iff, ih rest,
            not_or, not_and]
          constructor
          · rintro ⟨rfl, above, below⟩
            exact ⟨⟨lt_irrefl _, fun _ => above⟩, .inr ⟨rfl, below⟩⟩
          · rintro ⟨⟨notBefore, above⟩, before | ⟨rfl, below⟩⟩
            · exact absurd before notBefore
            · exact ⟨rfl, above rfl, below⟩

/-- The keys below a scope are those from `scope/` up to, but without, `scope0`. -/
theorem isBelow_iff_between (scope key : String) :
    IsBelow scope key ↔ scope ++ "/" ≤ key ∧ key < scope ++ "0" := by
  rw [← not_lt, String.lt_iff_toList_lt, String.lt_iff_toList_lt, IsBelow, String.toList_append,
    String.toList_append]
  exact isPrefix_iff_between scope.toList key.toList

/-- A scope comes before every key below it. -/
theorem lt_of_isBelow {scope key : String} (below : IsBelow scope key) : scope < key := by
  obtain ⟨rest, equal⟩ := below
  rw [String.lt_iff_toList_lt, ← equal, String.toList_append, List.append_assoc]
  nth_rewrite 1 [← List.append_nil scope.toList]
  exact List.append_left_lt (List.nil_lt_cons ..)

end PathStore.Path
