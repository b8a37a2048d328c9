import Mathlib.Data.List.Sort
import Mathlib.Data.String.Basic
import PathStore.Entries

/-!
# Entries by what is found in them

Ordered entries are determined by what is found under each key. So two ways to compute entries are
compared by looking up one key, and lists that are in strict order by their members.
-/

namespace PathStore.Entries

variable {α : Type}

/-- Two lists of entries in strict order are equal if they have the same members. -/
theorem eq_of_mem_iff {left right : List (String × α)}
    (leftSorted : left.Pairwise fun first second => first.1 < second.1)
    (rightSorted : right.Pairwise fun first second => first.1 < second.1)
    (members : ∀ entry, entry ∈ left ↔ entry ∈ right) : left = right := by
  have antisymm : Std.Antisymm fun first second : String × α => first.1 < second.1 :=
    ⟨fun _ _ before after => absurd after (lt_asymm before)⟩
  have irrefl : Std.Irrefl fun first second : String × α => first.1 < second.1 :=
    ⟨fun entry => lt_irrefl entry.1⟩
  exact leftSorted.eq_of_mem_iff rightSorted members

theorem lookup_eq_some_iff {list : List (String × α)}
    (sorted : list.Pairwise fun first second => first.1 < second.1) (key : String) (value : α) :
    list.lookup key = some value ↔ (key, value) ∈ list := by
  induction list with
  | nil => simp
  | cons head rest ih =>
      obtain ⟨first, held⟩ := head
      obtain ⟨above, sortedRest⟩ := List.pairwise_cons.mp sorted
      rw [List.lookup_cons, List.mem_cons, Prod.mk.injEq]
      by_cases same : key = first
      · subst same
        have absent : (key, value) ∉ rest := fun member => lt_irrefl key (above _ member)
        simp only [beq_self_eq_true, Option.some.injEq, true_and, absent, or_false]
        exact eq_comm
      · have different : (key == first) = false := by simpa using same
        simp only [different, same, false_and, false_or]
        exact ih sortedRest

/-- A value is found under a key exactly if the two make an entry. -/
theorem find?_eq_some_iff (entries : Entries α) (key : String) (value : α) :
    entries.find? key = some value ↔ (key, value) ∈ entries.toList :=
  lookup_eq_some_iff entries.sorted key value

/-- Entries in which the same is found under every key are the same. -/
theorem ext_find? {left right : Entries α}
    (agree : ∀ key, left.find? key = right.find? key) : left = right := by
  apply ext
  apply eq_of_mem_iff left.sorted right.sorted
  intro entry
  rw [← find?_eq_some_iff, ← find?_eq_some_iff, agree]

theorem mem_keys_iff (entries : Entries α) (key : String) :
    key ∈ entries.keys ↔ ∃ value, entries.find? key = some value := by
  simp only [keys, find?_eq_some_iff, List.mem_map, Prod.exists, exists_and_right, exists_eq_right]

/-- Removing several keys takes away those and no other. -/
theorem find?_eraseAll (entries : Entries α) (keys : List String) (other : String) :
    (entries.eraseAll keys).find? other = if other ∈ keys then none else entries.find? other := by
  induction keys generalizing entries with
  | nil => simp [eraseAll]
  | cons key keys ih =>
      change ((entries.erase key).eraseAll keys).find? other = _
      rw [ih, find?_erase]
      by_cases same : other = key
      · rw [if_pos same, ite_self, if_pos (List.mem_cons.mpr (.inl same))]
      · rw [if_neg same]
        simp only [List.mem_cons, same, false_or]

/-- What is stored in order is found, and nothing else changes. -/
theorem find?_insertAll (entries : Entries α) {list : List (String × α)}
    (sorted : list.Pairwise fun first second => first.1 < second.1) (key : String) :
    (entries.insertAll list).find? key = (list.lookup key).or (entries.find? key) := by
  induction list generalizing entries with
  | nil => rfl
  | cons head rest ih =>
      obtain ⟨first, held⟩ := head
      obtain ⟨above, sortedRest⟩ := List.pairwise_cons.mp sorted
      change ((entries.insert first held).insertAll rest).find? key = _
      rw [ih _ sortedRest, find?_insert, List.lookup_cons]
      by_cases same : key = first
      · subst same
        have absent : rest.lookup key = none := by
          apply Option.eq_none_iff_forall_ne_some.mpr
          intro value found
          exact lt_irrefl key (above _ ((lookup_eq_some_iff sortedRest key value).mp found))
        simp [absent]
      · have different : (key == first) = false := by simpa using same
        simp only [different, same, if_false]

/-- Entries are what comes of storing them one by one. -/
theorem insertAll_toList (entries : Entries α) : empty.insertAll entries.toList = entries := by
  apply ext_find?
  intro key
  rw [find?_insertAll empty entries.sorted, find?_empty, Option.or_none]
  rfl

/-! ## Keeping and removing by a test of the key -/

/-- What is kept is found as before. -/
theorem find?_keepKeys (entries : Entries α) (keep : String → Bool) (key : String) :
    (entries.keepKeys keep).find? key = if keep key then entries.find? key else none := by
  ext value
  rw [find?_eq_some_iff, keepKeys, List.mem_filter, ← find?_eq_some_iff]
  split
  · rename_i kept
    exact and_iff_left kept
  · rename_i removed
    exact iff_of_false (fun held => removed held.2) (Option.some_ne_none value).symm

/-- Removing all keys of the entries that pass a test leaves those that do not. -/
theorem eraseAll_filter_keys (entries : Entries α) (test : String → Bool) :
    entries.eraseAll (entries.keys.filter test) = entries.keepKeys fun key => !test key := by
  apply ext_find?
  intro key
  rw [find?_eraseAll, find?_keepKeys]
  by_cases passes : test key
  · simp only [List.mem_filter, passes, and_true, Bool.not_true, Bool.false_eq_true, if_false]
    split
    · rfl
    · rename_i absent
      refine Option.eq_none_iff_forall_ne_some.mpr fun value found => absent ?_
      exact (entries.mem_keys_iff key).mpr ⟨value, found⟩
  · simp [List.mem_filter, passes]

theorem contains_of_mem_keys {entries : Entries α} {key : String} (member : key ∈ entries.keys) :
    entries.contains key = true := by
  obtain ⟨value, found⟩ := (entries.mem_keys_iff key).mp member
  rw [contains, found]
  rfl

/-- The entries that pass a test and those that are kept without them are all there are. -/
theorem size_keepKeys_add (entries : Entries α) (test : String → Bool) :
    (entries.keepKeys fun key => !test key).size + (entries.keys.filter test).length =
      entries.size := by
  rw [size, size, keepKeys, keys, List.filter_map, List.length_map, Nat.add_comm]
  exact (List.length_eq_length_filter_add _).symm

end PathStore.Entries
