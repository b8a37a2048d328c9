import PathStore.Entries.Subtree
import PathStore.Proofs.Entries.Lookup
import PathStore.Proofs.Keys.Subtree

/-!
# Seeking in ordered entries

What a subtree holds strictly between two keys is a plain filter of the ordered entries. The scans
and seeks of the store take the own entry of the scope apart from the range of the keys below it;
here they are shown to agree with that filter: the scan lists it, the seeks give its ends.
-/

namespace PathStore

/-! ## Ranges of keys -/

namespace Bound

/-- A raised bound admits what the bound itself admits after the given key. -/
theorem admitsAbove_raise (lower : Bound) (after : Option String) (key : String) :
    (lower.raise after).admitsAbove key = true ↔
      lower.admitsAbove key = true ∧ ∀ last ∈ after, last < key := by
  cases after with
  | none => simp [raise]
  | some last =>
      cases lower <;>
        simp only [raise, key?, admitsAbove, Option.all_none, Option.all_some, decide_eq_true_eq,
          Option.mem_some_iff, forall_eq', if_true, true_and] <;>
        grind [admitsAbove]

/-- A reduced bound admits what the bound itself admits before the given key. -/
theorem admitsBelow_reduce (upper : Bound) (before : Option String) (key : String) :
    (upper.reduce before).admitsBelow key = true ↔
      upper.admitsBelow key = true ∧ ∀ next ∈ before, key < next := by
  cases before with
  | none => simp [reduce]
  | some next =>
      cases upper <;>
        simp only [reduce, key?, admitsBelow, Option.all_none, Option.all_some, decide_eq_true_eq,
          Option.mem_some_iff, forall_eq', if_true, true_and] <;>
        grind [admitsBelow]

end Bound

namespace KeyRange

/-- A range whose ends have met admits nothing, provided that its upper end is left out. -/
theorem admits_eq_false_of_crossed {range : KeyRange} (crossed : range.crossed = true)
    (open_above : ∀ key, range.upper ≠ .included key) (key : String) :
    range.admits key = false := by
  obtain ⟨lower, upper⟩ := range
  cases lower <;> cases upper <;>
    simp only [KeyRange.crossed, Bound.key?, decide_eq_true_eq, reduceCtorEq] at crossed <;>
    simp only [admits, Bound.admitsAbove, Bound.admitsBelow, Bool.and_eq_false_iff,
      decide_eq_false_iff_not] <;>
    grind

/-- A bound of a subtree that is reduced still leaves its end out. -/
theorem reduce_below_upper_ne_included (scope : String) (before : Option String) (key : String) :
    (below scope).upper.reduce before ≠ .included key := by
  unfold below
  cases before <;> split <;> simp only [Bound.reduce, ne_eq, reduceCtorEq, not_false_eq_true] <;>
    split <;> simp

/-- The range below a scope admits the keys that continue the scope behind a separator. -/
theorem admits_below_iff (scope key : String) :
    (below scope).admits key = true ↔ scope = "" ∨ Path.IsBelow scope key := by
  unfold below
  by_cases whole : scope = ""
  · simp [whole, admits, Bound.admitsAbove, Bound.admitsBelow]
  · rw [if_neg (by simpa using whole), Path.isBelow_iff_between]
    simp only [admits, Bound.admitsAbove, Bound.admitsBelow, Bool.and_eq_true, decide_eq_true_eq,
      whole, false_or]

/-- The narrowed range, if there is one, admits the keys below the scope that lie between the two.
-/
theorem admits_descendants_iff (scope : String) (after before : Option String) (key : String) :
    (descendants scope after before).any (·.admits key) = true ↔
      (scope = "" ∨ Path.IsBelow scope key) ∧
        (∀ last ∈ after, last < key) ∧ ∀ next ∈ before, key < next := by
  have narrowed : admits
      ⟨(below scope).lower.raise after, (below scope).upper.reduce before⟩ key = true ↔
        (scope = "" ∨ Path.IsBelow scope key) ∧
          (∀ last ∈ after, last < key) ∧ ∀ next ∈ before, key < next := by
    rw [← admits_below_iff, admits, admits, Bool.and_eq_true, Bool.and_eq_true,
      Bound.admitsAbove_raise, Bound.admitsBelow_reduce]
    tauto
  rw [← narrowed]
  dsimp only [descendants]
  split
  next crossed =>
    have refused := admits_eq_false_of_crossed crossed
      (reduce_below_upper_ne_included scope before) key
    rw [Option.any_none, refused]
  next => rw [Option.any_some]

end KeyRange

namespace Path

/-- The key lies in the subtree of a scope, after one key and before another. -/
def Between (scope : String) (after before : Option String) (key : String) : Prop :=
  InSubtree scope key ∧ (∀ last ∈ after, last < key) ∧ ∀ next ∈ before, key < next

instance (scope : String) (after before : Option String) (key : String) :
    Decidable (Between scope after before key) :=
  inferInstanceAs (Decidable (InSubtree scope key ∧ (∀ last ∈ after, last < key) ∧
    ∀ next ∈ before, key < next))

end Path

namespace Entries

variable {α : Type}

/-- The entries of a subtree strictly between two keys. -/
def between (entries : Entries α) (scope : String) (after before : Option String) :
    List (String × α) :=
  entries.toList.filter fun entry => Path.Between scope after before entry.1

theorem mem_between_iff (entries : Entries α) (scope : String) (after before : Option String)
    (entry : String × α) :
    entry ∈ entries.between scope after before ↔
      entry ∈ entries.toList ∧ Path.Between scope after before entry.1 := by
  rw [between, List.mem_filter, decide_eq_true_eq]

theorem mem_keys_between_iff (entries : Entries α) (scope : String) (after before : Option String)
    (key : String) :
    key ∈ (entries.between scope after before).map (·.1) ↔
      key ∈ entries.keys ∧ Path.Between scope after before key := by
  simp only [keys, List.mem_map, mem_between_iff]
  constructor
  · rintro ⟨entry, ⟨member, between⟩, rfl⟩
    exact ⟨⟨entry, member, rfl⟩, between⟩
  · rintro ⟨⟨entry, member, rfl⟩, between⟩
    exact ⟨entry, ⟨member, between⟩, rfl⟩

theorem between_sorted (entries : Entries α) (scope : String) (after before : Option String) :
    (entries.between scope after before).Pairwise fun first second => first.1 < second.1 :=
  entries.sorted.filter _

/-! ## The own entry and the range below it -/

theorem descendants_eq_filter (entries : Entries α) (scope : String)
    (after before : Option String) :
    entries.descendants scope after before = entries.toList.filter fun entry =>
      (KeyRange.descendants scope after before).any (·.admits entry.1) := by
  unfold descendants
  cases KeyRange.descendants scope after before with
  | none => simp
  | some range => rfl

/-- The range scan lists what lies below the scope and between the two keys. -/
theorem mem_descendants_iff (entries : Entries α) (scope : String) (after before : Option String)
    (entry : String × α) :
    entry ∈ entries.descendants scope after before ↔
      entry ∈ entries.toList ∧ (scope = "" ∨ Path.IsBelow scope entry.1) ∧
        (∀ last ∈ after, last < entry.1) ∧ ∀ next ∈ before, entry.1 < next := by
  rw [descendants_eq_filter, List.mem_filter, KeyRange.admits_descendants_iff]

theorem ownEntry?_eq_some_iff (entries : Entries α) (scope : String) (after before : Option String)
    (entry : String × α) :
    entries.ownEntry? scope after before = some entry ↔
      entry ∈ entries.toList ∧ (scope ≠ "" ∧ entry.1 = scope) ∧
        (∀ last ∈ after, last < entry.1) ∧ ∀ next ∈ before, entry.1 < next := by
  obtain ⟨key, value⟩ := entry
  unfold ownEntry?
  by_cases whole : scope = ""
  · simp [whole]
  · rw [if_neg (by simpa using whole)]
    by_cases bounded : (∀ last ∈ after, last < scope) ∧ ∀ next ∈ before, scope < next
    · rw [if_pos (by simpa [Option.all_eq_true, -String.lt_iff_ltb] using bounded)]
      simp only [Option.map_eq_some_iff, find?_eq_some_iff, Prod.mk.injEq]
      constructor
      · rintro ⟨held, member, rfl, rfl⟩
        exact ⟨member, ⟨whole, rfl⟩, bounded⟩
      · rintro ⟨member, ⟨_, rfl⟩, _⟩
        exact ⟨value, member, rfl, rfl⟩
    · rw [if_neg (by simpa [Option.all_eq_true, -String.lt_iff_ltb] using bounded)]
      constructor
      · intro found
        exact absurd found (by simp)
      · rintro ⟨_, ⟨_, rfl⟩, inside⟩
        exact absurd inside bounded

/-- The own entry and the scan below the scope make up the subtree, in order. -/
theorem ownEntry?_append_descendants (entries : Entries α) (scope : String)
    (after before : Option String) :
    (entries.ownEntry? scope after before).toList ++ entries.descendants scope after before =
      entries.between scope after before := by
  apply eq_of_mem_iff _ (entries.between_sorted scope after before)
  · intro entry
    rw [List.mem_append, Option.mem_toList, ownEntry?_eq_some_iff, mem_descendants_iff,
      mem_between_iff, Path.Between, Path.InSubtree]
    tauto
  · rw [List.pairwise_append]
    refine ⟨?_, ?_, ?_⟩
    · cases entries.ownEntry? scope after before <;> simp
    · rw [descendants_eq_filter]
      exact entries.sorted.filter _
    · intro own isOwn entry isBelow
      rw [Option.mem_toList, ownEntry?_eq_some_iff] at isOwn
      rw [mem_descendants_iff] at isBelow
      obtain ⟨_, ⟨named, rfl⟩, _⟩ := isOwn
      exact Path.lt_of_isBelow (isBelow.2.1.resolve_left named)

/-! ## Scans and seeks as ends of the filter -/

/-- The scan of a subtree lists it in order. -/
theorem subtree_eq_between (entries : Entries α) (scope : String) :
    entries.subtree scope = entries.between scope none none :=
  ownEntry?_append_descendants entries scope none none

/-- The subtree at the empty scope is everything. -/
theorem subtree_empty (entries : Entries α) : entries.subtree "" = entries.toList := by
  rw [subtree_eq_between, between, List.filter_eq_self]
  intro entry _
  exact decide_eq_true ⟨Path.inSubtree_empty entry.1, by simp, by simp⟩

/-- A subtree has as many entries as there are keys in it. -/
theorem length_subtree (entries : Entries α) (scope : String) :
    (entries.subtree scope).length =
      (entries.keys.filter fun key => decide (Path.InSubtree scope key)).length := by
  rw [subtree_eq_between, between, keys, List.filter_map, List.length_map]
  simp [Path.Between, Function.comp_def]

/-- What changes in a subtree alone makes the whole larger by as much as the subtree. -/
theorem length_subtree_add_size {before after : Entries α} {scope : String}
    (outside : ∀ key, ¬Path.InSubtree scope key → after.find? key = before.find? key) :
    (after.subtree scope).length + before.size = (before.subtree scope).length + after.size := by
  have kept : (after.keepKeys fun key => !decide (Path.InSubtree scope key)) =
      before.keepKeys fun key => !decide (Path.InSubtree scope key) := by
    apply ext_find?
    intro key
    rw [find?_keepKeys, find?_keepKeys]
    by_cases inside : Path.InSubtree scope key
    · simp [inside]
    · simp [inside, outside key inside]
  have first := before.size_keepKeys_add fun key => decide (Path.InSubtree scope key)
  have second := after.size_keepKeys_add fun key => decide (Path.InSubtree scope key)
  rw [kept] at second
  rw [length_subtree, length_subtree]
  omega

/-- Seeking from the front gives the first key between the two. -/
theorem firstBetween_eq_head? (entries : Entries α) (scope : String)
    (after before : Option String) :
    entries.firstBetween scope after before =
      ((entries.between scope after before).map (·.1)).head? := by
  rw [← ownEntry?_append_descendants, firstBetween]
  cases entries.ownEntry? scope after before with
  | none => simp
  | some entry => simp

/-- Seeking from the back gives the last key between the two. -/
theorem lastBetween_eq_getLast? (entries : Entries α) (scope : String)
    (after before : Option String) :
    entries.lastBetween scope after before =
      ((entries.between scope after before).map (·.1)).getLast? := by
  rw [← ownEntry?_append_descendants, lastBetween]
  cases none : (entries.descendants scope after before).getLast? with
  | none =>
      rw [List.getLast?_eq_none_iff] at none
      cases entries.ownEntry? scope after before <;> simp [none]
  | some entry =>
      rw [List.map_append, List.getLast?_append, List.getLast?_map, none]
      rfl

/-! ## Removing a subtree -/

theorem mem_subtree_keys_iff (entries : Entries α) (scope key : String) :
    key ∈ (entries.subtree scope).map (·.1) ↔
      (∃ value, entries.find? key = some value) ∧ Path.InSubtree scope key := by
  simp only [subtree_eq_between, List.mem_map, mem_between_iff, Path.Between, find?_eq_some_iff]
  constructor
  · rintro ⟨entry, ⟨member, inside, _⟩, rfl⟩
    exact ⟨⟨entry.2, member⟩, inside⟩
  · rintro ⟨⟨value, member⟩, inside⟩
    exact ⟨(key, value), ⟨member, inside, by simp, by simp⟩, rfl⟩

/-- Removing a subtree takes away the keys of the subtree and no other. -/
theorem find?_prune (entries : Entries α) (scope key : String) :
    (entries.prune scope).find? key =
      if Path.InSubtree scope key then none else entries.find? key := by
  unfold prune
  split
  · rename_i empty
    rw [String.isEmpty_iff.mp empty, if_pos (Path.inSubtree_empty key), find?_empty]
  · rw [find?_eraseAll]
    by_cases inside : Path.InSubtree scope key
    · rw [if_pos inside]
      cases found : entries.find? key with
      | none => exact ite_self none
      | some value =>
          rw [if_pos ((mem_subtree_keys_iff entries scope key).mpr ⟨⟨value, found⟩, inside⟩)]
    · rw [if_neg inside, if_neg]
      intro member
      exact inside ((mem_subtree_keys_iff entries scope key).mp member).2

/-- Removing a subtree keeps the entries whose keys are not in it. -/
theorem prune_eq_keepKeys (entries : Entries α) (scope : String) :
    entries.prune scope = entries.keepKeys fun key => !decide (Path.InSubtree scope key) := by
  apply ext_find?
  intro key
  rw [find?_prune, find?_keepKeys]
  by_cases inside : Path.InSubtree scope key <;> simp [inside]

end Entries

end PathStore
