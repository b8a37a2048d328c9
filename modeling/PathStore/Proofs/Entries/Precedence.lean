import PathStore.Proofs.Entries.Lookup

/-!
# Which of several values stands

Of several values that are stored one after the other the last one under a key stands. If each of them
is stored only where nothing is, what was there before stands, and otherwise the first one. So the two
come to the same in an empty map if the list is turned round.
-/

namespace PathStore.Entries

variable {α : Type}

/-- The values that a list gives under a key, in order. -/
def valuesUnder (list : List (String × α)) (key : String) : List α :=
  (list.filter (·.1 == key)).map (·.2)

theorem valuesUnder_cons (head : String × α) (rest : List (String × α)) (key : String) :
    valuesUnder (head :: rest) key =
      if head.1 = key then head.2 :: valuesUnder rest key else valuesUnder rest key := by
  unfold valuesUnder
  by_cases same : head.1 = key <;> simp [same]

theorem valuesUnder_reverse (list : List (String × α)) (key : String) :
    valuesUnder list.reverse key = (valuesUnder list key).reverse := by
  rw [valuesUnder, valuesUnder, List.filter_reverse, List.map_reverse]

/-! ## The last one, in the place of the others -/

/-- The last value that is stored under a key is found there. -/
theorem find?_insertAll_eq_getLast? (entries : Entries α) (list : List (String × α))
    (key : String) :
    (entries.insertAll list).find? key =
      (valuesUnder list key).getLast?.or (entries.find? key) := by
  induction list generalizing entries with
  | nil => rfl
  | cons head rest ih =>
      change ((entries.insert head.1 head.2).insertAll rest).find? key = _
      rw [ih, find?_insert, valuesUnder_cons]
      by_cases same : head.1 = key
      · rw [if_pos same, if_pos same.symm, List.getLast?_cons]
        cases (valuesUnder rest key).getLast? <;> rfl
      · rw [if_neg same, if_neg (Ne.symm same)]

/-! ## The first one, where nothing was -/

/-- Store a value unless its key has an entry. -/
def insertDefault (entries : Entries α) (key : String) (value : α) : Entries α :=
  if entries.contains key then entries else entries.insert key value

/-- Store several values, each unless its key has an entry by then. -/
def insertDefaults (entries : Entries α) (list : List (String × α)) : Entries α :=
  list.foldl (fun result entry => result.insertDefault entry.1 entry.2) entries

theorem find?_insertDefault (entries : Entries α) (key other : String) (value : α) :
    (entries.insertDefault key value).find? other =
      (entries.find? other).or (if key = other then some value else none) := by
  unfold insertDefault contains
  cases found : entries.find? key with
  | some held =>
      rw [Option.isSome_some, if_pos rfl]
      by_cases same : key = other
      · rw [← same, found, Option.some_or]
      · rw [if_neg same, Option.or_none]
  | none =>
      rw [Option.isSome_none, if_neg Bool.false_ne_true, find?_insert]
      by_cases same : key = other
      · rw [if_pos same.symm, if_pos same, ← same, found, Option.none_or]
      · rw [if_neg (Ne.symm same), if_neg same, Option.or_none]

/-- What was there is found, and otherwise the first value that is stored under the key. -/
theorem find?_insertDefaults (entries : Entries α) (list : List (String × α)) (key : String) :
    (entries.insertDefaults list).find? key =
      (entries.find? key).or (valuesUnder list key).head? := by
  induction list generalizing entries with
  | nil => rw [insertDefaults, List.foldl_nil, valuesUnder, List.filter_nil, List.map_nil,
      List.head?_nil, Option.or_none]
  | cons head rest ih =>
      change ((entries.insertDefault head.1 head.2).insertDefaults rest).find? key = _
      rw [ih, find?_insertDefault, Option.or_assoc, valuesUnder_cons]
      by_cases same : head.1 = key
      · rw [if_pos same, if_pos same, Option.some_or, List.head?_cons]
      · rw [if_neg same, if_neg same, Option.none_or]

/-- In an empty map, the first values of the reversed list are the last ones. -/
theorem insertDefaults_reverse (list : List (String × α)) :
    empty.insertDefaults list.reverse = empty.insertAll list := by
  apply ext_find?
  intro key
  rw [find?_insertDefaults, find?_insertAll_eq_getLast?, find?_empty, Option.none_or, Option.or_none,
    valuesUnder_reverse, List.head?_reverse]

/-- Each value is stored where nothing was, or found something there. -/
theorem contains_insertDefaults {list : List (String × α)} {entry : String × α}
    (member : entry ∈ list) (entries : Entries α) :
    (entries.insertDefaults list).contains entry.1 = true := by
  have given : entry.2 ∈ valuesUnder list entry.1 :=
    List.mem_map_of_mem (List.mem_filter.mpr ⟨member, beq_self_eq_true _⟩)
  rw [contains, find?_insertDefaults, Option.isSome_or, Bool.or_eq_true]
  exact .inr (List.isSome_head?.mpr (List.ne_nil_of_mem given))

/-! ## How many are stored -/

theorem length_put {key : String} {value : α} {list : List (String × α)}
    (absent : list.lookup key = none) : (put key value list).length = list.length + 1 := by
  induction list with
  | nil => rfl
  | cons head rest ih =>
      rw [List.lookup_cons] at absent
      unfold put
      split
      · rfl
      · split
        · rename_i same
          simp [same] at absent
        · rename_i different
          rw [beq_false_of_ne different] at absent
          rw [List.length_cons, List.length_cons, ih absent]

theorem size_insertDefault (entries : Entries α) (key : String) (value : α) :
    (entries.insertDefault key value).size = entries.size + (!entries.contains key).toNat := by
  unfold insertDefault
  cases held : entries.contains key with
  | true => rfl
  | false =>
      have absent : entries.find? key = none := by simpa [contains] using held
      exact length_put absent

/-- The keys of entries that others do not have. -/
def added (before after : Entries α) : List String :=
  after.keys.filter fun key => !before.contains key

/-- Entries to which some are added grow by these. -/
theorem size_add_length_added {before after : Entries α}
    (kept : ∀ key value, before.find? key = some value → after.find? key = some value) :
    before.size + (before.added after).length = after.size := by
  have same : after.keepKeys (fun key => !!before.contains key) = before := by
    apply ext_find?
    intro key
    rw [find?_keepKeys, Bool.not_not, contains]
    cases found : before.find? key with
    | none => rfl
    | some value => exact kept key value found
  have parts := after.size_keepKeys_add fun key => !before.contains key
  rw [same] at parts
  exact parts

end PathStore.Entries
