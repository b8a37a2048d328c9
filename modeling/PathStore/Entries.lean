/-!
# Ordered entries

`Entries α` is a finite map from keys to `α`, kept as a list whose keys increase strictly. Keys are
ordered by code points, which is also the order of their UTF-8 bytes. The list `toList` is the view
through which every operation is described.
-/

namespace PathStore

/-- A finite map from keys to `α`, listed in the order of its keys. -/
structure Entries (α : Type) where
  toList : List (String × α)
  sorted : toList.Pairwise fun left right => left.1 < right.1

namespace Entries

variable {α β : Type}

/-- No entries. -/
def empty : Entries α := ⟨[], .nil⟩

instance : Inhabited (Entries α) := ⟨empty⟩

@[ext] theorem ext {left right : Entries α} (equal : left.toList = right.toList) : left = right := by
  cases left
  cases right
  simp_all

/-- The value under a key. -/
def find? (entries : Entries α) (key : String) : Option α :=
  entries.toList.lookup key

/-- Whether there is an entry under a key. -/
def contains (entries : Entries α) (key : String) : Bool :=
  (entries.find? key).isSome

/-- All keys, in order. -/
def keys (entries : Entries α) : List String :=
  entries.toList.map (·.1)

/-- The number of entries. -/
def size (entries : Entries α) : Nat :=
  entries.toList.length

/-- Put a value under a key into a sorted list, in the place of an entry of the same key. -/
def put (key : String) (value : α) : List (String × α) → List (String × α)
  | [] => [(key, value)]
  | entry :: rest =>
    if key < entry.1 then (key, value) :: entry :: rest
    else if key = entry.1 then (key, value) :: rest
    else entry :: put key value rest

theorem mem_put {key : String} {value : α} {entry : String × α} :
    ∀ {list : List (String × α)}, entry ∈ put key value list →
      entry = (key, value) ∨ entry ∈ list
  | [], member => by simpa [put] using member
  | head :: rest, member => by
    unfold put at member
    split at member
    · simpa using member
    · split at member
      · rcases List.mem_cons.mp member with equal | inside
        · exact .inl equal
        · exact .inr (List.mem_cons_of_mem _ inside)
      · rcases List.mem_cons.mp member with equal | inside
        · exact .inr (equal ▸ List.mem_cons_self)
        · exact (mem_put inside).imp id (List.mem_cons_of_mem _)

theorem put_sorted {key : String} {value : α} :
    ∀ {list : List (String × α)}, (list.Pairwise fun left right => left.1 < right.1) →
      (put key value list).Pairwise fun left right => left.1 < right.1
  | [], _ => by simp [put]
  | head :: rest, sorted => by
    have ⟨above, sortedRest⟩ := List.pairwise_cons.mp sorted
    unfold put
    split
    next before =>
      refine List.pairwise_cons.mpr ⟨fun entry member => ?_, sorted⟩
      rcases List.mem_cons.mp member with equal | inside
      · exact equal ▸ before
      · exact String.lt_trans before (above entry inside)
    next notBefore =>
      split
      next equal =>
        exact List.pairwise_cons.mpr
          ⟨fun entry member => equal ▸ above entry member, sortedRest⟩
      next different =>
        refine List.pairwise_cons.mpr ⟨fun entry member => ?_, put_sorted sortedRest⟩
        rcases mem_put member with equal | inside
        · exact equal ▸ Std.lt_of_le_of_ne (String.not_lt.mp notBefore) (Ne.symm different)
        · exact above entry inside

/-- Store a value under a key, in the place of what was there. -/
def insert (entries : Entries α) (key : String) (value : α) : Entries α :=
  ⟨put key value entries.toList, put_sorted entries.sorted⟩

/-- Keep the entries whose key satisfies a test. -/
def keepKeys (entries : Entries α) (keep : String → Bool) : Entries α :=
  ⟨entries.toList.filter (keep ·.1), entries.sorted.filter _⟩

/-- Remove the entry under a key, if there is one. -/
def erase (entries : Entries α) (key : String) : Entries α :=
  entries.keepKeys (· != key)

/-- Store several values, the later ones in the place of earlier ones. -/
def insertAll (entries : Entries α) (list : List (String × α)) : Entries α :=
  list.foldl (fun result entry => result.insert entry.1 entry.2) entries

/-- Remove the entries under several keys. -/
def eraseAll (entries : Entries α) (keys : List String) : Entries α :=
  keys.foldl erase entries

@[simp] theorem toList_insert (entries : Entries α) (key : String) (value : α) :
    (entries.insert key value).toList = put key value entries.toList := rfl

@[simp] theorem toList_erase (entries : Entries α) (key : String) :
    (entries.erase key).toList = entries.toList.filter (·.1 != key) := rfl

theorem lookup_put (key other : String) (value : α) :
    ∀ {list : List (String × α)}, (list.Pairwise fun left right => left.1 < right.1) →
      (put key value list).lookup other = if other = key then some value else list.lookup other
  | [], _ => by
    by_cases same : other = key
    · simp [put, same]
    · have : (other == key) = false := by simpa using same
      simp [put, List.lookup_cons, this, same]
  | (head, held) :: rest, sorted => by
    have ⟨above, sortedRest⟩ := List.pairwise_cons.mp sorted
    by_cases same : other = key
    · subst same
      unfold put
      split
      · simp
      · split
        · simp
        next different =>
          have : (other == head) = false := by simpa using different
          rw [List.lookup_cons, lookup_put other other value sortedRest, this]
          simp
    · have notKey : (other == key) = false := by simpa using same
      unfold put
      split
      · simp [List.lookup_cons, notKey]
      · split
        next equal =>
          have equal : key = head := equal
          subst equal
          simp [List.lookup_cons, notKey]
        · rw [List.lookup_cons, List.lookup_cons, lookup_put key other value sortedRest]
          simp [same]

/-- Storing changes what is found under the one key only. -/
@[simp, grind =] theorem find?_insert (entries : Entries α) (key other : String) (value : α) :
    (entries.insert key value).find? other =
      if other = key then some value else entries.find? other :=
  lookup_put key other value entries.sorted

theorem lookup_filter_ne (key other : String) :
    ∀ {list : List (String × α)},
      (list.filter (·.1 != key)).lookup other = if other = key then none else list.lookup other
  | [] => by simp
  | (head, held) :: rest => by
    have inside := @lookup_filter_ne key other rest
    by_cases removed : head = key
    · subst removed
      rw [List.filter_cons_of_neg (by simp), inside, List.lookup_cons]
      by_cases same : other = head
      · simp [same]
      · have : (other == head) = false := by simpa using same
        simp [same, this]
    · by_cases same : other = head
      · subst same
        simp [removed]
      · have : (other == head) = false := by simpa using same
        simp [inside, removed, List.lookup_cons, this]

/-- Removing changes what is found under the one key only. -/
@[simp, grind =] theorem find?_erase (entries : Entries α) (key other : String) :
    (entries.erase key).find? other = if other = key then none else entries.find? other :=
  lookup_filter_ne key other

@[simp, grind =] theorem find?_empty (key : String) : (empty : Entries α).find? key = none := rfl

end Entries

end PathStore
