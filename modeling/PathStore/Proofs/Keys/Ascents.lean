import Mathlib.Data.List.DropRight
import Mathlib.Data.List.TakeDrop
import PathStore.Handle
import PathStore.Proofs.Keys.Canonical

/-!
# Keys resolved in one go and in two

The pieces of a key are followed one after the other, and an ascent takes back the last component that is
still there. If the pieces before it in the same key have left none, it is unmatched: behind another key
it goes on to take back a component of that one, while below a location it is lost. So resolving a key
behind another one is resolving it below the location that the other one names, unless an unmatched ascent
still finds a component there.
-/

namespace PathStore

namespace Path

/-- A piece that leads one component up. -/
def isAscent (piece : List Char) : Bool := piece == ['.', '.']

/-- How many ascents in a run of pieces are unmatched, where some names before it can still be taken back.
Each name can be taken back by one later ascent; an ascent that finds no such name is unmatched. -/
def unmatched : Nat → List (List Char) → Nat
  | _, [] => 0
  | opened, piece :: rest =>
    if isAscent piece then
      match opened with
      | 0 => unmatched 0 rest + 1
      | opened + 1 => unmatched opened rest
    else if isName piece then unmatched (opened + 1) rest
    else unmatched opened rest

/-- How many ascents of a text are unmatched. -/
def unmatchedAscents (text : List Char) : Nat := unmatched 0 (pieces text)

/-! ## Kinds of pieces -/

section Kinds

variable {piece : List Char}

theorem isName_of_isAscent (ascent : isAscent piece = true) : isName piece = false := by
  rw [eq_of_beq ascent]
  rfl

theorem follow_of_isAscent (ascent : isAscent piece = true) (trail : List (List Char)) :
    follow trail piece = trail.tail := by
  rw [eq_of_beq ascent]
  rfl

/-- A piece that is neither an ascent nor a name leads nowhere. -/
theorem follow_of_idle (level : ¬ isAscent piece = true) (nameless : ¬ isName piece = true)
    (trail : List (List Char)) : follow trail piece = trail := by
  unfold isAscent at level
  simp only [isName, level, Bool.or_false, Bool.not_eq_true, Bool.not_eq_false'] at nameless
  unfold follow
  rw [if_pos nameless]

variable (rest : List (List Char))

@[simp] theorem unmatched_nil (opened : Nat) : unmatched opened [] = 0 := rfl

theorem unmatched_zero_cons (ascent : isAscent piece = true) :
    unmatched 0 (piece :: rest) = unmatched 0 rest + 1 :=
  if_pos ascent

theorem unmatched_succ_cons (ascent : isAscent piece = true) (opened : Nat) :
    unmatched (opened + 1) (piece :: rest) = unmatched opened rest :=
  if_pos ascent

theorem unmatched_cons_of_isName (level : ¬ isAscent piece = true) (name : isName piece = true)
    (opened : Nat) : unmatched opened (piece :: rest) = unmatched (opened + 1) rest :=
  (if_neg level).trans (if_pos name)

theorem unmatched_cons_of_idle (level : ¬ isAscent piece = true)
    (nameless : ¬ isName piece = true) (opened : Nat) :
    unmatched opened (piece :: rest) = unmatched opened rest :=
  (if_neg level).trans (if_neg nameless)

end Kinds

/-- The unmatched ascents are as many as the ascents exceed the names in the part of the pieces, from the
first one on, where they do so most. -/
theorem unmatched_le_iff (opened bound : Nat) (list : List (List Char)) :
    unmatched opened list ≤ bound ↔
      ∀ front, front <+: list →
        front.countP isAscent ≤ opened + front.countP isName + bound := by
  induction list generalizing opened bound with
  | nil => simp [List.prefix_nil]
  | cons piece rest ih =>
      have split : (∀ front, front <+: piece :: rest →
            front.countP isAscent ≤ opened + front.countP isName + bound) ↔
          ∀ front, front <+: rest →
            (piece :: front).countP isAscent ≤ opened + (piece :: front).countP isName + bound := by
        simp only [List.prefix_cons_iff]
        constructor
        · intro every front member
          exact every (piece :: front) (.inr ⟨front, rfl, member⟩)
        · rintro every _ (rfl | ⟨front, rfl, member⟩)
          · exact Nat.zero_le _
          · exact every front member
      rw [split]
      by_cases ascent : isAscent piece = true
      · have nameless : ¬ isName piece = true := by simp [isName_of_isAscent ascent]
        simp only [List.countP_cons_of_pos ascent, List.countP_cons_of_neg nameless]
        cases opened with
        | succ opened =>
            rw [unmatched_succ_cons rest ascent, ih]
            exact forall₂_congr fun front _ => by omega
        | zero =>
            rw [unmatched_zero_cons rest ascent]
            cases bound with
            | zero =>
                refine iff_of_false (Nat.not_succ_le_zero _) fun every => ?_
                simpa using every [] List.nil_prefix
            | succ bound =>
                rw [Nat.succ_le_succ_iff, ih]
                exact forall₂_congr fun front _ => by omega
      · by_cases name : isName piece = true
        · simp only [List.countP_cons_of_neg ascent, List.countP_cons_of_pos name]
          rw [unmatched_cons_of_isName rest ascent name, ih]
          exact forall₂_congr fun front _ => by omega
        · simp only [List.countP_cons_of_neg ascent, List.countP_cons_of_neg name]
          rw [unmatched_cons_of_idle rest ascent name, ih]

/-! ## Following a trail that goes on -/

/-- What follows from the near part of a trail does not depend on the far part. Of that, only the
unmatched ascents take anything away. -/
theorem foldl_follow_append (list near far : List (List Char)) :
    list.foldl follow (near ++ far) =
      list.foldl follow near ++ far.drop (unmatched near.length list) := by
  induction list generalizing near far with
  | nil => simp
  | cons piece rest ih =>
      rw [List.foldl_cons, List.foldl_cons]
      by_cases ascent : isAscent piece = true
      · rw [follow_of_isAscent ascent, follow_of_isAscent ascent]
        cases near with
        | nil =>
            have dropped := ih [] far.tail
            rw [List.nil_append] at dropped
            rw [List.nil_append, List.tail_nil, List.length_nil, unmatched_zero_cons rest ascent,
              dropped, List.drop_tail, List.length_nil]
        | cons part near =>
            rw [List.cons_append, List.tail_cons, List.tail_cons, List.length_cons,
              unmatched_succ_cons rest ascent, ih]
      · by_cases name : isName piece = true
        · rw [follow_of_isName name, follow_of_isName name, ← List.cons_append, ih,
            unmatched_cons_of_isName rest ascent name, List.length_cons]
        · rw [follow_of_idle ascent name, follow_of_idle ascent name, ih,
            unmatched_cons_of_idle rest ascent name]

/-- A text behind another one takes as many of its last components back as it has unmatched ascents, and
adds its own. -/
theorem components_append (front back : List Char) :
    components (front ++ separator :: back) =
      (components front).rdrop (unmatchedAscents back) ++ components back := by
  have followed := foldl_follow_append (pieces back) [] (components front).reverse
  rw [List.nil_append, List.length_nil] at followed
  rw [components_append_separator, followed, List.reverse_append, List.rdrop_eq_reverse_drop_reverse,
    unmatchedAscents]
  rfl

/-- Components are told apart by the key that they make. -/
theorem render_inj {parts others : List (List Char)} (names : ∀ part ∈ parts, IsComponent part)
    (otherNames : ∀ part ∈ others, IsComponent part) :
    render parts = render others ↔ parts = others := by
  constructor
  · intro same
    rw [← components_render names, same, components_render otherNames]
  · exact congrArg render

theorem rdrop_eq_self_iff {α : Type} (list : List α) (count : Nat) :
    list.rdrop count = list ↔ count = 0 ∨ list = [] := by
  rw [List.rdrop, List.take_eq_self_iff, ← List.length_eq_zero_iff]
  omega

end Path

namespace Location

open PathStore.Path

theorem resolve_eq_key_iff (location : Location) (written : String) :
    location.resolve written = location.key ↔ components written.toList = [] := by
  rw [resolve, ← String.toList_inj, String.toList_append, List.append_right_eq_self,
    String.toList_ofList]
  cases components written.toList with
  | nil => exact iff_of_true rfl rfl
  | cons part parts => exact iff_of_false (List.cons_ne_nil _ _) (List.cons_ne_nil _ _)

/-- What is left of the components of one key, and then the key that the other one names by itself. -/
theorem resolve_append (location : Location) (front back : String) :
    location.resolve (front ++ "/" ++ back) =
      location.key ++
          String.ofList (render ((components front.toList).rdrop (unmatchedAscents back.toList))) ++
        root.resolve back := by
  have joined : (front ++ "/" ++ back).toList = front.toList ++ separator :: back.toList := by
    rw [String.toList_append, String.toList_append, List.append_assoc]
    rfl
  rw [resolve, joined, components_append, render_append, String.ofList_append, resolve, key,
    String.empty_append, String.append_assoc]

end Location

namespace Handle

open PathStore.Path PathStore.Location

/-- How a path and a key lead on from a handle, one after the other or written together. -/
structure Composes (handle : Handle) (path key : String) : Prop where
  /-- What a path adds to the location is what it names at the top. -/
  added : handle.resolve path = handle.location.key ++ root.resolve path
  /-- Two paths, one after the other, lead to what both add. -/
  joined : ((handle.location.join path).join key).key =
    handle.location.key ++ root.resolve path ++ root.resolve key
  /-- Written together, the key first takes back as many of the last components that the path adds as it has
  unmatched ascents, or all of them if they are fewer. -/
  together : ∃ parts : List (List Char), (∀ part ∈ parts, IsComponent part) ∧
    handle.resolve path = handle.location.key ++ String.ofList (render parts) ∧
    handle.resolve (path ++ "/" ++ key) =
      handle.location.key ++ String.ofList (render (parts.rdrop (unmatchedAscents key.toList))) ++
        root.resolve key
  /-- So the key names the same entry below the path as it does together with it, just if all its ascents
  are matched or the path leads nowhere. -/
  same : (handle.submap path).store = handle.store ∧
    ((handle.submap path).resolve key = handle.resolve (path ++ "/" ++ key) ↔
      unmatchedAscents key.toList = 0 ∨ handle.resolve path = handle.location.key)

/-- Any two keys compose below any handle: the ascents of the second one that are unmatched in it are what
tells the ways of resolving them apart. -/
theorem resolve_composes (handle : Handle) (path key : String) : handle.Composes path key := by
  have whole (part : List Char) (member : part ∈ components path.toList) : IsComponent part :=
    isComponent_of_mem_components member
  have left (part : List Char)
      (member : part ∈ (components path.toList).rdrop (unmatchedAscents key.toList)) :
      IsComponent part :=
    whole part (List.mem_of_mem_take member)
  have below : (handle.submap path).resolve key =
      handle.location.key ++ root.resolve path ++ root.resolve key := by
    rw [resolve, submap, join, resolve_eq, key_ofKey, resolve_eq]
  refine ⟨resolve_eq handle.location path, ?joined, ?together, rfl, ?same⟩
  case joined =>
    rw [join, key_ofKey]
    exact below
  case together =>
    exact ⟨components path.toList, whole, rfl, resolve_append handle.location path key⟩
  case same =>
    rw [below, resolve, resolve_append, resolve, Location.resolve_eq_key_iff, ← rdrop_eq_self_iff,
      ← render_inj left whole, resolve_root path]
    simp only [← String.toList_inj, String.toList_append, String.toList_ofList,
      List.append_cancel_right_eq, List.append_cancel_left_eq]
    exact eq_comm

/-- An unmatched ascent is lost below the path, and takes the path back behind it. -/
example : (root.join "a").resolve "../b" = "/a/b" ∧ root.resolve "a/../b" = "/b" := by
  decide +kernel

end Handle

end PathStore
