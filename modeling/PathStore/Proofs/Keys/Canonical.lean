import Mathlib.Data.String.Basic
import PathStore.Path

/-!
# Canonical keys

A canonical key is a run of components, each behind a separator. Resolving yields canonical keys
only, and leaves them as they are. What a canonical key continues another text with, from a
separator on, is canonical again.
-/

namespace PathStore

namespace Path

/-- A component as it stands in a canonical key. -/
def IsComponent (part : List Char) : Prop :=
  isName part = true ∧ separator ∉ part

/-- A canonical key is empty or made of components, each behind a separator. -/
def IsCanonical (key : String) : Prop :=
  ∃ parts : List (List Char), (∀ part ∈ parts, IsComponent part) ∧ key.toList = render parts

/-- The text is empty or begins with a separator, as canonical keys do. -/
def IsRooted (key : String) : Prop :=
  key.toList = [] ∨ key.toList.head? = some separator

instance (key : String) : Decidable (IsRooted key) :=
  inferInstanceAs (Decidable (key.toList = [] ∨ key.toList.head? = some separator))

@[simp] theorem render_nil : render [] = [] := rfl

@[simp] theorem render_cons (part : List Char) (parts : List (List Char)) :
    render (part :: parts) = separator :: (part ++ render parts) := rfl

theorem render_append (front back : List (List Char)) :
    render (front ++ back) = render front ++ render back :=
  List.flatMap_append

/-! ## Pieces -/

theorem separator_not_mem_of_mem_pieces {text piece : List Char} (member : piece ∈ pieces text) :
    separator ∉ piece := by
  induction text generalizing piece with
  | nil =>
      rw [pieces, List.mem_singleton] at member
      rw [member]
      exact List.not_mem_nil
  | cons char rest ih =>
      unfold pieces at member
      split at member
      · rcases List.mem_cons.mp member with rfl | later
        · exact List.not_mem_nil
        · exact ih later
      · rename_i different
        cases split : pieces rest with
        | nil =>
            rw [split, List.mem_singleton] at member
            rw [member, List.mem_singleton]
            exact Ne.symm different
        | cons first more =>
            rw [split] at member ih
            rcases List.mem_cons.mp member with rfl | later
            · rw [List.mem_cons, not_or]
              exact ⟨Ne.symm different, ih List.mem_cons_self⟩
            · exact ih (List.mem_cons_of_mem first later)

/-- A text without separator goes into the first piece of what it stands before. -/
theorem pieces_append {part text head : List Char} {tail : List (List Char)}
    (clean : separator ∉ part) (split : pieces text = head :: tail) :
    pieces (part ++ text) = (part ++ head) :: tail := by
  induction part with
  | nil => exact split
  | cons char part ih =>
      rw [List.mem_cons, not_or] at clean
      rw [List.cons_append, pieces, if_neg (Ne.symm clean.1), ih clean.2]
      rfl

theorem pieces_render {parts : List (List Char)}
    (clean : ∀ part ∈ parts, IsComponent part) : pieces (render parts) = [] :: parts := by
  induction parts with
  | nil => rfl
  | cons part parts ih =>
      obtain ⟨first, rest⟩ := List.forall_mem_cons.mp clean
      rw [render_cons, pieces, if_pos rfl, pieces_append first.2 (ih rest), List.append_nil]

/-! ## Components -/

theorem follow_of_isName {part : List Char} (name : isName part = true)
    (trail : List (List Char)) : follow trail part = part :: trail := by
  unfold isName at name
  simp only [Bool.not_eq_true', Bool.or_eq_false_iff] at name
  obtain ⟨⟨full, present⟩, ascent⟩ := name
  simp [follow, full, present, ascent]

theorem foldl_follow {parts : List (List Char)} (names : ∀ part ∈ parts, IsComponent part)
    (trail : List (List Char)) : parts.foldl follow trail = parts.reverse ++ trail := by
  induction parts generalizing trail with
  | nil => rfl
  | cons part parts ih =>
      obtain ⟨first, rest⟩ := List.forall_mem_cons.mp names
      rw [List.foldl_cons, follow_of_isName first.1, ih rest, List.reverse_cons,
        List.append_assoc]
      rfl

/-- The components of a canonical key are those that it is made of. -/
theorem components_render {parts : List (List Char)} (names : ∀ part ∈ parts, IsComponent part) :
    components (render parts) = parts := by
  rw [components, pieces_render names, List.foldl_cons]
  change (parts.foldl follow []).reverse = parts
  rw [foldl_follow names, List.append_nil, List.reverse_reverse]

theorem pieces_ne_nil (text : List Char) : pieces text ≠ [] := by
  cases text with
  | nil => exact List.cons_ne_nil _ _
  | cons char rest =>
      unfold pieces
      split
      · exact List.cons_ne_nil _ _
      · split <;> exact List.cons_ne_nil _ _

/-- A separator ends the pieces before it and begins those behind it. -/
theorem pieces_append_separator (front back : List Char) :
    pieces (front ++ separator :: back) = pieces front ++ pieces back := by
  induction front with
  | nil =>
      change pieces (separator :: back) = [] :: pieces back
      rw [pieces, if_pos rfl]
  | cons char front ih =>
      rw [List.cons_append, pieces, pieces, ih]
      obtain ⟨piece, more, split⟩ := List.exists_cons_of_ne_nil (pieces_ne_nil front)
      rw [split]
      split <;> rfl

/-- What stands behind a separator is followed from where the text before it leads. -/
theorem components_append_separator (front back : List Char) :
    components (front ++ separator :: back) =
      ((pieces back).foldl follow (components front).reverse).reverse := by
  rw [components, pieces_append_separator, List.foldl_append, components, List.reverse_reverse]

theorem components_append_separator_nil (front : List Char) :
    components (front ++ [separator]) = components front := by
  rw [components_append_separator]
  exact List.reverse_reverse _

/-- Components that are written behind a text are added to those of the text. -/
theorem components_append_render {parts : List (List Char)}
    (names : ∀ part ∈ parts, IsComponent part) (front : List Char) :
    components (front ++ render parts) = components front ++ parts := by
  cases parts with
  | nil => rw [render_nil, List.append_nil, List.append_nil]
  | cons part parts =>
      have split : pieces (part ++ render parts) = part :: parts := by
        have whole := pieces_render names
        rw [render_cons, pieces, if_pos rfl] at whole
        exact (List.cons.inj whole).2
      rw [render_cons, components_append_separator, split, foldl_follow names,
        List.reverse_append, List.reverse_reverse, List.reverse_reverse]

theorem isComponent_of_mem_follow {trail : List (List Char)} {piece part : List Char}
    (known : ∀ part ∈ trail, IsComponent part) (clean : separator ∉ piece)
    (member : part ∈ follow trail piece) : IsComponent part := by
  unfold follow at member
  split at member
  · exact known part member
  · rename_i present
    split at member
    · exact known part (List.mem_of_mem_tail member)
    · rename_i ascent
      rcases List.mem_cons.mp member with rfl | old
      · refine ⟨?_, clean⟩
        simpa [isName] using And.intro (by simpa using present) (by simpa using ascent)
      · exact known part old

theorem isComponent_of_mem_foldl {list trail : List (List Char)}
    (clean : ∀ piece ∈ list, separator ∉ piece) (known : ∀ part ∈ trail, IsComponent part) :
    ∀ part ∈ list.foldl follow trail, IsComponent part := by
  induction list generalizing trail with
  | nil => exact known
  | cons piece list ih =>
      obtain ⟨first, rest⟩ := List.forall_mem_cons.mp clean
      exact ih rest fun part member => isComponent_of_mem_follow known first member

/-- What remains of a text once its empty pieces, `.` and `..` are carried out are components. -/
theorem isComponent_of_mem_components {text part : List Char} (member : part ∈ components text) :
    IsComponent part := by
  rw [components, List.mem_reverse] at member
  exact isComponent_of_mem_foldl (fun _ => separator_not_mem_of_mem_pieces)
    (List.forall_mem_nil _) part member

/-! ## Canonical and rooted keys -/

theorem isCanonical_empty : IsCanonical "" :=
  ⟨[], List.forall_mem_nil _, rfl⟩

theorem IsCanonical.append {front back : String} (left : IsCanonical front)
    (right : IsCanonical back) : IsCanonical (front ++ back) := by
  obtain ⟨first, firstNames, firstEqual⟩ := left
  obtain ⟨second, secondNames, secondEqual⟩ := right
  refine ⟨first ++ second, ?_, ?_⟩
  · intro part member
    exact (List.mem_append.mp member).elim (firstNames part) (secondNames part)
  · rw [String.toList_append, firstEqual, secondEqual, render_append]

theorem isRooted_render (parts : List (List Char)) :
    render parts = [] ∨ (render parts).head? = some separator := by
  cases parts with
  | nil => exact .inl rfl
  | cons part parts => exact .inr rfl

theorem IsCanonical.isRooted {key : String} (canonical : IsCanonical key) : IsRooted key := by
  obtain ⟨parts, _, equal⟩ := canonical
  unfold IsRooted
  rw [equal]
  exact isRooted_render parts

theorem isRooted_empty : IsRooted "" := .inl rfl

theorem IsRooted.append {front back : String} (left : IsRooted front) (right : IsRooted back) :
    IsRooted (front ++ back) := by
  unfold IsRooted at *
  rw [String.toList_append]
  cases first : front.toList with
  | nil => exact right
  | cons char rest =>
      rw [first] at left
      exact .inr (left.resolve_left (List.cons_ne_nil char rest))

/-- Where a run of components is cut before a separator or at its end, components follow. -/
theorem exists_render_of_append {parts : List (List Char)} {front back : List Char}
    (names : ∀ part ∈ parts, IsComponent part) (cut : render parts = front ++ back)
    (rooted : back = [] ∨ back.head? = some separator) :
    ∃ rest, (∀ part ∈ rest, IsComponent part) ∧ back = render rest := by
  induction parts generalizing front with
  | nil =>
      have ends := List.append_eq_nil_iff.mp cut.symm
      exact ⟨[], List.forall_mem_nil _, ends.2⟩
  | cons part parts ih =>
      obtain ⟨first, rest⟩ := List.forall_mem_cons.mp names
      cases front with
      | nil => exact ⟨part :: parts, names, cut.symm⟩
      | cons char front =>
          rw [render_cons, List.cons_append, List.cons.injEq] at cut
          rcases List.append_eq_append_iff.mp cut.2 with
            ⟨middle, _, later⟩ | ⟨middle, inside, later⟩
          · exact ih rest later
          · -- The cut lies in the component, which holds no separator, so it lies at its end.
            cases middle with
            | nil => exact ⟨parts, rest, later⟩
            | cons other middle =>
                rw [later] at rooted
                have bar : other = separator := by simpa using rooted
                have member : separator ∈ part := by simp [inside, bar]
                exact absurd member first.2

/-- What a canonical key continues a text with is canonical, if it begins with a separator. -/
theorem IsCanonical.of_append {front back : String} (canonical : IsCanonical (front ++ back))
    (rooted : IsRooted back) : IsCanonical back := by
  obtain ⟨parts, names, equal⟩ := canonical
  rw [String.toList_append] at equal
  exact exists_render_of_append names equal.symm rooted

end Path

namespace Location

open PathStore.Path

/-- What a written key adds to the key of a location does not depend on the location. -/
theorem resolve_eq (location : Location) (written : String) :
    location.resolve written = location.key ++ root.resolve written := by
  rw [resolve, resolve, key, String.empty_append]

theorem resolve_root (written : String) :
    root.resolve written = String.ofList (render (components written.toList)) := by
  rw [resolve, key, String.empty_append]

theorem isCanonical_resolve_root (written : String) : IsCanonical (root.resolve written) := by
  refine ⟨components written.toList, fun _ => isComponent_of_mem_components, ?_⟩
  rw [resolve_root, String.toList_ofList]

theorem isCanonical_resolve {location : Location} (canonical : IsCanonical location.key)
    (written : String) : IsCanonical (location.resolve written) := by
  rw [resolve_eq]
  exact canonical.append (isCanonical_resolve_root written)

/-- Resolving leaves canonical keys as they are. -/
theorem resolve_root_of_isCanonical {key : String} (canonical : IsCanonical key) :
    root.resolve key = key := by
  obtain ⟨parts, names, equal⟩ := canonical
  rw [resolve_root, equal, components_render names, ← equal, String.ofList_toList]

theorem resolve_root_shown {key : String} (canonical : IsCanonical key) :
    root.resolve (shown key) = key := by
  unfold shown
  split
  · rename_i empty
    rw [String.isEmpty_iff.mp empty]
    decide +kernel
  · exact resolve_root_of_isCanonical canonical

/-- A canonical key that is shown behind a written key is added to what that one names. -/
theorem resolve_append_shown (location : Location) (written : String) {rest : String}
    (canonical : IsCanonical rest) :
    location.resolve (written ++ shown rest) = location.resolve written ++ rest := by
  have added : components (written ++ shown rest).toList =
      components written.toList ++ components rest.toList := by
    rw [String.toList_append, shown]
    split
    · rename_i empty
      rw [String.isEmpty_iff.mp empty, String.toList_empty]
      exact (components_append_separator_nil _).trans (List.append_nil _).symm
    · obtain ⟨parts, names, equal⟩ := canonical
      rw [equal, components_append_render names, components_render names]
  have kept := resolve_root_of_isCanonical canonical
  rw [resolve_root] at kept
  rw [resolve, added, render_append, String.ofList_append, kept, ← String.append_assoc, resolve]

@[simp] theorem key_ofKey (path : String) : (ofKey path).key = path := by
  unfold ofKey
  split
  · rename_i empty
    exact (String.isEmpty_iff.mp empty).symm
  · rfl

theorem ofKey_ne_within_empty (path : String) : ofKey path ≠ .within "" := by
  unfold ofKey
  split
  · exact Location.noConfusion
  · rename_i full
    rintro ⟨⟩
    exact full rfl

theorem ofKey_key {location : Location} (proper : location ≠ .within "") :
    ofKey location.key = location := by
  cases location with
  | root => rfl
  | within path =>
      have named : ¬ path.isEmpty = true := by
        rw [String.isEmpty_iff]
        rintro rfl
        exact proper rfl
      exact if_neg named

/-- A location whose key is canonical and which is the top if that key is empty. -/
structure Canonical (location : Location) : Prop where
  key : IsCanonical location.key
  proper : location ≠ .within ""

theorem canonical_root : root.Canonical :=
  ⟨isCanonical_empty, Location.noConfusion⟩

theorem canonical_ofKey {key : String} (canonical : IsCanonical key) : (ofKey key).Canonical :=
  ⟨(key_ofKey key).symm ▸ canonical, ofKey_ne_within_empty key⟩

end Location

end PathStore
