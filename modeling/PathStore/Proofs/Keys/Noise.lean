import Mathlib.Logic.Relation
import PathStore.Proofs.Keys.Ascents

/-!
# Noise in written keys

An empty piece, the present place, or a name and the ascent that takes it back lead nowhere, at whichever
separator of a key they are put in, and whatever ascents stand behind them. Nor does anything change by a
separator at an end of the key, or by the present place or an ascent in front of it, because below a
location that ascent is lost. Keys that differ by such noise name the same. Conversely noise is all that
such keys differ by: without it each of them is the canonical key that it names at the top.
-/

namespace PathStore

open PathStore.Path

/-- A key as written, and the same key with one piece of noise put in. -/
inductive Noise : String → String → Prop
  | empty (front back : String) : Noise (front ++ "/" ++ back) (front ++ "//" ++ back)
  | present (front back : String) : Noise (front ++ "/" ++ back) (front ++ "/./" ++ back)
  | detour (front name back : String) (named : IsComponent name.toList) :
      Noise (front ++ "/" ++ back) (front ++ "/" ++ name ++ "/../" ++ back)
  | leading (key : String) : Noise key ("/" ++ key)
  | trailing (key : String) : Noise key (key ++ "/")
  | leadingPresent (key : String) : Noise key ("./" ++ key)
  | leadingAscent (key : String) : Noise key ("../" ++ key)

/-- Two keys differ by noise: one becomes the other by finitely many insertions and removals. -/
def DifferByNoise : String → String → Prop :=
  Relation.EqvGen Noise

/-! ## What noise leaves as it is -/

namespace Path

/-- A text leads nowhere if following its pieces leaves every trail as it is. -/
def LeadsNowhere (text : List Char) : Prop :=
  ∀ trail, (pieces text).foldl follow trail = trail

theorem leadsNowhere_empty : LeadsNowhere [] := fun _ => rfl

theorem leadsNowhere_present : LeadsNowhere ['.'] := fun _ => rfl

theorem pieces_of_not_mem {part : List Char} (clean : separator ∉ part) : pieces part = [part] := by
  have split := pieces_append clean (show pieces [] = [[]] from rfl)
  rwa [List.append_nil] at split

/-- An ascent takes the name in front of it back, and nothing else. -/
theorem leadsNowhere_detour {name : List Char} (named : IsComponent name) :
    LeadsNowhere (name ++ separator :: ['.', '.']) := by
  intro trail
  rw [pieces_append_separator, pieces_of_not_mem named.2, List.foldl_append, List.foldl_cons,
    List.foldl_nil, follow_of_isName named.1]
  rfl

theorem components_between {middle : List Char} (nowhere : LeadsNowhere middle)
    (front back : List Char) :
    components (front ++ separator :: (middle ++ separator :: back)) =
      components (front ++ separator :: back) := by
  rw [components_append_separator, components_append_separator, pieces_append_separator,
    List.foldl_append, nowhere]

/-- What finds no component to take back and leads to none is lost in front of a key. -/
theorem components_behind (front back : List Char) (lost : (pieces front).foldl follow [] = []) :
    components (front ++ separator :: back) = components back := by
  rw [components, components, pieces_append_separator, List.foldl_append, lost]

end Path

namespace Location

variable {location : Location}

theorem resolve_congr {written other : String}
    (same : components written.toList = components other.toList) :
    location.resolve written = location.resolve other := by
  rw [resolve, resolve, same]

/-- One piece of noise leaves what a key names. -/
theorem resolve_of_noise {written noisy : String} (noise : Noise written noisy) :
    location.resolve written = location.resolve noisy := by
  refine (resolve_congr ?_).symm
  cases noise with
  | empty front back =>
      simpa [separator] using components_between leadsNowhere_empty front.toList back.toList
  | present front back =>
      simpa [separator] using components_between leadsNowhere_present front.toList back.toList
  | detour front name back named =>
      simpa [separator] using
        components_between (leadsNowhere_detour named) front.toList back.toList
  | leading => simpa [separator] using components_behind [] written.toList rfl
  | trailing => simpa [separator] using components_append_separator_nil written.toList
  | leadingPresent => simpa [separator] using components_behind ['.'] written.toList rfl
  | leadingAscent => simpa [separator] using components_behind ['.', '.'] written.toList rfl

/-- So does any amount of noise. -/
theorem resolve_of_differByNoise {written other : String} (differ : DifferByNoise written other) :
    location.resolve written = location.resolve other := by
  induction differ with
  | rel _ _ noise => exact resolve_of_noise noise
  | refl _ => rfl
  | symm _ _ _ same => exact same.symm
  | trans _ _ _ _ _ first second => exact first.trans second

end Location

/-! ## Taking the noise away -/

namespace Path

/-- A text is its pieces, each behind a separator, but for the separator in front. -/
theorem render_pieces (text : List Char) : render (pieces text) = separator :: text := by
  induction text with
  | nil => rfl
  | cons char rest ih =>
      unfold pieces
      split
      · rename_i bar
        rw [render_cons, ih, bar]
        rfl
      · obtain ⟨piece, more, split⟩ := List.exists_cons_of_ne_nil (pieces_ne_nil rest)
        rw [split, render_cons] at ih
        rw [split, render_cons, List.cons_append, (List.cons.inj ih).2]

/-- The key that is made of pieces, closed by a separator, so that there is one at either side of each
piece. -/
def closed (list : List (List Char)) : String :=
  String.ofList (render list) ++ "/"

/-- What stands in a closed key, whatever it is, stands between two separators. -/
theorem exists_closed_append (front back : List (List Char)) :
    ∃ text, ∀ middle, closed (front ++ (middle ++ back)) =
      String.ofList (render front) ++ closed middle ++ text := by
  obtain ⟨text, begins⟩ : ∃ text, render back ++ [separator] = separator :: text := by
    cases back with
    | nil => exact ⟨[], rfl⟩
    | cons part back => exact ⟨part ++ (render back ++ [separator]), by simp⟩
  refine ⟨String.ofList text, fun middle => ?_⟩
  rw [closed, closed, ← String.toList_inj]
  simpa [render_append, separator] using begins

end Path

namespace DifferByNoise

theorem insert {written noisy : String} (noise : Noise written noisy) :
    DifferByNoise written noisy :=
  .rel _ _ noise

theorem remove {written noisy : String} (noise : Noise written noisy) :
    DifferByNoise noisy written :=
  .symm _ _ (insert noise)

variable (front back : List (List Char))

/-- A piece that is neither an ascent nor a name can be taken away. -/
theorem closed_idle {piece : List Char} (level : ¬ isAscent piece = true)
    (nameless : ¬ isName piece = true) :
    DifferByNoise (closed (front ++ ([piece] ++ back))) (closed (front ++ back)) := by
  obtain ⟨text, around⟩ := exists_closed_append front back
  have kind : piece = [] ∨ piece = ['.'] := by
    unfold isAscent at level
    simpa [isName, level, or_iff_not_imp_left] using nameless
  rw [around [piece], ← List.nil_append back, around []]
  rcases kind with rfl | rfl
  · exact remove (.empty (String.ofList (render front)) text)
  · exact remove (.present (String.ofList (render front)) text)

/-- An ascent can be taken away together with the name in front of it. -/
theorem closed_detour {name : List Char} (named : IsComponent name) :
    DifferByNoise (closed (front ++ ([name, ['.', '.']] ++ back))) (closed (front ++ back)) := by
  obtain ⟨text, around⟩ := exists_closed_append front back
  have written : closed [name, ['.', '.']] = "/" ++ String.ofList name ++ "/../" := by
    rw [closed, ← String.toList_inj]
    simp [separator]
  rw [around [name, _], ← List.nil_append back, around [], written, ← String.append_assoc,
    ← String.append_assoc]
  refine remove (.detour (String.ofList (render front)) (String.ofList name) text ?_)
  rwa [String.toList_ofList]

/-- An ascent in front can be taken away. -/
theorem closed_lost : DifferByNoise (closed ([['.', '.']] ++ back)) (closed back) := by
  obtain ⟨text, around⟩ := exists_closed_append [] back
  have ascent : closed ([['.', '.']] ++ back) = "/" ++ ("../" ++ text) := by
    rw [← String.append_assoc]
    exact around [_]
  have rest : closed back = "/" ++ text := around []
  have gone : DifferByNoise ("../" ++ text) text := remove (.leadingAscent text)
  rw [ascent, rest]
  exact (remove (.leading ("../" ++ text))).trans _ _ _ (gone.trans _ _ _ (insert (.leading text)))

/-- Behind components, pieces can be followed one after the other, each by taking noise away. -/
theorem closed_followed {list trail : List (List Char)}
    (clean : ∀ piece ∈ list, separator ∉ piece) (known : ∀ part ∈ trail, IsComponent part) :
    DifferByNoise (closed (trail.reverse ++ list)) (closed (list.foldl follow trail).reverse) := by
  induction list generalizing trail with
  | nil =>
      rw [List.append_nil]
      exact .refl _
  | cons piece rest ih =>
      obtain ⟨first, others⟩ := List.forall_mem_cons.mp clean
      have onward := ih others fun part => isComponent_of_mem_follow known first
      rw [List.foldl_cons]
      refine .trans _ _ _ ?_ onward
      by_cases ascent : isAscent piece = true
      · rw [follow_of_isAscent ascent, eq_of_beq ascent]
        cases trail with
        | nil => exact closed_lost rest
        | cons name trail =>
            rw [List.tail_cons, List.reverse_cons, List.append_assoc]
            exact closed_detour trail.reverse rest (List.forall_mem_cons.mp known).1
      · by_cases name : isName piece = true
        · rw [follow_of_isName name, List.reverse_cons, List.append_assoc]
          exact .refl _
        · rw [follow_of_idle ascent name]
          exact closed_idle trail.reverse rest ascent name

/-- Without its noise a key is the canonical one that it names at the top. -/
theorem resolve_root (written : String) : DifferByNoise written (Location.root.resolve written) := by
  have named : Location.root.resolve written ++ "/" = closed (components written.toList) := by
    rw [Location.resolve_root, closed]
  have opened : "/" ++ written ++ "/" = closed (pieces written.toList) := by
    rw [closed, render_pieces, ← String.toList_inj]
    simp [separator]
  have clean : ∀ piece ∈ pieces written.toList, separator ∉ piece := fun _ =>
    separator_not_mem_of_mem_pieces
  have followed := closed_followed clean (List.forall_mem_nil IsComponent)
  rw [List.reverse_nil, List.nil_append, ← components, ← named, ← opened] at followed
  exact (insert (.leading written)).trans _ _ _ <| (insert (.trailing ("/" ++ written))).trans _ _ _ <|
    followed.trans _ _ _ (remove (.trailing (Location.root.resolve written)))

end DifferByNoise

/-- Below any location two keys name the same just if they differ by noise: by finitely many insertions and
removals of empty pieces, present places and detours at separators anywhere in the key, of separators at
its ends, and of present places and ascents at its beginning. -/
theorem Location.resolve_eq_iff_differByNoise (location : Location) (written other : String) :
    location.resolve written = location.resolve other ↔ DifferByNoise written other := by
  constructor
  · intro same
    rw [location.resolve_eq written, location.resolve_eq other, String.append_right_inj] at same
    have forth := DifferByNoise.resolve_root written
    rw [same] at forth
    exact forth.trans _ _ _ (.symm _ _ (DifferByNoise.resolve_root other))
  · exact resolve_of_differByNoise

end PathStore
