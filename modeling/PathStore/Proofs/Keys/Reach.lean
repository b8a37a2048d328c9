import Mathlib.Data.Set.Image
import PathStore.Proofs.Keys.Relative

/-!
# What written keys reach

Below a location, written keys name the canonical keys of its subtree: all of them, and none outside, however
many ascents are written. A key that was named is shown from the location as it would be at the top, and what
is shown of a key names it again. At the top, the keys that name themselves are the canonical ones.
-/

namespace PathStore.Location

open PathStore.Path

variable {location : Location}

/-- What a written key names is shown as the same written key is at the top. -/
theorem relative_resolve (location : Location) (written : String) :
    location.relative (location.resolve written) = shown (root.resolve written) := by
  rw [resolve_eq, relative_append location (isCanonical_resolve_root written).isRooted]

/-- No written key names anything outside. -/
theorem contains_resolve (location : Location) (written : String) :
    location.contains (location.resolve written) = true := by
  rw [resolve_eq]
  exact location.contains_append (isCanonical_resolve_root written).isRooted

/-- What is shown of a key inside names it. -/
theorem resolve_relative_of_contains (proper : location ≠ .within "") {key : String}
    (canonical : IsCanonical key) (inside : location.contains key = true) :
    location.resolve (location.relative key) = key :=
  resolve_relative ((contains_iff_inSubtree proper key).mp inside) canonical

/-- At the top a key names itself just if it is canonical. -/
theorem resolve_root_eq_self_iff (key : String) : root.resolve key = key ↔ IsCanonical key := by
  constructor
  · intro same
    rw [← same]
    exact isCanonical_resolve_root key
  · exact resolve_root_of_isCanonical

/-- The keys that can be named below a location are those of its subtree, and naming and showing undo each
other. -/
structure Spans (location : Location) : Prop where
  reached : Set.range location.resolve =
    {key | IsCanonical key ∧ location.contains key = true}
  shows : ∀ written, location.relative (location.resolve written) = shown (root.resolve written)
  names : ∀ key, IsCanonical key → location.contains key = true →
    location.resolve (location.relative key) = key

/-- Written keys span the subtree of any canonical location, and canonical are just the keys that name
themselves at the top. -/
theorem spans_of_canonical (canonical : location.Canonical) :
    location.Spans ∧ ∀ key, root.resolve key = key ↔ IsCanonical key := by
  have names : ∀ key, IsCanonical key → location.contains key = true →
      location.resolve (location.relative key) = key := fun _ =>
    resolve_relative_of_contains canonical.proper
  refine ⟨⟨?reached, location.relative_resolve, names⟩, resolve_root_eq_self_iff⟩
  case reached =>
    ext key
    constructor
    · rintro ⟨written, rfl⟩
      exact ⟨isCanonical_resolve canonical.key written, location.contains_resolve written⟩
    · rintro ⟨keyCanonical, inside⟩
      exact ⟨location.relative key, names key keyCanonical inside⟩

/-- A component may be made of dots. The keys below it do not reach the neighbour whose name begins with its
own. -/
theorem spans_of_canonical_dots :
    let dots : Location := .within "/tree/..."
    dots.Canonical ∧ dots.Spans ∧ dots.resolve "../../leaf/." = "/tree/.../leaf" ∧
      ∀ written, dots.resolve written ≠ "/tree/....leaf" := by
  intro dots
  have located : Location.ofKey (root.resolve "tree/...") = dots := by decide +kernel
  have canonical : dots.Canonical :=
    located ▸ canonical_ofKey (isCanonical_resolve_root "tree/...")
  have spans : dots.Spans := (spans_of_canonical canonical).1
  refine ⟨canonical, spans, by decide +kernel, fun written named => ?_⟩
  have reached : "/tree/....leaf" ∈ Set.range dots.resolve := ⟨written, named⟩
  rw [spans.reached] at reached
  have outside : dots.contains "/tree/....leaf" = false := by decide +kernel
  cases outside.symm.trans reached.2

end PathStore.Location
