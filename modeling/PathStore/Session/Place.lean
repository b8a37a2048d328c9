import PathStore.Session.Step

/-!
# Arrays where they stand

A view or block can be operated on where it stands: in a variable, in a cell, or stored in a map,
reached by key or by entry. In a map the store is claimed meanwhile.
-/

namespace PathStore

namespace Value

/-- The view that a value has to be. -/
def toView (value : Value) : Except Failure View :=
  match value with
  | .view array => .ok array
  | _ => .error (.misfit "the value is no view")

/-- The block that a value has to be. -/
def toBlock (value : Value) : Except Failure Block :=
  match value with
  | .block array => .ok array
  | _ => .error (.misfit "the value is no block")

end Value

namespace Place

/-- Run a program on the array at a place while reading it. -/
def reading {α : Type} (place : Place) (form : Form)
    (use : Variables → Value → Op (α × Variables)) : Task α := do
  match place with
  | .variable name =>
    let value ← Task.value name
    if value.type.form ≠ form then throw (.misfit (name ++ " has another form"))
    Task.carrying fun bindings => use bindings value
  | .stored map key elem =>
    let handle ← Task.handle map
    Task.carrying fun bindings => handle.withValue key ⟨form, elem⟩ (use bindings)
  | .entry name elem =>
    let entry ← Task.entry name
    Task.carrying fun bindings => entry.withValue ⟨form, elem⟩ (use bindings)
  | .cell name elem =>
    let value ← (← Task.cell name).expect ⟨form, elem⟩
    Task.carrying fun bindings => use bindings value

/-- Run a program on the array at a place while writing it, and put what it yields beside its
result in its place. -/
def writing {α : Type} (place : Place) (form : Form)
    (use : Variables → Value → Op ((α × Variables) × Value)) : Task α := do
  match place with
  | .variable name =>
    let value ← Task.value name
    if value.type.form ≠ form then throw (.misfit (name ++ " has another form"))
    Task.lending name .value fun bindings => use bindings value
  | .stored map key elem =>
    let handle ← Task.handle map
    Task.carrying fun bindings => handle.modifyValue key ⟨form, elem⟩ (use bindings)
  | .entry name elem =>
    let entry ← Task.entry name
    Task.carrying fun bindings => entry.modifyValue ⟨form, elem⟩ (use bindings)
  | .cell name elem =>
    let value ← (← Task.cell name).expect ⟨form, elem⟩
    Task.lending name (fun value => .cell (some value)) fun bindings => use bindings value

/-- Run a program on the view at a place while reading it. -/
def readingView {α : Type} (place : Place) (use : View → Op α) : Task α :=
  place.reading .view fun bindings value => return (← use (← value.toView), bindings)

/-- Run a program on the view at a place while writing it. -/
def writingView {α : Type} (place : Place) (use : View → Op (α × View)) : Task α :=
  place.writing .view fun bindings value => do
    let (result, view) ← use (← value.toView)
    return ((result, bindings), .view view)

/-- Run a program on the block at a place while reading it. -/
def readingBlock {α : Type} (place : Place) (use : Block → Op α) : Task α :=
  place.reading .block fun bindings value => return (← use (← value.toBlock), bindings)

/-- Run a program on the block at a place while writing it. -/
def writingBlock {α : Type} (place : Place) (use : Block → Op (α × Block)) : Task α :=
  place.writing .block fun bindings value => do
    let (result, block) ← use (← value.toBlock)
    return ((result, bindings), .block block)

end Place

end PathStore
