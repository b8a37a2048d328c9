import PathStore.Array.Block
import PathStore.Session.Answer
import PathStore.Session.Place
import PathStore.Session.Spec

/-!
# Running accesses

An access claims what it lends, tells what is seen there, runs a body while the claim is held, and
tells what is there afterwards. The body is given as what it does to a session.
-/

namespace PathStore

/-- The steps that something is lent to: a session becomes their answers and another session. -/
abbrev Body := Session → List Answer × Session

namespace Body

/-- Run a body from within a program over the world. -/
def carry (body : Body) (bindings : Variables) : Op (List Answer × Variables) := fun world =>
  let (answers, session) := body ⟨world, bindings⟩
  .ok (answers, session.bindings) session.world

/-- Lend a value for reading. -/
def readValue (body : Body) (bindings : Variables) (value : Value) : Op (Answer × Variables) := do
  let seen ← value.snapshot
  let (answers, bindings) ← body.carry bindings
  return (.valueRead seen answers, bindings)

/-- Lend a value for writing, after it was overwritten by one of the same type. -/
def writeValue (body : Body) (set : Option ValueSpec) (bindings : Variables) (value : Value) :
    Op ((Answer × Variables) × Value) := do
  let seen ← value.snapshot
  let held := (← ValueSpec.optionIn bindings set).getD value
  if held.type ≠ value.type then throw (.misfit "the value to set has another type")
  let (answers, bindings) ← body.carry bindings
  let after ← held.snapshot
  return ((.valueWritten seen after answers, bindings), held)

/-- Lend a cell for reading. -/
def readCell (body : Body) (bindings : Variables) (cell : Cell) : Op (Answer × Variables) := do
  let seen ← cell.snapshot
  let (answers, bindings) ← body.carry bindings
  return (.cellRead seen answers, bindings)

/-- Lend a cell for writing, after it was set or emptied. -/
def writeCell (body : Body) (set : Option ValueSpec) (empty : Bool) (bindings : Variables)
    (cell : Cell) : Op ((Answer × Variables) × Cell) := do
  let seen ← cell.snapshot
  let set ← ValueSpec.optionIn bindings set
  let held : Cell := if empty then none else set.or cell
  let (answers, bindings) ← body.carry bindings
  let after ← held.snapshot
  return ((.cellWritten seen after answers, bindings), held)

/-- Lend elements for reading. -/
def readElements (body : Body) (bindings : Variables) (elements : List Scalar) :
    Op (Answer × Variables) := do
  let (answers, bindings) ← body.carry bindings
  return (.dataRead elements answers, bindings)

/-- Lend elements for writing, after others were laid over their beginning. Those for which there is
no slot are not looked at. -/
def writeElements (body : Body) (elem : ElemType) (fill : List Literal) (bindings : Variables)
    (elements : List Scalar) : Op ((Answer × Variables) × List Scalar) := do
  let fill := fill.take elements.length
  let fill ← (fill.mapM (Literal.read · elem) : Except Failure (List Scalar))
  let held := Block.overlay fill elements
  let (answers, bindings) ← body.carry bindings
  return ((.dataWritten elements held answers, bindings), held)

end Body

/-- Lend something to a body. -/
def Access.run (body : Body) : Access → Task Answer
  | .writeVariable name type set => do
    let value ← (← Task.value name).expect type
    Task.lending name .value fun bindings => body.writeValue set bindings value
  | .writeCell name type set => do
    let value ← (← Task.cell name).expect type
    Task.lending name (fun value => .cell (some value)) fun bindings =>
      body.writeValue set bindings value
  | .readBuffer name => do
    let buffer ← Task.buffer name
    Task.carrying fun bindings => buffer.id.reading .busy (body.readElements bindings)
  | .writeBuffer name fill => do
    let buffer ← Task.buffer name
    Task.carrying fun bindings =>
      buffer.id.writing (body.writeElements buffer.elem fill bindings)
  | .readBlock place =>
    place.reading .block fun bindings value => do
      (← value.toBlock).withData (body.readElements bindings)
  | .writeBlock place fill =>
    place.writing .block fun bindings value => do
      let block ← value.toBlock
      let (result, block) ← block.modifyData (body.writeElements block.elem fill bindings)
      return (result, .block block)
  | .readStored map key type => do
    let handle ← Task.handle map
    Task.carrying fun bindings => handle.withValue key type (body.readValue bindings)
  | .readStoredOr map key type default => do
    let handle ← Task.handle map
    let default ← default.build
    Task.carrying fun bindings => handle.withValueOr key type default (body.readValue bindings)
  | .writeStored map key type set => do
    let handle ← Task.handle map
    Task.carrying fun bindings => handle.modifyValue key type (body.writeValue set bindings)
  | .writeStoredCell map key set empty => do
    let handle ← Task.handle map
    Task.carrying fun bindings => handle.modifyCell key (body.writeCell set empty bindings)
  | .readEntry name type => do
    let entry ← Task.entry name
    Task.carrying fun bindings => entry.withValue type (body.readValue bindings)
  | .writeEntry name type set => do
    let entry ← Task.entry name
    Task.carrying fun bindings => entry.modifyValue type (body.writeValue set bindings)
  | .readEntryCell name => do
    let entry ← Task.entry name
    Task.carrying fun bindings => entry.withCell (body.readCell bindings)

end PathStore
