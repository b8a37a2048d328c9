import PathStore.Equality
import PathStore.Inspect
import PathStore.Session.Answer
import PathStore.Session.Place
import PathStore.Session.Spec

/-!
# Running actions

An action looks up the objects that it names, does one thing with them, and yields an answer and
perhaps a new object.
-/

namespace PathStore

/-- What an action answers, and the object that it makes. -/
abbrev Outcome := Answer × Option Object

namespace Outcome

/-- An answer alone. -/
def only (answer : Answer) : Outcome := (answer, none)

/-- A value, as answer and as object. -/
def value (made : Value) : Task Outcome :=
  return (.value (← made.snapshot), some (.value made))

/-- A handle, as answer and as object. -/
def handle (made : Handle) : Outcome := (.handle made.location, some (.handle made))

/-- A buffer, as answer and as object. -/
def buffer (made : BufferRef) : Task Outcome :=
  return (.buffer made.elem (← made.length), some (.buffer made))

end Outcome

/-- Let a variable name what an action made. -/
def Outcome.store (into : Option String) (outcome : Outcome) : Task Answer := do
  match into, outcome.2 with
  | some name, some object => Task.bind name object
  | _, _ => pure ()
  return outcome.1

/-- The answer to a question about keys and locations. -/
def PathAction.answer : PathAction → Answer
  | .resolve location key => .text (location.resolve key)
  | .describe location => .location location
  | .join location path => .location (location.join path)
  | .contains location key => .truth (location.contains key)
  | .relative location key => .text (location.relative key)

/-- The answer to a question about strides, slices and selectors. -/
def LayoutAction.answer : LayoutAction → Except Failure Answer
  | .rowMajorStrides shape => .integers <$> Layout.rowMajorStrides shape
  | .columnMajorStrides shape => .integers <$> Layout.columnMajorStrides shape
  | .describe slice => .slice <$> slice.build
  | .resolve slice extent => do
    let range ← (← slice.build).resolve extent
    return .integers [range.first, range.pastLast, range.step]
  | .count slice extent => do return .count (← (← slice.build).count extent)
  | .same left right => do return .truth (decide ((← left.build) = (← right.build)))

/-- Whether two named objects of one kind are equal. -/
def Object.same : Object → Object → Task Bool
  | .value left, .value right => left.same right
  | .cell left, .cell right => Cell.same left right
  | .entry left, .entry right => pure (left.same right)
  | _, _ => throw (.misfit "the objects cannot be compared")

/-- The text of a named object. -/
def Object.inspect (world : World) : Object → String
  | .handle object => Inspect.handle world object
  | .value object => Inspect.value world object
  | .cell object => Inspect.cell world object
  | .buffer object => Inspect.buffer world object
  | .cursor object => Inspect.cursor object
  | .entry object => Inspect.entry object
  | .host id => Inspect.host world id

/-- Run an action on values, cells and owners. -/
def ObjectAction.run : ObjectAction → Task Outcome
  | .newValue spec => do Outcome.value (← spec.build)
  | .showValue name => do return .only (.value (← (← Task.value name).snapshot))
  | .typeName name => do return .only (.text (← Task.value name).type.name)
  | .hasType name type => do return .only (.truth ((← Task.value name).type = type))
  | .get name type => do
    let value ← (← Task.value name).expect type
    Outcome.value value
  | .set name spec => do
    discard (Task.value name)
    let value ← spec.build
    Task.bind name (.value value)
    return .only (.value (← value.snapshot))
  | .newCell spec => do
    let cell ← ValueSpec.optionIn (← getThe Session).bindings spec
    return (.cell (← Cell.snapshot cell), some (.cell cell))
  | .showCell name => do return .only (.fullness (← (← Task.cell name).snapshot))
  | .setCell name spec => do
    discard (Task.cell name)
    let cell : Cell := some (← spec.build)
    Task.bind name (.cell cell)
    return .only (.cell (← cell.snapshot))
  | .getCell name type => do
    let value ← (← Task.cell name).expect type
    Outcome.value value
  | .takeCell name => do
    match ← Task.cell name with
    | some value => Outcome.value value
    | none => return .only .nothing
  | .newHost text => do return (.nothing, some (.host (← HostId.create text)))
  | .forget name => do
    modify (·.forget name)
    return .only .nothing
  | .same left right => do
    let left ← Task.named left "object" some
    let right ← Task.named right "object" some
    return .only (.truth (← left.same right))
  | .inspect name => do
    let object ← Task.named name "object" some
    return .only (.text (object.inspect (← getThe Session).world))

/-- Run an action on buffers. -/
def BufferAction.run : BufferAction → Task Outcome
  | .create elem data => do Outcome.buffer (← BufferRef.create elem data)
  | .copy name => do Outcome.buffer (← Task.buffer name)
  | .length name => do return .only (.length (← (← Task.buffer name).length))
  | .get name position => do return .only (.element (← (← Task.buffer name).get position))
  | .set name position element => do
    let buffer ← Task.buffer name
    let element ← element.read buffer.elem
    buffer.set position element
    return .only .nothing
  | .toList name => do return .only (.elements (← (← Task.buffer name).toList))
  | .same left right => do
    return .only (.truth ((← Task.buffer left).id = (← Task.buffer right).id))

/-- Make a view or a block. -/
def ArrayAction.run : ArrayAction → Task Outcome
  | .view buffer offset shape strides => do
    let view ← View.make (← Task.buffer buffer) offset shape strides
    Outcome.value (.view view)
  | .wholeView buffer => do
    let view ← View.ofBuffer (← Task.buffer buffer)
    Outcome.value (.view view)
  | .bufferBlock buffer shape strides memory => do
    let buffer ← Task.buffer buffer
    let block ←
      match strides with
      | some strides => Block.ofBuffer buffer shape strides memory
      | none => Block.ofBufferShape buffer shape memory
    Outcome.value (.block block)
  | .listBlock elem data => Outcome.value (.block (Block.ofList elem data))
  | .shapedBlock elem data shape strides => do
    let block ←
      match strides with
      | some strides => Block.make elem data shape strides
      | none => Block.ofShape elem data shape
    Outcome.value (.block block)

/-- An owner now. -/
def OwnerShown.now (world : World) (owner : Owner) : OwnerShown :=
  { kind := owner.kind, text := world.host? owner.host, display := Inspect.owner world owner }

/-- The owner of a view now. -/
def View.showOwner (view : View) : Op (Option OwnerShown) :=
  return view.owner.map (OwnerShown.now (← getThe World))

/-- Run an action on a view where it stands. -/
def ViewAction.run (place : Place) : ViewAction → Task Outcome
  | .describe =>
    place.readingView fun view => return .only (.view (← view.info))
  | .get index => place.readingView fun view => return .only (.element (← view.get index))
  | .set index element =>
    place.readingView fun view => do
      view.set index (← element.read view.buffer.elem)
      return .only .nothing
  | .getLinear position =>
    place.readingView fun view => return .only (.element (← view.getLinear position))
  | .setLinear position element =>
    place.readingView fun view => do
      view.setLinear position (← element.read view.buffer.elem)
      return .only .nothing
  | .toList => place.readingView fun view => return .only (.elements (← view.toList))
  | .slice selectors => do
    let part ← place.readingView fun view => do
      view.slice (← (selectors.mapM SelectorSpec.build : Except Failure (List Selector)))
    Outcome.value (.view part)
  | .buffer => do
    let buffer ← place.readingView fun view => pure view.buffer
    Outcome.buffer buffer
  | .owner => place.readingView fun view => return .only (.owner (← view.showOwner))
  | .resetOwner name kind =>
    place.writing .view fun bindings value => do
      let view ← value.toView
      let owner : Owner := ⟨kind, ← bindings.host name⟩
      return ((.only .nothing, bindings), .view { view with owner := some owner })
  | .clearOwner =>
    place.writingView fun view => return (.only .nothing, { view with owner := none })

/-- Run an action on a block where it stands. -/
def BlockAction.run (place : Place) : BlockAction → Task Outcome
  | .describe => place.readingBlock fun block => return .only (.block block.info)
  | .get position => place.readingBlock fun block => return .only (.element (← block.get position))
  | .set position element =>
    place.writingBlock fun block => do
      let element ← element.read block.elem
      return (.only .nothing, ← block.set position element)
  | .toList => place.readingBlock fun block => return .only (.elements (← block.toList))
  | .release => do
    let released ← place.writingBlock fun block => pure block.release
    return .only (.elements (← released))
  | .take => do
    let taken ← place.writingBlock fun block => return (block, block.husk)
    Outcome.value (.block taken)
  | .view => do
    let view ← place.readingBlock fun block => block.view
    Outcome.value (.view view)
  | .copyAs memory => do
    let copy ← place.readingBlock fun block => block.copyAs memory
    Outcome.value (.block copy)

/-- Run an action on maps. -/
def MapAction.run : MapAction → Task Outcome
  | .create => do return .handle (← Handle.create .empty)
  | .ofEntries entries => do
    let entries ← ValueSpec.buildEntries entries
    let handle ← Handle.create .empty
    handle.updateMany entries
    return .handle handle
  | .location map => do return .only (.location (← Task.handle map).location)
  | .isRoot map => do return .only (.truth (← Task.handle map).location.isRoot)
  | .shares map other => do
    return .only (.truth ((← Task.handle map).store = (← Task.handle other).store))
  | .path map key => do return .only (.text ((← Task.handle map).path key))
  | .update map key value => do
    (← Task.handle map).update key (← value.build)
    return .only .nothing
  | .updateMany map entries => do
    (← Task.handle map).updateMany (← ValueSpec.buildEntries entries)
    return .only .nothing
  | .insertDefault map key value => do
    return .only (.truth (← (← Task.handle map).insertDefault key (← value.build)))
  | .insertDefaultMany map entries => do
    let entries ← ValueSpec.buildEntries entries
    return .only (.count (← (← Task.handle map).insertDefaultMany entries))
  | .get map key type => do
    let value ← (← Task.handle map).get key type
    Outcome.value value
  | .getOr map key type default => do
    let default ← default.build
    let value ← (← Task.handle map).getOr key type default
    Outcome.value value
  | .getAny map key => do
    let value ← (← Task.handle map).getAny key
    Outcome.value value
  | .typeName map key => do return .only (.text (← (← Task.handle map).typeName key))
  | .isStored map key => do return .only (.truth (← (← Task.handle map).isStored key))
  | .size map => do return .only (.count (← (← Task.handle map).size))
  | .isEmpty map => do return .only (.truth (← (← Task.handle map).isEmpty))
  | .keys map => do return .only (.texts (← (← Task.handle map).keys))
  | .erase map key => do return .only (.count (← (← Task.handle map).erase key))
  | .eraseEntry map entry => do
    return .only (.count (← (← Task.handle map).eraseEntry (← Task.entry entry)))
  | .eraseRange map name => do
    return .only (.count (← (← Task.handle map).eraseRange (← Task.cursor name)))
  | .eraseRecursive map written => do
    return .only (.count (← (← Task.handle map).eraseRecursive written))
  | .clear map => do return .only (.count (← (← Task.handle map).clear))
  | .submap map written => do return .handle ((← Task.handle map).submap written)
  | .copy map => do return .handle (← (← Task.handle map).copy .locked)
  | .tryCopy map => do return .handle (← (← Task.handle map).copy .busy)
  | .assign map other => do
    discard (Task.handle map)
    let other ← Task.handle other
    Task.bind map (.handle other)
    return .only (.handle other.location)
  | .graft map key other => do
    (← Task.handle map).graft key (← Task.handle other)
    return .only .nothing
  | .merge map other => do
    (← Task.handle map).merge (← Task.handle other)
    return .only .nothing
  | .cursor map => do return (.nothing, some (.cursor (← Task.handle map).cursor))
  | .cursorAt map written => do
    return (.nothing, some (.cursor ((← Task.handle map).cursorAt written)))
  | .listing map => do
    let handle ← Task.handle map
    return .only (.listing handle.location (← handle.snapshot))

/-- The outcome of a step of the cursor that a variable names. -/
def CursorAction.stepped (name : String) (taken : Option EntryRef × Cursor) : Task Outcome := do
  Task.bind name (.cursor taken.2)
  match taken.1 with
  | some entry => return (.entry entry.relativeKey entry.fullKey, some (.entry entry))
  | none => return .only .nothing

/-- Run an action on a cursor. -/
def CursorAction.run (name : String) (action : CursorAction) : Task Outcome := do
  let cursor ← Task.cursor name
  match action with
  | .next => stepped name (← cursor.next)
  | .nextBack => stepped name (← cursor.nextBack)
  | .collect => return .only (.texts (← cursor.collect))
  | .collectBack => return .only (.texts (← cursor.collectBack))
  | .copy => return (.nothing, some (.cursor cursor))

/-- Run an action on an entry. -/
def EntryAction.run (name : String) (action : EntryAction) : Task Outcome := do
  let entry ← Task.entry name
  match action with
  | .keys => return .only (.entry entry.relativeKey entry.fullKey)
  | .typeName => return .only (.text (← entry.typeName))
  | .value type =>
    let held ← entry.value type
    Outcome.value held
  | .anyValue =>
    let held ← entry.anyValue
    Outcome.value held
  | .set spec =>
    entry.set (← spec.build)
    return .only .nothing

/-- Run an action. -/
def Action.run : Action → Task Outcome
  | .path action => return .only action.answer
  | .layout action => do return .only (← action.answer)
  | .object action => action.run
  | .buffer action => action.run
  | .array action => action.run
  | .view place action => action.run place
  | .block place action => action.run place
  | .map action => action.run
  | .cursor name action => action.run name
  | .entry name action => action.run name

end PathStore
