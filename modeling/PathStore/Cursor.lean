import PathStore.Handle

/-!
# Cursors and entries

A cursor walks through a subtree from both ends. It keeps no position but the last key that it gave
out at each end, and looks the next one up at every step, so the store may change in between. What
it gives out is an entry, which is named by its key and looked up whenever it is used.
-/

namespace PathStore

/-- An entry of a store by its canonical key, as seen from a location. -/
structure EntryRef where
  store : StoreId
  location : Location
  key : String
  deriving DecidableEq

namespace EntryRef

/-- The key as seen from the location. -/
def relativeKey (entry : EntryRef) : String := entry.location.relative entry.key

/-- The key as seen from the top. -/
def fullKey (entry : EntryRef) : String := Path.shown entry.key

/-- The cell of the entry, which must still be there. The failure shows the relative key. -/
def cell (entry : EntryRef) (entries : Entries Cell) : Except Failure Cell :=
  match entries.find? entry.key with
  | some cell => .ok cell
  | none => .error (.error (.keyNotFound entry.relativeKey))

/-- Run a program on the cell. -/
def withCell {α : Type} (entry : EntryRef) (use : Cell → Op α) : Op α :=
  entry.store.reading .busy fun entries => do use (← entry.cell entries)

/-- Run a program on the value, which has to have the requested type. -/
def withValue {α : Type} (entry : EntryRef) (type : ValueType) (use : Value → Op α) : Op α :=
  entry.withCell fun cell => do use (← cell.expect type)

/-- Run a program on the value and put what it yields beside its result in its place. -/
def modifyValue {α : Type} (entry : EntryRef) (type : ValueType)
    (use : Value → Op (α × Value)) : Op α :=
  entry.store.writing fun entries => do
    let cell ← entry.cell entries
    let (result, value) ← use (← cell.expect type)
    return (result, entries.insert entry.key (some value))

/-- The name of the type of what is stored. -/
def typeName (entry : EntryRef) : Op String :=
  entry.withCell fun cell => pure cell.typeName

/-- The value. -/
def value (entry : EntryRef) (type : ValueType) : Op Value :=
  entry.withValue type pure

/-- The value, whatever its type. -/
def anyValue (entry : EntryRef) : Op Value := do
  match ← entry.withCell pure with
  | some value => return value
  | none => throw (.error (.emptyEntry entry.fullKey))

/-- Replace the value of an entry that must still be there. -/
def set (entry : EntryRef) (value : Value) : Op Unit :=
  entry.store.writing fun entries => do
    discard (entry.cell entries : Except Failure Cell)
    return ((), entries.insert entry.key (some value))

/-- Entries are the same if they name one key of one store. -/
def same (left right : EntryRef) : Bool :=
  left.store = right.store && left.key = right.key

end EntryRef

/-- A walk through the subtree at a scope, whose keys are seen from a location. -/
structure Cursor where
  store : StoreId
  location : Location
  scope : String
  front : Option String
  back : Option String
  deriving DecidableEq

namespace Cursor

/-- The entry that a cursor gives out for a key. -/
def entry (cursor : Cursor) (key : String) : EntryRef :=
  ⟨cursor.store, cursor.location, key⟩

/-- Take the next key from the front, out of the entries of the store. -/
def advance? (cursor : Cursor) (entries : Entries Cell) : Option (String × Cursor) :=
  (entries.firstBetween cursor.scope cursor.front cursor.back).map fun key =>
    (key, { cursor with front := some key })

/-- Take the next key from the back, out of the entries of the store. -/
def retreat? (cursor : Cursor) (entries : Entries Cell) : Option (String × Cursor) :=
  (entries.lastBetween cursor.scope cursor.front cursor.back).map fun key =>
    (key, { cursor with back := some key })

/-- Take the next entry from one end. A cursor at its end stays there. -/
def stepWith (step : Cursor → Entries Cell → Option (String × Cursor)) (cursor : Cursor) :
    Op (Option EntryRef × Cursor) :=
  cursor.store.reading .locked fun entries =>
    match step cursor entries with
    | some (key, cursor) => pure (some (cursor.entry key), cursor)
    | none => pure (none, cursor)

/-- Take the next entry from the front. -/
def next (cursor : Cursor) : Op (Option EntryRef × Cursor) := cursor.stepWith advance?

/-- Take the next entry from the back. -/
def nextBack (cursor : Cursor) : Op (Option EntryRef × Cursor) := cursor.stepWith retreat?

/-- The keys that repeated steps give out, at most as many as `limit`. -/
def walk (step : Cursor → Entries Cell → Option (String × Cursor)) (entries : Entries Cell) :
    Nat → Cursor → List String
  | 0, _ => []
  | limit + 1, cursor =>
    match step cursor entries with
    | some (key, cursor) => key :: walk step entries limit cursor
    | none => []

/-- The keys that the cursor has left, from the front. Every step gives out another key of the
store, so there are no more steps than entries. -/
def remaining (cursor : Cursor) (entries : Entries Cell) : List String :=
  walk advance? entries entries.size cursor

/-- The keys that the cursor has left, from the back. -/
def remainingBack (cursor : Cursor) (entries : Entries Cell) : List String :=
  walk retreat? entries entries.size cursor

/-- The keys that the cursor has left, as seen from its location. -/
def collect (cursor : Cursor) : Op (List String) :=
  cursor.store.reading .locked fun entries =>
    pure ((cursor.remaining entries).map cursor.location.relative)

/-- The same, from the back. -/
def collectBack (cursor : Cursor) : Op (List String) :=
  cursor.store.reading .locked fun entries =>
    pure ((cursor.remainingBack entries).map cursor.location.relative)

end Cursor

namespace Handle

/-- A cursor over all that the handle reaches. -/
def cursor (handle : Handle) : Cursor :=
  { store := handle.store, location := handle.location, scope := handle.location.key,
    front := none, back := none }

/-- A cursor over the subtree at a path, with keys as seen from there. -/
def cursorAt (handle : Handle) (path : String) : Cursor :=
  { store := handle.store, location := .ofKey (handle.resolve path), scope := handle.resolve path,
    front := none, back := none }

/-- Remove an entry of the same store; tells how many entries that were. -/
def eraseEntry (handle : Handle) (entry : EntryRef) : Op Nat :=
  if handle.store = entry.store then eraseKey handle.store entry.key
  else throw (.invalid (.foreignEntry entry.fullKey))

/-- Remove the entries that a cursor of the same store has left; tells how many they were. -/
def eraseRange (handle : Handle) (cursor : Cursor) : Op Nat := do
  if handle.store ≠ cursor.store then throw (.invalid .foreignRange)
  let keys ← cursor.store.reading .locked fun entries => pure (cursor.remaining entries)
  handle.store.writing fun entries =>
    pure ((keys.filter entries.contains).length, entries.eraseAll keys)

end Handle

end PathStore
