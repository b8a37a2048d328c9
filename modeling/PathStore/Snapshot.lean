import PathStore.Cursor

/-!
# Snapshots

A snapshot is what a value says at one moment, without reference to shared objects: the elements of
an array are read out, or the reason is told why they cannot be read.
-/

namespace PathStore

/-- What a view says at one moment. -/
structure ViewSnapshot where
  elem : ElemType
  shape : List Nat
  strides : List Int
  offset : Nat
  size : Nat
  data : Except Error (List Scalar)

/-- What a block says at one moment. -/
structure BlockSnapshot where
  elem : ElemType
  memory : Option Memory
  shape : List Nat
  strides : List Int
  size : Nat
  data : Except Error (List Scalar)

/-- What a value says at one moment. -/
inductive Snapshot where
  | scalar (datum : Scalar)
  | view (shown : ViewSnapshot)
  | block (shown : BlockSnapshot)

namespace Snapshot

/-- The type of the value. -/
def type : Snapshot → ValueType
  | .scalar datum => ⟨.scalar, datum.elemType⟩
  | .view shown => .view shown.elem
  | .block shown => .block shown.elem

end Snapshot

/-- What a view says now. -/
def View.snapshot (view : View) : Op ViewSnapshot :=
  return { elem := view.buffer.elem, shape := view.shape, strides := view.strides,
           offset := view.offset, size := view.size, data := ← view.toList.attempt }

/-- What a block says now. -/
def Block.snapshot (block : Block) : Op BlockSnapshot :=
  return { elem := block.elem, memory := block.storage.memory?, shape := block.shape,
           strides := block.strides, size := block.size, data := ← block.toList.attempt }

/-- What a value says now. -/
def Value.snapshot : Value → Op Snapshot
  | .scalar datum => pure (.scalar datum)
  | .view array => .view <$> array.snapshot
  | .block array => .block <$> array.snapshot

/-- What a cell says now. -/
def Cell.snapshot : Cell → Op (Option Snapshot)
  | none => pure none
  | some value => some <$> value.snapshot

/-- What an entry says now, or why it says nothing. -/
def EntryRef.snapshot (entry : EntryRef) : Op (Except Error Snapshot) := do
  match ← entry.anyValue.attempt with
  | .ok value => return .ok (← value.snapshot)
  | .error cause => return .error cause

/-- All that a handle reaches, in order, under keys as seen from its location. -/
def Handle.snapshot (handle : Handle) : Op (List (String × Except Error Snapshot)) := do
  let cursor := handle.cursor
  let keys ← handle.store.reading .locked fun entries => pure (cursor.remaining entries)
  keys.mapM fun key =>
    return ((cursor.entry key).relativeKey, ← (cursor.entry key).snapshot)

end PathStore
