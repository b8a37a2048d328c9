import PathStore.Array.Layout

/-!
# Values

A value is a scalar, a view or a block. A view looks at a shared buffer through an offset and axes
and may name the object that the memory belongs to. A block either owns its data, borrows a shared
buffer, or has given its data away. Buffers and owners live in the world (`PathStore.World`) and are
named here by their identity, so copying a value shares them.
-/

namespace PathStore

/-- The identity of a store of entries. -/
structure StoreId where
  number : Nat
  deriving DecidableEq

/-- The identity of a buffer. -/
structure BufferId where
  number : Nat
  deriving DecidableEq

/-- The identity of an object that may own memory. -/
structure HostId where
  number : Nat
  deriving DecidableEq

/-- A shared buffer and the type of its elements. -/
structure BufferRef where
  elem : ElemType
  id : BufferId
  deriving DecidableEq

/-- What kind of object owns memory. -/
inductive OwnerKind where
  | unknown
  | hostArray
  deriving DecidableEq

/-- The object that viewed memory belongs to. Naming it does not keep it alive. -/
structure Owner where
  kind : OwnerKind
  host : HostId
  deriving DecidableEq

/-- A strided view of a buffer. -/
structure View where
  buffer : BufferRef
  offset : Nat
  axes : List Axis
  size : Nat
  owner : Option Owner
  deriving DecidableEq

/-- Whether a block keeps its data or shares a buffer. -/
inductive Memory where
  | owned
  | borrowed
  deriving DecidableEq

/-- Where the data of a block is. -/
inductive Storage where
  | owned (data : List Scalar)
  | borrowed (buffer : BufferRef)
  | released
  deriving DecidableEq

/-- A block of array data. -/
structure Block where
  elem : ElemType
  storage : Storage
  axes : List Axis
  size : Nat
  deriving DecidableEq

/-- Anything that can be stored. -/
inductive Value where
  | scalar (datum : Scalar)
  | view (array : View)
  | block (array : Block)
  deriving DecidableEq

/-- The place of a value in a store, which may be empty. -/
abbrev Cell := Option Value

namespace Storage

/-- How the data is held, unless it has been given away. -/
def memory? : Storage → Option Memory
  | .owned _ => some .owned
  | .borrowed _ => some .borrowed
  | .released => none

end Storage

namespace Value

/-- The type of a value. -/
def type : Value → ValueType
  | .scalar datum => ⟨.scalar, datum.elemType⟩
  | .view array => .view array.buffer.elem
  | .block array => .block array.elem

/-- Whether a value has the requested type. -/
def expect (value : Value) (requested : ValueType) : Except Failure Value :=
  if value.type = requested then .ok value
  else .error (.error (.typeMismatch requested (some value.type)))

end Value

namespace Cell

/-- The value in a cell, which has to have the requested type. -/
def expect (cell : Cell) (requested : ValueType) : Except Failure Value :=
  match cell with
  | some value => value.expect requested
  | none => .error (.error (.typeMismatch requested none))

/-- The name of the type of what a cell holds. -/
def typeName (cell : Cell) : String :=
  ValueType.nameOrEmpty (cell.map Value.type)

end Cell

end PathStore
