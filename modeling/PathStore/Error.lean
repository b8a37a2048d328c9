import PathStore.Array.Slice
import PathStore.Scalar

/-!
# Causes of failure

An `Error` is a cause that a caller can meet and handle, and `Error.message` its wording. A `Fault`
ends the operation without an answer. Failing never hides which of the two it is.
-/

namespace PathStore

/-- What is wrong with a shape, a slice, an index or an object that was passed in. -/
inductive InvalidValue where
  | zeroStep
  | tooManySelectors (count rank : Nat)
  | indexTooLarge (index : Nat)
  | sliceOutside (slice : Slice) (extent : Int)
  | sliceEmpty (slice : Slice)
  | ranksDiffer (extents strides : Nat)
  | addressOverflow
  | layoutOutside (shape : List Nat) (strides : List Int) (offset length : Nat)
  | dataSize (given computed : Nat)
  | bufferTooShort (length : Nat) (shape : List Nat)
  | indexRank (index : List Nat) (rank : Nat)
  | axisIndex (index axis extent : Nat)
  | viewIndex (index : Nat)
  | blockIndex (index size : Nat)
  | bufferIndex (index length : Nat)
  | foreignEntry (key : String)
  | foreignRange
  deriving DecidableEq

/-- Why the way in which a block holds its data forbids an operation. -/
inductive InvalidState where
  | releaseBorrowed
  | releaseTwice
  | released
  | viewUnshared
  | borrowOwned
  deriving DecidableEq

/-- A cause of failure that is told to the caller. -/
inductive Error where
  /-- Nothing is stored under the key, which is given as it was written. -/
  | keyNotFound (key : String)
  | typeMismatch (requested : ValueType) (actual : Option ValueType)
  | invalidValue (cause : InvalidValue)
  | invalidState (cause : InvalidState)
  /-- An entry is there but its cell is empty. -/
  | emptyEntry (key : String)
  /-- A claim that is held forbids the one that was needed. -/
  | busy
  deriving DecidableEq

/-- Why an operation ends without an answer. -/
inductive Fault where
  /-- An address left the range of machine integers. -/
  | overflow
  | divisionByZero
  | indexOutside
  /-- A list would take more bytes than can be addressed. -/
  | capacity
  /-- A claim that is held forbids the one that was needed, where no error can be told. -/
  | locked
  deriving DecidableEq

/-- How an operation fails. -/
inductive Failure where
  | error (cause : Error)
  | fault (cause : Fault)
  /-- The step does not fit the objects it names. -/
  | misfit (reason : String)
  deriving DecidableEq

namespace Failure

/-- A value that was passed in is not acceptable. -/
def invalid (cause : InvalidValue) : Failure := .error (.invalidValue cause)

/-- The block is in the wrong state. -/
def wrongState (cause : InvalidState) : Failure := .error (.invalidState cause)

/-- A claim is refused, and the caller is told. -/
def busy : Failure := .error .busy

/-- A claim is refused where the caller cannot be told. -/
def locked : Failure := .fault .locked

end Failure

/-- Texts between brackets, separated by commas. -/
def bracketed (texts : List String) : String :=
  "[" ++ ", ".intercalate texts ++ "]"

namespace InvalidValue

/-- The wording of a cause. -/
def message : InvalidValue → String
  | .zeroStep => "Step cannot be zero."
  | .tooManySelectors count rank =>
    s!"Got {count} selectors for an array with {rank} dimensions"
  | .indexTooLarge index => s!"Index {index} does not fit into isize"
  | .sliceOutside slice extent =>
    "Slice " ++ slice.display ++ " goes beyond the valid index range \x7b0, " ++ toString extent
      ++ "\x7d."
  | .sliceEmpty slice => "Slice " ++ slice.display ++ " is empty."
  | .ranksDiffer extents strides =>
    s!"Size of shape vector (== {extents}) does not agree with the size of the strides vector (== {strides})."
  | .addressOverflow => "Strided layout overflows the address range"
  | .layoutOutside shape strides offset length =>
    "Layout with shape " ++ bracketed (shape.map toString) ++ ", strides "
      ++ bracketed (strides.map toString)
      ++ s!" and offset {offset} addresses elements outside of a buffer of {length} elements"
  | .dataSize given computed =>
    s!"Size of the data (== {given}) does not agree with the total number of entries computed by the shape (== {computed})."
  | .bufferTooShort length shape =>
    s!"Buffer of {length} elements is too short for shape " ++ bracketed (shape.map toString)
  | .indexRank index rank =>
    "Index " ++ bracketed (index.map toString)
      ++ s!" has {index.length} components, but the array has {rank} dimensions"
  | .axisIndex index axis extent =>
    s!"Index {index} is out of range for axis {axis} of extent {extent}"
  | .viewIndex index => s!"ArrayView index out of range: {index}"
  | .blockIndex index size => s!"DataBlock index {index} is out of range for {size} elements"
  | .bufferIndex index length =>
    s!"Buffer index {index} is out of range for a buffer of {length} elements"
  | .foreignEntry key => "Entry " ++ key ++ " does not belong to this map"
  | .foreignRange => "Range does not belong to this map"

end InvalidValue

namespace InvalidState

/-- The wording of a cause. -/
def message : InvalidState → String
  | .releaseBorrowed => "Cannot release data of a block which only borrows its memory"
  | .releaseTwice => "The data of this block has already been released"
  | .released => "The data of this block has been released"
  | .viewUnshared => "Only blocks borrowing their memory can be viewed"
  | .borrowOwned => "Cannot borrow the storage owned by another block"

end InvalidState

namespace Error

/-- The wording of an error. -/
def message : Error → String
  | .keyNotFound key => "The key " ++ key ++ " is unknown"
  | .typeMismatch requested actual =>
    "Requested a value of type " ++ requested.name ++ ", but the stored value has type "
      ++ ValueType.nameOrEmpty actual
  | .invalidValue cause => "Invalid value: " ++ cause.message
  | .invalidState cause => "Invalid state: " ++ cause.message
  | .emptyEntry key => "Internal invariant violated: Entry " ++ key ++ " holds no value"
  | .busy => "The store is already borrowed"

end Error

end PathStore
