import PathStore.Binary64

/-!
# Scalars and the types of values

A value is a scalar, a view of a buffer or a block of data; the latter two hold scalars of one
element type. This gives fifteen types of values, each with a name.
-/

namespace PathStore

/-- The types of scalars, which are also those of the elements of arrays. -/
inductive ElemType where
  | bool
  | integer
  | float
  | text
  | complex
  deriving DecidableEq

/-- A single datum. -/
inductive Scalar where
  | bool (truth : Bool)
  | integer (number : Int64)
  | float (number : Binary64)
  | text (chars : String)
  | complex (re im : Binary64)
  deriving DecidableEq

/-- What a value is made of. -/
inductive Form where
  | scalar
  | view
  | block
  deriving DecidableEq

/-- The type of a value. -/
structure ValueType where
  form : Form
  elem : ElemType
  deriving DecidableEq

namespace ElemType

/-- The name of the type of scalars. -/
def name : ElemType → String
  | .bool => "bool"
  | .integer => "i64"
  | .float => "f64"
  | .text => "String"
  | .complex => "Complex64"

/-- The bytes that a scalar takes in a list. Those of a text only say where its characters are. -/
def width : ElemType → Nat
  | .bool => 1
  | .integer => 8
  | .float => 8
  | .text => 24
  | .complex => 16

end ElemType

namespace Scalar

/-- The type of a scalar. -/
def elemType : Scalar → ElemType
  | .bool _ => .bool
  | .integer _ => .integer
  | .float _ => .float
  | .text _ => .text
  | .complex _ _ => .complex

/-- Equality of scalars. Numbers compare as numbers, so it is not reflexive. -/
def same : Scalar → Scalar → Bool
  | .bool left, .bool right => left == right
  | .integer left, .integer right => left == right
  | .float left, .float right => left.same right
  | .text left, .text right => left == right
  | .complex re im, .complex re' im' => re.same re' && im.same im'
  | _, _ => false

end Scalar

namespace ValueType

/-- The name of a type of values. -/
def name (type : ValueType) : String :=
  match type.form with
  | .scalar => type.elem.name
  | .view => "ArrayView<" ++ type.elem.name ++ ">"
  | .block => "DataBlock<" ++ type.elem.name ++ ">"

/-- How the type of what a cell holds is named, if it holds anything. -/
def nameOrEmpty : Option ValueType → String
  | some type => type.name
  | none => "<empty>"

/-- The type of views of elements. -/
def view (elem : ElemType) : ValueType := ⟨.view, elem⟩

/-- The type of blocks of elements. -/
def block (elem : ElemType) : ValueType := ⟨.block, elem⟩

end ValueType

end PathStore
