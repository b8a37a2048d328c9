import PathStore.Decimal
import PathStore.Snapshot
import PathStore.Text.Quoted

/-!
# Inspection texts

Every object has a text that shows what it is made of on one line: structures by their fields in
braces, alternatives by their name. Texts are written from the world as it is, and a store or
buffer that is being written is only said to be so.
-/

namespace PathStore.Inspect

/-- Numbers are written with a point from a ten-thousandth up to ten quadrillions, and with an
exponent outside. -/
def numberStyle : Decimal.Style :=
  { tooLarge := 16, tooSmall := -4, exponentMark := "e", wholeSuffix := ".0", nan := "NaN",
    infinity := "inf" }

/-- The text of a number. -/
def number (value : Binary64) : String := Decimal.write numberStyle value

/-- One and a half. -/
example : number ⟨0x3ff8000000000000⟩ = "1.5" := by decide +kernel

/-- Ten quadrillions, the first whole number with an exponent. -/
example : number ⟨0x4341c37937e08000⟩ = "1e16" := by decide +kernel

/-- The least positive number. -/
example : number ⟨1⟩ = "5e-324" := by decide +kernel

/-- A structure with the texts of its fields. -/
def record (name : String) (fields : List (String × String)) : String :=
  name ++ " \x7b " ++ ", ".intercalate (fields.map fun field => field.1 ++ ": " ++ field.2)
    ++ " \x7d"

/-- An alternative with the text of what it holds. -/
def tagged (name inner : String) : String := name ++ "(" ++ inner ++ ")"

/-- Something that may be absent. -/
def optional : Option String → String
  | some inner => tagged "Some" inner
  | none => "None"

/-- The name of the alternatives of an element type. -/
def label : ElemType → String
  | .bool => "Bool"
  | .integer => "Integer"
  | .float => "Float"
  | .text => "String"
  | .complex => "Complex"

/-- A scalar as an element. -/
def element : Scalar → String
  | .bool true => "true"
  | .bool false => "false"
  | .integer value => toString value.toInt
  | .float value => number value
  | .text value => Quoted.write value
  | .complex re im => record "Complex" [("re", number re), ("im", number im)]

/-- A list of elements. -/
def elements (data : List Scalar) : String := bracketed (data.map element)

/-- A list of sizes. -/
def sizes (list : List Nat) : String := bracketed (list.map toString)

/-- A list of strides. -/
def strides (list : List Int) : String := bracketed (list.map toString)

/-- An object that can own, shown by its text while it lives. -/
def host (world : World) (id : HostId) : String := Quoted.write ((world.host? id).getD "")

/-- The name of a kind of owners. -/
def ownerKind : OwnerKind → String
  | .unknown => "Opaque"
  | .hostArray => "HostArray"

/-- An owner, and whether it lives. -/
def owner (world : World) (owner : Owner) : String :=
  record "Owner"
    [("kind", ownerKind owner.kind),
     ("alive", if (world.host? owner.host).isSome then "true" else "false")]

/-- A buffer, unless it is being written. -/
def buffer (world : World) (buffer : BufferRef) : String :=
  tagged "Buffer" <|
    if world.admits ⟨.buffer buffer.id, .reading⟩ then elements (world.elements buffer.id)
    else "<borrowed>"

/-- A view. -/
def view (world : World) (view : View) : String :=
  record "ArrayView"
    [("buffer", buffer world view.buffer), ("offset", toString view.offset),
     ("shape", sizes view.shape), ("strides", strides view.strides),
     ("size", toString view.size), ("owner", optional (view.owner.map (owner world)))]

/-- Where the data of a block is. -/
def storage (world : World) : Storage → String
  | .owned data => tagged "Owned" (elements data)
  | .borrowed shared => tagged "Borrowed" (buffer world shared)
  | .released => "Released"

/-- A block. -/
def block (world : World) (block : Block) : String :=
  record "DataBlock"
    [("storage", storage world block.storage), ("shape", sizes block.shape),
     ("strides", strides block.strides), ("size", toString block.size)]

/-- A value. -/
def value (world : World) : Value → String
  | .scalar datum => tagged (label datum.elemType) (element datum)
  | .view array => tagged (label array.buffer.elem ++ "View") (view world array)
  | .block array => tagged (label array.elem ++ "Block") (block world array)

/-- A cell. -/
def cell (world : World) (cell : Cell) : String :=
  record "ValueCell" [("value", optional (cell.map (value world)))]

/-- A location. -/
def location : Location → String
  | .root => "Root"
  | .within path => tagged "At" (Quoted.write path)

/-- All entries of a store, unless it is being written. -/
def store (world : World) (id : StoreId) : String :=
  if world.admits ⟨.store id, .reading⟩ then
    "\x7b" ++ ", ".intercalate ((world.entries id).toList.map fun entry =>
      Quoted.write entry.1 ++ ": " ++ cell world entry.2) ++ "\x7d"
  else "<busy>"

/-- A handle. -/
def handle (world : World) (handle : Handle) : String :=
  record "PathMap" [("location", location handle.location), ("store", store world handle.store)]

/-- A cursor. -/
def cursor (cursor : Cursor) : String :=
  record "Iter"
    [("location", location cursor.location), ("scope", Quoted.write (Path.shown cursor.scope)),
     ("front", optional (cursor.front.map Quoted.write)),
     ("back", optional (cursor.back.map Quoted.write))]

/-- An entry. -/
def entry (entry : EntryRef) : String :=
  record "Entry"
    [("key", Quoted.write entry.relativeKey), ("full_key", Quoted.write entry.fullKey)]

end PathStore.Inspect
