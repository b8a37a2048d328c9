import PathStore.Session.Variables

/-!
# Steps

The language in which a session is driven. An action does one thing and may make an object; an
access lends something to a body of further steps. Objects are named by variables.
-/

namespace PathStore

/-- A slice as it is asked for. -/
inductive SliceSpec where
  | all
  | single (index : Nat)
  | span (start stop : Nat)
  | stepped (start stop : Option Nat) (step : Int)

/-- A selector as it is asked for. -/
inductive SelectorSpec where
  | index (position : Nat)
  | slice (spec : SliceSpec)

/-- A value as it is asked for: a given scalar, or a copy of what a variable names. -/
inductive ValueSpec where
  | scalar (datum : Scalar)
  | copyOf (name : String)

/-- An element whose type is known only from the array that it is put into. -/
abbrev Literal := ElemType → Option Scalar

/-- Where an array stands that is operated on in place. -/
inductive Place where
  | variable (name : String)
  | stored (map key : String) (elem : ElemType)
  | entry (name : String) (elem : ElemType)
  | cell (name : String) (elem : ElemType)

/-- Questions about keys and locations. -/
inductive PathAction where
  | resolve (location : Location) (key : String)
  | describe (location : Location)
  | join (location : Location) (path : String)
  | contains (location : Location) (key : String)
  | relative (location : Location) (key : String)

/-- Questions about strides, slices and selectors. -/
inductive LayoutAction where
  | rowMajorStrides (shape : List Nat)
  | columnMajorStrides (shape : List Nat)
  | describe (slice : SliceSpec)
  | resolve (slice : SliceSpec) (extent : Nat)
  | count (slice : SliceSpec) (extent : Nat)
  | same (left right : SelectorSpec)

/-- Actions on values, cells and owners that variables name. -/
inductive ObjectAction where
  | newValue (spec : ValueSpec)
  | showValue (name : String)
  | typeName (name : String)
  | hasType (name : String) (type : ValueType)
  | get (name : String) (type : ValueType)
  | set (name : String) (spec : ValueSpec)
  | newCell (spec : Option ValueSpec)
  | showCell (name : String)
  | setCell (name : String) (spec : ValueSpec)
  | getCell (name : String) (type : ValueType)
  | takeCell (name : String)
  | newHost (text : String)
  | forget (name : String)
  | same (left right : String)
  | inspect (name : String)

/-- Actions on buffers. -/
inductive BufferAction where
  | create (elem : ElemType) (data : List Scalar)
  | copy (name : String)
  | length (name : String)
  | get (name : String) (position : Nat)
  | set (name : String) (position : Nat) (element : Literal)
  | toList (name : String)
  | same (left right : String)

/-- Ways to make views and blocks. -/
inductive ArrayAction where
  | view (buffer : String) (offset : Nat) (shape : List Nat) (strides : List Int)
  | wholeView (buffer : String)
  | bufferBlock (buffer : String) (shape : List Nat) (strides : Option (List Int))
      (memory : Memory)
  | listBlock (elem : ElemType) (data : List Scalar)
  | shapedBlock (elem : ElemType) (data : List Scalar) (shape : List Nat)
      (strides : Option (List Int))

/-- Actions on a view where it stands. -/
inductive ViewAction where
  | describe
  | get (index : List Nat)
  | set (index : List Nat) (element : Literal)
  | getLinear (place : Nat)
  | setLinear (place : Nat) (element : Literal)
  | toList
  | slice (selectors : List SelectorSpec)
  | buffer
  | owner
  | resetOwner (host : String) (kind : OwnerKind)
  | clearOwner

/-- Actions on a block where it stands. -/
inductive BlockAction where
  | describe
  | get (position : Nat)
  | set (position : Nat) (element : Literal)
  | toList
  | release
  | take
  | view
  | copyAs (memory : Memory)

/-- Actions on maps. -/
inductive MapAction where
  | create
  | ofEntries (entries : List (String × ValueSpec))
  | location (map : String)
  | isRoot (map : String)
  | shares (map other : String)
  | path (map key : String)
  | update (map key : String) (value : ValueSpec)
  | updateMany (map : String) (entries : List (String × ValueSpec))
  | insertDefault (map key : String) (value : ValueSpec)
  | insertDefaultMany (map : String) (entries : List (String × ValueSpec))
  | get (map key : String) (type : ValueType)
  | getOr (map key : String) (type : ValueType) (default : ValueSpec)
  | getAny (map key : String)
  | typeName (map key : String)
  | isStored (map key : String)
  | size (map : String)
  | isEmpty (map : String)
  | keys (map : String)
  | erase (map key : String)
  | eraseEntry (map entry : String)
  | eraseRange (map cursor : String)
  | eraseRecursive (map path : String)
  | clear (map : String)
  | submap (map path : String)
  | copy (map : String)
  | tryCopy (map : String)
  | assign (map other : String)
  | graft (map key other : String)
  | merge (map other : String)
  | cursor (map : String)
  | cursorAt (map path : String)
  | listing (map : String)

/-- Actions on cursors. -/
inductive CursorAction where
  | next
  | nextBack
  | collect
  | collectBack
  | copy

/-- Actions on entries. -/
inductive EntryAction where
  | keys
  | typeName
  | value (type : ValueType)
  | anyValue
  | set (value : ValueSpec)

/-- One thing that is done. -/
inductive Action where
  | path (action : PathAction)
  | layout (action : LayoutAction)
  | object (action : ObjectAction)
  | buffer (action : BufferAction)
  | array (action : ArrayAction)
  | view (place : Place) (action : ViewAction)
  | block (place : Place) (action : BlockAction)
  | map (action : MapAction)
  | cursor (name : String) (action : CursorAction)
  | entry (name : String) (action : EntryAction)

/-- Something that is lent to a body. What is lent for writing may be overwritten first. -/
inductive Access where
  | writeVariable (name : String) (type : ValueType) (set : Option ValueSpec)
  | writeCell (name : String) (type : ValueType) (set : Option ValueSpec)
  | readBuffer (name : String)
  | writeBuffer (name : String) (fill : List Literal)
  | readBlock (place : Place)
  | writeBlock (place : Place) (fill : List Literal)
  | readStored (map key : String) (type : ValueType)
  | readStoredOr (map key : String) (type : ValueType) (default : ValueSpec)
  | writeStored (map key : String) (type : ValueType) (set : Option ValueSpec)
  | writeStoredCell (map key : String) (set : Option ValueSpec) (empty : Bool)
  | readEntry (name : String) (type : ValueType)
  | writeEntry (name : String) (type : ValueType) (set : Option ValueSpec)
  | readEntryCell (name : String)

/-- A step of a session. -/
inductive Step where
  /-- Do something, and let a variable name what it makes. -/
  | act (action : Action) (into : Option String)
  /-- Lend something to further steps. -/
  | lend (access : Access) (body : List Step)
  /-- Do nothing, because what was asked for could not be read. -/
  | unreadable (reason : String)

instance : Inhabited Step := ⟨.unreadable "nothing is asked for"⟩

end PathStore
