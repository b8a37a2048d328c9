/-!
# Keys and locations

Every entry has one canonical key: the empty text for the top of the hierarchy, and otherwise its
components, each behind a separator. Keys as written may hold empty components, `.` and `..`; they
are resolved against a `Location`, below which they always stay.
-/

namespace PathStore

/-- Stands between the components of a key, and in front of each in canonical keys. -/
def separator : Char := '/'

namespace Path

/-- The pieces of a text between its separators; one more than there are separators. -/
def pieces : List Char → List (List Char)
  | [] => [[]]
  | char :: rest =>
    if char = separator then [] :: pieces rest
    else
      match pieces rest with
      | [] => [[char]]
      | piece :: more => (char :: piece) :: more

/-- A component names something: it is neither empty, nor the present place `.`, nor an ascent
`..`. -/
def isName (piece : List Char) : Bool :=
  !(piece == [] || piece == ['.'] || piece == ['.', '.'])

/-- Follow one piece from a trail, which holds the last component first. An ascent from the
beginning of the trail stays there. -/
def follow (trail : List (List Char)) (piece : List Char) : List (List Char) :=
  if piece == [] || piece == ['.'] then trail
  else if piece == ['.', '.'] then trail.tail
  else piece :: trail

/-- The components that remain of a text once its empty pieces, `.` and `..` are carried out. -/
def components (text : List Char) : List (List Char) :=
  ((pieces text).foldl follow []).reverse

/-- Components written as a canonical key. -/
def render (parts : List (List Char)) : List Char :=
  parts.flatMap (separator :: ·)

/-- How a canonical key is shown: the top has the empty key and is shown as a separator. -/
def shown (key : String) : String :=
  if key.isEmpty then separator.toString else key

end Path

/-- The place in the hierarchy below which keys are resolved. -/
inductive Location where
  | root
  | within (path : String)
  deriving DecidableEq

namespace Location

/-- The key of the location's own entry. -/
def key : Location → String
  | .root => ""
  | .within path => path

/-- The location with a given canonical key. -/
def ofKey (key : String) : Location :=
  if key.isEmpty then .root else .within key

/-- Whether this is the top of the hierarchy. -/
def isRoot : Location → Bool
  | .root => true
  | .within _ => false

/-- The canonical key that a written key names below this location. -/
def resolve (location : Location) (written : String) : String :=
  location.key ++ String.ofList (Path.render (Path.components written.toList))

/-- The location that a written path names below this one. -/
def join (location : Location) (path : String) : Location :=
  ofKey (location.resolve path)

/-- What is left of a key below this location: nothing for the location itself, otherwise a text
that begins with a separator. A key outside has no remainder. -/
def remainder? (location : Location) (key : String) : Option (List Char) :=
  match location with
  | .root => some key.toList
  | .within path =>
    if path.toList <+: key.toList then
      let rest := key.toList.drop path.toList.length
      if rest == [] || rest.head? == some separator then some rest else none
    else none

/-- Whether a key is the location's own or lies below it, by whole components. -/
def contains (location : Location) (key : String) : Bool :=
  (location.remainder? key).isSome

/-- A key as seen from this location; one that lies outside is shown in full. -/
def relative (location : Location) (key : String) : String :=
  match location.remainder? key with
  | some rest => Path.shown (String.ofList rest)
  | none => Path.shown key

/-- How the location is shown. -/
def display : Location → String
  | .root => separator.toString
  | .within path => path

/-- An ascent ends at the location. -/
example : (within "/tree").resolve "a/../../b" = "/tree/b" := by decide +kernel

/-- A common beginning is not enough to lie below a location. -/
example : (within "/tree").contains "/treehouse" = false := by decide +kernel

end Location

end PathStore
