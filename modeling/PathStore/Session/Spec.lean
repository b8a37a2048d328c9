import PathStore.Array.Selection
import PathStore.Session.Step

/-!
# What a step asks for

Slices, selectors, values and elements are asked for in a step and made when it is run: a value
that is to be stored before anything is claimed for the step, but what is meant for something that
is lent (values to overwrite it, selectors, elements) only once that has been reached.
-/

namespace PathStore

/-- The slice that is asked for. -/
def SliceSpec.build : SliceSpec → Except Failure Slice
  | .all => .ok .all
  | .single index => .ok (.single index)
  | .span start stop => .ok (.span start stop)
  | .stepped start stop step => Slice.stepped start stop step

/-- The selector that is asked for. -/
def SelectorSpec.build : SelectorSpec → Except Failure Selector
  | .index position => .ok (.index position)
  | .slice spec => .slice <$> spec.build

/-- The value that is asked for, where variables name what they name. -/
def ValueSpec.valueIn (bindings : Variables) : ValueSpec → Except Failure Value
  | .scalar datum => .ok (.scalar datum)
  | .copyOf name => bindings.value name

/-- The value that is asked for now. -/
def ValueSpec.build (spec : ValueSpec) : Task Value := do
  spec.valueIn (← get).bindings

/-- The values that are asked for, with their keys. -/
def ValueSpec.buildEntries (entries : List (String × ValueSpec)) : Task (List (String × Value)) :=
  entries.mapM fun entry => return (entry.1, ← entry.2.build)

/-- The value that is asked for, if one is, where variables name what they name. -/
def ValueSpec.optionIn (bindings : Variables) : Option ValueSpec → Except Failure (Option Value)
  | none => .ok none
  | some spec => some <$> spec.valueIn bindings

/-- The element that a literal stands for in an array. -/
def Literal.read (literal : Literal) (elem : ElemType) : Except Failure Scalar :=
  match literal elem with
  | some element => .ok element
  | none => .error (.misfit "the element has another type")

end PathStore
