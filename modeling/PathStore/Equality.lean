import PathStore.Array.Block

/-!
# Equality of values

Values of different types are never equal; arrays compare by what can be read of them.
-/

namespace PathStore

/-- Whether two values are equal. -/
def Value.same (left right : Value) : Op Bool :=
  if left.type ≠ right.type then pure false
  else
    match left, right with
    | .scalar left, .scalar right => pure (left.same right)
    | .view left, .view right => left.same right
    | .block left, .block right => left.same right
    | _, _ => pure false

/-- Whether two cells hold equal values or are both empty. -/
def Cell.same (left right : Cell) : Op Bool :=
  match left, right with
  | some left, some right => left.same right
  | none, none => pure true
  | _, _ => pure false

end PathStore
