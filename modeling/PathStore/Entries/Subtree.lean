import PathStore.Entries
import PathStore.Path

/-!
# Subtrees as key ranges

The entries below a scope are those whose keys lie in one contiguous range: from the scope followed
by the separator up to, but without, the scope followed by the next character. The scope's own
entry stands before that range, possibly with strangers in between, and is looked up by itself.
The empty scope is the whole map.
-/

namespace PathStore

/-- One end of a range of keys. -/
inductive Bound where
  | unbounded
  | included (key : String)
  | excluded (key : String)
  deriving DecidableEq

/-- A range of keys. -/
structure KeyRange where
  lower : Bound
  upper : Bound
  deriving DecidableEq

namespace Bound

/-- The key at which a bound stands. -/
def key? : Bound → Option String
  | .unbounded => none
  | .included key => some key
  | .excluded key => some key

/-- Whether a key satisfies this bound from below. -/
def admitsAbove (bound : Bound) (key : String) : Bool :=
  match bound with
  | .unbounded => true
  | .included lower => lower ≤ key
  | .excluded lower => lower < key

/-- Whether a key satisfies this bound from above. -/
def admitsBelow (bound : Bound) (key : String) : Bool :=
  match bound with
  | .unbounded => true
  | .included upper => key ≤ upper
  | .excluded upper => key < upper

/-- Raise a lower bound to the keys after a given one, if that is tighter. -/
def raise (lower : Bound) (after : Option String) : Bound :=
  match after with
  | none => lower
  | some key => if lower.key?.all (· ≤ key) then .excluded key else lower

/-- Reduce an upper bound to the keys before a given one, if that is tighter. -/
def reduce (upper : Bound) (before : Option String) : Bound :=
  match before with
  | none => upper
  | some key => if upper.key?.all (key ≤ ·) then .excluded key else upper

end Bound

namespace KeyRange

/-- Whether a key lies in the range. -/
def admits (range : KeyRange) (key : String) : Bool :=
  range.lower.admitsAbove key && range.upper.admitsBelow key

/-- Whether the ends have met or crossed, so that no key can lie between them. -/
def crossed (range : KeyRange) : Bool :=
  match range.lower.key?, range.upper.key? with
  | some lower, some upper => upper ≤ lower
  | _, _ => false

/-- Every key strictly below a scope. -/
def below (scope : String) : KeyRange :=
  if scope.isEmpty then ⟨.unbounded, .unbounded⟩
  else ⟨.included (scope ++ "/"), .excluded (scope ++ "0")⟩

/-- The keys strictly below a scope and strictly between two keys, unless there can be none. -/
def descendants (scope : String) (after before : Option String) : Option KeyRange :=
  let range : KeyRange :=
    { lower := (below scope).lower.raise after, upper := (below scope).upper.reduce before }
  if range.crossed then none else some range

end KeyRange

namespace Entries

variable {α : Type}

/-- The entries whose keys lie in a range, in order. -/
def range (entries : Entries α) (range : KeyRange) : List (String × α) :=
  entries.toList.filter (range.admits ·.1)

/-- The entries strictly below a scope and strictly between two keys. -/
def descendants (entries : Entries α) (scope : String) (after before : Option String) :
    List (String × α) :=
  match KeyRange.descendants scope after before with
  | some range => entries.range range
  | none => []

/-- The scope's own entry, if there is one and it lies strictly between two keys. The whole map has
no own entry apart from the range of its keys. -/
def ownEntry? (entries : Entries α) (scope : String) (after before : Option String) :
    Option (String × α) :=
  if scope.isEmpty then none
  else if after.all (· < scope) && before.all (scope < ·) then
    (entries.find? scope).map fun value => (scope, value)
  else none

/-- Every entry of the subtree at a scope: its own, then those below it. -/
def subtree (entries : Entries α) (scope : String) : List (String × α) :=
  (entries.ownEntry? scope none none).toList ++ entries.descendants scope none none

/-- The first key of a subtree strictly between two keys. The own entry comes before all others. -/
def firstBetween (entries : Entries α) (scope : String) (after before : Option String) :
    Option String :=
  match entries.ownEntry? scope after before with
  | some entry => some entry.1
  | none => (entries.descendants scope after before).head?.map (·.1)

/-- The last key of a subtree strictly between two keys. -/
def lastBetween (entries : Entries α) (scope : String) (after before : Option String) :
    Option String :=
  match (entries.descendants scope after before).getLast? with
  | some entry => some entry.1
  | none => (entries.ownEntry? scope after before).map (·.1)

/-- Remove a subtree. -/
def prune (entries : Entries α) (scope : String) : Entries α :=
  if scope.isEmpty then empty else entries.eraseAll ((entries.subtree scope).map (·.1))

end Entries

end PathStore
