import PathStore.Array.Block
import PathStore.Entries.Subtree

/-!
# Handles

A handle is a store together with a location in it. Keys are resolved against the location, so a
handle reaches exactly the subtree there; several handles may share one store. Every operation
claims the store for as long as it uses it: reading ones share it, writing ones need it alone.
-/

namespace PathStore

/-- A store as seen from a location. -/
structure Handle where
  store : StoreId
  location : Location
  deriving DecidableEq

namespace Handle

/-- The top of a new store with the given entries. -/
def create (entries : Entries Cell) : Op Handle :=
  return { store := ← StoreId.create entries, location := .root }

/-- The canonical key that a written key names. -/
def resolve (handle : Handle) (key : String) : String :=
  handle.location.resolve key

/-- The canonical key as it is shown. -/
def path (handle : Handle) (key : String) : String :=
  Path.shown (handle.resolve key)

/-- The handle at a location below this one. -/
def submap (handle : Handle) (path : String) : Handle :=
  { handle with location := handle.location.join path }

/-! ## Single entries -/

/-- Store a value. -/
def update (handle : Handle) (key : String) (value : Value) : Op Unit :=
  handle.store.writing fun entries => pure ((), entries.insert (handle.resolve key) (some value))

/-- Store several values, one after the other. -/
def updateMany (handle : Handle) : List (String × Value) → Op Unit
  | [] => pure ()
  | (key, value) :: rest => do
    handle.update key value
    handle.updateMany rest

/-- Store a value unless the key has an entry; tells whether it was stored. -/
def insertDefault (handle : Handle) (key : String) (value : Value) : Op Bool :=
  handle.store.writing fun entries =>
    let key := handle.resolve key
    if entries.contains key then pure (false, entries)
    else pure (true, entries.insert key (some value))

/-- Store several values, each unless its key has an entry; tells how many were stored. -/
def insertDefaultMany (handle : Handle) : List (String × Value) → Op Nat
  | [] => pure 0
  | (key, value) :: rest => do
    let stored ← handle.insertDefault key value
    return (← handle.insertDefaultMany rest) + stored.toNat

/-- The cell under a key that must have an entry. The failure shows the key as it was written. -/
def cell (handle : Handle) (entries : Entries Cell) (key : String) : Except Failure Cell :=
  match entries.find? (handle.resolve key) with
  | some cell => .ok cell
  | none => .error (.error (.keyNotFound key))

/-- Run a program on the value under a key, which has to have the requested type. -/
def withValue {α : Type} (handle : Handle) (key : String) (type : ValueType)
    (use : Value → Op α) : Op α :=
  handle.store.reading .busy fun entries => do
    let cell ← handle.cell entries key
    use (← cell.expect type)

/-- The same, with a default for a key without entry. -/
def withValueOr {α : Type} (handle : Handle) (key : String) (type : ValueType) (default : Value)
    (use : Value → Op α) : Op α :=
  handle.store.reading .busy fun entries =>
    match entries.find? (handle.resolve key) with
    | some cell => do use (← cell.expect type)
    | none => use default

/-- Run a program on the value under a key and put what it yields beside its result in its
place. -/
def modifyValue {α : Type} (handle : Handle) (key : String) (type : ValueType)
    (use : Value → Op (α × Value)) : Op α :=
  handle.store.writing fun entries => do
    let cell ← handle.cell entries key
    let (result, value) ← use (← cell.expect type)
    return (result, entries.insert (handle.resolve key) (some value))

/-- Run a program on the cell under a key, whatever it holds, and put what it yields beside its
result in its place. -/
def modifyCell {α : Type} (handle : Handle) (key : String) (use : Cell → Op (α × Cell)) : Op α :=
  handle.store.writing fun entries => do
    let (result, cell) ← use (← handle.cell entries key)
    return (result, entries.insert (handle.resolve key) cell)

/-- The value under a key. -/
def get (handle : Handle) (key : String) (type : ValueType) : Op Value :=
  handle.withValue key type pure

/-- The value under a key, or a default for a key without entry. -/
def getOr (handle : Handle) (key : String) (type : ValueType) (default : Value) : Op Value :=
  handle.withValueOr key type default pure

/-- The value under a key, whatever its type. -/
def getAny (handle : Handle) (key : String) : Op Value := do
  match ← handle.modifyCell key fun cell => pure (cell, cell) with
  | some value => return value
  | none => throw (.error (.emptyEntry (handle.path key)))

/-- The name of the type of what is stored under a key. -/
def typeName (handle : Handle) (key : String) : Op String :=
  handle.store.reading .busy fun entries => return (← handle.cell entries key).typeName

/-- Whether a key has an entry. -/
def isStored (handle : Handle) (key : String) : Op Bool :=
  handle.store.reading .busy fun entries => pure (entries.contains (handle.resolve key))

/-- Remove the entry under a canonical key; tells how many entries that were. -/
def eraseKey (store : StoreId) (key : String) : Op Nat :=
  store.writing fun entries => pure ((entries.contains key).toNat, entries.erase key)

/-- Remove the entry under a key; tells how many entries that were. -/
def erase (handle : Handle) (key : String) : Op Nat :=
  eraseKey handle.store (handle.resolve key)

/-! ## Subtrees -/

/-- Remove the subtree at a canonical key; tells how many entries it had. -/
def eraseSubtree (store : StoreId) (scope : String) : Op Nat :=
  store.writing fun entries => pure ((entries.subtree scope).length, entries.prune scope)

/-- Remove the entry at a path and all below it. -/
def eraseRecursive (handle : Handle) (path : String) : Op Nat :=
  eraseSubtree handle.store (handle.resolve path)

/-- Remove all that the handle reaches. -/
def clear (handle : Handle) : Op Nat :=
  eraseSubtree handle.store handle.location.key

/-- What the handle reaches, out of the entries of its store. -/
def reach (handle : Handle) (entries : Entries Cell) : List (String × Cell) :=
  entries.subtree handle.location.key

/-- How many entries the handle reaches. -/
def size (handle : Handle) : Op Nat :=
  handle.store.reading .busy fun entries => pure (handle.reach entries).length

/-- Whether the handle reaches no entry. -/
def isEmpty (handle : Handle) : Op Bool :=
  handle.store.reading .busy fun entries => pure (handle.reach entries).isEmpty

/-- The keys that the handle reaches, as seen from its location. -/
def keys (handle : Handle) : Op (List String) :=
  handle.store.reading .busy fun entries =>
    pure ((handle.reach entries).map fun entry => handle.location.relative entry.1)

/-- What a handle reaches, under keys as seen from its location. -/
def relativeEntries (handle : Handle) (entries : Entries Cell) : List (String × Cell) :=
  (handle.reach entries).map fun entry => (handle.location.relative entry.1, entry.2)

/-- Copy all that another handle reaches below a key. The other store is read completely before this
one is written, so both may be the same. -/
def graft (handle : Handle) (key : String) (other : Handle) : Op Unit := do
  let incoming ← other.store.reading .busy fun entries => pure (other.relativeEntries entries)
  handle.store.writing fun entries =>
    pure ((), entries.insertAll (incoming.map fun entry =>
      (handle.resolve (key ++ entry.1), entry.2)))

/-- Copy all that another handle reaches to this one's location. -/
def merge (handle : Handle) (other : Handle) : Op Unit :=
  handle.graft "" other

/-- The entries of an independent copy: all of the store at the top, otherwise the subtree with its
location as the new top. -/
def copied (handle : Handle) (entries : Entries Cell) : Entries Cell :=
  match handle.location with
  | .root => entries
  | .within _ =>
    Entries.empty.insertAll ((handle.relativeEntries entries).map fun entry =>
      (Location.root.resolve entry.1, entry.2))

/-- An independent copy. What it fails with if the store is being written is given. -/
def copy (handle : Handle) (refusal : Failure) : Op Handle := do
  create (← handle.store.reading refusal fun entries => pure (handle.copied entries))

end Handle

end PathStore
