import PathStore.Entries
import PathStore.Value

/-!
# The world of shared objects

Stores, buffers and owners are shared: several handles, views and blocks name the same one. The
`World` holds them all, together with the claims under which some of them are lent out right now.
A store or buffer may be claimed by any number of readers or by one writer; claims are nested, so
those that are held form a stack.

Operations are programs over the world. A program that fails leaves the world as it was at that
moment, so that what a failure changes is a question with an answer.
-/

namespace PathStore

/-- Numbered objects. What was never made reads as the default. -/
structure Heap (α : Type) where
  cells : List α
  deriving DecidableEq

namespace Heap

variable {α : Type} [Inhabited α]

instance : Inhabited (Heap α) := ⟨⟨[]⟩⟩

/-- The object of a number. -/
def read (heap : Heap α) (number : Nat) : α :=
  heap.cells.getD number default

/-- Replace the object of a number in a list. -/
def writeList (object : α) : List α → Nat → List α
  | [], 0 => [object]
  | [], number + 1 => default :: writeList object [] number
  | _ :: rest, 0 => object :: rest
  | head :: rest, number + 1 => head :: writeList object rest number

/-- Replace the object of a number. -/
def write (heap : Heap α) (number : Nat) (object : α) : Heap α :=
  ⟨writeList object heap.cells number⟩

/-- The number that the next new object gets. -/
def next (heap : Heap α) : Nat :=
  heap.cells.length

/-- Add a new object. -/
def push (heap : Heap α) (object : α) : Heap α :=
  ⟨heap.cells ++ [object]⟩

theorem getD_writeList (object : α) :
    ∀ (list : List α) (number other : Nat),
      (writeList object list number).getD other default =
        if other = number then object else list.getD other default
  | [], 0, other => by cases other <;> simp [writeList]
  | [], number + 1, other => by
    cases other with
    | zero => simp [writeList]
    | succ other => simpa [writeList] using getD_writeList object [] number other
  | _ :: rest, 0, other => by cases other <;> simp [writeList]
  | head :: rest, number + 1, other => by
    cases other with
    | zero => simp [writeList]
    | succ other => simpa [writeList] using getD_writeList object rest number other

/-- A write changes the object of its number only. -/
@[simp, grind =] theorem read_write (heap : Heap α) (number other : Nat) (object : α) :
    (heap.write number object).read other = if other = number then object else heap.read other :=
  getD_writeList object heap.cells number other

/-- A new object gets the next number and changes no other. -/
@[simp] theorem read_push (heap : Heap α) (object : α) (other : Nat) :
    (heap.push object).read other = if other = heap.next then object else heap.read other := by
  simp only [read, push, next, List.getD_eq_getElem?_getD, List.getElem?_append]
  split
  next inside => simp [Nat.ne_of_lt inside]
  next outside =>
    by_cases same : other = heap.cells.length
    · simp [same]
    · have beyond : heap.cells.length < other := by omega
      have : other - heap.cells.length ≠ 0 := by omega
      simp [same, this, Nat.le_of_lt beyond]

end Heap

/-- What can be claimed. -/
inductive Target where
  | store (id : StoreId)
  | buffer (id : BufferId)
  deriving DecidableEq

/-- For what something is claimed. -/
inductive Mode where
  | reading
  | writing
  deriving DecidableEq

/-- The use of a store or buffer by someone. -/
structure Claim where
  target : Target
  mode : Mode
  deriving DecidableEq

namespace Claim

/-- Whether two claims exclude each other: they have one target, and not both only read it. -/
def conflicts (left right : Claim) : Bool :=
  left.target = right.target && (left.mode = .writing || right.mode = .writing)

end Claim

/-- All shared objects and the claims held on them, the latest one first. An owner's text is gone
once it has ended. -/
structure World where
  stores : Heap (Entries Cell)
  buffers : Heap (List Scalar)
  hosts : Heap (Option String)
  active : List Claim

instance : Inhabited World := ⟨⟨default, default, default, []⟩⟩

namespace World

/-- The entries of a store. -/
def entries (world : World) (id : StoreId) : Entries Cell :=
  world.stores.read id.number

/-- The elements of a buffer. -/
def elements (world : World) (id : BufferId) : List Scalar :=
  world.buffers.read id.number

/-- The text of an owner, as long as it lives. -/
def host? (world : World) (id : HostId) : Option String :=
  world.hosts.read id.number

/-- Put entries into a store. -/
def setEntries (world : World) (id : StoreId) (entries : Entries Cell) : World :=
  { world with stores := world.stores.write id.number entries }

/-- Put elements into a buffer. -/
def setElements (world : World) (id : BufferId) (elements : List Scalar) : World :=
  { world with buffers := world.buffers.write id.number elements }

/-- End the life of an owner. -/
def endHost (world : World) (id : HostId) : World :=
  { world with hosts := world.hosts.write id.number none }

/-- Whether a claim agrees with those that are held. -/
def admits (world : World) (claim : Claim) : Bool :=
  world.active.all fun held => !held.conflicts claim

/-- Take up a claim. -/
def acquire (world : World) (claim : Claim) : World :=
  { world with active := claim :: world.active }

/-- Give up the latest claim. -/
def release (world : World) : World :=
  { world with active := world.active.tail }

@[simp, grind =] theorem entries_setEntries (world : World) (id other : StoreId)
    (entries : Entries Cell) :
    (world.setEntries id entries).entries other =
      if other = id then entries else world.entries other := by
  cases id
  cases other
  simp [World.entries, setEntries]

@[simp, grind =] theorem elements_setElements (world : World) (id other : BufferId)
    (elements : List Scalar) :
    (world.setElements id elements).elements other =
      if other = id then elements else world.elements other := by
  cases id
  cases other
  simp [World.elements, setElements]

/-- A claim that is given up leaves no trace. -/
@[simp, grind =] theorem release_acquire (world : World) (claim : Claim) :
    (world.acquire claim).release = world := rfl

end World

/-- A program over the world that may fail. -/
abbrev Op := EStateM Failure World

namespace Op

/-- A result that is already decided. -/
def ofExcept {α : Type} : Except Failure α → Op α
  | .ok result => pure result
  | .error failure => throw failure

instance : MonadLift (Except Failure) Op := ⟨ofExcept⟩

/-- Run a program under a claim, which is given up when the program ends or fails. A claim that
conflicts with one that is held is refused before anything happens. -/
def holding {α : Type} (claim : Claim) (refusal : Failure) (program : Op α) : Op α := fun world =>
  if world.admits claim then
    match program (world.acquire claim) with
    | .ok result world => .ok result world.release
    | .error failure world => .error failure world.release
  else .error refusal world

/-- A refused claim changes nothing. -/
theorem holding_refused {α : Type} {claim : Claim} {refusal : Failure} {program : Op α}
    {world : World} (refused : world.admits claim = false) :
    holding claim refusal program world = .error refusal world := by
  simp [holding, refused]

/-- Run a program and report an error in place of its result. A fault remains one. -/
def attempt {α : Type} (program : Op α) : Op (Except Error α) := fun world =>
  match program world with
  | .ok result world => .ok (.ok result) world
  | .error (.error cause) world => .ok (.error cause) world
  | .error failure world => .error failure world

end Op

namespace StoreId

/-- Run a program on the entries of a store while reading them. -/
def reading {α : Type} (id : StoreId) (refusal : Failure) (use : Entries Cell → Op α) : Op α :=
  Op.holding ⟨.store id, .reading⟩ refusal do use ((← get).entries id)

/-- Run a program on the entries of a store while writing them. What it yields beside its result is
put into the store. -/
def writing {α : Type} (id : StoreId) (use : Entries Cell → Op (α × Entries Cell)) : Op α :=
  Op.holding ⟨.store id, .writing⟩ .busy do
    let (result, entries) ← use ((← get).entries id)
    modify (·.setEntries id entries)
    return result

/-- A new store with the given entries. -/
def create (entries : Entries Cell) : Op StoreId := do
  let id : StoreId := ⟨(← get).stores.next⟩
  modify fun world => { world with stores := world.stores.push entries }
  return id

end StoreId

namespace BufferId

/-- Run a program on the elements of a buffer while reading them. -/
def reading {α : Type} (id : BufferId) (refusal : Failure) (use : List Scalar → Op α) : Op α :=
  Op.holding ⟨.buffer id, .reading⟩ refusal do use ((← get).elements id)

/-- Run a program on the elements of a buffer while writing them. What it yields beside its result
is put into the buffer. -/
def writing {α : Type} (id : BufferId) (use : List Scalar → Op (α × List Scalar)) : Op α :=
  Op.holding ⟨.buffer id, .writing⟩ .busy do
    let (result, elements) ← use ((← get).elements id)
    modify (·.setElements id elements)
    return result

end BufferId

namespace HostId

/-- A new object that may own memory. -/
def create (text : String) : Op HostId := do
  let id : HostId := ⟨(← get).hosts.next⟩
  modify fun world => { world with hosts := world.hosts.push (some text) }
  return id

end HostId

end PathStore
