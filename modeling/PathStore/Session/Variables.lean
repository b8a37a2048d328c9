import PathStore.Snapshot

/-!
# Sessions

A session is a world together with variables that name objects in it. All kinds of objects share
one space of names. A variable that names an owner keeps it alive, and its end is the owner's end.
-/

namespace PathStore

/-- What a variable can name. -/
inductive Object where
  | handle (handle : Handle)
  | value (value : Value)
  | cell (cell : Cell)
  | buffer (buffer : BufferRef)
  | cursor (cursor : Cursor)
  | entry (entry : EntryRef)
  | host (host : HostId)

/-- Variables, each with its object. -/
abbrev Variables := List (String × Object)

namespace Variables

/-- What a variable names, as far as `select` accepts it. -/
def named {α : Type} (bindings : Variables) (name kind : String) (select : Object → Option α) :
    Except Failure α :=
  match (bindings.lookup name).bind select with
  | some object => .ok object
  | none => .error (.misfit (name ++ " names no " ++ kind))

/-- The value that a variable names. -/
def value (bindings : Variables) (name : String) : Except Failure Value :=
  bindings.named name "value" fun | .value value => some value | _ => none

/-- The owner that a variable names. -/
def host (bindings : Variables) (name : String) : Except Failure HostId :=
  bindings.named name "host" fun | .host host => some host | _ => none

end Variables

/-- A world and variables that name objects in it. -/
structure Session where
  world : World
  bindings : Variables

instance : Inhabited Session := ⟨⟨default, []⟩⟩

namespace Session

/-- Forget a variable. -/
def forget (session : Session) (name : String) : Session :=
  let bindings := session.bindings.filter (·.1 != name)
  match session.bindings.lookup name with
  | some (.host id) => { world := session.world.endHost id, bindings }
  | _ => { session with bindings }

/-- Let a variable name an object, in the place of what it named before. -/
def bind (session : Session) (name : String) (object : Object) : Session :=
  let session := session.forget name
  { session with bindings := (name, object) :: session.bindings }

end Session

/-- A program over a session that may fail. -/
abbrev Task := EStateM Failure Session

namespace Task

/-- A program over the world. -/
def ofOp {α : Type} (program : Op α) : Task α := fun session =>
  match program session.world with
  | .ok result world => .ok result { session with world }
  | .error failure world => .error failure { session with world }

instance : MonadLift Op Task := ⟨ofOp⟩

/-- A program over the world that carries the variables along. If it fails they stay as they
were. -/
def carrying {α : Type} (program : Variables → Op (α × Variables)) : Task α := fun session =>
  match program session.bindings session.world with
  | .ok (result, bindings) world => .ok result { world, bindings }
  | .error failure world => .error failure { session with world }

/-- A program over the world that carries the variables along and works on what one of them names.
Meanwhile that variable names nothing. Afterwards it names what the program leaves, unless the
program has let it name something else. If the program fails all of them stay as they were. -/
def lending {α β : Type} (name : String) (object : β → Object)
    (program : Variables → Op ((α × Variables) × β)) : Task α := fun session =>
  match program (session.bindings.filter (·.1 != name)) session.world with
  | .ok ((result, bindings), left) world =>
    let bindings :=
      if (bindings.lookup name).isSome then bindings else (name, object left) :: bindings
    .ok result { world, bindings }
  | .error failure world => .error failure { session with world }

/-- Let a variable name an object. -/
def bind (name : String) (object : Object) : Task Unit :=
  modify (·.bind name object)

/-- What a variable names, as far as `select` accepts it. -/
def named {α : Type} (name kind : String) (select : Object → Option α) : Task α := do
  (← get).bindings.named name kind select

/-- The handle that a variable names. -/
def handle (name : String) : Task Handle :=
  named name "map" fun | .handle handle => some handle | _ => none

/-- The value that a variable names. -/
def value (name : String) : Task Value := do
  (← get).bindings.value name

/-- The cell that a variable names. -/
def cell (name : String) : Task Cell :=
  named name "cell" fun | .cell cell => some cell | _ => none

/-- The buffer that a variable names. -/
def buffer (name : String) : Task BufferRef :=
  named name "buffer" fun | .buffer buffer => some buffer | _ => none

/-- The cursor that a variable names. -/
def cursor (name : String) : Task Cursor :=
  named name "iterator" fun | .cursor cursor => some cursor | _ => none

/-- The entry that a variable names. -/
def entry (name : String) : Task EntryRef :=
  named name "entry" fun | .entry entry => some entry | _ => none

end Task

end PathStore
