import PathStore.Proofs.World.Needs
import PathStore.Session.Run

/-!
# Which claims the steps of a session need

A step names its objects by variables, so which claims it needs depends on the session in which it is
run. This is listed here for every action, wherever the array stands that it works on, and for every
access, for which it is what the access holds while its body runs. What asks only for things that
can be told without looking into a store or buffer needs no claim.
-/

namespace PathStore

/-! ## What variables name -/

namespace Object

def handle? : Object → Option Handle
  | .handle named => some named
  | _ => none

def value? : Object → Option Value
  | .value named => some named
  | _ => none

def cell? : Object → Option Cell
  | .cell named => some named
  | _ => none

def buffer? : Object → Option BufferRef
  | .buffer named => some named
  | _ => none

def cursor? : Object → Option Cursor
  | .cursor named => some named
  | _ => none

def entry? : Object → Option EntryRef
  | .entry named => some named
  | _ => none

theorem value?_eq_some_iff {object : Object} {named : Value} :
    object.value? = some named ↔ object = .value named := by
  cases object <;> simp [value?]

theorem cell?_eq_some_iff {object : Object} {named : Cell} :
    object.cell? = some named ↔ object = .cell named := by
  cases object <;> simp [cell?]

end Object

namespace Session

variable (session : Session)

/-- What a variable names, as far as it is of the kind that is asked for. -/
def find? {α : Type} (name : String) (select : Object → Option α) : Option α :=
  (session.bindings.lookup name).bind select

/-- The claim on the store of the handle that a variable names. -/
def handleClaims (map : String) (mode : Mode) : List Claim :=
  claimsOf (session.find? map Object.handle?) fun handle => [⟨.store handle.store, mode⟩]

/-- The claim on the buffer that a variable names. -/
def bufferClaims (name : String) (mode : Mode) : List Claim :=
  claimsOf (session.find? name Object.buffer?) fun buffer => [⟨.buffer buffer.id, mode⟩]

/-- The claim on the store of the cursor that a variable names. -/
def cursorClaims (name : String) (mode : Mode) : List Claim :=
  claimsOf (session.find? name Object.cursor?) fun cursor => [⟨.store cursor.store, mode⟩]

/-- The claim on the store of the entry that a variable names. -/
def entryClaims (name : String) (mode : Mode) : List Claim :=
  claimsOf (session.find? name Object.entry?) fun entry => [⟨.store entry.store, mode⟩]

end Session

/-! ## Arrays where they stand -/

namespace Place

/-- The claim on the store in which the array stands, if it stands in one. -/
def claims (session : Session) (mode : Mode) : Place → List Claim
  | .variable _ => []
  | .stored map _ _ => session.handleClaims map mode
  | .entry name _ => session.entryClaims name mode
  | .cell _ _ => []

/-- The array that stands at a place, if it has the form and element type that are asked for. -/
def value? (session : Session) (form : Form) : Place → Option Value
  | .variable name => (session.find? name Object.value?).filter fun value => value.type.form = form
  | .stored map key elem =>
    (session.find? map Object.handle?).bind fun handle =>
      (handle.valueAt (session.world.entries handle.store) key ⟨form, elem⟩).toOption
  | .entry name elem =>
    (session.find? name Object.entry?).bind fun entry =>
      (entry.valueAt (session.world.entries entry.store) ⟨form, elem⟩).toOption
  | .cell name elem =>
    (session.find? name Object.cell?).bind fun cell => (Cell.expect cell ⟨form, elem⟩).toOption

/-- What is done with the view at a place needs a claim on the place, and claims that depend on the
view. -/
def viewNeeds (session : Session) (mode : Mode) (claims : View → List Claim) (place : Place) :
    List Claim :=
  place.claims session mode ++
    claimsOf (place.value? session .view) fun value => claimsOf value.toView.toOption claims

/-- What is done with the block at a place needs a claim on the place, and claims that depend on the
block. -/
def blockNeeds (session : Session) (mode : Mode) (claims : Block → List Claim) (place : Place) :
    List Claim :=
  place.claims session mode ++
    claimsOf (place.value? session .block) fun value => claimsOf value.toBlock.toOption claims

end Place

/-! ## Actions -/

/-- The claims that an action on a buffer needs. -/
def BufferAction.needs (session : Session) : BufferAction → List Claim
  | .get name _ => session.bufferClaims name .reading
  | .set name _ _ => session.bufferClaims name .writing
  | .toList name => session.bufferClaims name .reading
  | .create _ _ | .copy _ | .length _ | .same _ _ => []

/-- Only a block that copies its data from a buffer needs a claim on that. -/
def ArrayAction.needs (session : Session) : ArrayAction → List Claim
  | .bufferBlock name shape strides memory =>
    claimsOf (session.find? name Object.buffer?) fun buffer =>
      claimsOf (strides.or (Layout.rowMajorStrides shape).toOption) fun strides =>
        claimsOf (Block.sizeOver (session.world.elements buffer.id).length shape strides).toOption
          fun _ => Block.makingClaims buffer memory
  | .view _ _ _ _ | .wholeView _ | .listBlock _ _ | .shapedBlock _ _ _ _ => []

/-- The claims that an action on the view at a place needs. -/
def ViewAction.needs (session : Session) (place : Place) : ViewAction → List Claim
  | .get index =>
    place.viewNeeds session .reading fun view => view.claimsAt (view.indexPosition index) .reading
  | .set index _ =>
    place.viewNeeds session .reading fun view => view.claimsAt (view.indexPosition index) .writing
  | .getLinear position =>
    place.viewNeeds session .reading fun view =>
      view.claimsAt (view.checkedPosition position) .reading
  | .setLinear position _ =>
    place.viewNeeds session .reading fun view =>
      view.claimsAt (view.checkedPosition position) .writing
  | .toList => place.viewNeeds session .reading fun view => [⟨.buffer view.buffer.id, .reading⟩]
  | .describe | .slice _ | .buffer | .owner => place.claims session .reading
  | .resetOwner _ _ | .clearOwner => place.claims session .writing

/-- The claims that an action on the block at a place needs. -/
def BlockAction.needs (session : Session) (place : Place) : BlockAction → List Claim
  | .get position => place.blockNeeds session .reading fun block => block.claimsAt position .reading
  | .set position _ =>
    place.blockNeeds session .writing fun block => block.claimsAt position .writing
  | .toList => place.blockNeeds session .reading fun block => block.claims .reading
  | .copyAs memory => place.blockNeeds session .reading fun block => block.copyClaims memory
  | .describe | .view => place.claims session .reading
  | .release | .take => place.claims session .writing

/-- The claims that an action on a map needs. -/
def MapAction.needs (session : Session) : MapAction → List Claim
  | .update map _ _ | .insertDefault map _ _ | .getAny map _ | .erase map _
  | .eraseRecursive map _ | .clear map => session.handleClaims map .writing
  | .get map _ _ | .getOr map _ _ _ | .typeName map _ | .isStored map _ | .size map | .isEmpty map
  | .keys map | .copy map | .tryCopy map | .listing map => session.handleClaims map .reading
  | .ofEntries entries => (Handle.mk ⟨session.world.stores.next⟩ .root).writeClaims entries
  | .updateMany map entries | .insertDefaultMany map entries =>
    claimsOf (session.find? map Object.handle?) fun handle => handle.writeClaims entries
  | .graft map _ other | .merge map other =>
    session.handleClaims other .reading ++ session.handleClaims map .writing
  | .eraseEntry map name =>
    claimsOf (session.find? map Object.handle?) fun handle =>
      claimsOf (session.find? name Object.entry?) fun entry =>
        handle.eraseClaims entry.store [⟨.store handle.store, .writing⟩]
  | .eraseRange map name =>
    claimsOf (session.find? map Object.handle?) fun handle =>
      claimsOf (session.find? name Object.cursor?) fun cursor =>
        handle.eraseClaims cursor.store
          [⟨.store cursor.store, .reading⟩, ⟨.store handle.store, .writing⟩]
  | .create | .location _ | .isRoot _ | .shares _ _ | .path _ _ | .submap _ _ | .assign _ _
  | .cursor _ | .cursorAt _ _ => []

/-- The claims that an action on a cursor needs. -/
def CursorAction.needs (session : Session) (name : String) : CursorAction → List Claim
  | .next | .nextBack | .collect | .collectBack => session.cursorClaims name .reading
  | .copy => []

/-- The claims that an action on an entry needs. -/
def EntryAction.needs (session : Session) (name : String) : EntryAction → List Claim
  | .typeName | .value _ | .anyValue => session.entryClaims name .reading
  | .set _ => session.entryClaims name .writing
  | .keys => []

/-- The claims that an action needs. -/
def Action.needs (session : Session) : Action → List Claim
  | .buffer action => action.needs session
  | .array action => action.needs session
  | .view place action => action.needs session place
  | .block place action => action.needs session place
  | .map action => action.needs session
  | .cursor name action => action.needs session name
  | .entry name action => action.needs session name
  | .path _ | .layout _ | .object _ => []

/-! ## Accesses and steps -/

/-- The claims that an access holds while its body runs, the latest one first. -/
def Access.claims (session : Session) : Access → List Claim
  | .writeVariable _ _ _ | .writeCell _ _ _ => []
  | .readBuffer name => session.bufferClaims name .reading
  | .writeBuffer name _ => session.bufferClaims name .writing
  | .readBlock place =>
    (claimsOf (place.value? session .block) fun value =>
      claimsOf value.toBlock.toOption fun block => block.claims .reading) ++
        place.claims session .reading
  | .writeBlock place _ =>
    (claimsOf (place.value? session .block) fun value =>
      claimsOf value.toBlock.toOption fun block => block.claims .writing) ++
        place.claims session .writing
  | .readStored map _ _ | .readStoredOr map _ _ _ => session.handleClaims map .reading
  | .writeStored map _ _ _ | .writeStoredCell map _ _ _ => session.handleClaims map .writing
  | .readEntry name _ | .readEntryCell name => session.entryClaims name .reading
  | .writeEntry name _ _ => session.entryClaims name .writing

/-- The claims that a step needs. -/
def Step.needs (session : Session) : Step → List Claim
  | .act action _ => action.needs session
  | .lend access _ => access.claims session
  | .unreadable _ => []

end PathStore
