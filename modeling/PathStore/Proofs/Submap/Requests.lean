import PathStore.Proofs.Submap.Relocation

/-!
# Requests through relative keys

What a caller does with a handle that it was given, and with the handles, cursors and entries that
it gets from there. It names these by number, in the order in which it got them, and learns nothing
but replies, so the same requests can be made of two handles. Requests made of a subtree and of its
copy are twins, and so are sequences of requests, by induction.
-/

namespace PathStore

open Op PathStore.Path

/-- What a caller learns from a request. -/
inductive Reply (α : Type) where
  | done
  | truth (holds : Bool)
  | count (number : Nat)
  | text (text : String)
  | texts (list : List String)
  | value (value : Value)
  | result (result : α)
  | ended
  | failed (failure : Failure)
  /-- Nothing has the given number. -/
  | absent

/-- The reply without the full key that the text of some failures shows. -/
def Reply.redacted {α : Type} : Reply α → Reply α
  | .failed failure => .failed failure.redacted
  | reply => reply

/-- What can be asked of one handle. Values and cells can be lent to a use that yields a result. -/
inductive Question (α : Type) where
  | update (key : String) (value : Value)
  | updateMany (list : List (String × Value))
  | insertDefault (key : String) (value : Value)
  | insertDefaultMany (list : List (String × Value))
  | get (key : String) (type : ValueType)
  | getOr (key : String) (type : ValueType) (default : Value)
  | getAny (key : String)
  | modifyValue (key : String) (type : ValueType) (use : Value → Use (α × Value))
  | modifyCell (key : String) (use : Cell → Use (α × Cell))
  | typeName (key : String)
  | isStored (key : String)
  | erase (key : String)
  | eraseRecursive (path : String)
  | clear
  | size
  | isEmpty
  | keys

/-- The reply of a handle to a question. -/
def Question.ask {α : Type} (handle : Handle) : Question α → Op (Reply α)
  | .update key value => do
    handle.update key value
    return .done
  | .updateMany list => do
    handle.updateMany list
    return .done
  | .insertDefault key value => return .truth (← handle.insertDefault key value)
  | .insertDefaultMany list => return .count (← handle.insertDefaultMany list)
  | .get key type => return .value (← handle.get key type)
  | .getOr key type default => return .value (← handle.getOr key type default)
  | .getAny key => return .value (← handle.getAny key)
  | .modifyValue key type use =>
    return .result (← handle.modifyValue key type fun value => (use value).run)
  | .modifyCell key use => return .result (← handle.modifyCell key fun cell => (use cell).run)
  | .typeName key => return .text (← handle.typeName key)
  | .isStored key => return .truth (← handle.isStored key)
  | .erase key => return .count (← handle.erase key)
  | .eraseRecursive path => return .count (← handle.eraseRecursive path)
  | .clear => return .count (← handle.clear)
  | .size => return .count (← handle.size)
  | .isEmpty => return .truth (← handle.isEmpty)
  | .keys => return .texts (← handle.keys)

/-- Handles, cursors and entries that a caller has got. -/
structure Holdings where
  maps : List Handle
  cursors : List Cursor
  entries : List EntryRef

namespace Holdings

/-- The holdings of a caller that was given one handle. -/
def initial (handle : Handle) : Holdings := ⟨[handle], [], []⟩

def addMap (holdings : Holdings) (handle : Handle) : Holdings :=
  { holdings with maps := holdings.maps ++ [handle] }

def addCursor (holdings : Holdings) (cursor : Cursor) : Holdings :=
  { holdings with cursors := holdings.cursors ++ [cursor] }

def addEntry (holdings : Holdings) (entry : EntryRef) : Holdings :=
  { holdings with entries := holdings.entries ++ [entry] }

def setCursor (holdings : Holdings) (number : Nat) (cursor : Cursor) : Holdings :=
  { holdings with cursors := holdings.cursors.set number cursor }

/-- Use what has a number among those of one kind. -/
def withHeld {α β : Type} (holdings : Holdings) (held : List β) (number : Nat)
    (use : β → Op (Reply α × Holdings)) : Op (Reply α × Holdings) :=
  match held[number]? with
  | some object => use object
  | none => return (.absent, holdings)

end Holdings

/-- What a caller can do. -/
inductive Request (α : Type) where
  | ask (map : Nat) (question : Question α)
  | submap (map : Nat) (path : String)
  | cursor (map : Nat)
  | cursorAt (map : Nat) (path : String)
  | step (cursor : Nat) (side : End)
  | entryKey (entry : Nat)
  | entryValue (entry : Nat) (type : ValueType)
  | entrySet (entry : Nat) (value : Value)
  | eraseEntry (map entry : Nat)
  | eraseRange (map cursor : Nat)

namespace Request

variable {α : Type}

/-- What a step of a cursor yields: the cursor further on, and an entry unless it is at its end. -/
def stepped (holdings : Holdings) (number : Nat) (taken : Option EntryRef × Cursor) :
    Reply α × Holdings :=
  match taken.1 with
  | some entry => (.text entry.relativeKey, (holdings.setCursor number taken.2).addEntry entry)
  | none => (.ended, holdings.setCursor number taken.2)

/-- Run a request of a caller with given holdings. -/
def run (holdings : Holdings) : Request α → Op (Reply α × Holdings)
  | .ask map question =>
    holdings.withHeld holdings.maps map fun handle => return (← question.ask handle, holdings)
  | .submap map path =>
    holdings.withHeld holdings.maps map fun handle =>
      return (.done, holdings.addMap (handle.submap path))
  | .cursor map =>
    holdings.withHeld holdings.maps map fun handle =>
      return (.done, holdings.addCursor handle.cursor)
  | .cursorAt map path =>
    holdings.withHeld holdings.maps map fun handle =>
      return (.done, holdings.addCursor (handle.cursorAt path))
  | .step number side =>
    holdings.withHeld holdings.cursors number fun cursor =>
      return stepped holdings number (← cursor.step side)
  | .entryKey number =>
    holdings.withHeld holdings.entries number fun entry =>
      return (.text entry.relativeKey, holdings)
  | .entryValue number type =>
    holdings.withHeld holdings.entries number fun entry =>
      return (.value (← entry.value type), holdings)
  | .entrySet number value =>
    holdings.withHeld holdings.entries number fun entry => do
      entry.set value
      return (.done, holdings)
  | .eraseEntry map number =>
    holdings.withHeld holdings.maps map fun handle =>
      holdings.withHeld holdings.entries number fun entry =>
        return (.count (← handle.eraseEntry entry), holdings)
  | .eraseRange map number =>
    holdings.withHeld holdings.maps map fun handle =>
      holdings.withHeld holdings.cursors number fun cursor =>
        return (.count (← handle.eraseRange cursor), holdings)

/-- Run a request in a world. If it fails the caller learns the failure and keeps its holdings. -/
def perform (request : Request α) (holdings : Holdings) (world : World) :
    Reply α × Holdings × World :=
  match request.run holdings world with
  | .ok (reply, holdings) world => (reply, holdings, world)
  | .error failure world => (.failed failure, holdings, world)

/-- Run requests one after the other. -/
def performAll : List (Request α) → Holdings → World → List (Reply α) × Holdings × World
  | [], holdings, world => ([], holdings, world)
  | request :: rest, holdings, world =>
    let (reply, holdings, world) := request.perform holdings world
    let (replies, holdings, world) := performAll rest holdings world
    (reply :: replies, holdings, world)

end Request

/-! ## Questions -/

section

variable {α : Type} {home handle : Handle} {start : Entries Cell}

/-- What follows a twin, if it depends on nothing but the result. -/
theorem Op.Twins.reply {β γ : Type} {twin : StoreId} {first second : Op β}
    (twins : Twins home twin start Eq first second) (answer : β → γ) :
    Twins home twin start Eq (first >>= fun result => Pure.pure (answer result))
      (second >>= fun result => Pure.pure (answer result)) := by
  apply twins.bind_eq
  intro result
  exact Twins.pure rfl

theorem Question.twins_ask (homeRooted : IsRooted home.location.key)
    (rooted : IsRooted handle.location.key) (question : Question α) :
    Twins home handle.store start Eq (question.ask (handle.relocated home))
      (question.ask handle) := by
  cases question with
  | update key value => exact (Handle.twins_update homeRooted rooted key value).reply _
  | updateMany list => exact (Handle.twins_updateMany homeRooted rooted list).reply _
  | insertDefault key value =>
      exact (Handle.twins_insertDefault homeRooted rooted key value).reply _
  | insertDefaultMany list =>
      exact (Handle.twins_insertDefaultMany homeRooted rooted list).reply _
  | get key type => exact (Handle.twins_get rooted key type).reply _
  | getOr key type default => exact (Handle.twins_getOr rooted key type default).reply _
  | getAny key => exact (Handle.twins_getAny homeRooted rooted key).reply _
  | modifyValue key type use =>
      exact (Handle.twins_modifyValue homeRooted rooted key type use).reply _
  | modifyCell key use => exact (Handle.twins_modifyCell homeRooted rooted key use).reply _
  | typeName key => exact (Handle.twins_typeName rooted key).reply _
  | isStored key => exact (Handle.twins_isStored rooted key).reply _
  | erase key => exact (Handle.twins_erase rooted key).reply _
  | eraseRecursive path => exact (Handle.twins_eraseRecursive rooted path).reply _
  | clear => exact (Handle.twins_clear rooted).reply _
  | size => exact (Handle.twins_size rooted).reply _
  | isEmpty => exact (Handle.twins_isEmpty rooted).reply _
  | keys => exact (Handle.twins_keys rooted).reply _

end

/-! ## Holdings -/

namespace Holdings

/-- The holdings at the same places below a handle. -/
def relocated (holdings : Holdings) (home : Handle) : Holdings where
  maps := holdings.maps.map (·.relocated home)
  cursors := holdings.cursors.map (·.relocated home)
  entries := holdings.entries.map (·.relocated home)

theorem addMap_relocated (holdings : Holdings) (home handle : Handle) :
    (holdings.relocated home).addMap (handle.relocated home) =
      (holdings.addMap handle).relocated home := by
  simp [addMap, relocated]

theorem addCursor_relocated (holdings : Holdings) (home : Handle) (cursor : Cursor) :
    (holdings.relocated home).addCursor (cursor.relocated home) =
      (holdings.addCursor cursor).relocated home := by
  simp [addCursor, relocated]

theorem addEntry_relocated (holdings : Holdings) (home : Handle) (entry : EntryRef) :
    (holdings.relocated home).addEntry (entry.relocated home) =
      (holdings.addEntry entry).relocated home := by
  simp [addEntry, relocated]

theorem setCursor_relocated (holdings : Holdings) (home : Handle) (number : Nat)
    (cursor : Cursor) :
    (holdings.relocated home).setCursor number (cursor.relocated home) =
      (holdings.setCursor number cursor).relocated home := by
  simp [setCursor, relocated]

/-- All holdings belong to one store and have rooted keys. -/
structure Seated (holdings : Holdings) (store : StoreId) : Prop where
  maps : ∀ handle ∈ holdings.maps, handle.store = store ∧ IsRooted handle.location.key
  cursors : ∀ cursor ∈ holdings.cursors, cursor.Seated store
  entries : ∀ entry ∈ holdings.entries, entry.Seated store

namespace Seated

variable {holdings : Holdings} {store : StoreId}

theorem addMap (seated : holdings.Seated store) {handle : Handle} (store_eq : handle.store = store)
    (rooted : IsRooted handle.location.key) : (holdings.addMap handle).Seated store where
  maps := List.forall_mem_append.mpr
    ⟨seated.maps, List.forall_mem_singleton.mpr ⟨store_eq, rooted⟩⟩
  cursors := seated.cursors
  entries := seated.entries

theorem addCursor (seated : holdings.Seated store) {cursor : Cursor}
    (known : cursor.Seated store) : (holdings.addCursor cursor).Seated store where
  maps := seated.maps
  cursors := List.forall_mem_append.mpr ⟨seated.cursors, List.forall_mem_singleton.mpr known⟩
  entries := seated.entries

theorem addEntry (seated : holdings.Seated store) {entry : EntryRef}
    (known : entry.Seated store) : (holdings.addEntry entry).Seated store where
  maps := seated.maps
  cursors := seated.cursors
  entries := List.forall_mem_append.mpr ⟨seated.entries, List.forall_mem_singleton.mpr known⟩

theorem setCursor (seated : holdings.Seated store) (number : Nat) {cursor : Cursor}
    (known : cursor.Seated store) : (holdings.setCursor number cursor).Seated store where
  maps := seated.maps
  cursors other member := by
    rcases List.mem_or_eq_of_mem_set member with old | rfl
    · exact seated.cursors other old
    · exact known
  entries := seated.entries

end Seated

end Holdings

/-! ## Requests -/

/-- Two runs have the same reply, and the first one's holdings are those of the second one at the
same places below the home. -/
structure Progress {α : Type} (home : Handle) (twin : StoreId)
    (first second : Reply α × Holdings) : Prop where
  reply : first.1 = second.1
  relocated : first.2 = second.2.relocated home
  seated : second.2.Seated twin

namespace Request

variable {α β : Type} {home : Handle} {twin : StoreId} {start : Entries Cell}
  {holdings : Holdings}

theorem twins_withHeld (seated : holdings.Seated twin) {held : List β} {known : β → Prop}
    (member : ∀ object ∈ held, known object) (relocate : β → β) (number : Nat)
    {first second : β → Op (Reply α × Holdings)}
    (uses : ∀ object, known object →
      Twins home twin start (Progress home twin) (first (relocate object)) (second object)) :
    Twins home twin start (Progress home twin)
      ((holdings.relocated home).withHeld (held.map relocate) number first)
      (holdings.withHeld held number second) := by
  unfold Holdings.withHeld
  rw [List.getElem?_map]
  cases found : held[number]? with
  | none => exact Twins.pure ⟨rfl, rfl, seated⟩
  | some object => exact uses object (member object (List.mem_of_getElem? found))

/-- A program that replies and makes nothing. -/
theorem twins_answer (seated : holdings.Seated twin) {first second : Op β}
    (twins : Twins home twin start Eq first second) (answer : β → Reply α) :
    Twins home twin start (Progress home twin)
      (first >>= fun result => Pure.pure (answer result, holdings.relocated home))
      (second >>= fun result => Pure.pure (answer result, holdings)) := by
  apply twins.bind_eq
  intro result
  exact Twins.pure ⟨rfl, rfl, seated⟩

theorem progress_stepped (seated : holdings.Seated twin) (number : Nat)
    {first second : Option EntryRef × Cursor} (steps : Cursor.Stepped home twin first second) :
    Progress home twin (stepped (holdings.relocated home) number first : Reply α × Holdings)
      (stepped holdings number second) := by
  obtain ⟨given, after⟩ := first
  obtain ⟨taken, left⟩ := second
  obtain ⟨rfl, rfl, entrySeated, cursorSeated⟩ := steps
  have moved := seated.setCursor number cursorSeated
  cases taken with
  | none => exact ⟨rfl, holdings.setCursor_relocated home number left, moved⟩
  | some entry =>
      have known := entrySeated entry rfl
      refine ⟨?_, ?_, moved.addEntry known⟩
      · exact congrArg Reply.text (EntryRef.relativeKey_relocated home (known.store_eq ▸ known))
      · change ((holdings.relocated home).setCursor number (left.relocated home)).addEntry
          (entry.relocated home) = _
        rw [Holdings.setCursor_relocated, Holdings.addEntry_relocated]
        rfl

/-- A request made of holdings and of the same holdings below the home are twins. -/
theorem twins_run (homeRooted : IsRooted home.location.key) (seated : holdings.Seated twin)
    (request : Request α) :
    Twins home twin start (Progress home twin) (request.run (holdings.relocated home))
      (request.run holdings) := by
  cases request with
  | ask map question =>
      apply twins_withHeld seated seated.maps
      rintro handle ⟨rfl, rooted⟩
      exact twins_answer seated (question.twins_ask homeRooted rooted) id
  | submap map path =>
      apply twins_withHeld seated seated.maps
      rintro handle ⟨rfl, rooted⟩
      apply Twins.pure
      rw [Handle.submap_relocated, Holdings.addMap_relocated]
      exact ⟨rfl, rfl, seated.addMap rfl (Handle.isRooted_submap rooted path)⟩
  | cursor map =>
      apply twins_withHeld seated seated.maps
      rintro handle ⟨rfl, rooted⟩
      apply Twins.pure
      rw [Handle.cursor_relocated, Holdings.addCursor_relocated]
      exact ⟨rfl, rfl, seated.addCursor (Handle.seated_cursor rooted)⟩
  | cursorAt map path =>
      apply twins_withHeld seated seated.maps
      rintro handle ⟨rfl, rooted⟩
      apply Twins.pure
      rw [Handle.cursorAt_relocated, Holdings.addCursor_relocated]
      exact ⟨rfl, rfl, seated.addCursor (Handle.seated_cursorAt rooted path)⟩
  | step number side =>
      apply twins_withHeld seated seated.cursors
      intro cursor known
      obtain rfl := known.store_eq
      apply Twins.bind (Cursor.twins_step known side)
      intro first second steps
      exact Twins.pure (progress_stepped seated number steps)
  | entryKey number =>
      apply twins_withHeld seated seated.entries
      intro entry known
      apply Twins.pure
      rw [EntryRef.relativeKey_relocated home (known.store_eq ▸ known)]
      exact ⟨rfl, rfl, seated⟩
  | entryValue number type =>
      apply twins_withHeld seated seated.entries
      intro entry known
      obtain rfl := known.store_eq
      exact twins_answer seated (EntryRef.twins_value known type) _
  | entrySet number value =>
      apply twins_withHeld seated seated.entries
      intro entry known
      obtain rfl := known.store_eq
      exact twins_answer seated (EntryRef.twins_set homeRooted known value) _
  | eraseEntry map number =>
      apply twins_withHeld seated seated.maps
      rintro handle ⟨rfl, rooted⟩
      apply twins_withHeld seated seated.entries
      intro entry known
      exact twins_answer seated (EntryRef.twins_eraseEntry known) _
  | eraseRange map number =>
      apply twins_withHeld seated seated.maps
      rintro handle ⟨rfl, rooted⟩
      apply twins_withHeld seated seated.cursors
      intro cursor known
      exact twins_answer seated (Cursor.twins_eraseRange known) _

/-! ## Sequences of requests -/

/-- What a run of the caller with the subtree and one with the copy have come to. -/
structure InStep (home : Handle) (twin : StoreId) (start : Entries Cell)
    (first second : Holdings × World) : Prop where
  relocated : first.1 = second.1.relocated home
  seated : second.1.Seated twin
  worlds : Mirrored home twin start first.2 second.2

theorem perform_agree (homeRooted : IsRooted home.location.key) (request : Request α)
    {first second : Holdings × World} (inStep : InStep home twin start first second) :
    (request.perform first.1 first.2).1.redacted = (request.perform second.1 second.2).1.redacted ∧
      InStep home twin start (request.perform first.1 first.2).2
        (request.perform second.1 second.2).2 := by
  obtain ⟨firstHoldings, firstWorld⟩ := first
  obtain ⟨secondHoldings, secondWorld⟩ := second
  obtain ⟨rfl, seated, worlds⟩ := inStep
  have agree := twins_run homeRooted seated request firstWorld secondWorld worlds
  unfold perform
  dsimp only at agree ⊢
  generalize request.run (secondHoldings.relocated home) firstWorld = firstOutcome at agree
  generalize request.run secondHoldings secondWorld = secondOutcome at agree
  cases agree with
  | ok progress left =>
      exact ⟨congrArg Reply.redacted progress.reply, progress.relocated, progress.seated, left⟩
  | error failure left => exact ⟨congrArg Reply.failed failure, rfl, seated, left⟩

/-- Whatever is asked of the subtree and of its copy, the replies are the same and both stay in
step. -/
theorem performAll_agree (homeRooted : IsRooted home.location.key) (requests : List (Request α))
    {first second : Holdings × World} (inStep : InStep home twin start first second) :
    (performAll requests first.1 first.2).1.map Reply.redacted =
        (performAll requests second.1 second.2).1.map Reply.redacted ∧
      InStep home twin start (performAll requests first.1 first.2).2
        (performAll requests second.1 second.2).2 := by
  induction requests generalizing first second with
  | nil => exact ⟨rfl, inStep⟩
  | cons request rest ih =>
      obtain ⟨reply, stepped⟩ := perform_agree homeRooted request inStep
      obtain ⟨replies, final⟩ := ih stepped
      refine ⟨?_, final⟩
      unfold performAll
      rw [List.map_cons, List.map_cons, reply, replies]

end Request

end PathStore
