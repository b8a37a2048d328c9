import PathStore.Inspect
import PathStore.Proofs.World.Inquiries
import PathStore.Proofs.World.Origins
import PathStore.Session.Action

/-!
# Reading through one store

Whoever reads through a store asks the store, then the arrays that are found there, and whom their
memory belongs to. All that is told is the same in two worlds that agree on the store, on the
buffers that are asked, on the owners and on who claims what, whatever else they contain.
-/

namespace PathStore

open Failure

/-- What a program tells is the same in two worlds, and it changes neither. -/
def ToldSame {α : Type} (program : Op α) (before after : World) : Prop :=
  ∃ decided, program before = settled decided before ∧ program after = settled decided after

/-! ## Worlds that agree on a store -/

namespace Heap

theorem writeList_getD {α : Type} [Inhabited α] (list : List α) {number : Nat}
    (made : number < list.length) : writeList (list.getD number default) list number = list := by
  induction list generalizing number with
  | nil => exact absurd made (Nat.not_lt_zero _)
  | cons head rest ih =>
      cases number with
      | zero => rfl
      | succ number => exact congrArg (head :: ·) (ih (Nat.lt_of_succ_lt_succ made))

end Heap

namespace World

variable {before after world : World} {store : StoreId}

/-- What is put back where it was found is no change. -/
theorem setEntries_entries (made : (Target.store store).Made world) :
    world.setEntries store (world.entries store) = world := by
  rw [setEntries, Heap.write, entries, Heap.read, Heap.writeList_getD _ made]

/-- Two worlds agree on a store, on certain buffers, on the owners, and on who claims what, and all
buffers have as many elements in one as in the other. -/
structure AgreeOn (store : StoreId) (kept : BufferId → Prop) (before after : World) : Prop where
  made : (Target.store store).Made before
  still : (Target.store store).Made after
  entries : after.entries store = before.entries store
  elements : ∀ id, kept id → after.elements id = before.elements id
  lengths : ∀ id, (Target.buffer id).Made before →
    (after.elements id).length = (before.elements id).length
  host? : ∀ id, after.host? id = before.host? id
  active : after.active = before.active

namespace AgreeOn

variable {kept : BufferId → Prop} (agree : before.AgreeOn store kept after)

include agree

theorem admits (claim : Claim) : after.admits claim = before.admits claim :=
  admits_congr agree.active claim

theorem acquire (claim : Claim) : (before.acquire claim).AgreeOn store kept (after.acquire claim) :=
  { agree with active := congrArg (claim :: ·) agree.active }

/-- Programs that ask the store are told the same. -/
theorem asks {α : Type} {program : Op α} (asks : Asks (.store store) program) :
    ToldSame program before after :=
  asks.reads before after agree.entries (agree.admits _).symm

/-- Programs that ask a buffer on which the worlds agree are told the same. -/
theorem asksBuffer {α : Type} {program : Op α} {id : BufferId} (known : kept id)
    (asks : Asks (.buffer id) program) : ToldSame program before after :=
  asks.reads before after (agree.elements id known) (agree.admits _).symm

end AgreeOn

end World

/-- Of the stores and buffers that are listed, the buffers are all among certain ones. -/
def Target.Among (kept : BufferId → Prop) (listed : List Target) : Prop :=
  ∀ id, .buffer id ∈ listed → kept id

/-! ## What is shown of a store -/

namespace Inspect

variable {before after : World} {store : StoreId} {kept : BufferId → Prop}
  (agree : before.AgreeOn store kept after)

include agree

theorem buffer_congr {shared : BufferRef} (known : kept shared.id) :
    buffer after shared = buffer before shared := by
  rw [buffer, buffer, agree.admits, agree.elements _ known]

theorem owner_congr : owner after = owner before := by
  funext object
  rw [owner, owner, agree.host?]

theorem value_congr {held : Value} (known : Target.Among kept held.targets) :
    value after held = value before held := by
  cases held with
  | scalar datum => rfl
  | view array =>
      rw [value, value, view, view, buffer_congr agree (known _ (.head _)), owner_congr agree]
  | block array =>
      have stored : storage after array.storage = storage before array.storage := by
        cases same : array.storage with
        | owned data => rfl
        | released => rfl
        | borrowed shared =>
            have among := known shared.id (by
              simp [Value.targets, Block.targets, Storage.targets, same])
            rw [storage, storage, buffer_congr agree among]
      rw [value, value, block, block, stored]

theorem cell_congr {held : Cell} (known : Target.Among kept (Cell.targets held)) :
    cell after held = cell before held := by
  cases held with
  | none => rw [cell, cell, Option.map_none, Option.map_none]
  | some held => rw [cell, cell, Option.map_some, Option.map_some, value_congr agree known]

/-- All that is shown through a handle is the same. -/
theorem handle_congr {handle : Handle} (same : handle.store = store)
    (known : Target.Among kept (before.entries store).targets) :
    Inspect.handle after handle = Inspect.handle before handle := by
  have listed : (before.entries store).toList.map (fun entry =>
      Quoted.write entry.1 ++ ": " ++ cell after entry.2) =
      (before.entries store).toList.map fun entry =>
        Quoted.write entry.1 ++ ": " ++ cell before entry.2 := by
    refine List.map_congr_left fun entry member => ?_
    rw [cell_congr agree fun id named => known id (List.mem_flatMap.mpr ⟨entry, member, named⟩)]
  rw [Inspect.handle, Inspect.handle, same, Inspect.store, Inspect.store, agree.admits,
    agree.entries, listed]

end Inspect

/-! ## Readings -/

/-- What is shown of a handle by a program. -/
def Handle.inspect (handle : Handle) : Op String :=
  return Inspect.handle (← getThe World) handle

/-- In a world the program reads through a store. It may ask the store, certain buffers, how long
any buffer is, and whom memory belongs to, have all of this shown, and go on from what it is told,
also while it still reads. -/
inductive Reading (store : StoreId) (kept : BufferId → Prop) :
    World → {α : Type} → Op α → Prop where
  | asks {world : World} {α : Type} {program : Op α} (asks : Asks (.store store) program) :
      Reading store kept world program
  | asksBuffer {world : World} {α : Type} {program : Op α} {id : BufferId} (known : kept id)
      (asks : Asks (.buffer id) program) : Reading store kept world program
  | getAny {world : World} (handle : Handle) (same : handle.store = store) (key : String) :
      Reading store kept world (handle.getAny key)
  | inspect {world : World} (handle : Handle) (same : handle.store = store)
      (known : Target.Among kept (world.entries store).targets) :
      Reading store kept world handle.inspect
  | length {world : World} {buffer : BufferRef} (made : (Target.buffer buffer.id).Made world) :
      Reading store kept world buffer.length
  | owner {world : World} (view : View) : Reading store kept world view.showOwner
  | whileStore {world : World} {α : Type} (refusal : Failure) {use : Entries Cell → Op α}
      (inner : Reading store kept (world.acquire ⟨.store store, .reading⟩)
        (use (world.entries store))) :
      Reading store kept world (store.reading refusal use)
  | whileBuffer {world : World} {α : Type} {id : BufferId} (known : kept id) (refusal : Failure)
      {use : List Scalar → Op α}
      (inner : Reading store kept (world.acquire ⟨.buffer id, .reading⟩)
        (use (world.elements id))) :
      Reading store kept world (id.reading refusal use)
  | pure {world : World} {α : Type} (result : α) : Reading store kept world (Pure.pure result)
  | throw {world : World} {α : Type} (failure : Failure) :
      Reading store kept world (MonadExcept.throw failure : Op α)
  | bind {world : World} {α β : Type} {program : Op α} {next : α → Op β}
      (first : Reading store kept world program)
      (rest : ∀ result, program world = .ok result world → Reading store kept world (next result)) :
      Reading store kept world (program >>= next)
  | attempt {world : World} {α : Type} {program : Op α}
      (reading : Reading store kept world program) : Reading store kept world program.attempt

namespace Handle

variable {handle : Handle} {world : World}

/-- A cell is claimed for writing and put back as it was. -/
theorem modifyCell_eq (made : (Target.store handle.store).Made world)
    (free : world.admits ⟨.store handle.store, .writing⟩) (key : String) :
    handle.modifyCell key (fun cell => pure (cell, cell)) world =
      settled (handle.cell (world.entries handle.store) key) world := by
  rw [modifyCell, StoreId.writing_apply, if_pos free]
  cases found : handle.cell (world.entries handle.store) key with
  | error failure => rfl
  | ok cell =>
      have back : (world.entries handle.store).insert (handle.resolve key) cell =
          world.entries handle.store := Entries.insert_found (handle.find?_of_cell found)
      change EStateM.Result.ok cell (World.release (World.setEntries _ _ _)) = _
      rw [back]
      exact congrArg (EStateM.Result.ok cell) (World.setEntries_entries made)

/-- What is told of a key, whatever the type of its value. -/
def anyAt (handle : Handle) (key : String) (entries : Entries Cell) : Except Failure Value := do
  match ← handle.cell entries key with
  | some value => return value
  | none => throw (.error (.emptyEntry (handle.path key)))

theorem getAny_eq (made : (Target.store handle.store).Made world) (key : String) :
    handle.getAny key world =
      if world.admits ⟨.store handle.store, .writing⟩ then
        settled (handle.anyAt key (world.entries handle.store)) world
      else .error .busy world := by
  unfold getAny anyAt
  split
  · rename_i free
    have read := modifyCell_eq made free key
    cases found : handle.cell (world.entries handle.store) key with
    | error failure =>
        rw [found] at read
        exact bind_of_error read
    | ok cell =>
        rw [found] at read
        refine (bind_of_ok read).trans ?_
        cases cell with
        | some value => rfl
        | none => rfl
  · rename_i held
    have refused : handle.modifyCell key (fun cell => pure (cell, cell)) world =
        .error .busy world := by
      rw [modifyCell, StoreId.writing_apply, if_neg held]
    exact bind_of_error refused

end Handle

/-- Through one store the same is told in worlds that agree on it, and nothing changes. -/
theorem Reading.told {α : Type} {program : Op α} {store : StoreId} {kept : BufferId → Prop}
    {before after : World} (reading : Reading store kept before program)
    (agree : before.AgreeOn store kept after) : ToldSame program before after := by
  induction reading generalizing after with
  | asks asks => exact agree.asks asks
  | asksBuffer known asks => exact agree.asksBuffer known asks
  | @getAny before handle same key =>
      subst same
      unfold ToldSame
      rw [Handle.getAny_eq agree.made key, Handle.getAny_eq agree.still key, agree.entries,
        agree.admits]
      split
      · exact ⟨_, rfl, rfl⟩
      · exact ⟨.error .busy, rfl, rfl⟩
  | @inspect before handle same known =>
      refine ⟨.ok (Inspect.handle before handle), rfl, ?_⟩
      rw [← Inspect.handle_congr agree same known]
      rfl
  | @length before buffer made =>
      refine ⟨.ok (before.elements buffer.id).length, rfl, ?_⟩
      rw [← agree.lengths _ made]
      rfl
  | @owner before view =>
      refine ⟨.ok (view.owner.map (OwnerShown.now before)), rfl, ?_⟩
      have same : OwnerShown.now after = OwnerShown.now before := by
        funext object
        rw [OwnerShown.now, OwnerShown.now, agree.host?, Inspect.owner_congr agree]
      rw [← same]
      rfl
  | @whileStore before α refusal use inner told =>
      obtain ⟨decided, once, again⟩ := told (agree.acquire _)
      unfold ToldSame
      rw [StoreId.reading_apply, StoreId.reading_apply, agree.entries, agree.admits, once, again]
      split
      · exact ⟨decided, by cases decided <;> rfl, by cases decided <;> rfl⟩
      · exact ⟨.error refusal, rfl, rfl⟩
  | @whileBuffer before α id known refusal use inner told =>
      obtain ⟨decided, once, again⟩ := told (agree.acquire _)
      unfold ToldSame
      rw [BufferId.reading_apply, BufferId.reading_apply, agree.elements id known, agree.admits,
        once, again]
      split
      · exact ⟨decided, by cases decided <;> rfl, by cases decided <;> rfl⟩
      · exact ⟨.error refusal, rfl, rfl⟩
  | pure result => exact ⟨.ok result, rfl, rfl⟩
  | throw failure => exact ⟨.error failure, rfl, rfl⟩
  | bind first rest begun continued =>
      obtain ⟨decided, once, again⟩ := begun agree
      cases decided with
      | error failure => exact ⟨.error failure, bind_of_error once, bind_of_error again⟩
      | ok result =>
          obtain ⟨further, early, late⟩ := continued result once agree
          exact ⟨further, (bind_of_ok once).trans early, (bind_of_ok again).trans late⟩
  | attempt reading told =>
      obtain ⟨decided, once, again⟩ := told agree
      exact ⟨_, Op.attempt_settled once, Op.attempt_settled again⟩

/-! ## What can be read -/

section

variable {store : StoreId} {kept : BufferId → Prop} {world : World}

namespace Reading

variable {α β : Type}

theorem mapM {program : α → Op β} (list : List α)
    (each : ∀ item ∈ list, Reading store kept world (program item)) :
    Reading store kept world (list.mapM program) := by
  induction list with
  | nil => exact .pure _
  | cons item list ih =>
      obtain ⟨first, others⟩ := List.forall_mem_cons.mp each
      rw [List.mapM_cons]
      exact first.bind fun _ _ => (ih others).bind fun _ _ => .pure _

end Reading

namespace Block

variable {block : Block} (known : Target.Among kept block.targets)

include known

theorem reading_withData {α : Type} {use : List Scalar → Op α}
    (each : ∀ elements world, Reading store kept world (use elements)) :
    Reading store kept world (block.withData use) := by
  unfold withData
  split
  · exact each _ world
  · rename_i buffer borrows
    refine .whileBuffer (known buffer.id ?_) _ (each _ _)
    simp [targets, Storage.targets, borrows]
  · exact .throw _

theorem reading_toList : Reading store kept world block.toList :=
  block.reading_withData known fun elements _ => .pure elements

theorem reading_snapshot : Reading store kept world block.snapshot :=
  (block.reading_toList known).attempt.bind fun _ _ => .pure _

end Block

theorem View.reading_snapshot {view : View} (known : Target.Among kept view.targets) :
    Reading store kept world view.snapshot := by
  have listed : Reading store kept world view.toList :=
    .asksBuffer (known _ (.head _)) (.viewToList view)
  exact listed.attempt.bind fun _ _ => .pure _

theorem Value.reading_snapshot {value : Value} (known : Target.Among kept value.targets) :
    Reading store kept world value.snapshot := by
  cases value with
  | scalar datum => exact .pure _
  | view array =>
      rw [Value.snapshot, ← bind_pure_comp]
      exact (View.reading_snapshot known).bind fun _ _ => .pure _
  | block array =>
      rw [Value.snapshot, ← bind_pure_comp]
      exact (array.reading_snapshot known).bind fun _ _ => .pure _

theorem Entries.targets_subset {entries : Entries Cell} {key : String} {cell : Cell}
    (found : entries.find? key = some cell) : Cell.targets cell ⊆ entries.targets :=
  fun _ member =>
    List.mem_flatMap.mpr ⟨(key, cell), (Entries.find?_eq_some_iff _ _ _).mp found, member⟩

namespace EntryRef

variable {entry : EntryRef}

theorem find?_of_anyValue {value : Value} {left : World}
    (ran : entry.anyValue world = .ok value left) :
    (world.entries entry.store).find? entry.key = some (some value) := by
  obtain ⟨cell, between, read, continued⟩ := exists_of_bind_ok ran
  have found : entry.cell (world.entries entry.store) = .ok cell := by
    rw [withCell, StoreId.reading_apply] at read
    split at read
    · cases decided : entry.cell (world.entries entry.store) with
      | error failure =>
          rw [decided] at read
          cases read
      | ok held =>
          rw [decided] at read
          cases read
          rfl
    · cases read
  cases cell with
  | none => cases continued
  | some held =>
      cases continued
      exact entry.find?_of_cell found

/-- What an entry says is read through its store, and from the buffer that its value shares. -/
theorem reading_snapshot (same : entry.store = store)
    (known : Target.Among kept (world.entries store).targets) :
    Reading store kept world entry.snapshot := by
  subst same
  have asked : Reading entry.store kept world entry.anyValue := .asks (.entryAnyValue entry)
  refine asked.attempt.bind fun read ran => ?_
  cases read with
  | error cause => exact .pure _
  | ok value =>
      have found := find?_of_anyValue (Op.ok_of_attempt ran)
      refine (Value.reading_snapshot fun id named => ?_).bind fun _ _ => .pure _
      exact known id (Entries.targets_subset found named)

end EntryRef

/-- All that a handle reaches is read through its store, and from the buffers that values share. -/
theorem Handle.reading_snapshot {handle : Handle} (same : handle.store = store)
    (known : Target.Among kept (world.entries store).targets) :
    Reading store kept world handle.snapshot := by
  subst same
  refine Reading.bind (.whileStore _ (.pure _)) fun keys _ => .mapM keys fun key _ => ?_
  have shown : Reading handle.store kept world (handle.cursor.entry key).snapshot :=
    EntryRef.reading_snapshot rfl known
  exact shown.bind fun _ _ => .pure _

end

end PathStore
