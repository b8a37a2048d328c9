import PathStore.Proofs.World.Origins
import PathStore.Proofs.World.Spares

/-!
# Entries without a value

An entry is hollow if its cell is empty. Between two states of a world hollow entries arise and end
within certain bounds, which say under which keys of which stores they may do so. A program respects
bounds if it keeps within them, whether it succeeds or fails. Storing a value ends a hollow entry and
makes none; what is read as a value is not hollow, so overwriting it changes no entry in this respect;
and a new or copied entry is as hollow as what was copied.
-/

namespace PathStore

open Failure

/-! ## Bounds -/

/-- There is an entry under the key, but its cell is empty. -/
def Entries.Hollow (entries : Entries Cell) (key : String) : Prop :=
  entries.find? key = some none

/-- The store has a hollow entry under the key. -/
def World.Hollow (world : World) (id : StoreId) (key : String) : Prop :=
  (world.entries id).Hollow key

theorem Entries.not_hollow_empty (key : String) : ¬ (Entries.empty : Entries Cell).Hollow key :=
  nofun

/-- Under which keys hollow entries may arise, and under which they may end. -/
structure Bounds where
  arises : StoreId → String → Prop
  ends : StoreId → String → Prop

namespace Bounds

/-- Within the bounds one state of a store can be followed by the other. -/
structure AllowsAt (bounds : Bounds) (id : StoreId) (before after : Entries Cell) : Prop where
  arise : ∀ key, after.Hollow key → before.Hollow key ∨ bounds.arises id key
  last : ∀ key, before.Hollow key → after.Hollow key ∨ bounds.ends id key

/-- Within the bounds one state of the world can be followed by the other. -/
def Allows (bounds : Bounds) (before after : World) : Prop :=
  ∀ id, bounds.AllowsAt id (before.entries id) (after.entries id)

section Stores

variable {bounds : Bounds} {id : StoreId} {before middle after entries : Entries Cell}

theorem AllowsAt.refl (entries : Entries Cell) : bounds.AllowsAt id entries entries :=
  ⟨fun _ hollow => .inl hollow, fun _ hollow => .inl hollow⟩

theorem AllowsAt.trans (first : bounds.AllowsAt id before middle)
    (second : bounds.AllowsAt id middle after) : bounds.AllowsAt id before after where
  arise key hollow := (second.arise key hollow).elim (first.arise key) .inr
  last key hollow := (first.last key hollow).elim (second.last key) .inr

theorem hollow_insert_iff {key other : String} {cell : Cell} :
    (entries.insert key cell).Hollow other ↔
      if other = key then cell = none else entries.Hollow other := by
  unfold Entries.Hollow
  rw [Entries.find?_insert]
  split
  · exact Option.some_inj
  · exact Iff.rfl

/-- What is stored is hollow if it is nothing. -/
theorem AllowsAt.insert {key : String} {cell : Cell}
    (empties : cell = none → entries.Hollow key ∨ bounds.arises id key)
    (fills : entries.Hollow key → cell = none ∨ bounds.ends id key) :
    bounds.AllowsAt id entries (entries.insert key cell) := by
  refine ⟨fun other hollow => ?_, fun other hollow => ?_⟩
  · rw [hollow_insert_iff] at hollow
    split at hollow
    · rename_i same
      exact same ▸ empties hollow
    · exact .inl hollow
  · rw [hollow_insert_iff]
    split
    · rename_i same
      exact same ▸ fills (same ▸ hollow)
    · exact .inl hollow

theorem AllowsAt.insert_value {key : String} (value : Value)
    (fills : entries.Hollow key → bounds.ends id key) :
    bounds.AllowsAt id entries (entries.insert key (some value)) :=
  .insert nofun fun hollow => .inr (fills hollow)

/-- An entry that is read as a value is not hollow, so it may be overwritten. -/
theorem AllowsAt.overwrite {key : String} {held : Value}
    (found : entries.find? key = some (some held)) (value : Value) :
    bounds.AllowsAt id entries (entries.insert key (some value)) :=
  .insert_value value fun hollow => by
    rw [Entries.Hollow, found] at hollow
    cases hollow

/-- A cell that is put in the place of another may be emptied or filled. -/
theorem AllowsAt.insert_over {key : String} {held cell : Cell}
    (found : entries.find? key = some held)
    (empties : cell = none → held = none ∨ bounds.arises id key)
    (fills : held = none → cell = none ∨ bounds.ends id key) :
    bounds.AllowsAt id entries (entries.insert key cell) :=
  .insert (fun empty => (empties empty).imp_left fun vacant => found.trans (congrArg some vacant))
    fun hollow => fills (Option.some_inj.1 (found.symm.trans hollow))

theorem AllowsAt.insertAll {list : List (String × Cell)}
    (empties : ∀ key, (key, none) ∈ list → bounds.arises id key)
    (fills : ∀ key value, (key, some value) ∈ list → bounds.ends id key) :
    bounds.AllowsAt id entries (entries.insertAll list) := by
  induction list generalizing entries with
  | nil => exact .refl entries
  | cons entry list ih =>
      obtain ⟨key, cell⟩ := entry
      have first : bounds.AllowsAt id entries (entries.insert key cell) := by
        cases cell with
        | none => exact .insert (fun _ => .inr (empties key (.head _))) fun _ => .inl rfl
        | some value => exact .insert_value value fun _ => fills key value (.head _)
      exact first.trans (ih (fun other member => empties other (.tail _ member))
        fun other value member => fills other value (.tail _ member))

/-- If every entry is kept or removed, none becomes hollow. -/
theorem AllowsAt.of_removed
    (removed : ∀ key, after.find? key = before.find? key ∨
      after.find? key = none ∧ bounds.ends id key) : bounds.AllowsAt id before after where
  arise key hollow := by
    rcases removed key with same | ⟨gone, _⟩
    · exact .inl (same.symm.trans hollow)
    · cases gone.symm.trans hollow
  last key hollow := by
    rcases removed key with same | ⟨_, ends⟩
    · exact .inl (same.trans hollow)
    · exact .inr ends

theorem AllowsAt.erase {key : String} (erased : bounds.ends id key) :
    bounds.AllowsAt id entries (entries.erase key) := by
  refine .of_removed fun other => ?_
  rw [Entries.find?_erase]
  split
  · rename_i same
    exact .inr ⟨rfl, same ▸ erased⟩
  · exact .inl rfl

theorem AllowsAt.eraseAll {keys : List String} (erased : ∀ key ∈ keys, bounds.ends id key) :
    bounds.AllowsAt id entries (entries.eraseAll keys) := by
  refine .of_removed fun other => ?_
  rw [Entries.find?_eraseAll]
  split
  · rename_i member
    exact .inr ⟨rfl, erased other member⟩
  · exact .inl rfl

theorem AllowsAt.prune {scope : String}
    (erased : ∀ key, Path.InSubtree scope key → bounds.ends id key) :
    bounds.AllowsAt id entries (entries.prune scope) := by
  refine .of_removed fun other => ?_
  rw [Entries.find?_prune]
  split
  · rename_i inside
    exact .inr ⟨rfl, erased other inside⟩
  · exact .inl rfl

end Stores

section Worlds

variable {bounds : Bounds} {before middle after world : World}

theorem Allows.refl (world : World) : bounds.Allows world world :=
  fun id => .refl (world.entries id)

theorem Allows.trans (first : bounds.Allows before middle) (second : bounds.Allows middle after) :
    bounds.Allows before after :=
  fun id => (first id).trans (second id)

/-- Nothing but the stores counts. -/
theorem Allows.of_stores (same : after.stores = before.stores) : bounds.Allows before after := by
  intro id
  rw [World.entries, World.entries, same]
  exact .refl _

/-- A new store is as hollow as the entries that it is given. -/
theorem Allows.pushStore {entries : Entries Cell}
    (copied : ∀ key, entries.Hollow key → bounds.arises ⟨world.stores.next⟩ key) :
    bounds.Allows world { world with stores := world.stores.push entries } := by
  intro id
  have fresh : World.entries { world with stores := world.stores.push entries } id =
      if id.number = world.stores.next then entries else world.entries id :=
    Heap.read_push world.stores entries id.number
  rw [fresh]
  split
  · rename_i same
    refine ⟨fun key hollow => .inr ?_, fun key hollow => ?_⟩
    · have named : id = ⟨world.stores.next⟩ := congrArg StoreId.mk same
      exact named ▸ copied key hollow
    · -- There was no such store before.
      rw [Entries.Hollow, World.entries, Heap.read, same, Heap.next, List.getD_eq_getElem?_getD,
        List.getElem?_eq_none (Nat.le_refl _)] at hollow
      cases hollow
  · exact .refl _

end Worlds

end Bounds

/-! ## Programs -/

section Programs

variable {σ α β : Type} [Worldly σ]

open Worldly

/-- In a state a program keeps within the bounds. -/
def Respects (bounds : Bounds) (state : σ) (program : EStateM Failure σ α) : Prop :=
  bounds.Allows (world state) (world (leftBy (program state)))

namespace Respects

variable {bounds : Bounds} {state : σ}

theorem pure (result : α) : Respects bounds state (Pure.pure result : EStateM Failure σ α) :=
  .refl _

theorem throw (failure : Failure) :
    Respects bounds state (MonadExcept.throw failure : EStateM Failure σ α) :=
  .refl _

theorem throw_bind (failure : Failure) (next : α → EStateM Failure σ β) :
    Respects bounds state ((MonadExcept.throw failure : EStateM Failure σ α) >>= next) :=
  throw failure

theorem failed {program : EStateM Failure σ α} {failure : Failure}
    (stops : program state = .error failure state) : Respects bounds state program := by
  unfold Respects
  rw [stops]
  exact .refl _

theorem of_settled {program : EStateM Failure σ α} {decided : Except Failure α}
    (runs : program state = settled decided state) : Respects bounds state program := by
  unfold Respects
  rw [runs]
  cases decided with
  | ok result => exact .refl _
  | error failure => exact .refl _

theorem bind_ran {program : EStateM Failure σ α} {next : α → EStateM Failure σ β}
    (first : Respects bounds state program)
    (rest : ∀ result left, program state = .ok result left → Respects bounds left (next result)) :
    Respects bounds state (program >>= next) := by
  unfold Respects at first ⊢
  cases ran : program state with
  | ok result left =>
      rw [ran] at first
      rw [bind_of_ok ran]
      exact first.trans (rest result left ran)
  | error failure left =>
      rw [ran] at first
      rw [bind_of_error ran]
      exact first

theorem bind {program : EStateM Failure σ α} {next : α → EStateM Failure σ β}
    (first : Respects bounds state program)
    (rest : ∀ result left, Respects bounds left (next result)) :
    Respects bounds state (program >>= next) :=
  first.bind_ran fun result left _ => rest result left

/-- After what is decided first nothing has changed. -/
theorem bind_settled {program : EStateM Failure σ α} {next : α → EStateM Failure σ β}
    {decided : Except Failure α} (runs : program state = settled decided state)
    (rest : ∀ result, decided = .ok result → Respects bounds state (next result)) :
    Respects bounds state (program >>= next) := by
  unfold Respects at rest ⊢
  cases decided with
  | ok result =>
      rw [bind_of_ok runs]
      exact rest result rfl
  | error failure =>
      rw [bind_of_error runs]
      exact .refl _

theorem mapM {program : α → EStateM Failure σ β} (list : List α)
    (each : ∀ item, ∀ state : σ, Respects bounds state (program item)) :
    Respects bounds state (list.mapM program) := by
  induction list generalizing state with
  | nil => exact pure _
  | cons item list ih =>
      rw [List.mapM_cons]
      exact (each item state).bind fun _ _ => ih.bind fun _ _ => pure _

end Respects

end Programs

/-! ## Programs over the world -/

theorem Op.eq_ok_of_ofExcept {α : Type} {decided : Except Failure α} {world left : World} {result : α}
    (ran : Op.ofExcept decided world = .ok result left) : decided = .ok result := by
  cases decided <;> cases ran
  rfl

namespace Respects

variable {α β : Type} {bounds : Bounds} {world : World}

theorem ofExcept (decided : Except Failure α) : Respects bounds world (Op.ofExcept decided) :=
  of_settled (Op.ofExcept_apply decided world)

theorem bind_deciding {decided : Except Failure α} {next : α → Op β}
    (rest : ∀ result, decided = .ok result → Respects bounds world (next result)) :
    Respects bounds world (Op.ofExcept decided >>= next) :=
  bind_settled (Op.ofExcept_apply decided world) rest

theorem of_looks {kind : Failure → Prop} {program : Op α} (looks : Looks kind program) :
    Respects bounds world program := by
  obtain ⟨decided, runs, -⟩ := looks world
  exact of_settled runs

/-- What only asks changes nothing. -/
theorem of_asks {target : Target} {program : Op α} (asks : Asks target program) :
    Respects bounds world program := by
  obtain ⟨decided, runs⟩ := asks.reads.exists_settled world
  exact of_settled runs

theorem holding {claim : Claim} {refusal : Failure} {program : Op α}
    (respects : Respects bounds (world.acquire claim) program) :
    Respects bounds world (Op.holding claim refusal program) := by
  unfold Respects at respects ⊢
  rw [Op.holding]
  split
  · generalize program (world.acquire claim) = outcome at respects
    cases outcome <;> exact respects
  · exact .refl world

theorem readingStore {id : StoreId} {refusal : Failure} {use : Entries Cell → Op α}
    (respects : Respects bounds (world.acquire ⟨.store id, .reading⟩) (use (world.entries id))) :
    Respects bounds world (id.reading refusal use) :=
  holding respects

theorem readingBuffer {id : BufferId} {refusal : Failure} {use : List Scalar → Op α}
    (respects : Respects bounds (world.acquire ⟨.buffer id, .reading⟩) (use (world.elements id))) :
    Respects bounds world (id.reading refusal use) :=
  holding respects

theorem writingBuffer {id : BufferId} {use : List Scalar → Op (α × List Scalar)}
    (respects : Respects bounds (world.acquire ⟨.buffer id, .writing⟩) (use (world.elements id))) :
    Respects bounds world (id.writing use) :=
  holding (respects.bind fun _ _ => .of_stores rfl)

/-- What is put into a store is computed from what was there when it was claimed, whatever has been
done meanwhile. -/
theorem writingStore {id : StoreId} {use : Entries Cell → Op (α × Entries Cell)}
    (respects : Respects bounds (world.acquire ⟨.store id, .writing⟩) (use (world.entries id)))
    (puts : ∀ written left, use (world.entries id) (world.acquire ⟨.store id, .writing⟩) =
      .ok written left → bounds.AllowsAt id (world.entries id) written.2) :
    Respects bounds world (id.writing use) := by
  unfold Respects at respects ⊢
  rw [StoreId.writing_apply]
  split
  · cases ran : use (world.entries id) (world.acquire ⟨.store id, .writing⟩) with
    | ok written left =>
        rw [ran] at respects
        intro other
        change bounds.AllowsAt other (world.entries other)
          ((left.setEntries id written.2).entries other)
        rw [World.entries_setEntries]
        split
        · rename_i same
          exact same ▸ puts written left ran
        · exact respects other
    | error failure left =>
        rw [ran] at respects
        exact respects
  · exact .refl world

theorem writingPure {id : StoreId} {use : Entries Cell → α × Entries Cell}
    (puts : bounds.AllowsAt id (world.entries id) (use (world.entries id)).2) :
    Respects bounds world (id.writing fun entries => Pure.pure (use entries)) :=
  writingStore (.pure _) fun _ _ ran => by
    cases ran
    exact puts

end Respects

variable {α : Type} {bounds : Bounds} {world : World}

/-! ## Buffers, views and blocks -/

theorem BufferRef.respects_create (elem : ElemType) (data : List Scalar) :
    Respects bounds world (create elem data) :=
  .of_stores rfl

theorem HostId.respects_create (text : String) : Respects bounds world (create text) :=
  .of_stores rfl

theorem BufferRef.respects_set (buffer : BufferRef) (position : Nat) (element : Scalar) :
    Respects bounds world (buffer.set position element) := by
  refine .writingBuffer ?_
  split
  · exact .pure _
  · exact .throw _

namespace View

variable {view : View}

theorem respects_make (buffer : BufferRef) (offset : Nat) (shape : List Nat) (strides : List Int) :
    Respects bounds world (make buffer offset shape strides) :=
  (Respects.of_looks buffer.looks_length).bind fun _ _ =>
    (Respects.ofExcept _).bind fun _ _ => .pure _

theorem respects_set (index : List Nat) (element : Scalar) :
    Respects bounds world (view.set index element) :=
  .bind_deciding fun position _ => view.buffer.respects_set position element

theorem respects_setLinear (place : Nat) (element : Scalar) :
    Respects bounds world (view.setLinear place element) :=
  .bind_deciding fun position _ => view.buffer.respects_set position element

end View

namespace Block

variable {block : Block}

theorem respects_withData {use : List Scalar → Op α}
    (each : ∀ elements world, Respects bounds world (use elements)) :
    Respects bounds world (block.withData use) := by
  unfold withData
  split
  · exact each _ world
  · exact .readingBuffer (each _ _)
  · exact .throw _

theorem respects_modifyData {use : List Scalar → Op (α × List Scalar)}
    (each : ∀ elements world, Respects bounds world (use elements)) :
    Respects bounds world (block.modifyData use) := by
  unfold modifyData
  split
  · exact (each _ world).bind fun _ _ => .pure _
  · refine Respects.bind (.writingBuffer ?_) fun _ _ => .pure _
    exact (each _ _).bind fun _ _ => .pure _
  · exact .throw _

theorem respects_get (position : Nat) : Respects bounds world (block.get position) := by
  unfold get
  split
  · exact .throw_bind _ _
  · refine block.respects_withData fun elements world => ?_
    split
    · exact .pure _
    · exact .throw _

theorem respects_set (position : Nat) (element : Scalar) :
    Respects bounds world (block.set position element) := by
  unfold set
  split
  · exact .throw_bind _ _
  · refine Respects.bind (respects_modifyData fun elements world => ?_) fun _ _ => .pure _
    split
    · exact .pure _
    · exact .throw _

theorem respects_copyAs (memory : Memory) : Respects bounds world (block.copyAs memory) := by
  unfold copyAs
  split
  · exact .throw _
  · exact .pure _
  · exact .throw _
  · exact (Respects.of_looks block.looks_toList).bind fun _ _ => .pure _

theorem respects_view : Respects bounds world block.view := by
  unfold view
  split
  · exact View.respects_make _ _ _ _
  · exact .throw _

theorem respects_ofBuffer (buffer : BufferRef) (shape : List Nat) (strides : List Int)
    (memory : Memory) : Respects bounds world (ofBuffer buffer shape strides memory) := by
  unfold Respects
  rw [ofBuffer_apply]
  refine Respects.bind_deciding fun size _ => ?_
  cases memory with
  | owned => exact Respects.bind (.readingBuffer (.pure _)) fun _ _ => .pure _
  | borrowed => exact .pure _

theorem respects_ofBufferShape (buffer : BufferRef) (shape : List Nat) (memory : Memory) :
    Respects bounds world (ofBufferShape buffer shape memory) :=
  .bind_deciding fun strides _ => respects_ofBuffer buffer shape strides memory

end Block

/-! ## Handles -/

namespace Handle

variable {handle : Handle}

theorem respects_create {entries : Entries Cell}
    (copied : ∀ key, entries.Hollow key → bounds.arises ⟨world.stores.next⟩ key) :
    Respects bounds world (create entries) :=
  Respects.bind (.pushStore copied) fun _ _ => .pure _

/-- What is overwritten as a value was one. -/
theorem respects_modifyValue {use : Value → Op (α × Value)} (key : String) (type : ValueType)
    (each : ∀ value world, Respects bounds world (use value)) :
    Respects bounds world (handle.modifyValue key type use) := by
  rw [modifyValue_eq]
  refine .writingStore (.bind_deciding fun value _ => (each value _).bind fun _ _ => .pure _) ?_
  intro written left ran
  obtain ⟨value, _, decided, overwriting⟩ := exists_of_bind_ok ran
  obtain ⟨used, _, _, finished⟩ := exists_of_bind_ok overwriting
  cases finished
  exact .overwrite (handle.find?_of_valueAt (Op.eq_ok_of_ofExcept decided)) used.2

/-- A cell that is overwritten may be emptied or filled. -/
theorem respects_modifyCell {use : Cell → Op (α × Cell)} (key : String)
    (each : ∀ cell world, Respects bounds world (use cell))
    (puts : ∀ cell world used left, use cell world = .ok used left →
      (used.2 = none → cell = none ∨ bounds.arises handle.store (handle.resolve key)) ∧
        (cell = none → used.2 = none ∨ bounds.ends handle.store (handle.resolve key))) :
    Respects bounds world (handle.modifyCell key use) := by
  refine .writingStore (.bind_deciding fun cell _ => (each cell _).bind fun _ _ => .pure _) ?_
  intro written left ran
  obtain ⟨cell, between, decided, overwriting⟩ := exists_of_bind_ok ran
  obtain ⟨used, _, made, finished⟩ := exists_of_bind_ok overwriting
  cases finished
  obtain ⟨empties, fills⟩ := puts cell between used _ made
  exact .insert_over (handle.find?_of_cell (Op.eq_ok_of_ofExcept decided)) empties fills

theorem respects_update {key : String}
    (fills : world.Hollow handle.store (handle.resolve key) →
      bounds.ends handle.store (handle.resolve key)) (value : Value) :
    Respects bounds world (handle.update key value) :=
  .writingPure (.insert_value value fills)

theorem respects_updateMany {values : List (String × Value)}
    (fills : ∀ item ∈ values, world.Hollow handle.store (handle.resolve item.1) →
      bounds.ends handle.store (handle.resolve item.1)) :
    Respects bounds world (handle.updateMany values) := by
  induction values generalizing world with
  | nil => exact .pure _
  | cons item rest ih =>
      refine (respects_update (fills item (.head _)) item.2).bind_ran fun _ left ran => ih ?_
      intro other member hollow
      -- Storing a value has made nothing hollow.
      refine fills other (.tail _ member) ?_
      rw [update, StoreId.writing_pure] at ran
      split at ran
      · cases ran
        rw [World.Hollow, World.entries_setEntries, if_pos rfl, Bounds.hollow_insert_iff] at hollow
        split at hollow
        · cases hollow
        · exact hollow
      · cases ran

theorem respects_insertDefault (key : String) (value : Value) :
    Respects bounds world (handle.insertDefault key value) := by
  have program : handle.insertDefault key value = handle.store.writing fun entries =>
      pure (if entries.contains (handle.resolve key) then (false, entries)
        else (true, entries.insert (handle.resolve key) (some value))) := by
    unfold insertDefault
    congr
    funext entries
    dsimp only
    split <;> rfl
  rw [program]
  refine .writingPure ?_
  split
  · exact .refl _
  · rename_i missing
    refine .insert_value value fun hollow => absurd ?_ missing
    rw [Entries.contains, hollow]
    rfl

theorem respects_insertDefaultMany (values : List (String × Value)) :
    Respects bounds world (handle.insertDefaultMany values) := by
  induction values generalizing world with
  | nil => exact .pure _
  | cons item rest ih =>
      exact (respects_insertDefault item.1 item.2).bind fun _ _ => ih.bind fun _ _ => .pure _

theorem respects_getAny (key : String) : Respects bounds world (handle.getAny key) := by
  refine (respects_modifyCell key (fun cell _ => .pure (cell, cell)) ?_).bind fun cell _ => ?_
  · intro cell _ used _ ran
    cases ran
    exact ⟨.inl, .inl⟩
  · cases cell with
    | some value => exact .pure value
    | none => exact .throw _

theorem respects_eraseKey {store : StoreId} {key : String} (erased : bounds.ends store key) :
    Respects bounds world (eraseKey store key) :=
  .writingPure (.erase erased)

theorem respects_eraseSubtree {store : StoreId} {scope : String}
    (erased : ∀ key, Path.InSubtree scope key → bounds.ends store key) :
    Respects bounds world (eraseSubtree store scope) :=
  .writingPure (.prune erased)

/-- What is listed under keys made of relative ones is what is reached. -/
theorem exists_origin (handle : Handle) (place : String → String) {entries : Entries Cell}
    {found : String} {cell : Cell}
    (member : (found, cell) ∈ (handle.relativeEntries entries).map fun entry =>
      (place entry.1, entry.2)) :
    ∃ origin, (origin, cell) ∈ handle.reach entries ∧
      found = place (handle.location.relative origin) := by
  rw [relativeEntries, List.map_map] at member
  obtain ⟨⟨origin, held⟩, reached, same⟩ := List.mem_map.1 member
  cases same
  exact ⟨origin, reached, rfl⟩

/-- What is grafted is as hollow as what is reached where it comes from. -/
theorem respects_graft {key : String} {other : Handle}
    (empties : ∀ origin, (origin, none) ∈ other.reach (world.entries other.store) →
      bounds.arises handle.store (handle.resolve (key ++ other.location.relative origin)))
    (fills : ∀ origin value, (origin, some value) ∈ other.reach (world.entries other.store) →
      bounds.ends handle.store (handle.resolve (key ++ other.location.relative origin))) :
    Respects bounds world (handle.graft key other) := by
  let placed (written : String) : String := handle.resolve (key ++ written)
  refine Respects.bind_ran (.readingStore (.pure _)) fun incoming left ran => ?_
  rw [StoreId.reading_pure] at ran
  split at ran
  · cases ran
    refine .writingPure (.insertAll (fun found member => ?_) fun found value member => ?_)
    · obtain ⟨origin, reached, rfl⟩ := other.exists_origin placed member
      exact empties origin reached
    · obtain ⟨origin, reached, rfl⟩ := other.exists_origin placed member
      exact fills origin value reached
  · cases ran

theorem respects_copy {refusal : Failure}
    (copied : ∀ key, (handle.copied (world.entries handle.store)).Hollow key →
      bounds.arises ⟨world.stores.next⟩ key) :
    Respects bounds world (handle.copy refusal) := by
  refine Respects.bind_ran (.readingStore (.pure _)) fun entries left ran => ?_
  rw [StoreId.reading_pure] at ran
  split at ran
  · cases ran
    exact respects_create copied
  · cases ran

theorem respects_eraseEntry {entry : EntryRef}
    (erased : handle.store = entry.store → bounds.ends entry.store entry.key) :
    Respects bounds world (handle.eraseEntry entry) := by
  unfold eraseEntry
  split
  · rename_i same
    exact respects_eraseKey (same ▸ erased same)
  · exact .throw _

theorem respects_eraseRange {cursor : Cursor}
    (erased : handle.store = cursor.store →
      ∀ key ∈ cursor.remaining (world.entries cursor.store), bounds.ends cursor.store key) :
    Respects bounds world (handle.eraseRange cursor) := by
  unfold eraseRange
  split
  · exact .throw_bind _ _
  · rename_i same
    have stored := not_not.mp same
    refine Respects.bind_ran (.readingStore (.pure _)) fun keys left ran => ?_
    rw [StoreId.reading_pure] at ran
    split at ran
    · cases ran
      refine .writingPure (.eraseAll fun key member => ?_)
      exact stored ▸ erased stored key member
    · cases ran

end Handle

/-! ## Entries -/

namespace EntryRef

variable {entry : EntryRef}

theorem respects_modifyValue {use : Value → Op (α × Value)} (type : ValueType)
    (each : ∀ value world, Respects bounds world (use value)) :
    Respects bounds world (entry.modifyValue type use) := by
  rw [modifyValue_eq]
  refine .writingStore (.bind_deciding fun value _ => (each value _).bind fun _ _ => .pure _) ?_
  intro written left ran
  obtain ⟨value, _, decided, overwriting⟩ := exists_of_bind_ok ran
  obtain ⟨used, _, _, finished⟩ := exists_of_bind_ok overwriting
  cases finished
  exact .overwrite (entry.find?_of_valueAt (Op.eq_ok_of_ofExcept decided)) used.2

theorem respects_set (fills : bounds.ends entry.store entry.key) (value : Value) :
    Respects bounds world (entry.set value) := by
  refine .writingStore (Respects.bind_settled (discard_settled (Op.ofExcept_apply _ _)) ?_) ?_
  · exact fun _ _ => .pure _
  · intro written left ran
    obtain ⟨_, _, _, finished⟩ := exists_of_bind_ok ran
    cases finished
    exact .insert_value value fun _ => fills

end EntryRef

theorem Handle.respects_snapshot (handle : Handle) : Respects bounds world handle.snapshot :=
  Respects.bind (.readingStore (.pure _)) fun keys _ =>
    .mapM keys fun _ _ => (Respects.of_looks (EntryRef.looks_snapshot _)).bind fun _ _ => .pure _

end PathStore
