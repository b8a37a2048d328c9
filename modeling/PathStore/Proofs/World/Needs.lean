import PathStore.Proofs.Array.Needs
import PathStore.Proofs.Entries.Precedence

/-!
# Which claims stores need

An operation through a handle, an entry or a cursor needs a claim on its store, for reading or for
writing, and what uses a value that it finds there may need further claims on buffers. It is refused
exactly when one of them conflicts with one that is held, and an error changes nothing.
-/

namespace PathStore

open Failure Conduct

variable {world : World}

/-! ## Stores -/

/-- What is found under a key is what is stored there. -/
theorem Entries.insert_found {entries : Entries Cell} {key : String} {cell : Cell}
    (found : entries.find? key = some cell) : entries.insert key cell = entries := by
  refine ext_find? fun other => ?_
  rw [find?_insert]
  split
  · rename_i same
    rw [same, found]
  · rfl

namespace World

/-- Putting back what is there cannot be told. -/
theorem alike_setEntries (id : StoreId) : world.Alike (world.setEntries id (world.entries id)) where
  contents target := by
    cases target with
    | store other =>
        simp only [SameAt, entries_setEntries]
        split
        · rename_i same
          rw [same]
        · rfl
    | buffer other => rfl
  hosts _ := rfl
  active := rfl
  grows := grows_setEntries id _

theorem grows_pushStore (entries : Entries Cell) :
    world.Grows { world with stores := world.stores.push entries } := by
  intro target made
  cases target with
  | store other =>
      change other.number < (world.stores.push entries).next
      rw [Heap.next_push]
      exact Nat.lt_succ_of_lt made
  | buffer other => exact made

/-- A new store is claimed by nobody. -/
theorem follows_pushStore (entries : Entries Cell) :
    world.Follows { world with stores := world.stores.push entries } where
  active := rfl
  held held _ made := by
    cases same : held.target with
    | buffer other => rfl
    | store other =>
        rw [same] at made
        simp [SameAt, World.entries, Nat.ne_of_lt made]
  grows := grows_pushStore entries

/-- A new store without entries cannot be told from none. -/
theorem alike_pushEmpty :
    world.Alike { world with stores := world.stores.push Entries.empty } where
  contents target := by
    cases target with
    | buffer other => rfl
    | store other =>
        simp only [SameAt, World.entries, Heap.read_push]
        split
        · rename_i same
          simp [same, Heap.read, Heap.next, default]
        · rfl
  hosts _ := rfl
  active := rfl
  grows := grows_pushStore _

end World

theorem StoreId.sure_create (entries : Entries Cell) : Sure (create entries) :=
  fun _ => .ok (World.follows_pushStore entries)

/-- What is decided on the entries of a store is put into the store. -/
theorem StoreId.writing_ok {α : Type} {id : StoreId} {use : Entries Cell → Op (α × Entries Cell)}
    {decided : Except Failure (α × Entries Cell)} {result : α} {left : World}
    (uses : use (world.entries id) = Op.ofExcept decided)
    (ran : id.writing use world = .ok result left) :
    ∃ entries, decided = .ok (result, entries) ∧ left = world.setEntries id entries := by
  rw [writing_apply, uses, Op.ofExcept_apply] at ran
  split at ran
  · cases decided with
    | error failure => cases ran
    | ok made =>
        cases ran
        exact ⟨made.2, rfl, rfl⟩
  · cases ran

/-- A value that is put back as it was found cannot be told. -/
theorem StoreId.alike_writing {α : Type} {id : StoreId} {key : String}
    {valueAt : Entries Cell → Except Failure Value} {change : Value → Except Failure (α × Value)}
    {result : α} {left : World}
    (stored : ∀ value, valueAt (world.entries id) = .ok value →
      (world.entries id).find? key = some (some value))
    (ran : id.writing
      (fun entries => Op.ofExcept (valueAt entries) >>= fun value =>
        Op.ofExcept (change value) >>= fun made =>
          pure (made.1, entries.insert key (some made.2))) world = .ok result left) :
    ∃ value after, change value = .ok (result, after) ∧ (after = value → world.Alike left) := by
  have uses : (Op.ofExcept (valueAt (world.entries id)) >>= fun value =>
      Op.ofExcept (change value) >>= fun made =>
        pure (made.1, (world.entries id).insert key (some made.2))) =
      Op.ofExcept (valueAt (world.entries id) >>= fun value => change value >>= fun made =>
        pure (made.1, (world.entries id).insert key (some made.2))) := by
    simp only [Op.ofExcept_bind]
    rfl
  obtain ⟨entries, decided, rfl⟩ := StoreId.writing_ok uses ran
  obtain ⟨value, found, changing⟩ := Except.bind_eq_ok_iff.mp decided
  obtain ⟨made, changed, same⟩ := Except.bind_eq_ok_iff.mp changing
  cases same
  refine ⟨value, made.2, changed, fun unchanged => ?_⟩
  rw [unchanged, Entries.insert_found (stored value found)]
  exact world.alike_setEntries id

/-- A cell that has a value of the requested type has that value. -/
theorem Cell.eq_of_expect {cell : Cell} {type : ValueType} {value : Value}
    (fits : Cell.expect cell type = .ok value) : cell = some value := by
  unfold Cell.expect Value.expect at fits
  split at fits
  · split at fits
    · cases fits
      rfl
    · cases fits
  · cases fits

/-! ## Handles -/

namespace Handle

variable {α : Type} (handle : Handle)

/-- The value of the requested type under a key. -/
def valueAt (entries : Entries Cell) (key : String) (type : ValueType) : Except Failure Value := do
  (← handle.cell entries key).expect type

theorem calm_valueAt (entries : Entries Cell) (key : String) (type : ValueType) :
    FailsOnly Calm (handle.valueAt entries key type) :=
  (handle.calm_cell entries key).bind fun cell => Cell.calm_expect cell type

theorem find?_of_valueAt {entries : Entries Cell} {key : String} {type : ValueType} {value : Value}
    (found : handle.valueAt entries key type = .ok value) :
    entries.find? (handle.resolve key) = some (some value) := by
  obtain ⟨cell, stored, fits⟩ := Except.bind_eq_ok_iff.mp found
  rw [Cell.eq_of_expect fits] at stored
  unfold Handle.cell at stored
  split at stored
  · rename_i held same
    cases stored
    exact same
  · cases stored

theorem withValue_eq (key : String) (type : ValueType) (use : Value → Op α) :
    handle.withValue key type use =
      handle.store.reading .busy fun entries =>
        Op.ofExcept (handle.valueAt entries key type) >>= use := by
  unfold withValue valueAt
  congr
  funext entries
  cases handle.cell entries key <;> rfl

theorem modifyValue_eq (key : String) (type : ValueType) (use : Value → Op (α × Value)) :
    handle.modifyValue key type use =
      handle.store.writing fun entries =>
        Op.ofExcept (handle.valueAt entries key type) >>= fun value =>
          use value >>= fun used =>
            pure (used.1, entries.insert (handle.resolve key) (some used.2)) := by
  unfold modifyValue valueAt
  congr
  funext entries
  cases handle.cell entries key <;> rfl

theorem sure_create (entries : Entries Cell) : Sure (create entries) :=
  (StoreId.sure_create entries).bind fun _ => .pure _

/-- What uses the value may need claims on buffers. -/
theorem conduct_withValue_needing {use : Value → Op α} {claims : Value → List Claim} (key : String)
    (type : ValueType) (buffers : ∀ value, OnBuffers (claims value))
    (each : ∀ value world, Conduct (claims value) world (use value)) :
    Conduct
      (⟨.store handle.store, .reading⟩ ::
        claimsOf (handle.valueAt (world.entries handle.store) key type).toOption claims)
      world (handle.withValue key type use) := by
  rw [withValue_eq]
  refine readingStore (.inl rfl) ((OnBuffers.claimsOf buffers).apart _) ?_
  exact bind_settled (Op.ofExcept_apply _ _) (handle.calm_valueAt _ key type) _
    fun value _ => each value _

theorem conduct_modifyValue_needing {use : Value → Op (α × Value)} {claims : Value → List Claim}
    (key : String) (type : ValueType) (buffers : ∀ value, OnBuffers (claims value))
    (each : ∀ value world, Conduct (claims value) world (use value)) :
    Conduct
      (⟨.store handle.store, .writing⟩ ::
        claimsOf (handle.valueAt (world.entries handle.store) key type).toOption claims)
      world (handle.modifyValue key type use) := by
  rw [modifyValue_eq]
  refine writingStore ((OnBuffers.claimsOf buffers).apart _) ?_
  exact bind_settled (Op.ofExcept_apply _ _) (handle.calm_valueAt _ key type) _
    fun value _ => (each value _).bind_sure fun _ => .pure _

theorem conduct_withValue {use : Value → Op α} (key : String) (type : ValueType)
    (each : ∀ value world, Conduct [] world (use value)) :
    Conduct [⟨.store handle.store, .reading⟩] world (handle.withValue key type use) := by
  have conduct : Conduct (⟨.store handle.store, .reading⟩ :: claimsOf _ fun _ => []) world
      (handle.withValue key type use) :=
    handle.conduct_withValue_needing key type (fun _ => OnBuffers.nil) each
  rwa [claimsOf_nil] at conduct

theorem conduct_modifyValue {use : Value → Op (α × Value)} (key : String) (type : ValueType)
    (each : ∀ value world, Conduct [] world (use value)) :
    Conduct [⟨.store handle.store, .writing⟩] world (handle.modifyValue key type use) := by
  have conduct : Conduct (⟨.store handle.store, .writing⟩ :: claimsOf _ fun _ => []) world
      (handle.modifyValue key type use) :=
    handle.conduct_modifyValue_needing key type (fun _ => OnBuffers.nil) each
  rwa [claimsOf_nil] at conduct

theorem conduct_withValueOr {use : Value → Op α} (key : String) (type : ValueType)
    (default : Value) (each : ∀ value world, Conduct [] world (use value)) :
    Conduct [⟨.store handle.store, .reading⟩] world (handle.withValueOr key type default use) := by
  refine readingStore (.inl rfl) (List.forall_mem_nil _) ?_
  split
  · exact bind_calm (Op.ofExcept_apply _ _) (Cell.calm_expect _ _) fun value _ => each value _
  · exact each default _

theorem conduct_modifyCell {use : Cell → Op (α × Cell)} (key : String)
    (each : ∀ cell world, Conduct [] world (use cell)) :
    Conduct [⟨.store handle.store, .writing⟩] world (handle.modifyCell key use) := by
  refine writingStore (List.forall_mem_nil _) ?_
  refine bind_calm (Op.ofExcept_apply _ _) (handle.calm_cell _ key) fun cell _ => ?_
  exact (each cell _).bind_sure fun _ => .pure _

theorem conduct_get (key : String) (type : ValueType) :
    Conduct [⟨.store handle.store, .reading⟩] world (handle.get key type) :=
  handle.conduct_withValue key type fun value _ => Conduct.pure value

theorem conduct_getOr (key : String) (type : ValueType) (default : Value) :
    Conduct [⟨.store handle.store, .reading⟩] world (handle.getOr key type default) :=
  handle.conduct_withValueOr key type default fun value _ => Conduct.pure value

/-- The cell is claimed for writing and put back as it was. -/
theorem alike_modifyCell {key : String} {cell : Cell} {left : World}
    (ran : handle.modifyCell key (fun cell => pure (cell, cell)) world = .ok cell left) :
    world.Alike left := by
  rw [modifyCell, StoreId.writing_apply] at ran
  split at ran
  · cases found : handle.cell (world.entries handle.store) key with
    | error failure => rw [found] at ran; cases ran
    | ok held =>
        rw [found] at ran
        cases ran
        unfold Handle.cell at found
        split at found
        · rename_i stored
          cases found
          dsimp only
          rw [Entries.insert_found stored]
          exact world.alike_setEntries handle.store
        · cases found
  · cases ran

theorem conduct_getAny (key : String) :
    Conduct [⟨.store handle.store, .writing⟩] world (handle.getAny key) := by
  refine bind_quiet (handle.conduct_modifyCell key fun cell _ => Conduct.pure (cell, cell))
    (fun _ _ ran => handle.alike_modifyCell ran) fun cell left => ?_
  cases cell with
  | some value => exact Conduct.pure value
  | none => exact Conduct.throw nofun

theorem conduct_update (key : String) (value : Value) :
    Conduct [⟨.store handle.store, .writing⟩] world (handle.update key value) :=
  writingStore (List.forall_mem_nil _) (Conduct.pure _)

theorem conduct_insertDefault (key : String) (value : Value) :
    Conduct [⟨.store handle.store, .writing⟩] world (handle.insertDefault key value) := by
  refine writingStore (List.forall_mem_nil _) ?_
  dsimp only
  split
  · exact Conduct.pure _
  · exact Conduct.pure _

theorem conduct_typeName (key : String) :
    Conduct [⟨.store handle.store, .reading⟩] world (handle.typeName key) :=
  readingStore (.inl rfl) (List.forall_mem_nil _) <|
    bind_calm (Op.ofExcept_apply _ _) (handle.calm_cell _ key) fun _ _ => Conduct.pure _

theorem conduct_isStored (key : String) :
    Conduct [⟨.store handle.store, .reading⟩] world (handle.isStored key) :=
  readingStore (.inl rfl) (List.forall_mem_nil _) (Conduct.pure _)

theorem conduct_size : Conduct [⟨.store handle.store, .reading⟩] world handle.size :=
  readingStore (.inl rfl) (List.forall_mem_nil _) (Conduct.pure _)

theorem conduct_isEmpty : Conduct [⟨.store handle.store, .reading⟩] world handle.isEmpty :=
  readingStore (.inl rfl) (List.forall_mem_nil _) (Conduct.pure _)

theorem conduct_keys : Conduct [⟨.store handle.store, .reading⟩] world handle.keys :=
  readingStore (.inl rfl) (List.forall_mem_nil _) (Conduct.pure _)

theorem conduct_eraseKey (store : StoreId) (key : String) :
    Conduct [⟨.store store, .writing⟩] world (eraseKey store key) :=
  writingStore (List.forall_mem_nil _) (Conduct.pure _)

theorem conduct_eraseSubtree (store : StoreId) (scope : String) :
    Conduct [⟨.store store, .writing⟩] world (eraseSubtree store scope) :=
  writingStore (List.forall_mem_nil _) (Conduct.pure _)

/-- The other store is read first, which is over before this one is written. -/
theorem conduct_graft (key : String) (other : Handle) :
    Conduct [⟨.store other.store, .reading⟩, ⟨.store handle.store, .writing⟩] world
      (handle.graft key other) :=
  after_reading (.inl rfl) (writingStore (List.forall_mem_nil _) (Conduct.pure _))

theorem conduct_copy {refusal : Failure} (refuses : refusal.Refuses) :
    Conduct [⟨.store handle.store, .reading⟩] world (handle.copy refusal) :=
  after_reading refuses <|
    (of_sure (StoreId.sure_create _)).bind_sure fun _ => .pure _

/-- The claim on a store that an entry or a range of entries has to lie in. -/
def eraseClaims (store : StoreId) (claims : List Claim) : List Claim :=
  if handle.store = store then claims else []

theorem conduct_eraseEntry (entry : EntryRef) :
    Conduct (handle.eraseClaims entry.store [⟨.store handle.store, .writing⟩]) world
      (handle.eraseEntry entry) := by
  unfold eraseEntry eraseClaims
  split
  · exact conduct_eraseKey _ _
  · exact Conduct.throw (calm_invalid _)

/-- What is left of the range is read first, which is over before the store is written. -/
theorem conduct_eraseRange (cursor : Cursor) :
    Conduct
      (handle.eraseClaims cursor.store
        [⟨.store cursor.store, .reading⟩, ⟨.store handle.store, .writing⟩])
      world (handle.eraseRange cursor) := by
  unfold eraseRange
  split
  · rename_i foreign
    rw [eraseClaims, if_neg foreign]
    exact Conduct.throw_bind (calm_invalid _)
  · rename_i same
    rw [eraseClaims, if_pos (not_not.mp same)]
    exact after_reading (.inr rfl) (writingStore (List.forall_mem_nil _) (Conduct.pure _))

/-! ## Several values at once -/

/-- The entries after several values are stored. -/
def afterUpdates (entries : Entries Cell) (values : List (String × Value)) : Entries Cell :=
  entries.insertAll (values.map fun item => (handle.resolve item.1, some item.2))

/-- The entries after several values are stored, each unless its key has an entry. -/
def afterDefaults (entries : Entries Cell) (values : List (String × Value)) : Entries Cell :=
  values.foldl
    (fun entries item =>
      if entries.contains (handle.resolve item.1) then entries
      else entries.insert (handle.resolve item.1) (some item.2))
    entries

theorem afterDefaults_eq (entries : Entries Cell) (values : List (String × Value)) :
    handle.afterDefaults entries values =
      entries.insertDefaults (values.map fun item => (handle.resolve item.1, some item.2)) := by
  rw [afterDefaults, Entries.insertDefaults, List.foldl_map]
  rfl

theorem afterDefaults_cons (entries : Entries Cell) (item : String × Value)
    (rest : List (String × Value)) :
    handle.afterDefaults entries (item :: rest) =
      handle.afterDefaults (entries.insertDefault (handle.resolve item.1) (some item.2)) rest := rfl

/-- Once the first value can be stored, all can. -/
theorem updateMany_cons_apply (item : String × Value) (rest : List (String × Value))
    (admits : world.admits ⟨.store handle.store, .writing⟩) :
    handle.updateMany (item :: rest) world =
      .ok () (world.setEntries handle.store
        (handle.afterUpdates (world.entries handle.store) (item :: rest))) := by
  induction rest generalizing item world with
  | nil => exact bind_of_ok ((StoreId.writing_pure _ _ world).trans (if_pos admits))
  | cons next rest ih =>
      let stored := world.setEntries handle.store
        ((world.entries handle.store).insert (handle.resolve item.1) (some item.2))
      have ran : handle.update item.1 item.2 world = .ok () stored :=
        (StoreId.writing_pure _ _ world).trans (if_pos admits)
      have further := @ih stored next admits
      rw [updateMany, bind_of_ok ran, further]
      simp [stored, afterUpdates, Entries.insertAll]

theorem updateMany_admitted (values : List (String × Value))
    (admits : world.admits ⟨.store handle.store, .writing⟩) :
    ∃ left, handle.updateMany values world = .ok () left ∧ world.Follows left ∧
      left.entries handle.store = handle.afterUpdates (world.entries handle.store) values := by
  cases values with
  | nil => exact ⟨world, rfl, .refl world, rfl⟩
  | cons item rest =>
      exact ⟨_, handle.updateMany_cons_apply item rest admits, World.follows_setEntries admits _,
        by rw [World.entries_setEntries, if_pos rfl]⟩

theorem insertDefault_apply (key : String) (value : Value)
    (admits : world.admits ⟨.store handle.store, .writing⟩) :
    handle.insertDefault key value world =
      .ok (!(world.entries handle.store).contains (handle.resolve key))
        (world.setEntries handle.store
          ((world.entries handle.store).insertDefault (handle.resolve key) (some value))) := by
  rw [insertDefault, StoreId.writing_apply, if_pos admits]
  cases stored : (world.entries handle.store).contains (handle.resolve key) <;>
    simp [Entries.insertDefault, stored]

/-- As many defaults are stored as there are more entries afterwards. -/
theorem insertDefaultMany_cons_apply (item : String × Value) (rest : List (String × Value))
    (admits : world.admits ⟨.store handle.store, .writing⟩) :
    ∃ count, handle.insertDefaultMany (item :: rest) world =
        .ok count (world.setEntries handle.store
          (handle.afterDefaults (world.entries handle.store) (item :: rest))) ∧
      (world.entries handle.store).size + count =
        (handle.afterDefaults (world.entries handle.store) (item :: rest)).size := by
  induction rest generalizing item world with
  | nil =>
      refine ⟨0 + (!(world.entries handle.store).contains (handle.resolve item.1)).toNat, ?_, ?_⟩
      · rw [insertDefaultMany, bind_of_ok (handle.insertDefault_apply item.1 item.2 admits),
          afterDefaults_cons]
        rfl
      · rw [Nat.zero_add, ← Entries.size_insertDefault _ _ (some item.2), afterDefaults_cons]
        rfl
  | cons next rest ih =>
      have ran := handle.insertDefault_apply item.1 item.2 admits
      have grown := (world.entries handle.store).size_insertDefault (handle.resolve item.1)
        (some item.2)
      obtain ⟨count, further, more⟩ := @ih (world.setEntries handle.store _) next admits
      rw [World.setEntries_setEntries, World.entries_setEntries, if_pos rfl,
        ← afterDefaults_cons] at further
      rw [World.entries_setEntries, if_pos rfl, ← afterDefaults_cons, grown, Nat.add_assoc,
        Nat.add_comm _ count] at more
      refine ⟨count + (!(world.entries handle.store).contains (handle.resolve item.1)).toNat, ?_,
        more⟩
      rw [insertDefaultMany, bind_of_ok ran, bind_of_ok further]
      rfl

theorem insertDefaultMany_admitted (values : List (String × Value))
    (admits : world.admits ⟨.store handle.store, .writing⟩) :
    ∃ stored left, handle.insertDefaultMany values world = .ok stored left ∧ world.Follows left ∧
      left.entries handle.store = handle.afterDefaults (world.entries handle.store) values := by
  cases values with
  | nil => exact ⟨0, world, rfl, .refl world, rfl⟩
  | cons item rest =>
      obtain ⟨count, ran, -⟩ := handle.insertDefaultMany_cons_apply item rest admits
      exact ⟨count, _, ran, World.follows_setEntries admits _,
        by rw [World.entries_setEntries, if_pos rfl]⟩

/-- Without values nothing is claimed. -/
def writeClaims {γ : Type} (values : List γ) : List Claim :=
  if values.isEmpty then [] else [⟨.store handle.store, .writing⟩]

theorem writeClaims_congr {γ δ : Type} {left : List γ} {right : List δ}
    (same : left.length = right.length) : handle.writeClaims left = handle.writeClaims right := by
  simp only [writeClaims, List.isEmpty_iff_length_eq_zero, same]

theorem conduct_updateMany (values : List (String × Value)) :
    Conduct (handle.writeClaims values) world (handle.updateMany values) := by
  cases values with
  | nil => exact Conduct.pure _
  | cons item rest =>
      change Conduct [⟨.store handle.store, .writing⟩] world (handle.updateMany (item :: rest))
      by_cases admitted : world.AdmitsAll [⟨.store handle.store, .writing⟩]
      · obtain ⟨left, ran, follows, -⟩ :=
          handle.updateMany_admitted (item :: rest) (World.admitsAll_cons_iff.mp admitted).1
        unfold Conduct
        rw [ran]
        exact .ok admitted follows
      · exact (handle.conduct_update item.1 item.2).bind_of_conflict admitted

theorem conduct_insertDefaultMany (values : List (String × Value)) :
    Conduct (handle.writeClaims values) world (handle.insertDefaultMany values) := by
  cases values with
  | nil => exact Conduct.pure _
  | cons item rest =>
      change Conduct [⟨.store handle.store, .writing⟩] world
        (handle.insertDefaultMany (item :: rest))
      by_cases admitted : world.AdmitsAll [⟨.store handle.store, .writing⟩]
      · obtain ⟨stored, left, ran, follows, -⟩ :=
          handle.insertDefaultMany_admitted (item :: rest) (World.admitsAll_cons_iff.mp admitted).1
        unfold Conduct
        rw [ran]
        exact .ok admitted follows
      · exact (handle.conduct_insertDefault item.1 item.2).bind_of_conflict admitted

end Handle

/-! ## Entries and cursors -/

namespace EntryRef

variable {α : Type} (entry : EntryRef)

/-- The value of the requested type that the entry has. -/
def valueAt (entries : Entries Cell) (type : ValueType) : Except Failure Value := do
  (← entry.cell entries).expect type

theorem calm_valueAt (entries : Entries Cell) (type : ValueType) :
    FailsOnly Calm (entry.valueAt entries type) :=
  (entry.calm_cell entries).bind fun cell => Cell.calm_expect cell type

theorem find?_of_valueAt {entries : Entries Cell} {type : ValueType} {value : Value}
    (found : entry.valueAt entries type = .ok value) :
    entries.find? entry.key = some (some value) := by
  obtain ⟨cell, stored, fits⟩ := Except.bind_eq_ok_iff.mp found
  rw [Cell.eq_of_expect fits] at stored
  unfold EntryRef.cell at stored
  split at stored
  · rename_i held same
    cases stored
    exact same
  · cases stored

theorem withValue_eq (type : ValueType) (use : Value → Op α) :
    entry.withValue type use =
      entry.store.reading .busy fun entries => Op.ofExcept (entry.valueAt entries type) >>= use := by
  unfold withValue withCell valueAt
  congr
  funext entries
  cases entry.cell entries <;> rfl

theorem modifyValue_eq (type : ValueType) (use : Value → Op (α × Value)) :
    entry.modifyValue type use =
      entry.store.writing fun entries =>
        Op.ofExcept (entry.valueAt entries type) >>= fun value =>
          use value >>= fun used => pure (used.1, entries.insert entry.key (some used.2)) := by
  unfold modifyValue valueAt
  congr
  funext entries
  cases entry.cell entries <;> rfl

theorem conduct_withCell {use : Cell → Op α} (each : ∀ cell world, Conduct [] world (use cell)) :
    Conduct [⟨.store entry.store, .reading⟩] world (entry.withCell use) :=
  readingStore (.inl rfl) (List.forall_mem_nil _) <|
    bind_calm (Op.ofExcept_apply _ _) (entry.calm_cell _) fun cell _ => each cell _

/-- What uses the value may need claims on buffers. -/
theorem conduct_withValue_needing {use : Value → Op α} {claims : Value → List Claim} (type : ValueType)
    (buffers : ∀ value, OnBuffers (claims value))
    (each : ∀ value world, Conduct (claims value) world (use value)) :
    Conduct
      (⟨.store entry.store, .reading⟩ ::
        claimsOf (entry.valueAt (world.entries entry.store) type).toOption claims)
      world (entry.withValue type use) := by
  rw [withValue_eq]
  refine readingStore (.inl rfl) ((OnBuffers.claimsOf buffers).apart _) ?_
  exact bind_settled (Op.ofExcept_apply _ _) (entry.calm_valueAt _ type) _
    fun value _ => each value _

theorem conduct_modifyValue_needing {use : Value → Op (α × Value)} {claims : Value → List Claim}
    (type : ValueType) (buffers : ∀ value, OnBuffers (claims value))
    (each : ∀ value world, Conduct (claims value) world (use value)) :
    Conduct
      (⟨.store entry.store, .writing⟩ ::
        claimsOf (entry.valueAt (world.entries entry.store) type).toOption claims)
      world (entry.modifyValue type use) := by
  rw [modifyValue_eq]
  refine writingStore ((OnBuffers.claimsOf buffers).apart _) ?_
  exact bind_settled (Op.ofExcept_apply _ _) (entry.calm_valueAt _ type) _
    fun value _ => (each value _).bind_sure fun _ => .pure _

theorem conduct_withValue {use : Value → Op α} (type : ValueType)
    (each : ∀ value world, Conduct [] world (use value)) :
    Conduct [⟨.store entry.store, .reading⟩] world (entry.withValue type use) := by
  have conduct : Conduct (⟨.store entry.store, .reading⟩ :: claimsOf _ fun _ => []) world
      (entry.withValue type use) :=
    entry.conduct_withValue_needing type (fun _ => OnBuffers.nil) each
  rwa [claimsOf_nil] at conduct

theorem conduct_modifyValue {use : Value → Op (α × Value)} (type : ValueType)
    (each : ∀ value world, Conduct [] world (use value)) :
    Conduct [⟨.store entry.store, .writing⟩] world (entry.modifyValue type use) := by
  have conduct : Conduct (⟨.store entry.store, .writing⟩ :: claimsOf _ fun _ => []) world
      (entry.modifyValue type use) :=
    entry.conduct_modifyValue_needing type (fun _ => OnBuffers.nil) each
  rwa [claimsOf_nil] at conduct

theorem conduct_typeName : Conduct [⟨.store entry.store, .reading⟩] world entry.typeName :=
  entry.conduct_withCell fun _ _ => Conduct.pure _

theorem conduct_value (type : ValueType) :
    Conduct [⟨.store entry.store, .reading⟩] world (entry.value type) :=
  entry.conduct_withValue type fun value _ => Conduct.pure value

theorem conduct_anyValue : Conduct [⟨.store entry.store, .reading⟩] world entry.anyValue := by
  refine bind_quiet (entry.conduct_withCell fun cell _ => Conduct.pure cell)
    (fun cell left ran => ?_) fun cell left => ?_
  · rw [(entry.looks_withCell fun _ => .pure _).left_eq ran]
    exact .refl world
  · cases cell with
    | some value => exact Conduct.pure value
    | none => exact Conduct.throw nofun

theorem conduct_set (value : Value) :
    Conduct [⟨.store entry.store, .writing⟩] world (entry.set value) := by
  refine writingStore (List.forall_mem_nil _) ?_
  have calm := (entry.calm_cell (world.entries entry.store)).map fun _ => ()
  exact bind_calm (discard_settled (Op.ofExcept_apply _ _)) calm fun _ _ => Conduct.pure _

end EntryRef

namespace Cursor

variable (cursor : Cursor)

theorem conduct_stepWith (step : Cursor → Entries Cell → Option (String × Cursor)) :
    Conduct [⟨.store cursor.store, .reading⟩] world (cursor.stepWith step) := by
  refine readingStore (.inr rfl) (List.forall_mem_nil _) ?_
  split
  · exact Conduct.pure _
  · exact Conduct.pure _

theorem conduct_collect : Conduct [⟨.store cursor.store, .reading⟩] world cursor.collect :=
  readingStore (.inr rfl) (List.forall_mem_nil _) (Conduct.pure _)

theorem conduct_collectBack : Conduct [⟨.store cursor.store, .reading⟩] world cursor.collectBack :=
  readingStore (.inr rfl) (List.forall_mem_nil _) (Conduct.pure _)

end Cursor

/-- Once the keys are read, what the entries say is read off one by one. -/
theorem Handle.conduct_snapshot (handle : Handle) :
    Conduct [⟨.store handle.store, .reading⟩] world handle.snapshot :=
  after_reading (.inr rfl) <| of_sure <|
    Sure.mapM _ fun _ => (EntryRef.looks_snapshot _).sure.bind fun _ => .pure _

end PathStore
