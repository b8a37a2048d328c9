import PathStore.Proofs.World.Inquiries

/-!
# Dealing with one key of a store

A program that deals with one key of a store looks at what stands there, and may let something else or
nothing stand there; the rest of the store is left alone. Two such programs that deal with different
keys can be run in either order, unless what they do in between looks at the store itself or changes
something else.
-/

namespace PathStore

open Op

/-! ## What stands under a key -/

namespace Entries

variable {α : Type} {key other : String}

/-- Let a value stand under a key, or nothing. -/
def assign (entries : Entries α) (key : String) : Option α → Entries α
  | some value => entries.insert key value
  | none => entries.erase key

@[simp] theorem find?_assign (entries : Entries α) (key other : String) (held : Option α) :
    (entries.assign key held).find? other = if other = key then held else entries.find? other := by
  cases held with
  | none => exact find?_erase entries key other
  | some value => exact find?_insert entries key other value

theorem assign_comm (entries : Entries α) (different : other ≠ key) (held further : Option α) :
    (entries.assign key held).assign other further =
      (entries.assign other further).assign key held := by
  apply ext_find?
  intro third
  simp only [find?_assign]
  by_cases same : third = key
  · rw [if_pos same, if_pos same, if_neg (same ▸ Ne.symm different)]
  · rw [if_neg same, if_neg same]

end Entries

namespace World

variable {world : World} {store : StoreId} {key other : String}

/-- The world with something else under a key of a store, if anything is put there. -/
def put (world : World) (store : StoreId) (key : String) : Option (Option Cell) → World
  | some held => world.setEntries store ((world.entries store).assign key held)
  | none => world

@[simp] theorem active_put (world : World) (store : StoreId) (key : String)
    (change : Option (Option Cell)) : (world.put store key change).active = world.active := by
  cases change <;> rfl

theorem acquire_put (world : World) (store : StoreId) (key : String)
    (change : Option (Option Cell)) (claim : Claim) :
    (world.put store key change).acquire claim = (world.acquire claim).put store key change := by
  cases change <;> rfl

/-- What stands under one key stays when something is put under another one. -/
theorem find?_put (world : World) (store : StoreId) (different : other ≠ key)
    (change : Option (Option Cell)) :
    ((world.put store key change).entries store).find? other =
      (world.entries store).find? other := by
  cases change with
  | none => rfl
  | some held => rw [put, entries_setEntries, if_pos rfl, Entries.find?_assign, if_neg different]

theorem put_comm (world : World) (store : StoreId) (different : other ≠ key)
    (change further : Option (Option Cell)) :
    (world.put store key change).put store other further =
      (world.put store other further).put store key change := by
  cases change with
  | none => rfl
  | some held =>
      cases further with
      | none => rfl
      | some next =>
          simp only [put, entries_setEntries, if_pos, setEntries_setEntries]
          rw [Entries.assign_comm _ different]

end World

/-! ## Programs in either order -/

namespace Op

variable {α β : Type} {program : Op α} {world left : World}

/-- What a program tells, whatever it leaves behind. -/
def told (program : Op α) (world : World) : Except Failure α :=
  match program world with
  | .ok result _ => .ok result
  | .error failure _ => .error failure

theorem told_of_settled {decided : Except Failure α} (ran : program world = settled decided left) :
    program.told world = decided := by
  rw [told, ran]
  cases decided <;> rfl

theorem leaves_of_settled {decided : Except Failure α}
    (ran : program world = settled decided left) : program.leaves world = left := by
  rw [leaves, ran]
  cases decided <;> rfl

/-- Two programs can be run in either order: neither changes what the other one tells, and the world
is the same in the end. -/
structure Commutes (first : Op α) (second : Op β) (world : World) : Prop where
  first_told : first.told (second.leaves world) = first.told world
  second_told : second.told (first.leaves world) = second.told world
  leaves_eq : second.leaves (first.leaves world) = first.leaves (second.leaves world)

/-- Two programs end alike, but for what they fail with where something is absent. -/
def AlikeBut (absent missing : Failure) (first second : Op α) (world : World) : Prop :=
  first world = second world ∨
    first world = .error absent world ∧ second world = .error missing world

/-! ## Programs that keep away from a store -/

/-- As long as a store is claimed, the program changes nothing, and what it tells does not depend on
what the store holds. -/
def Aloof (store : StoreId) (mode : Mode) (program : Op α) : Prop :=
  ∀ world : World, ⟨.store store, mode⟩ ∈ world.active →
    ∃ decided, program world = settled decided world ∧
      ∀ entries, program (world.setEntries store entries) =
        settled decided (world.setEntries store entries)

namespace Aloof

variable {store : StoreId} {mode : Mode}

theorem pure (result : α) : Aloof store mode (Pure.pure result : Op α) :=
  fun _ _ => ⟨.ok result, rfl, fun _ => rfl⟩

theorem throw (failure : Failure) : Aloof store mode (MonadExcept.throw failure : Op α) :=
  fun _ _ => ⟨.error failure, rfl, fun _ => rfl⟩

theorem ofExcept (decided : Except Failure α) : Aloof store mode (Op.ofExcept decided) := by
  cases decided with
  | ok result => exact pure result
  | error failure => exact throw failure

theorem bind {next : α → Op β} (first : Aloof store mode program)
    (rest : ∀ result, Aloof store mode (next result)) : Aloof store mode (program >>= next) := by
  intro world held
  obtain ⟨decided, once, again⟩ := first world held
  cases decided with
  | error failure =>
      exact ⟨.error failure, bind_of_error once, fun entries => bind_of_error (again entries)⟩
  | ok result =>
      obtain ⟨further, begun, continued⟩ := rest result world held
      exact ⟨further, (bind_of_ok once).trans begun,
        fun entries => (bind_of_ok (again entries)).trans (continued entries)⟩

theorem attempt (aloof : Aloof store mode program) : Aloof store mode program.attempt := by
  intro world held
  obtain ⟨decided, once, again⟩ := aloof world held
  exact ⟨attempted decided, attempt_settled once, fun entries => attempt_settled (again entries)⟩

/-- What only reads a buffer keeps away from all stores. -/
theorem of_reads {id : BufferId} (reads : Reads (.buffer id) program) :
    Aloof store mode program := by
  intro world _
  obtain ⟨decided, ran⟩ := reads.exists_settled world
  refine ⟨decided, ran, fun entries => ?_⟩
  obtain ⟨same, once, again⟩ := reads world (world.setEntries store entries) rfl rfl
  rw [ran] at once
  rw [again]
  cases decided <;> cases same <;> cases once <;> rfl

/-- While the store is claimed, it makes no difference what is put under a key of it. -/
theorem exists_put (aloof : Aloof store mode program) (world : World) :
    ∃ decided, ∀ key change, program ((world.acquire ⟨.store store, mode⟩).put store key change) =
      settled decided ((world.acquire ⟨.store store, mode⟩).put store key change) := by
  obtain ⟨decided, ran, again⟩ := aloof (world.acquire ⟨.store store, mode⟩) List.mem_cons_self
  refine ⟨decided, fun key change => ?_⟩
  cases change with
  | none => exact ran
  | some held => exact again _

end Aloof

end Op

section Snapshots

variable {store : StoreId} {mode : Mode}

theorem View.aloof_snapshot (view : View) : Op.Aloof store mode view.snapshot := by
  have listed : Op.Aloof store mode view.toList := .of_reads (Asks.viewToList view).reads
  exact listed.attempt.bind fun _ => .pure _

theorem Block.aloof_snapshot (block : Block) : Op.Aloof store mode block.snapshot := by
  have listed : Op.Aloof store mode block.toList := by
    cases storage : block.storage with
    | borrowed buffer => exact .of_reads (Asks.blockToList block storage).reads
    | owned data =>
        rw [Block.toList, Block.withData, storage]
        exact .pure _
    | released =>
        rw [Block.toList, Block.withData, storage]
        exact .throw _
  exact listed.attempt.bind fun _ => .pure _

/-- Whoever reads out a value keeps away from all stores. -/
theorem Value.aloof_snapshot (value : Value) : Op.Aloof store mode value.snapshot := by
  cases value with
  | scalar datum => exact .pure _
  | view array =>
      rw [Value.snapshot, ← bind_pure_comp]
      exact array.aloof_snapshot.bind fun _ => .pure _
  | block array =>
      rw [Value.snapshot, ← bind_pure_comp]
      exact array.aloof_snapshot.bind fun _ => .pure _

end Snapshots

/-! ## Dealing with what stands under a key -/

/-- What can be done with one key: what stands there is looked at, or something is put there, or
nothing. -/
inductive Dealing (ρ : Type) where
  | looks (use : Option Cell → Op ρ)
  | puts (use : Option Cell → Op (ρ × Option Cell))

namespace Dealing

variable {ρ σ : Type} {store : StoreId} {key : String} {world : World}

/-- Deal with a canonical key of a store. -/
def run (store : StoreId) (key : String) : Dealing ρ → Op ρ
  | .looks use => store.reading .busy fun entries => use (entries.find? key)
  | .puts use => store.writing fun entries => do
    let (result, held) ← use (entries.find? key)
    return (result, entries.assign key held)

/-- The programs that are run on what stands under the key keep away from the store. -/
def Aloof (store : StoreId) : Dealing ρ → Prop
  | .looks use => ∀ found, Op.Aloof store .reading (use found)
  | .puts use => ∀ found, Op.Aloof store .writing (use found)

/-- A dealing that keeps away from the store is decided by what stands under its key, and so is what
it puts there; what stands under other keys makes no difference. -/
theorem Aloof.exists_run {dealing : Dealing ρ} (aloof : dealing.Aloof store) (key : String)
    (world : World) :
    ∃ decided change, ∀ other, other ≠ key → ∀ further,
      dealing.run store key (world.put store other further) =
        settled decided ((world.put store other further).put store key change) := by
  have admits (other further) (claim : Claim) :
      (world.put store other further).admits claim = world.admits claim :=
    World.admits_congr (world.active_put store other further) claim
  cases dealing with
  | looks use =>
      by_cases free : world.admits ⟨.store store, .reading⟩
      · obtain ⟨decided, ran⟩ := (aloof ((world.entries store).find? key)).exists_put world
        refine ⟨decided, none, fun other different further => ?_⟩
        rw [run, StoreId.reading_apply, admits, if_pos free, World.acquire_put,
          World.find?_put _ _ (Ne.symm different), ran, ← World.acquire_put]
        cases decided <;> rfl
      · refine ⟨.error .busy, none, fun other _ further => ?_⟩
        rw [run, StoreId.reading_apply, admits, if_neg free]
        rfl
  | puts use =>
      by_cases free : world.admits ⟨.store store, .writing⟩
      · obtain ⟨decided, ran⟩ := (aloof ((world.entries store).find? key)).exists_put world
        cases decided with
        | error failure =>
            refine ⟨.error failure, none, fun other different further => ?_⟩
            rw [run, StoreId.writing_apply, admits, if_pos free, World.acquire_put,
              World.find?_put _ _ (Ne.symm different), bind_of_error (ran other further),
              ← World.acquire_put]
            rfl
        | ok yielded =>
            refine ⟨.ok yielded.1, some yielded.2, fun other different further => ?_⟩
            rw [run, StoreId.writing_apply, admits, if_pos free, World.acquire_put,
              World.find?_put _ _ (Ne.symm different), bind_of_ok (ran other further),
              ← World.acquire_put]
            rfl
      · refine ⟨.error .busy, none, fun other _ further => ?_⟩
        rw [run, StoreId.writing_apply, admits, if_neg free]
        rfl

/-- Dealings with different keys of a store can be done in either order. -/
theorem Aloof.commutes {dealing : Dealing ρ} {further : Dealing σ} {other : String}
    (aloof : dealing.Aloof store) (also : further.Aloof store) (different : other ≠ key)
    (world : World) : Commutes (dealing.run store key) (further.run store other) world := by
  obtain ⟨decided, change, ran⟩ := aloof.exists_run key world
  obtain ⟨answered, next, went⟩ := also.exists_run other world
  have first := ran other different none
  have second := went key (Ne.symm different) none
  rw [World.put] at first second
  have late := ran other different next
  have after := went key (Ne.symm different) change
  constructor
  · rw [leaves_of_settled second, told_of_settled late, told_of_settled first]
  · rw [leaves_of_settled first, told_of_settled after, told_of_settled second]
  · rw [leaves_of_settled first, leaves_of_settled second, leaves_of_settled late,
      leaves_of_settled after, World.put_comm _ _ different]

/-- A dealing leaves alone what stands under another key. -/
theorem Aloof.find?_leaves {dealing : Dealing ρ} {other : String} (aloof : dealing.Aloof store)
    (different : other ≠ key) (world : World) :
    (((dealing.run store key).leaves world).entries store).find? other =
      (world.entries store).find? other := by
  obtain ⟨decided, change, ran⟩ := aloof.exists_run key world
  have first := ran other different none
  rw [World.put] at first
  rw [leaves_of_settled first, World.find?_put _ _ different]

/-! ### Keys that have to be there -/

/-- What stands under a key, where something has to stand. -/
def present (absent : Failure) : Option Cell → Except Failure Cell
  | some cell => .ok cell
  | none => .error absent

variable {absent missing : Failure}

theorem alikeBut_looks (next : Cell → Op ρ) :
    AlikeBut absent missing
      ((looks fun found => Op.ofExcept (present absent found) >>= next).run store key)
      ((looks fun found => Op.ofExcept (present missing found) >>= next).run store key) world := by
  unfold AlikeBut
  rw [run, run, StoreId.reading_apply, StoreId.reading_apply]
  split
  · cases (world.entries store).find? key with
    | some cell => exact .inl rfl
    | none => exact .inr ⟨rfl, rfl⟩
  · exact .inl rfl

theorem alikeBut_puts (next : Cell → Op (ρ × Option Cell)) :
    AlikeBut absent missing
      ((puts fun found => Op.ofExcept (present absent found) >>= next).run store key)
      ((puts fun found => Op.ofExcept (present missing found) >>= next).run store key) world := by
  unfold AlikeBut
  rw [run, run, StoreId.writing_apply, StoreId.writing_apply]
  split
  · cases (world.entries store).find? key with
    | some cell => exact .inl rfl
    | none => exact .inr ⟨rfl, rfl⟩
  · exact .inl rfl

end Dealing

namespace StoreId

variable {α β : Type} (id : StoreId) (change : α → β)

theorem map_reading (refusal : Failure) (use : Entries Cell → Op α) :
    change <$> id.reading refusal use =
      id.reading refusal fun entries => change <$> use entries := by
  funext world
  rw [map_apply, reading_apply, reading_apply]
  by_cases free : world.admits ⟨.store id, .reading⟩
  · rw [if_pos free, if_pos free, map_apply]
    cases use (world.entries id) (world.acquire ⟨.store id, .reading⟩) <;> rfl
  · rw [if_neg free, if_neg free]

theorem map_writing (use : Entries Cell → Op (α × Entries Cell)) :
    change <$> id.writing use =
      id.writing fun entries => (fun yielded => (change yielded.1, yielded.2)) <$> use entries := by
  funext world
  rw [map_apply, writing_apply, writing_apply]
  by_cases free : world.admits ⟨.store id, .writing⟩
  · rw [if_pos free, if_pos free, map_apply]
    cases use (world.entries id) (world.acquire ⟨.store id, .writing⟩) <;> rfl
  · rw [if_neg free, if_neg free]

variable {id : StoreId} {change : α → β} {key : String}

theorem map_reading_eq_run {use : Entries Cell → Op α} {dealt : Option Cell → Op β}
    (same : ∀ entries, change <$> use entries = dealt (entries.find? key)) :
    change <$> id.reading .busy use = (Dealing.looks dealt).run id key :=
  (map_reading id change .busy use).trans (congrArg _ (funext same))

theorem map_writing_eq_run {use : Entries Cell → Op (α × Entries Cell)}
    {dealt : Option Cell → Op (β × Option Cell)}
    (same : ∀ entries, (fun yielded => (change yielded.1, yielded.2)) <$> use entries =
      dealt (entries.find? key) >>= fun yielded => pure (yielded.1, entries.assign key yielded.2)) :
    change <$> id.writing use = (Dealing.puts dealt).run id key :=
  (map_writing id change use).trans (congrArg _ (funext same))

end StoreId

end PathStore
