import PathStore.Proofs.Session.Conduct

/-!
# How arrays are used where they stand

What is done with the array at a place comes down to a program over the world, which runs as it is
where a variable or a cell holds the array, and under a claim on the store where a map does. If there
is no such array, nothing is done.
-/

namespace PathStore

variable {α : Type} {place : Place} {form : Form} {session : Session}

namespace Place

theorem value?_variable {name : String} {value : Value}
    (found : session.find? name Object.value? = some value) (fits : value.type.form = form) :
    (Place.variable name).value? session form = some value := by
  simp [value?, found, fits]

theorem value?_stored {map key : String} {elem : ElemType} {handle : Handle} {value : Value}
    (found : session.find? map Object.handle? = some handle)
    (stands : handle.valueAt (session.world.entries handle.store) key ⟨form, elem⟩ = .ok value) :
    (Place.stored map key elem).value? session form = some value := by
  rw [value?, found, Option.bind_some, stands]
  rfl

theorem value?_entry {name : String} {elem : ElemType} {entry : EntryRef} {value : Value}
    (found : session.find? name Object.entry? = some entry)
    (stands : entry.valueAt (session.world.entries entry.store) ⟨form, elem⟩ = .ok value) :
    (Place.entry name elem).value? session form = some value := by
  rw [value?, found, Option.bind_some, stands]
  rfl

theorem value?_cell {name : String} {elem : ElemType} {cell : Cell} {value : Value}
    (found : session.find? name Object.cell? = some cell)
    (fits : Cell.expect cell ⟨form, elem⟩ = .ok value) :
    (Place.cell name elem).value? session form = some value := by
  rw [value?, found, Option.bind_some, fits]
  rfl

end Place

/-! ## Looking for something first -/

/-- What is done with something that is found does nothing if that is missing. -/
theorem Finds.bind_cases {β : Type} {task : Task β} {next : β → Task α} {found : Option β}
    (finds : Finds task session found) :
    (∃ failure, (task >>= next) session = .error failure session) ∨
      ∃ item, found = some item ∧ (task >>= next) session = next item session := by
  cases finds with
  | found ran => exact .inr ⟨_, rfl, bind_of_ok ran⟩
  | missing ran => exact .inl ⟨_, bind_of_error ran⟩

/-! ## Reading -/

namespace Place

/-- How a task reads the array that stands at a place. -/
inductive Reads (place : Place) (form : Form) (use : Variables → Value → Op (α × Variables))
    (session : Session) (task : Task α) : Prop where
  | missing {failure : Failure} (stops : task session = .error failure session)
  | held {value : Value} (stands : place.value? session form = some value)
      (runs : RunsOn task (use session.bindings value) Prod.fst Prod.snd session)
  | stored {value : Value} {id : StoreId} (stands : place.value? session form = some value)
      (runs : RunsOn task (id.reading .busy fun _ => use session.bindings value) Prod.fst Prod.snd
        session)

/-- What is decided from the entries of the store is decided before anything is done. -/
theorem Reads.of_store {use : Variables → Value → Op (α × Variables)} {task : Task α} {id : StoreId}
    {decide : Entries Cell → Except Failure Value}
    (runs : RunsOn task
      (id.reading .busy fun entries => Op.ofExcept (decide entries) >>= use session.bindings)
      Prod.fst Prod.snd session)
    (stands : ∀ value, decide (session.world.entries id) = .ok value →
      place.value? session form = some value) : place.Reads form use session task := by
  have begun : RunsOn task
      (id.reading .busy fun _ =>
        Op.ofExcept (decide (session.world.entries id)) >>= use session.bindings)
      Prod.fst Prod.snd session := runs
  cases decided : decide (session.world.entries id) with
  | ok value =>
      rw [decided] at begun
      exact .stored (stands value decided) begun
  | error failure =>
      rw [decided, RunsOn, StoreId.reading_apply] at begun
      split at begun
      · exact .missing begun
      · exact .missing begun

theorem reads_reading (place : Place) (use : Variables → Value → Op (α × Variables)) :
    place.Reads form use session (place.reading form use) := by
  cases place with
  | «variable» name =>
      obtain ⟨_, stops⟩ | ⟨value, found, goes⟩ := (Task.finds_value name session).bind_cases
      · exact .missing stops
      · dsimp only at goes
        split at goes
        · exact .missing goes
        · rename_i fits
          exact .held (value?_variable found (not_not.mp fits))
            (goes.trans (Task.runsOn_carrying _ session))
  | stored map key elem =>
      obtain ⟨_, stops⟩ | ⟨handle, found, goes⟩ := (Task.finds_handle map session).bind_cases
      · exact .missing stops
      · have runs := goes.trans (Task.runsOn_carrying _ session)
        rw [handle.withValue_eq] at runs
        exact .of_store runs fun value stands => value?_stored found stands
  | entry name elem =>
      obtain ⟨_, stops⟩ | ⟨entry, found, goes⟩ := (Task.finds_entry name session).bind_cases
      · exact .missing stops
      · have runs := goes.trans (Task.runsOn_carrying _ session)
        rw [entry.withValue_eq] at runs
        exact .of_store runs fun value stands => value?_entry found stands
  | cell name elem =>
      obtain ⟨_, stops⟩ | ⟨cell, found, goes⟩ := (Task.finds_cell name session).bind_cases
      · exact .missing stops
      · cases fits : Cell.expect cell ⟨form, elem⟩ with
        | error failure =>
            rw [fits] at goes
            exact .missing goes
        | ok value =>
            rw [fits] at goes
            exact .held (value?_cell found fits)
              (goes.trans (Task.runsOn_carrying (use · value) session))

/-! ## Writing -/

/-- How a task writes the array that stands at a place. What is put in its place in a store is put
there under a claim for writing. -/
inductive Writes (place : Place) (form : Form)
    (use : Variables → Value → Op ((α × Variables) × Value)) (session : Session) (task : Task α) :
    Prop where
  | missing {failure : Failure} (stops : task session = .error failure session)
  | held {value : Value} {bindings : Variables} {after : (α × Variables) × Value → Variables}
      (stands : place.value? session form = some value)
      (runs : RunsOn task (use bindings value) (·.1.1) after session)
  | stored {value : Value} {id : StoreId} {key : String}
      (stands : place.value? session form = some value)
      (claimed : ⟨.store id, .writing⟩ ∈ place.claims session .writing)
      (runs : RunsOn task
        (id.writing fun entries => use session.bindings value >>= fun used =>
          pure (used.1, entries.insert key (some used.2)))
        Prod.fst Prod.snd session)

theorem Writes.of_store {use : Variables → Value → Op ((α × Variables) × Value)} {task : Task α}
    {id : StoreId} {key : String} {decide : Entries Cell → Except Failure Value}
    (runs : RunsOn task
      (id.writing fun entries => Op.ofExcept (decide entries) >>= fun value =>
        use session.bindings value >>= fun used =>
          pure (used.1, entries.insert key (some used.2)))
      Prod.fst Prod.snd session)
    (claimed : ⟨.store id, .writing⟩ ∈ place.claims session .writing)
    (stands : ∀ value, decide (session.world.entries id) = .ok value →
      place.value? session form = some value) : place.Writes form use session task := by
  have begun : RunsOn task
      (id.writing fun entries =>
        Op.ofExcept (decide (session.world.entries id)) >>= fun value =>
          use session.bindings value >>= fun used =>
            pure (used.1, entries.insert key (some used.2)))
      Prod.fst Prod.snd session := by
    rw [RunsOn, StoreId.writing_apply] at runs ⊢
    exact runs
  cases decided : decide (session.world.entries id) with
  | ok value =>
      rw [decided] at begun
      exact .stored (stands value decided) claimed begun
  | error failure =>
      rw [decided, RunsOn, StoreId.writing_apply] at begun
      split at begun
      · exact .missing begun
      · exact .missing begun

theorem writes_writing (place : Place) (use : Variables → Value → Op ((α × Variables) × Value)) :
    place.Writes form use session (place.writing form use) := by
  cases place with
  | «variable» name =>
      obtain ⟨_, stops⟩ | ⟨value, found, goes⟩ := (Task.finds_value name session).bind_cases
      · exact .missing stops
      · dsimp only at goes
        split at goes
        · exact .missing goes
        · rename_i fits
          exact .held (value?_variable found (not_not.mp fits))
            (goes.trans (Task.runsOn_lending name _ _ session))
  | stored map key elem =>
      obtain ⟨_, stops⟩ | ⟨handle, found, goes⟩ := (Task.finds_handle map session).bind_cases
      · exact .missing stops
      · have runs := goes.trans (Task.runsOn_carrying _ session)
        rw [handle.modifyValue_eq] at runs
        refine .of_store runs ?_ fun value stands => value?_stored found stands
        rw [claims, Session.handleClaims, found]
        exact List.mem_singleton_self _
  | entry name elem =>
      obtain ⟨_, stops⟩ | ⟨entry, found, goes⟩ := (Task.finds_entry name session).bind_cases
      · exact .missing stops
      · have runs := goes.trans (Task.runsOn_carrying _ session)
        rw [entry.modifyValue_eq] at runs
        refine .of_store runs ?_ fun value stands => value?_entry found stands
        rw [claims, Session.entryClaims, found]
        exact List.mem_singleton_self _
  | cell name elem =>
      obtain ⟨_, stops⟩ | ⟨cell, found, goes⟩ := (Task.finds_cell name session).bind_cases
      · exact .missing stops
      · cases fits : Cell.expect cell ⟨form, elem⟩ with
        | error failure =>
            rw [fits] at goes
            exact .missing goes
        | ok value =>
            rw [fits] at goes
            exact .held (value?_cell found fits)
              (goes.trans (Task.runsOn_lending name (.cell ∘ some) (use · value) session))

end Place

end PathStore
