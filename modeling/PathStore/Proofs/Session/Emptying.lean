import PathStore.Proofs.Session.Resumptions

/-!
# How emptiness spreads along a run

A run keeps within bounds that none of its steps leaves, in its bodies or when they have ended. In
particular it keeps within those of its own steps: whatever becomes hollow was emptied or copied on the
way, and whatever ceases to be was replaced. Conversely what a step empties is hollow afterwards, and so
is what it copies of something hollow.
-/

namespace PathStore

/-! ## Runs -/

namespace Step

variable {bounds : Bounds} {session : Session}

/-- What the next step may empty, copy or replace lies within the bounds at every moment up to which
they have been kept. -/
def StaysWithin (bounds : Bounds) (steps : List Step) (session : Session) : Prop :=
  ∀ {frames rest now} {next : Step}, Passes steps session frames (next :: rest) now →
    bounds.Allows session.world now.world → next.Within bounds now

theorem StaysWithin.first {step : Step} {rest : List Step}
    (stays : StaysWithin bounds (step :: rest) session) : step.Within bounds session :=
  stays (.here _ _) (.refl _)

theorem StaysWithin.tail {step : Step} {rest : List Step}
    (stays : StaysWithin bounds (step :: rest) session)
    (first : bounds.Allows session.world (step.run session).2.world) :
    StaysWithin bounds rest (step.run session).2 :=
  fun passes kept => stays (.later passes) (first.trans kept)

/-- What is lent to a body changes no store at first. -/
theorem allows_inner {access : Access} {inner : Session} (lends : access.Lends session inner) :
    bounds.Allows session.world inner.world := by
  obtain ⟨-, world, -⟩ := lends.opening
  exact .of_stores (by rw [world]; rfl)

theorem StaysWithin.body {access : Access} {body rest : List Step} {inner : Session}
    (stays : StaysWithin bounds (.lend access body :: rest) session)
    (lends : access.Lends session inner) : StaysWithin bounds body inner :=
  fun passes kept => stays (.inside lends passes) ((allows_inner lends).trans kept)

theorem allows_of_respects {step : Step} (respects : Respects bounds session step.task) :
    bounds.Allows session.world (step.run session).2.world := by
  unfold Respects at respects
  rw [run_eq_settle, Task.settle]
  generalize step.task session = outcome at respects
  cases outcome with
  | ok answer left => exact respects
  | error failure left => exact respects

mutual

/-- A step keeps within bounds that neither it nor a step of its body leaves. -/
theorem respects_task (step : Step) {rest : List Step} {session : Session}
    (stays : StaysWithin bounds (step :: rest) session) : Respects bounds session step.task := by
  cases step with
  | act action into => exact respects_act stays.first
  | lend access body =>
      obtain ⟨inner, lends⟩ | ⟨failure, closed⟩ := access.lends_or_closed session
      · have within := allows_runAll body (stays.body lends)
        have ended := access.allows_ended lends (follows_body body inner) stays.first
        exact (allows_inner lends).trans (within.trans ended)
      · exact .failed (closed _)
  | unreadable reason => exact .throw _

/-- A run keeps within bounds that none of its steps leaves. -/
theorem allows_runAll (steps : List Step) {session : Session}
    (stays : StaysWithin bounds steps session) :
    bounds.Allows session.world (runAll steps session).2.world := by
  cases steps with
  | nil => exact .refl _
  | cons step rest =>
      have first := allows_of_respects (respects_task step stays)
      rw [runAll_cons]
      exact first.trans (allows_runAll rest (stays.tail first))

end

/-- The bounds are kept up to every moment. -/
theorem Passes.allows {steps remaining : List Step} {session now : Session} {frames : List Frame}
    (passes : Passes steps session frames remaining now)
    (stays : StaysWithin bounds steps session) : bounds.Allows session.world now.world := by
  induction passes with
  | here => exact .refl _
  | @later step rest remaining session now frames passes ih =>
      have first := allows_of_respects (respects_task step stays)
      exact first.trans (ih (stays.tail first))
  | inside lends passes ih => exact (allows_inner lends).trans (ih (stays.body lends))

/-! ### From one moment to another -/

/-- At some moment of a run the next step does something. -/
def Sometime (steps : List Step) (session : Session) (does : Step → Session → Prop) : Prop :=
  ∃ frames rest now next, Passes steps session frames (next :: rest) now ∧ does next now

/-- The step empties an entry, or copies a hollow one to its key. -/
def Hollows (step : Step) (now : Session) (id : StoreId) (key : String) : Prop :=
  step.Empties now id key ∨
    ∃ store origin, step.Copies now store origin id key ∧ now.world.Hollow store origin

/-- The bounds that the steps of a run keep of themselves. -/
def ownBounds (steps : List Step) (session : Session) : Bounds where
  arises id key := Sometime steps session fun step now => step.Hollows now id key
  ends id key := Sometime steps session fun step now => step.Replaces now id key

theorem staysWithin_ownBounds (steps : List Step) (session : Session) :
    StaysWithin (ownBounds steps session) steps session := by
  intro frames rest now next passes _
  refine ⟨fun empties => ?_, fun copies hollow => ?_, fun replaces => ?_⟩
  · exact ⟨_, _, _, _, passes, .inl empties⟩
  · exact ⟨_, _, _, _, passes, .inr ⟨_, _, copies, hollow⟩⟩
  · exact ⟨_, _, _, _, passes, replaces⟩

/-- In a run a hollow entry stems from one that was emptied: it was emptied itself, or is a copy of a
hollow one that does. -/
inductive Stems (steps : List Step) (session : Session) : StoreId → String → Prop where
  | emptied {frames : List Frame} {rest : List Step} {now : Session} {step : Step} {id : StoreId}
      {key : String} (passes : Passes steps session frames (step :: rest) now)
      (empties : step.Empties now id key) : Stems steps session id key
  | copied {frames : List Frame} {rest : List Step} {now : Session} {step : Step}
      {store id : StoreId} {origin key : String}
      (passes : Passes steps session frames (step :: rest) now)
      (copies : step.Copies now store origin id key) (hollow : now.world.Hollow store origin)
      (stems : Stems steps session store origin) : Stems steps session id key

theorem Stems.sometime {steps : List Step} {id : StoreId} {key : String}
    (stems : Stems steps session id key) :
    Sometime steps session fun step now => ∃ id key, step.Empties now id key := by
  induction stems with
  | emptied passes empties => exact ⟨_, _, _, _, passes, _, _, empties⟩
  | copied _ _ _ _ ih => exact ih

/-- A new session has no entries. -/
theorem not_hollow_default (id : StoreId) (key : String) :
    ¬ (default : Session).world.Hollow id key :=
  Entries.not_hollow_empty key

theorem Passes.stems {steps remaining : List Step} {now : Session} {frames : List Frame}
    (passes : Passes steps default frames remaining now) {id : StoreId} {key : String}
    (hollow : now.world.Hollow id key) : Stems steps default id key := by
  let stemming : Bounds := ⟨Stems steps default, fun _ _ => True⟩
  have stays : StaysWithin stemming steps default := by
    intro frames rest now next comes kept
    refine ⟨fun empties => .emptied comes empties, fun copies hollow => ?_, fun _ => trivial⟩
    -- What has become hollow up to now stems from an emptied entry itself.
    have origin := (kept _).arise _ hollow
    exact .copied comes copies hollow (origin.resolve_left (not_hollow_default _ _))
  exact ((passes.allows stays id).arise key hollow).resolve_left (not_hollow_default id key)

end Step

/-! ## What a step empties and copies -/

theorem Finds.bind_found {α β : Type} {task : Task β} {next : β → Task α} {item : β}
    {session : Session} (finds : Finds task session (some item)) :
    (task >>= next) session = next item session := by
  cases finds with
  | found ran => exact bind_of_ok ran

/-- Lending a cell to empty it ends without cell, unless it fails whatever the body. -/
theorem Body.writeCell_empty (set : Option ValueSpec) (bindings : Variables) (cell : Cell)
    (world : World) :
    (∃ failure, ∀ body : Body, body.writeCell set true bindings cell world = .error failure world) ∨
      ∃ seen, ∀ body : Body, body.writeCell set true bindings cell world =
        .ok ((.cellWritten seen none (body ⟨world, bindings⟩).1, (body ⟨world, bindings⟩).2.bindings),
          none) (body ⟨world, bindings⟩).2.world := by
  obtain ⟨seen, looked, -⟩ := Cell.looks_snapshot cell world
  cases seen with
  | error failure => exact .inl ⟨failure, fun body => bind_of_error looked⟩
  | ok seen =>
      cases asked : ValueSpec.optionIn bindings set with
      | error failure =>
          refine .inl ⟨failure, fun body => (bind_of_ok looked).trans ?_⟩
          rw [asked]
          rfl
      | ok value =>
          refine .inr ⟨seen, fun body => (bind_of_ok looked).trans ?_⟩
          rw [asked]
          rfl

namespace Handle

section Cells

variable {α : Type} {handle : Handle} {world : World} {key : String} {cell : Cell}
  {use : Cell → Op (α × Cell)}

theorem modifyCell_eq_of_cell (free : world.admits ⟨.store handle.store, .writing⟩)
    (found : handle.cell (world.entries handle.store) key = .ok cell) :
    handle.modifyCell key use world =
      handle.store.writing (fun entries => use cell >>= fun used =>
        pure (used.1, entries.insert (handle.resolve key) used.2)) world := by
  rw [modifyCell, StoreId.writing_apply, StoreId.writing_apply, if_pos free, if_pos free, found]
  rfl

theorem modifyCell_of_ok (free : world.admits ⟨.store handle.store, .writing⟩)
    (found : handle.cell (world.entries handle.store) key = .ok cell) {used : α × Cell}
    {left : World} (ran : use cell (world.acquire ⟨.store handle.store, .writing⟩) = .ok used left) :
    handle.modifyCell key use world =
      .ok used.1 (left.setEntries handle.store
        ((world.entries handle.store).insert (handle.resolve key) used.2)).release := by
  rw [modifyCell_eq_of_cell free found, StoreId.writing_apply, if_pos free, bind_of_ok ran]
  rfl

theorem modifyCell_of_error (free : world.admits ⟨.store handle.store, .writing⟩)
    (found : handle.cell (world.entries handle.store) key = .ok cell) {failure : Failure}
    {left : World}
    (ran : use cell (world.acquire ⟨.store handle.store, .writing⟩) = .error failure left) :
    handle.modifyCell key use world = .error failure left.release := by
  rw [modifyCell_eq_of_cell free found, StoreId.writing_apply, if_pos free, bind_of_error ran]

end Cells

/-- An entry whose cell is lent to be emptied is hollow afterwards, unless that fails whatever the
body. -/
theorem modifyCell_empty (handle : Handle) (key : String) (set : Option ValueSpec)
    (bindings : Variables) (world : World) :
    (∃ failure, ∀ body : Body,
        handle.modifyCell key (body.writeCell set true bindings) world = .error failure world) ∨
      ∀ body : Body, ∃ answer left,
        handle.modifyCell key (body.writeCell set true bindings) world = .ok answer left ∧
          left.Hollow handle.store (handle.resolve key) := by
  by_cases free : world.admits ⟨.store handle.store, .writing⟩
  · cases found : handle.cell (world.entries handle.store) key with
    | error failure =>
        refine .inl ⟨failure, fun body => ?_⟩
        rw [modifyCell, StoreId.writing_apply, if_pos free, found]
        rfl
    | ok cell =>
        obtain ⟨failure, stops⟩ | ⟨seen, writes⟩ := Body.writeCell_empty set bindings cell
          (world.acquire ⟨.store handle.store, .writing⟩)
        · exact .inl ⟨failure, fun body => modifyCell_of_error free found (stops body)⟩
        · refine .inr fun body => ⟨_, _, modifyCell_of_ok free found (writes body), ?_⟩
          rw [World.Hollow, World.entries_release, World.entries_setEntries, if_pos rfl,
            Bounds.hollow_insert_iff, if_pos rfl]
  · refine .inl ⟨.busy, fun body => ?_⟩
    rw [modifyCell, StoreId.writing_apply, if_neg free]

end Handle

namespace Step

variable {now : Session} {step : Step} {id : StoreId} {key : String}

/-- An entry whose cell a step has emptied is hollow. -/
theorem Empties.hollow (empties : step.Empties now id key) :
    (step.run now).2.world.Hollow id key := by
  cases empties with
  | @writeCell map key set body handle inner named lends =>
      have runs (body : Body) : (Access.writeStoredCell map key set true).run body now =
          Task.ended Prod.fst Prod.snd now
            (handle.modifyCell key (body.writeCell set true now.bindings) now.world) := by
        have found := Task.finds_handle map now
        rw [named] at found
        exact found.bind_found.trans (Task.runsOn_carrying _ now)
      obtain ⟨failure, stops⟩ | empties := handle.modifyCell_empty key set now.bindings now.world
      · have closed (body : Body) : _ = EStateM.Result.error failure now :=
          (runs body).trans (by rw [stops]; rfl)
        exact (lends.not_constant closed).elim
      · obtain ⟨answer, left, ran, hollow⟩ := empties (runAll body)
        rw [run_eq_settle, task, Task.settle, runs, ran]
        exact hollow

/-- A step that grafts does nothing else. -/
theorem Grafts.runs {handle source : Handle} (grafts : step.Grafts now handle key source) :
    ∃ action into, step = .act action into ∧ action.run now =
      (Task.ofOp (handle.graft key source) >>= fun _ => pure (Outcome.only .nothing)) now := by
  cases grafts with
  | @graft map key other into handle source named given =>
      have found := Task.finds_handle map now
      have also := Task.finds_handle other now
      rw [named] at found
      rw [given] at also
      exact ⟨_, into, rfl, found.bind_found.trans also.bind_found⟩
  | @merge map other into handle source named given =>
      have found := Task.finds_handle map now
      have also := Task.finds_handle other now
      rw [named] at found
      rw [given] at also
      exact ⟨_, into, rfl, found.bind_found.trans also.bind_found⟩

theorem Grafts.run_eq {handle source : Handle} (grafts : step.Grafts now handle key source) :
    step.run now =
      match handle.graft key source now.world with
      | .ok _ world => (.nothing, { now with world })
      | .error failure world => (.failed failure, { now with world }) := by
  obtain ⟨action, into, rfl, runs⟩ := grafts.runs
  rw [run_eq_settle, Task.settle, task]
  cases grafted : handle.graft key source now.world with
  | ok made world =>
      have done : action.run now = .ok (Outcome.only .nothing) { now with world } := by
        rw [runs, bind_of_ok (by rw [Task.ofOp, grafted])]
        rfl
      rw [bind_of_ok done]
      cases into <;> rfl
  | error failure world =>
      have failed : action.run now = .error failure { now with world } := by
        rw [runs]
        exact bind_of_error (by rw [Task.ofOp, grafted])
      rw [bind_of_error failed]

/-- A step that makes a copy does nothing else but let a variable name it. -/
theorem Duplicates.runs {handle : Handle} (duplicates : step.Duplicates now handle) :
    ∃ action into refusal, step = .act action into ∧ action.run now =
      (Task.ofOp (handle.copy refusal) >>= fun made => pure (Outcome.handle made)) now := by
  cases duplicates with
  | @copy map into handle named =>
      have found := Task.finds_handle map now
      rw [named] at found
      exact ⟨_, into, _, rfl, found.bind_found⟩
  | @tryCopy map into handle named =>
      have found := Task.finds_handle map now
      rw [named] at found
      exact ⟨_, into, _, rfl, found.bind_found⟩

theorem Duplicates.stores_run {handle : Handle} (duplicates : step.Duplicates now handle)
    (succeeds : ∀ failure, (step.run now).1 ≠ .failed failure) :
    (step.run now).2.world.stores =
      now.world.stores.push (handle.copied (now.world.entries handle.store)) := by
  obtain ⟨action, into, refusal, rfl, runs⟩ := duplicates.runs
  rw [run_eq_settle, Task.settle, task] at succeeds ⊢
  have read := handle.store.reading_pure refusal handle.copied now.world
  by_cases free : now.world.admits ⟨.store handle.store, .reading⟩
  · rw [if_pos free] at read
    have done : action.run now = .ok (Outcome.handle ⟨⟨now.world.stores.next⟩, .root⟩)
        { now with world := now.world.pushStore (handle.copied (now.world.entries handle.store)) } := by
      rw [runs, bind_of_ok]
      · rfl
      · rw [Task.ofOp, Handle.copy, bind_of_ok read]
        rfl
    rw [bind_of_ok done]
    cases into with
    | none => rfl
    | some name => exact Session.stores_forget _ name
  · rw [if_neg free] at read
    have failed : action.run now = .error refusal now := by
      rw [runs]
      refine bind_of_error ?_
      rw [Task.ofOp, Handle.copy, bind_of_error read]
    rw [bind_of_error failed] at succeeds
    exact (succeeds refusal rfl).elim

end Step

namespace Step

variable {now : Session} {step : Step} {store id : StoreId} {origin key : String}

/-- A copy of a hollow entry is hollow. -/
theorem Copies.hollow (copies : step.Copies now store origin id key)
    (canonical : now.world.Canonical) (hollow : now.world.Hollow store origin)
    (succeeds : ∀ failure, (step.run now).1 ≠ .failed failure) :
    (step.run now).2.world.Hollow id key := by
  have proper := canonical store origin none hollow
  cases copies with
  | @graft handle source key origin grafts inside =>
      obtain ⟨rest, rooted, rfl⟩ := inside.exists_rest proper.isRooted
      have running := grafts.run_eq
      cases grafted : handle.graft key source now.world with
      | error failure left =>
          rw [grafted] at running
          rw [running] at succeeds
          exact (succeeds failure rfl).elim
      | ok made left =>
          obtain ⟨readable, writable⟩ := Handle.admitted_of_graft grafted
          rw [Handle.graft_apply canonical readable writable] at running
          have placed := handle.resolve_append_relative source key (proper.of_append rooted)
          have carried := Entries.find?_rerooted_of_isRooted (now.world.entries source.store)
            source.location.key rooted
          rw [running, placed, World.Hollow]
          dsimp only
          rw [World.entries_setEntries, if_pos rfl, Entries.Hollow, Entries.find?_planted_append,
            carried, hollow, Option.some_or]
  | @duplicate handle origin duplicates inside =>
      have fresh := now.world.entries_pushStore (handle.copied (now.world.entries handle.store))
        ⟨now.world.stores.next⟩
      rw [if_pos rfl] at fresh
      have stored : (step.run now).2.world.entries ⟨now.world.stores.next⟩ =
          handle.copied (now.world.entries handle.store) := by
        rw [← fresh, World.entries, duplicates.stores_run succeeds]
        rfl
      rw [World.Hollow, stored, Handle.copiedKey]
      split
      · rename_i top
        rw [Handle.copied, top]
        exact hollow
      · rename_i located
        obtain ⟨rest, rooted, rfl⟩ := inside.exists_rest proper.isRooted
        rw [Location.resolve_relative_append _ (proper.of_append rooted),
          Handle.copied_eq_rerooted (canonical handle.store), Entries.Hollow,
          Entries.find?_rerooted_of_isRooted _ _ rooted]
        exact hollow

end Step

/-! ## When a body has ended -/

/-- After its body an access changes which entries are hollow only as it empties or replaces them. -/
theorem Step.allows_ended {now inner : Session} {access : Access} (body : List Step)
    (lends : access.Lends now inner) :
    Bounds.Allows ⟨(lend access body).Empties now, (lend access body).Replaces now⟩
      (runAll body inner).2.world ((lend access body).run now).2.world := by
  have within : (lend access body).Within
      ⟨(lend access body).Empties now, (lend access body).Replaces now⟩ now := by
    refine ⟨id, fun copies _ => ?_, id⟩
    cases copies with
    | graft grafts => cases grafts
    | duplicate duplicates => cases duplicates
  have allows := access.allows_ended lends (follows_body body inner) within
  rw [run_eq_settle, Task.settle, task]
  generalize access.run (runAll body) now = outcome at allows
  cases outcome <;> exact allows

end PathStore
