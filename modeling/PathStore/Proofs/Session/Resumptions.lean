import PathStore.Proofs.Session.Accessors
import PathStore.Proofs.Session.Hollows

/-!
# What is done once a body has ended

What an access does before it runs its body changes nothing, and while the body runs nobody else
writes what the access has claimed. So the access can be judged by what it does from the end of its
body on. All it does then is to put back what it has lent, overwritten or not: a value for a value, and
a cell for a cell.
-/

namespace PathStore

variable {α β : Type} {bounds : Bounds} {ended : List Answer × Session}

section Programs

variable {σ : Type} [Worldly σ] {state : σ}

open Worldly

/-- What comes of a body of which the end is given: whatever the body nothing at all, or from the end on
something within the bounds. -/
inductive Resumption (bounds : Bounds) (ended : List Answer × Session) (before : σ)
    (run : Body → EStateM.Result Failure σ α) : Prop where
  | closed (failure : Failure) (runs : ∀ body, run body = .error failure before)
  | resumed (allows : bounds.Allows ended.2.world (world (leftBy (run fun _ => ended))))

/-- From the end of its body on, if it runs that at all, the program keeps within the bounds. -/
def Returns (bounds : Bounds) (ended : List Answer × Session) (state : σ)
    (program : Body → EStateM Failure σ α) : Prop :=
  Resumption bounds ended state fun body => program body state

namespace Resumption

/-- What is decided first changes nothing. -/
theorem bind_settled {program : EStateM Failure σ α} {next : α → Body → EStateM Failure σ β}
    {decided : Except Failure α} (runs : program state = settled decided state)
    (rest : ∀ result, decided = .ok result →
      Resumption bounds ended state fun body => next result body state) :
    Resumption bounds ended state fun body =>
      (program >>= fun result => next result body) state := by
  cases decided with
  | ok result =>
      cases rest result rfl with
      | closed failure stops => exact .closed failure fun body => (bind_of_ok runs).trans (stops body)
      | resumed allows =>
          refine .resumed ?_
          rwa [bind_of_ok runs]
  | error failure => exact .closed failure fun body => bind_of_error runs

/-- What comes last keeps within the bounds. -/
theorem bind {program : Body → EStateM Failure σ α} {next : α → EStateM Failure σ β}
    (first : Resumption bounds ended state fun body => program body state)
    (rest : ∀ result left, Respects bounds left (next result)) :
    Resumption bounds ended state fun body => (program body >>= next) state := by
  cases first with
  | closed failure runs => exact .closed failure fun body => bind_of_error (runs body)
  | resumed allows =>
      refine .resumed ?_
      cases ran : program (fun _ => ended) state with
      | ok result left =>
          rw [ran] at allows
          rw [bind_of_ok ran]
          exact allows.trans (rest result left)
      | error failure left =>
          rw [ran] at allows
          rwa [bind_of_error ran]

end Resumption

theorem Returns.bind {program : Body → EStateM Failure σ α} {next : α → EStateM Failure σ β}
    (first : Returns bounds ended state program)
    (rest : ∀ result left, Respects bounds left (next result)) :
    Returns bounds ended state fun body => program body >>= next :=
  Resumption.bind first rest

end Programs

/-! ## Programs over the world -/

namespace Returns

variable {world : World}

theorem carry (bindings : Variables) :
    Returns bounds ended world fun body => body.carry bindings :=
  .resumed (.refl _)

theorem after_looking {kind : Failure → Prop} {program : Op α} {next : α → Body → Op β}
    (looks : Looks kind program) (rest : ∀ result, Returns bounds ended world (next result)) :
    Returns bounds ended world fun body => program >>= fun result => next result body := by
  obtain ⟨decided, runs, -⟩ := looks world
  exact Resumption.bind_settled runs fun result _ => rest result

theorem after_deciding {decided : Except Failure α} {next : α → Body → Op β}
    (rest : ∀ result, decided = .ok result → Returns bounds ended world (next result)) :
    Returns bounds ended world fun body =>
      Op.ofExcept decided >>= fun result => next result body :=
  Resumption.bind_settled (Op.ofExcept_apply _ _) rest

theorem holding {claim : Claim} {refusal : Failure} {program : Body → Op α}
    (returns : Returns bounds ended (world.acquire claim) program) :
    Returns bounds ended world fun body => Op.holding claim refusal (program body) := by
  unfold Returns at returns ⊢
  by_cases admits : world.admits claim
  · cases returns with
    | closed failure runs =>
        exact .closed failure fun body => by simp only [Op.holding, admits, if_true, runs]; rfl
    | resumed allows =>
        refine .resumed ?_
        simp only [Op.holding, admits, if_true]
        generalize program (fun _ => ended) (world.acquire claim) = outcome at allows
        cases outcome <;> exact allows
  · exact .closed refusal fun body => by simp only [Op.holding, admits]; rfl

theorem readingStore {id : StoreId} {refusal : Failure} {use : Entries Cell → Body → Op α}
    (returns : Returns bounds ended (world.acquire ⟨.store id, .reading⟩) (use (world.entries id))) :
    Returns bounds ended world fun body => id.reading refusal fun entries => use entries body :=
  holding returns

theorem readingBuffer {id : BufferId} {refusal : Failure} {use : List Scalar → Body → Op α}
    (returns : Returns bounds ended (world.acquire ⟨.buffer id, .reading⟩)
      (use (world.elements id))) :
    Returns bounds ended world fun body => id.reading refusal fun elements => use elements body :=
  holding returns

theorem writingBuffer {id : BufferId} {use : List Scalar → Body → Op (α × List Scalar)}
    (returns : Returns bounds ended (world.acquire ⟨.buffer id, .writing⟩)
      (use (world.elements id))) :
    Returns bounds ended world fun body => id.writing fun elements => use elements body :=
  holding (returns.bind fun _ _ => .of_stores rfl)

/-- What is put into a store is judged by what the body has left there. -/
theorem writingStore {id : StoreId} {use : Entries Cell → Body → Op (α × Entries Cell)}
    (returns : Returns bounds ended (world.acquire ⟨.store id, .writing⟩) (use (world.entries id)))
    (puts : ∀ body written left, use (world.entries id) body (world.acquire ⟨.store id, .writing⟩) =
      .ok written left → bounds.AllowsAt id (ended.2.world.entries id) written.2) :
    Returns bounds ended world fun body => id.writing fun entries => use entries body := by
  unfold Returns at returns ⊢
  simp only [StoreId.writing_apply]
  by_cases admits : world.admits ⟨.store id, .writing⟩
  · simp only [if_pos admits]
    cases returns with
    | closed failure runs => exact .closed failure fun body => by rw [runs]; rfl
    | resumed allows =>
        refine .resumed ?_
        cases ran : use (world.entries id) (fun _ => ended)
            (world.acquire ⟨.store id, .writing⟩) with
        | ok written left =>
            rw [ran] at allows
            intro other
            change bounds.AllowsAt other (ended.2.world.entries other)
              ((left.setEntries id written.2).entries other)
            rw [World.entries_setEntries]
            split
            · rename_i same
              exact same ▸ puts _ written left ran
            · exact allows other
        | error failure left =>
            rw [ran] at allows
            exact allows
  · exact .closed .busy fun body => if_neg admits

end Returns

/-! ## Bodies -/

namespace Body

variable (bindings : Variables) {world : World}

theorem returns_readValue (value : Value) :
    Returns bounds ended world fun body => body.readValue bindings value :=
  .after_looking value.looks_snapshot fun _ => (Returns.carry bindings).bind fun _ _ => .pure _

theorem returns_readCell (cell : Cell) :
    Returns bounds ended world fun body => body.readCell bindings cell :=
  .after_looking (Cell.looks_snapshot cell) fun _ =>
    (Returns.carry bindings).bind fun _ _ => .pure _

theorem returns_readElements (elements : List Scalar) :
    Returns bounds ended world fun body => body.readElements bindings elements :=
  (Returns.carry bindings).bind fun _ _ => .pure _

theorem returns_writeValue (set : Option ValueSpec) (value : Value) :
    Returns bounds ended world fun body => body.writeValue set bindings value := by
  refine .after_looking value.looks_snapshot fun seen => .after_deciding fun asked _ => ?_
  dsimp only
  split
  · exact .closed _ fun _ => rfl
  · exact (Returns.carry bindings).bind fun _ _ =>
      (Respects.of_looks (Value.looks_snapshot _)).bind fun _ _ => .pure _

theorem returns_writeCell (set : Option ValueSpec) (empty : Bool) (cell : Cell) :
    Returns bounds ended world fun body => body.writeCell set empty bindings cell :=
  .after_looking (Cell.looks_snapshot cell) fun _ => .after_deciding fun _ _ =>
    (Returns.carry bindings).bind fun _ _ =>
      (Respects.of_looks (Cell.looks_snapshot _)).bind fun _ _ => .pure _

theorem returns_writeElements (elem : ElemType) (fill : List Literal) (elements : List Scalar) :
    Returns bounds ended world fun body => body.writeElements elem fill bindings elements :=
  .after_deciding fun _ _ => (Returns.carry bindings).bind fun _ _ => .pure _

/-- A cell that is lent for writing is emptied, or set if that is asked for. -/
theorem written_of_writeCell {body : Body} {set : Option ValueSpec} {empty : Bool} {cell : Cell}
    {written : (Answer × Variables) × Cell} {left : World}
    (ran : body.writeCell set empty bindings cell world = .ok written left) :
    ∃ asked, ValueSpec.optionIn bindings set = .ok asked ∧
      written.2 = if empty then none else asked.or cell := by
  obtain ⟨_, _, _, deciding⟩ := exists_of_bind_ok ran
  obtain ⟨asked, _, decided, carrying⟩ := exists_of_bind_ok deciding
  obtain ⟨_, _, _, looking⟩ := exists_of_bind_ok carrying
  obtain ⟨_, _, _, finished⟩ := exists_of_bind_ok looking
  cases finished
  exact ⟨asked, Op.eq_ok_of_ofExcept decided, rfl⟩

end Body

/-! ## Handles, entries and blocks -/

/-- A store that has been claimed for writing is left by a body as it was. -/
def World.Kept (world left : World) (id : StoreId) : Prop :=
  (Target.store id).Made world → left.entries id = world.entries id

section Operations

variable {world : World}

namespace Handle

variable (handle : Handle)

theorem returns_withValue {use : Value → Body → Op α} (key : String) (type : ValueType)
    (each : ∀ value world, Returns bounds ended world (use value)) :
    Returns bounds ended world fun body =>
      handle.withValue key type fun value => use value body := by
  simp only [withValue_eq]
  exact .readingStore (.after_deciding fun value _ => each value _)

theorem returns_withValueOr {use : Value → Body → Op α} (key : String) (type : ValueType)
    (default : Value) (each : ∀ value world, Returns bounds ended world (use value)) :
    Returns bounds ended world fun body =>
      handle.withValueOr key type default fun value => use value body := by
  refine .readingStore ?_
  cases (world.entries handle.store).find? (handle.resolve key) with
  | some cell => exact .after_deciding fun value _ => each value _
  | none => exact each default _

variable (kept : world.Kept ended.2.world handle.store)

include kept

theorem returns_modifyValue {use : Value → Body → Op (α × Value)} (key : String)
    (type : ValueType) (each : ∀ value world, Returns bounds ended world (use value)) :
    Returns bounds ended world fun body =>
      handle.modifyValue key type fun value => use value body := by
  simp only [modifyValue_eq]
  refine .writingStore
    (.after_deciding fun value _ => (each value _).bind fun _ _ => .pure _) ?_
  intro body written left ran
  obtain ⟨value, _, decided, overwriting⟩ := exists_of_bind_ok ran
  obtain ⟨used, _, _, finished⟩ := exists_of_bind_ok overwriting
  cases finished
  have found := handle.find?_of_valueAt (Op.eq_ok_of_ofExcept decided)
  rw [kept (World.made_of_find? found)]
  exact .overwrite found used.2

theorem returns_modifyCell {use : Cell → Body → Op (α × Cell)} (key : String)
    (each : ∀ cell world, Returns bounds ended world (use cell))
    (puts : ∀ body cell world used left, use cell body world = .ok used left →
      (used.2 = none → cell = none ∨ bounds.arises handle.store (handle.resolve key)) ∧
        (cell = none → used.2 = none ∨ bounds.ends handle.store (handle.resolve key))) :
    Returns bounds ended world fun body =>
      handle.modifyCell key fun cell => use cell body := by
  refine .writingStore
    (.after_deciding fun cell _ => (each cell _).bind fun _ _ => .pure _) ?_
  intro body written left ran
  obtain ⟨cell, between, decided, overwriting⟩ := exists_of_bind_ok ran
  obtain ⟨used, _, made, finished⟩ := exists_of_bind_ok overwriting
  cases finished
  have found := handle.find?_of_cell (Op.eq_ok_of_ofExcept decided)
  rw [kept (World.made_of_find? found)]
  obtain ⟨empties, fills⟩ := puts body cell between used _ made
  exact .insert_over found empties fills

end Handle

namespace EntryRef

variable (entry : EntryRef)

theorem returns_withCell {use : Cell → Body → Op α}
    (each : ∀ cell world, Returns bounds ended world (use cell)) :
    Returns bounds ended world fun body => entry.withCell fun cell => use cell body :=
  .readingStore (.after_deciding fun cell _ => each cell _)

theorem returns_withValue {use : Value → Body → Op α} (type : ValueType)
    (each : ∀ value world, Returns bounds ended world (use value)) :
    Returns bounds ended world fun body => entry.withValue type fun value => use value body := by
  simp only [withValue_eq]
  exact .readingStore (.after_deciding fun value _ => each value _)

theorem returns_modifyValue {use : Value → Body → Op (α × Value)}
    (kept : world.Kept ended.2.world entry.store) (type : ValueType)
    (each : ∀ value world, Returns bounds ended world (use value)) :
    Returns bounds ended world fun body =>
      entry.modifyValue type fun value => use value body := by
  simp only [modifyValue_eq]
  refine .writingStore
    (.after_deciding fun value _ => (each value _).bind fun _ _ => .pure _) ?_
  intro body written left ran
  obtain ⟨value, _, decided, overwriting⟩ := exists_of_bind_ok ran
  obtain ⟨used, _, _, finished⟩ := exists_of_bind_ok overwriting
  cases finished
  have found := entry.find?_of_valueAt (Op.eq_ok_of_ofExcept decided)
  rw [kept (World.made_of_find? found)]
  exact .overwrite found used.2

end EntryRef

namespace Block

variable (block : Block)

theorem returns_withData {use : List Scalar → Body → Op α}
    (each : ∀ elements world, Returns bounds ended world (use elements)) :
    Returns bounds ended world fun body => block.withData fun elements => use elements body := by
  cases stored : block.storage with
  | owned data =>
      simp only [withData, stored]
      exact each _ _
  | borrowed buffer =>
      simp only [withData, stored]
      exact .readingBuffer (each _ _)
  | released =>
      simp only [withData, stored]
      exact .closed _ fun _ => rfl

theorem returns_modifyData {use : List Scalar → Body → Op (α × List Scalar)}
    (each : ∀ elements world, Returns bounds ended world (use elements)) :
    Returns bounds ended world fun body => block.modifyData fun elements => use elements body := by
  cases stored : block.storage with
  | owned data =>
      simp only [modifyData, stored]
      exact (each _ _).bind fun _ _ => .pure _
  | borrowed buffer =>
      simp only [modifyData, stored]
      refine Returns.bind (.writingBuffer ?_) fun _ _ => .pure _
      exact (each _ _).bind fun _ _ => .pure _
  | released =>
      simp only [modifyData, stored]
      exact .closed _ fun _ => rfl

end Block

end Operations

/-! ## Tasks -/

namespace Returns

variable {session : Session}

theorem of_runsOn {task : Body → Task β} {program : Body → Op α} {result : α → β}
    {rebound : α → Variables}
    (runs : ∀ body, RunsOn (task body) (program body) result rebound session)
    (returns : Returns bounds ended session.world program) : Returns bounds ended session task := by
  unfold Returns at returns ⊢
  cases returns with
  | closed failure stops =>
      exact .closed failure fun body => (runs body).trans (congrArg _ (stops body))
  | resumed allows =>
      refine .resumed ?_
      rw [runs]
      generalize program (fun _ => ended) session.world = outcome at allows
      cases outcome <;> exact allows

theorem carrying {program : Body → Variables → Op (α × Variables)}
    (returns : Returns bounds ended session.world fun body => program body session.bindings) :
    Returns bounds ended session fun body => Task.carrying (program body) :=
  of_runsOn (fun body => Task.runsOn_carrying (program body) session) returns

theorem lending {name : String} {object : β → Object}
    {program : Body → Variables → Op ((α × Variables) × β)}
    (returns : ∀ bindings, Returns bounds ended session.world fun body => program body bindings) :
    Returns bounds ended session fun body => Task.lending name object (program body) :=
  of_runsOn (fun body => Task.runsOn_lending name object (program body) session) (returns _)

theorem after_settled {task : Task α} {next : α → Body → Task β} {decided : Except Failure α}
    (runs : task session = settled decided session)
    (rest : ∀ result, decided = .ok result → Returns bounds ended session (next result)) :
    Returns bounds ended session fun body => task >>= fun result => next result body :=
  Resumption.bind_settled runs rest

theorem after_finding {task : Task α} {next : α → Body → Task β} {found : Option α}
    (finds : Finds task session found)
    (rest : ∀ result, found = some result → Returns bounds ended session (next result)) :
    Returns bounds ended session fun body => task >>= fun result => next result body := by
  obtain ⟨decided, runs, same⟩ := finds.exists_settled
  refine after_settled runs fun result known => rest result ?_
  rw [← same, known]
  rfl

end Returns

/-- A body leaves the stores as they were that are claimed for writing. -/
def Session.KeptBy (session : Session) (left : World) (claims : List Claim) : Prop :=
  ∀ id, ⟨.store id, .writing⟩ ∈ claims → session.world.Kept left id

namespace Place

variable {session : Session} (place : Place) (form : Form)

theorem returns_reading {use : Variables → Value → Body → Op (α × Variables)}
    (each : ∀ bindings value world, Returns bounds ended world (use bindings value)) :
    Returns bounds ended session fun body =>
      place.reading form fun bindings value => use bindings value body := by
  cases place with
  | «variable» name =>
      refine .after_finding (Task.finds_value name session) fun value _ => ?_
      dsimp only
      split
      · exact .closed _ fun _ => rfl
      · exact .carrying (each _ value _)
  | stored map key elem =>
      exact .after_finding (Task.finds_handle map session) fun handle _ =>
        .carrying (handle.returns_withValue key _ fun value _ => each _ value _)
  | entry name elem =>
      exact .after_finding (Task.finds_entry name session) fun entry _ =>
        .carrying (entry.returns_withValue _ fun value _ => each _ value _)
  | cell name elem =>
      exact .after_finding (Task.finds_cell name session) fun cell _ =>
        .after_settled (Task.ofExcept_apply _ _) fun value _ => .carrying (each _ value _)

theorem returns_writing {use : Variables → Value → Body → Op ((α × Variables) × Value)}
    (kept : session.KeptBy ended.2.world (place.claims session .writing))
    (each : ∀ bindings value world, Returns bounds ended world (use bindings value)) :
    Returns bounds ended session fun body =>
      place.writing form fun bindings value => use bindings value body := by
  cases place with
  | «variable» name =>
      refine .after_finding (Task.finds_value name session) fun value _ => ?_
      dsimp only
      split
      · exact .closed _ fun _ => rfl
      · exact .lending fun bindings => each bindings value _
  | stored map key elem =>
      refine .after_finding (Task.finds_handle map session) fun handle found => .carrying ?_
      refine handle.returns_modifyValue (kept _ ?_) key _ fun value _ => each _ value _
      rw [claims, Session.handleClaims, found]
      exact List.mem_singleton_self _
  | entry name elem =>
      refine .after_finding (Task.finds_entry name session) fun entry found => .carrying ?_
      refine entry.returns_modifyValue (kept _ ?_) _ fun value _ => each _ value _
      rw [claims, Session.entryClaims, found]
      exact List.mem_singleton_self _
  | cell name elem =>
      exact .after_finding (Task.finds_cell name session) fun cell _ =>
        .after_settled (Task.ofExcept_apply _ _) fun value _ =>
          .lending fun bindings => each bindings value _

end Place

/-! ## Accesses -/

namespace Access

variable {access : Access} {session inner : Session} {steps : List Step}

theorem returns_run (lends : access.Lends session inner)
    (kept : session.KeptBy ended.2.world (access.claims session))
    (within : (Step.lend access steps).Within bounds session) :
    Returns bounds ended session fun body => access.run body := by
  cases access with
  | writeVariable name type set =>
      refine .after_finding (Task.finds_value name session) fun value _ => ?_
      refine .after_settled (Task.ofExcept_apply _ _) fun held _ => ?_
      exact .lending fun bindings => Body.returns_writeValue bindings set held
  | writeCell name type set =>
      refine .after_finding (Task.finds_cell name session) fun cell _ => ?_
      refine .after_settled (Task.ofExcept_apply _ _) fun held _ => ?_
      exact .lending fun bindings => Body.returns_writeValue bindings set held
  | readBuffer name =>
      exact .after_finding (Task.finds_buffer name session) fun buffer _ =>
        .carrying (.readingBuffer (Body.returns_readElements _ _))
  | writeBuffer name fill =>
      exact .after_finding (Task.finds_buffer name session) fun buffer _ =>
        .carrying (.writingBuffer (Body.returns_writeElements _ _ fill _))
  | readBlock place =>
      exact place.returns_reading .block fun bindings value world =>
        .after_deciding fun block _ => block.returns_withData fun elements _ =>
          Body.returns_readElements bindings elements
  | writeBlock place fill =>
      refine place.returns_writing .block (fun id claimed => kept id ?_) fun bindings value world =>
        .after_deciding fun block _ => (block.returns_modifyData fun elements _ =>
          Body.returns_writeElements bindings block.elem fill elements).bind fun _ _ => .pure _
      exact List.mem_append_right _ claimed
  | readStored map key type =>
      exact .after_finding (Task.finds_handle map session) fun handle _ => .carrying
        (handle.returns_withValue key type fun value _ => Body.returns_readValue _ value)
  | readStoredOr map key type default =>
      refine .after_finding (Task.finds_handle map session) fun handle _ => ?_
      refine .after_finding (default.finds_build session) fun default _ => .carrying ?_
      exact handle.returns_withValueOr key type default fun value _ =>
        Body.returns_readValue _ value
  | writeStored map key type set =>
      refine .after_finding (Task.finds_handle map session) fun handle found => .carrying ?_
      refine handle.returns_modifyValue (kept _ ?_) key type fun value _ =>
        Body.returns_writeValue _ set value
      rw [claims, Session.handleClaims, found]
      exact List.mem_singleton_self _
  | writeStoredCell map key set empty =>
      refine .after_finding (Task.finds_handle map session) fun handle found => .carrying ?_
      have claimed : ⟨.store handle.store, .writing⟩ ∈
          (writeStoredCell map key set empty).claims session := by
        rw [claims, Session.handleClaims, found]
        exact List.mem_singleton_self _
      refine handle.returns_modifyCell (kept _ claimed) key
        (fun cell _ => Body.returns_writeCell _ set empty cell) ?_
      intro body cell world used left ran
      obtain ⟨asked, decided, same⟩ := Body.written_of_writeCell _ ran
      rw [same]
      cases empty with
      | true => exact ⟨fun _ => .inr (within.empties (.writeCell found lends)), fun _ => .inl rfl⟩
      | false =>
          cases set with
          | none =>
              cases decided
              exact ⟨.inl, .inl⟩
          | some spec =>
              have ends := within.replaces (.overwrites (.writeCell found))
              refine ⟨fun vacant => ?_, fun _ => .inr ends⟩
              cases asked with
              | some value => cases vacant
              | none => exact .inl vacant
  | readEntry name type =>
      exact .after_finding (Task.finds_entry name session) fun entry _ => .carrying
        (entry.returns_withValue type fun value _ => Body.returns_readValue _ value)
  | writeEntry name type set =>
      refine .after_finding (Task.finds_entry name session) fun entry found => .carrying ?_
      refine entry.returns_modifyValue (kept _ ?_) type fun value _ =>
        Body.returns_writeValue _ set value
      rw [claims, Session.entryClaims, found]
      exact List.mem_singleton_self _
  | readEntryCell name =>
      exact .after_finding (Task.finds_entry name session) fun entry _ => .carrying
        (entry.returns_withCell fun cell _ => Body.returns_readCell _ cell)

/-- From the end of its body on an access keeps within the bounds, if the body leaves alone what others
have claimed. -/
theorem allows_ended {body : Body} (lends : access.Lends session inner)
    (follows : inner.world.Follows (body inner).2.world)
    (within : (Step.lend access steps).Within bounds session) :
    bounds.Allows (body inner).2.world (leftBy (access.run body session)).world := by
  have kept : session.KeptBy (body inner).2.world (access.claims session) := by
    obtain ⟨-, begun, -⟩ := lends.opening
    rw [begun] at follows
    exact fun id claimed made =>
      follows.held ⟨.store id, .writing⟩ (List.mem_append_left _ claimed) made
  have returns : Returns bounds (body inner) session fun body => access.run body :=
    returns_run lends kept within
  cases returns with
  | closed failure runs => exact (lends.not_constant runs).elim
  | resumed allows =>
      obtain ⟨finish, runs, -⟩ := lends
      have same : access.run body session = access.run (fun _ => body inner) session :=
        (runs body).trans (runs fun _ => body inner).symm
      rw [same]
      exact allows

end Access

end PathStore
