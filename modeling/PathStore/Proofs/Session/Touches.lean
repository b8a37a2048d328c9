import PathStore.Proofs.Session.Spares

/-!
# What steps leave alone

A step may change the stores and buffers that it claims for writing, and end the owner that a
variable names which it lets name something else; what is done in its body is done by further steps.
A run leaves alone every resource that none of its steps touches, at none of its moments.
-/

namespace PathStore

variable {resource : Resource} {session : Session}

/-! ## Accesses -/

/-- Wherever it is run, the body leaves a resource alone. -/
def Body.Spares (body : Body) (resource : Resource) : Prop :=
  ∀ session : Session, session.world.Spared (body session).2.world resource

namespace Body

variable {body : Body} (spares : body.Spares resource) (bindings : Variables) {world : World}

include spares

theorem spares_carry : PathStore.Spares resource world (body.carry bindings) :=
  spares ⟨world, bindings⟩

theorem spares_readValue (value : Value) :
    PathStore.Spares resource world (body.readValue bindings value) :=
  (Spares.of_looks value.looks_snapshot).bind fun _ _ =>
    (spares_carry spares bindings).bind fun _ _ => .pure _

theorem spares_readCell (cell : Cell) :
    PathStore.Spares resource world (body.readCell bindings cell) :=
  (Spares.of_looks (Cell.looks_snapshot cell)).bind fun _ _ =>
    (spares_carry spares bindings).bind fun _ _ => .pure _

theorem spares_readElements (elements : List Scalar) :
    PathStore.Spares resource world (body.readElements bindings elements) :=
  (spares_carry spares bindings).bind fun _ _ => .pure _

theorem spares_writeValue (set : Option ValueSpec) (value : Value) :
    PathStore.Spares resource world (body.writeValue set bindings value) := by
  refine (Spares.of_looks value.looks_snapshot).bind fun seen _ => .bind_deciding fun asked _ => ?_
  dsimp only
  split
  · exact .throw_bind _ _
  · exact (spares_carry spares bindings).bind fun _ _ =>
      (Spares.of_looks (Value.looks_snapshot _)).bind fun _ _ => .pure _

theorem spares_writeCell (set : Option ValueSpec) (empty : Bool) (cell : Cell) :
    PathStore.Spares resource world (body.writeCell set empty bindings cell) :=
  (Spares.of_looks (Cell.looks_snapshot cell)).bind fun _ _ => .bind_deciding fun _ _ =>
    (spares_carry spares bindings).bind fun _ _ =>
      (Spares.of_looks (Cell.looks_snapshot _)).bind fun _ _ => .pure _

theorem spares_writeElements (elem : ElemType) (fill : List Literal) (elements : List Scalar) :
    PathStore.Spares resource world (body.writeElements elem fill bindings elements) :=
  .bind_deciding fun _ _ => (spares_carry spares bindings).bind fun _ _ => .pure _

end Body

theorem Access.spares_run {body : Body} {access : Access} (spares : body.Spares resource)
    (unwritten : Unwritten resource (access.claims session)) :
    Spares resource session (access.run body) := by
  cases access with
  | writeVariable name type set =>
      refine .bind_finds (Task.finds_value name session) fun held _ => ?_
      exact .bind_settled (Task.ofExcept_apply _ _) fun value _ =>
        .lending fun bindings => Body.spares_writeValue spares bindings set value
  | writeCell name type set =>
      refine .bind_finds (Task.finds_cell name session) fun cell _ => ?_
      exact .bind_settled (Task.ofExcept_apply _ _) fun value _ =>
        .lending fun bindings => Body.spares_writeValue spares bindings set value
  | readBuffer name =>
      exact .bind_finds (Task.finds_buffer name session) fun buffer _ =>
        .carrying (.readingBuffer (Body.spares_readElements spares _ _))
  | writeBuffer name fill =>
      refine .bind_finds (Task.finds_buffer name session) fun buffer found => .carrying ?_
      exact .writingBuffer (unwritten.of_found found).apart
        (Body.spares_writeElements spares _ _ _ _)
  | readBlock place =>
      exact place.spares_reading fun value _ bindings _ => .bind_deciding fun block _ =>
        block.spares_withData fun elements _ => Body.spares_readElements spares bindings elements
  | writeBlock place fill =>
      refine place.spares_writing unwritten.right fun value stands bindings world =>
        .bind_deciding fun block same => ?_
      have claimed := (unwritten.left.of_found stands).of_found (congrArg Except.toOption same)
      exact (Block.spares_modifyData (Block.clear_of_unwritten claimed) fun elements _ =>
        Body.spares_writeElements spares bindings _ _ elements).bind fun _ _ => .pure _
  | readStored map key type =>
      exact .bind_finds (Task.finds_handle map session) fun handle _ => .carrying
        (Handle.spares_withValue fun value _ _ => Body.spares_readValue spares _ value)
  | readStoredOr map key type default =>
      refine .bind_finds (Task.finds_handle map session) fun handle _ => ?_
      exact .bind_finds (default.finds_build session) fun default _ => .carrying
        (handle.spares_withValueOr key type default fun value _ =>
          Body.spares_readValue spares _ value)
  | writeStored map key type set =>
      refine .bind_finds (Task.finds_handle map session) fun handle found => .carrying ?_
      exact Handle.spares_modifyValue (unwritten.of_found found).apart fun value _ _ =>
        Body.spares_writeValue spares _ set value
  | writeStoredCell map key set empty =>
      refine .bind_finds (Task.finds_handle map session) fun handle found => .carrying ?_
      exact Handle.spares_modifyCell (unwritten.of_found found).apart key fun cell _ =>
        Body.spares_writeCell spares _ set empty cell
  | readEntry name type =>
      exact .bind_finds (Task.finds_entry name session) fun entry _ => .carrying
        (EntryRef.spares_withValue fun value _ _ => Body.spares_readValue spares _ value)
  | writeEntry name type set =>
      refine .bind_finds (Task.finds_entry name session) fun entry found => .carrying ?_
      exact EntryRef.spares_modifyValue (unwritten.of_found found).apart fun value _ _ =>
        Body.spares_writeValue spares _ set value
  | readEntryCell name =>
      exact .bind_finds (Task.finds_entry name session) fun entry _ => .carrying
        (EntryRef.spares_withCell fun cell _ => Body.spares_readCell spares _ cell)

/-- Of its body an access only uses what that makes of the session in which it is run. -/
theorem Access.spares_lending {body : Body} {access : Access} {inner : Session}
    (lends : access.Lends session inner)
    (spared : inner.world.Spared (body inner).2.world resource)
    (unwritten : Unwritten resource (access.claims session)) :
    Spares resource session (access.run body) := by
  classical
  obtain ⟨finish, runs, -⟩ := lends
  let only : Body := fun found => if found = inner then body inner else ([], found)
  have spares : only.Spares resource := by
    intro found
    simp only [only]
    split
    · rename_i same
      exact same ▸ spared
    · exact .refl _ _
  have same : access.run body session = access.run only session := by
    rw [runs body, runs only]
    simp only [only, if_true]
  unfold PathStore.Spares
  rw [same]
  exact access.spares_run spares unwritten

/-! ## Steps -/

/-- What a step may change, apart from what is done in its body. -/
inductive Step.Touches (session : Session) : Step → Resource → Prop where
  /-- It claims a store or buffer for writing. -/
  | writes {step : Step} {target : Target} (needed : ⟨target, .writing⟩ ∈ step.needs session) :
      Touches session step (.target target)
  /-- It makes an owner. -/
  | makes {text : String} {into : Option String} :
      Touches session (.act (.object (.newHost text)) into) (.host ⟨session.world.hosts.next⟩)
  /-- It lets a variable that names an owner name something else. -/
  | rebinds {action : Action} {into : Option String} {name : String} {id : HostId}
      (member : name ∈ action.rebinds) (named : session.bindings.lookup name = some (.host id)) :
      Touches session (.act action into) (.host id)
  /-- It lets a variable that names an owner name what it makes. -/
  | binds {action : Action} {name : String} {answer : Answer} {object : Object} {left : Session}
      {id : HostId} (ran : action.run session = .ok (answer, some object) left)
      (named : left.bindings.lookup name = some (.host id)) :
      Touches session (.act action (some name)) (.host id)

theorem Action.spares_run {action : Action} {into : Option String}
    (avoids : ¬ (Step.act action into).Touches session resource) :
    Spares resource session action.run := by
  have unwritten : Unwritten resource (action.needs session) :=
    fun target member same => avoids (same ▸ .writes member)
  have kept : ∀ name ∈ action.rebinds, ¬ session.Owns name resource := by
    rintro name member ⟨id, named, rfl⟩
    exact avoids (.rebinds member named)
  cases action with
  | path action => exact .pure _
  | layout action => exact .bind_settled (Task.ofExcept_apply _ _) fun _ _ => .pure _
  | object action =>
      refine action.spares_run kept ?_
      rintro text rfl rfl
      exact avoids .makes
  | buffer action => exact action.spares_run unwritten
  | array action => exact action.spares_run
  | view place action => exact action.spares_run unwritten
  | block place action => exact action.spares_run unwritten
  | map action => exact action.spares_run unwritten kept
  | cursor name action => exact action.spares_run kept
  | entry name action => exact action.spares_run unwritten

namespace Step

/-- At no moment does the next step touch the resource. -/
def Avoids (steps : List Step) (session : Session) (resource : Resource) : Prop :=
  ∀ {frames rest now} {next : Step}, Passes steps session frames (next :: rest) now →
    ¬ next.Touches now resource

theorem Avoids.tail {step : Step} {rest : List Step}
    (avoids : Avoids (step :: rest) session resource) :
    Avoids rest (step.run session).2 resource :=
  fun passes => avoids (.later passes)

theorem Avoids.body {access : Access} {body rest : List Step} {inner : Session}
    (avoids : Avoids (.lend access body :: rest) session resource)
    (lends : access.Lends session inner) : Avoids body inner resource :=
  fun passes => avoids (.inside lends passes)

theorem spared_of_spares {step : Step} (spares : Spares resource session step.task) :
    session.world.Spared (step.run session).2.world resource := by
  unfold Spares at spares
  rw [run_eq_settle, Task.settle]
  generalize step.task session = outcome at spares
  cases outcome with
  | ok answer left => exact spares
  | error failure left => exact spares

mutual

/-- A step leaves alone what neither it nor a step of its body touches. -/
theorem spares_task (step : Step) {rest : List Step} {session : Session}
    (avoids : Avoids (step :: rest) session resource) :
    Spares resource session step.task := by
  cases step with
  | act action into =>
      have untouched := avoids (.here _ _)
      refine (action.spares_run untouched).bind_ran fun outcome left ran => ?_
      obtain ⟨answer, object⟩ := outcome
      unfold Outcome.store
      split
      · rename_i name object same
        cases same
        refine (Task.spares_bind ?_ _).bind fun _ _ => .pure _
        rintro ⟨id, named, rfl⟩
        exact untouched (.binds ran named)
      · exact .pure _
  | lend access body =>
      have untouched := avoids (.here _ _)
      obtain ⟨inner, lends⟩ | ⟨failure, closed⟩ := access.lends_or_closed session
      · refine access.spares_lending lends (spared_runAll body (avoids.body lends)) ?_
        exact fun target member same => untouched (same ▸ .writes member)
      · have stays : (lend access body).task session = settled (.error failure) session := closed _
        exact .of_settled stays
  | unreadable reason => exact .throw _

/-- A run leaves alone what none of its steps touches. -/
theorem spared_runAll (steps : List Step) {session : Session}
    (avoids : Avoids steps session resource) :
    session.world.Spared (runAll steps session).2.world resource := by
  cases steps with
  | nil => exact .refl _ _
  | cons step rest =>
      have first := spared_of_spares (spares_task step avoids)
      rw [runAll_cons]
      exact first.trans (spared_runAll rest avoids.tail)

end

end Step

end PathStore
