import PathStore.Proofs.Session.Requests

/-!
# In which session a body runs

What an access does depends on its body only through what the body makes of one session, and whether
there is such a session does not depend on the body. In that session the access holds its claims;
apart from them, and from a variable whose object is lent, it is the session of the access itself.
-/

namespace PathStore

open Failure

/-- The world with further claims held, the latest one first. -/
def World.under (world : World) (claims : List Claim) : World :=
  { world with active := claims ++ world.active }

theorem World.under_acquire (world : World) (claim : Claim) (claims : List Claim) :
    (world.acquire claim).under claims = world.under (claims ++ [claim]) := by
  simp [under, acquire]

section Opening

variable {σ α β : Type} [Worldly σ]

open Worldly

/-- The end of a program that leaves the owners alone and tells no error. -/
inductive Rounded (before : World) : EStateM.Result Failure σ α → Prop where
  | ok {result : α} {left : σ} (hosts : (world left).hosts = before.hosts) :
      Rounded before (.ok result left)
  | silent {failure : Failure} {left : σ} (silent : failure.Silent)
      (hosts : (world left).hosts = before.hosts) : Rounded before (.error failure left)

/-- Whatever the state, the program leaves the owners alone and tells no error. -/
def RoundsOff (program : EStateM Failure σ α) : Prop :=
  ∀ state, Rounded (world state) (program state)

/-- What is done with a body: without the claims, or for another reason, nothing at all; otherwise the
body is run in one session, and what follows depends only on what it makes of that. -/
inductive Opening (claims : List Claim) (inner : Session) (before : σ)
    (run : Body → EStateM.Result Failure σ α) : Prop where
  | closed (failure : Failure) (runs : ∀ body, run body = .error failure before)
  | opened (admitted : (world before).AdmitsAll claims)
      (finish : List Answer × Session → EStateM.Result Failure σ α)
      (runs : ∀ body, run body = finish (body inner))
      (rounded : ∀ done, Rounded done.2.world (finish done))

theorem Rounded.after {before between : World} {outcome : EStateM.Result Failure σ α}
    (rounded : Rounded between outcome) (same : between.hosts = before.hosts) :
    Rounded before outcome := by
  cases rounded with
  | ok hosts => exact .ok (hosts.trans same)
  | silent silent hosts => exact .silent silent (hosts.trans same)

namespace RoundsOff

theorem pure (result : α) : RoundsOff (Pure.pure result : EStateM Failure σ α) :=
  fun _ => .ok rfl

theorem bind {program : EStateM Failure σ α} {next : α → EStateM Failure σ β}
    (first : RoundsOff program) (rest : ∀ result, RoundsOff (next result)) :
    RoundsOff (program >>= next) := by
  intro state
  have begun := first state
  cases ran : program state with
  | ok result left =>
      rw [bind_of_ok ran]
      rw [ran] at begun
      cases begun with
      | ok hosts => exact (rest result left).after hosts
  | error failure left =>
      rw [bind_of_error ran]
      rw [ran] at begun
      cases begun with
      | silent silent hosts => exact .silent silent hosts

end RoundsOff

theorem Looks.roundsOff {program : Op α} (looks : Looks Silent program) : RoundsOff program := by
  intro world
  obtain ⟨decided, runs, silent⟩ := looks world
  rw [runs]
  cases decided with
  | ok result => exact .ok rfl
  | error failure => exact .silent (silent failure rfl) rfl

namespace Opening

variable {claims : List Claim} {inner : Session} {before : σ}

/-- What is decided first does not depend on the body. -/
theorem bind_settled {program : EStateM Failure σ α} {next : α → Body → EStateM Failure σ β}
    {decided : Except Failure α} (runs : program before = settled decided before)
    (rest : ∀ result, decided = .ok result →
      Opening claims inner before fun body => next result body before) :
    Opening claims inner before fun body => (program >>= fun result => next result body) before := by
  cases decided with
  | ok result =>
      cases rest result rfl with
      | closed failure stops => exact .closed failure fun body => (bind_of_ok runs).trans (stops body)
      | opened admitted finish continues rounded =>
          exact .opened admitted finish (fun body => (bind_of_ok runs).trans (continues body)) rounded
  | error failure => exact .closed failure fun body => bind_of_error runs

/-- What comes last depends on the body only through what that makes of its session. -/
theorem bind {program : Body → EStateM Failure σ α} {next : α → EStateM Failure σ β}
    (opening : Opening claims inner before fun body => program body before)
    (closing : ∀ result, RoundsOff (next result)) :
    Opening claims inner before fun body => (program body >>= next) before := by
  cases opening with
  | closed failure runs => exact .closed failure fun body => bind_of_error (runs body)
  | opened admitted finish runs rounded =>
      let further done : EStateM.Result Failure σ β :=
        match finish done with
        | .ok result left => next result left
        | .error failure left => .error failure left
      refine .opened admitted further (fun body => ?_) fun done => ?_
      · cases ended : finish (body inner) with
        | ok result left => simp only [further, ended, bind_of_ok ((runs body).trans ended)]
        | error failure left => simp only [further, ended, bind_of_error ((runs body).trans ended)]
      · have kept := rounded done
        simp only [further]
        generalize finish done = outcome at kept
        cases kept with
        | @ok result left hosts => exact (closing result left).after hosts
        | silent silent hosts => exact .silent silent hosts

end Opening

end Opening

/-! ## Programs over the world -/

/-- The program runs its body under further claims, with the given variables. -/
def Lends {α : Type} (claims : List Claim) (bindings : Variables) (world : World)
    (program : Body → Op α) : Prop :=
  Opening claims ⟨world.under claims, bindings⟩ world fun body => program body world

namespace Lends

variable {α β : Type} {claims : List Claim} {bindings : Variables} {world : World}

theorem carry : Lends [] bindings world fun body => body.carry bindings :=
  .opened World.admitsAll_nil (fun done => .ok (done.1, done.2.bindings) done.2.world)
    (fun _ => rfl) fun _ => .ok rfl

theorem bind {program : Body → Op α} {next : α → Op β} (lends : Lends claims bindings world program)
    (closing : ∀ result, RoundsOff (next result)) :
    Lends claims bindings world fun body => program body >>= next :=
  Opening.bind lends closing

theorem after_looking {kind : Failure → Prop} {program : Op α} {next : α → Body → Op β}
    (looks : Looks kind program) (rest : ∀ result, Lends claims bindings world (next result)) :
    Lends claims bindings world fun body => program >>= fun result => next result body := by
  obtain ⟨decided, runs, -⟩ := looks world
  exact Opening.bind_settled runs fun result _ => rest result

theorem after_deciding {decided : Except Failure α} {next : α → Body → Op β}
    (rest : ∀ result, decided = .ok result → Lends claims bindings world (next result)) :
    Lends claims bindings world fun body =>
      Op.ofExcept decided >>= fun result => next result body :=
  Opening.bind_settled (Op.ofExcept_apply _ _) rest

/-- Which claims are held may depend on what is decided first. -/
theorem after_claiming {decided : Except Failure α} {next : α → Body → Op β}
    {held : α → List Claim} (rest : ∀ result, Lends (held result) bindings world (next result)) :
    Lends (claimsOf decided.toOption held) bindings world fun body =>
      Op.ofExcept decided >>= fun result => next result body := by
  refine after_deciding fun result same => ?_
  rw [same]
  exact rest result

/-- What comes of a program once the latest claim is given up. -/
def closing {α : Type} : EStateM.Result Failure World α → EStateM.Result Failure World α
  | .ok result left => .ok result left.release
  | .error failure left => .error failure left.release

/-- A claim is held around those that are held within. -/
theorem holding {claim : Claim} {refusal : Failure} {program : Body → Op α}
    (lends : Lends claims bindings (world.acquire claim) program) :
    Lends (claims ++ [claim]) bindings world fun body =>
      Op.holding claim refusal (program body) := by
  unfold Lends at lends ⊢
  rw [World.under_acquire] at lends
  by_cases admits : world.admits claim
  · cases lends with
    | closed failure runs =>
        exact .closed failure fun body => by simp only [Op.holding, admits, if_true, runs]; rfl
    | opened admitted finish runs rounded =>
        refine .opened ?_ (fun done => closing (finish done)) (fun body => ?_) fun done => ?_
        · intro need member
          rcases List.mem_append.mp member with within | last
          · exact admitted.of_acquire need within
          · rwa [List.mem_singleton.mp last]
        · simp only [Op.holding, admits, if_true, runs]
          rfl
        · have kept := rounded done
          generalize finish done = outcome at kept ⊢
          cases kept with
          | ok hosts => exact .ok hosts
          | silent silent hosts => exact .silent silent hosts
  · exact .closed refusal fun body => by simp only [Op.holding, admits]; rfl

theorem readingStore {id : StoreId} {refusal : Failure} {use : Entries Cell → Body → Op α}
    (lends : Lends claims bindings (world.acquire ⟨.store id, .reading⟩) (use (world.entries id))) :
    Lends (claims ++ [⟨.store id, .reading⟩]) bindings world fun body =>
      id.reading refusal fun entries => use entries body :=
  holding lends

theorem readingBuffer {id : BufferId} {refusal : Failure} {use : List Scalar → Body → Op α}
    (lends : Lends claims bindings (world.acquire ⟨.buffer id, .reading⟩)
      (use (world.elements id))) :
    Lends (claims ++ [⟨.buffer id, .reading⟩]) bindings world fun body =>
      id.reading refusal fun elements => use elements body :=
  holding lends

theorem writingStore {id : StoreId} {use : Entries Cell → Body → Op (α × Entries Cell)}
    (lends : Lends claims bindings (world.acquire ⟨.store id, .writing⟩) (use (world.entries id))) :
    Lends (claims ++ [⟨.store id, .writing⟩]) bindings world fun body =>
      id.writing fun entries => use entries body := by
  have written : ∀ made : α × Entries Cell, RoundsOff
      (modify (·.setEntries id made.2) >>= fun _ => pure made.1 : Op α) := fun _ _ => .ok rfl
  exact holding (lends.bind written)

theorem writingBuffer {id : BufferId} {use : List Scalar → Body → Op (α × List Scalar)}
    (lends : Lends claims bindings (world.acquire ⟨.buffer id, .writing⟩)
      (use (world.elements id))) :
    Lends (claims ++ [⟨.buffer id, .writing⟩]) bindings world fun body =>
      id.writing fun elements => use elements body := by
  have written : ∀ made : α × List Scalar, RoundsOff
      (modify (·.setElements id made.2) >>= fun _ => pure made.1 : Op α) := fun _ _ => .ok rfl
  exact holding (lends.bind written)

end Lends

/-! ## Bodies -/

namespace Body

variable (bindings : Variables) {world : World}

theorem lends_readValue (value : Value) :
    Lends [] bindings world fun body => body.readValue bindings value :=
  .after_looking value.looks_snapshot fun _ => Lends.carry.bind fun _ => .pure _

theorem lends_readCell (cell : Cell) :
    Lends [] bindings world fun body => body.readCell bindings cell :=
  .after_looking (Cell.looks_snapshot cell) fun _ => Lends.carry.bind fun _ => .pure _

theorem lends_readElements (elements : List Scalar) :
    Lends [] bindings world fun body => body.readElements bindings elements :=
  Lends.carry.bind fun _ => .pure _

theorem lends_writeValue (set : Option ValueSpec) (value : Value) :
    Lends [] bindings world fun body => body.writeValue set bindings value := by
  refine .after_looking value.looks_snapshot fun seen => .after_deciding fun asked _ => ?_
  dsimp only
  split
  · exact .closed _ fun _ => rfl
  · exact Lends.carry.bind fun _ => (Value.looks_snapshot _).roundsOff.bind fun _ => .pure _

theorem lends_writeCell (set : Option ValueSpec) (empty : Bool) (cell : Cell) :
    Lends [] bindings world fun body => body.writeCell set empty bindings cell :=
  .after_looking (Cell.looks_snapshot cell) fun _ => .after_deciding fun _ _ =>
    Lends.carry.bind fun _ => (Cell.looks_snapshot _).roundsOff.bind fun _ => .pure _

theorem lends_writeElements (elem : ElemType) (fill : List Literal) (elements : List Scalar) :
    Lends [] bindings world fun body => body.writeElements elem fill bindings elements :=
  .after_deciding fun _ _ => Lends.carry.bind fun _ => .pure _

end Body

/-! ## Operations -/

section Operations

variable {α : Type} {claims : List Claim} {bindings : Variables} {world : World}

namespace Handle

variable (handle : Handle)

theorem lends_withValue {use : Value → Body → Op α} (key : String) (type : ValueType)
    (each : ∀ value world, Lends claims bindings world (use value)) :
    Lends (claims ++ [⟨.store handle.store, .reading⟩]) bindings world fun body =>
      handle.withValue key type fun value => use value body := by
  simp only [withValue_eq]
  exact .readingStore (.after_deciding fun value _ => each value _)

theorem lends_withValueOr {use : Value → Body → Op α} (key : String) (type : ValueType)
    (default : Value) (each : ∀ value world, Lends claims bindings world (use value)) :
    Lends (claims ++ [⟨.store handle.store, .reading⟩]) bindings world fun body =>
      handle.withValueOr key type default fun value => use value body := by
  refine .readingStore ?_
  cases (world.entries handle.store).find? (handle.resolve key) with
  | some cell => exact .after_deciding fun value _ => each value _
  | none => exact each default _

theorem lends_modifyValue {use : Value → Body → Op (α × Value)} (key : String) (type : ValueType)
    (each : ∀ value world, Lends claims bindings world (use value)) :
    Lends (claims ++ [⟨.store handle.store, .writing⟩]) bindings world fun body =>
      handle.modifyValue key type fun value => use value body := by
  simp only [modifyValue_eq]
  exact .writingStore (.after_deciding fun value _ => (each value _).bind fun _ => .pure _)

theorem lends_modifyCell {use : Cell → Body → Op (α × Cell)} (key : String)
    (each : ∀ cell world, Lends claims bindings world (use cell)) :
    Lends (claims ++ [⟨.store handle.store, .writing⟩]) bindings world fun body =>
      handle.modifyCell key fun cell => use cell body :=
  .writingStore (.after_deciding fun cell _ => (each cell _).bind fun _ => .pure _)

end Handle

namespace EntryRef

variable (entry : EntryRef)

theorem lends_withCell {use : Cell → Body → Op α}
    (each : ∀ cell world, Lends claims bindings world (use cell)) :
    Lends (claims ++ [⟨.store entry.store, .reading⟩]) bindings world fun body =>
      entry.withCell fun cell => use cell body :=
  .readingStore (.after_deciding fun cell _ => each cell _)

theorem lends_withValue {use : Value → Body → Op α} (type : ValueType)
    (each : ∀ value world, Lends claims bindings world (use value)) :
    Lends (claims ++ [⟨.store entry.store, .reading⟩]) bindings world fun body =>
      entry.withValue type fun value => use value body := by
  simp only [withValue_eq]
  exact .readingStore (.after_deciding fun value _ => each value _)

theorem lends_modifyValue {use : Value → Body → Op (α × Value)} (type : ValueType)
    (each : ∀ value world, Lends claims bindings world (use value)) :
    Lends (claims ++ [⟨.store entry.store, .writing⟩]) bindings world fun body =>
      entry.modifyValue type fun value => use value body := by
  simp only [modifyValue_eq]
  exact .writingStore (.after_deciding fun value _ => (each value _).bind fun _ => .pure _)

end EntryRef

namespace BufferId

variable (id : BufferId)

theorem lends_reading {refusal : Failure} {use : List Scalar → Body → Op α}
    (each : ∀ elements world, Lends [] bindings world (use elements)) :
    Lends [⟨.buffer id, .reading⟩] bindings world fun body =>
      id.reading refusal fun elements => use elements body :=
  .readingBuffer (each _ _)

theorem lends_writing {use : List Scalar → Body → Op (α × List Scalar)}
    (each : ∀ elements world, Lends [] bindings world (use elements)) :
    Lends [⟨.buffer id, .writing⟩] bindings world fun body =>
      id.writing fun elements => use elements body :=
  .writingBuffer (each _ _)

end BufferId

namespace Block

variable (block : Block)

theorem lends_withData {use : List Scalar → Body → Op α}
    (each : ∀ elements world, Lends [] bindings world (use elements)) :
    Lends (block.claims .reading) bindings world fun body =>
      block.withData fun elements => use elements body := by
  cases stored : block.storage with
  | owned data =>
      simp only [withData, claims, stored]
      exact each _ _
  | borrowed buffer =>
      simp only [withData, claims, stored]
      exact buffer.id.lends_reading fun _ _ => each _ _
  | released =>
      simp only [withData, claims, stored]
      exact .closed _ fun _ => rfl

theorem lends_modifyData {use : List Scalar → Body → Op (α × List Scalar)}
    (each : ∀ elements world, Lends [] bindings world (use elements)) :
    Lends (block.claims .writing) bindings world fun body =>
      block.modifyData fun elements => use elements body := by
  cases stored : block.storage with
  | owned data =>
      simp only [modifyData, claims, stored]
      exact (each _ _).bind fun _ => .pure _
  | borrowed buffer =>
      simp only [modifyData, claims, stored]
      exact Lends.bind (buffer.id.lends_writing fun _ _ => (each _ _).bind fun _ => .pure _)
        fun _ => .pure _
  | released =>
      simp only [modifyData, claims, stored]
      exact .closed _ fun _ => rfl

end Block

end Operations

/-! ## Tasks -/

/-- The task runs its body under further claims, with variables of the session. -/
def Task.Lends {α : Type} (claims : List Claim) (session : Session) (task : Body → Task α) : Prop :=
  ∃ bindings : Variables, bindings ⊆ session.bindings ∧
    Opening claims ⟨session.world.under claims, bindings⟩ session fun body => task body session

namespace Task.Lends

variable {α β : Type} {claims : List Claim} {session : Session}

theorem of_runsOn {task : Body → Task β} {program : Body → Op α} {result : α → β}
    {rebound : α → Variables} {bindings : Variables}
    (runs : ∀ body, RunsOn (task body) (program body) result rebound session)
    (inside : bindings ⊆ session.bindings)
    (lends : PathStore.Lends claims bindings session.world program) :
    Task.Lends claims session task := by
  refine ⟨bindings, inside, ?_⟩
  cases lends with
  | closed failure stops =>
      exact .closed failure fun body => (runs body).trans (congrArg _ (stops body))
  | opened admitted finish continues rounded =>
      refine .opened admitted (fun done => Task.ended result rebound session (finish done))
        (fun body => (runs body).trans (congrArg _ (continues body))) fun done => ?_
      have kept := rounded done
      generalize finish done = outcome at kept ⊢
      cases kept with
      | ok hosts => exact .ok hosts
      | silent silent hosts => exact .silent silent hosts

theorem carrying {program : Body → Variables → Op (α × Variables)}
    (lends : PathStore.Lends claims session.bindings session.world fun body =>
      program body session.bindings) :
    Task.Lends claims session fun body => Task.carrying (program body) :=
  of_runsOn (fun body => Task.runsOn_carrying (program body) session) (List.Subset.refl _) lends

theorem lending {name : String} {object : β → Object}
    {program : Body → Variables → Op ((α × Variables) × β)}
    (lends : ∀ bindings, PathStore.Lends claims bindings session.world fun body =>
      program body bindings) :
    Task.Lends claims session fun body => Task.lending name object (program body) :=
  of_runsOn (fun body => Task.runsOn_lending name object (program body) session)
    (List.filter_subset_self _) (lends _)

theorem after_settled {task : Task α} {next : α → Body → Task β} {decided : Except Failure α}
    (runs : task session = settled decided session)
    (rest : ∀ result, decided = .ok result → Task.Lends claims session (next result)) :
    Task.Lends claims session fun body => task >>= fun result => next result body := by
  cases decided with
  | ok result =>
      obtain ⟨bindings, inside, opening⟩ := rest result rfl
      exact ⟨bindings, inside, .bind_settled runs fun _ same => by cases same; exact opening⟩
  | error failure =>
      exact ⟨session.bindings, List.Subset.refl _, .bind_settled runs fun _ same => by cases same⟩

theorem after_finding {task : Task α} {next : α → Body → Task β} {found : Option α}
    (finds : Finds task session found)
    (rest : ∀ result, found = some result → Task.Lends claims session (next result)) :
    Task.Lends claims session fun body => task >>= fun result => next result body := by
  obtain ⟨decided, runs, same⟩ := finds.exists_settled
  refine after_settled runs fun result known => rest result ?_
  rw [← same, known]
  rfl

theorem closed {task : Body → Task α} (failure : Failure)
    (runs : ∀ body, task body session = .error failure session) :
    Task.Lends claims session task :=
  ⟨session.bindings, List.Subset.refl _, .closed failure runs⟩

end Task.Lends

namespace Place

variable {α : Type} {claims : Value → List Claim} {session : Session} (place : Place)

theorem lends_reading (form : Form) {use : Variables → Value → Body → Op (α × Variables)}
    (each : ∀ bindings value world, Lends (claims value) bindings world (use bindings value)) :
    Task.Lends (claimsOf (place.value? session form) claims ++ place.claims session .reading) session
      fun body => place.reading form fun bindings value => use bindings value body := by
  cases place with
  | «variable» name =>
      refine .after_finding (Task.finds_value name session) fun value found => ?_
      dsimp only
      split
      · exact .closed _ fun _ => rfl
      · rename_i fits
        have stands : (Place.variable name).value? session form = some value := by
          simp [value?, found, not_not.mp fits]
        rw [stands, Place.claims, List.append_nil]
        exact .carrying (each _ value _)
  | stored map key elem =>
      refine .after_finding (Task.finds_handle map session) fun handle found => ?_
      simp only [Place.claims, Session.handleClaims, value?, found, Handle.withValue_eq]
      exact .carrying (.readingStore (.after_claiming fun value => each _ value _))
  | entry name elem =>
      refine .after_finding (Task.finds_entry name session) fun entry found => ?_
      simp only [Place.claims, Session.entryClaims, value?, found, EntryRef.withValue_eq]
      exact .carrying (.readingStore (.after_claiming fun value => each _ value _))
  | cell name elem =>
      refine .after_finding (Task.finds_cell name session) fun cell found => ?_
      simp only [Place.claims, value?, found, List.append_nil]
      refine .after_settled (Task.ofExcept_apply _ _) fun value fits => ?_
      change Cell.expect cell ⟨form, elem⟩ = .ok value at fits
      rw [Option.bind_some, fits]
      exact .carrying (each _ value _)

theorem lends_writing (form : Form) {use : Variables → Value → Body → Op ((α × Variables) × Value)}
    (each : ∀ bindings value world, Lends (claims value) bindings world (use bindings value)) :
    Task.Lends (claimsOf (place.value? session form) claims ++ place.claims session .writing) session
      fun body => place.writing form fun bindings value => use bindings value body := by
  cases place with
  | «variable» name =>
      refine .after_finding (Task.finds_value name session) fun value found => ?_
      dsimp only
      split
      · exact .closed _ fun _ => rfl
      · rename_i fits
        have stands : (Place.variable name).value? session form = some value := by
          simp [value?, found, not_not.mp fits]
        rw [stands, Place.claims, List.append_nil]
        exact .lending fun bindings => each bindings value _
  | stored map key elem =>
      refine .after_finding (Task.finds_handle map session) fun handle found => ?_
      simp only [Place.claims, Session.handleClaims, value?, found, Handle.modifyValue_eq]
      exact .carrying (.writingStore (.after_claiming fun value =>
        (each _ value _).bind fun _ => .pure _))
  | entry name elem =>
      refine .after_finding (Task.finds_entry name session) fun entry found => ?_
      simp only [Place.claims, Session.entryClaims, value?, found, EntryRef.modifyValue_eq]
      exact .carrying (.writingStore (.after_claiming fun value =>
        (each _ value _).bind fun _ => .pure _))
  | cell name elem =>
      refine .after_finding (Task.finds_cell name session) fun cell found => ?_
      simp only [Place.claims, value?, found, List.append_nil]
      refine .after_settled (Task.ofExcept_apply _ _) fun value fits => ?_
      change Cell.expect cell ⟨form, elem⟩ = .ok value at fits
      rw [Option.bind_some, fits]
      exact .lending fun bindings => each bindings value _

end Place

/-! ## Accesses -/

/-- An access runs its body under its claims, with variables of the session. -/
theorem Access.lends_run (access : Access) (session : Session) :
    Task.Lends (access.claims session) session fun body => access.run body := by
  cases access with
  | writeVariable name type set =>
      refine .after_finding (Task.finds_value name session) fun value _ => ?_
      refine .after_settled (Task.ofExcept_apply _ _) fun held _ => ?_
      exact .lending fun bindings => Body.lends_writeValue bindings set held
  | writeCell name type set =>
      refine .after_finding (Task.finds_cell name session) fun cell _ => ?_
      refine .after_settled (Task.ofExcept_apply _ _) fun held _ => ?_
      exact .lending fun bindings => Body.lends_writeValue bindings set held
  | readBuffer name =>
      refine .after_finding (Task.finds_buffer name session) fun buffer found => ?_
      simp only [claims, Session.bufferClaims, found]
      exact .carrying (buffer.id.lends_reading fun _ _ => Body.lends_readElements _ _)
  | writeBuffer name fill =>
      refine .after_finding (Task.finds_buffer name session) fun buffer found => ?_
      simp only [claims, Session.bufferClaims, found]
      exact .carrying (buffer.id.lends_writing fun _ _ => Body.lends_writeElements _ _ fill _)
  | readBlock place =>
      exact place.lends_reading .block fun bindings value world =>
        .after_claiming fun block => block.lends_withData fun elements _ =>
          Body.lends_readElements bindings elements
  | writeBlock place fill =>
      exact place.lends_writing .block fun bindings value world =>
        .after_claiming fun block => (block.lends_modifyData fun elements _ =>
          Body.lends_writeElements bindings block.elem fill elements).bind fun _ => .pure _
  | readStored map key type =>
      refine .after_finding (Task.finds_handle map session) fun handle found => ?_
      simp only [claims, Session.handleClaims, found]
      exact .carrying (handle.lends_withValue key type fun value _ => Body.lends_readValue _ value)
  | readStoredOr map key type default =>
      refine .after_finding (Task.finds_handle map session) fun handle found => ?_
      refine .after_finding (default.finds_build session) fun default _ => ?_
      simp only [claims, Session.handleClaims, found]
      exact .carrying (handle.lends_withValueOr key type default fun value _ =>
        Body.lends_readValue _ value)
  | writeStored map key type set =>
      refine .after_finding (Task.finds_handle map session) fun handle found => ?_
      simp only [claims, Session.handleClaims, found]
      exact .carrying (handle.lends_modifyValue key type fun value _ =>
        Body.lends_writeValue _ set value)
  | writeStoredCell map key set empty =>
      refine .after_finding (Task.finds_handle map session) fun handle found => ?_
      simp only [claims, Session.handleClaims, found]
      exact .carrying (handle.lends_modifyCell key fun cell _ =>
        Body.lends_writeCell _ set empty cell)
  | readEntry name type =>
      refine .after_finding (Task.finds_entry name session) fun entry found => ?_
      simp only [claims, Session.entryClaims, found]
      exact .carrying (entry.lends_withValue type fun value _ => Body.lends_readValue _ value)
  | writeEntry name type set =>
      refine .after_finding (Task.finds_entry name session) fun entry found => ?_
      simp only [claims, Session.entryClaims, found]
      exact .carrying (entry.lends_modifyValue type fun value _ =>
        Body.lends_writeValue _ set value)
  | readEntryCell name =>
      refine .after_finding (Task.finds_entry name session) fun entry found => ?_
      simp only [claims, Session.entryClaims, found]
      exact .carrying (entry.lends_withCell fun cell _ => Body.lends_readCell _ cell)

end PathStore
