import PathStore.Proofs.Session.Actions

/-!
# Reachable sessions are canonical

The actions on maps, cursors and entries and all accesses keep sessions canonical as well, and with
them every run of steps, by induction on the steps and on those that something is lent to. A session
that is reached from a new one holds no claims.
-/

namespace PathStore

open Invariant PathStore.Task Outcome

/-! ## Maps, cursors and entries -/

theorem MapAction.keeps_run (action : MapAction) : Keeps action.run Outcome.Canonical := by
  cases action with
  | create =>
      exact (Keeps.ofOp (Handle.keeps_create Entries.canonical_empty)).bind fun _ located =>
        keeps_handle located
  | ofEntries entries =>
      apply (ValueSpec.steady_buildEntries entries).bind
      intro values _
      apply (Keeps.ofOp (Handle.keeps_create Entries.canonical_empty)).bind
      intro handle located
      exact (Keeps.ofOp (Handle.steady_updateMany located values)).bind fun _ _ =>
        keeps_handle located
  | location map => exact (keeps_handle map).bind fun _ _ => keeps_only _
  | isRoot map => exact (keeps_handle map).bind fun _ _ => keeps_only _
  | shares map other =>
      exact (keeps_handle map).bind fun _ _ => (keeps_handle other).bind fun _ _ => keeps_only _
  | path map key => exact (keeps_handle map).bind fun _ _ => keeps_only _
  | update map key value =>
      apply (keeps_handle map).bind
      intro handle located
      apply value.steady_build.bind
      intro value _
      exact (Keeps.ofOp (Handle.steady_update located key value)).bind fun _ _ => keeps_only _
  | updateMany map entries =>
      apply (keeps_handle map).bind
      intro handle located
      apply (ValueSpec.steady_buildEntries entries).bind
      intro values _
      exact (Keeps.ofOp (Handle.steady_updateMany located values)).bind fun _ _ => keeps_only _
  | insertDefault map key value =>
      apply (keeps_handle map).bind
      intro handle located
      apply value.steady_build.bind
      intro value _
      exact keeps_answer (Handle.steady_insertDefault located key value) _
  | insertDefaultMany map entries =>
      apply (ValueSpec.steady_buildEntries entries).bind
      intro values _
      apply (keeps_handle map).bind
      intro handle located
      exact keeps_answer (Handle.steady_insertDefaultMany located values) _
  | get map key type =>
      exact (keeps_handle map).bind fun _ _ => keeps_valueOf (Handle.steady_get key type)
  | getOr map key type default =>
      apply default.steady_build.bind
      intro default _
      exact (keeps_handle map).bind fun _ _ =>
        keeps_valueOf (Handle.steady_getOr key type default)
  | getAny map key =>
      exact (keeps_handle map).bind fun _ located =>
        keeps_valueOf (Handle.steady_getAny located key)
  | typeName map key =>
      exact (keeps_handle map).bind fun _ _ => keeps_answer (Handle.steady_typeName key) _
  | isStored map key =>
      exact (keeps_handle map).bind fun _ _ => keeps_answer (Handle.steady_isStored key) _
  | size map => exact (keeps_handle map).bind fun _ _ => keeps_answer Handle.steady_size _
  | isEmpty map => exact (keeps_handle map).bind fun _ _ => keeps_answer Handle.steady_isEmpty _
  | keys map => exact (keeps_handle map).bind fun _ _ => keeps_answer Handle.steady_keys _
  | erase map key =>
      exact (keeps_handle map).bind fun handle _ =>
        keeps_answer (Handle.steady_eraseKey handle.store (handle.resolve key)) _
  | eraseEntry map entry =>
      exact (keeps_handle map).bind fun handle _ => (steady_entry entry).bind fun entry _ =>
        keeps_answer (handle.steady_eraseEntry entry) _
  | eraseRange map name =>
      exact (keeps_handle map).bind fun handle _ => (steady_cursor name).bind fun cursor _ =>
        keeps_answer (handle.steady_eraseRange cursor) _
  | eraseRecursive map written =>
      exact (keeps_handle map).bind fun handle _ =>
        keeps_answer (Handle.steady_eraseSubtree handle.store (handle.resolve written)) _
  | clear map =>
      exact (keeps_handle map).bind fun handle _ =>
        keeps_answer (Handle.steady_eraseSubtree handle.store handle.location.key) _
  | submap map written =>
      exact (keeps_handle map).bind fun _ located =>
        keeps_handle (Handle.canonical_submap located written)
  | copy map =>
      exact (keeps_handle map).bind fun handle _ =>
        (Keeps.ofOp (handle.keeps_copy .locked)).bind fun _ located => keeps_handle located
  | tryCopy map =>
      exact (keeps_handle map).bind fun handle _ =>
        (Keeps.ofOp (handle.keeps_copy .busy)).bind fun _ located => keeps_handle located
  | assign map other =>
      apply ((keeps_handle map).mono fun _ _ => trivial).discard.bind
      intro _ _
      apply (keeps_handle other).bind
      intro other located
      exact (@steady_bind map (.handle other) located).bind fun _ _ => keeps_only _
  | graft map key other =>
      apply (keeps_handle map).bind
      intro handle located
      apply (keeps_handle other).bind
      intro other _
      exact (Keeps.ofOp (Handle.steady_graft located key other)).bind fun _ _ => keeps_only _
  | merge map other =>
      apply (keeps_handle map).bind
      intro handle located
      apply (keeps_handle other).bind
      intro other _
      exact (Keeps.ofOp (Handle.steady_graft located "" other)).bind fun _ _ => keeps_only _
  | cursor map => exact (keeps_handle map).bind fun _ _ => keeps_some _ trivial
  | cursorAt map written => exact (keeps_handle map).bind fun _ _ => keeps_some _ trivial
  | listing map =>
      exact (keeps_handle map).bind fun handle _ => keeps_answer handle.steady_snapshot _

theorem CursorAction.keeps_stepped (name : String) (taken : Option EntryRef × Cursor) :
    Keeps (stepped name taken) Outcome.Canonical := by
  apply (@steady_bind name (.cursor taken.2) trivial).bind
  intro _ _
  split
  · exact keeps_some _ trivial
  · exact keeps_only _

theorem CursorAction.keeps_run (name : String) (action : CursorAction) :
    Keeps (action.run name) Outcome.Canonical := by
  apply (steady_cursor name).bind
  intro cursor _
  cases action with
  | next =>
      exact (Keeps.ofOp (cursor.steady_stepWith _)).bind fun taken _ => keeps_stepped name taken
  | nextBack =>
      exact (Keeps.ofOp (cursor.steady_stepWith _)).bind fun taken _ => keeps_stepped name taken
  | collect => exact keeps_answer cursor.steady_collect _
  | collectBack => exact keeps_answer cursor.steady_collectBack _
  | copy => exact keeps_some _ trivial

theorem EntryAction.keeps_run (name : String) (action : EntryAction) :
    Keeps (action.run name) Outcome.Canonical := by
  apply (steady_entry name).bind
  intro entry _
  cases action with
  | keys => exact keeps_only _
  | typeName => exact keeps_answer EntryRef.steady_typeName _
  | value type => exact keeps_valueOf (EntryRef.steady_value type)
  | anyValue => exact keeps_valueOf EntryRef.steady_anyValue
  | set spec =>
      apply spec.steady_build.bind
      intro value _
      exact (Keeps.ofOp (EntryRef.steady_set value)).bind fun _ _ => keeps_only _

theorem Action.keeps_run (action : Action) : Keeps action.run Outcome.Canonical := by
  cases action with
  | path action => exact keeps_only _
  | layout action => exact (steady_ofExcept _).bind fun _ _ => keeps_only _
  | object action => exact action.keeps_run
  | buffer action => exact action.keeps_run
  | array action => exact action.keeps_run
  | view place action => exact action.keeps_run place
  | block place action => exact action.keeps_run place
  | map action => exact action.keeps_run
  | cursor name action => exact action.keeps_run name
  | entry name action => exact action.keeps_run name

/-! ## Accesses -/

/-- The session is canonical and holds the claims that were held before. -/
structure Session.Follows (before after : Session) : Prop where
  canonical : after.Canonical
  claims : after.world.active = before.world.active

/-- Whenever it is run in a canonical session the body leaves one, with the same claims. -/
def Body.Steady (body : Body) : Prop :=
  ∀ session : Session, session.Canonical → session.Follows (body session).2

namespace Body

variable {body : Body} {bindings : Variables}

theorem keeps_carry (steady : body.Steady) (canonical : bindings.Canonical) :
    Op.Keeps (body.carry bindings) fun result => result.2.Canonical := by
  intro world known
  have left := steady ⟨world, bindings⟩ ⟨known, canonical⟩
  exact .ok left.canonical.world left.claims left.canonical.bindings

theorem keeps_readValue (steady : body.Steady) (canonical : bindings.Canonical) (value : Value) :
    Op.Keeps (body.readValue bindings value) fun result => True ∧ result.2.Canonical :=
  value.steady_snapshot.bind fun _ _ =>
    (keeps_carry steady canonical).bind fun _ left => Keeps.pure ⟨trivial, left⟩

theorem keeps_readCell (steady : body.Steady) (canonical : bindings.Canonical) (cell : Cell) :
    Op.Keeps (body.readCell bindings cell) fun result => True ∧ result.2.Canonical :=
  (Cell.steady_snapshot cell).bind fun _ _ =>
    (keeps_carry steady canonical).bind fun _ left => Keeps.pure ⟨trivial, left⟩

theorem keeps_readElements (steady : body.Steady) (canonical : bindings.Canonical)
    (elements : List Scalar) :
    Op.Keeps (body.readElements bindings elements) fun result => True ∧ result.2.Canonical :=
  (keeps_carry steady canonical).bind fun _ left => Keeps.pure ⟨trivial, left⟩

theorem keeps_writeValue (steady : body.Steady) (canonical : bindings.Canonical)
    (set : Option ValueSpec) (value : Value) :
    Op.Keeps (body.writeValue set bindings value) fun result => True ∧ result.1.2.Canonical := by
  apply value.steady_snapshot.bind
  intro seen _
  apply (Op.steady_ofExcept _).bind
  intro asked _
  dsimp only
  split
  · exact Keeps.throw_bind _ _
  · apply (keeps_carry steady canonical).bind
    intro carried left
    exact (Value.steady_snapshot _).bind fun _ _ => Keeps.pure ⟨trivial, left⟩

theorem keeps_writeCell (steady : body.Steady) (canonical : bindings.Canonical)
    (set : Option ValueSpec) (empty : Bool) (cell : Cell) :
    Op.Keeps (body.writeCell set empty bindings cell) fun result =>
      True ∧ result.1.2.Canonical := by
  apply (Cell.steady_snapshot cell).bind
  intro seen _
  apply (Op.steady_ofExcept _).bind
  intro asked _
  apply (keeps_carry steady canonical).bind
  intro carried left
  exact (Cell.steady_snapshot _).bind fun _ _ => Keeps.pure ⟨trivial, left⟩

theorem keeps_writeElements (steady : body.Steady) (canonical : bindings.Canonical)
    (elem : ElemType) (fill : List Literal) (elements : List Scalar) :
    Op.Keeps (body.writeElements elem fill bindings elements) fun result =>
      True ∧ result.1.2.Canonical := by
  apply (Op.steady_ofExcept _).bind
  intro fill _
  exact (keeps_carry steady canonical).bind fun _ left => Keeps.pure ⟨trivial, left⟩

end Body

open Body

theorem Access.steady_run {body : Body} (steady : body.Steady) (access : Access) :
    Steady (access.run body) := by
  cases access with
  | writeVariable name type set =>
      apply (steady_value name).bind
      intro held _
      apply (steady_ofExcept _).bind
      intro value _
      exact Keeps.lending (fun _ => trivial) fun _ canonical =>
        keeps_writeValue steady canonical set value
  | writeCell name type set =>
      apply (steady_cell name).bind
      intro cell _
      apply (steady_ofExcept _).bind
      intro value _
      exact Keeps.lending (fun _ => trivial) fun _ canonical =>
        keeps_writeValue steady canonical set value
  | readBuffer name =>
      apply (steady_buffer name).bind
      intro buffer _
      exact Keeps.carrying fun _ canonical =>
        Op.Keeps.readingBuffer _ (keeps_readElements steady canonical)
  | writeBuffer name fill =>
      apply (steady_buffer name).bind
      intro buffer _
      exact Keeps.carrying fun _ canonical =>
        Op.Keeps.writingBuffer (keeps_writeElements steady canonical buffer.elem fill)
  | readBlock place =>
      apply place.keeps_reading
      intro bindings canonical value
      apply (Op.steady_ofExcept _).bind
      intro block _
      exact block.keeps_withData (keeps_readElements steady canonical)
  | writeBlock place fill =>
      apply place.keeps_writing
      intro bindings canonical value
      apply (Op.steady_ofExcept _).bind
      intro block _
      have written : Op.Keeps (block.modifyData (body.writeElements block.elem fill bindings))
          fun result => True ∧ result.1.2.Canonical :=
        @Block.keeps_modifyData block _ _
          (fun result : Answer × Variables => True ∧ result.2.Canonical)
          (keeps_writeElements steady canonical block.elem fill)
      exact written.bind fun _ left => Keeps.pure left
  | readStored map key type =>
      apply (keeps_handle map).bind
      intro handle _
      exact Keeps.carrying fun _ canonical =>
        Handle.keeps_withValue _ _ (keeps_readValue steady canonical)
  | readStoredOr map key type default =>
      apply (keeps_handle map).bind
      intro handle _
      apply default.steady_build.bind
      intro default _
      exact Keeps.carrying fun _ canonical =>
        Handle.keeps_withValueOr _ _ _ (keeps_readValue steady canonical)
  | writeStored map key type set =>
      apply (keeps_handle map).bind
      intro handle located
      exact Keeps.carrying fun _ canonical =>
        Handle.keeps_modifyValue located _ _ (keeps_writeValue steady canonical set)
  | writeStoredCell map key set empty =>
      apply (keeps_handle map).bind
      intro handle located
      exact Keeps.carrying fun _ canonical =>
        Handle.keeps_modifyCell located _ (keeps_writeCell steady canonical set empty)
  | readEntry name type =>
      apply (steady_entry name).bind
      intro entry _
      exact Keeps.carrying fun _ canonical =>
        EntryRef.keeps_withValue _ (keeps_readValue steady canonical)
  | writeEntry name type set =>
      apply (steady_entry name).bind
      intro entry _
      exact Keeps.carrying fun _ canonical =>
        EntryRef.keeps_modifyValue _ (keeps_writeValue steady canonical set)
  | readEntryCell name =>
      apply (steady_entry name).bind
      intro entry _
      exact Keeps.carrying fun _ canonical =>
        EntryRef.keeps_withCell (keeps_readCell steady canonical)

/-! ## Runs -/

theorem Task.follows_settle {task : Task Answer} (steady : Steady task) {session : Session}
    (canonical : session.Canonical) : session.Follows (task.settle session).2 := by
  have kept := steady session canonical
  unfold settle
  generalize task session = outcome at kept
  cases kept with
  | ok canonical claims _ => exact ⟨canonical, claims⟩
  | error canonical claims => exact ⟨canonical, claims⟩

mutual

theorem Step.follows_run (step : Step) {session : Session} (canonical : session.Canonical) :
    session.Follows (step.run session).2 := by
  cases step with
  | act action into =>
      rw [Step.run]
      exact Task.follows_settle
        (action.keeps_run.bind fun _ made => Outcome.steady_store into made) canonical
  | lend access body =>
      rw [Step.run]
      exact Task.follows_settle
        (access.steady_run fun _ canonical => Step.follows_runAll body canonical) canonical
  | unreadable reason => exact ⟨canonical, rfl⟩

/-- Steps leave a canonical session with the claims that were held before. -/
theorem Step.follows_runAll (steps : List Step) {session : Session}
    (canonical : session.Canonical) : session.Follows (Step.runAll steps session).2 := by
  cases steps with
  | nil => exact ⟨canonical, rfl⟩
  | cons step rest =>
      have first := Step.follows_run step canonical
      have last := Step.follows_runAll rest first.canonical
      exact ⟨last.canonical, last.claims.trans first.claims⟩

end

/-- The session after some steps from a new one. -/
def Session.after (steps : List Step) : Session := (Step.runAll steps default).2

theorem Session.canonical_after (steps : List Step) : (after steps).Canonical :=
  (Step.follows_runAll steps canonical_default).canonical

/-- Between steps nothing is claimed. -/
theorem Session.active_after (steps : List Step) : (after steps).world.active = [] :=
  (Step.follows_runAll steps canonical_default).claims

end PathStore
