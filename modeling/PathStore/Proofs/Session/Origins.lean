import PathStore.Proofs.Session.Existence
import PathStore.Proofs.Session.Moments

/-!
# Actions name what exists

Every action and every access keeps sessions complete, and the object that an action makes names only
what exists. So at every moment of a run whatever an access holds a claim on has been made.
-/

namespace PathStore

open PathStore.Task Secures Outcome

variable {session : Session}

/-! ## Objects, buffers and arrays -/

theorem Object.tidy_same (left right : Object) : Tidy session (left.same right) := by
  unfold same
  split
  · exact .ofOp ((Value.looks_same _ _).tidy _)
  · exact .ofOp ((Cell.looks_same _ _).tidy _)
  · exact .pure World.knows_nil
  · exact .throw _

theorem ObjectAction.secures_run (action : ObjectAction) :
    Secures session action.run Outcome.targets := by
  cases action with
  | newValue spec => exact spec.secures_build.bind fun _ _ _ known => secures_value known
  | showValue name =>
      exact (Task.secures_value name).bind fun value _ _ _ =>
        secures_answer (value.looks_snapshot.tidy _) _
  | typeName name => exact (Task.secures_value name).bind fun _ _ _ _ => secures_only _
  | hasType name type => exact (Task.secures_value name).bind fun _ _ _ _ => secures_only _
  | get name type =>
      refine (Task.secures_value name).bind fun value left _ known => ?_
      refine Secures.bind (.ofOp (ofExcept (Value.knows_expect known))) ?_
      exact fun _ _ _ found => secures_value found
  | set name spec =>
      refine (Task.secures_value name).discard.bind fun _ _ _ _ => ?_
      refine spec.secures_build.bind fun value _ _ known => ?_
      exact (@tidy_bind _ name (.value value) known).bind fun _ _ _ _ =>
        secures_answer (value.looks_snapshot.tidy _) _
  | newCell spec =>
      refine get_bind fun complete => ?_
      refine Secures.bind (.ofOp (ofExcept (ValueSpec.knows_optionIn complete.bindings spec))) ?_
      intro cell left _ known
      exact (Secures.ofOp ((Cell.looks_snapshot cell).tidy _)).bind fun _ _ grows _ =>
        .pure (known.grows grows)
  | showCell name =>
      exact (secures_cell name).bind fun cell _ _ _ =>
        secures_answer ((Cell.looks_snapshot cell).tidy _) _
  | setCell name spec =>
      refine (secures_cell name).discard.bind fun _ _ _ _ => ?_
      refine spec.secures_build.bind fun value _ _ known => ?_
      exact (@tidy_bind _ name (.cell (some value)) known).bind fun _ _ _ _ =>
        secures_answer ((Cell.looks_snapshot (some value)).tidy _) _
  | getCell name type =>
      refine (secures_cell name).bind fun cell left _ known => ?_
      refine Secures.bind (.ofOp (ofExcept (Cell.knows_expect known))) ?_
      exact fun _ _ _ found => secures_value found
  | takeCell name =>
      refine (secures_cell name).bind fun cell left _ known => ?_
      cases cell with
      | some value => exact secures_value known
      | none => exact secures_only _
  | newHost text =>
      exact (Secures.ofOp (HostId.tidy_create text)).bind fun _ _ _ _ => .pure World.knows_nil
  | forget name => exact (tidy_forget name).bind fun _ _ _ _ => secures_only _
  | same left right =>
      refine (tidy_named left _ _).bind fun left _ _ _ => ?_
      refine (tidy_named right _ _).bind fun right _ _ _ => ?_
      exact (left.tidy_same right).bind fun _ _ _ _ => secures_only _
  | inspect name =>
      exact (tidy_named name _ _).bind fun _ _ _ _ => get_bind fun _ => secures_only _

theorem BufferAction.secures_run (action : BufferAction) :
    Secures session action.run Outcome.targets := by
  cases action with
  | create elem data =>
      exact (Secures.ofOp (BufferRef.secures_create elem data)).bind fun _ _ _ known =>
        secures_buffer known
  | copy name => exact (Task.secures_buffer name).bind fun _ _ _ known => secures_buffer known
  | length name =>
      exact (Task.secures_buffer name).bind fun buffer _ _ _ =>
        secures_answer (buffer.looks_length.tidy _) _
  | get name position =>
      exact (Task.secures_buffer name).bind fun buffer _ _ _ =>
        secures_answer (buffer.tidy_get position) _
  | set name position element =>
      refine (Task.secures_buffer name).bind fun buffer _ _ _ => ?_
      refine (Task.tidy_ofExcept _).bind fun element _ _ _ => ?_
      exact (Secures.ofOp (buffer.tidy_set position element)).bind fun _ _ _ _ => secures_only _
  | toList name =>
      exact (Task.secures_buffer name).bind fun buffer _ _ _ => secures_answer buffer.tidy_toList _
  | same left right =>
      exact (Task.secures_buffer left).bind fun _ _ _ _ =>
        (Task.secures_buffer right).bind fun _ _ _ _ => secures_only _

theorem ArrayAction.secures_run (action : ArrayAction) :
    Secures session action.run Outcome.targets := by
  cases action with
  | view buffer offset shape strides =>
      refine (Task.secures_buffer buffer).bind fun buffer _ _ known => ?_
      exact (Secures.ofOp (View.secures_make known offset shape strides)).bind fun _ _ _ made =>
        Outcome.secures_value made
  | wholeView buffer =>
      refine (Task.secures_buffer buffer).bind fun buffer _ _ known => ?_
      exact (Secures.ofOp (View.secures_ofBuffer known)).bind fun _ _ _ made =>
        Outcome.secures_value made
  | bufferBlock buffer shape strides memory =>
      refine (Task.secures_buffer buffer).bind fun buffer _ _ known => ?_
      cases strides with
      | some strides =>
          exact (Secures.ofOp (Block.secures_ofBuffer known shape strides memory)).bind
            fun _ _ _ made => Outcome.secures_value made
      | none =>
          exact (Secures.ofOp (Block.secures_ofBufferShape known shape memory)).bind
            fun _ _ _ made => Outcome.secures_value made
  | listBlock elem data => exact Outcome.secures_value World.knows_nil
  | shapedBlock elem data shape strides =>
      cases strides with
      | some strides =>
          refine Secures.bind (.ofOp (ofExcept (Block.knows_make _ _ _ _))) ?_
          exact fun _ _ _ made => Outcome.secures_value made
      | none =>
          refine Secures.bind (.ofOp (ofExcept (Block.knows_ofShape _ _ _))) ?_
          exact fun _ _ _ made => Outcome.secures_value made

/-! ## Arrays where they stand -/

/-- An answer alone, out of a program over the world. -/
theorem Outcome.secures_shown {α : Type} {program : Op α} {world : World}
    (tidy : Tidy world program) (answer : α → Answer) :
    Secures world (program >>= fun result => Pure.pure (only (answer result))) targets :=
  tidy.bind fun _ _ _ _ => .pure World.knows_nil

theorem ViewAction.secures_run (place : Place) (action : ViewAction) :
    Secures session (action.run place) Outcome.targets := by
  cases action with
  | describe =>
      exact place.secures_readingView fun view world _ =>
        secures_shown (view.looks_info.tidy world) _
  | get index =>
      exact place.secures_readingView fun view _ _ => secures_shown (view.tidy_get index) _
  | set index element =>
      refine place.secures_readingView fun view _ _ => ?_
      refine (Op.tidy_ofExcept _).bind fun element _ _ _ => ?_
      exact (view.tidy_set index element).bind fun _ _ _ _ => .pure World.knows_nil
  | getLinear position =>
      exact place.secures_readingView fun view _ _ => secures_shown (view.tidy_getLinear position) _
  | setLinear position element =>
      refine place.secures_readingView fun view _ _ => ?_
      refine (Op.tidy_ofExcept _).bind fun element _ _ _ => ?_
      exact (view.tidy_setLinear position element).bind fun _ _ _ _ => .pure World.knows_nil
  | toList =>
      exact place.secures_readingView fun view world _ =>
        secures_shown (view.looks_toList.tidy world) _
  | slice selectors =>
      have sliced : Secures session (place.readingView fun view => do
          view.slice (← (selectors.mapM SelectorSpec.build : Except Failure (List Selector))))
          View.targets :=
        place.secures_readingView fun view world known =>
          (Op.tidy_ofExcept _).bind fun _ _ grows _ => ofExcept fun part same =>
            (View.targets_slice view same ▸ known).grows grows
      exact sliced.bind fun _ _ _ known => Outcome.secures_value known
  | buffer =>
      have found : Secures session (place.readingView fun view => pure view.buffer)
          fun buffer => [.buffer buffer.id] :=
        place.secures_readingView fun _ _ known => .pure known
      exact found.bind fun _ _ _ known => Outcome.secures_buffer known
  | owner =>
      exact place.secures_readingView fun view world _ =>
        secures_shown (view.looks_showOwner.tidy world) _
  | resetOwner name kind =>
      refine place.secures_writing .view fun bindings value world known found => ?_
      refine Secures.bind (ofExcept (Value.knows_toView found)) fun view _ first viewed => ?_
      refine (Op.tidy_ofExcept _).bind fun host _ second _ => .pure ?_
      exact World.knows_append.mpr ⟨(known.grows first).grows second, viewed.grows second⟩
  | clearOwner => exact place.secures_writingView fun _ _ known => .pure known

theorem BlockAction.secures_run (place : Place) (action : BlockAction) :
    Secures session (action.run place) Outcome.targets := by
  cases action with
  | describe => exact place.secures_readingBlock fun _ _ _ => .pure World.knows_nil
  | get position =>
      exact place.secures_readingBlock fun block _ _ => secures_shown (block.tidy_get position) _
  | set position element =>
      refine place.secures_writingBlock fun block _ known => ?_
      refine (Op.tidy_ofExcept _).bind fun element _ grows _ => ?_
      exact (block.secures_set (known.grows grows) position element).bind fun _ _ _ changed =>
        .pure changed
  | toList =>
      exact place.secures_readingBlock fun block world _ =>
        secures_shown (block.looks_toList.tidy world) _
  | release =>
      have released : Tidy session (place.writingBlock fun block => pure block.release) :=
        place.secures_writingBlock fun block _ known => .pure (known.subset block.targets_release)
      exact released.bind fun _ _ _ _ => (Task.tidy_ofExcept _).bind fun _ _ _ _ => secures_only _
  | take =>
      have taken : Secures session (place.writingBlock fun block => pure (block, block.husk))
          Block.targets :=
        place.secures_writingBlock fun block _ known =>
          .pure (World.knows_append.mpr ⟨known, World.knows_nil⟩)
      exact taken.bind fun _ _ _ known => Outcome.secures_value known
  | view =>
      have viewed : Secures session (place.readingBlock fun block => block.view) View.targets :=
        place.secures_readingBlock fun block _ known => block.secures_view known
      exact viewed.bind fun _ _ _ known => Outcome.secures_value known
  | copyAs memory =>
      have copied : Secures session (place.readingBlock fun block => block.copyAs memory)
          Block.targets :=
        place.secures_readingBlock fun block _ known => block.secures_copyAs known memory
      exact copied.bind fun _ _ _ known => Outcome.secures_value known

/-! ## Maps, cursors and entries -/

theorem MapAction.secures_run (action : MapAction) :
    Secures session action.run Outcome.targets := by
  cases action with
  | create =>
      exact (Secures.ofOp (Handle.secures_create World.knows_empty)).bind fun _ _ _ known =>
        Outcome.secures_handle known
  | ofEntries entries =>
      refine (ValueSpec.secures_buildEntries entries).bind fun values _ _ known => ?_
      refine (Secures.ofOp (Handle.secures_create World.knows_empty)).bind ?_
      intro handle _ grows made
      refine Secures.bind (.ofOp (handle.tidy_updateMany ?_)) fun _ _ grows _ =>
        Outcome.secures_handle (made.grows grows)
      exact World.knows_flatMap.mp (known.grows grows)
  | location map => exact (Task.secures_handle map).bind fun _ _ _ _ => secures_only _
  | isRoot map => exact (Task.secures_handle map).bind fun _ _ _ _ => secures_only _
  | shares map other =>
      exact (Task.secures_handle map).bind fun _ _ _ _ =>
        (Task.secures_handle other).bind fun _ _ _ _ => secures_only _
  | path map key => exact (Task.secures_handle map).bind fun _ _ _ _ => secures_only _
  | update map key value =>
      refine (Task.secures_handle map).bind fun handle _ _ _ => ?_
      refine value.secures_build.bind fun value _ _ known => ?_
      exact (Secures.ofOp (handle.tidy_update key known)).bind fun _ _ _ _ => secures_only _
  | updateMany map entries =>
      refine (Task.secures_handle map).bind fun handle _ _ _ => ?_
      refine (ValueSpec.secures_buildEntries entries).bind fun values _ _ known => ?_
      exact (Secures.ofOp (handle.tidy_updateMany (World.knows_flatMap.mp known))).bind
        fun _ _ _ _ => secures_only _
  | insertDefault map key value =>
      refine (Task.secures_handle map).bind fun handle _ _ _ => ?_
      refine value.secures_build.bind fun value _ _ known => ?_
      exact secures_answer (handle.tidy_insertDefault key known) _
  | insertDefaultMany map entries =>
      refine (ValueSpec.secures_buildEntries entries).bind fun values _ _ known => ?_
      refine (Task.secures_handle map).bind fun handle _ grows _ => ?_
      exact secures_answer
        (handle.tidy_insertDefaultMany (World.knows_flatMap.mp (known.grows grows))) _
  | get map key type =>
      exact (Task.secures_handle map).bind fun handle _ _ _ =>
        secures_valueOf (handle.secures_get key type)
  | getOr map key type default =>
      refine default.secures_build.bind fun default _ _ known => ?_
      exact (Task.secures_handle map).bind fun handle _ grows _ =>
        secures_valueOf (handle.secures_getOr key type (known.grows grows))
  | getAny map key =>
      exact (Task.secures_handle map).bind fun handle _ _ _ =>
        secures_valueOf (handle.secures_getAny key)
  | typeName map key =>
      exact (Task.secures_handle map).bind fun handle _ _ _ =>
        secures_answer (handle.tidy_typeName key) _
  | isStored map key =>
      exact (Task.secures_handle map).bind fun handle _ _ _ =>
        secures_answer (handle.tidy_isStored key) _
  | size map =>
      exact (Task.secures_handle map).bind fun handle _ _ _ => secures_answer handle.tidy_size _
  | isEmpty map =>
      exact (Task.secures_handle map).bind fun handle _ _ _ => secures_answer handle.tidy_isEmpty _
  | keys map =>
      exact (Task.secures_handle map).bind fun handle _ _ _ => secures_answer handle.tidy_keys _
  | erase map key =>
      exact (Task.secures_handle map).bind fun handle _ _ _ =>
        secures_answer (Handle.tidy_eraseKey handle.store (handle.resolve key)) _
  | eraseEntry map entry =>
      exact (Task.secures_handle map).bind fun handle _ _ _ =>
        (Task.secures_entry entry).bind fun entry _ _ _ =>
          secures_answer (handle.tidy_eraseEntry entry) _
  | eraseRange map name =>
      exact (Task.secures_handle map).bind fun handle _ _ _ =>
        (Task.secures_cursor name).bind fun cursor _ _ _ =>
          secures_answer (handle.tidy_eraseRange cursor) _
  | eraseRecursive map written =>
      exact (Task.secures_handle map).bind fun handle _ _ _ =>
        secures_answer (Handle.tidy_eraseSubtree handle.store (handle.resolve written)) _
  | clear map =>
      exact (Task.secures_handle map).bind fun handle _ _ _ =>
        secures_answer (Handle.tidy_eraseSubtree handle.store handle.location.key) _
  | submap map written =>
      exact (Task.secures_handle map).bind fun _ _ _ known => Outcome.secures_handle known
  | copy map =>
      exact (Task.secures_handle map).bind fun handle _ _ _ =>
        (Secures.ofOp (handle.secures_copy .locked)).bind fun _ _ _ known =>
          Outcome.secures_handle known
  | tryCopy map =>
      exact (Task.secures_handle map).bind fun handle _ _ _ =>
        (Secures.ofOp (handle.secures_copy .busy)).bind fun _ _ _ known =>
          Outcome.secures_handle known
  | assign map other =>
      refine (Task.secures_handle map).discard.bind fun _ _ _ _ => ?_
      refine (Task.secures_handle other).bind fun other _ _ known => ?_
      exact (@tidy_bind _ map (.handle other) known).bind fun _ _ _ _ => secures_only _
  | graft map key other =>
      refine (Task.secures_handle map).bind fun handle _ _ _ => ?_
      refine (Task.secures_handle other).bind fun other _ _ _ => ?_
      exact (Secures.ofOp (handle.tidy_graft key other)).bind fun _ _ _ _ => secures_only _
  | merge map other =>
      refine (Task.secures_handle map).bind fun handle _ _ _ => ?_
      refine (Task.secures_handle other).bind fun other _ _ _ => ?_
      exact (Secures.ofOp (handle.tidy_graft "" other)).bind fun _ _ _ _ => secures_only _
  | cursor map => exact (Task.secures_handle map).bind fun _ _ _ known => .pure known
  | cursorAt map written => exact (Task.secures_handle map).bind fun _ _ _ known => .pure known
  | listing map =>
      exact (Task.secures_handle map).bind fun handle _ _ _ => secures_answer handle.tidy_snapshot _

theorem CursorAction.secures_stepped (name : String) {taken : Option EntryRef × Cursor}
    (known : session.world.Knows
      ([.store taken.2.store] ++ taken.1.toList.map fun entry => .store entry.store)) :
    Secures session (stepped name taken) Outcome.targets := by
  obtain ⟨walk, entry⟩ := World.knows_append.mp known
  refine (@tidy_bind _ name (.cursor taken.2) walk).bind fun _ _ grows _ => ?_
  split
  · rename_i found given
    rw [given] at entry
    exact .pure (entry.grows grows)
  · exact secures_only _

theorem CursorAction.secures_run (name : String) (action : CursorAction) :
    Secures session (action.run name) Outcome.targets := by
  refine (Task.secures_cursor name).bind fun cursor _ _ known => ?_
  cases action with
  | next =>
      exact (Secures.ofOp (cursor.secures_step known .front)).bind fun _ _ _ taken =>
        secures_stepped name taken
  | nextBack =>
      exact (Secures.ofOp (cursor.secures_step known .back)).bind fun _ _ _ taken =>
        secures_stepped name taken
  | collect => exact secures_answer cursor.tidy_collect _
  | collectBack => exact secures_answer cursor.tidy_collectBack _
  | copy => exact .pure known

theorem EntryAction.secures_run (name : String) (action : EntryAction) :
    Secures session (action.run name) Outcome.targets := by
  refine (Task.secures_entry name).bind fun entry _ _ _ => ?_
  cases action with
  | keys => exact secures_only _
  | typeName => exact secures_answer entry.tidy_typeName _
  | value type => exact secures_valueOf (entry.secures_value type)
  | anyValue => exact secures_valueOf entry.secures_anyValue
  | set spec =>
      refine spec.secures_build.bind fun value _ _ known => ?_
      exact (Secures.ofOp (entry.tidy_set known)).bind fun _ _ _ _ => secures_only _

theorem Action.secures_run (action : Action) : Secures session action.run Outcome.targets := by
  cases action with
  | path action => exact secures_only _
  | layout action => exact (Task.tidy_ofExcept _).bind fun _ _ _ _ => secures_only _
  | object action => exact action.secures_run
  | buffer action => exact action.secures_run
  | array action => exact action.secures_run
  | view place action => exact action.secures_run place
  | block place action => exact action.secures_run place
  | map action => exact action.secures_run
  | cursor name action => exact action.secures_run name
  | entry name action => exact action.secures_run name

/-! ## Accesses -/

/-- The body leaves complete sessions complete, and loses nothing that was made. -/
def Body.Sustains (body : Body) : Prop :=
  ∀ session : Session, session.Complete →
    (body session).2.Complete ∧ session.world.Grows (body session).2.world

namespace Body

variable {body : Body} {bindings : Variables} {world : World}

theorem secures_carry (sustains : body.Sustains) (known : world.Knows bindings.targets) :
    Secures world (body.carry bindings) fun made => made.2.targets := by
  intro complete
  obtain ⟨left, grows⟩ := sustains ⟨world, bindings⟩ ⟨complete, known⟩
  exact .ok left.world grows left.bindings

theorem secures_readValue (sustains : body.Sustains) (known : world.Knows bindings.targets)
    (value : Value) : Secures world (body.readValue bindings value) fun made => made.2.targets :=
  (value.looks_snapshot.tidy world).bind fun _ _ grows _ =>
    (secures_carry sustains (known.grows grows)).bind fun _ _ _ left => .pure left

theorem secures_readCell (sustains : body.Sustains) (known : world.Knows bindings.targets)
    (cell : Cell) : Secures world (body.readCell bindings cell) fun made => made.2.targets :=
  ((Cell.looks_snapshot cell).tidy world).bind fun _ _ grows _ =>
    (secures_carry sustains (known.grows grows)).bind fun _ _ _ left => .pure left

theorem secures_readElements (sustains : body.Sustains) (known : world.Knows bindings.targets)
    (elements : List Scalar) :
    Secures world (body.readElements bindings elements) fun made => made.2.targets :=
  (secures_carry sustains known).bind fun _ _ _ left => .pure left

theorem secures_writeValue (sustains : body.Sustains) (known : world.Knows bindings.targets)
    (set : Option ValueSpec) {value : Value} (found : world.Knows value.targets) :
    Secures world (body.writeValue set bindings value) fun made =>
      made.1.2.targets ++ made.2.targets := by
  refine (value.looks_snapshot.tidy world).bind fun _ seen first _ => ?_
  refine Secures.bind (ofExcept (ValueSpec.knows_optionIn (known.grows first) set)) ?_
  intro asked left second given
  have held : left.Knows (asked.getD value).targets := by
    cases asked with
    | some other => exact given
    | none => exact (found.grows first).grows second
  dsimp only
  split
  · exact .throw_bind _ _
  · refine (secures_carry sustains ((known.grows first).grows second)).bind ?_
    intro _ carried third left
    refine ((Value.looks_snapshot _).tidy carried).bind fun _ _ fourth _ => .pure ?_
    exact World.knows_append.mpr ⟨left.grows fourth, (held.grows third).grows fourth⟩

theorem secures_writeCell (sustains : body.Sustains) (known : world.Knows bindings.targets)
    (set : Option ValueSpec) (empty : Bool) {cell : Cell} (found : world.Knows (Cell.targets cell)) :
    Secures world (body.writeCell set empty bindings cell) fun made =>
      made.1.2.targets ++ Cell.targets made.2 := by
  refine ((Cell.looks_snapshot cell).tidy world).bind fun _ seen first _ => ?_
  refine Secures.bind (ofExcept (ValueSpec.knows_optionIn (known.grows first) set)) ?_
  intro asked left second given
  have held : left.Knows (Cell.targets (if empty then none else asked.or cell)) := by
    cases empty with
    | true => exact World.knows_nil
    | false =>
        cases asked with
        | some other => exact given
        | none => exact (found.grows first).grows second
  refine (secures_carry sustains ((known.grows first).grows second)).bind ?_
  intro _ carried third left
  refine ((Cell.looks_snapshot _).tidy carried).bind fun _ _ fourth _ => .pure ?_
  exact World.knows_append.mpr ⟨left.grows fourth, (held.grows third).grows fourth⟩

theorem secures_writeElements (sustains : body.Sustains) (known : world.Knows bindings.targets)
    (elem : ElemType) (fill : List Literal) (elements : List Scalar) :
    Secures world (body.writeElements elem fill bindings elements) fun made => made.1.2.targets :=
  (Op.tidy_ofExcept _).bind fun _ _ grows _ =>
    (secures_carry sustains (known.grows grows)).bind fun _ _ _ left => .pure left

end Body

/-- An access keeps sessions complete if the steps do so that something is lent to. -/
theorem Access.tidy_run {body : Body} (sustains : body.Sustains) (access : Access) :
    Tidy session (access.run body) := by
  cases access with
  | writeVariable name type set =>
      refine (Task.secures_value name).bind fun value _ _ known => ?_
      refine Secures.bind (.ofOp (ofExcept (Value.knows_expect known))) fun value _ _ found => ?_
      exact .lending fun bindings known => body.secures_writeValue sustains known set found
  | writeCell name type set =>
      refine (Task.secures_cell name).bind fun cell _ _ known => ?_
      refine Secures.bind (.ofOp (ofExcept (Cell.knows_expect known))) fun value _ _ found => ?_
      exact .lending fun bindings known => body.secures_writeValue sustains known set found
  | readBuffer name =>
      refine (Task.secures_buffer name).bind fun buffer _ _ _ => .carrying fun known => ?_
      exact readingBuffer (body.secures_readElements sustains (known.acquire _) _)
  | writeBuffer name fill =>
      refine (Task.secures_buffer name).bind fun buffer _ _ _ => .carrying fun known => ?_
      exact writingBuffer (body.secures_writeElements sustains (known.acquire _) buffer.elem fill _)
  | readBlock place =>
      refine place.secures_reading .block fun bindings value world known found => ?_
      refine Secures.bind (ofExcept (Value.knows_toBlock found)) fun block _ grows _ => ?_
      exact block.secures_withData fun elements _ further =>
        body.secures_readElements sustains ((known.grows grows).grows further) elements
  | writeBlock place fill =>
      refine place.secures_writing .block fun bindings value world known found => ?_
      refine Secures.bind (ofExcept (Value.knows_toBlock found)) fun block _ grows held => ?_
      refine Secures.bind (@Block.secures_modifyData _ _ (·.2.targets) block _ held ?_)
        fun _ _ _ left => .pure left
      exact fun elements _ further =>
        body.secures_writeElements sustains ((known.grows grows).grows further) _ fill elements
  | readStored map key type =>
      refine (Task.secures_handle map).bind fun handle _ _ _ => .carrying fun known => ?_
      exact handle.secures_withValue key type fun value _ grows _ =>
        body.secures_readValue sustains (known.grows grows) value
  | readStoredOr map key type default =>
      refine (Task.secures_handle map).bind fun handle _ _ _ => ?_
      refine default.secures_build.bind fun default _ _ held => .carrying fun known => ?_
      exact handle.secures_withValueOr key type held fun value _ grows _ =>
        body.secures_readValue sustains (known.grows grows) value
  | writeStored map key type set =>
      refine (Task.secures_handle map).bind fun handle _ _ _ => .carrying fun known => ?_
      exact handle.secures_modifyValue key type fun value _ grows found =>
        body.secures_writeValue sustains (known.grows grows) set found
  | writeStoredCell map key set empty =>
      refine (Task.secures_handle map).bind fun handle _ _ _ => .carrying fun known => ?_
      exact handle.secures_modifyCell key fun cell _ grows found =>
        body.secures_writeCell sustains (known.grows grows) set empty found
  | readEntry name type =>
      refine (Task.secures_entry name).bind fun entry _ _ _ => .carrying fun known => ?_
      exact entry.secures_withValue type fun value _ grows _ =>
        body.secures_readValue sustains (known.grows grows) value
  | writeEntry name type set =>
      refine (Task.secures_entry name).bind fun entry _ _ _ => .carrying fun known => ?_
      exact entry.secures_modifyValue type fun value _ grows found =>
        body.secures_writeValue sustains (known.grows grows) set found
  | readEntryCell name =>
      refine (Task.secures_entry name).bind fun entry _ _ _ => .carrying fun known => ?_
      exact entry.secures_withCell fun cell _ grows _ =>
        body.secures_readCell sustains (known.grows grows) cell

/-! ## Runs -/

theorem Secures.settle {task : Task Answer} (tidy : Tidy session task)
    (complete : session.Complete) :
    (task.settle session).2.Complete ∧ session.world.Grows (task.settle session).2.world := by
  have ended := tidy complete
  unfold Task.settle
  generalize task session = outcome at ended
  cases ended with
  | ok complete grows _ => exact ⟨complete, grows⟩
  | error complete grows => exact ⟨complete, grows⟩

mutual

theorem Step.tidy_task (step : Step) (session : Session) : Tidy session step.task := by
  cases step with
  | act action into => exact action.secures_run.bind fun _ _ _ known => tidy_store into known
  | lend access body => exact access.tidy_run (Step.sustains_body body)
  | unreadable reason => exact .throw _

/-- Steps keep sessions complete. -/
theorem Step.sustains_body (body : List Step) : Body.Sustains (Step.runAll body) := by
  intro session complete
  cases body with
  | nil => exact ⟨complete, fun _ made => made⟩
  | cons step rest =>
      obtain ⟨first, grows⟩ := (Step.tidy_task step session).settle complete
      rw [← step.run_eq_settle] at first grows
      rw [Step.runAll_cons]
      obtain ⟨last, further⟩ := Step.sustains_body rest (step.run session).2 first
      exact ⟨last, fun target made => further target (grows target made)⟩

end

/-- A step leaves a complete session complete. -/
theorem Step.complete_run (step : Step) {session : Session} (complete : session.Complete) :
    (step.run session).2.Complete := by
  rw [step.run_eq_settle]
  exact ((step.tidy_task session).settle complete).1

/-- In a complete session, a body is run in a complete one. -/
theorem Access.Lends.complete {access : Access} {session inner : Session}
    (lends : access.Lends session inner) (complete : session.Complete) : inner.Complete := by
  obtain ⟨-, world, bindings⟩ := lends.opening
  constructor
  · rw [world]
    exact complete.world
  · rw [world]
    exact complete.bindings.subset (Variables.targets_subset bindings)

/-- What is complete at the beginning of a run is so at each of its moments. -/
theorem Step.Passes.complete {steps remaining : List Step} {session now : Session}
    {frames : List Frame} (passes : Passes steps session frames remaining now)
    (complete : session.Complete) : now.Complete := by
  induction passes with
  | here => exact complete
  | later _ ih => exact ih (Step.complete_run _ complete)
  | inside lends _ ih => exact ih (lends.complete complete)

/-! ## Claims -/

/-- All that is claimed has been made. -/
def World.Bears (world : World) (claims : List Claim) : Prop :=
  ∀ claim ∈ claims, claim.target.Made world

namespace World

variable {world : World} {claims further : List Claim}

theorem bears_nil : world.Bears [] := List.forall_mem_nil _

theorem bears_single {target : Target} (known : world.Knows [target]) (mode : Mode) :
    world.Bears [⟨target, mode⟩] :=
  List.forall_mem_singleton.mpr (knows_cons.mp known).1

theorem Bears.append (left : world.Bears claims) (right : world.Bears further) :
    world.Bears (claims ++ further) :=
  List.forall_mem_append.mpr ⟨left, right⟩

theorem bears_claimsOf {α : Type} {found : Option α} {claims : α → List Claim}
    (each : ∀ item, found = some item → world.Bears (claims item)) :
    world.Bears (claimsOf found claims) := by
  cases found with
  | none => exact bears_nil
  | some item => exact each item rfl

end World

namespace Session.Complete

variable (complete : session.Complete)

include complete

theorem knows_find? {α : Type} {targets : α → List Target} {name : String}
    {select : Object → Option α} {found : α} (named : session.find? name select = some found)
    (inside : ∀ object, select object = some found → targets found ⊆ object.targets) :
    session.world.Knows (targets found) := by
  obtain ⟨object, listed, selected⟩ := Option.bind_eq_some_iff.mp named
  exact (complete.bindings.subset (Object.targets_subset listed)).subset (inside object selected)

/-- A claim on the store or buffer of what a variable names. -/
theorem bears_find? {α : Type} {select : Object → Option α} {target : α → Target} (name : String)
    (mode : Mode)
    (inside : ∀ object found, select object = some found → target found ∈ object.targets) :
    session.world.Bears
      (claimsOf (session.find? name select) fun found => [⟨target found, mode⟩]) := by
  refine World.bears_claimsOf fun found named => World.bears_single ?_ mode
  refine @knows_find? _ complete _ (fun found => [target found]) _ _ _ named fun object same => ?_
  exact List.cons_subset.mpr ⟨inside object found same, List.nil_subset _⟩

theorem bears_handleClaims (map : String) (mode : Mode) :
    session.world.Bears (session.handleClaims map mode) := by
  refine complete.bears_find? map mode fun object handle same => ?_
  cases object <;> cases same
  exact .head _

theorem bears_entryClaims (name : String) (mode : Mode) :
    session.world.Bears (session.entryClaims name mode) := by
  refine complete.bears_find? name mode fun object entry same => ?_
  cases object <;> cases same
  exact .head _

theorem bears_bufferClaims (name : String) (mode : Mode) :
    session.world.Bears (session.bufferClaims name mode) := by
  refine complete.bears_find? name mode fun object buffer same => ?_
  cases object <;> cases same
  exact .head _

theorem bears_place (place : Place) (mode : Mode) :
    session.world.Bears (place.claims session mode) := by
  cases place with
  | «variable» name => exact World.bears_nil
  | stored map key elem => exact complete.bears_handleClaims map mode
  | entry name elem => exact complete.bears_entryClaims name mode
  | cell name elem => exact World.bears_nil

/-- The array that stands at a place names only what exists. -/
theorem knows_value? {place : Place} {form : Form} {value : Value}
    (stands : place.value? session form = some value) : session.world.Knows value.targets := by
  cases place with
  | «variable» name =>
      obtain ⟨named, -⟩ := Option.filter_eq_some_iff.mp stands
      refine complete.knows_find? named fun object same => ?_
      rw [Object.value?_eq_some_iff.mp same]
      exact List.Subset.refl _
  | stored map key elem =>
      obtain ⟨handle, -, found⟩ := Option.bind_eq_some_iff.mp stands
      exact handle.knows_valueAt (complete.world handle.store)
        (Except.toOption_eq_some_iff.mp found)
  | entry name elem =>
      obtain ⟨entry, -, found⟩ := Option.bind_eq_some_iff.mp stands
      exact entry.knows_valueAt (complete.world entry.store)
        (Except.toOption_eq_some_iff.mp found)
  | cell name elem =>
      obtain ⟨cell, named, fits⟩ := Option.bind_eq_some_iff.mp stands
      refine Cell.knows_expect ?_ value (Except.toOption_eq_some_iff.mp fits)
      refine complete.knows_find? named fun object same => ?_
      rw [Object.cell?_eq_some_iff.mp same]
      exact List.Subset.refl _

theorem bears_blockClaims (place : Place) (mode : Mode) :
    session.world.Bears (claimsOf (place.value? session .block) fun value =>
      claimsOf value.toBlock.toOption fun block => block.claims mode) := by
  refine World.bears_claimsOf fun value stands => World.bears_claimsOf fun block same => ?_
  have known := Value.knows_toBlock (complete.knows_value? stands) block
    (Except.toOption_eq_some_iff.mp same)
  unfold Block.claims
  split
  · rename_i buffer stored
    rw [Block.targets, stored] at known
    exact World.bears_single known mode
  · exact World.bears_nil

/-- Whatever an access claims has been made. -/
theorem bears_claims (access : Access) : session.world.Bears (access.claims session) := by
  cases access with
  | writeVariable name type set => exact World.bears_nil
  | writeCell name type set => exact World.bears_nil
  | readBuffer name => exact complete.bears_bufferClaims name .reading
  | writeBuffer name fill => exact complete.bears_bufferClaims name .writing
  | readBlock place =>
      exact (complete.bears_blockClaims place .reading).append (complete.bears_place place .reading)
  | writeBlock place fill =>
      exact (complete.bears_blockClaims place .writing).append (complete.bears_place place .writing)
  | readStored map key type => exact complete.bears_handleClaims map .reading
  | readStoredOr map key type default => exact complete.bears_handleClaims map .reading
  | writeStored map key type set => exact complete.bears_handleClaims map .writing
  | writeStoredCell map key set empty => exact complete.bears_handleClaims map .writing
  | readEntry name type => exact complete.bears_entryClaims name .reading
  | writeEntry name type set => exact complete.bears_entryClaims name .writing
  | readEntryCell name => exact complete.bears_entryClaims name .reading

end Session.Complete

end PathStore
