import PathStore.Proofs.Session.Canonical

/-!
# Actions keep sessions canonical

Every action, wherever the array that it works on stands, keeps the session canonical and gives up
what it claims, and the object that it makes is canonical.
-/

namespace PathStore

open Invariant PathStore.Task

/-- What an action makes is canonical. -/
def Outcome.Canonical (outcome : Outcome) : Prop :=
  ∀ object ∈ outcome.2, object.Canonical

namespace Outcome

theorem canonical_only (answer : Answer) : (only answer).Canonical := by
  rintro _ ⟨⟩

theorem canonical_some (answer : Answer) {object : Object} (canonical : object.Canonical) :
    Outcome.Canonical (answer, some object) := by
  rintro _ ⟨⟩
  exact canonical

theorem keeps_only (answer : Answer) : Keeps (Pure.pure (only answer)) Canonical :=
  Keeps.pure (canonical_only answer)

theorem keeps_some (answer : Answer) {object : Object} (canonical : object.Canonical) :
    Keeps (Pure.pure ((answer, some object) : Outcome)) Canonical :=
  Keeps.pure (canonical_some answer canonical)

theorem keeps_value (made : Value) : Keeps (value made) Canonical :=
  (Keeps.ofOp made.steady_snapshot).bind fun _ _ => keeps_some _ trivial

theorem keeps_buffer (made : BufferRef) : Keeps (buffer made) Canonical :=
  (Keeps.ofOp made.steady_length).bind fun _ _ => keeps_some _ trivial

theorem keeps_handle {made : Handle} (canonical : made.location.Canonical) :
    Keeps (Pure.pure (handle made)) Canonical :=
  keeps_some _ canonical

/-- An answer out of a program over the world. -/
theorem keeps_answer {α : Type} {program : Op α} (steady : Op.Steady program)
    (answer : α → Answer) :
    Keeps (Task.ofOp program >>= fun result => Pure.pure (only (answer result))) Canonical :=
  (Keeps.ofOp steady).bind fun _ _ => keeps_only _

/-- A value out of a program over the world. -/
theorem keeps_valueOf {program : Op Value} (steady : Op.Steady program) :
    Keeps (Task.ofOp program >>= value) Canonical :=
  (Keeps.ofOp steady).bind fun made _ => keeps_value made

theorem steady_store (into : Option String) {outcome : Outcome} (canonical : outcome.Canonical) :
    Steady (store into outcome) := by
  unfold store
  split
  · rename_i object made
    exact (steady_bind _ (canonical object made)).bind fun _ _ => Keeps.pure trivial
  · exact Keeps.pure trivial

end Outcome

open Outcome

/-! ## Values that are asked for -/

namespace ValueSpec

theorem steady_build (spec : ValueSpec) : Steady spec.build :=
  Keeps.get.bind fun _ _ => steady_ofExcept _

theorem steady_buildEntries (entries : List (String × ValueSpec)) :
    Steady (buildEntries entries) :=
  Keeps.mapM entries fun entry => entry.2.steady_build.bind fun _ _ => Keeps.pure trivial

end ValueSpec

/-! ## Objects, buffers and arrays -/

theorem Object.steady_same (left right : Object) : Steady (left.same right) := by
  unfold same
  split
  · exact Keeps.ofOp (Value.steady_same _ _)
  · exact Keeps.ofOp (Cell.steady_same _ _)
  · exact Keeps.pure trivial
  · exact Keeps.throw _

theorem ObjectAction.keeps_run (action : ObjectAction) : Keeps action.run Outcome.Canonical := by
  cases action with
  | newValue spec => exact spec.steady_build.bind fun made _ => keeps_value made
  | showValue name =>
      exact (steady_value name).bind fun value _ => keeps_answer value.steady_snapshot _
  | typeName name => exact (steady_value name).bind fun _ _ => keeps_only _
  | hasType name type => exact (steady_value name).bind fun _ _ => keeps_only _
  | get name type =>
      exact (steady_value name).bind fun _ _ =>
        (steady_ofExcept _).bind fun made _ => keeps_value made
  | set name spec =>
      apply (steady_value name).discard.bind
      intro _ _
      apply spec.steady_build.bind
      intro value _
      exact (@steady_bind name (.value value) trivial).bind fun _ _ =>
        keeps_answer value.steady_snapshot _
  | newCell spec =>
      apply Keeps.get.bind
      intro session _
      apply (steady_ofExcept _).bind
      intro cell _
      exact (Keeps.ofOp (Cell.steady_snapshot cell)).bind fun _ _ => keeps_some _ trivial
  | showCell name =>
      exact (steady_cell name).bind fun cell _ => keeps_answer (Cell.steady_snapshot cell) _
  | setCell name spec =>
      apply (steady_cell name).discard.bind
      intro _ _
      apply spec.steady_build.bind
      intro value _
      exact (@steady_bind name (.cell (some value)) trivial).bind fun _ _ =>
        keeps_answer (Cell.steady_snapshot (some value)) _
  | getCell name type =>
      exact (steady_cell name).bind fun _ _ =>
        (steady_ofExcept _).bind fun made _ => keeps_value made
  | takeCell name =>
      apply (steady_cell name).bind
      intro cell _
      cases cell with
      | some value => exact keeps_value value
      | none => exact keeps_only _
  | newHost text =>
      exact (Keeps.ofOp (HostId.steady_create text)).bind fun _ _ => keeps_some _ trivial
  | forget name => exact (steady_forget name).bind fun _ _ => keeps_only _
  | same left right =>
      apply (steady_named left _ _).bind
      intro left _
      apply (steady_named right _ _).bind
      intro right _
      exact (left.steady_same right).bind fun _ _ => keeps_only _
  | inspect name =>
      exact (steady_named name _ _).bind fun _ _ => Keeps.get.bind fun _ _ => keeps_only _

theorem BufferAction.keeps_run (action : BufferAction) : Keeps action.run Outcome.Canonical := by
  cases action with
  | create elem data =>
      exact (Keeps.ofOp (BufferRef.steady_create elem data)).bind fun made _ => keeps_buffer made
  | copy name => exact (steady_buffer name).bind fun made _ => keeps_buffer made
  | length name =>
      exact (steady_buffer name).bind fun buffer _ => keeps_answer buffer.steady_length _
  | get name position =>
      exact (steady_buffer name).bind fun buffer _ => keeps_answer (buffer.steady_get position) _
  | set name position element =>
      apply (steady_buffer name).bind
      intro buffer _
      apply (steady_ofExcept _).bind
      intro element _
      exact (Keeps.ofOp (buffer.steady_set position element)).bind fun _ _ => keeps_only _
  | toList name =>
      exact (steady_buffer name).bind fun buffer _ => keeps_answer buffer.steady_toList _
  | same left right =>
      exact (steady_buffer left).bind fun _ _ =>
        (steady_buffer right).bind fun _ _ => keeps_only _

theorem ArrayAction.keeps_run (action : ArrayAction) : Keeps action.run Outcome.Canonical := by
  cases action with
  | view buffer offset shape strides =>
      apply (steady_buffer buffer).bind
      intro buffer _
      exact (Keeps.ofOp (View.steady_make buffer offset shape strides)).bind fun _ _ =>
        keeps_value _
  | wholeView buffer =>
      apply (steady_buffer buffer).bind
      intro buffer _
      exact (Keeps.ofOp (View.steady_ofBuffer buffer)).bind fun _ _ => keeps_value _
  | bufferBlock buffer shape strides memory =>
      apply (steady_buffer buffer).bind
      intro buffer _
      cases strides with
      | some strides =>
          exact (Keeps.ofOp (Block.steady_ofBuffer buffer shape strides memory)).bind fun _ _ =>
            keeps_value _
      | none =>
          exact (Keeps.ofOp (Block.steady_ofBufferShape buffer shape memory)).bind fun _ _ =>
            keeps_value _
  | listBlock elem data => exact keeps_value _
  | shapedBlock elem data shape strides =>
      cases strides with
      | some strides => exact (steady_ofExcept _).bind fun _ _ => keeps_value _
      | none => exact (steady_ofExcept _).bind fun _ _ => keeps_value _

/-! ## Arrays where they stand -/

namespace Place

variable {α : Type} {ensures : α → Prop}

/-- What uses a value in the course of reading it, and carries the variables along. -/
theorem keeps_reading (place : Place) (form : Form) {use : Variables → Value → Op (α × Variables)}
    (keeps : ∀ bindings : Variables, bindings.Canonical → ∀ value,
      Op.Keeps (use bindings value) fun result => ensures result.1 ∧ result.2.Canonical) :
    Keeps (place.reading form use) ensures := by
  cases place with
  | «variable» name =>
      apply (steady_value name).bind
      intro value _
      dsimp only
      split
      · exact Keeps.throw_bind _ _
      · exact Keeps.carrying fun bindings canonical => keeps bindings canonical value
  | stored map key elem =>
      apply (keeps_handle map).bind
      intro handle _
      exact Keeps.carrying fun bindings canonical =>
        Handle.keeps_withValue _ _ (keeps bindings canonical)
  | entry name elem =>
      apply (steady_entry name).bind
      intro entry _
      exact Keeps.carrying fun bindings canonical =>
        EntryRef.keeps_withValue _ (keeps bindings canonical)
  | cell name elem =>
      apply (steady_cell name).bind
      intro cell _
      apply (steady_ofExcept _).bind
      intro value _
      exact Keeps.carrying fun bindings canonical => keeps bindings canonical value

/-- What uses a value in the course of writing it, and carries the variables along. -/
theorem keeps_writing (place : Place) (form : Form)
    {use : Variables → Value → Op ((α × Variables) × Value)}
    (keeps : ∀ bindings : Variables, bindings.Canonical → ∀ value,
      Op.Keeps (use bindings value) fun result => ensures result.1.1 ∧ result.1.2.Canonical) :
    Keeps (place.writing form use) ensures := by
  cases place with
  | «variable» name =>
      apply (steady_value name).bind
      intro value _
      dsimp only
      split
      · exact Keeps.throw_bind _ _
      · exact Keeps.lending (fun _ => trivial) fun bindings canonical =>
          keeps bindings canonical value
  | stored map key elem =>
      apply (keeps_handle map).bind
      intro handle located
      exact Keeps.carrying fun bindings canonical =>
        Handle.keeps_modifyValue located _ _ (keeps bindings canonical)
  | entry name elem =>
      apply (steady_entry name).bind
      intro entry _
      exact Keeps.carrying fun bindings canonical =>
        EntryRef.keeps_modifyValue _ (keeps bindings canonical)
  | cell name elem =>
      apply (steady_cell name).bind
      intro cell _
      apply (steady_ofExcept _).bind
      intro value _
      exact Keeps.lending (fun _ => trivial) fun bindings canonical =>
        keeps bindings canonical value

theorem keeps_readingView (place : Place) {use : View → Op α}
    (keeps : ∀ view, Op.Keeps (use view) ensures) : Keeps (place.readingView use) ensures :=
  place.keeps_reading .view fun _ canonical _ =>
    (Op.steady_ofExcept _).bind fun view _ =>
      (keeps view).bind fun _ ensured => Keeps.pure ⟨ensured, canonical⟩

theorem keeps_writingView (place : Place) {use : View → Op (α × View)}
    (keeps : ∀ view, Op.Keeps (use view) fun result => ensures result.1) :
    Keeps (place.writingView use) ensures :=
  place.keeps_writing .view fun _ canonical _ =>
    (Op.steady_ofExcept _).bind fun view _ =>
      (keeps view).bind fun _ ensured => Keeps.pure ⟨ensured, canonical⟩

theorem keeps_readingBlock (place : Place) {use : Block → Op α}
    (keeps : ∀ block, Op.Keeps (use block) ensures) : Keeps (place.readingBlock use) ensures :=
  place.keeps_reading .block fun _ canonical _ =>
    (Op.steady_ofExcept _).bind fun block _ =>
      (keeps block).bind fun _ ensured => Keeps.pure ⟨ensured, canonical⟩

theorem keeps_writingBlock (place : Place) {use : Block → Op (α × Block)}
    (keeps : ∀ block, Op.Keeps (use block) fun result => ensures result.1) :
    Keeps (place.writingBlock use) ensures :=
  place.keeps_writing .block fun _ canonical _ =>
    (Op.steady_ofExcept _).bind fun block _ =>
      (keeps block).bind fun _ ensured => Keeps.pure ⟨ensured, canonical⟩

end Place

/-- An answer alone, out of a program over the world. -/
theorem Outcome.keeps_shown {α : Type} {program : Op α} (steady : Op.Steady program)
    (answer : α → Answer) :
    Op.Keeps (program >>= fun result => Pure.pure (only (answer result))) Outcome.Canonical :=
  steady.bind fun _ _ => Keeps.pure (canonical_only _)

theorem View.steady_info (view : View) : Op.Steady view.info :=
  view.buffer.steady_length.bind fun _ _ => Keeps.pure trivial

theorem View.steady_showOwner (view : View) : Op.Steady view.showOwner :=
  Keeps.get.bind fun _ _ => Keeps.pure trivial

theorem ViewAction.keeps_run (place : Place) (action : ViewAction) :
    Keeps (action.run place) Outcome.Canonical := by
  cases action with
  | describe => exact place.keeps_readingView fun view => keeps_shown view.steady_info _
  | get index => exact place.keeps_readingView fun view => keeps_shown (view.steady_get index) _
  | set index element =>
      apply place.keeps_readingView
      intro view
      apply (Op.steady_ofExcept _).bind
      intro element _
      exact (view.steady_set index element).bind fun _ _ => Keeps.pure (canonical_only _)
  | getLinear position =>
      exact place.keeps_readingView fun view => keeps_shown (view.steady_getLinear position) _
  | setLinear position element =>
      apply place.keeps_readingView
      intro view
      apply (Op.steady_ofExcept _).bind
      intro element _
      exact (view.steady_setLinear position element).bind fun _ _ =>
        Keeps.pure (canonical_only _)
  | toList => exact place.keeps_readingView fun view => keeps_shown view.steady_toList _
  | slice selectors =>
      have sliced : Steady (place.readingView fun view => do
          view.slice (← (selectors.mapM SelectorSpec.build : Except Failure (List Selector)))) :=
        place.keeps_readingView fun view =>
          (Op.steady_ofExcept _).bind fun _ _ => Op.steady_ofExcept _
      exact sliced.bind fun _ _ => keeps_value _
  | buffer =>
      have found : Steady (place.readingView fun view => pure view.buffer) :=
        place.keeps_readingView fun _ => Keeps.pure trivial
      exact found.bind fun buffer _ => keeps_buffer buffer
  | owner => exact place.keeps_readingView fun view => keeps_shown view.steady_showOwner _
  | resetOwner name kind =>
      apply place.keeps_writing
      intro bindings canonical value
      apply (Op.steady_ofExcept _).bind
      intro view _
      apply (Op.steady_ofExcept _).bind
      intro host _
      exact Keeps.pure ⟨canonical_only _, canonical⟩
  | clearOwner =>
      exact place.keeps_writingView fun _ => Keeps.pure (canonical_only _)

theorem BlockAction.keeps_run (place : Place) (action : BlockAction) :
    Keeps (action.run place) Outcome.Canonical := by
  cases action with
  | describe => exact place.keeps_readingBlock fun _ => Keeps.pure (canonical_only _)
  | get position =>
      exact place.keeps_readingBlock fun block => keeps_shown (block.steady_get position) _
  | set position element =>
      apply place.keeps_writingBlock
      intro block
      apply (Op.steady_ofExcept _).bind
      intro element _
      exact (block.steady_set position element).bind fun _ _ => Keeps.pure (canonical_only _)
  | toList => exact place.keeps_readingBlock fun block => keeps_shown block.steady_toList _
  | release =>
      have released : Steady (place.writingBlock fun block => pure block.release) :=
        @Place.keeps_writingBlock _ (fun _ => True) place _ fun _ => Keeps.pure trivial
      exact released.bind fun _ _ => (steady_ofExcept _).bind fun _ _ => keeps_only _
  | take =>
      have taken : Steady (place.writingBlock fun block => pure (block, block.husk)) :=
        @Place.keeps_writingBlock _ (fun _ => True) place _ fun _ => Keeps.pure trivial
      exact taken.bind fun _ _ => keeps_value _
  | view =>
      have viewed : Steady (place.readingBlock fun block => block.view) :=
        place.keeps_readingBlock fun block => block.steady_view
      exact viewed.bind fun _ _ => keeps_value _
  | copyAs memory =>
      have copied : Steady (place.readingBlock fun block => block.copyAs memory) :=
        place.keeps_readingBlock fun block => block.steady_copyAs memory
      exact copied.bind fun _ _ => keeps_value _

end PathStore
