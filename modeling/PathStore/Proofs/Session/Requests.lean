import PathStore.Proofs.Session.Conduct

/-!
# Actions and the claims they need

Every action needs exactly the claims that are listed for it: it is refused just when one of them
conflicts with one that is held, and when it fails with an error nothing can be told apart from
before.
-/

namespace PathStore

open Failure Conduct Outcome

variable {α : Type} {session : Session} {needs : List Claim}

/-! ## Objects, buffers and arrays -/

theorem Object.sure_same (left right : Object) :
    Conduct [] session (left.same right) := by
  unfold same
  split
  · exact of_sure (Sure.ofOp (Value.looks_same _ _).sure)
  · exact of_sure (Sure.ofOp (Cell.looks_same _ _).sure)
  · exact Conduct.pure _
  · exact Conduct.throw (by rintro (⟨⟨⟩⟩ | ⟨⟨⟩⟩))

theorem ObjectAction.conduct_run (action : ObjectAction) : Conduct [] session action.run := by
  cases action with
  | newValue spec =>
      exact bind_fits (spec.finds_build session) fun made _ => of_sure (sure_value made)
  | showValue name =>
      exact bind_fits (Task.finds_value name session) fun value _ =>
        conduct_answer (of_sure value.looks_snapshot.sure) _
  | typeName name => exact bind_fits (Task.finds_value name session) fun _ _ => Conduct.pure _
  | hasType name type => exact bind_fits (Task.finds_value name session) fun _ _ => Conduct.pure _
  | get name type =>
      exact bind_fits (Task.finds_value name session) fun value _ =>
        bind_calm (Task.ofExcept_apply _ _) (value.calm_expect type) fun made _ =>
          of_sure (sure_value made)
  | set name spec =>
      refine bind_fits (Task.finds_value name session).discard fun _ _ => ?_
      refine bind_fits (spec.finds_build session) fun value _ => of_sure ?_
      exact (Task.sure_bind name _).bind fun _ =>
        (Sure.ofOp value.looks_snapshot.sure).bind fun _ => .pure _
  | newCell spec =>
      refine bind_found rfl ?_
      refine bind_misfits (Task.ofExcept_apply _ _) (ValueSpec.misfits_optionIn _ spec)
        fun cell _ => of_sure ?_
      exact (Sure.ofOp (Cell.looks_snapshot cell).sure).bind fun _ => .pure _
  | showCell name =>
      exact bind_fits (Task.finds_cell name session) fun cell _ =>
        conduct_answer (of_sure (Cell.looks_snapshot cell).sure) _
  | setCell name spec =>
      refine bind_fits (Task.finds_cell name session).discard fun _ _ => ?_
      refine bind_fits (spec.finds_build session) fun value _ => of_sure ?_
      exact (Task.sure_bind name _).bind fun _ =>
        (Sure.ofOp (Cell.looks_snapshot (some value)).sure).bind fun _ => .pure _
  | getCell name type =>
      exact bind_fits (Task.finds_cell name session) fun cell _ =>
        bind_calm (Task.ofExcept_apply _ _) (Cell.calm_expect cell type) fun made _ =>
          of_sure (sure_value made)
  | takeCell name =>
      refine bind_fits (Task.finds_cell name session) fun cell _ => ?_
      cases cell with
      | some value => exact of_sure (sure_value value)
      | none => exact Conduct.pure _
  | newHost text =>
      refine of_sure ((Sure.ofOp fun world => ?_).bind fun _ => .pure _)
      exact .ok ⟨rfl, fun claim _ _ => .refl world claim.target, fun _ made => made⟩
  | forget name =>
      exact of_sure (Sure.bind (fun session => .ok (session.follows_forget name)) fun _ => .pure _)
  | same left right =>
      refine bind_fits (Task.finds_named left _ _ session) fun left _ => ?_
      refine bind_fits (Task.finds_named right _ _ session) fun right _ => ?_
      exact (left.sure_same right).bind_sure fun _ => .pure _
  | inspect name =>
      exact bind_fits (Task.finds_named name _ _ session) fun _ _ => bind_found rfl (Conduct.pure _)

theorem BufferAction.conduct_run (action : BufferAction) :
    Conduct (action.needs session) session action.run := by
  cases action with
  | create elem data => exact of_sure ((Sure.ofOp (BufferRef.sure_create elem data)).bind sure_buffer)
  | copy name =>
      exact bind_fits (Task.finds_buffer name session) fun made _ => of_sure (sure_buffer made)
  | length name =>
      exact bind_fits (Task.finds_buffer name session) fun buffer _ =>
        conduct_answer (of_sure buffer.looks_length.sure) _
  | get name position =>
      exact bind_finds (Task.finds_buffer name session) fun buffer _ =>
        conduct_answer (buffer.conduct_get position) _
  | set name position element =>
      refine bind_finds (Task.finds_buffer name session) fun buffer _ => ?_
      refine bind_misfits (Task.ofExcept_apply _ _) (element.misfits_read _) fun element _ => ?_
      exact (Conduct.ofOp (buffer.conduct_set position element)).bind_sure fun _ => .pure _
  | toList name =>
      exact bind_finds (Task.finds_buffer name session) fun buffer _ =>
        conduct_answer buffer.conduct_toList _
  | same left right =>
      exact bind_fits (Task.finds_buffer left session) fun _ _ =>
        bind_fits (Task.finds_buffer right session) fun _ _ => Conduct.pure _

theorem ArrayAction.conduct_run (action : ArrayAction) :
    Conduct (action.needs session) session action.run := by
  cases action with
  | view buffer offset shape strides =>
      refine bind_fits (Task.finds_buffer buffer session) fun buffer _ => ?_
      exact (Conduct.ofOp (View.conduct_make buffer offset shape strides)).bind_sure fun _ =>
        sure_value _
  | wholeView buffer =>
      refine bind_fits (Task.finds_buffer buffer session) fun buffer _ => of_sure ?_
      exact (Sure.ofOp (View.looks_ofBuffer buffer).sure).bind fun _ => sure_value _
  | bufferBlock buffer shape strides memory =>
      refine bind_finds (Task.finds_buffer buffer session) fun buffer _ => ?_
      cases strides with
      | some strides =>
          exact (Conduct.ofOp (Block.conduct_ofBuffer buffer shape strides memory)).bind_sure
            fun _ => sure_value _
      | none =>
          exact (Conduct.ofOp (Block.conduct_ofBufferShape buffer shape memory)).bind_sure
            fun _ => sure_value _
  | listBlock elem data => exact of_sure (sure_value _)
  | shapedBlock elem data shape strides =>
      cases strides with
      | some strides =>
          exact bind_calm (Task.ofExcept_apply _ _) (Block.calm_make elem data shape strides)
            fun _ _ => of_sure (sure_value _)
      | none =>
          exact bind_calm (Task.ofExcept_apply _ _) (Block.calm_ofShape elem data shape)
            fun _ _ => of_sure (sure_value _)

/-! ## Arrays where they stand -/

namespace Place

variable {claims : Value → List Claim} (place : Place)

/-- What uses the array in the course of reading it may need claims on buffers. -/
theorem conduct_reading (form : Form) {use : Variables → Value → Op (α × Variables)}
    (buffers : ∀ value, OnBuffers (claims value))
    (each : ∀ bindings value world, Conduct (claims value) world (use bindings value)) :
    Conduct (place.claims session .reading ++ claimsOf (place.value? session form) claims) session
      (place.reading form use) := by
  cases place with
  | «variable» name =>
      refine bind_fits (Task.finds_value name session) fun value found => ?_
      dsimp only
      split
      · exact misfit_bind _
      · rename_i fits
        have stands : (Place.variable name).value? session form = some value := by
          simp [value?, found, not_not.mp fits]
        rw [stands]
        exact Conduct.carrying (each _ value _)
  | stored map key elem =>
      refine bind_fits (Task.finds_handle map session) fun handle found => ?_
      simp only [Place.claims, Session.handleClaims, value?, found]
      exact Conduct.carrying (handle.conduct_withValue_needing key ⟨form, elem⟩ buffers (each _))
  | entry name elem =>
      refine bind_fits (Task.finds_entry name session) fun entry found => ?_
      simp only [Place.claims, Session.entryClaims, value?, found]
      exact Conduct.carrying (entry.conduct_withValue_needing ⟨form, elem⟩ buffers (each _))
  | cell name elem =>
      refine bind_fits (Task.finds_cell name session) fun cell found => ?_
      simp only [Place.claims, value?, found]
      exact bind_settled (Task.ofExcept_apply _ _) (Cell.calm_expect cell ⟨form, elem⟩) _
        fun value _ => Conduct.carrying (each _ value _)

/-- What uses the array in the course of writing it may need claims on buffers. -/
theorem conduct_writing (form : Form) {use : Variables → Value → Op ((α × Variables) × Value)}
    (buffers : ∀ value, OnBuffers (claims value))
    (each : ∀ bindings value world, Conduct (claims value) world (use bindings value)) :
    Conduct (place.claims session .writing ++ claimsOf (place.value? session form) claims) session
      (place.writing form use) := by
  cases place with
  | «variable» name =>
      refine bind_fits (Task.finds_value name session) fun value found => ?_
      dsimp only
      split
      · exact misfit_bind _
      · rename_i fits
        have stands : (Place.variable name).value? session form = some value := by
          simp [value?, found, not_not.mp fits]
        rw [stands]
        exact Conduct.lending fun bindings => each bindings value _
  | stored map key elem =>
      refine bind_fits (Task.finds_handle map session) fun handle found => ?_
      simp only [Place.claims, Session.handleClaims, value?, found]
      exact Conduct.carrying (handle.conduct_modifyValue_needing key ⟨form, elem⟩ buffers (each _))
  | entry name elem =>
      refine bind_fits (Task.finds_entry name session) fun entry found => ?_
      simp only [Place.claims, Session.entryClaims, value?, found]
      exact Conduct.carrying (entry.conduct_modifyValue_needing ⟨form, elem⟩ buffers (each _))
  | cell name elem =>
      refine bind_fits (Task.finds_cell name session) fun cell found => ?_
      simp only [Place.claims, value?, found]
      exact bind_settled (Task.ofExcept_apply _ _) (Cell.calm_expect cell ⟨form, elem⟩) _
        fun value _ => Conduct.lending fun bindings => each bindings value _

theorem conduct_readingView {use : View → Op α} {claims : View → List Claim}
    (buffers : ∀ view, OnBuffers (claims view))
    (each : ∀ view world, Conduct (claims view) world (use view)) :
    Conduct (place.viewNeeds session .reading claims) session (place.readingView use) :=
  place.conduct_reading .view (fun _ => .claimsOf buffers) fun _ value _ =>
    bind_settled (Op.ofExcept_apply _ _) value.misfits_toView.silent.calm _ fun view _ =>
      (each view _).bind_sure fun _ => .pure _

theorem conduct_writingView {use : View → Op (α × View)} {claims : View → List Claim}
    (buffers : ∀ view, OnBuffers (claims view))
    (each : ∀ view world, Conduct (claims view) world (use view)) :
    Conduct (place.viewNeeds session .writing claims) session (place.writingView use) :=
  place.conduct_writing .view (fun _ => .claimsOf buffers) fun _ value _ =>
    bind_settled (Op.ofExcept_apply _ _) value.misfits_toView.silent.calm _ fun view _ =>
      (each view _).bind_sure fun _ => .pure _

theorem conduct_readingBlock {use : Block → Op α} {claims : Block → List Claim}
    (buffers : ∀ block, OnBuffers (claims block))
    (each : ∀ block world, Conduct (claims block) world (use block)) :
    Conduct (place.blockNeeds session .reading claims) session (place.readingBlock use) :=
  place.conduct_reading .block (fun _ => .claimsOf buffers) fun _ value _ =>
    bind_settled (Op.ofExcept_apply _ _) value.misfits_toBlock.silent.calm _ fun block _ =>
      (each block _).bind_sure fun _ => .pure _

theorem conduct_writingBlock {use : Block → Op (α × Block)} {claims : Block → List Claim}
    (buffers : ∀ block, OnBuffers (claims block))
    (each : ∀ block world, Conduct (claims block) world (use block)) :
    Conduct (place.blockNeeds session .writing claims) session (place.writingBlock use) :=
  place.conduct_writing .block (fun _ => .claimsOf buffers) fun _ value _ =>
    bind_settled (Op.ofExcept_apply _ _) value.misfits_toBlock.silent.calm _ fun block _ =>
      (each block _).bind_sure fun _ => .pure _

theorem viewNeeds_nil (mode : Mode) :
    place.viewNeeds session mode (fun _ => []) = place.claims session mode := by
  simp only [viewNeeds, claimsOf_nil, List.append_nil]

theorem blockNeeds_nil (mode : Mode) :
    place.blockNeeds session mode (fun _ => []) = place.claims session mode := by
  simp only [blockNeeds, claimsOf_nil, List.append_nil]

/-- What needs no more than the place. -/
theorem conduct_lookView {use : View → Op α} (each : ∀ view world, Conduct [] world (use view)) :
    Conduct (place.claims session .reading) session (place.readingView use) := by
  have conduct : Conduct (place.viewNeeds session .reading fun _ => []) session
      (place.readingView use) := place.conduct_readingView (fun _ => .nil) each
  rwa [viewNeeds_nil] at conduct

theorem conduct_lookBlock {use : Block → Op α}
    (each : ∀ block world, Conduct [] world (use block)) :
    Conduct (place.claims session .reading) session (place.readingBlock use) := by
  have conduct : Conduct (place.blockNeeds session .reading fun _ => []) session
      (place.readingBlock use) := place.conduct_readingBlock (fun _ => .nil) each
  rwa [blockNeeds_nil] at conduct

theorem conduct_changeView {use : View → Op (α × View)}
    (each : ∀ view world, Conduct [] world (use view)) :
    Conduct (place.claims session .writing) session (place.writingView use) := by
  have conduct : Conduct (place.viewNeeds session .writing fun _ => []) session
      (place.writingView use) := place.conduct_writingView (fun _ => .nil) each
  rwa [viewNeeds_nil] at conduct

theorem conduct_changeBlock {use : Block → Op (α × Block)}
    (each : ∀ block world, Conduct [] world (use block)) :
    Conduct (place.claims session .writing) session (place.writingBlock use) := by
  have conduct : Conduct (place.blockNeeds session .writing fun _ => []) session
      (place.writingBlock use) := place.conduct_writingBlock (fun _ => .nil) each
  rwa [blockNeeds_nil] at conduct

end Place

/-- What a variable is lent for and gets back is what it named, unless it is changed. -/
theorem Task.alike_lending {name : String} {object : Value → Object} {value : Value}
    {changed : Except Failure (α × Value)} {result : α} {left : Session}
    (named : session.bindings.lookup name = some (object value))
    (ran : Task.lending name object (fun bindings =>
      Op.ofExcept ((fun made => ((made.1, bindings), made.2)) <$> changed)) session =
      .ok result left) :
    ∃ after, changed = .ok (result, after) ∧ (after = value → session.Alike left) := by
  obtain ⟨inner, world, ended, rfl, rfl⟩ := (Task.runsOn_lending _ _ _ session).exists_ok ran
  cases changed with
  | error failure => cases ended
  | ok made =>
      cases ended
      refine ⟨made.2, rfl, fun same => ?_⟩
      dsimp only
      rw [Entries.lookup_filter_ne, if_pos rfl, same]
      exact Session.alike_rebind named

/-- What is lent out of a store and put back there is what was stored, unless it is changed. -/
theorem Task.alike_carrying {id : StoreId} {key : String}
    {valueAt : Entries Cell → Except Failure Value} {change : Value → Except Failure (α × Value)}
    {result : α} {left : Session}
    (stored : ∀ value, valueAt (session.world.entries id) = .ok value →
      (session.world.entries id).find? key = some (some value))
    (ran : Task.carrying (fun bindings => id.writing fun entries =>
      Op.ofExcept (valueAt entries) >>= fun value =>
        Op.ofExcept ((fun made => ((made.1, bindings), made.2)) <$> change value) >>= fun made =>
          pure (made.1, entries.insert key (some made.2))) session = .ok result left) :
    ∃ value after, change value = .ok (result, after) ∧ (after = value → session.Alike left) := by
  obtain ⟨inner, world, ended, rfl, rfl⟩ := (Task.runsOn_carrying _ session).exists_ok ran
  obtain ⟨value, after, changed, alike⟩ := StoreId.alike_writing stored ended
  cases given : change value with
  | error failure => rw [given] at changed; cases changed
  | ok made =>
      rw [given] at changed
      cases changed
      exact ⟨value, made.2, given, fun same => ⟨alike same, fun _ => rfl⟩⟩

/-- A value that is put back where it was found cannot be told. -/
theorem Place.alike_writing {place : Place} {form : Form}
    {change : Value → Except Failure (α × Value)} {result : α} {left : Session}
    (ran : place.writing form
      (fun bindings value =>
        Op.ofExcept ((fun made => ((made.1, bindings), made.2)) <$> change value)) session =
      .ok result left) :
    ∃ value after, change value = .ok (result, after) ∧ (after = value → session.Alike left) := by
  cases place with
  | «variable» name =>
      obtain ⟨value, found, ran⟩ := (Task.finds_value name session).exists_of_ok ran
      obtain ⟨object, named, same⟩ := Option.bind_eq_some_iff.mp found
      rw [Object.value?_eq_some_iff.mp same] at named
      dsimp only at ran
      split at ran
      · cases ran
      · exact ⟨value, Task.alike_lending named ran⟩
  | stored map key elem =>
      obtain ⟨handle, found, ran⟩ := (Task.finds_handle map session).exists_of_ok ran
      simp only [Handle.modifyValue_eq] at ran
      exact Task.alike_carrying (fun _ => handle.find?_of_valueAt) ran
  | entry name elem =>
      obtain ⟨entry, found, ran⟩ := (Task.finds_entry name session).exists_of_ok ran
      simp only [EntryRef.modifyValue_eq] at ran
      exact Task.alike_carrying (fun _ => entry.find?_of_valueAt) ran
  | cell name elem =>
      obtain ⟨cell, found, ran⟩ := (Task.finds_cell name session).exists_of_ok ran
      obtain ⟨object, named, same⟩ := Option.bind_eq_some_iff.mp found
      rw [Object.cell?_eq_some_iff.mp same] at named
      cases fits : Cell.expect cell ⟨form, elem⟩ with
      | error failure => rw [fits] at ran; cases ran
      | ok value =>
          rw [fits] at ran
          rw [Cell.eq_of_expect fits] at named
          exact ⟨value, @Task.alike_lending _ _ _ (fun value => .cell (some value)) _ _ _ _ named ran⟩

/-- A block that is put back where it was found cannot be told. -/
theorem Place.alike_writingBlock {place : Place} {change : Block → α × Block} {result : α}
    {left : Session}
    (ran : place.writingBlock (fun block => pure (change block)) session = .ok result left) :
    ∃ block, (change block).1 = result ∧ ((change block).2 = block → session.Alike left) := by
  have same : place.writingBlock (fun block => pure (change block)) =
      place.writing .block fun bindings value =>
        Op.ofExcept ((fun made => ((made.1, bindings), made.2)) <$>
          (do let block ← value.toBlock; return ((change block).1, .block (change block).2))) := by
    unfold Place.writingBlock
    congr
    funext bindings value
    cases value.toBlock <;> rfl
  rw [same] at ran
  obtain ⟨value, after, changed, alike⟩ := Place.alike_writing ran
  cases value with
  | block array =>
      cases changed
      exact ⟨array, rfl, fun unchanged => alike (congrArg Value.block unchanged)⟩
  | scalar datum => cases changed
  | view array => cases changed

theorem ViewAction.conduct_run (place : Place) (action : ViewAction) :
    Conduct (action.needs session place) session (action.run place) := by
  cases action with
  | describe =>
      exact place.conduct_lookView fun view _ =>
        of_sure (view.looks_info.sure.bind fun _ => .pure _)
  | get index =>
      exact place.conduct_readingView (fun view => view.onBuffers_claimsAt _ _) fun view _ =>
        (view.conduct_get index).bind_sure fun _ => .pure _
  | set index element =>
      refine place.conduct_readingView (fun view => view.onBuffers_claimsAt _ _) fun view _ => ?_
      refine bind_misfits (Op.ofExcept_apply _ _) (element.misfits_read _) fun element _ => ?_
      exact (view.conduct_set index element).bind_sure fun _ => .pure _
  | getLinear position =>
      exact place.conduct_readingView (fun view => view.onBuffers_claimsAt _ _) fun view _ =>
        (view.conduct_getLinear position).bind_sure fun _ => .pure _
  | setLinear position element =>
      refine place.conduct_readingView (fun view => view.onBuffers_claimsAt _ _) fun view _ => ?_
      refine bind_misfits (Op.ofExcept_apply _ _) (element.misfits_read _) fun element _ => ?_
      exact (view.conduct_setLinear position element).bind_sure fun _ => .pure _
  | toList =>
      exact place.conduct_readingView (fun _ => .single _ _) fun view _ =>
        view.conduct_toList.bind_sure fun _ => .pure _
  | slice selectors =>
      refine Conduct.bind_sure (place.conduct_lookView fun view _ => ?_) fun _ => sure_value _
      refine bind_calm (Op.ofExcept_apply _ _) (FailsOnly.mapM SelectorSpec.calm_build selectors)
        fun selectors _ => ?_
      exact Conduct.ofExcept (view.calm_slice selectors)
  | buffer =>
      exact Conduct.bind_sure (place.conduct_lookView fun _ _ => Conduct.pure _) sure_buffer
  | owner =>
      exact place.conduct_lookView fun view _ =>
        of_sure (view.looks_showOwner.sure.bind fun _ => .pure _)
  | resetOwner name kind =>
      have conduct : Conduct
          (place.claims session .writing ++ claimsOf (place.value? session .view) fun _ => [])
          session (ViewAction.run place (.resetOwner name kind)) := by
        refine place.conduct_writing .view (fun _ => .nil) fun bindings value _ => ?_
        refine bind_misfits (Op.ofExcept_apply _ _) value.misfits_toView fun view _ => ?_
        refine bind_misfits (Op.ofExcept_apply _ _) (bindings.misfits_named _ _ _) fun host _ => ?_
        exact Conduct.pure _
      rwa [claimsOf_nil, List.append_nil] at conduct
  | clearOwner => exact place.conduct_changeView fun _ _ => Conduct.pure _

theorem BlockAction.conduct_run (place : Place) (action : BlockAction) :
    Conduct (action.needs session place) session (action.run place) := by
  cases action with
  | describe => exact place.conduct_lookBlock fun _ _ => Conduct.pure _
  | get position =>
      exact place.conduct_readingBlock (fun block => block.onBuffers_claimsAt _ _) fun block _ =>
        (block.conduct_get position).bind_sure fun _ => .pure _
  | set position element =>
      refine place.conduct_writingBlock (fun block => block.onBuffers_claimsAt _ _) fun block _ => ?_
      refine bind_misfits (Op.ofExcept_apply _ _) (element.misfits_read _) fun element _ => ?_
      exact (block.conduct_set position element).bind_sure fun _ => .pure _
  | toList =>
      exact place.conduct_readingBlock (fun block => block.onBuffers_claims _) fun block _ =>
        block.conduct_toList.bind_sure fun _ => .pure _
  | release =>
      refine Conduct.bind_or (place.conduct_changeBlock fun _ _ => Conduct.pure _)
        fun released left ran => ?_
      obtain ⟨block, same, alike⟩ := Place.alike_writingBlock ran
      cases released with
      | ok data => exact .inl (.ok (.refl _))
      | error failure =>
          have calm : FailsOnly Calm (.error failure) := same ▸ block.calm_release
          exact .inr ⟨alike (block.release_unchanged same),
            bind_calm (Task.ofExcept_apply _ _) calm fun _ _ => Conduct.pure _⟩
  | take =>
      exact Conduct.bind_sure (place.conduct_changeBlock fun _ _ => Conduct.pure _) fun _ =>
        sure_value _
  | view =>
      exact Conduct.bind_sure (place.conduct_lookBlock fun block _ => block.conduct_view) fun _ =>
        sure_value _
  | copyAs memory =>
      exact Conduct.bind_sure (place.conduct_readingBlock (fun block => block.onBuffers_copyClaims _)
        fun block _ => block.conduct_copyAs memory) fun _ => sure_value _

/-! ## Maps, cursors and entries -/

theorem MapAction.conduct_run (action : MapAction) :
    Conduct (action.needs session) session action.run := by
  cases action with
  | create => exact of_sure ((Sure.ofOp (Handle.sure_create .empty)).bind fun _ => .pure _)
  | ofEntries entries =>
      obtain ⟨found, finds, lengths⟩ := ValueSpec.finds_buildEntries entries session
      refine bind_fits finds fun values made => ?_
      refine bind_made rfl ⟨World.alike_pushEmpty, fun _ => rfl⟩ ?_
      simp only [needs, ← Handle.writeClaims_congr _ (lengths values made)]
      exact (Conduct.ofOp (Handle.conduct_updateMany _ values)).bind_sure fun _ => .pure _
  | location map => exact bind_fits (Task.finds_handle map session) fun _ _ => Conduct.pure _
  | isRoot map => exact bind_fits (Task.finds_handle map session) fun _ _ => Conduct.pure _
  | shares map other =>
      exact bind_fits (Task.finds_handle map session) fun _ _ =>
        bind_fits (Task.finds_handle other session) fun _ _ => Conduct.pure _
  | path map key => exact bind_fits (Task.finds_handle map session) fun _ _ => Conduct.pure _
  | update map key value =>
      refine bind_finds (Task.finds_handle map session) fun handle _ => ?_
      refine bind_fits (value.finds_build session) fun value _ => ?_
      exact (Conduct.ofOp (handle.conduct_update key value)).bind_sure fun _ => .pure _
  | updateMany map entries =>
      refine bind_finds (Task.finds_handle map session) fun handle _ => ?_
      obtain ⟨found, finds, lengths⟩ := ValueSpec.finds_buildEntries entries session
      refine bind_fits finds fun values made => ?_
      rw [← handle.writeClaims_congr (lengths values made)]
      exact (Conduct.ofOp (handle.conduct_updateMany values)).bind_sure fun _ => .pure _
  | insertDefault map key value =>
      refine bind_finds (Task.finds_handle map session) fun handle _ => ?_
      refine bind_fits (value.finds_build session) fun value _ => ?_
      exact conduct_answer (handle.conduct_insertDefault key value) _
  | insertDefaultMany map entries =>
      obtain ⟨found, finds, lengths⟩ := ValueSpec.finds_buildEntries entries session
      refine bind_fits finds fun values made => ?_
      refine bind_finds (Task.finds_handle map session) fun handle _ => ?_
      rw [← handle.writeClaims_congr (lengths values made)]
      exact conduct_answer (handle.conduct_insertDefaultMany values) _
  | get map key type =>
      exact bind_finds (Task.finds_handle map session) fun handle _ =>
        conduct_valueOf (handle.conduct_get key type)
  | getOr map key type default =>
      refine bind_fits (default.finds_build session) fun default _ => ?_
      exact bind_finds (Task.finds_handle map session) fun handle _ =>
        conduct_valueOf (handle.conduct_getOr key type default)
  | getAny map key =>
      exact bind_finds (Task.finds_handle map session) fun handle _ =>
        conduct_valueOf (handle.conduct_getAny key)
  | typeName map key =>
      exact bind_finds (Task.finds_handle map session) fun handle _ =>
        conduct_answer (handle.conduct_typeName key) _
  | isStored map key =>
      exact bind_finds (Task.finds_handle map session) fun handle _ =>
        conduct_answer (handle.conduct_isStored key) _
  | size map =>
      exact bind_finds (Task.finds_handle map session) fun handle _ =>
        conduct_answer handle.conduct_size _
  | isEmpty map =>
      exact bind_finds (Task.finds_handle map session) fun handle _ =>
        conduct_answer handle.conduct_isEmpty _
  | keys map =>
      exact bind_finds (Task.finds_handle map session) fun handle _ =>
        conduct_answer handle.conduct_keys _
  | erase map key =>
      exact bind_finds (Task.finds_handle map session) fun handle _ =>
        conduct_answer (Handle.conduct_eraseKey handle.store (handle.resolve key)) _
  | eraseEntry map name =>
      exact bind_finds (Task.finds_handle map session) fun handle _ =>
        bind_finds (Task.finds_entry name session) fun entry _ =>
          conduct_answer (handle.conduct_eraseEntry entry) _
  | eraseRange map name =>
      exact bind_finds (Task.finds_handle map session) fun handle _ =>
        bind_finds (Task.finds_cursor name session) fun cursor _ =>
          conduct_answer (handle.conduct_eraseRange cursor) _
  | eraseRecursive map written =>
      exact bind_finds (Task.finds_handle map session) fun handle _ =>
        conduct_answer (Handle.conduct_eraseSubtree handle.store (handle.resolve written)) _
  | clear map =>
      exact bind_finds (Task.finds_handle map session) fun handle _ =>
        conduct_answer (Handle.conduct_eraseSubtree handle.store handle.location.key) _
  | submap map written =>
      exact bind_fits (Task.finds_handle map session) fun _ _ => Conduct.pure _
  | copy map =>
      exact bind_finds (Task.finds_handle map session) fun handle _ =>
        (Conduct.ofOp (handle.conduct_copy (.inr rfl))).bind_sure fun _ => .pure _
  | tryCopy map =>
      exact bind_finds (Task.finds_handle map session) fun handle _ =>
        (Conduct.ofOp (handle.conduct_copy (.inl rfl))).bind_sure fun _ => .pure _
  | assign map other =>
      refine bind_fits (Task.finds_handle map session).discard fun _ _ => ?_
      refine bind_fits (Task.finds_handle other session) fun other _ => of_sure ?_
      exact (Task.sure_bind map _).bind fun _ => .pure _
  | graft map key other =>
      refine bind_fits (Task.finds_handle map session) fun handle found => ?_
      refine bind_fits (Task.finds_handle other session) fun other more => ?_
      simp only [needs, Session.handleClaims, found, more]
      exact (Conduct.ofOp (handle.conduct_graft key other)).bind_sure fun _ => .pure _
  | merge map other =>
      refine bind_fits (Task.finds_handle map session) fun handle found => ?_
      refine bind_fits (Task.finds_handle other session) fun other more => ?_
      simp only [needs, Session.handleClaims, found, more]
      exact (Conduct.ofOp (handle.conduct_graft "" other)).bind_sure fun _ => .pure _
  | cursor map => exact bind_fits (Task.finds_handle map session) fun _ _ => Conduct.pure _
  | cursorAt map written =>
      exact bind_fits (Task.finds_handle map session) fun _ _ => Conduct.pure _
  | listing map =>
      exact bind_finds (Task.finds_handle map session) fun handle _ =>
        conduct_answer handle.conduct_snapshot _

theorem CursorAction.sure_stepped (name : String) (taken : Option EntryRef × Cursor) :
    Sure (stepped name taken) := by
  refine (Task.sure_bind name _).bind fun _ => ?_
  split
  · exact .pure _
  · exact .pure _

theorem CursorAction.conduct_run (name : String) (action : CursorAction) :
    Conduct (action.needs session name) session (action.run name) := by
  cases action with
  | next =>
      exact bind_finds (Task.finds_cursor name session) fun cursor _ =>
        (Conduct.ofOp (cursor.conduct_stepWith _)).bind_sure fun taken => sure_stepped name taken
  | nextBack =>
      exact bind_finds (Task.finds_cursor name session) fun cursor _ =>
        (Conduct.ofOp (cursor.conduct_stepWith _)).bind_sure fun taken => sure_stepped name taken
  | collect =>
      exact bind_finds (Task.finds_cursor name session) fun cursor _ =>
        conduct_answer cursor.conduct_collect _
  | collectBack =>
      exact bind_finds (Task.finds_cursor name session) fun cursor _ =>
        conduct_answer cursor.conduct_collectBack _
  | copy => exact bind_fits (Task.finds_cursor name session) fun _ _ => Conduct.pure _

theorem EntryAction.conduct_run (name : String) (action : EntryAction) :
    Conduct (action.needs session name) session (action.run name) := by
  cases action with
  | keys => exact bind_fits (Task.finds_entry name session) fun _ _ => Conduct.pure _
  | typeName =>
      exact bind_finds (Task.finds_entry name session) fun entry _ =>
        conduct_answer entry.conduct_typeName _
  | value type =>
      exact bind_finds (Task.finds_entry name session) fun entry _ =>
        conduct_valueOf (entry.conduct_value type)
  | anyValue =>
      exact bind_finds (Task.finds_entry name session) fun entry _ =>
        conduct_valueOf entry.conduct_anyValue
  | set spec =>
      refine bind_finds (Task.finds_entry name session) fun entry _ => ?_
      refine bind_fits (spec.finds_build session) fun value _ => ?_
      exact (Conduct.ofOp (entry.conduct_set value)).bind_sure fun _ => .pure _

theorem Action.conduct_run (action : Action) :
    Conduct (action.needs session) session action.run := by
  cases action with
  | path action => exact Conduct.pure _
  | layout action =>
      exact bind_calm (Task.ofExcept_apply _ _) action.calm_answer fun _ _ => Conduct.pure _
  | object action => exact action.conduct_run
  | buffer action => exact action.conduct_run
  | array action => exact action.conduct_run
  | view place action => exact action.conduct_run place
  | block place action => exact action.conduct_run place
  | map action => exact action.conduct_run
  | cursor name action => exact action.conduct_run name
  | entry name action => exact action.conduct_run name

/-! ## Accesses -/

/-- Wherever it is run, the body leaves a session that follows. -/
def Body.Follows (body : Body) : Prop :=
  ∀ session : Session, session.world.Follows (body session).2.world

namespace Body

variable {body : Body} (bindings : Variables)

theorem sure_carry (follows : body.Follows) : Sure (body.carry bindings) :=
  fun world => .ok (follows ⟨world, bindings⟩)

theorem sure_readValue (follows : body.Follows) (value : Value) :
    Sure (body.readValue bindings value) :=
  value.looks_snapshot.sure.bind fun _ => (sure_carry bindings follows).bind fun _ => .pure _

theorem sure_readCell (follows : body.Follows) (cell : Cell) :
    Sure (body.readCell bindings cell) :=
  (Cell.looks_snapshot cell).sure.bind fun _ => (sure_carry bindings follows).bind fun _ => .pure _

theorem sure_readElements (follows : body.Follows) (elements : List Scalar) :
    Sure (body.readElements bindings elements) :=
  (sure_carry bindings follows).bind fun _ => .pure _

theorem sure_writeValue (follows : body.Follows) (set : Option ValueSpec) (value : Value) :
    Sure (body.writeValue set bindings value) := by
  refine value.looks_snapshot.sure.bind fun seen => ?_
  refine (Sure.ofExcept (ValueSpec.misfits_optionIn bindings set).silent).bind fun asked => ?_
  dsimp only
  split
  · exact fun world => .silent trivial (.refl world)
  · exact (sure_carry bindings follows).bind fun _ =>
      (Value.looks_snapshot _).sure.bind fun _ => .pure _

theorem sure_writeCell (follows : body.Follows) (set : Option ValueSpec) (empty : Bool)
    (cell : Cell) : Sure (body.writeCell set empty bindings cell) := by
  refine (Cell.looks_snapshot cell).sure.bind fun seen => ?_
  refine (Sure.ofExcept (ValueSpec.misfits_optionIn bindings set).silent).bind fun asked => ?_
  exact (sure_carry bindings follows).bind fun _ =>
    (Cell.looks_snapshot _).sure.bind fun _ => .pure _

theorem sure_writeElements (follows : body.Follows) (elem : ElemType) (fill : List Literal)
    (elements : List Scalar) : Sure (body.writeElements elem fill bindings elements) := by
  have read : FailsOnly Misfits ((fill.take elements.length).mapM (Literal.read · elem)) :=
    FailsOnly.mapM (fun literal => literal.misfits_read elem) _
  exact (Sure.ofExcept read.silent).bind fun _ => (sure_carry bindings follows).bind fun _ => .pure _

end Body

/-- An access is refused exactly if it cannot get its claims, and tells errors only before its body
runs. -/
theorem Access.conduct_run {body : Body} (follows : body.Follows) (access : Access) :
    Conduct (access.claims session) session (access.run body) := by
  cases access with
  | writeVariable name type set =>
      refine bind_fits (Task.finds_value name session) fun held _ => ?_
      refine bind_calm (Task.ofExcept_apply _ _) (held.calm_expect type) fun value _ => ?_
      exact Conduct.lending fun bindings => of_sure (Body.sure_writeValue bindings follows set value)
  | writeCell name type set =>
      refine bind_fits (Task.finds_cell name session) fun cell _ => ?_
      refine bind_calm (Task.ofExcept_apply _ _) (Cell.calm_expect cell type) fun value _ => ?_
      exact Conduct.lending fun bindings => of_sure (Body.sure_writeValue bindings follows set value)
  | readBuffer name =>
      exact bind_finds (Task.finds_buffer name session) fun buffer _ =>
        Conduct.carrying (readingBuffer (.inl rfl) (List.forall_mem_nil _)
          (of_sure (Body.sure_readElements _ follows _)))
  | writeBuffer name fill =>
      exact bind_finds (Task.finds_buffer name session) fun buffer _ =>
        Conduct.carrying (writingBuffer (List.forall_mem_nil _)
          (of_sure (Body.sure_writeElements _ follows _ _ _)))
  | readBlock place =>
      have conduct : Conduct (place.blockNeeds session .reading fun block => block.claims .reading)
          session (Access.run body (.readBlock place)) :=
        place.conduct_reading .block (fun _ => .claimsOf fun block => block.onBuffers_claims _)
          fun bindings value _ =>
            bind_settled (Op.ofExcept_apply _ _) value.misfits_toBlock.silent.calm _ fun block _ =>
              block.conduct_withData fun elements _ =>
                of_sure (Body.sure_readElements bindings follows elements)
      exact conduct.congr fun claim => by
        simp only [Access.claims, Place.blockNeeds, List.mem_append, or_comm]
  | writeBlock place fill =>
      have conduct : Conduct (place.blockNeeds session .writing fun block => block.claims .writing)
          session (Access.run body (.writeBlock place fill)) :=
        place.conduct_writing .block (fun _ => .claimsOf fun block => block.onBuffers_claims _)
          fun bindings value _ =>
            bind_settled (Op.ofExcept_apply _ _) value.misfits_toBlock.silent.calm _ fun block _ =>
              (block.conduct_modifyData fun elements _ =>
                of_sure (Body.sure_writeElements bindings follows _ _ elements)).bind_sure
                  fun _ => .pure _
      exact conduct.congr fun claim => by
        simp only [Access.claims, Place.blockNeeds, List.mem_append, or_comm]
  | readStored map key type =>
      refine bind_finds (Task.finds_handle map session) fun handle _ => Conduct.carrying ?_
      exact handle.conduct_withValue key type fun value _ =>
        of_sure (Body.sure_readValue _ follows value)
  | readStoredOr map key type default =>
      refine bind_finds (Task.finds_handle map session) fun handle _ => ?_
      refine bind_fits (default.finds_build session) fun default _ => Conduct.carrying ?_
      exact handle.conduct_withValueOr key type default fun value _ =>
        of_sure (Body.sure_readValue _ follows value)
  | writeStored map key type set =>
      refine bind_finds (Task.finds_handle map session) fun handle _ => Conduct.carrying ?_
      exact handle.conduct_modifyValue key type fun value _ =>
        of_sure (Body.sure_writeValue _ follows set value)
  | writeStoredCell map key set empty =>
      refine bind_finds (Task.finds_handle map session) fun handle _ => Conduct.carrying ?_
      exact handle.conduct_modifyCell key fun cell _ =>
        of_sure (Body.sure_writeCell _ follows set empty cell)
  | readEntry name type =>
      refine bind_finds (Task.finds_entry name session) fun entry _ => Conduct.carrying ?_
      exact entry.conduct_withValue type fun value _ =>
        of_sure (Body.sure_readValue _ follows value)
  | writeEntry name type set =>
      refine bind_finds (Task.finds_entry name session) fun entry _ => Conduct.carrying ?_
      exact entry.conduct_modifyValue type fun value _ =>
        of_sure (Body.sure_writeValue _ follows set value)
  | readEntryCell name =>
      refine bind_finds (Task.finds_entry name session) fun entry _ => Conduct.carrying ?_
      exact entry.conduct_withCell fun cell _ => of_sure (Body.sure_readCell _ follows cell)

end PathStore
