import PathStore.Proofs.Session.Places
import PathStore.Proofs.Submap.Separation

/-!
# Assignments

An element is assigned through a view or a block where that stands. If this succeeds, the address led to a
slot of a buffer that may be written, and the element at that slot was overwritten. Nothing else has
changed: what was read under a claim on a store is as it was, and a block that was written under one, or
taken from a variable meanwhile, was put back as it was found.
-/

namespace PathStore

variable {α β : Type}

/-! ## Overwriting a slot -/

/-- The slot exists, and its buffer may be written. -/
structure World.Writable (world : World) (slot : Slot) : Prop where
  inside : slot.position < (world.elements slot.buffer).length
  admitted : world.admits ⟨.buffer slot.buffer, .writing⟩

theorem World.Writable.of_under {world : World} {claims : List Claim} {slot : Slot}
    (writable : (world.under claims).Writable slot) : world.Writable slot where
  inside := writable.inside
  admitted := by
    have admitted := writable.admitted
    rw [World.admits, World.under, List.all_append, Bool.and_eq_true] at admitted
    exact admitted.2

section Overwriting

variable {world left : World} {element : Scalar}

theorem BufferRef.set_eq_ok {buffer : BufferRef} {position : Nat}
    (ran : buffer.set position element world = .ok () left) :
    world.Writable ⟨buffer.id, position⟩ ∧
      left = world.overwrite ⟨buffer.id, position⟩ element := by
  have inside : position < (world.elements buffer.id).length := by
    by_contra outside
    unfold set at ran
    rw [BufferId.writing_apply, if_neg outside] at ran
    split at ran <;> cases ran
  rw [set_eq inside] at ran
  split at ran
  · rename_i admitted
    cases ran
    exact ⟨⟨inside, admitted⟩, rfl⟩
  · cases ran

/-- An element that is set at a position that is found first. -/
theorem BufferRef.setAt_eq_ok {buffer : BufferRef} {found : Except Failure Nat}
    (ran : (Op.ofExcept found >>= fun position => buffer.set position element) world = .ok () left) :
    ∃ slot, (found.toOption.map fun position => (⟨buffer.id, position⟩ : Slot)) = some slot ∧
      world.Writable slot ∧ left = world.overwrite slot element := by
  cases found with
  | error failure => cases ran
  | ok position => exact ⟨⟨buffer.id, position⟩, rfl, BufferRef.set_eq_ok ran⟩

theorem View.set_eq_ok {view : View} {index : List Nat}
    (ran : view.set index element world = .ok () left) :
    ∃ slot, view.slotAt? index = some slot ∧ world.Writable slot ∧
      left = world.overwrite slot element :=
  BufferRef.setAt_eq_ok ran

theorem View.setLinear_eq_ok {view : View} {place : Nat}
    (ran : view.setLinear place element world = .ok () left) :
    ∃ slot, view.slotOf? place = some slot ∧ world.Writable slot ∧
      left = world.overwrite slot element :=
  BufferRef.setAt_eq_ok ran

theorem Block.set_eq_ok {block after : Block} {buffer : BufferRef} {position : Nat}
    (borrows : block.storage = .borrowed buffer)
    (ran : block.set position element world = .ok after left) :
    ∃ slot, block.slotOf? position = some slot ∧ world.Writable slot ∧
      after = block ∧ left = world.overwrite slot element := by
  unfold Block.set at ran
  split at ran
  · cases ran
  · rename_i within
    have below := Nat.lt_of_not_le within
    refine ⟨⟨buffer.id, position⟩, by rw [slotOf?, borrows]; exact if_pos below, ?_⟩
    obtain ⟨made, between, modifying, finished⟩ := exists_of_bind_ok ran
    cases finished
    unfold modifyData at modifying
    rw [borrows] at modifying
    obtain ⟨_, _, writing, finished⟩ := exists_of_bind_ok modifying
    cases finished
    rw [BufferId.writing_apply] at writing
    split at writing
    · rename_i admitted
      dsimp only at writing
      by_cases inside : position < ((world.elements buffer.id).take block.size).length
      · rw [if_pos inside] at writing
        cases writing
        -- The element is one of those that are laid over the beginning of the buffer.
        refine ⟨⟨?_, admitted⟩, rfl, ?_⟩
        · rw [List.length_take] at inside
          exact Nat.lt_of_lt_of_le inside (Nat.min_le_right _ _)
        · rw [overlay_set below]
          rfl
      · rw [if_neg inside] at writing
        cases writing
    · cases writing

end Overwriting

/-! ## Arrays where they stand -/

/-- The result and what is left come of a program that has run under some claims. If that has ended in
the right way and has changed no entries, nothing else can be told afterwards than what it has done. -/
def ComesOf (program : Op β) (told : β → α) (ended : β → Prop) (session : Session) (result : α)
    (left : Session) : Prop :=
  ∃ claims made after, program (session.world.under claims) = .ok made after ∧ result = told made ∧
    ∀ world, after = world.under claims → world.entries = session.world.entries → ended made →
      Session.Alike ⟨world, session.bindings⟩ left

/-- If the program overwrites a slot wherever it succeeds, that is what has been done. -/
theorem ComesOf.overwritten {program : Op β} {told : β → α} {ended : β → Prop}
    {session left : Session} {result answer : α} (slots : Slot → Scalar → Prop)
    (comes : ComesOf program told ended session result left)
    (writes : ∀ world made after, program world = .ok made after →
      ended made ∧ told made = answer ∧ ∃ slot element, slots slot element ∧
        world.Writable slot ∧ after = world.overwrite slot element) :
    result = answer ∧ ∃ slot element, slots slot element ∧ session.world.Writable slot ∧
      Session.Alike ⟨session.world.overwrite slot element, session.bindings⟩ left := by
  obtain ⟨claims, made, after, ran, rfl, alike⟩ := comes
  obtain ⟨ends, tells, slot, element, found, writable, same⟩ := writes _ made after ran
  exact ⟨tells, slot, element, found, writable.of_under, alike _ same rfl ends⟩

namespace Place

variable {place : Place} {form : Form} {session left : Session} {result : α}

theorem exists_of_reading {use : Variables → Value → Op (α × Variables)}
    (ran : place.reading form use session = .ok result left) :
    ∃ value, place.value? session form = some value ∧
      ComesOf (use session.bindings value) Prod.fst (fun made => made.2 = session.bindings) session
        result left := by
  cases place.reads_reading use with
  | missing stops => cases stops.symm.trans ran
  | @held value stands runs =>
      obtain ⟨made, after, ended, told, rfl⟩ := runs.exists_ok ran
      refine ⟨value, stands, [], made, after, ended, told, ?_⟩
      rintro world rfl - same
      rw [same]
      exact .refl _
  | @stored value id stands runs =>
      obtain ⟨made, after, ended, told, rfl⟩ := runs.exists_ok ran
      rw [StoreId.reading_apply] at ended
      split at ended
      · split at ended
        · rename_i inner between begun
          cases ended
          refine ⟨value, stands, [⟨.store id, .reading⟩], made, between, begun, told, ?_⟩
          rintro world rfl - same
          rw [same]
          exact .refl _
        · cases ended
      · cases ended

/-- What a variable is lent for comes of the program, if that gives it back. -/
theorem comesOf_lending {name : String} {object : Value → Object} {value : Value}
    {use : Variables → Op ((α × Variables) × Value)}
    (named : session.bindings.lookup name = some (object value))
    (ran : Task.lending name object use session = .ok result left) :
    ∃ bindings, ComesOf (use bindings) (·.1.1)
      (fun made => made.1.2 = bindings ∧ made.2 = value) session result left := by
  obtain ⟨made, after, ended, told, rfl⟩ := (Task.runsOn_lending _ _ _ session).exists_ok ran
  refine ⟨_, [], made, after, ended, told, ?_⟩
  rintro world rfl - ⟨carried, same⟩
  rw [carried, Entries.lookup_filter_ne, if_pos rfl, same]
  exact Session.alike_rebind named

/-- What is lent out of a store comes of the program, if that gives it back. -/
theorem comesOf_carrying {id : StoreId} {key : String} {valueAt : Entries Cell → Except Failure Value}
    {use : Variables → Value → Op ((α × Variables) × Value)}
    (stored : ∀ value, valueAt (session.world.entries id) = .ok value →
      (session.world.entries id).find? key = some (some value))
    (ran : Task.carrying (fun bindings => id.writing fun entries =>
      Op.ofExcept (valueAt entries) >>= fun value =>
        use bindings value >>= fun made =>
          pure (made.1, entries.insert key (some made.2))) session = .ok result left) :
    ∃ value, valueAt (session.world.entries id) = .ok value ∧
      ComesOf (use session.bindings value) (·.1.1)
        (fun made => made.1.2 = session.bindings ∧ made.2 = value) session result left := by
  obtain ⟨inner, after, ended, told, rfl⟩ := (Task.runsOn_carrying _ session).exists_ok ran
  rw [StoreId.writing_apply] at ended
  split at ended
  · split at ended
    · rename_i written between begun
      cases ended
      cases decided : valueAt (session.world.entries id) with
      | error failure =>
          rw [decided] at begun
          cases begun
      | ok value =>
          rw [decided] at begun
          change (use session.bindings value >>= _) _ = _ at begun
          obtain ⟨made, _, uses, finished⟩ := exists_of_bind_ok begun
          cases finished
          refine ⟨value, rfl, [⟨.store id, .writing⟩], made, between, uses, told, ?_⟩
          rintro world rfl entries ⟨carried, same⟩
          have put : (session.world.entries id).insert key (some made.2) = world.entries id := by
            rw [same, Entries.insert_found (stored value decided), entries]
          rw [put, carried]
          exact ⟨world.alike_setEntries id, fun _ => rfl⟩
    · cases ended
  · cases ended

theorem exists_of_writing {use : Variables → Value → Op ((α × Variables) × Value)}
    (ran : place.writing form use session = .ok result left) :
    ∃ value bindings, place.value? session form = some value ∧
      ComesOf (use bindings value) (·.1.1) (fun made => made.1.2 = bindings ∧ made.2 = value) session
        result left := by
  cases place with
  | «variable» name =>
      obtain ⟨value, found, ran⟩ := (Task.finds_value name session).exists_of_ok ran
      obtain ⟨object, named, same⟩ := Option.bind_eq_some_iff.mp found
      rw [Object.value?_eq_some_iff.mp same] at named
      dsimp only at ran
      split at ran
      · cases ran
      · rename_i fits
        obtain ⟨bindings, comes⟩ := comesOf_lending named ran
        exact ⟨value, bindings, value?_variable found (not_not.mp fits), comes⟩
  | stored map key elem =>
      obtain ⟨handle, found, ran⟩ := (Task.finds_handle map session).exists_of_ok ran
      simp only [Handle.modifyValue_eq] at ran
      obtain ⟨value, decided, comes⟩ := comesOf_carrying (fun _ => handle.find?_of_valueAt) ran
      exact ⟨value, _, value?_stored found decided, comes⟩
  | entry name elem =>
      obtain ⟨entry, found, ran⟩ := (Task.finds_entry name session).exists_of_ok ran
      simp only [EntryRef.modifyValue_eq] at ran
      obtain ⟨value, decided, comes⟩ := comesOf_carrying (fun _ => entry.find?_of_valueAt) ran
      exact ⟨value, _, value?_entry found decided, comes⟩
  | cell name elem =>
      obtain ⟨cell, found, ran⟩ := (Task.finds_cell name session).exists_of_ok ran
      obtain ⟨object, named, same⟩ := Option.bind_eq_some_iff.mp found
      rw [Object.cell?_eq_some_iff.mp same] at named
      cases fits : Cell.expect cell ⟨form, elem⟩ with
      | error failure =>
          rw [fits] at ran
          cases ran
      | ok value =>
          rw [fits] at ran
          rw [Cell.eq_of_expect fits] at named
          have lends : Task.lending name (fun value => .cell (some value)) (use · value) session =
              .ok result left := ran
          obtain ⟨bindings, comes⟩ := comesOf_lending named lends
          exact ⟨value, bindings, value?_cell found fits, comes⟩

theorem exists_of_readingView {use : View → Op α}
    (ran : place.readingView use session = .ok result left) :
    ∃ view, place.value? session .view = some (.view view) ∧
      ComesOf (use view) id (fun _ => True) session result left := by
  obtain ⟨value, stands, comes⟩ := exists_of_reading ran
  cases value with
  | view view =>
      obtain ⟨claims, made, after, ran, same, alike⟩ := comes
      change (use view >>= _) _ = _ at ran
      obtain ⟨told, _, begun, finished⟩ := exists_of_bind_ok ran
      cases finished
      exact ⟨view, stands, claims, told, after, begun, same, fun world back entries _ =>
        alike world back entries rfl⟩
  | scalar datum =>
      obtain ⟨_, _, _, ran, _⟩ := comes
      cases ran
  | block block =>
      obtain ⟨_, _, _, ran, _⟩ := comes
      cases ran

theorem exists_of_writingBlock {use : Block → Op (α × Block)}
    (ran : place.writingBlock use session = .ok result left) :
    ∃ block, place.value? session .block = some (.block block) ∧
      ComesOf (use block) Prod.fst (fun made => made.2 = block) session result left := by
  obtain ⟨value, bindings, stands, comes⟩ := exists_of_writing ran
  cases value with
  | block block =>
      obtain ⟨claims, made, after, ran, same, alike⟩ := comes
      change (use block >>= _) _ = _ at ran
      obtain ⟨told, _, begun, finished⟩ := exists_of_bind_ok ran
      cases finished
      exact ⟨block, stands, claims, told, after, begun, same, fun world back entries given =>
        alike world back entries ⟨rfl, congrArg Value.block given⟩⟩
  | scalar datum =>
      obtain ⟨_, _, _, ran, _⟩ := comes
      cases ran
  | view view =>
      obtain ⟨_, _, _, ran, _⟩ := comes
      cases ran

end Place

/-! ## Steps that assign -/

namespace Step

/-- The step assigns to an element through the view that stands at a place, or through the block that
stands there and has borrowed a buffer. -/
inductive Assigns (session : Session) : Step → Prop where
  | view (place : Place) (index : List Nat) (literal : Literal) (into : Option String) :
      Assigns session (.act (.view place (.set index literal)) into)
  | viewLinear (place : Place) (position : Nat) (literal : Literal) (into : Option String) :
      Assigns session (.act (.view place (.setLinear position literal)) into)
  | block {place : Place} {position : Nat} {literal : Literal} {into : Option String} {array : Block}
      {buffer : BufferRef} (stands : place.value? session .block = some (.block array))
      (borrows : array.storage = .borrowed buffer) :
      Assigns session (.act (.block place (.set position literal)) into)

theorem exists_of_assigning {read : Except Failure Scalar} {set : Scalar → Op α} {told : α → β}
    {world left : World} {result : β}
    (ran : (Op.ofExcept read >>= fun element => set element >>= fun made => pure (told made)) world =
      .ok result left) :
    ∃ element made, read = .ok element ∧ set element world = .ok made left ∧ result = told made := by
  cases read with
  | error failure => cases ran
  | ok element =>
      change (set element >>= _) world = _ at ran
      obtain ⟨made, _, begun, finished⟩ := exists_of_bind_ok ran
      cases finished
      exact ⟨element, made, rfl, begun, rfl⟩

/-- A step that assigns sets the element at a slot that may be written, and does nothing else. -/
theorem Assigns.exists_sets {step : Step} {session left : Session} {answer : Answer}
    (assigns : step.Assigns session) (ran : step.task session = .ok answer left) :
    ∃ slot element, step.Sets session slot element ∧ session.world.Writable slot ∧
      Session.Alike ⟨session.world.overwrite slot element, session.bindings⟩ left := by
  have nothing {into : Option String} {outcome : Outcome} {between : Session}
      (told : outcome = .only .nothing)
      (stored : outcome.store into between = .ok answer left) : between = left := by
    subst told
    cases into <;> exact (EStateM.Result.ok.inj stored).2
  let sets := step.Sets session
  cases assigns with
  | view place index literal into =>
      obtain ⟨outcome, between, acted, stored⟩ := exists_of_bind_ok ran
      obtain ⟨array, stands, comes⟩ := place.exists_of_readingView acted
      obtain ⟨told, overwritten⟩ := comes.overwritten sets fun world made after ended => by
        obtain ⟨element, _, reads, set, told⟩ := exists_of_assigning ended
        obtain ⟨slot, addressed, writable, same⟩ := View.set_eq_ok set
        exact ⟨trivial, told, slot, element, Sets.view stands addressed reads, writable, same⟩
      exact nothing told stored ▸ overwritten
  | viewLinear place position literal into =>
      obtain ⟨outcome, between, acted, stored⟩ := exists_of_bind_ok ran
      obtain ⟨array, stands, comes⟩ := place.exists_of_readingView acted
      obtain ⟨told, overwritten⟩ := comes.overwritten sets fun world made after ended => by
        obtain ⟨element, _, reads, set, told⟩ := exists_of_assigning ended
        obtain ⟨slot, addressed, writable, same⟩ := View.setLinear_eq_ok set
        exact ⟨trivial, told, slot, element, Sets.viewLinear stands addressed reads, writable, same⟩
      exact nothing told stored ▸ overwritten
  | @block place position literal into array buffer stands borrows =>
      obtain ⟨outcome, between, acted, stored⟩ := exists_of_bind_ok ran
      obtain ⟨found, there, comes⟩ := place.exists_of_writingBlock acted
      cases stands.symm.trans there
      obtain ⟨told, overwritten⟩ := comes.overwritten sets fun world made after ended => by
        obtain ⟨element, written, reads, set, rfl⟩ := exists_of_assigning ended
        obtain ⟨slot, addressed, writable, back, same⟩ := Block.set_eq_ok borrows set
        exact ⟨back, rfl, slot, element, Sets.block stands addressed reads, writable, same⟩
      exact nothing told stored ▸ overwritten

end Step

end PathStore
