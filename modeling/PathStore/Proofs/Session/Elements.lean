import PathStore.Proofs.Array.Blocks
import PathStore.Proofs.Array.Overwriting
import PathStore.Proofs.Session.Touches

/-!
# Steps that set one element

An element may be set through a view or a block where that stands. If this succeeds, then of all
buffers only the element at the slot has changed that the view or block addresses.
-/

namespace PathStore

variable {α β : Type}

/-! ## What buffers contain after a success -/

section Programs

variable {σ : Type} [Worldly σ]

open Worldly

/-- Wherever the program succeeds, buffers contain certain elements afterwards. -/
def Leaves (elements : BufferId → List Scalar) (state : σ) (program : EStateM Failure σ α) : Prop :=
  ∀ result left, program state = .ok result left → (world left).elements = elements

namespace Leaves

variable {elements : BufferId → List Scalar} {state : σ}

theorem pure {result : α} (same : (world state).elements = elements) :
    Leaves elements state (Pure.pure result : EStateM Failure σ α) := by
  rintro _ _ ⟨⟩
  exact same

theorem failed {program : EStateM Failure σ α} {failure : Failure}
    (stops : program state = .error failure state) : Leaves elements state program := by
  intro result left ended
  cases stops.symm.trans ended

theorem bind {program : EStateM Failure σ α} {next : α → EStateM Failure σ β}
    (first : Leaves elements state program)
    (rest : ∀ result left, (world left).elements = elements →
      Leaves elements left (next result)) :
    Leaves elements state (program >>= next) := by
  intro last after ended
  obtain ⟨result, left, ran, continued⟩ := exists_of_bind_ok ended
  exact rest result left (first result left ran) last after continued

/-- What is decided first changes nothing. -/
theorem bind_settled {program : EStateM Failure σ α} {next : α → EStateM Failure σ β}
    {decided : Except Failure α} (runs : program state = settled decided state)
    (rest : ∀ result, decided = .ok result → Leaves elements state (next result)) :
    Leaves elements state (program >>= next) := by
  intro last left ended
  cases decided with
  | error failure => cases (bind_of_error runs).symm.trans ended
  | ok result => exact rest result rfl last left ((bind_of_ok runs).symm.trans ended)

end Leaves

end Programs

namespace Leaves

variable {elements : BufferId → List Scalar}

theorem bind_deciding {world : World} {decided : Except Failure α} {next : α → Op β}
    (rest : ∀ result, decided = .ok result → Leaves elements world (next result)) :
    Leaves elements world (Op.ofExcept decided >>= next) :=
  bind_settled (Op.ofExcept_apply decided world) rest

theorem holding {world : World} {claim : Claim} {refusal : Failure} {program : Op α}
    (leaves : Leaves elements (world.acquire claim) program) :
    Leaves elements world (Op.holding claim refusal program) := by
  intro result left ended
  unfold Op.holding at ended
  split at ended
  · cases ran : program (world.acquire claim) with
    | error failure inner =>
        rw [ran] at ended
        cases ended
    | ok made inner =>
        rw [ran] at ended
        cases ended
        exact leaves result inner ran
  · cases ended

theorem readingStore {world : World} {id : StoreId} {refusal : Failure} {use : Entries Cell → Op α}
    (leaves : Leaves elements (world.acquire ⟨.store id, .reading⟩) (use (world.entries id))) :
    Leaves elements world (id.reading refusal use) :=
  holding leaves

theorem writingStore {world : World} {id : StoreId} {use : Entries Cell → Op (α × Entries Cell)}
    (leaves : Leaves elements (world.acquire ⟨.store id, .writing⟩) (use (world.entries id))) :
    Leaves elements world (id.writing use) :=
  holding (leaves.bind fun _ _ same => .pure same)

/-- What a buffer contains that is written is what the program yields. -/
theorem writingBuffer {world : World} {id : BufferId} {use : List Scalar → Op (α × List Scalar)}
    (leaves : ∀ made left,
      use (world.elements id) (world.acquire ⟨.buffer id, .writing⟩) = .ok made left →
        (left.setElements id made.2).elements = elements) :
    Leaves elements world (id.writing use) := by
  refine holding fun result left ended => ?_
  change (use (world.elements id) >>= _) _ = _ at ended
  obtain ⟨made, inner, ran, continued⟩ := exists_of_bind_ok ended
  cases continued
  exact leaves made inner ran

variable {session : Session}

theorem of_runsOn {task : Task β} {program : Op α} {result : α → β} {bindings : α → Variables}
    (runs : RunsOn task program result bindings session)
    (leaves : Leaves elements session.world program) : Leaves elements session task := by
  intro made left ran
  obtain ⟨inner, world, ended, -, rfl⟩ := runs.exists_ok ran
  exact leaves inner world ended

end Leaves

/-! ## Arrays where they stand -/

namespace Place

variable {place : Place} {form : Form} {elements : BufferId → List Scalar} {session : Session}

theorem leaves_reading {use : Variables → Value → Op (α × Variables)}
    (each : ∀ value, place.value? session form = some value → ∀ bindings world,
      world.elements = session.world.elements → Leaves elements world (use bindings value)) :
    Leaves elements session (place.reading form use) := by
  cases place.reads_reading use with
  | missing stops => exact .failed stops
  | held stands runs => exact .of_runsOn runs (each _ stands _ _ rfl)
  | stored stands runs => exact .of_runsOn runs (.readingStore (each _ stands _ _ rfl))

theorem leaves_writing {use : Variables → Value → Op ((α × Variables) × Value)}
    (each : ∀ value, place.value? session form = some value → ∀ bindings world,
      world.elements = session.world.elements → Leaves elements world (use bindings value)) :
    Leaves elements session (place.writing form use) := by
  cases place.writes_writing use with
  | missing stops => exact .failed stops
  | held stands runs => exact .of_runsOn runs (each _ stands _ _ rfl)
  | stored stands claimed runs =>
      refine .of_runsOn runs (.writingStore ?_)
      exact .bind (each _ stands session.bindings _ rfl) fun _ _ same => .pure same

theorem leaves_readingView {use : View → Op α} {view : View}
    (stands : place.value? session .view = some (.view view))
    (each : ∀ world : World, world.elements = session.world.elements →
      Leaves elements world (use view)) :
    Leaves elements session (place.readingView use) := by
  refine leaves_reading fun value found bindings world same => .bind_deciding fun array is => ?_
  cases found.symm.trans stands
  cases is
  exact .bind (each world same) fun _ _ left => .pure left

theorem leaves_writingBlock {use : Block → Op (α × Block)} {block : Block}
    (stands : place.value? session .block = some (.block block))
    (each : ∀ world : World, world.elements = session.world.elements →
      Leaves elements world (use block)) :
    Leaves elements session (place.writingBlock use) := by
  refine leaves_writing fun value found bindings world same => .bind_deciding fun array is => ?_
  cases found.symm.trans stands
  cases is
  exact .bind (each world same) fun _ _ left => .pure left

end Place

/-! ## One element -/

/-- What all buffers contain once the element of a slot is set. -/
def Slot.overwritten (slot : Slot) (element : Scalar) (elements : BufferId → List Scalar) :
    BufferId → List Scalar :=
  fun id => slot.overwrite element id (elements id)

theorem Slot.elements_setElements (slot : Slot) (element : Scalar) {world left : World}
    (same : left.elements = world.elements) :
    (left.setElements slot.buffer
      ((world.elements slot.buffer).set slot.position element)).elements =
      slot.overwritten element world.elements := by
  funext id
  rw [World.elements_setElements, overwritten, overwrite, same]
  split
  · rename_i here
    rw [here]
  · rfl

theorem BufferRef.leaves_set {buffer : BufferRef} {world : World} (position : Nat)
    (element : Scalar) :
    Leaves (Slot.overwritten ⟨buffer.id, position⟩ element world.elements) world
      (buffer.set position element) := by
  refine Leaves.writingBuffer fun elements left ended => ?_
  split at ended
  · cases ended
    exact Slot.elements_setElements ⟨buffer.id, position⟩ element rfl
  · cases ended

namespace View

variable {view : View} {slot : Slot} {world : World}

theorem leaves_set {index : List Nat} (addressed : view.slotAt? index = some slot)
    (element : Scalar) :
    Leaves (slot.overwritten element world.elements) world (view.set index element) := by
  refine .bind_deciding fun position (found : view.indexPosition index = .ok position) => ?_
  rw [slotAt?, found] at addressed
  cases addressed
  exact BufferRef.leaves_set position element

theorem leaves_setLinear {place : Nat} (addressed : view.slotOf? place = some slot)
    (element : Scalar) :
    Leaves (slot.overwritten element world.elements) world (view.setLinear place element) := by
  refine .bind_deciding fun position (found : view.checkedPosition place = .ok position) => ?_
  rw [slotOf?, found] at addressed
  cases addressed
  exact BufferRef.leaves_set position element

end View

namespace Block

variable {block : Block} {slot : Slot} {world : World}

/-- What a program makes of the elements of a block that borrows a buffer is laid over those. -/
theorem leaves_modifyData {buffer : BufferRef} (borrows : block.storage = .borrowed buffer)
    {elements : BufferId → List Scalar} {use : List Scalar → Op (α × List Scalar)}
    (each : ∀ made left,
      use ((world.elements buffer.id).take block.size)
          (world.acquire ⟨.buffer buffer.id, .writing⟩) = .ok made left →
        (left.setElements buffer.id
          (overlay (made.2.take block.size) (world.elements buffer.id))).elements = elements) :
    Leaves elements world (block.modifyData use) := by
  unfold modifyData
  rw [borrows]
  refine Leaves.bind (Leaves.writingBuffer fun made left ended => ?_) fun _ _ same => .pure same
  obtain ⟨written, inner, ran, continued⟩ := exists_of_bind_ok ended
  cases continued
  exact each written left ran

/-- A block that addresses a slot borrows its buffer. -/
theorem slotOf?_eq_some {position : Nat} (addressed : block.slotOf? position = some slot) :
    position < block.size ∧ slot.position = position ∧
      ∃ buffer, block.storage = .borrowed buffer ∧ slot.buffer = buffer.id := by
  unfold slotOf? at addressed
  split at addressed
  · rename_i buffer borrows
    split at addressed
    · rename_i below
      cases addressed
      exact ⟨below, rfl, buffer, borrows, rfl⟩
    · cases addressed
  · cases addressed

theorem leaves_set {position : Nat} (addressed : block.slotOf? position = some slot)
    (element : Scalar) :
    Leaves (slot.overwritten element world.elements) world (block.set position element) := by
  obtain ⟨below, rfl, buffer, borrows, same⟩ := slotOf?_eq_some addressed
  unfold set
  rw [if_neg (Nat.not_le_of_lt below)]
  refine Leaves.bind (leaves_modifyData borrows fun made left ended => ?_) fun _ _ same =>
    .pure same
  split at ended
  · cases ended
    rw [overlay_set below, ← same]
    exact Slot.elements_setElements slot element rfl
  · cases ended

/-- The first element is set by a fill of one element. -/
theorem leaves_fill {literal : Literal} {element : Scalar}
    (addressed : block.slotOf? 0 = some slot) (reads : literal.read block.elem = .ok element)
    (bindings : Variables) :
    Leaves (slot.overwritten element world.elements) world
      (block.modifyData (Body.writeElements (Step.runAll []) block.elem [literal] bindings)) := by
  obtain ⟨below, first, buffer, borrows, same⟩ := slotOf?_eq_some addressed
  refine leaves_modifyData borrows fun made left ended => ?_
  have filled : made.2 = ((world.elements buffer.id).take block.size).set 0 element ∧
      left.elements = world.elements := by
    generalize (world.elements buffer.id).take block.size = elements at ended
    cases elements with
    | nil =>
        cases ended
        exact ⟨rfl, rfl⟩
    | cons head rest =>
        unfold Body.writeElements at ended
        rw [List.length_cons, List.take_succ_cons, List.take_nil, List.mapM_cons, reads] at ended
        cases ended
        exact ⟨by simp [overlay], rfl⟩
  have set := Slot.elements_setElements slot element filled.2
  rw [first, same] at set
  rw [filled.1, overlay_set below]
  exact set

end Block

theorem Outcome.leaves_store {elements : BufferId → List Scalar} {session : Session}
    (same : session.world.elements = elements) (into : Option String) (outcome : Outcome) :
    Leaves elements session (outcome.store into) := by
  have bound : ∀ name object, Leaves elements session (Task.bind name object) := by
    rintro name object _ _ ⟨⟩
    refine Eq.trans ?_ same
    change (session.forget name).world.elements = session.world.elements
    unfold Session.forget
    dsimp only
    split <;> rfl
  unfold store
  split
  · exact (bound _ _).bind fun _ _ same => .pure same
  · exact .pure same

namespace Step

/-- The step sets an element through the view or the block that stands at a place and addresses a
slot of a buffer, or lends that block and sets its first element. -/
inductive Sets (session : Session) : Step → Slot → Scalar → Prop where
  | view {place : Place} {index : List Nat} {literal : Literal} {into : Option String}
      {array : View} {slot : Slot} {element : Scalar}
      (stands : place.value? session .view = some (.view array))
      (addressed : array.slotAt? index = some slot)
      (reads : literal.read array.buffer.elem = .ok element) :
      Sets session (.act (.view place (.set index literal)) into) slot element
  | viewLinear {place : Place} {position : Nat} {literal : Literal} {into : Option String}
      {array : View} {slot : Slot} {element : Scalar}
      (stands : place.value? session .view = some (.view array))
      (addressed : array.slotOf? position = some slot)
      (reads : literal.read array.buffer.elem = .ok element) :
      Sets session (.act (.view place (.setLinear position literal)) into) slot element
  | block {place : Place} {position : Nat} {literal : Literal} {into : Option String}
      {array : Block} {slot : Slot} {element : Scalar}
      (stands : place.value? session .block = some (.block array))
      (addressed : array.slotOf? position = some slot)
      (reads : literal.read array.elem = .ok element) :
      Sets session (.act (.block place (.set position literal)) into) slot element
  | lentBlock {place : Place} {literal : Literal} {array : Block} {slot : Slot} {element : Scalar}
      (stands : place.value? session .block = some (.block array))
      (addressed : array.slotOf? 0 = some slot)
      (reads : literal.read array.elem = .ok element) :
      Sets session (.lend (.writeBlock place [literal]) []) slot element

/-- Of all buffers only the element at the slot is another one after a step that has set it. -/
theorem Sets.leaves {session : Session} {step : Step} {slot : Slot} {element : Scalar}
    (sets : step.Sets session slot element) :
    Leaves (slot.overwritten element session.world.elements) session step.task := by
  cases sets with
  | view stands addressed reads =>
      refine Leaves.bind ?_ fun outcome left same => Outcome.leaves_store same _ outcome
      refine Place.leaves_readingView stands fun world same => .bind_deciding fun element read => ?_
      cases read.symm.trans reads
      rw [← same]
      exact (View.leaves_set addressed element).bind fun _ _ left => .pure left
  | viewLinear stands addressed reads =>
      refine Leaves.bind ?_ fun outcome left same => Outcome.leaves_store same _ outcome
      refine Place.leaves_readingView stands fun world same => .bind_deciding fun element read => ?_
      cases read.symm.trans reads
      rw [← same]
      exact (View.leaves_setLinear addressed element).bind fun _ _ left => .pure left
  | block stands addressed reads =>
      refine Leaves.bind ?_ fun outcome left same => Outcome.leaves_store same _ outcome
      refine Place.leaves_writingBlock stands fun world same =>
        .bind_deciding fun element read => ?_
      cases read.symm.trans reads
      rw [← same]
      exact (Block.leaves_set addressed element).bind fun _ _ left => .pure left
  | lentBlock stands addressed reads =>
      refine Place.leaves_writing fun value found bindings world same =>
        .bind_deciding fun array is => ?_
      cases found.symm.trans stands
      cases is
      rw [← same]
      exact (Block.leaves_fill addressed reads bindings).bind fun _ _ left => .pure left

end Step

end PathStore
