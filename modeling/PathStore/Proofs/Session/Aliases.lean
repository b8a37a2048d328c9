import PathStore.Proofs.Array.Equality
import PathStore.Proofs.Array.Selections
import PathStore.Proofs.Session.Assignments
import PathStore.Proofs.Session.Isolation

/-!
# An element seen through aliases

Views and blocks over one buffer show it in whatever way their layouts say, and are made, copied, stored
and sliced independently of each other. An assignment through one of them overwrites one slot of the
buffer. Whoever reads afterwards is therefore told the new element if the address leads to that slot, and
otherwise what was told before. This is decided by the slots alone, and those of a part of a view are slots
of the view.
-/

namespace PathStore

open Layout

variable {α : Type}

/-! ## Reading afterwards -/

/-- What is read at an address is the new element if the address leads to the slot. Otherwise what is
told is the same as before. -/
structure Rereads (slot : Slot) (element : Scalar) (before later : World) (addressed : Option Slot)
    (program : Op Scalar) : Prop where
  changed : addressed = some slot → program later = .ok element later
  kept : addressed ≠ some slot → ToldSame program before later

section Reading

variable {world before after later : World} {slot : Slot} {element : Scalar}

theorem settled_inj {decided further : Except Failure α} {world : World}
    (same : settled decided world = settled further world) : decided = further := by
  cases decided <;> cases further <;> cases same <;> rfl

/-- What is told of the address may also be asked later, as long as it stays the same. -/
theorem Retells.rereads {addressed : Option Slot} {program : Op Scalar}
    (retells : Retells (slot.seen element addressed) program before after)
    (stays : ToldSame program after later)
    (found : addressed = some slot → ∃ held, program before = .ok held before) :
    Rereads slot element before later addressed program := by
  obtain ⟨decided, once, again⟩ := retells
  obtain ⟨still, begun, ended⟩ := stays
  cases settled_inj (again.symm.trans begun)
  refine ⟨fun here => ?_, fun apart => ⟨decided, once, ?_⟩⟩
  · obtain ⟨held, told⟩ := found here
    have exact : Except.ok held = decided := settled_inj (told.symm.trans once)
    rw [ended, ← exact, Except.map, here, Slot.seen, if_pos rfl]
    rfl
  · have same : slot.seen element addressed = id := by
      funext held
      exact if_neg apart
    rw [ended, same]
    cases decided <;> rfl

namespace World.Writable

variable (writable : world.Writable slot)

include writable

theorem exists_get {buffer : BufferRef} {position : Nat}
    (same : (⟨buffer.id, position⟩ : Slot) = slot) :
    ∃ held, buffer.get position world = .ok held world := by
  subst same
  rw [BufferRef.get_eq writable.inside, if_pos (World.admits_reading writable.admitted)]
  exact ⟨_, rfl⟩

theorem exists_viewGet {view : View} {index : List Nat} (addressed : view.slotAt? index = some slot) :
    ∃ held, view.get index world = .ok held world := by
  rw [View.slotAt?, Option.map_eq_some_iff] at addressed
  obtain ⟨position, found, same⟩ := addressed
  rw [View.get_apply, Except.toOption_eq_some_iff.1 found]
  exact writable.exists_get same

theorem exists_viewGetLinear {view : View} {place : Nat}
    (addressed : view.slotOf? place = some slot) :
    ∃ held, view.getLinear place world = .ok held world := by
  rw [View.slotOf?, Option.map_eq_some_iff] at addressed
  obtain ⟨position, found, same⟩ := addressed
  rw [View.getLinear_apply, Except.toOption_eq_some_iff.1 found]
  exact writable.exists_get same

theorem exists_blockGet {block : Block} {position : Nat}
    (addressed : block.slotOf? position = some slot) :
    ∃ held, block.get position world = .ok held world := by
  obtain ⟨below, rfl, buffer, borrows, same⟩ := Block.slotOf?_eq_some addressed
  have inside := writable.inside
  have admitted := World.admits_reading writable.admitted
  rw [same] at inside admitted
  rw [Block.get_inside below, Block.withData, borrows]
  dsimp only
  rw [BufferId.reading_apply, if_pos admitted, Block.slot, List.getElem?_take_of_lt below,
    List.getElem?_eq_getElem inside]
  exact ⟨_, rfl⟩

end World.Writable

/-- A later world shows the new element at a slot, and for the rest the elements from before, in the
buffers that have not been written since. A view or a block shows the new element wherever it addresses
the slot. If a part of a view addresses it, then the view does so at the selected multi-index, and at
others just if its strides lead to the same place. -/
structure World.ReadsOver (slot : Slot) (element : Scalar) (kept : BufferId → Prop)
    (before later : World) : Prop where
  viewGet : ∀ view : View, kept view.buffer.id → ∀ index,
    Rereads slot element before later (view.slotAt? index) (view.get index)
  viewGetLinear : ∀ view : View, kept view.buffer.id → ∀ place,
    Rereads slot element before later (view.slotOf? place) (view.getLinear place)
  blockGet : ∀ (block : Block) (buffer : BufferRef), block.storage = .borrowed buffer →
    kept buffer.id → ∀ position,
      Rereads slot element before later (block.slotOf? position) (block.get position)
  source : ∀ source part : View, kept source.buffer.id → View.Obtained before source →
    ∀ selectors, source.slice selectors = .ok part → ∀ index, part.slotAt? index = some slot →
      ∃ picked, Part.picks source.axes selectors = some picked ∧
        Within source.axes (Part.source picked index) ∧
        ∀ other, Within source.axes other →
          if displacement source.axes other =
              displacement source.axes (Part.source picked index) then
            source.get other later = .ok element later
          else ToldSame (source.get other) before later

/-- Within a view, the multi-indices that address the slot of an element of a part are those at the same
distance from the first element as the one that is selected. -/
theorem View.Obtained.exists_picks_of_slotAt? {source part : View} {selectors : List Selector}
    {index : List Nat} (obtained : Obtained world source)
    (sliced : source.slice selectors = .ok part) (addressed : part.slotAt? index = some slot) :
    ∃ picked, Part.picks source.axes selectors = some picked ∧
      Within source.axes (Part.source picked index) ∧
      ∀ other, Within source.axes other →
        (source.slotAt? other = some slot ↔
          displacement source.axes other = displacement source.axes (Part.source picked index)) := by
  have sound := obtained.sound
  rw [slotAt?, Option.map_eq_some_iff] at addressed
  obtain ⟨position, found, rfl⟩ := addressed
  have reached := Except.toOption_eq_some_iff.1 found
  have within := within_of_indexPosition reached
  have filled := sound.filled_of_slice sliced within
  obtain ⟨_, selected, _⟩ := slice_eq_ok sliced
  obtain ⟨picked, picking⟩ := Part.exists_picks_of_select (sound.populated_iff.2 filled) selected
  have shown := sound.shows obtained.short filled picking sliced
  obtain ⟨member, same, _, again, origin⟩ := shown.located index within
  cases reached.symm.trans again
  refine ⟨picked, picking, member, fun other otherWithin => ?_⟩
  obtain ⟨place, _, placed, distance⟩ := indexPosition_eq obtained.short sound.inside otherWithin
  obtain ⟨home, _, homed, selectedDistance⟩ := indexPosition_eq obtained.short sound.inside member
  cases homed.symm.trans origin
  have address : source.slotAt? other = some ⟨source.buffer.id, place⟩ := by
    rw [slotAt?, View.indexPosition, placed]
    rfl
  rw [address, shown.buffer_eq, Option.some.injEq, Slot.mk.injEq, and_iff_right rfl]
  omega

/-- Between the first two worlds the element was set, and then certain buffers were not written. -/
theorem World.readsOver {kept : BufferId → Prop} (writable : before.Writable slot)
    (sets : before.Overwritten slot element after)
    (made : ∀ id, kept id → (Target.buffer id).Made before)
    (stays : ∀ id, kept id → after.SameAt later (.buffer id) ∧
      after.admits ⟨.buffer id, .reading⟩ = later.admits ⟨.buffer id, .reading⟩) :
    before.ReadsOver slot element kept later := by
  have same {program : Op Scalar} {id : BufferId} (known : kept id)
      (asks : Asks (.buffer id) program) : ToldSame program after later :=
    asks.reads after later (stays id known).1 (stays id known).2
  have viewGet (view : View) (known : kept view.buffer.id) (index : List Nat) :
      Rereads slot element before later (view.slotAt? index) (view.get index) :=
    (sets.retells_viewGet (made _ known) index).rereads (same known (.viewGet view index))
      writable.exists_viewGet
  refine ⟨viewGet, ?viewGetLinear, ?blockGet, ?source⟩
  case viewGetLinear =>
    intro view known place
    exact (sets.retells_viewGetLinear (made _ known) place).rereads
      (same known (.viewGetLinear view place)) writable.exists_viewGetLinear
  case blockGet =>
    intro block buffer borrows known position
    have targets : before.Knows block.targets := by
      rw [Block.targets, borrows, Storage.targets, World.knows_cons]
      exact ⟨made _ known, World.knows_nil⟩
    exact (sets.retells_blockGet targets position).rereads
      (same known (.blockGet block borrows position)) writable.exists_blockGet
  case source =>
    intro source part known obtained selectors sliced index addressed
    obtain ⟨picked, picking, member, exactly⟩ := obtained.exists_picks_of_slotAt? sliced addressed
    refine ⟨picked, picking, member, fun other within => ?_⟩
    have reads := viewGet source known other
    split
    · rename_i equal
      exact reads.changed ((exactly other within).2 equal)
    · rename_i apart
      exact reads.kept (mt (exactly other within).1 apart)

end Reading

/-- Claims that do not write a store or buffer do not keep it from being read. -/
theorem World.admits_reading_under_eq {world : World} {claims : List Claim} {target : Target}
    (unwritten : ⟨target, .writing⟩ ∉ claims) :
    (world.under claims).admits ⟨target, .reading⟩ = world.admits ⟨target, .reading⟩ := by
  have free : ∀ claim ∈ claims, claim.target = target → claim.mode = .reading := by
    rintro ⟨claimed, mode⟩ member rfl
    cases mode with
    | reading => rfl
    | writing => exact (unwritten member).elim
  rw [Bool.eq_iff_iff, admits_reading_iff, admits_reading_iff, under, List.forall_mem_append]
  exact and_iff_right free

/-- At each moment of steps that do not write a store or buffer, it contains what it did and can be read
just if it could. -/
theorem Step.Passes.readable {steps remaining : List Step} {session now : Session} {frames : List Frame}
    {target : Target} (passes : Step.Passes steps session frames remaining now)
    (made : target.Made session.world) (avoids : Step.Avoids steps session (.target target)) :
    session.world.SameAt now.world target ∧
      session.world.admits ⟨target, .reading⟩ = now.world.admits ⟨target, .reading⟩ := by
  induction passes with
  | here => exact ⟨.refl _ _, rfl⟩
  | @later step rest remaining session now frames passes ih =>
      obtain ⟨still, same⟩ := Step.spared_of_spares (Step.spares_task step avoids) made
      obtain ⟨further, readable⟩ := ih still avoids.tail
      refine ⟨same.trans further, Eq.trans ?_ readable⟩
      exact (World.admits_congr (step.follows_world_run session).active _).symm
  | @inside access body rest remaining session inner now frames lends passes ih =>
      -- The access may hold the target while its body runs, but only to read it.
      have unwritten : ⟨target, .writing⟩ ∉ access.claims session :=
        fun claimed => avoids (.here _ _) (.writes claimed)
      have world := lends.opening.2.1
      obtain ⟨further, readable⟩ := ih (world ▸ made) (avoids.body lends)
      rw [← readable, world, World.admits_reading_under_eq unwritten]
      rw [world] at further
      exact ⟨further, rfl⟩

/-! ## Read over write -/

/-- Arrays stand where they stood if nothing can be told of the entries and the variables. -/
theorem Place.value?_congr {before after : Session} (place : Place) (form : Form)
    (entries : ∀ id, after.world.entries id = before.world.entries id)
    (named : ∀ name, after.bindings.lookup name = before.bindings.lookup name) :
    place.value? after form = place.value? before form := by
  cases place <;> simp only [value?, Session.find?, entries, named]

/-- Between two sessions the element of a slot was set. Of all buffers that slot alone contains
something else, and nothing else can be told: each place has the array that it had, with its layout, its
memory and its owner. As long as a buffer is not written again, whatever else is done, the views and blocks
over it show the new element wherever they address the slot, and otherwise what they showed before. -/
structure Session.Rewrites (slot : Slot) (element : Scalar) (before after : Session) : Prop where
  existed : slot.position < (before.world.elements slot.buffer).length
  slots : ∀ other : Slot, (after.world.elements other.buffer)[other.position]? =
    if other = slot then some element else (before.world.elements other.buffer)[other.position]?
  alike : Session.Alike ⟨before.world.overwrite slot element, before.bindings⟩ after
  stands : ∀ (place : Place) (form : Form), place.value? after form = place.value? before form
  known : ∀ (place : Place) (form : Form) (value : Value), place.value? before form = some value →
    before.world.Knows value.targets
  reads : ∀ {more remaining : List Step} {frames : List Frame} {later : Session},
    Step.Passes more after frames remaining later →
      before.world.ReadsOver slot element
        (fun id => (Target.buffer id).Made before.world ∧ Step.Avoids more after (.target (.buffer id)))
        later.world

theorem Session.rewrites {slot : Slot} {element : Scalar} {before after : Session}
    (complete : before.Complete) (writable : before.world.Writable slot)
    (alike : Session.Alike ⟨before.world.overwrite slot element, before.bindings⟩ after) :
    before.Rewrites slot element after := by
  have elements (id : BufferId) :
      after.world.elements id = slot.overwrite element id (before.world.elements id) := by
    have same : after.world.elements id = (before.world.overwrite slot element).elements id :=
      alike.world.contents (.buffer id)
    rw [same, World.overwrite, Slot.elements_setElements slot element rfl]
    rfl
  have sets : before.world.Overwritten slot element after.world :=
    ⟨fun id _ => elements id, alike.world.active⟩
  refine ⟨writable.inside, ?slots, alike, ?stands, ?known, ?reads⟩
  case slots =>
    intro other
    rw [elements, Slot.getElem?_overwrite]
    split
    · rename_i same
      subst same
      rw [List.getElem?_eq_getElem writable.inside]
      simp [Slot.seen]
    · rename_i apart
      have kept : slot.seen element (some other) = id := by
        funext held
        exact if_neg (mt Option.some.inj apart)
      rw [kept, Option.map_id_fun, id]
  case stands =>
    intro place form
    exact place.value?_congr form (fun id => alike.world.contents (.store id)) alike.named
  case known =>
    intro place form value stands
    exact complete.knows_value? stands
  case reads =>
    intro more remaining frames later passes
    refine World.readsOver writable sets (fun id kept => kept.1) fun id kept => ?_
    exact passes.readable (alike.world.grows _ (World.grows_setElements _ _ _ kept.1)) kept.2

/-- At any moment of a run, if a step succeeds that assigns to an element through a view or a block, then
it sets the element at the slot that this addresses, which shows through all views and blocks alike and
otherwise changes nothing. Linear and multi-dimensional addresses lead to the same slots. -/
theorem Step.assignment_seen_through_aliases {steps remaining : List Step} {frames : List Frame}
    {now : Session} (passes : Step.Passes steps default frames remaining now) :
    (∀ {step : Step} {answer : Answer} {left : Session}, step.Assigns now →
      step.task now = .ok answer left →
        ∃ slot element, step.Sets now slot element ∧ now.Rewrites slot element left) ∧
    ∀ view : View, view.Obtained now.world → ∀ place < view.size,
      view.slotOf? place = view.slotAt? (rowMajorIndex view.axes place) := by
  constructor
  · intro step answer left assigns ran
    obtain ⟨slot, element, sets, writable, alike⟩ := assigns.exists_sets ran
    have complete := passes.complete Session.complete_default
    exact ⟨slot, element, sets, Session.rewrites complete writable alike⟩
  · intro view obtained place below
    obtain ⟨position, _, _, checked, indexed⟩ :=
      obtained.sound.checkedPosition_eq_indexPosition obtained.short below
    rw [View.slotOf?, View.slotAt?, checked, indexed]

namespace Step

/-- A buffer of three elements, a view of all of them, and the same from the last one to the first. -/
def aliasing : List Step :=
  [.act (.buffer (.create .bool [.bool true, .bool true, .bool true])) (some "buffer"),
    .act (.array (.wholeView "buffer")) (some "view"),
    .act (.view (.variable "view") (.slice [.slice (.stepped none none (-1))])) (some "back")]

/-- The session with the two views. -/
def aliased : Session := (runAll aliasing default).2

/-- The view that goes backwards. -/
def backwards : View :=
  { buffer := ⟨.bool, ⟨0⟩⟩, offset := 2, axes := [⟨3, -1⟩], size := 3, owner := none }

/-- Assign to the first element of the view that goes backwards. -/
def assigningBack : Step :=
  .act (.view (.variable "back") (.set [0] fun _ => some (.bool false))) none

/-- What is assigned to the first element of the view that goes backwards is the last element of the
other one. -/
theorem assignment_seen_through_aliases_backwards :
    Passes aliasing default [] [] aliased ∧ assigningBack.Assigns aliased ∧
      ∃ left, assigningBack.task aliased = .ok .nothing left ∧
        aliased.Rewrites ⟨⟨0⟩, 2⟩ (.bool false) left := by
  have passes : Passes aliasing default [] [] aliased := .atEnd _ _
  have assigns : assigningBack.Assigns aliased := .view _ _ _ _
  have there : (Place.variable "back").value? aliased .view = some (.view backwards) := rfl
  have lastSlot : backwards.slotAt? [0] = some ⟨⟨0⟩, 2⟩ := by decide +kernel
  obtain ⟨slot, element, sets, rewrites⟩ := (assignment_seen_through_aliases passes).1 assigns rfl
  refine ⟨passes, assigns, _, rfl, ?_⟩
  cases sets with
  | view stands addressed reads =>
      cases there.symm.trans stands
      cases lastSlot.symm.trans addressed
      cases reads
      exact rewrites

end Step

end PathStore
