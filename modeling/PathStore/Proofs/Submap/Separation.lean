import PathStore.Proofs.Session.Elements
import PathStore.Proofs.Session.Origins
import PathStore.Proofs.World.Readings

/-!
# Copies share nothing but buffers

A copy is a store of its own, and what is grafted goes to another store. Two stores have nothing in
common but the buffers that are named in both. So whatever is done through the one, whoever reads
through the other is told what was to be told before, unless an element of a buffer is set, and then
nothing else than that element is another one.
-/

namespace PathStore

namespace Step

/-! ## Steps that go through one store -/

/-- Of all stores and owners the steps, and all that is done in their bodies, touch no other than
one store. They may touch buffers. -/
def GoThrough (one : StoreId) (steps : List Step) (now : Session) : Prop :=
  ∀ {frames rest moment} {next : Step} {resource : Resource},
    Passes steps now frames (next :: rest) moment → next.Touches moment resource →
      resource = .target (.store one) ∨ ∃ id, resource = .target (.buffer id)

/-- The steps, and all that is done in their bodies, write no buffer that exists. -/
def WriteNoBuffer (steps : List Step) (now : Session) : Prop :=
  ∀ id, (Target.buffer id).Made now.world → Avoids steps now (.target (.buffer id))

variable {one other : StoreId} {steps : List Step} {now : Session}

/-- What an action touches that makes no owner and lets no variable name something else is what it
claims for writing. -/
theorem Touches.exists_needed {action : Action} {resource : Resource}
    (keeps : action.rebinds = []) (makes : ∀ text, action ≠ .object (.newHost text))
    (touches : (Step.act action none).Touches now resource) :
    ∃ target, resource = .target target ∧ ⟨target, .writing⟩ ∈ action.needs now := by
  cases touches with
  | writes needed => exact ⟨_, rfl, needed⟩
  | makes => exact (makes _ rfl).elim
  | rebinds member named =>
      rw [keeps] at member
      cases member

/-- At the only moment of an action the action is next. -/
theorem Passes.eq_act {action : Action} {into : Option String} {frames : List Frame}
    {rest : List Step} {next : Step} {moment : Session}
    (passes : Passes [.act action into] now frames (next :: rest) moment) :
    next = .act action into ∧ moment = now := by
  cases passes with
  | here => exact ⟨rfl, rfl⟩
  | later passes => cases passes

section

variable {action : Action} (keeps : action.rebinds = [])
  (makes : ∀ text, action ≠ .object (.newHost text))

include keeps makes

/-- An action goes through a store that claims no other one for writing. -/
theorem goThrough_act
    (claims : ∀ id, ⟨.store id, .writing⟩ ∈ action.needs now → id = one) :
    GoThrough one [.act action none] now := by
  intro frames rest moment next resource passes touched
  obtain ⟨rfl, rfl⟩ := passes.eq_act
  obtain ⟨target, rfl, needed⟩ := touched.exists_needed keeps makes
  cases target with
  | store id => exact .inl (by rw [claims id needed])
  | buffer id => exact .inr ⟨id, rfl⟩

theorem writeNoBuffer_act (claims : ∀ id, ⟨.buffer id, .writing⟩ ∉ action.needs now) :
    WriteNoBuffer [.act action none] now := by
  intro id _ frames rest moment next passes touched
  obtain ⟨rfl, rfl⟩ := passes.eq_act
  obtain ⟨target, same, needed⟩ := touched.exists_needed keeps makes
  cases same
  exact claims id needed

end

namespace GoThrough

variable (through : GoThrough one steps now)

include through

theorem spared_store (apart : other ≠ one) :
    now.world.Spared (runAll steps now).2.world (.target (.store other)) := by
  refine spared_runAll steps fun passes touched => ?_
  obtain same | ⟨id, same⟩ := through passes touched
  · cases same
    exact apart rfl
  · cases same

theorem host?_runAll (id : HostId) : (runAll steps now).2.world.host? id = now.world.host? id := by
  have avoids : Avoids steps now (.host id) := by
    intro frames rest moment next passes touched
    obtain same | ⟨id, same⟩ := through passes touched
    · cases same
    · cases same
  exact spared_runAll steps avoids

/-- Through any other store a world is read afterwards that differs in buffers alone. -/
theorem agreeOn (apart : other ≠ one) (made : (Target.store other).Made now.world)
    {kept : BufferId → Prop}
    (elements : ∀ id, kept id →
      (runAll steps now).2.world.elements id = now.world.elements id)
    (lengths : ∀ id, (Target.buffer id).Made now.world →
      ((runAll steps now).2.world.elements id).length = (now.world.elements id).length) :
    now.world.AgreeOn other kept (runAll steps now).2.world := by
  obtain ⟨still, same⟩ := through.spared_store apart made
  exact { made, still, entries := same, elements, lengths, host? := through.host?_runAll,
          active := (follows_body steps now).active }

end GoThrough

theorem WriteNoBuffer.elements_runAll (unwritten : WriteNoBuffer steps now) {id : BufferId}
    (made : (Target.buffer id).Made now.world) :
    (runAll steps now).2.world.elements id = now.world.elements id :=
  (spared_runAll steps (unwritten id made) made).2

end Step

/-! ## What is noticed through the other store -/

/-- The world in which nothing but the element of a slot is another one. -/
def World.overwrite (slot : Slot) (element : Scalar) (world : World) : World :=
  world.setElements slot.buffer ((world.elements slot.buffer).set slot.position element)

/-- Between two worlds one element of a buffer was set, and that is all that is noticed through a
store. Every reading tells what it would tell if nothing but this element were another one, and
tells the same as before if it does not ask for the elements of this buffer. Views and blocks show
the element wherever they address its slot, and otherwise what they showed before. -/
structure Noticed (store : StoreId) (slot : Slot) (element : Scalar) (before after : World) :
    Prop where
  whole : ∀ {α : Type} {program : Op α},
    Reading store (fun id => (Target.buffer id).Made before) (before.overwrite slot element)
        program →
      ToldSame program (before.overwrite slot element) after
  rest : ∀ {α : Type} {program : Op α},
    Reading store (fun id => (Target.buffer id).Made before ∧ id ≠ slot.buffer) before program →
      ToldSame program before after
  viewGet : ∀ view : View, before.Knows view.targets → ∀ index,
    Retells (slot.seen element (view.slotAt? index)) (view.get index) before after
  viewGetLinear : ∀ view : View, before.Knows view.targets → ∀ place,
    Retells (slot.seen element (view.slotOf? place)) (view.getLinear place) before after
  viewToList : ∀ view : View, before.Knows view.targets →
    Retells (List.mapIdx fun place => slot.seen element (view.slotOf? place)) view.toList before
      after
  blockGet : ∀ block : Block, before.Knows block.targets → ∀ position,
    Retells (slot.seen element (block.slotOf? position)) (block.get position) before after
  blockToList : ∀ block : Block, before.Knows block.targets →
    Retells (List.mapIdx fun position => slot.seen element (block.slotOf? position)) block.toList
      before after

/-- What is done through one store, from a moment on, shows through another one only where an
element of a buffer is set. The buffers that are named there exist. Steps that write no buffer change
nothing of what any reading tells. A step that sets an element changes that alone. -/
structure Independent (one other : StoreId) (now : Session) : Prop where
  known : now.world.Knows (now.world.entries other).targets
  unnoticed : ∀ writes, Step.GoThrough one writes now → Step.WriteNoBuffer writes now →
    ∀ {α : Type} {program : Op α},
      Reading other (fun id => (Target.buffer id).Made now.world) now.world program →
        ToldSame program now.world (Step.runAll writes now).2.world
  noticed : ∀ {write : Step} {slot : Slot} {element : Scalar} {answer : Answer} {left : Session},
    Step.GoThrough one [write] now → write.Sets now slot element →
      write.task now = .ok answer left → Noticed other slot element now.world left.world

/-- Between the two worlds nothing that can be noticed through a store has changed but the element
of a slot. -/
theorem noticed_of_elements {store : StoreId} {slot : Slot} {element : Scalar}
    {before after : World} (elements : after.elements = slot.overwritten element before.elements)
    (agree : before.AgreeOn store (fun id => id ≠ slot.buffer) after) :
    Noticed store slot element before after := by
  have sets : before.Overwritten slot element after :=
    ⟨fun id _ => congrFun elements id, agree.active⟩
  have whole : (before.overwrite slot element).AgreeOn store
      (fun id => (Target.buffer id).Made before) after := by
    have same : after.elements = (before.overwrite slot element).elements := by
      rw [elements, World.overwrite, Slot.elements_setElements slot element rfl]
    exact { agree with elements := fun id _ => congrFun same id
                       lengths := fun id _ => congrArg List.length (congrFun same id) }
  have rest : before.AgreeOn store
      (fun id => (Target.buffer id).Made before ∧ id ≠ slot.buffer) after :=
    { agree with elements := fun id kept => agree.elements id kept.2 }
  exact { whole := fun reading => reading.told whole
          rest := fun reading => reading.told rest
          viewGet := fun _ known index => sets.retells_viewGet (known _ (.head _)) index
          viewGetLinear := fun _ known place => sets.retells_viewGetLinear (known _ (.head _)) place
          viewToList := fun _ known => sets.retells_viewToList (known _ (.head _))
          blockGet := fun _ known position => sets.retells_blockGet known position
          blockToList := fun _ known => sets.retells_blockToList known }

/-- Two stores have nothing in common but buffers. -/
theorem independent_of_apart {one other : StoreId} {now : Session} (complete : now.Complete)
    (apart : other ≠ one) (made : (Target.store other).Made now.world) :
    Independent one other now := by
  refine { known := complete.world other, unnoticed := ?unnoticed, noticed := ?noticed }
  case unnoticed =>
    intro writes through unwritten α program reading
    have same : ∀ id, (Target.buffer id).Made now.world →
        (Step.runAll writes now).2.world.elements id = now.world.elements id :=
      fun _ made => unwritten.elements_runAll made
    exact reading.told
      (through.agreeOn apart made same fun id made => congrArg List.length (same id made))
  case noticed =>
    intro write slot element answer left through sets ran
    have ended : (Step.runAll [write] now).2 = left := by
      rw [Step.runAll_cons, Step.runAll, Step.run_eq_settle, Task.settle, ran]
    have elements : left.world.elements = slot.overwritten element now.world.elements :=
      sets.leaves answer left ran
    rw [← ended] at elements ⊢
    refine noticed_of_elements elements (through.agreeOn apart made ?others ?lengths)
    case others =>
      intro id different
      rw [elements]
      exact if_neg different
    case lengths =>
      intro id _
      rw [elements]
      exact Slot.length_overwrite _ _ _ _

/-! ## Copies -/

namespace Handle

/-- A copy of what a handle reaches is made: as a new store, or in another store. -/
inductive Copied (world : World) : Handle → Handle → World → Prop where
  | copy {source made : Handle} {refusal : Failure} {left : World}
      (there : (Target.store source.store).Made world)
      (ran : source.copy refusal world = .ok made left) : Copied world source made left
  | graft {source home : Handle} {key : String} {left : World} (apart : home.store ≠ source.store)
      (there : (Target.store source.store).Made world)
      (homeThere : (Target.store home.store).Made world)
      (ran : home.graft key source world = .ok () left) : Copied world source home left

/-- A copy is a new store. -/
theorem store_of_copy {source copy : Handle} {refusal : Failure} {world left : World}
    (ran : source.copy refusal world = .ok copy left) :
    copy.store = ⟨world.stores.next⟩ ∧
      ∃ entries, left = { world with stores := world.stores.push entries } := by
  have read := StoreId.reading_pure source.store refusal source.copied world
  unfold Handle.copy at ran
  split at read
  · rw [bind_of_ok read] at ran
    cases ran
    exact ⟨rfl, _, rfl⟩
  · rw [bind_of_error read] at ran
    cases ran

theorem grows_graft {source home : Handle} {key : String} {world left : World}
    (ran : home.graft key source world = .ok () left) : world.Grows left := by
  have conduct : Conduct _ world (home.graft key source) := home.conduct_graft key source
  unfold Conduct at conduct
  rw [ran] at conduct
  cases conduct with
  | ok admitted follows => exact follows.grows

namespace Copied

variable {world left : World} {source copy : Handle} (copied : Copied world source copy left)

include copied

/-- The copy is in another store. -/
theorem apart : copy.store ≠ source.store := by
  cases copied with
  | graft apart there homeThere ran => exact apart
  | copy there ran =>
      intro same
      rw [← same, (store_of_copy ran).1] at there
      exact Nat.lt_irrefl _ there

/-- Both stores exist afterwards. -/
theorem made : (Target.store source.store).Made left ∧ (Target.store copy.store).Made left := by
  cases copied with
  | graft apart there homeThere ran =>
      exact ⟨grows_graft ran _ there, grows_graft ran _ homeThere⟩
  | copy there ran =>
      obtain ⟨fresh, entries, rfl⟩ := store_of_copy ran
      refine ⟨World.grows_pushStore entries _ there, ?_⟩
      rw [fresh]
      change world.stores.next < (world.stores.push entries).next
      rw [Heap.next_push]
      exact Nat.lt_succ_self _

end Copied

/-- A copy of what a handle reaches and the handle share nothing but buffers, at every later moment
of a run. Whatever is done through the one, be it in the store, in its submaps, at its entries or to
the values in them, is noticed through the other only where an element of a buffer is set, and then
this element alone is another one, wherever it is shown. -/
theorem copies_share_only_buffers {world left : World} {source copy : Handle}
    (copied : Copied world source copy left) {steps remaining : List Step} {frames : List Frame}
    {now : Session} (passes : Step.Passes steps default frames remaining now)
    (later : left.Grows now.world) :
    Independent source.store copy.store now ∧ Independent copy.store source.store now := by
  have complete := passes.complete Session.complete_default
  obtain ⟨sourceMade, copyMade⟩ := copied.made
  exact ⟨independent_of_apart complete copied.apart (later _ copyMade),
    independent_of_apart complete copied.apart.symm (later _ sourceMade)⟩

/-- A map with a view of a buffer, and a copy of it. -/
def viewCopying : List Step :=
  [.act (.map .create) (some "map"),
    .act (.buffer (.create .bool [.bool true, .bool true])) (some "buffer"),
    .act (.array (.wholeView "buffer")) (some "view"),
    .act (.map (.update "map" "view" (.copyOf "view"))) none,
    .act (.map (.copy "map")) (some "copy")]

/-- The session before the copy is made. -/
def viewStored : Session := (Step.runAll (viewCopying.take 4) default).2

/-- The session with the map and the copy. -/
def viewCopied : Session := (Step.runAll viewCopying default).2

/-- Store something through the copy. -/
def extending : Step := .act (.map (.update "copy" "more" (.scalar (.bool true)))) none

/-- The session in which the copy has an entry of its own. -/
def copyExtended : Session := (extending.run viewCopied).2

/-- The view of the whole buffer. -/
def wholePair : View :=
  { buffer := ⟨.bool, ⟨0⟩⟩, offset := 0, axes := [⟨2, 1⟩], size := 2, owner := none }

/-- Replace the view through the map. -/
def replacing : Action := .map (.update "map" "view" (.scalar (.bool false)))

/-- Set the last element through the map. -/
def setting : Action :=
  .view (.stored "map" "view" .bool) (.setLinear 1 fun _ => some (.bool false))

/-- After a map with a view is copied, the view can be replaced through the map, which the copy does
not show, and an element can be set, which it does. -/
theorem copies_share_only_buffers_view :
    Copied viewStored.world ⟨⟨0⟩, .root⟩ ⟨⟨1⟩, .root⟩ viewCopied.world ∧
      Step.Passes (viewCopying ++ [extending]) default [] [] copyExtended ∧
      viewCopied.world.Grows copyExtended.world ∧
      Step.GoThrough ⟨0⟩ [.act replacing none] copyExtended ∧
      Step.WriteNoBuffer [.act replacing none] copyExtended ∧
      ToldSame (Handle.mk ⟨1⟩ .root).snapshot copyExtended.world
        (Step.runAll [.act replacing none] copyExtended).2.world ∧
      Step.GoThrough ⟨0⟩ [.act setting none] copyExtended ∧
      (Step.act setting none).Sets copyExtended ⟨⟨0⟩, 1⟩ (.bool false) ∧
      ∃ left, (Step.act setting none).task copyExtended = .ok .nothing left ∧
        Noticed ⟨1⟩ ⟨⟨0⟩, 1⟩ (.bool false) copyExtended.world left.world := by
  have copied : Copied viewStored.world ⟨⟨0⟩, .root⟩ ⟨⟨1⟩, .root⟩ viewCopied.world :=
    @Copied.copy _ _ _ .locked _ Nat.zero_lt_one rfl
  have passes : Step.Passes (viewCopying ++ [extending]) default [] [] copyExtended := .atEnd _ _
  have later : viewCopied.world.Grows copyExtended.world :=
    (Step.Passes.atEnd [extending] viewCopied).grows
  obtain ⟨independent, -⟩ := copies_share_only_buffers copied passes later
  have claims : replacing.needs copyExtended = [⟨.store ⟨0⟩, .writing⟩] := rfl
  have replaces : Step.GoThrough ⟨0⟩ [.act replacing none] copyExtended := by
    refine Step.goThrough_act rfl (by rintro text ⟨⟩) fun id needed => ?_
    simpa [claims] using needed
  have unwritten : Step.WriteNoBuffer [.act replacing none] copyExtended := by
    refine Step.writeNoBuffer_act rfl (by rintro text ⟨⟩) fun id needed => ?_
    simp [claims] at needed
  have read : Reading ⟨1⟩ (fun id => (Target.buffer id).Made copyExtended.world)
      copyExtended.world (Handle.mk ⟨1⟩ .root).snapshot :=
    Handle.reading_snapshot rfl fun id named => independent.known _ named
  have needs : setting.needs copyExtended =
      [⟨.store ⟨0⟩, .reading⟩, ⟨.buffer ⟨0⟩, .writing⟩] := by decide +kernel
  have through : Step.GoThrough ⟨0⟩ [.act setting none] copyExtended := by
    refine Step.goThrough_act rfl (by rintro text ⟨⟩) fun id needed => ?_
    simp [needs] at needed
  have stands : (Place.stored "map" "view" .bool).value? copyExtended .view =
      some (.view wholePair) := rfl
  have addressed : wholePair.slotOf? 1 = some ⟨⟨0⟩, 1⟩ := by decide +kernel
  have sets : (Step.act setting none).Sets copyExtended ⟨⟨0⟩, 1⟩ (.bool false) :=
    .viewLinear stands addressed rfl
  exact ⟨copied, passes, later, replaces, unwritten,
    independent.unnoticed [.act replacing none] replaces unwritten read, through, sets, _, rfl,
    independent.noticed through sets rfl⟩

end Handle

end PathStore
