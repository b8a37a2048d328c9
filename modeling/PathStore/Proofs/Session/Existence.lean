import PathStore.Proofs.Session.Conduct
import PathStore.Proofs.World.Origins

/-!
# What the variables of a session name exists

A session is complete if its world is and every store and buffer has been made that an object names to
which a variable refers. What tasks are built from keeps sessions complete, also where an array is
worked on in its place, and the objects that are found and made name only what exists.
-/

namespace PathStore

open PathStore.Task

/-! ## Names -/

/-- The stores and buffers that an object names. -/
def Object.targets : Object → List Target
  | .handle named => [.store named.store]
  | .value named => named.targets
  | .cell named => Cell.targets named
  | .buffer named => [.buffer named.id]
  | .cursor named => [.store named.store]
  | .entry named => [.store named.store]
  | .host _ => []

/-- All stores and buffers that the objects of variables name. -/
def Variables.targets (bindings : Variables) : List Target :=
  bindings.flatMap fun entry => entry.2.targets

/-- Every store and buffer that is named somewhere has been made. -/
structure Session.Complete (session : Session) : Prop where
  world : session.world.Complete
  bindings : session.world.Knows (Variables.targets session.bindings)

instance : Inventory Session := ⟨Session.Complete⟩

theorem Session.complete_default : (default : Session).Complete where
  world _ := World.knows_empty
  bindings := World.knows_nil

theorem Object.targets_subset {bindings : Variables} {name : String} {object : Object}
    (found : bindings.lookup name = some object) : object.targets ⊆ bindings.targets := by
  obtain ⟨before, after, rfl, -⟩ := List.lookup_eq_some_iff.mp found
  exact fun target member => List.mem_flatMap.mpr ⟨(name, object), by simp, member⟩

theorem Variables.targets_subset {fewer bindings : Variables} (inside : fewer ⊆ bindings) :
    fewer.targets ⊆ bindings.targets := by
  intro target member
  obtain ⟨entry, listed, named⟩ := List.mem_flatMap.mp member
  exact List.mem_flatMap.mpr ⟨entry, inside listed, named⟩

variable {α β : Type} {session : Session} {names : α → List Target}

/-! ## Tasks -/

/-- A task is as tidy as the program that it runs on the world. -/
theorem RunsOn.secures {task : Task β} {program : Op α} {result : α → β} {bindings : α → Variables}
    {named : β → List Target} (runs : RunsOn task program result bindings session)
    (secures : session.Complete → Secures session.world program fun made =>
      named (result made) ++ (bindings made).targets) : Secures session task named := by
  intro complete
  have ended := secures complete complete.world
  rw [runs]
  generalize program session.world = outcome at ended
  cases ended with
  | ok left grows known =>
      obtain ⟨result, bindings⟩ := World.knows_append.mp known
      exact .ok ⟨left, bindings⟩ grows result
  | error left grows => exact .error ⟨left, complete.bindings.grows grows⟩ grows

namespace Secures

theorem ofOp {program : Op α} (secures : Secures session.world program names) :
    Secures session (Task.ofOp program) names :=
  (runsOn_ofOp program session).secures fun complete =>
    secures.mono fun _ _ grows known =>
      World.knows_append.mpr ⟨known, complete.bindings.grows grows⟩

theorem carrying {program : Variables → Op (α × Variables)}
    (secures : session.world.Knows (Variables.targets session.bindings) →
      Secures session.world (program session.bindings) fun made =>
        names made.1 ++ made.2.targets) :
    Secures session (Task.carrying program) names :=
  (runsOn_carrying program session).secures fun complete => secures complete.bindings

theorem lending {name : String} {object : β → Object}
    {program : Variables → Op ((α × Variables) × β)}
    (secures : ∀ bindings : Variables, session.world.Knows bindings.targets →
      Secures session.world (program bindings) fun made =>
        (names made.1.1 ++ made.1.2.targets) ++ (object made.2).targets) :
    Secures session (Task.lending name object program) names := by
  refine (runsOn_lending name object program session).secures fun complete => ?_
  have fewer : Variables.targets (session.bindings.filter (·.1 != name)) ⊆ session.bindings.targets :=
    Variables.targets_subset (List.filter_subset_self _)
  refine (secures _ (complete.bindings.subset fewer)).mono fun made left _ known => ?_
  obtain ⟨kept, lent⟩ := World.knows_append.mp known
  obtain ⟨result, bindings⟩ := World.knows_append.mp kept
  refine World.knows_append.mpr ⟨result, ?_⟩
  split
  · exact bindings
  · exact World.knows_append.mpr ⟨lent, bindings⟩

/-- What looks at the session sees a complete one. -/
theorem get_bind {next : Session → Task α}
    (rest : session.Complete → Secures session (next session) names) :
    Secures session (MonadState.get >>= next) names :=
  fun complete => rest complete complete

end Secures

open Secures

theorem Task.tidy_ofExcept (decided : Except Failure α) :
    Tidy session (Task.ofOp (Op.ofExcept decided)) :=
  .ofOp (Op.tidy_ofExcept decided)

theorem Task.tidy_forget (name : String) : Tidy session (modify (·.forget name)) := by
  intro complete
  have inside : (session.forget name).bindings ⊆ session.bindings := by
    unfold Session.forget
    dsimp only
    split <;> exact List.filter_subset_self _
  have known := complete.bindings.subset (Variables.targets_subset inside)
  refine .ok ?_ (session.follows_forget name).grows World.knows_nil
  refine ⟨?_, known.grows (session.follows_forget name).grows⟩
  unfold Session.forget
  dsimp only
  split <;> exact complete.world

theorem Task.tidy_bind (name : String) {object : Object}
    (known : session.world.Knows object.targets) : Tidy session (Task.bind name object) := by
  intro complete
  have forgotten := @Task.tidy_forget session name complete
  cases forgotten with
  | ok complete grows _ =>
      exact .ok ⟨complete.world, World.knows_append.mpr ⟨known.grows grows, complete.bindings⟩⟩
        grows World.knows_nil

/-- What a variable is found to name exists. -/
theorem Task.secures_named (name kind : String) (select : Object → Option α)
    (inside : ∀ object found, select object = some found → names found ⊆ object.targets) :
    Secures session (Task.named name kind select) names := by
  refine get_bind fun complete => .ofOp (ofExcept fun found given => ?_)
  cases looked : (session.bindings.lookup name).bind select with
  | none => rw [Variables.named, looked] at given; cases given
  | some other =>
      rw [Variables.named, looked] at given
      cases given
      obtain ⟨object, listed, selected⟩ := Option.bind_eq_some_iff.mp looked
      exact (complete.bindings.subset (Object.targets_subset listed)).subset
        (inside object found selected)

theorem Task.tidy_named (name kind : String) (select : Object → Option α) :
    Tidy session (Task.named name kind select) :=
  secures_named name kind select fun _ _ _ => List.nil_subset _

theorem Task.secures_handle (name : String) :
    Secures session (Task.handle name) fun handle => [.store handle.store] := by
  refine secures_named name "map" _ fun object found selected => ?_
  cases object <;> cases selected
  exact List.Subset.refl _

theorem Variables.knows_value {bindings : Variables} {world : World}
    (known : world.Knows bindings.targets) (name : String) (value : Value)
    (found : bindings.value name = .ok value) : world.Knows value.targets := by
  unfold Variables.value Variables.named at found
  split at found
  · rename_i named looked
    cases found
    obtain ⟨object, listed, selected⟩ := Option.bind_eq_some_iff.mp looked
    cases object <;> cases selected
    exact known.subset (Object.targets_subset listed)
  · cases found

theorem Task.secures_value (name : String) :
    Secures session (Task.value name) Value.targets :=
  get_bind fun complete => .ofOp (ofExcept (Variables.knows_value complete.bindings name))

theorem Task.secures_cell (name : String) : Secures session (Task.cell name) Cell.targets := by
  refine secures_named name "cell" _ fun object found selected => ?_
  cases object <;> cases selected
  exact List.Subset.refl _

theorem Task.secures_buffer (name : String) :
    Secures session (Task.buffer name) fun buffer => [.buffer buffer.id] := by
  refine secures_named name "buffer" _ fun object found selected => ?_
  cases object <;> cases selected
  exact List.Subset.refl _

theorem Task.secures_cursor (name : String) :
    Secures session (Task.cursor name) fun cursor => [.store cursor.store] := by
  refine secures_named name "iterator" _ fun object found selected => ?_
  cases object <;> cases selected
  exact List.Subset.refl _

theorem Task.secures_entry (name : String) :
    Secures session (Task.entry name) fun entry => [.store entry.store] := by
  refine secures_named name "entry" _ fun object found selected => ?_
  cases object <;> cases selected
  exact List.Subset.refl _

/-! ## Values that are asked for -/

namespace ValueSpec

theorem knows_valueIn {bindings : Variables} {world : World} (known : world.Knows bindings.targets)
    (spec : ValueSpec) (value : Value) (made : spec.valueIn bindings = .ok value) :
    world.Knows value.targets := by
  cases spec with
  | scalar datum =>
      cases made
      exact World.knows_nil
  | copyOf name => exact Variables.knows_value known name value made

theorem knows_optionIn {bindings : Variables} {world : World} (known : world.Knows bindings.targets)
    (spec : Option ValueSpec) (cell : Cell) (made : optionIn bindings spec = .ok cell) :
    world.Knows (Cell.targets cell) := by
  cases spec with
  | none =>
      cases made
      exact World.knows_nil
  | some spec =>
      change Except.map some (spec.valueIn bindings) = .ok cell at made
      cases asked : spec.valueIn bindings with
      | error failure => rw [asked] at made; cases made
      | ok value =>
          rw [asked] at made
          cases made
          exact knows_valueIn known spec value asked

theorem secures_build (spec : ValueSpec) : Secures session spec.build Value.targets :=
  get_bind fun complete => .ofOp (ofExcept (spec.knows_valueIn complete.bindings))

theorem secures_buildEntries (entries : List (String × ValueSpec)) :
    Secures session (buildEntries entries) (List.flatMap fun item => item.2.targets) := by
  unfold buildEntries
  induction entries generalizing session with
  | nil => exact .pure World.knows_nil
  | cons entry rest ih =>
      rw [List.mapM_cons]
      have first : Secures session (entry.2.build >>= fun value => pure (entry.1, value))
          fun item => item.2.targets :=
        entry.2.secures_build.bind fun _ _ _ known => .pure known
      refine first.bind fun item left _ held => ih.bind fun items left grows known => .pure ?_
      exact World.knows_append.mpr ⟨held.grows grows, known⟩

end ValueSpec

/-! ## What actions make -/

/-- What the object names that an action makes. -/
def Outcome.targets (outcome : Outcome) : List Target := outcome.2.elim [] Object.targets

namespace Outcome

theorem secures_only (answer : Answer) : Secures session (Pure.pure (only answer)) targets :=
  .pure World.knows_nil

theorem secures_value {made : Value} (known : session.world.Knows made.targets) :
    Secures session (value made) targets :=
  (Secures.ofOp (made.looks_snapshot.tidy _)).bind fun _ _ grows _ => .pure (known.grows grows)

theorem secures_buffer {made : BufferRef} (known : session.world.Knows [.buffer made.id]) :
    Secures session (buffer made) targets :=
  (Secures.ofOp (made.looks_length.tidy _)).bind fun _ _ grows _ => .pure (known.grows grows)

theorem secures_handle {made : Handle} (known : session.world.Knows [.store made.store]) :
    Secures session (Pure.pure (handle made)) targets :=
  .pure known

/-- An answer out of a program over the world. -/
theorem secures_answer {program : Op α} (tidy : Tidy session.world program) (answer : α → Answer) :
    Secures session
      (Task.ofOp program >>= fun result => Pure.pure (only (answer result))) targets :=
  (Secures.ofOp tidy).bind fun _ _ _ _ => secures_only _

/-- A value out of a program over the world. -/
theorem secures_valueOf {program : Op Value}
    (secures : Secures session.world program Value.targets) :
    Secures session (Task.ofOp program >>= value) targets :=
  (Secures.ofOp secures).bind fun _ _ _ known => secures_value known

theorem tidy_store (into : Option String) {outcome : Outcome}
    (known : session.world.Knows outcome.targets) : Tidy session (store into outcome) := by
  unfold store
  split
  · rename_i object made
    rw [targets, made] at known
    exact (tidy_bind _ known).bind fun _ _ _ _ => .pure World.knows_nil
  · exact .pure World.knows_nil

end Outcome

/-! ## Arrays where they stand -/

namespace Value

variable {world : World} {value : Value}

theorem knows_toView (known : world.Knows value.targets) (view : View)
    (same : value.toView = .ok view) : world.Knows view.targets := by
  unfold toView at same
  split at same
  · cases same
    exact known
  · cases same

theorem knows_toBlock (known : world.Knows value.targets) (block : Block)
    (same : value.toBlock = .ok block) : world.Knows block.targets := by
  unfold toBlock at same
  split at same
  · cases same
    exact known
  · cases same

end Value

namespace Place

/-- What reads a value where it stands may use that it exists, like all that variables name. -/
theorem secures_reading (place : Place) (form : Form)
    {use : Variables → Value → Op (α × Variables)}
    (each : ∀ (bindings : Variables) (value : Value) (left : World), left.Knows bindings.targets →
      left.Knows value.targets →
        Secures left (use bindings value) fun made => names made.1 ++ made.2.targets) :
    Secures session (place.reading form use) names := by
  cases place with
  | «variable» name =>
      refine (secures_value name).bind fun value left _ found => ?_
      dsimp only
      split
      · exact .throw_bind _ _
      · exact .carrying fun known => each _ value _ known found
  | stored map key elem =>
      refine (secures_handle map).bind fun handle left _ _ => .carrying fun known => ?_
      exact handle.secures_withValue key _ fun value _ grows found =>
        each _ value _ (known.grows grows) found
  | entry name elem =>
      refine (secures_entry name).bind fun entry left _ _ => .carrying fun known => ?_
      exact entry.secures_withValue _ fun value _ grows found =>
        each _ value _ (known.grows grows) found
  | cell name elem =>
      refine (secures_cell name).bind fun cell left _ held => ?_
      refine Secures.bind (.ofOp (ofExcept (Cell.knows_expect held))) fun value left _ found => ?_
      exact .carrying fun known => each _ value _ known found

/-- What writes a value where it stands has to make sure that what it leaves there exists. -/
theorem secures_writing (place : Place) (form : Form)
    {use : Variables → Value → Op ((α × Variables) × Value)}
    (each : ∀ (bindings : Variables) (value : Value) (left : World), left.Knows bindings.targets →
      left.Knows value.targets →
        Secures left (use bindings value) fun made =>
          (names made.1.1 ++ made.1.2.targets) ++ made.2.targets) :
    Secures session (place.writing form use) names := by
  cases place with
  | «variable» name =>
      refine (secures_value name).bind fun value left _ found => ?_
      dsimp only
      split
      · exact .throw_bind _ _
      · exact .lending fun bindings known => each bindings value _ known found
  | stored map key elem =>
      refine (secures_handle map).bind fun handle left _ _ => .carrying fun known => ?_
      exact handle.secures_modifyValue key _ fun value _ grows found =>
        each _ value _ (known.grows grows) found
  | entry name elem =>
      refine (secures_entry name).bind fun entry left _ _ => .carrying fun known => ?_
      exact entry.secures_modifyValue _ fun value _ grows found =>
        each _ value _ (known.grows grows) found
  | cell name elem =>
      refine (secures_cell name).bind fun cell left _ held => ?_
      refine Secures.bind (.ofOp (ofExcept (Cell.knows_expect held))) fun value left _ found => ?_
      exact .lending fun bindings known => each bindings value _ known found

theorem secures_readingView (place : Place) {use : View → Op α}
    (each : ∀ (view : View) (left : World), left.Knows view.targets →
      Secures left (use view) names) : Secures session (place.readingView use) names := by
  refine place.secures_reading .view fun bindings value left known found => ?_
  refine Secures.bind (ofExcept (Value.knows_toView found)) fun view left grows viewed => ?_
  exact (each view left viewed).bind fun _ _ further held =>
    .pure (World.knows_append.mpr ⟨held, (known.grows grows).grows further⟩)

theorem secures_writingView (place : Place) {use : View → Op (α × View)}
    (each : ∀ (view : View) (left : World), left.Knows view.targets →
      Secures left (use view) fun made => names made.1 ++ made.2.targets) :
    Secures session (place.writingView use) names := by
  refine place.secures_writing .view fun bindings value left known found => ?_
  refine Secures.bind (ofExcept (Value.knows_toView found)) fun view left grows viewed => ?_
  refine (each view left viewed).bind fun made left further held => .pure ?_
  obtain ⟨result, changed⟩ := World.knows_append.mp held
  exact World.knows_append.mpr
    ⟨World.knows_append.mpr ⟨result, (known.grows grows).grows further⟩, changed⟩

theorem secures_readingBlock (place : Place) {use : Block → Op α}
    (each : ∀ (block : Block) (left : World), left.Knows block.targets →
      Secures left (use block) names) : Secures session (place.readingBlock use) names := by
  refine place.secures_reading .block fun bindings value left known found => ?_
  refine Secures.bind (ofExcept (Value.knows_toBlock found)) fun block left grows held => ?_
  exact (each block left held).bind fun _ _ further held =>
    .pure (World.knows_append.mpr ⟨held, (known.grows grows).grows further⟩)

theorem secures_writingBlock (place : Place) {use : Block → Op (α × Block)}
    (each : ∀ (block : Block) (left : World), left.Knows block.targets →
      Secures left (use block) fun made => names made.1 ++ made.2.targets) :
    Secures session (place.writingBlock use) names := by
  refine place.secures_writing .block fun bindings value left known found => ?_
  refine Secures.bind (ofExcept (Value.knows_toBlock found)) fun block left grows held => ?_
  refine (each block left held).bind fun made left further held => .pure ?_
  obtain ⟨result, changed⟩ := World.knows_append.mp held
  exact World.knows_append.mpr
    ⟨World.knows_append.mpr ⟨result, (known.grows grows).grows further⟩, changed⟩

end Place

end PathStore
