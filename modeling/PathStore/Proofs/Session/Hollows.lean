import PathStore.Proofs.Submap.Grafting
import PathStore.Proofs.Session.Spares
import PathStore.Proofs.World.Hollows

/-!
# Which steps empty, copy and replace entries

Only a step that lends a cell and empties it makes an entry hollow that is no copy of a hollow one.
Grafting, merging and copying a map copy entries, hollow or not. What a step may replace are the keys
under which it stores something, and what it removes. All other actions, and all other accesses apart
from what is done in their bodies, leave every entry as hollow as it is.
-/

namespace PathStore

open PathStore.Path

/-! ## What steps do to entries -/

namespace Step

/-- The step lends the cell under a key of a store to its body, and empties it. -/
inductive Empties (now : Session) : Step → StoreId → String → Prop where
  | writeCell {map key : String} {set : Option ValueSpec} {body : List Step} {handle : Handle}
      {inner : Session} (named : now.find? map Object.handle? = some handle)
      (lends : (Access.writeStoredCell map key set true).Lends now inner) :
      Empties now (.lend (.writeStoredCell map key set true) body) handle.store (handle.resolve key)

/-- The step grafts what one handle reaches below a key of another. -/
inductive Grafts (now : Session) : Step → Handle → String → Handle → Prop where
  | graft {map key other : String} {into : Option String} {handle source : Handle}
      (named : now.find? map Object.handle? = some handle)
      (given : now.find? other Object.handle? = some source) :
      Grafts now (.act (.map (.graft map key other)) into) handle key source
  | merge {map other : String} {into : Option String} {handle source : Handle}
      (named : now.find? map Object.handle? = some handle)
      (given : now.find? other Object.handle? = some source) :
      Grafts now (.act (.map (.merge map other)) into) handle "" source

/-- The step makes an independent copy of what a handle reaches. -/
inductive Duplicates (now : Session) : Step → Handle → Prop where
  | copy {map : String} {into : Option String} {handle : Handle}
      (named : now.find? map Object.handle? = some handle) :
      Duplicates now (.act (.map (.copy map)) into) handle
  | tryCopy {map : String} {into : Option String} {handle : Handle}
      (named : now.find? map Object.handle? = some handle) :
      Duplicates now (.act (.map (.tryCopy map)) into) handle

end Step

/-- The key that an entry gets in an independent copy. -/
def Handle.copiedKey (handle : Handle) (origin : String) : String :=
  match handle.location with
  | .root => origin
  | .within _ => Location.root.resolve (handle.location.relative origin)

namespace Step

/-- The step copies the entry under a key of one store to a key of another. -/
inductive Copies (now : Session) (step : Step) : StoreId → String → StoreId → String → Prop where
  | graft {handle source : Handle} {key origin : String} (grafts : step.Grafts now handle key source)
      (inside : InSubtree source.location.key origin) :
      Copies now step source.store origin handle.store
        (handle.resolve (key ++ source.location.relative origin))
  | duplicate {handle : Handle} {origin : String} (duplicates : step.Duplicates now handle)
      (inside : InSubtree handle.location.key origin) :
      Copies now step handle.store origin ⟨now.world.stores.next⟩ (handle.copiedKey origin)

/-- The step stores a value of its own under a key of a store, if it can. -/
inductive Overwrites (now : Session) : Step → StoreId → String → Prop where
  | update {map key : String} {value : ValueSpec} {into : Option String} {handle : Handle}
      (named : now.find? map Object.handle? = some handle) :
      Overwrites now (.act (.map (.update map key value)) into) handle.store (handle.resolve key)
  | updateMany {map key : String} {value : ValueSpec} {entries : List (String × ValueSpec)}
      {into : Option String} {handle : Handle}
      (named : now.find? map Object.handle? = some handle) (member : (key, value) ∈ entries) :
      Overwrites now (.act (.map (.updateMany map entries)) into) handle.store (handle.resolve key)
  | set {name : String} {value : ValueSpec} {into : Option String} {entry : EntryRef}
      (named : now.find? name Object.entry? = some entry) :
      Overwrites now (.act (.entry name (.set value)) into) entry.store entry.key
  | writeCell {map key : String} {value : ValueSpec} {body : List Step} {handle : Handle}
      (named : now.find? map Object.handle? = some handle) :
      Overwrites now (.lend (.writeStoredCell map key (some value) false) body) handle.store
        (handle.resolve key)

/-- The step removes the entry under a key of a store, if it can. -/
inductive Erases (now : Session) : Step → StoreId → String → Prop where
  | key {map key : String} {into : Option String} {handle : Handle}
      (named : now.find? map Object.handle? = some handle) :
      Erases now (.act (.map (.erase map key)) into) handle.store (handle.resolve key)
  | entry {map name : String} {into : Option String} {handle : Handle} {entry : EntryRef}
      (named : now.find? map Object.handle? = some handle)
      (given : now.find? name Object.entry? = some entry) :
      Erases now (.act (.map (.eraseEntry map name)) into) entry.store entry.key
  | range {map name key : String} {into : Option String} {handle : Handle} {cursor : Cursor}
      (named : now.find? map Object.handle? = some handle)
      (given : now.find? name Object.cursor? = some cursor)
      (remains : key ∈ cursor.remaining (now.world.entries cursor.store)) :
      Erases now (.act (.map (.eraseRange map name)) into) cursor.store key
  | subtree {map path key : String} {into : Option String} {handle : Handle}
      (named : now.find? map Object.handle? = some handle)
      (inside : InSubtree (handle.resolve path) key) :
      Erases now (.act (.map (.eraseRecursive map path)) into) handle.store key
  | all {map key : String} {into : Option String} {handle : Handle}
      (named : now.find? map Object.handle? = some handle)
      (inside : InSubtree handle.location.key key) :
      Erases now (.act (.map (.clear map)) into) handle.store key

/-- The step puts a value of its own or a copied one under a key of a store, or removes the entry
there. -/
inductive Replaces (now : Session) (step : Step) : StoreId → String → Prop where
  | overwrites {id : StoreId} {key : String} (overwrites : step.Overwrites now id key) :
      Replaces now step id key
  | graft {handle source : Handle} {key origin : String} {value : Value}
      (grafts : step.Grafts now handle key source) (inside : InSubtree source.location.key origin)
      (stored : (now.world.entries source.store).find? origin = some (some value)) :
      Replaces now step handle.store (handle.resolve (key ++ source.location.relative origin))
  | erases {id : StoreId} {key : String} (erases : step.Erases now id key) :
      Replaces now step id key

/-- What the step may empty, copy or replace lies within the bounds. -/
structure Within (step : Step) (bounds : Bounds) (now : Session) : Prop where
  empties : ∀ {id key}, step.Empties now id key → bounds.arises id key
  copies : ∀ {store origin id key}, step.Copies now store origin id key →
    now.world.Hollow store origin → bounds.arises id key
  replaces : ∀ {id key}, step.Replaces now id key → bounds.ends id key

end Step

variable {α β : Type} {bounds : Bounds} {session : Session}

/-! ## Tasks -/

namespace Respects

theorem of_runsOn {task : Task β} {program : Op α} {result : α → β} {bindings : α → Variables}
    (runs : RunsOn task program result bindings session)
    (respects : Respects bounds session.world program) : Respects bounds session task := by
  unfold Respects at respects ⊢
  rw [runs]
  generalize program session.world = outcome at respects
  cases outcome with
  | ok made world => exact respects
  | error failure world => exact respects

theorem ofOp {program : Op α} (respects : Respects bounds session.world program) :
    Respects bounds session (Task.ofOp program) :=
  of_runsOn (Task.runsOn_ofOp program session) respects

theorem carrying {program : Variables → Op (α × Variables)}
    (respects : Respects bounds session.world (program session.bindings)) :
    Respects bounds session (Task.carrying program) :=
  of_runsOn (Task.runsOn_carrying program session) respects

theorem lending {name : String} {object : β → Object}
    {program : Variables → Op ((α × Variables) × β)}
    (respects : ∀ bindings, Respects bounds session.world (program bindings)) :
    Respects bounds session (Task.lending name object program) :=
  of_runsOn (Task.runsOn_lending name object program session) (respects _)

theorem bind_finds {task : Task α} {next : α → Task β} {found : Option α}
    (finds : Finds task session found)
    (rest : ∀ result, found = some result → Respects bounds session (next result)) :
    Respects bounds session (task >>= next) := by
  obtain ⟨decided, runs, same⟩ := finds.exists_settled
  refine bind_settled runs fun result known => rest result ?_
  rw [← same, known]
  rfl

end Respects

theorem Session.stores_forget (session : Session) (name : String) :
    (session.forget name).world.stores = session.world.stores := by
  unfold forget
  dsimp only
  split <;> rfl

theorem Task.respects_bind (name : String) (object : Object) :
    Respects bounds session (Task.bind name object) :=
  .of_stores (session.stores_forget name)

namespace Outcome

theorem respects_value (made : Value) : Respects bounds session (value made) :=
  (Respects.ofOp (.of_looks made.looks_snapshot)).bind fun _ _ => .pure _

theorem respects_buffer (made : BufferRef) : Respects bounds session (buffer made) :=
  (Respects.ofOp (.of_looks made.looks_length)).bind fun _ _ => .pure _

theorem respects_answer {program : Op α} (respects : Respects bounds session.world program)
    (answer : α → Answer) :
    Respects bounds session
      (Task.ofOp program >>= fun result => Pure.pure (only (answer result))) :=
  (Respects.ofOp respects).bind fun _ _ => .pure _

theorem respects_valueOf {program : Op Value} (respects : Respects bounds session.world program) :
    Respects bounds session (Task.ofOp program >>= value) :=
  (Respects.ofOp respects).bind fun made _ => respects_value made

end Outcome

/-! ## Arrays where they stand -/

namespace Place

variable (place : Place)

theorem respects_reading {form : Form} {use : Variables → Value → Op (α × Variables)}
    (each : ∀ bindings value world, Respects bounds world (use bindings value)) :
    Respects bounds session (place.reading form use) := by
  cases place.reads_reading use with
  | missing stops => exact .failed stops
  | held _ runs => exact .of_runsOn runs (each _ _ _)
  | stored _ runs => exact .of_runsOn runs (.readingStore (each _ _ _))

theorem respects_writing {form : Form} {use : Variables → Value → Op ((α × Variables) × Value)}
    (each : ∀ bindings value world, Respects bounds world (use bindings value)) :
    Respects bounds session (place.writing form use) := by
  cases place with
  | «variable» name =>
      refine .bind_finds (Task.finds_value name session) fun value _ => ?_
      dsimp only
      split
      · exact .throw_bind _ _
      · exact .lending fun bindings => each bindings value _
  | stored map key elem =>
      exact .bind_finds (Task.finds_handle map session) fun handle _ => .carrying
        (handle.respects_modifyValue key _ fun value _ => each _ value _)
  | entry name elem =>
      exact .bind_finds (Task.finds_entry name session) fun entry _ => .carrying
        (entry.respects_modifyValue _ fun value _ => each _ value _)
  | cell name elem =>
      exact .bind_finds (Task.finds_cell name session) fun cell _ =>
        .bind_settled (Task.ofExcept_apply _ _) fun value _ =>
          .lending fun bindings => each bindings value _

theorem respects_readingView {use : View → Op α}
    (each : ∀ view world, Respects bounds world (use view)) :
    Respects bounds session (place.readingView use) :=
  place.respects_reading fun _ _ world => .bind_deciding fun view _ =>
    (each view world).bind fun _ _ => .pure _

theorem respects_writingView {use : View → Op (α × View)}
    (each : ∀ view world, Respects bounds world (use view)) :
    Respects bounds session (place.writingView use) :=
  place.respects_writing fun _ _ world => .bind_deciding fun view _ =>
    (each view world).bind fun _ _ => .pure _

theorem respects_readingBlock {use : Block → Op α}
    (each : ∀ block world, Respects bounds world (use block)) :
    Respects bounds session (place.readingBlock use) :=
  place.respects_reading fun _ _ world => .bind_deciding fun block _ =>
    (each block world).bind fun _ _ => .pure _

theorem respects_writingBlock {use : Block → Op (α × Block)}
    (each : ∀ block world, Respects bounds world (use block)) :
    Respects bounds session (place.writingBlock use) :=
  place.respects_writing fun _ _ world => .bind_deciding fun block _ =>
    (each block world).bind fun _ _ => .pure _

end Place

/-! ## Actions -/

theorem Object.respects_same (left right : Object) :
    Respects bounds session (left.same right) := by
  unfold same
  split
  · exact .ofOp (.of_looks (Value.looks_same _ _))
  · exact .ofOp (.of_looks (Cell.looks_same _ _))
  · exact .pure _
  · exact .throw _

theorem ObjectAction.respects_run (action : ObjectAction) :
    Respects bounds session action.run := by
  cases action with
  | newValue spec =>
      exact .bind_finds (spec.finds_build session) fun made _ => Outcome.respects_value made
  | showValue name =>
      exact .bind_finds (Task.finds_value name session) fun value _ =>
        Outcome.respects_answer (.of_looks value.looks_snapshot) _
  | typeName name => exact .bind_finds (Task.finds_value name session) fun _ _ => .pure _
  | hasType name type => exact .bind_finds (Task.finds_value name session) fun _ _ => .pure _
  | get name type =>
      exact .bind_finds (Task.finds_value name session) fun value _ =>
        .bind_settled (Task.ofExcept_apply _ _) fun made _ => Outcome.respects_value made
  | set name spec =>
      refine .bind_finds (Task.finds_value name session).discard fun _ _ => ?_
      refine .bind_finds (spec.finds_build session) fun value _ => ?_
      refine (Task.respects_bind name _).bind fun _ _ => ?_
      exact (Respects.ofOp (.of_looks value.looks_snapshot)).bind fun _ _ => .pure _
  | newCell spec =>
      refine .bind_finds (.found rfl) fun bindings _ => ?_
      refine .bind_settled (Task.ofExcept_apply _ _) fun cell _ => ?_
      exact (Respects.ofOp (.of_looks (Cell.looks_snapshot cell))).bind fun _ _ => .pure _
  | showCell name =>
      exact .bind_finds (Task.finds_cell name session) fun cell _ =>
        Outcome.respects_answer (.of_looks (Cell.looks_snapshot cell)) _
  | setCell name spec =>
      refine .bind_finds (Task.finds_cell name session).discard fun _ _ => ?_
      refine .bind_finds (spec.finds_build session) fun value _ => ?_
      refine (Task.respects_bind name _).bind fun _ _ => ?_
      exact (Respects.ofOp (.of_looks (Cell.looks_snapshot (some value)))).bind fun _ _ => .pure _
  | getCell name type =>
      exact .bind_finds (Task.finds_cell name session) fun cell _ =>
        .bind_settled (Task.ofExcept_apply _ _) fun made _ => Outcome.respects_value made
  | takeCell name =>
      refine .bind_finds (Task.finds_cell name session) fun cell _ => ?_
      cases cell with
      | some value => exact Outcome.respects_value value
      | none => exact .pure _
  | newHost text => exact (Respects.ofOp (HostId.respects_create text)).bind fun _ _ => .pure _
  | forget name => exact Respects.bind (.of_stores (session.stores_forget name)) fun _ _ => .pure _
  | same left right =>
      refine .bind_finds (Task.finds_named left _ _ session) fun left _ => ?_
      refine .bind_finds (Task.finds_named right _ _ session) fun right _ => ?_
      exact (left.respects_same right).bind fun _ _ => .pure _
  | inspect name =>
      exact .bind_finds (Task.finds_named name _ _ session) fun _ _ =>
        .bind_finds (.found rfl) fun _ _ => .pure _

theorem BufferAction.respects_run (action : BufferAction) :
    Respects bounds session action.run := by
  cases action with
  | create elem data =>
      exact (Respects.ofOp (BufferRef.respects_create elem data)).bind fun made _ =>
        Outcome.respects_buffer made
  | copy name =>
      exact .bind_finds (Task.finds_buffer name session) fun made _ => Outcome.respects_buffer made
  | length name =>
      exact .bind_finds (Task.finds_buffer name session) fun buffer _ =>
        Outcome.respects_answer (.of_looks buffer.looks_length) _
  | get name position =>
      exact .bind_finds (Task.finds_buffer name session) fun buffer _ =>
        Outcome.respects_answer (.of_asks (.bufferGet buffer position)) _
  | set name position element =>
      refine .bind_finds (Task.finds_buffer name session) fun buffer _ => ?_
      refine .bind_settled (Task.ofExcept_apply _ _) fun element _ => ?_
      exact (Respects.ofOp (buffer.respects_set position element)).bind fun _ _ => .pure _
  | toList name =>
      exact .bind_finds (Task.finds_buffer name session) fun buffer _ =>
        Outcome.respects_answer (.of_asks (.bufferToList buffer)) _
  | same left right =>
      exact .bind_finds (Task.finds_buffer left session) fun _ _ =>
        .bind_finds (Task.finds_buffer right session) fun _ _ => .pure _

theorem ArrayAction.respects_run (action : ArrayAction) :
    Respects bounds session action.run := by
  cases action with
  | view buffer offset shape strides =>
      refine .bind_finds (Task.finds_buffer buffer session) fun buffer _ => ?_
      exact (Respects.ofOp (View.respects_make buffer offset shape strides)).bind fun made _ =>
        Outcome.respects_value (.view made)
  | wholeView buffer =>
      refine .bind_finds (Task.finds_buffer buffer session) fun buffer _ => ?_
      exact (Respects.ofOp (.of_looks (View.looks_ofBuffer buffer))).bind fun made _ =>
        Outcome.respects_value (.view made)
  | bufferBlock buffer shape strides memory =>
      refine .bind_finds (Task.finds_buffer buffer session) fun buffer _ => ?_
      cases strides with
      | some strides =>
          exact (Respects.ofOp (Block.respects_ofBuffer buffer shape strides memory)).bind
            fun made _ => Outcome.respects_value (.block made)
      | none =>
          exact (Respects.ofOp (Block.respects_ofBufferShape buffer shape memory)).bind
            fun made _ => Outcome.respects_value (.block made)
  | listBlock elem data => exact Outcome.respects_value _
  | shapedBlock elem data shape strides =>
      cases strides with
      | some strides =>
          exact .bind_settled (Task.ofExcept_apply _ _) fun made _ =>
            Outcome.respects_value (.block made)
      | none =>
          exact .bind_settled (Task.ofExcept_apply _ _) fun made _ =>
            Outcome.respects_value (.block made)

theorem ViewAction.respects_run (place : Place) (action : ViewAction) :
    Respects bounds session (action.run place) := by
  cases action with
  | describe =>
      exact place.respects_readingView fun view _ =>
        (Respects.of_looks view.looks_info).bind fun _ _ => .pure _
  | get index =>
      exact place.respects_readingView fun view _ =>
        (Respects.of_asks (.viewGet view index)).bind fun _ _ => .pure _
  | set index element =>
      exact place.respects_readingView fun view _ => .bind_deciding fun element _ =>
        (view.respects_set index element).bind fun _ _ => .pure _
  | getLinear position =>
      exact place.respects_readingView fun view _ =>
        (Respects.of_asks (.viewGetLinear view position)).bind fun _ _ => .pure _
  | setLinear position element =>
      exact place.respects_readingView fun view _ => .bind_deciding fun element _ =>
        (view.respects_setLinear position element).bind fun _ _ => .pure _
  | toList =>
      exact place.respects_readingView fun view _ =>
        (Respects.of_asks (.viewToList view)).bind fun _ _ => .pure _
  | slice selectors =>
      refine (place.respects_readingView fun view _ => ?_).bind fun _ _ =>
        Outcome.respects_value _
      exact .bind_deciding fun selectors _ => .ofExcept _
  | buffer =>
      exact (place.respects_readingView fun _ _ => .pure _).bind fun made _ =>
        Outcome.respects_buffer made
  | owner =>
      exact place.respects_readingView fun view _ =>
        (Respects.of_looks view.looks_showOwner).bind fun _ _ => .pure _
  | resetOwner name kind =>
      exact place.respects_writing fun _ _ _ =>
        .bind_deciding fun _ _ => .bind_deciding fun _ _ => .pure _
  | clearOwner => exact place.respects_writingView fun _ _ => .pure _

theorem BlockAction.respects_run (place : Place) (action : BlockAction) :
    Respects bounds session (action.run place) := by
  cases action with
  | describe => exact place.respects_readingBlock fun _ _ => .pure _
  | get position =>
      exact place.respects_readingBlock fun block _ =>
        (block.respects_get position).bind fun _ _ => .pure _
  | set position element =>
      exact place.respects_writingBlock fun block _ => .bind_deciding fun element _ =>
        (block.respects_set position element).bind fun _ _ => .pure _
  | toList =>
      exact place.respects_readingBlock fun block _ =>
        (Respects.of_looks block.looks_toList).bind fun _ _ => .pure _
  | release =>
      refine (place.respects_writingBlock fun _ _ => .pure _).bind fun released _ => ?_
      exact .bind_settled (Task.ofExcept_apply released _) fun _ _ => .pure _
  | take =>
      exact (place.respects_writingBlock fun _ _ => .pure _).bind fun _ _ =>
        Outcome.respects_value _
  | view =>
      exact (place.respects_readingBlock fun block _ => block.respects_view).bind fun _ _ =>
        Outcome.respects_value _
  | copyAs memory =>
      exact (place.respects_readingBlock fun block _ => block.respects_copyAs memory).bind
        fun _ _ => Outcome.respects_value _

/-! ### Maps, cursors and entries -/

/-- The values that are made stand under the keys that are asked for. -/
theorem ValueSpec.finds_entries (entries : List (String × ValueSpec)) (session : Session) :
    ∃ found, Finds (buildEntries entries) session found ∧
      ∀ values ∈ found, ∀ item ∈ values, ∃ spec, (item.1, spec) ∈ entries := by
  induction entries with
  | nil => exact ⟨some [], .found rfl, by simp⟩
  | cons entry rest ih =>
      obtain ⟨found, finds, asked⟩ := ih
      have first := (entry.2.finds_build session).bind fun value => .pure (entry.1, value)
      unfold buildEntries
      rw [List.mapM_cons]
      refine ⟨_, first.bind fun item => finds.bind fun values => .pure (item :: values), ?_⟩
      intro values member
      obtain ⟨item, built, member⟩ := Option.bind_eq_some_iff.mp member
      obtain ⟨value, _, named⟩ := Option.bind_eq_some_iff.mp built
      obtain ⟨others, made, same⟩ := Option.bind_eq_some_iff.mp member
      cases same
      cases named
      rintro other (_ | ⟨_, later⟩)
      · exact ⟨entry.2, .head _⟩
      · obtain ⟨spec, among⟩ := asked others made other later
        exact ⟨spec, .tail _ among⟩

namespace Handle

variable {handle source : Handle} {step : Step}

/-- A copy is hollow where what it is a copy of is hollow. -/
theorem exists_hollow_origin {entries : Entries Cell} {key : String}
    (hollow : (handle.copied entries).Hollow key) :
    ∃ origin, entries.Hollow origin ∧ InSubtree handle.location.key origin ∧
      key = handle.copiedKey origin := by
  cases located : handle.location with
  | root =>
      simp only [copied, located] at hollow
      refine ⟨key, hollow, inSubtree_empty key, ?_⟩
      simp only [copiedKey, located]
  | within path =>
      simp only [copied, located] at hollow
      let origins : Bounds := ⟨fun _ key => ∃ origin, entries.Hollow origin ∧
        InSubtree handle.location.key origin ∧
          key = Location.root.resolve (handle.location.relative origin), fun _ _ => True⟩
      have arises : origins.AllowsAt handle.store Entries.empty
          (Entries.empty.insertAll ((handle.relativeEntries entries).map fun entry =>
            (Location.root.resolve entry.1, entry.2))) := by
        refine .insertAll (fun found member => ?_) fun _ _ _ => trivial
        obtain ⟨origin, reached, rfl⟩ := handle.exists_origin Location.root.resolve member
        obtain ⟨stored, inside⟩ := (handle.mem_reach_iff entries _).mp reached
        exact ⟨origin, stored, inside, rfl⟩
      rcases arises.arise key hollow with nothing | ⟨origin, stored, inside, same⟩
      · cases nothing
      · rw [located] at inside same
        refine ⟨origin, stored, inside, ?_⟩
        simp only [copiedKey, located]
        exact same

theorem respects_createEmpty {world : World} : Respects bounds world (create .empty) :=
  respects_create fun key hollow => (Entries.not_hollow_empty key hollow).elim

theorem respects_graft_within {key : String} (grafts : step.Grafts session handle key source)
    (within : step.Within bounds session) :
    Respects bounds session.world (handle.graft key source) := by
  refine respects_graft (fun origin reached => ?_) fun origin value reached => ?_
  · obtain ⟨stored, inside⟩ := (source.mem_reach_iff _ _).mp reached
    exact within.copies (.graft grafts inside) stored
  · obtain ⟨stored, inside⟩ := (source.mem_reach_iff _ _).mp reached
    exact within.replaces (.graft grafts inside stored)

theorem respects_copy_within (duplicates : step.Duplicates session handle)
    (within : step.Within bounds session) (refusal : Failure) :
    Respects bounds session.world (handle.copy refusal) := by
  refine respects_copy fun key hollow => ?_
  obtain ⟨origin, stored, inside, rfl⟩ := exists_hollow_origin hollow
  exact within.copies (.duplicate duplicates inside) stored

end Handle

theorem MapAction.respects_run {action : MapAction} {into : Option String}
    (within : (Step.act (.map action) into).Within bounds session) :
    Respects bounds session action.run := by
  cases action with
  | create => exact (Respects.ofOp Handle.respects_createEmpty).bind fun _ _ => .pure _
  | ofEntries entries =>
      obtain ⟨_, finds, _⟩ := ValueSpec.finds_buildEntries entries session
      refine .bind_finds finds fun values _ => ?_
      refine Respects.bind_ran (.ofOp Handle.respects_createEmpty) fun handle left made => ?_
      refine (Respects.ofOp (Handle.respects_updateMany fun item _ hollow => ?_)).bind
        fun _ _ => .pure _
      -- The new store has no entries at all.
      cases made
      change ((session.world.pushStore .empty).entries ⟨session.world.stores.next⟩).Hollow _
        at hollow
      rw [World.entries_pushStore, if_pos rfl] at hollow
      exact (Entries.not_hollow_empty _ hollow).elim
  | location map => exact .bind_finds (Task.finds_handle map session) fun _ _ => .pure _
  | isRoot map => exact .bind_finds (Task.finds_handle map session) fun _ _ => .pure _
  | shares map other =>
      exact .bind_finds (Task.finds_handle map session) fun _ _ =>
        .bind_finds (Task.finds_handle other session) fun _ _ => .pure _
  | path map key => exact .bind_finds (Task.finds_handle map session) fun _ _ => .pure _
  | update map key value =>
      refine .bind_finds (Task.finds_handle map session) fun handle found => ?_
      refine .bind_finds (value.finds_build session) fun value _ => ?_
      have ends := within.replaces (.overwrites (.update found))
      exact (Respects.ofOp (Handle.respects_update (fun _ => ends) value)).bind fun _ _ => .pure _
  | updateMany map entries =>
      refine .bind_finds (Task.finds_handle map session) fun handle found => ?_
      obtain ⟨made, finds, asked⟩ := ValueSpec.finds_entries entries session
      refine .bind_finds finds fun values same => ?_
      refine (Respects.ofOp (Handle.respects_updateMany fun item member _ => ?_)).bind
        fun _ _ => .pure _
      obtain ⟨spec, among⟩ := asked values same item member
      exact within.replaces (.overwrites (.updateMany found among))
  | insertDefault map key value =>
      refine .bind_finds (Task.finds_handle map session) fun handle _ => ?_
      refine .bind_finds (value.finds_build session) fun value _ => ?_
      exact Outcome.respects_answer (handle.respects_insertDefault key value) _
  | insertDefaultMany map entries =>
      obtain ⟨made, finds, _⟩ := ValueSpec.finds_buildEntries entries session
      refine .bind_finds finds fun values _ => ?_
      refine .bind_finds (Task.finds_handle map session) fun handle _ => ?_
      exact Outcome.respects_answer (handle.respects_insertDefaultMany values) _
  | get map key type =>
      exact .bind_finds (Task.finds_handle map session) fun handle _ =>
        Outcome.respects_valueOf (.of_asks (.get handle key type))
  | getOr map key type default =>
      refine .bind_finds (default.finds_build session) fun default _ => ?_
      exact .bind_finds (Task.finds_handle map session) fun handle _ =>
        Outcome.respects_valueOf (.of_asks (.getOr handle key type default))
  | getAny map key =>
      exact .bind_finds (Task.finds_handle map session) fun handle _ =>
        Outcome.respects_valueOf (handle.respects_getAny key)
  | typeName map key =>
      exact .bind_finds (Task.finds_handle map session) fun handle _ =>
        Outcome.respects_answer (.of_asks (.typeName handle key)) _
  | isStored map key =>
      exact .bind_finds (Task.finds_handle map session) fun handle _ =>
        Outcome.respects_answer (.of_asks (.isStored handle key)) _
  | size map =>
      exact .bind_finds (Task.finds_handle map session) fun handle _ =>
        Outcome.respects_answer (.of_asks (.size handle)) _
  | isEmpty map =>
      exact .bind_finds (Task.finds_handle map session) fun handle _ =>
        Outcome.respects_answer (.of_asks (.isEmpty handle)) _
  | keys map =>
      exact .bind_finds (Task.finds_handle map session) fun handle _ =>
        Outcome.respects_answer (.of_asks (.keys handle)) _
  | erase map key =>
      exact .bind_finds (Task.finds_handle map session) fun handle found =>
        Outcome.respects_answer (Handle.respects_eraseKey (within.replaces (.erases (.key found)))) _
  | eraseEntry map name =>
      refine .bind_finds (Task.finds_handle map session) fun handle found => ?_
      refine .bind_finds (Task.finds_entry name session) fun entry given => ?_
      have ends := within.replaces (.erases (.entry found given))
      exact Outcome.respects_answer (Handle.respects_eraseEntry fun _ => ends) _
  | eraseRange map name =>
      refine .bind_finds (Task.finds_handle map session) fun handle found => ?_
      refine .bind_finds (Task.finds_cursor name session) fun cursor given => ?_
      exact Outcome.respects_answer (Handle.respects_eraseRange fun _ key remains =>
        within.replaces (.erases (.range found given remains))) _
  | eraseRecursive map written =>
      exact .bind_finds (Task.finds_handle map session) fun handle found =>
        Outcome.respects_answer (Handle.respects_eraseSubtree fun key inside =>
          within.replaces (.erases (.subtree found inside))) _
  | clear map =>
      exact .bind_finds (Task.finds_handle map session) fun handle found =>
        Outcome.respects_answer (Handle.respects_eraseSubtree fun key inside =>
          within.replaces (.erases (.all found inside))) _
  | submap map written => exact .bind_finds (Task.finds_handle map session) fun _ _ => .pure _
  | copy map =>
      exact .bind_finds (Task.finds_handle map session) fun handle found =>
        (Respects.ofOp (handle.respects_copy_within (.copy found) within .locked)).bind
          fun _ _ => .pure _
  | tryCopy map =>
      exact .bind_finds (Task.finds_handle map session) fun handle found =>
        (Respects.ofOp (handle.respects_copy_within (.tryCopy found) within .busy)).bind
          fun _ _ => .pure _
  | assign map other =>
      refine .bind_finds (Task.finds_handle map session).discard fun _ _ => ?_
      refine .bind_finds (Task.finds_handle other session) fun other _ => ?_
      exact (Task.respects_bind map _).bind fun _ _ => .pure _
  | graft map key other =>
      refine .bind_finds (Task.finds_handle map session) fun handle found => ?_
      refine .bind_finds (Task.finds_handle other session) fun source given => ?_
      have grafted := handle.respects_graft_within (.graft found given) within
      exact (Respects.ofOp grafted).bind fun _ _ => .pure _
  | merge map other =>
      refine .bind_finds (Task.finds_handle map session) fun handle found => ?_
      refine .bind_finds (Task.finds_handle other session) fun source given => ?_
      have merged := handle.respects_graft_within (.merge found given) within
      exact (Respects.ofOp merged).bind fun _ _ => .pure _
  | cursor map => exact .bind_finds (Task.finds_handle map session) fun _ _ => .pure _
  | cursorAt map written => exact .bind_finds (Task.finds_handle map session) fun _ _ => .pure _
  | listing map =>
      exact .bind_finds (Task.finds_handle map session) fun handle _ =>
        Outcome.respects_answer handle.respects_snapshot _

theorem CursorAction.respects_stepped (name : String) (taken : Option EntryRef × Cursor) :
    Respects bounds session (stepped name taken) := by
  refine (Task.respects_bind name _).bind fun _ _ => ?_
  split
  · exact .pure _
  · exact .pure _

theorem CursorAction.respects_run (name : String) (action : CursorAction) :
    Respects bounds session (action.run name) := by
  cases action with
  | next =>
      refine .bind_finds (Task.finds_cursor name session) fun cursor _ => ?_
      obtain ⟨decided, runs⟩ := (cursor.reads_step .front).exists_settled session.world
      exact .bind_settled (Task.ofOp_settled runs) fun taken _ => respects_stepped name taken
  | nextBack =>
      refine .bind_finds (Task.finds_cursor name session) fun cursor _ => ?_
      obtain ⟨decided, runs⟩ := (cursor.reads_step .back).exists_settled session.world
      exact .bind_settled (Task.ofOp_settled runs) fun taken _ => respects_stepped name taken
  | collect =>
      exact .bind_finds (Task.finds_cursor name session) fun cursor _ =>
        Outcome.respects_answer (.of_asks (.collect cursor)) _
  | collectBack =>
      exact .bind_finds (Task.finds_cursor name session) fun cursor _ =>
        Outcome.respects_answer (.of_asks (.collectBack cursor)) _
  | copy => exact .bind_finds (Task.finds_cursor name session) fun _ _ => .pure _

theorem EntryAction.respects_run {name : String} {action : EntryAction} {into : Option String}
    (within : (Step.act (.entry name action) into).Within bounds session) :
    Respects bounds session (action.run name) := by
  cases action with
  | keys => exact .bind_finds (Task.finds_entry name session) fun _ _ => .pure _
  | typeName =>
      exact .bind_finds (Task.finds_entry name session) fun entry _ =>
        Outcome.respects_answer (.of_asks (.entryTypeName entry)) _
  | value type =>
      exact .bind_finds (Task.finds_entry name session) fun entry _ =>
        Outcome.respects_valueOf (.of_asks (.entryValue entry type))
  | anyValue =>
      exact .bind_finds (Task.finds_entry name session) fun entry _ =>
        Outcome.respects_valueOf (.of_asks (.entryAnyValue entry))
  | set spec =>
      refine .bind_finds (Task.finds_entry name session) fun entry found => ?_
      refine .bind_finds (spec.finds_build session) fun value _ => ?_
      have ends := within.replaces (.overwrites (.set found))
      exact (Respects.ofOp (EntryRef.respects_set ends value)).bind fun _ _ => .pure _

theorem Action.respects_run {action : Action} {into : Option String}
    (within : (Step.act action into).Within bounds session) :
    Respects bounds session action.run := by
  cases action with
  | path action => exact .pure _
  | layout action => exact .bind_settled (Task.ofExcept_apply _ _) fun _ _ => .pure _
  | object action => exact action.respects_run
  | buffer action => exact action.respects_run
  | array action => exact action.respects_run
  | view place action => exact action.respects_run place
  | block place action => exact action.respects_run place
  | map action => exact MapAction.respects_run within
  | cursor name action => exact action.respects_run name
  | entry name action => exact EntryAction.respects_run within

/-- What an action makes is named by a variable, which changes no store. -/
theorem Step.respects_act {action : Action} {into : Option String}
    (within : (act action into).Within bounds session) :
    Respects bounds session (act action into).task := by
  refine (Action.respects_run within).bind fun outcome left => ?_
  obtain ⟨answer, object⟩ := outcome
  unfold Outcome.store
  split
  · exact (Task.respects_bind _ _).bind fun _ _ => .pure _
  · exact .pure _

end PathStore
