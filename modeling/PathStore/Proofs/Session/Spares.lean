import PathStore.Proofs.Session.Moments
import PathStore.Proofs.Session.Places
import PathStore.Proofs.World.Spares

/-!
# What actions leave alone

An action leaves a resource alone unless it needs a claim for writing it, or lets a variable that
names it name something else. What is written where an array stands is the store there, and the
buffer of the array only if its elements are written.
-/

namespace PathStore

variable {α β : Type} {resource : Resource} {session : Session}

/-! ## Tasks -/

namespace Spares

theorem of_runsOn {task : Task β} {program : Op α} {result : α → β} {bindings : α → Variables}
    (runs : RunsOn task program result bindings session)
    (spares : Spares resource session.world program) : Spares resource session task := by
  unfold Spares at spares ⊢
  rw [runs]
  generalize program session.world = outcome at spares
  cases outcome with
  | ok made world => exact spares
  | error failure world => exact spares

theorem ofOp {program : Op α} (spares : Spares resource session.world program) :
    Spares resource session (Task.ofOp program) :=
  of_runsOn (Task.runsOn_ofOp program session) spares

theorem carrying {program : Variables → Op (α × Variables)}
    (spares : Spares resource session.world (program session.bindings)) :
    Spares resource session (Task.carrying program) :=
  of_runsOn (Task.runsOn_carrying program session) spares

theorem lending {name : String} {object : β → Object}
    {program : Variables → Op ((α × Variables) × β)}
    (spares : ∀ bindings, Spares resource session.world (program bindings)) :
    Spares resource session (Task.lending name object program) :=
  of_runsOn (Task.runsOn_lending name object program session) (spares _)

theorem bind_finds {task : Task α} {next : α → Task β} {found : Option α}
    (finds : Finds task session found)
    (rest : ∀ result, found = some result → Spares resource session (next result)) :
    Spares resource session (task >>= next) := by
  obtain ⟨decided, runs, same⟩ := finds.exists_settled
  refine bind_settled runs fun result known => rest result ?_
  rw [← same, known]
  rfl

end Spares

namespace Session

/-- The variable names the owner. -/
def Owns (session : Session) (name : String) (resource : Resource) : Prop :=
  ∃ id, session.bindings.lookup name = some (.host id) ∧ resource = .host id

/-- No owner ends but the one that is named by the variable that is forgotten. -/
theorem spared_forget {name : String} (kept : ¬ session.Owns name resource) :
    session.world.Spared (session.forget name).world resource := by
  unfold forget
  dsimp only
  split
  · rename_i id named
    exact World.spared_endHost fun same => kept ⟨id, named, same⟩
  · exact .refl _ _

end Session

theorem Task.spares_bind {name : String} (kept : ¬ session.Owns name resource) (object : Object) :
    Spares resource session (Task.bind name object) :=
  Session.spared_forget kept

namespace Outcome

theorem spares_value (made : Value) : Spares resource session (value made) :=
  (Spares.ofOp (.of_looks made.looks_snapshot)).bind fun _ _ => .pure _

theorem spares_buffer (made : BufferRef) : Spares resource session (buffer made) :=
  (Spares.ofOp (.of_looks made.looks_length)).bind fun _ _ => .pure _

theorem spares_answer {program : Op α} (spares : Spares resource session.world program)
    (answer : α → Answer) :
    Spares resource session
      (Task.ofOp program >>= fun result => Pure.pure (only (answer result))) :=
  (Spares.ofOp spares).bind fun _ _ => .pure _

theorem spares_valueOf {program : Op Value} (spares : Spares resource session.world program) :
    Spares resource session (Task.ofOp program >>= value) :=
  (Spares.ofOp spares).bind fun made _ => spares_value made

end Outcome

/-! ## Claims for writing -/

/-- None of the claims is for writing the resource. -/
def Unwritten (resource : Resource) (needs : List Claim) : Prop :=
  ∀ target, ⟨target, .writing⟩ ∈ needs → resource ≠ .target target

namespace Unwritten

variable {needs further : List Claim}

theorem apart {target : Target} (unwritten : Unwritten resource [⟨target, .writing⟩]) :
    resource ≠ .target target :=
  unwritten target List.mem_cons_self

theorem left (unwritten : Unwritten resource (needs ++ further)) : Unwritten resource needs :=
  fun target member => unwritten target (List.mem_append_left _ member)

theorem right (unwritten : Unwritten resource (needs ++ further)) : Unwritten resource further :=
  fun target member => unwritten target (List.mem_append_right _ member)

theorem of_found {found : Option α} {claims : α → List Claim} {item : α}
    (unwritten : Unwritten resource (claimsOf found claims)) (same : found = some item) :
    Unwritten resource (claims item) := by
  rwa [same] at unwritten

end Unwritten

/-- A block of which no buffer is written. -/
theorem Block.clear_of_unwritten {block : Block}
    (unwritten : Unwritten resource (block.claims .writing)) : block.Clear resource := by
  intro buffer borrows
  rw [claims, borrows] at unwritten
  exact unwritten.apart

/-! ## Arrays where they stand -/

namespace Place

variable {place : Place}

/-- The array that stands at a place is used there. -/
theorem spares_reading {form : Form} {use : Variables → Value → Op (α × Variables)}
    (each : ∀ value, place.value? session form = some value →
      ∀ bindings world, Spares resource world (use bindings value)) :
    Spares resource session (place.reading form use) := by
  cases place.reads_reading use with
  | missing stops => exact .failed stops
  | held stands runs => exact .of_runsOn runs (each _ stands _ _)
  | stored stands runs => exact .of_runsOn runs (.readingStore (each _ stands _ _))

theorem spares_writing {form : Form} {use : Variables → Value → Op ((α × Variables) × Value)}
    (unwritten : Unwritten resource (place.claims session .writing))
    (each : ∀ value, place.value? session form = some value →
      ∀ bindings world, Spares resource world (use bindings value)) :
    Spares resource session (place.writing form use) := by
  cases place.writes_writing use with
  | missing stops => exact .failed stops
  | held stands runs => exact .of_runsOn runs (each _ stands _ _)
  | stored stands claimed runs =>
      refine .of_runsOn runs (.writingStore (unwritten _ claimed) ?_)
      exact .bind (each _ stands session.bindings _) fun _ _ => .pure _

theorem spares_readingView {use : View → Op α}
    (each : ∀ view, place.value? session .view = some (.view view) →
      ∀ world, Spares resource world (use view)) :
    Spares resource session (place.readingView use) := by
  refine place.spares_reading fun value stands bindings world => .bind_deciding fun view same => ?_
  cases value with
  | view array =>
      cases same
      exact (each view stands world).bind fun _ _ => .pure _
  | scalar datum => cases same
  | block array => cases same

theorem spares_writingView {use : View → Op (α × View)}
    (unwritten : Unwritten resource (place.claims session .writing))
    (each : ∀ view world, Spares resource world (use view)) :
    Spares resource session (place.writingView use) :=
  place.spares_writing unwritten fun _ _ _ world => .bind_deciding fun view _ =>
    (each view world).bind fun _ _ => .pure _

theorem spares_readingBlock {use : Block → Op α}
    (each : ∀ block world, Spares resource world (use block)) :
    Spares resource session (place.readingBlock use) :=
  place.spares_reading fun _ _ _ world => .bind_deciding fun block _ =>
    (each block world).bind fun _ _ => .pure _

theorem spares_writingBlock {use : Block → Op (α × Block)}
    (unwritten : Unwritten resource (place.claims session .writing))
    (each : ∀ block, place.value? session .block = some (.block block) →
      ∀ world, Spares resource world (use block)) :
    Spares resource session (place.writingBlock use) := by
  refine place.spares_writing unwritten fun value stands bindings world =>
    .bind_deciding fun block same => ?_
  cases value with
  | block array =>
      cases same
      exact (each block stands world).bind fun _ _ => .pure _
  | scalar datum => cases same
  | view array => cases same

end Place

/-! ## Actions -/

/-- The variables that an action lets name something else. -/
def Action.rebinds : Action → List String
  | .object (.set name _) | .object (.setCell name _) | .object (.forget name) => [name]
  | .map (.assign name _) => [name]
  | .cursor name .next | .cursor name .nextBack => [name]
  | _ => []

theorem Object.spares_same (left right : Object) : Spares resource session (left.same right) := by
  unfold same
  split
  · exact .ofOp (.of_looks (Value.looks_same _ _))
  · exact .ofOp (.of_looks (Cell.looks_same _ _))
  · exact .pure _
  · exact .throw _

theorem ObjectAction.spares_run {action : ObjectAction}
    (kept : ∀ name ∈ (Action.object action).rebinds, ¬ session.Owns name resource)
    (made : ∀ text, action = .newHost text → resource ≠ .host ⟨session.world.hosts.next⟩) :
    Spares resource session action.run := by
  cases action with
  | newValue spec =>
      exact .bind_finds (spec.finds_build session) fun made _ => Outcome.spares_value made
  | showValue name =>
      exact .bind_finds (Task.finds_value name session) fun value _ =>
        Outcome.spares_answer (.of_looks value.looks_snapshot) _
  | typeName name => exact .bind_finds (Task.finds_value name session) fun _ _ => .pure _
  | hasType name type => exact .bind_finds (Task.finds_value name session) fun _ _ => .pure _
  | get name type =>
      exact .bind_finds (Task.finds_value name session) fun value _ =>
        .bind_settled (Task.ofExcept_apply _ _) fun made _ => Outcome.spares_value made
  | set name spec =>
      refine .bind_finds (Task.finds_value name session).discard fun _ _ => ?_
      refine .bind_finds (spec.finds_build session) fun value _ => ?_
      refine (Task.spares_bind (kept name (.head _)) _).bind fun _ _ => ?_
      exact (Spares.ofOp (.of_looks value.looks_snapshot)).bind fun _ _ => .pure _
  | newCell spec =>
      refine .bind_finds (.found rfl) fun bindings _ => ?_
      refine .bind_settled (Task.ofExcept_apply _ _) fun cell _ => ?_
      exact (Spares.ofOp (.of_looks (Cell.looks_snapshot cell))).bind fun _ _ => .pure _
  | showCell name =>
      exact .bind_finds (Task.finds_cell name session) fun cell _ =>
        Outcome.spares_answer (.of_looks (Cell.looks_snapshot cell)) _
  | setCell name spec =>
      refine .bind_finds (Task.finds_cell name session).discard fun _ _ => ?_
      refine .bind_finds (spec.finds_build session) fun value _ => ?_
      refine (Task.spares_bind (kept name (.head _)) _).bind fun _ _ => ?_
      exact (Spares.ofOp (.of_looks (Cell.looks_snapshot (some value)))).bind fun _ _ => .pure _
  | getCell name type =>
      exact .bind_finds (Task.finds_cell name session) fun cell _ =>
        .bind_settled (Task.ofExcept_apply _ _) fun made _ => Outcome.spares_value made
  | takeCell name =>
      refine .bind_finds (Task.finds_cell name session) fun cell _ => ?_
      cases cell with
      | some value => exact Outcome.spares_value value
      | none => exact .pure _
  | newHost text =>
      exact (Spares.ofOp (HostId.spares_create (made text rfl) text)).bind fun _ _ => .pure _
  | forget name =>
      exact Spares.bind (Session.spared_forget (kept name (.head _))) fun _ _ => .pure _
  | same left right =>
      refine .bind_finds (Task.finds_named left _ _ session) fun left _ => ?_
      refine .bind_finds (Task.finds_named right _ _ session) fun right _ => ?_
      exact (left.spares_same right).bind fun _ _ => .pure _
  | inspect name =>
      exact .bind_finds (Task.finds_named name _ _ session) fun _ _ =>
        .bind_finds (.found rfl) fun _ _ => .pure _

theorem BufferAction.spares_run {action : BufferAction}
    (unwritten : Unwritten resource (action.needs session)) :
    Spares resource session action.run := by
  cases action with
  | create elem data =>
      exact (Spares.ofOp (BufferRef.spares_create elem data)).bind fun made _ =>
        Outcome.spares_buffer made
  | copy name =>
      exact .bind_finds (Task.finds_buffer name session) fun made _ => Outcome.spares_buffer made
  | length name =>
      exact .bind_finds (Task.finds_buffer name session) fun buffer _ =>
        Outcome.spares_answer (.of_looks buffer.looks_length) _
  | get name position =>
      exact .bind_finds (Task.finds_buffer name session) fun buffer _ =>
        Outcome.spares_answer (.of_asks (.bufferGet buffer position)) _
  | set name position element =>
      refine .bind_finds (Task.finds_buffer name session) fun buffer found => ?_
      refine .bind_settled (Task.ofExcept_apply _ _) fun element _ => ?_
      have apart := (unwritten.of_found found).apart
      exact (Spares.ofOp (BufferRef.spares_set apart position element)).bind fun _ _ => .pure _
  | toList name =>
      exact .bind_finds (Task.finds_buffer name session) fun buffer _ =>
        Outcome.spares_answer (.of_asks (.bufferToList buffer)) _
  | same left right =>
      exact .bind_finds (Task.finds_buffer left session) fun _ _ =>
        .bind_finds (Task.finds_buffer right session) fun _ _ => .pure _

theorem ArrayAction.spares_run (action : ArrayAction) : Spares resource session action.run := by
  cases action with
  | view buffer offset shape strides =>
      refine .bind_finds (Task.finds_buffer buffer session) fun buffer _ => ?_
      exact (Spares.ofOp (View.spares_make buffer offset shape strides)).bind fun made _ =>
        Outcome.spares_value (.view made)
  | wholeView buffer =>
      refine .bind_finds (Task.finds_buffer buffer session) fun buffer _ => ?_
      exact (Spares.ofOp (.of_looks (View.looks_ofBuffer buffer))).bind fun made _ =>
        Outcome.spares_value (.view made)
  | bufferBlock buffer shape strides memory =>
      refine .bind_finds (Task.finds_buffer buffer session) fun buffer _ => ?_
      cases strides with
      | some strides =>
          exact (Spares.ofOp (Block.spares_ofBuffer buffer shape strides memory)).bind
            fun made _ => Outcome.spares_value (.block made)
      | none =>
          exact (Spares.ofOp (Block.spares_ofBufferShape buffer shape memory)).bind
            fun made _ => Outcome.spares_value (.block made)
  | listBlock elem data => exact Outcome.spares_value _
  | shapedBlock elem data shape strides =>
      cases strides with
      | some strides =>
          exact .bind_settled (Task.ofExcept_apply _ _) fun made _ =>
            Outcome.spares_value (.block made)
      | none =>
          exact .bind_settled (Task.ofExcept_apply _ _) fun made _ =>
            Outcome.spares_value (.block made)

theorem ViewAction.spares_run {place : Place} {action : ViewAction}
    (unwritten : Unwritten resource (action.needs session place)) :
    Spares resource session (action.run place) := by
  cases action with
  | describe =>
      exact place.spares_readingView fun view _ _ =>
        (Spares.of_looks view.looks_info).bind fun _ _ => .pure _
  | get index =>
      exact place.spares_readingView fun view _ _ =>
        (Spares.of_asks (.viewGet view index)).bind fun _ _ => .pure _
  | set index element =>
      refine place.spares_readingView fun view stands _ => .bind_deciding fun element _ => ?_
      refine (View.spares_set (fun position found => ?_) element).bind fun _ _ => .pure _
      have claimed := unwritten.right.of_found stands
      exact (claimed.of_found rfl).of_found (congrArg Except.toOption found) |>.apart
  | getLinear position =>
      exact place.spares_readingView fun view _ _ =>
        (Spares.of_asks (.viewGetLinear view position)).bind fun _ _ => .pure _
  | setLinear position element =>
      refine place.spares_readingView fun view stands _ => .bind_deciding fun element _ => ?_
      refine (View.spares_setLinear (fun position found => ?_) element).bind fun _ _ => .pure _
      have claimed := unwritten.right.of_found stands
      exact (claimed.of_found rfl).of_found (congrArg Except.toOption found) |>.apart
  | toList =>
      exact place.spares_readingView fun view _ _ =>
        (Spares.of_asks (.viewToList view)).bind fun _ _ => .pure _
  | slice selectors =>
      refine (place.spares_readingView fun view _ _ => ?_).bind fun _ _ => Outcome.spares_value _
      exact .bind_deciding fun selectors _ => .ofExcept _
  | buffer =>
      exact (place.spares_readingView fun _ _ _ => .pure _).bind fun made _ =>
        Outcome.spares_buffer made
  | owner =>
      exact place.spares_readingView fun view _ _ =>
        (Spares.of_looks view.looks_showOwner).bind fun _ _ => .pure _
  | resetOwner name kind =>
      refine place.spares_writing unwritten fun value _ bindings _ => ?_
      exact .bind_deciding fun _ _ => .bind_deciding fun _ _ => .pure _
  | clearOwner => exact place.spares_writingView unwritten fun _ _ => .pure _

theorem BlockAction.spares_run {place : Place} {action : BlockAction}
    (unwritten : Unwritten resource (action.needs session place)) :
    Spares resource session (action.run place) := by
  cases action with
  | describe => exact place.spares_readingBlock fun _ _ => .pure _
  | get position =>
      exact place.spares_readingBlock fun block _ =>
        (block.spares_get position).bind fun _ _ => .pure _
  | set position element =>
      refine place.spares_writingBlock unwritten.left fun block stands _ =>
        .bind_deciding fun element _ => ?_
      refine (Block.spares_set (fun below => ?_) element).bind fun _ _ => .pure _
      have claimed := (unwritten.right.of_found stands).of_found rfl
      exact Block.clear_of_unwritten (by rwa [Block.claimsAt, if_pos below] at claimed)
  | toList =>
      exact place.spares_readingBlock fun block _ =>
        (Spares.of_looks block.looks_toList).bind fun _ _ => .pure _
  | release =>
      refine (place.spares_writingBlock unwritten fun _ _ _ => .pure _).bind fun released _ => ?_
      exact .bind_settled (Task.ofExcept_apply released _) fun _ _ => .pure _
  | take =>
      exact (place.spares_writingBlock unwritten fun _ _ _ => .pure _).bind fun _ _ =>
        Outcome.spares_value _
  | view =>
      exact (place.spares_readingBlock fun _ _ => Block.spares_view).bind fun _ _ =>
        Outcome.spares_value _
  | copyAs memory =>
      exact (place.spares_readingBlock fun block _ => block.spares_copyAs memory).bind fun _ _ =>
        Outcome.spares_value _

/-! ### Maps, cursors and entries -/

namespace Handle

variable {handle : Handle}

/-- Without values nothing is written. -/
theorem spares_updateMany_of_unwritten {values : List (String × Value)}
    (unwritten : Unwritten resource (handle.writeClaims values)) {world : World} :
    Spares resource world (handle.updateMany values) := by
  cases values with
  | nil => exact .pure _
  | cons item rest => exact spares_updateMany unwritten.apart _

theorem spares_insertDefaultMany_of_unwritten {values : List (String × Value)}
    (unwritten : Unwritten resource (handle.writeClaims values)) {world : World} :
    Spares resource world (handle.insertDefaultMany values) := by
  cases values with
  | nil => exact .pure _
  | cons item rest => exact spares_insertDefaultMany unwritten.apart _

/-- Only what lies in the store of a handle is erased through it. -/
theorem apart_of_unwritten {store : StoreId} {claims : List Claim}
    (unwritten : Unwritten resource (handle.eraseClaims store claims))
    (member : ⟨.store handle.store, .writing⟩ ∈ claims) (same : handle.store = store) :
    resource ≠ .target (.store handle.store) := by
  rw [eraseClaims, if_pos same] at unwritten
  exact unwritten _ member

end Handle

theorem MapAction.spares_run {action : MapAction}
    (unwritten : Unwritten resource (action.needs session))
    (kept : ∀ name ∈ (Action.map action).rebinds, ¬ session.Owns name resource) :
    Spares resource session action.run := by
  cases action with
  | create =>
      exact (Spares.ofOp ((StoreId.spares_create .empty).bind fun _ _ => .pure _)).bind
        fun _ _ => .pure _
  | ofEntries entries =>
      obtain ⟨found, finds, lengths⟩ := ValueSpec.finds_buildEntries entries session
      refine .bind_finds finds fun values made => .bind_ok rfl (World.spared_pushStore _) ?_
      rw [needs, ← Handle.writeClaims_congr _ (lengths values made)] at unwritten
      exact (Spares.ofOp (Handle.spares_updateMany_of_unwritten unwritten)).bind fun _ _ => .pure _
  | location map => exact .bind_finds (Task.finds_handle map session) fun _ _ => .pure _
  | isRoot map => exact .bind_finds (Task.finds_handle map session) fun _ _ => .pure _
  | shares map other =>
      exact .bind_finds (Task.finds_handle map session) fun _ _ =>
        .bind_finds (Task.finds_handle other session) fun _ _ => .pure _
  | path map key => exact .bind_finds (Task.finds_handle map session) fun _ _ => .pure _
  | update map key value =>
      refine .bind_finds (Task.finds_handle map session) fun handle found => ?_
      refine .bind_finds (value.finds_build session) fun value _ => ?_
      have apart := (unwritten.of_found found).apart
      exact (Spares.ofOp (Handle.spares_update apart key value)).bind fun _ _ => .pure _
  | updateMany map entries =>
      refine .bind_finds (Task.finds_handle map session) fun handle found => ?_
      obtain ⟨made, finds, lengths⟩ := ValueSpec.finds_buildEntries entries session
      refine .bind_finds finds fun values same => ?_
      have claimed := unwritten.of_found found
      rw [← handle.writeClaims_congr (lengths values same)] at claimed
      exact (Spares.ofOp (Handle.spares_updateMany_of_unwritten claimed)).bind fun _ _ => .pure _
  | insertDefault map key value =>
      refine .bind_finds (Task.finds_handle map session) fun handle found => ?_
      refine .bind_finds (value.finds_build session) fun value _ => ?_
      have apart := (unwritten.of_found found).apart
      exact Outcome.spares_answer (Handle.spares_insertDefault apart key value) _
  | insertDefaultMany map entries =>
      obtain ⟨made, finds, lengths⟩ := ValueSpec.finds_buildEntries entries session
      refine .bind_finds finds fun values same => ?_
      refine .bind_finds (Task.finds_handle map session) fun handle found => ?_
      have claimed := unwritten.of_found found
      rw [← handle.writeClaims_congr (lengths values same)] at claimed
      exact Outcome.spares_answer (Handle.spares_insertDefaultMany_of_unwritten claimed) _
  | get map key type =>
      exact .bind_finds (Task.finds_handle map session) fun handle _ =>
        Outcome.spares_valueOf (.of_asks (.get handle key type))
  | getOr map key type default =>
      refine .bind_finds (default.finds_build session) fun default _ => ?_
      exact .bind_finds (Task.finds_handle map session) fun handle _ =>
        Outcome.spares_valueOf (.of_asks (.getOr handle key type default))
  | getAny map key =>
      exact .bind_finds (Task.finds_handle map session) fun handle found =>
        Outcome.spares_valueOf (Handle.spares_getAny (unwritten.of_found found).apart key)
  | typeName map key =>
      exact .bind_finds (Task.finds_handle map session) fun handle _ =>
        Outcome.spares_answer (.of_asks (.typeName handle key)) _
  | isStored map key =>
      exact .bind_finds (Task.finds_handle map session) fun handle _ =>
        Outcome.spares_answer (.of_asks (.isStored handle key)) _
  | size map =>
      exact .bind_finds (Task.finds_handle map session) fun handle _ =>
        Outcome.spares_answer (.of_asks (.size handle)) _
  | isEmpty map =>
      exact .bind_finds (Task.finds_handle map session) fun handle _ =>
        Outcome.spares_answer (.of_asks (.isEmpty handle)) _
  | keys map =>
      exact .bind_finds (Task.finds_handle map session) fun handle _ =>
        Outcome.spares_answer (.of_asks (.keys handle)) _
  | erase map key =>
      exact .bind_finds (Task.finds_handle map session) fun handle found =>
        Outcome.spares_answer (Handle.spares_eraseKey (unwritten.of_found found).apart _) _
  | eraseEntry map name =>
      refine .bind_finds (Task.finds_handle map session) fun handle found => ?_
      refine .bind_finds (Task.finds_entry name session) fun entry named => ?_
      have claimed := (unwritten.of_found found).of_found named
      exact Outcome.spares_answer
        (Handle.spares_eraseEntry (Handle.apart_of_unwritten claimed (.head _))) _
  | eraseRange map name =>
      refine .bind_finds (Task.finds_handle map session) fun handle found => ?_
      refine .bind_finds (Task.finds_cursor name session) fun cursor named => ?_
      have claimed := (unwritten.of_found found).of_found named
      exact Outcome.spares_answer
        (Handle.spares_eraseRange (Handle.apart_of_unwritten claimed (.tail _ (.head _)))) _
  | eraseRecursive map written =>
      exact .bind_finds (Task.finds_handle map session) fun handle found =>
        Outcome.spares_answer (Handle.spares_eraseSubtree (unwritten.of_found found).apart _) _
  | clear map =>
      exact .bind_finds (Task.finds_handle map session) fun handle found =>
        Outcome.spares_answer (Handle.spares_eraseSubtree (unwritten.of_found found).apart _) _
  | submap map written =>
      exact .bind_finds (Task.finds_handle map session) fun _ _ => .pure _
  | copy map =>
      exact .bind_finds (Task.finds_handle map session) fun handle _ =>
        (Spares.ofOp (handle.spares_copy .locked)).bind fun _ _ => .pure _
  | tryCopy map =>
      exact .bind_finds (Task.finds_handle map session) fun handle _ =>
        (Spares.ofOp (handle.spares_copy .busy)).bind fun _ _ => .pure _
  | assign map other =>
      refine .bind_finds (Task.finds_handle map session).discard fun _ _ => ?_
      refine .bind_finds (Task.finds_handle other session) fun other _ => ?_
      exact (Task.spares_bind (kept map (.head _)) _).bind fun _ _ => .pure _
  | graft map key other =>
      refine .bind_finds (Task.finds_handle map session) fun handle found => ?_
      refine .bind_finds (Task.finds_handle other session) fun other _ => ?_
      have apart := (unwritten.right.of_found found).apart
      exact (Spares.ofOp (Handle.spares_graft apart key other)).bind fun _ _ => .pure _
  | merge map other =>
      refine .bind_finds (Task.finds_handle map session) fun handle found => ?_
      refine .bind_finds (Task.finds_handle other session) fun other _ => ?_
      have apart := (unwritten.right.of_found found).apart
      exact (Spares.ofOp (Handle.spares_graft apart "" other)).bind fun _ _ => .pure _
  | cursor map => exact .bind_finds (Task.finds_handle map session) fun _ _ => .pure _
  | cursorAt map written =>
      exact .bind_finds (Task.finds_handle map session) fun _ _ => .pure _
  | listing map =>
      exact .bind_finds (Task.finds_handle map session) fun handle _ =>
        Outcome.spares_answer handle.spares_snapshot _

theorem CursorAction.spares_stepped {name : String} (kept : ¬ session.Owns name resource)
    (taken : Option EntryRef × Cursor) : Spares resource session (stepped name taken) := by
  refine (Task.spares_bind kept _).bind fun _ _ => ?_
  split
  · exact .pure _
  · exact .pure _

/-- What is decided by the world leaves the session as it was. -/
theorem Task.ofOp_settled {program : Op α} {decided : Except Failure α}
    (runs : program session.world = settled decided session.world) :
    Task.ofOp program session = settled decided session := by
  rw [ofOp, runs]
  cases decided <;> rfl

theorem CursorAction.spares_run {name : String} {action : CursorAction}
    (kept : ∀ other ∈ (Action.cursor name action).rebinds, ¬ session.Owns other resource) :
    Spares resource session (action.run name) := by
  cases action with
  | next =>
      refine .bind_finds (Task.finds_cursor name session) fun cursor _ => ?_
      obtain ⟨decided, runs⟩ := (cursor.reads_step .front).exists_settled session.world
      exact .bind_settled (Task.ofOp_settled runs) fun taken _ =>
        spares_stepped (kept name (.head _)) taken
  | nextBack =>
      refine .bind_finds (Task.finds_cursor name session) fun cursor _ => ?_
      obtain ⟨decided, runs⟩ := (cursor.reads_step .back).exists_settled session.world
      exact .bind_settled (Task.ofOp_settled runs) fun taken _ =>
        spares_stepped (kept name (.head _)) taken
  | collect =>
      exact .bind_finds (Task.finds_cursor name session) fun cursor _ =>
        Outcome.spares_answer (.of_asks (.collect cursor)) _
  | collectBack =>
      exact .bind_finds (Task.finds_cursor name session) fun cursor _ =>
        Outcome.spares_answer (.of_asks (.collectBack cursor)) _
  | copy => exact .bind_finds (Task.finds_cursor name session) fun _ _ => .pure _

theorem EntryAction.spares_run {name : String} {action : EntryAction}
    (unwritten : Unwritten resource (action.needs session name)) :
    Spares resource session (action.run name) := by
  cases action with
  | keys => exact .bind_finds (Task.finds_entry name session) fun _ _ => .pure _
  | typeName =>
      exact .bind_finds (Task.finds_entry name session) fun entry _ =>
        Outcome.spares_answer (.of_asks (.entryTypeName entry)) _
  | value type =>
      exact .bind_finds (Task.finds_entry name session) fun entry _ =>
        Outcome.spares_valueOf (.of_asks (.entryValue entry type))
  | anyValue =>
      exact .bind_finds (Task.finds_entry name session) fun entry _ =>
        Outcome.spares_valueOf (.of_asks (.entryAnyValue entry))
  | set spec =>
      refine .bind_finds (Task.finds_entry name session) fun entry found => ?_
      refine .bind_finds (spec.finds_build session) fun value _ => ?_
      have apart := (unwritten.of_found found).apart
      exact (Spares.ofOp (EntryRef.spares_set apart value)).bind fun _ _ => .pure _

end PathStore
