import PathStore.Proofs.World.Canonical

/-!
# Operations keep worlds canonical

Each operation on buffers, views, blocks, handles, entries and cursors keeps the keys of all stores
canonical and gives up what it claims.
-/

namespace PathStore

open Op Invariant PathStore.Path

theorem HostId.steady_create (text : String) : Steady (HostId.create text) := by
  apply Keeps.get.bind
  intro world _
  exact Keeps.bind (Keeps.modify (fun _ known => known) fun _ => rfl) fun _ _ => Keeps.pure trivial

/-- What is decided already asks nothing of the world. -/
theorem Op.steady_ofExcept {α : Type} (decided : Except Failure α) : Steady (Op.ofExcept decided) :=
  Keeps.ofExcept fun _ _ => trivial

/-! ## Buffers -/

namespace BufferRef

variable (buffer : BufferRef)

theorem steady_create (elem : ElemType) (data : List Scalar) : Steady (create elem data) := by
  apply Keeps.get.bind
  intro world _
  exact Keeps.bind (Keeps.modify (fun _ known => known) fun _ => rfl) fun _ _ => Keeps.pure trivial

theorem steady_length : Steady buffer.length :=
  Keeps.get.bind fun _ _ => Keeps.pure trivial

theorem steady_get (position : Nat) : Steady (buffer.get position) := by
  apply Keeps.readingBuffer
  intro elements
  split
  · exact Keeps.pure trivial
  · exact Keeps.throw _

theorem steady_set (position : Nat) (element : Scalar) : Steady (buffer.set position element) := by
  apply Keeps.writingBuffer
  intro elements
  split
  · exact Keeps.pure trivial
  · exact Keeps.throw _

theorem steady_toList : Steady buffer.toList :=
  Keeps.readingBuffer _ fun _ => Keeps.pure trivial

end BufferRef

/-! ## Views -/

namespace View

variable (view : View)

theorem steady_make (buffer : BufferRef) (offset : Nat) (shape : List Nat) (strides : List Int) :
    Steady (make buffer offset shape strides) :=
  buffer.steady_length.bind fun _ _ =>
    (steady_ofExcept _).bind fun _ _ => Keeps.pure trivial

theorem steady_ofBuffer (buffer : BufferRef) : Steady (ofBuffer buffer) :=
  buffer.steady_length.bind fun _ _ => Keeps.pure trivial

theorem steady_get (index : List Nat) : Steady (view.get index) :=
  (steady_ofExcept _).bind fun position _ => view.buffer.steady_get position

theorem steady_set (index : List Nat) (element : Scalar) : Steady (view.set index element) :=
  (steady_ofExcept _).bind fun position _ => view.buffer.steady_set position element

theorem steady_getLinear (place : Nat) : Steady (view.getLinear place) :=
  (steady_ofExcept _).bind fun position _ => view.buffer.steady_get position

theorem steady_setLinear (place : Nat) (element : Scalar) :
    Steady (view.setLinear place element) :=
  (steady_ofExcept _).bind fun position _ => view.buffer.steady_set position element

theorem steady_toList : Steady view.toList :=
  Keeps.readingBuffer _ fun _ => steady_ofExcept _

theorem steady_snapshot : Steady view.snapshot :=
  view.steady_toList.attempt.bind fun _ _ => Keeps.pure trivial

theorem steady_same (left right : View) : Steady (left.same right) := by
  unfold same
  split
  · exact Keeps.pure trivial
  · split
    · exact Keeps.pure trivial
    · refine Keeps.bind (Steady.attempt ?_) fun _ _ => Keeps.pure trivial
      exact Keeps.readingBuffer _ fun _ => Keeps.readingBuffer _ fun _ => steady_ofExcept _

end View

/-! ## Blocks -/

namespace Block

variable (block : Block)

theorem steady_ofBuffer (buffer : BufferRef) (shape : List Nat) (strides : List Int)
    (memory : Memory) : Steady (ofBuffer buffer shape strides memory) := by
  unfold ofBuffer
  apply (steady_ofExcept _).bind
  intro size _
  apply buffer.steady_length.bind
  intro length _
  dsimp only
  split
  · exact Keeps.throw_bind _ _
  · apply Keeps.bind (Keeps.map (steady_ofExcept _) _)
    intro _ _
    cases memory with
    | owned =>
        have taken : Steady (buffer.id.reading .busy fun elements =>
            pure (Storage.owned (elements.take size))) :=
          Keeps.readingBuffer _ fun _ => Keeps.pure trivial
        exact taken.bind fun _ _ => Keeps.pure trivial
    | borrowed => exact Keeps.pure trivial

theorem steady_ofBufferShape (buffer : BufferRef) (shape : List Nat) (memory : Memory) :
    Steady (ofBufferShape buffer shape memory) :=
  (steady_ofExcept _).bind fun strides _ => steady_ofBuffer buffer shape strides memory

theorem keeps_withData {α : Type} {use : List Scalar → Op α} {ensures : α → Prop}
    (keeps : ∀ elements, Keeps (use elements) ensures) : Keeps (block.withData use) ensures := by
  unfold withData
  split
  · exact keeps _
  · exact Keeps.readingBuffer _ fun _ => keeps _
  · exact Keeps.throw _

theorem keeps_modifyData {α : Type} {use : List Scalar → Op (α × List Scalar)}
    {ensures : α → Prop}
    (keeps : ∀ elements, Keeps (use elements) fun written => ensures written.1) :
    Keeps (block.modifyData use) fun result => ensures result.1 := by
  unfold modifyData
  split
  · apply Keeps.bind (keeps _)
    intro written ensured
    exact Keeps.pure ensured
  · rename_i buffer _
    have writes : Keeps (buffer.id.writing fun elements =>
        use (elements.take block.size) >>= fun written =>
          pure (written.1, overlay (written.2.take block.size) elements)) ensures := by
      apply Keeps.writingBuffer
      intro elements
      apply Keeps.bind (keeps _)
      intro written ensured
      exact Keeps.pure ensured
    apply Keeps.bind writes
    intro result ensured
    exact Keeps.pure ensured
  · exact Keeps.throw _

theorem steady_modifyData {α : Type} {use : List Scalar → Op (α × List Scalar)}
    (steady : ∀ elements, Steady (use elements)) : Steady (block.modifyData use) :=
  @keeps_modifyData block α use (fun _ => True) steady

theorem steady_get (position : Nat) : Steady (block.get position) := by
  unfold get
  split
  · exact Keeps.throw_bind _ _
  · apply keeps_withData
    intro elements
    split
    · exact Keeps.pure trivial
    · exact Keeps.throw _

theorem steady_set (position : Nat) (element : Scalar) : Steady (block.set position element) := by
  unfold set
  split
  · exact Keeps.throw_bind _ _
  · refine Keeps.bind (block.steady_modifyData ?_) fun _ _ => Keeps.pure trivial
    intro elements
    split
    · exact Keeps.pure trivial
    · exact Keeps.throw _

theorem steady_toList : Steady block.toList :=
  block.keeps_withData fun _ => Keeps.pure trivial

theorem steady_view : Steady block.view := by
  unfold view
  split
  · exact View.steady_make _ _ _ _
  · exact Keeps.throw _

theorem steady_copyAs (memory : Memory) : Steady (block.copyAs memory) := by
  unfold copyAs
  split
  · exact Keeps.throw _
  · exact Keeps.pure trivial
  · exact Keeps.throw _
  · exact block.steady_toList.bind fun _ _ => Keeps.pure trivial

theorem steady_snapshot : Steady block.snapshot :=
  block.steady_toList.attempt.bind fun _ _ => Keeps.pure trivial

theorem steady_same (left right : Block) : Steady (left.same right) := by
  unfold same
  split
  · exact Keeps.pure trivial
  · refine Keeps.bind (Steady.attempt ?_) fun _ _ => Keeps.pure trivial
    exact left.keeps_withData fun _ => right.keeps_withData fun _ => Keeps.pure trivial

end Block

/-! ## Values and cells -/

theorem Value.steady_snapshot (value : Value) : Steady value.snapshot := by
  cases value with
  | scalar datum => exact Keeps.pure trivial
  | view array => exact array.steady_snapshot.map _
  | block array => exact array.steady_snapshot.map _

theorem Cell.steady_snapshot (cell : Cell) : Steady (Cell.snapshot cell) := by
  cases cell with
  | none => exact Keeps.pure trivial
  | some value => exact value.steady_snapshot.map _

theorem Value.steady_same (left right : Value) : Steady (left.same right) := by
  unfold same
  split
  · exact Keeps.pure trivial
  · split
    · exact Keeps.pure trivial
    · exact View.steady_same _ _
    · exact Block.steady_same _ _
    · exact Keeps.pure trivial

theorem Cell.steady_same (left right : Cell) : Steady (Cell.same left right) := by
  unfold same
  split
  · exact Value.steady_same _ _
  · exact Keeps.pure trivial
  · exact Keeps.pure trivial

/-! ## Handles -/

namespace Handle

variable {handle : Handle}

theorem isCanonical_resolve (canonical : handle.location.Canonical) (key : String) :
    IsCanonical (handle.resolve key) :=
  Location.isCanonical_resolve canonical.key key

theorem canonical_submap (canonical : handle.location.Canonical) (path : String) :
    (handle.submap path).location.Canonical :=
  Location.canonical_ofKey (Location.isCanonical_resolve canonical.key path)

theorem keeps_create {entries : Entries Cell} (canonical : entries.Canonical) :
    Keeps (create entries) fun handle => handle.location.Canonical :=
  (Keeps.createStore canonical).bind fun _ _ => Keeps.pure Location.canonical_root

theorem steady_update (canonical : handle.location.Canonical) (key : String) (value : Value) :
    Steady (handle.update key value) :=
  Keeps.writingStore fun _ known =>
    Keeps.pure ⟨trivial, known.insert (isCanonical_resolve canonical key) _⟩

theorem steady_updateMany (canonical : handle.location.Canonical) (list : List (String × Value)) :
    Steady (handle.updateMany list) := by
  induction list with
  | nil => exact Keeps.pure trivial
  | cons head rest ih => exact (steady_update canonical head.1 head.2).bind fun _ _ => ih

theorem steady_insertDefault (canonical : handle.location.Canonical) (key : String)
    (value : Value) : Steady (handle.insertDefault key value) := by
  apply Keeps.writingStore
  intro entries known
  dsimp only
  split
  · exact Keeps.pure ⟨trivial, known⟩
  · exact Keeps.pure ⟨trivial, known.insert (isCanonical_resolve canonical key) _⟩

theorem steady_insertDefaultMany (canonical : handle.location.Canonical)
    (list : List (String × Value)) : Steady (handle.insertDefaultMany list) := by
  induction list with
  | nil => exact Keeps.pure trivial
  | cons head rest ih =>
      exact (steady_insertDefault canonical head.1 head.2).bind fun _ _ =>
        ih.bind fun _ _ => Keeps.pure trivial

theorem keeps_withValue {α : Type} {use : Value → Op α} {ensures : α → Prop} (key : String)
    (type : ValueType) (keeps : ∀ value, Keeps (use value) ensures) :
    Keeps (handle.withValue key type use) ensures :=
  Keeps.readingStore _ fun _ _ =>
    (steady_ofExcept _).bind fun _ _ => (steady_ofExcept _).bind fun value _ => keeps value

theorem keeps_withValueOr {α : Type} {use : Value → Op α} {ensures : α → Prop} (key : String)
    (type : ValueType) (default : Value) (keeps : ∀ value, Keeps (use value) ensures) :
    Keeps (handle.withValueOr key type default use) ensures := by
  apply Keeps.readingStore
  intro entries _
  split
  · exact (steady_ofExcept _).bind fun value _ => keeps value
  · exact keeps default

theorem keeps_modifyValue {α : Type} {use : Value → Op (α × Value)} {ensures : α → Prop}
    (canonical : handle.location.Canonical) (key : String) (type : ValueType)
    (keeps : ∀ value, Keeps (use value) fun result => ensures result.1) :
    Keeps (handle.modifyValue key type use) ensures := by
  apply Keeps.writingStore
  intro entries known
  apply (steady_ofExcept _).bind
  intro cell _
  apply (steady_ofExcept _).bind
  intro value _
  apply (keeps value).bind
  intro result ensured
  exact Keeps.pure ⟨ensured, known.insert (isCanonical_resolve canonical key) _⟩

theorem keeps_modifyCell {α : Type} {use : Cell → Op (α × Cell)} {ensures : α → Prop}
    (canonical : handle.location.Canonical) (key : String)
    (keeps : ∀ cell, Keeps (use cell) fun result => ensures result.1) :
    Keeps (handle.modifyCell key use) ensures := by
  apply Keeps.writingStore
  intro entries known
  apply (steady_ofExcept _).bind
  intro cell _
  apply (keeps cell).bind
  intro result ensured
  exact Keeps.pure ⟨ensured, known.insert (isCanonical_resolve canonical key) _⟩

theorem steady_get (key : String) (type : ValueType) : Steady (handle.get key type) :=
  keeps_withValue key type fun _ => Keeps.pure trivial

theorem steady_getOr (key : String) (type : ValueType) (default : Value) :
    Steady (handle.getOr key type default) :=
  keeps_withValueOr key type default fun _ => Keeps.pure trivial

theorem steady_getAny (canonical : handle.location.Canonical) (key : String) :
    Steady (handle.getAny key) := by
  have modified : Steady (handle.modifyCell key fun cell => pure (cell, cell)) :=
    keeps_modifyCell canonical key fun _ => Keeps.pure trivial
  apply modified.bind
  intro cell _
  split
  · exact Keeps.pure trivial
  · exact Keeps.throw _

theorem steady_typeName (key : String) : Steady (handle.typeName key) :=
  Keeps.readingStore _ fun _ _ => (steady_ofExcept _).bind fun _ _ => Keeps.pure trivial

theorem steady_isStored (key : String) : Steady (handle.isStored key) :=
  Keeps.readingStore _ fun _ _ => Keeps.pure trivial

theorem steady_eraseKey (store : StoreId) (key : String) : Steady (eraseKey store key) :=
  Keeps.writingStore fun _ known => Keeps.pure ⟨trivial, known.erase key⟩

theorem steady_eraseSubtree (store : StoreId) (scope : String) :
    Steady (eraseSubtree store scope) :=
  Keeps.writingStore fun _ known => Keeps.pure ⟨trivial, known.prune scope⟩

theorem steady_size : Steady handle.size :=
  Keeps.readingStore _ fun _ _ => Keeps.pure trivial

theorem steady_isEmpty : Steady handle.isEmpty :=
  Keeps.readingStore _ fun _ _ => Keeps.pure trivial

theorem steady_keys : Steady handle.keys :=
  Keeps.readingStore _ fun _ _ => Keeps.pure trivial

theorem steady_graft (canonical : handle.location.Canonical) (key : String) (other : Handle) :
    Steady (handle.graft key other) := by
  have read : Steady (other.store.reading .busy fun entries =>
      pure (other.relativeEntries entries)) :=
    Keeps.readingStore _ fun _ _ => Keeps.pure trivial
  apply read.bind
  intro incoming _
  apply Keeps.writingStore
  intro entries known
  refine Keeps.pure ⟨trivial, known.insertAll ?_⟩
  intro entry member
  obtain ⟨source, _, rfl⟩ := List.mem_map.mp member
  exact isCanonical_resolve canonical _

theorem canonical_copied {entries : Entries Cell} (canonical : entries.Canonical) :
    (handle.copied entries).Canonical := by
  unfold copied
  split
  · exact canonical
  · apply Entries.canonical_empty.insertAll
    intro entry member
    obtain ⟨source, _, rfl⟩ := List.mem_map.mp member
    exact Location.isCanonical_resolve_root _

theorem keeps_copy (refusal : Failure) :
    Keeps (handle.copy refusal) fun copy => copy.location.Canonical := by
  have read : Keeps (handle.store.reading refusal fun entries => pure (handle.copied entries))
      Entries.Canonical :=
    Keeps.readingStore _ fun _ known => Keeps.pure (canonical_copied known)
  exact read.bind fun _ => keeps_create

theorem steady_eraseEntry (entry : EntryRef) : Steady (handle.eraseEntry entry) := by
  unfold eraseEntry
  split
  · exact steady_eraseKey _ _
  · exact Keeps.throw _

theorem steady_eraseRange (cursor : Cursor) : Steady (handle.eraseRange cursor) := by
  have read : Steady (cursor.store.reading .locked fun entries =>
      pure (cursor.remaining entries)) :=
    Keeps.readingStore _ fun _ _ => Keeps.pure trivial
  unfold eraseRange
  split
  · exact Keeps.throw_bind _ _
  · apply read.bind
    intro keys _
    exact Keeps.writingStore fun _ known => Keeps.pure ⟨trivial, known.eraseAll keys⟩

end Handle

/-! ## Entries and cursors -/

namespace EntryRef

variable {entry : EntryRef}

/-- An entry that is found stands under a canonical key. -/
theorem isCanonical_of_cell {entries : Entries Cell} (canonical : entries.Canonical) {cell : Cell}
    (found : entry.cell entries = .ok cell) : IsCanonical entry.key := by
  unfold EntryRef.cell at found
  split at found
  · rename_i held stored
    exact canonical entry.key held stored
  · cases found

theorem keeps_withCell {α : Type} {use : Cell → Op α} {ensures : α → Prop}
    (keeps : ∀ cell, Keeps (use cell) ensures) : Keeps (entry.withCell use) ensures :=
  Keeps.readingStore _ fun _ _ => (steady_ofExcept _).bind fun cell _ => keeps cell

theorem keeps_withValue {α : Type} {use : Value → Op α} {ensures : α → Prop} (type : ValueType)
    (keeps : ∀ value, Keeps (use value) ensures) : Keeps (entry.withValue type use) ensures :=
  keeps_withCell fun _ => (steady_ofExcept _).bind fun value _ => keeps value

theorem keeps_modifyValue {α : Type} {use : Value → Op (α × Value)} {ensures : α → Prop}
    (type : ValueType) (keeps : ∀ value, Keeps (use value) fun result => ensures result.1) :
    Keeps (entry.modifyValue type use) ensures := by
  apply Keeps.writingStore
  intro entries known
  apply (Keeps.ofExcept fun cell found => isCanonical_of_cell known found).bind
  intro cell canonical
  apply (steady_ofExcept _).bind
  intro value _
  apply (keeps value).bind
  intro result ensured
  exact Keeps.pure ⟨ensured, known.insert canonical _⟩

theorem steady_typeName : Steady entry.typeName :=
  keeps_withCell fun _ => Keeps.pure trivial

theorem steady_value (type : ValueType) : Steady (entry.value type) :=
  keeps_withValue type fun _ => Keeps.pure trivial

theorem steady_anyValue : Steady entry.anyValue := by
  have read : Steady (entry.withCell pure) := keeps_withCell fun _ => Keeps.pure trivial
  apply read.bind
  intro cell _
  split
  · exact Keeps.pure trivial
  · exact Keeps.throw _

theorem steady_set (value : Value) : Steady (entry.set value) := by
  apply Keeps.writingStore
  intro entries known
  cases found : entry.cell entries with
  | error failure => exact Keeps.throw_bind _ _
  | ok cell => exact Keeps.pure ⟨trivial, known.insert (isCanonical_of_cell known found) _⟩

theorem steady_snapshot : Steady entry.snapshot := by
  apply steady_anyValue.attempt.bind
  intro read _
  split
  · exact (Value.steady_snapshot _).bind fun _ _ => Keeps.pure trivial
  · exact Keeps.pure trivial

end EntryRef

namespace Cursor

variable (cursor : Cursor)

theorem steady_stepWith (step : Cursor → Entries Cell → Option (String × Cursor)) :
    Steady (cursor.stepWith step) := by
  apply Keeps.readingStore
  intro entries _
  split
  · exact Keeps.pure trivial
  · exact Keeps.pure trivial

theorem steady_collect : Steady cursor.collect :=
  Keeps.readingStore _ fun _ _ => Keeps.pure trivial

theorem steady_collectBack : Steady cursor.collectBack :=
  Keeps.readingStore _ fun _ _ => Keeps.pure trivial

end Cursor

theorem Handle.steady_snapshot (handle : Handle) : Steady handle.snapshot := by
  have read : Steady (handle.store.reading .locked fun entries =>
      pure (handle.cursor.remaining entries)) :=
    Keeps.readingStore _ fun _ _ => Keeps.pure trivial
  apply read.bind
  intro keys _
  apply Keeps.mapM
  intro key
  exact EntryRef.steady_snapshot.bind fun _ _ => Keeps.pure trivial

end PathStore
