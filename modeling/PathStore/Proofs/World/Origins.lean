import PathStore.Proofs.Array.Views
import PathStore.Proofs.Cursor.Steps
import PathStore.Proofs.World.Existence

/-!
# Operations name what exists

Each operation on buffers, views, blocks, handles, entries and cursors keeps worlds complete, and its
result names nothing but what it makes, what it is given, and what it finds in a store.
-/

namespace PathStore

open Secures

variable {world : World} {α : Type} {names : α → List Target}

/-! ## Buffers and views -/

namespace BufferRef

variable (buffer : BufferRef)

theorem secures_create (elem : ElemType) (data : List Scalar) :
    Secures world (create elem data) fun made => [.buffer made.id] := by
  intro complete
  have grows : world.Grows { world with buffers := world.buffers.push data } :=
    (World.follows_pushBuffer data).grows
  refine .ok (fun id => (complete id).grows grows) grows ?_
  rw [World.knows_cons]
  refine ⟨?_, World.knows_nil⟩
  change world.buffers.next < (world.buffers.push data).next
  rw [Heap.next_push]
  exact Nat.lt_succ_self _

theorem tidy_get (position : Nat) : Tidy world (buffer.get position) := by
  refine readingBuffer ?_
  split
  · exact .pure World.knows_nil
  · exact .throw _

theorem tidy_set (position : Nat) (element : Scalar) : Tidy world (buffer.set position element) := by
  refine writingBuffer ?_
  split
  · exact .pure World.knows_nil
  · exact .throw _

theorem tidy_toList : Tidy world buffer.toList :=
  readingBuffer (.pure World.knows_nil)

end BufferRef

theorem HostId.tidy_create (text : String) : Tidy world (create text) :=
  fun complete => .ok complete (fun _ made => made) World.knows_nil

theorem Op.tidy_ofExcept (decided : Except Failure α) : Tidy world (Op.ofExcept decided) :=
  Secures.ofExcept fun _ _ => World.knows_nil

namespace View

variable (view : View)

theorem secures_make {buffer : BufferRef} (known : world.Knows [.buffer buffer.id]) (offset : Nat)
    (shape : List Nat) (strides : List Int) :
    Secures world (make buffer offset shape strides) View.targets :=
  (buffer.looks_length.tidy world).bind fun _ _ grows _ =>
    (Op.tidy_ofExcept _).bind fun _ _ further _ =>
      .pure ((known.grows grows).grows further)

theorem secures_ofBuffer {buffer : BufferRef} (known : world.Knows [.buffer buffer.id]) :
    Secures world (ofBuffer buffer) View.targets :=
  (buffer.looks_length.tidy world).bind fun _ _ grows _ => .pure (known.grows grows)

theorem tidy_get (index : List Nat) : Tidy world (view.get index) :=
  (Op.tidy_ofExcept _).bind fun position _ _ _ => view.buffer.tidy_get position

theorem tidy_set (index : List Nat) (element : Scalar) : Tidy world (view.set index element) :=
  (Op.tidy_ofExcept _).bind fun position _ _ _ => view.buffer.tidy_set position element

theorem tidy_getLinear (place : Nat) : Tidy world (view.getLinear place) :=
  (Op.tidy_ofExcept _).bind fun position _ _ _ => view.buffer.tidy_get position

theorem tidy_setLinear (place : Nat) (element : Scalar) :
    Tidy world (view.setLinear place element) :=
  (Op.tidy_ofExcept _).bind fun position _ _ _ => view.buffer.tidy_set position element

/-- A part of a view looks at the same buffer. -/
theorem targets_slice {part : View} {selectors : List Selector}
    (sliced : view.slice selectors = .ok part) : part.targets = view.targets := by
  unfold slice at sliced
  split at sliced
  · cases sliced
  · obtain ⟨selection, -, counting⟩ := Except.bind_eq_ok_iff.mp sliced
    obtain ⟨size, -, same⟩ := Except.bind_eq_ok_iff.mp counting
    cases same
    rfl

end View

/-! ## Blocks -/

namespace Block

variable (block : Block)

/-- A block that is made of a list owns it. -/
theorem knows_make (elem : ElemType) (data : List Scalar) (shape : List Nat) (strides : List Int)
    (made : Block) (same : make elem data shape strides = .ok made) : world.Knows made.targets := by
  obtain ⟨computed, -, fits⟩ := Except.bind_eq_ok_iff.mp same
  dsimp only at fits
  split at fits
  · cases fits
  · obtain ⟨size, -, owned⟩ := Except.bind_eq_ok_iff.mp fits
    cases owned
    exact World.knows_nil

theorem knows_ofShape (elem : ElemType) (data : List Scalar) (shape : List Nat) (made : Block)
    (same : ofShape elem data shape = .ok made) : world.Knows made.targets := by
  obtain ⟨strides, -, owned⟩ := Except.bind_eq_ok_iff.mp same
  exact knows_make elem data shape strides made owned

theorem secures_ofBuffer {buffer : BufferRef} (known : world.Knows [.buffer buffer.id])
    (shape : List Nat) (strides : List Int) (memory : Memory) :
    Secures world (ofBuffer buffer shape strides memory) Block.targets := by
  unfold ofBuffer
  refine (Op.tidy_ofExcept _).bind fun size left first _ => ?_
  refine (buffer.looks_length.tidy left).bind fun length left second _ => ?_
  dsimp only
  split
  · exact .throw_bind _ _
  · refine (Op.tidy_ofExcept _).discard.bind fun _ left third _ => ?_
    have found := ((known.grows first).grows second).grows third
    cases memory with
    | borrowed => exact .pure found
    | owned =>
        have taken : Secures left (buffer.id.reading .busy fun elements =>
            pure (Storage.owned (elements.take size))) Storage.targets :=
          readingBuffer (.pure World.knows_nil)
        exact taken.bind fun _ _ _ held => .pure held

theorem secures_ofBufferShape {buffer : BufferRef} (known : world.Knows [.buffer buffer.id])
    (shape : List Nat) (memory : Memory) :
    Secures world (ofBufferShape buffer shape memory) Block.targets :=
  (Op.tidy_ofExcept _).bind fun strides _ grows _ =>
    secures_ofBuffer (known.grows grows) shape strides memory

theorem secures_withData {use : List Scalar → Op α}
    (each : ∀ elements left, world.Grows left → Secures left (use elements) names) :
    Secures world (block.withData use) names := by
  unfold withData
  split
  · exact each _ _ fun _ made => made
  · exact readingBuffer (each _ _ fun _ made => made)
  · exact .throw _

theorem secures_modifyData {use : List Scalar → Op (α × List Scalar)}
    (known : world.Knows block.targets)
    (each : ∀ elements left, world.Grows left →
      Secures left (use elements) fun made => names made.1) :
    Secures world (block.modifyData use) fun made => names made.1 ++ made.2.targets := by
  unfold modifyData
  split
  · refine (each _ _ fun _ made => made).bind fun made left _ held => .pure ?_
    exact World.knows_append.mpr ⟨held, World.knows_nil⟩
  · rename_i buffer _
    have written : Secures world
        (buffer.id.writing fun elements =>
          use (elements.take block.size) >>= fun made =>
            pure (made.1, overlay (made.2.take block.size) elements)) names := by
      refine writingBuffer (Secures.bind (each _ _ fun _ made => made) fun made left _ held => ?_)
      exact .pure held
    refine written.bind fun result left grows held => .pure ?_
    exact World.knows_append.mpr ⟨held, known.grows grows⟩
  · exact .throw _

theorem tidy_get (position : Nat) : Tidy world (block.get position) := by
  unfold get
  split
  · exact .throw_bind _ _
  · refine block.secures_withData fun elements left _ => ?_
    split
    · exact .pure World.knows_nil
    · exact .throw _

theorem secures_set (known : world.Knows block.targets) (position : Nat) (element : Scalar) :
    Secures world (block.set position element) Block.targets := by
  unfold set
  split
  · exact .throw_bind _ _
  · have changed : Secures world
        (block.modifyData fun elements =>
          if position < elements.length then pure ((), elements.set position element)
          else throw (.invalid (.blockIndex position block.size)))
        fun made => [] ++ made.2.targets := by
      refine @secures_modifyData world Unit (fun _ => []) block _ known fun elements left _ => ?_
      split
      · exact .pure World.knows_nil
      · exact .throw _
    exact changed.bind fun made _ _ held => .pure held

theorem secures_view (known : world.Knows block.targets) :
    Secures world block.view View.targets := by
  unfold view
  split
  · rename_i buffer stored
    rw [targets, stored] at known
    exact View.secures_make known _ _ _
  · exact .throw _

theorem secures_copyAs (known : world.Knows block.targets) (memory : Memory) :
    Secures world (block.copyAs memory) Block.targets := by
  unfold copyAs
  split
  · exact .throw _
  · exact .pure known
  · exact .throw _
  · exact (block.looks_toList.tidy world).bind fun _ _ _ _ => .pure World.knows_nil

/-- A block names no more after it was asked to hand over its data. -/
theorem targets_release : block.release.2.targets ⊆ block.targets := by
  unfold release
  cases stored : block.storage <;> simp [targets, stored, Storage.targets]

end Block

/-! ## Handles -/

theorem Value.knows_expect {value : Value} (known : world.Knows value.targets) {type : ValueType}
    (found : Value) (fits : value.expect type = .ok found) : world.Knows found.targets := by
  unfold Value.expect at fits
  split at fits
  · cases fits
    exact known
  · cases fits

theorem Cell.knows_expect {cell : Cell} (known : world.Knows (Cell.targets cell)) {type : ValueType}
    (value : Value) (fits : Cell.expect cell type = .ok value) : world.Knows value.targets := by
  rwa [Cell.eq_of_expect fits] at known

namespace Handle

variable (handle : Handle)

theorem find?_of_cell {entries : Entries Cell} {key : String} {cell : Cell}
    (found : handle.cell entries key = .ok cell) :
    entries.find? (handle.resolve key) = some cell := by
  unfold Handle.cell at found
  split at found
  · rename_i held stored
    cases found
    exact stored
  · cases found

theorem knows_cell {entries : Entries Cell} (known : world.Knows entries.targets) {key : String}
    {cell : Cell} (found : handle.cell entries key = .ok cell) : world.Knows (Cell.targets cell) :=
  World.knows_entries.mp known _ _ (handle.find?_of_cell found)

theorem knows_valueAt {entries : Entries Cell} (known : world.Knows entries.targets) {key : String}
    {type : ValueType} {value : Value} (found : handle.valueAt entries key type = .ok value) :
    world.Knows value.targets :=
  World.knows_entries.mp known _ _ (handle.find?_of_valueAt found)

theorem secures_create {entries : Entries Cell} (known : world.Knows entries.targets) :
    Secures world (create entries) fun made => [.store made.store] :=
  (createStore known).bind fun _ _ _ held => .pure held

theorem tidy_update (key : String) {value : Value} (known : world.Knows value.targets) :
    Tidy world (handle.update key value) :=
  writingStore fun stored => .pure (World.Knows.insert stored _ known)

theorem tidy_updateMany {values : List (String × Value)}
    (known : ∀ item ∈ values, world.Knows item.2.targets) :
    Tidy world (handle.updateMany values) := by
  induction values generalizing world with
  | nil => exact .pure World.knows_nil
  | cons item rest ih =>
      obtain ⟨first, others⟩ := List.forall_mem_cons.mp known
      exact (handle.tidy_update item.1 first).bind fun _ _ grows _ =>
        ih fun item member => (others item member).grows grows

theorem tidy_insertDefault (key : String) {value : Value} (known : world.Knows value.targets) :
    Tidy world (handle.insertDefault key value) := by
  refine writingStore fun stored => ?_
  dsimp only
  split
  · exact .pure stored
  · exact .pure (World.Knows.insert stored _ known)

theorem tidy_insertDefaultMany {values : List (String × Value)}
    (known : ∀ item ∈ values, world.Knows item.2.targets) :
    Tidy world (handle.insertDefaultMany values) := by
  induction values generalizing world with
  | nil => exact .pure World.knows_nil
  | cons item rest ih =>
      obtain ⟨first, others⟩ := List.forall_mem_cons.mp known
      refine (handle.tidy_insertDefault item.1 first).bind fun _ _ grows _ => ?_
      exact (ih fun item member => (others item member).grows grows).bind fun _ _ _ _ =>
        .pure World.knows_nil

theorem secures_withValue {use : Value → Op α} (key : String) (type : ValueType)
    (each : ∀ value left, world.Grows left → left.Knows value.targets →
      Secures left (use value) names) : Secures world (handle.withValue key type use) names := by
  rw [withValue_eq]
  refine readingStore fun stored => ?_
  refine Secures.bind (ofExcept fun _ found => handle.knows_valueAt stored found) ?_
  exact fun value left grows held => each value left grows held

theorem secures_withValueOr {use : Value → Op α} (key : String) (type : ValueType)
    {default : Value} (known : world.Knows default.targets)
    (each : ∀ value left, world.Grows left → left.Knows value.targets →
      Secures left (use value) names) :
    Secures world (handle.withValueOr key type default use) names := by
  refine readingStore fun stored => ?_
  split
  · rename_i cell found
    refine Secures.bind (ofExcept (Cell.knows_expect (World.knows_entries.mp stored _ _ found))) ?_
    exact fun value left grows held => each value left grows held
  · exact each default _ (fun _ made => made) known

theorem secures_modifyValue {use : Value → Op (α × Value)} (key : String) (type : ValueType)
    (each : ∀ value left, world.Grows left → left.Knows value.targets →
      Secures left (use value) fun made => names made.1 ++ made.2.targets) :
    Secures world (handle.modifyValue key type use) names := by
  rw [modifyValue_eq]
  refine writingStore fun stored => ?_
  refine Secures.bind (ofExcept fun _ found => handle.knows_valueAt stored found) ?_
  intro value left grows held
  refine Secures.bind (each value left grows held) fun made left further held => .pure ?_
  obtain ⟨known, fresh⟩ := World.knows_append.mp held
  exact World.knows_append.mpr
    ⟨known, World.Knows.insert ((stored.grows grows).grows further) _ fresh⟩

theorem secures_modifyCell {use : Cell → Op (α × Cell)} (key : String)
    (each : ∀ cell left, world.Grows left → left.Knows (Cell.targets cell) →
      Secures left (use cell) fun made => names made.1 ++ Cell.targets made.2) :
    Secures world (handle.modifyCell key use) names := by
  refine writingStore fun stored => ?_
  refine Secures.bind (ofExcept fun _ found => handle.knows_cell stored found) ?_
  intro cell left grows held
  refine Secures.bind (each cell left grows held) fun made left further held => .pure ?_
  obtain ⟨known, fresh⟩ := World.knows_append.mp held
  exact World.knows_append.mpr
    ⟨known, World.Knows.insert ((stored.grows grows).grows further) _ fresh⟩

theorem secures_get (key : String) (type : ValueType) :
    Secures world (handle.get key type) Value.targets :=
  handle.secures_withValue key type fun _ _ _ known => .pure known

theorem secures_getOr (key : String) (type : ValueType) {default : Value}
    (known : world.Knows default.targets) :
    Secures world (handle.getOr key type default) Value.targets :=
  handle.secures_withValueOr key type known fun _ _ _ known => .pure known

theorem secures_getAny (key : String) : Secures world (handle.getAny key) Value.targets := by
  have read : Secures world (handle.modifyCell key fun cell => pure (cell, cell)) Cell.targets :=
    handle.secures_modifyCell key fun _ _ _ known => .pure (World.knows_append.mpr ⟨known, known⟩)
  refine read.bind fun cell left _ known => ?_
  cases cell with
  | some value => exact .pure known
  | none => exact .throw _

theorem tidy_typeName (key : String) : Tidy world (handle.typeName key) :=
  readingStore fun _ => (Op.tidy_ofExcept _).bind fun _ _ _ _ => .pure World.knows_nil

theorem tidy_isStored (key : String) : Tidy world (handle.isStored key) :=
  readingStore fun _ => .pure World.knows_nil

theorem tidy_size : Tidy world handle.size :=
  readingStore fun _ => .pure World.knows_nil

theorem tidy_isEmpty : Tidy world handle.isEmpty :=
  readingStore fun _ => .pure World.knows_nil

theorem tidy_keys : Tidy world handle.keys :=
  readingStore fun _ => .pure World.knows_nil

theorem tidy_eraseKey (store : StoreId) (key : String) : Tidy world (eraseKey store key) :=
  writingStore fun stored => .pure (World.Knows.erase stored key)

theorem tidy_eraseSubtree (store : StoreId) (scope : String) :
    Tidy world (eraseSubtree store scope) :=
  writingStore fun stored => .pure (World.Knows.prune stored scope)

theorem knows_relativeEntries {entries : Entries Cell} (known : world.Knows entries.targets) :
    ∀ entry ∈ handle.relativeEntries entries, world.Knows (Cell.targets entry.2) := by
  intro entry member
  obtain ⟨source, reached, rfl⟩ := List.mem_map.mp member
  rw [reach, Entries.subtree_eq_between, Entries.mem_between_iff] at reached
  exact World.knows_flatMap.mp known source reached.1

theorem tidy_graft (key : String) (other : Handle) : Tidy world (handle.graft key other) := by
  have read : Secures world
      (other.store.reading .busy fun entries => pure (other.relativeEntries entries))
      (List.flatMap fun entry => Cell.targets entry.2) :=
    readingStore fun stored => .pure (World.knows_flatMap.mpr (other.knows_relativeEntries stored))
  refine read.bind fun incoming left _ known => ?_
  refine writingStore fun stored => .pure (World.Knows.insertAll stored ?_)
  intro entry member
  obtain ⟨source, taken, rfl⟩ := List.mem_map.mp member
  exact World.knows_flatMap.mp known source taken

theorem knows_copied {entries : Entries Cell} (known : world.Knows entries.targets) :
    world.Knows (handle.copied entries).targets := by
  unfold copied
  split
  · exact known
  · refine World.Knows.insertAll World.knows_empty ?_
    intro entry member
    obtain ⟨source, taken, rfl⟩ := List.mem_map.mp member
    exact handle.knows_relativeEntries known source taken

theorem secures_copy (refusal : Failure) :
    Secures world (handle.copy refusal) fun made => [.store made.store] := by
  have read : Secures world
      (handle.store.reading refusal fun entries => pure (handle.copied entries)) Entries.targets :=
    readingStore fun stored => .pure (handle.knows_copied stored)
  exact read.bind fun _ _ _ known => secures_create known

theorem tidy_eraseEntry (entry : EntryRef) : Tidy world (handle.eraseEntry entry) := by
  unfold eraseEntry
  split
  · exact tidy_eraseKey _ _
  · exact .throw _

theorem tidy_eraseRange (cursor : Cursor) : Tidy world (handle.eraseRange cursor) := by
  unfold eraseRange
  split
  · exact .throw_bind _ _
  · have read : Tidy world (cursor.store.reading .locked fun entries =>
        pure (cursor.remaining entries)) :=
      readingStore fun _ => .pure World.knows_nil
    exact read.bind fun keys _ _ _ =>
      writingStore fun stored => .pure (World.Knows.eraseAll stored keys)

end Handle

/-! ## Entries and cursors -/

namespace EntryRef

variable (entry : EntryRef)

theorem find?_of_cell {entries : Entries Cell} {cell : Cell}
    (found : entry.cell entries = .ok cell) : entries.find? entry.key = some cell := by
  unfold EntryRef.cell at found
  split at found
  · rename_i held stored
    cases found
    exact stored
  · cases found

theorem knows_cell {entries : Entries Cell} (known : world.Knows entries.targets) {cell : Cell}
    (found : entry.cell entries = .ok cell) : world.Knows (Cell.targets cell) :=
  World.knows_entries.mp known _ _ (entry.find?_of_cell found)

theorem knows_valueAt {entries : Entries Cell} (known : world.Knows entries.targets)
    {type : ValueType} {value : Value} (found : entry.valueAt entries type = .ok value) :
    world.Knows value.targets :=
  World.knows_entries.mp known _ _ (entry.find?_of_valueAt found)

theorem secures_withCell {use : Cell → Op α}
    (each : ∀ cell left, world.Grows left → left.Knows (Cell.targets cell) →
      Secures left (use cell) names) : Secures world (entry.withCell use) names := by
  refine readingStore fun stored => ?_
  refine Secures.bind (ofExcept fun _ found => entry.knows_cell stored found) ?_
  exact fun cell left grows held => each cell left grows held

theorem secures_withValue {use : Value → Op α} (type : ValueType)
    (each : ∀ value left, world.Grows left → left.Knows value.targets →
      Secures left (use value) names) : Secures world (entry.withValue type use) names := by
  rw [withValue_eq]
  refine readingStore fun stored => ?_
  refine Secures.bind (ofExcept fun _ found => entry.knows_valueAt stored found) ?_
  exact fun value left grows held => each value left grows held

theorem secures_modifyValue {use : Value → Op (α × Value)} (type : ValueType)
    (each : ∀ value left, world.Grows left → left.Knows value.targets →
      Secures left (use value) fun made => names made.1 ++ made.2.targets) :
    Secures world (entry.modifyValue type use) names := by
  rw [modifyValue_eq]
  refine writingStore fun stored => ?_
  refine Secures.bind (ofExcept fun _ found => entry.knows_valueAt stored found) ?_
  intro value left grows held
  refine Secures.bind (each value left grows held) fun made left further held => .pure ?_
  obtain ⟨known, fresh⟩ := World.knows_append.mp held
  exact World.knows_append.mpr
    ⟨known, World.Knows.insert ((stored.grows grows).grows further) _ fresh⟩

theorem tidy_typeName : Tidy world entry.typeName :=
  entry.secures_withCell fun _ _ _ _ => .pure World.knows_nil

theorem secures_value (type : ValueType) : Secures world (entry.value type) Value.targets :=
  entry.secures_withValue type fun _ _ _ known => .pure known

theorem secures_anyValue : Secures world entry.anyValue Value.targets := by
  have read : Secures world (entry.withCell pure) Cell.targets :=
    entry.secures_withCell fun _ _ _ known => .pure known
  refine read.bind fun cell left _ known => ?_
  cases cell with
  | some value => exact .pure known
  | none => exact .throw _

theorem tidy_set {value : Value} (known : world.Knows value.targets) :
    Tidy world (entry.set value) :=
  writingStore fun stored => (Op.tidy_ofExcept _).discard.bind fun _ _ grows _ =>
    .pure (World.Knows.insert (stored.grows grows) _ (known.grows grows))

end EntryRef

namespace Cursor

variable (cursor : Cursor)

/-- A step names no other store than the cursor does. -/
theorem secures_step (known : world.Knows [.store cursor.store]) (side : End) :
    Secures world (cursor.step side) fun taken =>
      [.store taken.2.store] ++ taken.1.toList.map fun entry => .store entry.store := by
  rw [step_eq_reading]
  refine readingStore fun _ => .pure ?_
  change world.Knows _
  cases cursor.seek side (world.entries cursor.store) with
  | some key => simpa [entry] using World.knows_cons.mp known
  | none => simpa using World.knows_cons.mp known

theorem tidy_collect : Tidy world cursor.collect :=
  readingStore fun _ => .pure World.knows_nil

theorem tidy_collectBack : Tidy world cursor.collectBack :=
  readingStore fun _ => .pure World.knows_nil

end Cursor

theorem Handle.tidy_snapshot (handle : Handle) : Tidy world handle.snapshot := by
  have read : Tidy world (handle.store.reading .locked fun entries =>
      pure (handle.cursor.remaining entries)) :=
    readingStore fun _ => .pure World.knows_nil
  refine read.bind fun keys _ _ _ => .mapM keys fun key left => ?_
  refine Secures.bind ((EntryRef.looks_snapshot _).tidy left) fun _ _ _ _ => ?_
  exact .pure World.knows_nil

end PathStore
