import PathStore.Proofs.World.Observation

/-!
# Which claims arrays need

An operation on a buffer, or on a view or a block over it, needs a claim on the buffer, for reading or
for writing, but only once the position that is asked for is known to exist. What owns its data needs
none.
-/

namespace PathStore

open Failure Conduct

variable {world : World}

theorem mem_claimsOf {α : Type} {found : Option α} {claims : α → List Claim} {claim : Claim}
    (member : claim ∈ claimsOf found claims) :
    ∃ result, found = some result ∧ claim ∈ claims result := by
  cases found with
  | none => cases member
  | some result => exact ⟨result, rfl, member⟩

/-- The claims are on buffers. -/
def OnBuffers (claims : List Claim) : Prop :=
  ∀ claim ∈ claims, ∃ id, claim.target = .buffer id

namespace OnBuffers

theorem nil : OnBuffers [] := List.forall_mem_nil _

theorem claimsOf {α : Type} {found : Option α} {claims : α → List Claim}
    (each : ∀ result, OnBuffers (claims result)) : OnBuffers (claimsOf found claims) := by
  intro claim member
  obtain ⟨result, _, inside⟩ := mem_claimsOf member
  exact each result claim inside

theorem single (id : BufferId) (mode : Mode) : OnBuffers [⟨.buffer id, mode⟩] := by
  intro claim member
  exact ⟨id, by rw [List.mem_singleton.mp member]⟩

theorem apart {claims : List Claim} (buffers : OnBuffers claims) (id : StoreId) :
    ∀ claim ∈ claims, .store id ≠ claim.target := by
  intro claim member
  obtain ⟨buffer, same⟩ := buffers claim member
  rw [same]
  exact Target.noConfusion

end OnBuffers

/-! ## Buffers -/

/-- A new buffer is claimed by nobody. -/
theorem World.follows_pushBuffer (elements : List Scalar) :
    world.Follows { world with buffers := world.buffers.push elements } where
  active := rfl
  held held _ made := by
    cases same : held.target with
    | store other => rfl
    | buffer other =>
        rw [same] at made
        simp [SameAt, World.elements, Nat.ne_of_lt made]
  grows target made := by
    cases target with
    | store other => exact made
    | buffer other =>
        change other.number < (world.buffers.push elements).next
        rw [Heap.next_push]
        exact Nat.lt_succ_of_lt made

namespace BufferRef

variable (buffer : BufferRef)

theorem conduct_get (position : Nat) :
    Conduct [⟨.buffer buffer.id, .reading⟩] world (buffer.get position) := by
  refine readingBuffer (.inl rfl) (List.forall_mem_nil _) ?_
  split
  · exact Conduct.pure _
  · exact Conduct.throw (calm_invalid _)

theorem conduct_set (position : Nat) (element : Scalar) :
    Conduct [⟨.buffer buffer.id, .writing⟩] world (buffer.set position element) := by
  refine writingBuffer (List.forall_mem_nil _) ?_
  split
  · exact Conduct.pure _
  · exact Conduct.throw (calm_invalid _)

theorem conduct_toList : Conduct [⟨.buffer buffer.id, .reading⟩] world buffer.toList :=
  readingBuffer (.inr rfl) (List.forall_mem_nil _) (Conduct.pure _)

theorem sure_create (elem : ElemType) (data : List Scalar) : Sure (create elem data) :=
  fun _ => .ok (World.follows_pushBuffer data)

end BufferRef

/-! ## Views -/

namespace View

variable (view : View)

/-- The claim on the buffer, once a position in it is known. -/
def claimsAt (position : Except Failure Nat) (mode : Mode) : List Claim :=
  claimsOf position.toOption fun _ => [⟨.buffer view.buffer.id, mode⟩]

theorem onBuffers_claimsAt (position : Except Failure Nat) (mode : Mode) :
    OnBuffers (view.claimsAt position mode) :=
  .claimsOf fun _ => .single _ _

theorem conduct_make (buffer : BufferRef) (offset : Nat) (shape : List Nat) (strides : List Int) :
    Conduct [] world (make buffer offset shape strides) :=
  bind_found rfl <|
    bind_calm (Op.ofExcept_apply _ _) (Layout.calm_check _ _ _ _) fun _ _ => Conduct.pure _

theorem conduct_get (index : List Nat) :
    Conduct (view.claimsAt (view.indexPosition index) .reading) world (view.get index) :=
  bind_settled (Op.ofExcept_apply _ _) (view.calm_indexPosition index) _
    fun position _ => view.buffer.conduct_get position

theorem conduct_set (index : List Nat) (element : Scalar) :
    Conduct (view.claimsAt (view.indexPosition index) .writing) world (view.set index element) :=
  bind_settled (Op.ofExcept_apply _ _) (view.calm_indexPosition index) _
    fun position _ => view.buffer.conduct_set position element

theorem conduct_getLinear (place : Nat) :
    Conduct (view.claimsAt (view.checkedPosition place) .reading) world (view.getLinear place) :=
  bind_settled (Op.ofExcept_apply _ _) (view.calm_checkedPosition place) _
    fun position _ => view.buffer.conduct_get position

theorem conduct_setLinear (place : Nat) (element : Scalar) :
    Conduct (view.claimsAt (view.checkedPosition place) .writing) world
      (view.setLinear place element) :=
  bind_settled (Op.ofExcept_apply _ _) (view.calm_checkedPosition place) _
    fun position _ => view.buffer.conduct_set position element

theorem conduct_toList : Conduct [⟨.buffer view.buffer.id, .reading⟩] world view.toList :=
  readingBuffer (.inl rfl) (List.forall_mem_nil _)
    (Conduct.ofExcept (view.silent_pickAll _).calm)

end View

/-! ## Blocks -/

namespace Block

variable {α : Type} (block : Block)

/-- The claim on the buffer that the block borrows. -/
def claims (mode : Mode) : List Claim :=
  match block.storage with
  | .borrowed buffer => [⟨.buffer buffer.id, mode⟩]
  | _ => []

theorem onBuffers_claims (mode : Mode) : OnBuffers (block.claims mode) := by
  unfold claims
  split
  · exact .single _ _
  · exact .nil

theorem conduct_withData {use : List Scalar → Op α}
    (each : ∀ elements world, Conduct [] world (use elements)) :
    Conduct (block.claims .reading) world (block.withData use) := by
  cases stored : block.storage with
  | owned data =>
      simp only [withData, claims, stored]
      exact each _ _
  | borrowed buffer =>
      simp only [withData, claims, stored]
      exact readingBuffer (.inl rfl) (List.forall_mem_nil _) (each _ _)
  | released =>
      simp only [withData, claims, stored]
      exact Conduct.throw (calm_wrongState _)

theorem conduct_modifyData {use : List Scalar → Op (α × List Scalar)}
    (each : ∀ elements world, Conduct [] world (use elements)) :
    Conduct (block.claims .writing) world (block.modifyData use) := by
  cases stored : block.storage with
  | owned data =>
      simp only [modifyData, claims, stored]
      exact (each _ _).bind_sure fun _ => .pure _
  | borrowed buffer =>
      simp only [modifyData, claims, stored]
      refine Conduct.bind_sure (writingBuffer (List.forall_mem_nil _) ?_) fun _ => .pure _
      exact (each _ _).bind_sure fun _ => .pure _
  | released =>
      simp only [modifyData, claims, stored]
      exact Conduct.throw (calm_wrongState _)

/-- The claim on the buffer, if a position lies in the block. -/
def claimsAt (position : Nat) (mode : Mode) : List Claim :=
  if position < block.size then block.claims mode else []

theorem onBuffers_claimsAt (position : Nat) (mode : Mode) :
    OnBuffers (block.claimsAt position mode) := by
  unfold claimsAt
  split
  · exact block.onBuffers_claims mode
  · exact .nil

theorem conduct_get (position : Nat) :
    Conduct (block.claimsAt position .reading) world (block.get position) := by
  unfold get
  split
  · rename_i outside
    rw [claimsAt, if_neg (Nat.not_lt.mpr outside)]
    exact Conduct.throw_bind (calm_invalid _)
  · rename_i inside
    rw [claimsAt, if_pos (Nat.not_le.mp inside)]
    refine block.conduct_withData fun elements world => ?_
    split
    · exact Conduct.pure _
    · exact Conduct.throw (calm_invalid _)

theorem conduct_set (position : Nat) (element : Scalar) :
    Conduct (block.claimsAt position .writing) world (block.set position element) := by
  unfold set
  split
  · rename_i outside
    rw [claimsAt, if_neg (Nat.not_lt.mpr outside)]
    exact Conduct.throw_bind (calm_invalid _)
  · rename_i inside
    rw [claimsAt, if_pos (Nat.not_le.mp inside)]
    refine Conduct.bind_sure (block.conduct_modifyData fun elements world => ?_) fun _ => .pure _
    split
    · exact Conduct.pure _
    · exact Conduct.throw (calm_invalid _)

theorem conduct_toList : Conduct (block.claims .reading) world block.toList :=
  block.conduct_withData fun _ _ => Conduct.pure _

/-- A block that cannot be released is left as it was. -/
theorem release_unchanged {failure : Failure} (failed : block.release.1 = .error failure) :
    block.release.2 = block := by
  obtain ⟨elem, storage, axes, size⟩ := block
  cases storage with
  | owned data => cases failed
  | borrowed buffer => rfl
  | released => rfl

theorem conduct_view : Conduct [] world block.view := by
  unfold view
  split
  · exact View.conduct_make _ _ _ _
  · exact Conduct.throw (calm_wrongState _)

/-- Only a copy that owns its data reads them. -/
def copyClaims (memory : Memory) : List Claim :=
  match memory with
  | .owned => block.claims .reading
  | .borrowed => []

theorem onBuffers_copyClaims (memory : Memory) : OnBuffers (block.copyClaims memory) := by
  cases memory with
  | owned => exact block.onBuffers_claims .reading
  | borrowed => exact .nil

theorem conduct_copyAs (memory : Memory) :
    Conduct (block.copyClaims memory) world (block.copyAs memory) := by
  have copied : Conduct (block.claims .reading) world
      (block.toList >>= fun data => Pure.pure { block with storage := .owned data }) :=
    block.conduct_toList.bind_sure fun _ => .pure _
  cases memory with
  | borrowed =>
      cases stored : block.storage with
      | owned data =>
          simp only [copyAs, stored]
          exact Conduct.throw (calm_wrongState _)
      | borrowed buffer =>
          simp only [copyAs, stored]
          exact Conduct.pure _
      | released =>
          simp only [copyAs, stored]
          exact Conduct.throw (calm_wrongState _)
  | owned =>
      cases stored : block.storage with
      | owned data =>
          simp only [copyAs, stored]
          exact copied
      | borrowed buffer =>
          simp only [copyAs, stored]
          exact copied
      | released =>
          simp only [copyAs, copyClaims, claims, stored]
          exact Conduct.throw (calm_wrongState _)

/-- The number of elements of a block over a buffer of the given length, whose shape has to fit. -/
def sizeOver (length : Nat) (shape : List Nat) (strides : List Int) : Except Failure Nat := do
  let size ← Layout.elementCount shape
  if length < size then throw (.invalid (.bufferTooShort length shape))
  discard (Layout.check size 0 shape strides)
  return size

theorem calm_sizeOver (length : Nat) (shape : List Nat) (strides : List Int) :
    FailsOnly Calm (sizeOver length shape strides) := by
  unfold sizeOver
  refine (Layout.silent_elementCount _).calm.bind fun size => ?_
  dsimp only
  split
  · exact .throw_bind (calm_invalid _)
  · exact ((Layout.calm_check _ _ _ _).map _).bind fun _ => .pure _

/-- The claim on a buffer of which a block is made. -/
def makingClaims (buffer : BufferRef) (memory : Memory) : List Claim :=
  match memory with
  | .owned => [⟨.buffer buffer.id, .reading⟩]
  | .borrowed => []

theorem ofBuffer_apply (buffer : BufferRef) (shape : List Nat) (strides : List Int)
    (memory : Memory) :
    ofBuffer buffer shape strides memory world =
      (Op.ofExcept (sizeOver (world.elements buffer.id).length shape strides) >>= fun size => do
        let storage ←
          match memory with
          | .borrowed => pure (.borrowed buffer)
          | .owned => buffer.id.reading .busy fun elements => pure (.owned (elements.take size))
        return { elem := buffer.elem, storage, axes := Layout.axes shape strides, size }) world := by
  unfold ofBuffer sizeOver
  cases Layout.elementCount shape with
  | error failure => rfl
  | ok size =>
      change (if (world.elements buffer.id).length < size then _ else _ : Op Block) world =
        (Op.ofExcept (if (world.elements buffer.id).length < size then _ else _) >>= _) world
      split
      · rfl
      · dsimp only
        cases Layout.check size 0 shape strides <;> rfl

theorem conduct_ofBuffer (buffer : BufferRef) (shape : List Nat) (strides : List Int)
    (memory : Memory) :
    Conduct
      (claimsOf (sizeOver (world.elements buffer.id).length shape strides).toOption fun _ =>
        makingClaims buffer memory)
      world (ofBuffer buffer shape strides memory) := by
  unfold Conduct
  rw [ofBuffer_apply]
  refine bind_settled (Op.ofExcept_apply _ _) (calm_sizeOver _ _ _) _ fun size _ => ?_
  cases memory with
  | owned =>
      exact Conduct.bind_sure
        (readingBuffer (.inl rfl) (List.forall_mem_nil _) (Conduct.pure _)) fun _ => .pure _
  | borrowed => exact Conduct.pure _

theorem conduct_ofBufferShape (buffer : BufferRef) (shape : List Nat) (memory : Memory) :
    Conduct
      (claimsOf (Layout.rowMajorStrides shape).toOption fun strides =>
        claimsOf (sizeOver (world.elements buffer.id).length shape strides).toOption fun _ =>
          makingClaims buffer memory)
      world (ofBufferShape buffer shape memory) :=
  bind_settled (Op.ofExcept_apply _ _) (Layout.silent_rowMajorStrides shape).calm _
    fun strides _ => conduct_ofBuffer buffer shape strides memory

end Block

end PathStore
