import PathStore.Proofs.Array.Blocks

/-!
# The life of a block

A block that has been made is set, edited, released and copied, and so are its copies, while other
programs run. The extents, strides and size that it was made with stay. Its storage goes on holding
as many elements as its size says, because data that are written back keep their number and buffers do
not lose elements, until the data are handed over, which happens once.
-/

namespace PathStore

open Layout

/-- No buffer has fewer elements afterwards. -/
def World.Retains (world left : World) : Prop :=
  ∀ id, (world.elements id).length ≤ (left.elements id).length

namespace World.Retains

variable {world middle left : World}

theorem refl (world : World) : world.Retains world := fun _ => Nat.le_refl _

/-- Laying elements over those of a buffer keeps their number. -/
theorem setElements (retains : world.Retains middle) {id : BufferId} {elements : List Scalar}
    (long : (world.elements id).length ≤ elements.length) :
    world.Retains (middle.setElements id elements) := by
  intro other
  rw [World.elements_setElements]
  split
  · rename_i same
    exact same ▸ long
  · exact retains other

end World.Retains

namespace Block

/-! ## What becomes of a block -/

/-- The blocks that can be made, in the world in which they are. -/
inductive Constructed : World → Block → Prop where
  | ofList (world : World) (elem : ElemType) (data : List Scalar) :
      Constructed world (ofList elem data)
  | make {elem : ElemType} {data : List Scalar} {extents : List Nat} {strides : List Int}
      {block : Block} (world : World) (made : make elem data extents strides = .ok block) :
      Constructed world block
  | ofShape {elem : ElemType} {data : List Scalar} {extents : List Nat} {block : Block}
      (world : World) (made : ofShape elem data extents = .ok block) : Constructed world block
  | ofBuffer {buffer : BufferRef} {extents : List Nat} {strides : List Int} {memory : Memory}
      {world left : World} {block : Block}
      (made : ofBuffer buffer extents strides memory world = .ok block left) :
      Constructed left block
  | ofBufferShape {buffer : BufferRef} {extents : List Nat} {memory : Memory}
      {world left : World} {block : Block}
      (made : ofBufferShape buffer extents memory world = .ok block left) :
      Constructed left block

theorem ofBufferShape_eq_ok {buffer : BufferRef} {extents : List Nat} {memory : Memory}
    {world left : World} {block : Block}
    (made : ofBufferShape buffer extents memory world = .ok block left) :
    ∃ strides, ofBuffer buffer extents strides memory world = .ok block left := by
  change (Op.ofExcept (rowMajorStrides extents) >>= _) world = _ at made
  cases computed : rowMajorStrides extents with
  | error failure =>
      rw [computed] at made
      cases made
  | ok strides =>
      rw [computed] at made
      exact ⟨strides, made⟩

theorem Constructed.sound {world : World} {block : Block} (made : Constructed world block) :
    block.Sound world := by
  cases made with
  | ofList world elem data => exact sound_ofList elem data
  | make world made => exact sound_make made
  | ofShape world made =>
      obtain ⟨strides, _, made⟩ := ofShape_eq_ok made
      exact sound_make made
  | ofBuffer made =>
      obtain ⟨rfl, sound⟩ := sound_ofBuffer made
      exact sound
  | ofBufferShape made =>
      obtain ⟨strides, made⟩ := ofBufferShape_eq_ok made
      obtain ⟨rfl, sound⟩ := sound_ofBuffer made
      exact sound

/-- A program on the elements of a block. It may do anything else too, but buffers keep their
elements. -/
structure Edit where
  run : List Scalar → Op (Unit × List Scalar)
  retains : ∀ (elements : List Scalar) (world : World), world.Retains ((run elements).leaves world)

/-- What happens elsewhere. Buffers keep their elements. -/
structure Change where
  apply : World → World
  retains : ∀ world : World, world.Retains (apply world)

/-- What can be done with one of several blocks, given by its number. A copy gets the next number. -/
inductive Treatment where
  | set (number position : Nat) (element : Scalar)
  | edit (number : Nat) (edit : Edit)
  | release (number : Nat)
  | copy (number : Nat)
  | elsewhere (change : Change)

/-- A block with its copies. -/
structure Family where
  world : World
  blocks : List Block

namespace Family

/-- Put a block that an operation yields in the place of another; if it fails, that one stays. -/
def replace (family : Family) (number : Nat) : EStateM.Result Failure World Block → Family
  | .ok block world => { world, blocks := family.blocks.set number block }
  | .error _ world => { family with world }

/-- Treat a family. Nothing happens if there is no block of the number. -/
def treat (family : Family) : Treatment → Family
  | .set number position element =>
    match family.blocks[number]? with
    | some block => family.replace number (block.set position element family.world)
    | none => family
  | .edit number edit =>
    match family.blocks[number]? with
    | some block => family.replace number ((Prod.snd <$> block.modifyData edit.run) family.world)
    | none => family
  | .release number =>
    match family.blocks[number]? with
    | some block => { family with blocks := family.blocks.set number block.release.2 }
    | none => family
  | .copy number =>
    match family.blocks[number]? with
    | some block => { family with blocks := family.blocks ++ [block] }
    | none => family
  | .elsewhere change => { family with world := change.apply family.world }

/-- Treat a family several times. -/
def after (family : Family) (treatments : List Treatment) : Family :=
  treatments.foldl treat family

end Family

/-! ## Operations keep blocks sound -/

/-- The block differs from another one at most in where its elements are. -/
def Kin (origin block : Block) : Prop := ∃ storage, block = { origin with storage }

theorem Kin.refl (block : Block) : block.Kin block := ⟨block.storage, rfl⟩

theorem Kin.trans {origin block other : Block} (first : origin.Kin block)
    (second : block.Kin other) : origin.Kin other := by
  obtain ⟨_, rfl⟩ := first
  obtain ⟨storage, rfl⟩ := second
  exact ⟨storage, rfl⟩

/-- What an operation makes of a block: buffers keep their elements, and if it succeeds it yields a block
with the same extents and strides that has all of its elements. -/
def Keeps (world : World) (block : Block) : EStateM.Result Failure World Block → Prop
  | .ok updated left => world.Retains left ∧ block.Kin updated ∧ updated.Filled left
  | .error _ left => world.Retains left

section Keeps

variable {world : World} {block : Block}

/-- A program that writes the elements of a sound block writes back as many as there were. -/
theorem Sound.keeps_modifyData (sound : block.Sound world) (edit : Edit) :
    block.Keeps world ((Prod.snd <$> block.modifyData edit.run) world) := by
  have filled := sound.filled
  rw [Op.map_apply, modifyData]
  cases stored : block.storage with
  | owned data =>
      have retains := edit.retains (data.take block.size) world
      rw [Filled, stored] at filled
      dsimp only
      rw [Op.bind_apply]
      rw [Op.leaves] at retains
      cases ran : edit.run (data.take block.size) world with
      | error failure left =>
          rw [ran] at retains
          exact retains
      | ok written left =>
          rw [ran] at retains
          exact ⟨retains, ⟨_, rfl⟩, (length_overlay _ _).trans filled⟩
  | borrowed buffer =>
      have retains := edit.retains ((world.elements buffer.id).take block.size)
        (world.acquire ⟨.buffer buffer.id, .writing⟩)
      dsimp only
      rw [Op.bind_apply, BufferId.writing_apply]
      by_cases admitted : world.admits ⟨.buffer buffer.id, .writing⟩
      · rw [if_pos admitted, Op.bind_apply]
        rw [Op.leaves] at retains
        cases ran : edit.run ((world.elements buffer.id).take block.size)
            (world.acquire ⟨.buffer buffer.id, .writing⟩) with
        | error failure left =>
            rw [ran] at retains
            exact retains
        | ok written left =>
            rw [ran] at retains
            have kept : world.Retains (left.setElements buffer.id
                (overlay (written.2.take block.size) (world.elements buffer.id))) :=
              World.Retains.setElements retains (length_overlay _ _).ge
            exact ⟨kept, .refl block, (sound.mono kept).filled⟩
      · rw [if_neg admitted]
        exact World.Retains.refl world
  | released => exact .refl world

/-- Setting an element is writing the elements of the block with a program of its own. -/
def setting (block : Block) (position : Nat) (element : Scalar) : Edit where
  run elements := Op.ofExcept (block.slotted position element elements)
  retains elements world := by
    rw [Op.leaves]
    cases block.slotted position element elements <;> exact .refl world

theorem Sound.keeps_set (sound : block.Sound world) (position : Nat) (element : Scalar) :
    block.Keeps world (block.set position element world) := by
  by_cases below : position < block.size
  · rw [set_inside below]
    exact sound.keeps_modifyData (block.setting position element)
  · rw [set_outside (Nat.le_of_not_lt below)]
    exact .refl world

/-- Handing over the data leaves a block of the same extents and strides. -/
theorem Sound.release (sound : block.Sound world) :
    block.Kin block.release.2 ∧ block.release.2.Filled world := by
  have filled := sound.filled
  rw [Block.release]
  cases stored : block.storage with
  | owned data => exact ⟨⟨_, rfl⟩, trivial⟩
  | borrowed buffer =>
      rw [Filled, stored] at filled
      exact ⟨⟨_, rfl⟩, filled⟩
  | released => exact ⟨⟨_, rfl⟩, trivial⟩

theorem Sound.of_kin {left : World} {updated : Block} (sound : block.Sound world)
    (kin : block.Kin updated) (filled : updated.Filled left) : updated.Sound left := by
  obtain ⟨storage, rfl⟩ := kin
  exact ⟨sound.counted, sound.inside, filled⟩

end Keeps

/-! ## Runs -/

namespace Family

variable {origin : Block} {family : Family}

/-- All blocks are sound and have the extents, strides and size of the one that they come from. -/
def Descends (origin : Block) (family : Family) : Prop :=
  ∀ block ∈ family.blocks, block.Sound family.world ∧ origin.Kin block

theorem Descends.elsewhere {world : World} (descends : family.Descends origin)
    (retains : family.world.Retains world) :
    Descends origin { family with world } := by
  intro block member
  obtain ⟨sound, kin⟩ := descends block member
  exact ⟨sound.mono retains, kin⟩

/-- A sound block of the same extents and strides may take the place of another. -/
theorem Descends.set {number : Nat} {block : Block} (descends : family.Descends origin)
    (sound : block.Sound family.world) (kin : origin.Kin block) :
    Descends origin { family with blocks := family.blocks.set number block } := by
  intro other member
  rcases List.mem_or_eq_of_mem_set member with member | rfl
  · exact descends other member
  · exact ⟨sound, kin⟩

theorem Descends.replace {number : Nat} {block : Block}
    {outcome : EStateM.Result Failure World Block} (descends : family.Descends origin)
    (member : block ∈ family.blocks) (kept : block.Keeps family.world outcome) :
    (family.replace number outcome).Descends origin := by
  obtain ⟨sound, kin⟩ := descends block member
  cases outcome with
  | ok updated left =>
      obtain ⟨retains, alike, filled⟩ := kept
      exact (descends.elsewhere retains).set (sound.of_kin alike filled) (kin.trans alike)
  | error failure left => exact descends.elsewhere kept

/-- No treatment makes a block unsound or changes its extents, strides or size. -/
theorem Descends.treat (descends : family.Descends origin) (treatment : Treatment) :
    (family.treat treatment).Descends origin := by
  cases treatment with
  | set number position element =>
      rw [Family.treat]
      cases found : family.blocks[number]? with
      | none => exact descends
      | some block =>
          have member := List.mem_of_getElem? found
          exact descends.replace member ((descends block member).1.keeps_set position element)
  | edit number edit =>
      rw [Family.treat]
      cases found : family.blocks[number]? with
      | none => exact descends
      | some block =>
          have member := List.mem_of_getElem? found
          exact descends.replace member ((descends block member).1.keeps_modifyData edit)
  | release number =>
      rw [Family.treat]
      cases found : family.blocks[number]? with
      | none => exact descends
      | some block =>
          obtain ⟨sound, kin⟩ := descends block (List.mem_of_getElem? found)
          obtain ⟨alike, filled⟩ := sound.release
          exact descends.set (sound.of_kin alike filled) (kin.trans alike)
  | copy number =>
      rw [Family.treat]
      cases found : family.blocks[number]? with
      | none => exact descends
      | some block =>
          intro other member
          rcases List.mem_append.1 member with member | copied
          · exact descends other member
          · exact List.mem_singleton.1 copied ▸ descends block (List.mem_of_getElem? found)
  | elsewhere change => exact descends.elsewhere (change.retains _)

theorem Descends.after (descends : family.Descends origin) (treatments : List Treatment) :
    (family.after treatments).Descends origin := by
  induction treatments generalizing family with
  | nil => exact descends
  | cons treatment treatments ih => exact ih (descends.treat treatment)

/-- An operation that fails, or yields a block of another number, leaves a block where it is. -/
theorem getElem?_replace {number other : Nat} {gone : Block}
    {outcome : EStateM.Result Failure World Block} (held : family.blocks[number]? = some gone)
    (fails : other = number → ∃ failure left, outcome = .error failure left) :
    (family.replace other outcome).blocks[number]? = some gone := by
  cases outcome with
  | error failure left => exact held
  | ok block left =>
      have apart : other ≠ number := fun same => by
        obtain ⟨_, _, failed⟩ := fails same
        cases failed
      exact (List.getElem?_set_ne apart).trans held

/-- A block that has given its elements away can be neither set nor edited, and handing them over again
leaves it as it is. -/
theorem getElem?_treat {number : Nat} {gone : Block} (held : family.blocks[number]? = some gone)
    (released : gone.storage = .released) (treatment : Treatment) :
    (family.treat treatment).blocks[number]? = some gone := by
  cases treatment with
  | set other position element =>
      rw [treat]
      cases found : family.blocks[other]? with
      | none => exact held
      | some block =>
          refine getElem?_replace held fun same => ?_
          cases same
          cases found.symm.trans held
          obtain ⟨failure, failed⟩ := set_released released position element
          exact ⟨failure, family.world, failed⟩
  | edit other edit =>
      rw [treat]
      cases found : family.blocks[other]? with
      | none => exact held
      | some block =>
          refine getElem?_replace held fun same => ⟨.wrongState .released, family.world, ?_⟩
          cases same
          cases found.symm.trans held
          rw [Op.map_apply, modifyData_released released]
  | release other =>
      rw [treat]
      cases found : family.blocks[other]? with
      | none => exact held
      | some block =>
          by_cases same : other = number
          · cases same
            cases found.symm.trans held
            have failed : gone.release.1 = .error (.wrongState .releaseTwice) := by
              rw [Block.release, released]
            have stays : gone.release.2 = gone := gone.release_unchanged failed
            dsimp only
            rw [stays, List.getElem?_set_self (List.getElem?_eq_some_iff.1 held).1]
          · exact (List.getElem?_set_ne same).trans held
  | copy other =>
      rw [treat]
      cases found : family.blocks[other]? with
      | none => exact held
      | some block =>
          exact (List.getElem?_append_left (List.getElem?_eq_some_iff.1 held).1).trans held
  | elsewhere change => exact held

theorem getElem?_after {number : Nat} {gone : Block} (held : family.blocks[number]? = some gone)
    (released : gone.storage = .released) (treatments : List Treatment) :
    (family.after treatments).blocks[number]? = some gone := by
  induction treatments generalizing family with
  | nil => exact held
  | cons treatment treatments ih => exact ih (getElem?_treat held released treatment)

end Family

/-! ## What holds at every moment -/

/-- What can be said of a block that goes back to another one, at any moment. -/
structure Regular (origin : Block) (world : World) (block : Block) : Prop where
  /-- Extents, strides and size are those that it was made with. -/
  kin : origin.Kin block
  counted : block.size = block.shape.prod
  inside : Inside block.size 0 block.axes
  filled : block.Filled world
  /-- A program that reads or writes the elements is shown as many as the size says. -/
  shown : ∀ {α : Type} (use other : List Scalar → Op α),
    (∀ elements, elements.length = block.size → use elements = other elements) →
      block.withData use world = block.withData other world
  lent : ∀ {α : Type} (use other : List Scalar → Op (α × List Scalar)),
    (∀ elements, elements.length = block.size → use elements = other elements) →
      block.modifyData use world = block.modifyData other world
  listed : block.Open world .reading → block.Unreleased →
    ∃ elements, elements.length = block.size ∧ block.toList world = .ok elements world
  get_iff : block.Open world .reading → ∀ position,
    (∃ element, block.get position world = .ok element world) ↔
      position < block.size ∧ block.Unreleased
  set_iff : block.Open world .writing → ∀ position element,
    (∃ updated left, block.set position element world = .ok updated left) ↔
      position < block.size ∧ block.Unreleased
  /-- Elements of a borrowed buffer are read and written there. -/
  read : ∀ buffer, block.storage = .borrowed buffer → ∀ position < block.size,
    block.get position world = buffer.get position world
  written : ∀ buffer, block.storage = .borrowed buffer → ∀ position < block.size, ∀ element,
    block.set position element world =
      match buffer.set position element world with
      | .ok _ left => .ok block left
      | .error failure left => .error failure left
  /-- Whatever is done with them, the buffer keeps what stands behind them. -/
  beyond : ∀ buffer, block.storage = .borrowed buffer →
    ∀ {α : Type} (use : List Scalar → Op (α × List Scalar)) result left,
      block.modifyData use world = .ok result left →
        (left.elements buffer.id).drop block.size = (world.elements buffer.id).drop block.size
  /-- Just what is owned can be handed over, all of it in order. -/
  release_iff : (∃ data, block.release.1 = .ok data) ↔ block.storage.memory? = some .owned
  handed : ∀ data, block.release.1 = .ok data → block.toList world = .ok data world
  refused : ∀ failure, block.release.1 = .error failure → block.release.2 = block

theorem release_eq_ok_iff {block : Block} {data : List Scalar} :
    block.release.1 = .ok data ↔ block.storage = .owned data := by
  rw [Block.release]
  cases block.storage with
  | owned held =>
      constructor
      · rintro ⟨⟩
        rfl
      · rintro ⟨⟩
        rfl
  | borrowed buffer => exact ⟨nofun, nofun⟩
  | released => exact ⟨nofun, nofun⟩

theorem exists_release_iff {block : Block} :
    (∃ data, block.release.1 = .ok data) ↔ block.storage.memory? = some .owned := by
  simp only [release_eq_ok_iff]
  cases block.storage <;> simp [Storage.memory?]

theorem released_of_release {block : Block} {data : List Scalar}
    (handed : block.release.1 = .ok data) : block.release.2.storage = .released := by
  rw [Block.release, release_eq_ok_iff.1 handed]

theorem Sound.regular {origin block : Block} {world : World} (sound : block.Sound world)
    (kin : origin.Kin block) : Regular origin world block where
  kin := kin
  counted := sound.counted
  inside := sound.inside
  filled := sound.filled
  shown _ _ agree := sound.withData_congr agree
  lent _ _ agree := sound.modifyData_congr agree
  listed free kept := by
    obtain ⟨elements, held⟩ := Option.isSome_iff_exists.1 (isSome_elements?.2 kept)
    exact ⟨elements, sound.length_elements held, withData_decided .ok held free⟩
  get_iff free _ := sound.get_eq_ok_iff free
  set_iff free _ element := sound.set_eq_ok_iff free element
  read _ shared _ below := sound.get_borrowed shared below
  written _ shared _ below element := sound.set_borrowed shared below element
  beyond _ shared _ _ _ _ done := modifyData_beyond shared done
  release_iff := exists_release_iff
  handed data handed := by
    have stored := release_eq_ok_iff.1 handed
    have filled := sound.filled
    rw [Filled, stored] at filled
    have all : data.take block.size = data := List.take_of_length_le filled.le
    rw [toList, withData, stored]
    exact congrArg (EStateM.Result.ok · world) all
  refused _ failed := block.release_unchanged failed

/-- However a block was made and whatever has been done with it, with its copies and elsewhere since,
each of them has the extents, strides and size of the first, as many elements as the size says, and
gives and takes just those. A block whose data have been handed over stays without them. -/
theorem regular_after {world : World} {origin : Block} (made : Constructed world origin)
    (treatments : List Treatment) :
    let family := Family.after ⟨world, [origin]⟩ treatments
    (∀ block ∈ family.blocks, Regular origin family.world block) ∧
      ∀ number block, family.blocks[number]? = some block →
        (∃ data, block.release.1 = .ok data) → ∀ later,
          ((family.treat (.release number)).after later).blocks[number]? = some block.release.2 ∧
            block.release.2.storage = .released := by
  intro family
  have descends : family.Descends origin := by
    refine Family.Descends.after (fun block member => ?_) treatments
    cases List.mem_singleton.1 member
    exact ⟨made.sound, .refl origin⟩
  refine ⟨fun block member => ?_, fun number block held handed later => ?_⟩
  · obtain ⟨sound, kin⟩ := descends block member
    exact sound.regular kin
  · obtain ⟨data, handed⟩ := handed
    have released := released_of_release handed
    refine ⟨Family.getElem?_after ?_ released later, released⟩
    rw [Family.treat, held]
    exact List.getElem?_set_self (List.getElem?_eq_some_iff.1 held).1

/-- Two elements of a buffer of three are borrowed and copied, and the second is written through the copy;
they cannot be handed over. Data that a block owns are copied and handed over, and the copy is then
written. -/
theorem regular_after_sample :
    let world : World := ⟨default, ⟨[[.bool true, .bool true, .bool true]]⟩, default, []⟩
    let shared : Block := ⟨.bool, .borrowed ⟨.bool, ⟨0⟩⟩, [⟨2, 1⟩], 2⟩
    let written := Family.after ⟨world, [shared]⟩ [.copy 0, .set 1 1 (.bool false), .release 1]
    let owned := ofList .bool [.bool true, .bool true]
    let handed := Family.after ⟨world, [owned]⟩ [.copy 0, .release 0, .set 1 1 (.bool false)]
    Constructed world shared ∧ Constructed world owned ∧
      written.blocks = [shared, shared] ∧
      written.world.buffers = ⟨[[.bool true, .bool false, .bool true]]⟩ ∧
      handed.blocks = [{ owned with storage := .released },
        { owned with storage := .owned [.bool true, .bool false] }] ∧
      (∀ block ∈ written.blocks, Regular shared written.world block) ∧
      ∀ block ∈ handed.blocks, Regular owned handed.world block := by
  intro world shared written owned handed
  have borrowed : Constructed world shared :=
    .ofBufferShape (show ofBufferShape ⟨.bool, ⟨0⟩⟩ [2] .borrowed world = .ok shared world from rfl)
  have listed : Constructed world owned := .ofList world .bool _
  exact ⟨borrowed, listed, rfl, rfl, rfl, (regular_after borrowed _).1, (regular_after listed _).1⟩

end Block

end PathStore
