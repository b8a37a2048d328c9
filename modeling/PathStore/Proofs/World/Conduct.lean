import PathStore.Proofs.Decisions
import PathStore.Proofs.World.Claims

/-!
# How programs deal with claims

A program that needs some claims ends in one of four ways: it succeeds, it is refused because one of
the claims conflicts with one that is held, it fails with another error, or it breaks off. Which of
them is possible depends on the claims that are held. An error leaves everything as it was, and
whatever the end, what others have claimed is as it was.
-/

namespace PathStore

/-- The claims that follow from what is found, if anything is. -/
def claimsOf {α : Type} (found : Option α) (claims : α → List Claim) : List Claim :=
  found.elim [] claims

theorem claimsOf_nil {α : Type} (found : Option α) : claimsOf found (fun _ => []) = [] := by
  cases found <;> rfl

/-! ## Worlds -/

namespace Heap

variable {α : Type}

theorem length_writeList_ge [Inhabited α] (object : α) (list : List α) (number : Nat) :
    list.length ≤ (writeList object list number).length := by
  induction list generalizing number with
  | nil => exact Nat.zero_le _
  | cons head rest ih =>
      cases number with
      | zero => exact Nat.le_refl _
      | succ number => exact Nat.succ_le_succ (ih number)

theorem next_write_ge [Inhabited α] (heap : Heap α) (number : Nat) (object : α) :
    heap.next ≤ (heap.write number object).next :=
  length_writeList_ge object heap.cells number

theorem next_push (heap : Heap α) (object : α) : (heap.push object).next = heap.next + 1 :=
  List.length_append

end Heap

/-- The store or buffer has been made. -/
def Target.Made (world : World) : Target → Prop
  | .store id => id.number < world.stores.next
  | .buffer id => id.number < world.buffers.next

namespace World

/-- A store or buffer contains the same in two worlds. -/
def SameAt (before after : World) : Target → Prop
  | .store id => after.entries id = before.entries id
  | .buffer id => after.elements id = before.elements id

theorem SameAt.refl (world : World) (target : Target) : world.SameAt world target := by
  cases target <;> rfl

theorem SameAt.trans {first second third : World} {target : Target}
    (left : first.SameAt second target) (right : second.SameAt third target) :
    first.SameAt third target := by
  cases target with
  | store id => exact Eq.trans right left
  | buffer id => exact Eq.trans right left

/-- Nothing that is made is lost. -/
def Grows (before after : World) : Prop :=
  ∀ target : Target, target.Made before → target.Made after

/-- Two worlds cannot be told apart: they agree on every store, buffer and owner, and the same claims
are held. -/
structure Alike (before after : World) : Prop where
  contents : ∀ target, before.SameAt after target
  hosts : ∀ id, after.host? id = before.host? id
  active : after.active = before.active
  grows : before.Grows after

/-- The same claims are held, and what they are held on contains the same. -/
structure Follows (before after : World) : Prop where
  active : after.active = before.active
  held : ∀ claim ∈ before.active, claim.target.Made before → before.SameAt after claim.target
  grows : before.Grows after

/-- Every one of some claims agrees with those that are held. -/
def AdmitsAll (world : World) (needs : List Claim) : Prop :=
  ∀ need ∈ needs, world.admits need

variable {before after world : World}

theorem Alike.refl (world : World) : world.Alike world :=
  ⟨.refl world, fun _ => rfl, rfl, fun _ made => made⟩

theorem Alike.trans {last : World} (first : before.Alike after) (second : after.Alike last) :
    before.Alike last where
  contents target := (first.contents target).trans (second.contents target)
  hosts id := (second.hosts id).trans (first.hosts id)
  active := second.active.trans first.active
  grows target made := second.grows target (first.grows target made)

theorem Alike.follows (alike : before.Alike after) : before.Follows after :=
  ⟨alike.active, fun claim _ _ => alike.contents claim.target, alike.grows⟩

theorem Follows.refl (world : World) : world.Follows world :=
  (Alike.refl world).follows

theorem Follows.trans {last : World} (first : before.Follows after) (second : after.Follows last) :
    before.Follows last where
  active := second.active.trans first.active
  held claim member made :=
    (first.held claim member made).trans
      (second.held claim (first.active.symm ▸ member) (first.grows _ made))
  grows target made := second.grows target (first.grows target made)

theorem admits_congr (same : after.active = before.active) (claim : Claim) :
    after.admits claim = before.admits claim := by
  simp only [admits, same]

theorem admitsAll_congr (same : after.active = before.active) (needs : List Claim) :
    after.AdmitsAll needs ↔ before.AdmitsAll needs := by
  simp only [AdmitsAll, admits_congr same]

theorem admitsAll_nil : world.AdmitsAll [] := by simp [AdmitsAll]

theorem admitsAll_cons_iff {claim : Claim} {needs : List Claim} :
    world.AdmitsAll (claim :: needs) ↔ world.admits claim ∧ world.AdmitsAll needs := by
  simp [AdmitsAll]

/-- A claim on one thing does not stand in the way of a claim on another. -/
theorem admits_acquire {claim need : Claim} (apart : claim.target ≠ need.target) :
    (world.acquire claim).admits need = world.admits need := by
  simp [admits, acquire, Claim.conflicts, apart]

theorem admitsAll_acquire_iff {claim : Claim} {needs : List Claim}
    (apart : ∀ need ∈ needs, claim.target ≠ need.target) :
    (world.acquire claim).AdmitsAll needs ↔ world.AdmitsAll needs := by
  refine forall₂_congr fun need member => ?_
  rw [admits_acquire (apart need member)]

theorem AdmitsAll.of_acquire {claim : Claim} {needs : List Claim}
    (admitted : (world.acquire claim).AdmitsAll needs) : world.AdmitsAll needs := by
  intro need member
  have both := admitted need member
  simp only [admits, acquire, List.all_cons, Bool.and_eq_true] at both
  exact both.2

/-- Whoever may write something is alone with it. -/
theorem target_ne_of_admits_writing {target : Target} (admits : world.admits ⟨target, .writing⟩)
    {held : Claim} (member : held ∈ world.active) : held.target ≠ target := by
  have apart := List.all_eq_true.mp admits held member
  simpa [Claim.conflicts] using apart

theorem grows_setEntries (id : StoreId) (entries : Entries Cell) :
    world.Grows (world.setEntries id entries) := by
  intro target made
  cases target with
  | store other => exact Nat.lt_of_lt_of_le made (world.stores.next_write_ge _ _)
  | buffer other => exact made

theorem grows_setElements (id : BufferId) (elements : List Scalar) :
    world.Grows (world.setElements id elements) := by
  intro target made
  cases target with
  | store other => exact made
  | buffer other => exact Nat.lt_of_lt_of_le made (world.buffers.next_write_ge _ _)

/-- What is claimed by nobody may change. -/
theorem follows_setEntries {id : StoreId} (admits : world.admits ⟨.store id, .writing⟩)
    (entries : Entries Cell) : world.Follows (world.setEntries id entries) where
  active := rfl
  held held member _ := by
    have apart := target_ne_of_admits_writing admits member
    cases same : held.target with
    | buffer other => rfl
    | store other =>
        have different : other ≠ id := fun equal => apart (by rw [same, equal])
        simp [SameAt, different]
  grows := grows_setEntries id entries

theorem follows_setElements {id : BufferId} (admits : world.admits ⟨.buffer id, .writing⟩)
    (elements : List Scalar) : world.Follows (world.setElements id elements) where
  active := rfl
  held held member _ := by
    have apart := target_ne_of_admits_writing admits member
    cases same : held.target with
    | store other => rfl
    | buffer other =>
        have different : other ≠ id := fun equal => apart (by rw [same, equal])
        simp [SameAt, different]
  grows := grows_setElements id elements

end World

/-! ## Programs -/

section Steps

variable {σ α β : Type}

/-- The end of a computation that leaves the state alone. -/
def settled (decided : Except Failure α) (state : σ) : EStateM.Result Failure σ α :=
  match decided with
  | .ok result => .ok result state
  | .error failure => .error failure state

theorem discard_settled {program : EStateM Failure σ α} {decided : Except Failure α} {state : σ}
    (runs : program state = settled decided state) :
    Functor.discard program state = settled (Functor.discard decided) state := by
  change EStateM.map (fun _ => ()) program state = _
  rw [EStateM.map, runs]
  cases decided <;> rfl

/-- Programs that settle what they yield without a change do so one after the other. -/
theorem mapM_settled {program : α → EStateM Failure σ β} {decided : α → Except Failure β}
    {state : σ} {list : List α}
    (runs : ∀ item ∈ list, program item state = settled (decided item) state) :
    list.mapM program state = settled (list.mapM decided) state := by
  induction list with
  | nil => rfl
  | cons item list ih =>
      obtain ⟨first, rest⟩ := List.forall_mem_cons.mp runs
      rw [List.mapM_cons, List.mapM_cons]
      cases decision : decided item with
      | error failure =>
          rw [decision] at first
          exact bind_of_error first
      | ok result =>
          rw [decision] at first
          refine (bind_of_ok first).trans ?_
          have others := ih rest
          cases listed : list.mapM decided with
          | error failure =>
              rw [listed] at others
              exact bind_of_error others
          | ok results =>
              rw [listed] at others
              exact bind_of_ok others

end Steps

/-- States that contain a world, with a way to compare them that tells all that it contains. -/
class Worldly (σ : Type) where
  world : σ → World
  Alike : σ → σ → Prop
  refl : ∀ state, Alike state state
  trans : ∀ {first second third}, Alike first second → Alike second third → Alike first third
  alike_world : ∀ {before after}, Alike before after → (world before).Alike (world after)

instance : Worldly World := ⟨id, World.Alike, World.Alike.refl, World.Alike.trans, id⟩

section Programs

variable {σ α β : Type} [Worldly σ]

open Worldly

/-- How a program that needs some claims ends. -/
inductive Ends (needs : List Claim) (before : σ) : EStateM.Result Failure σ α → Prop where
  | ok {result : α} {left : σ} (admitted : (world before).AdmitsAll needs)
      (follows : (world before).Follows (world left)) : Ends needs before (.ok result left)
  | refused {failure : Failure} {left : σ} (refuses : failure.Refuses)
      (conflict : ¬ (world before).AdmitsAll needs) (alike : Alike before left) :
      Ends needs before (.error failure left)
  | failed {cause : Error} {left : σ} (free : cause ≠ .busy)
      (admitted : (world before).AdmitsAll needs) (alike : Alike before left) :
      Ends needs before (.error (.error cause) left)
  | silent {failure : Failure} {left : σ} (silent : failure.Silent)
      (admitted : (∀ reason, failure ≠ .misfit reason) → (world before).AdmitsAll needs)
      (follows : (world before).Follows (world left)) : Ends needs before (.error failure left)

/-- In a state a program needs some claims: it is refused exactly if one of them conflicts with one
that is held, an error leaves everything alike, and what others have claimed is as it was. -/
def Conduct (needs : List Claim) (state : σ) (program : EStateM Failure σ α) : Prop :=
  Ends needs state (program state)

/-- The program tells no error and is never refused, and what others have claimed is as it was. -/
inductive Surely (before : σ) : EStateM.Result Failure σ α → Prop where
  | ok {result : α} {left : σ} (follows : (world before).Follows (world left)) :
      Surely before (.ok result left)
  | silent {failure : Failure} {left : σ} (silent : failure.Silent)
      (follows : (world before).Follows (world left)) : Surely before (.error failure left)

/-- Whatever the state, the program tells no error and is never refused. -/
def Sure (program : EStateM Failure σ α) : Prop :=
  ∀ state, Surely state (program state)

namespace Sure

theorem pure (result : α) : Sure (Pure.pure result : EStateM Failure σ α) :=
  fun state => .ok (.refl (world state))

theorem bind {program : EStateM Failure σ α} {next : α → EStateM Failure σ β}
    (first : Sure program) (rest : ∀ result, Sure (next result)) : Sure (program >>= next) := by
  intro state
  have begun := first state
  cases ran : program state with
  | ok result left =>
      rw [bind_of_ok ran]
      rw [ran] at begun
      cases begun with
      | ok before =>
          have continued := rest result left
          generalize next result left = outcome at continued
          cases continued with
          | ok after => exact .ok (before.trans after)
          | silent silent after => exact .silent silent (before.trans after)
  | error failure left =>
      rw [bind_of_error ran]
      rw [ran] at begun
      cases begun with
      | silent silent follows => exact .silent silent follows

theorem mapM {program : α → EStateM Failure σ β} (list : List α)
    (sure : ∀ item, Sure (program item)) : Sure (list.mapM program) := by
  induction list with
  | nil => exact pure _
  | cons item list ih =>
      rw [List.mapM_cons]
      exact (sure item).bind fun _ => ih.bind fun _ => pure _

end Sure

namespace Ends

variable {needs : List Claim} {state : σ}

/-- A failure that tells no refused claim may come once all claims that are needed are admitted. -/
theorem of_calm {failure : Failure} (calm : failure.Calm)
    (admitted : (world state).AdmitsAll needs) :
    Ends needs state (.error failure state : EStateM.Result Failure σ α) := by
  cases failure with
  | error cause =>
      refine .failed ?_ admitted (refl state)
      rintro rfl
      exact calm (.inl rfl)
  | fault cause =>
      refine .silent ?_ (fun _ => admitted) (.refl _)
      rintro rfl
      exact calm (.inr rfl)
  | misfit reason => exact .silent trivial (fun _ => admitted) (.refl _)

theorem of_misfits {failure : Failure} (misfits : failure.Misfits) :
    Ends needs state (.error failure state : EStateM.Result Failure σ α) := by
  cases failure with
  | misfit reason => exact .silent trivial (fun fits => absurd rfl (fits reason)) (.refl _)
  | error cause => exact misfits.elim
  | fault cause => exact misfits.elim

/-- Only the members of a list of needs count. -/
theorem congr {others : List Claim} {outcome : EStateM.Result Failure σ α}
    (ends : Ends needs state outcome) (same : ∀ claim, claim ∈ others ↔ claim ∈ needs) :
    Ends others state outcome := by
  have equal : (world state).AdmitsAll others ↔ (world state).AdmitsAll needs := by
    simp only [World.AdmitsAll, same]
  cases ends with
  | ok admitted follows => exact .ok (equal.mpr admitted) follows
  | refused refuses conflict alike => exact .refused refuses (mt equal.mp conflict) alike
  | failed free admitted alike => exact .failed free (equal.mpr admitted) alike
  | silent silent admitted follows =>
      exact .silent silent (fun fits => equal.mpr (admitted fits)) follows

/-- A claim that is admitted may be counted as needed. -/
theorem cons {claim : Claim} {outcome : EStateM.Result Failure σ α}
    (admits : (world state).admits claim) (ends : Ends needs state outcome) :
    Ends (claim :: needs) state outcome := by
  have all : (world state).AdmitsAll (claim :: needs) ↔ (world state).AdmitsAll needs :=
    World.admitsAll_cons_iff.trans (and_iff_right admits)
  cases ends with
  | ok admitted follows => exact .ok (all.mpr admitted) follows
  | refused refuses conflict alike => exact .refused refuses (mt all.mp conflict) alike
  | failed free admitted alike => exact .failed free (all.mpr admitted) alike
  | silent silent admitted follows =>
      exact .silent silent (fun fits => all.mpr (admitted fits)) follows

end Ends

namespace Conduct

variable {needs : List Claim} {state : σ}

theorem pure (result : α) : Conduct [] state (Pure.pure result : EStateM Failure σ α) :=
  .ok World.admitsAll_nil (.refl _)

theorem throw {failure : Failure} (calm : failure.Calm) :
    Conduct [] state (MonadExcept.throw failure : EStateM Failure σ α) :=
  .of_calm calm World.admitsAll_nil

theorem throw_bind {failure : Failure} {next : α → EStateM Failure σ β} (calm : failure.Calm) :
    Conduct [] state ((MonadExcept.throw failure : EStateM Failure σ α) >>= next) :=
  throw calm

theorem misfit_bind {next : α → EStateM Failure σ β} (reason : String) :
    Conduct needs state
      ((MonadExcept.throw (.misfit reason) : EStateM Failure σ α) >>= next) := by
  exact Ends.of_misfits trivial

/-- What succeeds and changes nothing that can be told needs no claim. -/
theorem bind_made {program : EStateM Failure σ α} {next : α → EStateM Failure σ β} {made : α}
    {left : σ} (ran : program state = .ok made left) (alike : Alike state left)
    (rest : Conduct needs left (next made)) : Conduct needs state (program >>= next) := by
  have admits := World.admitsAll_congr (alike_world alike).active needs
  unfold Conduct at rest ⊢
  rw [bind_of_ok ran]
  generalize next made left = outcome at rest
  cases rest with
  | ok admitted follows =>
      exact .ok (admits.mp admitted) ((alike_world alike).follows.trans follows)
  | refused refuses conflict further =>
      exact .refused refuses (mt admits.mpr conflict) (trans alike further)
  | failed free admitted further => exact .failed free (admits.mp admitted) (trans alike further)
  | silent silent admitted follows =>
      exact .silent silent (fun fits => admits.mp (admitted fits))
        ((alike_world alike).follows.trans follows)

theorem bind_found {program : EStateM Failure σ α} {next : α → EStateM Failure σ β} {found : α}
    (ran : program state = .ok found state) (rest : Conduct needs state (next found)) :
    Conduct needs state (program >>= next) :=
  bind_made ran (refl state) rest

/-- What comes afterwards cannot be refused, or nothing has changed yet and it needs no claim. -/
theorem bind_or {program : EStateM Failure σ α} {next : α → EStateM Failure σ β}
    (first : Conduct needs state program)
    (rest : ∀ result left, program state = .ok result left →
      Surely left (next result left) ∨ Alike state left ∧ Conduct [] left (next result)) :
    Conduct needs state (program >>= next) := by
  unfold Conduct at first ⊢
  cases ran : program state with
  | ok result left =>
      have continued := rest result left ran
      rw [bind_of_ok ran]
      rw [ran] at first
      unfold Conduct at continued
      generalize next result left = outcome at continued
      cases first with
      | ok admitted before =>
          rcases continued with continued | ⟨alike, continued⟩
          · cases continued with
            | ok after => exact .ok admitted (before.trans after)
            | silent silent after => exact .silent silent (fun _ => admitted) (before.trans after)
          · cases continued with
            | ok none after => exact .ok admitted (before.trans after)
            | refused refuses conflict further => exact absurd World.admitsAll_nil conflict
            | failed free none further => exact .failed free admitted (trans alike further)
            | silent silent none after =>
                exact .silent silent (fun _ => admitted) (before.trans after)
  | error failure left =>
      rw [bind_of_error ran]
      rw [ran] at first
      cases first with
      | refused refuses conflict alike => exact .refused refuses conflict alike
      | failed free admitted alike => exact .failed free admitted alike
      | silent silent admitted follows => exact .silent silent admitted follows

/-- After what changes nothing that can be told comes something that needs no claim. -/
theorem bind_quiet {program : EStateM Failure σ α} {next : α → EStateM Failure σ β}
    (first : Conduct needs state program)
    (quiet : ∀ result left, program state = .ok result left → Alike state left)
    (rest : ∀ result left, Conduct [] left (next result)) :
    Conduct needs state (program >>= next) :=
  first.bind_or fun result left ran => .inr ⟨quiet result left ran, rest result left⟩

/-- After what can be refused comes something that cannot. -/
theorem bind_sure {program : EStateM Failure σ α} {next : α → EStateM Failure σ β}
    (first : Conduct needs state program) (rest : ∀ result, Sure (next result)) :
    Conduct needs state (program >>= next) :=
  first.bind_or fun result left _ => .inl (rest result left)

/-- After a refusal nothing comes. -/
theorem bind_of_conflict {program : EStateM Failure σ α} {next : α → EStateM Failure σ β}
    (first : Conduct needs state program) (conflict : ¬ (world state).AdmitsAll needs) :
    Conduct needs state (program >>= next) := by
  unfold Conduct at first ⊢
  cases ran : program state with
  | ok result left =>
      rw [ran] at first
      cases first with
      | ok admitted follows => exact absurd admitted conflict
  | error failure left =>
      rw [bind_of_error ran]
      rw [ran] at first
      cases first with
      | refused refuses conflict alike => exact .refused refuses conflict alike
      | failed free admitted alike => exact .failed free admitted alike
      | silent silent admitted follows => exact .silent silent admitted follows

/-- What cannot be refused and tells no error needs no claim. -/
theorem of_sure {program : EStateM Failure σ α} (sure : Sure program) :
    Conduct [] state program := by
  have outcome := sure state
  unfold Conduct
  generalize program state = result at outcome
  cases outcome with
  | ok follows => exact .ok World.admitsAll_nil follows
  | silent silent follows => exact .silent silent (fun _ => World.admitsAll_nil) follows

/-- What is decided first may decide which claims are needed. -/
theorem bind_settled {program : EStateM Failure σ α} {next : α → EStateM Failure σ β}
    {decided : Except Failure α} (runs : program state = settled decided state)
    (calm : FailsOnly Failure.Calm decided) (claims : α → List Claim)
    (rest : ∀ result, decided = .ok result → Conduct (claims result) state (next result)) :
    Conduct (claimsOf decided.toOption claims) state (program >>= next) := by
  unfold Conduct
  cases decided with
  | ok result =>
      rw [bind_of_ok runs]
      exact rest result rfl
  | error failure =>
      rw [bind_of_error runs]
      exact .of_calm (calm failure rfl) World.admitsAll_nil

/-- What is decided first may need no claim at all. -/
theorem bind_calm {program : EStateM Failure σ α} {next : α → EStateM Failure σ β}
    {decided : Except Failure α} (runs : program state = settled decided state)
    (calm : FailsOnly Failure.Calm decided)
    (rest : ∀ result, decided = .ok result → Conduct [] state (next result)) :
    Conduct [] state (program >>= next) := by
  have conduct := bind_settled runs calm (fun _ => []) rest
  rwa [claimsOf_nil] at conduct

/-- What does not fit counts as needing anything. -/
theorem bind_misfits {program : EStateM Failure σ α} {next : α → EStateM Failure σ β}
    {decided : Except Failure α} (runs : program state = settled decided state)
    (misfits : FailsOnly Failure.Misfits decided)
    (rest : ∀ result, decided = .ok result → Conduct needs state (next result)) :
    Conduct needs state (program >>= next) := by
  unfold Conduct
  cases decided with
  | ok result =>
      rw [bind_of_ok runs]
      exact rest result rfl
  | error failure =>
      rw [bind_of_error runs]
      exact .of_misfits (misfits failure rfl)

end Conduct

theorem Sure.of_settled {program : EStateM Failure σ α} {decided : σ → Except Failure α}
    (runs : ∀ state, program state = settled (decided state) state)
    (silent : ∀ state, FailsOnly Failure.Silent (decided state)) : Sure program := by
  intro state
  rw [runs]
  cases ends : decided state with
  | ok result => exact .ok (.refl _)
  | error failure => exact .silent (silent state failure ends) (.refl _)

end Programs

/-! ## Programs over the world -/

theorem Op.ofExcept_apply {α : Type} (decided : Except Failure α) (world : World) :
    Op.ofExcept decided world = settled decided world := by
  cases decided <;> rfl

theorem Op.ofExcept_bind {α β : Type} (decided : Except Failure α) (next : α → Except Failure β) :
    Op.ofExcept (decided >>= next) =
      Op.ofExcept decided >>= fun result => Op.ofExcept (next result) := by
  cases decided <;> rfl

theorem Sure.ofExcept {α : Type} {decided : Except Failure α}
    (silent : FailsOnly Failure.Silent decided) : Sure (Op.ofExcept decided) :=
  of_settled (Op.ofExcept_apply decided) fun _ => silent

theorem World.Follows.release {world left : World} {claim : Claim}
    (follows : (world.acquire claim).Follows left) : world.Follows left.release where
  active := congrArg List.tail follows.active
  held held member made := follows.held held (List.mem_cons_of_mem _ member) made
  grows := follows.grows

theorem World.Alike.release {world left : World} {claim : Claim}
    (alike : (world.acquire claim).Alike left) : world.Alike left.release where
  contents := alike.contents
  hosts := alike.hosts
  active := congrArg List.tail alike.active
  grows := alike.grows

namespace Conduct

variable {α : Type} {needs : List Claim} {world : World}

theorem ofExcept {decided : Except Failure α} (calm : FailsOnly Failure.Calm decided) :
    Conduct [] world (Op.ofExcept decided) := by
  unfold Conduct
  rw [Op.ofExcept_apply]
  cases decided with
  | ok result => exact pure result
  | error failure => exact throw (calm failure rfl)

/-- Under a claim one can need claims on other things. -/
theorem holding {claim : Claim} {refusal : Failure} {program : Op α} (refuses : refusal.Refuses)
    (apart : ∀ need ∈ needs, claim.target ≠ need.target)
    (conduct : Conduct needs (world.acquire claim) program) :
    Conduct (claim :: needs) world (Op.holding claim refusal program) := by
  have further : (world.acquire claim).AdmitsAll needs ↔ world.AdmitsAll needs :=
    World.admitsAll_acquire_iff apart
  have all : world.AdmitsAll (claim :: needs) ↔ world.admits claim ∧ world.AdmitsAll needs :=
    World.admitsAll_cons_iff
  unfold Conduct at conduct ⊢
  unfold Op.holding
  split
  · rename_i admits
    generalize program (world.acquire claim) = outcome at conduct
    cases conduct with
    | ok admitted follows => exact .ok (all.mpr ⟨admits, further.mp admitted⟩) follows.release
    | refused refuses conflict alike =>
        exact .refused refuses (fun admitted => conflict (further.mpr (all.mp admitted).2))
          (World.Alike.release alike)
    | failed free admitted alike =>
        exact .failed free (all.mpr ⟨admits, further.mp admitted⟩) (World.Alike.release alike)
    | silent silent admitted follows =>
        exact .silent silent (fun fits => all.mpr ⟨admits, further.mp (admitted fits)⟩)
          follows.release
  · rename_i conflict
    exact .refused refuses (fun admitted => conflict (all.mp admitted).1) (.refl world)

theorem readingStore {id : StoreId} {refusal : Failure} {use : Entries Cell → Op α}
    (refuses : refusal.Refuses) (apart : ∀ need ∈ needs, .store id ≠ need.target)
    (conduct : Conduct needs (world.acquire ⟨.store id, .reading⟩) (use (world.entries id))) :
    Conduct (⟨.store id, .reading⟩ :: needs) world (id.reading refusal use) :=
  holding refuses apart conduct

/-- What is done with what was read from a store may need further claims, also on the same store. -/
theorem after_reading {β : Type} {id : StoreId} {refusal : Failure} {find : Entries Cell → α}
    {next : α → Op β} (refuses : refusal.Refuses)
    (rest : Conduct needs world (next (find (world.entries id)))) :
    Conduct (⟨.store id, .reading⟩ :: needs) world
      (id.reading refusal (fun entries => Pure.pure (find entries)) >>= next) := by
  have reads := id.reading_pure refusal find world
  unfold Conduct at rest ⊢
  split at reads
  · rename_i admits
    rw [bind_of_ok reads]
    exact rest.cons admits
  · rename_i conflict
    rw [bind_of_error reads]
    exact .refused refuses (fun admitted => conflict (World.admitsAll_cons_iff.mp admitted).1)
      (.refl world)

theorem readingBuffer {id : BufferId} {refusal : Failure} {use : List Scalar → Op α}
    (refuses : refusal.Refuses) (apart : ∀ need ∈ needs, .buffer id ≠ need.target)
    (conduct : Conduct needs (world.acquire ⟨.buffer id, .reading⟩) (use (world.elements id))) :
    Conduct (⟨.buffer id, .reading⟩ :: needs) world (id.reading refusal use) :=
  holding refuses apart conduct

/-- A success may be followed by a change that nobody else notices. -/
theorem amend {γ : Type} {program : Op (α × γ)} {amended : Op α}
    (conduct : Conduct needs world program) (change : World → γ → World)
    (runs : amended world =
      match program world with
      | .ok result left => .ok result.1 (change left result.2)
      | .error failure left => .error failure left)
    (unnoticed : ∀ left content, world.AdmitsAll needs → world.Follows left →
      left.Follows (change left content)) : Conduct needs world amended := by
  unfold Conduct at conduct ⊢
  rw [runs]
  generalize program world = outcome at conduct
  cases conduct with
  | @ok result left admitted follows =>
      exact .ok admitted (follows.trans (unnoticed left result.2 admitted follows))
  | refused refuses conflict alike => exact .refused refuses conflict alike
  | failed free admitted alike => exact .failed free admitted alike
  | silent silent admitted follows => exact .silent silent admitted follows

/-- What is put into a store that is claimed for writing was claimed by nobody else. -/
theorem writingStore {id : StoreId} {use : Entries Cell → Op (α × Entries Cell)}
    (apart : ∀ need ∈ needs, .store id ≠ need.target)
    (conduct : Conduct needs (world.acquire ⟨.store id, .writing⟩) (use (world.entries id))) :
    Conduct (⟨.store id, .writing⟩ :: needs) world (id.writing use) := by
  refine (holding (.inl rfl) apart conduct).amend (fun left entries => left.setEntries id entries)
    ?_ fun left entries admitted follows => ?_
  · rw [StoreId.writing_apply, Op.holding]
    split
    · cases use (world.entries id) (world.acquire ⟨.store id, .writing⟩) <;> rfl
    · rfl
  · have admits := (World.admitsAll_cons_iff.mp admitted).1
    rw [← World.admits_congr follows.active] at admits
    exact World.follows_setEntries admits entries

/-- What is put into a buffer that is claimed for writing was claimed by nobody else. -/
theorem writingBuffer {id : BufferId} {use : List Scalar → Op (α × List Scalar)}
    (apart : ∀ need ∈ needs, .buffer id ≠ need.target)
    (conduct : Conduct needs (world.acquire ⟨.buffer id, .writing⟩) (use (world.elements id))) :
    Conduct (⟨.buffer id, .writing⟩ :: needs) world (id.writing use) := by
  refine (holding (.inl rfl) apart conduct).amend
    (fun left elements => left.setElements id elements) ?_ fun left elements admitted follows => ?_
  · rw [BufferId.writing_apply, Op.holding]
    split
    · cases use (world.elements id) (world.acquire ⟨.buffer id, .writing⟩) <;> rfl
    · rfl
  · have admits := (World.admitsAll_cons_iff.mp admitted).1
    rw [← World.admits_congr follows.active] at admits
    exact World.follows_setElements admits elements

end Conduct

end PathStore
