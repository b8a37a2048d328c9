import PathStore.Proofs.Session.Origins
import PathStore.Proofs.Session.Refusals
import PathStore.Proofs.World.Inquiries

/-!
# What is lent is left alone

While an access runs its body, nothing that is done there changes the store or buffer that it claims.
If the claim is for reading, whoever asks about the store or buffer is told what was to be told
before; otherwise nobody else gets at it. This is so for bodies of any length and depth.
-/

namespace PathStore

open Failure

namespace World

variable {world : World} {target : Target} {claims : List Claim}

theorem admits_iff {need : Claim} :
    world.admits need ↔ ∀ held ∈ world.active, ¬ held.conflicts need := by
  simp [admits]

theorem admits_reading_iff :
    world.admits ⟨target, .reading⟩ ↔
      ∀ held ∈ world.active, held.target = target → held.mode = .reading := by
  simp only [admits_iff, Claim.conflicts_iff, reduceCtorEq, or_false, not_and]
  refine forall₂_congr fun held _ => imp_congr_right fun _ => ?_
  cases held.mode <;> simp

/-- Further claims that are admitted where something is read do not keep others from reading it. -/
theorem admits_reading_under (held : ⟨target, .reading⟩ ∈ world.active)
    (admits : world.admits ⟨target, .reading⟩) (admitted : world.AdmitsAll claims) :
    (world.under claims).admits ⟨target, .reading⟩ := by
  rw [admits_reading_iff] at admits ⊢
  intro claim member same
  obtain further | before := List.mem_append.mp member
  · have apart := admits_iff.mp (admitted claim further) _ held
    rw [Claim.conflicts_iff] at apart
    cases reads : claim.mode with
    | reading => rfl
    | writing => exact (apart ⟨same.symm, .inr reads⟩).elim
  · exact admits claim before same

/-- What reads a store or buffer leaves it to be read. -/
theorem admits_under_reading (admits : world.admits ⟨target, .reading⟩)
    (reading : ∀ claim ∈ claims, claim.mode = .reading) :
    (world.under claims).admits ⟨target, .reading⟩ := by
  rw [admits_reading_iff] at admits ⊢
  intro claim member same
  obtain further | before := List.mem_append.mp member
  · exact reading claim further
  · exact admits claim before same

end World

/-- Whether an access reads or writes what it claims. -/
def Access.mode : Access → Mode
  | .readBuffer _ | .readBlock _ | .readStored _ _ _ | .readStoredOr _ _ _ _ | .readEntry _ _
  | .readEntryCell _ => .reading
  | .writeVariable _ _ _ | .writeCell _ _ _ | .writeBuffer _ _ | .writeBlock _ _
  | .writeStored _ _ _ _ | .writeStoredCell _ _ _ _ | .writeEntry _ _ _ => .writing

theorem mode_of_mem_claimsOf {α : Type} {found : Option α} {claims : α → List Claim} {mode : Mode}
    (each : ∀ item, ∀ claim ∈ claims item, claim.mode = mode) :
    ∀ claim ∈ claimsOf found claims, claim.mode = mode := by
  cases found with
  | none => exact List.forall_mem_nil _
  | some item => exact each item

namespace Session

variable (session : Session)

theorem mode_of_mem_handleClaims (map : String) (mode : Mode) :
    ∀ claim ∈ session.handleClaims map mode, claim.mode = mode :=
  mode_of_mem_claimsOf fun _ => List.forall_mem_singleton.mpr rfl

theorem mode_of_mem_bufferClaims (name : String) (mode : Mode) :
    ∀ claim ∈ session.bufferClaims name mode, claim.mode = mode :=
  mode_of_mem_claimsOf fun _ => List.forall_mem_singleton.mpr rfl

theorem mode_of_mem_entryClaims (name : String) (mode : Mode) :
    ∀ claim ∈ session.entryClaims name mode, claim.mode = mode :=
  mode_of_mem_claimsOf fun _ => List.forall_mem_singleton.mpr rfl

end Session

theorem Block.mode_of_mem_claims (block : Block) (mode : Mode) :
    ∀ claim ∈ block.claims mode, claim.mode = mode := by
  unfold claims
  split
  · exact List.forall_mem_singleton.mpr rfl
  · exact List.forall_mem_nil _

theorem Place.mode_of_mem_claims (place : Place) (session : Session) (mode : Mode) :
    ∀ claim ∈ place.claims session mode, claim.mode = mode := by
  cases place with
  | «variable» name => exact List.forall_mem_nil _
  | stored map key elem => exact session.mode_of_mem_handleClaims map mode
  | entry name elem => exact session.mode_of_mem_entryClaims name mode
  | cell name elem => exact List.forall_mem_nil _

/-- All claims of an access are for the same. -/
theorem Access.mode_of_mem_claims (access : Access) (session : Session) :
    ∀ claim ∈ access.claims session, claim.mode = access.mode := by
  cases access with
  | writeVariable name type set => exact List.forall_mem_nil _
  | writeCell name type set => exact List.forall_mem_nil _
  | readBuffer name => exact session.mode_of_mem_bufferClaims name .reading
  | writeBuffer name fill => exact session.mode_of_mem_bufferClaims name .writing
  | readBlock place =>
      refine List.forall_mem_append.mpr ⟨?_, place.mode_of_mem_claims session .reading⟩
      exact mode_of_mem_claimsOf fun _ => mode_of_mem_claimsOf fun block =>
        block.mode_of_mem_claims .reading
  | writeBlock place fill =>
      refine List.forall_mem_append.mpr ⟨?_, place.mode_of_mem_claims session .writing⟩
      exact mode_of_mem_claimsOf fun _ => mode_of_mem_claimsOf fun block =>
        block.mode_of_mem_claims .writing
  | readStored map key type => exact session.mode_of_mem_handleClaims map .reading
  | readStoredOr map key type default => exact session.mode_of_mem_handleClaims map .reading
  | writeStored map key type set => exact session.mode_of_mem_handleClaims map .writing
  | writeStoredCell map key set empty => exact session.mode_of_mem_handleClaims map .writing
  | readEntry name type => exact session.mode_of_mem_entryClaims name .reading
  | writeEntry name type set => exact session.mode_of_mem_entryClaims name .writing
  | readEntryCell name => exact session.mode_of_mem_entryClaims name .reading

/-! ## What runs leave alone -/

namespace Step

namespace Passes

variable {steps remaining : List Step} {session now : Session} {frames : List Frame}

/-- What is claimed at the beginning of a run stays as it is. -/
theorem sameAt (passes : Passes steps session frames remaining now) {claim : Claim}
    (held : claim ∈ session.world.active) (made : claim.target.Made session.world) :
    session.world.SameAt now.world claim.target := by
  induction passes with
  | here => exact .refl _ _
  | @later step rest remaining session now frames passes ih =>
      have follows := step.follows_world_run session
      exact (follows.held claim held made).trans
        (ih (follows.active.symm ▸ held) (follows.grows _ made))
  | @inside access body rest remaining session inner now frames lends passes ih =>
      have world := lends.opening.2.1
      rw [world] at ih
      exact ih (List.mem_append_right _ held) made

/-- What is read at the beginning of a run, and may be, may be read at each of its moments. -/
theorem admits_reading (passes : Passes steps session frames remaining now) {target : Target}
    (held : ⟨target, .reading⟩ ∈ session.world.active)
    (admits : session.world.admits ⟨target, .reading⟩) :
    now.world.admits ⟨target, .reading⟩ := by
  induction passes with
  | here => exact admits
  | @later step rest remaining session now frames passes ih =>
      have same := (step.follows_world_run session).active
      exact ih (same.symm ▸ held) ((World.admits_congr same _).trans admits)
  | @inside access body rest remaining session inner now frames lends passes ih =>
      obtain ⟨admitted, world, -⟩ := lends.opening
      rw [world] at ih
      exact ih (List.mem_append_right _ held) (World.admits_reading_under held admits admitted)

end Passes

/-- How things are at a moment if a claim on a store or buffer is held since it was taken up in a
session. What it is on contains the same. If it is for reading, that may still be read, and whoever
asks or makes a copy is told the same as in the session. Whoever needs what the claim excludes does
not get it, and every step that needs it is refused. -/
structure Isolated (claim : Claim) (session now : Session) : Prop where
  contents : session.world.SameAt now.world claim.target
  admits : claim.mode = .reading → now.world.admits ⟨claim.target, .reading⟩
  reads : claim.mode = .reading → ∀ {α : Type} {program : Op α}, Asks claim.target program →
    ∃ decided, program session.world = settled decided session.world ∧
      program now.world = settled decided now.world
  copies : claim.mode = .reading → ∀ (handle : Handle) (refusal : Failure),
    claim.target = .store handle.store →
      ∃ copy left again later, handle.copy refusal session.world = .ok copy left ∧
        handle.copy refusal now.world = .ok again later ∧
        again.location = copy.location ∧ later.entries again.store = left.entries copy.store
  shuts : ∀ mode, claim.mode = .writing ∨ mode = .writing →
    ∀ {α : Type} (refusal : Failure) (program : Op α),
      Op.holding ⟨claim.target, mode⟩ refusal program now.world = .error refusal now.world
  refuses : ∀ step : Step, ∀ needed ∈ step.needs now, needed.target = claim.target →
    claim.mode = .writing ∨ needed.mode = .writing → step.Fits now → step.Refused now

variable {steps body rest remaining : List Step} {outer frames : List Frame} {access : Access}
  {session inner now : Session} {claim : Claim}

/-- What an access claims, it claims in the session in which its body is run. -/
theorem active_of_lends (lends : access.Lends session inner)
    (held : claim ∈ access.claims session) : claim ∈ inner.world.active := by
  rw [lends.opening.2.1]
  exact List.mem_append_left _ held

/-- What an access claims contains the same at each moment of its body. -/
theorem sameAt_of_lends (complete : session.Complete) (lends : access.Lends session inner)
    (held : claim ∈ access.claims session) (passes : Passes body inner frames remaining now) :
    session.world.SameAt now.world claim.target := by
  have world := lends.opening.2.1
  have made : claim.target.Made session.world := complete.bears_claims access claim held
  have same := passes.sameAt (active_of_lends lends held) (world ▸ made)
  rw [world] at same
  exact same

/-- What an access reads could be read before it, and can be read at each moment of its body. -/
theorem readable_of_lends (lends : access.Lends session inner)
    (held : claim ∈ access.claims session) (reading : claim.mode = .reading)
    (passes : Passes body inner frames remaining now) :
    session.world.admits ⟨claim.target, .reading⟩ ∧ now.world.admits ⟨claim.target, .reading⟩ := by
  obtain ⟨admitted, world, -⟩ := lends.opening
  have early : session.world.admits ⟨claim.target, .reading⟩ := reading ▸ admitted claim held
  have all : ∀ other ∈ access.claims session, other.mode = .reading := by
    intro other member
    rw [access.mode_of_mem_claims session other member,
      ← access.mode_of_mem_claims session claim held, reading]
  refine ⟨early, passes.admits_reading (reading ▸ active_of_lends lends held) ?_⟩
  rw [world]
  exact World.admits_under_reading early all

theorem isolated_of_lends (complete : session.Complete) (lends : access.Lends session inner)
    (held : claim ∈ access.claims session) (passes : Passes body inner frames remaining now) :
    Isolated claim session now := by
  have contents := sameAt_of_lends complete lends held passes
  have readable := fun reading => readable_of_lends lends held reading passes
  have still : claim ∈ now.world.active := by
    rw [passes.active]
    exact List.mem_append_right _ (active_of_lends lends held)
  refine { contents, admits := fun reading => (readable reading).2, reads := ?reads,
           copies := ?copies, shuts := ?shuts, refuses := ?refuses }
  case reads =>
    intro reading α program asks
    obtain ⟨early, late⟩ := readable reading
    exact asks.reads session.world now.world contents (early.trans late.symm)
  case copies =>
    intro reading handle refusal same
    rw [same] at contents readable
    obtain ⟨early, late⟩ := readable reading
    obtain ⟨copy, left, copied, root, all⟩ := handle.copy_admitted refusal early
    obtain ⟨again, later, recopied, top, equal⟩ := handle.copy_admitted refusal late
    have unchanged : now.world.entries handle.store = session.world.entries handle.store := contents
    exact ⟨copy, left, again, later, copied, recopied, top.trans root.symm,
      (equal.trans (congrArg _ unchanged)).trans all.symm⟩
  case shuts =>
    intro mode conflict α refusal program
    refine Op.holding_refused (Bool.eq_false_iff.mpr fun admits => ?_)
    exact World.admits_iff.mp admits claim still (Claim.conflicts_iff.mpr ⟨rfl, conflict⟩)
  case refuses =>
    intro step needed member same conflict fits
    exact (step.refused_iff now).mpr
      ⟨fits, claim, still, needed, member, Claim.conflicts_iff.mpr ⟨same.symm, conflict⟩⟩

/-- Whenever an access runs its body in a session that is reached from a new one, each store or buffer
that it claims contains the same at the end of the body as at its beginning, and is isolated at each
moment of the body. -/
theorem isolated_while_lent
    (reached : Passes steps default outer (.lend access body :: rest) session)
    (lends : access.Lends session inner) (held : claim ∈ access.claims session) :
    inner.world.SameAt (runAll body inner).2.world claim.target ∧
      ∀ frames remaining now, Passes body inner frames remaining now →
        Isolated claim session now := by
  have complete := reached.complete Session.complete_default
  have isolated {frames remaining now} (passes : Passes body inner frames remaining now) :=
    isolated_of_lends complete lends held passes
  have world := lends.opening.2.1
  refine ⟨?_, fun frames remaining now => isolated⟩
  rw [world]
  exact (isolated (.atEnd body inner)).contents

/-- While a value is read, nothing in the body changes its store, the keys that are listed are those
that were there before, and storing a value is refused. -/
theorem isolated_while_lent_storing :
    Passes [.act (.map .create) (some "map"), storing, .lend keyReading [storing]] default []
        [.lend keyReading [storing]] keyStored ∧
      keyReading.Lends keyStored keyRead ∧
      ⟨.store ⟨0⟩, .reading⟩ ∈ keyReading.claims keyStored ∧
      keyRead.world.SameAt (runAll [storing] keyRead).2.world (.store ⟨0⟩) ∧
      (∃ decided, (Handle.mk ⟨0⟩ .root).keys keyStored.world = settled decided keyStored.world ∧
        (Handle.mk ⟨0⟩ .root).keys keyRead.world = settled decided keyRead.world) ∧
      storing.Refused keyRead := by
  have reached : Passes [.act (.map .create) (some "map"), storing, .lend keyReading [storing]]
      default [] [.lend keyReading [storing]] keyStored := .later (.later (.here _ _))
  have held : ⟨.store ⟨0⟩, .reading⟩ ∈ keyReading.claims keyStored := .head _
  obtain ⟨same, isolated⟩ := isolated_while_lent reached lends_keyReading held
  have atBeginning := isolated [] [storing] keyRead (.here _ _)
  have needed : ⟨.store ⟨0⟩, .writing⟩ ∈ storing.needs keyRead := .head _
  have failed : storing.task keyRead = .error .busy keyRead := rfl
  have fits : storing.Fits keyRead := fun reason left same => by cases failed.symm.trans same
  exact ⟨reached, lends_keyReading, held, same, atBeginning.reads rfl (.keys ⟨⟨0⟩, .root⟩),
    atBeginning.refuses storing _ needed rfl (.inr rfl) fits⟩

end Step

end PathStore
