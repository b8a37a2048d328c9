import PathStore.Proofs.Session.Moments

/-!
# Why steps are refused

A step is refused exactly if one of the claims that it needs conflicts with one that is held, and
what is held at a moment is held by the accesses that are running their bodies. So no step is refused
outside of bodies, however often it uses the same store, and none holds anything after its end.
-/

namespace PathStore

open Failure

/-- Two claims exclude each other if both are on the same store or buffer, and not both for reading. -/
theorem Claim.conflicts_iff {held needed : Claim} :
    held.conflicts needed ↔
      held.target = needed.target ∧ (held.mode = .writing ∨ needed.mode = .writing) := by
  simp [conflicts]

/-- Some claim that is held excludes one that is needed. -/
theorem World.not_admitsAll_iff {world : World} {needs : List Claim} :
    ¬ world.AdmitsAll needs ↔
      ∃ held ∈ world.active, ∃ needed ∈ needs, held.conflicts needed := by
  simp only [AdmitsAll, admits, List.all_eq_true, Bool.not_eq_true', not_forall, exists_prop,
    Bool.not_eq_false]
  constructor
  · rintro ⟨needed, member, held, active, conflict⟩
    exact ⟨held, active, needed, member, conflict⟩
  · rintro ⟨held, active, needed, member, conflict⟩
    exact ⟨needed, member, held, active, conflict⟩

namespace Step

/-- The step fails because of a claim that it cannot get. -/
def Refused (step : Step) (session : Session) : Prop :=
  ∃ failure left, failure.Refuses ∧ step.task session = .error failure left

/-- The step does not fail because of what it names. -/
def Fits (step : Step) (session : Session) : Prop :=
  ∀ reason left, step.task session ≠ .error (.misfit reason) left

/-- A step that fits is refused exactly if a claim that it needs conflicts with one that is held. -/
theorem refused_iff (step : Step) (session : Session) :
    step.Refused session ↔
      step.Fits session ∧
        ∃ held ∈ session.world.active, ∃ needed ∈ step.needs session, held.conflicts needed := by
  rw [← World.not_admitsAll_iff]
  have conduct := step.conduct_task session
  unfold Conduct at conduct
  unfold Refused Fits
  generalize step.task session = outcome at conduct
  cases conduct with
  | ok admitted follows => simp [show session.world.AdmitsAll _ from admitted]
  | @refused failure left refuses conflict alike =>
      refine iff_of_true ⟨failure, left, refuses, rfl⟩ ⟨?_, conflict⟩
      rintro reason other same
      cases same
      exact refuses.elim nofun nofun
  | @failed cause left free admitted alike =>
      refine iff_of_false ?_ fun fits => fits.2 admitted
      rintro ⟨failure, other, refuses, same⟩
      cases same
      exact refuses.elim (fun busy => free (Failure.error.inj busy)) nofun
  | @silent failure left silent admitted follows =>
      refine iff_of_false ?_ fun fits => fits.2 (admitted fun reason same => fits.1 reason left ?_)
      · rintro ⟨found, other, refuses, same⟩
        cases same
        exact silent.calm refuses
      · rw [same]

/-- At any moment of a run from a new session, what is held is held by the accesses that are running
their bodies. The next step is refused exactly if it fits and needs a claim that one of these
excludes, so never outside of all bodies. When it ends, however it ends, the same claims are held. -/
theorem refused_iff_enclosed {steps rest : List Step} {step : Step} {frames : List Frame}
    {now : Session} (passes : Passes steps default frames (step :: rest) now) :
    now.world.active = frames.flatMap Frame.claims ∧
      (step.Refused now ↔
        step.Fits now ∧
          ∃ frame ∈ frames, ∃ held ∈ frame.claims, ∃ needed ∈ step.needs now,
            held.target = needed.target ∧ (held.mode = .writing ∨ needed.mode = .writing)) ∧
      (frames = [] → ¬ step.Refused now) ∧
      (step.run now).2.world.active = now.world.active := by
  have active : now.world.active = frames.flatMap Frame.claims := by
    rw [passes.active]
    exact List.append_nil _
  have refused : step.Refused now ↔ step.Fits now ∧
      ∃ frame ∈ frames, ∃ held ∈ frame.claims, ∃ needed ∈ step.needs now,
        held.target = needed.target ∧ (held.mode = .writing ∨ needed.mode = .writing) := by
    rw [refused_iff, active]
    simp only [← Claim.conflicts_iff, List.mem_flatMap]
    refine and_congr_right fun _ => ?_
    constructor
    · rintro ⟨held, ⟨frame, running, holds⟩, conflict⟩
      exact ⟨frame, running, held, holds, conflict⟩
    · rintro ⟨frame, running, held, holds, conflict⟩
      exact ⟨held, ⟨frame, running, holds⟩, conflict⟩
  refine ⟨active, refused, ?_, (step.follows_world_run now).active⟩
  rintro rfl
  rw [refused]
  rintro ⟨-, frame, member, -⟩
  cases member

/-- Store a value under a key of a map. -/
def storing : Step := .act (.map (.update "map" "key" (.scalar (.bool true)))) none

/-- Lend the value under that key for reading. -/
def keyReading : Access := .readStored "map" "key" ⟨.scalar, .bool⟩

/-- A session with a map that has a value under that key. -/
def keyStored : Session := (runAll [.act (.map .create) (some "map"), storing] default).2

/-- The same session while the value is read. -/
def keyRead : Session := ⟨keyStored.world.under [⟨.store ⟨0⟩, .reading⟩], keyStored.bindings⟩

theorem lends_keyReading : keyReading.Lends keyStored keyRead :=
  .of_runs
    (fun done => .ok (.valueRead (.scalar (.bool true)) done.1)
      ⟨done.2.world.release, done.2.bindings⟩)
    (fun _ => rfl) fun _ => .ok rfl

/-- A body that stores a value in the map that it reads from is refused to do so, because of the
access that it is the body of. -/
theorem refused_iff_enclosed_storing :
    Passes [.act (.map .create) (some "map"), storing, .lend keyReading [storing]] default
        [⟨keyReading, keyStored⟩] [storing] keyRead ∧
      keyRead.world.active = Frame.claims ⟨keyReading, keyStored⟩ ∧ storing.Refused keyRead := by
  have passes : Passes [.act (.map .create) (some "map"), storing, .lend keyReading [storing]]
      default [⟨keyReading, keyStored⟩] [storing] keyRead :=
    .later (.later (.inside lends_keyReading (.here _ _)))
  obtain ⟨active, refused, -⟩ := refused_iff_enclosed passes
  have failed : storing.task keyRead = .error .busy keyRead := rfl
  have fits : storing.Fits keyRead := fun reason left same => by cases failed.symm.trans same
  have held : ⟨.store ⟨0⟩, .reading⟩ ∈ Frame.claims ⟨keyReading, keyStored⟩ := .head _
  have needed : ⟨.store ⟨0⟩, .writing⟩ ∈ storing.needs keyRead := .head _
  exact ⟨passes, active, refused.mpr ⟨fits, _, .head _, _, held, _, needed, rfl, .inr rfl⟩⟩

end Step

end PathStore
