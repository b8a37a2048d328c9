import PathStore.Proofs.Session.Lending

/-!
# The moments of a run

A run of steps passes from one moment to the next: before and after every step, and before and after
every step of a body while the access that lends something to it goes on. At such a moment some
accesses are running their bodies, each within the one before, and some steps are still to be run.
What is claimed at a moment is what these accesses hold.
-/

namespace PathStore

open Failure

/-- The owners tell apart the ways in which an access can end. -/
theorem Rounded.hosts_eq {one other : World} {outcome : EStateM.Result Failure Session Answer}
    (left : Rounded one outcome) (right : Rounded other outcome) : one.hosts = other.hosts := by
  cases left with
  | ok hosts =>
      cases right with
      | ok others => exact hosts.symm.trans others
  | silent silent hosts =>
      cases right with
      | silent silent others => exact hosts.symm.trans others

/-! ## Accesses that run their bodies -/

namespace Access

variable {access : Access} {session inner : Session}

/-- The access runs its body, whatever that is, in a certain session: what the access does depends on
its body, and only on what the body makes of that session. -/
def Lends (access : Access) (session inner : Session) : Prop :=
  ∃ finish : List Answer × Session → EStateM.Result Failure Session Answer,
    (∀ body, access.run body session = finish (body inner)) ∧ ∃ one other, finish one ≠ finish other

/-- A session in which the body is run can be told from what the access does. -/
theorem Lends.of_runs (finish : List Answer × Session → EStateM.Result Failure Session Answer)
    (runs : ∀ body, access.run body session = finish (body inner))
    (rounded : ∀ done, Rounded done.2.world (finish done)) : access.Lends session inner := by
  refine ⟨finish, runs, ([], ⟨⟨⟨[]⟩, ⟨[]⟩, ⟨[]⟩, []⟩, []⟩), ([], ⟨⟨⟨[]⟩, ⟨[]⟩, ⟨[none]⟩, []⟩, []⟩), ?_⟩
  intro same
  have hosts := Rounded.hosts_eq (rounded _) (same ▸ rounded _)
  cases hosts

/-- What an access does differs for some bodies that treat all other sessions alike. -/
theorem Lends.session_eq {other : Session} (left : access.Lends session inner)
    (right : access.Lends session other) : inner = other := by
  classical
  obtain ⟨finish, runs, -⟩ := left
  obtain ⟨finishOther, runsOther, one, two, apart⟩ := right
  by_contra different
  let body done : Body := fun found => if found = other then done else one
  have same done : finish one = finishOther done := by
    have ran := (runs (body done)).symm.trans (runsOther (body done))
    simpa [body, different] using ran
  exact apart ((same one).symm.trans (same two))

theorem Lends.not_constant {outcome : EStateM.Result Failure Session Answer}
    (lends : access.Lends session inner) : ¬ ∀ body, access.run body session = outcome := by
  obtain ⟨finish, runs, one, other, apart⟩ := lends
  intro constant
  have ends done : finish done = outcome := (runs fun _ => done).symm.trans (constant _)
  exact apart ((ends one).trans (ends other).symm)

/-- An access runs its body in one session, or for some reason does nothing at all. -/
theorem lends_or_closed (access : Access) (session : Session) :
    (∃ inner, access.Lends session inner) ∨
      ∃ failure, ∀ body, access.run body session = .error failure session := by
  obtain ⟨bindings, -, opening⟩ := access.lends_run session
  cases opening with
  | closed failure runs => exact .inr ⟨failure, runs⟩
  | opened admitted finish runs rounded => exact .inl ⟨_, .of_runs finish runs rounded⟩

/-- A body is run under the claims of its access, all of which were admitted, with variables of the
session. -/
theorem Lends.opening (lends : access.Lends session inner) :
    session.world.AdmitsAll (access.claims session) ∧
      inner.world = session.world.under (access.claims session) ∧
      inner.bindings ⊆ session.bindings := by
  obtain ⟨bindings, inside, opening⟩ := access.lends_run session
  cases opening with
  | closed failure runs => exact (lends.not_constant runs).elim
  | opened admitted finish runs rounded =>
      obtain rfl := lends.session_eq (.of_runs finish runs rounded)
      exact ⟨admitted, rfl, inside⟩

/-- An access that tells an error has not run its body, and has done nothing. -/
theorem not_lends_of_error {body : Body} {cause : Error} {left : Session}
    (failed : access.run body session = .error (.error cause) left) :
    left = session ∧ ∀ inner, ¬ access.Lends session inner := by
  obtain ⟨bindings, -, opening⟩ := access.lends_run session
  cases opening with
  | closed failure runs =>
      cases (runs body).symm.trans failed
      exact ⟨rfl, fun inner lends => lends.not_constant runs⟩
  | opened admitted finish runs rounded =>
      have ended := rounded (body ⟨session.world.under (access.claims session), bindings⟩)
      rw [(runs body).symm.trans failed] at ended
      cases ended with
      | silent silent hosts => exact silent.elim

end Access

/-! ## Steps -/

namespace Step

/-- What a step does, with its failure if it fails. -/
def task : Step → Task Answer
  | .act action into => do Outcome.store into (← action.run)
  | .lend access body => access.run (runAll body)
  | .unreadable reason => throw (.misfit reason)

theorem run_eq_settle (step : Step) (session : Session) :
    step.run session = step.task.settle session := by
  cases step <;> rw [run] <;> rfl

theorem runAll_cons (step : Step) (rest : List Step) (session : Session) :
    (runAll (step :: rest) session).2 = (runAll rest (step.run session).2).2 := by
  rw [runAll]

end Step

theorem Conduct.follows_settle {needs : List Claim} {task : Task Answer} {session : Session}
    (conduct : Conduct needs session task) :
    session.world.Follows (task.settle session).2.world := by
  unfold Conduct at conduct
  unfold Task.settle
  generalize task session = outcome at conduct
  cases conduct with
  | ok admitted follows => exact follows
  | refused refuses conflict alike => exact alike.world.follows
  | failed free admitted alike => exact alike.world.follows
  | silent silent admitted follows => exact follows

mutual

/-- A step is refused exactly if one of its claims conflicts with one that is held. -/
theorem Step.conduct_task (step : Step) (session : Session) :
    Conduct (step.needs session) session step.task := by
  cases step with
  | act action into => exact action.conduct_run.bind_sure fun outcome => outcome.sure_store into
  | lend access body => exact access.conduct_run (Step.follows_body body)
  | unreadable reason => exact Conduct.throw (by simp [Calm, Refuses, busy, locked])

/-- A run of steps gives up what it claims and leaves alone what others have claimed. -/
theorem Step.follows_body (body : List Step) : Body.Follows (Step.runAll body) := by
  intro session
  cases body with
  | nil => exact .refl session.world
  | cons step rest =>
      have first := (Step.conduct_task step session).follows_settle
      rw [← step.run_eq_settle] at first
      rw [Step.runAll_cons]
      exact first.trans (Step.follows_body rest (step.run session).2)

end

theorem Step.follows_world_run (step : Step) (session : Session) :
    session.world.Follows (step.run session).2.world := by
  rw [step.run_eq_settle]
  exact (step.conduct_task session).follows_settle

/-! ## Moments -/

/-- An access that is running its body, with the session in which it was begun. -/
structure Frame where
  access : Access
  session : Session

/-- What an access holds while its body runs. -/
def Frame.claims (frame : Frame) : List Claim := frame.access.claims frame.session

/-- Steps that are begun in a session come to a moment: some accesses are running their bodies, the
innermost one first, and some steps are still to be run in the innermost body, from a session that is
reached by then. -/
inductive Step.Passes : List Step → Session → List Frame → List Step → Session → Prop where
  /-- It is the beginning. -/
  | here (steps : List Step) (session : Session) : Passes steps session [] steps session
  /-- It comes after the first step. -/
  | later {step : Step} {rest remaining : List Step} {session now : Session} {frames : List Frame}
      (passes : Passes rest (step.run session).2 frames remaining now) :
      Passes (step :: rest) session frames remaining now
  /-- It comes in the body of the first step. -/
  | inside {access : Access} {body rest remaining : List Step} {session inner now : Session}
      {frames : List Frame} (lends : access.Lends session inner)
      (passes : Passes body inner frames remaining now) :
      Passes (.lend access body :: rest) session (frames ++ [⟨access, session⟩]) remaining now

namespace Step.Passes

variable {steps remaining : List Step} {session now : Session} {frames : List Frame}

/-- What is claimed at a moment is what was claimed at the beginning, and what the accesses hold that
are running their bodies. -/
theorem active (passes : Passes steps session frames remaining now) :
    now.world.active = frames.flatMap Frame.claims ++ session.world.active := by
  induction passes with
  | here => rfl
  | @later step rest remaining session now frames passes ih =>
      rw [ih, (step.follows_world_run session).active]
  | @inside access body rest remaining session inner now frames lends passes ih =>
      rw [ih, lends.opening.2.1]
      simp [World.under, Frame.claims]

/-- Whatever has been made at the beginning is there at each moment. -/
theorem grows (passes : Passes steps session frames remaining now) :
    session.world.Grows now.world := by
  induction passes with
  | here => exact fun _ made => made
  | @later step rest remaining session now frames passes ih =>
      exact fun target made => ih target ((step.follows_world_run session).grows target made)
  | @inside access body rest remaining session inner now frames lends passes ih =>
      rw [lends.opening.2.1] at ih
      exact ih

/-- A run passes through its end. -/
theorem atEnd (steps : List Step) (session : Session) :
    Passes steps session [] [] (runAll steps session).2 := by
  induction steps generalizing session with
  | nil => exact .here [] session
  | cons step rest ih =>
      rw [runAll_cons]
      exact .later (ih (step.run session).2)

end Step.Passes

end PathStore
