import PathStore.Session.Access
import PathStore.Session.Action

/-!
# Running a session

Steps are run one after the other, each with an answer. A step that fails answers with its failure
and the next one goes on from there. A body runs while its access holds a claim, and sees and
changes the same session.
-/

namespace PathStore

/-- The answer of a program, which is its failure if it fails. -/
def Task.settle (task : Task Answer) (session : Session) : Answer × Session :=
  match task session with
  | .ok answer session => (answer, session)
  | .error failure session => (.failed failure, session)

mutual

/-- Run a step. -/
def Step.run : Step → Session → Answer × Session
  | .act action into, session =>
    Task.settle (do Outcome.store into (← action.run)) session
  | .lend access body, session =>
    Task.settle (access.run (Step.runAll body)) session
  | .unreadable reason, session => (.failed (.misfit reason), session)

/-- Run steps one after the other. -/
def Step.runAll : List Step → Session → List Answer × Session
  | [], session => ([], session)
  | step :: rest, session =>
    let (answer, session) := step.run session
    let (answers, session) := Step.runAll rest session
    (answer :: answers, session)

end

/-- The answers of steps that are run in a new session. -/
def Step.answers (steps : List Step) : List Answer :=
  (Step.runAll steps default).1

end PathStore
