import PathStore.Proofs.Session.Needs

/-!
# How tasks deal with claims

A task over a session deals with claims as the programs over the world do that it is built from.
Variables change only in a task that succeeds or breaks off, so an error leaves what they name as it
was.
-/

namespace PathStore

open Failure Conduct

/-- Two sessions cannot be told apart: their worlds cannot, and each variable names the same. -/
structure Session.Alike (before after : Session) : Prop where
  world : before.world.Alike after.world
  named : ∀ name, after.bindings.lookup name = before.bindings.lookup name

theorem Session.Alike.refl (session : Session) : session.Alike session :=
  ⟨.refl session.world, fun _ => rfl⟩

theorem Session.Alike.trans {first second third : Session} (left : first.Alike second)
    (right : second.Alike third) : first.Alike third :=
  ⟨left.world.trans right.world, fun name => (right.named name).trans (left.named name)⟩

/-- A variable that gets back what it named names what it did. -/
theorem Session.alike_rebind {session : Session} {name : String} {object : Object}
    (named : session.bindings.lookup name = some object) :
    session.Alike ⟨session.world, (name, object) :: session.bindings.filter (·.1 != name)⟩ where
  world := .refl session.world
  named other := by
    rw [List.lookup_cons]
    cases same : other == name with
    | true => rw [beq_iff_eq.mp same, named]
    | false =>
        rw [Entries.lookup_filter_ne, if_neg (by simpa using same)]

instance : Worldly Session where
  world := Session.world
  Alike := Session.Alike
  refl := .refl
  trans := .trans
  alike_world alike := alike.world

variable {α β : Type} {session : Session} {needs : List Claim}

/-! ## Programs over the world -/

/-- The end of a task that runs a program over the world, and lets variables name something else if
that succeeds. -/
def Task.ended (result : α → β) (bindings : α → Variables) (session : Session) :
    EStateM.Result Failure World α → EStateM.Result Failure Session β
  | .ok made world => .ok (result made) ⟨world, bindings made⟩
  | .error failure world => .error failure { session with world }

/-- The task runs a program over the world and ends as that does. -/
def RunsOn (task : Task β) (program : Op α) (result : α → β) (bindings : α → Variables)
    (session : Session) : Prop :=
  task session = Task.ended result bindings session (program session.world)

theorem RunsOn.conduct {task : Task β} {program : Op α} {result : α → β}
    {bindings : α → Variables} (runs : RunsOn task program result bindings session)
    (conduct : Conduct needs session.world program) : Conduct needs session task := by
  unfold Conduct at conduct ⊢
  rw [runs]
  generalize program session.world = outcome at conduct
  cases conduct with
  | ok admitted follows => exact .ok admitted follows
  | refused refuses conflict alike => exact .refused refuses conflict ⟨alike, fun _ => rfl⟩
  | failed free admitted alike => exact .failed free admitted ⟨alike, fun _ => rfl⟩
  | silent silent admitted follows => exact .silent silent admitted follows

theorem RunsOn.exists_ok {task : Task β} {program : Op α} {result : α → β}
    {bindings : α → Variables} (runs : RunsOn task program result bindings session) {made : β}
    {left : Session} (ran : task session = .ok made left) :
    ∃ inner world, program session.world = .ok inner world ∧ made = result inner ∧
      left = ⟨world, bindings inner⟩ := by
  rw [runs] at ran
  cases ended : program session.world with
  | error failure world => rw [ended] at ran; cases ran
  | ok inner world =>
      rw [ended] at ran
      cases ran
      exact ⟨inner, world, rfl, rfl, rfl⟩

theorem Task.runsOn_ofOp (program : Op α) (session : Session) :
    RunsOn (Task.ofOp program) program id (fun _ => session.bindings) session := by
  unfold RunsOn Task.ofOp
  cases program session.world <;> rfl

theorem Task.runsOn_carrying (program : Variables → Op (α × Variables)) (session : Session) :
    RunsOn (Task.carrying program) (program session.bindings) Prod.fst Prod.snd session := by
  unfold RunsOn Task.carrying
  cases program session.bindings session.world <;> rfl

theorem Task.runsOn_lending (name : String) (object : β → Object)
    (program : Variables → Op ((α × Variables) × β)) (session : Session) :
    RunsOn (Task.lending name object program)
      (program (session.bindings.filter (·.1 != name))) (·.1.1)
      (fun made =>
        if (made.1.2.lookup name).isSome then made.1.2 else (name, object made.2) :: made.1.2)
      session := by
  unfold RunsOn Task.lending
  dsimp only
  cases program (session.bindings.filter (·.1 != name)) session.world <;> rfl

theorem Conduct.ofOp {program : Op α} (conduct : Conduct needs session.world program) :
    Conduct needs session (Task.ofOp program) :=
  (Task.runsOn_ofOp program session).conduct conduct

theorem Conduct.carrying {program : Variables → Op (α × Variables)}
    (conduct : Conduct needs session.world (program session.bindings)) :
    Conduct needs session (Task.carrying program) :=
  (Task.runsOn_carrying program session).conduct conduct

theorem Conduct.lending {name : String} {object : β → Object}
    {program : Variables → Op ((α × Variables) × β)}
    (conduct : ∀ bindings, Conduct needs session.world (program bindings)) :
    Conduct needs session (Task.lending name object program) :=
  (Task.runsOn_lending name object program session).conduct (conduct _)

theorem Sure.ofOp {program : Op α} (sure : Sure program) : Sure (Task.ofOp program) := by
  intro session
  have outcome := sure session.world
  unfold Task.ofOp
  generalize program session.world = result at outcome
  cases outcome with
  | ok follows => exact .ok follows
  | silent silent follows => exact .silent silent follows

theorem Task.ofExcept_apply (decided : Except Failure α) (session : Session) :
    Task.ofOp (Op.ofExcept decided) session = settled decided session := by
  cases decided <;> rfl

/-! ## What variables name -/

/-- The task finds what there is to find, or does not fit. -/
inductive Finds (task : Task α) (session : Session) : Option α → Prop where
  | found {result : α} (ran : task session = .ok result session) : Finds task session (some result)
  | missing {reason : String} (ran : task session = .error (.misfit reason) session) :
      Finds task session none

namespace Task

theorem finds_named (name kind : String) (select : Object → Option α) (session : Session) :
    Finds (Task.named name kind select) session (session.find? name select) := by
  have runs : Task.named name kind select session =
      settled (session.bindings.named name kind select) session :=
    ofExcept_apply _ _
  unfold Variables.named at runs
  unfold Session.find?
  cases found : (session.bindings.lookup name).bind select with
  | some result =>
      rw [found] at runs
      exact .found runs
  | none =>
      rw [found] at runs
      exact .missing runs

theorem finds_handle (name : String) (session : Session) :
    Finds (Task.handle name) session (session.find? name Object.handle?) :=
  finds_named _ _ _ _

theorem finds_value (name : String) (session : Session) :
    Finds (Task.value name) session (session.find? name Object.value?) :=
  finds_named _ _ _ _

theorem finds_cell (name : String) (session : Session) :
    Finds (Task.cell name) session (session.find? name Object.cell?) :=
  finds_named _ _ _ _

theorem finds_buffer (name : String) (session : Session) :
    Finds (Task.buffer name) session (session.find? name Object.buffer?) :=
  finds_named _ _ _ _

theorem finds_cursor (name : String) (session : Session) :
    Finds (Task.cursor name) session (session.find? name Object.cursor?) :=
  finds_named _ _ _ _

theorem finds_entry (name : String) (session : Session) :
    Finds (Task.entry name) session (session.find? name Object.entry?) :=
  finds_named _ _ _ _

end Task

namespace Finds

theorem of_settled {task : Task α} {decided : Except Failure α}
    (runs : task session = settled decided session) (misfits : FailsOnly Misfits decided) :
    Finds task session decided.toOption := by
  cases decided with
  | ok result => exact .found runs
  | error failure =>
      cases failure with
      | misfit reason => exact .missing runs
      | error cause => exact (misfits _ rfl).elim
      | fault cause => exact (misfits _ rfl).elim

theorem pure (result : α) : Finds (Pure.pure result) session (some result) :=
  .found rfl

theorem bind {task : Task α} {next : α → Task β} {found : Option α} {further : α → Option β}
    (first : Finds task session found)
    (rest : ∀ result, Finds (next result) session (further result)) :
    Finds (task >>= next) session (found.bind further) := by
  cases first with
  | missing ran => exact .missing (bind_of_error ran)
  | @found result ran =>
      rw [Option.bind_some]
      have continued := rest result
      cases ends : further result with
      | some made =>
          rw [ends] at continued
          cases continued with
          | found later => exact .found ((bind_of_ok ran).trans later)
      | none =>
          rw [ends] at continued
          cases continued with
          | missing later => exact .missing ((bind_of_ok ran).trans later)

theorem exists_settled {task : Task α} {found : Option α} (finds : Finds task session found) :
    ∃ decided, task session = settled decided session ∧ decided.toOption = found := by
  cases finds with
  | @found result ran => exact ⟨.ok result, ran, rfl⟩
  | @missing reason ran => exact ⟨.error (.misfit reason), ran, rfl⟩

theorem exists_of_ok {task : Task α} {next : α → Task β} {found : Option α}
    (finds : Finds task session found) {result : β} {left : Session}
    (ran : (task >>= next) session = .ok result left) :
    ∃ seen, found = some seen ∧ next seen session = .ok result left := by
  cases finds with
  | missing missed =>
      rw [bind_of_error missed] at ran
      cases ran
  | @found seen there =>
      rw [bind_of_ok there] at ran
      exact ⟨seen, rfl, ran⟩

theorem discard {task : Task α} {found : Option α} (finds : Finds task session found) :
    Finds (Functor.discard task) session (Functor.discard found) := by
  have runs : Functor.discard task session = EStateM.map (fun _ => ()) task session := rfl
  cases finds with
  | found ran => exact .found (runs.trans (by rw [EStateM.map, ran]))
  | missing ran => exact .missing (runs.trans (by rw [EStateM.map, ran]))

end Finds

namespace Conduct

/-- What does not fit counts as needing anything. -/
theorem bind_fits {task : Task α} {next : α → Task β} {found : Option α}
    (finds : Finds task session found)
    (rest : ∀ result, found = some result → Conduct needs session (next result)) :
    Conduct needs session (task >>= next) := by
  cases finds with
  | found ran => exact bind_found ran (rest _ rfl)
  | missing ran =>
      unfold Conduct
      rw [bind_of_error ran]
      exact .of_misfits trivial

/-- The claims that are needed may depend on what is found. -/
theorem bind_finds {task : Task α} {next : α → Task β} {found : Option α}
    (finds : Finds task session found) {claims : α → List Claim}
    (rest : ∀ result, found = some result → Conduct (claims result) session (next result)) :
    Conduct (claimsOf found claims) session (task >>= next) := by
  refine bind_fits finds fun result same => ?_
  rw [same]
  exact rest result same

end Conduct

theorem ValueSpec.finds_build (spec : ValueSpec) (session : Session) :
    Finds spec.build session (spec.valueIn session.bindings).toOption :=
  Finds.of_settled (Task.ofExcept_apply _ _) (spec.misfits_valueIn session.bindings)

/-- As many values are made as are asked for. -/
theorem ValueSpec.finds_buildEntries (entries : List (String × ValueSpec)) (session : Session) :
    ∃ found, Finds (buildEntries entries) session found ∧
      ∀ values ∈ found, values.length = entries.length := by
  induction entries with
  | nil => exact ⟨some [], .found rfl, by simp⟩
  | cons entry rest ih =>
      obtain ⟨found, finds, lengths⟩ := ih
      have first := (entry.2.finds_build session).bind fun value => .pure (entry.1, value)
      unfold buildEntries
      rw [List.mapM_cons]
      refine ⟨_, first.bind fun item => finds.bind fun values => .pure (item :: values), ?_⟩
      intro values member
      obtain ⟨item, _, member⟩ := Option.bind_eq_some_iff.mp member
      obtain ⟨others, made, same⟩ := Option.bind_eq_some_iff.mp member
      cases same
      exact congrArg (· + 1) (lengths others made)

/-! ## What actions make -/

namespace Session

/-- The end of an owner changes no store and no buffer. -/
theorem follows_forget (session : Session) (name : String) :
    session.world.Follows (session.forget name).world := by
  unfold forget
  dsimp only
  split
  · exact ⟨rfl, fun claim _ _ => .refl session.world claim.target, fun _ made => made⟩
  · exact .refl _

end Session

theorem Task.sure_bind (name : String) (object : Object) : Sure (Task.bind name object) :=
  fun session => .ok (session.follows_forget name)

namespace Outcome

theorem sure_value (made : Value) : Sure (value made) :=
  (Sure.ofOp made.looks_snapshot.sure).bind fun _ => .pure _

theorem sure_buffer (made : BufferRef) : Sure (buffer made) :=
  (Sure.ofOp made.looks_length.sure).bind fun _ => .pure _

theorem sure_store (into : Option String) (outcome : Outcome) : Sure (store into outcome) := by
  unfold store
  split
  · exact (Task.sure_bind _ _).bind fun _ => .pure _
  · exact .pure _

/-- An answer out of a program over the world. -/
theorem conduct_answer {program : Op α} (conduct : Conduct needs session.world program)
    (answer : α → Answer) :
    Conduct needs session (Task.ofOp program >>= fun result => Pure.pure (only (answer result))) :=
  (Conduct.ofOp conduct).bind_sure fun _ => .pure _

/-- A value out of a program over the world. -/
theorem conduct_valueOf {program : Op Value} (conduct : Conduct needs session.world program) :
    Conduct needs session (Task.ofOp program >>= value) :=
  (Conduct.ofOp conduct).bind_sure sure_value

end Outcome

end PathStore
