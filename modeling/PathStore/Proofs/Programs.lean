import PathStore.Error

/-!
# Programs that keep an invariant

An invariant is a condition on states, together with a relation between the state that a program
finds and the one that it leaves. A program keeps it if both hold whether it succeeds or fails, and so
does whatever is built from such programs. Of the result a condition of its own may be known.
-/

namespace PathStore

section Steps

variable {σ α β : Type}

theorem bind_of_ok {program : EStateM Failure σ α} {next : α → EStateM Failure σ β}
    {state left : σ} {result : α} (ran : program state = .ok result left) :
    (program >>= next) state = next result left := by
  change EStateM.bind program next state = _
  rw [EStateM.bind, ran]

theorem bind_of_error {program : EStateM Failure σ α} {next : α → EStateM Failure σ β}
    {state left : σ} {failure : Failure} (ran : program state = .error failure left) :
    (program >>= next) state = .error failure left := by
  change EStateM.bind program next state = _
  rw [EStateM.bind, ran]

/-- What succeeds succeeds from its first part on. -/
theorem exists_of_bind_ok {program : EStateM Failure σ α} {next : α → EStateM Failure σ β}
    {state left : σ} {result : β} (ran : (program >>= next) state = .ok result left) :
    ∃ made between, program state = .ok made between ∧ next made between = .ok result left := by
  cases begun : program state with
  | ok made between => exact ⟨made, between, rfl, (bind_of_ok begun).symm.trans ran⟩
  | error failure between => cases (bind_of_error begun).symm.trans ran

end Steps

/-- A condition on states, and a relation between the states before and after a program. -/
structure Invariant (σ : Type) where
  holds : σ → Prop
  follows : σ → σ → Prop
  refl : ∀ state, follows state state
  trans : ∀ {first second third}, follows first second → follows second third → follows first third

namespace Invariant

variable {σ α β : Type} {invariant : Invariant σ} {ensures : α → Prop} {further : β → Prop}

/-- A result that satisfies a condition, or a failure; either way the invariant holds in the state
that is left, and that follows on the state before. -/
inductive Kept (invariant : Invariant σ) (before : σ) (ensures : α → Prop) :
    EStateM.Result Failure σ α → Prop where
  | ok {result : α} {left : σ} (holds : invariant.holds left)
      (follows : invariant.follows before left) (ensured : ensures result) :
      Kept invariant before ensures (.ok result left)
  | error {failure : Failure} {left : σ} (holds : invariant.holds left)
      (follows : invariant.follows before left) :
      Kept invariant before ensures (.error failure left)

/-- The program keeps the invariant, and its result satisfies a condition. -/
protected def Keeps (invariant : Invariant σ) (program : EStateM Failure σ α)
    (ensures : α → Prop) : Prop :=
  ∀ state, invariant.holds state → Kept invariant state ensures (program state)

/-- The program keeps the invariant. -/
protected abbrev Steady (invariant : Invariant σ) (program : EStateM Failure σ α) : Prop :=
  invariant.Keeps program fun _ => True

namespace Keeps

theorem pure {result : α} (ensured : ensures result) :
    invariant.Keeps (Pure.pure result) ensures :=
  fun state holds => .ok holds (invariant.refl state) ensured

theorem throw (failure : Failure) :
    invariant.Keeps (MonadExcept.throw failure : EStateM Failure σ α) ensures :=
  fun state holds => .error holds (invariant.refl state)

theorem throw_bind (failure : Failure) (next : α → EStateM Failure σ β) :
    invariant.Keeps ((MonadExcept.throw failure : EStateM Failure σ α) >>= next) further :=
  throw failure

theorem bind {program : EStateM Failure σ α} {next : α → EStateM Failure σ β}
    (first : invariant.Keeps program ensures)
    (rest : ∀ result, ensures result → invariant.Keeps (next result) further) :
    invariant.Keeps (program >>= next) further := by
  intro state holds
  change Kept invariant state further (EStateM.bind program next state)
  unfold EStateM.bind
  have begun := first state holds
  generalize program state = outcome at begun
  cases begun with
  | @ok result left middle follows ensured =>
      have continued := rest result ensured left middle
      dsimp only
      generalize next result left = outcome at continued
      cases continued with
      | ok holds later ensured => exact .ok holds (invariant.trans follows later) ensured
      | error holds later => exact .error holds (invariant.trans follows later)
  | error holds follows => exact .error holds follows

theorem mono {program : EStateM Failure σ α} {weaker : α → Prop}
    (keeps : invariant.Keeps program ensures)
    (implies : ∀ result, ensures result → weaker result) : invariant.Keeps program weaker := by
  intro state holds
  have kept := keeps state holds
  generalize program state = outcome at kept
  cases kept with
  | ok holds follows ensured => exact .ok holds follows (implies _ ensured)
  | error holds follows => exact .error holds follows

theorem map {program : EStateM Failure σ α} (steady : invariant.Steady program) (change : α → β) :
    invariant.Steady (change <$> program) := by
  rw [← bind_pure_comp]
  exact steady.bind fun _ _ => pure trivial

theorem discard {program : EStateM Failure σ α} (steady : invariant.Steady program) :
    invariant.Steady (Functor.discard program) :=
  steady.map fun _ => ()

theorem get : invariant.Keeps (MonadState.get : EStateM Failure σ σ) invariant.holds :=
  fun state holds => .ok holds (invariant.refl state) holds

theorem modify {change : σ → σ}
    (holds : ∀ state, invariant.holds state → invariant.holds (change state))
    (follows : ∀ state, invariant.follows state (change state)) :
    invariant.Steady (modify change) :=
  fun state known => .ok (holds state known) (follows state) trivial

theorem mapM {program : α → EStateM Failure σ β} (list : List α)
    (steady : ∀ item, invariant.Steady (program item)) : invariant.Steady (list.mapM program) := by
  induction list with
  | nil => exact pure trivial
  | cons item list ih =>
      rw [List.mapM_cons]
      exact (steady item).bind fun _ _ => ih.bind fun _ _ => pure trivial

end Keeps

end Invariant

end PathStore
