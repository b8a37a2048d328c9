import Mathlib.Algebra.Order.Ring.Int
import Mathlib.Data.List.Forall2
import PathStore.Address

/-!
# Address arithmetic within its range

A computation that can fail yields a result just when each of its steps does. As long as every
intermediate number is an address, checked arithmetic is that of the integers, and reading a size as
a signed number or back changes nothing.
-/

namespace Except

variable {ε α β : Type}

theorem ok_bind (result : α) (next : α → Except ε β) : Except.ok result >>= next = next result :=
  rfl

theorem bind_eq_ok_iff {first : Except ε α} {next : α → Except ε β} {result : β} :
    first >>= next = .ok result ↔ ∃ middle, first = .ok middle ∧ next middle = .ok result := by
  cases first with
  | error failure =>
      constructor
      · intro ran
        cases ran
      · rintro ⟨_, ran, _⟩
        cases ran
  | ok middle =>
      constructor
      · intro ran
        exact ⟨middle, rfl, ran⟩
      · rintro ⟨_, ⟨⟩, ran⟩
        exact ran

theorem toOption_eq_some_iff {decided : Except ε α} {result : α} :
    decided.toOption = some result ↔ decided = .ok result := by
  cases decided <;> simp [Except.toOption]

theorem bind_eq_error_iff {first : Except ε α} {next : α → Except ε β} {failure : ε} :
    first >>= next = .error failure ↔
      first = .error failure ∨ ∃ middle, first = .ok middle ∧ next middle = .error failure := by
  cases first with
  | error reason =>
      constructor
      · intro failed
        cases failed
        exact .inl rfl
      · rintro (⟨⟨⟩⟩ | ⟨_, ran, _⟩)
        · rfl
        · cases ran
  | ok middle =>
      constructor
      · intro failed
        exact .inr ⟨middle, rfl, failed⟩
      · rintro (ran | ⟨_, ⟨⟩, failed⟩)
        · cases ran
        · exact failed

/-- A computation that succeeds for each member of a list succeeds for the list. -/
theorem exists_mapM_eq_ok {compute : α → Except ε β} {list : List α}
    (each : ∀ item ∈ list, ∃ result, compute item = .ok result) :
    ∃ results, list.mapM compute = .ok results ∧
      List.Forall₂ (fun item result => compute item = .ok result) list results := by
  induction list with
  | nil => exact ⟨[], rfl, .nil⟩
  | cons item list ih =>
      obtain ⟨result, computed⟩ := each item List.mem_cons_self
      obtain ⟨results, listed, matched⟩ := ih (fun other member =>
        each other (List.mem_cons_of_mem item member))
      refine ⟨result :: results, ?_, .cons computed matched⟩
      rw [List.mapM_cons, computed]
      change (list.mapM compute >>= _) = _
      rw [listed]
      rfl

end Except

namespace PathStore.Address

theorem toSigned_of_lt {number : Nat} (small : number < 2 ^ 63) : toSigned number = number := by
  unfold toSigned
  rw [Int.bmod_eq_of_le] <;> omega

theorem toUnsigned_of_nonneg {number : Int} (nonneg : 0 ≤ number) (small : number < 2 ^ 64) :
    toUnsigned number = number.toNat := by
  unfold toUnsigned
  omega

theorem isSigned_of_lt {number : Int} (above : -2 ^ 63 ≤ number) (below : number < 2 ^ 63) :
    IsSigned number := by
  unfold IsSigned least greatest
  omega

theorem signed_of_isSigned {number : Int} (given : IsSigned number) :
    signed number = .ok number := if_pos given

theorem signed_eq_ok_iff {number result : Int} :
    signed number = .ok result ↔ IsSigned number ∧ result = number := by
  unfold signed
  split <;> grind

theorem signed_eq_error {number : Int} {failure : Failure}
    (refused : signed number = .error failure) : failure = .fault .overflow := by
  unfold signed at refused
  split at refused
  · cases refused
  · cases refused
    rfl

theorem signedOr_eq_ok_iff {refusal : InvalidValue} {number result : Int} :
    signedOr refusal number = .ok result ↔ IsSigned number ∧ result = number := by
  unfold signedOr
  split <;> grind

theorem signedOr_of_isSigned {refusal : InvalidValue} {number : Int} (given : IsSigned number) :
    signedOr refusal number = .ok number :=
  if_pos given

theorem signedOr_of_not_isSigned {refusal : InvalidValue} {number : Int}
    (large : ¬ IsSigned number) : signedOr refusal number = .error (.invalid refusal) :=
  if_neg large

theorem mul_eq_ok {left right result : Int} (done : mul left right = .ok result) :
    result = left * right :=
  (signed_eq_ok_iff.1 done).2

theorem add_eq_ok {left right result : Int} (done : add left right = .ok result) :
    result = left + right :=
  (signed_eq_ok_iff.1 done).2

theorem mulSize_eq_ok {left right result : Nat} (done : mulSize left right = .ok result) :
    result = left * right := by
  unfold mulSize size at done
  split at done
  · cases done
    rfl
  · cases done

/-- A size times a stride is computed without loss if the product is a signed number; a size that is
none itself can only meet the stride zero. -/
theorem mul_toSigned {number : Nat} {stride : Int} (above : -2 ^ 63 < number * stride)
    (below : number * stride < 2 ^ 63) :
    mul (toSigned number) stride = .ok (number * stride) := by
  have equal : toSigned number * stride = number * stride := by
    by_cases still : stride = 0
    · rw [still, Int.mul_zero, Int.mul_zero]
    · have large : (number : Int) ≤ (number * stride).natAbs := by
        rw [Int.natAbs_mul, Int.natAbs_natCast]
        exact Int.ofNat_le.2 (Nat.le_mul_of_pos_right number (by omega))
      rw [toSigned_of_lt (by omega)]
  unfold mul
  rw [equal]
  exact signed_of_isSigned (isSigned_of_lt (by omega) below)

end PathStore.Address
