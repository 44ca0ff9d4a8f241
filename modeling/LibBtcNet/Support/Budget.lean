import Mathlib.Data.Nat.Notation
import Mathlib.Order.Basic

/-!
# Rounds against a budget of retries

A request starts with a number of retries. A round that fails without a retry left gives
the request up; otherwise the round may cost a retry or be free. A request is given up
within one round more than its retries exactly when none of those rounds is free.
-/

namespace Budget

/-- One failed round: the retries left, if the request is not given up. -/
def round (costs : Bool) : Option ℕ → Option ℕ
  | none => none
  | some 0 => none
  | some (left + 1) => some (if costs then left else left + 1)

/-- The retries left after a number of rounds. -/
def after (costs : ℕ → Bool) (budget : Option ℕ) : ℕ → Option ℕ
  | 0 => budget
  | rounds + 1 => round (costs rounds) (after costs budget rounds)

variable (costs : ℕ → Bool)

/-- As long as every round costs a retry, each takes one. -/
theorem after_of_costs {budget rounds : ℕ} (hle : rounds ≤ budget) (hcosts : ∀ i < rounds, costs i = true) :
    after costs (some budget) rounds = some (budget - rounds) := by
  induction rounds with
  | zero => rfl
  | succ rounds ih =>
    obtain ⟨left, hleft⟩ : ∃ left, budget - rounds = left + 1 := ⟨budget - rounds - 1, by omega⟩
    rw [after, ih (by omega) fun i hi => hcosts i (by omega), hleft, hcosts rounds (by omega)]
    simp only [round, if_true, Option.some.injEq]
    omega

/-- No round takes more than one retry. -/
theorem after_le {budget rounds : ℕ} (hle : rounds ≤ budget) :
    ∃ left, after costs (some budget) rounds = some left ∧ budget ≤ left + rounds := by
  induction rounds with
  | zero => exact ⟨budget, rfl, Nat.le_refl _⟩
  | succ rounds ih =>
    obtain ⟨left, hleft, hspent⟩ := ih (by omega)
    obtain ⟨rest, rfl⟩ : ∃ rest, left = rest + 1 := ⟨left - 1, by omega⟩
    refine ⟨if costs rounds then rest else rest + 1, by rw [after, hleft, round], ?_⟩
    split <;> omega

/-- After a free round there is a retry to spare. -/
theorem after_of_free {budget rounds free : ℕ} (hle : rounds ≤ budget + 1) (hlt : free < rounds)
    (hpos : free < budget) (hfree : costs free = false) :
    ∃ left, after costs (some budget) rounds = some left ∧ budget + 1 ≤ left + rounds := by
  induction rounds with
  | zero => omega
  | succ rounds ih =>
    by_cases heq : free = rounds
    · obtain ⟨left, hleft, hspent⟩ := after_le costs (show rounds ≤ budget by omega)
      obtain ⟨rest, rfl⟩ : ∃ rest, left = rest + 1 := ⟨left - 1, by omega⟩
      refine ⟨rest + 1, ?_, by omega⟩
      rw [after, hleft, ← heq, hfree]
      rfl
    · obtain ⟨left, hleft, hspent⟩ := ih (by omega) (by omega)
      obtain ⟨rest, rfl⟩ : ∃ rest, left = rest + 1 := ⟨left - 1, by omega⟩
      refine ⟨if costs rounds then rest else rest + 1, by rw [after, hleft, round], ?_⟩
      split <;> omega

/-- A request with a retry left is never given up when no round costs one. -/
theorem after_of_never (budget rounds : ℕ) :
    after (fun _ => false) (some (budget + 1)) rounds = some (budget + 1) := by
  induction rounds with
  | zero => rfl
  | succ rounds ih => rw [after, ih]; rfl

/-- A request is given up within one round more than its retries exactly when each of as many rounds
as it has retries costs one. -/
theorem after_eq_none_iff (budget : ℕ) :
    after costs (some budget) (budget + 1) = none ↔ ∀ i < budget, costs i = true := by
  constructor
  · intro hnone i hi
    by_contra hcosts
    obtain ⟨left, hleft, -⟩ := after_of_free costs (Nat.le_refl (budget + 1)) (by omega) hi
      (Bool.eq_false_iff.mpr hcosts)
    exact Option.some_ne_none left (hleft.symm.trans hnone)
  · intro hcosts
    rw [after, after_of_costs costs (Nat.le_refl budget) hcosts, Nat.sub_self]
    rfl

end Budget
