import Mathlib.Data.List.Basic

/-!
# Short-circuit disjunctions

The operands of `a || b || …` are evaluated from the left up to the first one that holds. The
lemmas say which operands are evaluated, and that the others do not matter.
-/

namespace ShortCircuit

variable {α : Type*} {f g : α → Bool} {a : α}

/-- The operands that are evaluated. -/
def evaluated (f : α → Bool) : List α → List α
  | [] => []
  | a :: rest => if f a then [a] else a :: evaluated f rest

/-- An operand is evaluated when it is the first, or when the first does not hold. -/
theorem mem_evaluated_cons {head : α} {rest : List α} (h : a ∈ evaluated f (head :: rest)) :
    a = head ∨ (f head = false ∧ a ∈ evaluated f rest) := by
  rw [evaluated] at h
  split at h
  · exact Or.inl (List.mem_singleton.mp h)
  · next hfalse => exact (List.mem_cons.mp h).imp_right fun hrest => ⟨Bool.eq_false_iff.mpr hfalse, hrest⟩

/-- What is not evaluated does not matter. -/
theorem any_congr {operands : List α} (h : ∀ a ∈ evaluated f operands, f a = g a) :
    operands.any f = operands.any g := by
  induction operands with
  | nil => rfl
  | cons head rest ih =>
    rw [evaluated] at h
    rw [List.any_cons, List.any_cons]
    split at h
    · next htrue => rw [← h head (List.mem_singleton_self _), htrue, Bool.true_or, Bool.true_or]
    · next hfalse =>
      rw [h head List.mem_cons_self, ih fun a ha => h a (List.mem_cons_of_mem _ ha)]

end ShortCircuit
