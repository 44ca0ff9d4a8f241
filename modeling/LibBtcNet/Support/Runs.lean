import Mathlib.Logic.Basic
import Mathlib.Tactic.Basic

/-!
# Runs of a fallible step function

A run feeds a list of inputs to a step function that may have no result. `Always` asks a
property of every state of a run, the first included, and `Guarded` asks of every step
that it is taken where a guard allows it. An invariant that guarded steps keep, and whose
property every other step breaks, makes the two the same, also among the runs in which
every step is within a scope. Runs of two step functions that keep their states related
end in related states, or both have no result; a projection that takes steps to steps
takes runs to runs.
-/

namespace Runs

variable {S A : Type*} (step : S → A → Option S)

/-- The property holds in every state of the run. -/
def Always (P : S → Prop) : S → List A → Prop
  | state, [] => P state
  | state, input :: inputs => P state ∧ ∀ next, step state input = some next → Always P next inputs

/-- Every input of the run is fed to a state where the guard allows it. -/
def Guarded (G : S → A → Prop) : S → List A → Prop
  | _, [] => True
  | state, input :: inputs =>
    G state input ∧ ∀ next, step state input = some next → Guarded G next inputs

/-- Whether a run is guarded can be followed input by input. -/
instance decidableGuarded {G : S → A → Prop} [∀ state input, Decidable (G state input)] :
    (state : S) → (inputs : List A) → Decidable (Guarded step G state inputs)
  | _, [] => isTrue trivial
  | state, input :: inputs =>
    match hnext : step state input with
    | none => decidable_of_iff (G state input) (by simp [Guarded, hnext])
    | some next =>
      have : Decidable (Guarded step G next inputs) := decidableGuarded next inputs
      decidable_of_iff (G state input ∧ Guarded step G next inputs) (by simp [Guarded, hnext])

variable {step}

/-- A property of every state holds in the state that a run ends in. -/
theorem Always.last {P : S → Prop} {state last : S} {inputs : List A}
    (halways : Always step P state inputs) (hrun : inputs.foldlM step state = some last) : P last := by
  induction inputs generalizing state with
  | nil =>
    obtain rfl : state = last := Option.some.inj hrun
    exact halways
  | cons input inputs ih =>
    rw [List.foldlM_cons] at hrun
    obtain ⟨next, hnext, hrest⟩ := Option.bind_eq_some_iff.mp hrun
    exact ih (halways.2 next hnext) hrest

/-- A run is guarded when the guard allows every input everywhere. -/
theorem guarded_of_forall {G : S → A → Prop} (hguard : ∀ state input, G state input) (state : S)
    (inputs : List A) : Guarded step G state inputs := by
  induction inputs generalizing state with
  | nil => trivial
  | cons input inputs ih => exact ⟨hguard state input, fun next _ => ih next⟩

/-- An invariant that every step keeps holds throughout every run. -/
theorem always_of_invariant {Inv P : S → Prop} (hproperty : ∀ state, Inv state → P state)
    (hkeep : ∀ state input next, Inv state → step state input = some next → Inv next) {state : S}
    (hstate : Inv state) (inputs : List A) : Always step P state inputs := by
  induction inputs generalizing state with
  | nil => exact hproperty state hstate
  | cons input inputs ih =>
    exact ⟨hproperty state hstate, fun next hnext => ih (hkeep state input next hstate hnext)⟩

/-- The property holds in the first state of a run. -/
theorem Always.head {P : S → Prop} {state : S} {inputs : List A} (halways : Always step P state inputs) :
    P state := by
  cases inputs with
  | nil => exact halways
  | cons => exact halways.1

/-- It holds throughout the first part of a run. -/
theorem Always.of_append {P : S → Prop} {state : S} {before after : List A}
    (halways : Always step P state (before ++ after)) : Always step P state before := by
  induction before generalizing state with
  | nil => exact halways.head
  | cons input before ih => exact ⟨halways.1, fun next hnext => ih (halways.2 next hnext)⟩

/-- Among the runs in scope, when guarded steps keep the invariant and every other step breaks the
property, the property holds throughout exactly the guarded runs. -/
theorem always_iff_guarded {Inv P : S → Prop} {Scope G : S → A → Prop} (hproperty : ∀ state, Inv state → P state)
    (hkeep : ∀ state input next, Inv state → Scope state input → G state input →
      step state input = some next → Inv next)
    (hbreak : ∀ state input, Inv state → Scope state input → ¬G state input →
      ∃ next, step state input = some next ∧ ¬P next)
    {state : S} (hstate : Inv state) {inputs : List A} (hscope : Guarded step Scope state inputs) :
    Always step P state inputs ↔ Guarded step G state inputs := by
  induction inputs generalizing state with
  | nil => exact ⟨fun _ => trivial, fun _ => hproperty state hstate⟩
  | cons input inputs ih =>
    obtain ⟨hin, hlater⟩ := hscope
    constructor
    · intro halways
      by_cases hguard : G state input
      · refine ⟨hguard, fun next hnext => ?_⟩
        exact (ih (hkeep state input next hstate hin hguard hnext) (hlater next hnext)).mp (halways.2 next hnext)
      · obtain ⟨next, hnext, hbroken⟩ := hbreak state input hstate hin hguard
        exact absurd (halways.2 next hnext).head hbroken
    · intro hguarded
      refine ⟨hproperty state hstate, fun next hnext => ?_⟩
      exact (ih (hkeep state input next hstate hin hguarded.1 hnext) (hlater next hnext)).mpr
        (hguarded.2 next hnext)

/-- A relation that is kept by every step holds between the ends of two runs. -/
theorem rel_foldlM {T : Type*} {step' : T → A → Option T} {R : S → T → Prop}
    (hstep : ∀ state state' input, R state state' → Option.Rel R (step state input) (step' state' input))
    {state : S} {state' : T} (hstate : R state state') (inputs : List A) :
    Option.Rel R (inputs.foldlM step state) (inputs.foldlM step' state') := by
  induction inputs generalizing state state' with
  | nil => exact .some hstate
  | cons input inputs ih =>
    have hnext := hstep state state' input hstate
    rw [List.foldlM_cons, List.foldlM_cons]
    generalize step state input = next, step' state' input = next' at hnext ⊢
    cases hnext with
    | none => exact .none
    | some hnext => exact ih hnext

/-- A projection that takes every step to one of another machine takes its runs to runs of that machine. -/
theorem foldlM_map {T B : Type*} {step' : T → B → Option T} {f : S → T} {g : B → A}
    (hstep : ∀ state input, step' (f state) input = (step state (g input)).map f) (state : S) (inputs : List B) :
    inputs.foldlM step' (f state) = ((inputs.map g).foldlM step state).map f := by
  induction inputs generalizing state with
  | nil => rfl
  | cons input inputs ih =>
    rw [List.map_cons, List.foldlM_cons, List.foldlM_cons, hstep]
    cases hnext : step state (g input) with
    | none => rfl
    | some next => exact ih next

/-- An invariant that every step keeps holds in the state that a run ends in. -/
theorem foldlM_invariant {Inv : S → Prop} (hkeep : ∀ state input next, Inv state →
    step state input = some next → Inv next)
    {state last : S} (hstate : Inv state) {inputs : List A} (hrun : inputs.foldlM step state = some last) :
      Inv last := by
  induction inputs generalizing state with
  | nil =>
    obtain rfl : state = last := Option.some.inj hrun
    exact hstate
  | cons input inputs ih =>
    rw [List.foldlM_cons] at hrun
    obtain ⟨next, hnext, hrest⟩ := Option.bind_eq_some_iff.mp hrun
    exact ih (hkeep state input next hstate hnext) hrest

end Runs
