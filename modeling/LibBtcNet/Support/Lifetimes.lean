import Mathlib.Data.Option.Basic
import Mathlib.Tactic.Basic

/-!
# Objects that are destroyed while their methods run

Code that reads and assigns the fields of an object through `read` and `assign` leaves a mark
when it does so after the object was destroyed. On a live object the two are a projection and
an update, so that a method can be run step by step up to where it destroys its object.
-/

namespace Lifetimes

variable {α β γ : Type}

/-- An object, whether it has been destroyed, and whether a field of it was touched after that. -/
structure Tracked (α : Type) where
  obj : α
  destroyed : Bool
  stale : Bool
deriving DecidableEq, Repr

namespace Tracked

/-- An object that has not been destroyed. -/
def live (obj : α) : Tracked α := ⟨obj, false, false⟩

/-- An object that has been destroyed and left alone. -/
def gone (obj : α) : Tracked α := ⟨obj, true, false⟩

/-- A field is touched. -/
def touch (t : Tracked α) : Tracked α := { t with stale := t.stale || t.destroyed }

end Tracked

/-- Code that runs while the object is tracked; it has no result when an assertion fails. -/
abbrev Method (α β : Type) := StateT (Tracked α) Option β

/-- A field is read. -/
def read (field : α → β) : Method α β := fun t => some (field t.obj, t.touch)

/-- Fields are assigned. -/
def assign (change : α → α) : Method α Unit := fun t => some ((), { t.touch with obj := change t.obj })

/-- An assertion on values that have been read. -/
def check (condition : Bool) : Method α Unit := if condition then pure () else failure

/-- The object is destroyed, and its destructor runs. -/
def destroy (destructor : α → α) : Method α Unit := fun t =>
  some ((), { t with obj := destructor t.obj, destroyed := true })

/-- One step after another. -/
@[simp] theorem bind_apply (method : Method α β) (next : β → Method α γ) (t : Tracked α) :
    (method >>= next) t = (method t).bind fun r => next r.1 r.2 := rfl

/-- No step. -/
@[simp] theorem pure_apply (value : β) (t : Tracked α) : (pure value : Method α β) t = some (value, t) := rfl

/-- Reading from a live object changes nothing. -/
@[simp] theorem read_live (field : α → β) (obj : α) : read field (.live obj) = some (field obj, .live obj) := rfl

/-- Assigning to a live object only updates it. -/
@[simp] theorem assign_live (change : α → α) (obj : α) : assign change (.live obj) = some ((), .live (change obj)) :=
  rfl

/-- A live object is destroyed. -/
@[simp] theorem destroy_live (destructor : α → α) (obj : α) :
    destroy destructor (.live obj) = some ((), .gone (destructor obj)) := rfl

/-- An assertion holds or ends the run. -/
@[simp] theorem check_apply (condition : Bool) (t : Tracked α) :
    check condition t = if condition then some ((), t) else none := by
  cases condition <;> rfl

end Lifetimes
