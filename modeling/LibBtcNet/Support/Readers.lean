import Mathlib.Data.List.Basic
import Mathlib.Tactic.Basic

/-!
# Readers of a list of items

A reader takes a value from the front of a list and leaves the rest. `Reads` says that some
items are exactly what a reader takes to be a value, whatever follows them, and it goes
along with the steps that a reader is made of.
-/

namespace Readers

variable {β α γ : Type}

/-- A reader takes a value and leaves the rest of the items, or fails. -/
abbrev Reader (β α : Type) := StateT (List β) Option α

/-- The next item. -/
def item : Reader β β
  | [] => none
  | b :: rest => some (b, rest)

/-- The next `count` items. -/
def exactly (count : ℕ) : Reader β (List β) := fun items =>
  if count ≤ items.length then some (items.take count, items.drop count) else none

/-- The next item, which has to be this one. -/
def expect [DecidableEq β] (b : β) : Reader β Unit := do
  if (← item) = b then pure () else failure

/-- As many items as the next one counts. -/
def counted (count : β → ℕ) : Reader β (List β) := do
  exactly (count (← item))

/-- A reader takes exactly these items to be this value. -/
def Reads (reader : Reader β α) (items : List β) (value : α) : Prop :=
  ∀ rest, reader (items ++ rest) = some (value, rest)

/-- A value without items. -/
theorem reads_pure (value : α) : Reads (pure value : Reader β α) [] value := fun _ => rfl

/-- One reader after another. -/
theorem Reads.bind {reader : Reader β α} {next : α → Reader β γ} {items later : List β} {value : α} {result : γ}
    (hreader : Reads reader items value) (hnext : Reads (next value) later result) :
    Reads (reader >>= next) (items ++ later) result := by
  intro rest
  change ((reader (items ++ later ++ rest)).bind fun taken => next taken.1 taken.2) = _
  rw [List.append_assoc, hreader, Option.bind_some, hnext]

/-- A value that is taken for another. -/
theorem Reads.map {reader : Reader β α} {items : List β} {value : α} (hreader : Reads reader items value)
    (f : α → γ) :
    Reads (f <$> reader) items (f value) := by
  intro rest
  change ((reader (items ++ rest)).bind fun taken => some (f taken.1, taken.2)) = _
  rw [hreader, Option.bind_some]

/-- The next item. -/
theorem reads_item (b : β) : Reads item [b] b := fun _ => rfl

/-- A given number of items. -/
theorem reads_exactly {count : ℕ} {items : List β} (hcount : items.length = count) :
    Reads (exactly count) items items := by
  intro rest
  subst hcount
  rw [exactly, if_pos (by simp), List.take_left, List.drop_left]

/-- The item that is expected. -/
theorem reads_expect [DecidableEq β] (b : β) : Reads (expect b) [b] () := by
  have hfound : Reads (if b = b then pure () else failure : Reader β Unit) [] () := by
    rw [if_pos rfl]
    exact reads_pure ()
  exact (reads_item b).bind hfound

/-- Items behind their count. -/
theorem reads_counted {count : β → ℕ} {b : β} {items : List β} (hcount : items.length = count b) :
    Reads (counted count) (b :: items) items := (reads_item b).bind (reads_exactly hcount)

/-- A reader of the whole leaves nothing. -/
theorem Reads.whole {reader : Reader β α} {items : List β} {value : α} (h : Reads reader items value) :
    reader items = some (value, []) := by
  have hwhole := h []
  rwa [List.append_nil] at hwhole

end Readers
