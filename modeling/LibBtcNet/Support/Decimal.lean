import Mathlib.Data.Nat.Digits.Defs

/-!
# Decimal texts

Numbers as texts of ASCII digits, the most significant first. Writing a number and reading
its text gives the number back; reading also accepts leading zeros.
-/

namespace Decimal

/-- A character from `0` to `9`. -/
def isDigit (c : UInt8) : Bool := 48 ≤ c && c ≤ 57

/-- The number that a text of digits stands for. -/
def value (text : List UInt8) : ℕ := Nat.ofDigits 10 (text.reverse.map fun c => c.toNat - 48)

/-- The text of a number, without leading zeros. -/
def ofNat (n : ℕ) : List UInt8 := if n = 0 then [48] else ((Nat.digits 10 n).map fun d => UInt8.ofNat (48 + d)).reverse

/-- Reading from the left, a digit at a time, computes the value. -/
theorem foldl_eq_value (text : List UInt8) :
    text.foldl (fun acc c => acc * 10 + (c.toNat - 48)) 0 = value text := by
  rw [value, Nat.ofDigits_eq_foldr, List.foldr_map, List.foldr_reverse]
  congr 1
  funext acc c
  rw [Nat.mul_comm, Nat.add_comm, Nat.cast_id]

/-- A digit keeps its value as a character. -/
theorem toNat_ofNat_digit {d : ℕ} (hd : d < 10) : (UInt8.ofNat (48 + d)).toNat = 48 + d :=
  UInt8.toNat_ofNat_of_lt' (by rw [UInt8.size]; omega)

/-- A number is read back from its text. -/
@[simp] theorem value_ofNat (n : ℕ) : value (ofNat n) = n := by
  by_cases hzero : n = 0
  · subst hzero
    rfl
  · have hdigits : (Nat.digits 10 n).map (fun d => (UInt8.ofNat (48 + d)).toNat - 48) = Nat.digits 10 n := by
      conv_rhs => rw [← List.map_id (Nat.digits 10 n)]
      apply List.map_congr_left
      intro d hd
      rw [toNat_ofNat_digit (Nat.digits_lt_base (by decide) hd), Nat.add_sub_cancel_left, id]
    rw [ofNat, if_neg hzero, value, List.reverse_reverse, List.map_map, Function.comp_def, hdigits,
      Nat.ofDigits_digits]

/-- It has a digit. -/
theorem ofNat_ne_nil (n : ℕ) : ofNat n ≠ [] := by
  rw [ofNat]
  split
  · exact List.cons_ne_nil _ _
  · next hzero => simpa [Nat.digits_eq_nil_iff_eq_zero] using hzero

/-- It has nothing but digits. -/
theorem isDigit_ofNat {n : ℕ} {c : UInt8} (hc : c ∈ ofNat n) : isDigit c = true := by
  rw [ofNat] at hc
  split at hc
  · rw [List.mem_singleton.mp hc]
    decide
  · obtain ⟨d, hd, rfl⟩ := List.mem_map.mp (List.mem_reverse.mp hc)
    have hlt : d < 10 := Nat.digits_lt_base (by decide) hd
    have hnat := toNat_ofNat_digit hlt
    simp only [isDigit, Bool.and_eq_true, decide_eq_true_eq, UInt8.le_iff_toNat_le, hnat, UInt8.reduceToNat]
    omega

end Decimal
