import Mathlib.Data.List.Basic
import Mathlib.Data.Nat.Bitwise

/-!
# Bits in groups

The bits of a number, most significant first, and of a list of numbers of one width. A bit
stream and a remainder shorter than a group determine the groups, which is what makes
regrouping reversible.
-/

namespace BitGroups

/-- The lowest `width` bits of a number, most significant first. -/
def bitsOf : ℕ → ℕ → List Bool
  | 0, _ => []
  | width + 1, n => n.testBit width :: bitsOf width n

/-- The bits of a list of groups. -/
def stream (width : ℕ) (groups : List ℕ) : List Bool := groups.flatMap (bitsOf width)

/-- A group has as many bits as it is wide. -/
@[simp] theorem bitsOf_length (width n : ℕ) : (bitsOf width n).length = width := by
  induction width with
  | zero => rfl
  | succ width ih => rw [bitsOf, List.length_cons, ih]

/-- A group depends on the bits below its width. -/
theorem bitsOf_congr {width m n : ℕ} (h : ∀ i < width, m.testBit i = n.testBit i) :
    bitsOf width m = bitsOf width n := by
  induction width with
  | zero => rfl
  | succ width ih =>
    rw [bitsOf, bitsOf, h width (Nat.lt_succ_self width), ih fun i hi => h i (hi.trans (Nat.lt_succ_self width))]

/-- A group is its upper part and its lower part. -/
theorem bitsOf_add (high low n : ℕ) : bitsOf (high + low) n = bitsOf high (n >>> low) ++ bitsOf low n := by
  induction high with
  | zero => rw [Nat.zero_add, bitsOf, List.nil_append]
  | succ high ih =>
    rw [Nat.add_right_comm, bitsOf, ih, bitsOf, List.cons_append, Nat.testBit_shiftRight, Nat.add_comm low]

/-- A number shifted over another one has the bits of both. -/
theorem bitsOf_shiftLeft_or (high low x : ℕ) {y : ℕ} (hy : y < 2 ^ low) :
    bitsOf (high + low) (x <<< low ||| y) = bitsOf high x ++ bitsOf low y := by
  rw [bitsOf_add]
  congr 1
  · refine bitsOf_congr fun i _ => ?_
    have hbit : y.testBit (low + i) = false :=
      Nat.testBit_lt_two_pow (hy.trans_le (Nat.pow_le_pow_right (by decide) (Nat.le_add_right low i)))
    rw [Nat.testBit_shiftRight, Nat.testBit_or, hbit, Bool.or_false, Nat.testBit_shiftLeft]
    simp
  · refine bitsOf_congr fun i hi => ?_
    rw [Nat.testBit_or, Nat.testBit_shiftLeft]
    simp [Nat.not_le.mpr hi]

/-- Bits left over and the first bits of a group make a new group; the last bits of the group stay. -/
theorem bitsOf_regroup (count high low rest : ℕ) {n : ℕ} (hn : n < 2 ^ (high + low)) :
    bitsOf (count + high) (rest <<< high ||| n >>> low) ++ bitsOf low n =
      bitsOf count rest ++ bitsOf (high + low) n := by
  have hhigh : n >>> low < 2 ^ high := by
    rw [Nat.shiftRight_eq_div_pow, Nat.div_lt_iff_lt_mul (Nat.two_pow_pos low), ← pow_add]
    exact hn
  rw [bitsOf_shiftLeft_or count high rest hhigh, bitsOf_add high low, List.append_assoc]

/-- The new group has its width. -/
theorem regroup_lt {count high low rest n : ℕ} (hrest : rest < 2 ^ count) (hn : n < 2 ^ (high + low)) :
    rest <<< high ||| n >>> low < 2 ^ (count + high) := by
  refine Nat.or_lt_two_pow (Nat.shiftLeft_lt hrest) ?_
  rw [Nat.shiftRight_eq_div_pow, Nat.div_lt_iff_lt_mul (Nat.two_pow_pos low), ← pow_add]
  exact hn.trans_le (Nat.pow_le_pow_right (by decide) (by omega))

/-- What stays under a mask has the width of the mask. -/
theorem and_lt {mask width : ℕ} (n : ℕ) (hmask : mask = 2 ^ width - 1) : n &&& mask < 2 ^ width := by
  rw [hmask, Nat.and_two_pow_sub_one_eq_mod]
  exact Nat.mod_lt _ (Nat.two_pow_pos width)

/-- Masking with all bits of the width changes nothing. -/
theorem bitsOf_mod (width n : ℕ) : bitsOf width (n % 2 ^ width) = bitsOf width n :=
  bitsOf_congr fun i hi => by simp [hi]

/-- Masking with as many ones as the group is wide changes nothing. -/
theorem bitsOf_and (width mask n : ℕ) (hmask : mask = 2 ^ width - 1) :
    bitsOf width (n &&& mask) = bitsOf width n := by
  rw [hmask, Nat.and_two_pow_sub_one_eq_mod, bitsOf_mod]

/-- Zero has no bit set. -/
@[simp] theorem bitsOf_zero (width : ℕ) : bitsOf width 0 = List.replicate width false := by
  induction width with
  | zero => rfl
  | succ width ih => rw [bitsOf, ih, Nat.zero_testBit, List.replicate_succ]

/-- Numbers that fit a group are equal when their bits are. -/
theorem bitsOf_inj {width m n : ℕ} (hm : m < 2 ^ width) (hn : n < 2 ^ width)
    (h : bitsOf width m = bitsOf width n) : m = n := by
  induction width generalizing m n with
  | zero => omega
  | succ width ih =>
    rw [bitsOf, bitsOf, List.cons.injEq] at h
    have hlow : m % 2 ^ width = n % 2 ^ width := by
      refine ih (Nat.mod_lt _ (Nat.two_pow_pos width)) (Nat.mod_lt _ (Nat.two_pow_pos width)) ?_
      rw [bitsOf_mod, bitsOf_mod, h.2]
    refine Nat.eq_of_testBit_eq fun i => ?_
    obtain hi | rfl | hi := lt_trichotomy i width
    · simpa [hi] using congrArg (Nat.testBit · i) hlow
    · exact h.1
    · rw [Nat.testBit_lt_two_pow (hm.trans_le (Nat.pow_le_pow_right (by decide) hi)),
        Nat.testBit_lt_two_pow (hn.trans_le (Nat.pow_le_pow_right (by decide) hi))]

/-- A number that fits a group is zero when its bits are. -/
theorem forall_bitsOf_iff {width n : ℕ} (hn : n < 2 ^ width) : (∀ bit ∈ bitsOf width n, bit = false) ↔ n = 0 := by
  constructor
  · intro h
    refine bitsOf_inj hn (Nat.two_pow_pos width) ?_
    rw [bitsOf_zero]
    exact List.eq_replicate_iff.mpr ⟨bitsOf_length width n, h⟩
  · rintro rfl bit hbit
    rw [bitsOf_zero] at hbit
    exact List.eq_of_mem_replicate hbit

/-- The groups of two lists follow each other. -/
@[simp] theorem stream_append (width : ℕ) (groups later : List ℕ) :
    stream width (groups ++ later) = stream width groups ++ stream width later :=
  List.flatMap_append

/-- One group. -/
@[simp] theorem stream_singleton (width n : ℕ) : stream width [n] = bitsOf width n := by
  simp [stream]

/-- The length of a stream. -/
@[simp] theorem stream_length (width : ℕ) (groups : List ℕ) :
    (stream width groups).length = width * groups.length := by
  induction groups with
  | nil => rfl
  | cons n groups ih =>
    rw [stream, List.flatMap_cons, List.length_append, bitsOf_length, List.length_cons]
    change width + (stream width groups).length = _
    rw [ih, Nat.mul_succ, Nat.add_comm]

/-- A stream and a remainder shorter than a group determine the groups and the remainder. -/
theorem stream_inj {width : ℕ} {groups others : List ℕ} {rest other : List Bool}
    (hgroups : ∀ n ∈ groups, n < 2 ^ width) (hothers : ∀ n ∈ others, n < 2 ^ width)
    (hrest : rest.length < width) (hother : other.length < width)
    (h : stream width groups ++ rest = stream width others ++ other) : groups = others ∧ rest = other := by
  induction groups generalizing others with
  | nil =>
    cases others with
    | nil => exact ⟨rfl, h⟩
    | cons n others =>
      have hlength := congrArg List.length h
      simp [stream] at hlength
      omega
  | cons m groups ih =>
    cases others with
    | nil =>
      have hlength := congrArg List.length h
      simp [stream] at hlength
      omega
    | cons n others =>
      rw [List.forall_mem_cons] at hgroups hothers
      change (bitsOf width m ++ stream width groups) ++ rest = (bitsOf width n ++ stream width others) ++ other at h
      rw [List.append_assoc, List.append_assoc] at h
      obtain ⟨hhead, htail⟩ := List.append_inj h (by simp)
      obtain ⟨rfl, rfl⟩ := ih hgroups.2 hothers.2 htail
      exact ⟨by rw [bitsOf_inj hgroups.1 hothers.1 hhead], rfl⟩

end BitGroups
