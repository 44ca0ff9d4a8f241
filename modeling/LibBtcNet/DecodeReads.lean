import LibBtcNet.Base32
import LibBtcNet.Support.ShortCircuit

/-!
# What the base32 decoder reads

`DecodeBase32` once more, on memory that goes on behind the string, with the index of every
character that it evaluates. The loop stops at the NUL at the latest, which is in no alphabet,
and the look-ahead does not go past it, as it evaluates a character only where all those
before it are padding.
-/

namespace LibBtcNet

open ShortCircuit BitGroups

/-- The bytes from the beginning of a string on, without an end. -/
abbrev Memory := ℕ → UInt8

namespace Memory

/-- The first NUL is at index `n`. -/
structure EndsAt (mem : Memory) (n : ℕ) : Prop where
  nul : mem n = 0
  before : ∀ i < n, mem i ≠ 0

/-- The string from index `p` up to the NUL at index `n`. -/
def string (mem : Memory) (p n : ℕ) : Bytes := (List.range' p (n - p)).map mem

end Memory

/-- The loop of `DecodeBase32` from index `p` on: the variables, the index where it stops and the
indices it evaluates, if it stops in that many passes. -/
def decodeLoopReads (mem : Memory) : ℕ → ℕ → DecodeState → Option (DecodeState × ℕ × List ℕ)
  | 0, _, _ => none
  | fuel + 1, p, st =>
    let dec := decode32At (mem p)
    if dec = -1 then some (st, p, [p])
    else (decodeLoopReads mem fuel (p + 1) (st.step dec.toNat)).map fun (st, q, reads) => (st, q, p :: reads)

/-- An operand of the disjunction that looks ahead. -/
inductive PadCheck where
  | left
  | pad (i : ℕ)
  | last (i : ℕ)
deriving DecidableEq, Repr

namespace PadCheck

/-- The index that an operand evaluates, from `p` on. -/
def read? (p : ℕ) : PadCheck → Option ℕ
  | left => none
  | pad i => some (p + i)
  | last i => some (p + i)

/-- Whether an operand holds. -/
def holds (mem : Memory) (p left : ℕ) : PadCheck → Bool
  | .left => left != 0
  | pad i => mem (p + i) != padChar
  | last i => decode32At (mem (p + i)) != -1

/-- The operands for some padding characters from the `i`th on and no further character of the alphabet. -/
def pads (i : ℕ) : ℕ → List PadCheck
  | 0 => [.last i]
  | count + 1 => .pad i :: pads (i + 1) count

/-- All operands. -/
def all (count : ℕ) : List PadCheck := .left :: pads 0 count

end PadCheck

/-- The disjunction that looks ahead, and the indices it evaluates. -/
def lookAheadReads (mem : Memory) (p left count : ℕ) : Bool × List ℕ :=
  ((PadCheck.all count).any (PadCheck.holds mem p left),
    (evaluated (PadCheck.holds mem p left) (PadCheck.all count)).filterMap (PadCheck.read? p))

/-- `*pfInvalid` and the indices evaluated for it, by what the loop leaves and the index where it stops. -/
def pfInvalidReads (mem : Memory) (p : ℕ) (st : DecodeState) : Bool × List ℕ :=
  match st.mode with
  | 0 => (false, [])
  | 1 => (true, [])
  | 2 => lookAheadReads mem p st.left 6
  | 3 => (true, [])
  | 4 => lookAheadReads mem p st.left 4
  | 5 => lookAheadReads mem p st.left 3
  | 6 => (true, [])
  | 7 => lookAheadReads mem p st.left 1

/-- The outcome of `DecodeBase32`, with the indices of the characters that it evaluates. -/
structure DecodeOutcome where
  vchRet : Bytes
  pfInvalid : Option Bool
  reads : List ℕ
deriving DecidableEq, Repr

/-- `DecodeBase32`, for a caller who wants `*pfInvalid` or passes a null pointer, if the loop stops in
`fuel` passes. -/
def decodeBase32Reads (mem : Memory) (wanted : Bool) (fuel : ℕ) : Option DecodeOutcome :=
  (decodeLoopReads mem fuel 0 .start).map fun (st, p, reads) =>
    if wanted then
      let (invalid, more) := pfInvalidReads mem p st
      ⟨st.vchRet, some invalid, reads ++ more⟩
    else ⟨st.vchRet, none, reads⟩

namespace PadCheck

/-- The operands behind the first. -/
theorem any_pads (mem : Memory) (p left first count : ℕ) : (pads first count).any (holds mem p left) =
    ((List.range' first count).any (fun i => mem (p + i) != padChar) ||
      decode32At (mem (p + (first + count))) != -1) := by
  induction count generalizing first with
  | zero => simp [pads, holds]
  | succ count ih =>
    rw [pads, List.any_cons, ih, List.range'_succ, List.any_cons, holds, Bool.or_assoc,
      show first + 1 + count = first + (count + 1) by omega]

/-- The look-ahead of a string is the disjunction of the operands. -/
theorem padded_eq (count left : ℕ) (p : Bytes) :
    padded count left p = !(all count).any (holds (cstrAt p) 0 left) := by
  rw [all, List.any_cons, any_pads, padded, Bool.or_assoc, List.range_eq_range']
  simp only [Nat.zero_add]
  rfl

end PadCheck

/-- `decode32_table` has an entry for every byte. -/
theorem decode32Table_length : decode32Table.length = 256 := by decide +kernel

/-- The NUL is in no alphabet. -/
theorem decode32At_nul : decode32At 0 = -1 := by decide +kernel

namespace Memory.EndsAt

variable {mem : Memory} {n p : ℕ}

/-- The string from an index before the NUL. -/
theorem string_cons (hp : p < n) : mem.string p n = mem p :: mem.string (p + 1) n := by
  rw [string, string, show n - p = n - (p + 1) + 1 by omega, List.range'_succ, List.map_cons]

/-- Up to the NUL the string has the characters of the memory. -/
theorem cstrAt_string (h : mem.EndsAt n) {i : ℕ} (hi : p + i ≤ n) : cstrAt (mem.string p n) i = mem (p + i) := by
  rw [cstrAt, string, List.getD_eq_getElem?_getD, List.getElem?_map]
  rcases Nat.lt_or_eq_of_le hi with hlt | heq
  · rw [List.getElem?_range' (by omega), Nat.one_mul]
    rfl
  · rw [List.getElem?_eq_none (by simp; omega), heq, h.nul]
    rfl

/-- The loop stops at the NUL at the latest, having evaluated every character up to where it stops. -/
theorem decodeLoopReads_eq (h : mem.EndsAt n) (hp : p ≤ n) {fuel : ℕ} (hfuel : n - p < fuel) (st : DecodeState) :
    ∃ q, p ≤ q ∧ q ≤ n ∧ decodeLoop st (mem.string p n) = ((decodeLoop st (mem.string p n)).1, mem.string q n) ∧
      decodeLoopReads mem fuel p st =
        some ((decodeLoop st (mem.string p n)).1, q, List.range' p (q + 1 - p)) := by
  induction fuel generalizing p st with
  | zero => omega
  | succ fuel ih =>
    have hstop (hdec : decode32At (mem p) = -1)
        (hloop : decodeLoop st (mem.string p n) = (st, mem.string p n)) : ∃ q, p ≤ q ∧ q ≤ n ∧
        decodeLoop st (mem.string p n) = ((decodeLoop st (mem.string p n)).1, mem.string q n) ∧
          decodeLoopReads mem (fuel + 1) p st =
            some ((decodeLoop st (mem.string p n)).1, q, List.range' p (q + 1 - p)) := by
      refine ⟨p, le_refl p, hp, by rw [hloop], ?_⟩
      rw [decodeLoopReads, if_pos hdec, hloop, show p + 1 - p = 1 by omega]
      rfl
    rcases Nat.lt_or_eq_of_le hp with hlt | rfl
    · by_cases hdec : decode32At (mem p) = -1
      · refine hstop hdec ?_
        rw [string_cons hlt, decodeLoop, if_pos hdec]
      · obtain ⟨q, hpq, hqn, hrest, hreads⟩ := ih hlt (by omega) (st.step (decode32At (mem p)).toNat)
        have hloop : decodeLoop st (mem.string p n) =
            decodeLoop (st.step (decode32At (mem p)).toNat) (mem.string (p + 1) n) := by
          rw [string_cons hlt, decodeLoop, if_neg hdec]
        refine ⟨q, by omega, hqn, by rw [hloop]; exact hrest, ?_⟩
        rw [decodeLoopReads, if_neg hdec, hreads, hloop, Option.map_some,
          show q + 1 - p = q + 1 - (p + 1) + 1 by omega, List.range'_succ]
    · refine hstop (h.nul ▸ decode32At_nul) ?_
      rw [string, Nat.sub_self]
      rfl

/-- A character is evaluated when those before it are padding, so that none of them is the NUL. -/
theorem read_pads_le (h : mem.EndsAt n) {left first count i : ℕ} (hp : p + first ≤ n) {check : PadCheck}
    (hcheck : check ∈ evaluated (PadCheck.holds mem p left) (PadCheck.pads first count))
    (hread : check.read? p = some i) : i ≤ n := by
  induction count generalizing first with
  | zero =>
    rcases mem_evaluated_cons hcheck with rfl | ⟨-, hnone⟩
    · obtain rfl := Option.some.inj hread
      exact hp
    · contradiction
  | succ count ih =>
    rcases mem_evaluated_cons hcheck with rfl | ⟨hpad, hlater⟩
    · obtain rfl := Option.some.inj hread
      exact hp
    · refine ih ?_ hlater
      have hne : p + first ≠ n := by
        intro heq
        rw [PadCheck.holds, heq, h.nul] at hpad
        exact absurd hpad (by decide)
      omega

/-- The look-ahead does not go past the NUL. -/
theorem read_le (h : mem.EndsAt n) (hp : p ≤ n) {left count i : ℕ} {check : PadCheck}
    (hcheck : check ∈ evaluated (PadCheck.holds mem p left) (PadCheck.all count))
    (hread : check.read? p = some i) : i ≤ n := by
  rcases mem_evaluated_cons hcheck with rfl | ⟨-, hpads⟩
  · contradiction
  · exact h.read_pads_le hp hpads hread

/-- The look-ahead on the memory decides as that on the string does. -/
theorem lookAheadReads_eq (h : mem.EndsAt n) (hp : p ≤ n) (left count : ℕ) :
    (lookAheadReads mem p left count).1 = !padded count left (mem.string p n) ∧
      ∀ i ∈ (lookAheadReads mem p left count).2, i ≤ n := by
  constructor
  · rw [PadCheck.padded_eq, Bool.not_not]
    apply any_congr
    intro check hcheck
    cases check with
    | left => rfl
    | pad i =>
      rw [PadCheck.holds, PadCheck.holds, Nat.zero_add, h.cstrAt_string (h.read_le hp hcheck rfl)]
    | last i =>
      rw [PadCheck.holds, PadCheck.holds, Nat.zero_add, h.cstrAt_string (h.read_le hp hcheck rfl)]
  · intro i hi
    obtain ⟨check, hcheck, hread⟩ := List.mem_filterMap.mp hi
    exact h.read_le hp hcheck hread

/-- So does all that is decided behind the loop. -/
theorem pfInvalidReads_eq (h : mem.EndsAt n) (hp : p ≤ n) (st : DecodeState) :
    (pfInvalidReads mem p st).1 = pfInvalid st (mem.string p n) ∧ ∀ i ∈ (pfInvalidReads mem p st).2, i ≤ n := by
  obtain ⟨vchRet, mode, left⟩ := st
  match mode with
  | 0 => exact ⟨rfl, by simp [pfInvalidReads]⟩
  | 1 => exact ⟨rfl, by simp [pfInvalidReads]⟩
  | 2 => exact h.lookAheadReads_eq hp left 6
  | 3 => exact ⟨rfl, by simp [pfInvalidReads]⟩
  | 4 => exact h.lookAheadReads_eq hp left 4
  | 5 => exact h.lookAheadReads_eq hp left 3
  | 6 => exact ⟨rfl, by simp [pfInvalidReads]⟩
  | 7 => exact h.lookAheadReads_eq hp left 1

end Memory.EndsAt

/-- Eight characters of the alphabet make five bytes, and what is left of the last ones makes none. -/
theorem decodeBase32_length (s : Bytes) :
    (decodeBase32 s).1.length = 5 * (s.takeWhile isBase32).length / 8 := by
  have hbody : ∀ c ∈ s.takeWhile isBase32, isBase32 c = true := fun c hc =>
    List.all_eq_true.mp List.all_takeWhile c hc
  obtain ⟨st, rest, hst, hdecodes⟩ := decode_digits (digitsOf_lt (s.takeWhile isBase32))
  have hbits := congrArg List.length hdecodes.bits
  have hfew : ∀ mode, DecodeState.count mode < 8 := by decide
  have hless := hfew st.mode
  rw [List.length_append, byteBits_length, bitsOf_length, stream_length, digitsOf_length hbody] at hbits
  rw [decodeBase32, decodeLoop_eq, hst]
  simp only
  omega

/-- Whatever lies behind its NUL, a string is decoded in as many passes as it has characters and one more.
No character behind the NUL is evaluated and none is outside the table, the outcome is that for the string
alone, and there are as many bytes as its characters of the alphabet fill. -/
theorem decodeBase32_staysInside {mem : Memory} {n : ℕ} (h : mem.EndsAt n) (wanted : Bool) {fuel : ℕ}
    (hfuel : n < fuel) : ∃ outcome, decodeBase32Reads mem wanted fuel = some outcome ∧
      (∀ i ∈ outcome.reads, i ≤ n ∧ (mem i).toNat < decode32Table.length) ∧
      outcome.vchRet = (decodeBase32 (mem.string 0 n)).1 ∧
      outcome.pfInvalid = (if wanted then some (decodeBase32 (mem.string 0 n)).2 else none) ∧
      outcome.vchRet.length = 5 * ((mem.string 0 n).takeWhile isBase32).length / 8 := by
  obtain ⟨q, -, hqn, hloop, hreads⟩ := h.decodeLoopReads_eq (Nat.zero_le n) (by omega : n - 0 < fuel) .start
  have hindex (i : ℕ) (hi : i ≤ n) : i ≤ n ∧ (mem i).toNat < decode32Table.length :=
    ⟨hi, decode32Table_length ▸ (mem i).toNat_lt⟩
  have hlooped : ∀ i ∈ List.range' 0 (q + 1 - 0), i ≤ n := by
    intro i hi
    have hlt := (List.mem_range'_1.mp hi).2
    omega
  obtain ⟨hinvalid, hahead⟩ := h.pfInvalidReads_eq hqn (decodeLoop .start (mem.string 0 n)).1
  have hdecoded : decodeBase32 (mem.string 0 n) = ((decodeLoop .start (mem.string 0 n)).1.vchRet,
      pfInvalid (decodeLoop .start (mem.string 0 n)).1 (mem.string q n)) := by
    rw [decodeBase32, ← DecodeState.start, hloop]
  have hlength := decodeBase32_length (mem.string 0 n)
  rw [hdecoded] at hlength ⊢
  cases wanted with
  | true =>
    refine ⟨_, congrArg (Option.map _) hreads, fun i hi => hindex i ?_, rfl, ?_, hlength⟩
    · rcases List.mem_append.mp hi with hloop | hmore
      · exact hlooped i hloop
      · exact hahead i hmore
    · exact congrArg some hinvalid
  | false =>
    exact ⟨_, congrArg (Option.map _) hreads, fun i hi => hindex i (hlooped i hi), rfl, rfl, hlength⟩

/-- `"my"` and one padding character, which is not enough, with more padding behind the NUL. -/
theorem decodeBase32_staysInside_short : ∃ outcome,
    decodeBase32Reads (fun i => [109, 121, 61].getD i (if i = 3 then 0 else padChar)) true 4 = some outcome ∧
      outcome.reads = [0, 1, 2, 2, 3] ∧ outcome.vchRet.length = 1 := by
  have hends : Memory.EndsAt (fun i => [109, 121, 61].getD i (if i = 3 then 0 else padChar)) 3 :=
    ⟨by decide, by decide⟩
  obtain ⟨outcome, houtcome, -, -, -, hlength⟩ := decodeBase32_staysInside hends true (by decide : 3 < 4)
  refine ⟨outcome, houtcome, ?_, ?_⟩
  · obtain rfl := Option.some.inj (houtcome.symm.trans rfl)
    decide +kernel
  · rw [hlength]
    decide +kernel

end LibBtcNet
