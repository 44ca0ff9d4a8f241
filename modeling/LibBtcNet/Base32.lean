import LibBtcNet.Connection
import LibBtcNet.Support.BitGroups
import Mathlib.Tactic.IntervalCases

/-!
# Base32

`EncodeBase32` and `DecodeBase32`. Both go through their input once, with a mode that says how
many bits of the last character or byte are still left. A C string is the list of its bytes
before the NUL, which is read where the list ends.
-/

namespace LibBtcNet

/-- `pbase32`. -/
def pbase32 : Bytes :=
  (List.range 26).map (fun i => UInt8.ofNat (97 + i)) ++ (List.range 6).map (fun i => UInt8.ofNat (50 + i))

/-- `'='`. -/
def padChar : UInt8 := 61

/-- `nPadding`. -/
def nPadding : Fin 5 → ℕ
  | 0 => 0
  | 1 => 6
  | 2 => 4
  | 3 => 3
  | 4 => 1

/-- The character of an index of `pbase32`. -/
def pbase32At (i : ℕ) : UInt8 := pbase32.getD i 0

/-- The variables of `EncodeBase32`. -/
structure EncodeState where
  strRet : Bytes
  mode : Fin 5
  left : ℕ
deriving DecidableEq, Repr

/-- A byte is encoded. -/
def EncodeState.step (st : EncodeState) (byte : UInt8) : EncodeState :=
  let enc := byte.toNat
  match st.mode with
  | 0 => ⟨st.strRet ++ [pbase32At (enc >>> 3)], 1, (enc &&& 7) <<< 2⟩
  | 1 => ⟨st.strRet ++ [pbase32At (st.left ||| enc >>> 6), pbase32At ((enc >>> 1) &&& 31)], 2, (enc &&& 1) <<< 4⟩
  | 2 => ⟨st.strRet ++ [pbase32At (st.left ||| enc >>> 4)], 3, (enc &&& 15) <<< 1⟩
  | 3 => ⟨st.strRet ++ [pbase32At (st.left ||| enc >>> 7), pbase32At ((enc >>> 2) &&& 31)], 4, (enc &&& 3) <<< 3⟩
  | 4 => ⟨st.strRet ++ [pbase32At (st.left ||| enc >>> 5), pbase32At (enc &&& 31)], 0, st.left⟩

/-- `EncodeBase32`. -/
def encodeBase32 (bytes : Bytes) : Bytes :=
  let st := bytes.foldl EncodeState.step ⟨[], 0, 0⟩
  if st.mode ≠ 0 then st.strRet ++ [pbase32At st.left] ++ List.replicate (nPadding st.mode) padChar
  else st.strRet

/-- `decode32_table`. -/
def decode32Table : List ℤ :=
  List.replicate 50 (-1) ++ [26, 27, 28, 29, 30, 31] ++ List.replicate 9 (-1) ++
    (List.range 26).map Int.ofNat ++ List.replicate 6 (-1) ++ (List.range 26).map Int.ofNat ++
    List.replicate 133 (-1)

/-- The table's entry for a character. -/
def decode32At (c : UInt8) : ℤ := decode32Table.getD c.toNat (-1)

/-- The variables of `DecodeBase32`. -/
structure DecodeState where
  vchRet : Bytes
  mode : Fin 8
  left : ℕ
deriving DecidableEq, Repr

/-- The variables before the first character. -/
def DecodeState.start : DecodeState := ⟨[], 0, 0⟩

/-- A value is decoded; what is pushed is cut to a byte. -/
def DecodeState.step (st : DecodeState) (dec : ℕ) : DecodeState :=
  match st.mode with
  | 0 => ⟨st.vchRet, 1, dec⟩
  | 1 => ⟨st.vchRet ++ [UInt8.ofNat (st.left <<< 3 ||| dec >>> 2)], 2, dec &&& 3⟩
  | 2 => ⟨st.vchRet, 3, st.left <<< 5 ||| dec⟩
  | 3 => ⟨st.vchRet ++ [UInt8.ofNat (st.left <<< 1 ||| dec >>> 4)], 4, dec &&& 15⟩
  | 4 => ⟨st.vchRet ++ [UInt8.ofNat (st.left <<< 4 ||| dec >>> 1)], 5, dec &&& 1⟩
  | 5 => ⟨st.vchRet, 6, st.left <<< 5 ||| dec⟩
  | 6 => ⟨st.vchRet ++ [UInt8.ofNat (st.left <<< 2 ||| dec >>> 3)], 7, dec &&& 7⟩
  | 7 => ⟨st.vchRet ++ [UInt8.ofNat (st.left <<< 5 ||| dec)], 0, st.left⟩

/-- The loop of `DecodeBase32`: the variables and the rest of the string where it stops. -/
def decodeLoop (st : DecodeState) : Bytes → DecodeState × Bytes
  | [] => (st, [])
  | c :: p => if decode32At c = -1 then (st, c :: p) else decodeLoop (st.step (decode32At c).toNat) p

/-- `p[i]`, the NUL behind the end included. -/
def cstrAt (p : Bytes) (i : ℕ) : UInt8 := p.getD i 0

/-- The look-ahead for some padding characters and no further character of the alphabet. -/
def padded (count left : ℕ) (p : Bytes) : Bool :=
  !(left != 0 || (List.range count).any (fun i => cstrAt p i != padChar) || decode32At (cstrAt p count) != -1)

/-- `*pfInvalid`, by what the loop leaves and the string where it stops. -/
def pfInvalid (st : DecodeState) (p : Bytes) : Bool :=
  match st.mode with
  | 0 => false
  | 1 => true
  | 2 => !padded 6 st.left p
  | 3 => true
  | 4 => !padded 4 st.left p
  | 5 => !padded 3 st.left p
  | 6 => true
  | 7 => !padded 1 st.left p

/-- `DecodeBase32`: the bytes, and `*pfInvalid`. -/
def decodeBase32 (p : Bytes) : Bytes × Bool :=
  let (st, p) := decodeLoop ⟨[], 0, 0⟩ p
  (st.vchRet, pfInvalid st p)

open BitGroups

/-- The values of bytes. -/
def byteValues (bytes : Bytes) : List ℕ := bytes.map UInt8.toNat

/-- The bits of bytes. -/
def byteBits (bytes : Bytes) : List Bool := stream 8 (byteValues bytes)

/-- The bits of later bytes follow. -/
@[simp] theorem byteBits_append (bytes later : Bytes) :
    byteBits (bytes ++ later) = byteBits bytes ++ byteBits later := by
  simp [byteBits, byteValues]

/-- The bits of one byte. -/
@[simp] theorem byteBits_singleton (byte : UInt8) : byteBits [byte] = bitsOf 8 byte.toNat := by
  simp [byteBits, byteValues]

/-- A byte has eight bits. -/
@[simp] theorem byteBits_length (bytes : Bytes) : (byteBits bytes).length = 8 * bytes.length := by
  simp [byteBits, byteValues]

/-- The values of bytes fit eight bits. -/
theorem byteValues_lt (bytes : Bytes) : ∀ n ∈ byteValues bytes, n < 2 ^ 8 := by
  intro n hn
  obtain ⟨byte, -, rfl⟩ := List.mem_map.mp hn
  exact byte.toNat_lt

/-- Bytes and a remainder shorter than a byte are determined by their bits. -/
theorem byteBits_inj {bytes others : Bytes} {rest other : List Bool} (hrest : rest.length < 8)
    (hother : other.length < 8) (h : byteBits bytes ++ rest = byteBits others ++ other) :
    bytes = others ∧ rest = other := by
  obtain ⟨hvalues, hsame⟩ := stream_inj (byteValues_lt bytes) (byteValues_lt others) hrest hother h
  exact ⟨List.map_injective_iff.mpr (fun _ _ => UInt8.toNat_inj.mp) hvalues, hsame⟩

namespace EncodeState

/-- The number of bits that a mode has left. -/
def count : Fin 5 → ℕ
  | 0 => 0
  | 1 => 3
  | 2 => 1
  | 3 => 4
  | 4 => 2

/-- What has been written are the first bits of the bytes, in groups of five, and the others are left,
shifted to where the next character needs them. -/
structure Encodes (bytes : Bytes) (st : EncodeState) (digits : List ℕ) (rest : ℕ) : Prop where
  strRet : st.strRet = digits.map pbase32At
  small : ∀ d ∈ digits, d < 2 ^ 5
  left : st.mode ≠ 0 → st.left = rest <<< (5 - count st.mode)
  few : rest < 2 ^ count st.mode
  bits : stream 5 digits ++ bitsOf (count st.mode) rest = byteBits bytes
  length : 8 * bytes.length = 5 * digits.length + count st.mode

/-- Characters for a byte, and the bits that stay. -/
theorem Encodes.append {bytes : Bytes} {byte : UInt8} {st st' : EncodeState} {digits : List ℕ} {rest : ℕ}
    (hencodes : Encodes bytes st digits rest) {more : List ℕ} {rest' : ℕ}
    (hret : st'.strRet = st.strRet ++ more.map pbase32At) (hmore : ∀ d ∈ more, d < 2 ^ 5)
    (hleft : st'.mode ≠ 0 → st'.left = rest' <<< (5 - count st'.mode)) (hrest : rest' < 2 ^ count st'.mode)
    (hbits : stream 5 more ++ bitsOf (count st'.mode) rest' = bitsOf (count st.mode) rest ++ bitsOf 8 byte.toNat) :
    Encodes (bytes ++ [byte]) st' (digits ++ more) rest' := by
  have hlength := congrArg List.length hbits
  have hbefore := hencodes.length
  simp only [List.length_append, bitsOf_length, stream_length] at hlength
  constructor
  · rw [hret, hencodes.strRet, List.map_append]
  · intro d hd
    exact (List.mem_append.mp hd).elim (hencodes.small d) (hmore d)
  · exact hleft
  · exact hrest
  · rw [stream_append, List.append_assoc, hbits, ← List.append_assoc, hencodes.bits, byteBits_append,
      byteBits_singleton]
  · rw [List.length_append, List.length_append, List.length_singleton]
    omega

/-- One byte. -/
theorem Encodes.step {bytes : Bytes} (byte : UInt8) {st : EncodeState} {digits : List ℕ} {rest : ℕ}
    (hencodes : Encodes bytes st digits rest) :
    ∃ more rest', Encodes (bytes ++ [byte]) (st.step byte) (digits ++ more) rest' := by
  have henc := byte.toNat_lt
  -- A mode writes one digit and keeps the rest of the byte.
  have hone {st' : EncodeState} (high low mask : ℕ) (hcount : count st.mode + high = 5) (hbyte : high + low = 8)
      (hmask : mask = 2 ^ low - 1)
      (hret : st'.strRet = st.strRet ++ [rest <<< high ||| byte.toNat >>> low].map pbase32At)
      (hmode : count st'.mode = low) (hleft : st'.left = (byte.toNat &&& mask) <<< (5 - count st'.mode)) :
      ∃ more rest', Encodes (bytes ++ [byte]) st' (digits ++ more) rest' := by
    rw [← hbyte] at henc
    refine ⟨_, byte.toNat &&& mask, hencodes.append hret ?_ (fun _ => hleft) ?_ ?_⟩
    · simpa [hcount] using regroup_lt hencodes.few henc
    · exact hmode ▸ and_lt _ hmask
    · rw [stream_singleton, hmode, bitsOf_and _ mask _ hmask, ← hcount, bitsOf_regroup _ _ _ _ henc, hbyte]
  -- Or it writes a second digit.
  have htwo {st' : EncodeState} (high low mask : ℕ) (hcount : count st.mode + high = 5) (hbyte : high + (5 + low) = 8)
      (hmask : mask = 2 ^ low - 1)
      (hret : st'.strRet = st.strRet ++ [rest <<< high ||| byte.toNat >>> (5 + low),
        (byte.toNat >>> low) &&& 31].map pbase32At)
      (hmode : count st'.mode = low)
      (hleft : st'.mode ≠ 0 → st'.left = (byte.toNat &&& mask) <<< (5 - count st'.mode)) :
      ∃ more rest', Encodes (bytes ++ [byte]) st' (digits ++ more) rest' := by
    rw [← hbyte] at henc
    refine ⟨_, byte.toNat &&& mask, hencodes.append hret ?_ hleft ?_ ?_⟩
    · have hfirst := regroup_lt hencodes.few henc
      rw [hcount] at hfirst
      simpa using ⟨hfirst, (and_lt (byte.toNat >>> low) rfl : _ &&& 31 < 2 ^ 5)⟩
    · exact hmode ▸ and_lt _ hmask
    · have hdigit := bitsOf_regroup (count st.mode) high (5 + low) rest henc
      rw [hcount, hbyte, bitsOf_add 5 low] at hdigit
      rw [← List.singleton_append, stream_append, stream_singleton, stream_singleton, hmode,
        bitsOf_and _ mask _ hmask, bitsOf_and 5 31 _ rfl, List.append_assoc, hdigit]
  obtain ⟨strRet, mode, left⟩ := st
  have hleft := hencodes.left
  have hfew := hencodes.few
  match mode with
  | 0 =>
    obtain rfl : rest = 0 := Nat.lt_one_iff.mp hfew
    exact hone 5 3 7 rfl rfl rfl (by simp [EncodeState.step]) rfl rfl
  | 1 =>
    obtain rfl : left = rest <<< 2 := hleft Fin.zero_ne_one.symm
    exact htwo 2 1 1 rfl rfl rfl rfl rfl fun _ => rfl
  | 2 =>
    obtain rfl : left = rest <<< 4 := hleft (show (2 : Fin 5) ≠ 0 by decide)
    exact hone 4 4 15 rfl rfl rfl rfl rfl rfl
  | 3 =>
    obtain rfl : left = rest <<< 1 := hleft (show (3 : Fin 5) ≠ 0 by decide)
    exact htwo 1 2 3 rfl rfl rfl rfl rfl fun _ => rfl
  | 4 =>
    obtain rfl : left = rest <<< 3 := hleft (show (4 : Fin 5) ≠ 0 by decide)
    exact htwo 3 0 0 rfl rfl rfl rfl rfl fun hzero => absurd rfl hzero

/-- Byte after byte. -/
theorem Encodes.foldl {bytes : Bytes} {st : EncodeState} {digits : List ℕ} {rest : ℕ}
    (hencodes : Encodes bytes st digits rest) (later : Bytes) :
    ∃ digits rest, Encodes (bytes ++ later) (later.foldl EncodeState.step st) digits rest := by
  induction later generalizing bytes st digits rest with
  | nil => exact ⟨digits, rest, by simpa using hencodes⟩
  | cons byte later ih =>
    obtain ⟨more, rest', hstep⟩ := hencodes.step byte
    have hlater := ih hstep
    rwa [List.append_assoc, List.singleton_append] at hlater

end EncodeState

/-- The text is the bits of the bytes in groups of five, the last one filled up with zeros, and padding
up to a multiple of eight characters. -/
theorem encodeBase32_eq (bytes : Bytes) :
    ∃ digits zeros pad, encodeBase32 bytes = digits.map pbase32At ++ List.replicate pad padChar ∧
      (∀ d ∈ digits, d < 2 ^ 5) ∧ stream 5 digits = byteBits bytes ++ List.replicate zeros false ∧
      zeros < 5 ∧ digits.length + pad = 8 * ((bytes.length + 4) / 5) ∧ pad < 8 := by
  have hstart : EncodeState.Encodes [] ⟨[], 0, 0⟩ [] 0 :=
    ⟨rfl, by simp, fun h => absurd rfl h, Nat.zero_lt_one, rfl, rfl⟩
  obtain ⟨digits, rest, hencodes⟩ := hstart.foldl bytes
  rw [List.nil_append] at hencodes
  have hlength := hencodes.length
  have hleft := hencodes.left
  have hbits := hencodes.bits
  rw [encodeBase32]
  generalize bytes.foldl EncodeState.step ⟨[], 0, 0⟩ = st at *
  obtain ⟨strRet, mode, left⟩ := st
  obtain rfl : strRet = _ := hencodes.strRet
  -- The last digit holds what is left of the last byte.
  have hlast (high pad : ℕ) (hmode : mode ≠ 0) (hhigh : EncodeState.count mode + high = 5) (hpos : high < 5)
      (hpad : nPadding mode = pad) (htotal : digits.length + 1 + pad = 8 * ((bytes.length + 4) / 5)) (hlt : pad < 8) :
      ∃ digits' zeros pad, digits.map pbase32At ++ [pbase32At left] ++ List.replicate (nPadding mode) padChar =
          digits'.map pbase32At ++ List.replicate pad padChar ∧
        (∀ d ∈ digits', d < 2 ^ 5) ∧ stream 5 digits' = byteBits bytes ++ List.replicate zeros false ∧
        zeros < 5 ∧ digits'.length + pad = 8 * ((bytes.length + 4) / 5) ∧ pad < 8 := by
    obtain rfl : left = rest <<< (5 - EncodeState.count mode) := hleft hmode
    have hshift : 5 - EncodeState.count mode = high := by omega
    rw [hshift]
    have hdigit : bitsOf 5 (rest <<< high) = bitsOf (EncodeState.count mode) rest ++ List.replicate high false := by
      have hzero := bitsOf_shiftLeft_or (EncodeState.count mode) high rest (Nat.two_pow_pos high)
      rwa [Nat.or_zero, hhigh, bitsOf_zero] at hzero
    have hlt5 : rest <<< high < 2 ^ 5 := by
      rw [← hhigh]
      exact Nat.shiftLeft_lt hencodes.few
    refine ⟨digits ++ [rest <<< high], high, pad, ?_, ?_, ?_, hpos, ?_, hlt⟩
    · rw [hpad, List.map_append, List.map_singleton]
    · intro d hd
      rcases List.mem_append.mp hd with hold | hnew
      · exact hencodes.small d hold
      · obtain rfl := List.mem_singleton.mp hnew
        exact hlt5
    · rw [stream_append, stream_singleton, hdigit, ← List.append_assoc, hbits]
    · simpa using htotal
  match mode, hlength, hbits, hlast with
  | 0, hlength, hbits, _ =>
    change 8 * bytes.length = 5 * digits.length + 0 at hlength
    refine ⟨digits, 0, 0, by simp, hencodes.small, ?_, by decide, by omega, by decide⟩
    simpa [EncodeState.count, bitsOf] using hbits
  | 1, hlength, _, hlast =>
    change 8 * bytes.length = 5 * digits.length + 3 at hlength
    exact hlast 2 6 (by decide) rfl (by decide) rfl (by omega) (by decide)
  | 2, hlength, _, hlast =>
    change 8 * bytes.length = 5 * digits.length + 1 at hlength
    exact hlast 4 4 (by decide) rfl (by decide) rfl (by omega) (by decide)
  | 3, hlength, _, hlast =>
    change 8 * bytes.length = 5 * digits.length + 4 at hlength
    exact hlast 1 3 (by decide) rfl (by decide) rfl (by omega) (by decide)
  | 4, hlength, _, hlast =>
    change 8 * bytes.length = 5 * digits.length + 2 at hlength
    exact hlast 3 1 (by decide) rfl (by decide) rfl (by omega) (by decide)

namespace DecodeState

/-- The number of bits that a mode has left. -/
def count : Fin 8 → ℕ
  | 0 => 0
  | 1 => 5
  | 2 => 2
  | 3 => 7
  | 4 => 4
  | 5 => 1
  | 6 => 6
  | 7 => 3

/-- What has been pushed and what is left are the bits of the digits. -/
structure Decodes (digits : List ℕ) (st : DecodeState) (rest : ℕ) : Prop where
  left : st.mode ≠ 0 → st.left = rest
  few : rest < 2 ^ count st.mode
  bits : byteBits st.vchRet ++ bitsOf (count st.mode) rest = stream 5 digits
  mode : st.mode = Fin.ofNat 8 digits.length

/-- One digit. -/
theorem Decodes.step {digits : List ℕ} {st : DecodeState} {rest d : ℕ} (hdecodes : Decodes digits st rest)
    (hd : d < 2 ^ 5) : ∃ rest', Decodes (digits ++ [d]) (st.step d) rest' := by
  have hmode {next : Fin 8} (hnext : st.mode + 1 = next) : next = Fin.ofNat 8 (digits ++ [d]).length := by
    rw [← hnext, hdecodes.mode, List.length_append, List.length_singleton]
    simp [Fin.ext_iff, Fin.val_add]
  have hbits : byteBits st.vchRet ++ (bitsOf (count st.mode) rest ++ bitsOf 5 d) = stream 5 (digits ++ [d]) := by
    rw [stream_append, stream_singleton, ← hdecodes.bits, List.append_assoc]
  -- The bits do not make a byte yet.
  have hkeep {st' : DecodeState} (hret : st'.vchRet = st.vchRet) (hmode' : st.mode + 1 = st'.mode)
      (hcount : count st'.mode = count st.mode + 5) (hleft : st'.left = rest <<< 5 ||| d) :
      ∃ rest', Decodes (digits ++ [d]) st' rest' := by
    refine ⟨rest <<< 5 ||| d, fun _ => hleft, ?_, ?_, hmode hmode'⟩
    · rw [hcount]
      exact regroup_lt hdecodes.few (show d < 2 ^ (5 + 0) from hd)
    · rw [hret, hcount, bitsOf_shiftLeft_or _ 5 rest hd, hbits]
  -- A byte is pushed.
  have hpush {st' : DecodeState} (high low mask : ℕ) (hcount : count st.mode + high = 8) (hdigit : high + low = 5)
      (hmask : mask = 2 ^ low - 1) (hret : st'.vchRet = st.vchRet ++ [UInt8.ofNat (rest <<< high ||| d >>> low)])
      (hmode' : st.mode + 1 = st'.mode) (hlow : count st'.mode = low) (hleft : st'.mode ≠ 0 → st'.left = d &&& mask) :
      ∃ rest', Decodes (digits ++ [d]) st' rest' := by
    rw [← hdigit] at hd
    have hbyte := regroup_lt hdecodes.few hd
    rw [hcount] at hbyte
    refine ⟨d &&& mask, hleft, ?_, ?_, hmode hmode'⟩
    · exact hlow ▸ and_lt _ hmask
    · rw [hret, byteBits_append, byteBits_singleton, UInt8.toNat_ofNat_of_lt' hbyte, hlow, bitsOf_and _ mask _ hmask,
        List.append_assoc, ← hcount, bitsOf_regroup _ _ _ _ hd, hdigit, hbits]
  obtain ⟨vchRet, mode, left⟩ := st
  have hleft := hdecodes.left
  have hfew := hdecodes.few
  match mode with
  | 0 =>
    obtain rfl : rest = 0 := Nat.lt_one_iff.mp hfew
    exact hkeep rfl rfl rfl (by simp [DecodeState.step])
  | 1 =>
    obtain rfl : left = rest := hleft (show (1 : Fin 8) ≠ 0 by decide)
    exact hpush 3 2 3 rfl rfl rfl rfl rfl rfl fun _ => rfl
  | 2 =>
    obtain rfl : left = rest := hleft (show (2 : Fin 8) ≠ 0 by decide)
    exact hkeep rfl rfl rfl rfl
  | 3 =>
    obtain rfl : left = rest := hleft (show (3 : Fin 8) ≠ 0 by decide)
    exact hpush 1 4 15 rfl rfl rfl rfl rfl rfl fun _ => rfl
  | 4 =>
    obtain rfl : left = rest := hleft (show (4 : Fin 8) ≠ 0 by decide)
    exact hpush 4 1 1 rfl rfl rfl rfl rfl rfl fun _ => rfl
  | 5 =>
    obtain rfl : left = rest := hleft (show (5 : Fin 8) ≠ 0 by decide)
    exact hkeep rfl rfl rfl rfl
  | 6 =>
    obtain rfl : left = rest := hleft (show (6 : Fin 8) ≠ 0 by decide)
    exact hpush 2 3 7 rfl rfl rfl rfl rfl rfl fun _ => rfl
  | 7 =>
    obtain rfl : left = rest := hleft (show (7 : Fin 8) ≠ 0 by decide)
    exact hpush 5 0 0 rfl rfl rfl rfl rfl rfl fun hzero => absurd rfl hzero

/-- Digit after digit. -/
theorem Decodes.foldl {digits : List ℕ} {st : DecodeState} {rest : ℕ} (hdecodes : Decodes digits st rest)
    {later : List ℕ} (hlater : ∀ d ∈ later, d < 2 ^ 5) :
    ∃ rest, Decodes (digits ++ later) (later.foldl DecodeState.step st) rest := by
  induction later generalizing digits st rest with
  | nil => exact ⟨rest, by simpa using hdecodes⟩
  | cons d later ih =>
    rw [List.forall_mem_cons] at hlater
    obtain ⟨rest', hstep⟩ := hdecodes.step hlater.1
    have hrest := ih hstep hlater.2
    rwa [List.append_assoc, List.singleton_append] at hrest

end DecodeState

/-- The value of a character of the base32 alphabet, in either case. -/
def base32Digit (c : UInt8) : Option ℕ :=
  if 97 ≤ c ∧ c ≤ 122 then some (c.toNat - 97)
  else if 65 ≤ c ∧ c ≤ 90 then some (c.toNat - 65)
  else if 50 ≤ c ∧ c ≤ 55 then some (c.toNat - 24)
  else none

/-- `tolower` of an ASCII character. -/
def toLower (c : UInt8) : UInt8 := if 65 ≤ c ∧ c ≤ 90 then c + 32 else c

/-- The table holds the values of the alphabet. -/
theorem decode32At_eq (c : UInt8) : decode32At c = ((base32Digit c).map Int.ofNat).getD (-1) := by
  have h : ∀ n < 256, decode32At (UInt8.ofNat n) = ((base32Digit (UInt8.ofNat n)).map Int.ofNat).getD (-1) := by
    decide +kernel
  simpa using h c.toNat c.toNat_lt

/-- The table's entry for a character of the alphabet. -/
theorem decode32At_of_some {c : UInt8} {d : ℕ} (hd : base32Digit c = some d) : decode32At c = d := by
  rw [decode32At_eq, hd]
  rfl

/-- The table has no value for other characters. -/
theorem decode32At_eq_neg_one_iff (c : UInt8) : decode32At c = -1 ↔ base32Digit c = none := by
  rw [decode32At_eq]
  cases base32Digit c with
  | none => simp
  | some d =>
    simp only [Option.map_some, Option.getD_some, reduceCtorEq]

/-- A value of the alphabet fits five bits and belongs to the character in lower case. -/
theorem base32Digit_spec (c : UInt8) : ∀ d ∈ base32Digit c, d < 2 ^ 5 ∧ pbase32At d = toLower c := by
  have h : ∀ n < 256, ∀ d ∈ base32Digit (UInt8.ofNat n), d < 2 ^ 5 ∧ pbase32At d = toLower (UInt8.ofNat n) := by
    decide +kernel
  simpa using h c.toNat c.toNat_lt

/-- The characters that are written have their values, and are lower-case letters or digits. -/
theorem pbase32At_spec : ∀ d < 2 ^ 5, base32Digit (pbase32At d) = some d ∧
    (97 ≤ pbase32At d ∧ pbase32At d ≤ 122 ∨ 50 ≤ pbase32At d ∧ pbase32At d ≤ 55) := by
  decide +kernel

/-- The values of the characters of the alphabet in a text. -/
def digitsOf (body : Bytes) : List ℕ := body.filterMap base32Digit

/-- Whether a character belongs to the alphabet. -/
def isBase32 (c : UInt8) : Bool := (base32Digit c).isSome

/-- The loop takes the characters of the alphabet and stops at the first other one. -/
theorem decodeLoop_eq (st : DecodeState) (p : Bytes) :
    decodeLoop st p = ((digitsOf (p.takeWhile isBase32)).foldl DecodeState.step st, p.dropWhile isBase32) := by
  induction p generalizing st with
  | nil => rfl
  | cons c p ih =>
    rw [decodeLoop]
    cases hd : base32Digit c with
    | none =>
      rw [if_pos ((decode32At_eq_neg_one_iff c).mpr hd)]
      simp [isBase32, hd, digitsOf]
    | some d =>
      have hne : decode32At c ≠ -1 := fun h => by simp [(decode32At_eq_neg_one_iff c).mp h] at hd
      rw [if_neg hne, ih, decode32At_of_some hd]
      simp [isBase32, hd, digitsOf]

/-- The number of padding characters that a number of characters requires, if it is possible at all. -/
def padding (count : ℕ) : Option ℕ :=
  match count % 8 with
  | 0 => some 0
  | 2 => some 6
  | 4 => some 4
  | 5 => some 3
  | 7 => some 1
  | _ => none

/-- The number of characters that some bytes need has padding up to a multiple of eight. -/
theorem padding_of_lengths {count bytes zeros pad : ℕ} (hbits : 5 * count = 8 * bytes + zeros) (hzeros : zeros < 5)
    (htotal : count + pad = 8 * ((bytes + 4) / 5)) (hpad : pad < 8) : padding count = some pad := by
  obtain ⟨whole, rest, hrest, rfl⟩ : ∃ whole rest, rest < 5 ∧ bytes = 5 * whole + rest :=
    ⟨bytes / 5, bytes % 5, Nat.mod_lt _ (by decide), (Nat.div_add_mod bytes 5).symm⟩
  have hresidues : count % 8 = 0 ∧ pad = 0 ∨ count % 8 = 2 ∧ pad = 6 ∨ count % 8 = 4 ∧ pad = 4 ∨
      count % 8 = 5 ∧ pad = 3 ∨ count % 8 = 7 ∧ pad = 1 := by
    interval_cases rest <;> omega
  rcases hresidues with ⟨hcount, rfl⟩ | ⟨hcount, rfl⟩ | ⟨hcount, rfl⟩ | ⟨hcount, rfl⟩ | ⟨hcount, rfl⟩ <;>
    simp [padding, hcount]

/-- The bits that do not make a whole byte. -/
def unusedBits (digits : List ℕ) : List Bool := (stream 5 digits).drop (8 * (5 * digits.length / 8))

/-- Canonical base32 text, letters in either case: characters of the alphabet whose unused bits are zero,
and exactly the padding that their number requires. -/
def CanonicalBase32 (s : Bytes) : Prop :=
  ∃ body pad, s = body ++ List.replicate pad padChar ∧ (∀ c ∈ body, isBase32 c = true) ∧
    padding body.length = some pad ∧ ∀ bit ∈ unusedBits (digitsOf body), bit = false

/-- Every character of the alphabet has a value. -/
theorem digitsOf_length {body : Bytes} (hbody : ∀ c ∈ body, isBase32 c = true) :
    (digitsOf body).length = body.length :=
  List.filterMap_length_eq_length.mpr hbody

/-- The values of the alphabet fit five bits. -/
theorem digitsOf_lt (body : Bytes) : ∀ d ∈ digitsOf body, d < 2 ^ 5 := by
  intro d hd
  obtain ⟨c, -, hc⟩ := List.mem_filterMap.mp hd
  exact (base32Digit_spec c d hc).1

/-- Text of the alphabet, written again, is the text in lower case. -/
theorem digitsOf_map {body : Bytes} (hbody : ∀ c ∈ body, isBase32 c = true) :
    (digitsOf body).map pbase32At = body.map toLower := by
  induction body with
  | nil => rfl
  | cons c body ih =>
    rw [List.forall_mem_cons] at hbody
    obtain ⟨d, hd⟩ := Option.isSome_iff_exists.mp hbody.1
    rw [digitsOf, List.filterMap_cons_some hd, List.map_cons, List.map_cons, (base32Digit_spec c d hd).2]
    exact congrArg _ (ih hbody.2)

/-- What is written for values has these values. -/
theorem digitsOf_written {digits : List ℕ} (hdigits : ∀ d ∈ digits, d < 2 ^ 5) :
    (∀ c ∈ digits.map pbase32At, isBase32 c = true) ∧ digitsOf (digits.map pbase32At) = digits := by
  induction digits with
  | nil => exact ⟨by simp, rfl⟩
  | cons d digits ih =>
    rw [List.forall_mem_cons] at hdigits
    obtain ⟨hchars, hvalues⟩ := ih hdigits.2
    have hd := (pbase32At_spec d hdigits.1).1
    constructor
    · simpa [isBase32, hd] using hchars
    · rw [List.map_cons, digitsOf, List.filterMap_cons_some hd]
      exact congrArg _ hvalues

/-- The character that the loop stops at is none of the alphabet. -/
theorem base32Digit_dropWhile (p : Bytes) : base32Digit (cstrAt (p.dropWhile isBase32) 0) = none := by
  induction p with
  | nil => rfl
  | cons c p ih =>
    rw [List.dropWhile_cons]
    split
    · exact ih
    · next hc => simpa [cstrAt, isBase32] using hc

/-- Text of the alphabet followed by another character is all that the loop takes. -/
theorem takeWhile_body {body rest : Bytes} (hbody : ∀ c ∈ body, isBase32 c = true)
    (hrest : base32Digit (cstrAt rest 0) = none) :
    (body ++ rest).takeWhile isBase32 = body ∧ (body ++ rest).dropWhile isBase32 = rest := by
  induction body with
  | nil =>
    cases rest with
    | nil => exact ⟨rfl, rfl⟩
    | cons c rest =>
      have hc : base32Digit c = none := hrest
      simp [isBase32, hc]
  | cons c body ih =>
    rw [List.forall_mem_cons] at hbody
    obtain ⟨htake, hdrop⟩ := ih hbody.2
    simp [hbody.1, htake, hdrop]

/-- What the loop leaves for a number of characters. -/
theorem decode_digits {digits : List ℕ} (hdigits : ∀ d ∈ digits, d < 2 ^ 5) :
    ∃ st rest, digits.foldl DecodeState.step ⟨[], 0, 0⟩ = st ∧ DecodeState.Decodes digits st rest := by
  have hstart : DecodeState.Decodes [] ⟨[], 0, 0⟩ 0 :=
    ⟨fun h => absurd rfl h, Nat.zero_lt_one, rfl, rfl⟩
  obtain ⟨rest, hdecodes⟩ := hstart.foldl hdigits
  exact ⟨_, rest, rfl, hdecodes⟩

/-- What the look-ahead asks of the string where the loop stops. -/
def Padded (count : ℕ) (p : Bytes) : Prop :=
  (∀ i < count, cstrAt p i = padChar) ∧ base32Digit (cstrAt p count) = none

/-- The look-ahead. -/
theorem padded_iff (count left : ℕ) (p : Bytes) : padded count left p = true ↔ left = 0 ∧ Padded count p := by
  simp [padded, Padded, decode32At_eq_neg_one_iff, and_assoc]

/-- The flag stays unset exactly when the number of characters is possible, the unused bits are zero
and the look-ahead finds the padding. -/
theorem pfInvalid_iff {digits : List ℕ} {st : DecodeState} {rest : ℕ} {p : Bytes}
    (hdecodes : DecodeState.Decodes digits st rest) (hstop : base32Digit (cstrAt p 0) = none) :
    pfInvalid st p = false ↔ ∃ pad, padding digits.length = some pad ∧
      (∀ bit ∈ bitsOf (DecodeState.count st.mode) rest, bit = false) ∧ Padded pad p := by
  have hresidue : digits.length % 8 = st.mode.val := by
    rw [hdecodes.mode]
    rfl
  have hleft := hdecodes.left
  have hfew := hdecodes.few
  obtain ⟨vchRet, mode, left⟩ := st
  have hpadding : padding digits.length = padding mode.val := by
    rw [padding, hresidue, padding, Nat.mod_eq_of_lt mode.isLt]
  rw [forall_bitsOf_iff hfew]
  match mode with
  | 0 =>
    obtain rfl : rest = 0 := Nat.lt_one_iff.mp hfew
    have hpad : padding digits.length = some 0 := hpadding
    simp [pfInvalid, Padded, hstop, hpad]
  | 1 =>
    have hpad : padding digits.length = none := hpadding
    simp [pfInvalid, hpad]
  | 2 =>
    obtain rfl : left = rest := hleft (show (2 : Fin 8) ≠ 0 by decide)
    have hpad : padding digits.length = some 6 := hpadding
    simp [pfInvalid, padded_iff, hpad]
  | 3 =>
    have hpad : padding digits.length = none := hpadding
    simp [pfInvalid, hpad]
  | 4 =>
    obtain rfl : left = rest := hleft (show (4 : Fin 8) ≠ 0 by decide)
    have hpad : padding digits.length = some 4 := hpadding
    simp [pfInvalid, padded_iff, hpad]
  | 5 =>
    obtain rfl : left = rest := hleft (show (5 : Fin 8) ≠ 0 by decide)
    have hpad : padding digits.length = some 3 := hpadding
    simp [pfInvalid, padded_iff, hpad]
  | 6 =>
    have hpad : padding digits.length = none := hpadding
    simp [pfInvalid, hpad]
  | 7 =>
    obtain rfl : left = rest := hleft (show (7 : Fin 8) ≠ 0 by decide)
    have hpad : padding digits.length = some 1 := hpadding
    simp [pfInvalid, padded_iff, hpad]

/-- What is decoded: the bytes and fewer than eight unused bits are the bits of the text, and the flag
stays unset exactly when the text may end there. -/
theorem decodeBase32_spec {body p : Bytes} (hbody : ∀ c ∈ body, isBase32 c = true)
    (hstop : base32Digit (cstrAt p 0) = none) :
    ∃ bytes invalid, decodeBase32 (body ++ p) = (bytes, invalid) ∧
      byteBits bytes ++ unusedBits (digitsOf body) = stream 5 (digitsOf body) ∧
      (unusedBits (digitsOf body)).length < 8 ∧
      (invalid = false ↔ ∃ pad, padding body.length = some pad ∧
        (∀ bit ∈ unusedBits (digitsOf body), bit = false) ∧ Padded pad p) := by
  obtain ⟨htake, hdrop⟩ := takeWhile_body hbody hstop
  obtain ⟨st, rest, hst, hdecodes⟩ := decode_digits (digitsOf_lt body)
  have hdecode : decodeBase32 (body ++ p) = (st.vchRet, pfInvalid st p) := by
    rw [decodeBase32, decodeLoop_eq, htake, hdrop, hst]
  have hcount : DecodeState.count st.mode < 8 := by
    generalize st.mode = mode
    revert mode
    decide
  have hlength := congrArg List.length hdecodes.bits
  simp only [List.length_append, byteBits_length, bitsOf_length, stream_length] at hlength
  have hunused : unusedBits (digitsOf body) = bitsOf (DecodeState.count st.mode) rest := by
    rw [unusedBits, ← hdecodes.bits]
    exact List.drop_left' (by rw [byteBits_length]; omega)
  have hpad := pfInvalid_iff hdecodes hstop
  rw [digitsOf_length hbody] at hpad
  refine ⟨st.vchRet, pfInvalid st p, hdecode, ?_, ?_, ?_⟩
  · rw [hunused, hdecodes.bits]
  · rw [hunused, bitsOf_length]
    exact hcount
  · rw [hunused]
    exact hpad

/-- The look-ahead finds the padding where the text goes on with it. -/
theorem padded_iff_append (pad : ℕ) (p : Bytes) :
    Padded pad p ↔ ∃ rest, p = List.replicate pad padChar ++ rest ∧ base32Digit (cstrAt rest 0) = none := by
  induction pad generalizing p with
  | zero => simp [Padded]
  | succ pad ih =>
    cases p with
    | nil =>
      have hnone : ¬Padded (pad + 1) [] := fun h => absurd (h.1 0 (Nat.succ_pos pad)) (by decide)
      simp [hnone, List.replicate_succ]
    | cons c p =>
      have hcons : Padded (pad + 1) (c :: p) ↔ c = padChar ∧ Padded pad p := by
        constructor
        · rintro ⟨hpad, hend⟩
          exact ⟨hpad 0 (Nat.succ_pos pad), fun i hi => hpad (i + 1) (Nat.succ_lt_succ hi), hend⟩
        · rintro ⟨hhead, hpad, hend⟩
          refine ⟨fun i hi => ?_, hend⟩
          cases i with
          | zero => exact hhead
          | succ i => exact hpad i (Nat.lt_of_succ_lt_succ hi)
      simp [hcons, ih, List.replicate_succ, and_assoc]

/-- No character of the alphabet follows text that ends in its padding. -/
theorem head_of_padding {count pad : ℕ} (rest : Bytes) (hpad : padding count = some pad)
    (hrest : base32Digit (cstrAt rest 0) = none) :
    base32Digit (cstrAt (List.replicate pad padChar ++ rest) 0) = none := by
  cases pad with
  | zero => exact hrest
  | succ pad => rfl

/-- The flag stays unset exactly for canonical text with nothing or another character behind it. -/
theorem decodeBase32_valid_iff (s : Bytes) :
    (decodeBase32 s).2 = false ↔ ∃ t rest, s = t ++ rest ∧ CanonicalBase32 t ∧
      base32Digit (cstrAt rest 0) = none := by
  constructor
  · intro hvalid
    have hbody : ∀ c ∈ s.takeWhile isBase32, isBase32 c = true := fun c hc =>
      List.all_eq_true.mp List.all_takeWhile c hc
    obtain ⟨bytes, invalid, hdecode, -, -, hflag⟩ := decodeBase32_spec hbody (base32Digit_dropWhile s)
    rw [List.takeWhile_append_dropWhile] at hdecode
    rw [hdecode] at hvalid
    obtain ⟨pad, hpad, hunused, hpadded⟩ := hflag.mp hvalid
    obtain ⟨rest, hdrop, hrest⟩ := (padded_iff_append pad _).mp hpadded
    refine ⟨s.takeWhile isBase32 ++ List.replicate pad padChar, rest, ?_, ?_, hrest⟩
    · rw [List.append_assoc, ← hdrop, List.takeWhile_append_dropWhile]
    · exact ⟨_, pad, rfl, hbody, hpad, hunused⟩
  · rintro ⟨t, rest, rfl, ⟨body, pad, rfl, hbody, hpad, hunused⟩, hrest⟩
    have hstop := head_of_padding rest hpad hrest
    obtain ⟨bytes, invalid, hdecode, -, -, hflag⟩ := decodeBase32_spec hbody hstop
    rw [List.append_assoc, hdecode]
    exact hflag.mpr ⟨pad, hpad, hunused, (padded_iff_append pad _).mpr ⟨rest, rfl, hrest⟩⟩

/-- Canonical text has a value whose text it is, letters in lower case. -/
theorem CanonicalBase32.encode {s : Bytes} (hs : CanonicalBase32 s) :
    encodeBase32 (decodeBase32 s).1 = s.map toLower := by
  obtain ⟨body, pad, rfl, hbody, hpad, hunused⟩ := hs
  have hstop := head_of_padding [] hpad rfl
  rw [List.append_nil] at hstop
  obtain ⟨bytes, invalid, hdecode, hbits, hshort, -⟩ := decodeBase32_spec hbody hstop
  obtain ⟨digits, zeros, pad', hencode, hdigits, hstream, hzeros, htotal, hpad'⟩ := encodeBase32_eq bytes
  rw [hdecode]
  change encodeBase32 bytes = _
  have hlength := congrArg List.length hbits
  have hwritten := congrArg List.length hstream
  have hunusedEq : unusedBits (digitsOf body) = List.replicate (unusedBits (digitsOf body)).length false :=
    List.eq_replicate_iff.mpr ⟨rfl, hunused⟩
  generalize (unusedBits (digitsOf body)).length = unused at hunusedEq hshort
  rw [hunusedEq] at hbits hlength
  simp only [List.length_append, byteBits_length, List.length_replicate, stream_length,
    digitsOf_length hbody] at hlength hwritten
  -- The possible numbers of characters are those of the text of some bytes.
  have hcounts : digits.length = body.length ∧ pad' = pad ∧ zeros = unused := by
    unfold padding at hpad
    split at hpad <;> simp only [Option.some.injEq, reduceCtorEq] at hpad <;> omega
  obtain ⟨-, rfl, rfl⟩ := hcounts
  have hsame : digits = digitsOf body := by
    refine (stream_inj hdigits (digitsOf_lt body) (show ([] : List Bool).length < 5 by decide)
      (show ([] : List Bool).length < 5 by decide) ?_).1
    rw [List.append_nil, List.append_nil, hstream, hbits]
  rw [hencode, hsame, digitsOf_map hbody, List.map_append, List.map_replicate]
  rfl

/-- Text is as long as its bytes need, made of lower-case letters and digits and then padding, and is
decoded to its bytes without a complaint. -/
theorem base32_roundTrip (bytes : Bytes) :
    (encodeBase32 bytes).length = 8 * ((bytes.length + 4) / 5) ∧
      (∃ text pad, encodeBase32 bytes = text ++ List.replicate pad padChar ∧
        ∀ c ∈ text, 97 ≤ c ∧ c ≤ 122 ∨ 50 ≤ c ∧ c ≤ 55) ∧
      decodeBase32 (encodeBase32 bytes) = (bytes, false) := by
  obtain ⟨digits, zeros, pad, hencode, hdigits, hstream, hzeros, htotal, hpad⟩ := encodeBase32_eq bytes
  rw [hencode]
  refine ⟨by simpa using htotal, ⟨_, pad, rfl, fun c hc => ?_⟩, ?_⟩
  · obtain ⟨d, hd, rfl⟩ := List.mem_map.mp hc
    exact (pbase32At_spec d (hdigits d hd)).2
  · obtain ⟨hbody, hvalues⟩ := digitsOf_written hdigits
    have hwritten := congrArg List.length hstream
    simp only [List.length_append, byteBits_length, List.length_replicate, stream_length] at hwritten
    have hpadding : padding (digits.map pbase32At).length = some pad := by
      rw [List.length_map]
      exact padding_of_lengths hwritten hzeros htotal hpad
    have hstop := head_of_padding [] hpadding rfl
    obtain ⟨decoded, invalid, hdecode, hbits, hshort, hflag⟩ := decodeBase32_spec hbody hstop
    rw [List.append_nil] at hdecode
    rw [hvalues] at hbits hshort hflag
    obtain ⟨rfl, hunused⟩ := byteBits_inj hshort (by rw [List.length_replicate]; omega) (hbits.trans hstream)
    have hzero : ∀ bit ∈ unusedBits digits, bit = false := by
      rw [hunused]
      exact fun bit hbit => List.eq_of_mem_replicate hbit
    have hvalid : invalid = false :=
      hflag.mpr ⟨pad, hpadding, hzero, (padded_iff_append pad _).mpr ⟨[], rfl, rfl⟩⟩
    rw [hdecode, hvalid]

/-- The decoder accepts canonical text and no other, and accepted text is the text of its value in lower
case. -/
def AcceptsExactly (s : Bytes) : Prop :=
  ((decodeBase32 s).2 = false ↔ CanonicalBase32 s) ∧
    ((decodeBase32 s).2 = false → encodeBase32 (decodeBase32 s).1 = s.map toLower)

/-- Canonical text followed by a character that is not of the alphabet. -/
def TrailingGarbage (s : Bytes) : Prop :=
  ∃ t c junk, s = t ++ c :: junk ∧ CanonicalBase32 t ∧ base32Digit c = none

/-- Canonical text goes on canonically only with characters of the alphabet. -/
theorem CanonicalBase32.not_trailing {s : Bytes} (hs : CanonicalBase32 s) : ¬TrailingGarbage s := by
  rintro ⟨t, c, junk, hst, ⟨body, pad, rfl, hbody, hpad, -⟩, hc⟩
  obtain ⟨body', pad', rfl, hbody', hpad', -⟩ := hs
  have htake := (takeWhile_body hbody (head_of_padding (c :: junk) hpad hc)).1
  have htake' := (takeWhile_body hbody' (head_of_padding [] hpad' rfl)).1
  rw [List.append_nil, hst, List.append_assoc, htake] at htake'
  obtain rfl : body = body' := htake'
  obtain rfl : pad = pad' := Option.some.inj (hpad.symm.trans hpad')
  have hlength := congrArg List.length hst
  simp at hlength

/-- The decoder accepts exactly the canonical texts on every string that is not one followed by garbage. -/
theorem acceptsExactly_iff (s : Bytes) : AcceptsExactly s ↔ ¬TrailingGarbage s := by
  constructor
  · rintro ⟨hexact, -⟩ ⟨t, c, junk, rfl, ht, hc⟩
    have hvalid := (decodeBase32_valid_iff _).mpr ⟨t, c :: junk, rfl, ht, hc⟩
    exact (hexact.mp hvalid).not_trailing ⟨t, c, junk, rfl, ht, hc⟩
  · intro hclean
    have hcanonical (hvalid : (decodeBase32 s).2 = false) : CanonicalBase32 s := by
      obtain ⟨t, rest, rfl, ht, hrest⟩ := (decodeBase32_valid_iff s).mp hvalid
      cases rest with
      | nil => rwa [List.append_nil]
      | cons c junk => exact absurd ⟨t, c, junk, rfl, ht, hrest⟩ hclean
    refine ⟨⟨hcanonical, fun hs => ?_⟩, fun hvalid => (hcanonical hvalid).encode⟩
    exact (decodeBase32_valid_iff s).mpr ⟨s, [], (List.append_nil s).symm, hs, rfl⟩

/-- `aaaaaaaa!` is accepted, although `!` is not of the alphabet. -/
theorem acceptsExactly_garbage : ¬AcceptsExactly [97, 97, 97, 97, 97, 97, 97, 97, 33] := by
  rintro ⟨-, hencode⟩
  revert hencode
  decide +kernel

end LibBtcNet
