import LibBtcNet.EvBuffer
import Mathlib.Data.Nat.Bitwise

/-!
# The size of the first message in the input buffer

`first_complete_message_size` reads the header from the first chunk when that chunk
holds all of it, and from a copy otherwise. The lemmas show that both readings agree
with one on the concatenated bytes, so that nothing else depends on the chunks.

The result of a call is absent when its assertion on the width of the length field
fails.
-/

namespace LibBtcNet

/-- The returned size and the two reference parameters of `first_complete_message_size`. -/
structure MessageSize where
  size : ℕ
  fComplete : Bool
  fBadMsgStart : Bool
deriving DecidableEq, Repr

/-- `get_message_length`. -/
def getMessageLength (buf : Bytes) : ℕ :=
  (buf.getD 0 0).toNat ||| (buf.getD 1 0).toNat <<< 8 |||
    (buf.getD 2 0).toNat <<< 16 ||| (buf.getD 3 0).toNat <<< 24

/-- The two copies of the header logic, at the pointer each of them uses: no size when the message
start differs. -/
def headerMessageSize (config : CNetworkConfig) (ptr : Bytes) : Option ℕ :=
  if config.messageStart ≠ [] ∧ ptr.take config.messageStart.length ≠ config.messageStart then none
  else
    some (sizeT (getMessageLength (ptr.drop config.headerMsgSizeOffset.toInt.toNat) +
      config.headerSize.toInt))

/-- `first_complete_message_size`. -/
def firstCompleteMessageSize (config : CNetworkConfig) (input : EvBuffer) : Option MessageSize :=
  let nTotal := input.getLength
  if config.headerMsgSizeSize ≠ 4 then none
  else if nTotal < sizeT config.sizeNeeded then some ⟨0, false, false⟩
  else
    let nMessageSize? :=
      if input.peekCount config.sizeNeeded.toNat = 1 then headerMessageSize config input.peekFirst
      else headerMessageSize config (input.copyout config.sizeNeeded.toNat)
    match nMessageSize? with
    | none => some ⟨0, false, true⟩
    | some nMessageSize => some ⟨nMessageSize, decide (nMessageSize ≤ nTotal), false⟩

/-- The little-endian value of the four bytes at the front. -/
def littleEndian32 (buf : Bytes) : ℕ :=
  (buf.getD 0 0).toNat + 2 ^ 8 * (buf.getD 1 0).toNat + 2 ^ 16 * (buf.getD 2 0).toNat +
    2 ^ 24 * (buf.getD 3 0).toNat

/-- Shifting and joining the four bytes computes their little-endian value. -/
theorem getMessageLength_eq (buf : Bytes) : getMessageLength buf = littleEndian32 buf := by
  have h0 := (buf.getD 0 0).toNat_lt
  have h1 := (buf.getD 1 0).toNat_lt
  have h2 := (buf.getD 2 0).toNat_lt
  have join (low high i : ℕ) (h : low < 2 ^ i) : low ||| high <<< i = low + 2 ^ i * high := by
    rw [Nat.or_comm, ← Nat.shiftLeft_add_eq_or_of_lt h, Nat.shiftLeft_eq, Nat.mul_comm, Nat.add_comm]
  rw [getMessageLength, littleEndian32, join _ _ 8 (by omega), join _ _ 16 (by omega),
    join _ _ 24 (by omega)]

/-- Four bytes hold a value below `2 ^ 32`. -/
theorem littleEndian32_lt (buf : Bytes) : littleEndian32 buf < 2 ^ 32 := by
  have h0 := (buf.getD 0 0).toNat_lt
  have h1 := (buf.getD 1 0).toNat_lt
  have h2 := (buf.getD 2 0).toNat_lt
  have h3 := (buf.getD 3 0).toNat_lt
  simp only [littleEndian32]
  omega

/-- Only the four bytes at the front count. -/
theorem littleEndian32_congr {left right : Bytes} (h : left.take 4 = right.take 4) :
    littleEndian32 left = littleEndian32 right := by
  have hbyte (i : ℕ) (hi : i < 4) : left.getD i 0 = right.getD i 0 := by
    simp only [List.getD_eq_getElem?_getD]
    rw [← List.getElem?_take_of_lt hi, h, List.getElem?_take_of_lt hi]
  simp only [littleEndian32, hbyte 0 (by omega), hbyte 1 (by omega), hbyte 2 (by omega),
    hbyte 3 (by omega)]

/-- The frame length a header announces: the length field plus the header's own size. -/
def frameLength (config : CNetworkConfig) (bytes : Bytes) : ℕ :=
  sizeT (littleEndian32 (bytes.drop config.headerMsgSizeOffset.toInt.toNat) + config.headerSize.toInt)

/-- `first_complete_message_size` on the concatenated bytes. -/
def flatMessageSize (config : CNetworkConfig) (bytes : Bytes) : MessageSize :=
  if bytes.length < config.sizeNeeded.toNat then ⟨0, false, false⟩
  else if bytes.take config.messageStart.length ≠ config.messageStart then ⟨0, false, true⟩
  else ⟨frameLength config bytes, decide (frameLength config bytes ≤ bytes.length), false⟩

/-- What a configuration must satisfy for its headers to be readable. -/
structure ReadableHeader (config : CNetworkConfig) : Prop where
  offset : 0 ≤ config.headerMsgSizeOffset.toInt
  width : config.headerMsgSizeSize = 4
  start : config.messageStart.length ≤ config.headerMsgSizeOffset.toInt + 4

namespace ReadableHeader

variable {config : CNetworkConfig} (h : ReadableHeader config)

include h

/-- The bytes needed are those up to the end of the length field. -/
theorem sizeNeeded_eq : config.sizeNeeded = config.headerMsgSizeOffset.toInt + 4 := by
  rw [CNetworkConfig.sizeNeeded, h.width]
  rfl

/-- The number of bytes needed is a `size_t` as it stands. -/
theorem sizeT_sizeNeeded : sizeT config.sizeNeeded = config.sizeNeeded.toNat := by
  have hlt := config.headerMsgSizeOffset.toInt_lt
  have hpos := h.offset
  apply sizeT_of_nonneg <;> rw [h.sizeNeeded_eq] <;> omega

/-- The message start and the length field lie within the bytes needed. -/
theorem bounds : config.messageStart.length ≤ config.sizeNeeded.toNat ∧
    config.headerMsgSizeOffset.toInt.toNat + 4 = config.sizeNeeded.toNat := by
  have hstart := h.start
  have hpos := h.offset
  rw [h.sizeNeeded_eq]
  omega

/-- The header logic depends only on the bytes needed. -/
theorem headerMessageSize_congr {ptr bytes : Bytes}
    (heq : ptr.take config.sizeNeeded.toNat = bytes.take config.sizeNeeded.toNat) :
    headerMessageSize config ptr =
      if bytes.take config.messageStart.length ≠ config.messageStart then none
      else some (frameLength config bytes) := by
  obtain ⟨hstart, hfield⟩ := h.bounds
  have hmagic : ptr.take config.messageStart.length = bytes.take config.messageStart.length := by
    simpa only [List.take_take, Nat.min_eq_left hstart] using
      congrArg (List.take config.messageStart.length) heq
  have hlength : littleEndian32 (ptr.drop config.headerMsgSizeOffset.toInt.toNat) =
      littleEndian32 (bytes.drop config.headerMsgSizeOffset.toInt.toNat) := by
    apply littleEndian32_congr
    have := congrArg (List.drop config.headerMsgSizeOffset.toInt.toNat) heq
    simpa only [List.drop_take, ← hfield, Nat.add_sub_cancel_left] using this
  rw [headerMessageSize, hmagic, getMessageLength_eq, hlength]
  by_cases hempty : config.messageStart = []
  · simp [hempty, frameLength]
  · simp [hempty, frameLength]

/-- Both ways of reading the header agree with the reading of the concatenated bytes. -/
theorem firstCompleteMessageSize_eq (input : EvBuffer) :
    firstCompleteMessageSize config input = some (flatMessageSize config input.flatten) := by
  have hpath : (if input.peekCount config.sizeNeeded.toNat = 1 then
        headerMessageSize config input.peekFirst
      else headerMessageSize config (input.copyout config.sizeNeeded.toNat)) =
      if input.flatten.take config.messageStart.length ≠ config.messageStart then none
      else some (frameLength config input.flatten) := by
    split
    · next hone => exact h.headerMessageSize_congr (EvBuffer.take_peekFirst hone)
    · exact h.headerMessageSize_congr (by rw [EvBuffer.copyout, List.take_take, Nat.min_self])
  simp only [firstCompleteMessageSize, h.width, h.sizeT_sizeNeeded, hpath, flatMessageSize,
    EvBuffer.getLength, ne_eq, not_true_eq_false, if_false]
  split
  · rfl
  · by_cases hmagic : input.flatten.take config.messageStart.length = config.messageStart
    · simp [hmagic]
    · simp only [hmagic, not_false_eq_true, if_true]

end ReadableHeader

end LibBtcNet
