import LibBtcNet.Message

/-!
# Headers across chunks

`first_complete_message_size` peeks at the first chunk when that chunk holds the header, and
copies the header out otherwise. The two ways to the size are taken apart here and compared
with a reference on the flat bytes, whose arithmetic does not wrap. To see what is read, the
header is read once more with bounds, from memory that ends behind the length field.
-/

namespace LibBtcNet

/-- The number of bytes up to the end of a length field of four bytes. -/
def CNetworkConfig.headerEnd (config : CNetworkConfig) : ℕ := config.headerMsgSizeOffset.toInt.toNat + 4

/-- What both ways of reading the header lead to. -/
def MessageSize.ofHeader (nTotal : ℕ) : Option ℕ → MessageSize
  | none => ⟨0, false, true⟩
  | some nMessageSize => ⟨nMessageSize, decide (nMessageSize ≤ nTotal), false⟩

/-- The result of `first_complete_message_size` when it peeks at the header. -/
def peekedMessageSize (config : CNetworkConfig) (input : EvBuffer) : MessageSize :=
  .ofHeader input.getLength (headerMessageSize config input.peekFirst)

/-- The result of `first_complete_message_size` when it copies the header out. -/
def copiedMessageSize (config : CNetworkConfig) (input : EvBuffer) : MessageSize :=
  .ofHeader input.getLength (headerMessageSize config (input.copyout config.headerEnd))

/-- What the size is meant to be: too few bytes, a wrong start, or a length and whether it is buffered. -/
def referenceMessageSize (config : CNetworkConfig) (bytes : Bytes) : MessageSize :=
  if bytes.length < config.headerEnd then ⟨0, false, false⟩
  else if ¬config.messageStart <+: bytes then ⟨0, false, true⟩
  else
    let size := littleEndian32 (bytes.drop config.headerMsgSizeOffset.toInt.toNat) + config.headerSize.toInt.toNat
    ⟨size, decide (size ≤ bytes.length), false⟩

/-- `count` bytes at `offset`, absent when some of them are outside the memory. -/
def loadBytes (mem : Bytes) (offset count : ℕ) : Option Bytes :=
  if offset + count ≤ mem.length then some ((mem.drop offset).take count) else none

/-- The header logic with every read checked against the bounds of the memory. -/
def loadHeader (config : CNetworkConfig) (mem : Bytes) : Option (Option ℕ) := do
  let compared ← if config.messageStart = [] then some [] else loadBytes mem 0 config.messageStart.length
  if compared ≠ config.messageStart then some none
  else
    let field ← loadBytes mem config.headerMsgSizeOffset.toInt.toNat 4
    some (some (sizeT (getMessageLength field + config.headerSize.toInt)))

/-- Bytes before the end of a part of the memory. -/
theorem loadBytes_take {mem : Bytes} {finish offset count : ℕ} (hmem : finish ≤ mem.length)
    (hcount : offset + count ≤ finish) :
    loadBytes (mem.take finish) offset count = some ((mem.drop offset).take count) := by
  rw [loadBytes, if_pos (by rw [List.length_take]; omega), List.drop_take, List.take_take, Nat.min_eq_left (by omega)]

namespace ReadableHeader

variable {config : CNetworkConfig} (h : ReadableHeader config)

include h

/-- The message start lies before the end of the header. -/
theorem messageStart_le : config.messageStart.length ≤ config.headerEnd := by
  have hstart := h.start
  have hpos := h.offset
  rw [CNetworkConfig.headerEnd]
  omega

/-- The bytes needed are those up to the end of the header. -/
theorem sizeNeeded_toNat : config.sizeNeeded.toNat = config.headerEnd := h.bounds.2.symm

/-- The reference is the reading of the flat bytes: with a header size that is not negative nothing wraps. -/
theorem flatMessageSize_eq (hheader : 0 ≤ config.headerSize.toInt) (bytes : Bytes) :
    flatMessageSize config bytes = referenceMessageSize config bytes := by
  have hframe : frameLength config bytes =
      littleEndian32 (bytes.drop config.headerMsgSizeOffset.toInt.toNat) + config.headerSize.toInt.toNat := by
    have hlt := littleEndian32_lt (bytes.drop config.headerMsgSizeOffset.toInt.toNat)
    have hsize := config.headerSize.toInt_lt
    rw [frameLength, sizeT_of_nonneg] <;> omega
  have hmagic : bytes.take config.messageStart.length = config.messageStart ↔ config.messageStart <+: bytes :=
    eq_comm.trans List.prefix_iff_eq_take.symm
  simp only [flatMessageSize, referenceMessageSize, h.sizeNeeded_toNat, hframe, ne_eq, hmagic]

/-- The bytes up to the end of the header are enough to read it. -/
theorem loadHeader_take {mem : Bytes} (hmem : config.headerEnd ≤ mem.length) :
    loadHeader config (mem.take config.headerEnd) = some (headerMessageSize config mem) := by
  have hstart : loadBytes (mem.take config.headerEnd) 0 config.messageStart.length =
      some (mem.take config.messageStart.length) :=
    loadBytes_take hmem (by rw [Nat.zero_add]; exact h.messageStart_le)
  have hfield := loadBytes_take hmem (le_refl (config.headerMsgSizeOffset.toInt.toNat + 4))
  have hlength : getMessageLength ((mem.drop config.headerMsgSizeOffset.toInt.toNat).take 4) =
      getMessageLength (mem.drop config.headerMsgSizeOffset.toInt.toNat) := by
    rw [getMessageLength_eq, getMessageLength_eq]
    exact littleEndian32_congr (by rw [List.take_take, Nat.min_self])
  rw [loadHeader, hstart, hfield, headerMessageSize, ← hlength]
  by_cases hempty : config.messageStart = []
  · simp [hempty]
  · by_cases hsame : mem.take config.messageStart.length = config.messageStart
    · simp [hempty, hsame]
    · simp [hempty, hsame]

/-- Memory that begins like the flat bytes is read like them. -/
theorem ofHeader_eq {ptr bytes : Bytes} (hlen : config.headerEnd ≤ bytes.length)
    (hptr : ptr.take config.headerEnd = bytes.take config.headerEnd) :
    MessageSize.ofHeader bytes.length (headerMessageSize config ptr) = flatMessageSize config bytes := by
  rw [← h.sizeNeeded_toNat] at hptr
  rw [h.headerMessageSize_congr hptr, flatMessageSize, h.sizeNeeded_toNat, if_neg (Nat.not_lt.mpr hlen)]
  by_cases hmagic : bytes.take config.messageStart.length = config.messageStart
  · simp only [ne_eq, hmagic, not_true_eq_false, if_false, MessageSize.ofHeader]
  · simp only [ne_eq, hmagic, not_false_eq_true, if_true, MessageSize.ofHeader]

/-- A chunk that holds the header begins with it. -/
theorem peekedMessageSize_eq {input : EvBuffer} (hlen : config.headerEnd ≤ input.getLength)
    (hone : input.peekCount config.headerEnd = 1) :
    peekedMessageSize config input = flatMessageSize config input.flatten :=
  h.ofHeader_eq hlen (EvBuffer.take_peekFirst hone)

/-- So does the copy. -/
theorem copiedMessageSize_eq {input : EvBuffer} (hlen : config.headerEnd ≤ input.getLength) :
    copiedMessageSize config input = flatMessageSize config input.flatten :=
  h.ofHeader_eq hlen (by rw [EvBuffer.copyout, List.take_take, Nat.min_self])

/-- The chunks decide between the two ways, once there are enough bytes. -/
theorem firstCompleteMessageSize_of_le {input : EvBuffer} (hlen : config.headerEnd ≤ input.getLength) :
    firstCompleteMessageSize config input =
      some (if input.peekCount config.headerEnd = 1 then peekedMessageSize config input
        else copiedMessageSize config input) := by
  simp only [firstCompleteMessageSize, h.width, h.sizeT_sizeNeeded, h.sizeNeeded_toNat, ne_eq, not_true_eq_false,
    if_false, Nat.not_lt.mpr hlen, peekedMessageSize, copiedMessageSize]
  by_cases hone : input.peekCount config.headerEnd = 1
  · simp only [hone, if_true]
    cases headerMessageSize config input.peekFirst <;> rfl
  · simp only [hone, if_false]
    cases headerMessageSize config (input.copyout config.headerEnd) <;> rfl

end ReadableHeader

/-- The bytes in front of a chunk that holds `len` of them are in it. -/
theorem EvBuffer.le_peekFirst {input : EvBuffer} {len : ℕ} (hlen : len ≤ input.getLength)
    (hone : input.peekCount len = 1) : len ≤ input.peekFirst.length := by
  have htake := congrArg List.length (EvBuffer.take_peekFirst hone)
  rw [List.length_take, List.length_take] at htake
  rw [EvBuffer.getLength] at hlen
  omega

/-- However the buffered bytes are divided into chunks, both ways of reading the header give what the
reference gives on the flat bytes, and neither reads a byte behind the header. -/
theorem firstCompleteMessageSize_anyLayout {config : CNetworkConfig}
    (hoffset : 0 ≤ config.headerMsgSizeOffset.toInt) (hwidth : config.headerMsgSizeSize = 4)
    (hheader : 0 ≤ config.headerSize.toInt)
    (hstart : config.messageStart.length ≤ config.headerMsgSizeOffset.toInt + 4) (input : EvBuffer) :
    firstCompleteMessageSize config input = some (referenceMessageSize config input.flatten) ∧
      (config.headerEnd ≤ input.getLength →
        firstCompleteMessageSize config input = some (if input.peekCount config.headerEnd = 1 then
          peekedMessageSize config input else copiedMessageSize config input) ∧
        copiedMessageSize config input = referenceMessageSize config input.flatten ∧
        loadHeader config ((input.copyout config.headerEnd).take config.headerEnd) =
          some (headerMessageSize config (input.copyout config.headerEnd)) ∧
        (input.peekCount config.headerEnd = 1 →
          peekedMessageSize config input = referenceMessageSize config input.flatten ∧
          loadHeader config (input.peekFirst.take config.headerEnd) =
            some (headerMessageSize config input.peekFirst))) := by
  have h : ReadableHeader config := ⟨hoffset, hwidth, hstart⟩
  refine ⟨by rw [h.firstCompleteMessageSize_eq, h.flatMessageSize_eq hheader], fun hlen => ?_⟩
  have hcopied : config.headerEnd ≤ (input.copyout config.headerEnd).length := by
    rw [EvBuffer.copyout, List.length_take]
    exact le_min (le_refl _) hlen
  refine ⟨h.firstCompleteMessageSize_of_le hlen, ?_, h.loadHeader_take hcopied, fun hone => ⟨?_, ?_⟩⟩
  · rw [h.copiedMessageSize_eq hlen, h.flatMessageSize_eq hheader]
  · rw [h.peekedMessageSize_eq hlen hone, h.flatMessageSize_eq hheader]
  · exact h.loadHeader_take (EvBuffer.le_peekFirst hlen hone)

/-- A header that straddles two chunks, with an empty one between them. -/
theorem firstCompleteMessageSize_anyLayout_straddling :
    firstCompleteMessageSize mainnetConfig [[0xf9, 0xbe, 0xb4, 0xd9], [], List.replicate 12 0 ++ [2, 1, 0, 0, 9]] =
      some ⟨258 + 24, false, false⟩ := by
  have hreads := (firstCompleteMessageSize_anyLayout (by decide : 0 ≤ mainnetConfig.headerMsgSizeOffset.toInt)
    (by decide) (by decide) (by decide)
    [[0xf9, 0xbe, 0xb4, 0xd9], [], List.replicate 12 0 ++ [2, 1, 0, 0, 9]]).1
  rw [hreads]
  decide +kernel

end LibBtcNet
