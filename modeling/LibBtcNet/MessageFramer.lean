import LibBtcNet.ConnectionBase
import LibBtcNet.Support.StreamFraming

/-!
# The framing rule of message mode

The greedy rule that the message headers define, and the loop of `read_cb_message`
against it: one run of the callback delivers exactly the frames that the greedy split
cuts off the buffered bytes, keeps their undecided rest, and leaves a low watermark that
is the smallest length at which the framing can go on.
-/

namespace LibBtcNet

open StreamFraming

/-- A network configuration that selects message mode and describes a usable header. -/
structure MessageMode (config : CNetworkConfig) : Prop extends ReadableHeader config where
  chunk : config.chunkSize.toInt ≤ 0
  header : 0 < config.headerSize.toInt
  maxSize : config.messageMaxSize = 0 ∨
    config.headerMsgSizeOffset.toInt + 4 ≤ config.messageMaxSize.toNat

/-- The length of the frame whose header is at the front: the 32-bit length field and the header. -/
def announcedLength (config : CNetworkConfig) (bytes : Bytes) : ℕ :=
  littleEndian32 (bytes.drop config.headerMsgSizeOffset.toInt.toNat) + config.headerSize.toInt.toNat

/-- The greedy rule: look at `offset + 4` bytes, which must begin with the message start, and take
as many bytes as they announce, unless that exceeds a nonzero limit. -/
def messageVerdict (config : CNetworkConfig) (bytes : Bytes) : Verdict :=
  if bytes.length < config.sizeNeeded.toNat then .more
  else if bytes.take config.messageStart.length ≠ config.messageStart then .bad
  else if config.messageMaxSize ≠ 0 ∧ config.messageMaxSize.toNat < announcedLength config bytes then .bad
  else if bytes.length < announcedLength config bytes then .more
  else .frame (announcedLength config bytes)

namespace MessageMode

variable {config : CNetworkConfig} (h : MessageMode config)

include h

/-- The sum of the length field and the header size is computed without a wrap. -/
theorem frameLength_eq (bytes : Bytes) : frameLength config bytes = announcedLength config bytes := by
  have hlt := littleEndian32_lt (bytes.drop config.headerMsgSizeOffset.toInt.toNat)
  have hsize := config.headerSize.toInt_lt
  have hpos := h.header
  rw [frameLength, sizeT_of_nonneg (by omega) (by omega), announcedLength]
  omega

/-- Every announced frame is nonempty, since the header is. -/
theorem announcedLength_pos (bytes : Bytes) : 0 < announcedLength config bytes := by
  have hpos := h.header
  rw [announcedLength]
  omega

/-- Once the header is buffered, the length it announces no longer changes. -/
theorem announcedLength_append {bytes : Bytes} (hlen : config.sizeNeeded.toNat ≤ bytes.length)
    (later : Bytes) : announcedLength config (bytes ++ later) = announcedLength config bytes := by
  obtain ⟨-, hfield⟩ := h.bounds
  rw [announcedLength, announcedLength, List.drop_append_of_le_length (by omega)]
  congr 1
  apply littleEndian32_congr
  rw [List.take_append_of_le_length]
  rw [List.length_drop]
  omega

/-- Once the header is buffered, the comparison with the message start no longer changes. -/
theorem take_messageStart_append {bytes : Bytes} (hlen : config.sizeNeeded.toNat ≤ bytes.length)
    (later : Bytes) :
    (bytes ++ later).take config.messageStart.length = bytes.take config.messageStart.length := by
  obtain ⟨hstart, -⟩ := h.bounds
  exact List.take_append_of_le_length (by omega)

/-- Once the header is buffered, bytes that arrive later can only complete the frame. -/
theorem messageVerdict_append {bytes : Bytes} (hlen : config.sizeNeeded.toNat ≤ bytes.length)
    (later : Bytes) :
    messageVerdict config (bytes ++ later) =
      if bytes.take config.messageStart.length ≠ config.messageStart then .bad
      else if config.messageMaxSize ≠ 0 ∧ config.messageMaxSize.toNat < announcedLength config bytes
        then .bad
      else if (bytes ++ later).length < announcedLength config bytes then .more
      else .frame (announcedLength config bytes) := by
  have hlong : ¬(bytes ++ later).length < config.sizeNeeded.toNat := by
    rw [List.length_append]
    omega
  rw [messageVerdict, if_neg hlong, h.take_messageStart_append hlen, h.announcedLength_append hlen]

end MessageMode

/-- The greedy rule as a framing rule. -/
def messageFramer (config : CNetworkConfig) (h : MessageMode config) : Framer UInt8 where
  verdict := messageVerdict config
  frame_bounds stream size hv := by
    unfold messageVerdict at hv
    split_ifs at hv with _ _ _ hlong
    obtain rfl := Verdict.frame.inj hv
    exact ⟨h.announcedLength_pos stream, by omega⟩
  frame_stable stream later size hv := by
    have hlen : config.sizeNeeded.toNat ≤ stream.length := by
      by_contra hshort
      simp [messageVerdict, Nat.lt_of_not_le hshort] at hv
    have hv' := h.messageVerdict_append hlen []
    rw [List.append_nil, hv] at hv'
    rw [h.messageVerdict_append hlen]
    split_ifs at hv' ⊢ with _ _ hmore hmore'
    · rw [List.length_append] at hmore
      omega
    · exact hv'.symm
  bad_stable stream later hv := by
    have hlen : config.sizeNeeded.toNat ≤ stream.length := by
      by_contra hshort
      simp [messageVerdict, Nat.lt_of_not_le hshort] at hv
    have hv' := h.messageVerdict_append hlen []
    rw [List.append_nil, hv] at hv'
    rw [h.messageVerdict_append hlen]
    split_ifs at hv' ⊢ <;> rfl

/-- The message size reported at the end of the loop for an undecided rest. -/
def restSize (config : CNetworkConfig) (rest : Bytes) : ℕ :=
  if rest.length < config.sizeNeeded.toNat then 0 else announcedLength config rest

/-- The smallest buffer length at which the framing of an undecided rest can go on. -/
def wantedLength (config : CNetworkConfig) (rest : Bytes) : ℕ :=
  if rest.length < config.sizeNeeded.toNat then config.sizeNeeded.toNat else announcedLength config rest

/-- What the loop of `read_cb_message` has done, against the greedy split of what it was given. -/
structure ReadLoop.Matches (config : CNetworkConfig) (msgs : List Bytes) (totalsize : ℕ)
    (p : Split UInt8) (r : ReadLoop) : Prop where
  msgs : r.msgs = msgs ++ p.frames
  totalsize : r.totalsize = totalsize + p.frames.flatten.length
  bad : (r.fTooBig || r.fBadMsgStart) = p.bad
  input : p.bad = false → r.input.flatten = p.rest
  msgsize : p.bad = false → r.msgsize = restSize config p.rest

/-- The limit that the loop tests is the limit of the greedy rule. -/
theorem oversized_iff (config : CNetworkConfig) (size : ℕ) :
    (0 < config.messageMaxSize.toNat ∧ config.messageMaxSize.toNat < size) ↔
      config.messageMaxSize ≠ 0 ∧ config.messageMaxSize.toNat < size := by
  rw [Nat.pos_iff_ne_zero, ne_eq, ne_eq, ← UInt32.toNat_inj]
  rfl

/-- The reports of a run of `read_cb_message` that was given this split. -/
def splitReports (p : Split UInt8) : List ConnEffect :=
  (if p.frames = [] then [] else [.onReceiveMessages p.frames p.frames.flatten.length]) ++
    if p.bad then [.onMalformedMessage, .disconnectInt] else []

namespace MessageMode

variable {config : CNetworkConfig} (h : MessageMode config)

include h

/-- What the loop sees when the front is undecided. -/
theorem flatMessageSize_of_more {bytes : Bytes} (hv : messageVerdict config bytes = .more) :
    flatMessageSize config bytes = ⟨restSize config bytes, false, false⟩ ∧
      ¬(0 < config.messageMaxSize.toNat ∧ config.messageMaxSize.toNat < restSize config bytes) := by
  rw [oversized_iff]
  unfold messageVerdict at hv
  rw [flatMessageSize, restSize, h.frameLength_eq]
  split_ifs at hv ⊢ with hshort hstart hbig hlong
  · simp
  · simp_all

/-- What the loop sees when the front is a frame. -/
theorem flatMessageSize_of_frame {bytes : Bytes} {size : ℕ}
    (hv : messageVerdict config bytes = .frame size) :
    flatMessageSize config bytes = ⟨size, true, false⟩ ∧
      ¬(0 < config.messageMaxSize.toNat ∧ config.messageMaxSize.toNat < size) := by
  rw [oversized_iff]
  unfold messageVerdict at hv
  rw [flatMessageSize, h.frameLength_eq]
  split_ifs at hv ⊢ with hshort hstart hbig hlong
  obtain rfl := Verdict.frame.inj hv
  simp_all

/-- What the loop sees when the front is rejected: a bad start, or a size above the limit. -/
theorem flatMessageSize_of_bad {bytes : Bytes} (hv : messageVerdict config bytes = .bad) :
    flatMessageSize config bytes = ⟨0, false, true⟩ ∨
      ∃ size fComplete, flatMessageSize config bytes = ⟨size, fComplete, false⟩ ∧
        (0 < config.messageMaxSize.toNat ∧ config.messageMaxSize.toNat < size) := by
  unfold messageVerdict at hv
  rw [flatMessageSize, h.frameLength_eq]
  split_ifs at hv ⊢ with hshort hstart hbig
  · exact Or.inl rfl
  · exact Or.inr ⟨_, _, rfl, (oversized_iff config _).mpr hbig⟩

/-- The loop cuts off exactly the frames of the greedy split. -/
theorem readLoop_matches (input : EvBuffer) (fuel : ℕ) (hfuel : input.getLength < fuel)
    (msgs : List Bytes) (totalsize : ℕ) :
    ∃ r, readLoop config fuel input msgs totalsize = some r ∧
      r.Matches config msgs totalsize ((messageFramer config h).split input.flatten) := by
  -- Induction along the greedy split of the buffered bytes, for every buffer that holds them.
  induction hbytes : input.flatten using (messageFramer config h).splitInduction
    generalizing input fuel msgs totalsize with
  | more bytes hv =>
    subst hbytes
    obtain ⟨fuel, rfl⟩ := Nat.exists_eq_succ_of_ne_zero (by omega : fuel ≠ 0)
    obtain ⟨hsize, hlimit⟩ := h.flatMessageSize_of_more hv
    rw [(messageFramer config h).split_of_more hv]
    refine ⟨⟨input, msgs, totalsize, restSize config input.flatten, false, false⟩, ?_, ?_⟩
    · simp [readLoop, h.firstCompleteMessageSize_eq, hsize, hlimit]
    · constructor <;> simp
  | bad bytes hv =>
    subst hbytes
    obtain ⟨fuel, rfl⟩ := Nat.exists_eq_succ_of_ne_zero (by omega : fuel ≠ 0)
    rw [(messageFramer config h).split_of_bad hv]
    rcases h.flatMessageSize_of_bad hv with hsize | ⟨size, fComplete, hsize, hlimit⟩
    · refine ⟨⟨input, msgs, totalsize, 0, false, true⟩, ?_, ?_⟩
      · simp [readLoop, h.firstCompleteMessageSize_eq, hsize]
      · constructor <;> simp
    · refine ⟨⟨if fComplete then input.drain size else input, msgs, totalsize, size, true, false⟩, ?_, ?_⟩
      · simp [readLoop, h.firstCompleteMessageSize_eq, hsize, hlimit]
      · constructor <;> simp
  | frame bytes size hv ih =>
    subst hbytes
    obtain ⟨fuel, rfl⟩ := Nat.exists_eq_succ_of_ne_zero (by omega : fuel ≠ 0)
    obtain ⟨hsize, hlimit⟩ := h.flatMessageSize_of_frame hv
    obtain ⟨hpos, hle⟩ := (messageFramer config h).frame_bounds _ _ hv
    have hshorter : (input.drain size).getLength < fuel := by
      rw [EvBuffer.getLength_drain]
      rw [EvBuffer.getLength] at hfuel ⊢
      omega
    obtain ⟨r, hr, hmatch⟩ := ih (input.drain size) fuel hshorter (msgs ++ [input.copyout size])
      (totalsize + size) (EvBuffer.flatten_drain input size)
    refine ⟨r, ?_, ?_⟩
    · rw [← hr]
      simp [readLoop, h.firstCompleteMessageSize_eq, hsize, hlimit, Nat.pos_iff_ne_zero.mp hpos]
    · rw [(messageFramer config h).split_of_frame hv]
      refine ⟨?_, ?_, hmatch.bad, hmatch.input, hmatch.msgsize⟩
      · rw [hmatch.msgs, EvBuffer.copyout, List.append_assoc, List.singleton_append]
      · rw [hmatch.totalsize, List.flatten_cons, List.length_append, List.length_take,
          Nat.min_eq_left hle, Nat.add_assoc]

/-- The reports after the loop are those of the greedy split. -/
theorem readLoopReports_eq {r : ReadLoop} (bytes : Bytes)
    (hmatch : r.Matches config [] 0 ((messageFramer config h).split bytes)) :
    readLoopReports r = splitReports ((messageFramer config h).split bytes) := by
  have hnil := (messageFramer config h).frames_eq_nil_iff bytes
  rw [readLoopReports, splitReports, hmatch.bad, hmatch.msgs, hmatch.totalsize, List.nil_append,
    Nat.zero_add]
  simp only [ne_eq, ite_not, hnil]

/-- The watermarks after a loop that ends without an error, computed without a wrap. -/
theorem afterReadLoop_of_rest {rest : Bytes} {r : ReadLoop} (bev : BufferEvent) (hfits : r.fTooBig = false)
    (hgood : r.fBadMsgStart = false) (hmsgsize : r.msgsize = restSize config rest) :
    (afterReadLoop config r bev).readLow = wantedLength config rest ∧
      (afterReadLoop config r bev).readHigh = restSize config rest + config.messageMaxSize.toNat := by
  simp only [afterReadLoop, hfits, hgood, hmsgsize, h.sizeT_sizeNeeded, Bool.not_false, and_true]
  by_cases hshort : rest.length < config.sizeNeeded.toNat
  · simp [restSize, wantedLength, hshort, BufferEvent.setReadWatermark]
  · have hpos := h.announcedLength_pos rest
    have hnowrap : sizeT ((announcedLength config rest : ℤ) + config.messageMaxSize.toNat) =
        announcedLength config rest + config.messageMaxSize.toNat := by
      have hfield := littleEndian32_lt (rest.drop config.headerMsgSizeOffset.toInt.toNat)
      have hheader := config.headerSize.toInt_lt
      have hmax := config.messageMaxSize.toNat_lt
      have hlength : announcedLength config rest < 2 ^ 33 := by
        rw [announcedLength]
        omega
      rw [sizeT_of_nonneg (by omega) (by omega)]
      omega
    simp [restSize, wantedLength, hshort, hpos.ne', BufferEvent.setReadWatermark, hnowrap]

/-- What an undecided rest wants is not blocked by the limit on messages. -/
theorem wantedLength_le (rest : Bytes) :
    restSize config rest + config.messageMaxSize.toNat = 0 ∨
      wantedLength config rest ≤ restSize config rest + config.messageMaxSize.toNat := by
  have hneeded := h.sizeNeeded_eq
  by_cases hshort : rest.length < config.sizeNeeded.toNat
  · rw [restSize, wantedLength, if_pos hshort, if_pos hshort, Nat.zero_add]
    rcases h.maxSize with hzero | hle
    · exact Or.inl (by rw [hzero]; rfl)
    · exact Or.inr (by omega)
  · rw [restSize, wantedLength, if_neg hshort, if_neg hshort]
    exact Or.inr (Nat.le_add_right _ _)

/-- What an undecided rest wants, and the size reported for it, do not change until it is there. -/
theorem rest_append {rest later : Bytes} (hlt : (rest ++ later).length < wantedLength config rest) :
    wantedLength config (rest ++ later) = wantedLength config rest ∧
      restSize config (rest ++ later) = restSize config rest := by
  rw [wantedLength] at hlt
  by_cases hshort : rest.length < config.sizeNeeded.toNat
  · rw [if_pos hshort] at hlt
    rw [wantedLength, wantedLength, restSize, restSize, if_pos hlt, if_pos hshort, if_pos hlt, if_pos hshort]
    exact ⟨rfl, rfl⟩
  · have hlong : ¬(rest ++ later).length < config.sizeNeeded.toNat := by
      rw [List.length_append]
      omega
    rw [wantedLength, wantedLength, restSize, restSize, if_neg hlong, if_neg hshort, if_neg hlong, if_neg hshort,
      h.announcedLength_append (Nat.le_of_not_lt hshort)]
    exact ⟨rfl, rfl⟩

/-- The low watermark after the loop is what the undecided rest wants, below the high one. -/
theorem afterReadLoop_watermarks {p : Split UInt8} {r : ReadLoop} (bev : BufferEvent)
    (hmatch : r.Matches config [] 0 p) (hgood : p.bad = false) :
    (afterReadLoop config r bev).readLow = wantedLength config p.rest ∧
      ((afterReadLoop config r bev).readHigh = 0 ∨
        (afterReadLoop config r bev).readLow ≤ (afterReadLoop config r bev).readHigh) := by
  have hflags := hmatch.bad
  rw [hgood, Bool.or_eq_false_iff] at hflags
  obtain ⟨hlow, hhigh⟩ := h.afterReadLoop_of_rest bev hflags.1 hflags.2 (hmatch.msgsize hgood)
  rw [hlow, hhigh]
  exact ⟨rfl, h.wantedLength_le p.rest⟩

end MessageMode

/-- The loop changes nothing of the bufferevent but its input and its read watermarks. -/
theorem afterReadLoop_eq (config : CNetworkConfig) (r : ReadLoop) (bev : BufferEvent) :
    afterReadLoop config r bev =
      { bev with
        input := r.input
        readLow := (afterReadLoop config r bev).readLow
        readHigh := (afterReadLoop config r bev).readHigh } := by
  unfold afterReadLoop
  dsimp only
  split_ifs <;> rfl

/-- The only effect before the reports is a request to grow the buffer. -/
theorem mem_expandRequest {config : CNetworkConfig} {r : ReadLoop} {effect : ConnEffect}
    (hmem : effect ∈ expandRequest config r) : ∃ size, effect = .evbufferExpand size := by
  unfold expandRequest at hmem
  dsimp only at hmem
  split_ifs at hmem
  · exact ⟨_, List.mem_singleton.mp hmem⟩
  · contradiction

end LibBtcNet
