import LibBtcNet.MessageFraming
import LibBtcNet.Support.Runs

/-!
# The read watermarks of message mode

After each run of `read_cb_message` the low watermark is what the buffered bytes want: the
header, or the first message once its header is there. The bytes that were seen by the last run
and those that have arrived since are kept apart, because what the run found in the former is
still there when the latter do not reach the watermark. Nothing is asked of the length of the
message start.
-/

namespace LibBtcNet

open Runs

/-- A configuration in message mode with a header that fits into a message. -/
structure HeaderMode (config : CNetworkConfig) : Prop where
  chunk : config.chunkSize.toInt ≤ 0
  header : 0 < config.headerSize.toInt
  offset : 0 ≤ config.headerMsgSizeOffset.toInt
  width : config.headerMsgSizeSize = 4
  maxSize : config.messageMaxSize = 0 ∨
    (config.headerSize.toInt ≤ config.messageMaxSize.toNat ∧
      config.headerMsgSizeOffset.toInt + 4 ≤ config.messageMaxSize.toNat)

/-- The loop of `read_cb_message` stops on this input without an error. -/
structure Undecided (config : CNetworkConfig) (input : EvBuffer) : Prop where
  first : firstCompleteMessageSize config input = some ⟨restSize config input.flatten, false, false⟩
  small : 0 < config.messageMaxSize.toNat → restSize config input.flatten ≤ config.messageMaxSize.toNat
  short : input.getLength < wantedLength config input.flatten

/-- The read watermarks are in order: the high one does not block what the low one waits for, and what may
be buffered is bounded where messages are. -/
structure BufferEvent.Bounded (config : CNetworkConfig) (bev : BufferEvent) : Prop where
  order : bev.readHigh = 0 ∨ bev.readLow ≤ bev.readHigh
  bound : 0 < config.messageMaxSize.toNat → bev.readHigh ≤ 2 * config.messageMaxSize.toNat

/-- The read side after a run of the callback: the watermarks are those of the undecided input. -/
structure BufferEvent.Settled (config : CNetworkConfig) (bev : BufferEvent) : Prop where
  undecided : Undecided config bev.input
  low : bev.readLow = wantedLength config bev.input.flatten
  high : bev.readHigh = restSize config bev.input.flatten + config.messageMaxSize.toNat

/-- The read side at any time: the last run of the callback settled it on the bytes that were there,
and others may have arrived since. -/
structure BufferEvent.Reading (config : CNetworkConfig) (bev : BufferEvent) : Prop where
  readcb : bev.readcb = none ∨ bev.readcb = some .readCbMessage
  settled : ∃ seen later, bev.input = seen ++ later ∧ { bev with input := seen }.Settled config

/-- The connection reads messages with this configuration. -/
structure ConnectionBase.Reading (config : CNetworkConfig) (base : ConnectionBase) : Prop where
  conn : base.conn.netConfig = config
  readCbPtr : base.readCbPtr = some .readCbMessage
  bev : ∃ bev, base.bev = some bev ∧ bev.Reading config

/-- What the header logic finds at the front of the input, on whichever path. -/
def headerAtFront (config : CNetworkConfig) (input : EvBuffer) : Option ℕ :=
  if input.peekCount config.sizeNeeded.toNat = 1 then headerMessageSize config input.peekFirst
  else headerMessageSize config (input.copyout config.sizeNeeded.toNat)

namespace HeaderMode

variable {config : CNetworkConfig} (h : HeaderMode config)

include h

/-- Without its message start the configuration is one of the greedy rule. -/
theorem messageMode : MessageMode { config with messageStart := [] } where
  offset := h.offset
  width := h.width
  start := by
    have hoffset := h.offset
    change (0 : ℤ) ≤ config.headerMsgSizeOffset.toInt + 4
    omega
  chunk := h.chunk
  header := h.header
  maxSize := h.maxSize.imp_right And.right

/-- The header is not empty. -/
theorem sizeNeeded_pos : 0 < config.sizeNeeded.toNat := by
  have hneeded : config.sizeNeeded = config.headerMsgSizeOffset.toInt + 4 := h.messageMode.sizeNeeded_eq
  have hoffset := h.offset
  omega

/-- Where the message start is there, the header announces the length of the frame. -/
theorem headerMessageSize_cases {ptr bytes : Bytes}
    (heq : ptr.take config.sizeNeeded.toNat = bytes.take config.sizeNeeded.toNat) :
    headerMessageSize config ptr = none ∨ headerMessageSize config ptr = some (announcedLength config bytes) := by
  have hany : headerMessageSize { config with messageStart := [] } ptr = some (announcedLength config bytes) := by
    have hcongr := @ReadableHeader.headerMessageSize_congr _ h.messageMode.toReadableHeader ptr bytes heq
    rw [hcongr, if_neg (by simp), h.messageMode.frameLength_eq]
    rfl
  rw [← hany]
  unfold headerMessageSize
  split
  · exact Or.inl rfl
  · exact Or.inr rfl

/-- Where the message start is there, the header at the front announces the length of the frame. -/
theorem headerAtFront_cases (input : EvBuffer) :
    headerAtFront config input = none ∨ headerAtFront config input = some (announcedLength config input.flatten) := by
  rw [headerAtFront]
  split
  · next hone => exact h.headerMessageSize_cases (EvBuffer.take_peekFirst hone)
  · exact h.headerMessageSize_cases (by rw [EvBuffer.copyout, List.take_take, Nat.min_self])

/-- The bytes behind the header do not count. -/
theorem headerAtFront_append {seen : EvBuffer} (hlong : config.sizeNeeded.toNat ≤ seen.getLength)
    (later : EvBuffer) : headerAtFront config (seen ++ later) = headerAtFront config seen := by
  have hne : seen ≠ [] := by
    rintro rfl
    have hpos := h.sizeNeeded_pos
    change config.sizeNeeded.toNat ≤ 0 at hlong
    omega
  rw [headerAtFront, headerAtFront, EvBuffer.peekCount_append hlong, EvBuffer.peekFirst_append hne,
    EvBuffer.copyout_append hlong]

/-- With fewer bytes than the header needs, the loop finds nothing. -/
theorem firstCompleteMessageSize_of_short {input : EvBuffer} (hshort : input.getLength < config.sizeNeeded.toNat) :
    firstCompleteMessageSize config input = some ⟨0, false, false⟩ := by
  have hsize : sizeT config.sizeNeeded = config.sizeNeeded.toNat := h.messageMode.sizeT_sizeNeeded
  simp [firstCompleteMessageSize, h.width, hsize, hshort]

/-- With enough bytes it goes by the header. -/
theorem firstCompleteMessageSize_of_long {input : EvBuffer} (hlong : config.sizeNeeded.toNat ≤ input.getLength) :
    firstCompleteMessageSize config input =
      match headerAtFront config input with
      | none => some ⟨0, false, true⟩
      | some size => some ⟨size, decide (size ≤ input.getLength), false⟩ := by
  have hsize : sizeT config.sizeNeeded = config.sizeNeeded.toNat := h.messageMode.sizeT_sizeNeeded
  rw [firstCompleteMessageSize, if_neg (by simp [h.width]), hsize, if_neg (Nat.not_lt.mpr hlong)]
  rfl

/-- The loop ends, and without an error it leaves an input that is undecided. -/
theorem readLoop_ends (input : EvBuffer) (fuel : ℕ) (hfuel : input.getLength < fuel) (msgs : List Bytes)
    (totalsize : ℕ) :
    ∃ r, readLoop config fuel input msgs totalsize = some r ∧
      (r.fTooBig = false → r.fBadMsgStart = false →
        Undecided config r.input ∧ r.msgsize = restSize config r.input.flatten) := by
  induction fuel generalizing input msgs totalsize with
  | zero => omega
  | succ fuel ih =>
    rw [readLoop]
    by_cases hshort : input.getLength < config.sizeNeeded.toNat
    · have hfirst := h.firstCompleteMessageSize_of_short hshort
      have hrest : restSize config input.flatten = 0 := if_pos hshort
      have hundecided : Undecided config input := by
        refine ⟨by rw [hfirst, hrest], by omega, ?_⟩
        rw [wantedLength, if_pos (show input.flatten.length < _ from hshort)]
        exact hshort
      exact ⟨⟨input, msgs, totalsize, 0, false, false⟩, by simp [hfirst], fun _ _ => ⟨hundecided, hrest.symm⟩⟩
    · have hlong := Nat.le_of_not_lt hshort
      have hfirst := h.firstCompleteMessageSize_of_long hlong
      rcases h.headerAtFront_cases input with hnone | hsome
      · rw [hnone] at hfirst
        refine ⟨⟨input, msgs, totalsize, 0, false, true⟩, by simp [hfirst], fun _ hgood => ?_⟩
        contradiction
      · have hpos : 0 < announcedLength config input.flatten := h.messageMode.announcedLength_pos input.flatten
        have hrest : restSize config input.flatten = announcedLength config input.flatten := if_neg hshort
        rw [hsome] at hfirst
        by_cases hbig : 0 < config.messageMaxSize.toNat ∧
            config.messageMaxSize.toNat < announcedLength config input.flatten
        · refine ⟨_, by simp [hfirst, hbig]; rfl, fun hfits => ?_⟩
          contradiction
        · by_cases hcomplete : announcedLength config input.flatten ≤ input.getLength
          · have hshorter : (input.drain (announcedLength config input.flatten)).getLength < fuel := by
              rw [EvBuffer.getLength_drain]
              omega
            obtain ⟨r, hr, hends⟩ := ih _ hshorter (msgs ++ [input.copyout (announcedLength config input.flatten)])
              (totalsize + announcedLength config input.flatten)
            refine ⟨r, ?_, hends⟩
            rw [← hr]
            simp [hfirst, hbig, hcomplete, hpos.ne']
          · have hundecided : Undecided config input := by
              refine ⟨by simp [hfirst, hrest, hcomplete], fun hmax => ?_, ?_⟩
              · rw [hrest]
                exact Nat.le_of_not_lt fun hover => hbig ⟨hmax, hover⟩
              · rw [wantedLength, if_neg (show ¬input.flatten.length < _ from hshort)]
                exact Nat.lt_of_not_le hcomplete
            refine ⟨⟨input, msgs, totalsize, announcedLength config input.flatten, false, false⟩, ?_,
              fun _ _ => ⟨hundecided, hrest.symm⟩⟩
            simp [hfirst, hbig, hcomplete]

/-- Below the wanted length an undecided input stays undecided, with the same wants. -/
theorem undecided_append {seen later : EvBuffer} (hseen : Undecided config seen)
    (hlt : EvBuffer.getLength (seen ++ later) < wantedLength config seen.flatten) :
    Undecided config (seen ++ later) ∧
      wantedLength config (seen ++ later).flatten = wantedLength config seen.flatten ∧
      restSize config (seen ++ later).flatten = restSize config seen.flatten := by
  have hflat : (seen.flatten ++ later.flatten).length < wantedLength config seen.flatten := by
    rwa [← List.flatten_append]
  have happend : wantedLength config (seen.flatten ++ later.flatten) = wantedLength config seen.flatten ∧
      restSize config (seen.flatten ++ later.flatten) = restSize config seen.flatten :=
    h.messageMode.rest_append hflat
  rw [← List.flatten_append] at happend
  obtain ⟨hwanted, hrest⟩ := happend
  refine ⟨⟨?_, fun hmax => ?_, ?_⟩, hwanted, hrest⟩
  · rw [hrest]
    by_cases hshort : seen.getLength < config.sizeNeeded.toNat
    · have hneeded : wantedLength config seen.flatten = config.sizeNeeded.toNat := if_pos hshort
      rw [hneeded] at hlt
      rw [h.firstCompleteMessageSize_of_short hlt, restSize, if_pos (show seen.flatten.length < _ from hshort)]
    · have hlong := Nat.le_of_not_lt hshort
      have hlong' : config.sizeNeeded.toNat ≤ EvBuffer.getLength (seen ++ later) := by
        rw [EvBuffer.getLength, List.flatten_append, List.length_append]
        exact hlong.trans (Nat.le_add_right _ _)
      have hsize : restSize config seen.flatten = announcedLength config seen.flatten := if_neg hshort
      have hneeded : wantedLength config seen.flatten = announcedLength config seen.flatten := if_neg hshort
      rw [hneeded] at hlt
      have hfirst := hseen.first
      rw [h.firstCompleteMessageSize_of_long hlong] at hfirst
      rw [h.firstCompleteMessageSize_of_long hlong', h.headerAtFront_append hlong]
      rcases h.headerAtFront_cases seen with hnone | hsome
      · simp [hnone] at hfirst
      · simp [hsome, hsize, hlt]
  · rw [hrest]
    exact hseen.small hmax
  · rw [hwanted]
    exact hlt

/-- At the wanted length the loop finds something else. -/
theorem firstCompleteMessageSize_append_ne {seen later : EvBuffer} (hseen : Undecided config seen)
    (hle : wantedLength config seen.flatten ≤ EvBuffer.getLength (seen ++ later)) :
    firstCompleteMessageSize config (seen ++ later) ≠ firstCompleteMessageSize config seen := by
  rw [hseen.first]
  by_cases hshort : seen.getLength < config.sizeNeeded.toNat
  · have hneeded : wantedLength config seen.flatten = config.sizeNeeded.toNat := if_pos hshort
    have hsize : restSize config seen.flatten = 0 := if_pos hshort
    have hpos : 0 < announcedLength config (seen ++ later).flatten := h.messageMode.announcedLength_pos _
    rw [hneeded] at hle
    rw [hsize, h.firstCompleteMessageSize_of_long hle]
    rcases h.headerAtFront_cases (seen ++ later) with hnone | hsome
    · simp [hnone]
    · rw [hsome]
      simp only [ne_eq, Option.some.injEq, MessageSize.mk.injEq]
      omega
  · have hlong := Nat.le_of_not_lt hshort
    have hneeded : wantedLength config seen.flatten = announcedLength config seen.flatten := if_neg hshort
    have hlong' : config.sizeNeeded.toNat ≤ EvBuffer.getLength (seen ++ later) := by
      rw [EvBuffer.getLength, List.flatten_append, List.length_append]
      exact hlong.trans (Nat.le_add_right _ _)
    rw [hneeded] at hle
    rw [h.firstCompleteMessageSize_of_long hlong', h.headerAtFront_append hlong]
    rcases h.headerAtFront_cases seen with hnone | hsome
    · simp [hnone]
    · simp [hsome, hle]

/-- The watermarks of a settled read side are in bounds. -/
theorem bounded_of_settled {bev : BufferEvent} (hsettled : bev.Settled config) : bev.Bounded config := by
  have hwanted : restSize config bev.input.flatten + config.messageMaxSize.toNat = 0 ∨
      wantedLength config bev.input.flatten ≤ restSize config bev.input.flatten + config.messageMaxSize.toNat :=
    h.messageMode.wantedLength_le bev.input.flatten
  refine ⟨?_, fun hmax => ?_⟩
  · rwa [hsettled.low, hsettled.high]
  · have hsmall := hsettled.undecided.small hmax
    rw [hsettled.high]
    omega

/-- A read side whose new bytes do not reach the watermark is settled as it is. -/
theorem settled_of_reading {bev : BufferEvent} (hreading : bev.Reading config)
    (hlt : bev.input.getLength < bev.readLow) : bev.Settled config := by
  obtain ⟨seen, later, hinput, hseen⟩ := hreading.settled
  have hlow : bev.readLow = wantedLength config seen.flatten := hseen.low
  have hhigh : bev.readHigh = restSize config seen.flatten + config.messageMaxSize.toNat := hseen.high
  rw [hlow, hinput] at hlt
  obtain ⟨hundecided, hwanted, hrest⟩ := h.undecided_append hseen.undecided hlt
  refine ⟨?_, ?_, ?_⟩
  · rwa [hinput]
  · rw [hinput, hwanted, hlow]
  · rw [hinput, hrest, hhigh]

/-- After a loop without an error the read side is settled. -/
theorem settled_afterReadLoop {r : ReadLoop} (bev : BufferEvent) (hfits : r.fTooBig = false)
    (hgood : r.fBadMsgStart = false) (hundecided : Undecided config r.input)
    (hmsgsize : r.msgsize = restSize config r.input.flatten) : (afterReadLoop config r bev).Settled config := by
  have hwatermarks : (afterReadLoop config r bev).readLow = wantedLength config r.input.flatten ∧
      (afterReadLoop config r bev).readHigh = restSize config r.input.flatten + config.messageMaxSize.toNat :=
    h.messageMode.afterReadLoop_of_rest bev hfits hgood hmsgsize
  have hinput : (afterReadLoop config r bev).input = r.input := by rw [afterReadLoop_eq]
  refine ⟨?_, ?_, ?_⟩
  · rwa [hinput]
  · rw [hinput]
    exact hwatermarks.1
  · rw [hinput]
    exact hwatermarks.2

/-- The buffer is not asked to grow beyond a message and a header. -/
theorem le_of_mem_expandRequest {r : ReadLoop} {size : ℕ} (hmax : 0 < config.messageMaxSize.toNat)
    (hends : r.fTooBig = false → r.fBadMsgStart = false →
      Undecided config r.input ∧ r.msgsize = restSize config r.input.flatten)
    (hmem : .evbufferExpand size ∈ expandRequest config r) :
    r.input.getLength + size ≤ config.messageMaxSize.toNat + config.headerSize.toInt.toNat := by
  unfold expandRequest at hmem
  dsimp only at hmem
  split_ifs at hmem with hgrows
  · obtain ⟨⟨-, hgood⟩, hshort, hfits⟩ := hgrows
    obtain ⟨hundecided, hmsgsize⟩ := hends (by simpa using hfits) (by simpa using hgood)
    have hsmall := hundecided.small hmax
    have hheader := h.header
    obtain rfl := ConnEffect.evbufferExpand.inj (List.mem_singleton.mp hmem)
    have hle : sizeT (r.msgsize + config.headerSize.toInt) ≤ r.msgsize + config.headerSize.toInt.toNat := by
      rw [sizeT]
      omega
    omega
  · contradiction

/-- A run of `read_cb_message` settles the read side, unless it finds a malformed message. -/
theorem readCbMessage_settles (bev : BufferEvent) :
    ∃ result, readCbMessage config bev = some result ∧
      (.onMalformedMessage ∉ result.2 → result.1.Settled config) ∧ result.1.readcb = bev.readcb ∧
      ∀ size, 0 < config.messageMaxSize.toNat → .evbufferExpand size ∈ result.2 →
        result.1.input.getLength + size ≤ config.messageMaxSize.toNat + config.headerSize.toInt.toNat := by
  obtain ⟨r, hr, hends⟩ := h.readLoop_ends bev.input _ (Nat.lt_succ_self _) [] 0
  refine ⟨(afterReadLoop config r bev, expandRequest config r ++ readLoopReports r), ?_, fun hquiet => ?_, ?_,
    fun size hmax hmem => ?_⟩
  · rw [readCbMessage, hr]
    rfl
  · have hflags : (r.fTooBig || r.fBadMsgStart) = false := by
      by_contra hbad
      rw [Bool.not_eq_false] at hbad
      exact hquiet (by simp [readLoopReports, hbad])
    rw [Bool.or_eq_false_iff] at hflags
    obtain ⟨hundecided, hmsgsize⟩ := hends hflags.1 hflags.2
    exact h.settled_afterReadLoop bev hflags.1 hflags.2 hundecided hmsgsize
  · rw [afterReadLoop_eq]
  · have hinput : (afterReadLoop config r bev).input = r.input := by rw [afterReadLoop_eq]
    have hexpand : .evbufferExpand size ∈ expandRequest config r := by
      rcases List.mem_append.mp hmem with hexpand | hreport
      · exact hexpand
      · unfold readLoopReports at hreport
        split_ifs at hreport <;> simp at hreport
    rw [hinput]
    exact h.le_of_mem_expandRequest hmax hends hexpand

/-- A run on a settled read side changes nothing and reports nothing. -/
theorem readCbMessage_of_settled {bev : BufferEvent} (hsettled : bev.Settled config) :
    ∃ effects, readCbMessage config bev = some (bev, effects) ∧
      ∀ effect ∈ effects, ∃ size, effect = .evbufferExpand size := by
  obtain ⟨hundecided, hlow, hhigh⟩ := hsettled
  have hsmall : ¬(0 < config.messageMaxSize.toNat ∧
      config.messageMaxSize.toNat < restSize config bev.input.flatten) :=
    fun hbig => Nat.not_lt.mpr (hundecided.small hbig.1) hbig.2
  obtain ⟨r, hr⟩ : ∃ r : ReadLoop, r = ⟨bev.input, [], 0, restSize config bev.input.flatten, false, false⟩ := ⟨_, rfl⟩
  have hloop : readLoop config (bev.input.getLength + 1) bev.input [] 0 = some r := by
    simp [hr, readLoop, hundecided.first, hsmall]
  have hwatermarks : (afterReadLoop config r bev).readLow = wantedLength config bev.input.flatten ∧
      (afterReadLoop config r bev).readHigh = restSize config bev.input.flatten + config.messageMaxSize.toNat :=
    h.messageMode.afterReadLoop_of_rest bev (by rw [hr]) (by rw [hr]) (by rw [hr]; rfl)
  have hsame : afterReadLoop config r bev = bev := by
    rw [afterReadLoop_eq, hwatermarks.1, hwatermarks.2, ← hlow, ← hhigh, hr]
  have hnone : readLoopReports r = [] := by
    rw [hr]
    rfl
  refine ⟨expandRequest config r, ?_, fun effect => mem_expandRequest⟩
  rw [readCbMessage, hloop, Option.map_some, hsame, hnone, List.append_nil]

end HeaderMode

/-- What becomes of the read side depends on its input and its watermarks, and on the callback. -/
theorem BufferEvent.Reading.of_same {config : CNetworkConfig} {bev bev' : BufferEvent} (hreading : bev.Reading config)
    (hinput : bev'.input = bev.input) (hlow : bev'.readLow = bev.readLow) (hhigh : bev'.readHigh = bev.readHigh)
    (hreadcb : bev'.readcb = none ∨ bev'.readcb = some .readCbMessage) : bev'.Reading config := by
  obtain ⟨-, seen, later, hseen, hundecided, hlow', hhigh'⟩ := hreading
  exact ⟨hreadcb, seen, later, hinput.trans hseen, hundecided, hlow.trans hlow', hhigh.trans hhigh'⟩

/-- Chunks that arrive follow the bytes that the last run saw. -/
theorem BufferEvent.Reading.arrive {config : CNetworkConfig} {bev : BufferEvent} (hreading : bev.Reading config)
    (chunks : List Bytes) : (bev.arrive chunks).Reading config := by
  obtain ⟨hreadcb, seen, later, hinput, hundecided, hlow, hhigh⟩ := hreading
  refine ⟨hreadcb, seen, later ++ chunks, ?_, hundecided, hlow, hhigh⟩
  change bev.input ++ chunks = _
  rw [hinput, List.append_assoc]

/-- What happens to the socket is not read. -/
theorem BufferEvent.Reading.raise {config : CNetworkConfig} {bev : BufferEvent} (hreading : bev.Reading config)
    (what : BevEvents) : (bev.raise what).Reading config := by
  unfold BufferEvent.raise
  split
  · exact hreading.of_same rfl rfl rfl hreading.readcb
  · exact hreading

/-- A run of the read callback leaves nothing that it has not seen, unless it finds a malformed message. -/
theorem BufferEvent.Reading.readCbMessage {config : CNetworkConfig} (h : HeaderMode config) {bev bev' : BufferEvent}
    {effects : List ConnEffect} (hmessage : bev.readcb = some .readCbMessage)
    (hread : LibBtcNet.readCbMessage config bev = some (bev', effects)) :
    .onMalformedMessage ∈ effects ∨ bev'.Reading config := by
  obtain ⟨result, hresult, hsettles, hreadcb, -⟩ := h.readCbMessage_settles bev
  obtain rfl := Option.some.inj (hresult.symm.trans hread)
  by_cases hmalformed : .onMalformedMessage ∈ effects
  · exact Or.inl hmalformed
  · refine Or.inr ⟨Or.inr (hreadcb.trans hmessage), bev'.input, [], ?_, hsettles hmalformed⟩
    rw [List.append_nil]

namespace ConnectionBase.Reading

variable {config : CNetworkConfig} {base base' : ConnectionBase} {effects : List ConnEffect}

/-- `DisconnectInt` takes the callback away. -/
theorem disconnectInt (hreading : base.Reading config) : base.disconnectInt.Reading config := by
  obtain ⟨hconn, hptr, bev, hbev, hside⟩ := hreading
  refine ⟨hconn, hptr, (bev.setReadingWriting false).setcb none none none, ?_, hside.of_same rfl rfl rfl (Or.inl rfl)⟩
  rw [ConnectionBase.disconnectInt, hbev]
  rfl

/-- A change of the bufferevent that keeps its read side. -/
theorem of_bev {bev bev' : BufferEvent} (hreading : base.Reading config) (hbev : base.bev = some bev)
    (hbev' : base'.bev = some bev') (hconn : base'.conn = base.conn) (hptr : base'.readCbPtr = base.readCbPtr)
    (hkeeps : bev.Reading config → bev'.Reading config) : base'.Reading config := by
  obtain ⟨hconfig, hmessage, other, hother, hside⟩ := hreading
  obtain rfl := Option.some.inj (hbev.symm.trans hother)
  exact ⟨hconn ▸ hconfig, hptr.trans hmessage, bev', hbev', hkeeps hside⟩

/-- One that leaves what has been read and the callback as they are. -/
theorem of_unread {bev bev' : BufferEvent} (hreading : base.Reading config) (hbev : base.bev = some bev)
    (hbev' : base'.bev = some bev') (hconn : base'.conn = base.conn) (hptr : base'.readCbPtr = base.readCbPtr)
    (hinput : bev'.input = bev.input) (hlow : bev'.readLow = bev.readLow) (hhigh : bev'.readHigh = bev.readHigh)
    (hreadcb : bev'.readcb = bev.readcb ∨ bev'.readcb = none ∨ bev'.readcb = base.readCbPtr) :
    base'.Reading config := by
  refine hreading.of_bev hbev hbev' hconn hptr fun hside => hside.of_same hinput hlow hhigh ?_
  rcases hreadcb with hsame | hnone | hmessage
  · rw [hsame]
    exact hside.readcb
  · exact Or.inl hnone
  · exact Or.inr (hmessage.trans hreading.readCbPtr)

/-- Calls of the user do not reach what has been read. -/
theorem call {c : ConnCall} (hreading : base.Reading config) (hcall : base.call c = some base') :
    base'.Reading config := by
  cases calls_of_call hcall with
  | disconnect => exact ⟨hreading.conn, hreading.readCbPtr, hreading.bev⟩
  | disconnectWhenFinished => exact ⟨hreading.conn, hreading.readCbPtr, hreading.bev⟩
  | write size hbev => exact hreading.of_unread hbev rfl rfl rfl rfl rfl rfl (Or.inl rfl)
  | pauseRecv hbev => exact hreading.of_unread hbev rfl rfl rfl rfl rfl rfl (Or.inl rfl)
  | unpauseRecv hbev => exact hreading.of_unread hbev rfl rfl rfl rfl rfl rfl (Or.inl rfl)
  | setRateLimit => exact hreading
  | resetPingTimeout seconds => exact ⟨hreading.conn, hreading.readCbPtr, hreading.bev⟩

/-- An event keeps the read side, unless it finds a malformed message. -/
theorem react (h : HeaderMode config) {event : ConnEvent} (hreading : base.Reading config)
    (hreact : base.react event = some (base', effects)) :
    .onMalformedMessage ∈ effects ∨ base'.Reading config := by
  cases reacts_of_react hreact with
  | disconnect => exact Or.inr ⟨hreading.conn, hreading.readCbPtr, hreading.bev⟩
  | pingTimeout => exact Or.inr ⟨hreading.conn, hreading.readCbPtr, hreading.bev⟩
  | room => exact Or.inr ⟨hreading.conn, hreading.readCbPtr, hreading.bev⟩
  | closing hbev => exact Or.inr (hreading.of_unread hbev rfl rfl rfl rfl rfl rfl (Or.inr (Or.inl rfl)))
  | finished hbev => exact Or.inr (hreading.of_unread hbev rfl rfl rfl rfl rfl rfl (Or.inr (Or.inl rfl)))
  | full hbev => exact Or.inr (hreading.of_unread hbev rfl rfl rfl rfl rfl rfl (Or.inr (Or.inr rfl)))
  | ready hbev => exact Or.inr (hreading.of_unread hbev rfl rfl rfl rfl rfl rfl (Or.inr (Or.inr rfl)))
  | firstData hbev => exact Or.inr (hreading.of_unread hbev rfl rfl rfl rfl rfl rfl (Or.inl rfl))
  | drained hbev => exact Or.inr (hreading.of_unread hbev rfl rfl rfl rfl rfl rfl (Or.inl rfl))
  | drainedNothing hbev => exact Or.inr (hreading.of_unread hbev rfl rfl rfl rfl rfl rfl (Or.inl rfl))
  | unread hbev => exact Or.inr (hreading.of_unread hbev rfl rfl rfl rfl rfl rfl (Or.inl rfl))
  | flushed hbev => exact Or.inr (hreading.of_unread hbev rfl rfl rfl rfl rfl rfl (Or.inl rfl))
  | unwritten hbev => exact Or.inr (hreading.of_unread hbev rfl rfl rfl rfl rfl rfl (Or.inl rfl))
  | lost hbev => exact Or.inr (hreading.of_unread hbev rfl rfl rfl rfl rfl rfl (Or.inl rfl))
  | notLost hbev => exact Or.inr (hreading.of_unread hbev rfl rfl rfl rfl rfl rfl (Or.inl rfl))
  | arrived hbev => exact Or.inr (hreading.of_bev hbev rfl rfl rfl fun hside => hside.arrive _)
  | arrivedNothing hbev => exact Or.inr (hreading.of_bev hbev rfl rfl rfl fun hside => hside.arrive _)
  | raised hbev => exact Or.inr (hreading.of_bev hbev rfl rfl rfl fun hside => hside.raise _)
  | @readMessage bev _ _ hbev hmessage hread =>
    rw [hreading.conn] at hread
    rcases @BufferEvent.Reading.readCbMessage config h { bev with readPending := false } _ _ hmessage hread with
      hmalformed | hside
    · exact Or.inl hmalformed
    · exact Or.inr (hreading.of_bev hbev rfl rfl rfl fun _ => hside)
  | readChunk hbev hchunk =>
    -- The callback of a connection that reads messages is not the one for chunks.
    obtain ⟨-, -, bev, hbev', hside⟩ := hreading
    obtain rfl := Option.some.inj (hbev.symm.trans hbev')
    rcases hside.readcb with hnone | hmessage
    · exact absurd (hnone.symm.trans hchunk) (by simp)
    · exact absurd (hmessage.symm.trans hchunk) (by simp)

end ConnectionBase.Reading

/-- What happens to a connection between two runs of its read callback, or a run that nothing asked for. -/
inductive ReadStep where
  | step (s : ConnStep)
  | spurious
deriving DecidableEq, Repr

/-- One such step. -/
def ConnRun.readStep (run : ConnRun) : ReadStep → Option ConnRun
  | .step s => run.step s
  | .spurious => run.runReadCallback

/-- A connection that was found malformed, or that reads messages with this configuration. -/
def ConnRun.Reading (config : CNetworkConfig) (run : ConnRun) : Prop :=
  .onMalformedMessage ∈ run.log ∨ run.base.Reading config

namespace ConnRun.Reading

variable {config : CNetworkConfig} {run next : ConnRun}

/-- The effects of a method are logged, and `DisconnectInt` keeps the read side. -/
theorem performAll {result : ConnectionBase × List ConnEffect}
    (hresult : .onMalformedMessage ∈ result.2 ∨ result.1.Reading config) :
    (run.performAll result).Reading config := by
  refine hresult.imp (fun hmem => ?_) (fun hreading => ?_)
  · rw [performAll_log]
    exact List.mem_append_right _ hmem
  · exact @performAll_invariant (ConnectionBase.Reading config) (fun _ hbase => hbase.disconnectInt) run _ hreading

/-- So does the reaction to an event; a malformed message stays in the log. -/
theorem react (h : HeaderMode config) {event : ConnEvent} {result : ConnectionBase × List ConnEffect}
    (hrun : run.Reading config) (hreact : run.base.react event = some result) :
    (run.performAll result).Reading config := by
  rcases hrun with hmem | hreading
  · refine Or.inl ?_
    rw [performAll_log]
    exact List.mem_append_left _ hmem
  · exact performAll (hreading.react h hreact)

/-- Every step keeps it. -/
theorem readStep (h : HeaderMode config) {s : ReadStep} (hrun : run.Reading config)
    (hstep : run.readStep s = some next) : next.Reading config := by
  cases s with
  | spurious =>
    simp only [ConnRun.readStep, runReadCallback] at hstep
    split at hstep
    · obtain rfl := Option.some.inj hstep
      exact hrun
    · obtain ⟨result, hreact, rfl⟩ := Option.map_eq_some_iff.mp hstep
      exact hrun.react h hreact
  | step s =>
    cases s with
    | call c =>
      simp only [ConnRun.readStep, step, ConnRun.call] at hstep
      split at hstep
      · obtain rfl := Option.some.inj hstep
        exact hrun
      · obtain ⟨base', hcall, rfl⟩ := Option.map_eq_some_iff.mp hstep
        exact hrun.imp id fun hreading => hreading.call hcall
    | event e =>
      simp only [ConnRun.readStep, step, event] at hstep
      split at hstep
      · obtain ⟨result, hreact, rfl⟩ := Option.map_eq_some_iff.mp hstep
        exact hrun.react h hreact
      · obtain rfl := Option.some.inj hstep
        exact hrun

end ConnRun.Reading

/-- A connection established on an empty input buffer waits for the first header. -/
theorem established_reading (base : ConnectionBase) (bev : BufferEvent) (h : HeaderMode base.conn.netConfig)
    (hempty : bev.input.flatten = []) : (ConnRun.established base bev).Reading base.conn.netConfig := by
  have hneeded : sizeT base.conn.netConfig.sizeNeeded = base.conn.netConfig.sizeNeeded.toNat :=
    h.messageMode.sizeT_sizeNeeded
  have hpos := h.sizeNeeded_pos
  have hshort : ([] : Bytes).length < base.conn.netConfig.sizeNeeded.toNat := hpos
  have hrest : restSize base.conn.netConfig [] = 0 := if_pos hshort
  have hwanted : wantedLength base.conn.netConfig [] = base.conn.netConfig.sizeNeeded.toNat := if_pos hshort
  have hlength : bev.input.getLength < base.conn.netConfig.sizeNeeded.toNat := by
    rwa [EvBuffer.getLength, hempty]
  have hundecided : Undecided base.conn.netConfig bev.input := by
    refine ⟨?_, ?_, ?_⟩
    · rw [h.firstCompleteMessageSize_of_short hlength, hempty, hrest]
    · rw [hempty, hrest]
      exact fun _ => Nat.zero_le _
    · rwa [hempty, hwanted]
  have hbase := ConnRun.established_base base bev h.chunk h.header
  refine Or.inr ⟨rfl, congrArg ConnectionBase.readCbPtr hbase, _, congrArg ConnectionBase.bev hbase, Or.inr rfl,
    bev.input, [], (List.append_nil _).symm, hundecided, ?_, ?_⟩
  · change sizeT _ = wantedLength _ bev.input.flatten
    rw [hempty, hwanted, hneeded]
  · change base.conn.netConfig.messageMaxSize.toNat = restSize _ bev.input.flatten + _
    rw [hempty, hrest, Nat.zero_add]

/-- In every state of a connection that was not found malformed, the read watermarks are in bounds and
a run of the callback leaves them so, above what is buffered and at exactly the length at which the
framing can go on; it does not grow the buffer beyond a message and a header, and one that nothing
asked for changes nothing. -/
theorem readWatermarks (base : ConnectionBase) (bev : BufferEvent) (h : HeaderMode base.conn.netConfig)
    (hempty : bev.input.flatten = []) (steps : List ReadStep) {run : ConnRun}
    (hrun : steps.foldlM ConnRun.readStep (ConnRun.established base bev) = some run)
    (hgood : .onMalformedMessage ∉ run.log) :
    ∃ bev, run.base.bev = some bev ∧ bev.Bounded base.conn.netConfig ∧
      ∃ bev' effects, readCbMessage base.conn.netConfig bev = some (bev', effects) ∧
        (.onMalformedMessage ∉ effects →
          bev'.input.getLength < bev'.readLow ∧
          bev'.readLow = wantedLength base.conn.netConfig bev'.input.flatten ∧
          (∀ later : List Bytes,
            firstCompleteMessageSize base.conn.netConfig (bev'.input.add later) =
                firstCompleteMessageSize base.conn.netConfig bev'.input ↔
              (bev'.input.add later).getLength < bev'.readLow) ∧
          bev'.Bounded base.conn.netConfig) ∧
        (∀ size, 0 < base.conn.netConfig.messageMaxSize.toNat → .evbufferExpand size ∈ effects →
          bev'.input.getLength + size ≤
            base.conn.netConfig.messageMaxSize.toNat + base.conn.netConfig.headerSize.toInt.toNat) ∧
        (bev.input.getLength < bev.readLow →
          bev' = bev ∧ ∀ effect ∈ effects, ∃ size, effect = .evbufferExpand size) := by
  have hreading : run.Reading base.conn.netConfig :=
    foldlM_invariant (fun _ _ _ hrun hstep => hrun.readStep h hstep) (established_reading base bev h hempty) hrun
  obtain ⟨-, -, bev, hbev, hside⟩ := hreading.resolve_left hgood
  obtain ⟨⟨bev', effects⟩, hresult, hsettles, -, hexpand⟩ := h.readCbMessage_settles bev
  refine ⟨bev, hbev, ?_, bev', effects, hresult, fun hquiet => ?_, hexpand, fun hlt => ?_⟩
  · obtain ⟨seen, later, -, hsettled⟩ := hside.settled
    obtain ⟨horder, hbound⟩ := h.bounded_of_settled hsettled
    exact ⟨horder, hbound⟩
  · have hsettled := hsettles hquiet
    refine ⟨?_, hsettled.low, fun later => ⟨fun hsame => ?_, fun hlt => ?_⟩, h.bounded_of_settled hsettled⟩
    · rw [hsettled.low]
      exact hsettled.undecided.short
    · rw [hsettled.low]
      by_contra hle
      exact h.firstCompleteMessageSize_append_ne hsettled.undecided (Nat.le_of_not_lt hle) hsame
    · rw [hsettled.low] at hlt
      obtain ⟨hundecided, -, hrest⟩ := h.undecided_append hsettled.undecided hlt
      rw [EvBuffer.add, hundecided.first, hsettled.undecided.first, hrest]
  · obtain ⟨effects', hresult', hsilent⟩ := h.readCbMessage_of_settled (h.settled_of_reading hside hlt)
    obtain ⟨rfl, rfl⟩ := Prod.mk.inj (Option.some.inj (hresult.symm.trans hresult'))
    exact ⟨rfl, hsilent⟩

/-- The header of the test program's configuration fits into a message. -/
theorem mainnetConfig_headerMode : HeaderMode mainnetConfig where
  chunk := by decide
  header := by decide
  offset := by decide
  width := rfl
  maxSize := Or.inr (by decide)

/-- A header that announces 25 bytes arrives in two pieces, and one more run finds nothing new. -/
theorem readWatermarks_header :
    ∃ run bev,
      [.step (.event (.socketRead [[0xf9, 0xbe, 0xb4, 0xd9] ++ List.replicate 12 7])), .step (.event .readCallback),
        .step (.event (.socketRead [[1, 0, 0, 0]])), .step (.event .readCallback), .spurious].foldlM ConnRun.readStep
        (ConnRun.established (.new mainnetConnection 0 0 0) .socketNew) = some run ∧
      run.base.bev = some bev ∧ bev.readLow = 25 ∧ bev.Bounded mainnetConfig := by
  have hrun : ([.step (.event (.socketRead [[0xf9, 0xbe, 0xb4, 0xd9] ++ List.replicate 12 7])),
      .step (.event .readCallback), .step (.event (.socketRead [[1, 0, 0, 0]])), .step (.event .readCallback),
      .spurious].foldlM ConnRun.readStep
        (ConnRun.established (.new mainnetConnection 0 0 0) .socketNew)).map
          (fun run => (run.base.bev.map (·.readLow), decide (.onMalformedMessage ∈ run.log))) =
            some (some 25, false) := by
    decide +kernel
  obtain ⟨run, hsteps, hresult⟩ := Option.map_eq_some_iff.mp hrun
  obtain ⟨hlow, hgood⟩ := Prod.mk.inj hresult
  obtain ⟨bev, hbev, hbounded, -⟩ := readWatermarks (.new mainnetConnection 0 0 0) .socketNew
    mainnetConfig_headerMode rfl _ hsteps (of_decide_eq_false hgood)
  rw [hbev] at hlow
  exact ⟨run, bev, hsteps, hbev, Option.some.inj hlow, hbounded⟩

end LibBtcNet
