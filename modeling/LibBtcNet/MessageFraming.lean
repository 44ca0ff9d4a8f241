import LibBtcNet.MessageFramer

/-!
# Message framing of a received stream

A connection in message mode receives a stream in arbitrary arrivals. The read callback
runs when an arrival leaves at least the low watermark buffered, and may run at any
other time too. Whatever the cuts, the messages delivered are those of the greedy split
of the whole stream, and the connection is closed as malformed exactly when that split
ends in a rejected frame.
-/

namespace LibBtcNet

open StreamFraming

/-- What happens to the input of a connection: bytes arrive, or the read callback runs although
nothing asked for it. -/
inductive Arrival where
  | bytes (chunks : List Bytes)
  | spurious
deriving DecidableEq, Repr

/-- The bytes of an arrival. -/
def Arrival.toBytes : Arrival → Bytes
  | .bytes chunks => chunks.flatten
  | .spurious => []

/-- The stream that a sequence of arrivals carries. -/
def streamOf (arrivals : List Arrival) : Bytes := arrivals.flatMap Arrival.toBytes

/-- The messages passed to `OnReceiveMessages`, in order. -/
def receivedMessages (log : List ConnEffect) : List Bytes :=
  log.flatMap fun
    | .onReceiveMessages msgs _ => msgs
    | _ => []

namespace ConnRun

/-- The read callback runs, whether or not it is pending. -/
def runReadCallback (run : ConnRun) : Option ConnRun :=
  if run.closed then some run else (run.base.react .readCallback).map run.performAll

/-- One arrival: bytes are followed by the dispatch of the callback if it became pending. -/
def deliver (run : ConnRun) : Arrival → Option ConnRun
  | .bytes chunks => (run.event (.socketRead chunks)).bind (·.event .readCallback)
  | .spurious => run.runReadCallback

end ConnRun

/-- The input side of a connection that waits for more of an undecided rest. -/
structure Waiting (config : CNetworkConfig) (rest : Bytes) (bev : BufferEvent) : Prop where
  readcb : bev.readcb = some .readCbMessage
  enabled : bev.readEnabled = true
  input : bev.input.flatten = rest
  low : bev.readLow = wantedLength config rest
  high : bev.readHigh = 0 ∨ bev.readLow ≤ bev.readHigh

/-- What the user was told, against a greedy split. -/
structure Reported (p : Split UInt8) (run : ConnRun) : Prop where
  received : receivedMessages run.log = p.frames
  totals : ∀ msgs totalsize, .onReceiveMessages msgs totalsize ∈ run.log →
    totalsize = (msgs.map List.length).sum
  closed : run.closed = p.bad
  malformed : if p.bad then
      ∃ before, run.log = before ++ [.onMalformedMessage, .disconnectInt] ∧ .onMalformedMessage ∉ before
    else .onMalformedMessage ∉ run.log

/-- A run that has processed exactly the given stream. -/
structure Framed (conn : CConnection) (h : MessageMode conn.netConfig) (stream : Bytes)
    (run : ConnRun) : Prop where
  sameConn : run.base.conn = conn
  reported : Reported ((messageFramer conn.netConfig h).split stream) run
  waiting : ((messageFramer conn.netConfig h).split stream).bad = false →
    ∃ bev, run.base.bev = some bev ∧
      Waiting conn.netConfig ((messageFramer conn.netConfig h).split stream).rest bev

/-- A shorter stream than an undecided rest wants is undecided too. -/
theorem messageVerdict_of_lt_wantedLength {config : CNetworkConfig} (h : MessageMode config)
    {rest later : Bytes} (hmore : messageVerdict config rest = .more)
    (hlt : (rest ++ later).length < wantedLength config rest) :
    messageVerdict config (rest ++ later) = .more := by
  rw [wantedLength] at hlt
  split at hlt
  · rw [messageVerdict, if_pos hlt]
  · next hlong =>
    have hrest := h.messageVerdict_append (Nat.le_of_not_lt hlong) []
    rw [List.append_nil, hmore] at hrest
    rw [h.messageVerdict_append (Nat.le_of_not_lt hlong), if_pos hlt]
    split_ifs at hrest ⊢
    rfl

/-- An undecided rest wants more than it has. -/
theorem length_lt_wantedLength {config : CNetworkConfig} {rest : Bytes}
    (hmore : messageVerdict config rest = .more) : rest.length < wantedLength config rest := by
  unfold messageVerdict at hmore
  rw [wantedLength]
  split_ifs at hmore ⊢ <;> assumption

/-- The effects of one run of the read callback extend what was reported by one more split. -/
theorem Reported.performAll {p q : Split UInt8} {run : ConnRun} (hreported : Reported p run)
    (hgood : p.bad = false) (base : ConnectionBase) {expand : List ConnEffect}
    (hexpand : ∀ effect ∈ expand, ∃ size, effect = .evbufferExpand size) :
    Reported ⟨p.frames ++ q.frames, q.rest, q.bad⟩ (run.performAll (base, expand ++ splitReports q)) := by
  have hsilent : receivedMessages expand = [] := by
    rw [receivedMessages, List.flatMap_eq_nil_iff]
    intro effect hmem
    obtain ⟨size, rfl⟩ := hexpand effect hmem
    rfl
  have hexpandMem (effect : ConnEffect) (hne : ∀ size, effect ≠ .evbufferExpand size) :
      effect ∉ expand := fun hmem => by
    obtain ⟨size, heq⟩ := hexpand effect hmem
    exact hne size heq
  have hbefore : .onMalformedMessage ∉ run.log := by
    simpa [hgood] using hreported.malformed
  refine ⟨?_, ?_, ?_, ?_⟩
  · have hsplit : receivedMessages (splitReports q) = q.frames := by
      rw [splitReports, receivedMessages, List.flatMap_append]
      cases q.bad <;> by_cases hnil : q.frames = [] <;> simp [hnil]
    rw [ConnRun.performAll_log, receivedMessages, List.flatMap_append, List.flatMap_append]
    change receivedMessages run.log ++ (receivedMessages expand ++ receivedMessages (splitReports q)) = _
    rw [hreported.received, hsilent, hsplit, List.nil_append]
  · intro msgs totalsize hmem
    rw [ConnRun.performAll_log, List.mem_append, List.mem_append] at hmem
    rcases hmem with hold | hnew | hnew
    · exact hreported.totals msgs totalsize hold
    · exact absurd hnew (hexpandMem _ (by simp))
    · rw [splitReports] at hnew
      rw [← List.length_flatten]
      cases hbad : q.bad <;> by_cases hnil : q.frames = [] <;> simp_all
  · rw [ConnRun.performAll_closed, hreported.closed, hgood, Bool.false_or]
    have hnot := hexpandMem .disconnectInt (by simp)
    cases hbad : q.bad <;> simp [splitReports, hbad, hnot]
  · rw [ConnRun.performAll_log]
    have hnot := hexpandMem .onMalformedMessage (by simp)
    cases hbad : q.bad with
    | false => simp [splitReports, hbad, hnot, hbefore]
    | true =>
      simp only [splitReports, hbad, if_true]
      refine ⟨run.log ++ (expand ++ if q.frames = [] then [] else
        [.onReceiveMessages q.frames q.frames.flatten.length]), by simp only [List.append_assoc], ?_⟩
      simp [hbefore, hnot]

section Run

variable {conn : CConnection} (h : MessageMode conn.netConfig)

/-- A run of the read callback turns what was reported for a split into what must be reported for
the split fed with the bytes buffered behind its rest. -/
theorem runReadCallback_framed {stream later : Bytes} {run : ConnRun} {bev : BufferEvent}
    (hconn : run.base.conn = conn)
    (hreported : Reported ((messageFramer conn.netConfig h).split stream) run)
    (hgood : ((messageFramer conn.netConfig h).split stream).bad = false)
    (hbev : run.base.bev = some bev) (hcb : bev.readcb = some .readCbMessage)
    (henabled : bev.readEnabled = true)
    (hinput : bev.input.flatten = ((messageFramer conn.netConfig h).split stream).rest ++ later) :
    ∃ run', (run.base.react .readCallback).map run.performAll = some run' ∧
      Framed conn h (stream ++ later) run' := by
  obtain ⟨r, hr, hmatch⟩ := h.readLoop_matches bev.input _ (Nat.lt_succ_self _) [] 0
  have hsplit := (messageFramer conn.netConfig h).split_append stream later
  rw [Framer.feed, hgood, if_neg Bool.false_ne_true, ← hinput] at hsplit
  refine ⟨run.performAll
    ({ run.base with bev := some (afterReadLoop conn.netConfig r { bev with readPending := false }) },
      expandRequest conn.netConfig r ++ readLoopReports r), ?_,
    by rw [ConnRun.performAll_conn]; exact hconn, ?_, ?_⟩
  · simp only [ConnectionBase.react, hbev, ConnectionBase.runReadcb, hcb, hconn, readCbMessage, hr,
      Option.map_some]
  · rw [hsplit, h.readLoopReports_eq bev.input.flatten hmatch]
    exact hreported.performAll hgood _ fun _ => mem_expandRequest
  · rw [hsplit]
    intro hgood'
    obtain ⟨hlow, hhigh⟩ := h.afterReadLoop_watermarks { bev with readPending := false } hmatch hgood'
    have hstays : .disconnectInt ∉ expandRequest conn.netConfig r ++ readLoopReports r := by
      rw [h.readLoopReports_eq bev.input.flatten hmatch, splitReports, hgood', List.mem_append]
      rintro (hmem | hmem)
      · obtain ⟨size, heq⟩ := mem_expandRequest hmem
        contradiction
      · split at hmem <;> simp at hmem
    rw [ConnRun.performAll_base _ _ hstays]
    refine ⟨_, rfl, ?_, ?_, ?_, hlow, hhigh⟩
    · rw [afterReadLoop_eq]
      exact hcb
    · rw [afterReadLoop_eq]
      exact henabled
    · rw [afterReadLoop_eq]
      exact hmatch.input hgood'

/-- A closed connection takes no more input, and its split stays rejected. -/
theorem Framed.of_closed {stream : Bytes} {run : ConnRun} (hframed : Framed conn h stream run)
    (hbad : ((messageFramer conn.netConfig h).split stream).bad = true) (later : Bytes) :
    Framed conn h (stream ++ later) run := by
  have hsplit := (messageFramer conn.netConfig h).split_append stream later
  rw [Framer.feed, hbad, if_pos rfl] at hsplit
  obtain ⟨hreceived, htotals, hclosed, hmalformed⟩ := hframed.reported
  refine ⟨hframed.sameConn, ?_, ?_⟩
  · rw [hsplit]
    exact ⟨hreceived, htotals, hclosed.trans hbad, by rwa [hbad] at hmalformed⟩
  · rw [hsplit]
    exact fun hgood => absurd hgood (by simp)

/-- The arrival of bytes on a connection that reads, before any callback is dispatched. -/
theorem event_socketRead {p : Split UInt8} {run : ConnRun} {bev : BufferEvent} (hconn : run.base.conn = conn)
    (hreported : Reported p run) (hgood : p.bad = false) (hbev : run.base.bev = some bev)
    (henabled : bev.readEnabled = true) (hsuspended : bev.readSuspended = false)
    {chunks : List Bytes} (hchunks : chunks.flatten ≠ []) :
    ∃ run', run.event (.socketRead chunks) = some run' ∧ run'.base.conn = conn ∧
      run'.base.bev = some (bev.arrive chunks) ∧ Reported p run' := by
  have hopen : run.closed = false := hreported.closed.trans hgood
  have hlength : chunks.flatten.length ≠ 0 := by
    rwa [ne_eq, List.length_eq_zero_iff]
  have hread := ConnectionBase.readData_of_ne_zero { run.base with bev := some (bev.arrive chunks) } hlength
  obtain ⟨hreceived, htotals, hclosed, hmalformed⟩ := hreported
  refine ⟨run.performAll ({ run.base with bev := some (bev.arrive chunks) }.readData chunks.flatten.length),
    ?_, ?_, ?_, ?_, ?_, ?_, ?_⟩
  · simp [ConnRun.event, hopen, ConnectionBase.armed, ConnectionBase.react, hbev, henabled, hsuspended, hchunks]
  · rw [hread, ConnRun.performAll_conn]
    exact hconn
  · rw [hread, ConnRun.performAll_base _ _ (by simp)]
  · rw [hread, ConnRun.performAll_log]
    simpa [receivedMessages] using hreceived
  · rw [hread, ConnRun.performAll_log]
    simpa using htotals
  · rw [hread, ConnRun.performAll_closed]
    simpa using hclosed
  · rw [hread, ConnRun.performAll_log]
    simpa [hgood] using hmalformed

/-- Bytes that leave less than the low watermark only lengthen the undecided rest. -/
theorem Framed.of_more {stream later : Bytes} {run : ConnRun} {bev : BufferEvent}
    (hconn : run.base.conn = conn)
    (hreported : Reported ((messageFramer conn.netConfig h).split stream) run)
    (hgood : ((messageFramer conn.netConfig h).split stream).bad = false)
    (hbev : run.base.bev = some bev)
    (hmore : messageVerdict conn.netConfig
      (((messageFramer conn.netConfig h).split stream).rest ++ later) = .more)
    (hwaiting : Waiting conn.netConfig
      (((messageFramer conn.netConfig h).split stream).rest ++ later) bev) :
    Framed conn h (stream ++ later) run := by
  have hsplit := (messageFramer conn.netConfig h).split_append stream later
  rw [(messageFramer conn.netConfig h).feed_of_more hgood hmore] at hsplit
  obtain ⟨hreceived, htotals, hclosed, hmalformed⟩ := hreported
  refine ⟨hconn, ?_, ?_⟩
  · rw [hsplit]
    exact ⟨hreceived, htotals, hclosed.trans hgood, by rwa [hgood] at hmalformed⟩
  · rw [hsplit]
    exact fun _ => ⟨bev, hbev, hwaiting⟩

/-- Once bytes have arrived behind an undecided rest, the dispatch of the callback, if it became
pending, leaves the connection waiting for more. -/
theorem event_readCallback {stream later : Bytes} {run : ConnRun} {bev : BufferEvent}
    (hconn : run.base.conn = conn)
    (hreported : Reported ((messageFramer conn.netConfig h).split stream) run)
    (hgood : ((messageFramer conn.netConfig h).split stream).bad = false)
    (hbev : run.base.bev = some bev) (hcb : bev.readcb = some .readCbMessage)
    (henabled : bev.readEnabled = true)
    (hinput : bev.input.flatten = ((messageFramer conn.netConfig h).split stream).rest ++ later)
    (hlow : bev.readLow = wantedLength conn.netConfig ((messageFramer conn.netConfig h).split stream).rest)
    (hhigh : bev.readHigh = 0 ∨ bev.readLow ≤ bev.readHigh)
    (hpending : bev.readPending = false → bev.input.getLength < bev.readLow) :
    ∃ run', run.event .readCallback = some run' ∧ Framed conn h (stream ++ later) run' := by
  have hopen : run.closed = false := hreported.closed.trans hgood
  cases hdue : bev.readPending with
  | true =>
    have hrun := runReadCallback_framed h hconn hreported hgood hbev hcb henabled hinput
    simpa [ConnRun.event, ConnectionBase.armed, hopen, hbev, hdue, hcb] using hrun
  | false =>
    have hmore := (messageFramer conn.netConfig h).verdict_rest stream hgood
    have hlt := hpending hdue
    rw [EvBuffer.getLength, hinput, hlow] at hlt
    refine ⟨run, by simp [ConnRun.event, ConnectionBase.armed, hbev, hdue],
      Framed.of_more h hconn hreported hgood hbev (messageVerdict_of_lt_wantedLength h hmore hlt) ?_⟩
    exact ⟨hcb, henabled, hinput, hlow.trans (h.rest_append hlt).1.symm, hhigh⟩

/-- One arrival: whatever it carries and whenever the callback runs, the stream processed grows by
exactly the bytes that arrived. -/
theorem deliver_framed {stream : Bytes} {run : ConnRun} (hframed : Framed conn h stream run)
    (arrival : Arrival) :
    ∃ run', run.deliver arrival = some run' ∧ Framed conn h (stream ++ arrival.toBytes) run' := by
  cases hgood : ((messageFramer conn.netConfig h).split stream).bad with
  | true =>
    have hclosed : run.closed = true := hframed.reported.closed.trans hgood
    refine ⟨run, ?_, hframed.of_closed h hgood _⟩
    cases arrival <;> simp [ConnRun.deliver, ConnRun.event, ConnRun.runReadCallback, hclosed]
  | false =>
    have hopen : run.closed = false := hframed.reported.closed.trans hgood
    have hmore := (messageFramer conn.netConfig h).verdict_rest stream hgood
    obtain ⟨bev, hbev, hwaiting⟩ := hframed.waiting hgood
    have hinput : bev.input.flatten =
        ((messageFramer conn.netConfig h).split stream).rest ++ [] := by
      rw [hwaiting.input, List.append_nil]
    have hspurious := runReadCallback_framed h hframed.sameConn hframed.reported hgood hbev
      hwaiting.readcb hwaiting.enabled hinput
    cases arrival with
    | spurious => simpa [ConnRun.deliver, ConnRun.runReadCallback, hopen, Arrival.toBytes] using hspurious
    | bytes chunks =>
      by_cases hchunks : chunks.flatten = []
      · -- Nothing arrives; a callback that was still pending is a spurious run.
        have hnone : run.event (.socketRead chunks) = some run := by
          simp [ConnRun.event, ConnectionBase.armed, hbev, hchunks]
        simp only [ConnRun.deliver, hnone, Option.bind_some, Arrival.toBytes, hchunks]
        cases hpending : bev.readPending with
        | true => simpa [ConnRun.event, ConnectionBase.armed, hopen, hbev, hpending,
            hwaiting.readcb] using hspurious
        | false => exact ⟨run, by simp [ConnRun.event, ConnectionBase.armed, hbev, hpending],
            by rwa [List.append_nil]⟩
      · have hsuspended : bev.readSuspended = false := by
          have hlt := length_lt_wantedLength hmore
          rw [← hwaiting.low, ← hwaiting.input] at hlt
          have hhigh := hwaiting.high
          rw [BufferEvent.readSuspended, EvBuffer.getLength, decide_eq_false_iff_not]
          omega
        obtain ⟨arrived, hevent, hconn, hbev', hreported⟩ :=
          event_socketRead hframed.sameConn hframed.reported hgood hbev hwaiting.enabled hsuspended hchunks
        have hinput : (bev.arrive chunks).input.flatten =
            ((messageFramer conn.netConfig h).split stream).rest ++ chunks.flatten := by
          rw [← hwaiting.input]
          exact EvBuffer.flatten_add bev.input chunks
        simp only [ConnRun.deliver, hevent, Option.bind_some, Arrival.toBytes]
        exact event_readCallback h hconn hreported hgood hbev' hwaiting.readcb hwaiting.enabled hinput hwaiting.low
          hwaiting.high (bev.lt_of_arrive_not_pending hwaiting.readcb)

/-- Any sequence of arrivals processes exactly the stream it carries. -/
theorem foldlM_deliver_framed (arrivals : List Arrival) {stream : Bytes} {run : ConnRun}
    (hframed : Framed conn h stream run) :
    ∃ run', arrivals.foldlM ConnRun.deliver run = some run' ∧
      Framed conn h (stream ++ streamOf arrivals) run' := by
  induction arrivals generalizing stream run with
  | nil => exact ⟨run, rfl, by simpa [streamOf] using hframed⟩
  | cons arrival arrivals ih =>
    obtain ⟨next, hnext, hframed'⟩ := deliver_framed h hframed arrival
    obtain ⟨run', hrun', hdone⟩ := ih hframed'
    refine ⟨run', ?_, ?_⟩
    · rw [List.foldlM_cons, hnext]
      exact hrun'
    · rwa [streamOf, List.flatMap_cons, ← List.append_assoc]

/-- Nothing is decided about an empty stream, which wants a header. -/
theorem MessageMode.split_nil {config : CNetworkConfig} (h : MessageMode config) :
    (messageFramer config h).split [] = ⟨[], [], false⟩ ∧ wantedLength config [] = config.sizeNeeded.toNat := by
  have hneeded := h.sizeNeeded_eq
  have hoffset := h.offset
  have hshort : ([] : Bytes).length < config.sizeNeeded.toNat := by
    rw [List.length_nil]
    omega
  exact ⟨(messageFramer config h).split_of_more (if_pos hshort), if_pos hshort⟩

/-- The limit on messages leaves room for a header. -/
theorem MessageMode.header_le {config : CNetworkConfig} (h : MessageMode config) :
    config.messageMaxSize.toNat = 0 ∨ config.sizeNeeded.toNat ≤ config.messageMaxSize.toNat := by
  have hneeded := h.sizeNeeded_eq
  rcases h.maxSize with hzero | hle
  · exact Or.inl (by rw [hzero]; rfl)
  · exact Or.inr (by omega)

/-- A connection just established has reported nothing. -/
theorem established_reported (base : ConnectionBase) (bev : BufferEvent) (h : MessageMode base.conn.netConfig) :
    Reported ((messageFramer base.conn.netConfig h).split []) (ConnRun.established base bev) := by
  rw [h.split_nil.1]
  refine ⟨rfl, ?_, rfl, ?_⟩ <;> simp [ConnRun.established]

/-- A connection established on an empty input buffer waits for the first header. -/
theorem established_framed (base : ConnectionBase) (bev : BufferEvent)
    (h : MessageMode base.conn.netConfig) (hempty : bev.input.flatten = []) :
    Framed base.conn h [] (ConnRun.established base bev) := by
  have hbev := congrArg ConnectionBase.bev (ConnRun.established_base base bev h.chunk h.header)
  obtain ⟨hsplit, hwanted⟩ := h.split_nil
  refine ⟨rfl, established_reported base bev h, fun _ => ⟨_, hbev, rfl, rfl, ?_, ?_, ?_⟩⟩
  · rw [hsplit]
    exact hempty
  · rw [hsplit, hwanted]
    exact h.sizeT_sizeNeeded
  · rw [h.sizeT_sizeNeeded]
    exact h.header_le

end Run

/-- Message framing does not depend on how the stream is cut: the messages delivered are the greedy
split of the stream, every total is the sum of its messages, and the connection is reported as
malformed once, last of all, exactly when the split ends in a rejected frame. -/
theorem messageFraming_any_cut (base : ConnectionBase) (bev : BufferEvent)
    (h : MessageMode base.conn.netConfig) (hempty : bev.input.flatten = [])
    (arrivals : List Arrival) :
    ∃ run, arrivals.foldlM ConnRun.deliver (ConnRun.established base bev) = some run ∧
      receivedMessages run.log =
        ((messageFramer base.conn.netConfig h).split (streamOf arrivals)).frames ∧
      (∀ msgs totalsize, .onReceiveMessages msgs totalsize ∈ run.log →
        totalsize = (msgs.map List.length).sum) ∧
      (if ((messageFramer base.conn.netConfig h).split (streamOf arrivals)).bad then
        ∃ before, run.log = before ++ [.onMalformedMessage, .disconnectInt] ∧
          .onMalformedMessage ∉ before
      else .onMalformedMessage ∉ run.log) := by
  obtain ⟨run, hrun, hframed⟩ :=
    foldlM_deliver_framed h arrivals (established_framed base bev h hempty)
  rw [List.nil_append] at hframed
  obtain ⟨hreceived, htotals, -, hmalformed⟩ := hframed.reported
  exact ⟨run, hrun, hreceived, htotals, hmalformed⟩

/-- The test program's configuration selects message mode. -/
theorem mainnetConfig_messageMode : MessageMode mainnetConfig where
  offset := by decide
  width := rfl
  start := by decide
  chunk := by decide
  header := by decide
  maxSize := Or.inr (by decide)

/-- Two frames of 25 and 24 bytes arrive in three pieces, with a spurious run in between. -/
theorem messageFraming_two_frames :
    ∃ run,
      [.bytes [[0xf9, 0xbe, 0xb4, 0xd9] ++ List.replicate 12 7], .spurious,
        .bytes [[1, 0], [0, 0] ++ List.replicate 5 9 ++ [0xf9, 0xbe, 0xb4, 0xd9] ++ List.replicate 12 7],
        .bytes [List.replicate 8 0]].foldlM ConnRun.deliver
        (ConnRun.established (.new mainnetConnection 0 0 0) .socketNew) = some run ∧
      receivedMessages run.log =
        [[0xf9, 0xbe, 0xb4, 0xd9] ++ List.replicate 12 7 ++ [1, 0, 0, 0] ++ List.replicate 5 9,
          [0xf9, 0xbe, 0xb4, 0xd9] ++ List.replicate 12 7 ++ List.replicate 8 0] ∧
      .onMalformedMessage ∉ run.log := by
  obtain ⟨run, hrun, hreceived, -, hmalformed⟩ :=
    messageFraming_any_cut (.new mainnetConnection 0 0 0) .socketNew mainnetConfig_messageMode rfl
      [.bytes [[0xf9, 0xbe, 0xb4, 0xd9] ++ List.replicate 12 7], .spurious,
        .bytes [[1, 0], [0, 0] ++ List.replicate 5 9 ++ [0xf9, 0xbe, 0xb4, 0xd9] ++ List.replicate 12 7],
        .bytes [List.replicate 8 0]]
  refine ⟨run, hrun, hreceived.trans (by decide +kernel), ?_⟩
  rwa [if_neg (by decide +kernel)] at hmalformed

end LibBtcNet
