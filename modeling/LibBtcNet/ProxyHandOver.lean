import LibBtcNet.MessageFraming
import LibBtcNet.ProxyAcceptance

/-!
# From the proxy to the messages

A proxied connection in message mode: the handshake reads the replies of the proxy, and
hands its bufferevent over to the connection together with what it has read behind the
final reply. The connection installs its own read callback and watermarks on that
buffer, and the callback is dispatched by the next bytes that arrive. Bytes of the
stream that came with the final reply therefore wait for a read behind them, and for
ever if they already fill the buffer up to the limit on messages.
-/

namespace LibBtcNet

open StreamFraming

/-- A proxied connection: the handshake is on, or has handed over to the connection. -/
inductive HandOver where
  | proxying (run : ProxyRun)
  | connected (run : ConnRun)
deriving DecidableEq, Repr

namespace HandOver

/-- `OnProxySuccess`: the connection is established on the bufferevent handed over. -/
def afterProxy (base : ConnectionBase) (run : ProxyRun) : HandOver :=
  match outcomes run.log with
  | .proxySuccess bev _ :: _ => .connected (.established base bev)
  | _ => .proxying run

/-- One read, and the callbacks it makes due. -/
def deliver (names : NameInfo) (base : ConnectionBase) : HandOver → List Bytes → Option HandOver
  | .proxying run, chunks => (run.deliver names chunks).map (afterProxy base)
  | .connected run, chunks => (run.deliver (.bytes chunks)).map .connected

/-- The messages passed to `OnReceiveMessages`. -/
def received : HandOver → List Bytes
  | .proxying _ => []
  | .connected run => receivedMessages run.log

end HandOver

/-- The replies before the final one, each in a read of its own: the next one answers a request. -/
def Transcript.greetingReads {auth : CProxyAuth} (t : Transcript auth) : List (List Bytes) :=
  if t.credentials then [[[0x05, 0x02]], [[0x01, 0x00]]] else [[[0x05, 0x00]]]

/-- What comes behind the first `count` bytes: the end of the read that brings the last of them, and
the reads after it. -/
def readsBehind (count : ℕ) : List (List Bytes) → Bytes × List (List Bytes)
  | [] => ([], [])
  | read :: reads =>
    if count ≤ read.flatten.length then (read.flatten.drop count, reads)
    else readsBehind (count - read.flatten.length) reads

/-- A later read wakes the reader of messages up: it brings bytes, and the bytes left by the handshake
do not suspend reading. -/
def Woken (config : CNetworkConfig) (behind : Bytes × List (List Bytes)) : Prop :=
  behind.2.flatten.flatten ≠ [] ∧ (config.messageMaxSize = 0 ∨ behind.1.length < config.messageMaxSize.toNat)

/-- The bytes behind the first ones are divided at the end of a read. -/
theorem readsBehind_flatten {count : ℕ} {reads : List (List Bytes)} (hcount : count ≤ reads.flatten.flatten.length) :
    (readsBehind count reads).1 ++ (readsBehind count reads).2.flatten.flatten =
      reads.flatten.flatten.drop count := by
  induction reads generalizing count with
  | nil => simp [readsBehind]
  | cons read reads ih =>
    rw [List.flatten_cons, List.flatten_append, List.length_append] at hcount
    rw [readsBehind, List.flatten_cons, List.flatten_append]
    split
    · next hle => rw [List.drop_append_of_le_length hle]
    · next hlt =>
      have hgone : read.flatten.drop count = [] := List.drop_eq_nil_of_le (by omega)
      rw [ih (by omega), List.drop_append, hgone, List.nil_append]

/-- Reads that bring less than the first bytes are passed over. -/
theorem readsBehind_append {before : List (List Bytes)} {count : ℕ} (hpos : 0 < count)
    (reads : List (List Bytes)) :
    readsBehind (before.flatten.flatten.length + count) (before ++ reads) = readsBehind count reads := by
  induction before with
  | nil => rw [List.nil_append, List.flatten_nil, List.flatten_nil, List.length_nil, Nat.zero_add]
  | cons read before ih =>
    rw [List.cons_append, readsBehind, List.flatten_cons, List.flatten_append, List.length_append,
      if_neg (by omega), ← ih]
    congr 1
    omega

/-- The replies before the final one are the greeting of the transcript. -/
theorem Transcript.flatten_greetingReads {auth : CProxyAuth} (t : Transcript auth) :
    t.greetingReads.flatten.flatten = t.greeting := by
  rw [greetingReads, greeting]
  split <;> rfl

section Proxying

variable {names : NameInfo} {base : ConnectionBase} {t : Transcript base.conn.proxy.auth}

/-- A handshake that reported nothing is still on. -/
theorem Handshake.open_of_outcomes {conn : CConnection} {run : ProxyRun} (h : Handshake names conn False run)
    (hnone : outcomes run.log = []) : run.proxy.bev.isSome = true := by
  cases h with
  | methodReply | authReply | finalReply => rfl
  | failed | succeeded =>
    rw [outcomes_append, outcomes_map_write] at hnone
    exact absurd hnone (List.cons_ne_nil _ _)

/-- The handshake takes the reads up to the one that completes the transcript, and leaves the end of
that read and the reads after it to the connection. -/
theorem foldlM_deliver_proxying (hunderstood : t.Understood) {request : Bytes}
    (hrequest : writeproto names base.conn = .written request) (reads : List (List Bytes)) {run : ProxyRun}
    {count : ℕ} {stream : Bytes} (h : Handshake names base.conn False run)
    (hopen : run.proxy.bev.isSome = true) (hcount : run.received.length + count = t.toBytes.length)
    (hpos : 0 < count) (hreads : run.received ++ reads.flatten.flatten = t.toBytes ++ stream) :
    ∃ handed : BufferEvent, handed.input.flatten = (readsBehind count reads).1 ∧ handed.readPending = false ∧
      reads.foldlM (HandOver.deliver names base) (.proxying run) =
        (readsBehind count reads).2.foldlM (HandOver.deliver names base) (.connected (.established base handed)) := by
  -- Induction on the reads, as long as the transcript is not complete.
  induction reads generalizing run count with
  | nil =>
    have hlength := congrArg List.length hreads
    rw [List.flatten_nil, List.flatten_nil, List.append_nil, List.length_append] at hlength
    omega
  | cons read reads ih =>
    rw [List.flatten_cons, List.flatten_append, ← List.append_assoc] at hreads
    have hlater : run.received ++ read.flatten <+: t.toBytes ++ stream := ⟨_, hreads⟩
    rcases h.deliver read with ⟨next, hnext, hnext', hsettled, hreceived⟩ | ⟨-, haborted, -⟩
    swap
    · simp [hrequest] at haborted
    rw [if_pos hopen] at hreceived
    have haccepted := hunderstood.acceptedOnTime hrequest hnext' hsettled List.prefix_rfl (hreceived ▸ hlater)
      fun _ => rfl
    have hdeliver : HandOver.deliver names base (.proxying run) read = some (HandOver.afterProxy base next) := by
      rw [HandOver.deliver, hnext, Option.map_some]
    have hlength : next.received.length = run.received.length + read.flatten.length := by
      rw [hreceived, List.length_append]
    rw [AcceptedOnTime] at haccepted
    rw [List.foldlM_cons, hdeliver, readsBehind]
    split at haccepted
    · -- The transcript is complete, and the connection is established on what came with its end.
      next hcomplete =>
      obtain ⟨handed, resolved, hout, hhanded⟩ := haccepted
      rw [if_pos (by omega), HandOver.afterProxy, hout]
      obtain ⟨_, _, _, _, -, -, -, -, -, -, -, hpending⟩ := hnext'.of_success hout
      refine ⟨handed, ?_, hpending, rfl⟩
      change handed.input.flatten = read.flatten.drop count
      have hdrop : (t.toBytes ++ handed.input.flatten).drop (run.received.length + count) =
          (run.received ++ read.flatten).drop (run.received.length + count) := by
        rw [← hhanded, hreceived]
      rwa [hcount, List.drop_left, ← hcount, List.drop_append, List.drop_eq_nil_of_le (by omega), List.nil_append,
        Nat.add_sub_cancel_left] at hdrop
    · next hshort =>
      rw [if_neg (by omega), HandOver.afterProxy, haccepted]
      exact ih hnext' (hnext'.open_of_outcomes haccepted) (by omega) (by omega) (hreceived ▸ hreads)

end Proxying

/-- Once connected, reads are arrivals. -/
theorem foldlM_deliver_connected (names : NameInfo) (base : ConnectionBase) (reads : List (List Bytes))
    (run : ConnRun) :
    reads.foldlM (HandOver.deliver names base) (.connected run) =
      ((reads.map Arrival.bytes).foldlM ConnRun.deliver run).map .connected := by
  induction reads generalizing run with
  | nil => rfl
  | cons read reads ih =>
    rw [List.foldlM_cons, List.map_cons, List.foldlM_cons, HandOver.deliver]
    cases run.deliver (.bytes read) with
    | none => rfl
    | some next => exact ih next

/-- The reads of the stream are its arrivals. -/
theorem streamOf_map_bytes (reads : List (List Bytes)) : streamOf (reads.map .bytes) = reads.flatten.flatten := by
  rw [streamOf, List.flatMap_map, List.flatten_flatten]
  rfl

section Connected

variable {conn : CConnection} {run : ConnRun} {bev : BufferEvent}

/-- A read that brings nothing, or comes while reading is suspended, wakes nobody up. -/
theorem deliver_idle (hbev : run.base.bev = some bev) (hpending : bev.readPending = false) {read : List Bytes}
    (hidle : read.flatten = [] ∨ bev.readSuspended = true) : run.deliver (.bytes read) = some run := by
  have hread : run.event (.socketRead read) = some run := by
    refine ConnRun.event_of_not_armed (Or.inr ?_)
    rcases hidle with hnil | hsuspended
    · simp [ConnectionBase.armed, hbev, hnil]
    · simp [ConnectionBase.armed, hbev, hsuspended]
  rw [ConnRun.deliver, hread, Option.bind_some]
  exact ConnRun.event_of_not_armed (Or.inr (by simp [ConnectionBase.armed, hbev, hpending]))

/-- Nor does any number of such reads. -/
theorem foldlM_deliver_idle (hbev : run.base.bev = some bev) (hpending : bev.readPending = false)
    (reads : List (List Bytes)) (hidle : reads.flatten.flatten = [] ∨ bev.readSuspended = true) :
    (reads.map Arrival.bytes).foldlM ConnRun.deliver run = some run := by
  induction reads with
  | nil => rfl
  | cons read reads ih =>
    rw [List.flatten_cons, List.flatten_append, List.append_eq_nil_iff] at hidle
    rw [List.map_cons, List.foldlM_cons, deliver_idle hbev hpending (hidle.imp_left (·.1))]
    exact ih (hidle.imp_left (·.2))

/-- Reads that bring bytes wake up a reader that waits for the first header, and what was buffered
before is read with them. -/
theorem foldlM_deliver_woken (h : MessageMode conn.netConfig) (hconn : run.base.conn = conn)
    (hreported : Reported ((messageFramer conn.netConfig h).split []) run) (hbev : run.base.bev = some bev)
    (hpending : bev.readPending = false) (hcb : bev.readcb = some .readCbMessage)
    (henabled : bev.readEnabled = true) (hsuspended : bev.readSuspended = false)
    (hlow : bev.readLow = conn.netConfig.sizeNeeded.toNat)
    (hhigh : bev.readHigh = 0 ∨ bev.readLow ≤ bev.readHigh) (reads : List (List Bytes))
    (hreads : reads.flatten.flatten ≠ []) :
    ∃ run', (reads.map Arrival.bytes).foldlM ConnRun.deliver run = some run' ∧
      Framed conn h (bev.input.flatten ++ reads.flatten.flatten) run' := by
  obtain ⟨hsplit, hwanted⟩ := h.split_nil
  induction reads with
  | nil => exact absurd rfl hreads
  | cons read reads ih =>
    rw [List.flatten_cons, List.flatten_append] at hreads ⊢
    rw [List.map_cons, List.foldlM_cons]
    by_cases hread : read.flatten = []
    · rw [hread, List.nil_append] at hreads ⊢
      rw [deliver_idle hbev hpending (Or.inl hread)]
      exact ih hreads
    · have hgood : ((messageFramer conn.netConfig h).split []).bad = false := by rw [hsplit]
      obtain ⟨arrived, hevent, hconn', hbev', hreported'⟩ :=
        event_socketRead hconn hreported hgood hbev henabled hsuspended hread
      have hinput : (bev.arrive read).input.flatten =
          ((messageFramer conn.netConfig h).split []).rest ++ (bev.input.flatten ++ read.flatten) := by
        rw [hsplit, List.nil_append]
        exact EvBuffer.flatten_add bev.input read
      obtain ⟨next, hnext, hframed⟩ := event_readCallback h hconn' hreported' hgood hbev' hcb henabled hinput
        (by rw [hsplit, hwanted]; exact hlow) hhigh (bev.lt_of_arrive_not_pending hcb)
      obtain ⟨last, hlast, hframed'⟩ := foldlM_deliver_framed h (reads.map .bytes) hframed
      refine ⟨last, ?_, ?_⟩
      · rw [ConnRun.deliver, hevent, Option.bind_some, hnext]
        exact hlast
      · rwa [List.nil_append, streamOf_map_bytes, List.append_assoc] at hframed'

end Connected

/-- What the connection receives of a stream whose first bytes it found in its buffer. -/
theorem received_of_handed (base : ConnectionBase) (h : MessageMode base.conn.netConfig) {handed : BufferEvent}
    (hpending : handed.readPending = false) {behind : Bytes × List (List Bytes)}
    (hhanded : handed.input.flatten = behind.1) :
    ∃ run, (behind.2.map Arrival.bytes).foldlM ConnRun.deliver (.established base handed) = some run ∧
      (Woken base.conn.netConfig behind → receivedMessages run.log =
        ((messageFramer base.conn.netConfig h).split (behind.1 ++ behind.2.flatten.flatten)).frames) ∧
      (¬Woken base.conn.netConfig behind → receivedMessages run.log = []) := by
  have hbase := ConnRun.established_base base handed h.chunk h.header
  obtain ⟨bev, hbev, hinput, hpending', hreadcb, henabled, hlow, hhigh⟩ :
      ∃ bev, (ConnRun.established base handed).base.bev = some bev ∧ bev.input.flatten = behind.1 ∧
        bev.readPending = false ∧ bev.readcb = some .readCbMessage ∧ bev.readEnabled = true ∧
        bev.readLow = base.conn.netConfig.sizeNeeded.toNat ∧
        bev.readHigh = base.conn.netConfig.messageMaxSize.toNat :=
    ⟨_, congrArg ConnectionBase.bev hbase, hhanded, hpending, rfl, rfl, h.sizeT_sizeNeeded, rfl⟩
  have hsuspended : bev.readSuspended = true ↔
      ¬(base.conn.netConfig.messageMaxSize = 0 ∨ behind.1.length < base.conn.netConfig.messageMaxSize.toNat) := by
    rw [BufferEvent.readSuspended, decide_eq_true_iff, hhigh, EvBuffer.getLength, hinput, not_or, Nat.not_lt,
      ne_eq, ← UInt32.toNat_inj]
    rfl
  by_cases hwoken : Woken base.conn.netConfig behind
  · have hreading : bev.readSuspended = false := by
      rw [← Bool.not_eq_true, hsuspended, not_not]
      exact hwoken.2
    obtain ⟨run, hrun, hframed⟩ := foldlM_deliver_woken h rfl (established_reported base handed h) hbev hpending'
      hreadcb henabled hreading hlow (by rw [hlow, hhigh]; exact h.header_le) behind.2 hwoken.1
    rw [hinput] at hframed
    exact ⟨run, hrun, fun _ => hframed.reported.received, fun hnot => absurd hwoken hnot⟩
  · have hidle : behind.2.flatten.flatten = [] ∨ bev.readSuspended = true := by
      rw [hsuspended]
      by_contra hboth
      rw [not_or, not_not] at hboth
      exact hwoken hboth
    exact ⟨_, foldlM_deliver_idle hbev hpending' behind.2 hidle, fun hnot => absurd hnot hwoken, fun _ => rfl⟩

/-- A stream sent behind the final reply of a proxy is received as on a direct connection if and only
if it has no complete message, or a read behind the one that completes the reply wakes the connection up. -/
theorem handOver_received_iff (names : NameInfo) (base : ConnectionBase) (bev : BufferEvent)
    (h : MessageMode base.conn.netConfig) (hset : base.conn.proxy.isSet = true) (hempty : bev.input.flatten = [])
    (hrequest : ∃ request, writeproto names base.conn = .written request)
    (t : Transcript base.conn.proxy.auth) (hunderstood : t.Understood) (reads : List (List Bytes)) (stream : Bytes)
    (hreads : reads.flatten.flatten = t.reply.toBytes ++ stream) :
    ∃ start run, ProxyRun.begin base.conn bev = some start ∧
      (t.greetingReads ++ reads).foldlM (HandOver.deliver names base) (.proxying start) = some run ∧
      (run.received = ((messageFramer base.conn.netConfig h).split stream).frames ↔
        ((messageFramer base.conn.netConfig h).split stream).frames = [] ∨
          Woken base.conn.netConfig (readsBehind t.reply.toBytes.length reads)) := by
  obtain ⟨request, hrequest⟩ := hrequest
  obtain ⟨start, hstart, hstart', hreceived, -, hopen⟩ := begin_handshake names False hset hempty
  have hlen := (t.reply.understood_iff.mp hunderstood.2).1
  have hlength := t.length_toBytes
  have hall : start.received ++ (t.greetingReads ++ reads).flatten.flatten = t.toBytes ++ stream := by
    rw [hreceived, List.nil_append, List.flatten_append, List.flatten_append, t.flatten_greetingReads, hreads,
      Transcript.toBytes, List.append_assoc]
  have hcount : start.received.length + (t.greetingReads.flatten.flatten.length + t.reply.toBytes.length) =
      t.toBytes.length := by
    rw [hreceived, t.flatten_greetingReads, hlength, List.length_nil, Nat.zero_add]
  obtain ⟨handed, hhanded, hpending, hproxy⟩ := foldlM_deliver_proxying hunderstood hrequest
    (t.greetingReads ++ reads) hstart' hopen hcount (by omega) hall
  rw [readsBehind_append (by omega)] at hhanded hproxy
  obtain ⟨run, hrun, hwoken, hidle⟩ := received_of_handed base h hpending hhanded
  rw [readsBehind_flatten (by rw [hreads, List.length_append]; omega), hreads, List.drop_left] at hwoken
  refine ⟨start, .connected run, hstart, ?_, ?_⟩
  · rw [hproxy, foldlM_deliver_connected, hrun]
    rfl
  · by_cases hcase : Woken base.conn.netConfig (readsBehind t.reply.toBytes.length reads)
    · exact ⟨fun _ => Or.inr hcase, fun _ => hwoken hcase⟩
    · refine ⟨fun hsame => Or.inl (hsame.symm.trans (hidle hcase)), fun hnone => ?_⟩
      exact (hidle hcase).trans (hnone.resolve_right hcase).symm

/-- A message of the test program's network with an empty payload. -/
def emptyMessage : Bytes := [0xf9, 0xbe, 0xb4, 0xd9] ++ List.replicate 20 0

/-- A message that arrives with the end of the reply is received when its last bytes come later. -/
theorem handOver_received_later :
    ∃ start run, ProxyRun.begin proxiedConnection .socketNew = some start ∧
      [[[0x05, 0x00]], [[0x05, 0x00, 0x00], [0x01, 127, 0]], [[0, 1, 0x20, 0x8d], emptyMessage.take 10],
        [emptyMessage.drop 10]].foldlM (HandOver.deliver noNames (.new proxiedConnection 0 0 0)) (.proxying start) =
          some run ∧
      run.received = [emptyMessage] := by
  obtain ⟨start, run, hstart, hrun, hreceived⟩ := handOver_received_iff noNames (.new proxiedConnection 0 0 0)
    .socketNew mainnetConfig_messageMode rfl rfl ⟨_, rfl⟩ ipv4Transcript ⟨nofun, trivial⟩
    [[[0x05, 0x00, 0x00], [0x01, 127, 0]], [[0, 1, 0x20, 0x8d], emptyMessage.take 10], [emptyMessage.drop 10]]
    emptyMessage (by decide)
  refine ⟨start, run, hstart, hrun, (hreceived.mpr (Or.inr ⟨by decide, Or.inr (by decide)⟩)).trans
    (by decide +kernel)⟩

/-- A message that arrives in the read of the reply is not received. -/
theorem handOver_received_failing :
    ¬∀ (reads : List (List Bytes)) (stream : Bytes),
      reads.flatten.flatten = ipv4Transcript.reply.toBytes ++ stream →
      ∃ start run, ProxyRun.begin proxiedConnection .socketNew = some start ∧
        (ipv4Transcript.greetingReads ++ reads).foldlM (HandOver.deliver noNames (.new proxiedConnection 0 0 0))
          (.proxying start) = some run ∧
        run.received = ((messageFramer mainnetConfig mainnetConfig_messageMode).split stream).frames := by
  intro hsame
  obtain ⟨start, run, hstart, hrun, hreceived⟩ :=
    hsame [[ipv4Transcript.reply.toBytes ++ emptyMessage]] emptyMessage (by decide)
  have hnone : ((ProxyRun.begin proxiedConnection .socketNew).bind fun start =>
      (ipv4Transcript.greetingReads ++ [[ipv4Transcript.reply.toBytes ++ emptyMessage]]).foldlM
        (HandOver.deliver noNames (.new proxiedConnection 0 0 0)) (.proxying start)).map HandOver.received =
          some [] := by
    decide +kernel
  rw [hstart, Option.bind_some, hrun, Option.map_some, Option.some.injEq, hreceived] at hnone
  exact absurd hnone (by decide +kernel)

end LibBtcNet
