import LibBtcNet.BufferEvent
import LibBtcNet.Message

/-!
# The connection object

`ConnectionBase` with its bufferevent, its byte counters and its timer events. A method
that reports to the handler returns what it reports, in order, instead of calling it:
the handler's callbacks run user code, which may change the object between two reports.
`DisconnectInt` is one of these effects for the same reason. A result is absent when an
assertion fails, or when the framing loop never ends.

Only the pending state of a `CEvent` is kept. Rate limits are left out.
-/

namespace LibBtcNet

/-- What a method of the connection asks of libevent, of itself or of the handler. -/
inductive ConnEffect where
  | evbufferExpand (size : ℕ)
  | onReceiveMessages (msgs : List Bytes) (totalsize : ℕ)
  | onMalformedMessage
  | disconnectInt
  | onWriteBufferFull (bufsize : ℕ)
  | onWriteBufferReady (bufsize : ℕ)
  | onBytesRead (bytes totalBytes : ℕ)
  | onBytesWritten (bytes totalBytes : ℕ)
  | onPingTimeout
deriving DecidableEq, Repr

/-- `ConnectionBase`. -/
structure ConnectionBase where
  conn : CConnection
  id : ConnID
  bytesRead : ℕ
  bytesWritten : ℕ
  bev : Option BufferEvent
  readCbPtr : Option ReadCb
  reconnectFunc : Bool
  disconnectFunc : Bool
  disconnectWaitFunc : Bool
  checkWriteBufferFunc : Bool
  pingTimeoutFunc : Bool
  firstDataFunc : Bool
deriving DecidableEq, Repr

/-- The user's calls on an established connection. -/
inductive ConnCall where
  | disconnect
  | disconnectWhenFinished
  | write (size : ℕ)
  | pauseRecv
  | unpauseRecv
  | setRateLimit
  | resetPingTimeout (seconds : ℤ)
deriving DecidableEq, Repr

/-- What libevent brings to an established connection. -/
inductive ConnEvent where
  | socketRead (chunks : List Bytes)
  | socketWrite (size : ℕ)
  | socketEvent (what : BevEvents)
  | readCallback
  | writeCallback
  | eventCallback
  | disconnectFunc
  | disconnectWaitFunc
  | checkWriteBufferFunc
  | pingTimeoutFunc
  | firstDataFunc
deriving DecidableEq, Repr

/-- Where the loop of `read_cb_message` stops. -/
structure ReadLoop where
  input : EvBuffer
  msgs : List Bytes
  totalsize : ℕ
  msgsize : ℕ
  fTooBig : Bool
  fBadMsgStart : Bool
deriving DecidableEq, Repr

/-- The `do … while (fComplete)` loop of `read_cb_message`; without fuel it never ends. -/
def readLoop (config : CNetworkConfig) : ℕ → EvBuffer → List Bytes → ℕ → Option ReadLoop
  | 0, _, _, _ => none
  | fuel + 1, input, msgs, totalsize => do
    let r ← firstCompleteMessageSize config input
    if 0 < config.messageMaxSize.toNat ∧ config.messageMaxSize.toNat < r.size then
      let input := if r.fComplete then input.drain r.size else input
      some ⟨input, msgs, totalsize, r.size, true, r.fBadMsgStart⟩
    else if r.fBadMsgStart then some ⟨input, msgs, totalsize, r.size, false, true⟩
    else if r.size ≠ 0 ∧ r.fComplete then
      readLoop config fuel (input.drain r.size) (msgs ++ [input.copyout r.size]) (totalsize + r.size)
    else if r.fComplete then readLoop config fuel input msgs totalsize
    else some ⟨input, msgs, totalsize, r.size, false, false⟩

/-- The watermarks that `read_cb_message` sets after its loop. -/
def afterReadLoop (config : CNetworkConfig) (r : ReadLoop) (bev : BufferEvent) : BufferEvent :=
  let bev := { bev with input := r.input }
  if r.msgsize ≠ 0 ∧ !r.fBadMsgStart then
    bev.setReadWatermark r.msgsize (sizeT (r.msgsize + config.messageMaxSize.toNat))
  else if !r.fBadMsgStart ∧ !r.fTooBig then
    bev.setReadWatermark (sizeT config.sizeNeeded) config.messageMaxSize.toNat
  else bev

/-- The request of `read_cb_message` to grow the input buffer. -/
def expandRequest (config : CNetworkConfig) (r : ReadLoop) : List ConnEffect :=
  let needed := sizeT (r.msgsize + config.headerSize.toInt)
  if (r.msgsize ≠ 0 ∧ !r.fBadMsgStart) ∧ r.input.getLength < needed ∧ !r.fTooBig then
    [.evbufferExpand (needed - r.input.getLength)]
  else []

/-- What `read_cb_message` reports after its loop. -/
def readLoopReports (r : ReadLoop) : List ConnEffect :=
  (if r.totalsize ≠ 0 then [.onReceiveMessages r.msgs r.totalsize] else []) ++
    if r.fTooBig || r.fBadMsgStart then [.onMalformedMessage, .disconnectInt] else []

/-- `read_cb_message`. Every pass that goes on drains a byte, so one pass for each byte and a last
one are enough unless the loop never ends. -/
def readCbMessage (config : CNetworkConfig) (bev : BufferEvent) :
    Option (BufferEvent × List ConnEffect) :=
  (readLoop config (bev.input.getLength + 1) bev.input [] 0).map fun r =>
    (afterReadLoop config r bev, expandRequest config r ++ readLoopReports r)

/-- The loop of `read_cb_chunk`, which takes one chunk in each pass. -/
def chunkLoop (chunkSize : ℕ) : ℕ → EvBuffer → List Bytes → EvBuffer × List Bytes
  | 0, input, msgs => (input, msgs)
  | fuel + 1, input, msgs =>
    if chunkSize ≤ input.getLength then
      chunkLoop chunkSize fuel (input.drain chunkSize) (msgs ++ [input.copyout chunkSize])
    else (input, msgs)

/-- `read_cb_chunk`. -/
def readCbChunk (config : CNetworkConfig) (bev : BufferEvent) :
    Option (BufferEvent × List ConnEffect) :=
  if config.chunkSize.toInt ≤ 0 then none
  else
    let chunkSize := config.chunkSize.toInt.toNat
    let (input, msgs) := chunkLoop chunkSize bev.input.getLength bev.input []
    let received :=
      if msgs ≠ [] then [.onReceiveMessages msgs (msgs.length * chunkSize)] else []
    some ({ bev with input }, .evbufferExpand chunkSize :: received)

namespace ConnectionBase

/-- The constructor. The two counters are not initialised, so they are arguments. -/
def new (conn : CConnection) (id : ConnID) (bytesRead bytesWritten : ℕ) : ConnectionBase where
  conn := conn
  id := id
  bytesRead := bytesRead
  bytesWritten := bytesWritten
  bev := none
  readCbPtr := none
  reconnectFunc := false
  disconnectFunc := false
  disconnectWaitFunc := false
  checkWriteBufferFunc := false
  pingTimeoutFunc := false
  firstDataFunc := false

/-- `ResetPingTimeout`. -/
def resetPingTimeout (seconds : ℤ) (base : ConnectionBase) : ConnectionBase :=
  { base with pingTimeoutFunc := decide (seconds ≠ 0) }

/-- `PauseRecv` and `UnpauseRecv`, by the state they leave reading in. -/
def setRecv (on : Bool) (base : ConnectionBase) : Option ConnectionBase :=
  base.bev.map fun bev => { base with bev := some (bev.setReading on) }

/-- `Write` of `size` bytes. -/
def write (size : ℕ) (base : ConnectionBase) : Option ConnectionBase :=
  base.bev.map fun bev => { base with bev := some (bev.write size), checkWriteBufferFunc := true }

/-- The user's call, as the handler forwards it. -/
def call (base : ConnectionBase) : ConnCall → Option ConnectionBase
  | .disconnect => some { base with disconnectFunc := true }
  | .disconnectWhenFinished => some { base with disconnectWaitFunc := true }
  | .write size => base.write size
  | .pauseRecv => base.setRecv false
  | .unpauseRecv => base.setRecv true
  | .setRateLimit => if base.bev.isSome then some base else none
  | .resetPingTimeout seconds => some (base.resetPingTimeout seconds)

/-- `Enable`. -/
def enable (base : ConnectionBase) : ConnectionBase :=
  { base with bev := base.bev.map (·.setReadingWriting true), firstDataFunc := true }

/-- `Retry`. -/
def retry (newId : ConnID) (base : ConnectionBase) : ConnectionBase :=
  { base with bev := none, bytesRead := 0, bytesWritten := 0, id := newId, reconnectFunc := true }

/-- `InitConnection` on the bufferevent just moved into the connection. -/
def initConnection (bev : BufferEvent) (base : ConnectionBase) : ConnectionBase :=
  let opts := base.conn.opts
  let config := base.conn.netConfig
  let bev := (bev.setReadingWriting false).setTimeouts opts.nInitialTimeout opts.nInitialTimeout
  let (readCbPtr, minRead, maxRead) : Option ReadCb × ℕ × ℕ :=
    if 0 < config.chunkSize.toInt then (some .readCbChunk, sizeT config.chunkSize.toInt, 0)
    else if 0 < config.headerSize.toInt then
      (some .readCbMessage, sizeT config.sizeNeeded, config.messageMaxSize.toNat)
    else (none, 0, 0)
  let bev := (bev.setReadWatermark minRead maxRead).setWriteWatermark (sizeT opts.nMaxSendBuffer)
  { base with
    bev := some (bev.setcb readCbPtr none (some .eventCb))
    readCbPtr := readCbPtr
    firstDataFunc := false }

/-- `DisconnectInt` up to its call of the handler. -/
def disconnectInt (base : ConnectionBase) : ConnectionBase :=
  { base with
    disconnectFunc := false
    reconnectFunc := false
    disconnectWaitFunc := false
    checkWriteBufferFunc := false
    pingTimeoutFunc := false
    firstDataFunc := false
    bev := base.bev.map fun bev => (bev.setReadingWriting false).setcb none none none }

/-- `DisconnectWhenFinishedInt`. -/
def disconnectWhenFinishedInt (base : ConnectionBase) : Option (ConnectionBase × List ConnEffect) :=
  base.bev.map fun bev =>
    if bev.output ≠ 0 then
      let bev := ((bev.setReading false).setWriteWatermark 0).setcb none
        (some .closeOnFinishedWritecb) (some .eventCb)
      ({ base with bev := some bev }, [])
    else
      let bev := (bev.setReadingWriting false).setcb none none none
      ({ base with bev := some bev }, [.disconnectInt])

/-- `CheckWriteBufferInt`. -/
def checkWriteBufferInt (base : ConnectionBase) : Option (ConnectionBase × List ConnEffect) :=
  base.bev.map fun bev =>
    if base.conn.opts.nMaxSendBuffer ≤ sizeToInt bev.output then
      let full := bev.setcb base.readCbPtr (some .writeCb) (some .eventCb)
      ({ base with bev := some full }, [.onWriteBufferFull bev.output])
    else (base, [])

/-- `FirstDataInt`. -/
def firstDataInt (base : ConnectionBase) : Option ConnectionBase :=
  base.bev.map fun bev =>
    let opts := base.conn.opts
    { base with bev := some (bev.setTimeouts opts.nRecvTimeout opts.nSendTimeout) }

/-- `read_data`: the counter is an `unsigned long`. -/
def readData (nAdded : ℕ) (base : ConnectionBase) : ConnectionBase × List ConnEffect :=
  if nAdded ≠ 0 then
    let total := (base.bytesRead + nAdded) % 2 ^ 64
    ({ base with bytesRead := total }, [.onBytesRead nAdded total])
  else (base, [])

/-- `wrote_data`. -/
def wroteData (nDeleted : ℕ) (base : ConnectionBase) : ConnectionBase × List ConnEffect :=
  if nDeleted ≠ 0 then
    let total := (base.bytesWritten + nDeleted) % 2 ^ 64
    ({ base with bytesWritten := total }, [.onBytesWritten nDeleted total])
  else (base, [])

/-- Run the installed read callback. -/
def runReadcb (bev : BufferEvent) (base : ConnectionBase) : Option (ConnectionBase × List ConnEffect) :=
  match bev.readcb with
  | some .readCbMessage => (readCbMessage base.conn.netConfig bev).map fun r =>
      ({ base with bev := some r.1 }, r.2)
  | some .readCbChunk => (readCbChunk base.conn.netConfig bev).map fun r =>
      ({ base with bev := some r.1 }, r.2)
  | _ => some ({ base with bev := some bev }, [])

/-- Run the installed write callback: `write_cb` or `close_on_finished_writecb`. -/
def runWritecb (bev : BufferEvent) (base : ConnectionBase) : ConnectionBase × List ConnEffect :=
  match bev.writecb with
  | some .writeCb =>
    let ready := bev.setcb base.readCbPtr none (some .eventCb)
    ({ base with bev := some ready }, [.onWriteBufferReady bev.output])
  | some .closeOnFinishedWritecb => ({ base with bev := some bev }, [.disconnectInt])
  | none => ({ base with bev := some bev }, [])

/-- Run `event_cb`, if it is installed. -/
def runEventcb (bev : BufferEvent) (what : BevEvents) (base : ConnectionBase) :
    ConnectionBase × List ConnEffect :=
  if bev.eventcb = some .eventCb ∧ (what.timeout || what.eof || what.error) then
    ({ base with bev := some bev }, [.disconnectInt])
  else ({ base with bev := some bev }, [])

/-- Whether libevent can bring this event: the timer is pending, the callback is pending and
installed, or the socket is enabled for what happens on it. -/
def armed (base : ConnectionBase) (event : ConnEvent) : Bool :=
  match base.bev, event with
  | _, .disconnectFunc => base.disconnectFunc
  | _, .disconnectWaitFunc => base.disconnectWaitFunc
  | _, .checkWriteBufferFunc => base.checkWriteBufferFunc
  | _, .pingTimeoutFunc => base.pingTimeoutFunc
  | _, .firstDataFunc => base.firstDataFunc
  | none, _ => false
  | some bev, .socketRead chunks =>
    bev.readEnabled && !bev.readSuspended && decide (chunks.flatten ≠ [])
  | some bev, .socketWrite size => bev.writeEnabled && decide (0 < size ∧ size ≤ bev.output)
  | some bev, .socketEvent _ => bev.eventcb.isSome
  | some bev, .readCallback => bev.readPending && bev.readcb.isSome
  | some bev, .writeCallback => bev.writePending && bev.writecb.isSome
  | some bev, .eventCallback => decide (bev.eventPending ≠ .none) && bev.eventcb.isSome

/-- What the connection does when libevent brings an event. -/
def react (base : ConnectionBase) (event : ConnEvent) : Option (ConnectionBase × List ConnEffect) :=
  match event, base.bev with
  | .disconnectFunc, _ => some ({ base with disconnectFunc := false }, [.disconnectInt])
  | .disconnectWaitFunc, _ => { base with disconnectWaitFunc := false }.disconnectWhenFinishedInt
  | .checkWriteBufferFunc, _ => { base with checkWriteBufferFunc := false }.checkWriteBufferInt
  | .pingTimeoutFunc, _ => some ({ base with pingTimeoutFunc := false }, [.onPingTimeout])
  | .firstDataFunc, _ => ({ base with firstDataFunc := false }.firstDataInt).map (·, [])
  | _, none => none
  | .socketRead chunks, some bev =>
    some ({ base with bev := some (bev.arrive chunks) }.readData chunks.flatten.length)
  | .socketWrite size, some bev => some ({ base with bev := some (bev.drained size) }.wroteData size)
  | .socketEvent what, some bev => some ({ base with bev := some (bev.raise what) }, [])
  | .readCallback, some bev => base.runReadcb { bev with readPending := false }
  | .writeCallback, some bev => some (base.runWritecb { bev with writePending := false })
  | .eventCallback, some bev =>
    some (base.runEventcb { bev with eventPending := .none } bev.eventPending)

/-- What a call does, one constructor for each way a method can go. -/
inductive Calls (base : ConnectionBase) : ConnCall → ConnectionBase → Prop
  | disconnect : Calls base .disconnect { base with disconnectFunc := true }
  | disconnectWhenFinished : Calls base .disconnectWhenFinished { base with disconnectWaitFunc := true }
  | write {bev : BufferEvent} (size : ℕ) (hbev : base.bev = some bev) :
    Calls base (.write size) { base with bev := some (bev.write size), checkWriteBufferFunc := true }
  | pauseRecv {bev : BufferEvent} (hbev : base.bev = some bev) :
    Calls base .pauseRecv { base with bev := some (bev.setReading false) }
  | unpauseRecv {bev : BufferEvent} (hbev : base.bev = some bev) :
    Calls base .unpauseRecv { base with bev := some (bev.setReading true) }
  | setRateLimit (hbev : base.bev.isSome = true) : Calls base .setRateLimit base
  | resetPingTimeout (seconds : ℤ) : Calls base (.resetPingTimeout seconds) (base.resetPingTimeout seconds)

/-- A call does one of these. -/
theorem calls_of_call {base base' : ConnectionBase} {c : ConnCall} (hcall : base.call c = some base') :
    base.Calls c base' := by
  cases c with
  | disconnect =>
    obtain rfl := Option.some.inj hcall
    exact .disconnect
  | disconnectWhenFinished =>
    obtain rfl := Option.some.inj hcall
    exact .disconnectWhenFinished
  | write size =>
    obtain ⟨bev, hbev, rfl⟩ := Option.map_eq_some_iff.mp hcall
    exact .write size hbev
  | pauseRecv =>
    obtain ⟨bev, hbev, rfl⟩ := Option.map_eq_some_iff.mp hcall
    exact .pauseRecv hbev
  | unpauseRecv =>
    obtain ⟨bev, hbev, rfl⟩ := Option.map_eq_some_iff.mp hcall
    exact .unpauseRecv hbev
  | setRateLimit =>
    obtain ⟨hbev, hsame⟩ := Option.ite_none_right_eq_some.mp hcall
    obtain rfl := Option.some.inj hsame
    exact .setRateLimit hbev
  | resetPingTimeout seconds =>
    obtain rfl := Option.some.inj hcall
    exact .resetPingTimeout seconds

/-- What an event does, one constructor for each way a method can go. -/
inductive Reacts (base : ConnectionBase) : ConnEvent → ConnectionBase → List ConnEffect → Prop
  | disconnect : Reacts base .disconnectFunc { base with disconnectFunc := false } [.disconnectInt]
  | closing {bev : BufferEvent} (hbev : base.bev = some bev) (houtput : bev.output ≠ 0) :
    Reacts base .disconnectWaitFunc { base with
      disconnectWaitFunc := false
      bev := some (((bev.setReading false).setWriteWatermark 0).setcb none
        (some .closeOnFinishedWritecb) (some .eventCb)) } []
  | finished {bev : BufferEvent} (hbev : base.bev = some bev) (houtput : bev.output = 0) :
    Reacts base .disconnectWaitFunc { base with
      disconnectWaitFunc := false
      bev := some ((bev.setReadingWriting false).setcb none none none) } [.disconnectInt]
  | full {bev : BufferEvent} (hbev : base.bev = some bev)
    (hfull : base.conn.opts.nMaxSendBuffer ≤ sizeToInt bev.output) :
    Reacts base .checkWriteBufferFunc { base with
      checkWriteBufferFunc := false
      bev := some (bev.setcb base.readCbPtr (some .writeCb) (some .eventCb)) } [.onWriteBufferFull bev.output]
  | room {bev : BufferEvent} (hbev : base.bev = some bev)
    (hroom : sizeToInt bev.output < base.conn.opts.nMaxSendBuffer) :
    Reacts base .checkWriteBufferFunc { base with checkWriteBufferFunc := false } []
  | pingTimeout : Reacts base .pingTimeoutFunc { base with pingTimeoutFunc := false } [.onPingTimeout]
  | firstData {bev : BufferEvent} (hbev : base.bev = some bev) :
    Reacts base .firstDataFunc { base with
      firstDataFunc := false
      bev := some (bev.setTimeouts base.conn.opts.nRecvTimeout base.conn.opts.nSendTimeout) } []
  | arrived {bev : BufferEvent} {chunks : List Bytes} (hbev : base.bev = some bev)
    (hchunks : chunks.flatten ≠ []) :
    Reacts base (.socketRead chunks) { base with
      bev := some (bev.arrive chunks)
      bytesRead := (base.bytesRead + chunks.flatten.length) % 2 ^ 64 }
      [.onBytesRead chunks.flatten.length ((base.bytesRead + chunks.flatten.length) % 2 ^ 64)]
  | arrivedNothing {bev : BufferEvent} {chunks : List Bytes} (hbev : base.bev = some bev)
    (hchunks : chunks.flatten = []) :
    Reacts base (.socketRead chunks) { base with bev := some (bev.arrive chunks) } []
  | drained {bev : BufferEvent} {size : ℕ} (hbev : base.bev = some bev) (hsize : size ≠ 0) :
    Reacts base (.socketWrite size) { base with
      bev := some (bev.drained size)
      bytesWritten := (base.bytesWritten + size) % 2 ^ 64 }
      [.onBytesWritten size ((base.bytesWritten + size) % 2 ^ 64)]
  | drainedNothing {bev : BufferEvent} (hbev : base.bev = some bev) :
    Reacts base (.socketWrite 0) { base with bev := some (bev.drained 0) } []
  | raised {bev : BufferEvent} {what : BevEvents} (hbev : base.bev = some bev) :
    Reacts base (.socketEvent what) { base with bev := some (bev.raise what) } []
  | readMessage {bev bev' : BufferEvent} {effects : List ConnEffect} (hbev : base.bev = some bev)
    (hreadcb : bev.readcb = some .readCbMessage)
    (hread : readCbMessage base.conn.netConfig { bev with readPending := false } = some (bev', effects)) :
    Reacts base .readCallback { base with bev := some bev' } effects
  | readChunk {bev bev' : BufferEvent} {effects : List ConnEffect} (hbev : base.bev = some bev)
    (hreadcb : bev.readcb = some .readCbChunk)
    (hread : readCbChunk base.conn.netConfig { bev with readPending := false } = some (bev', effects)) :
    Reacts base .readCallback { base with bev := some bev' } effects
  | unread {bev : BufferEvent} (hbev : base.bev = some bev) :
    Reacts base .readCallback { base with bev := some { bev with readPending := false } } []
  | ready {bev : BufferEvent} (hbev : base.bev = some bev) (hwritecb : bev.writecb = some .writeCb) :
    Reacts base .writeCallback { base with
      bev := some ({ bev with writePending := false }.setcb base.readCbPtr none (some .eventCb)) }
      [.onWriteBufferReady bev.output]
  | flushed {bev : BufferEvent} (hbev : base.bev = some bev)
    (hwritecb : bev.writecb = some .closeOnFinishedWritecb) :
    Reacts base .writeCallback { base with bev := some { bev with writePending := false } } [.disconnectInt]
  | unwritten {bev : BufferEvent} (hbev : base.bev = some bev) (hwritecb : bev.writecb = none) :
    Reacts base .writeCallback { base with bev := some { bev with writePending := false } } []
  | lost {bev : BufferEvent} (hbev : base.bev = some bev) :
    Reacts base .eventCallback { base with bev := some { bev with eventPending := .none } } [.disconnectInt]
  | notLost {bev : BufferEvent} (hbev : base.bev = some bev) :
    Reacts base .eventCallback { base with bev := some { bev with eventPending := .none } } []

/-- An event does one of these. -/
theorem reacts_of_react {base base' : ConnectionBase} {e : ConnEvent} {effects : List ConnEffect}
    (hreact : base.react e = some (base', effects)) : base.Reacts e base' effects := by
  unfold react at hreact
  split at hreact
  · obtain ⟨rfl, rfl⟩ := Prod.mk.inj (Option.some.inj hreact)
    exact .disconnect
  · obtain ⟨bev, hbev, hresult⟩ := Option.map_eq_some_iff.mp hreact
    split at hresult <;> obtain ⟨rfl, rfl⟩ := Prod.mk.inj hresult
    · next houtput => exact .closing hbev houtput
    · next houtput => exact .finished hbev (not_not.mp houtput)
  · obtain ⟨bev, hbev, hresult⟩ := Option.map_eq_some_iff.mp hreact
    split at hresult <;> obtain ⟨rfl, rfl⟩ := Prod.mk.inj hresult
    · next hfull => exact .full hbev hfull
    · next hroom => exact .room hbev (not_le.mp hroom)
  · obtain ⟨rfl, rfl⟩ := Prod.mk.inj (Option.some.inj hreact)
    exact .pingTimeout
  · obtain ⟨first, hfirst, hresult⟩ := Option.map_eq_some_iff.mp hreact
    obtain ⟨rfl, rfl⟩ := Prod.mk.inj hresult
    obtain ⟨bev, hbev, rfl⟩ := Option.map_eq_some_iff.mp hfirst
    exact .firstData hbev
  · contradiction
  · next chunks bev hbev =>
    unfold readData at hreact
    split at hreact <;> obtain ⟨rfl, rfl⟩ := Prod.mk.inj (Option.some.inj hreact)
    · next hchunks => exact .arrived hbev fun hnil => hchunks (by rw [hnil, List.length_nil])
    · next hchunks => exact .arrivedNothing hbev (List.eq_nil_of_length_eq_zero (not_not.mp hchunks))
  · next size bev hbev =>
    unfold wroteData at hreact
    split at hreact <;> obtain ⟨rfl, rfl⟩ := Prod.mk.inj (Option.some.inj hreact)
    · next hsize => exact .drained hbev hsize
    · next hsize =>
      obtain rfl := not_not.mp hsize
      exact .drainedNothing hbev
  · next what bev hbev =>
    obtain ⟨rfl, rfl⟩ := Prod.mk.inj (Option.some.inj hreact)
    exact .raised hbev
  · next bev hbev =>
    unfold runReadcb at hreact
    split at hreact
    · next hreadcb =>
      obtain ⟨⟨bev', reports⟩, hread, hresult⟩ := Option.map_eq_some_iff.mp hreact
      obtain ⟨rfl, rfl⟩ := Prod.mk.inj hresult
      exact .readMessage hbev hreadcb hread
    · next hreadcb =>
      obtain ⟨⟨bev', reports⟩, hread, hresult⟩ := Option.map_eq_some_iff.mp hreact
      obtain ⟨rfl, rfl⟩ := Prod.mk.inj hresult
      exact .readChunk hbev hreadcb hread
    · obtain ⟨rfl, rfl⟩ := Prod.mk.inj (Option.some.inj hreact)
      exact .unread hbev
  · next bev hbev =>
    unfold runWritecb at hreact
    split at hreact <;> obtain ⟨rfl, rfl⟩ := Prod.mk.inj (Option.some.inj hreact)
    · next hwritecb => exact .ready hbev hwritecb
    · next hwritecb => exact .flushed hbev hwritecb
    · next hwritecb => exact .unwritten hbev hwritecb
  · next bev hbev =>
    unfold runEventcb at hreact
    split at hreact <;> obtain ⟨rfl, rfl⟩ := Prod.mk.inj (Option.some.inj hreact)
    · exact .lost hbev
    · exact .notLost hbev

/-- Bytes read are counted and reported. -/
theorem readData_of_ne_zero (base : ConnectionBase) {nAdded : ℕ} (h : nAdded ≠ 0) :
    base.readData nAdded = ({ base with bytesRead := (base.bytesRead + nAdded) % 2 ^ 64 },
      [.onBytesRead nAdded ((base.bytesRead + nAdded) % 2 ^ 64)]) := if_pos h

end ConnectionBase

/-- One step of an established connection: the user makes a call or libevent brings an event. -/
inductive ConnStep where
  | call (c : ConnCall)
  | event (e : ConnEvent)
deriving DecidableEq, Repr

/-- A connection seen on its own: the effects reported so far, and whether `DisconnectInt` has
handed the object over to the handler. -/
structure ConnRun where
  base : ConnectionBase
  log : List ConnEffect
  closed : Bool
deriving DecidableEq, Repr

namespace ConnRun

/-- A connection just established on a bufferevent and enabled by the handler. -/
def established (base : ConnectionBase) (bev : BufferEvent) : ConnRun :=
  ⟨(base.initConnection bev).enable, [], false⟩

/-- One reported effect takes place. -/
def perform (run : ConnRun) (effect : ConnEffect) : ConnRun :=
  if effect = .disconnectInt then
    { base := run.base.disconnectInt, log := run.log ++ [effect], closed := true }
  else { run with log := run.log ++ [effect] }

/-- The effects of one method, in order. -/
def performAll (run : ConnRun) (result : ConnectionBase × List ConnEffect) : ConnRun :=
  result.2.foldl perform { run with base := result.1 }

/-- Libevent brings an event, unless it cannot. -/
def event (run : ConnRun) (e : ConnEvent) : Option ConnRun :=
  if !run.closed && run.base.armed e then (run.base.react e).map run.performAll else some run

/-- The user makes a call, which has no effect on a connection that is gone. -/
def call (run : ConnRun) (c : ConnCall) : Option ConnRun :=
  if run.closed then some run else (run.base.call c).map fun base => { run with base }

/-- The step on a connection. -/
def step (run : ConnRun) : ConnStep → Option ConnRun
  | .call c => run.call c
  | .event e => run.event e

/-- In message mode the read callback waits for the header of the first message, on the input that the
bufferevent brings along. -/
theorem established_base (base : ConnectionBase) (bev : BufferEvent)
    (hchunk : base.conn.netConfig.chunkSize.toInt ≤ 0) (hheader : 0 < base.conn.netConfig.headerSize.toInt) :
    (established base bev).base = { base with
      bev := some { bev with
        readcb := some .readCbMessage
        writecb := none
        eventcb := some .eventCb
        readLow := sizeT base.conn.netConfig.sizeNeeded
        readHigh := base.conn.netConfig.messageMaxSize.toNat
        writeLow := sizeT base.conn.opts.nMaxSendBuffer
        readEnabled := true
        writeEnabled := true
        readTimeout := base.conn.opts.nInitialTimeout
        writeTimeout := base.conn.opts.nInitialTimeout }
      readCbPtr := some .readCbMessage
      firstDataFunc := true } := by
  simp [established, ConnectionBase.initConnection, ConnectionBase.enable, Int.not_lt.mpr hchunk, hheader,
    BufferEvent.setReadingWriting, BufferEvent.setTimeouts, BufferEvent.setReadWatermark,
    BufferEvent.setWriteWatermark, BufferEvent.setcb]

/-- An armed event has the effects of the object's reaction. -/
theorem event_of_armed {run : ConnRun} {e : ConnEvent} {result : ConnectionBase × List ConnEffect}
    (hopen : run.closed = false) (harmed : run.base.armed e = true)
    (hreact : run.base.react e = some result) : run.event e = some (run.performAll result) := by
  simp [event, hopen, harmed, hreact]

/-- An event that libevent cannot bring changes nothing. -/
theorem event_of_not_armed {run : ConnRun} {e : ConnEvent}
    (h : run.closed = true ∨ run.base.armed e = false) : run.event e = some run := by
  rcases h with hclosed | harmed
  · simp [event, hclosed]
  · simp [event, harmed]

/-- A call on an open connection replaces the object. -/
theorem call_of_open {run : ConnRun} {c : ConnCall} {base : ConnectionBase} (hopen : run.closed = false)
    (hcall : run.base.call c = some base) : run.call c = some { run with base } := by
  simp [call, hopen, hcall]

/-- Every effect is logged. -/
@[simp] theorem performAll_log (run : ConnRun) (result : ConnectionBase × List ConnEffect) :
    (run.performAll result).log = run.log ++ result.2 := by
  obtain ⟨base, effects⟩ := result
  have hlog (run : ConnRun) : (effects.foldl perform run).log = run.log ++ effects := by
    induction effects generalizing run with
    | nil => simp
    | cons effect effects ih =>
      rw [List.foldl_cons, ih, perform]
      split <;> simp
  exact hlog { run with base }

/-- The connection is closed by `DisconnectInt` and by nothing else. -/
theorem performAll_closed (run : ConnRun) (result : ConnectionBase × List ConnEffect) :
    (run.performAll result).closed = (run.closed || decide (.disconnectInt ∈ result.2)) := by
  obtain ⟨base, effects⟩ := result
  have hclosed (run : ConnRun) :
      (effects.foldl perform run).closed = (run.closed || decide (.disconnectInt ∈ effects)) := by
    induction effects generalizing run with
    | nil => simp
    | cons effect effects ih =>
      rw [List.foldl_cons, ih, perform]
      by_cases heq : effect = .disconnectInt
      · simp [heq]
      · simp [heq, Ne.symm heq]
  exact hclosed { run with base }

/-- Without `DisconnectInt` the object is left as the method left it. -/
theorem performAll_base (run : ConnRun) (result : ConnectionBase × List ConnEffect)
    (h : .disconnectInt ∉ result.2) : (run.performAll result).base = result.1 := by
  obtain ⟨base, effects⟩ := result
  suffices hbase : ∀ run : ConnRun, (effects.foldl perform run).base = run.base from
    hbase { run with base }
  change .disconnectInt ∉ effects at h
  induction effects with
  | nil => exact fun _ => rfl
  | cons effect effects ih =>
    intro run
    rw [List.mem_cons, not_or] at h
    rw [List.foldl_cons, ih h.2, perform, if_neg (Ne.symm h.1)]

/-- What `DisconnectInt` keeps holds as the method left it. -/
theorem performAll_invariant {P : ConnectionBase → Prop} (hkeep : ∀ base, P base → P base.disconnectInt)
    (run : ConnRun) {result : ConnectionBase × List ConnEffect} (hresult : P result.1) :
    P (run.performAll result).base := by
  obtain ⟨base, effects⟩ := result
  change P base at hresult
  have hfold (run : ConnRun) (hrun : P run.base) : P (effects.foldl perform run).base := by
    induction effects generalizing run with
    | nil => exact hrun
    | cons effect effects ih =>
      rw [List.foldl_cons]
      refine ih _ ?_
      rw [perform]
      split
      · exact hkeep run.base hrun
      · exact hrun
  exact hfold { run with base } hresult

/-- What `DisconnectInt` leaves alone is as the method left it. -/
theorem performAll_field {α : Type} (field : ConnectionBase → α)
    (hfield : ∀ base, field base.disconnectInt = field base)
    (run : ConnRun) (result : ConnectionBase × List ConnEffect) :
    field (run.performAll result).base = field result.1 :=
  @performAll_invariant (fun base => field base = field result.1) (fun base hbase => (hfield base).trans hbase) run
    result rfl

/-- The configured connection never changes. -/
@[simp] theorem performAll_conn (run : ConnRun) (result : ConnectionBase × List ConnEffect) :
    (run.performAll result).base.conn = result.1.conn := performAll_field (·.conn) (fun _ => rfl) run result

end ConnRun

end LibBtcNet
