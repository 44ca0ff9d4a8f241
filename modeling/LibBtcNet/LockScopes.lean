import LibBtcNet.Handler
import LibBtcNet.Support.LockOrder

/-!
# The locks of threaded mode

The functions that take a lock or call the user, as the scopes of their locks. A bufferevent has
the options of `GetBevOpts`: the functions of libevent take its lock, which is recursive, and its
callbacks run with the lock dropped, but the callbacks of its evbuffers run with the lock held.

A bufferevent is the one of the connection with its id. What a function decides from its data is a
parameter, and steps that take none of these locks and do not call the user are left out, as are
the locks that libevent keeps to itself.
-/

namespace LibBtcNet

/-- The mutexes of the handler, and the lock of each bufferevent. -/
inductive Lock where
  | connMutex
  | bindMutex
  | groupRateMutex
  | bufferEvent (k : ConnID)
deriving DecidableEq, Repr

/-- The callbacks of `CConnectionHandler`, by name. -/
inductive UserCallback where
  | onNeedOutgoingConnections
  | onBindFailure
  | onDnsResponse
  | onDnsFailure
  | onConnectionFailure
  | onProxyFailure
  | onOutgoingConnection (k : ConnID)
  | onIncomingConnection (k : ConnID)
  | onDisconnected (k : ConnID)
  | onReadyForFirstSend (k : ConnID)
  | onReceiveMessages (k : ConnID)
  | onMalformedMessage (k : ConnID)
  | onWriteBufferFull (k : ConnID)
  | onWriteBufferReady (k : ConnID)
  | onBytesRead (k : ConnID)
  | onBytesWritten (k : ConnID)
  | onPingTimeout (k : ConnID)
  | onShutdown
  | onStartup
deriving DecidableEq, Repr

/-- All public methods: those of one connection, `Bind` and `Shutdown`, and the rate limits of the groups. -/
inductive PublicCall where
  | api (c : ApiCall)
  | setIncomingRateLimit
  | setOutgoingRateLimit
deriving DecidableEq, Repr

/-- `bufferevent_options`. -/
structure BevOpts where
  threadsafe : Bool
  closeOnFree : Bool
  deferCallbacks : Bool
  unlockCallbacks : Bool
deriving DecidableEq, Repr

/-- `GetBevOpts`. -/
def getBevOpts (enableThreading : Bool) : BevOpts :=
  if enableThreading then ⟨true, true, true, true⟩ else ⟨false, true, true, false⟩

/-- Code over the ids in `m_connected`. -/
abbrev LockCode := LockOrder.Code Lock (List ConnID) UserCallback

namespace LockCode

/-- One piece after the other. -/
def inOrder (codes : List LockCode) : LockCode := codes.foldr .seq .skip

/-- `optional_lock`, in threaded mode. -/
def optionalLock (mutex : Lock) (body : LockCode) : LockCode := .locked mutex body

/-- A scope of the lock of a bufferevent, if it has one: `BufferEventLocker`, or a function of libevent. -/
def bufferEventLocker (k : ConnID) (body : LockCode) : LockCode :=
  if (getBevOpts true).threadsafe then .locked (.bufferEvent k) body else body

/-- A function of libevent that is called for a bufferevent or one of its evbuffers. -/
def bufferEventCall (k : ConnID) : LockCode := bufferEventLocker k .skip

/-- A deferred callback of a bufferevent. -/
def bufferEventCallback (k : ConnID) (body : LockCode) : LockCode :=
  if (getBevOpts true).unlockCallbacks then inOrder [bufferEventCall k, body, bufferEventCall k]
  else bufferEventLocker k body

/-! The public methods. -/

/-- `Write`. -/
def write (k : ConnID) : LockCode := bufferEventCall k

/-- `PauseRecv` of a connection. -/
def pauseRecvInt (k : ConnID) : LockCode := bufferEventLocker k (bufferEventCall k)

/-- `UnpauseRecv` of a connection. -/
def unpauseRecvInt (k : ConnID) : LockCode := bufferEventLocker k (bufferEventCall k)

/-- `SetRateLimit` of a connection. -/
def setRateLimitInt (k : ConnID) : LockCode := bufferEventLocker k (bufferEventCall k)

/-- A method that looks an established connection up and calls it. -/
def connectionCall (id : ConnID) (method : LockCode) : LockCode :=
  if 0 ≤ id then optionalLock .connMutex (.whenever (fun connected => decide (id ∈ connected)) method) else .skip

/-- `OnListenFailure`. -/
def onListenFailure : LockCode := inOrder [.call .onBindFailure, optionalLock .bindMutex .skip]

/-- `Bind`. -/
def bind (listens : Bool) : LockCode := if listens then optionalLock .bindMutex .skip else onListenFailure

/-- A public method. To close a connection or to reset its timeout is to activate an event. -/
def publicCall : PublicCall → LockCode
  | .api (.closeConnection id _) => connectionCall id .skip
  | .api (.send id _) => connectionCall id (write id)
  | .api (.setRateLimit id) => connectionCall id (setRateLimitInt id)
  | .api (.pauseRecv id) => connectionCall id (pauseRecvInt id)
  | .api (.unpauseRecv id) => connectionCall id (unpauseRecvInt id)
  | .api (.resetPingTimeout id _) => connectionCall id .skip
  | .api (.bind _ listens) => bind listens
  | .api .shutdown => .skip
  | .setIncomingRateLimit => optionalLock .groupRateMutex .skip
  | .setOutgoingRateLimit => optionalLock .groupRateMutex .skip

/-! The event thread. -/

/-- `OnDisconnected`; its connection is retried or destroyed, and the bufferevent is freed. -/
def onDisconnected (k : ConnID) : LockCode :=
  inOrder [optionalLock .connMutex (.update (·.filter (· ≠ k))), .call (.onDisconnected k), bufferEventCall k]

/-- `DisconnectInt`. -/
def disconnectInt (k : ConnID) : LockCode :=
  inOrder [bufferEventLocker k (inOrder [bufferEventCall k, bufferEventCall k]), onDisconnected k]

/-- `DisconnectWhenFinishedInt`, with nothing left to send or not. -/
def disconnectWhenFinishedInt (k : ConnID) (now : Bool) : LockCode :=
  if now then
    inOrder [bufferEventLocker k (inOrder [bufferEventCall k, bufferEventCall k, bufferEventCall k]), disconnectInt k]
  else bufferEventLocker k (inOrder [bufferEventCall k, bufferEventCall k, bufferEventCall k, bufferEventCall k])

/-- `CheckWriteBufferInt`, with the buffer full or not. -/
def checkWriteBufferInt (k : ConnID) (full : Bool) : LockCode :=
  if full then
    inOrder [bufferEventLocker k (inOrder [bufferEventCall k, bufferEventCall k]), .call (.onWriteBufferFull k)]
  else bufferEventLocker k (bufferEventCall k)

/-- `PingTimeoutInt`. -/
def pingTimeoutInt (k : ConnID) : LockCode := .call (.onPingTimeout k)

/-- `FirstDataInt`. -/
def firstDataInt (k : ConnID) : LockCode := bufferEventCall k

/-- `read_data`, when bytes are added. -/
def readData (k : ConnID) : LockCode := .call (.onBytesRead k)

/-- `wrote_data`, when bytes are deleted. -/
def wroteData (k : ConnID) : LockCode := .call (.onBytesWritten k)

/-- `event_cb`. -/
def eventCb (k : ConnID) : LockCode := bufferEventCallback k (disconnectInt k)

/-- `read_cb_chunk`, with a whole chunk or not. -/
def readCbChunk (k : ConnID) (received : Bool) : LockCode :=
  bufferEventCallback k (inOrder ([bufferEventLocker k (bufferEventCall k), bufferEventCall k] ++
    if received then [.call (.onReceiveMessages k)] else []))

/-- `read_cb_message`, with a whole message or not, and with a malformed one or not. -/
def readCbMessage (k : ConnID) (received malformed : Bool) : LockCode :=
  bufferEventCallback k (inOrder ([bufferEventLocker k (inOrder [bufferEventCall k, bufferEventCall k])] ++
    (if received then [.call (.onReceiveMessages k)] else []) ++
    if malformed then [.call (.onMalformedMessage k), disconnectInt k] else []))

/-- `write_cb`. -/
def writeCb (k : ConnID) : LockCode :=
  bufferEventCallback k (inOrder [bufferEventCall k, bufferEventCall k, .call (.onWriteBufferReady k)])

/-- `close_on_finished_writecb`. -/
def closeOnFinishedWritecb (k : ConnID) : LockCode := bufferEventCallback k (disconnectInt k)

/-- `InitConnection`: disabled, its timeouts, watermarks and callbacks set, and those of its evbuffers added. -/
def initConnection (k : ConnID) : LockCode := inOrder (.replicate 7 (bufferEventCall k))

/-- A connection that the user has accepted joins its rate limit group, is enabled, and enters `m_connected`. -/
def establish (k : ConnID) : List LockCode :=
  [bufferEventCall k, bufferEventCall k, optionalLock .connMutex (.update (k :: ·))]

/-- `OnOutgoingConnected`, from a callback of the bufferevent. One that is not accepted is destroyed. -/
def onOutgoingConnected (k : ConnID) (accepted : Bool) : LockCode :=
  bufferEventCallback k (inOrder ([initConnection k, .call (.onOutgoingConnection k)] ++
    if accepted then establish k ++ [.call (.onReadyForFirstSend k)] else [bufferEventCall k]))

/-- `OnIncomingConnected`. -/
def onIncomingConnected (k : ConnID) (accepted : Bool) : LockCode :=
  inOrder ([initConnection k, .call (.onIncomingConnection k)] ++
    if accepted then establish k else [bufferEventCall k])

/-- The callback of `OnConnectionFailure`. -/
def failureCallback : ConnectionFailureType → UserCallback
  | .proxy => .onProxyFailure
  | .resolve => .onDnsFailure
  | .connect => .onConnectionFailure

/-- `OnConnectionFailure`, from a callback of the bufferevent of the attempt, which is freed. -/
def onConnectionFailure (k : ConnID) (type : ConnectionFailureType) : LockCode :=
  bufferEventCallback k (inOrder [bufferEventCall k, .call (failureCallback type)])

/-- `RequestOutgoingInt`, with the connections that cannot be tried. -/
def requestOutgoingInt (failures : List ConnectionFailureType) : LockCode :=
  inOrder (.call .onNeedOutgoingConnections :: failures.map fun type => .call (failureCallback type))

/-- `ShutdownInt`, with the established connections and those that are connecting. -/
def shutdownInt (connected connecting : List ConnID) : LockCode :=
  inOrder ([optionalLock .connMutex (.update fun _ => []), optionalLock .bindMutex .skip] ++
    connected.map (fun k => inOrder [.call (.onDisconnected k), bufferEventCall k]) ++
    connecting.map fun k => inOrder [.call .onConnectionFailure, bufferEventCall k])

end LockCode

/-- What the event thread is woken for: an event of libevent, with what is decided from data, or the user's own call
between two rounds of `PumpEvents`. -/
inductive LockEvent where
  | start
  | userCall (c : PublicCall)
  | request (failures : List ConnectionFailureType)
  | reconnectFunc (failures : List ConnectionFailureType)
  | attemptFailed (k : ConnID) (type : ConnectionFailureType)
  | resolved (success : Bool)
  | outgoingConnected (k : ConnID) (accepted : Bool)
  | incomingConnected (k : ConnID) (accepted : Bool)
  | socketRead (k : ConnID)
  | socketWrite (k : ConnID)
  | readCbChunk (k : ConnID) (received : Bool)
  | readCbMessage (k : ConnID) (received malformed : Bool)
  | writeCb (k : ConnID)
  | closeOnFinishedWritecb (k : ConnID)
  | eventCb (k : ConnID)
  | disconnectFunc (k : ConnID)
  | disconnectWaitFunc (k : ConnID) (now : Bool)
  | checkWriteBufferFunc (k : ConnID) (full : Bool)
  | pingTimeoutFunc (k : ConnID)
  | firstDataFunc (k : ConnID)
  | shutdown (connecting : List ConnID)
  | pumpReturn
deriving DecidableEq, Repr

namespace LockEvent

/-- The established connection of an event. -/
def established? : LockEvent → Option ConnID
  | .socketRead k => some k
  | .socketWrite k => some k
  | .readCbChunk k _ => some k
  | .readCbMessage k _ _ => some k
  | .writeCb k => some k
  | .closeOnFinishedWritecb k => some k
  | .eventCb k => some k
  | .disconnectFunc k => some k
  | .disconnectWaitFunc k _ => some k
  | .checkWriteBufferFunc k _ => some k
  | .pingTimeoutFunc k => some k
  | .firstDataFunc k => some k
  | _ => none

/-- Whether an event can come: that of an established connection comes while the connection is in `m_connected`. -/
def possible (connected : List ConnID) (e : LockEvent) : Bool :=
  match e.established? with
  | some k => decide (k ∈ connected)
  | none => true

/-- What the event thread runs. Libevent reads and writes a socket with the lock of the bufferevent held. -/
def code (connected : List ConnID) : LockEvent → LockCode
  | .start => .call .onStartup
  | .userCall c => LockCode.publicCall c
  | .request failures => LockCode.requestOutgoingInt failures
  | .reconnectFunc failures => LockCode.inOrder (failures.map fun type => .call (LockCode.failureCallback type))
  | .attemptFailed k type => LockCode.onConnectionFailure k type
  | .resolved success => .call (if success then .onDnsResponse else .onDnsFailure)
  | .outgoingConnected k accepted => LockCode.onOutgoingConnected k accepted
  | .incomingConnected k accepted => LockCode.onIncomingConnected k accepted
  | .socketRead k => LockCode.bufferEventLocker k (LockCode.readData k)
  | .socketWrite k => LockCode.bufferEventLocker k (LockCode.wroteData k)
  | .readCbChunk k received => LockCode.readCbChunk k received
  | .readCbMessage k received malformed => LockCode.readCbMessage k received malformed
  | .writeCb k => LockCode.writeCb k
  | .closeOnFinishedWritecb k => LockCode.closeOnFinishedWritecb k
  | .eventCb k => LockCode.eventCb k
  | .disconnectFunc k => LockCode.disconnectInt k
  | .disconnectWaitFunc k now => LockCode.disconnectWhenFinishedInt k now
  | .checkWriteBufferFunc k full => LockCode.checkWriteBufferInt k full
  | .pingTimeoutFunc k => LockCode.pingTimeoutInt k
  | .firstDataFunc k => LockCode.firstDataInt k
  | .shutdown connecting => LockCode.shutdownInt connected connecting
  | .pumpReturn => .call .onShutdown

end LockEvent

/-- The threads: the event thread, and any number of others. -/
inductive ThreadName where
  | event
  | other (n : ℕ)
deriving DecidableEq, Repr

/-- The threads with their locks. -/
abbrev LockMachine := LockOrder.Machine ThreadName Lock (List ConnID) UserCallback

/-- What happens: a thread other than the event thread makes a call, the event thread is woken, or a thread does its
next step. If that step is a callback, it makes some calls. -/
inductive LockInput where
  | call (n : ℕ) (c : PublicCall)
  | event (e : LockEvent)
  | advance (name : ThreadName) (calls : List PublicCall)
deriving DecidableEq, Repr

namespace LockMachine

/-- The lock of a bufferevent may be taken again by its owner. -/
def recursive : Lock → Bool
  | .bufferEvent _ => true
  | _ => false

/-- Only the event thread may bind. -/
def mayCall : PublicCall → Bool
  | .api (.bind _ _) => false
  | _ => true

/-- One step. -/
def step (m : LockMachine) : LockInput → LockMachine
  | .call n c => if mayCall c then m.start (.other n) (LockCode.publicCall c) else m
  | .event e => if e.possible m.shared then m.start .event (e.code m.shared) else m
  | .advance name calls => m.advance recursive (LockCode.inOrder (calls.map LockCode.publicCall)) name

/-- The threads after a run. -/
def run (inputs : List LockInput) : LockMachine := inputs.foldl step (.idle [])

/-- Two threads hold `m_conn_mutex` and the lock of a bufferevent, and each wants the lock of the other. -/
def Deadlocked (m : LockMachine) : Prop :=
  ∃ (name other : ThreadName) (k : ConnID), name ≠ other ∧
    m.owner .connMutex = some name ∧ (m.threads name).wanted = some (.bufferEvent k) ∧
    m.owner (.bufferEvent k) = some other ∧ (m.threads other).wanted = some .connMutex

end LockMachine

end LibBtcNet
