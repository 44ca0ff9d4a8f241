import LibBtcNet.ConnectionKinds
import LibBtcNet.Support.OrderedMap

/-!
# The connection handler

`CConnectionHandlerInt` in single-threaded mode. The user and the network are an
environment that answers from everything that has happened so far: what a callback
returns, the public methods it calls before it returns, the connections it offers, and
when the resolver answers. An input is an event with the environment of its step.

The trace holds the callbacks, the ids issued and what was asked of the network, in order.
A failed assertion is recorded, and the run ends with the step it fails in. `Start` and
`PumpEvents` are not public: inside a callback the one would fail its assertions and the
other does nothing, so the calls of a callback leave them out. What `OnShutdown` calls comes
after it, as calls of the user. The timer of the request event runs out again and again,
so that it is only known to exist. Rate limits are left out.
-/

namespace LibBtcNet

/-- `std::map<ConnID, T>`. -/
abbrev ConnMap (α : Type) := Std.TreeMap ConnID α compare

/-- The callbacks of `CConnectionHandler`. -/
inductive Callback where
  | onNeedOutgoingConnections (needcount : ℤ)
  | onBindFailure (bind : CConnection)
  | onDnsResponse (conn : CConnection) (results : List CConnection)
  | onDnsFailure (conn : CConnection) (retry : Bool)
  | onConnectionFailure (conn resolved : CConnection) (retry : Bool)
  | onProxyFailure (conn : CConnection) (retry : Bool)
  | onOutgoingConnection (id : ConnID) (conn resolved : CConnection)
  | onIncomingConnection (id : ConnID) (bind resolved : CConnection)
  | onDisconnected (id : ConnID) (persistent : Bool)
  | onReadyForFirstSend (id : ConnID)
  | onReceiveMessages (id : ConnID) (msgs : List Bytes) (totalsize : ℕ)
  | onMalformedMessage (id : ConnID)
  | onWriteBufferFull (id : ConnID) (bufsize : ℕ)
  | onWriteBufferReady (id : ConnID) (bufsize : ℕ)
  | onBytesRead (id : ConnID) (bytes totalBytes : ℕ)
  | onBytesWritten (id : ConnID) (bytes totalBytes : ℕ)
  | onPingTimeout (id : ConnID)
  | onShutdown
  | onStartup
deriving DecidableEq, Repr

/-- What happened: a callback and its answer, which one without a result does not use, an id
issued, or something asked of the network. A connection object that calls the user or asks the
network does so for its `m_connection`. -/
inductive TraceItem where
  | callback (c : Callback) (answer : Bool) (about : Option CConnection)
  | issued (id : ConnID)
  | net (conn : CConnection) (action : NetAction)
deriving DecidableEq, Repr

/-- Everything that has happened, in order. -/
abbrev Trace := List TraceItem

/-- The public methods, with whether `Bind` gets its listener. -/
inductive ApiCall where
  | closeConnection (id : ConnID) (immediately : Bool)
  | send (id : ConnID) (size : ℕ)
  | setRateLimit (id : ConnID)
  | pauseRecv (id : ConnID)
  | unpauseRecv (id : ConnID)
  | resetPingTimeout (id : ConnID) (seconds : ℤ)
  | bind (conn : CConnection) (listens : Bool)
  | shutdown
deriving DecidableEq, Repr

/-- The user and the network, by everything that has happened. -/
structure Environment where
  answer : Trace → Callback → Bool
  calls : Trace → List ApiCall
  offered : Trace → List CConnection
  lookup : Trace → Lookup
  uninitialized : Trace → ℕ × ℕ
  names : NameInfo

/-- A user who accepts everything, offers the same connections whenever asked and makes no call, and a
resolver that answers the same way each time. -/
def Environment.accepting (conns : List CConnection) (lookup : Lookup) : Environment where
  answer := fun _ _ => true
  calls := fun _ => []
  offered := fun _ => conns
  lookup := fun _ => lookup
  uninitialized := fun _ => (0, 0)
  names := noNames

/-- The assertions, by the method they stand in; `connection` are those of the connections. -/
inductive Assertion where
  | start
  | shutdownInt
  | onResolveFailure
  | onDisconnected
  | onConnectionFailure
  | onIncomingConnected
  | onOutgoingConnected
  | bind
  | getNextConnectionIndex
  | shutdown
  | incomingConn
  | connection
deriving DecidableEq, Repr

/-- `CConnectionHandlerInt`, with the trace and the failed assertions. A listener is the connection
it is bound to; of an event is kept that it exists, and of the shutdown event that it is active. -/
structure CConnectionHandlerInt where
  connected : ConnMap ConnectionObject
  connecting : ConnMap ConnectionObject
  binds : ConnMap CConnection
  dnsResolves : ConnMap CResolveOnly
  connectionIndex : ConnID
  outgoingConnCount : ℤ
  incomingConnCount : ℤ
  outgoingConnLimit : Int32
  isShutdown : Bool
  eventBase : Bool
  dnsBase : Bool
  requestEvent : Bool
  shutdownEvent : Option Bool
  trace : Trace
  failed : List Assertion

/-- `g_max_simultaneous_connecting`. -/
def gMaxSimultaneousConnecting : ℤ := 8

/-- The map that holds a connection. -/
inductive Place where
  | connecting
  | connected
deriving DecidableEq, Repr

namespace CConnectionHandlerInt

/-- The constructor. -/
def new : CConnectionHandlerInt where
  connected := ∅
  connecting := ∅
  binds := ∅
  dnsResolves := ∅
  connectionIndex := 0
  outgoingConnCount := 0
  incomingConnCount := 0
  outgoingConnLimit := 0
  isShutdown := false
  eventBase := false
  dnsBase := false
  requestEvent := false
  shutdownEvent := none
  trace := []
  failed := []

/-- Something happens. -/
def record (items : List TraceItem) (h : CConnectionHandlerInt) : CConnectionHandlerInt :=
  { h with trace := h.trace ++ items }

/-- An assertion fails. -/
def fail (assertion : Assertion) (h : CConnectionHandlerInt) : CConnectionHandlerInt :=
  { h with failed := h.failed ++ [assertion] }

/-- An assertion. -/
def check (condition : Bool) (assertion : Assertion) (h : CConnectionHandlerInt) : CConnectionHandlerInt :=
  if condition then h else h.fail assertion

/-- The connections of a map. -/
def objects (place : Place) (h : CConnectionHandlerInt) : ConnMap ConnectionObject :=
  match place with
  | .connecting => h.connecting
  | .connected => h.connected

/-- A connection of a map changes. -/
def put (place : Place) (k : ConnID) (obj : ConnectionObject) (h : CConnectionHandlerInt) :
    CConnectionHandlerInt :=
  match place with
  | .connecting => { h with connecting := h.connecting.insert k obj }
  | .connected => { h with connected := h.connected.insert k obj }

/-- `GetNextConnectionIndex`. -/
def getNextConnectionIndex (h : CConnectionHandlerInt) : ConnID × CConnectionHandlerInt :=
  let h := h.check (decide (0 ≤ h.connectionIndex)) .getNextConnectionIndex
  let max : ConnID := 2 ^ 63 - 1
  if h.connectionIndex ≠ max then
    (h.connectionIndex, { h with connectionIndex := h.connectionIndex + 1 }.record [.issued h.connectionIndex])
  else (max, { h with connectionIndex := 0 }.record [.issued max])

/-- The methods that look an established connection up and call it. -/
def connectionCall (id : ConnID) (c : ConnCall) (h : CConnectionHandlerInt) : CConnectionHandlerInt :=
  if 0 ≤ id then
    match h.connected[id]? with
    | none => h
    | some obj =>
      match obj.base.call c with
      | none => h.fail .connection
      | some base => h.put .connected id { obj with base }
  else h

/-- `CloseConnection`. -/
def closeConnection (id : ConnID) (immediately : Bool) (h : CConnectionHandlerInt) : CConnectionHandlerInt :=
  h.connectionCall id (if immediately then .disconnect else .disconnectWhenFinished)

/-- `Send` of `size` bytes. -/
def send (id : ConnID) (size : ℕ) (h : CConnectionHandlerInt) : CConnectionHandlerInt :=
  h.connectionCall id (.write size)

/-- `SetRateLimit`. -/
def setRateLimit (id : ConnID) (h : CConnectionHandlerInt) : CConnectionHandlerInt :=
  h.connectionCall id .setRateLimit

/-- `PauseRecv`. -/
def pauseRecv (id : ConnID) (h : CConnectionHandlerInt) : CConnectionHandlerInt :=
  h.connectionCall id .pauseRecv

/-- `UnpauseRecv`. -/
def unpauseRecv (id : ConnID) (h : CConnectionHandlerInt) : CConnectionHandlerInt :=
  h.connectionCall id .unpauseRecv

/-- `ResetPingTimeout`. -/
def resetPingTimeout (id : ConnID) (seconds : ℤ) (h : CConnectionHandlerInt) : CConnectionHandlerInt :=
  h.connectionCall id (.resetPingTimeout seconds)

/-- `OnListenFailure`. What the callback calls is among the calls that follow `Bind`. -/
def onListenFailure (id : ConnID) (bind : CConnection) (h : CConnectionHandlerInt) : CConnectionHandlerInt :=
  let h := h.record [.callback (.onBindFailure bind) false none]
  { h with binds := h.binds.erase id }

/-- `Bind`. -/
def bind (conn : CConnection) (listens : Bool) (h : CConnectionHandlerInt) : CConnectionHandlerInt :=
  let (id, h) := h.getNextConnectionIndex
  let h := h.check h.eventBase .bind
  if listens then { h with binds := h.binds.insertIfNew id conn } else h.onListenFailure id conn

/-- `Shutdown`. -/
def shutdown (h : CConnectionHandlerInt) : CConnectionHandlerInt :=
  match h.shutdownEvent with
  | none => h.fail .shutdown
  | some _ => { h with shutdownEvent := some true }

/-- A call of the user. -/
def apiCall (h : CConnectionHandlerInt) : ApiCall → CConnectionHandlerInt
  | .closeConnection id immediately => h.closeConnection id immediately
  | .send id size => h.send id size
  | .setRateLimit id => h.setRateLimit id
  | .pauseRecv id => h.pauseRecv id
  | .unpauseRecv id => h.unpauseRecv id
  | .resetPingTimeout id seconds => h.resetPingTimeout id seconds
  | .bind conn listens => h.bind conn listens
  | .shutdown => h.shutdown

/-- A callback: its answer, and the handler after the calls that it makes. -/
def callUser (env : Environment) (about : Option CConnection) (c : Callback) (h : CConnectionHandlerInt) :
    Bool × CConnectionHandlerInt :=
  let answer := env.answer h.trace c
  let h := h.record [.callback c answer about]
  (answer, (env.calls h.trace).foldl apiCall h)

/-- A connection is kept under a new id and waits for its retry timer. -/
def retryConnecting (ptr : ConnectionObject) (h : CConnectionHandlerInt) : CConnectionHandlerInt :=
  let (newId, h) := h.getNextConnectionIndex
  { h with connecting := (h.connecting.insertIfNew newId ptr).modify newId (·.retry newId) }

/-- The callback for a failure of a type. -/
def failureCallback (type : ConnectionFailureType) (failed : CConnection) (retry : Bool) : Callback :=
  match type with
  | .proxy => .onProxyFailure failed retry
  | .resolve => .onDnsFailure failed retry
  | .connect => .onConnectionFailure failed failed retry

/-- `OnConnectionFailure`, of an object for the connection `about`. -/
def onConnectionFailure (env : Environment) (id : ConnID) (about : CConnection) (type : ConnectionFailureType)
    (failed : CConnection) (retry : Bool) (h : CConnectionHandlerInt) : CConnectionHandlerInt :=
  match h.connecting[id]? with
  | none => h.fail .onConnectionFailure
  | some ptr =>
    let h := { h with connecting := h.connecting.erase id }
    let retry := retry && !h.isShutdown
    let (ret, h) := h.callUser env about (failureCallback type failed retry)
    if retry && ret then h.retryConnecting ptr else h

/-- `OnIncomingConnected`. -/
def onIncomingConnected (env : Environment) (id : ConnID) (conn resolved : CConnection)
    (h : CConnectionHandlerInt) : CConnectionHandlerInt :=
  match h.connecting[id]? with
  | none => h.fail .onIncomingConnected
  | some moved =>
    let h := { h with connecting := h.connecting.erase id }
    let (ret, h) := h.callUser env conn (.onIncomingConnection id conn resolved)
    if ret then
      { h with
        connected := h.connected.insertIfNew id moved.enable
        incomingConnCount := h.incomingConnCount + 1 }
    else h

/-- `OnOutgoingConnected`. -/
def onOutgoingConnected (env : Environment) (id : ConnID) (conn resolved : CConnection)
    (h : CConnectionHandlerInt) : CConnectionHandlerInt :=
  match h.connecting[id]? with
  | none => h.fail .onOutgoingConnected
  | some moved =>
    let h := { h with connecting := h.connecting.erase id }
    let (ret, h) := h.callUser env conn (.onOutgoingConnection id conn resolved)
    if ret then
      let h := { h with
        connected := h.connected.insertIfNew id moved.enable
        outgoingConnCount := h.outgoingConnCount + 1 }
      (h.callUser env moved.base.conn (.onReadyForFirstSend id)).2
    else h

/-- The counter of a direction changes. -/
def count (outgoing : Bool) (change : ℤ) (h : CConnectionHandlerInt) : CConnectionHandlerInt :=
  if outgoing then { h with outgoingConnCount := h.outgoingConnCount + change }
  else { h with incomingConnCount := h.incomingConnCount + change }

/-- `OnDisconnected`. -/
def onDisconnected (env : Environment) (id : ConnID) (reconnect : Bool) (h : CConnectionHandlerInt) :
    CConnectionHandlerInt :=
  let reconnect := reconnect && !h.isShutdown
  match h.connected[id]? with
  | none => h.fail .onDisconnected
  | some moved =>
    let h := { h with connected := h.connected.erase id }.count moved.isOutgoing (-1)
    let (ret, h) := h.callUser env moved.base.conn (.onDisconnected id reconnect)
    if reconnect && ret then h.retryConnecting moved else h

/-- The report that ends a method of a connection. -/
def onReport (env : Environment) (r : ConnResult ConnectionObject) (h : CConnectionHandlerInt) :
    CConnectionHandlerInt :=
  let base := r.obj.base
  match r.report with
  | .waiting => h
  | .connectionFailure type failed retry => h.onConnectionFailure env base.id base.conn type failed retry
  | .outgoingConnected _ resolved => h.onOutgoingConnected env base.id base.conn resolved
  | .incomingConnected _ resolved => h.onIncomingConnected env base.id base.conn resolved

/-- A method of a connection runs. -/
def runMethod (env : Environment) (place : Place) (k : ConnID)
    (method : ConnectionObject → Option (ConnResult ConnectionObject)) (h : CConnectionHandlerInt) :
    CConnectionHandlerInt :=
  match (h.objects place)[k]? with
  | none => h
  | some obj =>
    match method obj with
    | none => h.fail .connection
    | some r => ((h.put place k r.obj).record (r.net.map (.net obj.base.conn))).onReport env r

/-- `Connect` of a connection. -/
def connect (env : Environment) (place : Place) (k : ConnID) (h : CConnectionHandlerInt) :
    CConnectionHandlerInt :=
  h.runMethod env place k fun obj => obj.connect env.names (env.lookup h.trace)

/-- `OnIncomingConnection`. -/
def onIncomingConnection (env : Environment) (bind : CConnection) (addr : Bytes)
    (h : CConnectionHandlerInt) : CConnectionHandlerInt :=
  let (id, h) := h.getNextConnectionIndex
  let h := h.check (decide (addr.length ≤ sockaddrStorageSize)) .incomingConn
  let (bytesRead, bytesWritten) := env.uninitialized h.trace
  let ptr : ConnectionObject := ⟨.new bind id bytesRead bytesWritten, .incoming ⟨addr⟩⟩
  { h with connecting := h.connecting.insertIfNew id ptr }.connect env .connecting id

/-- `OnResolveComplete`. -/
def onResolveComplete (env : Environment) (id : ConnID) (conn : CConnection) (resolved : List CConnection)
    (h : CConnectionHandlerInt) : CConnectionHandlerInt :=
  let h := (h.callUser env conn (.onDnsResponse conn resolved)).2
  { h with dnsResolves := h.dnsResolves.erase id }

/-- `OnResolveFailure`. -/
def onResolveFailure (env : Environment) (id : ConnID) (conn : CConnection) (retry : Bool)
    (h : CConnectionHandlerInt) : CConnectionHandlerInt :=
  let retry := retry && !h.isShutdown
  let (ret, h) := h.callUser env conn (.onDnsFailure conn retry)
  match h.dnsResolves[id]? with
  | none => h.fail .onResolveFailure
  | some c =>
    if retry && ret then { h with dnsResolves := h.dnsResolves.insert id c.retry }
    else { h with dnsResolves := h.dnsResolves.erase id }

/-- A method of a resolve-only request runs, and its report ends it. -/
def runResolve (env : Environment) (k : ConnID)
    (method : CResolveOnly → Option (MethodResult CResolveOnly ResolveReport)) (h : CConnectionHandlerInt) :
    CConnectionHandlerInt :=
  match h.dnsResolves[k]? with
  | none => h
  | some c =>
    match method c with
    | none => h.fail .connection
    | some r =>
      let h := { h with dnsResolves := h.dnsResolves.insert k r.obj }.record (r.net.map (.net c.conn))
      match r.report with
      | .waiting => h
      | .resolveFailure retry => h.onResolveFailure env r.obj.id r.obj.conn retry
      | .resolveComplete resolved => h.onResolveComplete env r.obj.id r.obj.conn resolved

/-- `Resolve` of a resolve-only request. -/
def resolve (env : Environment) (k : ConnID) (h : CConnectionHandlerInt) : CConnectionHandlerInt :=
  h.runResolve env k (·.resolve env.names (env.lookup h.trace))

/-- `StartConnection`. -/
def startConnection (env : Environment) (h : CConnectionHandlerInt) (conn : CConnection) :
    CConnectionHandlerInt :=
  let (id, h) := h.getNextConnectionIndex
  if conn.isResolveOnly then
    if conn.proxy.isSet then h
    else { h with dnsResolves := h.dnsResolves.insertIfNew id (.new conn id) }.resolve env id
  else
    let (bytesRead, bytesWritten) := env.uninitialized h.trace
    let ptr : ConnectionObject := .new conn id bytesRead bytesWritten
    { h with connecting := h.connecting.insertIfNew id ptr }.connect env .connecting id

/-- `RequestOutgoingInt`. -/
def requestOutgoingInt (env : Environment) (h : CConnectionHandlerInt) : CConnectionHandlerInt :=
  let free := h.outgoingConnLimit.toInt - h.outgoingConnCount - sizeToInt h.connecting.size
  let need := sizeT (min gMaxSimultaneousConnecting free)
  if 0 < need then
    let conns := env.offered h.trace
    let h := (h.callUser env none (.onNeedOutgoingConnections (sizeToInt need))).2
    ((conns.take (min conns.length need)).filter (·.isSet)).foldl (startConnection env) h
  else h

/-- What a connection reports to the handler, which passes it on with the id. -/
def effectCallback (id : ConnID) : ConnEffect → Option Callback
  | .onReceiveMessages msgs totalsize => some (.onReceiveMessages id msgs totalsize)
  | .onMalformedMessage => some (.onMalformedMessage id)
  | .onWriteBufferFull bufsize => some (.onWriteBufferFull id bufsize)
  | .onWriteBufferReady bufsize => some (.onWriteBufferReady id bufsize)
  | .onBytesRead bytes totalBytes => some (.onBytesRead id bytes totalBytes)
  | .onBytesWritten bytes totalBytes => some (.onBytesWritten id bytes totalBytes)
  | .onPingTimeout => some (.onPingTimeout id)
  | .evbufferExpand _ => none
  | .disconnectInt => none

/-- One effect of a connection takes place. -/
def performEffect (env : Environment) (place : Place) (k : ConnID) (h : CConnectionHandlerInt)
    (effect : ConnEffect) : CConnectionHandlerInt :=
  match (h.objects place)[k]? with
  | none => h
  | some obj =>
    if effect = .disconnectInt then
      let base := obj.base.disconnectInt
      (h.put place k { obj with base }).onDisconnected env base.id
        (base.conn.opts.fPersistent && obj.isOutgoing)
    else
      match effectCallback obj.base.id effect with
      | none => h
      | some c => (h.callUser env obj.base.conn c).2

/-- Libevent brings an event to a connection, unless it cannot. -/
def connectionEvent (env : Environment) (place : Place) (k : ConnID) (e : ConnEvent)
    (h : CConnectionHandlerInt) : CConnectionHandlerInt :=
  match (h.objects place)[k]? with
  | none => h
  | some obj =>
    if obj.base.armed e then
      match obj.base.react e with
      | none => h.fail .connection
      | some (base, effects) => effects.foldl (performEffect env place k) (h.put place k { obj with base })
    else h

/-- The retry timer of a connection runs out, if it is pending. -/
def reconnectFunc (env : Environment) (place : Place) (k : ConnID) (h : CConnectionHandlerInt) :
    CConnectionHandlerInt :=
  match (h.objects place)[k]? with
  | none => h
  | some obj =>
    if obj.base.reconnectFunc then
      (h.put place k { obj with base := { obj.base with reconnectFunc := false } }).connect env place k
    else h

/-- The retry event of a resolve-only request runs, if it is active. -/
def retryEvent (env : Environment) (k : ConnID) (h : CConnectionHandlerInt) : CConnectionHandlerInt :=
  match h.dnsResolves[k]? with
  | none => h
  | some c =>
    if c.retryEvent then
      { h with dnsResolves := h.dnsResolves.insert k { c with retryEvent := false } }.resolve env k
    else h

/-- `accept_conn` of a listener. -/
def acceptConn (env : Environment) (k : ConnID) (addr : Bytes) (h : CConnectionHandlerInt) :
    CConnectionHandlerInt :=
  match h.binds[k]? with
  | none => h
  | some conn => h.onIncomingConnection env conn addr

/-- `Start`. -/
def start (env : Environment) (outgoingLimit : Int32) (h : CConnectionHandlerInt) : CConnectionHandlerInt :=
  if h.outgoingConnCount ≠ 0 ∨ h.incomingConnCount ≠ 0 ∨ h.eventBase ∨ h.dnsBase ∨ h.requestEvent ∨
      h.shutdownEvent.isSome then h.fail .start
  else
    ({ h with
      isShutdown := false
      outgoingConnLimit := outgoingLimit
      eventBase := true
      dnsBase := true
      requestEvent := true
      shutdownEvent := some false }.callUser env none .onStartup).2

/-- `ShutdownInt` disconnects an established connection. -/
def shutdownConnected (env : Environment) (h : CConnectionHandlerInt) (entry : ConnID × ConnectionObject) :
    CConnectionHandlerInt :=
  ((h.count entry.2.isOutgoing (-1)).callUser env entry.2.base.conn (.onDisconnected entry.1 false)).2

/-- `ShutdownInt` drops a connection that is not established. -/
def shutdownConnecting (env : Environment) (h : CConnectionHandlerInt) (entry : ConnID × ConnectionObject) :
    CConnectionHandlerInt :=
  let conn := entry.2.base.conn
  let h := if entry.2.isOutgoing then (h.callUser env conn (.onConnectionFailure conn conn false)).2 else h
  { h with connecting := h.connecting.erase entry.1 }

/-- `ShutdownInt`. No callback changes the maps that its loops go through. -/
def shutdownInt (env : Environment) (h : CConnectionHandlerInt) : CConnectionHandlerInt :=
  if h.isShutdown then h
  else
    let disconnecting := h.connected.toList
    let h := { h with connected := ∅, binds := ∅, isShutdown := true }
    let h := disconnecting.foldl (shutdownConnected env) h
    let h := h.connecting.toList.foldl (shutdownConnecting env) h
    let h := { h with dnsResolves := ∅, dnsBase := false, requestEvent := false, shutdownEvent := none }
    h.check (h.connecting.isEmpty && h.connected.isEmpty && h.dnsResolves.isEmpty &&
      h.outgoingConnCount == 0 && h.incomingConnCount == 0) .shutdownInt

/-- `PumpEvents` after the shutdown. -/
def pumpReturn (h : CConnectionHandlerInt) : CConnectionHandlerInt :=
  { h with eventBase := false }.record [.callback .onShutdown false none]

end CConnectionHandlerInt

/-- What happens to the handler: the user starts it, calls it or pumps it to its end, or libevent
brings an event. -/
inductive HandlerEvent where
  | start (outgoingLimit : Int32)
  | call (c : ApiCall)
  | pumpReturn
  | requestEvent
  | shutdownEvent
  | reconnectFunc (place : Place) (k : ConnID)
  | connEvent (place : Place) (k : ConnID) (event : BevEvents)
  | dnsCallback (place : Place) (k : ConnID) (result : DnsResult)
  | handshake (place : Place) (k : ConnID) (s : ProxyStep)
  | connection (place : Place) (k : ConnID) (e : ConnEvent)
  | resolveOnly (k : ConnID) (result : DnsResult)
  | retryEvent (k : ConnID)
  | acceptConn (k : ConnID) (addr : Bytes)
deriving DecidableEq, Repr

/-- An event and the environment it meets. -/
structure HandlerInput where
  event : HandlerEvent
  env : Environment

namespace CConnectionHandlerInt

/-- Whether an event can come: libevent is pumped from `Start` to `ShutdownInt`, after which
`PumpEvents` returns before the user makes another call. -/
def enabled (h : CConnectionHandlerInt) : HandlerEvent → Bool
  | .start _ => !(h.eventBase && h.isShutdown)
  | .call _ => !(h.eventBase && h.isShutdown)
  | .pumpReturn => h.eventBase && h.isShutdown
  | .requestEvent => h.eventBase && !h.isShutdown && h.requestEvent
  | .shutdownEvent => h.eventBase && !h.isShutdown && h.shutdownEvent == some true
  | _ => h.eventBase && !h.isShutdown

/-- What the handler does at an event. -/
def react (env : Environment) (h : CConnectionHandlerInt) : HandlerEvent → CConnectionHandlerInt
  | .start outgoingLimit => h.start env outgoingLimit
  | .call c => h.apiCall c
  | .pumpReturn => h.pumpReturn
  | .requestEvent => h.requestOutgoingInt env
  | .shutdownEvent => { h with shutdownEvent := some false }.shutdownInt env
  | .reconnectFunc place k => h.reconnectFunc env place k
  | .connEvent place k event => h.runMethod env place k (·.connEvent event)
  | .dnsCallback place k result => h.runMethod env place k (·.dnsCallback result)
  | .handshake place k s => h.runMethod env place k (·.handshake env.names s)
  | .connection place k e => h.connectionEvent env place k e
  | .resolveOnly k result => h.runResolve env k fun c => some (c.dnsCallback result)
  | .retryEvent k => h.retryEvent env k
  | .acceptConn k addr => h.acceptConn env k addr

/-- One step of the handler; a process that failed an assertion takes none. -/
def step (h : CConnectionHandlerInt) (input : HandlerInput) : CConnectionHandlerInt :=
  if h.failed.isEmpty && h.enabled input.event then h.react input.env input.event else h

/-- The handler after a run. -/
def run (inputs : List HandlerInput) : CConnectionHandlerInt := inputs.foldl step new

end CConnectionHandlerInt

end LibBtcNet
