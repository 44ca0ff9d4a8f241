import LibBtcNet.ConnectionReports
import LibBtcNet.HandlerFrame
import Mathlib.Logic.Relation

/-!
# The stages of a step

A step of the handler goes through stages. A connection leaves one map, the user is called, and
only then the connection is put into another map or dropped, so that between the maps it is in
hand. The moves from stage to stage say all that a step can do, for any behaviour of the user and
the network. They assume nothing about the ids: a map may already hold an id that is issued again.
-/

namespace LibBtcNet

/-- What a step holds between two maps, or is going to do next. -/
inductive Hand where
  | idle
  | accepted (id : ConnID) (obj : ConnectionObject)
  | retrying (obj : ConnectionObject)
  | closing (id : ConnID)
  | disconnecting (entries : List (ConnID × ConnectionObject))
  | dropping (entries : List (ConnID × ConnectionObject))

/-- A stage: the handler, what is in hand, and the connections that may still be started. -/
structure Stage where
  handler : CConnectionHandlerInt
  hand : Hand
  pending : List CConnection

/-- The assertions that keep the books of the handler. -/
def Assertion.OfBooks (assertion : Assertion) : Prop :=
  assertion = .shutdownInt ∨ assertion = .onResolveFailure ∨ assertion = .onDisconnected ∨
    assertion = .onConnectionFailure ∨ assertion = .onIncomingConnected ∨ assertion = .onOutgoingConnected

/-- No event of the base is pending but perhaps the retry timer. -/
structure ConnectionBase.Stopped (base : ConnectionBase) : Prop where
  disconnectFunc : base.disconnectFunc = false
  disconnectWaitFunc : base.disconnectWaitFunc = false
  checkWriteBufferFunc : base.checkWriteBufferFunc = false
  pingTimeoutFunc : base.pingTimeoutFunc = false
  firstDataFunc : base.firstDataFunc = false

/-- What an event changes in an established connection. -/
structure ConnectionObject.Changes (obj obj' : ConnectionObject) : Prop where
  kind : obj'.kind = obj.kind
  conn : obj'.base.conn = obj.base.conn
  id : obj'.base.id = obj.base.id
  bev : obj'.base.bev.isSome = obj.base.bev.isSome
  reconnectFunc : obj'.base.reconnectFunc = true → obj.base.reconnectFunc = true

/-- The object of an accepted socket, which is connected at once. -/
def ConnectionObject.ofSocket (conn : CConnection) (id : ConnID) (bytesRead bytesWritten : ℕ) (addr : Bytes) :
    ConnectionObject :=
  ⟨(ConnectionBase.new conn id bytesRead bytesWritten).initConnection .socketNew, .incoming ⟨addr⟩⟩

namespace CConnectionHandlerInt

/-! The fields that a change of a map or of a counter leaves alone. -/

section Fields

variable (h : CConnectionHandlerInt) (place : Place) (k : ConnID) (obj : ConnectionObject) (outgoing : Bool)
  (change : ℤ)

@[simp] theorem put_trace : (h.put place k obj).trace = h.trace := by cases place <;> rfl

@[simp] theorem put_connectionIndex : (h.put place k obj).connectionIndex =
    h.connectionIndex := by cases place <;> rfl

@[simp] theorem put_binds : (h.put place k obj).binds = h.binds := by cases place <;> rfl

@[simp] theorem put_dnsResolves : (h.put place k obj).dnsResolves = h.dnsResolves := by cases place <;> rfl

@[simp] theorem put_outgoingConnLimit : (h.put place k obj).outgoingConnLimit =
    h.outgoingConnLimit := by cases place <;> rfl

@[simp] theorem put_isShutdown : (h.put place k obj).isShutdown = h.isShutdown := by cases place <;> rfl

@[simp] theorem put_eventBase : (h.put place k obj).eventBase = h.eventBase := by cases place <;> rfl

@[simp] theorem put_failed : (h.put place k obj).failed = h.failed := by cases place <;> rfl

@[simp] theorem put_outgoingConnCount : (h.put place k obj).outgoingConnCount =
    h.outgoingConnCount := by cases place <;> rfl

@[simp] theorem put_incomingConnCount : (h.put place k obj).incomingConnCount =
    h.incomingConnCount := by cases place <;> rfl

@[simp] theorem count_trace : (h.count outgoing change).trace = h.trace := by cases outgoing <;> rfl

@[simp] theorem count_connectionIndex : (h.count outgoing change).connectionIndex =
    h.connectionIndex := by cases outgoing <;> rfl

@[simp] theorem count_binds : (h.count outgoing change).binds = h.binds := by cases outgoing <;> rfl

@[simp] theorem count_dnsResolves : (h.count outgoing change).dnsResolves = h.dnsResolves := by cases outgoing <;> rfl

@[simp] theorem count_outgoingConnLimit : (h.count outgoing change).outgoingConnLimit =
    h.outgoingConnLimit := by cases outgoing <;> rfl

@[simp] theorem count_isShutdown : (h.count outgoing change).isShutdown = h.isShutdown := by cases outgoing <;> rfl

@[simp] theorem count_eventBase : (h.count outgoing change).eventBase = h.eventBase := by cases outgoing <;> rfl

@[simp] theorem count_failed : (h.count outgoing change).failed = h.failed := by cases outgoing <;> rfl

@[simp] theorem count_connected : (h.count outgoing change).connected = h.connected := by cases outgoing <;> rfl

@[simp] theorem count_connecting : (h.count outgoing change).connecting = h.connecting := by cases outgoing <;> rfl

/-- A connection that has changed is found where it was. -/
theorem objects_put (h : CConnectionHandlerInt) (place : Place) (k : ConnID) (obj : ConnectionObject) :
    ((h.put place k obj).objects place)[k]? = some obj := by
  cases place <;> simp [CConnectionHandlerInt.objects, put]

end Fields

/-- A method of a connection has run. -/
def worked (place : Place) (k : ConnID) (obj : ConnectionObject) (r : ConnResult ConnectionObject)
    (h : CConnectionHandlerInt) : CConnectionHandlerInt :=
  (h.put place k r.obj).record (r.net.map (.net obj.base.conn))

/-- A connection leaves the map of those that are not established. -/
def takeConnecting (k : ConnID) (h : CConnectionHandlerInt) : CConnectionHandlerInt :=
  { h with connecting := h.connecting.erase k }

/-- The user has been called. -/
def called (c : Callback) (answer : Bool) (about : Option CConnection) (h : CConnectionHandlerInt) :
    CConnectionHandlerInt :=
  h.record [.callback c answer about]

section Reports

variable {env : Environment} {h h' : CConnectionHandlerInt} {id : ConnID} {ptr : ConnectionObject} {ret : Bool}

/-- `OnConnectionFailure` of a connection that is found, by the answer of the user. -/
theorem onConnectionFailure_of_call {about failed : CConnection} {type : ConnectionFailureType} {retry : Bool}
    (hptr : h.connecting[id]? = some ptr)
    (hcall : (h.takeConnecting id).callUser env about (failureCallback type failed (retry && !h.isShutdown)) =
      (ret, h')) :
    h.onConnectionFailure env id about type failed retry =
      if (retry && !h.isShutdown) && ret then h'.retryConnecting ptr else h' := by
  rw [takeConnecting] at hcall
  simp only [onConnectionFailure, hptr, hcall]

/-- `OnOutgoingConnected` of a connection that is found. -/
theorem onOutgoingConnected_of_call {conn resolved : CConnection} (hptr : h.connecting[id]? = some ptr)
    (hcall : (h.takeConnecting id).callUser env conn (.onOutgoingConnection id conn resolved) = (ret, h')) :
    h.onOutgoingConnected env id conn resolved =
      if ret then ({ h' with
        connected := h'.connected.insertIfNew id ptr.enable
        outgoingConnCount := h'.outgoingConnCount + 1 }.callUser env ptr.base.conn (.onReadyForFirstSend id)).2
      else h' := by
  rw [takeConnecting] at hcall
  simp only [onOutgoingConnected, hptr, hcall]

end Reports

end CConnectionHandlerInt

open CConnectionHandlerInt

/-- A connection without a handle that waits for nothing. -/
structure ConnectionObject.Settled (obj : ConnectionObject) : Prop where
  handles : obj.kind.handles = 0
  reconnectFunc : obj.base.reconnectFunc = false

/-- A connection that has one handle at most, and none while its retry timer runs. -/
structure ConnectionObject.Trying (obj : ConnectionObject) : Prop where
  handles : obj.kind.handles ≤ 1
  waits : obj.base.reconnectFunc = true → obj.kind.handles = 0

/-- A method of an object in a map, with its result. Only an outgoing connection reports, and while few
ids are issued it is one that is not established, and has no handle then. -/
structure Working (h : CConnectionHandlerInt) (place : Place) (k : ConnID) (obj : ConnectionObject)
    (r : ConnResult ConnectionObject) : Prop where
  found : (h.objects place)[k]? = some obj
  works : obj.Works r
  directed : r.report ≠ .waiting → obj.isOutgoing = true
  waits : FewIds h.trace → r.report = .waiting → r.obj = obj ∨ (place = .connecting ∧ r.obj.Trying)
  ends : FewIds h.trace → r.report ≠ .waiting → place = .connecting ∧ r.obj.Settled

/-- The handler is started and is not shutting down. -/
def CConnectionHandlerInt.Running (h : CConnectionHandlerInt) : Prop := h.eventBase = true ∧ h.isShutdown = false

/-- One move of a step, with the connections that the user may supply and the limits that it may set. -/
inductive Move (P : CConnection → Prop) (L : Int32 → Prop) : Stage → Stage → Prop where
  | user {h h' : CConnectionHandlerInt} {hand : Hand} {conns : List CConnection} (frame : Frame h h') :
    Move P L ⟨h, hand, conns⟩ ⟨h', hand, conns⟩
  | forget {h : CConnectionHandlerInt} {hand : Hand} {conn : CConnection} {conns : List CConnection} :
    Move P L ⟨h, hand, conn :: conns⟩ ⟨h, hand, conns⟩
  | fail {h : CConnectionHandlerInt} {hand : Hand} {conns : List CConnection} {assertion : Assertion}
      (hother : ¬assertion.OfBooks) :
    Move P L ⟨h, hand, conns⟩ ⟨h.fail assertion, hand, conns⟩
  | stray {h : CConnectionHandlerInt} {conns : List CConnection} {place : Place} {k : ConnID} {obj : ConnectionObject}
      {r : ConnResult ConnectionObject} {assertion : Assertion} (working : Working h place k obj r)
      (hreport : r.report ≠ .waiting) (hnone : (h.worked place k obj r).connecting[k]? = none) :
    Move P L ⟨h, .idle, conns⟩ ⟨(h.worked place k obj r).fail assertion, .idle, conns⟩
  | relooked {h : CConnectionHandlerInt} {hand : Hand} {conns : List CConnection}
      {connecting : ConnMap ConnectionObject} (hsame : ∀ k : ConnID, connecting[k]? = h.connecting[k]?) :
    Move P L ⟨h, hand, conns⟩ ⟨{ h with connecting }, hand, conns⟩
  | changed {h : CConnectionHandlerInt} {hand : Hand} {conns : List CConnection} {k : ConnID}
      {obj obj' : ConnectionObject} (hobj : h.connected[k]? = some obj) (hchanges : obj.Changes obj') :
    Move P L ⟨h, hand, conns⟩ ⟨h.put .connected k obj', hand, conns⟩
  | rearmed {h : CConnectionHandlerInt} {conns : List CConnection} {k : ConnID} {obj : ConnectionObject}
      (hobj : h.connecting[k]? = some obj) :
    Move P L ⟨h, .idle, conns⟩
      ⟨h.put .connecting k { obj with base := { obj.base with reconnectFunc := false } }, .idle, conns⟩
  | waited {h : CConnectionHandlerInt} {conns : List CConnection} {place : Place} {k : ConnID}
      {obj : ConnectionObject}
      {r : ConnResult ConnectionObject} (working : Working h place k obj r) (hreport : r.report = .waiting) :
    Move P L ⟨h, .idle, conns⟩ ⟨h.worked place k obj r, .idle, conns⟩
  | failed {h : CConnectionHandlerInt} {conns : List CConnection} {place : Place} {k : ConnID}
      {obj ptr : ConnectionObject}
      {r : ConnResult ConnectionObject} {type : ConnectionFailureType} {failed : CConnection} {retry ret : Bool}
      (working : Working h place k obj r) (hreport : r.report = .connectionFailure type failed retry)
      (hptr : (h.worked place k obj r).connecting[k]? = some ptr) :
    Move P L ⟨h, .idle, conns⟩
      ⟨((h.worked place k obj r).takeConnecting k).called (failureCallback type failed (retry && !h.isShutdown)) ret
        obj.base.conn, if retry && !h.isShutdown && ret then .retrying ptr else .idle, conns⟩
  | outgoing {h : CConnectionHandlerInt} {conns : List CConnection} {place : Place} {k : ConnID}
      {obj ptr : ConnectionObject}
      {r : ConnResult ConnectionObject} {bev : BufferEvent} {resolved : CConnection} {ret : Bool}
      (working : Working h place k obj r) (hreport : r.report = .outgoingConnected bev resolved)
      (hptr : (h.worked place k obj r).connecting[k]? = some ptr) :
    Move P L ⟨h, .idle, conns⟩
      ⟨((h.worked place k obj r).takeConnecting k).called (.onOutgoingConnection k obj.base.conn resolved) ret
        obj.base.conn, if ret then .accepted k ptr else .idle, conns⟩
  | accepted {h h' : CConnectionHandlerInt} {conns : List CConnection} {k id : ConnID} {conn : CConnection}
      {addr : Bytes}
      {bytesRead bytesWritten : ℕ} {ret : Bool} {connecting : ConnMap ConnectionObject} (hrunning : h.Running)
      (hbind : h.binds[k]? = some conn) (hissue : h.getNextConnectionIndex = (id, h'))
      (hfree : h.connecting[id]? = none) (hsame : ∀ k : ConnID, connecting[k]? = h.connecting[k]?) :
    Move P L ⟨h, .idle, conns⟩
      ⟨{ h' with connecting }.called
        (.onIncomingConnection id conn (.ofSockAddr conn.opts conn.netConfig .unset addr)) ret conn,
        if ret then .accepted id (.ofSocket conn id bytesRead bytesWritten addr) else .idle, conns⟩
  | establishedIncoming {h : CConnectionHandlerInt} {conns : List CConnection} {k : ConnID} {obj : ConnectionObject}
      (hincoming : obj.isOutgoing = false) :
    Move P L ⟨h, .accepted k obj, conns⟩
      ⟨{ h with
        connected := h.connected.insertIfNew k obj.enable
        incomingConnCount := h.incomingConnCount + 1 }, .idle, conns⟩
  | establishedOutgoing {h : CConnectionHandlerInt} {conns : List CConnection} {k : ConnID}
      {obj : ConnectionObject} {ret : Bool} (houtgoing : obj.isOutgoing = true) :
    Move P L ⟨h, .accepted k obj, conns⟩
      ⟨{ h with
        connected := h.connected.insertIfNew k obj.enable
        outgoingConnCount := h.outgoingConnCount + 1 }.called (.onReadyForFirstSend k) ret obj.base.conn,
          .idle, conns⟩
  | ended {h : CConnectionHandlerInt} {hand : Hand} {conns : List CConnection} {k : ConnID} {obj : ConnectionObject}
      {reconnect ret : Bool} (hhand : hand = .idle ∨ hand = .closing k) (hobj : h.connected[k]? = some obj)
      (hstopped : (reconnect && ret) = true → obj.base.Stopped)
      (hreconnect : reconnect = (obj.base.conn.opts.fPersistent && obj.isOutgoing && !h.isShutdown)) :
    Move P L ⟨h, hand, conns⟩
      ⟨({ h with connected := h.connected.erase k }.count obj.isOutgoing (-1)).called
        (.onDisconnected k reconnect) ret
        obj.base.conn, if reconnect && ret then .retrying obj else .idle, conns⟩
  | retried {h h' : CConnectionHandlerInt} {conns : List CConnection} {id : ConnID} {obj : ConnectionObject}
      (hissue : h.getNextConnectionIndex = (id, h')) :
    Move P L ⟨h, .retrying obj, conns⟩
      ⟨{ h' with connecting := (h'.connecting.insertIfNew id obj).modify id (·.retry id) }, .idle, conns⟩
  | started {h h' : CConnectionHandlerInt} {conns : List CConnection} {id : ConnID} {conn : CConnection}
      {bytesRead bytesWritten : ℕ}
      (hsupplied : P conn) (hconnects : conn.isResolveOnly = false) (hissue : h.getNextConnectionIndex = (id, h')) :
    Move P L ⟨h, .idle, conn :: conns⟩
      ⟨{ h' with connecting := h'.connecting.insertIfNew id (.new conn id bytesRead bytesWritten) }, .idle, conns⟩
  | notified {h : CConnectionHandlerInt} {conns : List CConnection} {k : ConnID} {obj : ConnectionObject}
      {effect : ConnEffect}
      {c : Callback} {ret : Bool} (hobj : h.connected[k]? = some obj) (heffect : effect ≠ .onMalformedMessage)
      (hc : effectCallback k effect = some c) :
    Move P L ⟨h, .idle, conns⟩ ⟨h.called c ret obj.base.conn, .idle, conns⟩
  | malformed {h : CConnectionHandlerInt} {conns : List CConnection} {k : ConnID} {obj : ConnectionObject}
      {ret : Bool} (hobj : h.connected[k]? = some obj) :
    Move P L ⟨h, .idle, conns⟩ ⟨h.called (.onMalformedMessage k) ret obj.base.conn, .closing k, conns⟩
  | resolveStarted {h h' : CConnectionHandlerInt} {conns : List CConnection} {id : ConnID}
      {conn : CConnection} (hsupplied : P conn)
      (hproxy : conn.proxy.isSet = false) (hissue : h.getNextConnectionIndex = (id, h')) :
    Move P L ⟨h, .idle, conn :: conns⟩
      ⟨{ h' with dnsResolves := h'.dnsResolves.insertIfNew id (.new conn id) }, .idle, conns⟩
  | resolveWorked {h : CConnectionHandlerInt} {conns : List CConnection} {k : ConnID} {c c' : CResolveOnly}
      {net : List NetAction}
      (hc : h.dnsResolves[k]? = some c) (hid : c'.id = c.id) (hconn : c'.conn = c.conn)
      (hpermitted : c.conn.proxy.isSet = false → ∀ action ∈ net, action.Permitted c.conn) :
    Move P L ⟨h, .idle, conns⟩
      ⟨{ h with dnsResolves := h.dnsResolves.insert k c' }.record (net.map (.net c.conn)), .idle, conns⟩
  | resolveTold {h : CConnectionHandlerInt} {conns : List CConnection} {k : ConnID} {c : CResolveOnly}
      {cb : Callback} {ret : Bool} (hc : h.dnsResolves[k]? = some c)
      (hcb : (∃ resolved, cb = .onDnsResponse c.conn resolved) ∨ ∃ retry, cb = .onDnsFailure c.conn retry) :
    Move P L ⟨h, .idle, conns⟩ ⟨h.called cb ret c.conn, .idle, conns⟩
  | resolveErased {h : CConnectionHandlerInt} {conns : List CConnection} (k : ConnID) :
    Move P L ⟨h, .idle, conns⟩ ⟨{ h with dnsResolves := h.dnsResolves.erase k }, .idle, conns⟩
  | begun {h : CConnectionHandlerInt} {conns : List CConnection} {limit : Int32} {ret : Bool} (hlimit : L limit)
      (hbase : h.eventBase = false) (hcount : h.outgoingConnCount = 0) :
    Move P L ⟨h, .idle, conns⟩
      ⟨{ h with
        isShutdown := false
        outgoingConnLimit := limit
        eventBase := true
        dnsBase := true
        requestEvent := true
        shutdownEvent := some false }.called .onStartup ret none, .idle, []⟩
  | shutdownBegun {h : CConnectionHandlerInt} {conns : List CConnection} (hrunning : h.isShutdown = false) :
    Move P L ⟨h, .idle, conns⟩
      ⟨{ h with connected := ∅, binds := ∅, isShutdown := true }, .disconnecting h.connected.toList, []⟩
  | shutdownDisconnected {h : CConnectionHandlerInt} {conns : List CConnection} {entry : ConnID × ConnectionObject}
      {entries : List (ConnID × ConnectionObject)} {ret : Bool} :
    Move P L ⟨h, .disconnecting (entry :: entries), conns⟩
      ⟨(h.count entry.2.isOutgoing (-1)).called (.onDisconnected entry.1 false) ret entry.2.base.conn,
        .disconnecting entries, conns⟩
  | shutdownTurned {h : CConnectionHandlerInt} {conns : List CConnection} :
    Move P L ⟨h, .disconnecting [], conns⟩ ⟨h, .dropping h.connecting.toList, conns⟩
  | shutdownTold {h : CConnectionHandlerInt} {conns : List CConnection} {entry : ConnID × ConnectionObject}
      {entries : List (ConnID × ConnectionObject)} {ret : Bool} (houtgoing : entry.2.isOutgoing = true) :
    Move P L ⟨h, .dropping (entry :: entries), conns⟩
      ⟨h.called (.onConnectionFailure entry.2.base.conn entry.2.base.conn false) ret entry.2.base.conn,
        .dropping (entry :: entries), conns⟩
  | shutdownDropped {h : CConnectionHandlerInt} {conns : List CConnection} {entry : ConnID × ConnectionObject}
      {entries : List (ConnID × ConnectionObject)} :
    Move P L ⟨h, .dropping (entry :: entries), conns⟩ ⟨h.takeConnecting entry.1, .dropping entries, conns⟩
  | shutdownDone {h : CConnectionHandlerInt} {conns : List CConnection} :
    Move P L ⟨h, .dropping [], conns⟩
      ⟨{ h with dnsResolves := ∅, dnsBase := false, requestEvent := false, shutdownEvent := none }.check
        (h.connecting.isEmpty && h.connected.isEmpty && (∅ : ConnMap CResolveOnly).isEmpty &&
          h.outgoingConnCount == 0 && h.incomingConnCount == 0) .shutdownInt, .idle, conns⟩
  | pumped {h : CConnectionHandlerInt} {conns : List CConnection} (hshutdown : h.isShutdown = true) :
    Move P L ⟨h, .idle, conns⟩ ⟨{ h with eventBase := false }.called .onShutdown false none, .idle, conns⟩

/-- Any number of moves. -/
abbrev Moves (P : CConnection → Prop) (L : Int32 → Prop) : Stage → Stage → Prop :=
  Relation.ReflTransGen (Move P L)

end LibBtcNet
