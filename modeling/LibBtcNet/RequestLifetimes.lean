import LibBtcNet.ConnectionEffects
import LibBtcNet.Support.Lifetimes

/-!
# The lifetimes of requests that resolve

The methods of `CDNSConnection` and `CResolveOnly` with every field that they read and assign,
in the order of the source. A report runs inside the method that makes it: the handler takes
the object out of its map and asks the user, and the object is destroyed unless it is put
back. Whether libevent may bring a callback depends on the handles that the object holds,
which its destructor releases.
-/

namespace LibBtcNet

open Lifetimes

/-- What a report finds: whether the handler shuts down, what the user returns, and the next id. -/
structure Answer where
  shutdown : Bool
  ret : Bool
  newId : ConnID
deriving DecidableEq, Repr

/-- Whether the handler puts an object back that may be tried again. -/
def Answer.accepts (a : Answer) (retry : Bool) : Bool := retry && !a.shutdown && a.ret

/-- A `CDNSConnection` with its `ConnectionBase`. -/
structure DnsObject where
  base : ConnectionBase
  dns : CDNSConnection
deriving DecidableEq, Repr

namespace DnsObject

/-- The destructor releases the request, the socket, the bufferevent and the timers. -/
def destructor (o : DnsObject) : DnsObject where
  base := { o.base with
    bev := none
    reconnectFunc := false
    disconnectFunc := false
    disconnectWaitFunc := false
    checkWriteBufferFunc := false
    pingTimeoutFunc := false
    firstDataFunc := false }
  dns := { o.dns with request := false, resolved := [], iter := [], bareBev := none }

/-- `OnConnectionFailure` of the handler. -/
def handlerOnConnectionFailure (a : Answer) (retry : Bool) : Method DnsObject Unit :=
  if a.accepts retry then assign fun o => { o with base := o.base.retry a.newId }
  else destroy destructor

/-- `OnOutgoingConnected` of the handler. -/
def handlerOnOutgoingConnected (a : Answer) : Method DnsObject Unit :=
  if a.ret then assign fun o => { o with base := o.base.enable } else destroy destructor

/-- `OnDisconnected` of the handler. -/
def handlerOnDisconnected (a : Answer) (reconnect : Bool) : Method DnsObject Unit :=
  if a.accepts reconnect then assign fun o => { o with base := o.base.retry a.newId }
  else destroy destructor

/-- `OnConnectionFailure`. -/
def onConnectionFailure (a : Answer) (retry : Bool) : Method DnsObject Unit := do
  let _id ← read (·.base.id)
  handlerOnConnectionFailure a retry

/-- `OnOutgoingConnected`. -/
def onOutgoingConnected (a : Answer) (bev : BufferEvent) : Method DnsObject Unit := do
  assign fun o => { o with base := o.base.initConnection bev }
  let _id ← read (·.base.id)
  let _conn ← read (·.base.conn)
  handlerOnOutgoingConnected a

/-- `OnResolveFailure`. -/
def onResolveFailure (a : Answer) : Method DnsObject Unit := do
  check (← read (·.dns.resolved.isEmpty))
  check (← read (·.dns.iter.isEmpty))
  assign fun o => { o with dns := { o.dns with request := false } }
  let _conn ← read (·.base.conn)
  let retries ← read (·.dns.retries)
  assign fun o => { o with dns := { o.dns with retries := (takeRetry retries).1 } }
  onConnectionFailure a (takeRetry retries).2

/-- `OnConnectFailure`. -/
def onConnectFailure (a : Answer) : Method DnsObject Unit := do
  check !(← read (·.dns.request))
  check !(← read (·.dns.iter.isEmpty))
  check !(← read (·.dns.resolved.isEmpty))
  let _conn ← read (·.base.conn)
  assign fun o => { o with dns := { o.dns with iter := o.dns.iter.tail } }
  if ← read (·.dns.iter.isEmpty) then
    assign fun o => { o with dns := { o.dns with resolved := [] } }
  let last ← read (·.dns.iter.isEmpty)
  let retries ← read (·.dns.retries)
  onConnectionFailure a (!last || decide (retries ≠ 0))

/-- `BareConnect`. -/
def bareConnect (addr : Bytes) (connTimeout : ℤ) : Method DnsObject Unit := do
  match LibBtcNet.bareConnect (← read (·.dns.bareBev)) addr connTimeout with
  | some bev => assign fun o => { o with dns := { o.dns with bareBev := some bev } }
  | none => failure

/-- `ConnectResolved`. -/
def connectResolved (a : Answer) : Method DnsObject Unit := do
  check !(← read (·.dns.iter.isEmpty))
  check !(← read (·.dns.resolved.isEmpty))
  let conn ← read (·.base.conn)
  let addr ← read (·.dns.iter.headD [])
  if CConnection.canConnectDirectAddr addr conn.opts.nFamily then bareConnect addr conn.opts.nConnTimeout
  else onConnectFailure a

/-- `OnResolveSuccess`. -/
def onResolveSuccess (a : Answer) (first : Bytes) (rest : List Bytes) : Method DnsObject Unit := do
  check (← read (·.dns.resolved.isEmpty))
  check (← read (·.dns.iter.isEmpty))
  assign fun o => { o with dns := { o.dns with request := false } }
  assign fun o => { o with dns := { o.dns with resolved := first :: rest } }
  assign fun o => { o with dns := { o.dns with iter := o.dns.resolved } }
  connectResolved a

/-- `dns_callback`, told of a cancellation where there is no result. -/
def dnsCallback (a : Answer) : Option DnsResult → Method DnsObject Unit
  | none => pure ()
  | some .failure => onResolveFailure a
  | some (.addresses first rest) => onResolveSuccess a first rest

/-- `CDNSResolve::Resolve`: the request, which is null when `dns_callback` ran already. -/
def cdnsResolve (a : Answer) : Lookup → Method DnsObject Bool
  | .later => pure true
  | .atOnce result => do
    dnsCallback a (some result)
    pure false

/-- `DoResolve`. -/
def doResolve (a : Answer) (lookup : Lookup) : Method DnsObject Unit := do
  check !(← read (·.dns.request))
  check (← read (·.dns.resolved.isEmpty))
  check (← read (·.dns.iter.isEmpty))
  let conn ← read (·.base.conn)
  if conn.canResolve && (setResolveFamily conn.opts.nFamily).isSome then
    let request ← cdnsResolve a lookup
    assign fun o => { o with dns := { o.dns with request } }
  else onResolveFailure a

/-- `Connect`. -/
def connect (a : Answer) (lookup : Lookup) : Method DnsObject Unit := do
  check !(← read (·.dns.request))
  if ← read (·.dns.iter.isEmpty) then doResolve a lookup else connectResolved a

/-- `OnConnectSuccess`. -/
def onConnectSuccess (a : Answer) (bev : BufferEvent) : Method DnsObject Unit := do
  check !(← read (·.dns.resolved.isEmpty))
  check !(← read (·.dns.iter.isEmpty))
  check !(← read (·.dns.request))
  let conn ← read (·.base.conn)
  assign fun o => { o with dns := { o.dns with resolved := [], iter := [] } }
  assign fun o => { o with dns := { o.dns with retries := conn.opts.nRetries } }
  onOutgoingConnected a bev

/-- `conn_event` for the bufferevent that connects. -/
def connEvent (a : Answer) (event : BevEvents) (bev : BufferEvent) : Method DnsObject Unit := do
  assign fun o => { o with dns := { o.dns with bareBev := none } }
  if event.connected then onConnectSuccess a bev else onConnectFailure a

/-- What happens to the established connection, up to `OnDisconnected` if that ends it. -/
def established (a : Answer) (s : ConnStep) : Method DnsObject Unit := do
  match ConnRun.step ⟨← read (·.base), [], false⟩ s with
  | none => failure
  | some run =>
    assign fun o => { o with base := run.base }
    if run.closed then handlerOnDisconnected a run.base.conn.opts.fPersistent else pure ()

end DnsObject

/-- A DNS connection, and whether `StartConnection` has called its `Connect`. -/
structure DnsLife where
  object : Tracked DnsObject
  started : Bool
deriving DecidableEq, Repr

/-- What happens in the life of a DNS connection. -/
inductive DnsStep where
  | connect (a : Answer) (lookup : Lookup)
  | connEvent (a : Answer) (event : BevEvents)
  | dnsCallback (a : Answer) (result : Option DnsResult)
  | established (a : Answer) (s : ConnStep)
  | shutdown
deriving DecidableEq, Repr

namespace DnsLife

/-- A connection that `StartConnection` has just made. -/
def start (conn : CConnection) (id : ConnID) (bytesRead bytesWritten : ℕ) : DnsLife :=
  ⟨.live ⟨.new conn id bytesRead bytesWritten, .new conn⟩, false⟩

/-- Whether `Connect` may come: from `StartConnection`, or from the timer of a retry. -/
def due (life : DnsLife) : Bool := !life.started || life.object.obj.base.reconnectFunc

/-- A method runs. -/
def run (life : DnsLife) (method : Method DnsObject Unit) : Option DnsLife :=
  (method life.object).map fun r => ⟨r.2, true⟩

/-- One step in its life; what cannot come changes nothing. -/
def step (life : DnsLife) : DnsStep → Option DnsLife
  | .connect a lookup =>
    if life.due then
      let obj := life.object.obj
      let fired := { obj with base := { obj.base with reconnectFunc := false } }
      run { life with object := { life.object with obj := fired } } (DnsObject.connect a lookup)
    else some life
  | .connEvent a event =>
    match life.object.obj.dns.bareBev with
    | some bev => life.run (DnsObject.connEvent a event bev)
    | none => some life
  | .dnsCallback a none => (DnsObject.dnsCallback a none life.object).map fun r => { life with object := r.2 }
  | .dnsCallback a (some result) =>
    if life.object.obj.dns.request then life.run (DnsObject.dnsCallback a (some result)) else some life
  | .established a s =>
    if life.object.obj.base.bev.isSome then life.run (DnsObject.established a s) else some life
  | .shutdown => if life.object.destroyed then some life else life.run (destroy DnsObject.destructor)

end DnsLife

namespace ResolveObject

/-- The destructor releases the request and the timer. -/
def destructor (c : CResolveOnly) : CResolveOnly := { c with request := false, retryEvent := false }

/-- `OnResolveFailure` of the handler. -/
def handlerOnResolveFailure (a : Answer) (retry : Bool) : Method CResolveOnly Unit :=
  if a.accepts retry then assign CResolveOnly.retry else destroy destructor

/-- `OnResolveComplete` of the handler. -/
def handlerOnResolveComplete : Method CResolveOnly Unit := destroy destructor

/-- `OnResolveFailure`. -/
def onResolveFailure (a : Answer) : Method CResolveOnly Unit := do
  assign fun c => { c with request := false }
  let _id ← read (·.id)
  let _conn ← read (·.conn)
  let retries ← read (·.retries)
  assign fun c => { c with retries := (takeRetry retries).1 }
  handlerOnResolveFailure a (takeRetry retries).2

/-- `OnResolveSuccess`. -/
def onResolveSuccess : Method CResolveOnly Unit := do
  assign fun c => { c with request := false }
  let conn ← read (·.conn)
  assign fun c => { c with retries := conn.opts.nRetries }
  let _id ← read (·.id)
  handlerOnResolveComplete

/-- `dns_callback`, told of a cancellation where there is no result. -/
def dnsCallback (a : Answer) : Option DnsResult → Method CResolveOnly Unit
  | none => pure ()
  | some .failure => onResolveFailure a
  | some (.addresses _ _) => onResolveSuccess

/-- `CDNSResolve::Resolve`: the request, which is null when `dns_callback` ran already. -/
def cdnsResolve (a : Answer) : Lookup → Method CResolveOnly Bool
  | .later => pure true
  | .atOnce result => do
    dnsCallback a (some result)
    pure false

/-- `Resolve`. -/
def resolve (a : Answer) (lookup : Lookup) : Method CResolveOnly Unit := do
  check !(← read (·.request))
  let conn ← read (·.conn)
  check conn.isDns
  if conn.canResolve && (setResolveFamily conn.opts.nFamily).isSome then
    let request ← cdnsResolve a lookup
    assign fun c => { c with request }
  else onResolveFailure a

end ResolveObject

/-- A resolve-only request, and whether `StartConnection` has called its `Resolve`. -/
structure ResolveLife where
  object : Tracked CResolveOnly
  started : Bool
deriving DecidableEq, Repr

/-- What happens in the life of a resolve-only request. -/
inductive ResolveStep where
  | resolve (a : Answer) (lookup : Lookup)
  | dnsCallback (a : Answer) (result : Option DnsResult)
  | shutdown
deriving DecidableEq, Repr

namespace ResolveLife

/-- A request that `StartConnection` has just made. -/
def start (conn : CConnection) (id : ConnID) : ResolveLife := ⟨.live (.new conn id), false⟩

/-- Whether `Resolve` may come: from `StartConnection`, or from the event of a retry. -/
def due (life : ResolveLife) : Bool := !life.started || life.object.obj.retryEvent

/-- A method runs. -/
def run (life : ResolveLife) (method : Method CResolveOnly Unit) : Option ResolveLife :=
  (method life.object).map fun r => ⟨r.2, true⟩

/-- One step in its life; what cannot come changes nothing. -/
def step (life : ResolveLife) : ResolveStep → Option ResolveLife
  | .resolve a lookup =>
    if life.due then
      let fired := { life.object.obj with retryEvent := false }
      run { life with object := { life.object with obj := fired } } (ResolveObject.resolve a lookup)
    else some life
  | .dnsCallback a none => (ResolveObject.dnsCallback a none life.object).map fun r => { life with object := r.2 }
  | .dnsCallback a (some result) =>
    if life.object.obj.request then life.run (ResolveObject.dnsCallback a (some result)) else some life
  | .shutdown => if life.object.destroyed then some life else life.run (destroy ResolveObject.destructor)

end ResolveLife

end LibBtcNet
