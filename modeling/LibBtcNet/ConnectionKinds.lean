import LibBtcNet.BareProxy
import LibBtcNet.ConnectionBase

/-!
# The kinds of connections

The four classes over `ConnectionBase` and the resolve-only request. A method returns the
object it leaves, what it asked of the network, and the one report to the handler that
ends it, if there is one. A result is absent when an assertion fails.

The resolver may call `dns_callback` before `evdns_getaddrinfo` returns. The request that
is assigned afterwards is then null, as the callback left it.
-/

namespace LibBtcNet

/-- `ConnectionFailureType`, of which a single bit is reported. -/
inductive ConnectionFailureType where
  | connect
  | resolve
  | proxy
deriving DecidableEq, Repr

/-- What `dns_callback` is told: an error, or at least one address. -/
inductive DnsResult where
  | failure
  | addresses (first : Bytes) (rest : List Bytes)
deriving DecidableEq, Repr

/-- When `evdns_getaddrinfo` answers: before it returns, or later. -/
inductive Lookup where
  | atOnce (result : DnsResult)
  | later
deriving DecidableEq, Repr

/-- What an attempt asks of the network. -/
inductive NetAction where
  | getaddrinfo (host : Bytes) (port : UInt16) (family : ℕ)
  | socketConnect (addr : Bytes)
deriving DecidableEq, Repr

/-- The report to the handler that ends a method of a connection. -/
inductive ConnReport where
  | waiting
  | connectionFailure (type : ConnectionFailureType) (failed : CConnection) (retry : Bool)
  | outgoingConnected (bev : BufferEvent) (resolved : CConnection)
  | incomingConnected (bev : BufferEvent) (resolved : CConnection)
deriving DecidableEq, Repr

/-- The report to the handler that ends a method of a resolve-only request. -/
inductive ResolveReport where
  | waiting
  | resolveFailure (retry : Bool)
  | resolveComplete (resolved : List CConnection)
deriving DecidableEq, Repr

/-- The result of a method: the object left, what it asked of the network, and its report. -/
structure MethodResult (α ρ : Type) where
  obj : α
  net : List NetAction
  report : ρ
deriving DecidableEq, Repr

/-- The result of a method of a connection. -/
abbrev ConnResult (α : Type) := MethodResult α ConnReport

/-- Nothing happens to the object. -/
def ConnResult.unchanged {α : Type} (obj : α) : ConnResult α := ⟨obj, [], .waiting⟩

/-- `m_retries > 0 ? m_retries-- != 0 : m_retries != 0`: the budget left, and whether to retry. -/
def takeRetry (retries : ℤ) : ℤ × Bool :=
  if 0 < retries then (retries - 1, decide (retries ≠ 0)) else (retries, decide (retries ≠ 0))

/-- A retry is offered while the budget is not used up. -/
theorem takeRetry_retry (retries : ℤ) : (takeRetry retries).2 = decide (retries ≠ 0) := by
  rw [takeRetry]
  split <;> rfl

/-- `AF_UNSPEC`. -/
def afUnspec : ℕ := 0

/-- `SetResolveFamily`. -/
def setResolveFamily (family : ℕ) : Option ℕ :=
  if Family.allows family Family.ip then some afUnspec
  else if Family.allows family Family.ipv4 then some afInet
  else if Family.allows family Family.ipv6 then some afInet6
  else none

/-- `BareConnect`: the new bufferevent. -/
def bareConnect (bev : Option BufferEvent) (addr : Bytes) (connTimeout : ℤ) : Option BufferEvent :=
  if bev.isSome || addr.isEmpty then none
  else
    some (((BufferEvent.socketNew.setReadingWriting false).setTimeouts connTimeout connTimeout).setcb
      none none (some .connEvent))

/-- The `sockaddr_storage` that a `Connect` fills from the endpoint, zeros where that fails. -/
def connectAddr (endpoint : CConnectionBase) : Bytes :=
  (endpoint.getSockAddr sockaddrStorageSize).getD (List.replicate sockaddrStorageSize 0)

/-- An address that `GetSockAddr` copies is the one that is connected to. -/
theorem connectAddr_of_getSockAddr {endpoint : CConnectionBase} {addr : Bytes}
    (haddr : endpoint.getSockAddr sockaddrStorageSize = some addr) : connectAddr endpoint = addr := by
  rw [connectAddr, haddr, Option.getD_some]

/-- Where it copies none, that is the placeholder. -/
theorem connectAddr_of_getSockAddr_eq_none {endpoint : CConnectionBase}
    (hnone : endpoint.getSockAddr sockaddrStorageSize = none) :
    connectAddr endpoint = List.replicate sockaddrStorageSize 0 := by
  rw [connectAddr, hnone, Option.getD_none]

/-- `GetSockAddr` fails without a stored address, and where it is too long for a `sockaddr_storage`. -/
theorem CConnectionBase.getSockAddr_eq_none_iff (c : CConnectionBase) :
    c.getSockAddr sockaddrStorageSize = none ↔ c.addr = [] ∨ sockaddrStorageSize < c.addr.length := by
  rw [getSockAddr, ite_eq_right_iff, ← Nat.not_le]
  by_cases hstored : c.addr ≠ [] ∧ c.addr.length ≤ sockaddrStorageSize
  · simp [hstored]
  · simpa [hstored, not_and_or] using not_and_or.mp hstored

/-- The address that a `Connect` fills in is never empty. -/
theorem connectAddr_isEmpty (endpoint : CConnectionBase) : (connectAddr endpoint).isEmpty = false := by
  unfold connectAddr CConnectionBase.getSockAddr
  split
  · next haddr => simpa using haddr.1
  · rfl

/-- An address of a family that may be connected to is not empty. -/
theorem isEmpty_of_canConnectDirectAddr {addr : Bytes} {family : ℕ}
    (hcan : CConnection.canConnectDirectAddr addr family = true) : addr.isEmpty = false := by
  cases addr with
  | nil => simp [CConnection.canConnectDirectAddr, saFamily, storageByte, afUnix, afInet, afInet6] at hcan
  | cons => rfl

/-- `CDirectConnection`. -/
structure CDirectConnection where
  retries : ℤ
  bareBev : Option BufferEvent
deriving DecidableEq, Repr

namespace CDirectConnection

/-- The constructor. -/
def new (conn : CConnection) : CDirectConnection := ⟨conn.opts.nRetries, none⟩

/-- `Connect`. -/
def connect (conn : CConnection) (c : CDirectConnection) : Option (ConnResult CDirectConnection) :=
  if !conn.isSet then none
  else if conn.canConnectDirect then do
    let addr := connectAddr conn.toCConnectionBase
    let bev ← bareConnect c.bareBev addr conn.opts.nConnTimeout
    some ⟨{ c with bareBev := some bev }, [.socketConnect addr], .waiting⟩
  else some ⟨c, [], .connectionFailure .connect conn false⟩

/-- `OnConnectSuccess`. -/
def onConnectSuccess (conn : CConnection) (bev : BufferEvent) (c : CDirectConnection) :
    ConnResult CDirectConnection :=
  ⟨{ c with retries := conn.opts.nRetries }, [], .outgoingConnected bev conn⟩

/-- `OnConnectFailure`. -/
def onConnectFailure (conn : CConnection) (c : CDirectConnection) : ConnResult CDirectConnection :=
  let (retries, retry) := takeRetry c.retries
  ⟨{ c with retries }, [], .connectionFailure .connect conn retry⟩

/-- `conn_event`, which comes only while a bufferevent connects. -/
def connEvent (conn : CConnection) (event : BevEvents) (c : CDirectConnection) :
    ConnResult CDirectConnection :=
  match c.bareBev with
  | none => ConnResult.unchanged c
  | some bev =>
    if event.connected then { c with bareBev := none }.onConnectSuccess conn bev
    else { c with bareBev := none }.onConnectFailure conn

/-- What `Connect` does: it connects to the endpoint, or refuses an endpoint that it cannot connect to. -/
theorem connect_cases {conn : CConnection} {c : CDirectConnection} {r : ConnResult CDirectConnection}
    (hr : c.connect conn = some r) :
    (conn.canConnectDirect = true ∧ ∃ bev, r = ⟨{ c with bareBev := some bev },
        [.socketConnect (connectAddr conn.toCConnectionBase)], .waiting⟩) ∨
      r = ⟨c, [], .connectionFailure .connect conn false⟩ := by
  unfold connect at hr
  split at hr
  · contradiction
  · split at hr
    · next hcan =>
      simp only [Option.bind_eq_bind, Option.bind_eq_some_iff] at hr
      obtain ⟨bev, -, hr⟩ := hr
      exact Or.inl ⟨hcan, bev, (Option.some.inj hr).symm⟩
    · exact Or.inr (Option.some.inj hr).symm

end CDirectConnection

/-- `CDNSConnection`. The iterator is the part of the list from it on. -/
structure CDNSConnection where
  retries : ℤ
  resolved : List Bytes
  iter : List Bytes
  request : Bool
  bareBev : Option BufferEvent
deriving DecidableEq, Repr

namespace CDNSConnection

/-- The constructor. -/
def new (conn : CConnection) : CDNSConnection := ⟨conn.opts.nRetries, [], [], false, none⟩

/-- The connection named in reports about a resolved address. -/
def resolvedConnection (conn : CConnection) (addr : Bytes) : CConnection :=
  .ofSockAddr conn.opts conn.netConfig .unset addr

/-- `OnResolveFailure`. -/
def onResolveFailure (conn : CConnection) (c : CDNSConnection) : Option (ConnResult CDNSConnection) :=
  if !c.resolved.isEmpty || !c.iter.isEmpty then none
  else
    let (retries, retry) := takeRetry c.retries
    some ⟨{ c with retries, request := false }, [], .connectionFailure .resolve conn retry⟩

/-- `OnConnectFailure`. -/
def onConnectFailure (conn : CConnection) (c : CDNSConnection) : Option (ConnResult CDNSConnection) :=
  match c.iter with
  | [] => none
  | addr :: iter =>
    if c.request || c.resolved.isEmpty then none
    else
      let resolved := if iter.isEmpty then [] else c.resolved
      let retry := !iter.isEmpty || decide (c.retries ≠ 0)
      some ⟨{ c with resolved, iter }, [],
        .connectionFailure .connect (resolvedConnection conn addr) retry⟩

/-- `ConnectResolved`. -/
def connectResolved (conn : CConnection) (c : CDNSConnection) : Option (ConnResult CDNSConnection) :=
  match c.iter with
  | [] => none
  | addr :: _ =>
    if c.resolved.isEmpty then none
    else if CConnection.canConnectDirectAddr addr conn.opts.nFamily then do
      let bev ← bareConnect c.bareBev addr conn.opts.nConnTimeout
      some ⟨{ c with bareBev := some bev }, [.socketConnect addr], .waiting⟩
    else c.onConnectFailure conn

/-- `OnResolveSuccess`. -/
def onResolveSuccess (conn : CConnection) (first : Bytes) (rest : List Bytes) (c : CDNSConnection) :
    Option (ConnResult CDNSConnection) :=
  if !c.resolved.isEmpty || !c.iter.isEmpty then none
  else { c with request := false, resolved := first :: rest, iter := first :: rest }.connectResolved conn

/-- What `dns_callback` calls. -/
def onResolved (conn : CConnection) (result : DnsResult) (c : CDNSConnection) :
    Option (ConnResult CDNSConnection) :=
  match result with
  | .failure => c.onResolveFailure conn
  | .addresses first rest => c.onResolveSuccess conn first rest

/-- `DoResolve`. -/
def doResolve (names : NameInfo) (conn : CConnection) (lookup : Lookup) (c : CDNSConnection) :
    Option (ConnResult CDNSConnection) :=
  if c.request || !c.resolved.isEmpty || !c.iter.isEmpty then none
  else
    match setResolveFamily conn.opts.nFamily with
    | some family =>
      if conn.canResolve then
        let query := NetAction.getaddrinfo (conn.getHost names) (conn.getPort names) family
        match lookup with
        | .later => some ⟨{ c with request := true }, [query], .waiting⟩
        | .atOnce result => (c.onResolved conn result).map fun r => { r with net := query :: r.net }
      else c.onResolveFailure conn
    | none => c.onResolveFailure conn

/-- `Connect`. -/
def connect (names : NameInfo) (conn : CConnection) (lookup : Lookup) (c : CDNSConnection) :
    Option (ConnResult CDNSConnection) :=
  if c.request then none
  else if c.iter.isEmpty then c.doResolve names conn lookup
  else c.connectResolved conn

/-- `OnConnectSuccess`. -/
def onConnectSuccess (conn : CConnection) (bev : BufferEvent) (c : CDNSConnection) :
    Option (ConnResult CDNSConnection) :=
  match c.iter with
  | [] => none
  | addr :: _ =>
    if c.request || c.resolved.isEmpty then none
    else
      some ⟨{ c with resolved := [], iter := [], retries := conn.opts.nRetries }, [],
        .outgoingConnected bev (resolvedConnection conn addr)⟩

/-- `conn_event`, which comes only while a bufferevent connects. -/
def connEvent (conn : CConnection) (event : BevEvents) (c : CDNSConnection) :
    Option (ConnResult CDNSConnection) :=
  match c.bareBev with
  | none => some (ConnResult.unchanged c)
  | some bev =>
    if event.connected then { c with bareBev := none }.onConnectSuccess conn bev
    else { c with bareBev := none }.onConnectFailure conn

/-- `dns_callback`, which comes only while a request is outstanding. -/
def dnsCallback (conn : CConnection) (result : DnsResult) (c : CDNSConnection) :
    Option (ConnResult CDNSConnection) :=
  if c.request then c.onResolved conn result else some (ConnResult.unchanged c)

section Cases

variable {names : NameInfo} {conn : CConnection} {c : CDNSConnection} {r : ConnResult CDNSConnection}

/-- What `OnResolveFailure` does. -/
theorem onResolveFailure_cases (hr : c.onResolveFailure conn = some r) :
    (c.resolved = [] ∧ c.iter = []) ∧
      r = ⟨{ c with retries := (takeRetry c.retries).1, request := false }, [],
        .connectionFailure .resolve conn (takeRetry c.retries).2⟩ := by
  unfold onResolveFailure at hr
  split at hr
  · contradiction
  · next hempty => exact ⟨by simpa using hempty, (Option.some.inj hr).symm⟩

/-- What `OnConnectFailure` does. -/
theorem onConnectFailure_cases (hr : c.onConnectFailure conn = some r) :
    ∃ addr iter, c.iter = addr :: iter ∧ (c.request = false ∧ c.resolved ≠ []) ∧
      r = ⟨{ c with resolved := if iter.isEmpty then [] else c.resolved, iter }, [],
        .connectionFailure .connect (resolvedConnection conn addr) (!iter.isEmpty || decide (c.retries ≠ 0))⟩ := by
  unfold onConnectFailure at hr
  split at hr
  · contradiction
  · next addr iter hiter =>
    split at hr
    · contradiction
    · next hassert => exact ⟨addr, iter, hiter, by simpa using hassert, (Option.some.inj hr).symm⟩

/-- What `ConnectResolved` does: it connects to the next address, or reports one of another family. -/
theorem connectResolved_cases (hr : c.connectResolved conn = some r) :
    (∃ addr iter, c.iter = addr :: iter ∧ CConnection.canConnectDirectAddr addr conn.opts.nFamily = true ∧
      ∃ bev, r = ⟨{ c with bareBev := some bev }, [.socketConnect addr], .waiting⟩) ∨
    c.onConnectFailure conn = some r := by
  unfold connectResolved at hr
  split at hr
  · contradiction
  · next addr iter hiter =>
    split at hr
    · contradiction
    · split at hr
      · next hcan =>
        simp only [Option.bind_eq_bind, Option.bind_eq_some_iff] at hr
        obtain ⟨bev, -, hr⟩ := hr
        exact Or.inl ⟨addr, iter, hiter, hcan, bev, (Option.some.inj hr).symm⟩
      · exact Or.inr hr

/-- What an answer leads to: a failure, or the first of the addresses. -/
theorem onResolved_cases {result : DnsResult} (hr : c.onResolved conn result = some r) :
    c.onResolveFailure conn = some r ∨
      ∃ first rest,
        { c with request := false, resolved := first :: rest, iter := first :: rest }.connectResolved conn =
          some r := by
  cases result with
  | failure => exact Or.inl hr
  | addresses first rest =>
    change c.onResolveSuccess conn first rest = some r at hr
    unfold onResolveSuccess at hr
    split at hr
    · contradiction
    · exact Or.inr ⟨first, rest, hr⟩

/-- What `DoResolve` does: it asks the resolver, which may answer at once, or reports that it cannot. -/
theorem doResolve_cases {lookup : Lookup} (hr : c.doResolve names conn lookup = some r) :
    (conn.canResolve = true ∧ ∃ family, setResolveFamily conn.opts.nFamily = some family ∧
      (r = ⟨{ c with request := true }, [.getaddrinfo (conn.getHost names) (conn.getPort names) family],
          .waiting⟩ ∨
        ∃ result answered, c.onResolved conn result = some answered ∧
          r = { answered with
            net := .getaddrinfo (conn.getHost names) (conn.getPort names) family :: answered.net })) ∨
    c.onResolveFailure conn = some r := by
  unfold doResolve at hr
  split at hr
  · contradiction
  · split at hr
    · next family hfamily =>
      split at hr
      · next hcan =>
        cases lookup with
        | later => exact Or.inl ⟨hcan, family, hfamily, Or.inl (Option.some.inj hr).symm⟩
        | atOnce result =>
          obtain ⟨answered, hanswered, rfl⟩ := Option.map_eq_some_iff.mp hr
          exact Or.inl ⟨hcan, family, hfamily, Or.inr ⟨result, answered, hanswered, rfl⟩⟩
      · exact Or.inr hr
    · exact Or.inr hr

/-- What `Connect` does: it resolves the name again when no address is left. -/
theorem connect_cases {lookup : Lookup} (hr : c.connect names conn lookup = some r) :
    c.doResolve names conn lookup = some r ∨ c.connectResolved conn = some r := by
  unfold connect at hr
  split at hr
  · contradiction
  · split at hr
    · exact Or.inl hr
    · exact Or.inr hr

/-- What `conn_event` does while a bufferevent connects, or when there is none. -/
theorem connEvent_cases {event : BevEvents} (hr : c.connEvent conn event = some r) :
    r = ConnResult.unchanged c ∨
      (∃ bev addr iter, c.iter = addr :: iter ∧ c.request = false ∧
        r = ⟨{ c with bareBev := none, resolved := [], iter := [], retries := conn.opts.nRetries }, [],
          .outgoingConnected bev (resolvedConnection conn addr)⟩) ∨
      { c with bareBev := none }.onConnectFailure conn = some r := by
  unfold connEvent at hr
  split at hr
  · exact Or.inl (Option.some.inj hr).symm
  · next bev hbev =>
    split at hr
    · unfold onConnectSuccess at hr
      split at hr
      · contradiction
      · next addr iter hiter =>
        split at hr
        · contradiction
        · next hassert =>
          have hrequest : c.request = false := by simp_all
          exact Or.inr (Or.inl ⟨bev, addr, iter, hiter, hrequest, (Option.some.inj hr).symm⟩)
    · exact Or.inr (Or.inr hr)

/-- What `dns_callback` does while a request is outstanding, or when there is none. -/
theorem dnsCallback_cases {result : DnsResult} (hr : c.dnsCallback conn result = some r) :
    (c.request = true ∧ c.onResolved conn result = some r) ∨ r = ConnResult.unchanged c := by
  unfold dnsCallback at hr
  split at hr
  · next hrequest => exact Or.inl ⟨hrequest, hr⟩
  · exact Or.inr (Option.some.inj hr).symm

end Cases

end CDNSConnection

/-- `CProxyConn`, with the bufferevent of its `CBareProxy`. -/
structure CProxyConn where
  retries : ℤ
  bareBev : Option BufferEvent
  proxyBev : Option BufferEvent
deriving DecidableEq, Repr

namespace CProxyConn

/-- The constructor. -/
def new (conn : CConnection) : CProxyConn := ⟨conn.opts.nRetries, none, none⟩

/-- `Connect`. -/
def connect (conn : CConnection) (c : CProxyConn) : Option (ConnResult CProxyConn) :=
  if !conn.isSet || !conn.proxy.isSet then none
  else if conn.canConnectProxy then do
    let addr := connectAddr conn.proxy.toCConnectionBase
    let bev ← bareConnect c.bareBev addr conn.opts.nConnTimeout
    some ⟨{ c with bareBev := some bev }, [.socketConnect addr], .waiting⟩
  else some ⟨c, [], .connectionFailure .proxy conn false⟩

/-- `OnConnectSuccess`. -/
def onConnectSuccess (conn : CConnection) (bev : BufferEvent) (c : CProxyConn) :
    Option (ConnResult CProxyConn) :=
  (CBareProxy.initProxy bev ⟨conn, c.proxyBev⟩).map fun result =>
    ⟨{ c with proxyBev := result.1.bev }, [], .waiting⟩

/-- `OnConnectFailure` and `OnProxyFailure`, by the type they report. -/
def onFailure (type : ConnectionFailureType) (conn : CConnection) (c : CProxyConn) :
    ConnResult CProxyConn :=
  let (retries, retry) := takeRetry c.retries
  ⟨{ c with retries }, [], .connectionFailure type conn retry⟩

/-- `OnConnectFailure`. -/
def onConnectFailure (conn : CConnection) (c : CProxyConn) : ConnResult CProxyConn :=
  c.onFailure .proxy conn

/-- `OnProxyFailure`. -/
def onProxyFailure (conn : CConnection) (c : CProxyConn) : ConnResult CProxyConn :=
  c.onFailure .connect conn

/-- `OnProxySuccess`. -/
def onProxySuccess (bev : BufferEvent) (resolved : CConnection) (c : CProxyConn) :
    ConnResult CProxyConn :=
  ⟨c, [], .outgoingConnected bev resolved⟩

/-- `conn_event`, which comes only while a bufferevent connects. -/
def connEvent (conn : CConnection) (event : BevEvents) (c : CProxyConn) :
    Option (ConnResult CProxyConn) :=
  match c.bareBev with
  | none => some (ConnResult.unchanged c)
  | some bev =>
    if event.connected then { c with bareBev := none }.onConnectSuccess conn bev
    else some ({ c with bareBev := none }.onConnectFailure conn)

/-- The handshake goes on; its last effect may be the report that ends it. -/
def handshake (names : NameInfo) (conn : CConnection) (s : ProxyStep) (c : CProxyConn) :
    Option (ConnResult CProxyConn) :=
  (ProxyRun.step names ⟨⟨conn, c.proxyBev⟩, [], []⟩ s).map fun run =>
    let c := { c with proxyBev := run.proxy.bev }
    match run.log.getLast? with
    | some .proxyFailure => c.onProxyFailure conn
    | some (.proxySuccess bev resolved) => c.onProxySuccess bev resolved
    | _ => ConnResult.unchanged c

section Cases

variable {conn : CConnection} {c : CProxyConn} {r : ConnResult CProxyConn}

/-- What `Connect` does: it connects to the proxy, or refuses an endpoint that no proxy can be asked for. -/
theorem connect_cases (hr : c.connect conn = some r) :
    (conn.isSet = true ∧ conn.canConnectProxy = true ∧ ∃ bev, r = ⟨{ c with bareBev := some bev },
        [.socketConnect (connectAddr conn.proxy.toCConnectionBase)], .waiting⟩) ∨
      r = ⟨c, [], .connectionFailure .proxy conn false⟩ := by
  unfold connect at hr
  split at hr
  · contradiction
  · next hset =>
    split at hr
    · next hcan =>
      simp only [Option.bind_eq_bind, Option.bind_eq_some_iff] at hr
      obtain ⟨bev, -, hr⟩ := hr
      exact Or.inl ⟨by simp_all, hcan, bev, (Option.some.inj hr).symm⟩
    · exact Or.inr (Option.some.inj hr).symm

/-- What `conn_event` does while a bufferevent connects, or when there is none. -/
theorem connEvent_cases {event : BevEvents} (hr : c.connEvent conn event = some r) :
    r = ConnResult.unchanged c ∨
      ∃ bev, c.bareBev = some bev ∧
        ((∃ proxyBev, r = ⟨{ c with bareBev := none, proxyBev }, [], .waiting⟩) ∨
          r = { c with bareBev := none }.onConnectFailure conn) := by
  unfold connEvent at hr
  split at hr
  · exact Or.inl (Option.some.inj hr).symm
  · next bev hbev =>
    split at hr
    · obtain ⟨begun, -, rfl⟩ := Option.map_eq_some_iff.mp hr
      exact Or.inr ⟨bev, hbev, Or.inl ⟨begun.1.bev, rfl⟩⟩
    · exact Or.inr ⟨bev, hbev, Or.inr (Option.some.inj hr).symm⟩

end Cases

end CProxyConn

/-- `CIncomingConn`: the address that was accepted. -/
structure CIncomingConn where
  addr : Bytes
deriving DecidableEq, Repr

/-- `CIncomingConn::Connect`. -/
def CIncomingConn.connect (conn : CConnection) (c : CIncomingConn) : ConnResult CIncomingConn :=
  ⟨c, [], .incomingConnected .socketNew (.ofSockAddr conn.opts conn.netConfig .unset c.addr)⟩

/-- `CResolveOnly`, with the pending state of its retry event. -/
structure CResolveOnly where
  id : ConnID
  conn : CConnection
  retries : ℤ
  request : Bool
  retryEvent : Bool
deriving DecidableEq, Repr

/-- A connection that can be resolved has a family to resolve to. -/
theorem setResolveFamily_of_canResolve {conn : CConnection} (hcan : conn.canResolve = true) :
    ∃ family, setResolveFamily conn.opts.nFamily = some family := by
  unfold CConnection.canResolve at hcan
  unfold setResolveFamily
  split
  · exact ⟨_, rfl⟩
  · split
    · exact ⟨_, rfl⟩
    · split
      · exact ⟨_, rfl⟩
      · simp_all

/-- The requests that `StartConnection` only resolves. -/
def CConnection.isResolveOnly (conn : CConnection) : Bool :=
  conn.isDns && conn.opts.doResolve == .resolveOnly

/-- Whether a request resolves its name and connects to the addresses itself. -/
def CConnection.resolvesToConnect (conn : CConnection) : Bool :=
  !conn.isResolveOnly && !conn.proxy.isSet && conn.canResolve

namespace CResolveOnly

/-- The constructor. -/
def new (conn : CConnection) (id : ConnID) : CResolveOnly := ⟨id, conn, conn.opts.nRetries, false, false⟩

/-- `OnResolveFailure`. -/
def onResolveFailure (c : CResolveOnly) : MethodResult CResolveOnly ResolveReport :=
  let (retries, retry) := takeRetry c.retries
  ⟨{ c with retries, request := false }, [], .resolveFailure retry⟩

/-- `OnResolveSuccess`. -/
def onResolveSuccess (first : Bytes) (rest : List Bytes) (c : CResolveOnly) :
    MethodResult CResolveOnly ResolveReport :=
  let connections := (first :: rest).map (CConnection.ofSockAddr c.conn.opts c.conn.netConfig .unset)
  ⟨{ c with retries := c.conn.opts.nRetries, request := false }, [], .resolveComplete connections⟩

/-- What `dns_callback` calls. -/
def onResolved (result : DnsResult) (c : CResolveOnly) : MethodResult CResolveOnly ResolveReport :=
  match result with
  | .failure => c.onResolveFailure
  | .addresses first rest => c.onResolveSuccess first rest

/-- `Resolve`. -/
def resolve (names : NameInfo) (lookup : Lookup) (c : CResolveOnly) :
    Option (MethodResult CResolveOnly ResolveReport) :=
  if c.request || !c.conn.isDns then none
  else
    match setResolveFamily c.conn.opts.nFamily with
    | some family =>
      if c.conn.canResolve then
        let query := NetAction.getaddrinfo (c.conn.getHost names) (c.conn.getPort names) family
        match lookup with
        | .later => some ⟨{ c with request := true }, [query], .waiting⟩
        | .atOnce result => let r := c.onResolved result; some { r with net := query :: r.net }
      else some c.onResolveFailure
    | none => some c.onResolveFailure

/-- `dns_callback`, which comes only while a request is outstanding. -/
def dnsCallback (result : DnsResult) (c : CResolveOnly) : MethodResult CResolveOnly ResolveReport :=
  if c.request then c.onResolved result else ⟨c, [], .waiting⟩

/-- `Retry`. -/
def retry (c : CResolveOnly) : CResolveOnly := { c with retryEvent := true }

end CResolveOnly

/-- The class of a connection. -/
inductive ConnKind where
  | incoming (c : CIncomingConn)
  | direct (c : CDirectConnection)
  | dns (c : CDNSConnection)
  | proxied (c : CProxyConn)
deriving DecidableEq, Repr

/-- A connection object: its base and the fields of its class. -/
structure ConnectionObject where
  base : ConnectionBase
  kind : ConnKind
deriving DecidableEq, Repr

/-- The handles that the class holds: a connecting socket, a handshake, a DNS request. -/
def ConnKind.handles : ConnKind → ℕ
  | .incoming _ => 0
  | .direct c => c.bareBev.isSome.toNat
  | .dns c => c.bareBev.isSome.toNat + c.request.toNat
  | .proxied c => c.bareBev.isSome.toNat + c.proxyBev.isSome.toNat

/-- `IsOutgoing`. -/
def ConnKind.isOutgoing : ConnKind → Bool
  | .incoming _ => false
  | _ => true

namespace ConnectionObject

/-- `IsOutgoing`. -/
def isOutgoing (obj : ConnectionObject) : Bool := obj.kind.isOutgoing

/-- The result of a method of the class, for the whole object: `OnOutgoingConnected` and
`OnIncomingConnected` take the bufferevent over. -/
def settle {α : Type} (base : ConnectionBase) (kind : α → ConnKind) (r : ConnResult α) :
    ConnResult ConnectionObject :=
  let base :=
    match r.report with
    | .outgoingConnected bev _ => base.initConnection bev
    | .incomingConnected bev _ => base.initConnection bev
    | _ => base
  ⟨⟨base, kind r.obj⟩, r.net, r.report⟩

/-- `Connect`. -/
def connect (names : NameInfo) (lookup : Lookup) (obj : ConnectionObject) :
    Option (ConnResult ConnectionObject) :=
  match obj.kind with
  | .incoming c => some (settle obj.base .incoming (c.connect obj.base.conn))
  | .direct c => (c.connect obj.base.conn).map (settle obj.base .direct)
  | .dns c => (c.connect names obj.base.conn lookup).map (settle obj.base .dns)
  | .proxied c => (c.connect obj.base.conn).map (settle obj.base .proxied)

/-- `conn_event`. -/
def connEvent (event : BevEvents) (obj : ConnectionObject) : Option (ConnResult ConnectionObject) :=
  match obj.kind with
  | .incoming _ => some (ConnResult.unchanged obj)
  | .direct c => some (settle obj.base .direct (c.connEvent obj.base.conn event))
  | .dns c => (c.connEvent obj.base.conn event).map (settle obj.base .dns)
  | .proxied c => (c.connEvent obj.base.conn event).map (settle obj.base .proxied)

/-- `dns_callback`. -/
def dnsCallback (result : DnsResult) (obj : ConnectionObject) : Option (ConnResult ConnectionObject) :=
  match obj.kind with
  | .dns c => (c.dnsCallback obj.base.conn result).map (settle obj.base .dns)
  | _ => some (ConnResult.unchanged obj)

/-- The callbacks of the handshake with the proxy. -/
def handshake (names : NameInfo) (s : ProxyStep) (obj : ConnectionObject) :
    Option (ConnResult ConnectionObject) :=
  match obj.kind with
  | .proxied c => (c.handshake names obj.base.conn s).map (settle obj.base .proxied)
  | _ => some (ConnResult.unchanged obj)

/-- `Retry`. -/
def retry (newId : ConnID) (obj : ConnectionObject) : ConnectionObject :=
  { obj with base := obj.base.retry newId }

/-- `Enable`. -/
def enable (obj : ConnectionObject) : ConnectionObject := { obj with base := obj.base.enable }

/-- The object that `StartConnection` makes for a request, by its proxy and its host. -/
def new (conn : CConnection) (id : ConnID) (bytesRead bytesWritten : ℕ) : ConnectionObject where
  base := .new conn id bytesRead bytesWritten
  kind :=
    if conn.proxy.isSet then .proxied (.new conn)
    else if conn.isDns then .dns (.new conn)
    else .direct (.new conn)

end ConnectionObject

/-- What a method leaves with its report: one handle at most while it waits, and none once it has
reported. Only an incoming connection reports as one. -/
def ConnResult.Settled {α : Type} (kind : α → ConnKind) (r : ConnResult α) : Prop :=
  match r.report with
  | .waiting => (kind r.obj).handles ≤ 1
  | .incomingConnected _ _ => (kind r.obj).handles = 0 ∧ (kind r.obj).isOutgoing = false
  | _ => (kind r.obj).handles = 0 ∧ (kind r.obj).isOutgoing = true

/-- A direct connection without a handle connects or reports. -/
theorem CDirectConnection.connect_settled {conn : CConnection} {c : CDirectConnection}
    {r : ConnResult CDirectConnection} (hidle : (ConnKind.direct c).handles = 0)
    (hr : c.connect conn = some r) : r.Settled .direct := by
  rcases connect_cases hr with ⟨-, bev, rfl⟩ | rfl
  · exact le_refl 1
  · exact ⟨hidle, rfl⟩

/-- `conn_event` ends the attempt of a direct connection. -/
theorem CDirectConnection.connEvent_settled (conn : CConnection) (event : BevEvents)
    (c : CDirectConnection) : (c.connEvent conn event).Settled .direct := by
  unfold connEvent
  split
  · next hnone => simp [ConnResult.Settled, ConnResult.unchanged, ConnKind.handles, hnone]
  · split
    · exact ⟨rfl, rfl⟩
    · exact ⟨rfl, rfl⟩

namespace CDNSConnection

variable {conn : CConnection} {c : CDNSConnection} {r : ConnResult CDNSConnection}

/-- A failed resolution is reported without a handle left. -/
theorem onResolveFailure_settled (hbare : c.bareBev = none) (hr : c.onResolveFailure conn = some r) :
    r.Settled .dns := by
  obtain ⟨-, rfl⟩ := onResolveFailure_cases hr
  simp [ConnResult.Settled, ConnKind.handles, ConnKind.isOutgoing, hbare]

/-- A failed connect is reported without a handle left. -/
theorem onConnectFailure_settled (hbare : c.bareBev = none) (hr : c.onConnectFailure conn = some r) :
    r.Settled .dns := by
  obtain ⟨addr, iter, -, ⟨hrequest, -⟩, rfl⟩ := onConnectFailure_cases hr
  simp [ConnResult.Settled, ConnKind.handles, ConnKind.isOutgoing, hbare, hrequest]

/-- The next address is connected to, or its failure is reported. -/
theorem connectResolved_settled (hbare : c.bareBev = none) (hrequest : c.request = false)
    (hr : c.connectResolved conn = some r) : r.Settled .dns := by
  rcases connectResolved_cases hr with ⟨addr, iter, -, -, bev, rfl⟩ | hfails
  · simp [ConnResult.Settled, ConnKind.handles, hrequest]
  · exact onConnectFailure_settled hbare hfails

/-- An answered resolution goes on to the first address, or reports a failure. -/
theorem onResolved_settled {result : DnsResult} (hbare : c.bareBev = none)
    (hr : c.onResolved conn result = some r) : r.Settled .dns := by
  rcases onResolved_cases hr with hfails | ⟨first, rest, hconnects⟩
  · exact onResolveFailure_settled hbare hfails
  · refine connectResolved_settled ?_ ?_ hconnects
    · exact hbare
    · rfl

/-- A DNS connection without a handle resolves, connects or reports. -/
theorem connect_settled {names : NameInfo} {lookup : Lookup} (hidle : (ConnKind.dns c).handles = 0)
    (hr : c.connect names conn lookup = some r) : r.Settled .dns := by
  obtain ⟨hbare, hrequest⟩ : c.bareBev = none ∧ c.request = false := by
    simpa [ConnKind.handles] using hidle
  rcases connect_cases hr with hresolves | hconnects
  · rcases doResolve_cases hresolves with ⟨-, family, -, rfl | ⟨result, answered, hanswered, rfl⟩⟩ | hfails
    · simp [ConnResult.Settled, ConnKind.handles, hbare]
    · have hsettled := onResolved_settled hbare hanswered
      exact hsettled
    · exact onResolveFailure_settled hbare hfails
  · exact connectResolved_settled hbare hrequest hconnects

/-- `conn_event` ends the attempt at the current address. -/
theorem connEvent_settled {event : BevEvents} (hhandles : (ConnKind.dns c).handles ≤ 1)
    (hr : c.connEvent conn event = some r) : r.Settled .dns := by
  rcases connEvent_cases hr with rfl | ⟨bev, addr, iter, -, hrequest, rfl⟩ | hfails
  · exact hhandles
  · simp [ConnResult.Settled, ConnKind.handles, ConnKind.isOutgoing, hrequest]
  · exact onConnectFailure_settled rfl hfails

/-- `dns_callback` ends the request. -/
theorem dnsCallback_settled {result : DnsResult} (hhandles : (ConnKind.dns c).handles ≤ 1)
    (hr : c.dnsCallback conn result = some r) : r.Settled .dns := by
  rcases dnsCallback_cases hr with ⟨hrequest, hanswered⟩ | rfl
  · have hbare : c.bareBev = none := by
      cases hbev : c.bareBev with
      | none => rfl
      | some bev => simp [ConnKind.handles, hbev, hrequest] at hhandles
    exact onResolved_settled hbare hanswered
  · exact hhandles

end CDNSConnection

/-- A callback of the handshake that does more than write has let go of its bufferevent. -/
def ProxyEffect.OnlyWrites (effects : List ProxyEffect) : Prop := ∀ e ∈ effects, ∃ data, e = .write data

namespace CBareProxy

variable {names : NameInfo} {proxy : CBareProxy} {bev : BufferEvent} {result : CBareProxy × List ProxyEffect}

/-- Writing the request ends the handshake only by a failure. -/
theorem sendRequest_ends (hresult : proxy.sendRequest names bev = some result) :
    result.1.bev = none ∨ ProxyEffect.OnlyWrites result.2 := by
  unfold sendRequest at hresult
  split at hresult
  · obtain rfl := Option.some.inj hresult
    exact Or.inr (by simp [ProxyEffect.OnlyWrites])
  · obtain rfl := Option.some.inj hresult
    exact Or.inl rfl
  · contradiction

/-- A read callback that does more than write lets go of the bufferevent. -/
theorem runReadcb_ends (hresult : proxy.runReadcb names bev = some result) :
    result.1.bev = none ∨ ProxyEffect.OnlyWrites result.2 := by
  unfold runReadcb at hresult
  split at hresult
  · unfold receiveInit at hresult
    simp only at hresult
    split at hresult
    · obtain rfl := Option.some.inj hresult
      exact Or.inl rfl
    · split at hresult
      · obtain rfl := Option.some.inj hresult
        exact Or.inl rfl
      · split at hresult
        · split at hresult
          · obtain rfl := Option.some.inj hresult
            exact Or.inr (by simp [ProxyEffect.OnlyWrites])
          · obtain rfl := Option.some.inj hresult
            exact Or.inl rfl
        · exact sendRequest_ends hresult
  · unfold checkAuthResponse at hresult
    simp only at hresult
    split at hresult
    · obtain rfl := Option.some.inj hresult
      exact Or.inl rfl
    · split at hresult
      · obtain rfl := Option.some.inj hresult
        exact Or.inl rfl
      · exact sendRequest_ends hresult
  · unfold readFinal at hresult
    simp only at hresult
    split at hresult
    · contradiction
    · split at hresult
      · obtain rfl := Option.some.inj hresult
        exact Or.inl rfl
      · split at hresult
        · obtain rfl := Option.some.inj hresult
          exact Or.inl rfl
        · split at hresult
          · obtain rfl := Option.some.inj hresult
            exact Or.inr (by simp [ProxyEffect.OnlyWrites])
          · split at hresult
            · split at hresult
              · contradiction
              · obtain rfl := Option.some.inj hresult
                exact Or.inl rfl
            · obtain rfl := Option.some.inj hresult
              exact Or.inl rfl
  · obtain rfl := Option.some.inj hresult
    exact Or.inr (by simp [ProxyEffect.OnlyWrites])

end CBareProxy

namespace ProxyRun

/-- Nothing happens to a handshake that is over. -/
theorem step_of_none {run : ProxyRun} (names : NameInfo) (s : ProxyStep) (hbev : run.proxy.bev = none) :
    run.step names s = some run := by
  unfold step
  rw [hbev]

/-- A step that does more than write ends the handshake. -/
theorem step_ends {names : NameInfo} {run next : ProxyRun} {s : ProxyStep} (hlog : run.log = [])
    (hnext : run.step names s = some next) :
    next.proxy.bev = none ∨ ProxyEffect.OnlyWrites next.log := by
  have hkept (proxy : CBareProxy) (received : Bytes) :
      ProxyEffect.OnlyWrites { run with proxy, received }.log := by
    simp [ProxyEffect.OnlyWrites, hlog]
  unfold step at hnext
  split at hnext
  · obtain rfl := Option.some.inj hnext
    exact Or.inr (hkept run.proxy run.received)
  · split at hnext
    · obtain rfl := Option.some.inj hnext
      exact Or.inr (hkept _ _)
    · obtain rfl := Option.some.inj hnext
      exact Or.inr (hkept run.proxy run.received)
  · split at hnext
    · obtain ⟨result, hresult, rfl⟩ := Option.map_eq_some_iff.mp hnext
      simpa [perform, hlog] using CBareProxy.runReadcb_ends hresult
    · obtain rfl := Option.some.inj hnext
      exact Or.inr (hkept run.proxy run.received)
  · obtain rfl := Option.some.inj hnext
    unfold CBareProxy.eventCb
    split
    · exact Or.inl rfl
    · exact Or.inr (by simp [ProxyEffect.OnlyWrites, perform, hlog])

end ProxyRun

namespace CProxyConn

variable {conn : CConnection} {c : CProxyConn} {r : ConnResult CProxyConn}

/-- A proxied connection without a handle connects or reports. -/
theorem connect_settled (hidle : (ConnKind.proxied c).handles = 0) (hr : c.connect conn = some r) :
    r.Settled .proxied := by
  rcases connect_cases hr with ⟨-, -, bev, rfl⟩ | rfl
  · have hproxy : c.proxyBev = none := by simp_all [ConnKind.handles]
    simp [ConnResult.Settled, ConnKind.handles, hproxy]
  · exact ⟨hidle, rfl⟩

/-- `conn_event` ends the attempt at the proxy, or begins the handshake. -/
theorem connEvent_settled {event : BevEvents} (hhandles : (ConnKind.proxied c).handles ≤ 1)
    (hr : c.connEvent conn event = some r) : r.Settled .proxied := by
  rcases connEvent_cases hr with rfl | ⟨bev, hbev, hconnected⟩
  · exact hhandles
  · have hproxy : c.proxyBev = none := by
      cases hproxy : c.proxyBev with
      | none => rfl
      | some other => simp [ConnKind.handles, hbev, hproxy] at hhandles
    rcases hconnected with ⟨proxyBev, rfl⟩ | rfl
    · simpa [ConnResult.Settled, ConnKind.handles] using Bool.toNat_le _
    · simp [ConnResult.Settled, ConnKind.handles, ConnKind.isOutgoing, onConnectFailure, onFailure, hproxy]

/-- A step of the handshake goes on with it, or reports how it ended. -/
theorem handshake_settled {names : NameInfo} {s : ProxyStep}
    (hhandles : (ConnKind.proxied c).handles ≤ 1) (hr : c.handshake names conn s = some r) :
    r.Settled .proxied := by
  obtain ⟨run, hrun, rfl⟩ := Option.map_eq_some_iff.mp hr
  cases hproxy : c.proxyBev with
  | none =>
    obtain rfl : _ = run := Option.some.inj ((ProxyRun.step_of_none names s hproxy).symm.trans hrun)
    simpa [ConnResult.Settled, ConnResult.unchanged, ConnKind.handles, hproxy] using hhandles
  | some bev =>
    have hbare : c.bareBev = none := by
      cases hbare : c.bareBev with
      | none => rfl
      | some other => simp [ConnKind.handles, hbare, hproxy] at hhandles
    have hends := ProxyRun.step_ends rfl hrun
    simp only
    split
    · next hlast =>
      obtain hnone | hwrites := hends
      · simp [ConnResult.Settled, ConnKind.handles, ConnKind.isOutgoing, onProxyFailure, onFailure, hbare, hnone]
      · obtain ⟨data, hdata⟩ := hwrites _ (List.mem_of_getLast? hlast)
        contradiction
    · next hlast =>
      obtain hnone | hwrites := hends
      · simp [ConnResult.Settled, ConnKind.handles, ConnKind.isOutgoing, onProxySuccess, hbare, hnone]
      · obtain ⟨data, hdata⟩ := hwrites _ (List.mem_of_getLast? hlast)
        contradiction
    · simpa [ConnResult.Settled, ConnResult.unchanged, ConnKind.handles, hbare] using Bool.toNat_le _

end CProxyConn

namespace ConnectionObject

/-- What a method of an object leaves: the base as it was, unless it takes a bufferevent over, the
same direction, and what its class leaves. -/
structure Steps (obj : ConnectionObject) (r : ConnResult ConnectionObject) : Prop where
  base : r.obj.base =
    match r.report with
    | .outgoingConnected bev _ => obj.base.initConnection bev
    | .incomingConnected bev _ => obj.base.initConnection bev
    | _ => obj.base
  outgoing : r.obj.isOutgoing = obj.isOutgoing
  settled : r.Settled ConnectionObject.kind

/-- A result of the class is one of the object. -/
theorem steps_settle {α : Type} (obj : ConnectionObject) (kind : α → ConnKind) {r : ConnResult α}
    (houtgoing : (kind r.obj).isOutgoing = obj.isOutgoing) (hsettled : r.Settled kind) :
    obj.Steps (settle obj.base kind r) := by
  obtain ⟨c, net, report⟩ := r
  cases report <;> exact ⟨rfl, houtgoing, hsettled⟩

/-- Doing nothing is a step. -/
theorem steps_unchanged {obj : ConnectionObject} (hhandles : obj.kind.handles ≤ 1) :
    obj.Steps (ConnResult.unchanged obj) :=
  ⟨rfl, rfl, hhandles⟩

variable {obj : ConnectionObject} {r : ConnResult ConnectionObject} {names : NameInfo}

/-- `Connect` on an object without a handle. -/
theorem connect_steps {lookup : Lookup} (hidle : obj.kind.handles = 0)
    (hr : obj.connect names lookup = some r) : obj.Steps r := by
  obtain ⟨base, kind⟩ := obj
  cases kind with
  | incoming c =>
    obtain rfl := Option.some.inj hr
    exact steps_settle ⟨base, .incoming c⟩ .incoming rfl ⟨rfl, rfl⟩
  | direct c =>
    obtain ⟨result, hresult, rfl⟩ := Option.map_eq_some_iff.mp hr
    exact steps_settle ⟨base, .direct c⟩ .direct rfl (CDirectConnection.connect_settled hidle hresult)
  | dns c =>
    obtain ⟨result, hresult, rfl⟩ := Option.map_eq_some_iff.mp hr
    exact steps_settle ⟨base, .dns c⟩ .dns rfl (CDNSConnection.connect_settled hidle hresult)
  | proxied c =>
    obtain ⟨result, hresult, rfl⟩ := Option.map_eq_some_iff.mp hr
    exact steps_settle ⟨base, .proxied c⟩ .proxied rfl (CProxyConn.connect_settled hidle hresult)

/-- `conn_event` on an object with one handle at most. -/
theorem connEvent_steps {event : BevEvents} (hhandles : obj.kind.handles ≤ 1)
    (hr : obj.connEvent event = some r) : obj.Steps r := by
  obtain ⟨base, kind⟩ := obj
  cases kind with
  | incoming c =>
    obtain rfl := Option.some.inj hr
    exact steps_unchanged hhandles
  | direct c =>
    obtain rfl := Option.some.inj hr
    exact steps_settle ⟨base, .direct c⟩ .direct rfl (CDirectConnection.connEvent_settled _ _ _)
  | dns c =>
    obtain ⟨result, hresult, rfl⟩ := Option.map_eq_some_iff.mp hr
    exact steps_settle ⟨base, .dns c⟩ .dns rfl (CDNSConnection.connEvent_settled hhandles hresult)
  | proxied c =>
    obtain ⟨result, hresult, rfl⟩ := Option.map_eq_some_iff.mp hr
    exact steps_settle ⟨base, .proxied c⟩ .proxied rfl (CProxyConn.connEvent_settled hhandles hresult)

/-- `dns_callback` on an object with one handle at most. -/
theorem dnsCallback_steps {result : DnsResult} (hhandles : obj.kind.handles ≤ 1)
    (hr : obj.dnsCallback result = some r) : obj.Steps r := by
  obtain ⟨base, kind⟩ := obj
  unfold dnsCallback at hr
  split at hr
  · next c hkind =>
    obtain ⟨answered, hanswered, rfl⟩ := Option.map_eq_some_iff.mp hr
    change kind = .dns c at hkind
    subst hkind
    exact steps_settle ⟨base, .dns c⟩ .dns rfl (CDNSConnection.dnsCallback_settled hhandles hanswered)
  · obtain rfl := Option.some.inj hr
    exact steps_unchanged hhandles

/-- The handshake on an object with one handle at most. -/
theorem handshake_steps {s : ProxyStep} (hhandles : obj.kind.handles ≤ 1)
    (hr : obj.handshake names s = some r) : obj.Steps r := by
  obtain ⟨base, kind⟩ := obj
  unfold handshake at hr
  split at hr
  · next c hkind =>
    obtain ⟨result, hresult, rfl⟩ := Option.map_eq_some_iff.mp hr
    change kind = .proxied c at hkind
    subst hkind
    exact steps_settle ⟨base, .proxied c⟩ .proxied rfl (CProxyConn.handshake_settled hhandles hresult)
  · obtain rfl := Option.some.inj hr
    exact steps_unchanged hhandles

end ConnectionObject

end LibBtcNet
