import LibBtcNet.Attempts
import LibBtcNet.Support.Budget

/-!
# The retry budget of an outgoing request

A request is followed from its start through failures alone, with a user who accepts every
retry that is offered. A round is one attempt at the endpoint or its proxy, or one
resolution with a connect to each address that it gave.

Every round takes a retry, but for the one of a DNS connection whose addresses all fail:
`OnConnectFailure` offers a retry as long as the budget is not zero and never takes one.

The request of a connection does nothing that its attempts do not do: every round is a run of them.
-/

namespace LibBtcNet

/-- `ProxyFailure`, by which every failed handshake ends. -/
def CProxyConn.proxyFailure (conn : CConnection) (c : CProxyConn) : ConnResult CProxyConn :=
  match c.proxyBev with
  | none => ConnResult.unchanged c
  | some _ => { c with proxyBev := none }.onProxyFailure conn

/-- An outgoing request, as the handler holds it. -/
inductive OutgoingRequest where
  | connection (obj : ConnectionObject)
  | resolveOnly (c : CResolveOnly)
deriving DecidableEq, Repr

/-- What `StartConnection` makes of a request: nothing, if a proxy would have to resolve it. -/
def OutgoingRequest.new (conn : CConnection) (id : ConnID) (bytesRead bytesWritten : ℕ) :
    Option OutgoingRequest :=
  if conn.isResolveOnly then
    if conn.proxy.isSet then none else some (.resolveOnly (.new conn id))
  else some (.connection (.new conn id bytesRead bytesWritten))

/-- A request followed from its start: about to begin a round or an attempt, waiting for an answer,
settled by a success, or dropped. -/
inductive RequestRun where
  | due (request : OutgoingRequest)
  | waiting (request : OutgoingRequest)
  | succeeded
  | dropped
deriving DecidableEq, Repr

/-- What happens to a request: it is started or its retry timer runs out, or it is answered. -/
inductive RequestEvent where
  | begin (lookup : Lookup)
  | dnsCallback (result : DnsResult)
  | connEvent (event : BevEvents)
  | proxyFailure
deriving DecidableEq, Repr

namespace RequestRun

/-- `CConnectionHandlerInt::OnConnectionFailure` with a user who accepts every retry. -/
def afterReport (r : ConnResult ConnectionObject) : RequestRun :=
  match r.report with
  | .waiting => .waiting (.connection r.obj)
  | .connectionFailure _ _ true => .due (.connection (r.obj.retry r.obj.base.id))
  | .connectionFailure _ _ false => .dropped
  | _ => .succeeded

/-- `CConnectionHandlerInt::OnResolveFailure` with a user who accepts every retry. -/
def afterResolve (r : MethodResult CResolveOnly ResolveReport) : RequestRun :=
  match r.report with
  | .waiting => .waiting (.resolveOnly r.obj)
  | .resolveFailure true => .due (.resolveOnly r.obj.retry)
  | .resolveFailure false => .dropped
  | .resolveComplete _ => .succeeded

/-- One event of the request; an event that cannot come changes nothing. -/
def step (names : NameInfo) (run : RequestRun) (e : RequestEvent) : Option RequestRun :=
  match run, e with
  | .due (.connection obj), .begin lookup =>
    ({ obj with base := { obj.base with reconnectFunc := false } }.connect names lookup).map afterReport
  | .due (.resolveOnly c), .begin lookup =>
    ({ c with retryEvent := false }.resolve names lookup).map afterResolve
  | .waiting (.connection obj), .dnsCallback result => (obj.dnsCallback result).map afterReport
  | .waiting (.resolveOnly c), .dnsCallback result => some (afterResolve (c.dnsCallback result))
  | .waiting (.connection obj), .connEvent event => (obj.connEvent event).map afterReport
  | .waiting (.connection ⟨base, .proxied c⟩), .proxyFailure =>
    some (afterReport (ConnectionObject.settle base .proxied (c.proxyFailure base.conn)))
  | run, _ => some run

/-- Whether the last resolution has left addresses to try. -/
def addressesLeft : RequestRun → Bool
  | .due (.connection ⟨_, .dns c⟩) => !c.iter.isEmpty
  | _ => false

end RequestRun

/-- `BEV_EVENT_ERROR`. -/
def BevEvents.connectFails : BevEvents := ⟨false, true, false, false⟩

/-- `BEV_EVENT_CONNECTED`. -/
def BevEvents.connects : BevEvents := ⟨false, false, false, true⟩

/-- How a round fails: what the socket to the proxy reports, whether the resolver answers at once, what
it answers, and what the sockets to the endpoint report, one after another, of which none connects. -/
structure RoundOutcome where
  proxyEvent : BevEvents
  atOnce : Bool
  result : DnsResult
  failing : ℕ → BevEvents
  unconnected (i : ℕ) : (failing i).connected = false

namespace RoundOutcome

/-- What the resolver answers; a request that is only resolved fails by this. -/
def answer (o : RoundOutcome) : OutgoingRequest → DnsResult
  | .connection _ => o.result
  | .resolveOnly _ => .failure

/-- When the resolver answers. -/
def lookup (o : RoundOutcome) (request : OutgoingRequest) : Lookup :=
  if o.atOnce then .atOnce (o.answer request) else .later

/-- How the first attempt of the round fails. -/
def attempt (o : RoundOutcome) : OutgoingRequest → List RequestEvent
  | .connection ⟨_, .proxied _⟩ =>
    .connEvent o.proxyEvent :: if o.proxyEvent.connected then [.proxyFailure] else []
  | _ => [.connEvent (o.failing 0)]

/-- The events of the round up to the failure of its first attempt. -/
def events (o : RoundOutcome) (request : OutgoingRequest) : List RequestEvent :=
  .begin (o.lookup request) :: .dnsCallback (o.answer request) :: o.attempt request

end RoundOutcome

namespace RequestRun

/-- The addresses that are left are tried, and fail one after another. -/
def tryRest (names : NameInfo) (failing : ℕ → BevEvents) : List Bytes → RequestRun → Option RequestRun
  | [], run => some run
  | _ :: rest, run =>
    if run.addressesLeft then do
      let run ← [.begin .later, .connEvent (failing 0)].foldlM (step names) run
      tryRest names (fun i => failing (i + 1)) rest run
    else some run

/-- A failed round of a request that is due. -/
def round (names : NameInfo) (o : RoundOutcome) (run : RequestRun) : Option RequestRun :=
  match run with
  | .due request => do
    let run ← (o.events request).foldlM (step names) run
    match o.result with
    | .failure => some run
    | .addresses _ rest => tryRest names (fun i => o.failing (i + 1)) rest run
  | run => some run

/-- The failed rounds of a request, by their outcomes. -/
def rounds (names : NameInfo) (outcomes : ℕ → RoundOutcome) (run : RequestRun) : ℕ → Option RequestRun
  | 0 => some run
  | n + 1 => do round names (outcomes n) (← rounds names outcomes run n)

end RequestRun

/-- Without a retry left there is none to take. -/
@[simp] theorem takeRetry_zero : takeRetry 0 = (0, false) := by decide

/-- A retry left is taken. -/
@[simp] theorem takeRetry_succ (left : ℕ) : takeRetry ((left + 1 : ℕ) : ℤ) = ((left : ℤ), true) := by
  have hpos : (0 : ℤ) < ((left + 1 : ℕ) : ℤ) := by omega
  have hpred : ((left + 1 : ℕ) : ℤ) - 1 = (left : ℤ) := by omega
  rw [takeRetry, if_pos hpos, hpred, decide_eq_true (by omega)]

namespace RequestRun

variable {names : NameInfo} {base : ConnectionBase}

/-- Nothing is left to try when no address is left. -/
theorem tryRest_of_not_left (failing : ℕ → BevEvents) (addresses : List Bytes) {run : RequestRun}
    (hleft : run.addressesLeft = false) : tryRest names failing addresses run = some run := by
  cases addresses with
  | nil => rfl
  | cons => rw [tryRest, hleft, if_neg Bool.false_ne_true]

/-- A round whose first attempt leaves no address to try ends with it. -/
theorem round_of_events {o : RoundOutcome} {request : OutgoingRequest} {run : RequestRun}
    (hevents : (o.events request).foldlM (step names) (.due request) = some run)
    (hleft : run.addressesLeft = false) : round names o (.due request) = some run := by
  simp only [round, hevents, Option.bind_eq_bind, Option.bind_some]
  cases o.result with
  | failure => rfl
  | addresses first rest => exact tryRest_of_not_left _ rest hleft

/-- A connection after a reported failure. -/
def failed (base : ConnectionBase) (kind : ConnKind) (retry : Bool) : RequestRun :=
  if retry then .due (.connection ⟨base.retry base.id, kind⟩) else .dropped

/-- Whether the retry timer was pending before does not matter. -/
@[simp] theorem failed_timer (kind : ConnKind) (retry pending : Bool) :
    failed { base with reconnectFunc := pending } kind retry = failed base kind retry := by
  cases retry <;> rfl

/-- A second retry changes nothing more. -/
@[simp] theorem failed_retry (kind : ConnKind) (retry : Bool) :
    failed (base.retry base.id) kind retry = failed base kind retry := by
  cases retry <;> rfl

/-- A report of a failure is taken up or drops the request. -/
@[simp] theorem afterReport_failure {α : Type} (kind : α → ConnKind) (c : α) (net : List NetAction)
    (type : ConnectionFailureType) (conn : CConnection) (retry : Bool) :
    afterReport (ConnectionObject.settle base kind ⟨c, net, .connectionFailure type conn retry⟩) =
      failed base (kind c) retry := by
  cases retry <;> rfl

/-- Without a report the request waits. -/
@[simp] theorem afterReport_waiting {α : Type} (kind : α → ConnKind) (c : α) (net : List NetAction) :
    afterReport (ConnectionObject.settle base kind ⟨c, net, .waiting⟩) =
      .waiting (.connection ⟨base, kind c⟩) := rfl

/-- A request that nothing happens to waits. -/
@[simp] theorem afterReport_unchanged (obj : ConnectionObject) :
    afterReport (ConnResult.unchanged obj) = .waiting (.connection obj) := rfl

/-- What was asked of the network does not matter. -/
@[simp] theorem afterReport_net {α : Type} (kind : α → ConnKind) (r : ConnResult α) (net : List NetAction) :
    afterReport (ConnectionObject.settle base kind ⟨r.obj, net, r.report⟩) =
      afterReport (ConnectionObject.settle base kind r) := rfl

/-- The retry timer runs out. -/
@[simp] theorem step_begin (obj : ConnectionObject) (lookup : Lookup) :
    step names (.due (.connection obj)) (.begin lookup) =
      ({ obj with base := { obj.base with reconnectFunc := false } }.connect names lookup).map afterReport :=
  rfl

/-- The resolver answers. -/
@[simp] theorem step_dnsCallback (obj : ConnectionObject) (result : DnsResult) :
    step names (.waiting (.connection obj)) (.dnsCallback result) =
      (obj.dnsCallback result).map afterReport := rfl

/-- The connecting socket answers. -/
@[simp] theorem step_connEvent (obj : ConnectionObject) (event : BevEvents) :
    step names (.waiting (.connection obj)) (.connEvent event) = (obj.connEvent event).map afterReport := by
  rfl

/-- The handshake fails. -/
@[simp] theorem step_proxyFailure (c : CProxyConn) :
    step names (.waiting (.connection ⟨base, .proxied c⟩)) .proxyFailure =
      some (afterReport (ConnectionObject.settle base .proxied (c.proxyFailure base.conn))) := rfl

/-- Only the retry timer goes on after a failure. -/
@[simp] theorem step_failed (kind : ConnKind) (retry : Bool) (e : RequestEvent)
    (hbegin : ∀ lookup, e ≠ .begin lookup) :
    step names (failed base kind retry) e = some (failed base kind retry) := by
  cases e with
  | begin lookup => exact absurd rfl (hbegin lookup)
  | _ => cases retry <;> rfl

/-- A connection whose class has no address left has none to try. -/
theorem addressesLeft_failed {kind : ConnKind} (retry : Bool)
    (hleft : ∀ c, kind = .dns c → c.iter = []) : (failed base kind retry).addressesLeft = false := by
  cases retry with
  | false => rfl
  | true =>
    cases kind with
    | dns c => simp [failed, addressesLeft, hleft c rfl]
    | _ => rfl

/-- A round of a direct connection takes a retry. -/
theorem round_direct (o : RoundOutcome) (left : ℕ) (hset : base.conn.isSet = true)
    (hcan : base.conn.canConnectDirect = true) :
    round names o (.due (.connection ⟨base, .direct ⟨left, none⟩⟩)) =
      some (failed base (.direct ⟨(takeRetry left).1, none⟩) (takeRetry left).2) := by
  apply round_of_events
  · simp [RoundOutcome.events, RoundOutcome.attempt, ConnectionObject.connect,
      CDirectConnection.connect, hset, hcan, bareConnect, connectAddr_isEmpty,
      ConnectionObject.dnsCallback, ConnectionObject.connEvent, CDirectConnection.connEvent,
      o.unconnected, CDirectConnection.onConnectFailure]
  · exact addressesLeft_failed _ (by simp)

/-- A round of a proxied connection takes a retry, whether the proxy is reached or not. -/
theorem round_proxied (o : RoundOutcome) (left : ℕ) (hset : base.conn.isSet = true)
    (hproxy : base.conn.proxy.isSet = true) (hcan : base.conn.canConnectProxy = true) :
    round names o (.due (.connection ⟨base, .proxied ⟨left, none, none⟩⟩)) =
      some (failed base (.proxied ⟨(takeRetry left).1, none, none⟩) (takeRetry left).2) := by
  apply round_of_events
  · cases hreached : o.proxyEvent.connected with
    | false =>
      simp [RoundOutcome.events, RoundOutcome.attempt, ConnectionObject.connect,
        CProxyConn.connect, hset, hproxy, hcan, hreached, bareConnect, connectAddr_isEmpty,
        ConnectionObject.dnsCallback, ConnectionObject.connEvent, CProxyConn.connEvent,
        CProxyConn.onConnectFailure, CProxyConn.onFailure]
    | true =>
      simp [RoundOutcome.events, RoundOutcome.attempt, ConnectionObject.connect,
        CProxyConn.connect, hset, hproxy, hcan, hreached, bareConnect, connectAddr_isEmpty,
        ConnectionObject.dnsCallback, ConnectionObject.connEvent, CProxyConn.connEvent,
        CProxyConn.onConnectSuccess, CBareProxy.initProxy,
        CProxyConn.proxyFailure, CProxyConn.onProxyFailure, CProxyConn.onFailure]
  · exact addressesLeft_failed _ (by simp)

/-- A DNS connection whose current address has failed: the next address is due, or with none left
the request is, unless its budget is zero. -/
def walked (base : ConnectionBase) (left : ℕ) (resolved iter : List Bytes) : RequestRun :=
  failed base (.dns ⟨left, if iter.isEmpty then [] else resolved, iter, false, none⟩)
    (!iter.isEmpty || decide ((left : ℤ) ≠ 0))

/-- `ConnectResolved` fails at the current address, at once or when the connect fails. -/
theorem connectResolved_fails (names : NameInfo) (base : ConnectionBase) (left : ℕ) {resolved : List Bytes}
    (hresolved : resolved ≠ []) (addr : Bytes) (iter : List Bytes) {event : BevEvents}
    (hevent : event.connected = false) :
    ∃ r, CDNSConnection.connectResolved base.conn ⟨left, resolved, addr :: iter, false, none⟩ = some r ∧
      step names (afterReport (ConnectionObject.settle base .dns r)) (.connEvent event) =
        some (walked base left resolved iter) ∧
      ∀ result, step names (afterReport (ConnectionObject.settle base .dns r)) (.dnsCallback result) =
        some (afterReport (ConnectionObject.settle base .dns r)) := by
  have hnonempty : resolved.isEmpty = false := by simp [hresolved]
  cases hcan : CConnection.canConnectDirectAddr addr base.conn.opts.nFamily with
  | true =>
    refine ⟨_, by simp [CDNSConnection.connectResolved, hnonempty, hcan, bareConnect,
      isEmpty_of_canConnectDirectAddr hcan]; rfl, ?_, ?_⟩
    · simp [ConnectionObject.connEvent, CDNSConnection.connEvent, hevent, CDNSConnection.onConnectFailure,
        hnonempty, walked]
    · simp [ConnectionObject.dnsCallback, CDNSConnection.dnsCallback, ConnResult.unchanged]
  | false =>
    refine ⟨_, by simp [CDNSConnection.connectResolved, hnonempty, hcan,
      CDNSConnection.onConnectFailure]; rfl, ?_, ?_⟩
    · simp [walked]
    · simp

/-- The retry timer of a DNS connection with an address left goes on to that address. -/
theorem step_begin_address {c : CDNSConnection} (lookup : Lookup) (hrequest : c.request = false)
    (hiter : c.iter.isEmpty = false) :
    step names (.due (.connection ⟨base, .dns c⟩)) (.begin lookup) =
      (c.connectResolved base.conn).map fun r =>
        afterReport (ConnectionObject.settle { base with reconnectFunc := false } .dns r) := by
  simp [ConnectionObject.connect, CDNSConnection.connect, hrequest, hiter, Function.comp_def]

/-- One more address fails. -/
theorem attempt_address (left : ℕ) {resolved : List Bytes} (hresolved : resolved ≠ []) (addr : Bytes)
    (iter : List Bytes) {event : BevEvents} (hevent : event.connected = false) :
    [RequestEvent.begin .later, .connEvent event].foldlM (step names)
      (walked base left resolved (addr :: iter)) = some (walked base left resolved iter) := by
  obtain ⟨r, hr, hfails, -⟩ := connectResolved_fails names
    { base.retry base.id with reconnectFunc := false } left hresolved addr iter hevent
  have hbegin : step names (walked base left resolved (addr :: iter)) (.begin .later) = _ :=
    (step_begin_address .later rfl rfl).trans (congrArg (Option.map _) hr)
  rw [List.foldlM_cons, hbegin]
  simp only [Option.map_some, Option.bind_eq_bind, Option.bind_some, List.foldlM_cons, List.foldlM_nil,
    hfails, Option.pure_def]
  simp [walked]

/-- The addresses that are left all fail. -/
theorem tryRest_walked (left : ℕ) {resolved : List Bytes} (hresolved : resolved ≠ []) (iter : List Bytes)
    {failing : ℕ → BevEvents} (hfailing : ∀ i, (failing i).connected = false) :
    tryRest names failing iter (walked base left resolved iter) = some (walked base left resolved []) := by
  induction iter generalizing failing with
  | nil => rfl
  | cons addr rest ih =>
    have hleft : (walked base left resolved (addr :: rest)).addressesLeft = true := rfl
    rw [tryRest, hleft, if_pos rfl, attempt_address left hresolved addr rest (hfailing 0)]
    exact ih fun i => hfailing (i + 1)

/-- `DoResolve` on a connection that cannot be resolved fails at once. -/
theorem doResolve_of_not_canResolve {conn : CConnection} (lookup : Lookup) (left : ℕ)
    (hcan : conn.canResolve = false) :
    CDNSConnection.doResolve names conn lookup ⟨left, [], [], false, none⟩ =
      CDNSConnection.onResolveFailure conn ⟨left, [], [], false, none⟩ := by
  unfold CDNSConnection.doResolve
  cases setResolveFamily conn.opts.nFamily <;> simp [hcan]

/-- A round of a DNS connection whose resolution fails, or is not possible, takes a retry. -/
theorem round_dns_of_failure (o : RoundOutcome) (left : ℕ)
    (hfails : o.result = .failure ∨ base.conn.canResolve = false) :
    round names o (.due (.connection ⟨base, .dns ⟨left, [], [], false, none⟩⟩)) =
      some (failed base (.dns ⟨(takeRetry left).1, [], [], false, none⟩) (takeRetry left).2) := by
  apply round_of_events
  · cases hcan : base.conn.canResolve with
    | false =>
      simp [RoundOutcome.events, RoundOutcome.attempt, ConnectionObject.connect,
        CDNSConnection.connect, doResolve_of_not_canResolve _ left hcan, CDNSConnection.onResolveFailure]
    | true =>
      obtain ⟨family, hfamily⟩ := setResolveFamily_of_canResolve hcan
      have hresult : o.result = .failure := by simpa [hcan] using hfails
      cases honce : o.atOnce with
      | false =>
        simp [RoundOutcome.events, RoundOutcome.attempt, RoundOutcome.lookup, RoundOutcome.answer,
          ConnectionObject.connect, CDNSConnection.connect, CDNSConnection.doResolve, hcan, hfamily, honce,
          hresult, ConnectionObject.dnsCallback, CDNSConnection.dnsCallback, CDNSConnection.onResolved,
          CDNSConnection.onResolveFailure]
      | true =>
        simp [RoundOutcome.events, RoundOutcome.attempt, RoundOutcome.lookup, RoundOutcome.answer,
          ConnectionObject.connect, CDNSConnection.connect, CDNSConnection.doResolve, hcan, hfamily, honce,
          hresult, CDNSConnection.onResolved, CDNSConnection.onResolveFailure]
  · exact addressesLeft_failed _ (by simp)

/-- A round of a DNS connection whose addresses all fail takes no retry. -/
theorem round_dns_of_addresses {o : RoundOutcome} (left : ℕ) {first : Bytes} {rest : List Bytes}
    (hresult : o.result = .addresses first rest) (hcan : base.conn.canResolve = true) :
    round names o (.due (.connection ⟨base, .dns ⟨left, [], [], false, none⟩⟩)) =
      some (failed base (.dns ⟨left, [], [], false, none⟩) (decide ((left : ℤ) ≠ 0))) := by
  obtain ⟨family, hfamily⟩ := setResolveFamily_of_canResolve hcan
  obtain ⟨r, hr, hfails, hdns⟩ := connectResolved_fails names
    { base with reconnectFunc := false } left (List.cons_ne_nil first rest) first rest (o.unconnected 0)
  have hevents : (o.events (.connection ⟨base, .dns ⟨left, [], [], false, none⟩⟩)).foldlM (step names)
      (.due (.connection ⟨base, .dns ⟨left, [], [], false, none⟩⟩)) =
        some (walked base left (first :: rest) rest) := by
    change CDNSConnection.connectResolved base.conn _ = _ at hr
    cases honce : o.atOnce with
    | false =>
      simp [RoundOutcome.events, RoundOutcome.attempt, RoundOutcome.lookup, RoundOutcome.answer,
        ConnectionObject.connect, CDNSConnection.connect, CDNSConnection.doResolve, hcan, hfamily, honce,
        hresult, ConnectionObject.dnsCallback, CDNSConnection.dnsCallback, CDNSConnection.onResolved,
        CDNSConnection.onResolveSuccess, hr]
      simpa [walked] using hfails
    | true =>
      simp [RoundOutcome.events, RoundOutcome.attempt, RoundOutcome.lookup, RoundOutcome.answer,
        ConnectionObject.connect, CDNSConnection.connect, CDNSConnection.doResolve, hcan, hfamily, honce,
        hresult, CDNSConnection.onResolved, CDNSConnection.onResolveSuccess, hr, hdns]
      simpa [walked] using hfails
  simp only [round, hevents, hresult, Option.bind_eq_bind, Option.bind_some]
  exact tryRest_walked left (List.cons_ne_nil first rest) rest fun i => o.unconnected (i + 1)

/-- A resolve-only request after a reported failure. -/
def resolveFailed (c : CResolveOnly) (retry : Bool) : RequestRun :=
  if retry then .due (.resolveOnly c.retry) else .dropped

/-- A report of a failed resolution is taken up or drops the request. -/
@[simp] theorem afterResolve_failure (c : CResolveOnly) (net : List NetAction) (retry : Bool) :
    afterResolve ⟨c, net, .resolveFailure retry⟩ = resolveFailed c retry := by
  cases retry <;> rfl

/-- Only the retry event goes on after a failed resolution. -/
@[simp] theorem step_resolveFailed (c : CResolveOnly) (retry : Bool) (e : RequestEvent)
    (hbegin : ∀ lookup, e ≠ .begin lookup) :
    step names (resolveFailed c retry) e = some (resolveFailed c retry) := by
  cases e with
  | begin lookup => exact absurd rfl (hbegin lookup)
  | _ => cases retry <;> rfl

/-- A round of a resolve-only request takes a retry. -/
theorem round_resolveOnly (o : RoundOutcome) (left : ℕ) {conn : CConnection} (id : ConnID) (retryEvent : Bool)
    (hdns : conn.isDns = true) :
    round names o (.due (.resolveOnly ⟨id, conn, left, false, retryEvent⟩)) =
      some (resolveFailed ⟨id, conn, (takeRetry left).1, false, false⟩ (takeRetry left).2) := by
  have hleft : (resolveFailed ⟨id, conn, (takeRetry left).1, false, false⟩ (takeRetry left).2).addressesLeft =
      false := by
    cases (takeRetry (left : ℤ)).2 <;> rfl
  apply round_of_events _ hleft
  rw [RoundOutcome.events, List.foldlM_cons]
  have hbegin (lookup : Lookup) : step names (.due (.resolveOnly ⟨id, conn, left, false, retryEvent⟩))
      (.begin lookup) = ((⟨id, conn, left, false, false⟩ : CResolveOnly).resolve names lookup).map afterResolve := rfl
  rw [hbegin]
  cases hcan : conn.canResolve with
  | false =>
    have hresolve (lookup : Lookup) : (⟨id, conn, left, false, false⟩ : CResolveOnly).resolve names lookup =
        some (CResolveOnly.onResolveFailure ⟨id, conn, left, false, false⟩) := by
      unfold CResolveOnly.resolve
      cases setResolveFamily conn.opts.nFamily <;> simp [hdns, hcan]
    simp [hresolve, CResolveOnly.onResolveFailure, RoundOutcome.attempt]
  | true =>
    obtain ⟨family, hfamily⟩ := setResolveFamily_of_canResolve hcan
    cases honce : o.atOnce with
    | true =>
      simp [RoundOutcome.lookup, honce, CResolveOnly.resolve, hdns, hfamily, hcan, RoundOutcome.answer,
        CResolveOnly.onResolved, CResolveOnly.onResolveFailure, RoundOutcome.attempt]
    | false =>
      have hcallback (c : CResolveOnly) (net : List NetAction) (result : DnsResult) :
          step names (afterResolve ⟨c, net, .waiting⟩) (.dnsCallback result) =
            some (afterResolve (c.dnsCallback result)) := rfl
      simp [RoundOutcome.lookup, honce, CResolveOnly.resolve, hdns, hfamily, hcan, RoundOutcome.answer,
        hcallback, CResolveOnly.dnsCallback, CResolveOnly.onResolved, CResolveOnly.onResolveFailure,
        RoundOutcome.attempt]

end RequestRun

/-- The kind of a connection that is due with some retries left. -/
def ConnKind.due (conn : CConnection) (left : ℤ) : ConnKind :=
  if conn.proxy.isSet then .proxied ⟨left, none, none⟩
  else if conn.isDns then .dns ⟨left, [], [], false, none⟩
  else .direct ⟨left, none⟩

/-- A request that is due with some retries left. -/
inductive OutgoingRequest.Due (conn : CConnection) (left : ℤ) : OutgoingRequest → Prop
  | connection (base : ConnectionBase) (hconn : base.conn = conn) (hkind : conn.isResolveOnly = false) :
    Due conn left (.connection ⟨base, .due conn left⟩)
  | resolveOnly (id : ConnID) (retryEvent : Bool) (hkind : conn.isResolveOnly = true) :
    Due conn left (.resolveOnly ⟨id, conn, left, false, retryEvent⟩)

/-- Whether the first thing a round does is possible: a socket can be connected, or a name resolved
or found not to be. -/
def CConnection.attempts (conn : CConnection) : Bool :=
  if conn.isResolveOnly then true
  else if conn.proxy.isSet then conn.canConnectProxy
  else if conn.isDns then true
  else conn.canConnectDirect

/-- Whether a round that fails like this takes a retry. -/
def RoundOutcome.costs (conn : CConnection) (o : RoundOutcome) : Bool :=
  !conn.resolvesToConnect || decide (o.result = .failure)

/-- A request run with the retries that it has left, if it has not been dropped. -/
inductive RequestRun.Holds (conn : CConnection) : RequestRun → Option ℕ → Prop
  | due {request : OutgoingRequest} {left : ℕ} (hdue : request.Due conn left) :
    Holds conn (.due request) (some left)
  | dropped : Holds conn .dropped none

namespace RequestRun

variable {names : NameInfo} {conn : CConnection} {base : ConnectionBase}

/-- A failure that takes a retry. -/
theorem Holds.failed_costs (base : ConnectionBase) (left : ℕ) (hconn : base.conn = conn)
    (hkind : conn.isResolveOnly = false) :
    Holds conn (failed base (.due conn (takeRetry left).1) (takeRetry left).2)
      (Budget.round true (some left)) := by
  cases left with
  | zero => exact Holds.dropped
  | succ left =>
    rw [takeRetry_succ]
    exact Holds.due (.connection (base.retry base.id) hconn hkind)

/-- A failure that takes no retry. -/
theorem Holds.failed_free (base : ConnectionBase) (left : ℕ) (hconn : base.conn = conn)
    (hkind : conn.isResolveOnly = false) :
    Holds conn (failed base (.due conn left) (decide ((left : ℤ) ≠ 0))) (Budget.round false (some left)) := by
  cases left with
  | zero => exact Holds.dropped
  | succ left =>
    rw [decide_eq_true (by omega)]
    exact Holds.due (.connection (base.retry base.id) hconn hkind)

/-- A failed resolution of a resolve-only request takes a retry. -/
theorem Holds.resolveFailed (left : ℕ) (id : ConnID) (hkind : conn.isResolveOnly = true) :
    Holds conn (resolveFailed ⟨id, conn, (takeRetry left).1, false, false⟩ (takeRetry left).2)
      (Budget.round true (some left)) := by
  cases left with
  | zero => exact Holds.dropped
  | succ left =>
    rw [takeRetry_succ]
    exact Holds.due (.resolveOnly id true hkind)

/-- A round of a connection that holds some retries follows the budget. -/
theorem round_connection (o : RoundOutcome) (left : ℕ) (hset : base.conn.isSet = true)
    (hkind : base.conn.isResolveOnly = false) (hattempts : base.conn.attempts = true) :
    ∃ next, round names o (.due (.connection ⟨base, .due base.conn left⟩)) = some next ∧
      Holds base.conn next (Budget.round (o.costs base.conn) (some left)) := by
  have hcosts := Holds.failed_costs base left rfl hkind
  cases hproxy : base.conn.proxy.isSet with
  | true =>
    have hdue (r : ℤ) : ConnKind.due base.conn r = .proxied ⟨r, none, none⟩ := by simp [ConnKind.due, hproxy]
    have hcan : base.conn.canConnectProxy = true := by
      simpa [CConnection.attempts, hkind, hproxy] using hattempts
    have hcost : o.costs base.conn = true := by simp [RoundOutcome.costs, CConnection.resolvesToConnect, hproxy]
    rw [hcost, hdue]
    rw [hdue] at hcosts
    exact ⟨_, round_proxied o left hset hproxy hcan, hcosts⟩
  | false =>
    cases hdns : base.conn.isDns with
    | false =>
      have hdue (r : ℤ) : ConnKind.due base.conn r = .direct ⟨r, none⟩ := by simp [ConnKind.due, hproxy, hdns]
      have hcan : base.conn.canConnectDirect = true := by
        simpa [CConnection.attempts, hkind, hproxy, hdns] using hattempts
      have hcost : o.costs base.conn = true := by
        simp [RoundOutcome.costs, CConnection.resolvesToConnect, CConnection.canResolve, hdns]
      rw [hcost, hdue]
      rw [hdue] at hcosts
      exact ⟨_, round_direct o left hset hcan, hcosts⟩
    | true =>
      have hdue (r : ℤ) : ConnKind.due base.conn r = .dns ⟨r, [], [], false, none⟩ := by
        simp [ConnKind.due, hproxy, hdns]
      have hfree := Holds.failed_free base left rfl hkind
      rw [hdue] at hcosts hfree ⊢
      cases hcan : base.conn.canResolve with
      | false =>
        have hcost : o.costs base.conn = true := by
          simp [RoundOutcome.costs, CConnection.resolvesToConnect, hcan]
        rw [hcost]
        exact ⟨_, round_dns_of_failure o left (Or.inr hcan), hcosts⟩
      | true =>
        cases hresult : o.result with
        | failure =>
          have hcost : o.costs base.conn = true := by simp [RoundOutcome.costs, hresult]
          rw [hcost]
          exact ⟨_, round_dns_of_failure o left (Or.inl hresult), hcosts⟩
        | addresses first rest =>
          have hcost : o.costs base.conn = false := by
            simp [RoundOutcome.costs, CConnection.resolvesToConnect, hkind, hproxy, hcan, hresult]
          rw [hcost]
          exact ⟨_, round_dns_of_addresses left hresult hcan, hfree⟩

/-- A round of a request follows the budget. -/
theorem Holds.round {run : RequestRun} {budget : Option ℕ} (h : Holds conn run budget) (o : RoundOutcome)
    (hset : conn.isSet = true) (hattempts : conn.attempts = true) :
    ∃ next, run.round names o = some next ∧ Holds conn next (Budget.round (o.costs conn) budget) := by
  cases h with
  | dropped => exact ⟨.dropped, rfl, .dropped⟩
  | due hdue =>
    cases hdue with
    | connection base hconn hkind =>
      subst hconn
      exact round_connection o _ hset hkind hattempts
    | resolveOnly id retryEvent hkind =>
      have hdns : conn.isDns = true := (Bool.and_eq_true_iff.mp hkind).1
      have hcost : o.costs conn = true := by simp [RoundOutcome.costs, CConnection.resolvesToConnect, hkind]
      rw [hcost]
      exact ⟨_, round_resolveOnly o _ id retryEvent hdns, Holds.resolveFailed _ id hkind⟩

/-- The rounds of a request follow the budget. -/
theorem Holds.rounds (names : NameInfo) {run : RequestRun} {budget : Option ℕ}
    (h : Holds conn run budget) (outcomes : ℕ → RoundOutcome) (hset : conn.isSet = true)
    (hattempts : conn.attempts = true) (n : ℕ) :
    ∃ next, run.rounds names outcomes n = some next ∧
      Holds conn next (Budget.after (fun i => (outcomes i).costs conn) budget n) := by
  induction n with
  | zero => exact ⟨run, rfl, h⟩
  | succ n ih =>
    obtain ⟨current, hcurrent, hholds⟩ := ih
    obtain ⟨next, hnext, hnextHolds⟩ := hholds.round (outcomes n) hset hattempts
    exact ⟨next, by rw [RequestRun.rounds, hcurrent]; exact hnext, hnextHolds⟩

/-- A dropped request stays dropped. -/
theorem rounds_dropped {run : RequestRun} {outcomes : ℕ → RoundOutcome}
    (hfirst : run.round names (outcomes 0) = some .dropped) (n : ℕ) :
    run.rounds names outcomes (n + 1) = some .dropped := by
  induction n with
  | zero => exact hfirst
  | succ n ih => rw [RequestRun.rounds, ih]; rfl

/-- A request whose first attempt is not possible is dropped in its first round. -/
theorem round_of_not_attempts (names : NameInfo) {request : OutgoingRequest} {left : ℤ} (o : RoundOutcome)
    (hdue : request.Due conn left) (hset : conn.isSet = true) (hattempts : conn.attempts = false) :
    round names o (.due request) = some .dropped := by
  apply round_of_events _ rfl
  cases hdue with
  | resolveOnly id retryEvent hkind => simp [CConnection.attempts, hkind] at hattempts
  | connection base hconn hkind =>
    subst hconn
    -- `Connect` reports at once that it cannot.
    have hbegin (lookup : Lookup) : step names (.due (.connection ⟨base, .due base.conn left⟩)) (.begin lookup) =
        some (failed base (.due base.conn left) false) := by
      cases hproxy : base.conn.proxy.isSet with
      | true =>
        have hcan : base.conn.canConnectProxy = false := by
          simpa [CConnection.attempts, hkind, hproxy] using hattempts
        simp [ConnKind.due, hproxy, ConnectionObject.connect, CProxyConn.connect, hset, hcan]
      | false =>
        cases hdns : base.conn.isDns with
        | true => simp [CConnection.attempts, hkind, hproxy, hdns] at hattempts
        | false =>
          have hcan : base.conn.canConnectDirect = false := by
            simpa [CConnection.attempts, hkind, hproxy, hdns] using hattempts
          simp [ConnKind.due, hproxy, hdns, ConnectionObject.connect, CDirectConnection.connect, hset, hcan]
    have hrest (events : List RequestEvent) : events.foldlM (step names) .dropped = some .dropped := by
      induction events with
      | nil => rfl
      | cons e events ih => exact ih
    rw [RoundOutcome.events, List.foldlM_cons, hbegin]
    exact hrest _

end RequestRun

/-- A request that `StartConnection` makes is due with its whole budget. -/
theorem OutgoingRequest.due_of_new {conn : CConnection} {id : ConnID} {bytesRead bytesWritten : ℕ}
    {request : OutgoingRequest} (hnew : OutgoingRequest.new conn id bytesRead bytesWritten = some request) :
    request.Due conn conn.opts.nRetries := by
  unfold OutgoingRequest.new at hnew
  split at hnew
  · next hkind =>
    split at hnew
    · contradiction
    · obtain rfl := Option.some.inj hnew
      exact .resolveOnly id false hkind
  · next hkind =>
    obtain rfl := Option.some.inj hnew
    exact .connection (.new conn id bytesRead bytesWritten) rfl (Bool.eq_false_iff.mpr hkind)

/-- The request fails round by round and is dropped with one of the first rounds, after a failure
reported without a retry. -/
def OutgoingRequest.DroppedWithin (names : NameInfo) (request : OutgoingRequest)
    (outcomes : ℕ → RoundOutcome) (n : ℕ) : Prop :=
  (RequestRun.due request).rounds names outcomes n = some .dropped

instance (names : NameInfo) (request : OutgoingRequest) (outcomes : ℕ → RoundOutcome) (n : ℕ) :
    Decidable (request.DroppedWithin names outcomes n) :=
  inferInstanceAs (Decidable (_ = _))

/-- What an event of a request is to its connection. A handshake fails with an error on its bufferevent. -/
def RequestEvent.attempt : RequestEvent → AttemptEvent
  | .begin lookup => .begin lookup
  | .dnsCallback result => .dnsCallback result
  | .connEvent event => .connEvent event
  | .proxyFailure => .handshake (.event .connectFails)

namespace Attempts

/-- The request that a connection follows with its attempts. -/
def request (a : Attempts) : RequestRun :=
  match a.phase with
  | .due => .due (.connection a.obj)
  | .waiting => .waiting (.connection a.obj)
  | .established => .succeeded
  | .dropped => .dropped

/-- One attempt after another, under one id. -/
def again (names : NameInfo) (a : Attempts) (e : AttemptEvent) : Option Attempts :=
  a.attempt names (fun a => a.obj.base.id) e

variable {names : NameInfo} {a : Attempts}

/-- A report leaves the connection where it leaves the request. -/
theorem request_report (items : List AttemptItem) {r : ConnResult ConnectionObject}
    (hid : r.obj.base.id = a.obj.base.id) :
    (a.report (fun a => a.obj.base.id) items r).request = RequestRun.afterReport r := by
  obtain ⟨obj, net, report⟩ := r
  cases report with
  | waiting => rfl
  | connectionFailure type failed retry =>
    cases retry with
    | true => exact congrArg (fun id => RequestRun.due (.connection (obj.retry id))) hid.symm
    | false => rfl
  | outgoingConnected bev resolved => rfl
  | incomingConnected bev resolved => rfl

/-- A method that may fail an assertion. -/
theorem request_map_report {result : Option (ConnResult ConnectionObject)}
    (items : ConnResult ConnectionObject → List AttemptItem)
    (hid : ∀ r, result = some r → r.obj.base.id = a.obj.base.id) :
    (result.map fun r => a.report (fun a => a.obj.base.id) (items r) r).map request =
      result.map RequestRun.afterReport := by
  cases result with
  | none => rfl
  | some r => exact congrArg some (request_report (items r) (hid r rfl))

/-- An answer that nobody waits for changes nothing. -/
theorem dnsCallback_of_not_resolving {obj : ConnectionObject} (result : DnsResult)
    (hresolving : obj.kind.resolving = false) : obj.dnsCallback result = some (ConnResult.unchanged obj) := by
  obtain ⟨base, kind⟩ := obj
  cases kind with
  | dns c =>
    have hrequest : c.request = false := hresolving
    simp only [ConnectionObject.dnsCallback, CDNSConnection.dnsCallback, hrequest, Bool.false_eq_true, if_false,
      Option.map_some]
    rfl
  | _ => rfl

/-- An error on its bufferevent is a failed handshake. -/
theorem handshake_failed (names : NameInfo) (base : ConnectionBase) (c : CProxyConn) :
    ConnectionObject.handshake names (.event .connectFails) ⟨base, .proxied c⟩ =
      some (ConnectionObject.settle base .proxied (c.proxyFailure base.conn)) := by
  obtain ⟨retries, bareBev, proxyBev⟩ := c
  cases proxyBev with
  | none => rfl
  | some bev => rfl

/-- Every step of a request is one of its connection. -/
theorem request_step (a : Attempts) (e : RequestEvent) :
    RequestRun.step names a.request e = (a.again names e.attempt).map request := by
  obtain ⟨obj, phase, log⟩ := a
  cases phase with
  | established => cases e <;> rfl
  | dropped => cases e <;> rfl
  | due =>
    cases e with
    | begin lookup =>
      have hstep : (again names ⟨obj, .due, log⟩ (.begin lookup)).map request =
          (ConnectionObject.connect names lookup { obj with base := { obj.base with reconnectFunc := false } }).map
            RequestRun.afterReport :=
        request_map_report _ fun r hr => (ConnectionObject.connect_works hr).keeps.2.1
      exact hstep.symm
    | dnsCallback result => rfl
    | connEvent event => rfl
    | proxyFailure => rfl
  | waiting =>
    cases e with
    | begin lookup => rfl
    | dnsCallback result =>
      cases hresolving : obj.kind.resolving with
      | true =>
        have hstep : again names ⟨obj, .waiting, log⟩ (.dnsCallback result) =
            (obj.dnsCallback result).map fun r =>
              report (fun a => a.obj.base.id) ⟨obj, .waiting, log⟩ (.answer result :: r.items [] true) r :=
          if_pos hresolving
        rw [RequestEvent.attempt, hstep]
        exact (request_map_report _ fun r hr => (ConnectionObject.dnsCallback_works hr).keeps.2.1).symm
      | false =>
        have hstep : again names ⟨obj, .waiting, log⟩ (.dnsCallback result) = some ⟨obj, .waiting, log⟩ :=
          if_neg (by simp [hresolving])
        have hnone : obj.dnsCallback result = some (ConnResult.unchanged obj) :=
          dnsCallback_of_not_resolving result hresolving
        rw [RequestEvent.attempt, hstep]
        exact congrArg (Option.map RequestRun.afterReport) hnone
    | connEvent event => exact (request_map_report _ fun r hr => (ConnectionObject.connEvent_works hr).keeps.2.1).symm
    | proxyFailure =>
      have hstep : (again names ⟨obj, .waiting, log⟩ (.handshake (.event .connectFails))).map request =
          (obj.handshake names (.event .connectFails)).map RequestRun.afterReport :=
        request_map_report _ fun r hr => (ConnectionObject.handshake_works hr).keeps.2.1
      rw [RequestEvent.attempt, hstep]
      obtain ⟨base, kind⟩ := obj
      cases kind with
      | proxied c => exact congrArg (Option.map RequestRun.afterReport) (handshake_failed names base c).symm
      | _ => rfl

/-- A way for a request to go on that is one of its connection. -/
def Mirrors (names : NameInfo) (run : RequestRun → Option RequestRun) : Prop :=
  ∀ a : Attempts, ∃ events : List AttemptEvent, run a.request = (events.foldlM (again names) a).map request

/-- The events of a request. -/
theorem mirrors_events (names : NameInfo) (events : List RequestEvent) :
    Mirrors names fun run => events.foldlM (RequestRun.step names) run :=
  fun a => ⟨_, Runs.foldlM_map request_step a events⟩

/-- One such way after another. -/
theorem Mirrors.bind {first second : RequestRun → Option RequestRun} (hfirst : Mirrors names first)
    (hsecond : Mirrors names second) : Mirrors names fun run => (first run).bind second := by
  intro a
  obtain ⟨before, hbefore⟩ := hfirst a
  change ∃ events : List AttemptEvent, (first a.request).bind second = _
  rw [hbefore]
  cases hrun : before.foldlM (again names) a with
  | none => exact ⟨before, by rw [hrun]; rfl⟩
  | some next =>
    obtain ⟨after, hafter⟩ := hsecond next
    refine ⟨before ++ after, ?_⟩
    rw [List.foldlM_append, hrun]
    exact hafter

/-- The attempts at the addresses that are left. -/
theorem mirrors_tryRest (failing : ℕ → BevEvents) (addresses : List Bytes) :
    Mirrors names (RequestRun.tryRest names failing addresses) := by
  induction addresses generalizing failing with
  | nil => exact fun a => ⟨[], rfl⟩
  | cons addr rest ih =>
    intro a
    rw [RequestRun.tryRest]
    split
    · exact (mirrors_events names _).bind (ih fun i => failing (i + 1)) a
    · exact ⟨[], rfl⟩

/-- A round. -/
theorem mirrors_round (o : RoundOutcome) : Mirrors names (RequestRun.round names o) := by
  intro a
  obtain ⟨obj, phase, log⟩ := a
  cases phase with
  | due =>
    have hrest : Mirrors names fun run => match o.result with
        | .failure => some run
        | .addresses _ rest => RequestRun.tryRest names (fun i => o.failing (i + 1)) rest run := by
      cases o.result with
      | failure => exact fun a => ⟨[], rfl⟩
      | addresses first rest => exact mirrors_tryRest _ rest
    exact (mirrors_events names (o.events (.connection obj))).bind hrest ⟨obj, .due, log⟩
  | _ => exact ⟨[], rfl⟩

/-- The rounds of a request are attempts of its connection. -/
theorem mirrors_rounds (outcomes : ℕ → RoundOutcome) (n : ℕ) :
    Mirrors names fun run => run.rounds names outcomes n := by
  induction n with
  | zero => exact fun a => ⟨[], rfl⟩
  | succ n ih => exact ih.bind (mirrors_round (outcomes n))

end Attempts

/-- A request that is dropped is one whose connection has come to its end. -/
theorem OutgoingRequest.DroppedWithin.attempts {names : NameInfo} {obj : ConnectionObject}
    {outcomes : ℕ → RoundOutcome} {n : ℕ} (hdropped : (OutgoingRequest.connection obj).DroppedWithin names outcomes n) :
    ∃ (events : List AttemptEvent) (a : Attempts), events.foldlM (Attempts.again names) (.start obj) = some a ∧
      a.phase = .dropped := by
  obtain ⟨events, hevents⟩ := @Attempts.mirrors_rounds names outcomes n (.start obj)
  obtain ⟨a, ha, hrequest⟩ := Option.map_eq_some_iff.mp (hevents.symm.trans hdropped)
  refine ⟨events, a, ha, ?_⟩
  unfold Attempts.request at hrequest
  split at hrequest
  · contradiction
  · contradiction
  · contradiction
  · assumption

/-- A request is dropped within one round more than its retries, whatever fails, but for a name that
is resolved to connect to it: there, exactly when as many resolutions fail as there are retries. -/
theorem droppedWithin_retries_iff (names : NameInfo) {conn : CConnection} {id : ConnID}
    {bytesRead bytesWritten : ℕ} {request : OutgoingRequest} (hset : conn.isSet = true)
    (hretries : 0 ≤ conn.opts.nRetries)
    (hnew : OutgoingRequest.new conn id bytesRead bytesWritten = some request)
    (outcomes : ℕ → RoundOutcome) :
    request.DroppedWithin names outcomes (conn.opts.nRetries.toNat + 1) ↔
      (conn.resolvesToConnect = true →
        ∀ i < conn.opts.nRetries.toNat, (outcomes i).result = .failure) := by
  have hdue := OutgoingRequest.due_of_new hnew
  rw [← Int.toNat_of_nonneg hretries] at hdue
  cases hattempts : conn.attempts with
  | false =>
    have hresolves : conn.resolvesToConnect = false := by
      by_contra hresolves
      simp [CConnection.resolvesToConnect, CConnection.attempts, CConnection.canResolve] at hresolves hattempts
      simp_all
    have hdropped := RequestRun.rounds_dropped (RequestRun.round_of_not_attempts names (outcomes 0)
      hdue hset hattempts) conn.opts.nRetries.toNat
    simp [hresolves, OutgoingRequest.DroppedWithin, hdropped]
  | true =>
    obtain ⟨last, hlast, hholds⟩ := (RequestRun.Holds.due hdue).rounds names outcomes hset hattempts
      (conn.opts.nRetries.toNat + 1)
    have hdropped : last = .dropped ↔
        Budget.after (fun i => (outcomes i).costs conn) (some conn.opts.nRetries.toNat)
          (conn.opts.nRetries.toNat + 1) = none := by
      generalize Budget.after _ _ _ = budget at hholds
      cases hholds <;> simp
    rw [OutgoingRequest.DroppedWithin, hlast, Option.some.injEq, hdropped, Budget.after_eq_none_iff]
    constructor
    · intro hcosts hresolves i hi
      simpa [RoundOutcome.costs, hresolves] using hcosts i hi
    · intro hfails i hi
      cases hresolves : conn.resolvesToConnect with
      | false => simp [RoundOutcome.costs, hresolves]
      | true => simp [RoundOutcome.costs, hresolves, hfails hresolves i hi]

/-- A connection to a name with one retry, resolved to IPv4 addresses. -/
def namedConnection : CConnection :=
  { mainnetConnection with
    host := [97]
    isDns := true
    isSet := true
    opts := { CConnectionOptions.default with doResolve := .resolveConnect, nRetries := 1, nFamily := Family.ipv4 } }

/-- The resolver gives one address, and the connect to it fails. -/
def unreachable : RoundOutcome :=
  ⟨.connectFails, false, .addresses [2, 0, 32, 141, 127, 0, 0, 1] [], fun _ => .connectFails, fun _ => rfl⟩

/-- The name is not resolved. -/
def unresolved : RoundOutcome := ⟨.connectFails, false, .failure, fun _ => .connectFails, fun _ => rfl⟩

/-- A name that is never resolved is dropped after its retry. -/
theorem droppedWithin_retries_unresolved :
    (OutgoingRequest.connection (.new namedConnection 0 0 0)).DroppedWithin noNames (fun _ => unresolved) 2 :=
  (droppedWithin_retries_iff noNames rfl (show 0 ≤ namedConnection.opts.nRetries by decide) rfl
    fun _ => unresolved).mpr fun _ _ _ => rfl

/-- A name whose address is never reached is tried for ever, for all that it has a single retry. -/
theorem droppedWithin_retries_unreachable :
    ¬∃ n, (OutgoingRequest.connection (.new namedConnection 0 0 0)).DroppedWithin noNames
      (fun _ => unreachable) n := by
  rintro ⟨n, hdropped⟩
  have hdue : (OutgoingRequest.connection (.new namedConnection 0 0 0)).Due namedConnection (1 : ℕ) :=
    .connection _ rfl rfl
  obtain ⟨last, hlast, hholds⟩ := (RequestRun.Holds.due hdue).rounds noNames (fun _ => unreachable) rfl rfl n
  obtain rfl : last = .dropped := Option.some.inj (hlast.symm.trans hdropped)
  rw [show (fun _ : ℕ => unreachable.costs namedConnection) = fun _ => false from rfl,
    Budget.after_of_never 0] at hholds
  contradiction

end LibBtcNet
