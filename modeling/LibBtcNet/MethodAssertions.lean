import LibBtcNet.ConnectionReports

/-!
# The assertions of an attempt

`Connect`, `conn_event` and `dns_callback` assert that a bufferevent is still empty before they make a
new one or take one over, and a DNS connection asserts where its iterator stands. An object with one
handle at most whose iterator is in order fails none of these, and is left in order.
-/

namespace LibBtcNet

/-- `BareConnect` fails only where there is a bufferevent or no address. -/
theorem bareConnect_of_none {addr : Bytes} (haddr : addr.isEmpty = false) (connTimeout : ℤ) :
    ∃ bev, bareConnect none addr connTimeout = some bev := by
  simp [bareConnect, haddr]

/-- There are addresses exactly while the iterator is at one, none while they are asked for, and only they are
connected to. -/
structure CDNSConnection.InOrder (c : CDNSConnection) : Prop where
  iter : c.iter = [] ↔ c.resolved = []
  request : c.request = true → c.iter = []
  bareBev : c.bareBev.isSome = true → c.iter ≠ []

/-- Only a DNS connection has an iterator. -/
def ConnKind.InOrder : ConnKind → Prop
  | .dns c => c.InOrder
  | _ => True

/-- A method has a result, which leaves the class in order. -/
def HasResult {α : Type} (kind : α → ConnKind) (result : Option (ConnResult α)) : Prop :=
  ∃ r, result = some r ∧ (kind r.obj).InOrder

namespace CDNSConnection

variable {conn : CConnection} {c : CDNSConnection}

/-- A failed resolution is reported where there is no address. -/
theorem onResolveFailure_result (hbare : c.bareBev = none) (hresolved : c.resolved = []) (hiter : c.iter = []) :
    HasResult .dns (c.onResolveFailure conn) := by
  refine ⟨_, if_neg (by simp [hresolved, hiter]), ?_, fun hrequest => absurd hrequest Bool.false_ne_true,
    fun hbev => ?_⟩
  · simp [hresolved, hiter]
  · simp [hbare] at hbev

/-- A failed connect is reported where there is an address. -/
theorem onConnectFailure_result (hbare : c.bareBev = none) (hrequest : c.request = false) (hresolved : c.resolved ≠ [])
    (hiter : c.iter ≠ []) : HasResult .dns (c.onConnectFailure conn) := by
  obtain ⟨addr, iter, hcons⟩ := List.exists_cons_of_ne_nil hiter
  rw [onConnectFailure, hcons]
  refine ⟨_, if_neg (by simp [hrequest, hresolved]), ?_, fun h => ?_, fun hbev => ?_⟩
  · cases iter with
    | nil => simp
    | cons => simp [hresolved]
  · exact absurd (hrequest.symm.trans h) Bool.false_ne_true
  · simp [hbare] at hbev

/-- An address is connected to, or its failure is reported. -/
theorem connectResolved_result (hbare : c.bareBev = none) (hrequest : c.request = false) (hresolved : c.resolved ≠ [])
    (hiter : c.iter ≠ []) : HasResult .dns (c.connectResolved conn) := by
  obtain ⟨addr, iter, hcons⟩ := List.exists_cons_of_ne_nil hiter
  have hfailure := @onConnectFailure_result conn c hbare hrequest hresolved hiter
  simp only [connectResolved, hcons]
  rw [if_neg (by simp [hresolved])]
  split
  · next hcan =>
    obtain ⟨bev, hbev⟩ := bareConnect_of_none (isEmpty_of_canConnectDirectAddr hcan) conn.opts.nConnTimeout
    rw [hbare, hbev]
    refine ⟨_, rfl, ?_, fun h => absurd (hrequest.symm.trans h) Bool.false_ne_true, fun _ => List.cons_ne_nil _ _⟩
    simp [hresolved]
  · exact hfailure

/-- The answer of the resolver is a failure, or leads to the first address. -/
theorem onResolved_result (result : DnsResult) (hbare : c.bareBev = none) (hresolved : c.resolved = [])
    (hiter : c.iter = []) : HasResult .dns (c.onResolved conn result) := by
  cases result with
  | failure => exact onResolveFailure_result hbare hresolved hiter
  | addresses first rest =>
    simp only [onResolved, onResolveSuccess]
    rw [if_neg (by simp [hresolved, hiter])]
    exact connectResolved_result hbare rfl (by simp) (by simp)

/-- `DoResolve`. -/
theorem doResolve_result (names : NameInfo) (lookup : Lookup) (hbare : c.bareBev = none) (hrequest : c.request = false)
    (hresolved : c.resolved = []) (hiter : c.iter = []) : HasResult .dns (c.doResolve names conn lookup) := by
  have hfailure := @onResolveFailure_result conn c hbare hresolved hiter
  rw [doResolve, if_neg (by simp [hrequest, hresolved, hiter])]
  split
  · split
    · cases lookup with
      | later =>
        refine ⟨_, rfl, ?_, fun _ => hiter, fun hbev => ?_⟩
        · simp [hresolved, hiter]
        · simp [hbare] at hbev
      | atOnce result =>
        obtain ⟨r, hr, horder⟩ := @onResolved_result conn c result hbare hresolved hiter
        exact ⟨_, congrArg (Option.map _) hr, horder⟩
    · exact hfailure
  · exact hfailure

/-- `Connect`. -/
theorem connect_result (names : NameInfo) (lookup : Lookup) (horder : c.InOrder) (hbare : c.bareBev = none)
    (hrequest : c.request = false) : HasResult .dns (c.connect names conn lookup) := by
  simp only [connect, hrequest, Bool.false_eq_true, if_false]
  split
  · next hempty =>
    have hiter := List.isEmpty_iff.mp hempty
    exact doResolve_result names lookup hbare hrequest (horder.iter.mp hiter) hiter
  · next hempty =>
    have hiter : c.iter ≠ [] := fun hnil => hempty (List.isEmpty_iff.mpr hnil)
    exact connectResolved_result hbare hrequest (mt horder.iter.mpr hiter) hiter

/-- `conn_event`. -/
theorem connEvent_result (event : BevEvents) (horder : c.InOrder) (hhandles : (ConnKind.dns c).handles ≤ 1) :
    HasResult .dns (c.connEvent conn event) := by
  unfold connEvent
  split
  · exact ⟨_, rfl, horder⟩
  · next bev hbev =>
    have hiter : c.iter ≠ [] := horder.bareBev (by rw [hbev]; rfl)
    have hresolved : c.resolved ≠ [] := mt horder.iter.mpr hiter
    have hrequest : c.request = false := by
      cases hrequest : c.request with
      | false => rfl
      | true => simp [ConnKind.handles, hbev, hrequest] at hhandles
    split
    · obtain ⟨addr, iter, hcons⟩ := List.exists_cons_of_ne_nil hiter
      simp only [onConnectSuccess, hcons]
      rw [if_neg (by simp [hrequest, hresolved])]
      exact ⟨_, rfl, by simp, fun h => absurd (hrequest.symm.trans h) Bool.false_ne_true,
        fun hbev => absurd hbev Bool.false_ne_true⟩
    · exact onConnectFailure_result rfl hrequest hresolved hiter

/-- `dns_callback`. -/
theorem dnsCallback_result (result : DnsResult) (horder : c.InOrder) (hhandles : (ConnKind.dns c).handles ≤ 1) :
    HasResult .dns (c.dnsCallback conn result) := by
  unfold dnsCallback
  split
  · next hrequest =>
    have hbare : c.bareBev = none := by
      cases hbev : c.bareBev with
      | none => rfl
      | some bev => simp [ConnKind.handles, hbev, hrequest] at hhandles
    have hiter := horder.request hrequest
    exact onResolved_result result hbare (horder.iter.mp hiter) hiter
  · exact ⟨_, rfl, horder⟩

end CDNSConnection

namespace CProxyConn

variable {conn : CConnection} {c : CProxyConn}

/-- `Connect`. -/
theorem connect_result (hset : conn.isSet = true) (hproxy : conn.proxy.isSet = true) (hbare : c.bareBev = none) :
    HasResult .proxied (c.connect conn) := by
  rw [connect, if_neg (by simp [hset, hproxy])]
  split
  · obtain ⟨bev, hbev⟩ := bareConnect_of_none (connectAddr_isEmpty conn.proxy.toCConnectionBase) conn.opts.nConnTimeout
    simp only [hbare, hbev]
    exact ⟨_, rfl, trivial⟩
  · exact ⟨_, rfl, trivial⟩

/-- `conn_event`, where `InitProxy` takes over the bufferevent of `BareConnect`. -/
theorem connEvent_result (event : BevEvents) (hproxy : conn.proxy.isSet = true)
    (hhandles : (ConnKind.proxied c).handles ≤ 1) : HasResult .proxied (c.connEvent conn event) := by
  unfold connEvent
  split
  · exact ⟨_, rfl, trivial⟩
  · next bev hbev =>
    split
    · have hnone : c.proxyBev = none := by
        cases hnone : c.proxyBev with
        | none => rfl
        | some other => simp [ConnKind.handles, hbev, hnone] at hhandles
      simp only [onConnectSuccess, hnone, CBareProxy.initProxy]
      rw [if_neg (by simp [hproxy])]
      exact ⟨_, rfl, trivial⟩
    · exact ⟨_, rfl, trivial⟩

end CProxyConn

namespace ConnectionObject

variable {obj : ConnectionObject}

/-- A result of the class is one of the object. -/
theorem hasResult_settle {α : Type} (base : ConnectionBase) {kind : α → ConnKind} {result : Option (ConnResult α)}
    (hresult : HasResult kind result) : HasResult ConnectionObject.kind (result.map (settle base kind)) := by
  obtain ⟨r, rfl, horder⟩ := hresult
  exact ⟨_, rfl, horder⟩

/-- `Connect` on an object without a handle. -/
theorem connect_result (names : NameInfo) (lookup : Lookup) (horder : obj.kind.InOrder)
    (hset : obj.isOutgoing = true → obj.base.conn.isSet = true) (hsuits : obj.kind.Suits obj.base.conn)
    (hidle : obj.kind.handles = 0) : HasResult ConnectionObject.kind (obj.connect names lookup) := by
  obtain ⟨base, kind⟩ := obj
  cases kind with
  | incoming c => exact ⟨_, rfl, trivial⟩
  | direct c =>
    have hbare : c.bareBev = none := by simpa [ConnKind.handles] using hidle
    refine hasResult_settle base ?_
    rw [CDirectConnection.connect, if_neg (by simpa using hset rfl)]
    split
    · obtain ⟨bev, hbev⟩ := bareConnect_of_none (connectAddr_isEmpty base.conn.toCConnectionBase)
        base.conn.opts.nConnTimeout
      simp only [hbare, hbev]
      exact ⟨_, rfl, trivial⟩
    · exact ⟨_, rfl, trivial⟩
  | dns c =>
    obtain ⟨hbare, hrequest⟩ : c.bareBev = none ∧ c.request = false := by simpa [ConnKind.handles] using hidle
    exact hasResult_settle base (CDNSConnection.connect_result names lookup horder hbare hrequest)
  | proxied c =>
    obtain ⟨hbare, -⟩ : c.bareBev = none ∧ c.proxyBev = none := by simpa [ConnKind.handles] using hidle
    exact hasResult_settle base (CProxyConn.connect_result (hset rfl) hsuits.1 hbare)

/-- `conn_event` on an object with one handle at most. -/
theorem connEvent_result (event : BevEvents) (horder : obj.kind.InOrder) (hsuits : obj.kind.Suits obj.base.conn)
    (hhandles : obj.kind.handles ≤ 1) : HasResult ConnectionObject.kind (obj.connEvent event) := by
  obtain ⟨base, kind⟩ := obj
  cases kind with
  | incoming c => exact ⟨_, rfl, trivial⟩
  | direct c => exact ⟨_, rfl, trivial⟩
  | dns c => exact hasResult_settle base (CDNSConnection.connEvent_result event horder hhandles)
  | proxied c => exact hasResult_settle base (CProxyConn.connEvent_result event hsuits.1 hhandles)

/-- `dns_callback` on an object with one handle at most. -/
theorem dnsCallback_result (result : DnsResult) (horder : obj.kind.InOrder) (hhandles : obj.kind.handles ≤ 1) :
    HasResult ConnectionObject.kind (obj.dnsCallback result) := by
  obtain ⟨base, kind⟩ := obj
  cases kind with
  | dns c => exact hasResult_settle base (CDNSConnection.dnsCallback_result result horder hhandles)
  | incoming c => exact ⟨_, rfl, trivial⟩
  | direct c => exact ⟨_, rfl, trivial⟩
  | proxied c => exact ⟨_, rfl, trivial⟩

/-- The handshake leaves the class of an object. -/
theorem handshake_inOrder {names : NameInfo} {s : ProxyStep} {r : ConnResult ConnectionObject}
    (hr : obj.handshake names s = some r) (horder : obj.kind.InOrder) : r.obj.kind.InOrder := by
  obtain ⟨base, kind⟩ := obj
  cases kind with
  | proxied c =>
    obtain ⟨result, -, rfl⟩ := Option.map_eq_some_iff.mp hr
    trivial
  | incoming c => exact Option.some.inj hr ▸ horder
  | direct c => exact Option.some.inj hr ▸ horder
  | dns c => exact Option.some.inj hr ▸ horder

/-- A new object is in order. -/
theorem inOrder_new (conn : CConnection) (id : ConnID) (bytesRead bytesWritten : ℕ) :
    (ConnectionObject.new conn id bytesRead bytesWritten).kind.InOrder := by
  unfold ConnectionObject.new
  split
  · trivial
  · split
    · exact ⟨Iff.rfl, fun _ => rfl, fun hbev => absurd hbev Bool.false_ne_true⟩
    · trivial

end ConnectionObject

namespace CResolveOnly

/-- A resolve-only request is for a name, and has not been asked for while it waits to be tried again. -/
structure InOrder (c : CResolveOnly) : Prop where
  dns : c.conn.isDns = true
  retryEvent : c.retryEvent = true → c.request = false

/-- A method leaves the request in order, and not asked for once it has reported. -/
structure Leaves (r : MethodResult CResolveOnly ResolveReport) : Prop where
  inOrder : r.obj.InOrder
  reported : r.report ≠ .waiting → r.obj.request = false

variable {c : CResolveOnly}

/-- An answer ends the request. -/
theorem onResolved_leaves (result : DnsResult) (horder : c.InOrder) : Leaves (c.onResolved result) := by
  cases result with
  | failure => exact ⟨⟨horder.dns, fun _ => rfl⟩, fun _ => rfl⟩
  | addresses first rest => exact ⟨⟨horder.dns, fun _ => rfl⟩, fun _ => rfl⟩

/-- `dns_callback`. -/
theorem dnsCallback_leaves (result : DnsResult) (horder : c.InOrder) : Leaves (c.dnsCallback result) := by
  unfold dnsCallback
  split
  · exact onResolved_leaves result horder
  · exact ⟨horder, fun hreport => absurd rfl hreport⟩

/-- `Resolve` has a result where nothing has been asked for. -/
theorem resolve_result (names : NameInfo) (lookup : Lookup) (horder : c.InOrder) (hrequest : c.request = false)
    (hretry : c.retryEvent = false) : ∃ r, c.resolve names lookup = some r ∧ Leaves r := by
  have hfailure : Leaves c.onResolveFailure := ⟨⟨horder.dns, fun _ => rfl⟩, fun _ => rfl⟩
  rw [resolve, if_neg (by simp [hrequest, horder.dns])]
  split
  · split
    · cases lookup with
      | later =>
        refine ⟨_, rfl, ⟨horder.dns, fun h => absurd (hretry.symm.trans h) Bool.false_ne_true⟩, fun hreport => ?_⟩
        exact absurd rfl hreport
      | atOnce result =>
        obtain ⟨hleft, hreported⟩ := onResolved_leaves result horder
        exact ⟨_, rfl, hleft, hreported⟩
    · exact ⟨_, rfl, hfailure⟩
  · exact ⟨_, rfl, hfailure⟩

end CResolveOnly

end LibBtcNet
