import LibBtcNet.ConnectionKinds

/-!
# What connections ask and report

The facts about the methods of the four kinds that hold in every state of an object: which
addresses are connected to and which names are resolved, and that a report fits the kind that
makes it. None of them needs an object that is in order.
-/

namespace LibBtcNet

/-- A connection is in the middle of its addresses only if it may be resolved. -/
def CDNSConnection.Resolvable (conn : CConnection) (c : CDNSConnection) : Prop :=
  c.iter ≠ [] ∨ c.request = true → conn.canResolve = true

/-- The class that `StartConnection` chooses for a connection, in a state that it may be in. -/
def ConnKind.Suits (conn : CConnection) : ConnKind → Prop
  | .incoming _ => True
  | .direct _ => conn.proxy.isSet = false ∧ conn.isDns = false
  | .dns c => conn.proxy.isSet = false ∧ conn.isDns = true ∧ conn.isResolveOnly = false ∧ c.Resolvable conn
  | .proxied _ => conn.proxy.isSet = true ∧ conn.isResolveOnly = false

/-- What the options of a connection allow to ask of the network. -/
def NetAction.Permitted (conn : CConnection) : NetAction → Prop
  | .getaddrinfo _ _ _ =>
    conn.proxy.isSet = false ∧ conn.isDns = true ∧ conn.opts.doResolve ≠ .noResolve ∧
      (Family.allows conn.opts.nFamily Family.ipv4 = true ∨ Family.allows conn.opts.nFamily Family.ipv6 = true)
  | .socketConnect addr =>
    (conn.proxy.isSet = true ∧ conn.canConnectProxy = true ∧ addr = connectAddr conn.proxy.toCConnectionBase) ∨
      (conn.proxy.isSet = false ∧ (conn.isDns = true ∨ conn.isOnion = false) ∧
        CConnection.canConnectDirectAddr addr conn.opts.nFamily = true)

/-- A failure names the connection, or an address found for its host that could not be connected to. -/
def ConnReport.Names (conn : CConnection) : ConnReport → Prop
  | .connectionFailure type failed _ => failed = conn ∨ (type = .connect ∧ conn.resolvesToConnect = true ∧
      ∃ addr, failed = CDNSConnection.resolvedConnection conn addr)
  | _ => True

/-- A failure names the connection, unless it is one of a DNS connection. -/
def ConnKind.Names (conn failed : CConnection) : ConnKind → Prop
  | .dns _ => True
  | _ => failed = conn

/-- The reports that a kind makes. -/
def ConnReport.Fits (conn : CConnection) (kind : ConnKind) : ConnReport → Prop
  | .waiting => True
  | .connectionFailure _ failed _ => kind.isOutgoing = true ∧ kind.Names conn failed
  | .outgoingConnected _ _ => kind.isOutgoing = true
  | .incomingConnected _ _ => kind.isOutgoing = false

/-- A result of a kind: what it asks is permitted, its report is one of the kind, and only outgoing
connections ask. -/
structure ConnResult.Fits {α : Type} (conn : CConnection) (kind : ConnKind) (r : ConnResult α) : Prop where
  permitted : kind.Suits conn → ∀ action ∈ r.net, action.Permitted conn
  report : r.report.Fits conn kind
  asks : r.net ≠ [] → kind.isOutgoing = true

/-- A result that asks for nothing. -/
theorem ConnResult.Fits.of_report {α : Type} {conn : CConnection} {kind : ConnKind} {obj : α} {report : ConnReport}
    (hreport : report.Fits conn kind) : ConnResult.Fits conn kind ⟨obj, [], report⟩ :=
  ⟨fun _ _ haction => absurd haction List.not_mem_nil, hreport, fun hnet => absurd rfl hnet⟩

/-- The answer to `CanResolve`. -/
theorem CConnection.canResolve_iff (conn : CConnection) : conn.canResolve = true ↔
    conn.isSet = true ∧ conn.isDns = true ∧ conn.opts.doResolve ≠ .noResolve ∧
      (Family.allows conn.opts.nFamily Family.ipv4 = true ∨ Family.allows conn.opts.nFamily Family.ipv6 = true) := by
  unfold canResolve
  cases conn.isSet <;> cases conn.isDns <;> cases conn.opts.doResolve <;> simp

/-- A connection that may be connected to through its proxy. -/
theorem CConnection.canConnectProxy_spec {conn : CConnection} (h : conn.canConnectProxy = true) :
    conn.isSet = true ∧ conn.proxy.isSet = true ∧ conn.isResolveOnly = false := by
  unfold canConnectProxy at h
  split at h
  · contradiction
  · next hset =>
    split at h
    · contradiction
    · next hproxy =>
      refine ⟨by simpa using hset, by simpa using hproxy, ?_⟩
      split at h
      · have hresolves : conn.opts.doResolve = .resolveConnect := by simpa using h
        simp [isResolveOnly, hresolves]
      · next hdns => simp [isResolveOnly, Bool.not_eq_true _ ▸ hdns]

/-- A connection that may be connected to directly. -/
theorem CConnection.canConnectDirect_spec {conn : CConnection} (h : conn.canConnectDirect = true) :
    conn.isDns = false ∧ conn.isOnion = false ∧
      canConnectDirectAddr (connectAddr conn.toCConnectionBase) conn.opts.nFamily = true := by
  unfold canConnectDirect at h
  split at h
  · contradiction
  · split at h
    · contradiction
    · next hdns =>
      split at h
      · contradiction
      · next honion =>
        split at h
        · contradiction
        · next sock hsock =>
          rw [connectAddr, hsock]
          exact ⟨Bool.not_eq_true _ ▸ hdns, Bool.not_eq_true _ ▸ honion, h⟩

namespace CDirectConnection

variable {conn : CConnection} {c : CDirectConnection}

/-- A direct connection connects to its own address. -/
theorem connect_fits {r : ConnResult CDirectConnection} (hr : c.connect conn = some r) :
    r.Fits conn (.direct c) := by
  rcases connect_cases hr with ⟨hcan, bev, rfl⟩ | rfl
  · obtain ⟨-, honion, haddr⟩ := CConnection.canConnectDirect_spec hcan
    refine ⟨fun hsuits action haction => ?_, trivial, fun _ => rfl⟩
    obtain rfl := List.mem_singleton.mp haction
    exact Or.inr ⟨hsuits.1, Or.inr honion, haddr⟩
  · exact .of_report ⟨rfl, rfl⟩

/-- `conn_event` asks for nothing. -/
theorem connEvent_fits (event : BevEvents) : (c.connEvent conn event).Fits conn (.direct c) := by
  unfold connEvent
  split
  · exact .of_report trivial
  · split
    · exact .of_report rfl
    · exact .of_report ⟨rfl, rfl⟩

end CDirectConnection

namespace CDNSConnection

variable {conn : CConnection} {c : CDNSConnection} {r : ConnResult CDNSConnection} {kind : CDNSConnection}

/-- A failed resolution is reported. -/
theorem onResolveFailure_fits (hr : c.onResolveFailure conn = some r) : r.Fits conn (.dns kind) := by
  obtain ⟨-, rfl⟩ := onResolveFailure_cases hr
  exact .of_report ⟨rfl, trivial⟩

/-- So is a failed connect. -/
theorem onConnectFailure_fits (hr : c.onConnectFailure conn = some r) : r.Fits conn (.dns kind) := by
  obtain ⟨addr, iter, -, -, rfl⟩ := onConnectFailure_cases hr
  exact .of_report ⟨rfl, trivial⟩

/-- A resolved address is connected to where its family is allowed. -/
theorem connectResolved_fits (hr : c.connectResolved conn = some r) : r.Fits conn (.dns kind) := by
  rcases connectResolved_cases hr with ⟨addr, iter, -, haddr, bev, rfl⟩ | hfails
  · refine ⟨fun hsuits action haction => ?_, trivial, fun _ => rfl⟩
    obtain rfl := List.mem_singleton.mp haction
    exact Or.inr ⟨hsuits.1, Or.inl hsuits.2.1, haddr⟩
  · exact onConnectFailure_fits hfails

/-- An answer is followed by a connect or a report. -/
theorem onResolved_fits {result : DnsResult} (hr : c.onResolved conn result = some r) : r.Fits conn (.dns kind) := by
  rcases onResolved_cases hr with hfails | ⟨first, rest, hconnects⟩
  · exact onResolveFailure_fits hfails
  · exact connectResolved_fits hconnects

/-- A name is resolved where that is allowed. -/
theorem doResolve_fits {names : NameInfo} {lookup : Lookup} (hr : c.doResolve names conn lookup = some r) :
    r.Fits conn (.dns kind) := by
  rcases doResolve_cases hr with ⟨hcan, family, -, hasks⟩ | hfails
  · have hquery (host : Bytes) (port : UInt16) (hsuits : (ConnKind.dns kind).Suits conn) :
        (NetAction.getaddrinfo host port family).Permitted conn :=
      ⟨hsuits.1, ((CConnection.canResolve_iff conn).mp hcan).2⟩
    rcases hasks with rfl | ⟨result, answered, hanswered, rfl⟩
    · refine ⟨fun hsuits action haction => ?_, trivial, fun _ => rfl⟩
      obtain rfl := List.mem_singleton.mp haction
      exact hquery _ _ hsuits
    · obtain ⟨hpermitted, hreport, -⟩ : ConnResult.Fits conn (.dns kind) answered := onResolved_fits hanswered
      refine ⟨fun hsuits action haction => ?_, hreport, fun _ => rfl⟩
      rcases List.mem_cons.mp haction with rfl | hlater
      · exact hquery _ _ hsuits
      · exact hpermitted hsuits action hlater
  · exact onResolveFailure_fits hfails

/-- `Connect`. -/
theorem connect_fits {names : NameInfo} {lookup : Lookup} (hr : c.connect names conn lookup = some r) :
    r.Fits conn (.dns kind) := by
  rcases connect_cases hr with hresolves | hconnects
  · exact doResolve_fits hresolves
  · exact connectResolved_fits hconnects

/-- `conn_event` asks for nothing. -/
theorem connEvent_fits {event : BevEvents} (hr : c.connEvent conn event = some r) : r.Fits conn (.dns kind) := by
  rcases connEvent_cases hr with rfl | ⟨bev, addr, iter, -, -, rfl⟩ | hfails
  · exact .of_report trivial
  · exact .of_report rfl
  · exact onConnectFailure_fits hfails

/-- `dns_callback`. -/
theorem dnsCallback_fits {result : DnsResult} (hr : c.dnsCallback conn result = some r) :
    r.Fits conn (.dns kind) := by
  rcases dnsCallback_cases hr with ⟨-, hanswered⟩ | rfl
  · exact onResolved_fits hanswered
  · exact .of_report trivial

/-- What a method leaves where it found a connection that may be resolved or is at its beginning. -/
structure Named (conn : CConnection) (r : ConnResult CDNSConnection) : Prop where
  resolvable : r.obj.Resolvable conn
  names : conn.proxy.isSet = false → conn.isResolveOnly = false → r.report.Names conn

/-- A failed resolution names the connection. -/
theorem onResolveFailure_named (hr : c.onResolveFailure conn = some r) : Named conn r := by
  obtain ⟨⟨-, hiter⟩, rfl⟩ := onResolveFailure_cases hr
  refine ⟨fun h => ?_, fun _ _ => Or.inl rfl⟩
  simp [hiter] at h

/-- A failed connect names the resolved address. -/
theorem onConnectFailure_named (hcan : c.Resolvable conn) (hr : c.onConnectFailure conn = some r) :
    Named conn r := by
  obtain ⟨addr, iter, hiter, -, rfl⟩ := onConnectFailure_cases hr
  have hcan := hcan (Or.inl (by simp [hiter]))
  exact ⟨fun _ => hcan, fun hproxy honly => Or.inr ⟨rfl, by simp [CConnection.resolvesToConnect, hproxy, honly, hcan],
    addr, rfl⟩⟩

/-- The next address is connected to, or its failure names it. -/
theorem connectResolved_named (hcan : c.Resolvable conn) (hr : c.connectResolved conn = some r) : Named conn r := by
  rcases connectResolved_cases hr with ⟨addr, iter, -, -, bev, rfl⟩ | hfails
  · exact ⟨hcan, fun _ _ => trivial⟩
  · exact onConnectFailure_named hcan hfails

/-- An answered resolution. -/
theorem onResolved_named {result : DnsResult} (hcan : conn.canResolve = true)
    (hr : c.onResolved conn result = some r) : Named conn r := by
  rcases onResolved_cases hr with hfails | ⟨first, rest, hconnects⟩
  · exact onResolveFailure_named hfails
  · exact connectResolved_named (fun _ => hcan) hconnects

/-- `Connect`. -/
theorem connect_named {names : NameInfo} {lookup : Lookup} (hcan : c.Resolvable conn)
    (hr : c.connect names conn lookup = some r) : Named conn r := by
  rcases connect_cases hr with hresolves | hconnects
  · rcases doResolve_cases hresolves with ⟨hcan, family, -, rfl | ⟨result, answered, hanswered, rfl⟩⟩ | hfails
    · exact ⟨fun _ => hcan, fun _ _ => trivial⟩
    · obtain ⟨hresolvable, hnames⟩ := onResolved_named hcan hanswered
      exact ⟨hresolvable, hnames⟩
    · exact onResolveFailure_named hfails
  · exact connectResolved_named hcan hconnects

/-- `conn_event`. -/
theorem connEvent_named {event : BevEvents} (hcan : c.Resolvable conn) (hr : c.connEvent conn event = some r) :
    Named conn r := by
  rcases connEvent_cases hr with rfl | ⟨bev, addr, iter, hiter, -, rfl⟩ | hfails
  · exact ⟨hcan, fun _ _ => trivial⟩
  · exact ⟨fun _ => hcan (Or.inl (by rw [hiter]; exact List.cons_ne_nil _ _)), fun _ _ => trivial⟩
  · have hcan : ({ c with bareBev := none } : CDNSConnection).Resolvable conn := hcan
    exact onConnectFailure_named hcan hfails

/-- `dns_callback`. -/
theorem dnsCallback_named {result : DnsResult} (hcan : c.Resolvable conn)
    (hr : c.dnsCallback conn result = some r) : Named conn r := by
  rcases dnsCallback_cases hr with ⟨hrequest, hanswered⟩ | rfl
  · exact onResolved_named (hcan (Or.inr hrequest)) hanswered
  · exact ⟨hcan, fun _ _ => trivial⟩

end CDNSConnection

namespace CProxyConn

variable {conn : CConnection} {c : CProxyConn} {r : ConnResult CProxyConn}

/-- A proxied connection connects to its proxy. -/
theorem connect_fits (hr : c.connect conn = some r) : r.Fits conn (.proxied c) := by
  rcases connect_cases hr with ⟨-, hcan, bev, rfl⟩ | rfl
  · refine ⟨fun hsuits action haction => ?_, trivial, fun _ => rfl⟩
    obtain rfl := List.mem_singleton.mp haction
    exact Or.inl ⟨hsuits.1, hcan, rfl⟩
  · exact .of_report ⟨rfl, rfl⟩

/-- `conn_event` asks for nothing. -/
theorem connEvent_fits {event : BevEvents} (hr : c.connEvent conn event = some r) : r.Fits conn (.proxied c) := by
  rcases connEvent_cases hr with rfl | ⟨bev, -, ⟨proxyBev, rfl⟩ | rfl⟩
  · exact .of_report trivial
  · exact .of_report trivial
  · exact .of_report ⟨rfl, rfl⟩

/-- The handshake asks for nothing. -/
theorem handshake_fits {names : NameInfo} {s : ProxyStep} (hr : c.handshake names conn s = some r) :
    r.Fits conn (.proxied c) := by
  obtain ⟨run, -, rfl⟩ := Option.map_eq_some_iff.mp hr
  simp only
  split
  · exact .of_report ⟨rfl, rfl⟩
  · exact .of_report rfl
  · exact .of_report trivial

end CProxyConn

namespace ConnectionObject

/-- What a method does to an object in any state: the base stays as it was, unless a bufferevent is
taken over, the class stays the one that suits the connection, and the result is one of that class. -/
structure Works (obj : ConnectionObject) (r : ConnResult ConnectionObject) : Prop where
  base : r.obj.base =
    match r.report with
    | .outgoingConnected bev _ => obj.base.initConnection bev
    | .incomingConnected bev _ => obj.base.initConnection bev
    | _ => obj.base
  outgoing : r.obj.isOutgoing = obj.isOutgoing
  suits : obj.kind.Suits obj.base.conn → r.obj.kind.Suits obj.base.conn
  names : obj.kind.Suits obj.base.conn → r.report.Names obj.base.conn
  fits : r.Fits obj.base.conn obj.kind

/-- A method leaves the connection and its id alone. -/
theorem Works.keeps {obj : ConnectionObject} {r : ConnResult ConnectionObject} (works : obj.Works r) :
    r.obj.base.conn = obj.base.conn ∧ r.obj.base.id = obj.base.id ∧
    r.obj.base.reconnectFunc = obj.base.reconnectFunc := by
  rw [works.base]
  cases r.report <;> exact ⟨rfl, rfl, rfl⟩

/-- A result of the class is one of the object. -/
theorem works_settle {α : Type} (obj : ConnectionObject) (kind : α → ConnKind) {r : ConnResult α}
    (houtgoing : (kind r.obj).isOutgoing = obj.isOutgoing)
    (hsuits : obj.kind.Suits obj.base.conn → (kind r.obj).Suits obj.base.conn)
    (hnames : obj.kind.Suits obj.base.conn → r.report.Names obj.base.conn) (hfits : r.Fits obj.base.conn obj.kind) :
    obj.Works (settle obj.base kind r) := by
  obtain ⟨c, net, report⟩ := r
  cases report <;> exact ⟨rfl, houtgoing, hsuits, hnames, hfits.permitted, hfits.report, hfits.asks⟩

/-- The results of a direct connection. -/
theorem works_direct {base : ConnectionBase} {c : CDirectConnection} {r : ConnResult CDirectConnection}
    (hfits : r.Fits base.conn (.direct c)) : Works ⟨base, .direct c⟩ (settle base .direct r) := by
  refine works_settle ⟨base, .direct c⟩ .direct rfl id (fun _ => ?_) hfits
  obtain ⟨-, hreport, -⟩ := hfits
  cases hr : r.report with
  | connectionFailure type failed retry =>
    rw [hr] at hreport
    exact Or.inl hreport.2
  | _ => trivial

/-- The results of a proxied connection. -/
theorem works_proxied {base : ConnectionBase} {c : CProxyConn} {r : ConnResult CProxyConn}
    (hfits : r.Fits base.conn (.proxied c)) : Works ⟨base, .proxied c⟩ (settle base .proxied r) := by
  refine works_settle ⟨base, .proxied c⟩ .proxied rfl id (fun _ => ?_) hfits
  obtain ⟨-, hreport, -⟩ := hfits
  cases hr : r.report with
  | connectionFailure type failed retry =>
    rw [hr] at hreport
    exact Or.inl hreport.2
  | _ => trivial

/-- The results of a DNS connection. -/
theorem works_dns {base : ConnectionBase} {c : CDNSConnection} {r : ConnResult CDNSConnection}
    (hfits : r.Fits base.conn (.dns c)) (hnamed : c.Resolvable base.conn → CDNSConnection.Named base.conn r) :
    Works ⟨base, .dns c⟩ (settle base .dns r) := by
  refine works_settle ⟨base, .dns c⟩ .dns rfl (fun hsuits => ?_) (fun hsuits => ?_) hfits
  · obtain ⟨hproxy, hdns, honly, hcan⟩ := hsuits
    exact ⟨hproxy, hdns, honly, (hnamed hcan).resolvable⟩
  · obtain ⟨hproxy, -, honly, hcan⟩ := hsuits
    exact (hnamed hcan).names hproxy honly

/-- Doing nothing. -/
theorem works_unchanged (obj : ConnectionObject) : obj.Works (ConnResult.unchanged obj) :=
  ⟨rfl, rfl, id, fun _ => trivial, .of_report trivial⟩

variable {obj : ConnectionObject} {r : ConnResult ConnectionObject} {names : NameInfo}

/-- `Connect`. -/
theorem connect_works {lookup : Lookup} (hr : obj.connect names lookup = some r) : obj.Works r := by
  obtain ⟨base, kind⟩ := obj
  cases kind with
  | incoming c =>
    obtain rfl := Option.some.inj hr
    exact works_settle ⟨base, .incoming c⟩ .incoming rfl id (fun _ => trivial) (.of_report rfl)
  | direct c =>
    obtain ⟨result, hresult, rfl⟩ := Option.map_eq_some_iff.mp hr
    exact works_direct (CDirectConnection.connect_fits hresult)
  | dns c =>
    obtain ⟨result, hresult, rfl⟩ := Option.map_eq_some_iff.mp hr
    exact works_dns (CDNSConnection.connect_fits hresult) fun hcan => CDNSConnection.connect_named hcan hresult
  | proxied c =>
    obtain ⟨result, hresult, rfl⟩ := Option.map_eq_some_iff.mp hr
    exact works_proxied (CProxyConn.connect_fits hresult)

/-- `conn_event`. -/
theorem connEvent_works {event : BevEvents} (hr : obj.connEvent event = some r) : obj.Works r := by
  obtain ⟨base, kind⟩ := obj
  cases kind with
  | incoming c =>
    obtain rfl := Option.some.inj hr
    exact works_unchanged _
  | direct c =>
    obtain rfl := Option.some.inj hr
    exact works_direct (CDirectConnection.connEvent_fits event)
  | dns c =>
    obtain ⟨result, hresult, rfl⟩ := Option.map_eq_some_iff.mp hr
    exact works_dns (CDNSConnection.connEvent_fits hresult) fun hcan => CDNSConnection.connEvent_named hcan hresult
  | proxied c =>
    obtain ⟨result, hresult, rfl⟩ := Option.map_eq_some_iff.mp hr
    exact works_proxied (CProxyConn.connEvent_fits hresult)

/-- `dns_callback`. -/
theorem dnsCallback_works {result : DnsResult} (hr : obj.dnsCallback result = some r) : obj.Works r := by
  obtain ⟨base, kind⟩ := obj
  unfold dnsCallback at hr
  split at hr
  · next c hkind =>
    obtain ⟨answered, hanswered, rfl⟩ := Option.map_eq_some_iff.mp hr
    change kind = .dns c at hkind
    subst hkind
    exact works_dns (CDNSConnection.dnsCallback_fits hanswered) fun hcan =>
      CDNSConnection.dnsCallback_named hcan hanswered
  · obtain rfl := Option.some.inj hr
    exact works_unchanged _

/-- The handshake. -/
theorem handshake_works {s : ProxyStep} (hr : obj.handshake names s = some r) : obj.Works r := by
  obtain ⟨base, kind⟩ := obj
  unfold handshake at hr
  split at hr
  · next c hkind =>
    obtain ⟨result, hresult, rfl⟩ := Option.map_eq_some_iff.mp hr
    change kind = .proxied c at hkind
    subst hkind
    exact works_proxied (CProxyConn.handshake_fits hresult)
  · obtain rfl := Option.some.inj hr
    exact works_unchanged _

end ConnectionObject

/-- What a method does to a resolve-only request. -/
structure CResolveOnly.Works (c : CResolveOnly) (r : MethodResult CResolveOnly ResolveReport) : Prop where
  id : r.obj.id = c.id
  conn : r.obj.conn = c.conn
  permitted : c.conn.proxy.isSet = false → ∀ action ∈ r.net, action.Permitted c.conn

namespace CResolveOnly

variable {c : CResolveOnly}

/-- An answer asks for nothing. -/
theorem onResolved_works (result : DnsResult) : c.Works (c.onResolved result) := by
  cases result with
  | failure => exact ⟨rfl, rfl, fun _ _ haction => absurd haction List.not_mem_nil⟩
  | addresses first rest => exact ⟨rfl, rfl, fun _ _ haction => absurd haction List.not_mem_nil⟩

/-- `dns_callback`. -/
theorem dnsCallback_works (result : DnsResult) : c.Works (c.dnsCallback result) := by
  unfold dnsCallback
  split
  · exact onResolved_works result
  · exact ⟨rfl, rfl, fun _ _ haction => absurd haction List.not_mem_nil⟩

/-- `Resolve`. -/
theorem resolve_works {names : NameInfo} {lookup : Lookup} {r : MethodResult CResolveOnly ResolveReport}
    (hr : c.resolve names lookup = some r) : c.Works r := by
  unfold resolve at hr
  split at hr
  · contradiction
  · split at hr
    · split at hr
      · next family hfamily hcan =>
        have hquery (host : Bytes) (port : UInt16) (hproxy : c.conn.proxy.isSet = false) :
            (NetAction.getaddrinfo host port family).Permitted c.conn :=
          ⟨hproxy, ((CConnection.canResolve_iff c.conn).mp hcan).2⟩
        cases lookup with
        | later =>
          obtain rfl := Option.some.inj hr
          refine ⟨rfl, rfl, fun hproxy action haction => ?_⟩
          obtain rfl := List.mem_singleton.mp haction
          exact hquery _ _ hproxy
        | atOnce result =>
          obtain rfl := Option.some.inj hr
          obtain ⟨hid, hconn, hpermitted⟩ := onResolved_works result
          refine ⟨hid, hconn, fun hproxy action haction => ?_⟩
          rcases List.mem_cons.mp haction with rfl | hlater
          · exact hquery _ _ hproxy
          · exact hpermitted hproxy action hlater
      · obtain rfl := Option.some.inj hr
        exact onResolved_works .failure
    · obtain rfl := Option.some.inj hr
      exact onResolved_works .failure

end CResolveOnly

end LibBtcNet
