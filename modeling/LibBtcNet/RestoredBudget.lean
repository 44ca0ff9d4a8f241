import LibBtcNet.AddressWalk

/-!
# The retry budget after a success

Each class has a budget of its own. `CDirectConnection` and `CDNSConnection` give it back
whole in `OnConnectSuccess`; `CProxyConn` never gives anything back, so that a proxied
connection goes on with what its earlier failures have left.
-/

namespace LibBtcNet

open Runs

/-- Whether an item is a failure reported with a retry. -/
def AttemptItem.offersRetry : AttemptItem → Bool
  | .failure _ _ _ retry => retry
  | _ => false

/-- How many failures are reported with a retry from now on, while the attempts turn out like this. -/
def Attempts.retriesOffered (names : NameInfo) (newId : Attempts → ConnID) (a : Attempts)
    (outcomes : List AttemptEvent) :
    Option ℕ :=
  (outcomes.foldlM (Attempts.attempt names newId) { a with log := [] }).map fun last =>
    last.log.countP AttemptItem.offersRetry

/-- Two objects of one class in the same state, for the same connection. -/
structure ConnectionObject.Alike (obj obj' : ConnectionObject) : Prop where
  conn : obj.base.conn = obj'.base.conn
  kind : obj.kind = obj'.kind

/-- The same result, up to what does not decide an attempt. -/
structure ConnResult.Alike (r r' : ConnResult ConnectionObject) : Prop where
  obj : r.obj.Alike r'.obj
  net : r.net = r'.net
  report : r.report = r'.report

/-- Connections that stand alike. -/
structure Attempts.Alike (a a' : Attempts) : Prop where
  obj : a.obj.Alike a'.obj
  phase : a.phase = a'.phase
  log : a.log = a'.log

namespace ConnectionObject

variable {obj obj' : ConnectionObject}

/-- A method of the class does not see the rest of the base. -/
theorem settle_alike {α : Type} {base base' : ConnectionBase} (hconn : base.conn = base'.conn) (kind : α → ConnKind)
    (r : ConnResult α) : ConnResult.Alike (settle base kind r) (settle base' kind r) := by
  refine ⟨⟨?_, rfl⟩, rfl, rfl⟩
  obtain ⟨c, net, report⟩ := r
  cases report <;> exact hconn

/-- Nor does one that may fail an assertion. -/
theorem map_settle_alike {α : Type} {base base' : ConnectionBase} (hconn : base.conn = base'.conn)
    (kind : α → ConnKind)
    (r : Option (ConnResult α)) : Option.Rel ConnResult.Alike (r.map (settle base kind))
    (r.map (settle base' kind)) := by
  cases r with
  | none => exact .none
  | some r => exact .some (settle_alike hconn kind r)

/-- Doing nothing. -/
theorem unchanged_alike (h : obj.Alike obj') :
    Option.Rel ConnResult.Alike (some (ConnResult.unchanged obj)) (some (ConnResult.unchanged obj')) :=
  .some ⟨h, rfl, rfl⟩

/-- `Connect`. -/
theorem Alike.connect (h : obj.Alike obj') (names : NameInfo) (lookup : Lookup) :
    Option.Rel ConnResult.Alike (obj.connect names lookup) (obj'.connect names lookup) := by
  obtain ⟨base, kind⟩ := obj
  obtain ⟨base', kind'⟩ := obj'
  obtain ⟨hconn, rfl⟩ : base.conn = base'.conn ∧ kind = kind' := ⟨h.conn, h.kind⟩
  unfold ConnectionObject.connect
  simp only [hconn]
  cases kind with
  | incoming c => exact .some (settle_alike hconn _ _)
  | _ => exact map_settle_alike hconn _ _

/-- `conn_event`. -/
theorem Alike.connEvent (h : obj.Alike obj') (event : BevEvents) :
    Option.Rel ConnResult.Alike (obj.connEvent event) (obj'.connEvent event) := by
  obtain ⟨base, kind⟩ := obj
  obtain ⟨base', kind'⟩ := obj'
  obtain ⟨hconn, rfl⟩ : base.conn = base'.conn ∧ kind = kind' := ⟨h.conn, h.kind⟩
  unfold ConnectionObject.connEvent
  simp only [hconn]
  cases kind with
  | incoming c => exact unchanged_alike h
  | direct c => exact .some (settle_alike hconn _ _)
  | _ => exact map_settle_alike hconn _ _

/-- `dns_callback`. -/
theorem Alike.dnsCallback (h : obj.Alike obj') (result : DnsResult) :
    Option.Rel ConnResult.Alike (obj.dnsCallback result) (obj'.dnsCallback result) := by
  obtain ⟨base, kind⟩ := obj
  obtain ⟨base', kind'⟩ := obj'
  obtain ⟨hconn, rfl⟩ : base.conn = base'.conn ∧ kind = kind' := ⟨h.conn, h.kind⟩
  unfold ConnectionObject.dnsCallback
  simp only [hconn]
  cases kind with
  | dns c => exact map_settle_alike hconn _ _
  | _ => exact unchanged_alike h

/-- The handshake. -/
theorem Alike.handshake (h : obj.Alike obj') (names : NameInfo) (s : ProxyStep) :
    Option.Rel ConnResult.Alike (obj.handshake names s) (obj'.handshake names s) := by
  obtain ⟨base, kind⟩ := obj
  obtain ⟨base', kind'⟩ := obj'
  obtain ⟨hconn, rfl⟩ : base.conn = base'.conn ∧ kind = kind' := ⟨h.conn, h.kind⟩
  unfold ConnectionObject.handshake
  simp only [hconn]
  cases kind with
  | proxied c => exact map_settle_alike hconn _ _
  | _ => exact unchanged_alike h

end ConnectionObject

namespace Attempts

variable {names : NameInfo} {newId newId' : Attempts → ConnID} {conn : CConnection} {a a' next : Attempts}

/-- Alike reports leave connections alike. -/
theorem Alike.report (h : a.Alike a') {r r' : ConnResult ConnectionObject} (hr : r.Alike r')
    (items : List AttemptItem) :
    (a.report newId items r).Alike (a'.report newId' items r') := by
  obtain ⟨hobj, -, hreport⟩ := hr
  refine ⟨?_, congrArg ConnReport.phase hreport, congrArg (· ++ items) h.log⟩
  unfold Attempts.report
  simp only [hreport]
  split
  · exact ⟨hobj.conn, hobj.kind⟩
  · exact ⟨hobj.conn, hobj.kind⟩
  · exact hobj

/-- Connections that stand alike fare alike. -/
theorem Alike.attempt (h : a.Alike a') (e : AttemptEvent) :
    Option.Rel Alike (a.attempt names newId e) (a'.attempt names newId' e) := by
  have hmap {r r' : Option (ConnResult ConnectionObject)} (hr : Option.Rel ConnResult.Alike r r')
      (items : ConnResult ConnectionObject → List AttemptItem)
      (hitems : ∀ r r', ConnResult.Alike r r' → items r = items r') :
      Option.Rel Alike (r.map fun r => a.report newId (items r) r)
        (r'.map fun r => a'.report newId' (items r) r) := by
    cases hr with
    | none => exact .none
    | @some r r' hr =>
      refine .some ?_
      change (a.report newId (items r) r).Alike (a'.report newId' (items r') r')
      rw [hitems r r' hr]
      exact h.report hr (items r')
  have hitems (answers : List AttemptItem) (atOnce : Bool) (r r' : ConnResult ConnectionObject) (hr : r.Alike r') :
      r.items answers atOnce = r'.items answers atOnce := by
    rw [ConnResult.items, hr.net, hr.report, ConnResult.items]
  have hidle : Option.Rel Alike (some a) (some a') := .some h
  unfold Attempts.attempt
  rw [← h.phase, ← h.obj.kind]
  generalize a.phase = phase
  cases e with
  | begin lookup =>
    cases phase with
    | due =>
      have hbegin : ConnectionObject.Alike { a.obj with base := { a.obj.base with reconnectFunc := false } }
          { a'.obj with base := { a'.obj.base with reconnectFunc := false } } := ⟨h.obj.conn, h.obj.kind⟩
      exact hmap (hbegin.connect names lookup) _ (hitems _ true)
    | _ => exact hidle
  | connEvent event =>
    cases phase with
    | waiting => exact hmap (h.obj.connEvent event) _ (hitems [] false)
    | _ => exact hidle
  | dnsCallback result =>
    cases phase with
    | waiting =>
      change Option.Rel Alike (if a.obj.kind.resolving then _ else _) (if a.obj.kind.resolving then _ else _)
      split
      · exact hmap (h.obj.dnsCallback result) _ fun r r' hr => congrArg _ (hitems [] true r r' hr)
      · exact hidle
    | _ => exact hidle
  | handshake s =>
    cases phase with
    | waiting => exact hmap (h.obj.handshake names s) _ (hitems [] false)
    | _ => exact hidle

/-- They are offered the same retries. -/
theorem Alike.retriesOffered (h : a.obj.Alike a'.obj) (hphase : a.phase = a'.phase) (outcomes : List AttemptEvent) :
    a.retriesOffered names newId outcomes = a'.retriesOffered names newId' outcomes := by
  have hends : Option.Rel Alike (outcomes.foldlM (Attempts.attempt names newId) { a with log := [] })
      (outcomes.foldlM (Attempts.attempt names newId') { a' with log := [] }) :=
    rel_foldlM (fun _ _ e h => h.attempt e) ⟨h, hphase, rfl⟩ outcomes
  unfold Attempts.retriesOffered
  generalize outcomes.foldlM (Attempts.attempt names newId) { a with log := [] } = last,
    outcomes.foldlM (Attempts.attempt names newId') { a' with log := [] } = last' at hends ⊢
  cases hends with
  | none => rfl
  | some h => simp [h.log]

/-- The object is a direct connection, which holds its whole budget when it is established. -/
def HoldsDirect (conn : CConnection) (a : Attempts) : Prop :=
  ∃ c, a.obj.kind = .direct c ∧ a.obj.base.conn = conn ∧ (a.phase = .established → c = .new conn)

/-- The object is a proxied connection. Until it is dropped its budget lacks the retries that it was
offered, and it has connected to its proxy if it waits or is established. -/
def HoldsProxied (conn : CConnection) (a : Attempts) : Prop :=
  ∃ c, a.obj.kind = .proxied c ∧ a.obj.base.conn = conn ∧
    (a.phase ≠ .dropped → 0 ≤ c.retries ∧ c.retries + a.log.countP AttemptItem.offersRetry = conn.opts.nRetries) ∧
    (a.phase = .waiting → (ConnKind.proxied c).handles ≤ 1) ∧
    (a.phase = .due ∨ a.phase = .established → c.bareBev = none ∧ c.proxyBev = none) ∧
    (a.phase = .waiting ∨ a.phase = .established → conn.isSet = true ∧ conn.canConnectProxy = true)

end Attempts

/-- `Connect` reports no success. -/
theorem CDirectConnection.connect_restored {conn : CConnection} {c : CDirectConnection}
    {r : ConnResult CDirectConnection} (hr : c.connect conn = some r) : r.report.phase ≠ .established := by
  rcases connect_cases hr with ⟨-, bev, rfl⟩ | rfl
  · simp [ConnReport.phase]
  · simp [ConnReport.phase]

/-- `OnConnectSuccess` gives the whole budget back. -/
theorem CDirectConnection.connEvent_restored {conn : CConnection} {c : CDirectConnection} {event : BevEvents}
    (hphase : (c.connEvent conn event).report.phase = .established) : (c.connEvent conn event).obj = .new conn := by
  unfold connEvent at hphase ⊢
  split at hphase
  · contradiction
  · split at hphase
    · next bev hbev hconnected =>
      rw [if_pos hconnected]
      rfl
    · unfold onConnectFailure at hphase
      cases hretry : (takeRetry c.retries).2 <;> simp [ConnReport.phase, hretry] at hphase

/-- What a method of a proxied connection does to the budget: only a failure with a retry takes one. -/
def CProxyConn.Spends (c : CProxyConn) (r : ConnResult CProxyConn) : Prop :=
  match r.report with
  | .connectionFailure _ _ retry =>
    retry = true → (takeRetry c.retries).2 = true ∧ r.obj.retries = (takeRetry c.retries).1
  | _ => r.obj.retries = c.retries

namespace CProxyConn

variable {conn : CConnection} {c : CProxyConn} {r : ConnResult CProxyConn}

/-- `Connect`. -/
theorem connect_spends (hr : c.connect conn = some r) : c.Spends r ∧ r.report.phase ≠ .established ∧
    (r.report.phase = .waiting → conn.isSet = true ∧ conn.canConnectProxy = true) := by
  rcases connect_cases hr with ⟨hset, hcan, bev, rfl⟩ | rfl
  · exact ⟨rfl, by simp [ConnReport.phase], fun _ => ⟨hset, hcan⟩⟩
  · exact ⟨fun hretry => absurd hretry Bool.false_ne_true, by simp [ConnReport.phase], by simp [ConnReport.phase]⟩

/-- A reported failure. -/
theorem onFailure_spends (type : ConnectionFailureType) : c.Spends (c.onFailure type conn) :=
  fun hretry => ⟨hretry, rfl⟩

/-- `conn_event`. -/
theorem connEvent_spends {event : BevEvents} (hr : c.connEvent conn event = some r) : c.Spends r := by
  rcases connEvent_cases hr with rfl | ⟨bev, -, ⟨proxyBev, rfl⟩ | rfl⟩
  · exact rfl
  · exact rfl
  · exact @onFailure_spends conn { c with bareBev := none } .proxy

/-- The handshake. -/
theorem handshake_spends {names : NameInfo} {s : ProxyStep} (hr : c.handshake names conn s = some r) :
    c.Spends r := by
  obtain ⟨run, -, rfl⟩ := Option.map_eq_some_iff.mp hr
  simp only
  split
  · exact @onFailure_spends conn { c with proxyBev := run.proxy.bev } .connect
  · exact rfl
  · exact rfl

end CProxyConn

/-- Only a report offers retries. -/
theorem ConnResult.countP_items {α : Type} {answers : List AttemptItem}
    (hanswers : answers.countP AttemptItem.offersRetry = 0) (atOnce : Bool) (r : ConnResult α) :
    (r.items answers atOnce).countP AttemptItem.offersRetry =
      (r.report.items atOnce).countP AttemptItem.offersRetry := by
  have hnet : (r.net.flatMap (·.items answers)).countP AttemptItem.offersRetry = 0 := by
    rw [List.countP_eq_zero] at hanswers ⊢
    intro item hitem
    obtain ⟨action, -, haction⟩ := List.mem_flatMap.mp hitem
    cases action with
    | getaddrinfo host port family =>
      rcases List.mem_cons.mp haction with rfl | hmem
      · exact Bool.false_ne_true
      · exact hanswers item hmem
    | socketConnect addr =>
      obtain rfl := List.mem_singleton.mp haction
      exact Bool.false_ne_true
  rw [ConnResult.items, List.countP_append, hnet, Nat.zero_add]

/-- An answer at once offers none. -/
theorem Lookup.countP_answers (lookup : Lookup) : lookup.answers.countP AttemptItem.offersRetry = 0 := by
  cases lookup <;> rfl

namespace Attempts

variable {names : NameInfo} {newId newId' : Attempts → ConnID} {conn : CConnection} {a a' next : Attempts}

/-- A method of a direct connection that keeps its budget in order. -/
theorem holdsDirect_report {base : ConnectionBase} {r : ConnResult CDirectConnection} (items : List AttemptItem)
    (hconn : base.conn = conn) (hr : r.report.phase = .established → r.obj = .new conn) :
    HoldsDirect conn (a.report newId items (ConnectionObject.settle base .direct r)) :=
  ⟨r.obj, report_kind newId a items _, by rw [report_conn, ConnectionObject.settle_conn, hconn], hr⟩

/-- The step of a direct connection. -/
theorem HoldsDirect.step (h : HoldsDirect conn a) {e : AttemptsEvent} (hstep : a.step names newId e = some next) :
    HoldsDirect conn next := by
  obtain ⟨⟨base, kind⟩, phase, log⟩ := a
  obtain ⟨c, rfl, rfl, hfresh⟩ := h
  rcases step_cases hstep with rfl | ⟨items, r, hran, rfl⟩ | ⟨hphase, s, run, hrun, rfl⟩
  · exact ⟨c, rfl, rfl, hfresh⟩
  · cases hran with
    | connect hphase hr =>
      obtain ⟨result, hresult, rfl⟩ := Option.map_eq_some_iff.mp hr
      exact holdsDirect_report _ rfl fun hlast => absurd hlast (CDirectConnection.connect_restored hresult)
    | connEvent hphase hr =>
      obtain rfl := Option.some.inj hr
      exact holdsDirect_report _ rfl CDirectConnection.connEvent_restored
    | dnsCallback hphase hresolving hr => exact absurd hresolving Bool.false_ne_true
    | handshake hphase hr =>
      obtain rfl := Option.some.inj hr
      exact ⟨c, rfl, rfl, fun hlast => absurd hlast (by simp [report, ConnResult.unchanged, ConnReport.phase])⟩
  · exact ⟨c, lived_kind newId _ run, (lived_conn newId _ run).trans (ConnRun.step_conn hrun), fun _ => hfresh hphase⟩

/-- A method of a proxied connection that spends its budget. -/
theorem holdsProxied_report {base : ConnectionBase} {c : CProxyConn} {r : ConnResult CProxyConn}
    {items : List AttemptItem} {atOnce : Bool} (hconn : base.conn = conn)
    (hbudget : 0 ≤ c.retries ∧ c.retries + a.log.countP AttemptItem.offersRetry = conn.opts.nRetries)
    (hitems : items.countP AttemptItem.offersRetry = (r.report.items atOnce).countP AttemptItem.offersRetry)
    (hspends : c.Spends r) (hsettled : r.Settled .proxied)
    (hreached : r.report.phase = .waiting ∨ r.report.phase = .established →
      conn.isSet = true ∧ conn.canConnectProxy = true) :
    HoldsProxied conn (a.report newId items (ConnectionObject.settle base .proxied r)) := by
  obtain ⟨obj, net, rep⟩ := r
  have hidle (hhandles : (ConnKind.proxied obj).handles = 0) : obj.bareBev = none ∧ obj.proxyBev = none := by
    simpa [ConnKind.handles] using hhandles
  refine ⟨obj, report_kind newId a items _, by rw [report_conn, ConnectionObject.settle_conn, hconn], ?_, ?_,
    ?_, hreached⟩
  · intro hkept
    change rep.phase ≠ .dropped at hkept
    change 0 ≤ obj.retries ∧ obj.retries + ((a.log ++ items).countP AttemptItem.offersRetry : ℤ) = _
    rw [List.countP_append, hitems]
    cases rep with
    | connectionFailure type failed retry =>
      cases retry with
      | false => exact absurd rfl hkept
      | true =>
        obtain ⟨htaken, hretries⟩ := hspends rfl
        change obj.retries = (takeRetry c.retries).1 at hretries
        have hpos : 0 < c.retries := by
          rw [takeRetry_retry, decide_eq_true_iff] at htaken
          omega
        have hleft : obj.retries = c.retries - 1 := by rw [hretries, takeRetry, if_pos hpos]
        simp only [ConnReport.items, List.countP_cons, List.countP_nil, AttemptItem.offersRetry]
        push_cast
        omega
    | _ =>
      have hkept : obj.retries = c.retries := hspends
      simpa [ConnReport.items, hkept, AttemptItem.offersRetry] using hbudget
  · intro hwaits
    change rep.phase = .waiting at hwaits
    cases rep with
    | waiting => exact hsettled
    | connectionFailure type failed retry => cases retry <;> contradiction
    | _ => contradiction
  · intro hended
    change rep.phase = .due ∨ rep.phase = .established at hended
    cases rep with
    | waiting => simp [ConnReport.phase] at hended
    | _ => exact hidle hsettled.1

/-- The step of a proxied connection. -/
theorem HoldsProxied.step (h : HoldsProxied conn a) {e : AttemptsEvent} (hstep : a.step names newId e = some next) :
    HoldsProxied conn next := by
  obtain ⟨⟨base, kind⟩, phase, log⟩ := a
  obtain ⟨c, rfl, rfl, hbudget, hhandles, hidle, hreached⟩ := h
  rcases step_cases hstep with rfl | ⟨items, r, hran, rfl⟩ | ⟨hphase, s, run, hrun, rfl⟩
  · exact ⟨c, rfl, rfl, hbudget, hhandles, hidle, hreached⟩
  · cases hran with
    | @connect lookup r hphase hr =>
      obtain rfl : phase = .due := hphase
      obtain ⟨result, hresult, rfl⟩ := Option.map_eq_some_iff.mp hr
      obtain ⟨hspends, hother, hwaits⟩ := CProxyConn.connect_spends hresult
      obtain ⟨hbare, hproxy⟩ := hidle (Or.inl rfl)
      have hnone : (ConnKind.proxied c).handles = 0 := by simp [ConnKind.handles, hbare, hproxy]
      exact holdsProxied_report rfl (hbudget (by simp)) (ConnResult.countP_items lookup.countP_answers true result)
        hspends (CProxyConn.connect_settled hnone hresult) fun hended => hended.elim hwaits fun hlast =>
          absurd hlast hother
    | connEvent hphase hr =>
      obtain rfl : phase = .waiting := hphase
      obtain ⟨result, hresult, rfl⟩ := Option.map_eq_some_iff.mp hr
      exact holdsProxied_report rfl (hbudget (by simp)) (ConnResult.countP_items rfl false result)
        (CProxyConn.connEvent_spends hresult) (CProxyConn.connEvent_settled (hhandles rfl) hresult)
        fun _ => hreached (Or.inl rfl)
    | dnsCallback hphase hresolving hr => exact absurd hresolving Bool.false_ne_true
    | handshake hphase hr =>
      obtain rfl : phase = .waiting := hphase
      obtain ⟨result, hresult, rfl⟩ := Option.map_eq_some_iff.mp hr
      exact holdsProxied_report rfl (hbudget (by simp)) (ConnResult.countP_items rfl false result)
        (CProxyConn.handshake_spends hresult) (CProxyConn.handshake_settled (hhandles rfl) hresult)
        fun _ => hreached (Or.inl rfl)
  · obtain rfl : phase = .established := hphase
    have hconn := (lived_conn newId ⟨⟨base, .proxied c⟩, .established, log⟩ run).trans (ConnRun.step_conn hrun)
    have hbudget := hbudget (by simp)
    have hnone := hidle (Or.inr rfl)
    have hreached := hreached (Or.inr rfl)
    refine ⟨c, lived_kind newId _ run, hconn, fun _ => ⟨hbudget.1, ?_⟩, fun hwaits => ?_, fun _ => hnone,
      fun _ => hreached⟩
    · rcases lived_phase newId ⟨⟨base, .proxied c⟩, .established, log⟩ run with ⟨-, hlog⟩ | ⟨-, hlog⟩
      · rw [hlog]
        exact hbudget.2
      · rw [hlog, List.countP_append]
        exact hbudget.2
    · simp [ConnKind.handles, hnone]

/-- A connection that is due with some retries left to try its proxy. -/
def DueWith (conn : CConnection) (left : ℕ) (a : Attempts) : Prop :=
  a.phase = .due ∧ a.obj.base.conn = conn ∧ a.obj.kind = .proxied ⟨left, none, none⟩

/-- A connection that is dropped meets no event. -/
theorem foldlM_of_dropped (hphase : a.phase = .dropped) (events : List AttemptEvent) :
    events.foldlM (Attempts.attempt names newId) a = some a := by
  have hstays (e : AttemptEvent) : a.attempt names newId e = some a := by
    unfold Attempts.attempt
    rw [hphase]
  induction events with
  | nil => rfl
  | cons e events ih => rw [List.foldlM_cons, hstays e]; exact ih

/-- The proxy cannot be reached. -/
def unreached : List AttemptEvent := [.begin .later, .connEvent .connectFails]

/-- The failure of a round is reported with what the budget gives. -/
theorem unreached_spec {base : ConnectionBase} {log : List AttemptItem} (retries : ℤ) (hset : base.conn.isSet = true)
    (hcan : base.conn.canConnectProxy = true) :
    ∃ before : Attempts, before.log.countP AttemptItem.offersRetry = log.countP AttemptItem.offersRetry ∧
      unreached.foldlM (Attempts.attempt names newId) ⟨⟨base, .proxied ⟨retries, none, none⟩⟩, .due, log⟩ =
        some (before.report newId [.failure false .proxy base.conn (takeRetry retries).2]
          (ConnectionObject.settle { base with reconnectFunc := false } .proxied
            (CProxyConn.onConnectFailure base.conn ⟨retries, none, none⟩))) := by
  obtain ⟨bev, hbev⟩ : ∃ bev, bareConnect none (connectAddr base.conn.proxy.toCConnectionBase)
      base.conn.opts.nConnTimeout = some bev := by simp [bareConnect, connectAddr_isEmpty]
  have hconnect : CProxyConn.connect base.conn ⟨retries, none, none⟩ = some ⟨⟨retries, some bev, none⟩,
      [.socketConnect (connectAddr base.conn.proxy.toCConnectionBase)], .waiting⟩ := by
    simp [CProxyConn.connect, hset, (CConnection.canConnectProxy_spec hcan).2.1, hcan, hbev]
  let before : Attempts := ⟨⟨{ base with reconnectFunc := false }, .proxied ⟨retries, some bev, none⟩⟩, .waiting,
    log ++ [.started (connectAddr base.conn.proxy.toCConnectionBase)]⟩
  refine ⟨before, by simp [before, List.countP_append, AttemptItem.offersRetry], ?_⟩
  have hbegin : Attempts.attempt names newId ⟨⟨base, .proxied ⟨retries, none, none⟩⟩, .due, log⟩ (.begin .later) =
      some before := congrArg (Option.map _) (congrArg (Option.map _) hconnect)
  rw [unreached, List.foldlM_cons, hbegin]
  rfl

/-- One round of a proxied connection takes a retry, or drops it without one. -/
theorem DueWith.unreached {left : ℕ} (h : DueWith conn left a) (hset : conn.isSet = true)
    (hcan : conn.canConnectProxy = true) :
    ∃ next, Attempts.unreached.foldlM (Attempts.attempt names newId) a = some next ∧
      next.log.countP AttemptItem.offersRetry = a.log.countP AttemptItem.offersRetry + min 1 left ∧
      (left = 0 → next.phase = .dropped) ∧ (0 < left → DueWith conn (left - 1) next) := by
  obtain ⟨⟨base, kind⟩, phase, log⟩ := a
  obtain ⟨rfl, rfl, rfl⟩ := h
  obtain ⟨before, hcount, hround⟩ := @unreached_spec names newId base log left hset hcan
  refine ⟨_, hround, ?_⟩
  cases left with
  | zero =>
    refine ⟨?_, fun _ => rfl, fun hpos => absurd hpos (lt_irrefl 0)⟩
    change (before.log ++ _).countP _ = _
    rw [List.countP_append, hcount]
    rfl
  | succ left =>
    have hfails : CProxyConn.onConnectFailure base.conn ⟨(left + 1 : ℕ), none, none⟩ =
        ⟨⟨left, none, none⟩, [], .connectionFailure .proxy base.conn true⟩ := by
      simp only [CProxyConn.onConnectFailure, CProxyConn.onFailure, takeRetry_succ]
    rw [takeRetry_succ, hfails]
    refine ⟨?_, fun hzero => absurd hzero (Nat.succ_ne_zero left), fun _ => ⟨rfl, rfl, rfl⟩⟩
    change (before.log ++ _).countP _ = _
    rw [List.countP_append, hcount, Nat.min_eq_left (Nat.le_add_left 1 left)]
    rfl

/-- As many rounds as a proxied connection has retries left offer them all, and more rounds no more. -/
theorem DueWith.rounds {left : ℕ} (h : DueWith conn left a) (hset : conn.isSet = true)
    (hcan : conn.canConnectProxy = true) (n : ℕ) : ∃ last,
    (List.replicate n Attempts.unreached).flatten.foldlM (Attempts.attempt names newId) a = some last ∧
      last.log.countP AttemptItem.offersRetry = a.log.countP AttemptItem.offersRetry + min n left := by
  induction n generalizing a left with
  | zero => exact ⟨a, rfl, by simp⟩
  | succ n ih =>
    obtain ⟨next, hnext, hcount, hdropped, hdue⟩ := h.unreached hset hcan
    rw [List.replicate_succ, List.flatten_cons, List.foldlM_append, hnext]
    rcases Nat.eq_zero_or_pos left with hzero | hpos
    · exact ⟨next, foldlM_of_dropped (hdropped hzero) _, by omega⟩
    · obtain ⟨last, hlast, hrest⟩ := ih (hdue hpos)
      exact ⟨last, hlast, by omega⟩

/-- A new proxied connection has its whole budget. -/
theorem holdsProxied_start (id : ConnID) (bytesRead bytesWritten : ℕ) (hproxy : conn.proxy.isSet = true)
    (hretries : 0 ≤ conn.opts.nRetries) : HoldsProxied conn (start (.new conn id bytesRead bytesWritten)) := by
  refine ⟨.new conn, if_pos hproxy, rfl, fun _ => ⟨hretries, ?_⟩, nofun, fun _ => ⟨rfl, rfl⟩, fun hphase => ?_⟩
  · exact add_zero _
  · simp [start] at hphase

/-- Once it is established, a connection stands as it did when it was new, unless its proxy has cost it a retry. -/
theorem alike_of_established {id id' : ConnID} {bytesRead bytesWritten bytesRead' bytesWritten' : ℕ}
    {history : List AttemptsEvent} (hretries : 0 ≤ conn.opts.nRetries)
    (hhistory : history.foldlM (Attempts.step names newId) (start (.new conn id bytesRead bytesWritten)) = some a)
    (hestablished : a.phase = .established)
    (hoffers : conn.proxy.isSet = true → a.log.countP AttemptItem.offersRetry = 0) :
    a.obj.Alike (.new conn id' bytesRead' bytesWritten') := by
  cases hproxy : conn.proxy.isSet with
  | true =>
    obtain ⟨⟨retries, bareBev, proxyBev⟩, hkind, hconn, hbudget, -, hidle, -⟩ : HoldsProxied conn a :=
      foldlM_invariant (fun _ _ _ h hstep => h.step hstep)
        (holdsProxied_start id bytesRead bytesWritten hproxy hretries)
        hhistory
    obtain ⟨rfl, rfl⟩ : bareBev = none ∧ proxyBev = none := hidle (Or.inr hestablished)
    have hwhole : retries = conn.opts.nRetries := by
      have hsum := (hbudget (by simp [hestablished])).2
      rw [hoffers hproxy] at hsum
      exact (add_zero _).symm.trans hsum
    refine ⟨hconn, hkind.trans ?_⟩
    simp [ConnectionObject.new, hproxy, CProxyConn.new, hwhole]
  | false =>
    cases hdns : conn.isDns with
    | true =>
      have hnew : ConnectionObject.new conn id bytesRead bytesWritten =
          ⟨.new conn id bytesRead bytesWritten, .dns (.new conn)⟩ := by simp [ConnectionObject.new, hproxy, hdns]
      rw [hnew] at hhistory
      obtain ⟨c, walker, hkind, hconn, -, hwalking⟩ : Follows conn a :=
        foldlM_invariant (fun _ _ _ h hstep => h.step hstep) (follows_start conn id bytesRead bytesWritten) hhistory
      rw [hestablished] at hwalking
      cases hwalking
      refine ⟨hconn, hkind.trans ?_⟩
      simp [ConnectionObject.new, hproxy, hdns]
    | false =>
      have hstart : HoldsDirect conn (start (.new conn id bytesRead bytesWritten)) :=
        ⟨.new conn, by simp [start, ConnectionObject.new, hproxy, hdns], rfl, nofun⟩
      obtain ⟨c, hkind, hconn, hfresh⟩ : HoldsDirect conn a :=
        foldlM_invariant (fun _ _ _ h hstep => h.step hstep) hstart hhistory
      refine ⟨hconn, hkind.trans ?_⟩
      simp [ConnectionObject.new, hproxy, hdns, hfresh hestablished]

/-- Losing an established connection leaves its object in its place. -/
theorem alike_of_lost {s : ConnStep} (hestablished : a.phase = .established)
    (hlost : a.step names newId (.established s) = some next) : next.obj.Alike a.obj := by
  change (if a.phase = .established then _ else _) = some next at hlost
  rw [if_pos hestablished] at hlost
  obtain ⟨run, hrun, rfl⟩ := Option.map_eq_some_iff.mp hlost
  exact ⟨(lived_conn newId a run).trans (ConnRun.step_conn hrun), lived_kind newId a run⟩

/-- A proxied connection is offered as many retries as it has left, when enough rounds fail. -/
theorem DueWith.retriesOffered {left n : ℕ} (h : DueWith conn left { a with log := [] }) (hset : conn.isSet = true)
    (hcan : conn.canConnectProxy = true) :
    a.retriesOffered names newId (List.replicate n Attempts.unreached).flatten = some (min n left) := by
  obtain ⟨last, hlast, hcount⟩ := @DueWith.rounds names newId conn _ left h hset hcan n
  rw [Attempts.retriesOffered, hlast, Option.map_some, hcount]
  simp

end Attempts

/-- After a success, a loss and an accepted reconnect a connection is offered the same retries as a new one,
whatever its attempts meet, exactly when it has no proxy or has not been offered a retry before. -/
theorem retriesOffered_again_iff (names : NameInfo) (newId newId' : Attempts → ConnID) {conn : CConnection}
    (id id' : ConnID) (bytesRead bytesWritten bytesRead' bytesWritten' : ℕ) {history : List AttemptsEvent}
    {s : ConnStep} {a next : Attempts} (hretries : 0 ≤ conn.opts.nRetries)
    (hhistory : history.foldlM (Attempts.step names newId) (.start (.new conn id bytesRead bytesWritten)) = some a)
    (hestablished : a.phase = .established) (hlost : a.step names newId (.established s) = some next)
    (hagain : next.phase = .due) :
    (∀ outcomes, next.retriesOffered names newId outcomes =
        (Attempts.start (.new conn id' bytesRead' bytesWritten')).retriesOffered names newId' outcomes) ↔
      (conn.proxy.isSet = true → ∀ item ∈ a.log, item.offersRetry = false) := by
  have hnone : a.log.countP AttemptItem.offersRetry = 0 ↔ ∀ item ∈ a.log, item.offersRetry = false := by
    simp [List.countP_eq_zero]
  have hnext := Attempts.alike_of_lost hestablished hlost
  constructor
  · intro hsame hproxy
    by_contra hoffered
    -- Its proxy is not reached for as many rounds as a new connection has retries.
    obtain ⟨⟨retries, bareBev, proxyBev⟩, hkind, hconn, hbudget, -, hidle, hreached⟩ : Attempts.HoldsProxied conn a :=
      foldlM_invariant (fun _ _ _ h hstep => h.step hstep)
        (Attempts.holdsProxied_start id bytesRead bytesWritten hproxy hretries) hhistory
    obtain ⟨hpos, hsum⟩ := hbudget (by simp [hestablished])
    obtain ⟨hset, hcan⟩ := hreached (Or.inr hestablished)
    obtain ⟨rfl, rfl⟩ : bareBev = none ∧ proxyBev = none := hidle (Or.inr hestablished)
    obtain ⟨left, rfl⟩ := Int.eq_ofNat_of_zero_le hpos
    obtain ⟨whole, hwhole⟩ := Int.eq_ofNat_of_zero_le hretries
    have hagain : Attempts.DueWith conn left { next with log := [] } :=
      ⟨hagain, hnext.conn.trans hconn, hnext.kind.trans hkind⟩
    have hnew : Attempts.DueWith conn whole (.start (.new conn id' bytesRead' bytesWritten')) :=
      ⟨rfl, rfl, by simp [Attempts.start, ConnectionObject.new, hproxy, CProxyConn.new, hwhole]⟩
    have hrounds := hsame (List.replicate whole Attempts.unreached).flatten
    rw [hagain.retriesOffered hset hcan, Attempts.DueWith.retriesOffered hnew hset hcan, min_self] at hrounds
    have hmin := Option.some.inj hrounds
    have hcost : a.log.countP AttemptItem.offersRetry ≠ 0 := fun hzero => hoffered (hnone.mp hzero)
    rw [hwhole] at hsum
    change (left : ℤ) + _ = (whole : ℤ) at hsum
    omega
  · intro hoffers
    have halike : a.obj.Alike (.new conn id' bytesRead' bytesWritten') :=
      Attempts.alike_of_established hretries hhistory hestablished fun hproxy => hnone.mpr (hoffers hproxy)
    exact fun outcomes => Attempts.Alike.retriesOffered
      ⟨hnext.conn.trans halike.conn, hnext.kind.trans halike.kind⟩ hagain outcomes

/-- A persistent connection to the local host with one retry. -/
def oneRetry (proxy : CProxy) : CConnection :=
  { localPeer true with proxy, opts := { (localPeer true).opts with nRetries := 1 } }

/-- The first attempt fails, the second connects, and in the end the user disconnects. -/
def secondAttempt (handshake : List AttemptsEvent) : List AttemptsEvent :=
  [.attempt (.begin .later), .attempt (.connEvent .connectFails), .attempt (.begin .later),
    .attempt (.connEvent .connects)] ++ handshake ++ [.established (.call .disconnect)]

/-- The proxy accepts the handshake without credentials. -/
def proxyAccepts : List AttemptsEvent :=
  [.attempt (.handshake (.arrive [[5, 0]])), .attempt (.handshake .readCallback),
    .attempt (.handshake (.arrive [[5, 0, 0, 1, 127, 0, 0, 1, 0x20, 0x8d]])), .attempt (.handshake .readCallback)]

/-- A direct connection that was retried once has its retry back after it was established. -/
theorem retriesOffered_again_direct : ∃ a next : Attempts,
    (secondAttempt []).foldlM (Attempts.step noNames fun _ => 1) (.start (.new (oneRetry .unset) 0 0 0)) = some a ∧
      a.step noNames (fun _ => 1) (.established (.event .disconnectFunc)) = some next ∧
      ∀ outcomes, next.retriesOffered noNames (fun _ => 1) outcomes =
        (Attempts.start (.new (oneRetry .unset) 0 0 0)).retriesOffered noNames (fun _ => 1) outcomes := by
  refine ⟨_, _, rfl, rfl, ?_⟩
  exact (@retriesOffered_again_iff noNames (fun _ => 1) (fun _ => 1) (oneRetry .unset) 0 0 0 0 0 0 (secondAttempt [])
    (.event .disconnectFunc) _ _ (by decide) rfl rfl rfl rfl).mpr (absurd · (by decide))

/-- A proxied connection has not: its next failure is its last. -/
theorem retriesOffered_again_proxied : ∃ a next : Attempts,
    (secondAttempt proxyAccepts).foldlM (Attempts.step noNames fun _ => 1)
      (.start (.new (oneRetry (localProxy .socks5)) 0 0 0)) = some a ∧ a.phase = .established ∧
      a.step noNames (fun _ => 1) (.established (.event .disconnectFunc)) = some next ∧ next.phase = .due ∧
      next.retriesOffered noNames (fun _ => 1) Attempts.unreached = some 0 ∧
      (Attempts.start (.new (oneRetry (localProxy .socks5)) 0 0 0)).retriesOffered noNames (fun _ => 1)
        Attempts.unreached = some 1 := by
  refine ⟨_, _, rfl, rfl, rfl, rfl, ?_, ?_⟩
  · decide +kernel
  · decide +kernel

end LibBtcNet
