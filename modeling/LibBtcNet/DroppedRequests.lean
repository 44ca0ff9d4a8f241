import LibBtcNet.AddressWalk
import LibBtcNet.RequestLifetimes

/-!
# Dropped requests

A report may destroy the request whose method makes it. On a live object the methods do what
the model without lifetimes says, and all of them end with their report but one: the method
that asks the resolver still assigns the request that it gets. So a request is touched after
its end exactly where the resolver answers before it returns in a way that drops it.
-/

namespace LibBtcNet

open Lifetimes Runs

namespace DnsObject

/-- What a report makes of the object. -/
def settled (a : Answer) (base : ConnectionBase) (r : ConnResult CDNSConnection) : Tracked DnsObject :=
  match r.report with
  | .connectionFailure _ _ retry =>
    if a.accepts retry then .live ⟨base.retry a.newId, r.obj⟩ else .gone (destructor ⟨base, r.obj⟩)
  | .outgoingConnected bev _ | .incomingConnected bev _ =>
    if a.ret then .live ⟨(base.initConnection bev).enable, r.obj⟩
    else .gone (destructor ⟨base.initConnection bev, r.obj⟩)
  | .waiting => .live ⟨base, r.obj⟩

variable (a : Answer) (base : ConnectionBase) (c : CDNSConnection)

/-- A failure is reported while the object is live. -/
theorem onConnectionFailure_live (type : ConnectionFailureType) (failed : CConnection) (retry : Bool) :
    onConnectionFailure a retry (.live ⟨base, c⟩) =
      some ((), settled a base ⟨c, [], .connectionFailure type failed retry⟩) := by
  simp only [onConnectionFailure, bind_apply, read_live, Option.bind_some, handlerOnConnectionFailure, settled]
  split <;> rfl

/-- `OnResolveFailure` on a live object. -/
theorem onResolveFailure_live : onResolveFailure a (.live ⟨base, c⟩) =
    (c.onResolveFailure base.conn).map fun r => ((), settled a base r) := by
  obtain ⟨retries, resolved, iter, request, bareBev⟩ := c
  cases resolved with
  | cons => rfl
  | nil =>
    cases iter with
    | cons => rfl
    | nil => exact onConnectionFailure_live a base _ .resolve base.conn _

/-- `OnConnectFailure` on a live object. -/
theorem onConnectFailure_live : onConnectFailure a (.live ⟨base, c⟩) =
    (c.onConnectFailure base.conn).map fun r => ((), settled a base r) := by
  obtain ⟨retries, resolved, iter, request, bareBev⟩ := c
  cases iter with
  | nil => cases request <;> rfl
  | cons addr iter =>
    cases request with
    | true => rfl
    | false =>
      cases resolved with
      | nil => rfl
      | cons first rest =>
        cases iter with
        | nil => exact onConnectionFailure_live a base _ .connect _ _
        | cons => exact onConnectionFailure_live a base _ .connect _ _

/-- `ConnectResolved` on a live object. -/
theorem connectResolved_live : connectResolved a (.live ⟨base, c⟩) =
    (c.connectResolved base.conn).map fun r => ((), settled a base r) := by
  obtain ⟨retries, resolved, iter, request, bareBev⟩ := c
  cases iter with
  | nil => rfl
  | cons addr iter =>
    cases resolved with
    | nil => rfl
    | cons first rest =>
      cases hcan : CConnection.canConnectDirectAddr addr base.conn.opts.nFamily with
      | true =>
        cases hbev : LibBtcNet.bareConnect bareBev addr base.conn.opts.nConnTimeout with
        | none => simp [connectResolved, CDNSConnection.connectResolved, bareConnect, hcan, hbev]; rfl
        | some bev => simp [connectResolved, CDNSConnection.connectResolved, bareConnect, hcan, hbev, settled]
      | false =>
        have hfails : connectResolved a (.live ⟨base, ⟨retries, first :: rest, addr :: iter, request, bareBev⟩⟩) =
            onConnectFailure a (.live ⟨base, ⟨retries, first :: rest, addr :: iter, request, bareBev⟩⟩) := by
          simp [connectResolved, hcan]
        rw [hfails, onConnectFailure_live]
        simp [CDNSConnection.connectResolved, hcan]

/-- `dns_callback` on a live object. -/
theorem dnsCallback_live (result : DnsResult) : dnsCallback a (some result) (.live ⟨base, c⟩) =
    (c.onResolved base.conn result).map fun r => ((), settled a base r) := by
  cases result with
  | failure => exact onResolveFailure_live a base c
  | addresses first rest =>
    obtain ⟨retries, resolved, iter, request, bareBev⟩ := c
    cases resolved with
    | cons => rfl
    | nil =>
      cases iter with
      | cons => rfl
      | nil => exact connectResolved_live a base ⟨retries, first :: rest, first :: rest, false, bareBev⟩

/-- `conn_event` on a live object. -/
theorem connEvent_live (event : BevEvents) (bev : BufferEvent) (hbare : c.bareBev = some bev) :
    connEvent a event bev (.live ⟨base, c⟩) =
      (c.connEvent base.conn event).map fun r => ((), settled a base r) := by
  obtain ⟨retries, resolved, iter, request, bareBev⟩ := c
  obtain rfl : bareBev = some bev := hbare
  cases hconnected : event.connected with
  | false =>
    have hfails : connEvent a event bev (.live ⟨base, ⟨retries, resolved, iter, request, some bev⟩⟩) =
        onConnectFailure a (.live ⟨base, ⟨retries, resolved, iter, request, none⟩⟩) := by
      simp [connEvent, hconnected]
    rw [hfails, onConnectFailure_live]
    simp [CDNSConnection.connEvent, hconnected]
  | true =>
    have hsucceeds : connEvent a event bev (.live ⟨base, ⟨retries, resolved, iter, request, some bev⟩⟩) =
        onConnectSuccess a bev (.live ⟨base, ⟨retries, resolved, iter, request, none⟩⟩) := by
      simp [connEvent, hconnected]
    have hcoarse : CDNSConnection.connEvent base.conn event ⟨retries, resolved, iter, request, some bev⟩ =
        CDNSConnection.onConnectSuccess base.conn bev ⟨retries, resolved, iter, request, none⟩ := by
      simp [CDNSConnection.connEvent, hconnected]
    rw [hsucceeds, hcoarse]
    cases resolved with
    | nil => cases iter <;> cases request <;> rfl
    | cons first rest =>
      cases iter with
      | nil => rfl
      | cons addr iter =>
        cases request with
        | true => rfl
        | false =>
          cases hret : a.ret <;>
            simp [onConnectSuccess, onOutgoingConnected, handlerOnOutgoingConnected, CDNSConnection.onConnectSuccess,
              settled, hret]

/-- An answered resolution leaves no request. -/
theorem onResolved_request {conn : CConnection} {c : CDNSConnection} {result : DnsResult}
    {r : ConnResult CDNSConnection} (hr : c.onResolved conn result = some r) : r.obj.request = false := by
  have hconnect {c : CDNSConnection} (hr : c.connectResolved conn = some r) : r.obj.request = c.request := by
    rcases CDNSConnection.connectResolved_cases hr with ⟨addr, iter, -, -, bev, rfl⟩ | hfails
    · rfl
    · obtain ⟨addr, iter, -, -, rfl⟩ := CDNSConnection.onConnectFailure_cases hfails
      rfl
  rcases CDNSConnection.onResolved_cases hr with hfails | ⟨first, rest, hconnects⟩
  · obtain ⟨-, rfl⟩ := CDNSConnection.onResolveFailure_cases hfails
    rfl
  · exact hconnect hconnects

/-- The assignment of the null request changes nothing of a live object, and touches a dropped one. -/
theorem assign_null_settled (r : ConnResult CDNSConnection) (hrequest : r.obj.request = false) :
    assign (fun o => { o with dns := { o.dns with request := false } }) (settled a base r) =
      some ((), { settled a base r with stale := (settled a base r).destroyed }) := by
  obtain ⟨⟨retries, resolved, iter, request, bareBev⟩, net, report⟩ := r
  obtain rfl : request = false := hrequest
  cases report with
  | waiting => rfl
  | _ =>
    simp only [settled]
    split <;> rfl

/-- A report itself touches nothing that is gone. -/
theorem settled_untouched (r : ConnResult CDNSConnection) :
    { settled a base r with stale := false } = settled a base r := by
  obtain ⟨obj, net, report⟩ := r
  cases report with
  | waiting => rfl
  | _ =>
    simp only [settled]
    split <;> rfl

/-- What becomes of an object whose name is looked up: if it is dropped before the resolver returns, the
assignment of the request touches it. -/
def looked (a : Answer) (base : ConnectionBase) (r : ConnResult CDNSConnection) : Tracked DnsObject :=
  { settled a base r with stale := base.conn.canResolve && (settled a base r).destroyed }

/-- `DoResolve` on a live object. -/
theorem doResolve_live (names : NameInfo) (lookup : Lookup) : doResolve a lookup (.live ⟨base, c⟩) =
    (c.doResolve names base.conn lookup).map fun r => ((), looked a base r) := by
  obtain ⟨retries, resolved, iter, request, bareBev⟩ := c
  cases request with
  | true => rfl
  | false =>
    cases resolved with
    | cons => rfl
    | nil =>
      cases iter with
      | cons => rfl
      | nil =>
        cases hcan : base.conn.canResolve with
        | false =>
          have hfails : doResolve a lookup (.live ⟨base, ⟨retries, [], [], false, bareBev⟩⟩) =
              onResolveFailure a (.live ⟨base, ⟨retries, [], [], false, bareBev⟩⟩) := by
            simp [doResolve, hcan]
          have hcoarse : CDNSConnection.doResolve names base.conn lookup ⟨retries, [], [], false, bareBev⟩ =
              CDNSConnection.onResolveFailure base.conn ⟨retries, [], [], false, bareBev⟩ := by
            unfold CDNSConnection.doResolve
            split
            · contradiction
            · split <;> simp [hcan]
          rw [hfails, hcoarse, onResolveFailure_live]
          simp [looked, hcan, settled_untouched]
        | true =>
          obtain ⟨family, hfamily⟩ := setResolveFamily_of_canResolve hcan
          cases lookup with
          | later =>
            have hasks : doResolve a .later (.live ⟨base, ⟨retries, [], [], false, bareBev⟩⟩) =
                some ((), .live ⟨base, ⟨retries, [], [], true, bareBev⟩⟩) := by
              simp [doResolve, cdnsResolve, hcan, hfamily]
            rw [hasks]
            simp [CDNSConnection.doResolve, hcan, hfamily, looked, settled]
            rfl
          | atOnce result =>
            have hcoarse :
              CDNSConnection.doResolve names base.conn (.atOnce result) ⟨retries, [], [], false, bareBev⟩ =
                (CDNSConnection.onResolved base.conn result ⟨retries, [], [], false, bareBev⟩).map fun r =>
                  { r with net := .getaddrinfo (base.conn.getHost names) (base.conn.getPort names) family ::
                    r.net } := by
              simp [CDNSConnection.doResolve, hcan, hfamily]
            have hruns : doResolve a (.atOnce result) (.live ⟨base, ⟨retries, [], [], false, bareBev⟩⟩) =
                (dnsCallback a (some result) (.live ⟨base, ⟨retries, [], [], false, bareBev⟩⟩)).bind fun r =>
                  assign (fun o => { o with dns := { o.dns with request := false } }) r.2 := by
              simp [doResolve, cdnsResolve, hcan, hfamily]
            rw [hcoarse, hruns, dnsCallback_live]
            cases hr : CDNSConnection.onResolved base.conn result ⟨retries, [], [], false, bareBev⟩ with
            | none => rfl
            | some r =>
              rw [Option.map_some, Option.bind_some, assign_null_settled a base r (onResolved_request hr)]
              simp [looked, hcan, settled]

/-- `Connect` on a live object. -/
theorem connect_live (names : NameInfo) (lookup : Lookup) : connect a lookup (.live ⟨base, c⟩) =
    (c.connect names base.conn lookup).map fun r =>
      ((), if c.iter.isEmpty then looked a base r else settled a base r) := by
  obtain ⟨retries, resolved, iter, request, bareBev⟩ := c
  cases request with
  | true => rfl
  | false =>
    cases iter with
    | nil => exact doResolve_live a base ⟨retries, resolved, [], false, bareBev⟩ names lookup
    | cons addr iter => exact connectResolved_live a base ⟨retries, resolved, addr :: iter, false, bareBev⟩

end DnsObject

/-- Whether a `CDNSConnection` that is answered before the resolver returns is kept: a failure is tried
again, or the first address is connected to, or its refusal is tried again. -/
def CDNSConnection.keptAtOnce (conn : CConnection) (a : Answer) (c : CDNSConnection) : Lookup → Bool
  | .later => true
  | .atOnce .failure => a.accepts (decide (c.retries ≠ 0))
  | .atOnce (.addresses first rest) =>
    CConnection.canConnectDirectAddr first conn.opts.nFamily ||
      a.accepts (!rest.isEmpty || decide (c.retries ≠ 0))

/-- The connection is not answered at once in a way that drops it. -/
def DnsLife.Safe (life : DnsLife) : DnsStep → Prop
  | .connect a lookup =>
    life.due = true → life.object.obj.dns.iter = [] → life.object.obj.base.conn.canResolve = true →
      life.object.obj.dns.keptAtOnce life.object.obj.base.conn a lookup = true
  | _ => True

/-- Whether a step is safe can be computed. -/
instance (life : DnsLife) (s : DnsStep) : Decidable (life.Safe s) := by
  cases s <;> unfold DnsLife.Safe <;> infer_instance

/-- A live object is where the handles say, and a dropped one has been destroyed and left alone. -/
inductive DnsLife.Tidy (conn : CConnection) : DnsLife → Prop
  | live {base : ConnectionBase} {c : CDNSConnection} {started : Bool} {phase : AttemptPhase} {walker : Walker}
    (hconn : base.conn = conn) (hwalking : CDNSConnection.Walking conn phase c walker) (hkept : phase ≠ .dropped)
    (hdue : phase = .due ↔ (!started || base.reconnectFunc) = true)
    (hestablished : phase = .established ↔ base.bev.isSome = true) : Tidy conn ⟨.live ⟨base, c⟩, started⟩
  | gone (o : DnsObject) : Tidy conn ⟨.gone o.destructor, true⟩

namespace DnsLife

open DnsObject

variable {conn : CConnection} {life next : DnsLife}

/-- A report leaves the object tidy, whatever the answer. -/
theorem settled_tidy (a : Answer) {base : ConnectionBase} {r : ConnResult CDNSConnection} {walker : Walker}
    (hconn : base.conn = conn) (hreconnect : base.reconnectFunc = false) (hbev : base.bev = none)
    (hwalking : CDNSConnection.Walking conn r.report.phase r.obj walker) : Tidy conn ⟨settled a base r, true⟩ := by
  obtain ⟨c, net, report⟩ := r
  cases report with
  | waiting =>
    exact .live hconn hwalking (by simp [ConnReport.phase]) (by simp [hreconnect, ConnReport.phase])
      (by simp [hbev, ConnReport.phase])
  | connectionFailure type failed retry =>
    simp only [settled]
    split
    · next haccepts =>
      cases retry with
      | false => simp [Answer.accepts] at haccepts
      | true =>
        exact .live hconn hwalking (by simp [ConnReport.phase]) (by simp [ConnectionBase.retry, ConnReport.phase])
          (by simp [ConnectionBase.retry, ConnReport.phase])
    · exact .gone _
  | _ =>
    simp only [settled]
    split
    · exact .live hconn hwalking (by simp [ConnReport.phase])
        (by simp [ConnReport.phase, ConnectionBase.enable, ConnectionBase.initConnection, hreconnect])
        (by simp [ConnReport.phase, ConnectionBase.enable, ConnectionBase.initConnection])
    · exact .gone _

/-- Nothing comes for an object that was destroyed. -/
theorem step_gone (o : DnsObject) (s : DnsStep) :
    step ⟨.gone o.destructor, true⟩ s = some ⟨.gone o.destructor, true⟩ := by
  cases s with
  | dnsCallback a result => cases result <;> rfl
  | _ => rfl

/-- A failure is reported, and the object is destroyed unless it is put back. -/
theorem settled_failure_destroyed (a : Answer) (base : ConnectionBase) (c : CDNSConnection)
    (type : ConnectionFailureType) (failed : CConnection) (retry : Bool) :
    (settled a base ⟨c, [], .connectionFailure type failed retry⟩).destroyed = !a.accepts retry := by
  simp only [settled]
  cases a.accepts retry <;> rfl

/-- A connection whose name is looked up is destroyed exactly when an answer at once drops it. -/
theorem doResolve_destroyed (names : NameInfo) (a : Answer) (lookup : Lookup) {base : ConnectionBase} {retries : ℤ}
    {r : ConnResult CDNSConnection} (hcan : base.conn.canResolve = true)
    (hr : CDNSConnection.doResolve names base.conn lookup ⟨retries, [], [], false, none⟩ = some r) :
    (settled a base r).destroyed =
      !CDNSConnection.keptAtOnce base.conn a ⟨retries, [], [], false, none⟩ lookup := by
  obtain ⟨family, hfamily⟩ := setResolveFamily_of_canResolve hcan
  simp only [CDNSConnection.doResolve, hcan, hfamily, List.isEmpty_nil, Bool.not_true, Bool.or_false,
    Bool.false_eq_true, if_false, if_true] at hr
  cases lookup with
  | later =>
    obtain rfl := Option.some.inj hr
    rfl
  | atOnce result =>
    obtain ⟨answered, hanswered, rfl⟩ := Option.map_eq_some_iff.mp hr
    change (settled a base answered).destroyed = _
    cases result with
    | failure =>
      have hfailure : CDNSConnection.onResolved base.conn .failure ⟨retries, [], [], false, none⟩ =
          some ⟨⟨(takeRetry retries).1, [], [], false, none⟩, [],
            .connectionFailure .resolve base.conn (takeRetry retries).2⟩ := rfl
      obtain rfl := Option.some.inj (hfailure.symm.trans hanswered)
      rw [settled_failure_destroyed, takeRetry_retry]
      rfl
    | addresses first rest =>
      change CDNSConnection.connectResolved base.conn ⟨retries, first :: rest, first :: rest, false, none⟩ =
        some answered at hanswered
      cases hfirst : CConnection.canConnectDirectAddr first base.conn.opts.nFamily with
      | true =>
        obtain ⟨bev, hbev⟩ : ∃ bev, bareConnect none first base.conn.opts.nConnTimeout = some bev := by
          simp [LibBtcNet.bareConnect, isEmpty_of_canConnectDirectAddr hfirst]
        simp only [CDNSConnection.connectResolved, hfirst, hbev] at hanswered
        obtain rfl := Option.some.inj hanswered
        simp [settled, Tracked.live, CDNSConnection.keptAtOnce, hfirst]
      | false =>
        simp only [CDNSConnection.connectResolved, hfirst] at hanswered
        obtain rfl := Option.some.inj hanswered
        rw [settled_failure_destroyed]
        simp [CDNSConnection.keptAtOnce, hfirst]

/-- A connection that is due goes on, and is touched after its end exactly when an answer at once drops it. -/
theorem connect_step (names : NameInfo) (a : Answer) (lookup : Lookup) {base : ConnectionBase} {c : CDNSConnection}
    {walker : Walker} (hwalking : CDNSConnection.Walking base.conn .due c walker)
    (hreconnect : base.reconnectFunc = false) (hbev : base.bev = none) :
    ∃ object, DnsObject.connect a lookup (.live ⟨base, c⟩) = some ((), object) ∧
      if c.iter = [] → base.conn.canResolve = true → c.keptAtOnce base.conn a lookup = true
      then Tidy base.conn ⟨object, true⟩ else object.stale = true := by
  cases hwalking with
  | @due retries resolved iter hiter =>
    obtain ⟨r, last, hr, -, hlast⟩ := CDNSConnection.connect_goesOn names retries hiter lookup
    have htidy := settled_tidy a rfl hreconnect hbev hlast
    have hrun := connect_live a base ⟨retries, resolved, iter, false, none⟩ names lookup
    rw [hr, Option.map_some] at hrun
    refine ⟨_, hrun, ?_⟩
    cases iter with
    | cons addr iter =>
      rw [if_pos fun hnil => absurd hnil (List.cons_ne_nil _ _)]
      exact htidy
    | nil =>
      obtain rfl := hiter.mp rfl
      split
      · next hsafe =>
        have hlooked : looked a base r = settled a base r := by
          rw [← settled_untouched, looked]
          cases hcan : base.conn.canResolve with
          | false => rfl
          | true =>
            have hkept := doResolve_destroyed names a lookup hcan hr
            rw [hsafe rfl hcan] at hkept
            simp [hkept]
        change Tidy base.conn ⟨looked a base r, true⟩
        rwa [hlooked]
      · next hunsafe =>
        simp only [forall_const, Classical.not_imp, Bool.not_eq_true] at hunsafe
        obtain ⟨hcan, hdrops⟩ := hunsafe
        change (base.conn.canResolve && (settled a base r).destroyed) = true
        rw [doResolve_destroyed names a lookup hcan hr, hcan, hdrops]
        rfl

/-- `conn_event` keeps it tidy. -/
theorem connEvent_step (a : Answer) (event : BevEvents) {base : ConnectionBase} {c : CDNSConnection} {walker : Walker}
    {bev : BufferEvent} (hwalking : CDNSConnection.Walking base.conn .waiting c walker) (hbare : c.bareBev = some bev)
    (hreconnect : base.reconnectFunc = false) (hbev : base.bev = none) :
    ∃ object, DnsObject.connEvent a event bev (.live ⟨base, c⟩) = some ((), object) ∧
      Tidy base.conn ⟨object, true⟩ := by
  obtain ⟨r, last, hr, -, hlast⟩ := CDNSConnection.connEvent_goesOn hwalking event
  have hrun := connEvent_live a base c event bev hbare
  rw [hr, Option.map_some] at hrun
  exact ⟨_, hrun, settled_tidy a rfl hreconnect hbev hlast⟩

/-- So does `dns_callback`. -/
theorem dnsCallback_step (a : Answer) (result : DnsResult) {base : ConnectionBase} {c : CDNSConnection}
    {walker : Walker}
    (hwalking : CDNSConnection.Walking base.conn .waiting c walker) (hrequest : c.request = true)
    (hreconnect : base.reconnectFunc = false) (hbev : base.bev = none) :
    ∃ object, DnsObject.dnsCallback a (some result) (.live ⟨base, c⟩) = some ((), object) ∧
      Tidy base.conn ⟨object, true⟩ := by
  obtain ⟨walker, -, r, last, hr, -, hlast⟩ := CDNSConnection.dnsCallback_goesOn hwalking hrequest result
  rw [CDNSConnection.dnsCallback, if_pos hrequest] at hr
  have hrun := dnsCallback_live a base c result
  rw [hr, Option.map_some] at hrun
  exact ⟨_, hrun, settled_tidy a rfl hreconnect hbev hlast⟩

/-- What happens while it is established keeps it tidy too. -/
theorem established_step {a : Answer} {s : ConnStep} {base : ConnectionBase} {c : CDNSConnection} {walker : Walker}
    {object : Tracked DnsObject} (hwalking : CDNSConnection.Walking base.conn .established c walker)
    (hreconnect : base.reconnectFunc = false) (hbev : base.bev.isSome = true)
    (hrun : DnsObject.established a s (.live ⟨base, c⟩) = some ((), object)) : Tidy base.conn ⟨object, true⟩ := by
  cases hwalking
  cases hstep : ConnRun.step ⟨base, [], false⟩ s with
  | none =>
    simp only [DnsObject.established, bind_apply, read_live, Option.bind_some, hstep] at hrun
    contradiction
  | some run =>
    obtain ⟨hconn, hkept, hretry⟩ := ConnRun.step_keeps hstep
    simp only [DnsObject.established, bind_apply, read_live, Option.bind_some, hstep, assign_live] at hrun
    cases hclosed : run.closed with
    | false =>
      simp only [hclosed, Bool.false_eq_true, if_false, pure_apply, Option.some.injEq, Prod.mk.injEq,
        true_and] at hrun
      subst hrun
      refine .live hconn .established nofun (by simp [hretry hreconnect]) ?_
      simp only [true_iff]
      rwa [hkept]
    | true =>
      simp only [hclosed, if_true, handlerOnDisconnected] at hrun
      split at hrun
      · simp only [assign_live, Option.some.injEq, Prod.mk.injEq, true_and] at hrun
        subst hrun
        have hdue : CDNSConnection.Walking base.conn .due (.new base.conn) (.walking []) := .due Iff.rfl
        exact .live hconn hdue nofun (by simp [ConnectionBase.retry]) (by simp [ConnectionBase.retry])
      · simp only [destroy_live, Option.some.injEq, Prod.mk.injEq, true_and] at hrun
        subst hrun
        exact .gone _

/-- A method that runs leaves its object as the next one. -/
theorem eq_of_run {method : Method DnsObject Unit} {object : Tracked DnsObject}
    (hrun : method life.object = some ((), object))
    (hnext : life.run method = some next) : next = ⟨object, true⟩ := by
  rw [run, hrun] at hnext
  exact (Option.some.inj hnext).symm

/-- A connection that holds a handle of an attempt waits. -/
theorem waiting_of_handle {phase : AttemptPhase} {c : CDNSConnection} {walker : Walker}
    (hwalking : CDNSConnection.Walking conn phase c walker) (hhandle : c.bareBev.isSome = true ∨ c.request = true) :
    phase = .waiting := by
  cases hwalking with
  | asked => rfl
  | trying => rfl
  | _ => rcases hhandle with hbare | hrequest <;> contradiction

/-- A connection that waits has neither a timer for a retry nor a bufferevent. -/
theorem idle_of_waiting {base : ConnectionBase} {started : Bool}
    (hdue : AttemptPhase.waiting = .due ↔ (!started || base.reconnectFunc) = true)
    (hestablished : AttemptPhase.waiting = .established ↔ base.bev.isSome = true) :
    base.reconnectFunc = false ∧ base.bev = none := by
  constructor
  · cases hreconnect : base.reconnectFunc with
    | false => rfl
    | true => exact absurd (hdue.mpr (by simp [hreconnect])) nofun
  · rw [← Option.not_isSome_iff_eq_none, ← hestablished]
    nofun

/-- `Connect` comes for a connection that is due. -/
theorem step_connect (a : Answer) (lookup : Lookup) (htidy : Tidy conn life) (hdue : life.due = true) :
    ∃ object, life.step (.connect a lookup) = some ⟨object, true⟩ ∧
      if life.Safe (.connect a lookup) then Tidy conn ⟨object, true⟩ else object.stale = true := by
  cases htidy with
  | gone o => contradiction
  | @live base c started phase walker hconn hwalking hkept hphase hestablished =>
    subst hconn
    obtain rfl := hphase.mpr hdue
    have hbev : base.bev = none := by
      rw [← Option.not_isSome_iff_eq_none, ← hestablished]
      nofun
    obtain ⟨object, hrun, hresult⟩ := @connect_step noNames a lookup { base with reconnectFunc := false } c walker
      hwalking rfl hbev
    refine ⟨object, ?_, ?_⟩
    · rw [step, if_pos hdue]
      exact congrArg (Option.map _) hrun
    · have hsafe : Safe ⟨.live ⟨base, c⟩, started⟩ (.connect a lookup) ↔
          (c.iter = [] → base.conn.canResolve = true → c.keptAtOnce base.conn a lookup = true) :=
        ⟨fun hsafe => hsafe hdue, fun hkept _ => hkept⟩
      simpa only [hsafe] using hresult

/-- A safe step keeps the connection tidy. -/
theorem Tidy.step {s : DnsStep} (htidy : Tidy conn life) (hsafe : life.Safe s) (hstep : life.step s = some next) :
    Tidy conn next := by
  cases htidy with
  | gone o =>
    rw [step_gone] at hstep
    obtain rfl := Option.some.inj hstep
    exact .gone o
  | @live base c started phase walker hconn hwalking hkept hphase hestablished =>
    subst hconn
    have hstays : Tidy base.conn ⟨.live ⟨base, c⟩, started⟩ := .live rfl hwalking hkept hphase hestablished
    cases s with
    | connect a lookup =>
      cases hdue : due ⟨.live ⟨base, c⟩, started⟩ with
      | false =>
        rw [DnsLife.step, hdue] at hstep
        obtain rfl := Option.some.inj hstep
        exact hstays
      | true =>
        obtain ⟨object, hobject, hresult⟩ := step_connect a lookup hstays hdue
        obtain rfl := Option.some.inj (hobject.symm.trans hstep)
        rwa [if_pos hsafe] at hresult
    | connEvent a event =>
      rw [DnsLife.step] at hstep
      split at hstep
      · next bev hbare =>
        change c.bareBev = some bev at hbare
        obtain rfl := waiting_of_handle hwalking (Or.inl (by rw [hbare]; rfl))
        obtain ⟨hreconnect, hbev⟩ := idle_of_waiting hphase hestablished
        obtain ⟨object, hobject, htidy⟩ := connEvent_step a event hwalking hbare hreconnect hbev
        obtain rfl := eq_of_run hobject hstep
        exact htidy
      · obtain rfl := Option.some.inj hstep
        exact hstays
    | dnsCallback a result =>
      cases result with
      | none =>
        obtain rfl := Option.some.inj hstep
        exact hstays
      | some result =>
        change (if c.request = true then _ else _) = some next at hstep
        split at hstep
        · next hrequest =>
          obtain rfl := waiting_of_handle hwalking (Or.inr hrequest)
          obtain ⟨hreconnect, hbev⟩ := idle_of_waiting hphase hestablished
          obtain ⟨object, hobject, htidy⟩ := dnsCallback_step a result hwalking hrequest hreconnect hbev
          obtain rfl := eq_of_run hobject hstep
          exact htidy
        · obtain rfl := Option.some.inj hstep
          exact hstays
    | established a s =>
      change (if base.bev.isSome = true then _ else _) = some next at hstep
      split at hstep
      · next hbev =>
        obtain rfl := hestablished.mpr hbev
        have hreconnect : base.reconnectFunc = false := by
          cases hreconnect : base.reconnectFunc with
          | false => rfl
          | true => exact AttemptPhase.noConfusion (hphase.mpr (by simp [hreconnect]))
        obtain ⟨⟨⟨⟩, object⟩, hobject, rfl⟩ := Option.map_eq_some_iff.mp hstep
        exact established_step hwalking hreconnect hbev hobject
      · obtain rfl := Option.some.inj hstep
        exact hstays
    | shutdown =>
      obtain rfl := Option.some.inj hstep
      exact .gone _

/-- A tidy connection has not been touched after its end. -/
theorem Tidy.untouched (htidy : Tidy conn life) : life.object.stale = false := by
  cases htidy with
  | live => rfl
  | gone o => rfl

/-- A new connection is tidy. -/
theorem start_tidy (conn : CConnection) (id : ConnID) (bytesRead bytesWritten : ℕ) :
    Tidy conn (start conn id bytesRead bytesWritten) :=
  .live rfl (.due Iff.rfl) nofun (by simp) (by simp [ConnectionBase.new])

/-- Throughout its life a DNS connection is touched after its end nowhere exactly when no answer that comes
at once drops it. -/
theorem untouched_iff (conn : CConnection) (id : ConnID) (bytesRead bytesWritten : ℕ) (steps : List DnsStep) :
    Always step (fun life => life.object.stale = false) (start conn id bytesRead bytesWritten) steps ↔
      Guarded step Safe (start conn id bytesRead bytesWritten) steps := by
  refine @always_iff_guarded _ _ _ (Tidy conn) _ (fun _ _ => True) _ (fun life htidy => htidy.untouched)
    (fun life s next htidy _ hsafe hstep => htidy.step hsafe hstep) (fun life s htidy _ hunsafe => ?_) _
    (start_tidy conn id bytesRead bytesWritten) _ (guarded_of_forall (fun _ _ => trivial) _ _)
  cases s with
  | connect a lookup =>
    have hdue : life.due = true := by
      by_contra hdue
      exact hunsafe fun hdue' => absurd hdue' hdue
    obtain ⟨object, hstep, hresult⟩ := step_connect a lookup htidy hdue
    rw [if_neg hunsafe] at hresult
    exact ⟨_, hstep, by simp [hresult]⟩
  | _ => exact absurd trivial hunsafe

end DnsLife

/-- Whether a `CResolveOnly` that is answered before the resolver returns is kept: only if a failure is tried again. -/
def CResolveOnly.keptAtOnce (a : Answer) (c : CResolveOnly) : Lookup → Bool
  | .later => true
  | .atOnce .failure => a.accepts (decide (c.retries ≠ 0))
  | .atOnce (.addresses _ _) => false

/-- The request is not answered at once in a way that drops it. -/
def ResolveLife.Safe (life : ResolveLife) : ResolveStep → Prop
  | .resolve a lookup =>
    life.due = true → life.object.obj.conn.canResolve = true → life.object.obj.keptAtOnce a lookup = true
  | _ => True

/-- Whether a step is safe can be computed. -/
instance (life : ResolveLife) (s : ResolveStep) : Decidable (life.Safe s) := by
  cases s <;> unfold ResolveLife.Safe <;> infer_instance

/-- A live request that is due has no lookup outstanding, and a dropped one has been destroyed and left alone. -/
inductive ResolveLife.Tidy : ResolveLife → Prop
  | live {c : CResolveOnly} {started : Bool} (hrequest : (!started || c.retryEvent) = true → c.request = false) :
    Tidy ⟨.live c, started⟩
  | gone (c : CResolveOnly) : Tidy ⟨.gone (ResolveObject.destructor c), true⟩

/-- A connection that can be resolved is named by its host. -/
theorem isDns_of_canResolve {conn : CConnection} (hcan : conn.canResolve = true) : conn.isDns = true := by
  unfold CConnection.canResolve at hcan
  cases hdns : conn.isDns with
  | true => rfl
  | false => simp [hdns] at hcan

namespace ResolveObject

/-- What a report makes of the request. -/
def settled (a : Answer) (r : MethodResult CResolveOnly ResolveReport) : Tracked CResolveOnly :=
  match r.report with
  | .resolveFailure retry => if a.accepts retry then .live r.obj.retry else .gone (destructor r.obj)
  | .resolveComplete _ => .gone (destructor r.obj)
  | .waiting => .live r.obj

variable (a : Answer) (c : CResolveOnly)

/-- `OnResolveFailure` on a live request. -/
theorem onResolveFailure_live : onResolveFailure a (.live c) = some ((), settled a c.onResolveFailure) := by
  simp only [onResolveFailure, bind_apply, read_live, Option.bind_some, assign_live, handlerOnResolveFailure, settled,
    CResolveOnly.onResolveFailure]
  split <;> rfl

/-- `dns_callback` on a live request. -/
theorem dnsCallback_live (result : DnsResult) :
    dnsCallback a (some result) (.live c) = some ((), settled a (c.onResolved result)) := by
  cases result with
  | failure => exact onResolveFailure_live a c
  | addresses first rest => rfl

/-- The assignment of the null request changes nothing of a live request, and touches a dropped one. -/
theorem assign_null_settled (result : DnsResult) :
    assign (fun c => { c with request := false }) (settled a (c.onResolved result)) =
      some ((), { settled a (c.onResolved result) with stale := (settled a (c.onResolved result)).destroyed }) := by
  cases result with
  | failure =>
    simp only [CResolveOnly.onResolved, CResolveOnly.onResolveFailure, settled]
    split <;> rfl
  | addresses first rest => rfl

/-- A report itself touches nothing that is gone. -/
theorem settled_untouched (r : MethodResult CResolveOnly ResolveReport) :
    { settled a r with stale := false } = settled a r := by
  obtain ⟨obj, net, report⟩ := r
  cases report with
  | resolveFailure retry =>
    simp only [settled]
    split <;> rfl
  | _ => rfl

/-- An answer at once destroys the request unless it is kept. -/
theorem onResolved_destroyed (result : DnsResult) :
    (settled a (c.onResolved result)).destroyed = !c.keptAtOnce a (.atOnce result) := by
  cases result with
  | failure =>
    simp only [CResolveOnly.onResolved, CResolveOnly.onResolveFailure, settled, takeRetry_retry,
      CResolveOnly.keptAtOnce]
    cases a.accepts (decide (c.retries ≠ 0)) <;> rfl
  | addresses first rest => rfl

section Resolve

variable {c} (hrequest : c.request = false)

include hrequest

/-- `Resolve` of a name that may not be resolved. -/
theorem resolve_of_not_canResolve (lookup : Lookup) (hdns : c.conn.isDns = true) (hcan : c.conn.canResolve = false) :
    resolve a lookup (.live c) = some ((), settled a (c.onResolved .failure)) := by
  have hfails : resolve a lookup (.live c) = onResolveFailure a (.live c) := by simp [resolve, hrequest, hdns, hcan]
  rw [hfails, onResolveFailure_live]
  rfl

/-- `Resolve` with an answer that comes later. -/
theorem resolve_later (hcan : c.conn.canResolve = true) :
    resolve a .later (.live c) = some ((), .live { c with request := true }) := by
  obtain ⟨family, hfamily⟩ := setResolveFamily_of_canResolve hcan
  simp [resolve, cdnsResolve, hrequest, isDns_of_canResolve hcan, hcan, hfamily]

/-- `Resolve` with an answer at once, after which the null request is assigned. -/
theorem resolve_atOnce (result : DnsResult) (hcan : c.conn.canResolve = true) :
    resolve a (.atOnce result) (.live c) =
      some ((), { settled a (c.onResolved result) with stale := (settled a (c.onResolved result)).destroyed }) := by
  obtain ⟨family, hfamily⟩ := setResolveFamily_of_canResolve hcan
  have hruns : resolve a (.atOnce result) (.live c) =
      (dnsCallback a (some result) (.live c)).bind fun r => assign (fun c => { c with request := false }) r.2 := by
    simp [resolve, cdnsResolve, hrequest, isDns_of_canResolve hcan, hcan, hfamily]
  rw [hruns, dnsCallback_live, Option.bind_some, assign_null_settled]

end Resolve

end ResolveObject

namespace ResolveLife

open ResolveObject

variable {life next : ResolveLife}

/-- A report of a resolution leaves the request tidy. -/
theorem settled_tidy (a : Answer) {c : CResolveOnly} (result : DnsResult) :
    Tidy ⟨settled a (c.onResolved result), true⟩ := by
  cases result with
  | failure =>
    simp only [CResolveOnly.onResolved, CResolveOnly.onResolveFailure, settled]
    split
    · exact .live fun _ => rfl
    · exact .gone _
  | addresses first rest => exact .gone _

/-- Nothing comes for a request that was destroyed. -/
theorem step_gone (c : CResolveOnly) (s : ResolveStep) :
    step ⟨.gone (destructor c), true⟩ s = some ⟨.gone (destructor c), true⟩ := by
  cases s with
  | dnsCallback a result => cases result <;> rfl
  | _ => rfl

/-- `Resolve` keeps a request that is due tidy where no answer at once drops it. -/
theorem resolve_tidy {a : Answer} {lookup : Lookup} {c : CResolveOnly} {object : Tracked CResolveOnly}
    (hrequest : c.request = false) (hretry : c.retryEvent = false)
    (hsafe : c.conn.canResolve = true → c.keptAtOnce a lookup = true)
    (hrun : resolve a lookup (.live c) = some ((), object)) : Tidy ⟨object, true⟩ := by
  cases hcan : c.conn.canResolve with
  | false =>
    cases hdns : c.conn.isDns with
    | false => simp [resolve, hrequest, hdns] at hrun
    | true =>
      rw [resolve_of_not_canResolve a hrequest lookup hdns hcan] at hrun
      obtain rfl := (Prod.mk.inj (Option.some.inj hrun)).2
      exact settled_tidy a .failure
  | true =>
    cases lookup with
    | later =>
      rw [resolve_later a hrequest hcan] at hrun
      obtain rfl := (Prod.mk.inj (Option.some.inj hrun)).2
      exact .live (by simp [hretry])
    | atOnce result =>
      have hlives := onResolved_destroyed a c result
      rw [hsafe hcan, Bool.not_true] at hlives
      rw [resolve_atOnce a hrequest result hcan, hlives, settled_untouched] at hrun
      obtain rfl := (Prod.mk.inj (Option.some.inj hrun)).2
      exact settled_tidy a result

/-- An answer at once that drops the request leaves it to be touched. -/
theorem resolve_stale {a : Answer} {lookup : Lookup} {c : CResolveOnly} (hrequest : c.request = false)
    (hcan : c.conn.canResolve = true) (hdrops : c.keptAtOnce a lookup = false) :
    ∃ object, resolve a lookup (.live c) = some ((), object) ∧ object.stale = true := by
  cases lookup with
  | later => contradiction
  | atOnce result =>
    refine ⟨_, resolve_atOnce a hrequest result hcan, ?_⟩
    have hdestroyed := onResolved_destroyed a c result
    rwa [hdrops] at hdestroyed

/-- A safe step keeps the request tidy. -/
theorem Tidy.step {s : ResolveStep} (htidy : Tidy life) (hsafe : life.Safe s) (hstep : life.step s = some next) :
    Tidy next := by
  cases htidy with
  | gone c =>
    rw [step_gone] at hstep
    obtain rfl := Option.some.inj hstep
    exact .gone c
  | @live c started hrequest =>
    have hstays : Tidy ⟨.live c, started⟩ := .live hrequest
    cases s with
    | resolve a lookup =>
      change (if (!started || c.retryEvent) = true then _ else _) = some next at hstep
      split at hstep
      · next hdue =>
        obtain ⟨⟨⟨⟩, object⟩, hobject, rfl⟩ := Option.map_eq_some_iff.mp hstep
        exact @resolve_tidy a lookup { c with retryEvent := false } object (hrequest hdue) rfl (hsafe hdue) hobject
      · obtain rfl := Option.some.inj hstep
        exact hstays
    | dnsCallback a result =>
      cases result with
      | none =>
        obtain rfl := Option.some.inj hstep
        exact hstays
      | some result =>
        change (if c.request = true then run _ _ else _) = some next at hstep
        split at hstep
        · rw [run, dnsCallback_live] at hstep
          obtain rfl := Option.some.inj hstep
          exact settled_tidy a result
        · obtain rfl := Option.some.inj hstep
          exact hstays
    | shutdown =>
      obtain rfl := Option.some.inj hstep
      exact .gone c

/-- A tidy request has not been touched after its end. -/
theorem Tidy.untouched (htidy : Tidy life) : life.object.stale = false := by
  cases htidy with
  | live => rfl
  | gone c => rfl

/-- Throughout its life a resolve-only request is touched after its end nowhere exactly when no answer that
comes at once drops it. -/
theorem untouched_iff (conn : CConnection) (id : ConnID) (steps : List ResolveStep) :
    Always step (fun life => life.object.stale = false) (start conn id) steps ↔
      Guarded step Safe (start conn id) steps := by
  refine @always_iff_guarded _ _ _ Tidy _ (fun _ _ => True) _ (fun life htidy => htidy.untouched)
    (fun life s next htidy _ hsafe hstep => htidy.step hsafe hstep) (fun life s htidy _ hunsafe => ?_) _
    (.live fun _ => rfl) _ (guarded_of_forall (fun _ _ => trivial) _ _)
  cases s with
  | resolve a lookup =>
    simp only [Safe, Classical.not_imp, Bool.not_eq_true] at hunsafe
    obtain ⟨hdue, hcan, hdrops⟩ := hunsafe
    cases htidy with
    | gone c => contradiction
    | @live c started hrequest =>
      obtain ⟨object, hobject, hstale⟩ := @resolve_stale a lookup { c with retryEvent := false }
        (hrequest hdue) hcan hdrops
      refine ⟨⟨object, true⟩, ?_, by simp [hstale]⟩
      rw [step, if_pos hdue]
      exact congrArg (Option.map _) hobject
  | _ => exact absurd trivial hunsafe

end ResolveLife

/-- A dropped request is not touched again, whatever its options, its answers and its life, exactly when the
resolver does not answer before it returns in a way that drops it. -/
theorem droppedRequest_untouched_iff (conn : CConnection) (id : ConnID) (bytesRead bytesWritten : ℕ) :
    (∀ steps, Always DnsLife.step (fun life => life.object.stale =
      false) (.start conn id bytesRead bytesWritten) steps ↔
      Guarded DnsLife.step DnsLife.Safe (.start conn id bytesRead bytesWritten) steps) ∧
    ∀ steps, Always ResolveLife.step (fun life => life.object.stale = false) (.start conn id) steps ↔
      Guarded ResolveLife.step ResolveLife.Safe (.start conn id) steps :=
  ⟨DnsLife.untouched_iff conn id bytesRead bytesWritten, ResolveLife.untouched_iff conn id⟩

/-- A name that is looked up once. -/
def namedOnce (doResolve : Resolve) : CConnection :=
  { namedConnection with opts := { namedConnection.opts with doResolve, nRetries := 0 } }

/-- Where the resolver fails before it returns and the request is not tried again, it is dropped and then
assigned to, for both classes; and so is a resolve-only request that is answered before it returns. -/
theorem droppedRequest_touched :
    (∃ life, DnsLife.step (.start (namedOnce .resolveConnect) 0 0 0) (.connect ⟨false, true, 1⟩ (.atOnce .failure)) =
        some life ∧ life.object.destroyed = true ∧ life.object.stale = true) ∧
    (∃ life, ResolveLife.step (.start (namedOnce .resolveOnly) 0) (.resolve ⟨false, true, 1⟩ (.atOnce .failure)) =
        some life ∧ life.object.destroyed = true ∧ life.object.stale = true) ∧
    ∃ life, ResolveLife.step (.start (namedOnce .resolveOnly) 0)
        (.resolve ⟨false, true, 1⟩ (.atOnce (.addresses (localAddress 1) []))) = some life ∧
      life.object.destroyed = true ∧ life.object.stale = true :=
  ⟨⟨_, rfl, rfl, rfl⟩, ⟨_, rfl, rfl, rfl⟩, ⟨_, rfl, rfl, rfl⟩⟩

end LibBtcNet
