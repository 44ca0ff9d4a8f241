import LibBtcNet.Attempts
import LibBtcNet.ConnectionEffects
import LibBtcNet.RetryBudget

/-!
# The walk over the addresses of a name

What `CDNSConnection` asks and reports is a walk: a name is resolved, its addresses are tried
in their order until one is connected to, and only then, or when none is left, is the name
resolved again. A walker says so without the object, and the object follows the walker.
-/

namespace LibBtcNet

/-- What a walk is doing: it waits for an answer, has these addresses left, tries the first of them,
or has connected to one. -/
inductive Walker where
  | asked
  | walking (left : List Bytes)
  | trying (left : List Bytes)
  | connected
deriving DecidableEq, Repr

/-- What may come next in a walk. -/
inductive Walker.Step : Walker → AttemptItem → Walker → Prop
  | lookup : Step (.walking []) .lookup .asked
  | unanswered : Step .asked (.answer .failure) (.walking [])
  | answered {first : Bytes} {rest : List Bytes} :
    Step .asked (.answer (.addresses first rest)) (.walking (first :: rest))
  | unresolved {atOnce retry : Bool} {failed : CConnection} :
    Step (.walking []) (.failure atOnce .resolve failed retry) (.walking [])
  | started {addr : Bytes} {rest : List Bytes} :
    Step (.walking (addr :: rest)) (.started addr) (.trying (addr :: rest))
  | refused {failed : CConnection} {rest : List Bytes} {retry : Bool} (hretry : rest ≠ [] → retry = true) :
    Step (.walking (failed.addr :: rest)) (.failure true .connect failed retry) (.walking rest)
  | failed {failed : CConnection} {rest : List Bytes} {retry : Bool} (hretry : rest ≠ [] → retry = true) :
    Step (.trying (failed.addr :: rest)) (.failure false .connect failed retry) (.walking rest)
  | connected {resolved : CConnection} {rest : List Bytes} :
    Step (.trying (resolved.addr :: rest)) (.connected resolved) .connected
  | lost : Step .connected .lost (.walking [])

/-- A walk through some items. -/
def Walker.Walks : Walker → List AttemptItem → Walker → Prop
  | walker, [], last => walker = last
  | walker, item :: items, last => ∃ next, walker.Step item next ∧ next.Walks items last

/-- The address that an item begins an attempt at. -/
def AttemptItem.attempted : AttemptItem → Option Bytes
  | .started addr => some addr
  | .failure true .connect failed _ => some failed.addr
  | _ => none

/-- The address whose attempt an item ends without a connection. -/
def AttemptItem.failed : AttemptItem → Option Bytes
  | .failure _ .connect failed _ => some failed.addr
  | _ => none

/-- No item is an answer with addresses. -/
def Unresolved (items : List AttemptItem) : Prop :=
  ∀ first rest, AttemptItem.answer (.addresses first rest) ∉ items

namespace Walker

variable {walker last : Walker} {items later : List AttemptItem}

/-- The addresses that have not been attempted. -/
def ahead : Walker → List Bytes
  | .walking left => left
  | .trying left => left.tail
  | _ => []

/-- The addresses that have not failed. -/
def left : Walker → List Bytes
  | .walking left => left
  | .trying left => left
  | _ => []

/-- A walk through more items. -/
theorem walks_append : walker.Walks (items ++ later) last ↔ ∃ next, walker.Walks items next ∧
    next.Walks later last := by
  induction items generalizing walker with
  | nil => exact ⟨fun h => ⟨walker, rfl, h⟩, fun ⟨next, hnext, h⟩ => hnext ▸ h⟩
  | cons item items ih =>
    constructor
    · rintro ⟨next, hstep, hwalks⟩
      obtain ⟨mid, hmid, hlater⟩ := ih.mp hwalks
      exact ⟨mid, ⟨next, hstep, hmid⟩, hlater⟩
    · rintro ⟨mid, ⟨next, hstep, hmid⟩, hlater⟩
      exact ⟨next, hstep, ih.mpr ⟨mid, hmid, hlater⟩⟩

/-- The rest of the items is unresolved too. -/
theorem unresolved_tail {item : AttemptItem} (h : Unresolved (item :: items)) : Unresolved items :=
  fun first rest hmem => h first rest (List.mem_cons_of_mem _ hmem)

/-- Until the next answer the addresses ahead are attempted in order. -/
theorem Walks.inOrder (hwalks : walker.Walks items last) (hunresolved : Unresolved items) :
    items.filterMap AttemptItem.attempted <+: walker.ahead := by
  induction items generalizing walker with
  | nil => exact List.nil_prefix
  | cons item items ih =>
    obtain ⟨next, hstep, hnext⟩ := hwalks
    have hlater := ih hnext (unresolved_tail hunresolved)
    cases hstep with
    | answered => exact absurd List.mem_cons_self (hunresolved _ _)
    | started => exact List.cons_prefix_cons.mpr ⟨rfl, hlater⟩
    | refused => exact List.cons_prefix_cons.mpr ⟨rfl, hlater⟩
    | failed => exact hlater
    | connected => exact hlater.trans List.nil_prefix
    | @unresolved atOnce => cases atOnce <;> exact hlater
    | _ => exact hlater

/-- After a success the loss comes first. -/
theorem Walks.of_connected (hwalks : Walks .connected items last) :
    items = [] ∧ last = .connected ∨ ∃ since, items = .lost :: since ∧ Walks (.walking []) since last := by
  cases items with
  | nil => exact Or.inl ⟨rfl, hwalks.symm⟩
  | cons item since =>
    obtain ⟨next, hstep, hsince⟩ := hwalks
    cases hstep
    exact Or.inr ⟨since, rfl, hsince⟩

/-- What is left after the failures of a walk was left before them. -/
theorem Walks.left (hwalks : walker.Walks items last) (hunresolved : Unresolved items) (hleft : last.left ≠ []) :
    items.filterMap AttemptItem.failed ++ last.left = walker.left := by
  induction items generalizing walker with
  | nil =>
    obtain rfl : walker = last := hwalks
    rfl
  | cons item items ih =>
    obtain ⟨next, hstep, hnext⟩ := hwalks
    have hlater := ih hnext (unresolved_tail hunresolved)
    cases hstep with
    | answered => exact absurd List.mem_cons_self (hunresolved _ _)
    | refused => exact congrArg (List.cons _) hlater
    | failed => exact congrArg (List.cons _) hlater
    | connected => exact absurd (List.append_eq_nil_iff.mp hlater).2 hleft
    | _ => exact hlater

end Walker

/-- What a walker does while a DNS connection is in some state, with its attempts in some phase. -/
inductive CDNSConnection.Walking (conn : CConnection) : AttemptPhase → CDNSConnection → Walker → Prop
  | due {retries : ℤ} {resolved iter : List Bytes} (hiter : iter = [] ↔ resolved = []) :
    Walking conn .due ⟨retries, resolved, iter, false, none⟩ (.walking iter)
  | asked {retries : ℤ} : Walking conn .waiting ⟨retries, [], [], true, none⟩ .asked
  | trying {retries : ℤ} {resolved iter : List Bytes} {addr : Bytes} {bev : BufferEvent} (hresolved : resolved ≠ []) :
    Walking conn .waiting ⟨retries, resolved, addr :: iter, false, some bev⟩ (.trying (addr :: iter))
  | established : Walking conn .established (.new conn) .connected
  | dropped {retries : ℤ} : Walking conn .dropped ⟨retries, [], [], false, none⟩ (.walking [])

namespace CDNSConnection

variable {conn : CConnection} {names : NameInfo}

/-- A method that goes on with a walk by what it asks and reports. -/
def GoesOn (conn : CConnection) (walker : Walker) (answers : List AttemptItem) (atOnce : Bool)
    (r : Option (ConnResult CDNSConnection)) : Prop :=
  ∃ result last, r = some result ∧ walker.Walks (result.items answers atOnce) last ∧
    Walking conn result.report.phase result.obj last

/-- A reported failure leaves the walk where the addresses are. -/
theorem walking_of_failure {retries : ℤ} {resolved iter : List Bytes} {retry : Bool} (type : ConnectionFailureType)
    (failed : CConnection) (hiter : iter = [] ↔ resolved = []) (hretry : iter ≠ [] → retry = true) :
    Walking conn (ConnReport.connectionFailure type failed retry).phase ⟨retries, resolved, iter, false, none⟩
      (.walking iter) := by
  cases retry with
  | true => exact .due hiter
  | false =>
    have hnil : iter = [] := by
      by_contra hne
      exact absurd (hretry hne) Bool.false_ne_true
    obtain rfl := hiter.mp hnil
    subst hnil
    exact .dropped

/-- A failed resolution. -/
theorem onResolveFailure_goesOn (retries : ℤ) (request : Bool) (answers : List AttemptItem) (atOnce : Bool) :
    GoesOn conn (.walking []) answers atOnce (onResolveFailure conn ⟨retries, [], [], request, none⟩) :=
  ⟨_, .walking [], rfl, ⟨.walking [], .unresolved, rfl⟩, walking_of_failure .resolve conn Iff.rfl (absurd rfl)⟩

/-- What `OnConnectFailure` reports of an address under trial. -/
theorem onConnectFailure_eq (conn : CConnection) (retries : ℤ) {resolved : List Bytes} (iter : List Bytes)
    (addr : Bytes) (hresolved : resolved ≠ []) :
    onConnectFailure conn ⟨retries, resolved, addr :: iter, false, none⟩ =
      some ⟨⟨retries, if iter.isEmpty then [] else resolved, iter, false, none⟩, [], .connectionFailure .connect
        (resolvedConnection conn addr) (!iter.isEmpty || decide (retries ≠ 0))⟩ := by
  simp [onConnectFailure, hresolved]

/-- A failed connect, which the walker may take at once or after it started. -/
theorem onConnectFailure_goesOn (retries : ℤ) {resolved iter : List Bytes} {addr : Bytes} (hresolved : resolved ≠ [])
    (answers : List AttemptItem) {walker : Walker} {atOnce : Bool}
    (hstep : ∀ retry, (iter ≠ [] → retry = true) →
      walker.Step (.failure atOnce .connect (resolvedConnection conn addr) retry) (.walking iter)) :
    GoesOn conn walker answers atOnce (onConnectFailure conn ⟨retries, resolved, addr :: iter, false, none⟩) := by
  have hretry : iter ≠ [] → (!iter.isEmpty || decide (retries ≠ 0)) = true := fun hne => by simp [hne]
  have hiter : iter = [] ↔ (if iter.isEmpty then [] else resolved) = [] := by
    cases iter <;> simp [hresolved]
  exact ⟨_, .walking iter, onConnectFailure_eq conn retries iter addr hresolved,
    ⟨.walking iter, hstep _ hretry, rfl⟩, walking_of_failure .connect _ hiter hretry⟩

/-- The next address is connected to or refused. -/
theorem connectResolved_goesOn (retries : ℤ) {resolved iter : List Bytes} {addr : Bytes} (hresolved : resolved ≠ [])
    (answers : List AttemptItem) :
    GoesOn conn (.walking (addr :: iter)) answers true
      (connectResolved conn ⟨retries, resolved, addr :: iter, false, none⟩) := by
  cases hcan : CConnection.canConnectDirectAddr addr conn.opts.nFamily with
  | true =>
    obtain ⟨bev, hbev⟩ : ∃ bev, bareConnect none addr conn.opts.nConnTimeout = some bev := by
      simp [bareConnect, isEmpty_of_canConnectDirectAddr hcan]
    refine ⟨⟨⟨retries, resolved, addr :: iter, false, some bev⟩, [.socketConnect addr], .waiting⟩,
      .trying (addr :: iter), ?_, ⟨.trying (addr :: iter), .started, rfl⟩, .trying hresolved⟩
    simp [connectResolved, hresolved, hcan, hbev]
  | false =>
    have hrefused : connectResolved conn ⟨retries, resolved, addr :: iter, false, none⟩ =
        onConnectFailure conn ⟨retries, resolved, addr :: iter, false, none⟩ := by
      simp [connectResolved, hresolved, hcan]
    rw [hrefused]
    exact onConnectFailure_goesOn retries hresolved answers fun retry hretry =>
      @Walker.Step.refused (resolvedConnection conn addr) iter retry hretry

/-- An answer goes on to its first address, or is reported as a failure. -/
theorem onResolved_goesOn (retries : ℤ) (request : Bool) (result : DnsResult) (answers : List AttemptItem) :
    ∃ walker, Walker.asked.Step (.answer result) walker ∧
      GoesOn conn walker answers true (onResolved conn result ⟨retries, [], [], request, none⟩) := by
  cases result with
  | failure => exact ⟨.walking [], .unanswered, onResolveFailure_goesOn retries request answers true⟩
  | addresses first rest =>
    exact ⟨.walking (first :: rest), .answered, connectResolved_goesOn retries (List.cons_ne_nil _ _) answers⟩

/-- A name is looked up, or found not to be. -/
theorem doResolve_goesOn (names : NameInfo) (retries : ℤ) (lookup : Lookup) :
    GoesOn conn (.walking []) lookup.answers true (doResolve names conn lookup ⟨retries, [], [], false, none⟩) := by
  unfold doResolve
  rw [if_neg (by simp)]
  split
  · split
    · cases lookup with
      | later => exact ⟨_, .asked, rfl, ⟨.asked, .lookup, rfl⟩, .asked⟩
      | atOnce result =>
        obtain ⟨walker, hanswer, answered, last, hr, hwalks, hwalking⟩ :=
          @onResolved_goesOn conn retries false result [.answer result]
        exact ⟨_, last, congrArg (Option.map _) hr, ⟨.asked, .lookup, walker, hanswer, hwalks⟩, hwalking⟩
    · exact onResolveFailure_goesOn retries false _ true
  · exact onResolveFailure_goesOn retries false _ true

/-- `Connect` on a connection that is due. -/
theorem connect_goesOn (names : NameInfo) (retries : ℤ) {resolved iter : List Bytes}
    (hiter : iter = [] ↔ resolved = []) (lookup : Lookup) :
    GoesOn conn (.walking iter) lookup.answers true
      (connect names conn lookup ⟨retries, resolved, iter, false, none⟩) := by
  cases iter with
  | nil =>
    obtain rfl := hiter.mp rfl
    exact doResolve_goesOn names retries lookup
  | cons addr iter => exact connectResolved_goesOn retries (mt hiter.mpr (List.cons_ne_nil _ _)) _

/-- The socket of the address under trial has connected. -/
theorem connEvent_of_connected (retries : ℤ) {resolved : List Bytes} (iter : List Bytes) (addr : Bytes)
    (bev : BufferEvent) (hresolved : resolved ≠ []) {event : BevEvents} (hconnected : event.connected = true) :
    connEvent conn event ⟨retries, resolved, addr :: iter, false, some bev⟩ =
      some ⟨.new conn, [], .outgoingConnected bev (resolvedConnection conn addr)⟩ := by
  have hempty : resolved.isEmpty = false := by simp [hresolved]
  simp [connEvent, hconnected, onConnectSuccess, hempty, new]

/-- Any other event of it is a failure to connect. -/
theorem connEvent_of_not_connected (retries : ℤ) (resolved iter : List Bytes) (addr : Bytes) (bev : BufferEvent)
    {event : BevEvents} (hconnected : event.connected = false) :
    connEvent conn event ⟨retries, resolved, addr :: iter, false, some bev⟩ =
      onConnectFailure conn ⟨retries, resolved, addr :: iter, false, none⟩ := by
  simp [connEvent, hconnected]

/-- `conn_event` on a connection that waits. -/
theorem connEvent_goesOn {c : CDNSConnection} {walker : Walker} (h : Walking conn .waiting c walker)
    (event : BevEvents) :
    GoesOn conn walker [] false (c.connEvent conn event) := by
  cases h with
  | asked => exact ⟨_, .asked, rfl, rfl, .asked⟩
  | @trying retries resolved iter addr bev hresolved =>
    cases hconnected : event.connected with
    | true =>
      exact ⟨_, .connected, connEvent_of_connected retries iter addr bev hresolved hconnected,
        ⟨.connected, @Walker.Step.connected (resolvedConnection conn addr) iter, rfl⟩, .established⟩
    | false =>
      rw [connEvent_of_not_connected retries resolved iter addr bev hconnected]
      exact onConnectFailure_goesOn retries hresolved [] fun retry hretry =>
        @Walker.Step.failed (resolvedConnection conn addr) iter retry hretry

/-- `dns_callback` on a connection that waits for it. -/
theorem dnsCallback_goesOn {c : CDNSConnection} {walker : Walker} (h : Walking conn .waiting c walker)
    (hrequest : c.request = true) (result : DnsResult) :
    ∃ next, walker.Step (.answer result) next ∧ GoesOn conn next [] true (c.dnsCallback conn result) := by
  cases h with
  | asked => exact onResolved_goesOn _ true result []
  | trying => contradiction

end CDNSConnection

namespace Attempts

variable {names : NameInfo} {newId : Attempts → ConnID} {conn : CConnection} {a next : Attempts}

/-- The object is a DNS connection for `conn`, and a walker has come through its log to where it is. -/
def Follows (conn : CConnection) (a : Attempts) : Prop :=
  ∃ c walker, a.obj.kind = .dns c ∧ a.obj.base.conn = conn ∧ Walker.Walks (.walking []) a.log walker ∧
    CDNSConnection.Walking conn a.phase c walker

/-- A method that goes on with the walk. -/
theorem follows_report {walker last : Walker} {items : List AttemptItem} {base : ConnectionBase}
    {r : ConnResult CDNSConnection} (hlog : Walker.Walks (.walking []) a.log walker)
    (hitems : walker.Walks items last)
    (hwalking : CDNSConnection.Walking conn r.report.phase r.obj last) (hconn : base.conn = conn) :
    Follows conn (a.report newId items (ConnectionObject.settle base .dns r)) := by
  refine ⟨r.obj, last, report_kind newId a items _, ?_, Walker.walks_append.mpr ⟨walker, hlog, hitems⟩, hwalking⟩
  rw [report_conn, ConnectionObject.settle_conn, hconn]

/-- An attempt goes on with the walk, and no assertion fails. -/
theorem Follows.attempt (names : NameInfo) (newId : Attempts → ConnID) (h : Follows conn a) (e : AttemptEvent) :
    ∃ next, a.attempt names newId e = some next ∧ Follows conn next := by
  obtain ⟨⟨base, kind⟩, phase, log⟩ := a
  obtain ⟨c, walker, rfl, rfl, hlog, hwalking⟩ := h
  have hstays : Follows base.conn ⟨⟨base, .dns c⟩, phase, log⟩ := ⟨c, walker, rfl, rfl, hlog, hwalking⟩
  cases e with
  | begin lookup =>
    cases phase with
    | due =>
      obtain ⟨hiter⟩ := hwalking
      obtain ⟨r, last, hr, hwalks, hlast⟩ := CDNSConnection.connect_goesOn names _ hiter lookup
      exact ⟨_, congrArg (Option.map _) (congrArg (Option.map _) hr), follows_report hlog hwalks hlast rfl⟩
    | _ => exact ⟨_, rfl, hstays⟩
  | connEvent event =>
    cases phase with
    | waiting =>
      obtain ⟨r, last, hr, hwalks, hlast⟩ := CDNSConnection.connEvent_goesOn hwalking event
      exact ⟨_, congrArg (Option.map _) (congrArg (Option.map _) hr), follows_report hlog hwalks hlast rfl⟩
    | _ => exact ⟨_, rfl, hstays⟩
  | dnsCallback result =>
    cases phase with
    | waiting =>
      change ∃ next, (if c.request then _ else _) = some next ∧ _
      split
      · next hrequest =>
        obtain ⟨answered, hanswer, r, last, hr, hwalks, hlast⟩ :=
          CDNSConnection.dnsCallback_goesOn hwalking hrequest result
        exact ⟨_, congrArg (Option.map _) (congrArg (Option.map _) hr),
          follows_report hlog ⟨answered, hanswer, hwalks⟩ hlast rfl⟩
      · exact ⟨_, rfl, hstays⟩
    | _ => exact ⟨_, rfl, hstays⟩
  | handshake s =>
    cases phase with
    | waiting =>
      have hunchanged : CDNSConnection.Walking base.conn (ConnResult.unchanged c).report.phase c walker := hwalking
      exact ⟨_, rfl, @follows_report newId base.conn _ walker walker [] base (.unchanged c) hlog rfl hunchanged rfl⟩
    | _ => exact ⟨_, rfl, hstays⟩

/-- While it is established nothing happens to the addresses. -/
theorem Follows.step (h : Follows conn a) {e : AttemptsEvent} (hstep : a.step names newId e = some next) :
    Follows conn next := by
  cases e with
  | attempt e =>
    obtain ⟨other, hother, hfollows⟩ := h.attempt names newId e
    obtain rfl : other = next := Option.some.inj (hother.symm.trans hstep)
    exact hfollows
  | established s =>
    change (if a.phase = .established then _ else _) = some next at hstep
    split at hstep
    · next hphase =>
      obtain ⟨run, hrun, rfl⟩ := Option.map_eq_some_iff.mp hstep
      obtain ⟨c, walker, hkind, hbase, hlog, hwalking⟩ := h
      have hconn : run.base.conn = conn := (ConnRun.step_conn hrun).trans hbase
      rw [hphase] at hwalking
      cases hwalking
      unfold lived
      simp only
      split
      · exact ⟨_, _, hkind, hconn, hlog, by rw [hphase]; exact .established⟩
      · split
        · exact ⟨_, .walking [], hkind, hconn, Walker.walks_append.mpr ⟨_, hlog, _, .lost, rfl⟩, .due Iff.rfl⟩
        · exact ⟨_, .walking [], hkind, hconn, Walker.walks_append.mpr ⟨_, hlog, _, .lost, rfl⟩, .dropped⟩
    · obtain rfl := Option.some.inj hstep
      exact h

/-- A new DNS connection has nothing to walk over. -/
theorem follows_start (conn : CConnection) (id : ConnID) (bytesRead bytesWritten : ℕ) :
    Follows conn (start ⟨.new conn id bytesRead bytesWritten, .dns (.new conn)⟩) :=
  ⟨.new conn, .walking [], rfl, rfl, rfl, .due Iff.rfl⟩

end Attempts

/-- An IPv4 address on the local host, by its last byte. -/
def localAddress (last : UInt8) : Bytes := [2, 0, 0x20, 0x8d, 127, 0, 0, last] ++ List.replicate 8 0

end LibBtcNet
