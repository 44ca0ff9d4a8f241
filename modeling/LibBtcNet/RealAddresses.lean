import LibBtcNet.AddressWalk
import LibBtcNet.HostNames
import LibBtcNet.RestoredBudget

/-!
# The addresses that sockets are opened to

`Connect` copies the stored address of an endpoint and does not look at whether that worked; it
relies on another check instead. For a direct connection that check is about the same endpoint.
A proxied one checks its target and connects to its proxy. The addresses that all the attempts
of a connection open sockets to are compared here with those that were stored or resolved.
-/

namespace LibBtcNet

/-- The endpoint that a socket is opened to where no name is resolved. -/
def CConnection.firstHop (conn : CConnection) : CConnectionBase :=
  if conn.proxy.isSet then conn.proxy.toCConnectionBase else conn.toCConnectionBase

/-- The addresses found last, which are forgotten when one has been connected to. -/
def AttemptItem.result (current : List Bytes) : AttemptItem → List Bytes
  | .answer (.addresses first rest) => first :: rest
  | .answer .failure => []
  | .connected _ => []
  | _ => current

/-- The result of the resolver after some items. -/
def currentResult (log : List AttemptItem) : List Bytes := log.foldl AttemptItem.result []

/-- An address that `GetSockAddr` copied or that the resolver found. -/
def RealAddress (conn : CConnection) (before : List AttemptItem) (addr : Bytes) : Prop :=
  conn.firstHop.getSockAddr sockaddrStorageSize = some addr ∨ addr ∈ currentResult before

/-- Every socket was opened to such an address. -/
def StartsReal (conn : CConnection) (log : List AttemptItem) : Prop :=
  ∀ before addr after, log = before ++ .started addr :: after → RealAddress conn before addr

/-- Some socket was just opened. -/
def EndsInStart (log : List AttemptItem) : Prop := ∃ before addr, log = before ++ [.started addr]

/-- A connection comes of the socket that was opened last. -/
def FollowsStart (log : List AttemptItem) : Prop :=
  ∀ before resolved after, log = before ++ .connected resolved :: after → EndsInStart before

/-- Sockets are opened to real addresses only, and an attempt that opens none is reported as a failure:
it does not wait, unless for the resolver, and connects to nothing. -/
structure OpensReal (conn : CConnection) (a : Attempts) : Prop where
  starts : StartsReal conn a.log
  waits : a.phase = .waiting → EndsInStart a.log ∨ ∃ before, a.log = before ++ [.lookup]
  connects : FollowsStart a.log

/-- Another item is at the end, or somewhere before. -/
theorem concat_cases {log before after : List AttemptItem} {last item : AttemptItem}
    (heq : log ++ [last] = before ++ item :: after) :
    (log = before ∧ last = item) ∨ ∃ between, log = before ++ item :: between := by
  rcases List.eq_nil_or_concat after with rfl | ⟨between, final, rfl⟩
  · obtain ⟨hlog, hlast⟩ := List.append_inj' heq rfl
    exact Or.inl ⟨hlog, List.singleton_inj.mp hlast⟩
  · rw [List.concat_eq_append, ← List.cons_append, ← List.append_assoc] at heq
    exact Or.inr ⟨between, (List.append_inj' heq rfl).1⟩

section Concat

variable {conn : CConnection} {log : List AttemptItem} {item : AttemptItem}

/-- One more item keeps the addresses real, if it opens no socket or to a real address. -/
theorem StartsReal.concat (h : StartsReal conn log)
    (hitem : ∀ addr, item = .started addr → RealAddress conn log addr) : StartsReal conn (log ++ [item]) := by
  intro before addr after heq
  rcases concat_cases heq with ⟨rfl, hstarted⟩ | ⟨between, hlog⟩
  · exact hitem addr hstarted
  · exact h before addr between hlog

/-- One more item is no connection, or comes of a socket that was just opened. -/
theorem FollowsStart.concat (h : FollowsStart log)
    (hitem : ∀ resolved, item = .connected resolved → EndsInStart log) : FollowsStart (log ++ [item]) := by
  intro before resolved after heq
  rcases concat_cases heq with ⟨rfl, hconnected⟩ | ⟨between, hlog⟩
  · exact hitem resolved hconnected
  · exact h before resolved between hlog

end Concat

/-- What a method of a direct or a proxied connection does: it opens a socket to its own endpoint, goes on
waiting, or reports, a connection only after waiting. -/
inductive Dialed (own : Option Bytes) (phase : AttemptPhase) : List AttemptItem → ConnReport → Prop
  | started {addr : Bytes} (hown : own = some addr) : Dialed own phase [.started addr] .waiting
  | unchanged (hphase : phase = .waiting) : Dialed own phase [] .waiting
  | failed {atOnce retry : Bool} {type : ConnectionFailureType} {conn : CConnection} :
    Dialed own phase [.failure atOnce type conn retry] (.connectionFailure type conn retry)
  | connected {bev : BufferEvent} {resolved : CConnection} (hphase : phase = .waiting) :
    Dialed own phase [.connected resolved] (.outgoingConnected bev resolved)

/-- What can be connected to directly has a stored address. -/
theorem CConnection.getSockAddr_of_canConnectDirect {conn : CConnection} (hcan : conn.canConnectDirect = true) :
    ∃ addr, conn.getSockAddr sockaddrStorageSize = some addr := by
  unfold canConnectDirect at hcan
  split at hcan
  · contradiction
  · split at hcan
    · contradiction
    · split at hcan
      · contradiction
      · split at hcan
        · contradiction
        · next addr haddr => exact ⟨addr, haddr⟩

section Methods

variable {conn : CConnection} {own : Option Bytes} {answers : List AttemptItem}

/-- `Connect` of a direct connection checks the endpoint that it connects to. -/
theorem CDirectConnection.connect_dialed {c : CDirectConnection} {r : ConnResult CDirectConnection}
    (hr : c.connect conn = some r) (atOnce : Bool) :
    Dialed (conn.getSockAddr sockaddrStorageSize) .due (r.items answers atOnce) r.report := by
  rcases connect_cases hr with ⟨hcan, bev, rfl⟩ | rfl
  · obtain ⟨addr, haddr⟩ := CConnection.getSockAddr_of_canConnectDirect hcan
    rw [connectAddr_of_getSockAddr haddr]
    exact .started haddr
  · exact .failed

/-- `conn_event` of a direct connection. -/
theorem CDirectConnection.connEvent_dialed (event : BevEvents) (c : CDirectConnection) :
    Dialed own .waiting ((c.connEvent conn event).items [] false) (c.connEvent conn event).report := by
  unfold connEvent
  split
  · exact .unchanged rfl
  · split
    · exact .connected rfl
    · exact .failed

/-- `Connect` of a proxied connection, if the proxy that it would connect to has a stored address. -/
theorem CProxyConn.connect_dialed {c : CProxyConn} {r : ConnResult CProxyConn} (hr : c.connect conn = some r)
    (hreal : conn.canConnectProxy = true → conn.proxy.getSockAddr sockaddrStorageSize ≠ none) (atOnce : Bool) :
    Dialed (conn.proxy.getSockAddr sockaddrStorageSize) .due (r.items answers atOnce) r.report := by
  rcases connect_cases hr with ⟨-, hcan, bev, rfl⟩ | rfl
  · obtain ⟨addr, haddr⟩ := Option.ne_none_iff_exists'.mp (hreal hcan)
    rw [connectAddr_of_getSockAddr haddr]
    exact .started haddr
  · exact .failed

/-- `conn_event` of a proxied connection. -/
theorem CProxyConn.connEvent_dialed {event : BevEvents} {c : CProxyConn} {r : ConnResult CProxyConn}
    (hr : c.connEvent conn event = some r) : Dialed own .waiting (r.items [] false) r.report := by
  rcases connEvent_cases hr with rfl | ⟨bev, -, ⟨proxyBev, rfl⟩ | rfl⟩
  · exact .unchanged rfl
  · exact .unchanged rfl
  · exact .failed

/-- The handshake with the proxy. -/
theorem CProxyConn.handshake_dialed {names : NameInfo} {s : ProxyStep} {c : CProxyConn} {r : ConnResult CProxyConn}
    (hr : c.handshake names conn s = some r) : Dialed own .waiting (r.items [] false) r.report := by
  obtain ⟨run, -, rfl⟩ := Option.map_eq_some_iff.mp hr
  simp only
  split
  · exact .failed
  · exact .connected rfl
  · exact .unchanged rfl

end Methods

/-- A direct connection without a proxy, or a proxied one with one. -/
def ConnKind.Dials (conn : CConnection) : ConnKind → Prop
  | .direct _ => conn.proxy.isSet = false
  | .proxied _ => conn.proxy.isSet = true
  | _ => False

namespace Attempts

variable {names : NameInfo} {newId : Attempts → ConnID} {conn : CConnection} {a next : Attempts}

/-- The object is no DNS connection, and has opened sockets to real addresses only. -/
structure Dials (conn : CConnection) (a : Attempts) : Prop where
  kind : a.obj.kind.Dials conn
  base : a.obj.base.conn = conn
  starts : StartsReal conn a.log
  waits : a.phase = .waiting → EndsInStart a.log
  connects : FollowsStart a.log

/-- What was dialed is reported. -/
theorem Dials.report (h : Dials conn a) {items : List AttemptItem} {r : ConnResult ConnectionObject}
    (hdialed : Dialed (conn.firstHop.getSockAddr sockaddrStorageSize) a.phase items r.report)
    (hkind : r.obj.kind.Dials conn) (hbase : r.obj.base.conn = conn) : Dials conn (a.report newId items r) := by
  have hreported (hstarts : StartsReal conn (a.log ++ items))
      (hwaits : r.report.phase = .waiting → EndsInStart (a.log ++ items))
      (hconnects : FollowsStart (a.log ++ items)) : Dials conn (a.report newId items r) :=
    ⟨by rwa [report_kind], by rwa [report_conn], hstarts, hwaits, hconnects⟩
  obtain ⟨obj, net, rep⟩ := r
  change Dialed _ _ _ rep at hdialed
  cases hdialed with
  | started hown =>
    refine hreported (h.starts.concat fun addr heq => ?_) (fun _ => ⟨a.log, _, rfl⟩) (h.connects.concat (by simp))
    obtain rfl := AttemptItem.started.inj heq
    exact Or.inl hown
  | unchanged hphase =>
    rw [List.append_nil] at hreported
    exact hreported h.starts (fun _ => h.waits hphase) h.connects
  | @failed atOnce retry =>
    refine hreported (h.starts.concat (by simp)) (fun hwaits => ?_) (h.connects.concat (by simp))
    cases retry <;> contradiction
  | connected hphase =>
    exact hreported (h.starts.concat (by simp)) nofun (h.connects.concat fun _ _ => h.waits hphase)

/-- Whatever happens next, if the proxy that would be connected to has a stored address. -/
theorem Dials.step (h : Dials conn a)
    (hreal : conn.canConnectProxy = true → conn.proxy.getSockAddr sockaddrStorageSize ≠ none)
    {e : AttemptsEvent} (hstep : a.step names newId e = some next) : Dials conn next := by
  rcases step_cases hstep with rfl | ⟨items, r, hran, rfl⟩ | ⟨hphase, s, run, hrun, rfl⟩
  · exact h
  · obtain ⟨⟨base, kind⟩, phase, log⟩ := a
    obtain ⟨hkind, rfl, -, -, -⟩ := id h
    cases kind with
    | incoming c => exact absurd hkind id
    | dns c => exact absurd hkind id
    | direct c =>
      have hown : base.conn.firstHop = base.conn.toCConnectionBase := by
        rw [CConnection.firstHop, if_neg (by simp [show base.conn.proxy.isSet = false from hkind])]
      cases hran with
      | connect hphase hr =>
        obtain rfl : phase = .due := hphase
        obtain ⟨result, hresult, rfl⟩ := Option.map_eq_some_iff.mp hr
        exact h.report (hown ▸ CDirectConnection.connect_dialed hresult true) hkind
          (ConnectionObject.settle_conn _ _ _)
      | connEvent hphase hr =>
        obtain rfl : phase = .waiting := hphase
        obtain rfl := Option.some.inj hr
        exact h.report (CDirectConnection.connEvent_dialed _ c) hkind (ConnectionObject.settle_conn _ _ _)
      | dnsCallback hphase hresolving hr => exact absurd hresolving Bool.false_ne_true
      | handshake hphase hr =>
        obtain rfl := Option.some.inj hr
        exact h.report (.unchanged hphase) hkind rfl
    | proxied c =>
      have hown : base.conn.firstHop = base.conn.proxy.toCConnectionBase := if_pos hkind
      cases hran with
      | connect hphase hr =>
        obtain rfl : phase = .due := hphase
        obtain ⟨result, hresult, rfl⟩ := Option.map_eq_some_iff.mp hr
        exact h.report (hown ▸ CProxyConn.connect_dialed hresult hreal true) hkind
          (ConnectionObject.settle_conn _ _ _)
      | connEvent hphase hr =>
        obtain rfl : phase = .waiting := hphase
        obtain ⟨result, hresult, rfl⟩ := Option.map_eq_some_iff.mp hr
        exact h.report (CProxyConn.connEvent_dialed hresult) hkind (ConnectionObject.settle_conn _ _ _)
      | dnsCallback hphase hresolving hr => exact absurd hresolving Bool.false_ne_true
      | handshake hphase hr =>
        obtain rfl : phase = .waiting := hphase
        obtain ⟨result, hresult, rfl⟩ := Option.map_eq_some_iff.mp hr
        exact h.report (CProxyConn.handshake_dialed hresult) hkind (ConnectionObject.settle_conn _ _ _)
  · have hkind : (a.lived newId run).obj.kind.Dials conn := by
      rw [lived_kind]
      exact h.kind
    have hbase : (a.lived newId run).obj.base.conn = conn := by
      rw [lived_conn, ConnRun.step_conn hrun, h.base]
    rcases lived_phase newId a run with ⟨hstays, hlog⟩ | ⟨hends, hlog⟩
    · exact ⟨hkind, hbase, hlog ▸ h.starts, fun hwaits => hlog ▸ h.waits (hstays ▸ hwaits), hlog ▸ h.connects⟩
    · refine ⟨hkind, hbase, hlog ▸ h.starts.concat (by simp), fun hwaits => ?_, hlog ▸ h.connects.concat (by simp)⟩
      rw [hwaits] at hends
      simp at hends

/-- A new connection that is not resolved has opened no socket. -/
theorem dials_start {obj : ConnectionObject} (hkind : obj.kind.Dials conn) (hbase : obj.base.conn = conn) :
    Dials conn (start obj) :=
  ⟨hkind, hbase, fun before addr after heq => absurd heq (by simp [start]), nofun,
    fun before resolved after heq => absurd heq (by simp [start])⟩

/-- Such a connection opens sockets to real addresses only. -/
theorem Dials.opensReal (h : Dials conn a) : OpensReal conn a :=
  ⟨h.starts, fun hwaits => Or.inl (h.waits hwaits), h.connects⟩

end Attempts

namespace Walker

variable {walker last : Walker} {items : List AttemptItem}

/-- The addresses left are among those found last. -/
theorem Walks.left_subset (hwalks : walker.Walks items last) {current : List Bytes}
    (hcurrent : ∀ addr ∈ walker.left, addr ∈ current) :
    ∀ addr ∈ last.left, addr ∈ items.foldl AttemptItem.result current := by
  induction items generalizing walker current with
  | nil =>
    obtain rfl : walker = last := hwalks
    exact hcurrent
  | cons item items ih =>
    obtain ⟨next, hstep, hnext⟩ := hwalks
    rw [List.foldl_cons]
    refine ih hnext ?_
    cases hstep with
    | refused => exact fun addr hmem => hcurrent addr (List.mem_cons_of_mem _ hmem)
    | failed => exact fun addr hmem => hcurrent addr (List.mem_cons_of_mem _ hmem)
    | answered => exact fun addr hmem => hmem
    | started => exact hcurrent
    | unresolved => exact hcurrent
    | _ => exact fun addr hmem => absurd hmem List.not_mem_nil

/-- A walk to an address under trial ends in its start. -/
theorem Walks.endsInStart {left : List Bytes} (hwalks : Walks (.walking []) items (.trying left)) :
    EndsInStart items := by
  rcases List.eq_nil_or_concat items with rfl | ⟨before, item, rfl⟩
  · cases hwalks
  · rw [List.concat_eq_append] at hwalks ⊢
    obtain ⟨mid, -, next, hstep, rfl⟩ := walks_append.mp hwalks
    cases hstep
    exact ⟨before, _, rfl⟩

/-- A walk to an open request ends in its lookup. -/
theorem Walks.endsInLookup (hwalks : Walks (.walking []) items .asked) : ∃ before, items = before ++ [.lookup] := by
  rcases List.eq_nil_or_concat items with rfl | ⟨before, item, rfl⟩
  · cases hwalks
  · rw [List.concat_eq_append] at hwalks ⊢
    obtain ⟨mid, -, next, hstep, rfl⟩ := walks_append.mp hwalks
    cases hstep
    exact ⟨before, rfl⟩

end Walker

/-- A DNS connection opens sockets to addresses of the current result only. -/
theorem Attempts.Follows.opensReal {conn : CConnection} {a : Attempts} (h : Attempts.Follows conn a) :
    OpensReal conn a := by
  obtain ⟨c, walker, -, -, hlog, hwalking⟩ := h
  refine ⟨?_, ?_, ?_⟩
  · intro before addr after heq
    obtain ⟨mid, hbefore, next, hstep, -⟩ := Walker.walks_append.mp (heq ▸ hlog)
    cases hstep
    exact Or.inr (hbefore.left_subset (fun _ hmem => hmem) addr List.mem_cons_self)
  · intro hwaits
    rw [hwaits] at hwalking
    cases hwalking with
    | asked => exact Or.inr hlog.endsInLookup
    | trying => exact Or.inl hlog.endsInStart
  · intro before resolved after heq
    obtain ⟨mid, hbefore, next, hstep, -⟩ := Walker.walks_append.mp (heq ▸ hlog)
    cases hstep
    exact hbefore.endsInStart

/-- The first attempt through a proxy whose address cannot be copied connects to the placeholder. -/
theorem begin_placeholder (names : NameInfo) (newId : Attempts → ConnID) {conn : CConnection}
    (hcan : conn.canConnectProxy = true) (hproxy : conn.proxy.getSockAddr sockaddrStorageSize = none) (id : ConnID)
    (bytesRead bytesWritten : ℕ) : ∃ a,
      Attempts.step names newId (.start (.new conn id bytesRead bytesWritten)) (.attempt (.begin .later)) = some a ∧
        a.log = [.started (List.replicate sockaddrStorageSize 0)] := by
  obtain ⟨hset, hproxySet, -⟩ := CConnection.canConnectProxy_spec hcan
  have haddr := connectAddr_of_getSockAddr_eq_none hproxy
  obtain ⟨bev, hbev⟩ : ∃ bev, bareConnect none (List.replicate sockaddrStorageSize 0) conn.opts.nConnTimeout =
      some bev := ⟨_, rfl⟩
  have hconnect : CProxyConn.connect conn (.new conn) = some ⟨{ CProxyConn.new conn with bareBev := some bev },
      [.socketConnect (List.replicate sockaddrStorageSize 0)], .waiting⟩ := by
    simp [CProxyConn.connect, hset, hproxySet, hcan, haddr, CProxyConn.new, hbev]
  have hnew : ConnectionObject.new conn id bytesRead bytesWritten =
      ⟨.new conn id bytesRead bytesWritten, .proxied (.new conn)⟩ := by
    rw [ConnectionObject.new, if_pos hproxySet]
  rw [hnew]
  exact ⟨_, congrArg (Option.map _) (congrArg (Option.map _) hconnect), rfl⟩

/-- Every socket that a connection opens, in whatever order things happen to it, is opened to an address that
was stored or resolved, and an attempt that opens none is reported as a failure, exactly when it may not be
connected through its proxy or that proxy has a stored address of the right size. -/
theorem opensReal_iff (names : NameInfo) (newId : Attempts → ConnID) (conn : CConnection) (id : ConnID)
    (bytesRead bytesWritten : ℕ) :
    (∀ (events : List AttemptsEvent) (a : Attempts),
        events.foldlM (Attempts.step names newId) (.start (.new conn id bytesRead bytesWritten)) = some a →
          OpensReal conn a) ↔
      ¬(conn.canConnectProxy = true ∧
        (conn.proxy.addr = [] ∨ sockaddrStorageSize < conn.proxy.addr.length)) := by
  rw [← CConnectionBase.getSockAddr_eq_none_iff]
  constructor
  · rintro halways ⟨hcan, hproxy⟩
    obtain ⟨a, hstep, hlog⟩ := begin_placeholder names newId hcan hproxy id bytesRead bytesWritten
    have hreal := (halways [.attempt (.begin .later)] a (by rw [List.foldlM_cons, hstep]; rfl)).starts [] _ [] hlog
    rw [RealAddress, CConnection.firstHop, if_pos (CConnection.canConnectProxy_spec hcan).2.1, hproxy] at hreal
    rcases hreal with hnone | hnil
    · contradiction
    · contradiction
  · intro hreal events a hrun
    have hstored (hcan : conn.canConnectProxy = true) : conn.proxy.getSockAddr sockaddrStorageSize ≠ none :=
      fun hnone => hreal ⟨hcan, hnone⟩
    cases hproxy : conn.proxy.isSet with
    | true =>
      have hkind : (ConnectionObject.new conn id bytesRead bytesWritten).kind.Dials conn := by
        rw [ConnectionObject.new, if_pos hproxy]
        exact hproxy
      exact (Runs.foldlM_invariant (fun a e next h hstep => h.step hstored hstep)
        (Attempts.dials_start hkind rfl) hrun).opensReal
    | false =>
      cases hdns : conn.isDns with
      | true =>
        have hnew : ConnectionObject.new conn id bytesRead bytesWritten =
            ⟨.new conn id bytesRead bytesWritten, .dns (.new conn)⟩ := by
          rw [ConnectionObject.new, hproxy, hdns]
          rfl
        rw [hnew] at hrun
        exact (Runs.foldlM_invariant (fun a e next h hstep => h.step hstep)
          (Attempts.follows_start conn id bytesRead bytesWritten) hrun).opensReal
      | false =>
        have hkind : (ConnectionObject.new conn id bytesRead bytesWritten).kind.Dials conn := by
          rw [ConnectionObject.new, hproxy, hdns]
          exact hproxy
        exact (Runs.foldlM_invariant (fun a e next h hstep => h.step hstored hstep)
          (Attempts.dials_start hkind rfl) hrun).opensReal

/-- Its first attempt connects to the placeholder. -/
theorem opensReal_failing : ∃ a,
    ([.attempt (.begin .later)] : List AttemptsEvent).foldlM (Attempts.step noNames fun _ => 1)
        (.start (.new namedProxyRequest 0 0 0)) = some a ∧
      a.log = [.started (List.replicate sockaddrStorageSize 0)] ∧ ¬OpensReal namedProxyRequest a := by
  have hcan : namedProxyRequest.canConnectProxy = true := by decide +kernel
  obtain ⟨a, hstep, hlog⟩ := begin_placeholder noNames (fun _ => 1) hcan (by decide +kernel) 0 0 0
  refine ⟨a, by rw [List.foldlM_cons, hstep]; rfl, hlog, fun hopens => ?_⟩
  rcases hopens.starts [] _ [] hlog with hstored | hfound
  · exact absurd hstored (by decide +kernel)
  · exact absurd hfound List.not_mem_nil

end LibBtcNet
