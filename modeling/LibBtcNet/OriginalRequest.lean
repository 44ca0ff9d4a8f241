import LibBtcNet.HostNames
import LibBtcNet.SingleRequest

/-!
# The request that a notification names

Which requests are always named by the callbacks about them. The connection argument of a
callback about a request is the connection that the user offered, except after a resolution:
there `OnConnectFailure` reports the address that was tried, and the handler passes it on in
both arguments.
-/

namespace LibBtcNet

open CConnectionHandlerInt

/-- The connection argument of a callback with the outcome of a request. -/
def Callback.conn? : Callback → Option CConnection
  | .onConnectionFailure conn _ _ => some conn
  | .onProxyFailure conn _ => some conn
  | .onDnsFailure conn _ => some conn
  | .onDnsResponse conn _ => some conn
  | .onOutgoingConnection _ conn _ => some conn
  | _ => none

/-- In every run, every callback with the outcome of a request names the request. -/
def NamesOriginal (request : CConnection) : Prop :=
  ∀ (inputs : List HandlerInput) (c : Callback) (answer : Bool) (conn : CConnection),
    .callback c answer (some request) ∈ (run inputs).trace → c.conn? = some conn → conn = request

/-- A callback that fits a request that is not resolved to be connected names it. -/
theorem Callback.Fits.names {P : CConnection → Prop} {request conn : CConnection} {c : Callback}
    (hfits : c.Fits P (some request)) (hconn : c.conn? = some conn) (hdirect : request.resolvesToConnect = false) :
    conn = request := by
  cases c <;> simp only [conn?, Option.some.injEq, reduceCtorEq] at hconn
  case onConnectionFailure named resolved retry =>
    subst hconn
    obtain ⟨other, hother, -, -, hnamed⟩ := hfits
    obtain rfl := Option.some.inj hother
    exact hnamed.resolve_right fun hresolves => absurd hdirect (by simp [hresolves.1])
  all_goals
    subst hconn
    exact (Option.some.inj hfits.1).symm

/-- A socket address of a family that a connection may use. -/
theorem exists_connectable {conn : CConnection} (hcan : conn.canResolve = true) :
    ∃ addr, addr ≠ [] ∧ CConnection.canConnectDirectAddr addr conn.opts.nFamily = true := by
  obtain ⟨-, -, -, hipv4 | hipv6⟩ := (CConnection.canResolve_iff conn).mp hcan
  · exact ⟨[2, 0] ++ List.replicate 14 0, by simp,
      by simp [CConnection.canConnectDirectAddr, hipv4, saFamily, storageByte, afInet, afUnix]⟩
  · exact ⟨[10, 0] ++ List.replicate 26 0, by simp,
      by simp [CConnection.canConnectDirectAddr, hipv6, saFamily, storageByte, afInet, afInet6, afUnix]⟩

/-- A request whose host is resolved to one address that cannot be connected to. -/
def resolvedThenLost (conn : CConnection) (addr : Bytes) : List HandlerInput :=
  singleRequest conn .later ++ [⟨.dnsCallback .connecting 0 (.addresses addr []), .accepting [] .later⟩] ++
    [⟨.connEvent .connecting 0 ⟨false, true, false, false⟩, .accepting [] .later⟩]

/-- The failure of such a request names the address. -/
theorem run_resolvedThenLost {conn : CConnection} {addr : Bytes} (hresolves : conn.resolvesToConnect = true)
    (haddr : addr ≠ []) (hconnectable : CConnection.canConnectDirectAddr addr conn.opts.nFamily = true) :
    ∃ retry answer, .callback (.onConnectionFailure (CDNSConnection.resolvedConnection conn addr)
      (CDNSConnection.resolvedConnection conn addr) retry) answer (some conn) ∈
        (run (resolvedThenLost conn addr)).trace := by
  obtain ⟨⟨honly, hproxy⟩, hcan⟩ : (conn.isResolveOnly = false ∧ conn.proxy.isSet = false) ∧
    conn.canResolve = true := by
    simpa [CConnection.resolvesToConnect] using hresolves
  obtain ⟨family, hfamily⟩ := setResolveFamily_of_canResolve hcan
  obtain ⟨bev, hbev⟩ : ∃ bev, bareConnect none addr conn.opts.nConnTimeout = some bev := by
    simp [bareConnect, haddr]
  -- The name is being resolved.
  obtain ⟨resolving, hresolving⟩ : ∃ h, run (singleRequest conn .later) = h := ⟨_, rfl⟩
  have hrequested := hresolving.symm.trans (run_singleRequest_resolved hresolves hfamily)
  have hfound : (resolving.objects .connecting)[(0 : ConnID)]? =
      some ⟨.new conn 0 0 0, .dns { CDNSConnection.new conn with request := true }⟩ := by
    rw [hrequested]
    change ((askedHandler.connecting.insertIfNew 0 _).insert 0 _)[(0 : ConnID)]? = _
    rw [OrderedMap.getElem?_insert, if_pos rfl]
  have hanswered : ConnectionObject.dnsCallback (.addresses addr [])
      ⟨.new conn 0 0 0, .dns { CDNSConnection.new conn with request := true }⟩ =
        some ⟨⟨.new conn 0 0 0, .dns ⟨conn.opts.nRetries, [addr], [addr], false, some bev⟩⟩,
          [.socketConnect addr], .waiting⟩ := by
    simp [ConnectionObject.dnsCallback, CDNSConnection.dnsCallback, CDNSConnection.onResolved,
      CDNSConnection.onResolveSuccess, CDNSConnection.connectResolved, CDNSConnection.new, ConnectionBase.new,
      hconnectable, hbev, ConnectionObject.settle]
  -- Its address is connected to.
  obtain ⟨connecting, hconnecting⟩ : ∃ h, run (singleRequest conn .later ++
      [⟨.dnsCallback .connecting 0 (.addresses addr []), .accepting [] .later⟩]) = h := ⟨_, rfl⟩
  have hstep := step_runMethod resolving ⟨.dnsCallback .connecting 0 (.addresses addr []), .accepting [] .later⟩
    (by rw [hrequested]; rfl) rfl hfound hanswered
  rw [← hresolving, ← run_concat, hconnecting] at hstep
  have hattempt : (connecting.objects .connecting)[(0 : ConnID)]? =
      some ⟨.new conn 0 0 0, .dns ⟨conn.opts.nRetries, [addr], [addr], false, some bev⟩⟩ := by
    rw [hstep]
    change ((run (singleRequest conn .later)).connecting.insert 0 _)[(0 : ConnID)]? = _
    rw [OrderedMap.getElem?_insert, if_pos rfl]
  have hlost : ConnectionObject.connEvent ⟨false, true, false, false⟩
      ⟨.new conn 0 0 0, .dns ⟨conn.opts.nRetries, [addr], [addr], false, some bev⟩⟩ =
        some ⟨⟨.new conn 0 0 0, .dns ⟨conn.opts.nRetries, [], [], false, none⟩⟩, [], .connectionFailure .connect
          (CDNSConnection.resolvedConnection conn addr) (decide (conn.opts.nRetries ≠ 0))⟩ := by
    simp [ConnectionObject.connEvent, CDNSConnection.connEvent, CDNSConnection.onConnectFailure, ConnectionBase.new,
      ConnectionObject.settle]
  -- The attempt is lost.
  have hrun := step_runMethod connecting ⟨.connEvent .connecting 0 ⟨false, true, false, false⟩, .accepting [] .later⟩
    (by rw [hstep, hresolving, hrequested]; rfl) rfl hattempt hlost
  rw [← hconnecting, ← run_concat, hconnecting] at hrun
  have hptr :
    (connecting.worked .connecting 0 ⟨.new conn 0 0 0, .dns ⟨conn.opts.nRetries, [addr], [addr], false, some bev⟩⟩
      ⟨⟨.new conn 0 0 0, .dns ⟨conn.opts.nRetries, [], [], false, none⟩⟩, [], .connectionFailure .connect
        (CDNSConnection.resolvedConnection conn addr) (decide (conn.opts.nRetries ≠ 0))⟩).connecting[(0 : ConnID)]? =
          some ⟨.new conn 0 0 0, .dns ⟨conn.opts.nRetries, [], [], false, none⟩⟩ := by
    change (connecting.connecting.insert 0 _)[(0 : ConnID)]? = _
    rw [OrderedMap.getElem?_insert, if_pos rfl]
  obtain ⟨ret, htold⟩ := onConnectionFailure_told (.accepting [] .later) hptr conn .connect
    (CDNSConnection.resolvedConnection conn addr) (decide (conn.opts.nRetries ≠ 0))
  rw [resolvedThenLost, hrun]
  exact ⟨_, ret, htold.subset (List.mem_append_right _ (List.mem_singleton_self _))⟩

/-- Every callback about a request names it, in every run, exactly when its host is not resolved to be
connected to. -/
theorem namesOriginal_iff (request : CConnection) : NamesOriginal request ↔ request.resolvesToConnect = false := by
  constructor
  · intro hnames
    by_contra hresolves
    rw [Bool.not_eq_false] at hresolves
    have hcan : request.canResolve = true := by
      simp only [CConnection.resolvesToConnect, Bool.and_eq_true] at hresolves
      exact hresolves.2
    obtain ⟨addr, haddr, hconnectable⟩ := exists_connectable hcan
    obtain ⟨retry, answer, hitem⟩ := run_resolvedThenLost hresolves haddr hconnectable
    have hsame := hnames _ _ _ _ hitem rfl
    have hdns := ((CConnection.canResolve_iff request).mp hcan).2.1
    rw [← hsame] at hdns
    exact Bool.false_ne_true hdns
  · intro hdirect inputs c answer conn hitem hconn
    have hsupplies : ∀ input ∈ inputs, input.Supplies (fun _ => True) (fun _ => True) :=
      fun input _ => ⟨fun _ _ _ _ => trivial, fun _ _ => trivial⟩
    rcases run_items inputs hsupplies _ hitem with hfits | ⟨needcount, answer, hask⟩
    · exact Callback.Fits.names hfits hconn hdirect
    · simp at hask

/-- The host `seed` is resolved to 127.0.0.1, the connect fails, and the callback names the address. -/
theorem namesOriginal_failing : ¬NamesOriginal seedRequest := by
  intro hnames
  obtain ⟨retry, answer, hitem⟩ := run_resolvedThenLost (show seedRequest.resolvesToConnect = true by decide +kernel)
    (show [2, 0, 0x20, 0x8d, 127, 0, 0, 1] ++ List.replicate 8 0 ≠ ([] : Bytes) by simp) (by decide +kernel)
  have hsame := hnames _ _ _ _ hitem rfl
  have hdns : seedRequest.isDns = true := by decide +kernel
  rw [← hsame] at hdns
  exact Bool.false_ne_true hdns

end LibBtcNet
