import LibBtcNet.HostNames
import LibBtcNet.SingleRequest

/-!
# The network policy

What a run asks of the network for a connection obeys the options of the connection: a name
is resolved only where that is allowed, an address is connected to only where its family is
allowed, and a connection with a proxy reaches nothing but the proxy. Retries, the walk
through several addresses and reconnects are part of the run. A proxy without a stored
address is the exception: the connection goes to a placeholder then.
-/

namespace LibBtcNet

open CConnectionHandlerInt

/-- What may be asked of the network for a connection. Through a proxy, the address connected to is the one that
`GetSockAddr` copies from it; without one, it is an address of the connection or one found for its host. -/
def NetAction.Obeys (conn : CConnection) : NetAction → Prop
  | .getaddrinfo _ _ _ =>
    conn.proxy.isSet = false ∧ conn.isDns = true ∧ conn.opts.doResolve ≠ .noResolve ∧
      (Family.allows conn.opts.nFamily Family.ipv4 = true ∨ Family.allows conn.opts.nFamily Family.ipv6 = true)
  | .socketConnect addr =>
    (conn.proxy.isSet = true → conn.proxy.getSockAddr sockaddrStorageSize = some addr) ∧
      (conn.proxy.isSet = false →
        conn.isOnion = false ∧ CConnection.canConnectDirectAddr addr conn.opts.nFamily = true)

/-- Whatever a run asks of the network for a connection, it was offered and the request obeys its policy. -/
def ObeysPolicy (conn : CConnection) : Prop :=
  ∀ (inputs : List HandlerInput) (action : NetAction), .net conn action ∈ (run inputs).trace →
    (∃ input ∈ inputs, ∃ t : Trace, conn ∈ input.env.offered t) ∧ action.Obeys conn

/-- What is permitted to a connection that a constructor made obeys its policy, if the proxy that would be
connected to has a stored address. -/
theorem NetAction.Permitted.obeys {parse : ParseSockAddr} {conn : CConnection} {action : NetAction}
    (permitted : action.Permitted conn) (hconstructed : conn.toCConnectionBase.Constructed parse)
    (hreal : conn.canConnectProxy = true → conn.proxy.getSockAddr sockaddrStorageSize ≠ none) :
    action.Obeys conn := by
  cases action with
  | getaddrinfo host port family => exact permitted
  | socketConnect addr =>
    rcases permitted with ⟨hproxy, hcan, rfl⟩ | ⟨hproxy, honion, hfamily⟩
    · refine ⟨fun _ => ?_, fun hunset => absurd (hproxy.symm.trans hunset) (by simp)⟩
      obtain ⟨addr, haddr⟩ := Option.ne_none_iff_exists'.mp (hreal hcan)
      rw [haddr, connectAddr_of_getSockAddr haddr]
    · exact ⟨fun hset => absurd (hset.symm.trans hproxy) (by simp), fun _ =>
        ⟨honion.elim hconstructed.not_isOnion id, hfamily⟩⟩

/-- What a run asks of the network for a connection was offered and is permitted. -/
theorem run_permitted (inputs : List HandlerInput) {conn : CConnection} {action : NetAction}
    (hitem : .net conn action ∈ (run inputs).trace) :
    (∃ input ∈ inputs, ∃ t : Trace, conn ∈ input.env.offered t) ∧ action.Permitted conn := by
  have hsupplies : ∀ input ∈ inputs, HandlerInput.Supplies
      (fun conn => ∃ input ∈ inputs, ∃ t, conn ∈ input.env.offered t) (fun _ => True) input :=
    fun input hinput => ⟨fun t conn hconn _ => ⟨input, hinput, t, hconn⟩, fun _ _ => trivial⟩
  rcases run_items inputs hsupplies _ hitem with hfits | ⟨needcount, answer, hask⟩
  · exact hfits
  · contradiction

/-- Every run obeys the policy of a connection that a constructor made exactly when it may not be connected to
through its proxy or that proxy has a stored address of the right size. -/
theorem obeysPolicy_iff {parse : ParseSockAddr} {conn : CConnection}
    (hconstructed : conn.toCConnectionBase.Constructed parse) :
    ObeysPolicy conn ↔ ¬(conn.canConnectProxy = true ∧
      (conn.proxy.addr = [] ∨ sockaddrStorageSize < conn.proxy.addr.length)) := by
  rw [← CConnectionBase.getSockAddr_eq_none_iff]
  constructor
  · rintro hobeys ⟨hcan, hnone⟩
    have hitem : .net conn (.socketConnect (connectAddr conn.proxy.toCConnectionBase)) ∈
        (run (singleRequest conn .later)).trace := by
      rw [run_singleRequest_proxied hcan]
      exact List.mem_append_right _ (List.mem_singleton_self _)
    have hstored := (hobeys _ _ hitem).2.1 (CConnection.canConnectProxy_spec hcan).2.1
    exact absurd (hnone.symm.trans hstored) (by simp)
  · intro hreal inputs action hitem
    obtain ⟨hoffered, hpermitted⟩ := run_permitted inputs hitem
    exact ⟨hoffered, hpermitted.obeys hconstructed fun hcan hnone => hreal ⟨hcan, hnone⟩⟩

/-- It connects to the proxy, and every run obeys its policy. -/
theorem obeysPolicy_localProxy :
    .net localProxyRequest (.socketConnect (localProxy .socks5).addr) ∈
      (run (singleRequest localProxyRequest .later)).trace ∧
    ObeysPolicy localProxyRequest :=
  ⟨by decide +kernel, (@obeysPolicy_iff (fun _ => none) _ (.ofHost [115, 101, 101, 100] 8333)).mpr (by decide +kernel)⟩

/-- A request through a proxy that is given by its name connects to the placeholder, which the proxy does not store. -/
theorem obeysPolicy_failing : ∃ inputs : List HandlerInput,
    .net namedProxyRequest (.socketConnect (List.replicate sockaddrStorageSize 0)) ∈ (run inputs).trace ∧
      namedProxyRequest.proxy.getSockAddr sockaddrStorageSize = none ∧ ¬ObeysPolicy namedProxyRequest := by
  have hnone : namedProxyRequest.proxy.getSockAddr sockaddrStorageSize = none := by decide +kernel
  have hitem : .net namedProxyRequest (.socketConnect (List.replicate sockaddrStorageSize 0)) ∈
      (run (singleRequest namedProxyRequest .later)).trace := by
    rw [run_singleRequest_proxied (by decide +kernel), connectAddr_of_getSockAddr_eq_none hnone]
    exact List.mem_append_right _ (List.mem_singleton_self _)
  refine ⟨_, hitem, hnone, fun hobeys => ?_⟩
  have hstored := (hobeys _ _ hitem).2.1 (by decide +kernel)
  exact absurd (hnone.symm.trans hstored) (by simp)

end LibBtcNet
