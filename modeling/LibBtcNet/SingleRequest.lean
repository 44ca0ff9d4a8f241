import LibBtcNet.HandlerTrace

/-!
# A single request

The run in which the user starts a handler, is asked once and offers one connection.
What such a run does for any connection shows what a longer one can do.
-/

namespace LibBtcNet

open CConnectionHandlerInt

/-- The user starts a handler, is asked for connections and offers one. -/
def singleRequest (conn : CConnection) (lookup : Lookup) : List HandlerInput :=
  [⟨.start 8, .accepting [conn] lookup⟩, ⟨.requestEvent, .accepting [conn] lookup⟩]

/-- A handler that has been started. -/
def startedHandler : CConnectionHandlerInt :=
  { new with
    outgoingConnLimit := 8
    eventBase := true
    dnsBase := true
    requestEvent := true
    shutdownEvent := some false
    trace := [.callback .onStartup true none] }

/-- The handler when the user has been asked and the id of the offered connection is issued. -/
def askedHandler : CConnectionHandlerInt :=
  { startedHandler with
    connectionIndex := 1
    trace := [.callback .onStartup true none, .callback (.onNeedOutgoingConnections 8) true none, .issued 0] }

/-- The first question is for the largest number. -/
theorem needed_startedHandler : startedHandler.needed = 8 := by decide +kernel

/-- The offered connection is started. -/
theorem run_singleRequest {conn : CConnection} (hset : conn.isSet = true) (lookup : Lookup) :
    run (singleRequest conn lookup) =
      if conn.isResolveOnly then
        if conn.proxy.isSet then askedHandler
        else { askedHandler with dnsResolves := askedHandler.dnsResolves.insertIfNew 0 (.new conn 0) }.resolve
          (.accepting [conn] lookup) 0
      else
        { askedHandler with connecting := askedHandler.connecting.insertIfNew 0 (.new conn 0 0 0) }.connect
          (.accepting [conn] lookup) .connecting 0 := by
  have hstarting : startedHandler.starting (.accepting [conn] lookup) = [conn] := by
    simp [starting, needed_startedHandler, Environment.accepting, hset]
  have hasking : startedHandler.asking = .onNeedOutgoingConnections 8 := by
    rw [asking, needed_startedHandler]
    rfl
  have henabled : (startedHandler.failed.isEmpty && startedHandler.enabled .requestEvent) = true := rfl
  have hstarted : new.step ⟨.start 8, .accepting [conn] lookup⟩ = startedHandler := rfl
  have hrequest : startedHandler.requestOutgoingInt (.accepting [conn] lookup) =
      if 0 < startedHandler.needed then (startedHandler.starting (.accepting [conn] lookup)).foldl
        (startConnection (.accepting [conn] lookup))
          (startedHandler.callUser (.accepting [conn] lookup) none startedHandler.asking).2 else startedHandler := rfl
  rw [singleRequest, run, List.foldl_cons, hstarted, List.foldl_cons, List.foldl_nil, step, if_pos henabled]
  change startedHandler.requestOutgoingInt (.accepting [conn] lookup) = _
  rw [hrequest, if_pos (needed_startedHandler ▸ Nat.succ_pos 7), hstarting, hasking]
  rfl

/-- The name that is asked for. -/
def CConnection.query (conn : CConnection) (family : ℕ) : NetAction :=
  .getaddrinfo (conn.getHost noNames) (conn.getPort noNames) family

/-- A resolve-only request asks the resolver at once. -/
theorem run_singleRequest_resolveOnly {conn : CConnection} {family : ℕ} (hcan : conn.canResolve = true)
    (hproxy : conn.proxy.isSet = false) (honly : conn.isResolveOnly = true)
    (hfamily : setResolveFamily conn.opts.nFamily = some family) :
    (run (singleRequest conn .later)).trace = askedHandler.trace ++ [.net conn (conn.query family)] := by
  obtain ⟨hset, hdns, -⟩ := (CConnection.canResolve_iff conn).mp hcan
  have hfound : (askedHandler.dnsResolves.insertIfNew 0 (CResolveOnly.new conn 0))[(0 : ConnID)]? =
      some (.new conn 0) := by
    rw [OrderedMap.getElem?_insertIfNew, if_pos rfl]
    rfl
  have hresolve : (CResolveOnly.new conn 0).resolve noNames .later =
      some ⟨{ CResolveOnly.new conn 0 with request := true }, [conn.query family], .waiting⟩ := by
    simp only [CResolveOnly.resolve, CResolveOnly.new, hdns, hfamily, hcan]
    rfl
  rw [run_singleRequest hset, if_pos honly, if_neg (by simp [hproxy])]
  simp only [resolve, runResolve, hfound, Environment.accepting, hresolve]
  rfl

/-- So does any other request that may be resolved. -/
theorem run_singleRequest_resolved {conn : CConnection} {family : ℕ} (hresolves : conn.resolvesToConnect = true)
    (hfamily : setResolveFamily conn.opts.nFamily = some family) :
    run (singleRequest conn .later) = { askedHandler with
      connecting := (askedHandler.connecting.insertIfNew 0 (.new conn 0 0 0)).insert 0
        ⟨.new conn 0 0 0, .dns { CDNSConnection.new conn with request := true }⟩
      trace := askedHandler.trace ++ [.net conn (conn.query family)] } := by
  obtain ⟨⟨honly, hproxy⟩, hcan⟩ : (conn.isResolveOnly = false ∧ conn.proxy.isSet = false) ∧
    conn.canResolve = true := by
    simpa [CConnection.resolvesToConnect] using hresolves
  obtain ⟨hset, hdns, -⟩ := (CConnection.canResolve_iff conn).mp hcan
  have hnew : ConnectionObject.new conn 0 0 0 = ⟨.new conn 0 0 0, .dns (.new conn)⟩ := by
    simp [ConnectionObject.new, hproxy, hdns]
  have hfound : (askedHandler.connecting.insertIfNew 0 (ConnectionObject.new conn 0 0 0))[(0 : ConnID)]? =
      some ⟨.new conn 0 0 0, .dns (.new conn)⟩ := by
    rw [OrderedMap.getElem?_insertIfNew, if_pos rfl, hnew]
    rfl
  have hconnect : (CDNSConnection.new conn).connect noNames conn .later =
      some ⟨{ CDNSConnection.new conn with request := true }, [conn.query family], .waiting⟩ := by
    simp only [CDNSConnection.connect, CDNSConnection.doResolve, CDNSConnection.new, hfamily, hcan]
    rfl
  rw [run_singleRequest hset, if_neg (by simp [honly])]
  simp only [connect, runMethod, objects, hfound, ConnectionObject.connect, ConnectionBase.new,
    Environment.accepting, hconnect]
  rfl

/-- A request that may be connected to through its proxy opens a socket at once. -/
theorem run_singleRequest_proxied {conn : CConnection} (hcan : conn.canConnectProxy = true) :
    (run (singleRequest conn .later)).trace =
      askedHandler.trace ++ [.net conn (.socketConnect (connectAddr conn.proxy.toCConnectionBase))] := by
  obtain ⟨hset, hproxy, honly⟩ := CConnection.canConnectProxy_spec hcan
  have hnew : ConnectionObject.new conn 0 0 0 = ⟨.new conn 0 0 0, .proxied (.new conn)⟩ := by
    simp [ConnectionObject.new, hproxy]
  have hfound : (askedHandler.connecting.insertIfNew 0 (ConnectionObject.new conn 0 0 0))[(0 : ConnID)]? =
      some ⟨.new conn 0 0 0, .proxied (.new conn)⟩ := by
    rw [OrderedMap.getElem?_insertIfNew, if_pos rfl, hnew]
    rfl
  obtain ⟨bev, hbev⟩ : ∃ bev, bareConnect none (connectAddr conn.proxy.toCConnectionBase) conn.opts.nConnTimeout =
      some bev := by simp [bareConnect, connectAddr_isEmpty]
  have hconnect : (CProxyConn.new conn).connect conn = some ⟨{ CProxyConn.new conn with bareBev := some bev },
      [.socketConnect (connectAddr conn.proxy.toCConnectionBase)], .waiting⟩ := by
    simp [CProxyConn.connect, CProxyConn.new, hset, hproxy, hcan, hbev]
  rw [run_singleRequest hset, if_neg (by simp [honly])]
  simp only [connect, runMethod, objects, hfound, ConnectionObject.connect, ConnectionBase.new,
    Environment.accepting, hconnect]
  rfl

end LibBtcNet
