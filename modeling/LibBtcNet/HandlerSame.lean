import LibBtcNet.HandlerFrame

/-!
# Handlers with the same entries

The maps of a handler are trees, and the shape of a tree depends on the order in which it was filled. Two
handlers are the same when their maps have the same entries and everything else is equal. Whatever
happens to handlers that are the same leaves them the same.
-/

namespace LibBtcNet

namespace CConnectionHandlerInt

/-- A handler without its maps. -/
def bare (h : CConnectionHandlerInt) : CConnectionHandlerInt :=
  { h with connected := ∅, connecting := ∅, binds := ∅, dnsResolves := ∅ }

/-- The maps have the same entries, and everything else is equal. -/
structure Same (h h' : CConnectionHandlerInt) : Prop where
  bare : h'.bare = h.bare
  connected (k : ConnID) : h'.connected[k]? = h.connected[k]?
  connecting (k : ConnID) : h'.connecting[k]? = h.connecting[k]?
  binds (k : ConnID) : h'.binds[k]? = h.binds[k]?
  dnsResolves (k : ConnID) : h'.dnsResolves[k]? = h.dnsResolves[k]?

namespace Same

variable {h h' h'' : CConnectionHandlerInt}

/-- A handler is the same as itself. -/
theorem refl (h : CConnectionHandlerInt) : Same h h :=
  ⟨rfl, fun _ => rfl, fun _ => rfl, fun _ => rfl, fun _ => rfl⟩

/-- Two handlers that are the same as a third. -/
theorem trans (first : Same h h') (second : Same h' h'') : Same h h'' where
  bare := second.bare.trans first.bare
  connected k := (second.connected k).trans (first.connected k)
  connecting k := (second.connecting k).trans (first.connecting k)
  binds k := (second.binds k).trans (first.binds k)
  dnsResolves k := (second.dnsResolves k).trans (first.dnsResolves k)

/-- The other way round. -/
theorem symm (same : Same h h') : Same h' h where
  bare := same.bare.symm
  connected k := (same.connected k).symm
  connecting k := (same.connecting k).symm
  binds k := (same.binds k).symm
  dnsResolves k := (same.dnsResolves k).symm

/-- What does not look at the maps is the same. -/
theorem field {α : Type} (same : Same h h') (f : CConnectionHandlerInt → α) (hf : ∀ h, f h = f h.bare) :
    f h' = f h := by
  rw [hf h', hf h, same.bare]

section Fields

variable (same : Same h h')

include same

theorem trace : h'.trace = h.trace := same.field (·.trace) fun _ => rfl

theorem failed : h'.failed = h.failed := same.field (·.failed) fun _ => rfl

theorem isShutdown : h'.isShutdown = h.isShutdown := same.field (·.isShutdown) fun _ => rfl

theorem eventBase : h'.eventBase = h.eventBase := same.field (·.eventBase) fun _ => rfl

theorem connectionIndex : h'.connectionIndex = h.connectionIndex := same.field (·.connectionIndex) fun _ => rfl

theorem shutdownEvent : h'.shutdownEvent = h.shutdownEvent := same.field (·.shutdownEvent) fun _ => rfl

/-- The objects of a place. -/
theorem objects (place : Place) (k : ConnID) : (h'.objects place)[k]? = (h.objects place)[k]? := by
  cases place with
  | connecting => exact same.connecting k
  | connected => exact same.connected k

/-- A change that touches no map. -/
theorem map (f : CConnectionHandlerInt → CConnectionHandlerInt) (hbare : ∀ h, (f h).bare = f h.bare)
    (hconnected : ∀ h, (f h).connected = h.connected) (hconnecting : ∀ h, (f h).connecting = h.connecting)
    (hbinds : ∀ h, (f h).binds = h.binds) (hdnsResolves : ∀ h, (f h).dnsResolves = h.dnsResolves) :
      Same (f h) (f h') where
  bare := by rw [hbare, hbare, same.bare]
  connected k := by rw [hconnected, hconnected, same.connected k]
  connecting k := by rw [hconnecting, hconnecting, same.connecting k]
  binds k := by rw [hbinds, hbinds, same.binds k]
  dnsResolves k := by rw [hdnsResolves, hdnsResolves, same.dnsResolves k]

/-- Something happens. -/
theorem record (items : List TraceItem) : Same (h.record items) (h'.record items) :=
  same.map (·.record items) (fun _ => rfl) (fun _ => rfl) (fun _ => rfl) (fun _ => rfl) fun _ => rfl

/-- An assertion fails. -/
theorem fail (assertion : Assertion) : Same (h.fail assertion) (h'.fail assertion) :=
  same.map (·.fail assertion) (fun _ => rfl) (fun _ => rfl) (fun _ => rfl) (fun _ => rfl) fun _ => rfl

/-- An assertion. -/
theorem check (condition : Bool) (assertion : Assertion) :
    Same (h.check condition assertion) (h'.check condition assertion) := by
  cases condition with
  | true => exact same
  | false => exact same.fail assertion

/-- A counter changes. -/
theorem count (outgoing : Bool) (change : ℤ) : Same (h.count outgoing change) (h'.count outgoing change) := by
  cases outgoing <;>
    exact same.map (·.count _ change) (fun _ => rfl) (fun _ => rfl) (fun _ => rfl) (fun _ => rfl) fun _ => rfl

/-- The established connections change. -/
theorem setConnected {m m' : ConnMap ConnectionObject} (hm : ∀ k : ConnID, m'[k]? = m[k]?) :
    Same { h with connected := m } { h' with connected := m' } where
  bare := same.bare
  connected := hm
  connecting := same.connecting
  binds := same.binds
  dnsResolves := same.dnsResolves

/-- Those that are not established change. -/
theorem setConnecting {m m' : ConnMap ConnectionObject} (hm : ∀ k : ConnID, m'[k]? = m[k]?) :
    Same { h with connecting := m } { h' with connecting := m' } where
  bare := same.bare
  connected := same.connected
  connecting := hm
  binds := same.binds
  dnsResolves := same.dnsResolves

/-- The listeners change. -/
theorem setBinds {m m' : ConnMap CConnection} (hm : ∀ k : ConnID, m'[k]? = m[k]?) :
    Same { h with binds := m } { h' with binds := m' } where
  bare := same.bare
  connected := same.connected
  connecting := same.connecting
  binds := hm
  dnsResolves := same.dnsResolves

/-- The resolve-only requests change. -/
theorem setDnsResolves {m m' : ConnMap CResolveOnly} (hm : ∀ k : ConnID, m'[k]? = m[k]?) :
    Same { h with dnsResolves := m } { h' with dnsResolves := m' } where
  bare := same.bare
  connected := same.connected
  connecting := same.connecting
  binds := same.binds
  dnsResolves := hm

/-- A connection of a map changes. -/
theorem put (place : Place) (k : ConnID) (obj : ConnectionObject) :
    Same (h.put place k obj) (h'.put place k obj) := by
  cases place with
  | connecting => exact same.setConnecting (OrderedMap.insert_congr same.connecting k obj)
  | connected => exact same.setConnected (OrderedMap.insert_congr same.connected k obj)

/-- An id is issued. -/
theorem issue : h'.getNextConnectionIndex.1 = h.getNextConnectionIndex.1 ∧
    Same h.getNextConnectionIndex.2 h'.getNextConnectionIndex.2 := by
  have hcommutes (h : CConnectionHandlerInt) :
      h.bare.getNextConnectionIndex = (h.getNextConnectionIndex.1, h.getNextConnectionIndex.2.bare) := by
    by_cases hpos : 0 ≤ h.connectionIndex <;> by_cases hmax : h.connectionIndex = 9223372036854775807 <;>
      simp [getNextConnectionIndex, CConnectionHandlerInt.check, CConnectionHandlerInt.bare,
        CConnectionHandlerInt.record, CConnectionHandlerInt.fail, hpos, hmax]
  obtain ⟨hsame, hbare⟩ := Prod.mk.inj ((hcommutes h').symm.trans (same.bare ▸ hcommutes h))
  obtain ⟨id, index, failures, heq, -, -⟩ := getNextConnectionIndex_eq h
  obtain ⟨id', index', failures', heq', -, -⟩ := getNextConnectionIndex_eq h'
  refine ⟨hsame, hbare, ?_, ?_, ?_, ?_⟩ <;> rw [heq, heq']
  · exact same.connected
  · exact same.connecting
  · exact same.binds
  · exact same.dnsResolves

/-- A method that looks an established connection up. -/
theorem connectionCall (id : ConnID) (c : ConnCall) : Same (h.connectionCall id c) (h'.connectionCall id c) := by
  unfold CConnectionHandlerInt.connectionCall
  rw [same.connected id]
  split
  · split
    · exact same
    · split
      · exact same.fail _
      · exact same.put _ _ _
  · exact same

/-- A call of the user. -/
theorem apiCall (c : ApiCall) : Same (h.apiCall c) (h'.apiCall c) := by
  cases c with
  | bind conn listens =>
    obtain ⟨hid, issued⟩ := same.issue
    change Same (h.bind conn listens) (h'.bind conn listens)
    unfold CConnectionHandlerInt.bind
    simp only [hid, issued.eventBase]
    have checked := issued.check h.getNextConnectionIndex.2.eventBase .bind
    cases listens with
    | true => exact checked.setBinds (OrderedMap.insertIfNew_congr checked.binds _ conn)
    | false =>
      have failed := checked.record [.callback (.onBindFailure conn) false none]
      exact failed.setBinds (OrderedMap.erase_congr failed.binds _)
  | shutdown =>
    change Same h.shutdown h'.shutdown
    unfold CConnectionHandlerInt.shutdown
    rw [same.shutdownEvent]
    split
    · exact same.fail _
    · exact same.map (fun h => { h with shutdownEvent := some true }) (fun _ => rfl) (fun _ => rfl) (fun _ => rfl)
        (fun _ => rfl) fun _ => rfl
  | closeConnection id immediately => exact same.connectionCall id _
  | send id size => exact same.connectionCall id _
  | setRateLimit id => exact same.connectionCall id _
  | pauseRecv id => exact same.connectionCall id _
  | unpauseRecv id => exact same.connectionCall id _
  | resetPingTimeout id seconds => exact same.connectionCall id (.resetPingTimeout seconds)

/-- Call after call. -/
theorem apiCalls (calls : List ApiCall) :
    Same (calls.foldl CConnectionHandlerInt.apiCall h) (calls.foldl CConnectionHandlerInt.apiCall h') := by
  induction calls generalizing h h' with
  | nil => exact same
  | cons c calls ih => exact ih (same.apiCall c)

/-- A callback. -/
theorem callUser (env : Environment) (about : Option CConnection) (c : Callback) :
    (h'.callUser env about c).1 = (h.callUser env about c).1 ∧
      Same (h.callUser env about c).2 (h'.callUser env about c).2 := by
  have hanswer : (h'.callUser env about c).1 = (h.callUser env about c).1 := by
    change env.answer h'.trace c = env.answer h.trace c
    rw [same.trace]
  refine ⟨hanswer, ?_⟩
  have called := same.record [.callback c (env.answer h.trace c) about]
  unfold CConnectionHandlerInt.callUser
  simp only [same.trace, called.trace]
  exact called.apiCalls _

/-- A connection is kept for another attempt. -/
theorem retryConnecting (ptr : ConnectionObject) : Same (h.retryConnecting ptr) (h'.retryConnecting ptr) := by
  obtain ⟨hid, issued⟩ := same.issue
  unfold CConnectionHandlerInt.retryConnecting
  simp only [hid]
  exact issued.setConnecting (OrderedMap.modify_congr (OrderedMap.insertIfNew_congr issued.connecting _ ptr) _ _)

/-- A connection leaves the map of those that are not established. -/
theorem takeConnecting (id : ConnID) :
    Same { h with connecting := h.connecting.erase id } { h' with connecting := h'.connecting.erase id } :=
  same.setConnecting (OrderedMap.erase_congr same.connecting id)

/-- `OnConnectionFailure`. -/
theorem onConnectionFailure (env : Environment) (id : ConnID) (about : CConnection) (type : ConnectionFailureType)
    (failed : CConnection) (retry : Bool) :
    Same (h.onConnectionFailure env id about type failed retry)
      (h'.onConnectionFailure env id about type failed retry) := by
  have hretry : (retry && !h'.isShutdown) = (retry && !h.isShutdown) := by rw [same.isShutdown]
  unfold CConnectionHandlerInt.onConnectionFailure
  rw [same.connecting id]
  split
  · exact same.fail _
  · obtain ⟨hret, called⟩ :=
      (same.takeConnecting id).callUser env about (failureCallback type failed (retry && !h.isShutdown))
    dsimp only
    rw [hretry, hret]
    split
    · exact called.retryConnecting _
    · exact called

/-- `OnIncomingConnected`. -/
theorem onIncomingConnected (env : Environment) (id : ConnID) (conn resolved : CConnection) :
    Same (h.onIncomingConnected env id conn resolved) (h'.onIncomingConnected env id conn resolved) := by
  unfold CConnectionHandlerInt.onIncomingConnected
  rw [same.connecting id]
  split
  · exact same.fail _
  · next moved hmoved =>
    obtain ⟨hret, called⟩ := (same.takeConnecting id).callUser env conn (.onIncomingConnection id conn resolved)
    dsimp only
    rw [hret]
    split
    · have filed := called.setConnected (OrderedMap.insertIfNew_congr called.connected id moved.enable)
      exact filed.map (fun h => { h with incomingConnCount := h.incomingConnCount + 1 }) (fun _ => rfl) (fun _ => rfl)
        (fun _ => rfl) (fun _ => rfl) fun _ => rfl
    · exact called

/-- `OnOutgoingConnected`. -/
theorem onOutgoingConnected (env : Environment) (id : ConnID) (conn resolved : CConnection) :
    Same (h.onOutgoingConnected env id conn resolved) (h'.onOutgoingConnected env id conn resolved) := by
  unfold CConnectionHandlerInt.onOutgoingConnected
  rw [same.connecting id]
  split
  · exact same.fail _
  · next moved hmoved =>
    obtain ⟨hret, called⟩ := (same.takeConnecting id).callUser env conn (.onOutgoingConnection id conn resolved)
    dsimp only
    rw [hret]
    split
    · have filed := called.setConnected (OrderedMap.insertIfNew_congr called.connected id moved.enable)
      have counted := filed.map (fun h => { h with outgoingConnCount := h.outgoingConnCount + 1 }) (fun _ => rfl)
        (fun _ => rfl) (fun _ => rfl) (fun _ => rfl) fun _ => rfl
      exact (counted.callUser env moved.base.conn (.onReadyForFirstSend id)).2
    · exact called

/-- `OnDisconnected`. -/
theorem onDisconnected (env : Environment) (id : ConnID) (reconnect : Bool) :
    Same (h.onDisconnected env id reconnect) (h'.onDisconnected env id reconnect) := by
  have hreconnect : (reconnect && !h'.isShutdown) = (reconnect && !h.isShutdown) := by rw [same.isShutdown]
  unfold CConnectionHandlerInt.onDisconnected
  rw [same.connected id]
  dsimp only
  split
  · exact same.fail _
  · next moved hmoved =>
    have erased := (same.setConnected (OrderedMap.erase_congr same.connected id)).count moved.isOutgoing (-1)
    obtain ⟨hret, called⟩ := erased.callUser env moved.base.conn (.onDisconnected id (reconnect && !h.isShutdown))
    rw [hreconnect, hret]
    split
    · exact called.retryConnecting _
    · exact called

/-- The report that ends a method. -/
theorem onReport (env : Environment) (r : ConnResult ConnectionObject) :
    Same (h.onReport env r) (h'.onReport env r) := by
  unfold CConnectionHandlerInt.onReport
  dsimp only
  split
  · exact same
  · exact same.onConnectionFailure env _ _ _ _ _
  · exact same.onOutgoingConnected env _ _ _
  · exact same.onIncomingConnected env _ _ _

/-- A method of a connection runs. -/
theorem runMethod (env : Environment) (place : Place) (k : ConnID)
    (method : ConnectionObject → Option (ConnResult ConnectionObject)) :
    Same (h.runMethod env place k method) (h'.runMethod env place k method) := by
  unfold CConnectionHandlerInt.runMethod
  rw [same.objects place k]
  split
  · exact same
  · split
    · exact same.fail _
    · exact ((same.put place k _).record _).onReport env _

/-- `Connect`. -/
theorem connect (env : Environment) (place : Place) (k : ConnID) :
    Same (h.connect env place k) (h'.connect env place k) := by
  unfold CConnectionHandlerInt.connect
  rw [same.trace]
  exact same.runMethod env place k _

/-- `OnIncomingConnection`. -/
theorem onIncomingConnection (env : Environment) (bind : CConnection) (addr : Bytes) :
    Same (h.onIncomingConnection env bind addr) (h'.onIncomingConnection env bind addr) := by
  obtain ⟨hid, issued⟩ := same.issue
  unfold CConnectionHandlerInt.onIncomingConnection
  cases hissue : h.getNextConnectionIndex with | mk id next =>
  cases hissue' : h'.getNextConnectionIndex with | mk id' next' =>
  rw [hissue, hissue'] at hid issued
  obtain rfl : id' = id := hid
  change Same next next' at issued
  have checked := issued.check (decide (addr.length ≤ sockaddrStorageSize)) .incomingConn
  obtain ⟨answer, calls, offered, lookup, uninitialized, names⟩ := env
  have hfound := congrArg uninitialized checked.trace
  simp only [hfound]
  exact (checked.setConnecting (OrderedMap.insertIfNew_congr checked.connecting _ _)).connect _ _ _

/-- `OnResolveComplete`. -/
theorem onResolveComplete (env : Environment) (id : ConnID) (conn : CConnection) (resolved : List CConnection) :
    Same (h.onResolveComplete env id conn resolved) (h'.onResolveComplete env id conn resolved) := by
  have called := (same.callUser env conn (.onDnsResponse conn resolved)).2
  exact called.setDnsResolves (OrderedMap.erase_congr called.dnsResolves id)

/-- `OnResolveFailure`. -/
theorem onResolveFailure (env : Environment) (id : ConnID) (conn : CConnection) (retry : Bool) :
    Same (h.onResolveFailure env id conn retry) (h'.onResolveFailure env id conn retry) := by
  have hretry : (retry && !h'.isShutdown) = (retry && !h.isShutdown) := by rw [same.isShutdown]
  obtain ⟨hret, called⟩ := same.callUser env conn (.onDnsFailure conn (retry && !h.isShutdown))
  unfold CConnectionHandlerInt.onResolveFailure
  dsimp only
  rw [hretry, hret, called.dnsResolves id]
  split
  · exact called.fail _
  · split
    · exact called.setDnsResolves (OrderedMap.insert_congr called.dnsResolves id _)
    · exact called.setDnsResolves (OrderedMap.erase_congr called.dnsResolves id)

/-- A method of a resolve-only request runs. -/
theorem runResolve (env : Environment) (k : ConnID)
    (method : CResolveOnly → Option (MethodResult CResolveOnly ResolveReport)) :
    Same (h.runResolve env k method) (h'.runResolve env k method) := by
  unfold CConnectionHandlerInt.runResolve
  rw [same.dnsResolves k]
  split
  · exact same
  · split
    · exact same.fail _
    · next c hc _ r hr =>
      have filed := (same.setDnsResolves (OrderedMap.insert_congr same.dnsResolves k r.obj)).record
        (r.net.map (.net c.conn))
      dsimp only
      split
      · exact filed
      · exact filed.onResolveFailure env _ _ _
      · exact filed.onResolveComplete env _ _ _

/-- `Resolve`. -/
theorem resolve (env : Environment) (k : ConnID) : Same (h.resolve env k) (h'.resolve env k) := by
  unfold CConnectionHandlerInt.resolve
  rw [same.trace]
  exact same.runResolve env k _

/-- `StartConnection`. -/
theorem startConnection (env : Environment) (conn : CConnection) :
    Same (h.startConnection env conn) (h'.startConnection env conn) := by
  obtain ⟨hid, issued⟩ := same.issue
  unfold CConnectionHandlerInt.startConnection
  cases hissue : h.getNextConnectionIndex with | mk id next =>
  cases hissue' : h'.getNextConnectionIndex with | mk id' next' =>
  rw [hissue, hissue'] at hid issued
  obtain rfl : id' = id := hid
  change Same next next' at issued
  obtain ⟨answer, calls, offered, lookup, uninitialized, names⟩ := env
  have hfound := congrArg uninitialized issued.trace
  simp only [hfound]
  split
  · split
    · exact issued
    · exact (issued.setDnsResolves (OrderedMap.insertIfNew_congr issued.dnsResolves _ _)).resolve _ _
  · exact (issued.setConnecting (OrderedMap.insertIfNew_congr issued.connecting _ _)).connect _ _ _

/-- `RequestOutgoingInt`. -/
theorem requestOutgoingInt (env : Environment) : Same (h.requestOutgoingInt env) (h'.requestOutgoingInt env) := by
  have hneed : min gMaxSimultaneousConnecting (h'.outgoingConnLimit.toInt - h'.outgoingConnCount -
      sizeToInt h'.connecting.size) =
        min gMaxSimultaneousConnecting (h.outgoingConnLimit.toInt - h.outgoingConnCount -
      sizeToInt h.connecting.size) := by
    rw [OrderedMap.size_congr same.connecting, same.field (·.outgoingConnLimit) fun _ => rfl,
      same.field (·.outgoingConnCount) fun _ => rfl]
  have hoffered := congrArg env.offered same.trace
  have hstarts (conns : List CConnection) {h h' : CConnectionHandlerInt} (same : Same h h') :
      Same (conns.foldl (CConnectionHandlerInt.startConnection env) h)
        (conns.foldl (CConnectionHandlerInt.startConnection env) h') := by
    induction conns generalizing h h' with
    | nil => exact same
    | cons conn conns ih => exact ih (same.startConnection env conn)
  unfold CConnectionHandlerInt.requestOutgoingInt
  dsimp only
  rw [hneed, hoffered]
  split
  · exact hstarts _ (same.callUser env none _).2
  · exact same

/-- One effect of a connection takes place. -/
theorem performEffect (env : Environment) (place : Place) (k : ConnID) (effect : ConnEffect) :
    Same (h.performEffect env place k effect) (h'.performEffect env place k effect) := by
  unfold CConnectionHandlerInt.performEffect
  rw [same.objects place k]
  split
  · exact same
  · split
    · exact (same.put place k _).onDisconnected env _ _
    · split
      · exact same
      · exact (same.callUser env _ _).2

/-- Effect after effect. -/
theorem performEffects (env : Environment) (place : Place) (k : ConnID) (effects : List ConnEffect) :
    Same (effects.foldl (CConnectionHandlerInt.performEffect env place k) h)
      (effects.foldl (CConnectionHandlerInt.performEffect env place k) h') := by
  induction effects generalizing h h' with
  | nil => exact same
  | cons effect effects ih => exact ih (same.performEffect env place k effect)

/-- An event comes to a connection. -/
theorem connectionEvent (env : Environment) (place : Place) (k : ConnID) (e : ConnEvent) :
    Same (h.connectionEvent env place k e) (h'.connectionEvent env place k e) := by
  unfold CConnectionHandlerInt.connectionEvent
  rw [same.objects place k]
  split
  · exact same
  · split
    · split
      · exact same.fail _
      · exact (same.put place k _).performEffects env place k _
    · exact same

/-- The retry timer of a connection runs out. -/
theorem reconnectFunc (env : Environment) (place : Place) (k : ConnID) :
    Same (h.reconnectFunc env place k) (h'.reconnectFunc env place k) := by
  unfold CConnectionHandlerInt.reconnectFunc
  rw [same.objects place k]
  split
  · exact same
  · split
    · exact (same.put place k _).connect env place k
    · exact same

/-- The retry event of a resolve-only request runs. -/
theorem retryEvent (env : Environment) (k : ConnID) : Same (h.retryEvent env k) (h'.retryEvent env k) := by
  unfold CConnectionHandlerInt.retryEvent
  rw [same.dnsResolves k]
  split
  · exact same
  · split
    · exact (same.setDnsResolves (OrderedMap.insert_congr same.dnsResolves k _)).resolve env k
    · exact same

/-- `accept_conn`. -/
theorem acceptConn (env : Environment) (k : ConnID) (addr : Bytes) :
    Same (h.acceptConn env k addr) (h'.acceptConn env k addr) := by
  unfold CConnectionHandlerInt.acceptConn
  rw [same.binds k]
  split
  · exact same
  · exact same.onIncomingConnection env _ addr

/-- `Start`. -/
theorem start (env : Environment) (outgoingLimit : Int32) :
    Same (h.start env outgoingLimit) (h'.start env outgoingLimit) := by
  have hstarts : (h'.outgoingConnCount ≠ 0 ∨ h'.incomingConnCount ≠ 0 ∨ h'.eventBase ∨ h'.dnsBase ∨ h'.requestEvent ∨
      h'.shutdownEvent.isSome) = (h.outgoingConnCount ≠ 0 ∨ h.incomingConnCount ≠ 0 ∨ h.eventBase ∨ h.dnsBase ∨
      h.requestEvent ∨ h.shutdownEvent.isSome) := by
    rw [same.field (·.outgoingConnCount) fun _ => rfl, same.field (·.incomingConnCount) fun _ => rfl, same.eventBase,
      same.field (·.dnsBase) fun _ => rfl, same.field (·.requestEvent) fun _ => rfl, same.shutdownEvent]
  unfold CConnectionHandlerInt.start
  by_cases hstarted : h.outgoingConnCount ≠ 0 ∨ h.incomingConnCount ≠ 0 ∨ h.eventBase ∨ h.dnsBase ∨ h.requestEvent ∨
      h.shutdownEvent.isSome
  · rw [if_pos hstarted, if_pos (hstarts ▸ hstarted)]
    exact same.fail _
  · rw [if_neg hstarted, if_neg (hstarts ▸ hstarted)]
    have started := same.map (fun h => { h with
      isShutdown := false
      outgoingConnLimit := outgoingLimit
      eventBase := true
      dnsBase := true
      requestEvent := true
      shutdownEvent := some false }) (fun _ => rfl) (fun _ => rfl) (fun _ => rfl) (fun _ => rfl) fun _ => rfl
    exact (started.callUser env none .onStartup).2

/-- `ShutdownInt`. -/
theorem shutdownInt (env : Environment) : Same (h.shutdownInt env) (h'.shutdownInt env) := by
  have hconnected (entries : List (ConnID × ConnectionObject)) {h h' : CConnectionHandlerInt} (same : Same h h') :
      Same (entries.foldl (shutdownConnected env) h) (entries.foldl (shutdownConnected env) h') := by
    induction entries generalizing h h' with
    | nil => exact same
    | cons entry entries ih => exact ih ((same.count _ _).callUser env _ _).2
  have hconnecting (entries : List (ConnID × ConnectionObject)) {h h' : CConnectionHandlerInt} (same : Same h h') :
      Same (entries.foldl (shutdownConnecting env) h) (entries.foldl (shutdownConnecting env) h') := by
    induction entries generalizing h h' with
    | nil => exact same
    | cons entry entries ih =>
      refine ih ?_
      unfold shutdownConnecting
      dsimp only
      split
      · exact (same.callUser env _ _).2.takeConnecting entry.1
      · exact same.takeConnecting entry.1
  unfold CConnectionHandlerInt.shutdownInt
  rw [same.isShutdown]
  split
  · exact same
  · have cleared : Same { h with connected := ∅, binds := ∅ } { h' with connected := ∅, binds := ∅ } :=
      ⟨same.bare, fun _ => rfl, same.connecting, fun _ => rfl, same.dnsResolves⟩
    have emptied := cleared.map (fun h => { h with isShutdown := true }) (fun _ => rfl) (fun _ => rfl) (fun _ => rfl)
      (fun _ => rfl) fun _ => rfl
    have told := hconnected h.connected.toList emptied
    have dropped := hconnecting (h.connected.toList.foldl (shutdownConnected env)
      { h with connected := ∅, binds := ∅, isShutdown := true }).connecting.toList told
    have done := (dropped.setDnsResolves (fun _ => @rfl _ ((∅ : ConnMap CResolveOnly)[_]?))).map
      (fun h => { h with dnsBase := false, requestEvent := false, shutdownEvent := none })
      (fun _ => rfl) (fun _ => rfl) (fun _ => rfl) (fun _ => rfl) fun _ => rfl
    have hempty : ∀ h h' : CConnectionHandlerInt, Same h h' →
        (h'.connecting.isEmpty && h'.connected.isEmpty && h'.dnsResolves.isEmpty && h'.outgoingConnCount == 0 &&
          h'.incomingConnCount == 0) = (h.connecting.isEmpty && h.connected.isEmpty && h.dnsResolves.isEmpty &&
            h.outgoingConnCount == 0 && h.incomingConnCount == 0) := by
      intro h h' same
      rw [OrderedMap.isEmpty_congr same.connecting, OrderedMap.isEmpty_congr same.connected,
        OrderedMap.isEmpty_congr same.dnsResolves, same.field (·.outgoingConnCount) fun _ => rfl,
        same.field (·.incomingConnCount) fun _ => rfl]
    dsimp only
    rw [OrderedMap.toList_congr same.connected, OrderedMap.toList_congr told.connecting]
    exact (hempty _ _ done) ▸ done.check _ _

/-- Whatever the handler does at an event. -/
theorem react (env : Environment) (event : HandlerEvent) : Same (h.react env event) (h'.react env event) := by
  cases event with
  | start outgoingLimit => exact same.start env outgoingLimit
  | call c => exact same.apiCall c
  | pumpReturn =>
    exact (same.map (fun h => { h with eventBase := false }) (fun _ => rfl) (fun _ => rfl) (fun _ => rfl)
      (fun _ => rfl)
      fun _ => rfl).record _
  | requestEvent => exact same.requestOutgoingInt env
  | shutdownEvent =>
    exact (same.map (fun h => { h with shutdownEvent := some false }) (fun _ => rfl) (fun _ => rfl) (fun _ => rfl)
      (fun _ => rfl) fun _ => rfl).shutdownInt env
  | reconnectFunc place k => exact same.reconnectFunc env place k
  | connEvent place k event => exact same.runMethod env place k _
  | dnsCallback place k result => exact same.runMethod env place k _
  | handshake place k s => exact same.runMethod env place k _
  | connection place k e => exact same.connectionEvent env place k e
  | resolveOnly k result => exact same.runResolve env k fun c => some (c.dnsCallback result)
  | retryEvent k => exact same.retryEvent env k
  | acceptConn k addr => exact same.acceptConn env k addr

/-- An event can come to both or to neither. -/
theorem enabled (event : HandlerEvent) : h'.enabled event = h.enabled event :=
  same.field (fun h => h.enabled event) fun _ => by cases event <;> rfl

end Fields

end Same

end CConnectionHandlerInt

end LibBtcNet
