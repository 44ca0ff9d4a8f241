import LibBtcNet.HandlerStages

/-!
# The objects of the handler

What holds of the connections and requests in the maps at every stage: they have the id they are
filed under and the class that suits their connection, those not established are outgoing, stopped
and without a bufferevent, and when the handler does not run there are none at all.
-/

namespace LibBtcNet

open CConnectionHandlerInt

/-- A connection that is not established. -/
structure ConnectionObject.Waiting (P : CConnection → Prop) (k : ConnID) (obj : ConnectionObject) : Prop where
  id : obj.base.id = k
  outgoing : obj.isOutgoing = true
  suits : obj.kind.Suits obj.base.conn
  supplied : P obj.base.conn
  stopped : obj.base.Stopped
  bev : obj.base.bev = none

/-- A connection that is established, or about to be. -/
structure ConnectionObject.Ready (P : CConnection → Prop) (k : ConnID) (obj : ConnectionObject) : Prop where
  id : obj.base.id = k
  suits : obj.kind.Suits obj.base.conn
  supplied : obj.isOutgoing = true → P obj.base.conn
  kept : obj.isOutgoing = false → obj.base.reconnectFunc = false

/-- A connection that is going to be tried again. -/
structure ConnectionObject.Retryable (P : CConnection → Prop) (obj : ConnectionObject) : Prop where
  outgoing : obj.isOutgoing = true
  suits : obj.kind.Suits obj.base.conn
  supplied : P obj.base.conn
  stopped : obj.base.Stopped

/-- A resolve-only request under its id. -/
structure CResolveOnly.Filed (P : CConnection → Prop) (k : ConnID) (c : CResolveOnly) : Prop where
  id : c.id = k
  supplied : P c.conn
  proxy : c.conn.proxy.isSet = false

/-- There is no connection and no request. -/
structure CConnectionHandlerInt.Idle (h : CConnectionHandlerInt) : Prop where
  connecting (k : ConnID) : h.connecting[k]? = none
  connected (k : ConnID) : h.connected[k]? = none
  dnsResolves (k : ConnID) : h.dnsResolves[k]? = none

/-- What is in hand fits the state of the handler. -/
def Hand.Fits (P : CConnection → Prop) (h : CConnectionHandlerInt) : Hand → Prop
  | .idle => h.Running ∨ h.Idle
  | .accepted k obj => h.Running ∧ obj.Ready P k
  | .retrying obj => h.Running ∧ obj.Retryable P
  | .closing _ => h.Running
  | .disconnecting entries =>
    (∀ k : ConnID, h.connected[k]? = none) ∧ ∀ entry ∈ entries, entry.2.Ready P entry.1
  | .dropping entries =>
    (∀ k : ConnID, h.connected[k]? = none) ∧
      (∀ k : ConnID, h.connecting[k]? ≠ none → k ∈ entries.map Prod.fst) ∧
      ∀ entry ∈ entries, entry.2.Waiting P entry.1

/-- The objects of a stage. -/
structure Objects (P : CConnection → Prop) (s : Stage) : Prop where
  connecting : OrderedMap.All (ConnectionObject.Waiting P) s.handler.connecting
  connected : OrderedMap.All (ConnectionObject.Ready P) s.handler.connected
  dnsResolves : OrderedMap.All (CResolveOnly.Filed P) s.handler.dnsResolves
  hand : s.hand.Fits P s.handler
  pending : s.pending ≠ [] → s.handler.Running
  numbered : Numbered s.handler.trace s.handler.connectionIndex

variable {P : CConnection → Prop} {L : Int32 → Prop}

namespace ConnectionObject

/-- A connection that waits is ready under its id. -/
theorem Waiting.ready {k : ConnID} {obj : ConnectionObject} (waiting : obj.Waiting P k) : obj.Ready P k :=
  ⟨waiting.id, waiting.suits, fun _ => waiting.supplied, fun h => by simp [waiting.outgoing] at h⟩

/-- It may be tried again. -/
theorem Waiting.retryable {k : ConnID} {obj : ConnectionObject} (waiting : obj.Waiting P k) : obj.Retryable P :=
  ⟨waiting.outgoing, waiting.suits, waiting.supplied, waiting.stopped⟩

/-- An established connection may be tried again once it is stopped. -/
theorem Ready.retryable {k : ConnID} {obj : ConnectionObject} (ready : obj.Ready P k)
    (houtgoing : obj.isOutgoing = true) (hstopped : obj.base.Stopped) : obj.Retryable P :=
  ⟨houtgoing, ready.suits, ready.supplied houtgoing, hstopped⟩

/-- The user's calls keep a connection ready. -/
theorem Ready.called {k : ConnID} {obj obj' : ConnectionObject} (ready : obj.Ready P k) (hcalled : obj.Called obj') :
    obj'.Ready P k := by
  constructor
  · exact hcalled.id.trans ready.id
  · rw [hcalled.kind, hcalled.conn]
    exact ready.suits
  · rw [isOutgoing, hcalled.kind, hcalled.conn]
    exact ready.supplied
  · rw [isOutgoing, hcalled.kind, hcalled.reconnectFunc]
    exact ready.kept

/-- So do the events. -/
theorem Ready.changes {k : ConnID} {obj obj' : ConnectionObject} (ready : obj.Ready P k)
    (hchanges : obj.Changes obj') : obj'.Ready P k := by
  constructor
  · exact hchanges.id.trans ready.id
  · rw [hchanges.kind, hchanges.conn]
    exact ready.suits
  · rw [isOutgoing, hchanges.kind, hchanges.conn]
    exact ready.supplied
  · rw [isOutgoing, hchanges.kind]
    intro hincoming
    have hkept := ready.kept hincoming
    cases hflag : obj'.base.reconnectFunc with
    | false => rfl
    | true => rw [hchanges.reconnectFunc hflag] at hkept; contradiction

/-- Enabling a connection keeps it ready. -/
theorem Ready.enable {k : ConnID} {obj : ConnectionObject} (ready : obj.Ready P k) : obj.enable.Ready P k :=
  ⟨ready.id, ready.suits, ready.supplied, ready.kept⟩

/-- A connection tried again waits under its new id. -/
theorem Retryable.retry {obj : ConnectionObject} (retryable : obj.Retryable P) (id : ConnID) :
    (obj.retry id).Waiting P id := by
  refine ⟨rfl, retryable.outgoing, retryable.suits, retryable.supplied, ?_, rfl⟩
  obtain ⟨hdisconnect, hwait, hcheck, hping, hfirst⟩ := retryable.stopped
  exact ⟨hdisconnect, hwait, hcheck, hping, hfirst⟩

/-- A new connection is outgoing. -/
theorem isOutgoing_new (conn : CConnection) (id : ConnID) (bytesRead bytesWritten : ℕ) :
    (new conn id bytesRead bytesWritten).isOutgoing = true := by
  unfold isOutgoing new
  simp only
  split
  · rfl
  · split <;> rfl

/-- A new connection waits. -/
theorem waiting_new {conn : CConnection} (hsupplied : P conn) (hconnects : conn.isResolveOnly = false) (id : ConnID)
    (bytesRead bytesWritten : ℕ) : (new conn id bytesRead bytesWritten).Waiting P id := by
  refine ⟨rfl, isOutgoing_new conn id bytesRead bytesWritten, ?_, hsupplied, ⟨rfl, rfl, rfl, rfl, rfl⟩, rfl⟩
  unfold new
  simp only
  split
  · next hproxy => exact ⟨hproxy, hconnects⟩
  · next hproxy =>
    rw [Bool.not_eq_true] at hproxy
    split
    · next hdns => exact ⟨hproxy, hdns, hconnects, by simp [CDNSConnection.Resolvable, CDNSConnection.new]⟩
    · next hdns => exact ⟨hproxy, Bool.not_eq_true _ ▸ hdns⟩

variable {obj : ConnectionObject} {r : ConnResult ConnectionObject}

/-- A method that takes no bufferevent over leaves the base alone. -/
theorem Works.base_of_waiting (works : obj.Works r) (hreport : r.report = .waiting) : r.obj.base = obj.base := by
  rw [works.base, hreport]

/-- A connection that waited is ready after any method. -/
theorem Works.ready {k : ConnID} (works : obj.Works r) (ready : obj.Ready P k) : r.obj.Ready P k := by
  obtain ⟨hconn, hid, hretry⟩ := works.keeps
  constructor
  · exact hid.trans ready.id
  · rw [hconn]
    exact works.suits ready.suits
  · rw [works.outgoing, hconn]
    exact ready.supplied
  · rw [works.outgoing, hretry]
    exact ready.kept

/-- It waits on after a method that takes no bufferevent over. -/
theorem Works.waiting {k : ConnID} (works : obj.Works r) (waiting : obj.Waiting P k)
    (hbase : r.obj.base = obj.base) : r.obj.Waiting P k := by
  constructor
  · rw [hbase]
    exact waiting.id
  · rw [works.outgoing]
    exact waiting.outgoing
  · rw [hbase]
    exact works.suits waiting.suits
  · rw [hbase]
    exact waiting.supplied
  · rw [hbase]
    exact waiting.stopped
  · rw [hbase]
    exact waiting.bev

end ConnectionObject

/-- The shape of an issued id. -/
theorem issued_shape {h h' : CConnectionHandlerInt} {id : ConnID} (hissue : h.getNextConnectionIndex = (id, h')) :
    ∃ index failures, h' = { h with
        connectionIndex := index
        trace := h.trace ++ [.issued id]
        failed := h.failed ++ failures } ∧
      (∀ assertion ∈ failures, assertion.OfCalls) ∧
      (Numbered h.trace h.connectionIndex → Numbered (h.trace ++ [.issued id]) index) := by
  obtain ⟨id', index, failures, heq, hcalls, hnumbered⟩ := getNextConnectionIndex_eq h
  obtain ⟨rfl, rfl⟩ := Prod.mk.inj (hissue.symm.trans heq)
  exact ⟨index, failures, rfl, hcalls, hnumbered⟩

/-- Callbacks and requests to the network issue no id. -/
theorem issued_net (conn : CConnection) (net : List NetAction) : issued (net.map (.net conn)) = [] := by
  rw [issued, List.filterMap_map, List.filterMap_eq_nil_iff]
  exact fun _ _ => rfl

namespace Objects

variable {h : CConnectionHandlerInt} {hand : Hand} {conns : List CConnection} {place : Place} {k : ConnID}
  {obj ptr : ConnectionObject} {r : ConnResult ConnectionObject}

/-- A connection in a map waits or is ready. -/
theorem ready_of_found (objects : Objects P ⟨h, hand, conns⟩) (hobj : (h.objects place)[k]? = some obj) :
    obj.Ready P k := by
  cases place with
  | connecting => exact (objects.connecting k obj hobj).ready
  | connected => exact objects.connected k obj hobj

/-- The handler runs where there is a connection and nothing in hand. -/
theorem running_of_found (objects : Objects P ⟨h, .idle, conns⟩) (hobj : (h.objects place)[k]? = some obj) :
    h.Running := by
  rcases objects.hand with hrunning | hidle
  · exact hrunning
  · cases place with
    | connecting => exact absurd (hobj.symm.trans (hidle.connecting k)) (by simp)
    | connected => exact absurd (hobj.symm.trans (hidle.connected k)) (by simp)

/-- The object that a report finds under its id: it waits or is the one that reports. -/
theorem taken (objects : Objects P ⟨h, .idle, conns⟩) (working : Working h place k obj r)
    (hptr : (h.worked place k obj r).connecting[k]? = some ptr) :
    OrderedMap.All (ConnectionObject.Waiting P) ((h.worked place k obj r).takeConnecting k).connecting ∧
      OrderedMap.All (ConnectionObject.Ready P) (h.worked place k obj r).connected ∧ ptr.Ready P k ∧
      (r.obj.base = obj.base → ptr.Retryable P) := by
  cases place with
  | connecting =>
    have hobj := objects.connecting k obj working.found
    have hsame : ptr = r.obj := by
      change (h.connecting.insert k r.obj)[k]? = some ptr at hptr
      simpa using hptr.symm
    subst hsame
    refine ⟨(objects.connecting.erase k).congr fun a => ?_, objects.connected, working.works.ready hobj.ready, ?_⟩
    · change ((h.connecting.insert k r.obj).erase k)[a]? = (h.connecting.erase k)[a]?
      by_cases heq : k = a <;> simp [heq]
    · exact fun hbase => (working.works.waiting hobj hbase).retryable
  | connected =>
    have hwaiting := objects.connecting k ptr hptr
    have hobj := working.works.ready (objects.connected k obj working.found)
    exact ⟨objects.connecting.erase k, objects.connected.insert hobj, hwaiting.ready, fun _ => hwaiting.retryable⟩

/-- A report has taken an object, and the user has been called. -/
theorem took (objects : Objects P ⟨h, .idle, conns⟩) (working : Working h place k obj r)
    (hptr : (h.worked place k obj r).connecting[k]? = some ptr) {hand' : Hand} {c : Callback} {ret : Bool}
    {about : Option CConnection}
    (hhand : ∀ h' : CConnectionHandlerInt, h'.Running → ptr.Ready P k → (r.obj.base = obj.base → ptr.Retryable P) →
      hand'.Fits P h') :
    Objects P ⟨((h.worked place k obj r).takeConnecting k).called c ret about, hand', conns⟩ := by
  obtain ⟨hconnecting, hconnected, hready, hretryable⟩ := objects.taken working hptr
  have hrunning := objects.running_of_found working.found
  have hnumbered := (objects.numbered.append (issued_net obj.base.conn r.net)).append
    (rfl : issued [.callback c ret about] = [])
  cases place with
  | connecting =>
    exact ⟨hconnecting, hconnected, objects.dnsResolves, hhand _ hrunning hready hretryable,
      fun _ => hrunning, hnumbered⟩
  | connected =>
    exact ⟨hconnecting, hconnected, objects.dnsResolves, hhand _ hrunning hready hretryable,
      fun _ => hrunning, hnumbered⟩

/-- Nothing happens to the objects. -/
theorem of_same {h' : CConnectionHandlerInt} {hand' : Hand} {rest : List CConnection}
    (objects : Objects P ⟨h, hand, conns⟩)
    (hconnecting : h'.connecting = h.connecting) (hconnected : h'.connected = h.connected)
    (hdns : h'.dnsResolves = h.dnsResolves) (hhand : hand'.Fits P h') (hpending : rest ≠ [] → h'.Running)
    (hnumbered : Numbered h'.trace h'.connectionIndex) : Objects P ⟨h', hand', rest⟩ :=
  ⟨hconnecting ▸ objects.connecting, hconnected ▸ objects.connected, hdns ▸ objects.dnsResolves, hhand, hpending,
    hnumbered⟩

end Objects

/-- What is in hand depends on the maps and the state of the handler. -/
theorem Hand.Fits.congr {hand : Hand} {h h' : CConnectionHandlerInt} (hfits : hand.Fits P h)
    (hconnecting : ∀ k : ConnID, h'.connecting[k]? = h.connecting[k]?)
    (hconnected : ∀ k : ConnID, h'.connected[k]? = none ↔ h.connected[k]? = none)
    (hdns : ∀ k : ConnID, h'.dnsResolves[k]? = h.dnsResolves[k]?) (hbase : h'.eventBase = h.eventBase)
    (hshutdown : h'.isShutdown = h.isShutdown) : hand.Fits P h' := by
  have hrunning (hrun : h.Running) : h'.Running := ⟨hbase.trans hrun.1, hshutdown.trans hrun.2⟩
  have hempty (hnone : ∀ k : ConnID, h.connected[k]? = none) (k : ConnID) : h'.connected[k]? = none :=
    (hconnected k).mpr (hnone k)
  cases hand with
  | idle =>
    refine hfits.imp hrunning fun hidle => ⟨fun k => ?_, hempty hidle.connected, fun k => ?_⟩
    · exact (hconnecting k).trans (hidle.connecting k)
    · exact (hdns k).trans (hidle.dnsResolves k)
  | accepted id obj => exact ⟨hrunning hfits.1, hfits.2⟩
  | retrying obj => exact ⟨hrunning hfits.1, hfits.2⟩
  | closing id => exact hrunning hfits
  | disconnecting entries => exact ⟨hempty hfits.1, hfits.2⟩
  | dropping entries =>
    refine ⟨hempty hfits.1, fun k hk => hfits.2.1 k ?_, hfits.2.2⟩
    rwa [← hconnecting k]

/-- A counter is no map. -/
theorem count_same (outgoing : Bool) (change : ℤ) (h : CConnectionHandlerInt) :
    ∃ outgoingConnCount incomingConnCount,
      h.count outgoing change = { h with outgoingConnCount, incomingConnCount } := by
  cases outgoing with
  | false => exact ⟨h.outgoingConnCount, _, rfl⟩
  | true => exact ⟨_, h.incomingConnCount, rfl⟩

/-- A callback keeps the objects. -/
theorem Objects.called {h : CConnectionHandlerInt} {hand : Hand} {conns : List CConnection}
    (objects : Objects P ⟨h, hand, conns⟩)
    (c : Callback) (ret : Bool) (about : Option CConnection) : Objects P ⟨h.called c ret about, hand, conns⟩ :=
  objects.of_same rfl rfl rfl (objects.hand.congr (fun _ => rfl) (fun _ => Iff.rfl) (fun _ => rfl) rfl rfl)
    objects.pending (objects.numbered.append rfl)

namespace Objects

section Moves

variable {h h' : CConnectionHandlerInt} {hand : Hand} {conns : List CConnection} {k id : ConnID} {place : Place}
  {obj obj' : ConnectionObject} {r : ConnResult ConnectionObject} {ret : Bool}
  {entry : ConnID × ConnectionObject} {entries : List (ConnID × ConnectionObject)}

/-- The user's calls keep the objects. -/
theorem user (objects : Objects P ⟨h, hand, conns⟩) (frame : Frame h h') : Objects P ⟨h', hand, conns⟩ := by
  have hrunning (hrun : h.Running) : h'.Running := ⟨frame.eventBase.trans hrun.1, frame.isShutdown.trans hrun.2⟩
  refine ⟨frame.connecting ▸ objects.connecting, fun k obj' hobj' => ?_, frame.dnsResolves ▸ objects.dnsResolves,
    ?_, fun hpos => hrunning (objects.pending hpos), frame.numbered objects.numbered⟩
  · obtain ⟨obj, hobj, hcalled⟩ := frame.called k obj' hobj'
    exact (objects.connected k obj hobj).called hcalled
  · exact objects.hand.congr (fun k => by rw [frame.connecting]) frame.connected_eq_none_iff
      (fun k => by rw [frame.dnsResolves]) frame.eventBase frame.isShutdown

/-- A report of an object that is not connecting comes from an established one, which is ready. -/
theorem stray {assertion : Assertion} (objects : Objects P ⟨h, .idle, conns⟩) (working : Working h place k obj r)
    (hnone : (h.worked place k obj r).connecting[k]? = none) :
    Objects P ⟨(h.worked place k obj r).fail assertion, .idle, conns⟩ := by
  cases place with
  | connecting =>
    change (h.connecting.insert k r.obj)[k]? = none at hnone
    simp at hnone
  | connected =>
    have hobj := working.works.ready (objects.connected k obj working.found)
    exact ⟨objects.connecting, objects.connected.insert hobj, objects.dnsResolves,
      Or.inl (objects.running_of_found working.found), objects.pending,
      objects.numbered.append (issued_net _ _)⟩

/-- An event changes an established connection. -/
theorem changed (objects : Objects P ⟨h, hand, conns⟩) (hobj : h.connected[k]? = some obj)
    (hchanges : obj.Changes obj') : Objects P ⟨h.put .connected k obj', hand, conns⟩ := by
  refine ⟨objects.connecting, objects.connected.insert ((objects.connected k obj hobj).changes hchanges),
    objects.dnsResolves, objects.hand.congr (fun _ => rfl) (fun a => ?_) (fun _ => rfl) rfl rfl, objects.pending,
    objects.numbered⟩
  change (h.connected.insert k obj')[a]? = none ↔ _
  by_cases heq : k = a
  · subst heq
    simp [hobj]
  · simp [heq]

/-- The retry timer of a connection has run out. -/
theorem rearmed (objects : Objects P ⟨h, .idle, conns⟩) (hobj : h.connecting[k]? = some obj) :
    Objects P ⟨h.put .connecting k { obj with base := { obj.base with reconnectFunc := false } }, .idle, conns⟩ := by
  have hrunning := objects.running_of_found (show (h.objects .connecting)[k]? = some obj from hobj)
  obtain ⟨hid, houtgoing, hsuits, hsupplied, hstopped, hbev⟩ := objects.connecting k obj hobj
  obtain ⟨hdisconnect, hwait, hcheck, hping, hfirst⟩ := hstopped
  exact ⟨objects.connecting.insert
      ⟨hid, houtgoing, hsuits, hsupplied, ⟨hdisconnect, hwait, hcheck, hping, hfirst⟩, hbev⟩, objects.connected,
    objects.dnsResolves, Or.inl hrunning, objects.pending, objects.numbered⟩

/-- A method has run, and its object waits or is ready as before. -/
theorem waited (objects : Objects P ⟨h, .idle, conns⟩) (working : Working h place k obj r)
    (hreport : r.report = .waiting) : Objects P ⟨h.worked place k obj r, .idle, conns⟩ := by
  have hrunning := objects.running_of_found working.found
  have hnumbered := objects.numbered.append (issued_net obj.base.conn r.net)
  cases place with
  | connecting =>
    have hobj := working.works.waiting (objects.connecting k obj working.found)
      (working.works.base_of_waiting hreport)
    exact ⟨objects.connecting.insert hobj, objects.connected, objects.dnsResolves, Or.inl hrunning, objects.pending,
      hnumbered⟩
  | connected =>
    have hobj := working.works.ready (objects.connected k obj working.found)
    exact ⟨objects.connecting, objects.connected.insert hobj, objects.dnsResolves, Or.inl hrunning, objects.pending,
      hnumbered⟩

/-- An incoming connection has an id, and is in hand if the user accepts it. -/
theorem accepted {conn : CConnection} {addr : Bytes} {bytesRead bytesWritten : ℕ} {c : Callback}
    {connecting : ConnMap ConnectionObject} (objects : Objects P ⟨h, .idle, conns⟩) (hrunning : h.Running)
    (hissue : h.getNextConnectionIndex = (id, h')) (hsame : ∀ k : ConnID, connecting[k]? = h.connecting[k]?) :
    Objects P ⟨{ h' with connecting }.called c ret conn,
      if ret then .accepted id (.ofSocket conn id bytesRead bytesWritten addr) else .idle, conns⟩ := by
  obtain ⟨index, failures, rfl, -, hnumbered⟩ := issued_shape hissue
  refine ⟨objects.connecting.congr hsame, objects.connected, objects.dnsResolves, ?_, fun _ => hrunning,
    (hnumbered objects.numbered).append rfl⟩
  split
  · exact ⟨hrunning, rfl, trivial, fun h => absurd h Bool.false_ne_true, fun _ => rfl⟩
  · exact Or.inl hrunning

/-- A connection that is over leaves its map, and is in hand if it is tried again. -/
theorem ended {reconnect : Bool} {c : Callback} (objects : Objects P ⟨h, hand, conns⟩)
    (hhand : hand = .idle ∨ hand = .closing k) (hobj : h.connected[k]? = some obj)
    (hstopped : (reconnect && ret) = true → obj.base.Stopped)
    (hreconnect : reconnect = (obj.base.conn.opts.fPersistent && obj.isOutgoing && !h.isShutdown)) :
    Objects P ⟨({ h with connected := h.connected.erase k }.count obj.isOutgoing (-1)).called c ret obj.base.conn,
      if reconnect && ret then .retrying obj else .idle, conns⟩ := by
  have hrunning : h.Running := by
    rcases hhand with rfl | rfl
    · exact objects.running_of_found (show (h.objects .connected)[k]? = some obj from hobj)
    · exact objects.hand
  have hready := objects.connected k obj hobj
  obtain ⟨outgoingConnCount, incomingConnCount, hcount⟩ :=
    count_same obj.isOutgoing (-1) { h with connected := h.connected.erase k }
  rw [hcount]
  refine ⟨objects.connecting, objects.connected.erase k, objects.dnsResolves, ?_, fun _ => hrunning,
    objects.numbered.append rfl⟩
  split
  · next hret =>
    have hstopped := hstopped hret
    rw [hreconnect] at hret
    simp only [Bool.and_eq_true] at hret
    exact ⟨hrunning, hready.retryable hret.1.1.2 hstopped⟩
  · exact Or.inl hrunning

/-- A connection that is tried again waits under a new id. -/
theorem retried (objects : Objects P ⟨h, .retrying obj, conns⟩) (hissue : h.getNextConnectionIndex = (id, h')) :
    Objects P
      ⟨{ h' with connecting := (h'.connecting.insertIfNew id obj).modify id (·.retry id) }, .idle, conns⟩ := by
  obtain ⟨index, failures, rfl, -, hnumbered⟩ := issued_shape hissue
  obtain ⟨hrunning, hretryable⟩ := objects.hand
  have hconnecting := objects.connecting.insertIfNew_modify (fun _ hwaiting => hwaiting.retryable.retry id)
    (hretryable.retry id)
  exact ⟨hconnecting, objects.connected, objects.dnsResolves, Or.inl hrunning, fun _ => hrunning,
    hnumbered objects.numbered⟩

/-- A method of a resolve-only request has run. -/
theorem resolveWorked {c c' : CResolveOnly} {net : List NetAction} (objects : Objects P ⟨h, .idle, conns⟩)
    (hc : h.dnsResolves[k]? = some c) (hid : c'.id = c.id) (hconn : c'.conn = c.conn) :
    Objects P
      ⟨{ h with dnsResolves := h.dnsResolves.insert k c' }.record (net.map (.net c.conn)), .idle, conns⟩ := by
  have hfiled := objects.dnsResolves k c hc
  have hrunning : h.Running :=
    objects.hand.resolve_right fun hidle => absurd (hc.symm.trans (hidle.dnsResolves k)) (by simp)
  refine ⟨objects.connecting, objects.connected, objects.dnsResolves.insert ⟨?_, ?_, ?_⟩, Or.inl hrunning,
    objects.pending, objects.numbered.append (issued_net _ _)⟩
  · exact hid.trans hfiled.id
  · exact hconn ▸ hfiled.supplied
  · exact hconn ▸ hfiled.proxy

/-- The established connections are in hand, to be closed. -/
theorem shutdownBegun (objects : Objects P ⟨h, .idle, conns⟩) :
    Objects P ⟨{ h with connected := ∅, binds := ∅, isShutdown := true }, .disconnecting h.connected.toList, []⟩ := by
  refine ⟨objects.connecting, OrderedMap.All.empty, objects.dnsResolves, ⟨by simp, fun entry hentry => ?_⟩,
    fun hne => absurd rfl hne, objects.numbered⟩
  exact objects.connected _ _ (Std.TreeMap.mem_toList_iff_getElem?_eq_some.mp hentry)

/-- One of them is closed. -/
theorem shutdownDisconnected {c : Callback} (objects : Objects P ⟨h, .disconnecting (entry :: entries), conns⟩) :
    Objects P ⟨(h.count entry.2.isOutgoing (-1)).called c ret entry.2.base.conn, .disconnecting entries, conns⟩ := by
  obtain ⟨hempty, hready⟩ := objects.hand
  obtain ⟨outgoingConnCount, incomingConnCount, hcount⟩ := count_same entry.2.isOutgoing (-1) h
  rw [hcount]
  exact ⟨objects.connecting, objects.connected, objects.dnsResolves,
    ⟨hempty, fun e he => hready e (List.mem_cons_of_mem _ he)⟩, objects.pending, objects.numbered.append rfl⟩

/-- Then the attempts are to be dropped. -/
theorem shutdownTurned (objects : Objects P ⟨h, .disconnecting [], conns⟩) :
    Objects P ⟨h, .dropping h.connecting.toList, conns⟩ := by
  obtain ⟨hempty, -⟩ := objects.hand
  refine objects.of_same rfl rfl rfl ⟨hempty, fun k hk => ?_, fun entry hentry => ?_⟩
    objects.pending objects.numbered
  · obtain ⟨obj, hobj⟩ := Option.ne_none_iff_exists'.mp hk
    exact List.mem_map.mpr ⟨(k, obj), Std.TreeMap.mem_toList_iff_getElem?_eq_some.mpr hobj, rfl⟩
  · exact objects.connecting _ _ (Std.TreeMap.mem_toList_iff_getElem?_eq_some.mp hentry)

/-- One of them is dropped. -/
theorem shutdownDropped (objects : Objects P ⟨h, .dropping (entry :: entries), conns⟩) :
    Objects P ⟨h.takeConnecting entry.1, .dropping entries, conns⟩ := by
  obtain ⟨hempty, hkeys, hwaiting⟩ := objects.hand
  refine ⟨objects.connecting.erase _, objects.connected, objects.dnsResolves,
    ⟨hempty, fun k hk => ?_, fun e he => hwaiting e (List.mem_cons_of_mem _ he)⟩, objects.pending, objects.numbered⟩
  change (h.connecting.erase entry.1)[k]? ≠ none at hk
  by_cases heq : entry.1 = k
  · simp [heq] at hk
  · rw [OrderedMap.getElem?_erase, if_neg heq] at hk
    exact (List.mem_cons.mp (hkeys k hk)).resolve_left fun h => heq h.symm

/-- At the end of the shutdown nothing is left. -/
theorem shutdownDone {holds : Bool} (objects : Objects P ⟨h, .dropping [], conns⟩) :
    Objects P ⟨{ h with dnsResolves := ∅, dnsBase := false, requestEvent := false, shutdownEvent := none }.check
      holds .shutdownInt, .idle, conns⟩ := by
  obtain ⟨hempty, hkeys, -⟩ := objects.hand
  rw [check_eq]
  refine ⟨objects.connecting, objects.connected, OrderedMap.All.empty,
    Or.inr ⟨fun k => ?_, hempty, fun _ => Std.TreeMap.getElem?_emptyc⟩,
    objects.pending, objects.numbered⟩
  by_contra hk
  exact absurd (hkeys k hk) (by simp)

/-- `PumpEvents` returns after a shutdown. -/
theorem pumped {c : Callback} {about : Option CConnection} (objects : Objects P ⟨h, .idle, conns⟩)
    (hshutdown : h.isShutdown = true) :
    Objects P ⟨{ h with eventBase := false }.called c ret about, .idle, conns⟩ := by
  have hidle : h.Idle := objects.hand.resolve_left fun hrunning =>
    absurd (hrunning.2.symm.trans hshutdown) Bool.false_ne_true
  refine objects.of_same rfl rfl rfl (Or.inr ⟨hidle.connecting, hidle.connected, hidle.dnsResolves⟩) (fun hpos => ?_)
    (objects.numbered.append rfl)
  exact absurd ((objects.pending hpos).2.symm.trans hshutdown) Bool.false_ne_true

end Moves

end Objects

/-- Every move keeps the objects. -/
theorem Move.objects {s s' : Stage} (move : Move P L s s') (objects : Objects P s) : Objects P s' := by
  cases move with
  | user frame => exact objects.user frame
  | forget =>
    exact objects.of_same rfl rfl rfl objects.hand (fun _ => objects.pending (List.cons_ne_nil _ _)) objects.numbered
  | fail hother =>
    exact objects.of_same rfl rfl rfl (objects.hand.congr (fun _ => rfl) (fun _ => Iff.rfl) (fun _ => rfl) rfl rfl)
      objects.pending objects.numbered
  | stray working hreport hnone => exact objects.stray working hnone
  | relooked hsame =>
    exact ⟨objects.connecting.congr hsame, objects.connected, objects.dnsResolves,
      objects.hand.congr hsame (fun _ => Iff.rfl) (fun _ => rfl) rfl rfl, objects.pending, objects.numbered⟩
  | changed hobj hchanges => exact objects.changed hobj hchanges
  | rearmed hobj => exact objects.rearmed hobj
  | waited working hreport => exact objects.waited working hreport
  | failed working hreport hptr =>
    refine objects.took working hptr fun h' hrunning _ hretryable => ?_
    split
    · exact ⟨hrunning, hretryable (by rw [working.works.base, hreport])⟩
    · exact Or.inl hrunning
  | outgoing working hreport hptr =>
    refine objects.took working hptr fun h' hrunning hready _ => ?_
    split
    · exact ⟨hrunning, hready⟩
    · exact Or.inl hrunning
  | accepted hrunning hbind hissue hfree hsame => exact objects.accepted hrunning hissue hsame
  | establishedIncoming hincoming =>
    obtain ⟨hrunning, hready⟩ := objects.hand
    exact ⟨objects.connecting, objects.connected.insertIfNew hready.enable, objects.dnsResolves, Or.inl hrunning,
      objects.pending, objects.numbered⟩
  | establishedOutgoing houtgoing =>
    obtain ⟨hrunning, hready⟩ := objects.hand
    exact ⟨objects.connecting, objects.connected.insertIfNew hready.enable, objects.dnsResolves, Or.inl hrunning,
      objects.pending, objects.numbered.append rfl⟩
  | ended hhand hobj hstopped hreconnect => exact objects.ended hhand hobj hstopped hreconnect
  | retried hissue => exact objects.retried hissue
  | started hsupplied hconnects hissue =>
    obtain ⟨index, failures, rfl, -, hnumbered⟩ := issued_shape hissue
    have hrunning := objects.pending (List.cons_ne_nil _ _)
    exact ⟨objects.connecting.insertIfNew (ConnectionObject.waiting_new hsupplied hconnects _ _ _), objects.connected,
      objects.dnsResolves, Or.inl hrunning, fun _ => hrunning, hnumbered objects.numbered⟩
  | notified hobj heffect hc =>
    exact objects.called _ _ _
  | @malformed h conns k obj ret hobj =>
    have hrunning := objects.running_of_found (show (h.objects .connected)[k]? = some obj from hobj)
    exact objects.of_same rfl rfl rfl hrunning objects.pending (objects.numbered.append rfl)
  | resolveStarted hsupplied hproxy hissue =>
    obtain ⟨index, failures, rfl, -, hnumbered⟩ := issued_shape hissue
    have hrunning := objects.pending (List.cons_ne_nil _ _)
    exact ⟨objects.connecting, objects.connected, objects.dnsResolves.insertIfNew ⟨rfl, hsupplied, hproxy⟩,
      Or.inl hrunning, fun _ => hrunning, hnumbered objects.numbered⟩
  | resolveWorked hc hid hconn hpermitted => exact objects.resolveWorked hc hid hconn
  | resolveTold hc hcb =>
    exact objects.called _ _ _
  | resolveErased k =>
    refine ⟨objects.connecting, objects.connected, objects.dnsResolves.erase k, ?_, objects.pending, objects.numbered⟩
    refine objects.hand.imp_right fun hidle => ⟨hidle.connecting, hidle.connected, fun a => ?_⟩
    rw [OrderedMap.getElem?_erase, hidle.dnsResolves a, ite_self]
  | begun hlimit hbase hcount =>
    refine objects.of_same rfl rfl rfl (Or.inl ⟨rfl, rfl⟩) (fun hne => absurd rfl hne)
      (objects.numbered.append rfl)
  | shutdownBegun hrunning => exact objects.shutdownBegun
  | shutdownDisconnected => exact objects.shutdownDisconnected
  | shutdownTurned => exact objects.shutdownTurned
  | shutdownTold houtgoing =>
    exact objects.called _ _ _
  | shutdownDropped => exact objects.shutdownDropped
  | shutdownDone => exact objects.shutdownDone
  | pumped hshutdown => exact objects.pumped hshutdown

end LibBtcNet
