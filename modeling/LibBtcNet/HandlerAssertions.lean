import LibBtcNet.ConnectCalls
import LibBtcNet.MethodAssertions

/-!
# The assertions of connections in a run

What a step does is followed once more, callback by callback, for the assertions of the connection
objects: every object stays in order, every established connection keeps a bufferevent, also while
the user is called, and no assertion of an object fails for another reason than what a method has
read.
-/

namespace LibBtcNet

open CConnectionHandlerInt

/-- Every object is in order, and every established connection holds a bufferevent. -/
structure CConnectionHandlerInt.Seated (h : CConnectionHandlerInt) : Prop where
  connecting : OrderedMap.All (fun _ obj => obj.kind.InOrder) h.connecting
  connected : OrderedMap.All (fun _ obj => obj.kind.InOrder ∧ obj.base.bev.isSome = true) h.connected
  dnsResolves : OrderedMap.All (fun _ c => c.InOrder) h.dnsResolves

/-- What leads from a handler to another keeps the objects seated, and fails an assertion of an object
for a given reason only. -/
def Carries (reason : Prop) (h h' : CConnectionHandlerInt) : Prop :=
  h.Seated → h'.Seated ∧ (.connection ∈ h'.failed → .connection ∈ h.failed ∨ reason)

namespace Carries

variable {reason : Prop} {h h' h'' : CConnectionHandlerInt}

/-- Staying where one is. -/
theorem refl (h : CConnectionHandlerInt) : Carries reason h h := fun seated => ⟨seated, Or.inl⟩

/-- One after the other. -/
theorem trans (first : Carries reason h h') (second : Carries reason h' h'') : Carries reason h h'' := by
  intro seated
  obtain ⟨seated', hfirst⟩ := first seated
  obtain ⟨seated'', hsecond⟩ := second seated'
  exact ⟨seated'', fun hmem => (hsecond hmem).elim hfirst Or.inr⟩

/-- What is known of the objects may be used. -/
theorem of_seated (hcarries : h.Seated → Carries reason h h') : Carries reason h h' := fun seated =>
  hcarries seated seated

/-- Only the objects and what has failed matter. -/
theorem of_same (hconnecting : h'.connecting = h.connecting) (hconnected : h'.connected = h.connected)
    (hdnsResolves : h'.dnsResolves = h.dnsResolves) (hfailed : h'.failed = h.failed) : Carries reason h h' := by
  rintro ⟨connecting, connected, dnsResolves⟩
  refine ⟨⟨?_, ?_, ?_⟩, fun hmem => Or.inl (hfailed ▸ hmem)⟩
  · rwa [hconnecting]
  · rwa [hconnected]
  · rwa [hdnsResolves]

/-- The connections that are not established change. -/
theorem of_connecting {connecting : ConnMap ConnectionObject}
    (horder : h.Seated → OrderedMap.All (fun _ obj => obj.kind.InOrder) connecting) :
    Carries reason h { h with connecting } := fun seated =>
  ⟨⟨horder seated, seated.connected, seated.dnsResolves⟩, Or.inl⟩

/-- The established connections change. -/
theorem of_connected {connected : ConnMap ConnectionObject}
    (horder : h.Seated → OrderedMap.All (fun _ obj => obj.kind.InOrder ∧ obj.base.bev.isSome = true) connected) :
    Carries reason h { h with connected } := fun seated =>
  ⟨⟨seated.connecting, horder seated, seated.dnsResolves⟩, Or.inl⟩

/-- The resolve-only requests change. -/
theorem of_dnsResolves {dnsResolves : ConnMap CResolveOnly}
    (horder : h.Seated → OrderedMap.All (fun _ c => c.InOrder) dnsResolves) :
    Carries reason h { h with dnsResolves } := fun seated =>
  ⟨⟨seated.connecting, seated.connected, horder seated⟩, Or.inl⟩

/-- An assertion of an object fails for the reason. -/
theorem of_reason (hreason : reason) : Carries reason h (h.fail .connection) := fun seated =>
  ⟨⟨seated.connecting, seated.connected, seated.dnsResolves⟩, fun _ => Or.inr hreason⟩

end Carries

section Calls

variable {reason : Prop} {h h' : CConnectionHandlerInt} {id : ConnID} {env : Environment}

/-- Another assertion fails. -/
theorem fail_carries {assertion : Assertion} (hother : assertion ≠ .connection) :
    Carries reason h (h.fail assertion) := by
  rintro ⟨connecting, connected, dnsResolves⟩
  refine ⟨⟨connecting, connected, dnsResolves⟩, fun hmem => Or.inl ?_⟩
  exact (List.mem_append.mp hmem).resolve_right fun hnew => hother (List.mem_singleton.mp hnew).symm

/-- Another assertion. -/
theorem check_carries (condition : Bool) {assertion : Assertion} (hother : assertion ≠ .connection) :
    Carries reason h (h.check condition assertion) := by
  unfold check
  split
  · exact .refl h
  · exact fail_carries hother

/-- An id is issued. -/
theorem issue_carries (hissue : h.getNextConnectionIndex = (id, h')) : Carries reason h h' := by
  have hchecked : Carries reason h (h.check (decide (0 ≤ h.connectionIndex)) .getNextConnectionIndex) :=
    check_carries _ (by simp)
  refine hchecked.trans ?_
  unfold getNextConnectionIndex at hissue
  dsimp only at hissue
  split at hissue
  · obtain ⟨-, rfl⟩ := Prod.mk.inj hissue
    exact .of_same rfl rfl rfl rfl
  · obtain ⟨-, rfl⟩ := Prod.mk.inj hissue
    exact .of_same rfl rfl rfl rfl

/-- A call has a result where there is a bufferevent. -/
theorem ConnectionBase.call_ne_none {base : ConnectionBase} (hbev : base.bev.isSome = true) (c : ConnCall) :
    base.call c ≠ none := by
  obtain ⟨bev, hbev⟩ := Option.isSome_iff_exists.mp hbev
  cases c <;> simp [ConnectionBase.call, ConnectionBase.write, ConnectionBase.setRecv, hbev]

/-- A call of an established connection fails no assertion. -/
theorem connectionCall_carries (c : ConnCall) : Carries reason h (h.connectionCall id c) := by
  refine .of_seated fun seated => ?_
  unfold connectionCall
  split
  · split
    · exact .refl h
    · next obj hobj =>
      obtain ⟨horder, hbev⟩ := seated.connected id obj hobj
      split
      · next hnone => exact absurd hnone (ConnectionBase.call_ne_none hbev c)
      · next base hcall =>
        have hcalled := ConnectionObject.called_of_call hcall
        exact .of_connected fun _ => seated.connected.insert ⟨horder, hcalled.bev.trans hbev⟩
  · exact .refl h

/-- Any call of the user. -/
theorem apiCall_carries (c : ApiCall) : Carries reason h (h.apiCall c) := by
  cases c with
  | bind conn listens =>
    obtain ⟨id, h', hissue⟩ : ∃ id h', h.getNextConnectionIndex = (id, h') := ⟨_, _, rfl⟩
    change Carries reason h (h.bind conn listens)
    simp only [CConnectionHandlerInt.bind, hissue]
    have hchecked : Carries reason h' (h'.check h'.eventBase .bind) := check_carries _ (by simp)
    refine ((issue_carries hissue).trans hchecked).trans ?_
    split
    · exact .of_same rfl rfl rfl rfl
    · exact .of_same rfl rfl rfl rfl
  | shutdown =>
    change Carries reason h h.shutdown
    unfold shutdown
    split
    · exact fail_carries (by simp)
    · exact .of_same rfl rfl rfl rfl
  | closeConnection id immediately => exact connectionCall_carries _
  | send id size => exact connectionCall_carries _
  | setRateLimit id => exact connectionCall_carries _
  | pauseRecv id => exact connectionCall_carries _
  | unpauseRecv id => exact connectionCall_carries _
  | resetPingTimeout id seconds => exact connectionCall_carries (.resetPingTimeout seconds)

/-- A callback, with the calls that it makes. -/
theorem callUser_carries {about : Option CConnection} {c : Callback} {ret : Bool}
    (hcall : h.callUser env about c = (ret, h')) : Carries reason h h' := by
  obtain ⟨-, rfl⟩ := Prod.mk.inj hcall
  have hfold (calls : List ApiCall) (h : CConnectionHandlerInt) : Carries reason h (calls.foldl apiCall h) := by
    induction calls generalizing h with
    | nil => exact .refl h
    | cons c calls ih => exact (apiCall_carries c).trans (ih (h.apiCall c))
  have hrecorded : Carries reason h (h.record [.callback c (env.answer h.trace c) about]) :=
    .of_same rfl rfl rfl rfl
  exact hrecorded.trans (hfold _ _)

end Calls

section Reports

variable {reason : Prop} {h h' : CConnectionHandlerInt} {id : ConnID} (env : Environment)

/-- A connection is tried again. -/
theorem retryConnecting_carries {ptr : ConnectionObject} (horder : ptr.kind.InOrder) :
    Carries reason h (h.retryConnecting ptr) := by
  obtain ⟨id, h', hissue⟩ : ∃ id h', h.getNextConnectionIndex = (id, h') := ⟨_, _, rfl⟩
  rw [retryConnecting, hissue]
  exact (issue_carries hissue).trans
    (.of_connecting fun seated => seated.connecting.insertIfNew_modify (fun _ hkept => hkept) horder)

/-- A connection leaves the map of those that are not established. -/
theorem takeConnecting_carries (id : ConnID) : Carries reason h (h.takeConnecting id) :=
  .of_connecting fun seated => seated.connecting.erase id

/-- `OnConnectionFailure`. -/
theorem onConnectionFailure_carries (about : CConnection) (type : ConnectionFailureType) (failed : CConnection)
    (retry : Bool) : Carries reason h (h.onConnectionFailure env id about type failed retry) := by
  refine .of_seated fun seated => ?_
  cases hptr : h.connecting[id]? with
  | none =>
    simp only [onConnectionFailure, hptr]
    exact fail_carries (by simp)
  | some ptr =>
    have horder := seated.connecting id ptr hptr
    obtain ⟨ret, h', hcall⟩ : ∃ ret h', (h.takeConnecting id).callUser env about
        (failureCallback type failed (retry && !h.isShutdown)) = (ret, h') := ⟨_, _, rfl⟩
    have hcarries : Carries reason h h' := (takeConnecting_carries id).trans (callUser_carries hcall)
    rw [onConnectionFailure_of_call hptr hcall]
    split
    · exact hcarries.trans (retryConnecting_carries horder)
    · exact hcarries

/-- A connection that holds a bufferevent is established. -/
theorem establish_carries {ptr : ConnectionObject} {outgoingConnCount incomingConnCount : ℤ}
    (horder : ptr.kind.InOrder) (hbev : ptr.base.bev.isSome = true) :
    Carries reason h { h with
      connected := h.connected.insertIfNew id ptr.enable
      outgoingConnCount
      incomingConnCount } := by
  have hinserted : Carries reason h { h with connected := h.connected.insertIfNew id ptr.enable } :=
    .of_connected fun seated => seated.connected.insertIfNew ⟨horder, Option.isSome_map.trans hbev⟩
  exact hinserted.trans (.of_same rfl rfl rfl rfl)

/-- `OnOutgoingConnected`. -/
theorem onOutgoingConnected_carries (conn resolved : CConnection)
    (hbev : ∀ ptr, h.connecting[id]? = some ptr → ptr.base.bev.isSome = true) :
    Carries reason h (h.onOutgoingConnected env id conn resolved) := by
  refine .of_seated fun seated => ?_
  cases hptr : h.connecting[id]? with
  | none =>
    simp only [onOutgoingConnected, hptr]
    exact fail_carries (by simp)
  | some ptr =>
    obtain ⟨ret, h', hcall⟩ : ∃ ret h', (h.takeConnecting id).callUser env conn
        (.onOutgoingConnection id conn resolved) = (ret, h') := ⟨_, _, rfl⟩
    have hcarries : Carries reason h h' := (takeConnecting_carries id).trans (callUser_carries hcall)
    rw [onOutgoingConnected_of_call hptr hcall]
    split
    · exact (hcarries.trans (establish_carries (seated.connecting id ptr hptr) (hbev ptr hptr))).trans
        (callUser_carries rfl)
    · exact hcarries

/-- `OnDisconnected`. -/
theorem onDisconnected_carries (reconnect : Bool) : Carries reason h (h.onDisconnected env id reconnect) := by
  refine .of_seated fun seated => ?_
  unfold onDisconnected
  simp only
  split
  · exact fail_carries (by simp)
  · next obj hobj =>
    obtain ⟨ret, h', hcall⟩ : ∃ ret h', callUser env obj.base.conn (.onDisconnected id (reconnect && !h.isShutdown))
        ({ h with connected := h.connected.erase id }.count obj.isOutgoing (-1)) = (ret, h') := ⟨_, _, rfl⟩
    have herased : Carries reason h { h with connected := h.connected.erase id } :=
      .of_connected fun seated => seated.connected.erase id
    have hcounted : Carries reason { h with connected := h.connected.erase id }
        ({ h with connected := h.connected.erase id }.count obj.isOutgoing (-1)) :=
      .of_same (count_connecting _ _ _) (count_connected _ _ _) (count_dnsResolves _ _ _) (count_failed _ _ _)
    have hcarries : Carries reason h h' := (herased.trans hcounted).trans (callUser_carries hcall)
    rw [hcall]
    simp only
    split
    · exact hcarries.trans (retryConnecting_carries (seated.connected id obj hobj).1)
    · exact hcarries

end Reports

section Methods

variable {reason : Prop} {P : CConnection → Prop} {h : CConnectionHandlerInt} {conns : List CConnection}
  {place : Place} {k : ConnID} {obj : ConnectionObject} {r : ConnResult ConnectionObject} (env : Environment)

/-- An object in a map is in order. -/
theorem CConnectionHandlerInt.Seated.inOrder (seated : h.Seated) (hobj : (h.objects place)[k]? = some obj) :
    obj.kind.InOrder := by
  cases place with
  | connecting => exact seated.connecting k obj hobj
  | connected => exact (seated.connected k obj hobj).1

/-- An object in a map has one handle at most. -/
theorem Sound.handles_le (sound : Sound P ⟨h, .idle, conns⟩) (hfew : FewIds h.trace)
    (hobj : (h.objects place)[k]? = some obj) : obj.kind.handles ≤ 1 := by
  cases place with
  | connecting => exact ((sound.books hfew).trying k obj hobj).handles
  | connected => exact ((sound.books hfew).settled k obj hobj).handles.trans_le (Nat.zero_le 1)

/-- A method leaves its object in the map. -/
theorem worked_carries (working : Working h place k obj r) (hfew : FewIds h.trace) (horder : r.obj.kind.InOrder) :
    Carries reason h (h.worked place k obj r) := by
  have hput : Carries reason h (h.put place k r.obj) := by
    cases place with
    | connecting => exact .of_connecting fun seated => seated.connecting.insert horder
    | connected =>
      refine .of_connected fun seated => seated.connected.insert ⟨horder, ?_⟩
      -- Nothing happens to an established connection here.
      have hreport : r.report = .waiting := by
        by_contra hreport
        exact absurd (working.ends hfew hreport).1 (by simp)
      obtain hsame | ⟨hplace, -⟩ := working.waits hfew hreport
      · rw [hsame]
        exact (seated.connected k obj working.found).2
      · contradiction
  exact hput.trans (.of_same rfl rfl rfl rfl)

/-- The report that ends a method. -/
theorem onReport_carries (working : Working h place k obj r) (hid : r.obj.base.id = k) (hfew : FewIds h.trace)
    (horder : r.obj.kind.InOrder) : Carries reason h ((h.worked place k obj r).onReport env r) := by
  have hworked : Carries reason h (h.worked place k obj r) := worked_carries working hfew horder
  cases hreport : r.report with
  | waiting =>
    simp only [onReport, hreport]
    exact hworked
  | connectionFailure type failed retry =>
    simp only [onReport, hreport]
    exact hworked.trans (onConnectionFailure_carries env _ type failed retry)
  | outgoingConnected bev resolved =>
    simp only [onReport, hreport, hid]
    refine hworked.trans (onOutgoingConnected_carries env _ _ fun ptr hptr => ?_)
    obtain ⟨rfl, -⟩ := working.ends hfew (by simp [hreport])
    change (h.connecting.insert k r.obj)[k]? = some ptr at hptr
    obtain rfl : r.obj = ptr := by simpa using hptr
    -- `InitConnection` has just been given the bufferevent.
    have hbase := working.works.base
    rw [hreport] at hbase
    rw [hbase]
    rfl
  | incomingConnected bev resolved =>
    have hfits := working.works.fits.report
    rw [hreport] at hfits
    exact absurd (hfits.symm.trans (working.directed (by simp [hreport]))) Bool.false_ne_true

/-- A method of an object in a map, which fails its assertions for the reason only. -/
theorem runMethod_carries {method : ConnectionObject → Option (ConnResult ConnectionObject)}
    (sound : Sound P ⟨h, .idle, conns⟩) (hfew : FewIds h.trace)
    (hworking : ∀ obj r, (h.objects place)[k]? = some obj → method obj = some r → Working h place k obj r)
    (horder : ∀ obj r, (h.objects place)[k]? = some obj → obj.kind.InOrder → method obj = some r →
      r.obj.kind.InOrder)
    (hnone : ∀ obj, (h.objects place)[k]? = some obj → obj.kind.InOrder → method obj = none → reason) :
    Carries reason h (h.runMethod env place k method) := by
  refine .of_seated fun seated => ?_
  unfold runMethod
  split
  · exact .refl h
  · next obj hobj =>
    have hkind := seated.inOrder hobj
    split
    · next hfails => exact .of_reason (hnone obj hobj hkind hfails)
    · next r hr =>
      have working := hworking obj r hobj hr
      have hid : r.obj.base.id = k :=
        working.works.keeps.2.1.trans (sound.objects.ready_of_found working.found).id
      exact onReport_carries env working hid hfew (horder obj r hobj hkind hr)

/-- A method of an object in a map that always has a result. -/
theorem runMethod_carries_of_result {method : ConnectionObject → Option (ConnResult ConnectionObject)}
    (sound : Sound P ⟨h, .idle, conns⟩) (hfew : FewIds h.trace)
    (hworking : ∀ obj r, (h.objects place)[k]? = some obj → method obj = some r → Working h place k obj r)
    (hresult : ∀ obj, (h.objects place)[k]? = some obj → obj.kind.InOrder →
      HasResult ConnectionObject.kind (method obj)) :
    Carries reason h (h.runMethod env place k method) := by
  refine runMethod_carries env sound hfew hworking (fun obj r hobj hkind hr => ?_) fun obj hobj hkind hnone => ?_
  · obtain ⟨r', hr', horder⟩ := hresult obj hobj hkind
    exact Option.some.inj (hr'.symm.trans hr) ▸ horder
  · obtain ⟨r, hr, -⟩ := hresult obj hobj hkind
    exact absurd (hr.symm.trans hnone) (by simp)

/-- `Connect` of an object that may be connected. -/
theorem connect_carries (hset : ∀ conn, P conn → conn.isSet = true) (sound : Sound P ⟨h, .idle, conns⟩)
    (hfew : FewIds h.trace) (hready : h.Connectable place k) : Carries reason h (h.connect env place k) := by
  refine runMethod_carries_of_result env sound hfew (fun obj r hobj hr => ?_) fun obj hobj hkind => ?_
  · obtain ⟨houtgoing, hsettled⟩ := hready obj hobj
    exact working_of_connect hobj hr houtgoing hsettled
  · obtain ⟨rfl, hsettled⟩ := (hready obj hobj).2 hfew
    have hwaiting := sound.objects.connecting k obj hobj
    exact ConnectionObject.connect_result env.names _ hkind (fun _ => hset _ hwaiting.supplied) hwaiting.suits
      hsettled.handles

end Methods

section Requests

variable {reason : Prop} {P : CConnection → Prop} {h : CConnectionHandlerInt} {conns : List CConnection} {k : ConnID}
  (env : Environment)

/-- `OnResolveFailure` of a request that is not asked for. -/
theorem onResolveFailure_carries (conn : CConnection) (retry : Bool)
    (hasked : ∀ c, h.dnsResolves[k]? = some c → c.request = false) :
    Carries reason h (h.onResolveFailure env k conn retry) := by
  obtain ⟨ret, h', hcall, frame⟩ := callUser_frame h env conn (.onDnsFailure conn (retry && !h.isShutdown))
  have hcarries : Carries reason h h' := callUser_carries hcall
  simp only [onResolveFailure, hcall]
  refine hcarries.trans (.of_seated fun seated => ?_)
  split
  · exact fail_carries (by simp)
  · next c hc =>
    split
    · refine .of_dnsResolves fun seated => seated.dnsResolves.insert ⟨(seated.dnsResolves k c hc).dns, fun _ => ?_⟩
      rw [frame.dnsResolves] at hc
      exact hasked c hc
    · exact .of_dnsResolves fun seated => seated.dnsResolves.erase k

/-- `OnResolveComplete`. -/
theorem onResolveComplete_carries (conn : CConnection) (resolved : List CConnection) :
    Carries reason h (h.onResolveComplete env k conn resolved) :=
  (callUser_carries rfl).trans (.of_dnsResolves fun seated => seated.dnsResolves.erase k)

/-- A method of a resolve-only request. -/
theorem runResolve_carries {method : CResolveOnly → Option (MethodResult CResolveOnly ResolveReport)}
    (sound : Sound P ⟨h, .idle, conns⟩)
    (hresult : ∀ c, h.dnsResolves[k]? = some c → c.InOrder →
      ∃ r, method c = some r ∧ c.Works r ∧ CResolveOnly.Leaves r) :
    Carries reason h (h.runResolve env k method) := by
  refine .of_seated fun seated => ?_
  unfold runResolve
  split
  · exact .refl h
  · next c hc =>
    obtain ⟨r, hr, hworks, hleft, hreported⟩ := hresult c hc (seated.dnsResolves k c hc)
    have hk : r.obj.id = k := hworks.id.trans (sound.objects.dnsResolves k c hc).id
    have hinserted : Carries reason h { h with dnsResolves := h.dnsResolves.insert k r.obj } :=
      .of_dnsResolves fun seated => seated.dnsResolves.insert hleft
    have hworked : Carries reason h
        ({ h with dnsResolves := h.dnsResolves.insert k r.obj }.record (r.net.map (.net c.conn))) :=
      hinserted.trans (.of_same rfl rfl rfl rfl)
    simp only [hr, hk]
    cases hreport : r.report with
    | waiting => exact hworked
    | resolveFailure retry =>
      refine hworked.trans (onResolveFailure_carries env _ retry fun c' hc' => ?_)
      change (h.dnsResolves.insert k r.obj)[k]? = some c' at hc'
      obtain rfl : r.obj = c' := by simpa using hc'
      exact hreported (by simp [hreport])
    | resolveComplete resolved => exact hworked.trans (onResolveComplete_carries env _ resolved)

/-- `Resolve` of a request that is not asked for and does not wait to be tried again. -/
theorem resolve_carries (sound : Sound P ⟨h, .idle, conns⟩)
    (hidle : ∀ c, h.dnsResolves[k]? = some c → c.request = false ∧ c.retryEvent = false) :
    Carries reason h (h.resolve env k) := by
  refine runResolve_carries env sound fun c hc horder => ?_
  obtain ⟨hrequest, hretry⟩ := hidle c hc
  obtain ⟨r, hr, hleft⟩ := CResolveOnly.resolve_result env.names (env.lookup h.trace) horder hrequest hretry
  exact ⟨r, hr, CResolveOnly.resolve_works hr, hleft⟩

/-- The retry event of a request. -/
theorem retryEvent_carries (sound : Sound P ⟨h, .idle, conns⟩) : Carries reason h (h.retryEvent env k) := by
  refine .of_seated fun seated => ?_
  unfold retryEvent
  split
  · exact .refl h
  · next c hc =>
    have horder := seated.dnsResolves k c hc
    split
    · next hretry =>
      have hchanged : Sound P
          ⟨{ h with dnsResolves := h.dnsResolves.insert k { c with retryEvent := false } }, .idle, conns⟩ :=
        (@resolveChanged_move P (fun _ => True) h conns k c { c with retryEvent := false } hc rfl rfl).sound sound
      have hcarries : Carries reason h
          { h with dnsResolves := h.dnsResolves.insert k { c with retryEvent := false } } :=
        .of_dnsResolves fun seated => seated.dnsResolves.insert
          ⟨horder.dns, fun h => absurd h Bool.false_ne_true⟩
      refine hcarries.trans (resolve_carries env hchanged fun c' hc' => ?_)
      change (h.dnsResolves.insert k _)[k]? = some c' at hc'
      rw [OrderedMap.getElem?_insert, if_pos rfl] at hc'
      obtain rfl := Option.some.inj hc'
      exact ⟨horder.retryEvent hretry, rfl⟩
    · exact .refl h

end Requests

section Starts

variable {reason : Prop} {P : CConnection → Prop} {h : CConnectionHandlerInt} {conns : List CConnection} {k : ConnID}
  (env : Environment)

/-- A call of `Connect` on an object that may be connected. -/
theorem connectCall_carries (hset : ∀ conn, P conn → conn.isSet = true) {call : ConnectCall}
    (hcarries : Carries reason h call.handler) (sound : Sound P ⟨call.handler, .idle, conns⟩)
    (hready : call.handler.Connectable call.place call.id) (hfew : FewIds (call.run env).trace) :
    Carries reason h (call.run env) :=
  hcarries.trans (connect_carries env hset sound (sound.fewIds (connect_leads env hready) hfew) hready)

/-- `StartConnection`. -/
theorem startConnection_carries (hset : ∀ conn, P conn → conn.isSet = true) {conn : CConnection} (hsupplied : P conn)
    (sound : Sound P ⟨h, .idle, conn :: conns⟩) (hfew : FewIds (h.startConnection env conn).trace) :
    Carries reason h (h.startConnection env conn) := by
  cases hcall : h.startingCall env conn with
  | some call =>
    rw [startConnection_of_call hcall] at hfew ⊢
    refine connectCall_carries env hset ?_ (sound.startingCall hsupplied hcall)
      (sound.startingCall_connectable hsupplied hcall) hfew
    obtain ⟨-, h', bytesRead, bytesWritten, hissue, heq⟩ := startingCall_shape hcall
    rw [heq]
    exact (issue_carries hissue).trans (.of_connecting fun seated =>
      seated.connecting.insertIfNew (ConnectionObject.inOrder_new _ _ _ _))
  | none =>
    have honly := isResolveOnly_of_no_call hcall
    have hdns : conn.isDns = true := (Bool.and_eq_true_iff.mp honly).1
    obtain ⟨id, h', hissue⟩ : ∃ id h', h.getNextConnectionIndex = (id, h') := ⟨_, _, rfl⟩
    have hissued : Carries reason h h' := issue_carries hissue
    simp only [startConnection, hissue, honly, if_true] at hfew ⊢
    cases hproxy : conn.proxy.isSet with
    | true => simpa only [if_true] using hissued
    | false =>
      simp only [hproxy, Bool.false_eq_true, if_false] at hfew ⊢
      have hstarted : Sound P
          ⟨{ h' with dnsResolves := h'.dnsResolves.insertIfNew id (.new conn id) }, .idle, conns⟩ :=
        (@Move.resolveStarted P (fun _ => True) h h' conns id conn hsupplied hproxy hissue).sound sound
      have hfew' : FewIds h'.trace := hstarted.fewIds (resolve_leads env id) hfew
      have hcarries : Carries reason h' { h' with dnsResolves := h'.dnsResolves.insertIfNew id (.new conn id) } :=
        .of_dnsResolves fun seated => seated.dnsResolves.insertIfNew
          ⟨hdns, fun h => absurd h Bool.false_ne_true⟩
      refine (hissued.trans hcarries).trans (resolve_carries env hstarted fun c hc => ?_)
      -- The id is free, so that the new request is what is filed under it.
      have hfree := (places_eq_zero_iff.mp (sound.fresh hissue hfew')).2.2.2
      obtain ⟨index, failures, rfl, -, -⟩ := issued_shape hissue
      change (h.dnsResolves.insertIfNew id (.new conn id))[id]? = some c at hc
      rw [OrderedMap.getElem?_insertIfNew, if_pos rfl, hfree] at hc
      obtain rfl := Option.some.inj hc
      exact ⟨rfl, rfl⟩

/-- A connection of those that were offered is started: the handler is in order, and few ids are issued there if few
are where all of them have been started. -/
theorem Sound.of_started {conn : CConnection} (sound : Sound P ⟨h, .idle, conn :: conns⟩)
    (hsupplied : ∀ other ∈ conn :: conns, P other)
    (hfew : FewIds ((conn :: conns).foldl (startConnection env) h).trace) :
    Sound P ⟨h.startConnection env conn, .idle, conns⟩ ∧ FewIds (h.startConnection env conn).trace := by
  have hstarted : Sound P ⟨h.startConnection env conn, .idle, conns⟩ :=
    Moves.sound (@startConnection_leads P (fun _ => True) h conns env conn (hsupplied conn List.mem_cons_self) sound)
      sound
  have hleads := @startConnections_leads P (fun _ => True) (h.startConnection env conn) conns env [] fun other hother =>
    hsupplied other (List.mem_cons_of_mem _ hother)
  rw [List.append_nil] at hleads
  exact ⟨hstarted, hstarted.fewIds hleads hfew⟩

/-- Every connection that was offered is started. -/
theorem startConnections_carries (hset : ∀ conn, P conn → conn.isSet = true) (hsupplied : ∀ conn ∈ conns, P conn)
    (sound : Sound P ⟨h, .idle, conns⟩) (hfew : FewIds (conns.foldl (startConnection env) h).trace) :
    Carries reason h (conns.foldl (startConnection env) h) := by
  induction conns generalizing h with
  | nil => exact .refl h
  | cons conn conns ih =>
    obtain ⟨hstarted, hfew'⟩ := sound.of_started env hsupplied hfew
    exact (startConnection_carries env hset (hsupplied conn List.mem_cons_self) sound hfew').trans
      (ih (fun other hother => hsupplied other (List.mem_cons_of_mem _ hother)) hstarted hfew)

end Starts

section Events

variable {reason : Prop} {P : CConnection → Prop} {h : CConnectionHandlerInt} {conns : List CConnection}
  {place : Place} {k : ConnID} {obj obj' : ConnectionObject} (env : Environment)

/-- An object changes, but not its class or whether it has a bufferevent. -/
theorem put_carries (hobj : (h.objects place)[k]? = some obj) (hkind : obj'.kind = obj.kind)
    (hbev : obj'.base.bev.isSome = obj.base.bev.isSome) : Carries reason h (h.put place k obj') := by
  cases place with
  | connecting =>
    refine .of_connecting fun seated => seated.connecting.insert ?_
    rw [hkind]
    exact seated.connecting k obj hobj
  | connected =>
    refine .of_connected fun seated => seated.connected.insert ?_
    rw [hkind, hbev]
    exact seated.connected k obj hobj

/-- The retry timer of a connection. -/
theorem reconnectFunc_carries (hset : ∀ conn, P conn → conn.isSet = true) (sound : Sound P ⟨h, .idle, conns⟩)
    (hfew : FewIds (h.reconnectFunc env place k).trace) : Carries reason h (h.reconnectFunc env place k) := by
  rw [reconnectFunc_eq] at hfew ⊢
  cases hcall : h.reconnectCall place k with
  | none => exact .refl h
  | some call =>
    rw [hcall] at hfew
    refine connectCall_carries env hset ?_ (sound.reconnectCall hcall) (sound.reconnectCall_connectable hcall) hfew
    obtain ⟨obj, hobj, -, rfl⟩ := reconnectCall_shape hcall
    exact put_carries hobj rfl rfl

/-- A socket is accepted. -/
theorem acceptConn_carries (addr : Bytes) (sound : Sound P ⟨h, .idle, conns⟩)
    (hfew : FewIds (h.acceptConn env k addr).trace) : Carries reason h (h.acceptConn env k addr) := by
  unfold acceptConn at hfew ⊢
  split at hfew
  · exact .refl h
  · next conn hbind =>
    rw [onIncomingConnection_eq] at hfew ⊢
    obtain ⟨id, h', hissue⟩ : ∃ id h', h.getNextConnectionIndex = (id, h') := ⟨_, _, rfl⟩
    obtain ⟨-, condition, filed, bytesRead, bytesWritten, ret, h'', hfiled, hcall, hrun⟩ :=
      sound.acceptingCall_asks hissue hfew
    have hchecked : Carries reason h (h'.check condition .incomingConn) :=
      (issue_carries hissue).trans (check_carries condition (by simp))
    have hfiled' : filed.kind.InOrder := hfiled ▸ trivial
    have haccepted : (ConnectionObject.ofSocket conn id bytesRead bytesWritten addr).kind.InOrder := trivial
    have hpassing : Carries reason h { h'.check condition .incomingConn with
        connecting := (((h'.check condition .incomingConn).connecting.insertIfNew id filed).insert id
          (.ofSocket conn id bytesRead bytesWritten addr)).erase id } :=
      hchecked.trans (.of_connecting fun seated =>
        ((seated.connecting.insertIfNew hfiled').insert haccepted).erase id)
    have hcalled : Carries reason h h'' := hpassing.trans (callUser_carries hcall)
    rw [hrun]
    split
    · exact hcalled.trans (establish_carries trivial rfl)
    · exact hcalled

/-- An effect of an established connection. -/
theorem performEffect_carries (h : CConnectionHandlerInt) (effect : ConnEffect) :
    Carries reason h (h.performEffect env .connected k effect) := by
  unfold performEffect
  split
  · exact .refl h
  · next obj hobj =>
    split
    · have hput : Carries reason h (h.put .connected k { obj with base := obj.base.disconnectInt }) :=
        put_carries hobj rfl Option.isSome_map
      exact hput.trans (onDisconnected_carries env _)
    · split
      · exact .refl h
      · exact callUser_carries rfl

/-- An event other than a read callback has a reaction where there is a bufferevent. -/
theorem ConnectionBase.react_ne_none {base : ConnectionBase} (hbev : base.bev.isSome = true) {e : ConnEvent}
    (hother : e ≠ .readCallback) : base.react e ≠ none := by
  obtain ⟨bev, hbev⟩ := Option.isSome_iff_exists.mp hbev
  cases e with
  | readCallback => contradiction
  | disconnectWaitFunc => simp [ConnectionBase.react, ConnectionBase.disconnectWhenFinishedInt, hbev]
  | checkWriteBufferFunc => simp [ConnectionBase.react, ConnectionBase.checkWriteBufferInt, hbev]
  | firstDataFunc => simp [ConnectionBase.react, ConnectionBase.firstDataInt, hbev]
  | _ => simp [ConnectionBase.react, hbev]

/-- An event of a connection. -/
theorem connectionEvent_carries (e : ConnEvent) (sound : Sound P ⟨h, .idle, conns⟩)
    (hreads : e = .readCallback → ∀ obj, (h.objects place)[k]? = some obj → obj.base.bev.isSome = true →
      obj.base.react e = none → reason) :
    Carries reason h (h.connectionEvent env place k e) := by
  refine .of_seated fun seated => ?_
  unfold connectionEvent
  split
  · exact .refl h
  · next obj hobj =>
    split
    · next harmed =>
      obtain rfl := sound.established_of_armed hobj harmed
      have hbev := (seated.connected k obj hobj).2
      split
      · next hnone =>
        have hread : e = .readCallback := by_contra fun hother => ConnectionBase.react_ne_none hbev hother hnone
        exact .of_reason (hreads hread obj hobj hbev hnone)
      · next base effects hreact =>
        have hput : Carries reason h (h.put .connected k { obj with base }) :=
          put_carries hobj rfl (ConnectionBase.react_spec hreact).1.bev
        have hfold (effects : List ConnEffect) (h : CConnectionHandlerInt) :
            Carries reason h (effects.foldl (performEffect env .connected k) h) := by
          induction effects generalizing h with
          | nil => exact .refl h
          | cons effect effects ih => exact (performEffect_carries env h effect).trans (ih _)
        exact hput.trans (hfold effects _)
    · exact .refl h

/-- `Start`. -/
theorem start_carries (outgoingLimit : Int32) : Carries reason h (h.start env outgoingLimit) := by
  unfold start
  split
  · exact fail_carries (by simp)
  · refine Carries.trans ?_ (callUser_carries rfl)
    exact .of_same rfl rfl rfl rfl

/-- `ShutdownInt`. -/
theorem shutdownInt_carries : Carries reason h (h.shutdownInt env) := by
  have hconnected (entries : List (ConnID × ConnectionObject)) (h : CConnectionHandlerInt) :
      Carries reason h (entries.foldl (shutdownConnected env) h) := by
    induction entries generalizing h with
    | nil => exact .refl h
    | cons entry entries ih =>
      have hcounted : Carries reason h (h.count entry.2.isOutgoing (-1)) :=
        .of_same (count_connecting _ _ _) (count_connected _ _ _) (count_dnsResolves _ _ _) (count_failed _ _ _)
      exact (hcounted.trans (callUser_carries rfl)).trans (ih _)
  have hconnecting (entries : List (ConnID × ConnectionObject)) (h : CConnectionHandlerInt) :
      Carries reason h (entries.foldl (shutdownConnecting env) h) := by
    induction entries generalizing h with
    | nil => exact .refl h
    | cons entry entries ih =>
      refine Carries.trans ?_ (ih _)
      unfold shutdownConnecting
      dsimp only
      split
      · exact (callUser_carries rfl).trans (takeConnecting_carries _)
      · exact takeConnecting_carries _
  unfold shutdownInt
  split
  · exact .refl h
  · have hcleared : Carries reason h { h with connected := ∅, binds := ∅, isShutdown := true } := fun seated =>
      ⟨⟨seated.connecting, OrderedMap.All.empty, seated.dnsResolves⟩, Or.inl⟩
    have hended (h : CConnectionHandlerInt) : Carries reason h { h with
        dnsResolves := ∅
        dnsBase := false
        requestEvent := false
        shutdownEvent := none } := fun seated =>
      ⟨⟨seated.connecting, seated.connected, OrderedMap.All.empty⟩, Or.inl⟩
    have hdropped (h : CConnectionHandlerInt) :
        Carries reason h (h.connecting.toList.foldl (shutdownConnecting env) h) := hconnecting _ h
    have hdisconnected := hcleared.trans (hconnected h.connected.toList _)
    exact ((hdisconnected.trans (hdropped _)).trans (hended _)).trans (check_carries _ (by simp))

end Events

/-- At an event of an input, a method makes nothing of what the other end has sent: an assertion about
what it reads fails, or its loop never ends. -/
def CConnectionHandlerInt.ReadFails (h : CConnectionHandlerInt) (input : HandlerInput) : Prop :=
  match input.event with
  | .connection place k e => e = .readCallback ∧ ∃ obj, (h.objects place)[k]? = some obj ∧
      obj.base.bev.isSome = true ∧ obj.base.react e = none
  | .handshake place k s => ∃ obj, (h.objects place)[k]? = some obj ∧ obj.handshake input.env.names s = none
  | _ => False

section Steps

variable {P : CConnection → Prop} {L : Int32 → Prop} {h : CConnectionHandlerInt} {input : HandlerInput}

/-- Few ids were issued before a step if few were after it. -/
theorem fewIds_of_react (supplies : input.Supplies P L) (sound : Sound P ⟨h, .idle, []⟩)
    (henabled : h.enabled input.event = true) (hfew : FewIds (h.react input.env input.event).trace) :
    FewIds h.trace := by
  have hopening := Moves.fewIds (react_moves supplies sound henabled) hfew
  unfold CConnectionHandlerInt.opening at hopening
  split at hopening
  · exact hopening.of_append
  · exact hopening

/-- A step in which the user is asked for connections begins in order. -/
theorem Sound.asked (sound : Sound P ⟨h, .idle, []⟩) (env : Environment) (henabled : h.enabled .requestEvent = true)
    (hneeded : 0 < h.needed) : Sound P ⟨(h.callUser env none h.asking).2, .idle, h.starting env⟩ := by
  have hopened := sound.opening env henabled
  rw [CConnectionHandlerInt.opening, if_pos ⟨rfl, hneeded⟩] at hopened
  obtain ⟨ret, h', hcall, frame⟩ := callUser_frame h env none h.asking
  have hanswer : env.answer h.trace h.asking = ret := congrArg Prod.fst hcall
  rw [hanswer] at hopened
  rw [hcall]
  exact (@Move.user P (fun _ => True) _ _ _ _ frame).sound hopened

/-- What the handler does at an event fails an assertion of an object only where something is read. -/
theorem react_carries (hset : ∀ conn, P conn → conn.isSet = true) (supplies : input.Supplies P L)
    (sound : Sound P ⟨h, .idle, []⟩) (henabled : h.enabled input.event = true)
    (hfew : FewIds (h.react input.env input.event).trace) :
    Carries (h.ReadFails input) h (h.react input.env input.event) := by
  have hbefore := fewIds_of_react supplies sound henabled hfew
  obtain ⟨event, env⟩ := input
  change Carries _ h (h.react env event)
  cases event with
  | requestEvent =>
    change Carries _ h (if 0 < h.needed then (h.starting env).foldl (startConnection env)
      (h.callUser env none h.asking).2 else h)
    split
    · next hneeded =>
      change FewIds (if 0 < h.needed then (h.starting env).foldl (startConnection env)
        (h.callUser env none h.asking).2 else h).trace at hfew
      rw [if_pos hneeded] at hfew
      exact (callUser_carries rfl).trans
        (startConnections_carries env hset (supplies.starting h) (sound.asked env henabled hneeded) hfew)
    · exact .refl h
  | start outgoingLimit => exact start_carries env outgoingLimit
  | call c => exact apiCall_carries c
  | pumpReturn => exact .of_same rfl rfl rfl rfl
  | shutdownEvent =>
    refine Carries.trans ?_ (shutdownInt_carries env)
    exact .of_same rfl rfl rfl rfl
  | reconnectFunc place k => exact reconnectFunc_carries env hset sound hfew
  | connEvent place k event =>
    refine runMethod_carries_of_result env sound hbefore (fun obj r hobj hr => ?_) fun obj hobj hkind => ?_
    · exact working_of_steps sound hobj (ConnectionObject.connEvent_works hr)
        (fun hidle => ConnectionObject.connEvent_of_idle hidle hr)
        fun hhandles => ConnectionObject.connEvent_steps hhandles hr
    · exact ConnectionObject.connEvent_result event hkind (sound.objects.ready_of_found hobj).suits
        (sound.handles_le hbefore hobj)
  | dnsCallback place k result =>
    refine runMethod_carries_of_result env sound hbefore (fun obj r hobj hr => ?_) fun obj hobj hkind => ?_
    · exact working_of_steps sound hobj (ConnectionObject.dnsCallback_works hr)
        (fun hidle => ConnectionObject.dnsCallback_of_idle hidle hr)
        fun hhandles => ConnectionObject.dnsCallback_steps hhandles hr
    · exact ConnectionObject.dnsCallback_result result hkind (sound.handles_le hbefore hobj)
  | handshake place k s =>
    refine runMethod_carries env sound hbefore (fun obj r hobj hr => ?_)
      (fun obj r hobj hkind hr => ConnectionObject.handshake_inOrder hr hkind)
      fun obj hobj _ hnone => ⟨obj, hobj, hnone⟩
    exact working_of_steps sound hobj (ConnectionObject.handshake_works hr)
      (fun hidle => ConnectionObject.handshake_of_idle hidle hr)
      fun hhandles => ConnectionObject.handshake_steps hhandles hr
  | connection place k e =>
    exact connectionEvent_carries env e sound fun hread obj hobj hbev hnone => ⟨hread, obj, hobj, hbev, hnone⟩
  | resolveOnly k result =>
    refine runResolve_carries env sound fun c hc horder => ⟨_, rfl, ?_, ?_⟩
    · exact CResolveOnly.dnsCallback_works result
    · exact CResolveOnly.dnsCallback_leaves result horder
  | retryEvent k => exact retryEvent_carries env sound
  | acceptConn k addr => exact acceptConn_carries env addr sound hfew

/-- So does a step. -/
theorem step_carries (hset : ∀ conn, P conn → conn.isSet = true) (supplies : input.Supplies P L)
    (sound : Sound P ⟨h, .idle, []⟩) (hfew : FewIds (h.step input).trace) :
    Carries (h.ReadFails input) h (h.step input) := by
  unfold step at hfew ⊢
  split
  · next hstep =>
    rw [if_pos hstep] at hfew
    exact react_carries hset supplies sound (Bool.and_eq_true_iff.mp hstep).2 hfew
  · exact .refl h

/-- Few ids were issued before it if few were after it. -/
theorem fewIds_of_step (supplies : input.Supplies P L) (sound : Sound P ⟨h, .idle, []⟩)
    (hfew : FewIds (h.step input).trace) : FewIds h.trace := by
  unfold step at hfew
  split at hfew
  · next hstep => exact fewIds_of_react supplies sound (Bool.and_eq_true_iff.mp hstep).2 hfew
  · exact hfew

/-- The objects are seated in every state that a run reaches while few ids are issued. -/
theorem run_seated (hset : ∀ conn, P conn → conn.isSet = true) (inputs : List HandlerInput)
    (hsupplies : ∀ input ∈ inputs, input.Supplies P L) (hfew : FewIds (run inputs).trace) : (run inputs).Seated := by
  induction inputs using List.reverseRecOn with
  | nil => exact ⟨OrderedMap.All.empty, OrderedMap.All.empty, OrderedMap.All.empty⟩
  | append_singleton inputs input ih =>
    rw [run_concat] at hfew ⊢
    have hrest : ∀ other ∈ inputs, other.Supplies P L := fun other hother => hsupplies other (by simp [hother])
    have hinput : input.Supplies P L := hsupplies input (by simp)
    have sound := run_sound inputs hrest
    exact (step_carries hset hinput sound hfew (ih hrest (fewIds_of_step hinput sound hfew))).1

end Steps

end LibBtcNet
