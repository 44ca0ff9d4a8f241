import LibBtcNet.CallbackProtocol
import LibBtcNet.ConnectCalls
import LibBtcNet.ConnectionHistories
import LibBtcNet.HandlerAssertions

/-!
# The histories of a run

What a step does is followed callback by callback, for the histories of all ids at once. An id that a step
has in hand has no history yet: a connection that the user is asked about, one that reports the
effects of an event, or those that a shutdown has taken out of their map. Along with the histories go
the properties of connection objects that last, whatever happens to an object.
-/

namespace LibBtcNet

open CConnectionHandlerInt

/-- A step of a handshake with a proxy, and the names of addresses at that time. -/
abbrev Shake : Type := NameInfo × ProxyStep

/-- What has come to an id: the steps of its handshake with a proxy, and the events since it is established. -/
structure Met where
  shakes : List Shake
  events : List ConnEvent

/-- The connection is in a handshake with its proxy. -/
def ConnectionObject.isShaking (obj : ConnectionObject) : Bool :=
  match obj.kind with
  | .proxied c => c.proxyBev.isSome
  | _ => false

/-- What a method leaves of an object by its report, after the steps of a handshake: one that waits, one that may be
tried again, or one that is established on a bufferevent. -/
def ConnResult.Leaves (Q : List Shake → Place → ConnectionObject → Prop)
    (S : List Shake → Bool → CConnection → BufferEvent → Prop) (shakes : List Shake)
    (r : ConnResult ConnectionObject) : Prop :=
  match r.report with
  | .waiting => Q shakes .connecting r.obj
  | .connectionFailure _ _ retry => retry = true → ∀ newId, Q [] .connecting (r.obj.retry newId)
  | .outgoingConnected bev _ => Q shakes .connected r.obj.enable ∧ S shakes true r.obj.base.conn bev
  | .incomingConnected _ _ => True

/-- A property of the objects in either map that lasts whatever happens to an object, and one of the bufferevents
that connections are established on. Both may speak of the steps of the handshake so far. -/
structure Lasting (Q : List Shake → Place → ConnectionObject → Prop)
    (S : List Shake → Bool → CConnection → BufferEvent → Prop) : Prop where
  begun {names : NameInfo} {lookup : Lookup} {conn : CConnection} {id : ConnID} {bytesRead bytesWritten : ℕ}
    {r : ConnResult ConnectionObject} (hset : conn.isSet = true)
    (hconnects : conn.isResolveOnly = false)
    (hr : (ConnectionObject.new conn id bytesRead bytesWritten).connect names lookup = some r) : r.Leaves Q S []
  resumed {shakes : List Shake} {names : NameInfo} {lookup : Lookup} {obj : ConnectionObject}
    {r : ConnResult ConnectionObject} (hobj : Q shakes .connecting obj) (hwaits : obj.base.reconnectFunc = true)
    (hidle : obj.kind.handles = 0)
    (hr : ConnectionObject.connect names lookup { obj with base := { obj.base with reconnectFunc := false } } =
      some r) : r.Leaves Q S shakes
  connEvent {shakes : List Shake} {obj : ConnectionObject} {event : BevEvents} {r : ConnResult ConnectionObject}
    (hobj : Q shakes .connecting obj) (hwaits : obj.base.reconnectFunc = false) (hr : obj.connEvent event = some r) :
    r.Leaves Q S shakes
  dnsCallback {shakes : List Shake} {obj : ConnectionObject} {result : DnsResult} {r : ConnResult ConnectionObject}
    (hobj : Q shakes .connecting obj) (hwaits : obj.base.reconnectFunc = false)
    (hr : obj.dnsCallback result = some r) : r.Leaves Q S shakes
  handshake {shakes : List Shake} {names : NameInfo} {obj : ConnectionObject} {s : ProxyStep}
    {r : ConnResult ConnectionObject} (hobj : Q shakes .connecting obj) (hwaits : obj.base.reconnectFunc = false)
    (hr : obj.handshake names s = some r) : r.Leaves Q S (shakes ++ if obj.isShaking then [(names, s)] else [])
  accepted (conn : CConnection) (id : ConnID) (bytesRead bytesWritten : ℕ) (addr : Bytes) :
    Q [] .connected (ConnectionObject.ofSocket conn id bytesRead bytesWritten addr).enable ∧ S [] false conn .socketNew
  called {shakes : List Shake} {obj : ConnectionObject} {c : ConnCall} {base : ConnectionBase}
    (hobj : Q shakes .connected obj) (hcall : obj.base.call c = some base) : Q shakes .connected { obj with base }
  reacted {shakes : List Shake} {obj : ConnectionObject} {e : ConnEvent} {base : ConnectionBase}
    {effects : List ConnEffect} (hobj : Q shakes .connected obj) (harmed : obj.base.armed e = true)
    (hreact : obj.base.react e = some (base, effects)) (hgoes : .disconnectInt ∉ effects) :
    Q shakes .connected { obj with base }
  ended {shakes : List Shake} {obj : ConnectionObject} {e : ConnEvent} {base : ConnectionBase}
    {effects : List ConnEffect} (hobj : Q shakes .connected obj) (harmed : obj.base.armed e = true)
    (hreact : obj.base.react e = some (base, effects)) (hends : .disconnectInt ∈ effects)
    (hpersistent : obj.base.conn.opts.fPersistent = true) (houtgoing : obj.isOutgoing = true) (newId : ConnID) :
    Q [] .connecting { obj with base := base.disconnectInt.retry newId }

/-- Nothing has come to an id, and nothing was heard of it. -/
structure Unheard (met : ConnID → Met) (h : CConnectionHandlerInt) (k : ConnID) : Prop where
  events : (met k).events = []
  heard : mentions k h.trace = []
  absent : h.connected[k]? = none

/-- Every id that is not in hand has a history, and lasting objects. One that is connecting or has not been issued
has not been heard of. -/
structure Told (Q : List Shake → Place → ConnectionObject → Prop)
    (S : List Shake → Bool → CConnection → BufferEvent → Prop) (held : List ConnID) (met : ConnID → Met)
    (h : CConnectionHandlerInt) : Prop where
  history (k : ConnID) (hheld : k ∉ held) :
    History (S (met k).shakes) k (met k).events (mentions k h.trace) (h.connected[k]?.map (·.base))
  silent (k : ConnID) (hk : h.connecting[k]? ≠ none ∨ k ∉ issued h.trace) : Unheard met h k
  fresh (k : ConnID) (hk : k ∉ issued h.trace) : (met k).shakes = []
  filed (k : ConnID) (hk : h.connecting[k]? ≠ none) : k ∈ issued h.trace
  numbered : Numbered h.trace h.connectionIndex
  connecting (k : ConnID) (hheld : k ∉ held) (obj : ConnectionObject) (hobj : h.connecting[k]? = some obj) :
    Q (met k).shakes .connecting obj
  connected (k : ConnID) (hheld : k ∉ held) (obj : ConnectionObject) (hobj : h.connected[k]? = some obj) :
    Q (met k).shakes .connected obj

section Calls

variable {h : CConnectionHandlerInt} {k : ConnID} {obj : ConnectionObject}

/-- A call of the user reaches an established connection with an id as a call of that connection, if at all. -/
theorem apiCall_reached (hobj : h.connected[k]? = some obj) (c : ApiCall) :
    ∃ base, obj.base.Reached base ∧ (h.apiCall c).connected[k]? = some { obj with base } := by
  have hcalled (id : ConnID) (c : ConnCall) :
      ∃ base, obj.base.Reached base ∧ (h.connectionCall id c).connected[k]? = some { obj with base } := by
    unfold connectionCall
    split
    · split
      · exact ⟨obj.base, .refl _, hobj⟩
      · next found hfound =>
        split
        · exact ⟨obj.base, .refl _, hobj⟩
        · next base hcall =>
          by_cases heq : id = k
          · subst heq
            obtain rfl := Option.some.inj (hfound.symm.trans hobj)
            exact ⟨base, .of_call hcall, by simp [put]⟩
          · exact ⟨obj.base, .refl _, by simpa [put, heq] using hobj⟩
    · exact ⟨obj.base, .refl _, hobj⟩
  cases c with
  | bind conn listens =>
    refine ⟨obj.base, .refl _, ?_⟩
    obtain ⟨id, index, failures, heq, -, -⟩ := getNextConnectionIndex_eq h
    change (h.bind conn listens).connected[k]? = _
    rw [CConnectionHandlerInt.bind, heq]
    simp only [check_eq]
    split <;> exact hobj
  | shutdown =>
    refine ⟨obj.base, .refl _, ?_⟩
    change h.shutdown.connected[k]? = _
    unfold shutdown
    split <;> exact hobj
  | closeConnection id immediately => exact hcalled id _
  | send id size => exact hcalled id _
  | setRateLimit id => exact hcalled id _
  | pauseRecv id => exact hcalled id _
  | unpauseRecv id => exact hcalled id _
  | resetPingTimeout id seconds => exact hcalled id (.resetPingTimeout seconds)

/-- So do call after call. -/
theorem foldl_apiCall_reached (hobj : h.connected[k]? = some obj) (calls : List ApiCall) :
    ∃ base, obj.base.Reached base ∧ (calls.foldl apiCall h).connected[k]? = some { obj with base } := by
  induction calls generalizing h obj with
  | nil => exact ⟨obj.base, .refl _, hobj⟩
  | cons c calls ih =>
    obtain ⟨base, hreached, hfound⟩ := apiCall_reached hobj c
    obtain ⟨base', hreached', hfound'⟩ := ih hfound
    exact ⟨base', hreached.trans hreached', hfound'⟩

end Calls

namespace Told

variable {Q : List Shake → Place → ConnectionObject → Prop} {S : List Shake → Bool → CConnection → BufferEvent → Prop}
  {held held' : List ConnID} {met met' : ConnID → Met} {h h' : CConnectionHandlerInt} {k : ConnID}

/-- Only the maps of connections, what was heard and the ids matter. -/
theorem of_same (told : Told Q S held met h) (hconnecting : h'.connecting = h.connecting)
    (hconnected : h'.connected = h.connected) (htrace : h'.trace = h.trace)
    (hindex : h'.connectionIndex = h.connectionIndex) : Told Q S held met h' := by
  obtain ⟨history, silent, fresh, filed, numbered, connecting, connected⟩ := told
  refine ⟨?_, ?_, ?_, ?_, ?_, ?_, ?_⟩
  · rwa [hconnected, htrace]
  · intro k hk
    rw [hconnecting, htrace] at hk
    obtain ⟨hmet, hheard, habsent⟩ := silent k hk
    exact ⟨hmet, htrace ▸ hheard, hconnected ▸ habsent⟩
  · rwa [htrace]
  · rwa [hconnecting, htrace]
  · rwa [htrace, hindex]
  · rwa [hconnecting]
  · rwa [hconnected]

/-- More may be in hand. -/
theorem hold (told : Told Q S held met h) (hheld : ∀ k, k ∉ held' → k ∉ held) : Told Q S held' met h :=
  ⟨fun k hk => told.history k (hheld k hk), told.silent, told.fresh, told.filed, told.numbered,
    fun k hk => told.connecting k (hheld k hk), fun k hk => told.connected k (hheld k hk)⟩

/-- An id in hand is let go with its history and its object. -/
theorem release (told : Told Q S (k :: held) met h)
    (hhistory : History (S (met k).shakes) k (met k).events (mentions k h.trace) (h.connected[k]?.map (·.base)))
    (hconnecting : ∀ obj, h.connecting[k]? = some obj → Q (met k).shakes .connecting obj)
    (hconnected : ∀ obj, h.connected[k]? = some obj → Q (met k).shakes .connected obj) : Told Q S held met h := by
  obtain ⟨history, silent, fresh, filed, numbered, connecting, connected⟩ := told
  have hnot {a : ConnID} (hne : a ≠ k) (ha : a ∉ held) : a ∉ k :: held := fun hmem =>
    (List.mem_cons.mp hmem).elim hne ha
  refine ⟨fun a ha => ?_, silent, fresh, filed, numbered, fun a ha => ?_, fun a ha => ?_⟩
  · by_cases heq : a = k
    · exact heq ▸ hhistory
    · exact history a (hnot heq ha)
  · by_cases heq : a = k
    · exact heq ▸ hconnecting
    · exact connecting a (hnot heq ha)
  · by_cases heq : a = k
    · exact heq ▸ hconnected
    · exact connected a (hnot heq ha)

/-- Items that mention no id are added. -/
theorem record {items : Trace} (told : Told Q S held met h) (hmentions : ∀ k, k ∉ held → mentions k items = [])
    (hspoken : ∀ k, mentions k items ≠ [] → h.connecting[k]? = none ∧ k ∈ issued h.trace)
    (hissued : issued items = []) : Told Q S held met (h.record items) := by
  obtain ⟨history, silent, fresh, filed, numbered, connecting, connected⟩ := told
  have hsame : issued (h.record items).trace = issued h.trace := by
    change issued (h.trace ++ items) = _
    rw [issued_append, hissued, List.append_nil]
  refine ⟨fun k hk => ?_, fun k hk => ?_, fun k hk => fresh k (hsame ▸ hk), fun k hk => ?_, numbered.append hissued,
    connecting, connected⟩
  · change History (S (met k).shakes) k (met k).events (mentions k (h.trace ++ items)) _
    rw [mentions_append, hmentions k hk, List.append_nil]
    exact history k hk
  · rw [hsame] at hk
    have hnone : mentions k items = [] := by
      by_contra hspeaks
      obtain ⟨hconnecting, hissued⟩ := hspoken k hspeaks
      exact hk.elim (fun hne => hne hconnecting) fun hnot => hnot hissued
    obtain ⟨hmet, hheard, habsent⟩ := silent k hk
    refine ⟨hmet, ?_, habsent⟩
    change mentions k (h.trace ++ items) = []
    rw [mentions_append, hheard, hnone, List.append_nil]
  · rw [hsame]
    exact filed k hk

/-- Something is asked of the network. -/
theorem net (told : Told Q S held met h) (conn : CConnection) (net : List NetAction) :
    Told Q S held met (h.record (net.map (.net conn))) :=
  told.record (fun k _ => mentions_net k conn net) (fun k hspeaks => absurd (mentions_net k conn net) hspeaks)
    (issued_net conn net)

/-- A callback that mentions no id. -/
theorem called {c : Callback} (told : Told Q S held met h) (hid : c.id? = none) (ret : Bool)
    (about : Option CConnection) : Told Q S held met (h.called c ret about) :=
  told.record (fun k _ => mentions_none hid ret about k)
    (fun k hspeaks => absurd (mentions_none hid ret about k) hspeaks) rfl

/-- A callback about an id in hand that has been issued and is not connecting. -/
theorem spoken {c : Callback} (told : Told Q S held met h) (hid : c.id? = some k) (hheld : k ∈ held)
    (hconnecting : h.connecting[k]? = none) (hissued : k ∈ issued h.trace) (ret : Bool)
    (about : Option CConnection) : Told Q S held met (h.called c ret about) := by
  refine told.record (fun a ha => ?_) (fun a hspeaks => ?_) rfl
  · have hne : k ≠ a := by
      rintro rfl
      exact ha hheld
    rw [mentions_one hid, if_neg hne]
  · by_cases heq : k = a
    · exact heq ▸ ⟨hconnecting, hissued⟩
    · rw [mentions_one hid, if_neg heq] at hspeaks
      contradiction

/-- The user makes calls. -/
theorem calls (lasting : Lasting Q S) (told : Told Q S held met h) (calls : List ApiCall) :
    Told Q S held met (calls.foldl apiCall h) := by
  have frame := foldl_apiCall_frame h calls
  obtain ⟨history, silent, fresh, filed, numbered, connecting, connected⟩ := told
  have hissued {k : ConnID} (hk : k ∈ issued h.trace) : k ∈ issued (calls.foldl apiCall h).trace := by
    obtain ⟨items, htrace, -⟩ := frame.items
    rw [htrace]
    exact mem_issued_append hk items
  refine ⟨fun k hk => ?_, fun k hk => ?_, fun k hk => fresh k fun hold => hk (hissued hold), fun k hk => ?_,
    frame.numbered numbered, fun k hk obj hobj => ?_, fun k hk obj hobj => ?_⟩
  · rw [frame.mentions]
    have hhistory := history k hk
    cases hobj : h.connected[k]? with
    | none =>
      rw [hobj] at hhistory
      rwa [(frame.connected_eq_none_iff k).mpr hobj]
    | some obj =>
      rw [hobj] at hhistory
      obtain ⟨base, hreached, hfound⟩ := foldl_apiCall_reached hobj calls
      rw [hfound]
      exact History.reached hhistory hreached
  · rw [frame.connecting] at hk
    obtain ⟨hmet, hheard, habsent⟩ := silent k (hk.imp_right fun hnot hissue => hnot (hissued hissue))
    exact ⟨hmet, (frame.mentions k).trans hheard, (frame.connected_eq_none_iff k).mpr habsent⟩
  · rw [frame.connecting] at hk
    exact hissued (filed k hk)
  · rw [frame.connecting] at hobj
    exact connecting k hk obj hobj
  · obtain ⟨before, hbefore, -⟩ := frame.called k obj hobj
    obtain ⟨base, hreached, hfound⟩ := foldl_apiCall_reached hbefore calls
    obtain rfl := Option.some.inj (hfound.symm.trans hobj)
    exact hreached.invariant (fun other c next hother hcall =>
      @Lasting.called Q S lasting (met k).shakes { before with base := other } c next hother hcall)
        (connected k hk before hbefore)

/-- The user is called, and makes calls before it answers. -/
theorem callUser {env : Environment} {about : Option CConnection} {c : Callback} {ret : Bool}
    (lasting : Lasting Q S) (hcall : h.callUser env about c = (ret, h'))
    (told : Told Q S held met (h.called c ret about)) : Told Q S held met h' := by
  obtain ⟨rfl, rfl⟩ := Prod.mk.inj hcall
  exact told.calls lasting _

/-- The user is asked or told something that mentions no id. -/
theorem asked {env : Environment} {about : Option CConnection} {c : Callback} {ret : Bool}
    (lasting : Lasting Q S) (told : Told Q S held met h) (hid : c.id? = none)
    (hcall : h.callUser env about c = (ret, h')) : Told Q S held met h' :=
  callUser lasting hcall (told.called hid ret about)

/-- An id is issued. While few are, nothing is known of it. -/
theorem issue {id : ConnID} (told : Told Q S held met h) (hissue : h.getNextConnectionIndex = (id, h'))
    (hfew : FewIds h'.trace) : Told Q S held met h' ∧ id ∈ issued h'.trace ∧ h'.connecting[id]? = none ∧
      Unheard met h' id ∧ (met id).shakes = [] := by
  obtain ⟨index, failures, rfl, -, hnumbered⟩ := issued_shape hissue
  obtain ⟨history, silent, fresh, filed, numbered, connecting, connected⟩ := told
  have hmentions (a : ConnID) : mentions a (h.trace ++ [.issued id]) = mentions a h.trace := by
    rw [mentions_append, mentions_issued, List.append_nil]
  have hfresh : id ∉ issued h.trace :=
    fresh_of_issued (hnumbered numbered) hfew (List.mem_singleton_self _)
  have hunheard {a : ConnID} (unheard : Unheard met h a) :
      Unheard met { h with
        connectionIndex := index
        trace := h.trace ++ [.issued id]
        failed := h.failed ++ failures } a :=
    ⟨unheard.events, (hmentions a).trans unheard.heard, unheard.absent⟩
  refine ⟨⟨fun a ha => ?_, fun a ha => ?_, fun a ha => fresh a fun hold => ha (mem_issued_append hold _),
    fun a ha => ?_, hnumbered numbered, connecting, connected⟩, ?_, ?_, hunheard (silent id (Or.inr hfresh)),
    fresh id hfresh⟩
  · change History (S (met a).shakes) a (met a).events (mentions a (h.trace ++ [.issued id])) _
    rw [hmentions]
    exact history a ha
  · exact hunheard (silent a (ha.imp_right fun hnot hold => hnot (mem_issued_append hold _)))
  · exact mem_issued_append (filed a ha) _
  · change id ∈ issued (h.trace ++ [.issued id])
    rw [issued_append]
    exact List.mem_append_right _ (List.mem_singleton_self _)
  · by_contra hne
    exact hfresh (filed id hne)

/-- The connections that are not established change, but for new ones under ids that have just been issued. -/
theorem of_connecting {connecting : ConnMap ConnectionObject} (told : Told Q S held met h)
    (hfound : ∀ k : ConnID, connecting[k]? ≠ none →
      h.connecting[k]? ≠ none ∨ (k ∈ issued h.trace ∧ Unheard met h k))
    (hlasting : ∀ k, k ∉ held → ∀ obj, connecting[k]? = some obj → Q (met k).shakes .connecting obj) :
    Told Q S held met { h with connecting } := by
  obtain ⟨history, silent, fresh, filed, numbered, -, connected⟩ := told
  refine ⟨history, fun k hk => ?_, fresh, fun k hk => ?_, numbered, hlasting, connected⟩
  · have unheard : Unheard met h k := by
      rcases hk with hne | hnot
      · rcases hfound k hne with hold | ⟨-, unheard⟩
        · exact silent k (Or.inl hold)
        · exact unheard
      · exact silent k (Or.inr hnot)
    exact ⟨unheard.events, unheard.heard, unheard.absent⟩
  · rcases hfound k hk with hold | ⟨hissued, -⟩
    · exact filed k hold
    · exact hissued

/-- The established connections are found as before. -/
theorem of_connected {connected : ConnMap ConnectionObject} (told : Told Q S held met h)
    (hsame : ∀ k : ConnID, connected[k]? = h.connected[k]?) : Told Q S held met { h with connected } := by
  obtain ⟨history, silent, fresh, filed, numbered, connecting, lasting⟩ := told
  refine ⟨fun k hk => ?_, fun k hk => ?_, fresh, filed, numbered, connecting, fun k hk obj hobj => ?_⟩
  · rw [hsame]
    exact history k hk
  · obtain ⟨hmet, hheard, habsent⟩ := silent k hk
    exact ⟨hmet, hheard, (hsame k).trans habsent⟩
  · rw [hsame] at hobj
    exact lasting k hk obj hobj

/-- A connection leaves the map of those that are not established. -/
theorem takeConnecting (told : Told Q S held met h) (k : ConnID) : Told Q S held met (h.takeConnecting k) := by
  refine told.of_connecting (fun a ha => Or.inl fun hnone => ha ?_) fun a ha obj hobj => told.connecting a ha obj ?_
  · rw [OrderedMap.getElem?_erase, hnone, ite_self]
  · rw [OrderedMap.getElem?_erase] at hobj
    split at hobj
    · contradiction
    · exact hobj

/-- A connection is tried again under a new id. -/
theorem retry {ptr : ConnectionObject} (told : Told Q S held met h)
    (hptr : ∀ newId, Q [] .connecting (ptr.retry newId))
    (hfew : FewIds (h.retryConnecting ptr).trace) : Told Q S held met (h.retryConnecting ptr) := by
  obtain ⟨id, h', hissue⟩ : ∃ id h', h.getNextConnectionIndex = (id, h') := ⟨_, _, rfl⟩
  rw [retryConnecting, hissue] at hfew ⊢
  obtain ⟨told', hissued, hfree, unheard, hfresh⟩ := told.issue hissue hfew
  refine told'.of_connecting (fun k hk => ?_) fun k hheld obj hobj => ?_
  · by_cases heq : id = k
    · exact Or.inr (heq ▸ ⟨hissued, unheard⟩)
    · exact Or.inl (by simpa [heq] using hk)
  · by_cases heq : id = k
    · subst heq
      rw [OrderedMap.getElem?_modify, if_pos rfl, OrderedMap.getElem?_insertIfNew, if_pos rfl, hfree] at hobj
      obtain rfl := Option.some.inj hobj
      rw [hfresh]
      exact hptr id
    · exact told'.connecting k hheld obj (by simpa [heq] using hobj)

end Told

section Reports

variable {Q : List Shake → Place → ConnectionObject → Prop} {S : List Shake → Bool → CConnection → BufferEvent → Prop}
  {held : List ConnID} {met : ConnID → Met} {h : CConnectionHandlerInt} {k : ConnID} (env : Environment)

/-- Looking a connection up again. -/
theorem Told.found (told : Told Q S (k :: held) met h) (unheard : Unheard met h k)
    (hconnecting : ∀ obj, h.connecting[k]? = some obj → Q (met k).shakes .connecting obj) : Told Q S held met h := by
  refine told.release ?_ hconnecting fun obj hobj => ?_
  · rw [unheard.events, unheard.heard, unheard.absent]
    exact .unknown
  · rw [unheard.absent] at hobj
    contradiction

/-- `OnConnectionFailure` of a connection that may be tried again. -/
theorem Told.onConnectionFailure (lasting : Lasting Q S) (told : Told Q S [k] met h) {ptr : ConnectionObject}
    (hptr : h.connecting[k]? = some ptr) (about : CConnection) (type : ConnectionFailureType) (failed : CConnection)
    (retry : Bool) (hretry : retry = true → ∀ newId, Q [] .connecting (ptr.retry newId))
    (hfew : FewIds (h.onConnectionFailure env k about type failed retry).trace) :
    Told Q S [] met (h.onConnectionFailure env k about type failed retry) := by
  obtain ⟨ret, h', hcall⟩ : ∃ ret h', (h.takeConnecting k).callUser env about
      (failureCallback type failed (retry && !h.isShutdown)) = (ret, h') := ⟨_, _, rfl⟩
  have htaken : (h.takeConnecting k).connecting[k]? = none := by simp [CConnectionHandlerInt.takeConnecting]
  have hfound : Told Q S [] met (h.takeConnecting k) := by
    have unheard := told.silent k (Or.inl (by simp [hptr]))
    refine (told.takeConnecting k).found ⟨unheard.events, unheard.heard, unheard.absent⟩ fun obj hobj => ?_
    rw [htaken] at hobj
    contradiction
  have htold : Told Q S [] met h' := hfound.asked lasting (failureCallback_id type failed _) hcall
  rw [onConnectionFailure_of_call hptr hcall] at hfew ⊢
  split
  · next hagain =>
    rw [if_pos hagain] at hfew
    refine htold.retry (hretry ?_) hfew
    simp only [Bool.and_eq_true] at hagain
    exact hagain.1.1
  · exact htold

/-- The user is asked about a connection that is taken out of the map of those that are not established. -/
theorem Told.offered {about : Option CConnection} {c : Callback} {ret : Bool} {h' : CConnectionHandlerInt}
    (lasting : Lasting Q S) (told : Told Q S [k] met h) (unheard : Unheard met h k)
    (hconnecting : h.connecting[k]? = none) (hissued : k ∈ issued h.trace) (hid : c.id? = some k)
    (hcall : h.callUser env about c = (ret, h')) :
    Told Q S [k] met h' ∧ mentions k h'.trace = [(c, ret)] ∧ h'.connected[k]? = none ∧ h'.connecting[k]? = none ∧
      k ∈ issued h'.trace := by
  have hcalled := told.spoken hid (List.mem_singleton_self k) hconnecting hissued ret about
  obtain ⟨answer, other, hother, frame⟩ := callUser_frame h env about c
  obtain ⟨rfl, rfl⟩ := Prod.mk.inj (hother.symm.trans hcall)
  refine ⟨hcalled.callUser lasting hcall, ?_, ?_, ?_, ?_⟩
  · rw [frame.mentions]
    change mentions k (h.trace ++ _) = _
    rw [mentions_append, unheard.heard, mentions_one hid, if_pos rfl, List.nil_append]
  · exact (frame.connected_eq_none_iff k).mpr unheard.absent
  · rw [frame.connecting]
    exact hconnecting
  · obtain ⟨items, htrace, -⟩ := frame.items
    rw [htrace]
    exact mem_issued_append (mem_issued_append hissued _) items

/-- The user refuses it. -/
theorem Told.refused {heard : List (Callback × Bool)} (told : Told Q S [k] met h)
    (hheard : mentions k h.trace = heard) (hconnected : h.connected[k]? = none)
    (hconnecting : h.connecting[k]? = none)
    (hrefused : History (S (met k).shakes) k (met k).events heard none) : Told Q S [] met h := by
  refine told.release ?_ (fun obj hobj => ?_) fun obj hobj => ?_
  · rw [hheard, hconnected]
    exact hrefused
  · rw [hconnecting] at hobj
    contradiction
  · rw [hconnected] at hobj
    contradiction

/-- A connection in hand is established. -/
theorem Told.establish {obj : ConnectionObject} {outgoingConnCount incomingConnCount : ℤ}
    (told : Told Q S [k] met h) (hconnected : h.connected[k]? = none) (hconnecting : h.connecting[k]? = none)
    (hissued : k ∈ issued h.trace) :
    Told Q S [k] met { h with
      connected := h.connected.insertIfNew k obj
      outgoingConnCount
      incomingConnCount } := by
  obtain ⟨history, silent, fresh, filed, numbered, connecting, connected⟩ := told
  have hother {a : ConnID} (hheld : a ∉ [k]) : (h.connected.insertIfNew k obj)[a]? = h.connected[a]? := by
    have hne : k ≠ a := fun heq => hheld (heq ▸ List.mem_singleton_self k)
    simp [hne]
  refine ⟨fun a hheld => ?_, fun a ha => ?_, fresh, filed, numbered, connecting, fun a hheld found hfound => ?_⟩
  · rw [hother hheld]
    exact history a hheld
  · have hheld : a ∉ [k] := fun hmem => by
      obtain rfl := List.mem_singleton.mp hmem
      exact ha.elim (fun hne => hne hconnecting) fun hnot => hnot hissued
    obtain ⟨hmet, hheard, habsent⟩ := silent a ha
    exact ⟨hmet, hheard, (hother hheld).trans habsent⟩
  · rw [hother hheld] at hfound
    exact connected a hheld found hfound

/-- `OnOutgoingConnected` of a connection that was just given its bufferevent. -/
theorem Told.onOutgoingConnected (lasting : Lasting Q S) (told : Told Q S [k] met h) {ptr : ConnectionObject}
    {base : ConnectionBase} {bev : BufferEvent} (hptr : h.connecting[k]? = some ptr)
    (hbase : ptr.base = base.initConnection bev) (hid : base.id = k) (hbev : S (met k).shakes true base.conn bev)
    (henabled : Q (met k).shakes .connected ptr.enable) (resolved : CConnection) :
    Told Q S [] met (h.onOutgoingConnected env k base.conn resolved) := by
  obtain ⟨ret, h', hcall⟩ : ∃ ret h', (h.takeConnecting k).callUser env base.conn
      (.onOutgoingConnection k base.conn resolved) = (ret, h') := ⟨_, _, rfl⟩
  have unheard := told.silent k (Or.inl (by simp [hptr]))
  obtain ⟨htold, hheard, hconnected, hconnecting, hissued⟩ := (told.takeConnecting k).offered env lasting
    ⟨unheard.events, unheard.heard, unheard.absent⟩ (by simp [CConnectionHandlerInt.takeConnecting])
    (told.filed k (by simp [hptr])) rfl hcall
  rw [onOutgoingConnected_of_call hptr hcall]
  cases ret with
  | false => exact htold.refused hheard hconnected hconnecting (unheard.events ▸ .refusedOutgoing hbev _)
  | true =>
    simp only [if_true]
    generalize hready : CConnectionHandlerInt.callUser env ptr.base.conn (.onReadyForFirstSend k) { h' with
      connected := h'.connected.insertIfNew k ptr.enable
      outgoingConnCount := h'.outgoingConnCount + 1 } = ready
    obtain ⟨answer, h''⟩ := ready
    have hestablished : Told Q S [k] met { h' with
        connected := h'.connected.insertIfNew k ptr.enable
        outgoingConnCount := h'.outgoingConnCount + 1 } := htold.establish hconnected hconnecting hissued
    have hspoken := @spoken Q S [k] met _ k (.onReadyForFirstSend k) hestablished rfl (List.mem_singleton_self k)
      hconnecting hissued answer ptr.base.conn
    have hfound : (h'.connected.insertIfNew k ptr.enable)[k]? = some ptr.enable := by
      rw [OrderedMap.getElem?_insertIfNew, if_pos rfl, hconnected]
      rfl
    refine Told.callUser lasting hready (hspoken.release ?_ (fun obj hobj => ?_) fun obj hobj => ?_)
    · have hannounced : Announces k base.conn true
          [(.onOutgoingConnection k base.conn resolved, true), (.onReadyForFirstSend k, answer)] :=
            .outgoing resolved answer
      have hexplains := Explains.established hid hbev hannounced
      have hmentions : mentions k (h'.trace ++ [.callback (.onReadyForFirstSend k) answer ptr.base.conn]) =
          [(.onOutgoingConnection k base.conn resolved, true), (.onReadyForFirstSend k, answer)] := by
        rw [mentions_append, hheard, mentions_one rfl, if_pos rfl]
        rfl
      change History (S (met k).shakes) k (met k).events (mentions k (h'.trace ++ _))
        ((h'.connected.insertIfNew k ptr.enable)[k]?.map _)
      rw [unheard.events, hmentions, hfound]
      have henable : ptr.enable.base = (ConnRun.established base bev).base := by
        rw [ConnectionObject.enable, hbase]
        rfl
      change History (S (met k).shakes) k [] _ (some ptr.enable.base)
      rw [henable]
      exact .live hexplains rfl
    · change h'.connecting[k]? = some obj at hobj
      rw [hconnecting] at hobj
      contradiction
    · obtain rfl : ptr.enable = obj := Option.some.inj (hfound.symm.trans hobj)
      exact henabled

end Reports

section Methods

variable {Q : List Shake → Place → ConnectionObject → Prop} {S : List Shake → Bool → CConnection → BufferEvent → Prop}
  {P : CConnection → Prop} {met : ConnID → Met} {h : CConnectionHandlerInt} {conns : List CConnection}
  {place : Place} {k : ConnID} {obj : ConnectionObject} {r : ConnResult ConnectionObject} (env : Environment)

/-- The report that ends a method of a connection that is not established. -/
theorem Told.onReport (lasting : Lasting Q S) (told : Told Q S [k] met (h.worked .connecting k obj r))
    (working : Working h .connecting k obj r) (hid : obj.base.id = k) (hleaves : r.Leaves Q S (met k).shakes)
    (hfew : FewIds ((h.worked .connecting k obj r).onReport env r).trace) :
    Told Q S [] met ((h.worked .connecting k obj r).onReport env r) := by
  have hptr : (h.worked .connecting k obj r).connecting[k]? = some r.obj :=
    objects_put h .connecting k r.obj
  have hid' : r.obj.base.id = k := working.works.keeps.2.1.trans hid
  have hbase := working.works.base
  unfold ConnResult.Leaves at hleaves
  cases hreport : r.report with
  | waiting =>
    simp only [CConnectionHandlerInt.onReport, hreport]
    rw [hreport] at hleaves
    refine told.found (told.silent k (Or.inl (by simp [hptr]))) fun found hfound => ?_
    obtain rfl := Option.some.inj (hptr.symm.trans hfound)
    exact hleaves
  | connectionFailure type failed retry =>
    simp only [CConnectionHandlerInt.onReport, hreport, hid'] at hfew ⊢
    rw [hreport] at hleaves
    exact told.onConnectionFailure env lasting hptr _ type failed retry hleaves hfew
  | outgoingConnected bev resolved =>
    simp only [CConnectionHandlerInt.onReport, hreport, hid']
    rw [hreport] at hleaves hbase
    obtain ⟨henabled, hbev⟩ := hleaves
    rw [working.works.keeps.1] at hbev ⊢
    exact told.onOutgoingConnected env lasting hptr hbase hid hbev henabled resolved
  | incomingConnected bev resolved =>
    have hfits := working.works.fits.report
    rw [hreport] at hfits
    exact absurd (hfits.symm.trans (working.directed (by simp [hreport]))) Bool.false_ne_true

/-- A connection in hand that is not established changes. -/
theorem Told.put (told : Told Q S [k] met h) (hobj : h.connecting[k]? = some obj) (obj' : ConnectionObject) :
    Told Q S [k] met (h.put .connecting k obj') := by
  have hother {a : ConnID} (hne : k ≠ a) : (h.connecting.insert k obj')[a]? = h.connecting[a]? := by simp [hne]
  refine told.of_connecting (fun a ha => Or.inl ?_) fun a hheld found hfound => ?_
  · by_cases heq : k = a
    · simp [← heq, hobj]
    · rwa [hother heq] at ha
  · have hne : k ≠ a := fun heq => hheld (heq ▸ List.mem_singleton_self k)
    rw [hother hne] at hfound
    exact told.connecting a hheld found hfound

/-- A method leaves its object in the map of those that are not established. -/
theorem Told.worked (told : Told Q S [k] met h) (hobj : h.connecting[k]? = some obj) :
    Told Q S [k] met (h.worked .connecting k obj r) := (told.put hobj r.obj).net _ _

/-- The handshake of a connection in hand goes on. -/
theorem Told.shake {met' : ConnID → Met} (told : Told Q S [] met h) (hobj : h.connecting[k]? = some obj)
    (hothers : ∀ a, a ≠ k → met' a = met a) (hevents : (met' k).events = (met k).events) : Told Q S [k] met' h := by
  have hnot {a : ConnID} (hheld : a ∉ [k]) : a ≠ k := fun heq => hheld (heq ▸ List.mem_singleton_self k)
  refine ⟨fun a hheld => ?_, fun a ha => ?_, fun a ha => ?_, told.filed, told.numbered, fun a hheld => ?_,
    fun a hheld => ?_⟩
  · rw [hothers a (hnot hheld)]
    exact told.history a List.not_mem_nil
  · obtain ⟨hmet, hheard, habsent⟩ := told.silent a ha
    refine ⟨?_, hheard, habsent⟩
    by_cases heq : a = k
    · rw [heq, hevents, ← heq, hmet]
    · rw [hothers a heq, hmet]
  · have hne : a ≠ k := by
      rintro rfl
      exact ha (told.filed a (by simp [hobj]))
    rw [hothers a hne]
    exact told.fresh a ha
  · rw [hothers a (hnot hheld)]
    exact told.connecting a List.not_mem_nil
  · rw [hothers a (hnot hheld)]
    exact told.connected a List.not_mem_nil

/-- A method of an object in a map that fails no assertion, and that may be a step of its handshake. -/
theorem Told.runMethod {method : ConnectionObject → Option (ConnResult ConnectionObject)} {met' : ConnID → Met}
    (lasting : Lasting Q S) (told : Told Q S [] met h) (hothers : ∀ a, a ≠ k → met' a = met a)
    (hevents : (met' k).events = (met k).events)
    (hunfound : (place = .connecting → h.connecting[k]? = none) → met' k = met k) (sound : Sound P ⟨h, .idle, conns⟩)
    (hfew : FewIds h.trace)
    (hworking : ∀ obj r, (h.objects place)[k]? = some obj → method obj = some r → Working h place k obj r)
    (hleaves : ∀ obj r, place = .connecting → h.connecting[k]? = some obj → method obj = some r →
      Q (met k).shakes .connecting obj → r.Leaves Q S (met' k).shakes)
    (hfew' : FewIds (h.runMethod env place k method).trace)
    (hgood : .connection ∉ (h.runMethod env place k method).failed) :
    Told Q S [] met' (h.runMethod env place k method) := by
  have hsame (hnone : place = .connecting → h.connecting[k]? = none) : met' = met := by
    funext a
    by_cases heq : a = k
    · exact heq ▸ hunfound hnone
    · exact hothers a heq
  cases hobj : (h.objects place)[k]? with
  | none =>
    rw [CConnectionHandlerInt.runMethod, hobj, hsame fun hplace => by rw [hplace] at hobj; exact hobj]
    exact told
  | some obj =>
    cases hr : method obj with
    | none =>
      simp only [CConnectionHandlerInt.runMethod, hobj, hr] at hgood
      exact absurd (List.mem_append_right _ (List.mem_singleton_self _)) hgood
    | some r =>
      have working := hworking obj r hobj hr
      rw [runMethod_eq env hobj hr] at hfew' ⊢
      cases place with
      | connecting =>
        exact ((told.shake hobj hothers hevents).worked hobj).onReport env lasting working
          (sound.objects.ready_of_found hobj).id
          (hleaves obj r rfl hobj hr (told.connecting k List.not_mem_nil obj hobj)) hfew'
      | connected =>
        -- Nothing happens to an established connection here.
        rw [hsame (by simp)]
        have hreport : r.report = .waiting := by
          by_contra hreport
          exact absurd (working.ends hfew hreport).1 (by simp)
        obtain hunchanged | ⟨hplace, -⟩ := working.waits hfew hreport
        · have hput : Told Q S [] met (h.put .connected k r.obj) := by
            refine told.of_connected fun a => ?_
            rw [hunchanged, OrderedMap.getElem?_insert]
            split
            · next heq => exact heq ▸ hobj.symm
            · rfl
          simp only [CConnectionHandlerInt.onReport, hreport]
          exact hput.net _ _
        · contradiction

end Methods

section Requests

variable {Q : List Shake → Place → ConnectionObject → Prop} {S : List Shake → Bool → CConnection → BufferEvent → Prop}
  {met : ConnID → Met} {h : CConnectionHandlerInt} {k : ConnID} (env : Environment)

/-- `OnResolveFailure`. -/
theorem Told.onResolveFailure (lasting : Lasting Q S) (told : Told Q S [] met h) (conn : CConnection)
    (retry : Bool) : Told Q S [] met (h.onResolveFailure env k conn retry) := by
  obtain ⟨ret, h', hcall, -⟩ := callUser_frame h env conn (.onDnsFailure conn (retry && !h.isShutdown))
  have htold : Told Q S [] met h' := told.asked lasting rfl hcall
  simp only [CConnectionHandlerInt.onResolveFailure, hcall]
  split
  · exact htold.of_same rfl rfl rfl rfl
  · split
    · exact htold.of_same rfl rfl rfl rfl
    · exact htold.of_same rfl rfl rfl rfl

/-- `OnResolveComplete`. -/
theorem Told.onResolveComplete (lasting : Lasting Q S) (told : Told Q S [] met h) (conn : CConnection)
    (resolved : List CConnection) : Told Q S [] met (h.onResolveComplete env k conn resolved) := by
  obtain ⟨ret, h', hcall, -⟩ := callUser_frame h env conn (.onDnsResponse conn resolved)
  have htold : Told Q S [] met h' := told.asked lasting rfl hcall
  simp only [CConnectionHandlerInt.onResolveComplete, hcall]
  exact htold.of_same rfl rfl rfl rfl

/-- A method of a resolve-only request. -/
theorem Told.runResolve (lasting : Lasting Q S) (told : Told Q S [] met h)
    (method : CResolveOnly → Option (MethodResult CResolveOnly ResolveReport)) :
    Told Q S [] met (h.runResolve env k method) := by
  unfold CConnectionHandlerInt.runResolve
  split
  · exact told
  · next c hc =>
    split
    · exact told.of_same rfl rfl rfl rfl
    · next r hr =>
      have hinserted : Told Q S [] met { h with dnsResolves := h.dnsResolves.insert k r.obj } :=
        told.of_same rfl rfl rfl rfl
      have hworked := hinserted.net c.conn r.net
      simp only
      split
      · exact hworked
      · exact hworked.onResolveFailure env lasting _ _
      · exact hworked.onResolveComplete env lasting _ _

/-- The retry event of a request. -/
theorem Told.retryEvent (lasting : Lasting Q S) (told : Told Q S [] met h) :
    Told Q S [] met (h.retryEvent env k) := by
  unfold CConnectionHandlerInt.retryEvent
  split
  · exact told
  · split
    · refine Told.runResolve env lasting ?_ _
      exact told.of_same rfl rfl rfl rfl
    · exact told

end Requests

section Starts

variable {Q : List Shake → Place → ConnectionObject → Prop} {S : List Shake → Bool → CConnection → BufferEvent → Prop}
  {P : CConnection → Prop} {met : ConnID → Met} {h : CConnectionHandlerInt} {conns : List CConnection}
  {place : Place} {k : ConnID} (env : Environment)

/-- `StartConnection`. -/
theorem Told.startConnection (lasting : Lasting Q S) 
    (hset : ∀ conn, P conn → conn.isSet = true) {conn : CConnection} (hsupplied : P conn)
    (told : Told Q S [] met h) (sound : Sound P ⟨h, .idle, conn :: conns⟩)
    (hfew : FewIds (h.startConnection env conn).trace) : Told Q S [] met (h.startConnection env conn) := by
  cases hcall : h.startingCall env conn with
  | none =>
    have honly := isResolveOnly_of_no_call hcall
    obtain ⟨id, h', hissue⟩ : ∃ id h', h.getNextConnectionIndex = (id, h') := ⟨_, _, rfl⟩
    simp only [CConnectionHandlerInt.startConnection, hissue, honly, if_true] at hfew ⊢
    cases hproxy : conn.proxy.isSet with
    | true =>
      simp only [hproxy, if_true] at hfew ⊢
      exact (told.issue hissue hfew).1
    | false =>
      simp only [hproxy, Bool.false_eq_true, if_false] at hfew ⊢
      have hstarted : Sound P
          ⟨{ h' with dnsResolves := h'.dnsResolves.insertIfNew id (.new conn id) }, .idle, conns⟩ :=
        (@Move.resolveStarted P (fun _ => True) h h' conns id conn hsupplied hproxy hissue).sound sound
      have hfew' : FewIds h'.trace := hstarted.fewIds (resolve_leads env id) hfew
      refine Told.runResolve env lasting ?_ _
      exact (told.issue hissue hfew').1.of_same rfl rfl rfl rfl
  | some call =>
    obtain ⟨honly, h', bytesRead, bytesWritten, hissue, heq⟩ := startingCall_shape hcall
    rw [startConnection_of_call hcall] at hfew ⊢
    have sound' := sound.startingCall hsupplied hcall
    have hready := sound.startingCall_connectable hsupplied hcall
    have hfew' : FewIds call.handler.trace := sound'.fewIds (connect_leads env hready) hfew
    generalize call.id = id at hissue heq
    subst heq
    obtain ⟨told', hissued, hfree, unheard, hfresh⟩ := told.issue hissue hfew'
    have hfound : (h'.connecting.insertIfNew id (.new conn id bytesRead bytesWritten))[id]? =
        some (.new conn id bytesRead bytesWritten) := by
      rw [OrderedMap.getElem?_insertIfNew, if_pos rfl, hfree]
      rfl
    have hheld : Told Q S [id] met { h' with
        connecting := h'.connecting.insertIfNew id (.new conn id bytesRead bytesWritten) } := by
      refine Told.of_connecting (told'.hold fun a _ => List.not_mem_nil) (fun a ha => ?_)
        fun a hheld obj hobj => ?_
      · by_cases heq : id = a
        · exact Or.inr (heq ▸ ⟨hissued, unheard⟩)
        · exact Or.inl (by simpa [heq] using ha)
      · have hne : id ≠ a := fun heq => hheld (heq ▸ List.mem_singleton_self id)
        exact told'.connecting a List.not_mem_nil obj (by simpa [hne] using hobj)
    obtain ⟨houtgoing, hsettled⟩ := hready _ hfound
    have hwaiting := sound'.objects.connecting id _ hfound
    obtain ⟨r, hr, -⟩ := ConnectionObject.connect_result env.names (env.lookup h'.trace)
      (ConnectionObject.inOrder_new conn id bytesRead bytesWritten) (fun _ => hset _ hwaiting.supplied) hwaiting.suits
      (hsettled hfew').2.handles
    change FewIds (CConnectionHandlerInt.connect env .connecting id _).trace at hfew
    change Told Q S [] met (CConnectionHandlerInt.connect env .connecting id _)
    rw [CConnectionHandlerInt.connect, runMethod_eq env hfound hr] at hfew ⊢
    exact (hheld.worked hfound).onReport env lasting (working_of_connect hfound hr houtgoing hsettled) rfl
      (hfresh ▸ lasting.begun (hset conn hsupplied) honly hr) hfew

/-- Every connection that was offered is started. -/
theorem Told.startConnections (lasting : Lasting Q S) 
    (hset : ∀ conn, P conn → conn.isSet = true) (hsupplied : ∀ conn ∈ conns, P conn) (told : Told Q S [] met h)
    (sound : Sound P ⟨h, .idle, conns⟩)
    (hfew : FewIds (conns.foldl (CConnectionHandlerInt.startConnection env) h).trace) :
    Told Q S [] met (conns.foldl (CConnectionHandlerInt.startConnection env) h) := by
  induction conns generalizing h with
  | nil => exact told
  | cons conn conns ih =>
    obtain ⟨hstarted, hfew'⟩ := sound.of_started env hsupplied hfew
    exact ih (fun other hother => hsupplied other (List.mem_cons_of_mem _ hother))
      (told.startConnection env lasting hset (hsupplied conn List.mem_cons_self) sound hfew') hstarted hfew

/-- The retry timer of a connection, unless `Connect` fails an assertion. -/
theorem Told.reconnectFunc (lasting : Lasting Q S) (told : Told Q S [] met h)
    (sound : Sound P ⟨h, .idle, conns⟩) (hfew : FewIds (h.reconnectFunc env place k).trace)
    (hgood : .connection ∉ (h.reconnectFunc env place k).failed) :
    Told Q S [] met (h.reconnectFunc env place k) := by
  rw [reconnectFunc_eq] at hfew hgood ⊢
  cases hcall : h.reconnectCall place k with
  | none => exact told
  | some call =>
    rw [hcall] at hfew hgood
    have sound' := sound.reconnectCall hcall
    have hready := sound.reconnectCall_connectable hcall
    have hfew' : FewIds call.handler.trace := sound'.fewIds (connect_leads env hready) hfew
    obtain ⟨obj, hobj, hwaits, rfl⟩ := reconnectCall_shape hcall
    change FewIds (h.put place k _).trace at hfew'
    rw [put_trace] at hfew'
    obtain ⟨rfl, hidle⟩ := sound.idle_of_waits hfew' hobj hwaits
    have hfound := objects_put h .connecting k { obj with base := { obj.base with reconnectFunc := false } }
    have hheld : Told Q S [k] met
        (h.put .connecting k { obj with base := { obj.base with reconnectFunc := false } }) :=
      Told.put (told.hold fun a _ => List.not_mem_nil) hobj _
    obtain ⟨houtgoing, hsettled⟩ := hready _ hfound
    change FewIds (CConnectionHandlerInt.connect env .connecting k _).trace at hfew
    change .connection ∉ (CConnectionHandlerInt.connect env .connecting k _).failed at hgood
    change Told Q S [] met (CConnectionHandlerInt.connect env .connecting k _)
    rw [CConnectionHandlerInt.connect] at hfew hgood ⊢
    generalize hlookup : env.lookup (h.put .connecting k _).trace = lookup at hfew hgood ⊢
    cases hr : ConnectionObject.connect env.names lookup
        { obj with base := { obj.base with reconnectFunc := false } } with
    | none =>
      simp only [CConnectionHandlerInt.runMethod, hfound, hr] at hgood
      exact absurd (List.mem_append_right _ (List.mem_singleton_self _)) hgood
    | some r =>
      rw [runMethod_eq env hfound hr] at hfew ⊢
      exact (hheld.worked hfound).onReport env lasting (working_of_connect hfound hr houtgoing hsettled)
        (sound.objects.ready_of_found hobj).id
        (lasting.resumed (told.connecting k List.not_mem_nil obj hobj) hwaits hidle hr) hfew

/-- An attempt is filed under an id and taken out again. -/
theorem Told.passing {filed worked : ConnectionObject} (told : Told Q S [] met h) :
    Told Q S [] met { h with connecting := ((h.connecting.insertIfNew k filed).insert k worked).erase k } := by
  have hnone : (((h.connecting.insertIfNew k filed).insert k worked).erase k)[k]? = none := by
    rw [OrderedMap.getElem?_erase, if_pos rfl]
  have hother {a : ConnID} (hne : k ≠ a) :
      (((h.connecting.insertIfNew k filed).insert k worked).erase k)[a]? = h.connecting[a]? := by simp [hne]
  refine told.of_connecting (fun a ha => Or.inl ?_) fun a hheld obj hobj => ?_
  · have hne : k ≠ a := fun heq => ha (heq ▸ hnone)
    rwa [hother hne] at ha
  · have hne : k ≠ a := fun heq => by simp [← heq] at hobj
    rw [hother hne] at hobj
    exact told.connecting a hheld obj hobj

/-- The user accepts an incoming connection. -/
theorem Told.accepted (lasting : Lasting Q S) {conn : CConnection} {bytesRead bytesWritten : ℕ} {addr : Bytes}
    (told : Told Q S [k] met h) (hmet : met k = ⟨[], []⟩)
    (hheard : mentions k h.trace =
      [(.onIncomingConnection k conn (.ofSockAddr conn.opts conn.netConfig .unset addr), true)])
    (hconnected : h.connected[k]? = none) (hconnecting : h.connecting[k]? = none) (hissued : k ∈ issued h.trace) :
    Told Q S [] met { h with
      connected := h.connected.insertIfNew k (ConnectionObject.ofSocket conn k bytesRead bytesWritten addr).enable
      incomingConnCount := h.incomingConnCount + 1 } := by
  obtain ⟨henabled, hbev⟩ := lasting.accepted conn k bytesRead bytesWritten addr
  have hfound : (h.connected.insertIfNew k
      (ConnectionObject.ofSocket conn k bytesRead bytesWritten addr).enable)[k]? =
        some (ConnectionObject.ofSocket conn k bytesRead bytesWritten addr).enable := by
    rw [OrderedMap.getElem?_insertIfNew, if_pos rfl, hconnected]
    rfl
  refine (told.establish hconnected hconnecting hissued).release ?_ (fun obj hobj => ?_) fun obj hobj => ?_
  · have hannounced : Announces k conn false
        [(.onIncomingConnection k conn (.ofSockAddr conn.opts conn.netConfig .unset addr), true)] := .incoming _
    have hexplains := @Explains.established (S []) k (.new conn k bytesRead bytesWritten) false .socketNew _ rfl hbev
      hannounced
    change History (S (met k).shakes) k (met k).events (mentions k h.trace) ((h.connected.insertIfNew k _)[k]?.map _)
    rw [hmet, hheard, hfound]
    exact .live hexplains rfl
  · rw [hconnecting] at hobj
    contradiction
  · change (h.connected.insertIfNew k _)[k]? = some obj at hobj
    obtain rfl := Option.some.inj (hfound.symm.trans hobj)
    rw [hmet]
    exact henabled

/-- `accept_conn`. -/
theorem Told.acceptConn (lasting : Lasting Q S) (addr : Bytes) (told : Told Q S [] met h)
    (sound : Sound P ⟨h, .idle, conns⟩) (hfew : FewIds (h.acceptConn env k addr).trace) :
    Told Q S [] met (h.acceptConn env k addr) := by
  unfold CConnectionHandlerInt.acceptConn at hfew ⊢
  split at hfew
  · exact told
  · next conn hbind =>
    rw [onIncomingConnection_eq] at hfew ⊢
    obtain ⟨id, h', hissue⟩ : ∃ id h', h.getNextConnectionIndex = (id, h') := ⟨_, _, rfl⟩
    obtain ⟨hfew', condition, filed, bytesRead, bytesWritten, ret, h'', -, hcall, hrun⟩ :=
      sound.acceptingCall_asks hissue hfew
    obtain ⟨told', hissued, -, unheard, hfresh⟩ := told.issue hissue hfew'
    have hchecked : Told Q S [] met (h'.check condition .incomingConn) := by
      rw [check_eq]
      exact told'.of_same rfl rfl rfl rfl
    have hnone : (((h'.connecting.insertIfNew id filed).insert id
        (.ofSocket conn id bytesRead bytesWritten addr)).erase id)[id]? = none := by
      rw [OrderedMap.getElem?_erase, if_pos rfl]
    have hpassing := @Told.passing Q S met _ id filed (.ofSocket conn id bytesRead bytesWritten addr) hchecked
    rw [check_eq] at hcall hpassing
    rw [hrun]
    obtain ⟨htold, hheard, hconnected, hleft, hknown⟩ := Told.offered env lasting
      (hpassing.hold fun a _ => List.not_mem_nil) ⟨unheard.events, unheard.heard, unheard.absent⟩ hnone hissued rfl
        hcall
    cases ret with
    | false => exact htold.refused hheard hconnected hleft (unheard.events ▸ .refusedIncoming _ _)
    | true =>
      have hmet : met id = ⟨[], []⟩ := by
        rw [← hfresh, ← unheard.events]
      exact htold.accepted lasting hmet hheard hconnected hleft hknown

end Starts

/-- Whether an event comes to the established connection with an id. -/
def CConnectionHandlerInt.meets (h : CConnectionHandlerInt) (k : ConnID) (e : ConnEvent) : Bool :=
  match h.connected[k]? with
  | some obj => obj.base.armed e
  | none => false

section Events

variable {Q : List Shake → Place → ConnectionObject → Prop} {S : List Shake → Bool → CConnection → BufferEvent → Prop}
  {P : CConnection → Prop} {met : ConnID → Met} {h : CConnectionHandlerInt} {conns : List CConnection}
  {place : Place} {k : ConnID} {obj : ConnectionObject} (env : Environment)

/-- A report is passed on with the id. -/
theorem effectCallback_id {effect : ConnEffect} {c : Callback} (hc : effectCallback k effect = some c) :
    c.id? = some k := by
  cases effect <;> simp only [effectCallback, Option.some.injEq, reduceCtorEq] at hc <;> subst hc <;> rfl

/-- An established id has been issued, and is not connecting. -/
theorem Told.apart {held : List ConnID} (told : Told Q S held met h) (hobj : h.connected[k]? = some obj) :
    h.connecting[k]? = none ∧ k ∈ issued h.trace := by
  constructor
  · by_contra hne
    exact absurd (hobj.symm.trans (told.silent k (Or.inl hne)).absent) (by simp)
  · by_contra hnot
    exact absurd (hobj.symm.trans (told.silent k (Or.inr hnot)).absent) (by simp)

/-- An established connection in hand changes. -/
theorem Told.replace (told : Told Q S [k] met h) (hobj : h.connected[k]? = some obj) (obj' : ConnectionObject) :
    Told Q S [k] met (h.put .connected k obj') := by
  obtain ⟨hconnecting, hissued⟩ := told.apart hobj
  obtain ⟨history, silent, fresh, filed, numbered, connecting, connected⟩ := told
  have hother {a : ConnID} (hne : a ≠ k) : (h.connected.insert k obj')[a]? = h.connected[a]? := by simp [Ne.symm hne]
  have hnot {a : ConnID} (hheld : a ∉ [k]) : a ≠ k := fun heq => hheld (heq ▸ List.mem_singleton_self k)
  refine ⟨fun a hheld => ?_, fun a ha => ?_, fresh, filed, numbered, connecting, fun a hheld found hfound => ?_⟩
  · change History (S (met a).shakes) a (met a).events (mentions a h.trace) ((h.connected.insert k obj')[a]?.map _)
    rw [hother (hnot hheld)]
    exact history a hheld
  · have hne : a ≠ k := by
      rintro rfl
      exact ha.elim (fun hne => hne hconnecting) fun hnot => hnot hissued
    exact ⟨(silent a ha).events, (silent a ha).heard, (hother hne).trans (silent a ha).absent⟩
  · exact connected a hheld found ((hother (hnot hheld)).symm.trans hfound)

/-- The end is the last effect of an event. -/
theorem ConnEffect.Ordered.eq_concat {effects : List ConnEffect} (hordered : Ordered effects)
    (hends : .disconnectInt ∈ effects) : ∃ notices, effects = notices ++ [.disconnectInt] ∧
      .disconnectInt ∉ notices := by
  obtain ⟨notices, ending, rfl, hnotices, hending⟩ := hordered
  have hgoes : .disconnectInt ∉ notices := fun hmem => (hnotices _ hmem).2 rfl
  rcases hending with rfl | rfl | rfl
  · rw [List.append_nil] at hends
    contradiction
  · exact ⟨notices, rfl, hgoes⟩
  · refine ⟨notices ++ [.onMalformedMessage], by simp, ?_⟩
    simpa using hgoes

/-- The reports of an event that goes on are passed on in order, while the user may call the connection. -/
theorem Told.notices (lasting : Lasting Q S) {notices : List ConnEffect} (hgoes : .disconnectInt ∉ notices)
    (told : Told Q S [k] met h) (hobj : h.connected[k]? = some obj) (hid : obj.base.id = k) :
    ∃ base reports, obj.base.Reached base ∧
      (notices.foldl (performEffect env .connected k) h).connected[k]? = some { obj with base } ∧
      mentions k (notices.foldl (performEffect env .connected k) h).trace = mentions k h.trace ++ reports ∧
      reports.map Prod.fst = notices.filterMap (effectCallback k) ∧
      Told Q S [k] met (notices.foldl (performEffect env .connected k) h) := by
  induction notices generalizing h obj with
  | nil => exact ⟨obj.base, [], .refl _, hobj, (List.append_nil _).symm, rfl, told⟩
  | cons notice notices ih =>
    obtain ⟨hnotice, hgoes⟩ := not_or.mp (mt List.mem_cons.mpr hgoes)
    rw [List.foldl_cons]
    cases hc : effectCallback k notice with
    | none =>
      have hsame : h.performEffect env .connected k notice = h := by
        simp only [performEffect, show (h.objects .connected)[k]? = some obj from hobj,
          if_neg (Ne.symm hnotice), hid, hc]
      rw [hsame]
      obtain ⟨base, reports, hreached, hfound, hheard, hreports, htold⟩ := ih hgoes told hobj hid
      exact ⟨base, reports, hreached, hfound, hheard, by rw [List.filterMap_cons_none hc, hreports], htold⟩
    | some c =>
      obtain ⟨hconnecting, hissued⟩ := told.apart hobj
      obtain ⟨ret, h', hcall, frame⟩ := callUser_frame h env obj.base.conn c
      have hsame : h.performEffect env .connected k notice = h' := by
        simp only [performEffect, show (h.objects .connected)[k]? = some obj from hobj,
          if_neg (Ne.symm hnotice), hid, hc,
          hcall]
      have htold : Told Q S [k] met h' := Told.callUser lasting hcall
        (told.spoken (effectCallback_id hc) (List.mem_singleton_self k) hconnecting hissued ret obj.base.conn)
      have hheard : mentions k h'.trace = mentions k h.trace ++ [(c, ret)] := by
        rw [frame.mentions]
        change mentions k (h.trace ++ _) = _
        rw [mentions_append, mentions_one (effectCallback_id hc), if_pos rfl]
      obtain ⟨base, hreached, hfound⟩ : ∃ base, obj.base.Reached base ∧
        h'.connected[k]? = some { obj with base } := by
        obtain ⟨-, rfl⟩ := Prod.mk.inj hcall
        exact @foldl_apiCall_reached (h.record _) k obj hobj _
      rw [hsame]
      obtain ⟨base', reports, hreached', hfound', hheard', hreports, htold'⟩ :=
        ih hgoes htold hfound (hreached.keeps.2.1.trans hid)
      refine ⟨base', (c, ret) :: reports, hreached.trans hreached', hfound', ?_, ?_, htold'⟩
      · rw [hheard', hheard, List.append_assoc]
        rfl
      · rw [List.filterMap_cons_some hc, ← hreports]
        rfl

/-- `OnDisconnected` of a connection in hand that may be tried again. -/
theorem Told.onDisconnected (lasting : Lasting Q S) (told : Told Q S [k] met h) (hobj : h.connected[k]? = some obj)
    (reconnect : Bool)
    (hlast : ∀ again ret : Bool, (again = true → reconnect = true) →
      History (S (met k).shakes) k (met k).events (mentions k h.trace ++ [(.onDisconnected k again, ret)]) none)
    (hretry : reconnect = true → ∀ newId, Q [] .connecting (obj.retry newId))
    (hfew : FewIds (h.onDisconnected env k reconnect).trace) :
    Told Q S [] met (h.onDisconnected env k reconnect) := by
  obtain ⟨hconnecting, hissued⟩ := told.apart hobj
  have htaken : Told Q S [k] met { h with connected := h.connected.erase k } := by
    obtain ⟨history, silent, fresh, filed, numbered, connecting, connected⟩ := told
    have hother {a : ConnID} (hheld : a ∉ [k]) : (h.connected.erase k)[a]? = h.connected[a]? := by
      have hne : k ≠ a := fun heq => hheld (heq ▸ List.mem_singleton_self k)
      simp [hne]
    refine ⟨fun a hheld => ?_, fun a ha => ⟨(silent a ha).events, (silent a ha).heard, ?_⟩, fresh, filed, numbered,
      connecting, fun a hheld found hfound => ?_⟩
    · rw [hother hheld]
      exact history a hheld
    · rw [OrderedMap.getElem?_erase, (silent a ha).absent, ite_self]
    · rw [hother hheld] at hfound
      exact connected a hheld found hfound
  have hcounted : Told Q S [k] met ({ h with connected := h.connected.erase k }.count obj.isOutgoing (-1)) :=
    htaken.of_same (count_connecting _ _ _) (count_connected _ _ _) (count_trace _ _ _) (count_connectionIndex _ _ _)
  obtain ⟨ret, h', hcall, frame⟩ := callUser_frame
    ({ h with connected := h.connected.erase k }.count obj.isOutgoing (-1))
    env obj.base.conn (.onDisconnected k (reconnect && !h.isShutdown))
  have hspoken := Told.callUser lasting hcall (@spoken Q S [k] met _ k _ hcounted rfl (List.mem_singleton_self k)
    (by rw [count_connecting]; exact hconnecting) (by rw [count_trace]; exact hissued) ret obj.base.conn)
  have hnone : h'.connected[k]? = none := by
    refine (frame.connected_eq_none_iff k).mpr ?_
    change ({ h with connected := h.connected.erase k }.count obj.isOutgoing (-1)).connected[k]? = none
    rw [count_connected, OrderedMap.getElem?_erase, if_pos rfl]
  have hheard :
    mentions k h'.trace = mentions k h.trace ++ [(.onDisconnected k (reconnect && !h.isShutdown), ret)] := by
    rw [frame.mentions]
    change mentions k (({ h with connected := h.connected.erase k }.count obj.isOutgoing (-1)).trace ++ _) = _
    rw [count_trace, mentions_append, mentions_one rfl, if_pos rfl]
  have hleft : h'.connecting[k]? = none := by
    rw [frame.connecting]
    change ({ h with connected := h.connected.erase k }.count obj.isOutgoing (-1)).connecting[k]? = none
    rw [count_connecting]
    exact hconnecting
  have htold : Told Q S [] met h' :=
    hspoken.refused hheard hnone hleft (hlast _ _ fun hagain => (Bool.and_eq_true_iff.mp hagain).1)
  unfold CConnectionHandlerInt.onDisconnected at hfew ⊢
  simp only [hobj, hcall] at hfew ⊢
  split
  · next hagain =>
    rw [if_pos hagain] at hfew
    refine htold.retry (hretry ?_) hfew
    simp only [Bool.and_eq_true] at hagain
    exact hagain.1.1
  · exact htold

/-- The events that have come to an established connection are counted. -/
theorem Told.bring {met' : ConnID → Met} (told : Told Q S [] met h) (hobj : h.connected[k]? = some obj)
    (hothers : ∀ a, a ≠ k → met' a = met a) : Told Q S [k] met' h := by
  obtain ⟨hconnecting, hissued⟩ := told.apart hobj
  have hnot {a : ConnID} (hheld : a ∉ [k]) : a ≠ k := fun heq => hheld (heq ▸ List.mem_singleton_self k)
  refine ⟨fun a hheld => ?_, fun a ha => ?_, fun a ha => ?_, told.filed, told.numbered, fun a hheld => ?_,
    fun a hheld => ?_⟩
  · rw [hothers a (hnot hheld)]
    exact told.history a List.not_mem_nil
  · have hne : a ≠ k := by
      rintro rfl
      exact ha.elim (fun hne => hne hconnecting) fun hunissued => hunissued hissued
    obtain ⟨hmet, hheard, habsent⟩ := told.silent a ha
    exact ⟨by rw [hothers a hne, hmet], hheard, habsent⟩
  · have hne : a ≠ k := by
      rintro rfl
      exact ha hissued
    rw [hothers a hne]
    exact told.fresh a ha
  · rw [hothers a (hnot hheld)]
    exact told.connecting a List.not_mem_nil
  · rw [hothers a (hnot hheld)]
    exact told.connected a List.not_mem_nil

section Reactions

variable {met' : ConnID → Met} {e : ConnEvent} {base : ConnectionBase} {effects : List ConnEffect}

/-- An event that an established connection goes on after. -/
theorem Told.reacted (lasting : Lasting Q S)
    (told : Told Q S [k] met' (h.put .connected k { obj with base })) (hid : base.id = k)
    (hmet : met' k = { met k with events := (met k).events ++ [e] })
    (hhistory : History (S (met k).shakes) k (met k).events (mentions k h.trace) (some obj.base))
    (hlasts : Q (met k).shakes .connected obj) (harmed : obj.base.armed e = true)
    (hreact : obj.base.react e = some (base, effects)) (hgoes : .disconnectInt ∉ effects) :
    Told Q S [] met' (effects.foldl (performEffect env .connected k) (h.put .connected k { obj with base })) := by
  obtain ⟨base', reports, hreached, hlast, hheard, hreports, htold⟩ :=
    told.notices env lasting hgoes (objects_put h .connected k _) hid
  refine htold.release ?_ (fun found hfound => ?_) fun found hfound => ?_
  · rw [hlast, hheard, put_trace, hmet]
    exact hhistory.event harmed hreact hgoes hreached hreports
  · rw [(htold.apart hlast).1] at hfound
    contradiction
  · obtain rfl := Option.some.inj (hlast.symm.trans hfound)
    rw [hmet]
    exact hreached.invariant (fun other c next hother hcall =>
      @Lasting.called Q S lasting (met k).shakes { obj with base := other } c next hother hcall)
        (lasting.reacted hlasts harmed hreact hgoes)

/-- The last effect of an event that ends an established connection, behind those that were passed on. -/
theorem performEffect_disconnectInt {h' : CConnectionHandlerInt} {base' : ConnectionBase}
    (hlast : h'.connected[k]? = some { obj with base := base' }) (hid : base'.id = k) :
    h'.performEffect env .connected k .disconnectInt =
      (h'.put .connected k { obj with base := base'.disconnectInt }).onDisconnected env k
        (base'.conn.opts.fPersistent && obj.isOutgoing) := by
  have hid' : base'.disconnectInt.id = k := hid
  simp only [performEffect, show (h'.objects .connected)[k]? = some { obj with base := base' } from hlast, if_true,
    hid']
  rfl

/-- An event that ends an established connection. -/
theorem Told.ended (lasting : Lasting Q S)
    (told : Told Q S [k] met' (h.put .connected k { obj with base })) (hid : base.id = k)
    (hmet : met' k = { met k with events := (met k).events ++ [e] })
    (hhistory : History (S (met k).shakes) k (met k).events (mentions k h.trace) (some obj.base))
    (hlasts : Q (met k).shakes .connected obj) (harmed : obj.base.armed e = true)
    (hreact : obj.base.react e = some (base, effects)) (hends : .disconnectInt ∈ effects)
    (hfew : FewIds (effects.foldl (performEffect env .connected k) (h.put .connected k { obj with base })).trace) :
    Told Q S [] met' (effects.foldl (performEffect env .connected k) (h.put .connected k { obj with base })) := by
  have hkeeps := ConnectionBase.react_spec hreact
  obtain ⟨notices, heffects, hgoes⟩ := hkeeps.2.eq_concat hends
  obtain ⟨base', reports, hreached, hlast, hheard, hreports, htold⟩ :=
    told.notices env lasting hgoes (objects_put h .connected k _) hid
  have hconn : base'.conn = obj.base.conn := hreached.keeps.1.trans hkeeps.1.conn
  rw [heffects, List.foldl_append] at hfew ⊢
  generalize notices.foldl (performEffect env .connected k) (h.put .connected k { obj with base }) = h' at *
  rw [List.foldl_cons, List.foldl_nil, performEffect_disconnectInt env hlast (hreached.keeps.2.1.trans hid),
    hconn] at hfew ⊢
  refine Told.onDisconnected env lasting (htold.replace hlast _) (objects_put h' .connected k _) _
    (fun again ret hagain => ?_) (fun hreconnect newId => ?_) hfew
  · rw [put_trace, hheard, put_trace, hmet]
    refine hhistory.last harmed hreact hends ?_ fun hpersistent => ?_
    · rw [hreports, heffects, List.filterMap_append]
      simp [effectCallback]
    · exact (Bool.and_eq_true_iff.mp (hagain hpersistent)).1
  · obtain ⟨hpersistent, houtgoing⟩ := Bool.and_eq_true_iff.mp hreconnect
    have hended := lasting.ended hlasts harmed hreact hends hpersistent houtgoing newId
    rw [← hreached.retry_disconnectInt newId] at hended
    exact hended

/-- An event of an established connection that fails no assertion. -/
theorem Told.connectionEvent (lasting : Lasting Q S)
    (hmet : met' k = { met k with events := (met k).events ++ if h.meets k e then [e] else [] })
    (hothers : ∀ a, a ≠ k → met' a = met a) (told : Told Q S [] met h) (sound : Sound P ⟨h, .idle, conns⟩)
    (hfew : FewIds (h.connectionEvent env .connected k e).trace)
    (hgood : .connection ∉ (h.connectionEvent env .connected k e).failed) :
    Told Q S [] met' (h.connectionEvent env .connected k e) := by
  have hignored (hmeets : h.meets k e = false) (hsame : h.connectionEvent env .connected k e = h) :
      Told Q S [] met' (h.connectionEvent env .connected k e) := by
    have hnothing : met' = met := by
      funext a
      by_cases heq : a = k
      · rw [heq, hmet, hmeets]
        simp
      · exact hothers a heq
    rw [hsame, hnothing]
    exact told
  cases hobj : h.connected[k]? with
  | none =>
    refine hignored (by simp only [meets, hobj]) ?_
    simp only [CConnectionHandlerInt.connectionEvent, show (h.objects .connected)[k]? = none from hobj]
  | some obj =>
    have hfound : (h.objects .connected)[k]? = some obj := hobj
    cases harmed : obj.base.armed e with
    | false =>
      refine hignored (by simp only [meets, hobj, harmed]) ?_
      simp only [CConnectionHandlerInt.connectionEvent, hfound, harmed, Bool.false_eq_true, if_false]
    | true =>
      cases hreact : obj.base.react e with
      | none =>
        simp only [CConnectionHandlerInt.connectionEvent, hfound, harmed, if_true, hreact] at hgood
        exact absurd (List.mem_append_right _ (List.mem_singleton_self _)) hgood
      | some result =>
        obtain ⟨base, effects⟩ := result
        have hsame : h.connectionEvent env .connected k e =
            effects.foldl (performEffect env .connected k) (h.put .connected k { obj with base }) := by
          simp only [CConnectionHandlerInt.connectionEvent, hfound, harmed, if_true, hreact]
        have hhistory := told.history k List.not_mem_nil
        rw [hobj] at hhistory
        have hput : Told Q S [k] met' (h.put .connected k { obj with base }) := (told.bring hobj hothers).replace hobj _
        have hid : base.id = k :=
          (ConnectionBase.react_spec hreact).1.id.trans (sound.objects.ready_of_found hfound).id
        have hlasts := told.connected k List.not_mem_nil obj hobj
        simp only [meets, hobj, harmed, if_true] at hmet
        rw [hsame] at hfew ⊢
        by_cases hends : .disconnectInt ∈ effects
        · exact hput.ended env lasting hid hmet hhistory hlasts harmed hreact hends hfew
        · exact hput.reacted env lasting hid hmet hhistory hlasts harmed hreact hends

end Reactions

/-- `Start`. -/
theorem Told.start (lasting : Lasting Q S) (told : Told Q S [] met h) (outgoingLimit : Int32) :
    Told Q S [] met (h.start env outgoingLimit) := by
  unfold CConnectionHandlerInt.start
  split
  · exact told.of_same rfl rfl rfl rfl
  · refine Told.asked lasting (told.of_same ?_ ?_ ?_ ?_) rfl rfl <;> rfl

/-- Connections that a shutdown has taken out of their map are disconnected one after the other. -/
theorem Told.shutdownConnected (lasting : Lasting Q S) {entries : List (ConnID × ConnectionObject)}
    (hnodup : (entries.map Prod.fst).Nodup) (told : Told Q S (entries.map Prod.fst) met h)
    (hlive : ∀ entry ∈ entries,
      History (S (met entry.1).shakes) entry.1 (met entry.1).events (mentions entry.1 h.trace) (some entry.2.base))
    (htaken : ∀ entry ∈ entries, h.connected[entry.1]? = none ∧ h.connecting[entry.1]? = none ∧
      entry.1 ∈ issued h.trace) :
    Told Q S [] met (entries.foldl (CConnectionHandlerInt.shutdownConnected env) h) := by
  induction entries generalizing h with
  | nil => exact told
  | cons entry entries ih =>
    obtain ⟨hconnected, hconnecting, hissued⟩ := htaken entry List.mem_cons_self
    obtain ⟨hnot, hnodup⟩ := List.nodup_cons.mp hnodup
    have hcounted : Told Q S ((entry :: entries).map Prod.fst) met (h.count entry.2.isOutgoing (-1)) :=
      told.of_same (count_connecting _ _ _) (count_connected _ _ _) (count_trace _ _ _) (count_connectionIndex _ _ _)
    obtain ⟨ret, h', hcall, frame⟩ := callUser_frame (h.count entry.2.isOutgoing (-1)) env entry.2.base.conn
      (.onDisconnected entry.1 false)
    have hspoken := Told.callUser lasting hcall (@spoken Q S _ met _ entry.1 _ hcounted rfl List.mem_cons_self
      (by rw [count_connecting]; exact hconnecting) (by rw [count_trace]; exact hissued) ret entry.2.base.conn)
    have hheard (a : ConnID) : mentions a h'.trace = mentions a h.trace ++
        if entry.1 = a then [(.onDisconnected entry.1 false, ret)] else [] := by
      rw [frame.mentions]
      change mentions a ((h.count entry.2.isOutgoing (-1)).trace ++ _) = _
      rw [count_trace, mentions_append, mentions_one rfl]
    have hnone (a : ConnID) (ha : h.connected[a]? = none) : h'.connected[a]? = none := by
      refine (frame.connected_eq_none_iff a).mpr ?_
      change (h.count entry.2.isOutgoing (-1)).connected[a]? = none
      rw [count_connected]
      exact ha
    have hsame : h'.connecting = h.connecting := frame.connecting.trans (count_connecting _ _ _)
    have hgrown (a : ConnID) (ha : a ∈ issued h.trace) : a ∈ issued h'.trace := by
      obtain ⟨items, htrace, -⟩ := frame.items
      rw [htrace]
      refine mem_issued_append (mem_issued_append ?_ _) items
      rw [count_trace]
      exact ha
    rw [List.foldl_cons, CConnectionHandlerInt.shutdownConnected, hcall]
    refine ih hnodup ?_ (fun other hother => ?_) fun other hother => ?_
    · refine Told.release hspoken ?_ (fun obj hobj => ?_) fun obj hobj => ?_
      · rw [hheard, if_pos rfl, hnone _ hconnected]
        exact (hlive entry List.mem_cons_self).finished ret
      · rw [hsame, hconnecting] at hobj
        contradiction
      · rw [hnone _ hconnected] at hobj
        contradiction
    · have hne : entry.1 ≠ other.1 := fun heq => hnot (heq ▸ List.mem_map_of_mem hother)
      rw [hheard, if_neg hne, List.append_nil]
      exact hlive other (List.mem_cons_of_mem _ hother)
    · obtain ⟨hfirst, hsecond, hthird⟩ := htaken other (List.mem_cons_of_mem _ hother)
      exact ⟨hnone _ hfirst, hsame ▸ hsecond, hgrown _ hthird⟩

/-- Connections that are not established are dropped one after the other. -/
theorem Told.shutdownConnecting (lasting : Lasting Q S) (told : Told Q S [] met h)
    (entries : List (ConnID × ConnectionObject)) :
    Told Q S [] met (entries.foldl (CConnectionHandlerInt.shutdownConnecting env) h) := by
  induction entries generalizing h with
  | nil => exact told
  | cons entry entries ih =>
    refine ih ?_
    unfold CConnectionHandlerInt.shutdownConnecting
    dsimp only
    split
    · exact (told.asked lasting rfl rfl).takeConnecting _
    · exact told.takeConnecting _

/-- `ShutdownInt`. -/
theorem Told.shutdownInt (lasting : Lasting Q S) (told : Told Q S [] met h) :
    Told Q S [] met (h.shutdownInt env) := by
  unfold CConnectionHandlerInt.shutdownInt
  split
  · exact told
  · have hmem {k : ConnID} : k ∈ h.connected.toList.map Prod.fst ↔ h.connected[k]?.isSome = true := by
      rw [Std.TreeMap.map_fst_toList_eq_keys, Std.TreeMap.mem_keys, Std.TreeMap.mem_iff_isSome_getElem?]
    have htaken : Told Q S (h.connected.toList.map Prod.fst) met
        { h with connected := ∅, binds := ∅, isShutdown := true } := by
      obtain ⟨history, silent, fresh, filed, numbered, connecting, connected⟩ := told
      have hempty (k : ConnID) : (∅ : ConnMap ConnectionObject)[k]? = none := Std.TreeMap.getElem?_emptyc
      refine ⟨fun k hk => ?_, fun k hk => ⟨(silent k hk).events, (silent k hk).heard, hempty k⟩, fresh, filed, numbered,
        fun k hk => connecting k List.not_mem_nil, fun k hk obj hobj => ?_⟩
      · have hhistory := history k List.not_mem_nil
        have hnone : h.connected[k]? = none := by simpa using mt hmem.mpr hk
        rw [hnone] at hhistory
        change History (S (met k).shakes) k (met k).events (mentions k h.trace)
          ((∅ : ConnMap ConnectionObject)[k]?.map _)
        rw [hempty]
        exact hhistory
      · exact absurd (hobj.symm.trans (hempty k)) (by simp)
    have hdisconnected := @Told.shutdownConnected Q S met _ env lasting h.connected.toList ?_ htaken
      (fun entry hentry => ?_) fun entry hentry => ?_
    · have hdropped := hdisconnected.shutdownConnecting env lasting
        (h.connected.toList.foldl (CConnectionHandlerInt.shutdownConnected env)
          { h with connected := ∅, binds := ∅, isShutdown := true }).connecting.toList
      simp only [check_eq]
      exact hdropped.of_same rfl rfl rfl rfl
    · rw [Std.TreeMap.map_fst_toList_eq_keys]
      exact Std.TreeMap.nodup_keys
    · have hobj : h.connected[entry.1]? = some entry.2 := Std.TreeMap.mem_toList_iff_getElem?_eq_some.mp hentry
      have hhistory := told.history entry.1 List.not_mem_nil
      rw [hobj] at hhistory
      exact hhistory
    · have hobj : h.connected[entry.1]? = some entry.2 := Std.TreeMap.mem_toList_iff_getElem?_eq_some.mp hentry
      obtain ⟨hconnecting, hissued⟩ := told.apart hobj
      exact ⟨Std.TreeMap.getElem?_emptyc, hconnecting, hissued⟩

end Events

/-- The event that an input brings to the established connection with an id, if it can come. -/
def HandlerEvent.brought (h : CConnectionHandlerInt) (k : ConnID) : HandlerEvent → List ConnEvent
  | .connection .connected id e => if id = k then if h.meets k e then [e] else [] else []
  | _ => []

/-- Whether the connection with an id is in a handshake with its proxy. -/
def CConnectionHandlerInt.shakes (h : CConnectionHandlerInt) (k : ConnID) : Bool :=
  match h.connecting[k]? with
  | some obj => obj.isShaking
  | none => false

/-- The step that an input brings to the handshake of the connection with an id. -/
def HandlerInput.shaken (h : CConnectionHandlerInt) (k : ConnID) (input : HandlerInput) : List Shake :=
  match input.event with
  | .handshake .connecting id s => if id = k then if h.shakes k then [(input.env.names, s)] else [] else []
  | _ => []

/-- What the inputs of a run bring along, one after another. They bring nothing once an assertion has failed. -/
def gathered {α : Type} (brought : CConnectionHandlerInt → HandlerInput → List α) (h : CConnectionHandlerInt) :
    List HandlerInput → List α
  | [] => []
  | input :: inputs =>
    (if h.failed.isEmpty && h.enabled input.event then brought h input else []) ++
      gathered brought (h.step input) inputs

/-- The last input brings its part last. -/
theorem gathered_concat {α : Type} (brought : CConnectionHandlerInt → HandlerInput → List α)
    (h : CConnectionHandlerInt) (inputs : List HandlerInput) (input : HandlerInput) :
    gathered brought h (inputs ++ [input]) = gathered brought h inputs ++
      if (inputs.foldl step h).failed.isEmpty && (inputs.foldl step h).enabled input.event then
        brought (inputs.foldl step h) input
      else [] := by
  induction inputs generalizing h with
  | nil => simp [gathered]
  | cons first inputs ih =>
    rw [List.cons_append, gathered, ih, gathered, List.append_assoc]
    rfl

/-- The events that a run brings to the established connection with an id. -/
def deliveries (k : ConnID) (h : CConnectionHandlerInt) (inputs : List HandlerInput) : List ConnEvent :=
  gathered (fun h input => input.event.brought h k) h inputs

/-- The steps that a run brings to the handshake of the connection with an id. -/
def handshakes (k : ConnID) (h : CConnectionHandlerInt) (inputs : List HandlerInput) : List Shake :=
  gathered (fun h input => input.shaken h k) h inputs

/-- What a run brings to an id. -/
def brings (h : CConnectionHandlerInt) (inputs : List HandlerInput) (k : ConnID) : Met :=
  ⟨handshakes k h inputs, deliveries k h inputs⟩

section Steps

variable {Q : List Shake → Place → ConnectionObject → Prop} {S : List Shake → Bool → CConnection → BufferEvent → Prop}
  {P : CConnection → Prop} {L : Int32 → Prop} {met : ConnID → Met} {h : CConnectionHandlerInt}
  {input : HandlerInput}

/-- A connection without a handle is in no handshake. -/
theorem isShaking_of_idle {obj : ConnectionObject} (hidle : obj.kind.handles = 0) : obj.isShaking = false := by
  obtain ⟨base, kind⟩ := obj
  cases kind with
  | proxied c =>
    obtain ⟨retries, bareBev, proxyBev⟩ := c
    cases proxyBev with
    | none => rfl
    | some bev => cases bareBev <;> simp [ConnKind.handles] at hidle
  | _ => rfl

/-- A method that a handle brings on leaves what lasts, as it does while the connection does not wait to be tried
again. -/
theorem Sound.leaves_of_steps {k : ConnID} {obj : ConnectionObject} {r : ConnResult ConnectionObject}
    {shakes shakes' : List Shake} (sound : Sound P ⟨h, .idle, []⟩) (hfew : FewIds h.trace)
    (hobj : h.connecting[k]? = some obj) (hlasts : Q shakes .connecting obj)
    (hidle : obj.kind.handles = 0 → r = ConnResult.unchanged obj ∧ shakes' = shakes)
    (hleaves : obj.base.reconnectFunc = false → r.Leaves Q S shakes') : r.Leaves Q S shakes' := by
  cases hwaits : obj.base.reconnectFunc with
  | false => exact hleaves hwaits
  | true =>
    -- Nothing of a connection that waits is open.
    obtain ⟨rfl, rfl⟩ := hidle (((sound.books hfew).trying k obj hobj).waits hwaits)
    exact hlasts

/-- A callback of a handshake, which is known of its own id from then on. -/
theorem Told.handshake {env : Environment} {place : Place} {k : ConnID} {s : ProxyStep}
    (lasting : Lasting Q S) (told : Told Q S [] met h) (sound : Sound P ⟨h, .idle, []⟩) (hbefore : FewIds h.trace)
    (hfew : FewIds (h.react env (.handshake place k s)).trace)
    (hgood : .connection ∉ (h.react env (.handshake place k s)).failed) :
    Told Q S [] (fun a => ⟨(met a).shakes ++ HandlerInput.shaken h a ⟨.handshake place k s, env⟩,
      (met a).events ++ HandlerEvent.brought h a (.handshake place k s)⟩) (h.react env (.handshake place k s)) := by
  refine told.runMethod env lasting (fun a hne => ?_) ?_ (fun hunfound => ?_) sound hbefore (fun obj r hobj hr => ?_)
    (fun obj r hplace hobj hr hlasts => ?_) hfew hgood
  · cases place <;> simp [HandlerInput.shaken, HandlerEvent.brought, Ne.symm hne]
  · simp [HandlerEvent.brought]
  · cases place with
    | connected => simp [HandlerInput.shaken, HandlerEvent.brought]
    | connecting => simp [HandlerInput.shaken, HandlerEvent.brought, CConnectionHandlerInt.shakes, hunfound rfl]
  · exact working_of_steps sound hobj (ConnectionObject.handshake_works hr)
      (fun hidle => ConnectionObject.handshake_of_idle hidle hr)
      fun hhandles => ConnectionObject.handshake_steps hhandles hr
  · subst hplace
    have hshaken : HandlerInput.shaken h k ⟨.handshake .connecting k s, env⟩ =
        if obj.isShaking then [(env.names, s)] else [] := by
      simp only [HandlerInput.shaken, CConnectionHandlerInt.shakes, hobj, if_true]
    refine sound.leaves_of_steps hbefore hobj hlasts
      (fun hidle => ⟨ConnectionObject.handshake_of_idle hidle hr, ?_⟩) fun hwaits => ?_
    · simp [hshaken, isShaking_of_idle hidle]
    · rw [hshaken]
      exact lasting.handshake hlasts hwaits hr

/-- What the handler does at an event leaves every id with its history, unless a connection fails an assertion. -/
theorem react_told (lasting : Lasting Q S) (hset : ∀ conn, P conn → conn.isSet = true)
    (supplies : input.Supplies P L) (told : Told Q S [] met h) (sound : Sound P ⟨h, .idle, []⟩)
    (henabled : h.enabled input.event = true) (hfew : FewIds (h.react input.env input.event).trace)
    (hgood : .connection ∉ (h.react input.env input.event).failed) :
    Told Q S [] (fun k => ⟨(met k).shakes ++ input.shaken h k, (met k).events ++ input.event.brought h k⟩)
      (h.react input.env input.event) := by
  have hbefore := fewIds_of_react supplies sound henabled hfew
  have hother (hnone : ∀ k, input.event.brought h k = []) (hcalm : ∀ k, input.shaken h k = [])
      (htold : Told Q S [] met (h.react input.env input.event)) :
      Told Q S [] (fun k => ⟨(met k).shakes ++ input.shaken h k, (met k).events ++ input.event.brought h k⟩)
        (h.react input.env input.event) := by
    have hsame : (fun k => (⟨(met k).shakes ++ input.shaken h k, (met k).events ++ input.event.brought h k⟩ : Met)) =
        met := funext fun k => by rw [hnone, hcalm, List.append_nil, List.append_nil]
    rw [hsame]
    exact htold
  obtain ⟨event, env⟩ := input
  change FewIds (h.react env event).trace at hfew
  change .connection ∉ (h.react env event).failed at hgood
  change Told Q S [] _ (h.react env event)
  cases event with
  | requestEvent =>
    refine hother (fun _ => rfl) (fun _ => rfl) ?_
    change Told Q S [] met (if 0 < h.needed then (h.starting env).foldl (startConnection env)
      (h.callUser env none h.asking).2 else h)
    split
    · next hneeded =>
      change FewIds (if 0 < h.needed then (h.starting env).foldl (startConnection env)
        (h.callUser env none h.asking).2 else h).trace at hfew
      rw [if_pos hneeded] at hfew
      exact Told.startConnections env lasting hset (supplies.starting h) (told.asked lasting rfl rfl)
        (sound.asked env henabled hneeded) hfew
    · exact told
  | start outgoingLimit => exact hother (fun _ => rfl) (fun _ => rfl) (told.start env lasting outgoingLimit)
  | call c => exact hother (fun _ => rfl) (fun _ => rfl) (told.calls lasting [c])
  | pumpReturn =>
    have hstopped : Told Q S [] met { h with eventBase := false } := told.of_same rfl rfl rfl rfl
    exact hother (fun _ => rfl) (fun _ => rfl) (@Told.called Q S [] met _ .onShutdown hstopped rfl false none)
  | shutdownEvent =>
    refine hother (fun _ => rfl) (fun _ => rfl) (Told.shutdownInt env lasting ?_)
    exact told.of_same rfl rfl rfl rfl
  | reconnectFunc place k =>
    exact hother (fun _ => rfl) (fun _ => rfl) (told.reconnectFunc env lasting sound hfew hgood)
  | connEvent place k event =>
    refine hother (fun _ => rfl) (fun _ => rfl) (told.runMethod env lasting (fun _ _ => rfl) rfl (fun _ => rfl) sound
      hbefore (fun obj r hobj hr => ?_) (fun obj r _ hobj hr hlasts => ?_) hfew hgood)
    · exact working_of_steps sound hobj (ConnectionObject.connEvent_works hr)
        (fun hidle => ConnectionObject.connEvent_of_idle hidle hr)
        fun hhandles => ConnectionObject.connEvent_steps hhandles hr
    · exact sound.leaves_of_steps hbefore hobj hlasts (fun hidle => ⟨ConnectionObject.connEvent_of_idle hidle hr, rfl⟩)
        fun hwaits => lasting.connEvent hlasts hwaits hr
  | dnsCallback place k result =>
    refine hother (fun _ => rfl) (fun _ => rfl) (told.runMethod env lasting (fun _ _ => rfl) rfl (fun _ => rfl) sound
      hbefore (fun obj r hobj hr => ?_) (fun obj r _ hobj hr hlasts => ?_) hfew hgood)
    · exact working_of_steps sound hobj (ConnectionObject.dnsCallback_works hr)
        (fun hidle => ConnectionObject.dnsCallback_of_idle hidle hr)
        fun hhandles => ConnectionObject.dnsCallback_steps hhandles hr
    · exact sound.leaves_of_steps hbefore hobj hlasts
        (fun hidle => ⟨ConnectionObject.dnsCallback_of_idle hidle hr, rfl⟩)
        fun hwaits => lasting.dnsCallback hlasts hwaits hr
  | handshake place k s => exact told.handshake lasting sound hbefore hfew hgood
  | connection place k e =>
    cases place with
    | connected =>
      refine told.connectionEvent env lasting ?_ (fun a hne => ?_) sound hfew hgood
      · simp [HandlerInput.shaken, HandlerEvent.brought]
      · simp [HandlerInput.shaken, HandlerEvent.brought, Ne.symm hne]
    | connecting =>
      refine hother (fun _ => rfl) (fun _ => rfl) ?_
      change Told Q S [] met (h.connectionEvent env .connecting k e)
      rw [connectionEvent_connecting env sound]
      exact told
  | resolveOnly k result =>
    exact hother (fun _ => rfl) (fun _ => rfl) (told.runResolve env lasting fun c => some (c.dnsCallback result))
  | retryEvent k => exact hother (fun _ => rfl) (fun _ => rfl) (told.retryEvent env lasting)
  | acceptConn k addr => exact hother (fun _ => rfl) (fun _ => rfl) (told.acceptConn env lasting addr sound hfew)

/-- Nothing has been heard of any id before a run, and no object lives. -/
theorem told_new (Q : List Shake → Place → ConnectionObject → Prop)
    (S : List Shake → Bool → CConnection → BufferEvent → Prop) : Told Q S [] (fun _ => ⟨[], []⟩) new := by
  have hempty (k : ConnID) : (∅ : ConnMap ConnectionObject)[k]? = none := Std.TreeMap.getElem?_emptyc
  refine ⟨fun k _ => ?_, fun k _ => ⟨rfl, rfl, hempty k⟩, fun _ _ => rfl, fun k hk => absurd (hempty k) hk, ⟨rfl, rfl⟩,
    fun k _ obj hobj => ?_, fun k _ obj hobj => ?_⟩
  · change History (S []) k [] [] ((∅ : ConnMap ConnectionObject)[k]?.map _)
    rw [hempty]
    exact .unknown
  · exact absurd (hobj.symm.trans (hempty k)) (by simp)
  · exact absurd (hobj.symm.trans (hempty k)) (by simp)

/-- Every id has its history in every state that a run reaches while few ids are issued and no connection fails an
assertion. -/
theorem run_told (lasting : Lasting Q S) (hset : ∀ conn, P conn → conn.isSet = true) (inputs : List HandlerInput)
    (hsupplies : ∀ input ∈ inputs, input.Supplies P L)
    (hfew : FewIds (run inputs).trace) (hgood : .connection ∉ (run inputs).failed) :
    Told Q S [] (brings new inputs) (run inputs) := by
  induction inputs using List.reverseRecOn with
  | nil => exact told_new Q S
  | append_singleton inputs input ih =>
    have hrest : ∀ other ∈ inputs, other.Supplies P L := fun other hother => hsupplies other (by simp [hother])
    have hinput : input.Supplies P L := hsupplies input (by simp)
    have sound := run_sound inputs hrest
    rw [run_concat] at hfew hgood ⊢
    have hbefore := fewIds_of_step hinput sound hfew
    have hbrings : brings new (inputs ++ [input]) = fun k =>
        ⟨(brings new inputs k).shakes ++
            if (run inputs).failed.isEmpty && (run inputs).enabled input.event then input.shaken (run inputs) k else [],
          (brings new inputs k).events ++
            if (run inputs).failed.isEmpty && (run inputs).enabled input.event then input.event.brought (run inputs) k
            else []⟩ :=
      funext fun k => congrArg₂ Met.mk (gathered_concat _ new inputs input) (gathered_concat _ new inputs input)
    have hprior := ih hrest hbefore
    rw [hbrings]
    unfold step at hfew hgood ⊢
    split at hfew
    · next hstep =>
      obtain ⟨hfine, henabled⟩ := Bool.and_eq_true_iff.mp hstep
      simp only [hstep, if_true] at hgood ⊢
      have hnone : .connection ∉ (run inputs).failed := by simp [List.isEmpty_iff.mp hfine]
      exact react_told lasting hset hinput (hprior hnone) sound henabled hfew hgood
    · next hstep =>
      simp only [hstep] at hgood ⊢
      simpa using hprior hgood

end Steps

end LibBtcNet
