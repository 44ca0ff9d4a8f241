import LibBtcNet.HostNames
import LibBtcNet.OutgoingLimit
import LibBtcNet.SingleRequest

/-!
# What becomes of a started request

When `StartConnection` returns, the request is held under the id that was issued for it, or the
user has been told what became of it, for any answer of the user and any timing of the network.
Only a request to resolve through a proxy is neither: the branch that would start it is empty.
-/

namespace LibBtcNet

open CConnectionHandlerInt

/-- The outcome of a request. -/
def Callback.Outcome : Callback → Prop
  | .onConnectionFailure .. => True
  | .onProxyFailure .. => True
  | .onDnsFailure .. => True
  | .onDnsResponse .. => True
  | .onOutgoingConnection .. => True
  | _ => False

/-- Since a handler, a request has been kept under an id that is new, or its outcome has been told. -/
inductive Answered (h h' : CConnectionHandlerInt) (conn : CConnection) : Prop where
  | connecting {items : Trace} {id : ConnID} {obj : ConnectionObject} (htrace : h'.trace = h.trace ++ items)
      (hissued : .issued id ∈ items) (hfresh : h.places id = 0) (hobj : h'.connecting[id]? = some obj)
      (hconn : obj.base.conn = conn)
  | resolving {items : Trace} {id : ConnID} {c : CResolveOnly} (htrace : h'.trace = h.trace ++ items)
      (hissued : .issued id ∈ items) (hfresh : h.places id = 0) (hc : h'.dnsResolves[id]? = some c)
      (hconn : c.conn = conn)
  | told {items : Trace} {c : Callback} {answer : Bool} (htrace : h'.trace = h.trace ++ items)
      (hitem : .callback c answer (some conn) ∈ items) (houtcome : c.Outcome)

/-- A callback that is in the trace has been told since. -/
theorem Answered.of_grown {h h' : CConnectionHandlerInt} {conn : CConnection} {items : Trace} {c : Callback}
    {answer : Bool} (houtcome : c.Outcome)
    (htold : h.trace ++ items ++ [.callback c answer (some conn)] <+: h'.trace) : Answered h h' conn := by
  obtain ⟨later, hlater⟩ := htold
  have htrace : h'.trace = h.trace ++ (items ++ [.callback c answer (some conn)] ++ later) := by simp [← hlater]
  have hitem : .callback c answer (some conn) ∈ items ++ [.callback c answer (some conn)] ++ later := by simp
  exact .told htrace hitem houtcome

/-- The id that is issued next. -/
theorem getNextConnectionIndex_fst (h : CConnectionHandlerInt) : h.getNextConnectionIndex.1 = h.connectionIndex := by
  rw [getNextConnectionIndex, check_eq]
  simp only
  split
  · rfl
  · next hmax => exact (not_not.mp hmax).symm

/-- A failure is an outcome. -/
theorem failureCallback_outcome (type : ConnectionFailureType) (failed : CConnection) (retry : Bool) :
    (failureCallback type failed retry).Outcome := by
  cases type <;> trivial

section Starts

variable {h : CConnectionHandlerInt} {id : ConnID} {items : Trace} {conn : CConnection}

/-- A connection that has just been added is kept or reported. -/
theorem connect_answered (env : Environment) {before : CConnectionHandlerInt} {bytesRead bytesWritten : ℕ}
    (htrace : h.trace = before.trace ++ items) (hissued : .issued id ∈ items) (hfresh : before.places id = 0)
    (hobj : h.connecting[id]? = some (.new conn id bytesRead bytesWritten)) :
    Answered before (h.connect env .connecting id) conn := by
  have hfound : (h.objects .connecting)[id]? = some (.new conn id bytesRead bytesWritten) := hobj
  have hbase : (ConnectionObject.new conn id bytesRead bytesWritten).base.conn = conn := rfl
  have hbaseId : (ConnectionObject.new conn id bytesRead bytesWritten).base.id = id := rfl
  have houtgoing := ConnectionObject.isOutgoing_new conn id bytesRead bytesWritten
  generalize ConnectionObject.new conn id bytesRead bytesWritten = obj at *
  cases hr : obj.connect env.names (env.lookup h.trace) with
  | none =>
    have hrun : h.connect env .connecting id = h.fail .connection := by simp only [connect, runMethod, hfound, hr]
    rw [hrun]
    exact .connecting htrace hissued hfresh hobj hbase
  | some r =>
    have hworks := ConnectionObject.connect_works hr
    obtain ⟨hconn, hid, -⟩ := hworks.keeps
    have hrun : h.connect env .connecting id = (h.worked .connecting id obj r).onReport env r :=
      runMethod_eq env hfound hr
    have hworked : (h.worked .connecting id obj r).trace =
        before.trace ++ (items ++ r.net.map (.net obj.base.conn)) := by
      rw [← List.append_assoc, ← htrace]
      simp [worked, record]
    have hptr : (h.worked .connecting id obj r).connecting[id]? = some r.obj := by
      change (h.connecting.insert id r.obj)[id]? = some r.obj
      simp
    rw [hrun, onReport]
    cases hreport : r.report with
    | waiting => exact .connecting hworked (List.mem_append_left _ hissued) hfresh hptr (hconn.trans hbase)
    | connectionFailure type failed retry =>
      obtain ⟨ret, htold⟩ := onConnectionFailure_told env hptr conn type failed retry
      simp only [hid, hbaseId, hconn, hbase]
      rw [hworked] at htold
      exact .of_grown (failureCallback_outcome _ _ _) htold
    | outgoingConnected bev resolved =>
      simp only [hid, hbaseId, hconn, hbase]
      obtain ⟨ret, htold⟩ := onOutgoingConnected_told env hptr conn resolved
      rw [hworked] at htold
      have houtcome : (Callback.onOutgoingConnection id conn resolved).Outcome := trivial
      exact .of_grown houtcome htold
    | incomingConnected bev resolved =>
      have hfits := hworks.fits.report
      rw [hreport] at hfits
      exact absurd (hfits.symm.trans houtgoing) Bool.false_ne_true

/-- A resolve-only request that has just been added is kept or answered. -/
theorem resolve_answered (env : Environment) {before : CConnectionHandlerInt}
    (htrace : h.trace = before.trace ++ items)
    (hissued : .issued id ∈ items) (hfresh : before.places id = 0) (hc : h.dnsResolves[id]? = some (.new conn id)) :
    Answered before (h.resolve env id) conn := by
  cases hr : (CResolveOnly.new conn id).resolve env.names (env.lookup h.trace) with
  | none =>
    have hrun : h.resolve env id = h.fail .connection := by simp only [resolve, runResolve, hc, hr]
    rw [hrun]
    exact .resolving htrace hissued hfresh hc rfl
  | some r =>
    obtain ⟨-, hconn, -⟩ := CResolveOnly.resolve_works hr
    change r.obj.conn = conn at hconn
    let worked := { h with dnsResolves := h.dnsResolves.insert id r.obj }.record (r.net.map (.net conn))
    have hworked : worked.trace = before.trace ++ (items ++ r.net.map (.net conn)) := by
      rw [← List.append_assoc, ← htrace]
      rfl
    have hkept : worked.dnsResolves[id]? = some r.obj := by simp [worked, record]
    cases hreport : r.report with
    | waiting =>
      simp only [resolve, runResolve, hc, hr, hreport]
      exact .resolving hworked (List.mem_append_left _ hissued) hfresh hkept hconn
    | resolveFailure retry =>
      simp only [resolve, runResolve, hc, hr, hreport, hconn]
      obtain ⟨ret, htold⟩ := onResolveFailure_told (h := worked) env r.obj.id conn retry
      rw [hworked] at htold
      exact .of_grown (failureCallback_outcome .resolve conn _) htold
    | resolveComplete resolved =>
      simp only [resolve, runResolve, hc, hr, hreport, hconn]
      obtain ⟨ret, htold⟩ := onResolveComplete_told (h := worked) env r.obj.id conn resolved
      rw [hworked] at htold
      have houtcome : (Callback.onDnsResponse conn resolved).Outcome := trivial
      exact .of_grown houtcome htold

/-- A request to resolve through a proxy is dropped with the id issued for it: it is neither kept nor answered. -/
theorem not_answered_of_proxy (env : Environment) (h : CConnectionHandlerInt) {conn : CConnection}
    (honly : conn.isResolveOnly = true) (hproxy : conn.proxy.isSet = true) :
    ¬Answered h (h.startConnection env conn) conn := by
  obtain ⟨id, h', hissue⟩ : ∃ id h', h.getNextConnectionIndex = (id, h') := ⟨_, _, rfl⟩
  obtain ⟨index, failures, rfl, -, -⟩ := issued_shape hissue
  simp only [startConnection, hissue, honly, hproxy, if_true]
  intro hanswered
  cases hanswered with
  | connecting htrace hissued hfresh hobj hconn =>
    change h.connecting[_]? = _ at hobj
    rw [(places_eq_zero_iff.mp hfresh).1] at hobj
    contradiction
  | resolving htrace hissued hfresh hc hconn =>
    change h.dnsResolves[_]? = _ at hc
    rw [(places_eq_zero_iff.mp hfresh).2.2.2] at hc
    contradiction
  | told htrace hitem houtcome =>
    obtain rfl := List.append_cancel_left htrace
    simp at hitem

/-- What `StartConnection` leaves: while the next id is new, the request is kept or answered exactly when it is not
one to resolve through a proxy. -/
theorem startConnection_answered_iff (env : Environment) (h : CConnectionHandlerInt) (conn : CConnection)
    (hfresh : h.places h.connectionIndex = 0) :
    Answered h (h.startConnection env conn) conn ↔ ¬(conn.isResolveOnly = true ∧ conn.proxy.isSet = true) := by
  obtain ⟨id, h', hissue⟩ : ∃ id h', h.getNextConnectionIndex = (id, h') := ⟨_, _, rfl⟩
  obtain rfl : id = h.connectionIndex := (congrArg Prod.fst hissue).symm.trans (getNextConnectionIndex_fst h)
  obtain ⟨index, failures, rfl, -, -⟩ := issued_shape hissue
  obtain ⟨hconnecting, -, -, hdns⟩ := places_eq_zero_iff.mp hfresh
  have hadded {α : Type} {m : ConnMap α} {k : ConnID} (v : α) (hnone : m[k]? = none) :
      (m.insertIfNew k v)[k]? = some v := by
    rw [OrderedMap.getElem?_insertIfNew, if_pos rfl, hnone]
    rfl
  simp only [startConnection, hissue]
  split
  · next honly =>
    split
    · next hproxy =>
      have hnot := not_answered_of_proxy env h honly hproxy
      simp only [startConnection, hissue, honly, hproxy, if_true] at hnot
      exact iff_of_false hnot fun hneither => hneither ⟨honly, hproxy⟩
    · next hproxy =>
      exact iff_of_true (resolve_answered env rfl (List.mem_singleton_self _) hfresh (hadded _ hdns))
        fun hboth => hproxy hboth.2
  · next honly =>
    exact iff_of_true (connect_answered env rfl (List.mem_singleton_self _) hfresh (hadded _ hconnecting))
      fun hboth => honly hboth.1

end Starts

/-- The handler while a peer is being connected to and a name is being resolved. -/
def busyHandler : CConnectionHandlerInt :=
  run [⟨.start 8, .accepting [] .later⟩, ⟨.requestEvent, .accepting [localPeer true, seedLookup] .later⟩]

/-- Its next id is not in use, and another request is answered. -/
theorem startConnection_answered_busy :
    busyHandler.connecting.size = 1 ∧ busyHandler.dnsResolves.size = 1 ∧
      busyHandler.places busyHandler.connectionIndex = 0 ∧
      (Answered busyHandler (busyHandler.startConnection (.accepting [] .later) (localPeer false)) (localPeer false) ↔
        ¬((localPeer false).isResolveOnly = true ∧ (localPeer false).proxy.isSet = true)) :=
  ⟨by decide +kernel, by decide +kernel, by decide +kernel,
    startConnection_answered_iff (.accepting [] .later) busyHandler (localPeer false) (by decide +kernel)⟩

/-- `RequestOutgoingInt` hands a connection to `StartConnection` after others, in a state of the handler. -/
def HandedOver (inputs : List HandlerInput) (env : Environment) (h : CConnectionHandlerInt)
    (conn : CConnection) : Prop :=
  (run inputs).enabled .requestEvent = true ∧ ∃ before after, (run inputs).starting env = before ++ conn :: after ∧
    h = before.foldl (startConnection env) ((run inputs).callUser env none (run inputs).asking).2

/-- The next id is new while fewer than 2^63 have been issued. -/
theorem HandedOver.fresh {inputs : List HandlerInput} {env : Environment} {h : CConnectionHandlerInt}
    {conn : CConnection} (handed : HandedOver inputs env h conn) (hfew : FewIds h.getNextConnectionIndex.2.trace) :
    h.places h.connectionIndex = 0 := by
  obtain ⟨henabled, before, after, hstarting, rfl⟩ := handed
  have hsupplies (input : HandlerInput) : input.Supplies (fun _ => True) fun _ => True :=
    ⟨fun _ _ _ _ => trivial, fun _ _ => trivial⟩
  have hneeded : 0 < (run inputs).needed := by
    have hlength := starting_length_le env (run inputs)
    rw [hstarting, List.length_append, List.length_cons] at hlength
    omega
  have hopening : (run inputs).opening env .requestEvent = ⟨(run inputs).called (run inputs).asking
      (env.answer (run inputs).trace (run inputs).asking) none, .idle, before ++ conn :: after⟩ := by
    rw [CConnectionHandlerInt.opening, if_pos ⟨rfl, hneeded⟩, hstarting]
  have hsound := (run_sound inputs fun input _ => hsupplies input).opening env henabled
  rw [hopening] at hsound
  obtain ⟨ret, h', hcall, frame⟩ := callUser_frame (run inputs) env none (run inputs).asking
  have hanswer : env.answer (run inputs).trace (run inputs).asking = ret := congrArg Prod.fst hcall
  rw [hanswer] at hsound
  rw [hcall] at hfew ⊢
  have hstarted := @startConnections_leads (fun _ => True) (fun _ => True) h' before env (conn :: after)
    fun _ _ => trivial
  have hreached := Moves.sound (Leads.head (.user frame) hstarted hsound) hsound
  obtain ⟨id, h'', hissue⟩ : ∃ id h'', (before.foldl (startConnection env) h').getNextConnectionIndex = (id, h'') :=
    ⟨_, _, rfl⟩
  rw [hissue] at hfew
  rw [← getNextConnectionIndex_fst, hissue]
  exact hreached.fresh hissue hfew

/-- A name to resolve through a proxy on the local host. -/
def proxiedLookup : CConnection := { seedLookup with proxy := localProxy .socks5 }

/-- Such a request is lost. -/
theorem answered_lost : ¬∀ (inputs : List HandlerInput) (env : Environment) (h : CConnectionHandlerInt)
    (conn : CConnection), HandedOver inputs env h conn → conn.isSet = true →
      Answered h (h.startConnection env conn) conn := by
  intro hclaim
  have hhanded : HandedOver [⟨.start 8, .accepting [proxiedLookup] .later⟩] (.accepting [proxiedLookup] .later)
      ((startedHandler.callUser (.accepting [proxiedLookup] .later) none startedHandler.asking).2) proxiedLookup := by
    refine ⟨rfl, [], [], ?_, rfl⟩
    decide +kernel
  exact not_answered_of_proxy _ _ (by decide +kernel) (by decide +kernel) (hclaim _ _ _ _ hhanded (by decide +kernel))

end LibBtcNet
