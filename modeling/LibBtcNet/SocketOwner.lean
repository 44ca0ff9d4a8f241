import LibBtcNet.HandlerAssertions

/-!
# One owner of the socket

An object has three handles for its bufferevent: `BareConnect` makes one for the socket that connects,
`InitProxy` swaps it into the handshake, and `OnOutgoingConnected` moves it into the connection, while
every failure and every retry lets go of it. At most one of the three is ever set, none is when `Connect`
runs, and that of the connection is while it is established, so that no assertion about them fails. An id
that is issued again while an object is filed under it lets `Connect` run on that object.
-/

namespace LibBtcNet

open CConnectionHandlerInt

/-- `CBareConnection::m_bev`. -/
def ConnKind.bareBev : ConnKind → Option BufferEvent
  | .incoming _ => none
  | .direct c => c.bareBev
  | .dns c => c.bareBev
  | .proxied c => c.bareBev

/-- `CBareProxy::m_bev`. -/
def ConnKind.proxyBev : ConnKind → Option BufferEvent
  | .proxied c => c.proxyBev
  | _ => none

/-- The bufferevents that an object holds, in `CBareConnection`, `CBareProxy` and `ConnectionBase`. -/
def ConnectionObject.bufferevents (obj : ConnectionObject) : List BufferEvent :=
  obj.kind.bareBev.toList ++ obj.kind.proxyBev.toList ++ obj.base.bev.toList

/-- A socket has one owner, before an event and at it. An assertion of an object fails only about what the other
end has sent, so not in a method that makes a bufferevent, takes one over or needs one, nor in a call of the user. -/
structure OneOwner (h : CConnectionHandlerInt) (input : HandlerInput) : Prop where
  single {place : Place} {k : ConnID} {obj : ConnectionObject} : (h.objects place)[k]? = some obj →
    obj.bufferevents.length ≤ 1
  connects : (h.failed.isEmpty && h.enabled input.event) = true → ∀ call ∈ h.connectCalls input,
    ∀ obj ∈ call.object?, obj.bufferevents = []
  connected {k : ConnID} {obj : ConnectionObject} : h.connected[k]? = some obj → obj.base.bev.isSome = true
  asserted : .connection ∈ (h.step input).failed → .connection ∈ h.failed ∨ h.ReadFails input

section Owners

variable {P : CConnection → Prop} {h : CConnectionHandlerInt} {conns : List CConnection}

/-- The handles of an attempt count the bufferevents of an object. -/
theorem ConnectionObject.length_bufferevents_le (obj : ConnectionObject) :
    obj.bufferevents.length ≤ obj.kind.handles + obj.base.bev.isSome.toNat := by
  have htoList (bev : Option BufferEvent) : bev.toList.length = bev.isSome.toNat := by cases bev <;> rfl
  obtain ⟨base, kind⟩ := obj
  simp only [bufferevents, List.length_append, htoList]
  cases kind <;> simp [ConnKind.bareBev, ConnKind.proxyBev, ConnKind.handles]

/-- A handler in order has one owner for each socket. -/
theorem Sound.bufferevents_le {place : Place} {k : ConnID} {obj : ConnectionObject}
    (sound : Sound P ⟨h, .idle, conns⟩) (hfew : FewIds h.trace) (hobj : (h.objects place)[k]? = some obj) :
    obj.bufferevents.length ≤ 1 := by
  have hlength := obj.length_bufferevents_le
  cases place with
  | connecting =>
    have hhandles := sound.handles_le hfew hobj
    rw [(sound.objects.connecting k obj hobj).bev] at hlength
    exact hlength.trans hhandles
  | connected =>
    rw [((sound.books hfew).settled k obj hobj).handles] at hlength
    exact hlength.trans ((Nat.zero_add _).trans_le (Bool.toNat_le _))

/-- `Connect` runs on an object without a bufferevent where it may be connected. -/
theorem Sound.bufferevents_of_connectable {call : ConnectCall} {env : Environment}
    (sound : Sound P ⟨call.handler, .idle, conns⟩) (hready : call.handler.Connectable call.place call.id)
    (hfew : FewIds (call.run env).trace) : ∀ obj ∈ call.object?, obj.bufferevents = [] := by
  intro obj hobj
  obtain ⟨hplace, hsettled⟩ := (hready obj hobj).2 (sound.fewIds (connect_leads env hready) hfew)
  have hlength := obj.length_bufferevents_le
  rw [ConnectCall.object?, hplace] at hobj
  rw [hsettled.handles, (sound.objects.connecting call.id obj hobj).bev] at hlength
  exact List.eq_nil_of_length_eq_zero (Nat.le_zero.mp hlength)

/-- So it does in every `StartConnection` of a list. -/
theorem startingCalls_bufferevents (env : Environment) (hsupplied : ∀ conn ∈ conns, P conn)
    (sound : Sound P ⟨h, .idle, conns⟩) (hfew : FewIds (conns.foldl (startConnection env) h).trace) :
    ∀ call ∈ startingCalls env conns h, ∀ obj ∈ call.object?, obj.bufferevents = [] := by
  induction conns generalizing h with
  | nil => exact fun call hcall => absurd hcall List.not_mem_nil
  | cons conn conns ih =>
    have hconn := hsupplied conn List.mem_cons_self
    have hrest : ∀ other ∈ conns, P other := fun other hother => hsupplied other (List.mem_cons_of_mem _ hother)
    obtain ⟨hstarted, hfew'⟩ := sound.of_started env hsupplied hfew
    intro call hcall
    rcases List.mem_append.mp hcall with hfirst | hlater
    · have hfirst := Option.mem_toList.mp hfirst
      rw [startConnection_of_call hfirst] at hfew'
      exact (sound.startingCall hconn hfirst).bufferevents_of_connectable
        (sound.startingCall_connectable hconn hfirst) hfew'
    · exact ih hrest hstarted hfew call hlater

/-- `Connect` runs on no object that has a bufferevent. -/
theorem Sound.connectCalls_bufferevents {L : Int32 → Prop} {input : HandlerInput} (supplies : input.Supplies P L)
    (sound : Sound P ⟨h, .idle, []⟩) (henabled : h.enabled input.event = true)
    (hfew : FewIds (h.react input.env input.event).trace) :
    ∀ call ∈ h.connectCalls input, ∀ obj ∈ call.object?, obj.bufferevents = [] := by
  obtain ⟨event, env⟩ := input
  cases event with
  | requestEvent =>
    intro call hcall
    change call ∈ if 0 < h.needed then startingCalls env (h.starting env) (h.callUser env none h.asking).2 else []
      at hcall
    change FewIds (if 0 < h.needed then (h.starting env).foldl (startConnection env)
      (h.callUser env none h.asking).2 else h).trace at hfew
    split at hcall
    · next hneeded =>
      rw [if_pos hneeded] at hfew
      exact startingCalls_bufferevents env (supplies.starting h) (sound.asked env henabled hneeded) hfew call hcall
    · contradiction
  | reconnectFunc place k =>
    intro call hcall
    have hcall := Option.mem_toList.mp hcall
    change FewIds (h.reconnectFunc env place k).trace at hfew
    rw [reconnectFunc_eq, hcall] at hfew
    exact (sound.reconnectCall hcall).bufferevents_of_connectable (sound.reconnectCall_connectable hcall) hfew
  | acceptConn k addr =>
    intro call hcall obj hobj
    cases hbind : h.binds[k]? with
    | none =>
      simp only [connectCalls, hbind] at hcall
      contradiction
    | some conn =>
      simp only [connectCalls, hbind] at hcall
      obtain rfl := List.mem_singleton.mp hcall
      change FewIds (h.acceptConn env k addr).trace at hfew
      simp only [acceptConn, hbind] at hfew
      obtain ⟨id, h', hissue⟩ : ∃ id h', h.getNextConnectionIndex = (id, h') := ⟨_, _, rfl⟩
      obtain ⟨bytesRead, bytesWritten, hfound⟩ := acceptingCall_object hissue (sound.acceptingCall_free hissue hfew)
      obtain rfl := Option.some.inj (hfound.symm.trans hobj)
      rfl
  | _ => exact fun call hcall => absurd hcall List.not_mem_nil

end Owners

/-- A socket has one owner in every state that a run reaches, and at every event that comes next, while fewer than
2^63 ids have been issued. -/
theorem run_oneOwner (inputs : List HandlerInput) (input : HandlerInput)
    (hfew : FewIds (run (inputs ++ [input])).trace) : OneOwner (run inputs) input := by
  have hsupplies (input : HandlerInput) : input.Supplies (fun conn => conn.isSet = true) fun _ => True :=
    ⟨fun _ _ _ hset => hset, fun _ _ => trivial⟩
  have hsound : Sound (fun conn => conn.isSet = true) ⟨run inputs, .idle, []⟩ :=
    run_sound inputs fun input _ => hsupplies input
  rw [run_concat] at hfew
  have hbefore : FewIds (run inputs).trace := fewIds_of_step (hsupplies input) hsound hfew
  have hseated : (run inputs).Seated := run_seated (fun _ hset => hset) inputs (fun input _ => hsupplies input) hbefore
  refine ⟨fun hobj => hsound.bufferevents_le hbefore hobj, fun hstep => ?_, fun hobj => (hseated.connected _ _ hobj).2,
    (step_carries (fun _ hset => hset) (hsupplies input) hsound hfew hseated).2⟩
  rw [step, if_pos hstep] at hfew
  exact hsound.connectCalls_bufferevents (hsupplies input) (Bool.and_eq_true_iff.mp hstep).2 hfew

/-- A persistent connection that is established, and closed by the user. -/
def establishedAndClosed : List HandlerInput :=
  [⟨.start 8, .accepting [] .later⟩, ⟨.requestEvent, .accepting [localPeer true] .later⟩,
    ⟨.connEvent .connecting 0 ⟨false, false, false, true⟩, .accepting [] .later⟩,
    ⟨.call (.closeConnection 0 true), .accepting [] .later⟩]

/-- It is tried again. -/
theorem run_oneOwner_reconnected :
    FewIds (run (establishedAndClosed ++
      [⟨.connection .connected 0 .disconnectFunc, .accepting [] .later⟩])).trace ∧
    OneOwner (run establishedAndClosed) ⟨.connection .connected 0 .disconnectFunc, .accepting [] .later⟩ := by
  have hfew : FewIds (run (establishedAndClosed ++
      [⟨.connection .connected 0 .disconnectFunc, .accepting [] .later⟩])).trace := by decide +kernel
  exact ⟨hfew, run_oneOwner establishedAndClosed _ hfew⟩

section Wrapping

/-- A handler that differs from another only in the ids that it has issued. -/
structure Reissued (h : CConnectionHandlerInt) (issued : ℕ) (h' : CConnectionHandlerInt) : Prop where
  connectionIndex : h'.connectionIndex = idAt issued
  connecting : h'.connecting = h.connecting
  outgoingConnCount : h'.outgoingConnCount = h.outgoingConnCount
  outgoingConnLimit : h'.outgoingConnLimit = h.outgoingConnLimit
  isShutdown : h'.isShutdown = h.isShutdown
  eventBase : h'.eventBase = h.eventBase
  requestEvent : h'.requestEvent = h.requestEvent
  failed : h'.failed = h.failed

/-- A `Bind` that gets no listener issues an id, and leaves nothing else behind. -/
theorem Reissued.bind {h h' : CConnectionHandlerInt} {issued : ℕ} (reissued : Reissued h issued h')
    (hfailed : h.failed = []) (hbase : h.eventBase = true) (hshutdown : h.isShutdown = false) (conn : CConnection)
    (env : Environment) : Reissued h (issued + 1) (h'.step ⟨.call (.bind conn false), env⟩) := by
  have hnone : h'.failed = [] := reissued.failed.trans hfailed
  have henabled : h'.enabled (.call (.bind conn false)) = true := by
    change (!(h'.eventBase && h'.isShutdown)) = true
    rw [reissued.isShutdown, hshutdown, Bool.and_false]
    rfl
  have hstep : (h'.failed.isEmpty && h'.enabled (.call (.bind conn false))) = true := by
    rw [hnone, henabled]
    rfl
  have hissue := getNextConnectionIndex_idAt h' reissued.connectionIndex
  rw [step, if_pos hstep]
  change Reissued h (issued + 1) (h'.bind conn false)
  simp only [CConnectionHandlerInt.bind, hissue]
  have hbase' : h'.eventBase = true := reissued.eventBase.trans hbase
  simp only [check, hbase', if_true]
  exact ⟨rfl, reissued.connecting, reissued.outgoingConnCount, reissued.outgoingConnLimit, reissued.isShutdown,
    hbase.symm, reissued.requestEvent, reissued.failed⟩

/-- So do any number of them. -/
theorem Reissued.binds {h h' : CConnectionHandlerInt} {issued : ℕ} (reissued : Reissued h issued h')
    (hfailed : h.failed = []) (hbase : h.eventBase = true) (hshutdown : h.isShutdown = false) (conn : CConnection)
    (env : Environment) (times : ℕ) :
    Reissued h (issued + times) ((List.replicate times ⟨.call (.bind conn false), env⟩).foldl step h') := by
  induction times generalizing h' issued with
  | zero => exact reissued
  | succ times ih =>
    rw [List.replicate_succ, List.foldl_cons, Nat.add_comm times 1, ← Nat.add_assoc]
    exact ih (reissued.bind hfailed hbase hshutdown conn env)

/-- A connection that is being connected, under the id 0. -/
def connectingFirst : List HandlerInput :=
  [⟨.start 8, .accepting [] .later⟩, ⟨.requestEvent, .accepting [localPeer true] .later⟩]

/-- As many calls of `Bind` as it takes until 0 is the next id again. -/
def rebinding (times : ℕ) : List HandlerInput :=
  List.replicate times ⟨.call (.bind (localPeer true) false), .accepting [] .later⟩

/-- What the next request finds. -/
theorem startingCall_reissued (env : Environment) {h h' : CConnectionHandlerInt} {conn : CConnection}
    {obj : ConnectionObject} {issued : ℕ} (reissued : Reissued h issued h') (honly : conn.isResolveOnly = false)
    (hobj : h.connecting[idAt issued]? = some obj) :
    ∃ call, h'.startingCall env conn = some call ∧ call.object? = some obj := by
  have hissue := getNextConnectionIndex_idAt h' reissued.connectionIndex
  simp only [startingCall, hissue, honly, Bool.false_eq_true, if_false]
  refine ⟨_, rfl, ?_⟩
  change (h'.connecting.insertIfNew (idAt issued) _)[idAt issued]? = some obj
  rw [OrderedMap.getElem?_insertIfNew, if_pos rfl, reissued.connecting, hobj]
  rfl

/-- `Connect` runs on the object that is still filed under 0 when 0 is issued again. -/
theorem not_oneOwner_rebinding {times : ℕ} (hwrapped : idAt (1 + times) = 0) :
    ¬OneOwner (run (connectingFirst ++ rebinding times)) ⟨.requestEvent, .accepting [localPeer true] .later⟩ := by
  intro howner
  have hfailed : (run connectingFirst).failed = [] := by decide +kernel
  have hbase : (run connectingFirst).eventBase = true := by decide +kernel
  have hshutdown : (run connectingFirst).isShutdown = false := by decide +kernel
  have hrequest : (run connectingFirst).requestEvent = true := by decide +kernel
  have hneeded : 0 < (run connectingFirst).needed := by decide +kernel
  have hfound : ((run connectingFirst).connecting[(0 : ConnID)]?.any fun obj => !obj.bufferevents.isEmpty) = true := by
    decide +kernel
  obtain ⟨obj, hobj, hbev⟩ := (Option.any_eq_true _ _).mp hfound
  have hfirst : Reissued (run connectingFirst) 1 (run connectingFirst) :=
    ⟨by decide +kernel, rfl, rfl, rfl, rfl, rfl, rfl, rfl⟩
  have hreissued := hfirst.binds hfailed hbase hshutdown (localPeer true) (.accepting [] .later) times
  have hrun : run (connectingFirst ++ rebinding times) = (rebinding times).foldl step (run connectingFirst) :=
    List.foldl_append
  rw [hrun] at howner
  change Reissued _ _ ((rebinding times).foldl step (run connectingFirst)) at hreissued
  generalize (rebinding times).foldl step (run connectingFirst) = h' at howner hreissued
  have hnone : h'.failed = [] := hreissued.failed.trans hfailed
  have henabled : h'.enabled .requestEvent = true := by
    change (h'.eventBase && !h'.isShutdown && h'.requestEvent) = true
    rw [hreissued.eventBase, hbase, hreissued.isShutdown, hshutdown, hreissued.requestEvent, hrequest]
    rfl
  have hstep : (h'.failed.isEmpty && h'.enabled .requestEvent) = true := by
    rw [hnone, henabled]
    rfl
  have hneeded' : 0 < h'.needed := by
    rw [needed, hreissued.outgoingConnLimit, hreissued.outgoingConnCount, hreissued.connecting]
    exact hneeded
  have hstarting : h'.starting (.accepting [localPeer true] .later) = [localPeer true] := by
    have hmin : min 1 h'.needed = 1 := Nat.min_eq_left hneeded'
    change ([localPeer true].take (min 1 h'.needed)).filter (·.isSet) = _
    rw [hmin]
    decide +kernel
  -- The question to the user leaves everything but the trace alone.
  have hasked : Reissued (run connectingFirst) (1 + times)
      (h'.callUser (.accepting [localPeer true] .later) none h'.asking).2 :=
    ⟨hreissued.connectionIndex, hreissued.connecting, hreissued.outgoingConnCount, hreissued.outgoingConnLimit,
      hreissued.isShutdown, hreissued.eventBase, hreissued.requestEvent, hreissued.failed⟩
  rw [← hwrapped] at hobj
  have honly : (localPeer true).isResolveOnly = false := by decide +kernel
  obtain ⟨call, hcall, hobject⟩ := startingCall_reissued (.accepting [localPeer true] .later) hasked honly hobj
  have hmem : call ∈ h'.connectCalls ⟨.requestEvent, .accepting [localPeer true] .later⟩ := by
    simp [connectCalls, hneeded', hstarting, startingCalls, hcall]
  have hempty := howner.connects hstep call hmem obj hobject
  simp [hempty] at hbev

/-- After 2^63 ids have been issued, it does. -/
theorem run_oneOwner_wrapped :
    ¬∀ (inputs : List HandlerInput) (input : HandlerInput), OneOwner (run inputs) input := by
  intro hclaim
  have hwrapped : idAt (1 + (2 ^ 63 - 1)) = 0 := by decide
  exact not_oneOwner_rebinding hwrapped (hclaim _ _)

end Wrapping

end LibBtcNet
