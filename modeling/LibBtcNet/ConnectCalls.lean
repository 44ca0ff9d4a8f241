import LibBtcNet.HandlerRuns

/-!
# The calls of `Connect`

A step calls `Connect` for each request that it starts, for a socket that it accepts, and for a
connection whose retry timer has run out. What the call finds is filed under an id that has just been
issued, or has let go of its handles.
-/

namespace LibBtcNet

open CConnectionHandlerInt

/-- Few ids are issued where moves lead from if few are where they lead to. -/
theorem Sound.fewIds {P : CConnection → Prop} {s s' : Stage} (sound : Sound P s)
    (leads : Leads P (fun _ => True) s s') (hfew : FewIds s'.handler.trace) : FewIds s.handler.trace :=
  Moves.fewIds (leads sound) hfew

/-- A call of `Connect`: the handler that it is made in, and where it finds the object. -/
structure ConnectCall where
  handler : CConnectionHandlerInt
  place : Place
  id : ConnID

/-- The object that `Connect` is called on. -/
def ConnectCall.object? (call : ConnectCall) : Option ConnectionObject :=
  (call.handler.objects call.place)[call.id]?

/-- What the call does. -/
def ConnectCall.run (env : Environment) (call : ConnectCall) : CConnectionHandlerInt :=
  call.handler.connect env call.place call.id

namespace CConnectionHandlerInt

/-- The call of `StartConnection`. -/
def startingCall (env : Environment) (h : CConnectionHandlerInt) (conn : CConnection) : Option ConnectCall :=
  let (id, h) := h.getNextConnectionIndex
  if conn.isResolveOnly then none
  else
    let (bytesRead, bytesWritten) := env.uninitialized h.trace
    some ⟨{ h with connecting := h.connecting.insertIfNew id (.new conn id bytesRead bytesWritten) }, .connecting, id⟩

/-- The calls for the requests of a list, one after the other. -/
def startingCalls (env : Environment) : List CConnection → CConnectionHandlerInt → List ConnectCall
  | [], _ => []
  | conn :: conns, h => (h.startingCall env conn).toList ++ startingCalls env conns (h.startConnection env conn)

/-- The call of `OnIncomingConnection`. -/
def acceptingCall (env : Environment) (bind : CConnection) (addr : Bytes) (h : CConnectionHandlerInt) : ConnectCall :=
  let (id, h) := h.getNextConnectionIndex
  let h := h.check (decide (addr.length ≤ sockaddrStorageSize)) .incomingConn
  let (bytesRead, bytesWritten) := env.uninitialized h.trace
  let ptr : ConnectionObject := ⟨.new bind id bytesRead bytesWritten, .incoming ⟨addr⟩⟩
  ⟨{ h with connecting := h.connecting.insertIfNew id ptr }, .connecting, id⟩

/-- The call of a retry timer. -/
def reconnectCall (place : Place) (k : ConnID) (h : CConnectionHandlerInt) : Option ConnectCall :=
  match (h.objects place)[k]? with
  | none => none
  | some obj =>
    if obj.base.reconnectFunc then
      some ⟨h.put place k { obj with base := { obj.base with reconnectFunc := false } }, place, k⟩
    else none

/-- The calls of `Connect` that the handler makes at an event. -/
def connectCalls (h : CConnectionHandlerInt) (input : HandlerInput) : List ConnectCall :=
  match input.event with
  | .requestEvent =>
    if 0 < h.needed then
      startingCalls input.env (h.starting input.env) (h.callUser input.env none h.asking).2
    else []
  | .reconnectFunc place k => (h.reconnectCall place k).toList
  | .acceptConn k addr =>
    match h.binds[k]? with
    | none => []
    | some conn => [h.acceptingCall input.env conn addr]
  | _ => []

end CConnectionHandlerInt

section Starting

variable {P : CConnection → Prop} {h : CConnectionHandlerInt} {conns : List CConnection} {env : Environment}
  {conn : CConnection} {call : ConnectCall}

/-- `StartConnection` ends with its call. -/
theorem startConnection_of_call (hcall : h.startingCall env conn = some call) :
    h.startConnection env conn = call.run env := by
  unfold startingCall at hcall
  unfold startConnection
  dsimp only at hcall ⊢
  split at hcall
  · contradiction
  · next honly =>
    obtain rfl := Option.some.inj hcall
    rw [if_neg honly]
    rfl

/-- It makes none for a resolve-only request. -/
theorem isResolveOnly_of_no_call (hcall : h.startingCall env conn = none) : conn.isResolveOnly = true := by
  unfold startingCall at hcall
  dsimp only at hcall
  split at hcall
  · assumption
  · contradiction

/-- The object has been filed when the call is made. -/
theorem startingCall_shape (hcall : h.startingCall env conn = some call) :
    conn.isResolveOnly = false ∧ ∃ h' bytesRead bytesWritten, h.getNextConnectionIndex = (call.id, h') ∧
      call = ⟨{ h' with
        connecting := h'.connecting.insertIfNew call.id (.new conn call.id bytesRead bytesWritten) },
        .connecting, call.id⟩ := by
  obtain ⟨id, h', hissue⟩ : ∃ id h', h.getNextConnectionIndex = (id, h') := ⟨_, _, rfl⟩
  simp only [startingCall, hissue] at hcall
  split at hcall
  · contradiction
  · next honly =>
    obtain rfl := Option.some.inj hcall
    exact ⟨by simpa using honly, h', _, _, hissue, rfl⟩

/-- The handler is in order when the call is made. -/
theorem Sound.startingCall (sound : Sound P ⟨h, .idle, conn :: conns⟩) (hsupplied : P conn)
    (hcall : h.startingCall env conn = some call) : Sound P ⟨call.handler, .idle, conns⟩ := by
  obtain ⟨honly, h', bytesRead, bytesWritten, hissue, heq⟩ := startingCall_shape hcall
  rw [heq]
  exact (@Move.started P (fun _ => True) h h' conns _ conn bytesRead bytesWritten hsupplied honly hissue).sound sound

/-- The object may be connected. -/
theorem Sound.startingCall_connectable (sound : Sound P ⟨h, .idle, conn :: conns⟩) (hsupplied : P conn)
    (hcall : h.startingCall env conn = some call) : call.handler.Connectable call.place call.id := by
  obtain ⟨honly, h', bytesRead, bytesWritten, hissue, heq⟩ := startingCall_shape hcall
  rw [heq]
  exact sound.started_connectable hsupplied honly hissue

end Starting

section Reconnecting

variable {P : CConnection → Prop} {h : CConnectionHandlerInt} {conns : List CConnection} {place : Place} {k : ConnID}
  {call : ConnectCall}

/-- A retry timer makes its call, or nothing happens. -/
theorem reconnectFunc_eq (env : Environment) (h : CConnectionHandlerInt) (place : Place) (k : ConnID) :
    h.reconnectFunc env place k = ((h.reconnectCall place k).map (·.run env)).getD h := by
  unfold reconnectFunc reconnectCall
  cases (h.objects place)[k]? with
  | none => rfl
  | some obj =>
    dsimp only
    split <;> rfl

/-- The timer is not pending when the call is made. -/
theorem reconnectCall_shape (hcall : h.reconnectCall place k = some call) :
    ∃ obj, (h.objects place)[k]? = some obj ∧ obj.base.reconnectFunc = true ∧
      call = ⟨h.put place k { obj with base := { obj.base with reconnectFunc := false } }, place, k⟩ := by
  unfold reconnectCall at hcall
  split at hcall
  · contradiction
  · next obj hobj =>
    split at hcall
    · next hwaits => exact ⟨obj, hobj, hwaits, (Option.some.inj hcall).symm⟩
    · contradiction

/-- The handler is in order when the call is made. -/
theorem Sound.reconnectCall (sound : Sound P ⟨h, .idle, conns⟩) (hcall : h.reconnectCall place k = some call) :
    Sound P ⟨call.handler, .idle, conns⟩ := by
  obtain ⟨obj, hobj, -, rfl⟩ := reconnectCall_shape hcall
  exact (@rearmed_move P (fun _ => True) h conns place k obj hobj).sound sound

/-- The object may be connected. -/
theorem Sound.reconnectCall_connectable (sound : Sound P ⟨h, .idle, conns⟩)
    (hcall : h.reconnectCall place k = some call) : call.handler.Connectable call.place call.id := by
  obtain ⟨obj, hobj, hwaits, rfl⟩ := reconnectCall_shape hcall
  exact sound.rearmed_connectable hobj hwaits

end Reconnecting

section Accepting

variable {P : CConnection → Prop} {h h' : CConnectionHandlerInt} {conns : List CConnection} {env : Environment}
  {conn : CConnection} {addr : Bytes} {k id : ConnID}

/-- `OnIncomingConnection` ends with its call. -/
theorem onIncomingConnection_eq (env : Environment) (conn : CConnection) (addr : Bytes) (h : CConnectionHandlerInt) :
    h.onIncomingConnection env conn addr = (h.acceptingCall env conn addr).run env := rfl

/-- The object has been filed when the call is made, unless its id is in use. -/
theorem acceptingCall_shape (hissue : h.getNextConnectionIndex = (id, h')) :
    ∃ condition bytesRead bytesWritten, h.acceptingCall env conn addr = ⟨{ h'.check condition .incomingConn with
      connecting := (h'.check condition .incomingConn).connecting.insertIfNew id
        ⟨.new conn id bytesRead bytesWritten, .incoming ⟨addr⟩⟩ }, .connecting, id⟩ := by
  simp only [acceptingCall, hissue]
  exact ⟨_, _, _, rfl⟩

/-- The id is free while few ids are issued. -/
theorem Sound.acceptingCall_free (sound : Sound P ⟨h, .idle, conns⟩) (hissue : h.getNextConnectionIndex = (id, h'))
    (hfew : FewIds ((h.acceptingCall env conn addr).run env).trace) : h.connecting[id]? = none := by
  cases hold : h.connecting[id]? with
  | none => rfl
  | some old =>
    obtain ⟨condition, bytesRead, bytesWritten, hshape⟩ := @acceptingCall_shape h h' env conn addr id hissue
    rw [hshape] at hfew
    have hoccupied := Moves.sound (@occupied_leads P (fun _ => True) h conns id h' old hissue condition hold
      ⟨.new conn id bytesRead bytesWritten, .incoming ⟨addr⟩⟩ sound) sound
    have hfew' := hoccupied.fewIds (connect_leads env (sound.occupied_connectable hissue hold)) hfew
    change FewIds (h'.check condition .incomingConn).trace at hfew'
    rw [check_eq] at hfew'
    exact absurd (hold.symm.trans (places_eq_zero_iff.mp (sound.fresh hissue hfew')).1) (by simp)

/-- Then the new object is what the call finds. -/
theorem acceptingCall_object (hissue : h.getNextConnectionIndex = (id, h')) (hfree : h.connecting[id]? = none) :
    ∃ bytesRead bytesWritten,
      (h.acceptingCall env conn addr).object? = some ⟨.new conn id bytesRead bytesWritten, .incoming ⟨addr⟩⟩ := by
  obtain ⟨condition, bytesRead, bytesWritten, hshape⟩ := @acceptingCall_shape h h' env conn addr id hissue
  obtain ⟨index, failures, rfl, -, -⟩ := issued_shape hissue
  refine ⟨bytesRead, bytesWritten, ?_⟩
  rw [hshape, check_eq]
  change (h.connecting.insertIfNew id _)[id]? = _
  rw [OrderedMap.getElem?_insertIfNew, if_pos rfl, hfree, Option.getD_none]

/-- Its attempt comes and goes, and the user is asked about the connection. -/
theorem Sound.acceptingCall_asks (sound : Sound P ⟨h, .idle, conns⟩) (hissue : h.getNextConnectionIndex = (id, h'))
    (hfew : FewIds ((h.acceptingCall env conn addr).run env).trace) :
    FewIds h'.trace ∧ ∃ condition filed bytesRead bytesWritten ret h'', filed.kind = .incoming ⟨addr⟩ ∧
      callUser env conn (.onIncomingConnection id conn (.ofSockAddr conn.opts conn.netConfig .unset addr))
        { h'.check condition .incomingConn with
          connecting := (((h'.check condition .incomingConn).connecting.insertIfNew id filed).insert id
            (.ofSocket conn id bytesRead bytesWritten addr)).erase id } = (ret, h'') ∧
      (h.acceptingCall env conn addr).run env = if ret then { h'' with
        connected := h''.connected.insertIfNew id (ConnectionObject.ofSocket conn id bytesRead bytesWritten addr).enable
        incomingConnCount := h''.incomingConnCount + 1 } else h'' := by
  have hfree := sound.acceptingCall_free hissue hfew
  obtain ⟨condition, bytesRead, bytesWritten, hshape⟩ := @acceptingCall_shape h h' env conn addr id hissue
  obtain ⟨bytesRead', bytesWritten', hfound⟩ := @acceptingCall_object h h' env conn addr id hissue hfree
  rw [hshape] at hfound hfew ⊢
  rw [ConnectCall.run, connect_incoming env hfound] at hfew ⊢
  obtain ⟨ret, h'', hcall, frame⟩ := callUser_frame { h'.check condition .incomingConn with
    connecting := (((h'.check condition .incomingConn).connecting.insertIfNew id
      ⟨.new conn id bytesRead bytesWritten, .incoming ⟨addr⟩⟩).insert id
        (.ofSocket conn id bytesRead' bytesWritten' addr)).erase id } env conn
          (.onIncomingConnection id conn (.ofSockAddr conn.opts conn.netConfig .unset addr))
  simp only [hcall] at hfew ⊢
  refine ⟨?_, condition, _, _, _, ret, h'', rfl, hcall, rfl⟩
  have hlast : FewIds h''.trace := by
    cases ret <;> exact hfew
  have hearlier := (frame.grows.fewIds hlast).of_append
  change FewIds (h'.check condition .incomingConn).trace at hearlier
  rwa [check_eq] at hearlier

end Accepting

end LibBtcNet
