import LibBtcNet.Shutdown

/-!
# Sessions

`Start` opens a session with `OnStartup`, and the `PumpEvents` after a shutdown closes it with
`OnShutdown`. While the assertions hold, nothing happens outside of a session: no callback, no id and
nothing on the network. Between two sessions the handler holds no connection and no request, at most a
listener that a callback has bound during the shutdown, so that the next can always be opened.
-/

namespace LibBtcNet

open CConnectionHandlerInt

/-- Whether a session is open after an item: nothing but the opening comes outside of one. -/
def TraceItem.session (opened : Bool) : TraceItem → Option Bool
  | .callback .onStartup _ _ => if opened then none else some true
  | .callback .onShutdown _ _ => if opened then some false else none
  | _ => if opened then some true else none

/-- Whether a trace that is made of sessions leaves the last one open. -/
def session (t : Trace) : Option Bool := t.foldlM TraceItem.session false

/-- A callback that neither opens nor closes a session. -/
def Callback.Inner (c : Callback) : Prop := c ≠ .onStartup ∧ c ≠ .onShutdown

/-- An item that does neither. -/
def TraceItem.Inner : TraceItem → Prop
  | .callback c _ _ => c.Inner
  | _ => True

/-- Such an item comes in a session and leaves it open. -/
theorem TraceItem.Inner.session {item : TraceItem} (inner : item.Inner) : item.session true = some true := by
  cases item with
  | callback c answer about =>
    obtain ⟨hstartup, hshutdown⟩ := inner
    cases c <;> first | contradiction | rfl
  | issued id => rfl
  | net conn action => rfl

/-- What the user's calls leave behind is of this kind. -/
theorem TraceItem.Quiet.inner {item : TraceItem} (quiet : item.Quiet) : item.Inner := by
  unfold TraceItem.Quiet at quiet
  split at quiet
  · trivial
  · exact ⟨by simp, by simp⟩
  · contradiction

/-- A trace that goes on. -/
theorem session_append (t items : Trace) : session (t ++ items) = (session t).bind (items.foldlM TraceItem.session) :=
  List.foldlM_append

/-- It goes on within an open session. -/
theorem session_append_of_inner {t items : Trace} (hopen : session t = some true)
    (hinner : ∀ item ∈ items, item.Inner) : session (t ++ items) = some true := by
  rw [session_append, hopen]
  induction items with
  | nil => rfl
  | cons item items ih =>
    rw [Option.bind_some, List.foldlM_cons, (hinner item List.mem_cons_self).session]
    exact ih fun other hother => hinner other (List.mem_cons_of_mem _ hother)

/-- What leads from a handler to another within a session. -/
structure Within (h h' : CConnectionHandlerInt) : Prop where
  trace : ∃ items, h'.trace = h.trace ++ items ∧ ∀ item ∈ items, item.Inner
  eventBase : h'.eventBase = h.eventBase
  isShutdown : h'.isShutdown = h.isShutdown

namespace Within

variable {h h' h'' : CConnectionHandlerInt} {k : ConnID} {env : Environment}

/-- Nothing happens. -/
theorem of_same (htrace : h'.trace = h.trace) (heventBase : h'.eventBase = h.eventBase)
    (hisShutdown : h'.isShutdown = h.isShutdown) : Within h h' :=
  ⟨⟨[], by simp [htrace], by simp⟩, heventBase, hisShutdown⟩

/-- The handler stays as it is. -/
theorem refl (h : CConnectionHandlerInt) : Within h h := .of_same rfl rfl rfl

/-- One after the other. -/
theorem trans (first : Within h h') (second : Within h' h'') : Within h h'' := by
  obtain ⟨items, htrace, hinner⟩ := first.trace
  obtain ⟨later, hlater, hinner'⟩ := second.trace
  refine ⟨⟨items ++ later, by rw [hlater, htrace, List.append_assoc], fun item hitem => ?_⟩,
    second.eventBase.trans first.eventBase, second.isShutdown.trans first.isShutdown⟩
  exact (List.mem_append.mp hitem).elim (hinner item) (hinner' item)

/-- Only the trace, the event base and the flag matter at the beginning. -/
theorem after {g : CConnectionHandlerInt} (within : Within h h') (htrace : h.trace = g.trace)
    (heventBase : h.eventBase = g.eventBase) (hisShutdown : h.isShutdown = g.isShutdown) : Within g h' :=
  Within.trans (.of_same htrace heventBase hisShutdown) within

/-- Steps one after the other. -/
theorem foldl {α : Type} {f : CConnectionHandlerInt → α → CConnectionHandlerInt} (hf : ∀ h a, Within h (f h a))
    (l : List α) (h : CConnectionHandlerInt) : Within h (l.foldl f h) := by
  induction l generalizing h with
  | nil => exact .refl h
  | cons a l ih => exact (hf h a).trans (ih (f h a))

/-- Something happens that is no callback. -/
theorem record {items : List TraceItem} (hinner : ∀ item ∈ items, item.Inner) : Within h (h.record items) :=
  ⟨⟨items, rfl, hinner⟩, rfl, rfl⟩

/-- An assertion. -/
theorem check (condition : Bool) (assertion : Assertion) : Within h (h.check condition assertion) := by
  unfold CConnectionHandlerInt.check
  split
  · exact .refl h
  · exact .of_same rfl rfl rfl

/-- Calls of the user. -/
theorem of_frame (frame : Frame h h') : Within h h' := by
  obtain ⟨items, htrace, hquiet, -⟩ := frame.items
  exact ⟨⟨items, htrace, fun item hitem => (hquiet item hitem).inner⟩, frame.eventBase, frame.isShutdown⟩

/-- A callback. -/
theorem callUser {about : Option CConnection} {c : Callback} (hinner : c.Inner) :
    Within h (h.callUser env about c).2 := by
  obtain ⟨ret, h', hcall, frame⟩ := callUser_frame h env about c
  rw [hcall]
  refine Within.trans (record fun item hitem => ?_) (.of_frame frame)
  obtain rfl := List.mem_singleton.mp hitem
  exact hinner

/-- An id is issued. -/
theorem issue : Within h h.getNextConnectionIndex.2 := by
  refine (Within.check (decide (0 ≤ h.connectionIndex)) .getNextConnectionIndex).trans ?_
  unfold getNextConnectionIndex
  dsimp only
  split <;> exact ⟨⟨_, rfl, by simp [TraceItem.Inner]⟩, rfl, rfl⟩

/-- An object in a map changes. -/
theorem put (place : Place) (obj : ConnectionObject) : Within h (h.put place k obj) := by
  cases place <;> exact .of_same rfl rfl rfl

/-- A counter changes. -/
theorem count (outgoing : Bool) (change : ℤ) : Within h (h.count outgoing change) := by
  unfold CConnectionHandlerInt.count
  split <;> exact .of_same rfl rfl rfl

/-- What a method asks of the network. -/
theorem net (conn : CConnection) (actions : List NetAction) : Within h (h.record (actions.map (.net conn))) := by
  refine record fun item hitem => ?_
  obtain ⟨action, -, rfl⟩ := List.mem_map.mp hitem
  trivial

/-- A connection is tried again. -/
theorem retryConnecting (ptr : ConnectionObject) : Within h (h.retryConnecting ptr) :=
  issue.trans (.of_same rfl rfl rfl)

/-- `OnConnectionFailure`. -/
theorem onConnectionFailure (about : CConnection) (type : ConnectionFailureType) (failed : CConnection)
    (retry : Bool) : Within h (h.onConnectionFailure env k about type failed retry) := by
  have hinner (retry : Bool) : (failureCallback type failed retry).Inner := by
    cases type <;> exact ⟨by simp [failureCallback], by simp [failureCallback]⟩
  unfold CConnectionHandlerInt.onConnectionFailure
  split
  · exact .of_same rfl rfl rfl
  · have hcalled : Within h ({ h with connecting := h.connecting.erase k }.callUser env about
        (failureCallback type failed (retry && !h.isShutdown))).2 := after (callUser (hinner _)) rfl rfl rfl
    dsimp only
    split
    · exact hcalled.trans (retryConnecting _)
    · exact hcalled

/-- `OnIncomingConnected`. -/
theorem onIncomingConnected (conn resolved : CConnection) :
    Within h (h.onIncomingConnected env k conn resolved) := by
  unfold CConnectionHandlerInt.onIncomingConnected
  split
  · exact .of_same rfl rfl rfl
  · have hcalled : Within h ({ h with connecting := h.connecting.erase k }.callUser env conn
        (.onIncomingConnection k conn resolved)).2 := after (callUser ⟨by simp, by simp⟩) rfl rfl rfl
    dsimp only
    split
    · exact hcalled.trans (.of_same rfl rfl rfl)
    · exact hcalled

/-- `OnOutgoingConnected`. -/
theorem onOutgoingConnected (conn resolved : CConnection) :
    Within h (h.onOutgoingConnected env k conn resolved) := by
  unfold CConnectionHandlerInt.onOutgoingConnected
  split
  · exact .of_same rfl rfl rfl
  · have hcalled : Within h ({ h with connecting := h.connecting.erase k }.callUser env conn
        (.onOutgoingConnection k conn resolved)).2 := after (callUser ⟨by simp, by simp⟩) rfl rfl rfl
    dsimp only
    split
    · exact hcalled.trans (after (callUser ⟨by simp, by simp⟩) rfl rfl rfl)
    · exact hcalled

/-- `OnDisconnected`. -/
theorem onDisconnected (reconnect : Bool) : Within h (h.onDisconnected env k reconnect) := by
  unfold CConnectionHandlerInt.onDisconnected
  dsimp only
  split
  · exact .of_same rfl rfl rfl
  · next moved hmoved =>
    have herased : Within h ({ h with connected := h.connected.erase k }.count moved.isOutgoing (-1)) :=
      after (count _ _) rfl rfl rfl
    split
    · exact (herased.trans (callUser ⟨by simp, by simp⟩)).trans (retryConnecting _)
    · exact herased.trans (callUser ⟨by simp, by simp⟩)

/-- The report that ends a method. -/
theorem onReport (r : ConnResult ConnectionObject) : Within h (h.onReport env r) := by
  unfold CConnectionHandlerInt.onReport
  dsimp only
  split
  · exact .refl h
  · exact onConnectionFailure _ _ _ _
  · exact onOutgoingConnected _ _
  · exact onIncomingConnected _ _

/-- A method of a connection. -/
theorem runMethod (place : Place) (method : ConnectionObject → Option (ConnResult ConnectionObject)) :
    Within h (h.runMethod env place k method) := by
  unfold CConnectionHandlerInt.runMethod
  split
  · exact .refl h
  · split
    · exact .of_same rfl rfl rfl
    · exact ((put place _).trans (net _ _)).trans (onReport _)

/-- `Connect`. -/
theorem connect (place : Place) : Within h (h.connect env place k) := runMethod place _

/-- `OnResolveComplete`. -/
theorem onResolveComplete (conn : CConnection) (resolved : List CConnection) :
    Within h (h.onResolveComplete env k conn resolved) :=
  Within.trans (callUser ⟨by simp, by simp⟩) (.of_same rfl rfl rfl)

/-- `OnResolveFailure`. -/
theorem onResolveFailure (conn : CConnection) (retry : Bool) :
    Within h (h.onResolveFailure env k conn retry) := by
  unfold CConnectionHandlerInt.onResolveFailure
  have hcalled : Within h (h.callUser env conn (.onDnsFailure conn (retry && !h.isShutdown))).2 :=
    callUser ⟨by simp, by simp⟩
  dsimp only
  split
  · exact hcalled.trans (.of_same rfl rfl rfl)
  · split <;> exact hcalled.trans (.of_same rfl rfl rfl)

/-- A method of a resolve-only request. -/
theorem runResolve (method : CResolveOnly → Option (MethodResult CResolveOnly ResolveReport)) :
    Within h (h.runResolve env k method) := by
  unfold CConnectionHandlerInt.runResolve
  split
  · exact .refl h
  · next c hc =>
    split
    · exact .of_same rfl rfl rfl
    · next r hr =>
      have hworked : Within h
          ({ h with dnsResolves := h.dnsResolves.insert k r.obj }.record (r.net.map (.net c.conn))) :=
        after (net _ _) rfl rfl rfl
      dsimp only
      split
      · exact hworked
      · exact hworked.trans (onResolveFailure _ _)
      · exact hworked.trans (onResolveComplete _ _)

/-- `StartConnection`. -/
theorem startConnection (conn : CConnection) : Within h (h.startConnection env conn) := by
  unfold CConnectionHandlerInt.startConnection
  have hissued : Within h h.getNextConnectionIndex.2 := issue
  dsimp only
  split
  · split
    · exact hissued
    · exact hissued.trans (after (runResolve _) rfl rfl rfl)
  · exact hissued.trans (after (connect .connecting) rfl rfl rfl)

/-- `RequestOutgoingInt`. -/
theorem requestOutgoingInt : Within h (h.requestOutgoingInt env) := by
  unfold CConnectionHandlerInt.requestOutgoingInt
  dsimp only
  split
  · exact Within.trans (callUser ⟨by simp, by simp⟩) (foldl (fun _ conn => startConnection conn) _ _)
  · exact .refl h

/-- An effect of a connection. -/
theorem performEffect (place : Place) (effect : ConnEffect) : Within h (h.performEffect env place k effect) := by
  unfold CConnectionHandlerInt.performEffect
  split
  · exact .refl h
  · split
    · exact (put place _).trans (onDisconnected _)
    · split
      · exact .refl h
      · next c hc =>
        refine callUser ?_
        cases effect <;> simp only [effectCallback, reduceCtorEq, Option.some.injEq] at hc <;>
          exact hc ▸ ⟨by simp, by simp⟩

/-- An event of a connection. -/
theorem connectionEvent (place : Place) (e : ConnEvent) : Within h (h.connectionEvent env place k e) := by
  unfold CConnectionHandlerInt.connectionEvent
  split
  · exact .refl h
  · split
    · split
      · exact .of_same rfl rfl rfl
      · exact (put place _).trans (foldl (fun _ effect => performEffect place effect) _ _)
    · exact .refl h

/-- The retry timer of a connection. -/
theorem reconnectFunc (place : Place) : Within h (h.reconnectFunc env place k) := by
  unfold CConnectionHandlerInt.reconnectFunc
  split
  · exact .refl h
  · split
    · exact (put place _).trans (connect place)
    · exact .refl h

/-- The retry event of a resolve-only request. -/
theorem retryEvent : Within h (h.retryEvent env k) := by
  unfold CConnectionHandlerInt.retryEvent
  split
  · exact .refl h
  · split
    · exact after (runResolve _) rfl rfl rfl
    · exact .refl h

/-- A socket is accepted. -/
theorem acceptConn (addr : Bytes) : Within h (h.acceptConn env k addr) := by
  unfold CConnectionHandlerInt.acceptConn
  split
  · exact .refl h
  · have hchecked (condition : Bool) : Within h (h.getNextConnectionIndex.2.check condition .incomingConn) :=
      issue.trans (check condition .incomingConn)
    exact (hchecked _).trans (after (connect .connecting) rfl rfl rfl)

/-- `ShutdownInt` disconnects. -/
theorem shutdownConnected (entry : ConnID × ConnectionObject) : Within h (h.shutdownConnected env entry) :=
  (count _ _).trans (callUser ⟨by simp, by simp⟩)

/-- It drops what is not established. -/
theorem shutdownConnecting (entry : ConnID × ConnectionObject) : Within h (h.shutdownConnecting env entry) := by
  unfold CConnectionHandlerInt.shutdownConnecting
  dsimp only
  split
  · exact Within.trans (callUser ⟨by simp, by simp⟩) (.of_same rfl rfl rfl)
  · exact .of_same rfl rfl rfl

end Within

/-- The handler holds no connection and no request, and has neither a DNS base nor an event to be woken by. Its event
base may still be there, and listeners that were bound during the shutdown. -/
structure CConnectionHandlerInt.Vacant (h : CConnectionHandlerInt) : Prop where
  idle : h.Idle
  outgoingConnCount : h.outgoingConnCount = 0
  incomingConnCount : h.incomingConnCount = 0
  dnsBase : h.dnsBase = false
  requestEvent : h.requestEvent = false
  shutdownEvent : h.shutdownEvent = none

/-- The trace is made of sessions, the last of which is open while there is an event base, and a handler
that does not run is vacant. -/
structure InSessions (h : CConnectionHandlerInt) : Prop where
  sessions : session h.trace = some h.eventBase
  vacant : ¬h.Running → h.Vacant

/-- `Start` opens a session: `OnStartup` is called, and nothing comes before it. -/
structure Opens (h h' : CConnectionHandlerInt) : Prop where
  running : h'.Running
  trace : ∃ answer items, h'.trace = h.trace ++ .callback .onStartup answer none :: items ∧
    ∀ item ∈ items, item.Quiet
  failed : .start ∉ h'.failed

section Steps

variable {h : CConnectionHandlerInt} {env : Environment}

/-- What happens within a session leaves it open. -/
theorem InSessions.within {h' : CConnectionHandlerInt} (inSessions : InSessions h) (hrunning : h.Running)
    (within : Within h h') : InSessions h' := by
  obtain ⟨items, htrace, hinner⟩ := within.trace
  have hopen : session h.trace = some true := inSessions.sessions.trans (congrArg some hrunning.1)
  refine ⟨?_, fun hstopped => absurd ⟨within.eventBase.trans hrunning.1, within.isShutdown.trans hrunning.2⟩ hstopped⟩
  rw [htrace, session_append_of_inner hopen hinner, within.eventBase, hrunning.1]

/-- `Start` of a vacant handler. -/
theorem start_of_vacant (vacant : h.Vacant) (hclosed : h.eventBase = false) (hfailed : h.failed = [])
    (outgoingLimit : Int32) : Opens h (h.start env outgoingLimit) := by
  obtain ⟨ret, h', hcall, frame⟩ := callUser_frame { h with
    isShutdown := false
    outgoingConnLimit := outgoingLimit
    eventBase := true
    dnsBase := true
    requestEvent := true
    shutdownEvent := some false } env none .onStartup
  have hstart : h.start env outgoingLimit = h' := by
    rw [start, if_neg (by simp [vacant.outgoingConnCount, vacant.incomingConnCount, hclosed, vacant.dnsBase,
      vacant.requestEvent, vacant.shutdownEvent]), hcall]
  obtain ⟨items, htrace, hquiet, -⟩ := frame.items
  obtain ⟨failures, hfailures, hcalls⟩ := frame.failed
  rw [hstart]
  refine ⟨⟨frame.eventBase, frame.isShutdown⟩, ⟨ret, items, ?_, hquiet⟩, fun hmem => ?_⟩
  · rw [htrace]
    simp [record]
  · rw [hfailures] at hmem
    rcases List.mem_append.mp hmem with hold | hnew
    · simp [record, hfailed] at hold
    · simpa [Assertion.OfCalls] using hcalls _ hnew

/-- A call outside of a session does nothing but perhaps fail an assertion. -/
theorem apiCall_of_closed (hclosed : h.eventBase = false) (c : ApiCall) (hfailed : (h.apiCall c).failed = []) :
    (h.apiCall c).trace = h.trace ∧ (h.apiCall c).dnsBase = h.dnsBase ∧
      (h.apiCall c).requestEvent = h.requestEvent := by
  have hcall (id : ConnID) (c : ConnCall) : (h.connectionCall id c).trace = h.trace ∧
      (h.connectionCall id c).dnsBase = h.dnsBase ∧ (h.connectionCall id c).requestEvent = h.requestEvent := by
    unfold connectionCall
    split
    · split
      · exact ⟨rfl, rfl, rfl⟩
      · split <;> exact ⟨rfl, rfl, rfl⟩
    · exact ⟨rfl, rfl, rfl⟩
  cases c with
  | bind conn listens =>
    have hbase : h.getNextConnectionIndex.2.eventBase = false := Within.issue.eventBase.trans hclosed
    -- Without an event base the assertion of `Bind` fails.
    simp only [apiCall, CConnectionHandlerInt.bind, hbase, check_eq] at hfailed
    split at hfailed <;> simp [onListenFailure, record] at hfailed
  | shutdown =>
    simp only [apiCall, shutdown]
    split <;> exact ⟨rfl, rfl, rfl⟩
  | closeConnection id immediately => exact hcall _ _
  | send id size => exact hcall _ _
  | setRateLimit id => exact hcall _ _
  | pauseRecv id => exact hcall _ _
  | unpauseRecv id => exact hcall _ _
  | resetPingTimeout id seconds => exact hcall id (.resetPingTimeout seconds)

/-- A vacant handler stays so. -/
theorem CConnectionHandlerInt.Vacant.apiCall (vacant : h.Vacant) (hclosed : h.eventBase = false) (c : ApiCall)
    (hfailed : (h.apiCall c).failed = []) : (h.apiCall c).Vacant := by
  obtain ⟨-, hdnsBase, hrequestEvent⟩ := apiCall_of_closed hclosed c hfailed
  have frame := apiCall_frame h c
  refine ⟨⟨fun k => ?_, fun k => ?_, fun k => ?_⟩, frame.outgoingConnCount.trans vacant.outgoingConnCount,
    frame.incomingConnCount.trans vacant.incomingConnCount, hdnsBase.trans vacant.dnsBase,
    hrequestEvent.trans vacant.requestEvent, ?_⟩
  · rw [frame.connecting]
    exact vacant.idle.connecting k
  · exact (frame.connected_eq_none_iff k).mpr (vacant.idle.connected k)
  · rw [frame.dnsResolves]
    exact vacant.idle.dnsResolves k
  · have hsome := frame.shutdownEvent
    rw [vacant.shutdownEvent] at hsome
    simpa using hsome

/-- `ShutdownInt` leaves the handler vacant when its last assertion holds. -/
theorem shutdownInt_vacant (hrunning : h.isShutdown = false) (hfailed : (h.shutdownInt env).failed = []) :
    (h.shutdownInt env).Vacant := by
  unfold shutdownInt at hfailed ⊢
  rw [if_neg (by simp [hrunning])] at hfailed ⊢
  obtain ⟨hcondition, hsame⟩ := check_of_failed hfailed
  rw [hsame]
  simp only [Bool.and_eq_true, beq_iff_eq] at hcondition
  obtain ⟨⟨⟨⟨hconnecting, hconnected⟩, hdnsResolves⟩, houtgoing⟩, hincoming⟩ := hcondition
  exact ⟨⟨OrderedMap.isEmpty_iff.mp hconnecting, OrderedMap.isEmpty_iff.mp hconnected,
    OrderedMap.isEmpty_iff.mp hdnsResolves⟩, houtgoing, hincoming, rfl, rfl, rfl⟩

/-- It is part of the session, which stays open. -/
theorem shutdownInt_within (hrunning : h.isShutdown = false) :
    Within { h with isShutdown := true } (h.shutdownInt env) := by
  have hconnected (entries : List (ConnID × ConnectionObject)) (h : CConnectionHandlerInt) :
      Within h (entries.foldl (shutdownConnected env) h) := .foldl (fun _ entry => .shutdownConnected entry) entries h
  have hconnecting (entries : List (ConnID × ConnectionObject)) (h : CConnectionHandlerInt) :
      Within h (entries.foldl (shutdownConnecting env) h) :=
    .foldl (fun _ entry => .shutdownConnecting entry) entries h
  have hcleared : Within { h with isShutdown := true }
      { h with connected := ∅, binds := ∅, isShutdown := true } := .of_same rfl rfl rfl
  have hended (h : CConnectionHandlerInt) : Within h { h with
      dnsResolves := ∅
      dnsBase := false
      requestEvent := false
      shutdownEvent := none } := .of_same rfl rfl rfl
  simp only [shutdownInt, hrunning, Bool.false_eq_true, if_false]
  exact (((hcleared.trans (hconnected _ _)).trans (hconnecting _ _)).trans (hended _)).trans (.check _ _)

/-- `Start` opens a session where there is none, and fails otherwise. -/
theorem InSessions.start (inSessions : InSessions h) (hfailed : h.failed = []) (outgoingLimit : Int32)
    (hholds : (h.start env outgoingLimit).failed = []) : InSessions (h.start env outgoingLimit) := by
  cases hbase : h.eventBase with
  | true =>
    rw [CConnectionHandlerInt.start, if_pos (by simp [hbase])] at hholds
    simp [CConnectionHandlerInt.fail] at hholds
  | false =>
    have hvacant := inSessions.vacant fun hrunning => by simp [hrunning.1] at hbase
    obtain ⟨hrunning, ⟨answer, items, htrace, hquiet⟩, -⟩ :=
      @start_of_vacant h env hvacant hbase hfailed outgoingLimit
    refine ⟨?_, fun hstopped => absurd hrunning hstopped⟩
    have hopened : session (h.trace ++ [.callback .onStartup answer none]) = some true := by
      rw [session_append, inSessions.sessions, hbase]
      rfl
    have hinner := session_append_of_inner hopened fun item hitem => (hquiet item hitem).inner
    rwa [hrunning.1, htrace, ← List.singleton_append, ← List.append_assoc]

/-- A call of the user comes in a session, or leaves the handler vacant. -/
theorem InSessions.apiCall (inSessions : InSessions h) (c : ApiCall) (hcan : (!(h.eventBase && h.isShutdown)) = true)
    (hholds : (h.apiCall c).failed = []) : InSessions (h.apiCall c) := by
  have frame := apiCall_frame h c
  cases hbase : h.eventBase with
  | true =>
    have hshutdown : h.isShutdown = false := by simpa [hbase] using hcan
    exact inSessions.within ⟨hbase, hshutdown⟩ (.of_frame frame)
  | false =>
    obtain ⟨htrace, -⟩ := apiCall_of_closed hbase c hholds
    have hvacant := inSessions.vacant fun hrunning => by simp [hrunning.1] at hbase
    refine ⟨?_, fun _ => hvacant.apiCall hbase c hholds⟩
    rw [htrace, frame.eventBase]
    exact inSessions.sessions

/-- `PumpEvents` closes the session that is shut down. -/
theorem InSessions.pumpReturn (inSessions : InSessions h) (hbase : h.eventBase = true)
    (hshutdown : h.isShutdown = true) : InSessions h.pumpReturn := by
  have hvacant := inSessions.vacant fun hrunning => by simp [hrunning.2] at hshutdown
  refine ⟨?_, fun _ => ⟨⟨hvacant.idle.connecting, hvacant.idle.connected, hvacant.idle.dnsResolves⟩,
    hvacant.outgoingConnCount, hvacant.incomingConnCount, hvacant.dnsBase, hvacant.requestEvent,
    hvacant.shutdownEvent⟩⟩
  change session (h.trace ++ [.callback .onShutdown false none]) = some false
  rw [session_append, inSessions.sessions, hbase]
  rfl

/-- `ShutdownInt` leaves the session open, and the handler vacant. -/
theorem InSessions.shutdownInt (inSessions : InSessions h) (hrunning : h.Running)
    (hholds : (h.shutdownInt env).failed = []) : InSessions (h.shutdownInt env) := by
  have within := @shutdownInt_within h env hrunning.2
  obtain ⟨items, htrace, hinner⟩ := within.trace
  have hopen : session h.trace = some true := inSessions.sessions.trans (congrArg some hrunning.1)
  refine ⟨?_, fun _ => shutdownInt_vacant hrunning.2 hholds⟩
  rw [within.eventBase, htrace]
  exact (session_append_of_inner hopen hinner).trans (congrArg some hrunning.1.symm)

/-- While the assertions hold, an event keeps the sessions. -/
theorem InSessions.react (inSessions : InSessions h) (hfailed : h.failed = []) {event : HandlerEvent}
    (henabled : h.enabled event = true) (hholds : (h.react env event).failed = []) :
    InSessions (h.react env event) := by
  have hrunning (hbase : (h.eventBase && !h.isShutdown) = true) : h.Running := by
    simpa [Running] using hbase
  cases event with
  | start outgoingLimit => exact inSessions.start hfailed outgoingLimit hholds
  | call c => exact inSessions.apiCall c henabled hholds
  | pumpReturn =>
    obtain ⟨hbase, hshutdown⟩ := Bool.and_eq_true_iff.mp henabled
    exact inSessions.pumpReturn hbase hshutdown
  | shutdownEvent =>
    have hrunning := hrunning (Bool.and_eq_true_iff.mp henabled).1
    have hquieted : InSessions { h with shutdownEvent := some false } :=
      inSessions.within hrunning (.of_same rfl rfl rfl)
    exact hquieted.shutdownInt hrunning hholds
  | requestEvent => exact inSessions.within (hrunning (Bool.and_eq_true_iff.mp henabled).1) .requestOutgoingInt
  | reconnectFunc place k => exact inSessions.within (hrunning henabled) (.reconnectFunc place)
  | connEvent place k event => exact inSessions.within (hrunning henabled) (.runMethod place _)
  | dnsCallback place k result => exact inSessions.within (hrunning henabled) (.runMethod place _)
  | handshake place k s => exact inSessions.within (hrunning henabled) (.runMethod place _)
  | connection place k e => exact inSessions.within (hrunning henabled) (.connectionEvent place e)
  | resolveOnly k result =>
    have within : Within h (h.runResolve env k fun c => some (c.dnsCallback result)) := .runResolve _
    exact inSessions.within (hrunning henabled) within
  | retryEvent k => exact inSessions.within (hrunning henabled) .retryEvent
  | acceptConn k addr => exact inSessions.within (hrunning henabled) (.acceptConn addr)

/-- So does a step. -/
theorem InSessions.step {input : HandlerInput} (inSessions : h.failed = [] → InSessions h)
    (hholds : (h.step input).failed = []) : InSessions (h.step input) := by
  unfold CConnectionHandlerInt.step at hholds ⊢
  split
  · next hstep =>
    rw [if_pos hstep] at hholds
    obtain ⟨hfailed, henabled⟩ := Bool.and_eq_true_iff.mp hstep
    have hfailed : h.failed = [] := List.isEmpty_iff.mp hfailed
    exact (inSessions hfailed).react hfailed henabled hholds
  · next hstep =>
    rw [if_neg hstep] at hholds
    exact inSessions hholds

/-- And a run. -/
theorem run_inSessions (inputs : List HandlerInput) (hholds : (run inputs).failed = []) :
    InSessions (run inputs) := by
  induction inputs using List.reverseRecOn with
  | nil => exact ⟨rfl, fun _ => ⟨⟨fun _ => rfl, fun _ => rfl, fun _ => rfl⟩, rfl, rfl, rfl, rfl, rfl⟩⟩
  | append_singleton inputs input ih =>
    rw [run_concat] at hholds ⊢
    exact InSessions.step ih hholds

end Steps

/-- In every run in which the assertions hold, what happens is made of sessions, from `OnStartup` to `OnShutdown`, of
which the last is open while there is an event base. When the handler does not run, it is vacant, and when there is
no event base, whatever calls were made in between, it can be started again. -/
theorem run_sessions (inputs : List HandlerInput) (hholds : (run inputs).failed = []) :
    session (run inputs).trace = some (run inputs).eventBase ∧ (¬(run inputs).Running → (run inputs).Vacant) ∧
      ((run inputs).eventBase = false → ∀ env outgoingLimit,
        Opens (run inputs) ((run inputs).step ⟨.start outgoingLimit, env⟩)) := by
  have inSessions := run_inSessions inputs hholds
  refine ⟨inSessions.sessions, inSessions.vacant, fun hclosed env outgoingLimit => ?_⟩
  have hvacant := inSessions.vacant fun hrunning => by simp [hrunning.1] at hclosed
  have hstep : (run inputs).step ⟨.start outgoingLimit, env⟩ = (run inputs).start env outgoingLimit := by
    have hnotEnding : (!((run inputs).eventBase && (run inputs).isShutdown)) = true := by rw [hclosed]; rfl
    have henabled : (run inputs).enabled (.start outgoingLimit) = true := hnotEnding
    exact if_pos (Bool.and_eq_true_iff.mpr ⟨List.isEmpty_iff.mpr hholds, henabled⟩)
  rw [hstep]
  exact start_of_vacant hvacant hclosed hholds outgoingLimit

/-- A session in which a name is looked up when the handler is shut down. -/
def oneSession : List HandlerInput :=
  let env := Environment.accepting [seedRequest] .later
  [⟨.start 8, env⟩, ⟨.requestEvent, env⟩, ⟨.call .shutdown, env⟩, ⟨.shutdownEvent, env⟩, ⟨.pumpReturn, env⟩]

/-- After it the next can be opened. -/
theorem run_sessions_one :
    session (run oneSession).trace = some false ∧ (run oneSession).Vacant ∧
      Opens (run oneSession) ((run oneSession).step ⟨.start 8, Environment.accepting [] .later⟩) := by
  have hholds : (run oneSession).failed = [] := by decide +kernel
  have hclosed : (run oneSession).eventBase = false := by decide +kernel
  obtain ⟨hsession, hvacant, hopens⟩ := run_sessions oneSession hholds
  rw [hclosed] at hsession
  exact ⟨hsession, hvacant fun hrunning => by simp [hrunning.1] at hclosed, hopens hclosed _ 8⟩

end LibBtcNet
