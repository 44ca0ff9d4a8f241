import LibBtcNet.HostNames
import LibBtcNet.SingleRequest

/-!
# The shutdown of a handler

`ShutdownInt` empties four containers one after the other, and the user may call the handler
between any two entries. The established connections and the attempts are ended one by one, each
with its callback. The resolve-only requests are dropped without one, and a listener that is
bound in between stays: the assertion at the end checks the containers that were swapped out.
-/

namespace LibBtcNet

open CConnectionHandlerInt

/-- The callbacks that end a connection, an attempt or a request. -/
def Callback.ends : Callback → Bool
  | .onDisconnected .. => true
  | .onConnectionFailure .. => true
  | .onDnsFailure .. => true
  | _ => false

/-- The endings among items, in order. -/
def endings (items : Trace) : List Callback := ((callbacks items).map Prod.fst).filter Callback.ends

/-- The endings that a handler owes the user when it is shut down. -/
def CConnectionHandlerInt.owed (h : CConnectionHandlerInt) : List Callback :=
  h.connected.toList.map (fun entry => .onDisconnected entry.1 false) ++
    (h.connecting.toList.filter fun entry => entry.2.isOutgoing).map (fun entry =>
      .onConnectionFailure entry.2.base.conn entry.2.base.conn false) ++
    h.dnsResolves.toList.map fun entry => .onDnsFailure entry.2.conn false

/-- A shutdown that leaves nothing behind and tells the user of everything, once. -/
structure ShutdownComplete (h h' : CConnectionHandlerInt) : Prop where
  connecting : h'.connecting.isEmpty = true
  connected : h'.connected.isEmpty = true
  binds : h'.binds.isEmpty = true
  dnsResolves : h'.dnsResolves.isEmpty = true
  outgoing : h'.outgoingConnCount = 0
  incoming : h'.incomingConnCount = 0
  told : ∃ items, h'.trace = h.trace ++ items ∧ (endings items).Perm h.owed

/-- Later endings follow earlier ones. -/
@[simp] theorem endings_append (items later : Trace) : endings (items ++ later) = endings items ++ endings later := by
  simp [endings]

/-- The calls of the user end nothing. -/
theorem endings_of_quiet {items : Trace} (hquiet : ∀ item ∈ items, item.Quiet) : endings items = [] := by
  rw [endings, List.filter_eq_nil_iff]
  intro c hc
  obtain ⟨⟨c', answer⟩, hmem, rfl⟩ := List.mem_map.mp hc
  obtain ⟨item, hitem, hcallback⟩ := List.mem_filterMap.mp hmem
  have hitem := hquiet item hitem
  unfold TraceItem.Quiet at hitem
  split at hitem
  · simp [TraceItem.callback?] at hcallback
  · obtain ⟨rfl, -⟩ := Prod.mk.inj (Option.some.inj hcallback)
    simp [Callback.ends]
  · contradiction

section Callbacks

variable {h h' : CConnectionHandlerInt} {env : Environment} {c : Callback} {ret : Bool} {about : Option CConnection}

/-- What a callback and the calls in it end: what the callback does. -/
theorem callUser_endings (hcall : h.callUser env about c = (ret, h')) :
    ∃ items, h'.trace = h.trace ++ items ∧ endings items = if c.ends then [c] else [] := by
  obtain ⟨answer, handler, heq, frame⟩ := callUser_frame h env about c
  obtain ⟨rfl, rfl⟩ := Prod.mk.inj (hcall.symm.trans heq)
  obtain ⟨items, htrace, hquiet, -⟩ := frame.items
  refine ⟨.callback c ret about :: items, ?_, ?_⟩
  · rw [htrace]
    simp [record]
  · rw [← List.singleton_append, endings_append, endings_of_quiet hquiet, List.append_nil]
    simp [endings, callbacks, TraceItem.callback?, List.filter_singleton]

end Callbacks

section Loops

variable {h : CConnectionHandlerInt}

/-- The first loop of `ShutdownInt` ends the established connections and leaves the attempts alone. -/
theorem foldl_shutdownConnected_endings (env : Environment) (entries : List (ConnID × ConnectionObject)) :
    ∃ items, (entries.foldl (shutdownConnected env) h).trace = h.trace ++ items ∧
      endings items = entries.map (fun entry => .onDisconnected entry.1 false) ∧
      (entries.foldl (shutdownConnected env) h).connecting = h.connecting ∧
      (entries.foldl (shutdownConnected env) h).isShutdown = h.isShutdown ∧
      (entries.foldl (shutdownConnected env) h).eventBase = h.eventBase := by
  induction entries generalizing h with
  | nil => exact ⟨[], (List.append_nil _).symm, rfl, rfl, rfl, rfl⟩
  | cons entry entries ih =>
    obtain ⟨ret, h', hcall, frame⟩ := callUser_frame (h.count entry.2.isOutgoing (-1)) env entry.2.base.conn
      (.onDisconnected entry.1 false)
    obtain ⟨items, htrace, hitems⟩ := callUser_endings hcall
    obtain ⟨later, hlater, hends, hconnecting, hshutdown, hbase⟩ := @ih h'
    rw [List.foldl_cons, shutdownConnected, hcall]
    refine ⟨items ++ later, ?_, ?_, ?_, ?_, ?_⟩
    · rw [hlater, htrace, count_trace, List.append_assoc]
    · rw [endings_append, hitems, hends]
      rfl
    · rw [hconnecting, frame.connecting]
      exact count_connecting ..
    · rw [hshutdown, frame.isShutdown]
      exact count_isShutdown ..
    · rw [hbase, frame.eventBase]
      exact count_eventBase ..

/-- The second loop ends the outgoing attempts. -/
theorem foldl_shutdownConnecting_endings (env : Environment) (entries : List (ConnID × ConnectionObject)) :
    ∃ items, (entries.foldl (shutdownConnecting env) h).trace = h.trace ++ items ∧
      endings items = ((entries.filter fun entry => entry.2.isOutgoing).map fun entry =>
        .onConnectionFailure entry.2.base.conn entry.2.base.conn false) ∧
      (entries.foldl (shutdownConnecting env) h).isShutdown = h.isShutdown ∧
      (entries.foldl (shutdownConnecting env) h).eventBase = h.eventBase := by
  induction entries generalizing h with
  | nil => exact ⟨[], (List.append_nil _).symm, rfl, rfl, rfl⟩
  | cons entry entries ih =>
    rw [List.foldl_cons, shutdownConnecting]
    cases houtgoing : entry.2.isOutgoing with
    | true =>
      obtain ⟨ret, h', hcall, frame⟩ := callUser_frame h env entry.2.base.conn
        (.onConnectionFailure entry.2.base.conn entry.2.base.conn false)
      obtain ⟨items, htrace, hitems⟩ := callUser_endings hcall
      simp only [if_true, hcall]
      obtain ⟨later, hlater, hends, hshutdown, hbase⟩ := @ih { h' with connecting := h'.connecting.erase entry.1 }
      refine ⟨items ++ later, ?_, ?_, hshutdown.trans frame.isShutdown, hbase.trans frame.eventBase⟩
      · rw [hlater, htrace, List.append_assoc]
      · rw [endings_append, hitems, hends, List.filter_cons, if_pos houtgoing]
        rfl
    | false =>
      obtain ⟨later, hlater, hends, hshutdown, hbase⟩ := @ih { h with connecting := h.connecting.erase entry.1 }
      refine ⟨later, hlater, ?_, hshutdown, hbase⟩
      rw [hends, List.filter_cons, if_neg (by simp [houtgoing])]

/-- What `ShutdownInt` tells the user: of everything but the requests. -/
theorem shutdownInt_endings (env : Environment) (hrunning : h.isShutdown = false) :
    ∃ items, (h.shutdownInt env).trace = h.trace ++ items ∧
      endings items ++ h.dnsResolves.toList.map (fun entry => .onDnsFailure entry.2.conn false) = h.owed ∧
      (h.shutdownInt env).isShutdown = true ∧ (h.shutdownInt env).eventBase = h.eventBase := by
  obtain ⟨items, htrace, hends, hconnecting, hshutdown, hbase⟩ := @foldl_shutdownConnected_endings
    { h with connected := ∅, binds := ∅, isShutdown := true } env h.connected.toList
  obtain ⟨later, hlater, hlaterEnds, hlaterShutdown, hlaterBase⟩ := @foldl_shutdownConnecting_endings
    (h.connected.toList.foldl (shutdownConnected env) { h with connected := ∅, binds := ∅, isShutdown := true }) env
      h.connecting.toList
  refine ⟨items ++ later, ?_, ?_, ?_, ?_⟩
  · simp only [shutdownInt, hrunning, check_eq, hconnecting]
    simp [hlater, htrace]
  · rw [endings_append, hends, hlaterEnds]
    rfl
  · simp only [shutdownInt, hrunning, check_eq, hconnecting]
    simp [hlaterShutdown, hshutdown]
  · simp only [shutdownInt, hrunning, check_eq, hconnecting]
    simp [hlaterBase, hbase]

/-- An assertion that holds changes nothing. -/
theorem check_of_failed {condition : Bool} {assertion : Assertion}
    (hfailed : (h.check condition assertion).failed = []) :
    condition = true ∧ h.check condition assertion = h := by
  cases condition with
  | true => exact ⟨rfl, rfl⟩
  | false => simp [check, CConnectionHandlerInt.fail] at hfailed

/-- The counters are zero when the assertions of `ShutdownInt` hold. -/
theorem shutdownInt_counters (env : Environment) (hrunning : h.isShutdown = false)
    (hfailed : (h.shutdownInt env).failed = []) :
    (h.shutdownInt env).outgoingConnCount = 0 ∧ (h.shutdownInt env).incomingConnCount = 0 := by
  unfold shutdownInt at hfailed ⊢
  rw [if_neg (by simp [hrunning])] at hfailed ⊢
  obtain ⟨hcondition, hsame⟩ := check_of_failed hfailed
  rw [hsame]
  simp only [Bool.and_eq_true, beq_iff_eq] at hcondition
  exact ⟨hcondition.1.2, hcondition.2⟩

/-- A call that gets no listener adds none. -/
theorem apiCall_binds {c : ApiCall} (hc : ∀ conn, c ≠ .bind conn true) {k : ConnID} (hnone : h.binds[k]? = none) :
    (h.apiCall c).binds[k]? = none := by
  have hcall (id : ConnID) (c : ConnCall) : (h.connectionCall id c).binds = h.binds := by
    unfold connectionCall
    split
    · split
      · rfl
      · split
        · rfl
        · exact put_binds ..
    · rfl
  cases c with
  | bind conn listens =>
    cases listens with
    | true => exact absurd rfl (hc conn)
    | false =>
      obtain ⟨id, h', hissue⟩ : ∃ id h', h.getNextConnectionIndex = (id, h') := ⟨_, _, rfl⟩
      obtain ⟨index, failures, rfl, -, -⟩ := issued_shape hissue
      simp only [apiCall, CConnectionHandlerInt.bind, hissue, check_eq, onListenFailure, record]
      by_cases heq : id = k
      · simp [heq]
      · simpa [heq] using hnone
  | shutdown =>
    simp only [apiCall, shutdown]
    split <;> exact hnone
  | closeConnection id immediately => exact (congrArg (·[k]?) (hcall id _)).trans hnone
  | send id size => exact (congrArg (·[k]?) (hcall id _)).trans hnone
  | setRateLimit id => exact (congrArg (·[k]?) (hcall id _)).trans hnone
  | pauseRecv id => exact (congrArg (·[k]?) (hcall id _)).trans hnone
  | unpauseRecv id => exact (congrArg (·[k]?) (hcall id _)).trans hnone
  | resetPingTimeout id seconds => exact (congrArg (·[k]?) (hcall id (.resetPingTimeout seconds))).trans hnone

end Loops

/-- The user's callbacks bind nothing after some point of a run. -/
def Environment.BindsNothing (env : Environment) (since : Trace) : Prop :=
  ∀ t : Trace, since <+: t → ∀ conn : CConnection, .bind conn true ∉ env.calls t

section Binds

variable {h : CConnectionHandlerInt} {env : Environment} {since : Trace}

/-- There is no listener, and something has happened since. -/
structure Unbound (since : Trace) (h : CConnectionHandlerInt) : Prop where
  binds (k : ConnID) : h.binds[k]? = none
  since : since <+: h.trace

/-- A callback of such a user leaves the handler without a listener. -/
theorem Unbound.callUser (unbound : Unbound since h) (hbinds : env.BindsNothing since) (about : Option CConnection)
    (c : Callback) : Unbound since (h.callUser env about c).2 := by
  obtain ⟨ret, h', hcall, -⟩ := callUser_frame h env about c
  have hgrown := callUser_told hcall
  constructor
  · intro k
    have hcalls :=
      hbinds _ (unbound.since.trans (List.prefix_append h.trace [.callback c (env.answer h.trace c) about]))
    change ((env.calls (h.trace ++ [.callback c (env.answer h.trace c) about])).foldl apiCall
      (h.record [.callback c (env.answer h.trace c) about])).binds[k]? = none
    have hnone : (h.record [.callback c (env.answer h.trace c) about]).binds[k]? = none := unbound.binds k
    generalize env.calls (h.trace ++ [.callback c (env.answer h.trace c) about]) = calls at hcalls ⊢
    generalize h.record [.callback c (env.answer h.trace c) about] = asked at hnone ⊢
    induction calls generalizing asked with
    | nil => exact hnone
    | cons call calls ih =>
      refine ih (fun conn hmem => hcalls conn (List.mem_cons_of_mem _ hmem)) _ ?_
      exact apiCall_binds (fun conn heq => hcalls conn (heq ▸ List.mem_cons_self)) hnone
  · rw [hcall]
    exact unbound.since.trans ((List.prefix_append _ _).trans hgrown)

/-- The first loop of `ShutdownInt`. -/
theorem Unbound.shutdownConnected (unbound : Unbound since h) (hbinds : env.BindsNothing since)
    (entries : List (ConnID × ConnectionObject)) : Unbound since (entries.foldl (shutdownConnected env) h) := by
  induction entries generalizing h with
  | nil => exact unbound
  | cons entry entries ih =>
    have hcounted : Unbound since (h.count entry.2.isOutgoing (-1)) := by
      refine ⟨fun k => ?_, ?_⟩
      · rw [count_binds]
        exact unbound.binds k
      · rw [count_trace]
        exact unbound.since
    exact ih (hcounted.callUser hbinds _ _)

/-- The second loop. -/
theorem Unbound.shutdownConnecting (unbound : Unbound since h) (hbinds : env.BindsNothing since)
    (entries : List (ConnID × ConnectionObject)) : Unbound since (entries.foldl (shutdownConnecting env) h) := by
  induction entries generalizing h with
  | nil => exact unbound
  | cons entry entries ih =>
    refine ih ?_
    unfold CConnectionHandlerInt.shutdownConnecting
    split
    · obtain ⟨hnone, hsince⟩ := unbound.callUser hbinds entry.2.base.conn
        (.onConnectionFailure entry.2.base.conn entry.2.base.conn false)
      exact ⟨hnone, hsince⟩
    · exact ⟨unbound.binds, unbound.since⟩

end Binds

/-- The shutdown of a handler in which no assertion fails: all is told and empty, but for the requests that were
dropped and the listeners bound in between. -/
theorem shutdown_complete_iff {P : CConnection → Prop} {h : CConnectionHandlerInt} (env : Environment)
    (hrunning : h.isShutdown = false) (hsound : Sound P ⟨h.shutdownInt env, .idle, []⟩)
    (hfailed : (h.shutdownInt env).failed = []) :
    ShutdownComplete h (h.shutdownInt env) ↔
      h.dnsResolves.isEmpty = true ∧ (h.shutdownInt env).binds.isEmpty = true := by
  obtain ⟨items, htrace, howed, hshutdown, -⟩ := shutdownInt_endings env hrunning
  have hidle : (h.shutdownInt env).Idle := by
    rcases hsound.objects.hand with hrun | hidle
    · exact absurd (hrun.2.symm.trans hshutdown) Bool.false_ne_true
    · exact hidle
  obtain ⟨houtgoing, hincoming⟩ := shutdownInt_counters env hrunning hfailed
  constructor
  · intro hcomplete
    obtain ⟨told, htold, hperm⟩ := hcomplete.told
    obtain rfl := List.append_cancel_left (htrace.symm.trans htold)
    refine ⟨?_, hcomplete.binds⟩
    have hlength := hperm.length_eq
    rw [← howed, List.length_append, List.length_map] at hlength
    have hnil : h.dnsResolves.toList = [] := List.length_eq_zero_iff.mp (by omega)
    rw [← Std.TreeMap.isEmpty_toList, hnil]
    rfl
  · rintro ⟨hdns, hbinds⟩
    have hnil : h.dnsResolves.toList = [] := List.isEmpty_iff.mp (Std.TreeMap.isEmpty_toList.trans hdns)
    rw [hnil, List.map_nil, List.append_nil] at howed
    exact ⟨OrderedMap.isEmpty_iff.mpr hidle.connecting, OrderedMap.isEmpty_iff.mpr hidle.connected, hbinds,
      OrderedMap.isEmpty_iff.mpr hidle.dnsResolves, houtgoing, hincoming, items, htrace, howed ▸ List.Perm.refl _⟩

/-- `ShutdownInt` leaves no listener when the callbacks bind nothing. -/
theorem shutdownInt_binds {h : CConnectionHandlerInt} {env : Environment} (hrunning : h.isShutdown = false)
    (hbinds : env.BindsNothing h.trace) (k : ConnID) : (h.shutdownInt env).binds[k]? = none := by
  have hunbound : Unbound h.trace { h with connected := ∅, binds := ∅, isShutdown := true } :=
    ⟨fun _ => Std.TreeMap.getElem?_emptyc, List.prefix_refl _⟩
  have hdropped := (hunbound.shutdownConnected hbinds h.connected.toList).shutdownConnecting hbinds
    (h.connected.toList.foldl (shutdownConnected env)
      { h with connected := ∅, binds := ∅, isShutdown := true }).connecting.toList
  unfold shutdownInt
  rw [if_neg (by simp [hrunning]), check_eq]
  exact hdropped.binds k

section After

variable {t : List (Callback × Bool)} {h : CConnectionHandlerInt}

/-- The handler waits to call `OnShutdown`. -/
structure Draining (t : List (Callback × Bool)) (h : CConnectionHandlerInt) : Prop where
  eventBase : h.eventBase = true
  isShutdown : h.isShutdown = true
  connected (k : ConnID) : h.connected[k]? = none
  told : callbacks h.trace = t

/-- `OnShutdown` has been called. -/
structure Ended (t : List (Callback × Bool)) (h : CConnectionHandlerInt) : Prop where
  eventBase : h.eventBase = false
  connected (k : ConnID) : h.connected[k]? = none
  told : h.failed = [] → callbacks h.trace = t ++ [(.onShutdown, false)]

/-- A call makes no callback when the handler has ended, but one that fails. -/
theorem Ended.apiCall (ended : Ended t h) (c : ApiCall) : Ended t (h.apiCall c) := by
  have frame := apiCall_frame h c
  refine ⟨frame.eventBase.trans ended.eventBase, fun k => (frame.connected_eq_none_iff k).mpr (ended.connected k),
    fun hfailed => ?_⟩
  have hcall (id : ConnID) (c : ConnCall) : h.connectionCall id c = h := by
    unfold connectionCall
    split
    · rw [ended.connected id]
    · rfl
  have hsame (hcalled : h.apiCall c = h) : callbacks (h.apiCall c).trace = t ++ [(.onShutdown, false)] := by
    rw [hcalled] at hfailed ⊢
    exact ended.told hfailed
  cases c with
  | bind conn listens =>
    -- `Bind` asserts that there is an event base.
    exfalso
    obtain ⟨id, h', hissue⟩ : ∃ id h', h.getNextConnectionIndex = (id, h') := ⟨_, _, rfl⟩
    obtain ⟨index, failures, rfl, -, -⟩ := issued_shape hissue
    have hbase := ended.eventBase
    simp only [CConnectionHandlerInt.apiCall, CConnectionHandlerInt.bind, hissue, check_eq, onListenFailure,
      record] at hfailed
    split at hfailed <;> simp [hbase] at hfailed
  | shutdown =>
    simp only [CConnectionHandlerInt.apiCall, CConnectionHandlerInt.shutdown] at hfailed ⊢
    split at hfailed
    · simp [CConnectionHandlerInt.fail] at hfailed
    · exact ended.told hfailed
  | closeConnection id immediately => exact hsame (hcall id _)
  | send id size => exact hsame (hcall id _)
  | setRateLimit id => exact hsame (hcall id _)
  | pauseRecv id => exact hsame (hcall id _)
  | unpauseRecv id => exact hsame (hcall id _)
  | resetPingTimeout id seconds => exact hsame (hcall id (.resetPingTimeout seconds))

/-- Nothing but a start leaves the end. -/
theorem Ended.step (ended : Ended t h) {input : HandlerInput} (hstart : ∀ limit, input.event ≠ .start limit) :
    Ended t (h.step input) := by
  unfold CConnectionHandlerInt.step
  split
  · next hstep =>
    have henabled := (Bool.and_eq_true_iff.mp hstep).2
    have hbase := ended.eventBase
    obtain ⟨event, env⟩ := input
    rcases running_of_enabled henabled with hrunning | rfl | ⟨limit, rfl⟩ | ⟨c, rfl⟩
    · exact absurd (hrunning.1.symm.trans hbase) Bool.noConfusion
    · exact absurd ((Bool.and_eq_true_iff.mp henabled).1.symm.trans hbase) Bool.noConfusion
    · exact absurd rfl (hstart limit)
    · exact ended.apiCall c
  · exact ended

/-- While the handler waits to call `OnShutdown`, nothing else happens. -/
theorem Draining.step (draining : Draining t h) (input : HandlerInput) :
    Draining t (h.step input) ∨ Ended t (h.step input) := by
  unfold CConnectionHandlerInt.step
  split
  · next hstep =>
    have henabled := (Bool.and_eq_true_iff.mp hstep).2
    obtain ⟨event, env⟩ := input
    have hidle (hnot : (!(h.eventBase && h.isShutdown)) = true) : False := by
      simp [draining.eventBase, draining.isShutdown] at hnot
    rcases running_of_enabled henabled with hrunning | rfl | ⟨limit, rfl⟩ | ⟨c, rfl⟩
    · exact absurd (hrunning.2.symm.trans draining.isShutdown) Bool.noConfusion
    · refine Or.inr ⟨rfl, draining.connected, fun _ => ?_⟩
      change callbacks (h.trace ++ [_]) = _
      rw [callbacks_append, draining.told]
      rfl
    · exact (hidle henabled).elim
    · exact (hidle henabled).elim
  · exact Or.inl draining

/-- So after the shutdown the callbacks are those of the shutdown and perhaps `OnShutdown`. -/
theorem Draining.foldl_step (draining : Draining t h) (later : List HandlerInput)
    (hstart : ∀ input ∈ later, ∀ limit, input.event ≠ .start limit)
    (hfailed : (later.foldl CConnectionHandlerInt.step h).failed = []) :
    callbacks (later.foldl CConnectionHandlerInt.step h).trace = t ∨
      callbacks (later.foldl CConnectionHandlerInt.step h).trace = t ++ [(.onShutdown, false)] := by
  have hreached : Draining t (later.foldl CConnectionHandlerInt.step h) ∨
      Ended t (later.foldl CConnectionHandlerInt.step h) := by
    clear hfailed
    induction later using List.reverseRecOn with
    | nil => exact Or.inl draining
    | append_singleton later input ih =>
      rw [List.foldl_append]
      rcases ih fun other hother => hstart other (by simp [hother]) with hdraining | hended
      · exact hdraining.step input
      · exact Or.inr (hended.step (hstart input (by simp)))
  exact hreached.imp (·.told) (·.told hfailed)

end After

section Runs

variable {inputs : List HandlerInput} {env : Environment}

/-- The step of the shutdown event, when no assertion fails in it. -/
theorem run_shutdownEvent (henabled : (run inputs).enabled .shutdownEvent = true)
    (hfailed : (run (inputs ++ [⟨.shutdownEvent, env⟩])).failed = []) :
    run (inputs ++ [⟨.shutdownEvent, env⟩]) = { run inputs with shutdownEvent := some false }.shutdownInt env := by
  have hbefore : (run inputs).failed.isEmpty = true := by
    by_contra hnot
    rw [run_concat, CConnectionHandlerInt.step, if_neg (by simp [hnot])] at hfailed
    simp [hfailed] at hnot
  rw [run_concat, CConnectionHandlerInt.step, if_pos (by rw [hbefore, henabled]; rfl)]
  rfl

/-- What the shutdown leaves, in any state that a run reaches. -/
theorem run_shutdownComplete_iff (henabled : (run inputs).enabled .shutdownEvent = true)
    (hfailed : (run (inputs ++ [⟨.shutdownEvent, env⟩])).failed = []) :
    ShutdownComplete (run inputs) (run (inputs ++ [⟨.shutdownEvent, env⟩])) ↔
      (run inputs).dnsResolves.isEmpty = true ∧ (run (inputs ++ [⟨.shutdownEvent, env⟩])).binds.isEmpty = true := by
  have hsupplies (input : HandlerInput) : input.Supplies (fun _ => True) fun _ => True :=
    ⟨fun _ _ _ _ => trivial, fun _ _ => trivial⟩
  have hsound := run_sound (inputs ++ [⟨.shutdownEvent, env⟩]) fun input _ => hsupplies input
  have hrunning : ({ run inputs with shutdownEvent := some false } : CConnectionHandlerInt).isShutdown = false := by
    have hevent := (Bool.and_eq_true_iff.mp henabled).1
    simpa using (Bool.and_eq_true_iff.mp hevent).2
  have hstep := run_shutdownEvent henabled hfailed
  rw [hstep] at hsound hfailed ⊢
  have hiff := shutdown_complete_iff env hrunning hsound hfailed
  constructor
  · rintro ⟨hconnecting, hconnected, hbinds, hresolves, houtgoing, hincoming, htold⟩
    exact hiff.mp ⟨hconnecting, hconnected, hbinds, hresolves, houtgoing, hincoming, htold⟩
  · intro hempty
    obtain ⟨hconnecting, hconnected, hbinds, hresolves, houtgoing, hincoming, htold⟩ := hiff.mpr hempty
    exact ⟨hconnecting, hconnected, hbinds, hresolves, houtgoing, hincoming, htold⟩

end Runs

/-- The shutdown of a handler in any state that a run reaches, when no resolve-only request is outstanding and the
callbacks bind nothing: it is complete, and no callback but `OnShutdown` follows until the handler is started again. -/
theorem run_shutdown (inputs : List HandlerInput) (env : Environment)
    (henabled : (run inputs).enabled .shutdownEvent = true) (hdns : (run inputs).dnsResolves.isEmpty = true)
    (hbinds : env.BindsNothing (run inputs).trace)
    (hfailed : (run (inputs ++ [⟨.shutdownEvent, env⟩])).failed = []) :
    ShutdownComplete (run inputs) (run (inputs ++ [⟨.shutdownEvent, env⟩])) ∧
      ∀ later : List HandlerInput, (∀ input ∈ later, ∀ limit, input.event ≠ .start limit) →
        (run (inputs ++ [⟨.shutdownEvent, env⟩] ++ later)).failed = [] →
          callbacks (run (inputs ++ [⟨.shutdownEvent, env⟩] ++ later)).trace =
              callbacks (run (inputs ++ [⟨.shutdownEvent, env⟩])).trace ∨
            callbacks (run (inputs ++ [⟨.shutdownEvent, env⟩] ++ later)).trace =
              callbacks (run (inputs ++ [⟨.shutdownEvent, env⟩])).trace ++ [(.onShutdown, false)] := by
  have hstep := run_shutdownEvent henabled hfailed
  obtain ⟨hbase, hshutdown⟩ : (run inputs).Running :=
    (running_of_enabled henabled).resolve_right fun hother => by simp at hother
  have hrunning :
      ({ run inputs with shutdownEvent := some false } : CConnectionHandlerInt).isShutdown = false := hshutdown
  have hunbound : (run (inputs ++ [⟨.shutdownEvent, env⟩])).binds.isEmpty = true := by
    rw [hstep]
    exact OrderedMap.isEmpty_iff.mpr (shutdownInt_binds hrunning hbinds)
  have hcomplete := (run_shutdownComplete_iff henabled hfailed).mpr ⟨hdns, hunbound⟩
  refine ⟨hcomplete, fun later hstart hlater => ?_⟩
  have hrun : run (inputs ++ [⟨.shutdownEvent, env⟩] ++ later) =
      later.foldl CConnectionHandlerInt.step (run (inputs ++ [⟨.shutdownEvent, env⟩])) := by
    rw [run, List.foldl_append]
    rfl
  have hdraining : Draining (callbacks (run (inputs ++ [⟨.shutdownEvent, env⟩])).trace)
      (run (inputs ++ [⟨.shutdownEvent, env⟩])) := by
    obtain ⟨items, -, -, hdone, hkept⟩ := shutdownInt_endings env hrunning
    refine ⟨?_, ?_, OrderedMap.isEmpty_iff.mp hcomplete.connected, rfl⟩
    · rw [hstep]
      exact hkept.trans hbase
    · rw [hstep]
      exact hdone
  rw [hrun] at hlater ⊢
  exact hdraining.foldl_step later hstart hlater

/-- A handler with an established connection and an attempt, which the user shuts down. -/
def twoConnections : List HandlerInput :=
  [⟨.start 8, .accepting [] .later⟩, ⟨.requestEvent, .accepting [localPeer false, localPeer false] .later⟩,
    ⟨.connEvent .connecting 0 ⟨false, false, false, true⟩, .accepting [] .later⟩,
      ⟨.call .shutdown, .accepting [] .later⟩]

/-- A handler with a request to resolve a name, which the user shuts down. -/
def outstandingLookup : List HandlerInput :=
  singleRequest seedLookup .later ++ [⟨.call .shutdown, .accepting [] .later⟩]

/-- A handler with an established connection and an attempt is shut down. -/
theorem run_shutdown_two :
    (run twoConnections).enabled .shutdownEvent = true ∧ (run twoConnections).dnsResolves.isEmpty = true ∧
    (Environment.accepting [] .later).BindsNothing (run twoConnections).trace ∧
    (run (twoConnections ++ [⟨.shutdownEvent, .accepting [] .later⟩])).failed = [] ∧
    ShutdownComplete (run twoConnections) (run (twoConnections ++ [⟨.shutdownEvent, .accepting [] .later⟩])) := by
  have hbinds : (Environment.accepting [] .later).BindsNothing (run twoConnections).trace :=
    fun _ _ _ => List.not_mem_nil
  exact ⟨by decide +kernel, by decide +kernel, hbinds, by decide +kernel,
    (run_shutdown twoConnections (.accepting [] .later) (by decide +kernel) (by decide +kernel) hbinds
      (by decide +kernel)).1⟩

/-- A request to resolve a name is outstanding: it is dropped without a callback. -/
theorem run_shutdown_dropped : ¬∀ (inputs : List HandlerInput) (env : Environment),
    (run inputs).enabled .shutdownEvent = true → (run (inputs ++ [⟨.shutdownEvent, env⟩])).failed = [] →
      ShutdownComplete (run inputs) (run (inputs ++ [⟨.shutdownEvent, env⟩])) := by
  intro hclaim
  have hcomplete := hclaim outstandingLookup (.accepting [] .later) (by decide +kernel) (by decide +kernel)
  have hempty := ((run_shutdownComplete_iff (by decide +kernel) (by decide +kernel)).mp hcomplete).1
  exact absurd hempty (by decide +kernel)

end LibBtcNet
