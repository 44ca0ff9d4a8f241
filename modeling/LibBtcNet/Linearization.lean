import LibBtcNet.ForeignCalls
import LibBtcNet.StaleEvents

/-!
# Threads in a row

A call of another thread that comes while the event thread is in the middle of an event can wait for
the next callback of the event, or for its end. So a run of the threads does what some run of one
thread does, as long as no connection is kept for another attempt with an event armed.
-/

namespace LibBtcNet

open CConnectionHandlerInt

section ShutdownEvent

/-- The handler is being shut down. -/
def Hand.ShutsDown : Hand → Prop
  | .disconnecting _ => True
  | .dropping _ => True
  | _ => False

/-- A handler that has been shut down has no shutdown event. -/
def Stage.Unsignalled (s : Stage) : Prop :=
  s.handler.isShutdown = true → s.hand.ShutsDown ∨ s.handler.shutdownEvent = none

variable {P : CConnection → Prop} {L : Int32 → Prop}

/-- What leaves both flags alone. -/
theorem Stage.Unsignalled.of_same {h h' : CConnectionHandlerInt} {hand hand' : Hand} {conns conns' : List CConnection}
    (unsignalled : Stage.Unsignalled ⟨h, hand, conns⟩) (hhand : ¬hand.ShutsDown)
    (hshutdown : h'.isShutdown = h.isShutdown) (hevent : h'.shutdownEvent = h.shutdownEvent) :
    Stage.Unsignalled ⟨h', hand', conns'⟩ := by
  intro hover
  right
  change h'.shutdownEvent = none
  rw [hevent]
  exact (unsignalled (hshutdown.symm.trans hover)).resolve_left hhand

/-- Every move keeps that. -/
theorem Move.unsignalled {s s' : Stage} (move : Move P L s s') (unsignalled : s.Unsignalled) : s'.Unsignalled := by
  have hworked (h : CConnectionHandlerInt) (place : Place) (k : ConnID) (obj : ConnectionObject)
      (r : ConnResult ConnectionObject) : (h.worked place k obj r).isShutdown = h.isShutdown ∧
        (h.worked place k obj r).shutdownEvent = h.shutdownEvent := by
    cases place <;> exact ⟨rfl, rfl⟩
  cases move with
  | user frame =>
    intro hover
    refine (unsignalled (frame.isShutdown.symm.trans hover)).imp_right fun hnone => ?_
    have hevent := frame.shutdownEvent
    rw [hnone] at hevent
    exact Option.not_isSome_iff_eq_none.mp (by rw [hevent]; exact Bool.false_ne_true)
  | forget => exact unsignalled
  | fail hother => exact unsignalled
  | changed hobj hchanges => exact unsignalled
  | relooked hsame => exact unsignalled
  | begun hlimit hbase hcount => exact fun hover => Bool.noConfusion hover
  | shutdownBegun hrunning => exact fun _ => Or.inl trivial
  | shutdownDisconnected => exact fun _ => Or.inl trivial
  | shutdownTurned => exact fun _ => Or.inl trivial
  | shutdownTold houtgoing => exact fun _ => Or.inl trivial
  | shutdownDropped => exact fun _ => Or.inl trivial
  | shutdownDone =>
    intro _
    right
    rw [check_eq]
  | @ended h hand conns k obj reconnect ret hhand hobj hstopped hreconnect =>
    refine unsignalled.of_same ?_ ?_ ?_
    · rcases hhand with rfl | rfl <;> exact id
    · simp [called, record]
    · change ({ h with connected := h.connected.erase k }.count obj.isOutgoing (-1)).shutdownEvent = h.shutdownEvent
      cases obj.isOutgoing <;> rfl
  | @stray h conns place k obj r assertion working hreport hnone =>
    exact unsignalled.of_same id (hworked h place k obj r).1 (hworked h place k obj r).2
  | @waited h conns place k obj r working hreport =>
    exact unsignalled.of_same id (hworked h place k obj r).1 (hworked h place k obj r).2
  | @failed h conns place k obj ptr r type failed retry ret working hreport hptr =>
    exact unsignalled.of_same id (hworked h place k obj r).1 (hworked h place k obj r).2
  | @outgoing h conns place k obj ptr r bev resolved ret working hreport hptr =>
    exact unsignalled.of_same id (hworked h place k obj r).1 (hworked h place k obj r).2
  | accepted hrunning hbind hissue =>
    obtain ⟨index, failures, rfl, -, -⟩ := issued_shape hissue
    exact unsignalled.of_same id rfl rfl
  | retried hissue =>
    obtain ⟨index, failures, rfl, -, -⟩ := issued_shape hissue
    exact unsignalled.of_same id rfl rfl
  | started hsupplied hconnects hissue =>
    obtain ⟨index, failures, rfl, -, -⟩ := issued_shape hissue
    exact unsignalled.of_same id rfl rfl
  | resolveStarted hsupplied hproxy hissue =>
    obtain ⟨index, failures, rfl, -, -⟩ := issued_shape hissue
    exact unsignalled.of_same id rfl rfl
  | _ => exact unsignalled.of_same id rfl rfl

/-- So do any number of moves. -/
theorem Moves.unsignalled {s s' : Stage} (moves : Moves P L s s') (unsignalled : s.Unsignalled) : s'.Unsignalled := by
  induction moves with
  | refl => exact unsignalled
  | tail _ move ih => exact move.unsignalled ih

/-- So does every run. -/
theorem run_unsignalled (inputs : List HandlerInput) : Stage.Unsignalled ⟨run inputs, .idle, []⟩ := by
  have hsupplies (input : HandlerInput) : input.Supplies (fun _ => True) fun _ => True :=
    ⟨fun _ _ _ _ => trivial, fun _ _ => trivial⟩
  induction inputs using List.reverseRecOn with
  | nil => exact fun hover => Bool.noConfusion hover
  | append_singleton inputs input ih =>
    rw [run_concat]
    unfold step
    split
    · next hstep =>
      have henabled := (Bool.and_eq_true_iff.mp hstep).2
      refine Moves.unsignalled (react_moves (hsupplies input) (run_sound inputs fun input _ => hsupplies input)
        henabled) ?_
      unfold opening
      split
      · exact ih
      · exact ih
    · exact ih

/-- After the shutdown a call of another thread does nothing, unless an assertion fails. -/
theorem run_call_of_shutdown {inputs : List HandlerInput} {c : ApiCall} (hforeign : c.Foreign)
    (hshutdown : ¬(run inputs).Running) (hdisabled : (run inputs).enabled (.call c) = false)
    (hfailed : ((run inputs).apiCall c).failed = (run inputs).failed) : (run inputs).apiCall c = run inputs := by
  have hsound : Sound (fun _ => True) ⟨run inputs, .idle, []⟩ :=
    run_sound (L := fun _ => True) inputs fun input _ => ⟨fun _ _ _ _ => trivial, fun _ _ => trivial⟩
  have hidle : (run inputs).Idle := hsound.objects.hand.resolve_left hshutdown
  have hconnection (id : ConnID) (c : ConnCall) : (run inputs).connectionCall id c = run inputs :=
    connectionCall_of_none (hidle.connected id) c
  cases c with
  | bind conn listens => exact absurd rfl (hforeign conn listens)
  | shutdown =>
    obtain ⟨active, hevent⟩ := shutdown_of_failed hfailed
    have hover : (run inputs).isShutdown = true := by
      change (!((run inputs).eventBase && (run inputs).isShutdown)) = false at hdisabled
      exact (Bool.and_eq_true_iff.mp ((Bool.not_eq_false' _).mp hdisabled)).2
    rcases run_unsignalled inputs hover with hhand | hnone
    · exact hhand.elim
    · exact absurd (hevent.symm.trans hnone) (by simp)
  | closeConnection id immediately => exact hconnection id _
  | send id size => exact hconnection id _
  | setRateLimit id => exact hconnection id _
  | pauseRecv id => exact hconnection id _
  | unpauseRecv id => exact hconnection id _
  | resetPingTimeout id seconds => exact hconnection id (.resetPingTimeout seconds)

end ShutdownEvent

namespace Environment

/-- The same answers are given while fewer than a number of things have happened, and the same calls are made up to
there. -/
structure Agrees (n : ℕ) (env env' : Environment) : Prop where
  answer (t : Trace) (c : Callback) (hlt : t.length < n) : env'.answer t c = env.answer t c
  calls (t : Trace) (hle : t.length ≤ n) : env'.calls t = env.calls t

/-- Another environment takes over after a number of things have happened. Its first callback makes the calls that
have been waiting, before its own. -/
def handOver (n : ℕ) (waiting : List ApiCall) (env next : Environment) : Environment where
  answer t c := if t.length < n then env.answer t c else next.answer t c
  calls t :=
    if t.length ≤ n then env.calls t else if t.length = n + 1 then waiting ++ next.calls t else next.calls t
  offered := env.offered
  lookup := env.lookup
  uninitialized := env.uninitialized
  names := env.names

/-- Up to there nothing changes. -/
theorem agrees_handOver (n : ℕ) (waiting : List ApiCall) (env next : Environment) :
    Agrees n env (env.handOver n waiting next) :=
  ⟨fun _ _ hlt => if_pos hlt, fun _ hle => if_pos hle⟩

/-- Environments that agree with one another. -/
theorem Agrees.trans {n n' : ℕ} {env env' env'' : Environment} (first : Agrees n env env') (hle : n ≤ n')
    (second : Agrees n' env' env'') : Agrees n env env'' :=
  ⟨fun t c hlt => (second.answer t c (hlt.trans_le hle)).trans (first.answer t c hlt),
    fun t hn => (second.calls t (hn.trans hle)).trans (first.calls t hn)⟩

end Environment

namespace CConnectionHandlerInt

/-- A callback before which calls have been waiting. -/
def callUserAfter (waiting : List ApiCall) (env : Environment) (about : Option CConnection) (c : Callback)
    (h : CConnectionHandlerInt) : Bool × CConnectionHandlerInt :=
  let answer := env.answer h.trace c
  let h := h.record [.callback c answer about]
  (answer, (waiting ++ env.calls h.trace).foldl apiCall h)

variable {h h' : CConnectionHandlerInt} {waiting : List ApiCall} {env next env' : Environment} {n : ℕ}

/-- It is the first one after an environment has taken over. -/
theorem callUser_handOver (hagrees : (env.handOver h.trace.length waiting next).Agrees n env')
    (hlt : h.trace.length < n) (about : Option CConnection) (c : Callback) :
    h.callUser env' about c = h.callUserAfter waiting next about c := by
  have hanswer : env'.answer h.trace c = next.answer h.trace c :=
    (hagrees.answer h.trace c hlt).trans (if_neg (lt_irrefl _))
  have hlength : (h.record [.callback c (next.answer h.trace c) about]).trace.length = h.trace.length + 1 := by
    rw [record, List.length_append, List.length_singleton]
  have hcalls (t : Trace) (ht : t.length = h.trace.length + 1) : env'.calls t = waiting ++ next.calls t := by
    refine (hagrees.calls t (by omega)).trans ?_
    change (if t.length ≤ h.trace.length then _ else if t.length = h.trace.length + 1 then _ else _) = _
    rw [if_neg (by omega), if_pos ht]
  simp only [callUser, callUserAfter, hanswer, hcalls _ hlength]

/-- It does what the callback does after the calls. -/
theorem callUserAfter_same (same : Same (waiting.foldl apiCall h) h') (hforeign : ∀ c ∈ waiting, c.Foreign)
    (hfailed : h'.failed = []) (env : Environment) (about : Option CConnection) (c : Callback) :
    (h'.callUser env about c).1 = (h.callUserAfter waiting env about c).1 ∧
      Same (h.callUserAfter waiting env about c).2 (h'.callUser env about c).2 := by
  have hcalled : (waiting.foldl apiCall h).failed = [] := same.failed.symm.trans hfailed
  have htrace : h'.trace = h.trace := same.trace.trans (foreign_trace hforeign hcalled)
  refine ⟨congrArg (env.answer · c) htrace, ?_⟩
  unfold callUserAfter callUser
  dsimp only
  rw [htrace, List.foldl_append, (aloof_record _).apiCalls hforeign hcalled,
    show (h'.record [.callback c (env.answer h.trace c) about]).trace =
      (h.record [.callback c (env.answer h.trace c) about]).trace by rw [record, record, htrace]]
  exact (same.record _).apiCalls _

/-- Something happens in it. -/
theorem callUserAfter_trace (waiting : List ApiCall) (env : Environment) (about : Option CConnection) (c : Callback)
    (h : CConnectionHandlerInt) : h.trace.length < (h.callUserAfter waiting env about c).2.trace.length := by
  obtain ⟨items, htrace, -⟩ := (foldl_apiCall_frame (h.record [.callback c (env.answer h.trace c) about])
    (waiting ++ env.calls (h.record [.callback c (env.answer h.trace c) about]).trace)).items
  unfold callUserAfter
  dsimp only
  rw [htrace, record]
  simp only [List.length_append, List.length_singleton]
  omega

end CConnectionHandlerInt

section Runs

variable {inputs : List HandlerInput}

/-- The handler takes an event that can come. -/
theorem run_react (hfailed : (run inputs).failed = []) {input : HandlerInput}
    (henabled : (run inputs).enabled input.event = true) :
    run (inputs ++ [input]) = (run inputs).react input.env input.event := by
  rw [run_concat, step, hfailed, henabled]
  rfl

/-- While the handler is not shut down, any calls can come between two events. -/
theorem run_calls (hrunning : (run inputs).isShutdown = false) {calls : List ApiCall}
    (hfailed : (calls.foldl apiCall (run inputs)).failed = []) :
    ∃ inputs', run inputs' = calls.foldl apiCall (run inputs) := by
  induction calls generalizing inputs with
  | nil => exact ⟨inputs, rfl⟩
  | cons c calls ih =>
    have henabled : (run inputs).enabled (.call c) = true := by
      change (!((run inputs).eventBase && (run inputs).isShutdown)) = true
      rw [hrunning, Bool.and_false, Bool.not_false]
    have hcall : run (inputs ++ [⟨.call c, .accepting [] .later⟩]) = (run inputs).apiCall c :=
      run_react (failed_of_apiCalls hfailed) henabled
    rw [List.foldl_cons, ← hcall] at hfailed ⊢
    refine ih ?_ hfailed
    rw [hcall]
    exact (apiCall_frame (run inputs) c).isShutdown.trans hrunning

end Runs

/-- In a run of one thread an event of an established connection is under way: whatever the environment says after
a number of things have happened, it leads to the rest. -/
structure Underway (inputs : List HandlerInput) (k : ConnID) (e : ConnEvent) (n : ℕ)
    (rest : Environment → CConnectionHandlerInt) : Prop where
  running : (run inputs).Running
  failed : (run inputs).failed = []
  leads : ∃ env : Environment, ∀ env', env.Agrees n env' →
    (run inputs).connectionEvent env' .connected k e = rest env'

/-- What is left of a connection whose events have been cancelled, and that calls may have reached since. -/
structure ConnectionObject.Leaves (obj obj' : ConnectionObject) : Prop where
  kind : obj'.kind = obj.kind
  conn : obj'.base.conn = obj.base.conn
  id : obj'.base.id = obj.base.id
  retry (newId : ConnID) : obj'.base.disconnectInt.retry newId = obj.base.disconnectInt.retry newId

/-- The threads are where a run of one thread is, but for the calls that have come since the last callback of the
event that is under way. -/
inductive Sequential (h : CConnectionHandlerInt) : EventThread → Prop where
  | waiting {inputs : List HandlerInput} (same : Same (run inputs) h) : Sequential h .waiting
  | reporting {inputs : List HandlerInput} {k : ConnID} {e : ConnEvent} {effects : List ConnEffect}
    {before : CConnectionHandlerInt} {calls : List ApiCall}
    (underway : Underway inputs k e before.trace.length fun env =>
      effects.foldl (performEffect env .connected k) before)
    (hforeign : ∀ c ∈ calls, c.Foreign) (same : Same (calls.foldl apiCall before) h) :
    Sequential h (.reporting .connected k effects)
  | cancelled {inputs : List HandlerInput} {k : ConnID} {e : ConnEvent} {before : CConnectionHandlerInt}
    {calls : List ApiCall} {obj obj' : ConnectionObject}
    (underway : Underway inputs k e before.trace.length fun env =>
      before.performEffect env .connected k .disconnectInt)
    (hforeign : ∀ c ∈ calls, c.Foreign) (same : Same (calls.foldl apiCall (before.without k)) (h.without k))
    (hobj : before.connected[k]? = some obj) (hobj' : h.connected[k]? = some obj') (leaves : obj.Leaves obj') :
    Sequential h (.cancelled .connected k)
  | retrying {inputs : List HandlerInput} {k : ConnID} {e : ConnEvent} {before : CConnectionHandlerInt}
    {calls : List ApiCall} {ptr moved : ConnectionObject}
    (underway : Underway inputs k e before.trace.length fun _ => before.retryConnecting ptr)
    (hforeign : ∀ c ∈ calls, c.Foreign) (same : Same (calls.foldl apiCall before) h)
    (hretry : ∀ newId, moved.retry newId = ptr.retry newId) : Sequential h (.retrying moved)

namespace Underway

variable {inputs : List HandlerInput} {k : ConnID} {e : ConnEvent} {n n' : ℕ}
  {rest rest' : Environment → CConnectionHandlerInt}

/-- The environment is changed from here on. -/
theorem handOver (underway : Underway inputs k e n rest) (hle : n ≤ n') (calls : List ApiCall) (next : Environment)
    (hrest : ∀ env env', (Environment.handOver n calls env next).Agrees n' env' → rest env' = rest' env') :
    Underway inputs k e n' rest' := by
  obtain ⟨env, hleads⟩ := underway.leads
  refine ⟨underway.running, underway.failed, env.handOver n calls next, fun env' agrees => ?_⟩
  rw [hleads env' ((Environment.agrees_handOver n calls env next).trans hle agrees)]
  exact hrest env env' agrees

/-- The event goes to its end. -/
theorem leadsTo (underway : Underway inputs k e n rest) : ∃ inputs' env, run inputs' = rest env := by
  obtain ⟨env, hleads⟩ := underway.leads
  have henabled : (run inputs).enabled (.connection .connected k e) = true := by
    change ((run inputs).eventBase && !(run inputs).isShutdown) = true
    rw [underway.running.1, underway.running.2]
    rfl
  refine ⟨inputs ++ [⟨.connection .connected k e, env⟩], env, ?_⟩
  rw [run_react underway.failed henabled]
  exact hleads env ⟨fun _ _ _ => rfl, fun _ _ => rfl⟩

/-- Where nothing is left to report, the event is over, and the calls come after it. -/
theorem finished {before h : CConnectionHandlerInt} {calls : List ApiCall}
    (underway : Underway inputs k e n fun _ => before)
    (same : Same (calls.foldl apiCall before) h) (hfailed : h.failed = []) (hrunning : h.isShutdown = false) :
    Sequential h .waiting := by
  obtain ⟨inputs', env, hrun⟩ := underway.leadsTo
  have hcalls : (calls.foldl apiCall (run inputs')).failed = [] := by rw [hrun, ← same.failed, hfailed]
  have hsilent : (run inputs').isShutdown = false := by
    rw [hrun, ← (foldl_apiCall_frame before calls).isShutdown, ← same.isShutdown, hrunning]
  obtain ⟨inputs'', hinputs''⟩ := run_calls hsilent hcalls
  refine @Sequential.waiting _ inputs'' ?_
  rw [hinputs'', hrun]
  exact same

end Underway

namespace ThreadedHandler.Intact

variable {t : ThreadedHandler}

/-- The connection that the event thread is at work on is established under its id, and the handler runs. -/
theorem found (intact : t.Intact) {place : Place} {k : ConnID} (hat : t.thread.at? = some (place, k)) :
    place = .connected ∧ t.handler.Running ∧ ∃ obj, t.handler.connected[k]? = some obj ∧ obj.base.id = k := by
  obtain ⟨h, thread⟩ := t
  obtain ⟨hand, hfits, stage⟩ := intact
  have hestablished (hfound : h.connected[k]? ≠ none) (hhand : hand = .idle ∨ hand = .closing k) :
      h.Running ∧ ∃ obj, h.connected[k]? = some obj ∧ obj.base.id = k := by
    obtain ⟨obj, hobj⟩ := Option.ne_none_iff_exists'.mp hfound
    refine ⟨?_, obj, hobj, (stage.sound.objects.connected k obj hobj).id⟩
    rcases hhand with rfl | rfl
    · exact @Objects.running_of_found _ _ _ .connected _ _ stage.sound.objects hobj
    · exact stage.sound.objects.hand
  cases thread with
  | waiting => contradiction
  | retrying moved => contradiction
  | reporting place' k' effects =>
    obtain ⟨rfl, rfl⟩ := Prod.mk.inj (Option.some.inj hat)
    exact ⟨hfits.1, hestablished hfits.2.1 (hfits.2.2.imp And.left And.left)⟩
  | cancelled place' k' =>
    obtain ⟨rfl, rfl⟩ := Prod.mk.inj (Option.some.inj hat)
    exact ⟨hfits.1, hestablished hfits.2.1 hfits.2.2⟩

/-- The end of a connection is the last of its reports. -/
theorem ends {place : Place} {k : ConnID} {effects : List ConnEffect} (intact : t.Intact)
    (hthread : t.thread = .reporting place k (.disconnectInt :: effects)) : effects = [] := by
  obtain ⟨h, thread⟩ := t
  obtain rfl : thread = .reporting place k (.disconnectInt :: effects) := hthread
  obtain ⟨hand, ⟨-, -, ⟨-, hordered⟩ | ⟨-, heq⟩⟩, -⟩ := intact
  · exact hordered.disconnectInt_last (List.nil_append _).symm
  · exact (List.cons.inj heq).2

/-- The handler runs while a connection is kept for another attempt. -/
theorem running {moved : ConnectionObject} (intact : t.Intact) (hthread : t.thread = .retrying moved) :
    t.handler.Running := by
  obtain ⟨h, thread⟩ := t
  obtain rfl : thread = .retrying moved := hthread
  obtain ⟨hand, rfl, stage⟩ := intact
  exact stage.sound.objects.hand.1

end ThreadedHandler.Intact

namespace ConnectionObject.Leaves

variable {obj obj' : ConnectionObject}

/-- Calls leave as much. -/
theorem reached (leaves : obj.Leaves obj') {base : ConnectionBase} (hreached : obj'.base.Reached base) :
    obj.Leaves { obj' with base } := by
  obtain ⟨hconn, hid, -⟩ := hreached.keeps
  exact ⟨leaves.kind, hconn.trans leaves.conn, hid.trans leaves.id,
    fun newId => (hreached.retry_disconnectInt newId).trans (leaves.retry newId)⟩

/-- A connection whose events are not armed is tried again as if there had been no calls. -/
theorem retried (leaves : obj.Leaves obj') (hstopped : obj'.base.Stopped) (newId : ConnID) :
    obj'.retry newId = ({ obj with base := obj.base.disconnectInt } : ConnectionObject).retry newId := by
  have hsame : obj'.base.retry newId = obj'.base.disconnectInt.retry newId := by
    simp only [ConnectionBase.retry, ConnectionBase.disconnectInt, hstopped.disconnectFunc,
      hstopped.disconnectWaitFunc, hstopped.checkWriteBufferFunc, hstopped.pingTimeoutFunc, hstopped.firstDataFunc]
  rw [ConnectionObject.retry, ConnectionObject.retry, hsame, leaves.retry, leaves.kind]

end ConnectionObject.Leaves

namespace Sequential

variable {h : CConnectionHandlerInt} {thread : EventThread}

/-- Another thread makes a call. -/
theorem call (sequential : Sequential h thread) {c : ApiCall} (hforeign : c.Foreign) (hfailed : h.failed = [])
    (hcall : (h.apiCall c).failed = []) : Sequential (h.apiCall c) thread := by
  have hconcat (calls : List ApiCall) (hcalls : ∀ c ∈ calls, c.Foreign) : ∀ other ∈ calls ++ [c], other.Foreign := by
    intro other hother
    rcases List.mem_append.mp hother with hold | hnew
    · exact hcalls other hold
    · exact List.mem_singleton.mp hnew ▸ hforeign
  cases sequential with
  | @waiting inputs same =>
    have hrun : ((run inputs).apiCall c).failed = (run inputs).failed := by
      rw [← (same.apiCall c).failed, ← same.failed, hcall, hfailed]
    cases henabled : (run inputs).enabled (.call c) with
    | true =>
      refine @waiting _ (inputs ++ [⟨.call c, .accepting [] .later⟩]) ?_
      rw [run_react (same.failed.symm.trans hfailed) henabled]
      exact same.apiCall c
    | false =>
      refine @waiting _ inputs ?_
      have hrunning : ¬(run inputs).Running := by
        rintro ⟨hbase, hshutdown⟩
        change (!((run inputs).eventBase && (run inputs).isShutdown)) = false at henabled
        rw [hshutdown, Bool.and_false] at henabled
        contradiction
      have hnothing := run_call_of_shutdown hforeign hrunning henabled hrun
      exact hnothing ▸ same.apiCall c
  | @reporting inputs k e effects before calls underway hcalls same =>
    refine @reporting _ inputs k e effects before (calls ++ [c]) underway (hconcat calls hcalls) ?_
    rw [List.foldl_append]
    exact same.apiCall c
  | @cancelled inputs k e before calls obj obj' underway hcalls same hobj hobj' leaves =>
    obtain ⟨base, hreached, hfound⟩ := apiCall_reached hobj' c
    refine @cancelled _ inputs k e before (calls ++ [c]) obj _ underway (hconcat calls hcalls) ?_ hobj hfound
      (leaves.reached hreached)
    rw [List.foldl_append]
    exact (same.apiCall c).trans (apiCall_without hforeign (hcall.trans hfailed.symm) k).symm
  | @retrying inputs k e before calls ptr moved underway hcalls same hretry =>
    refine @retrying _ inputs k e before (calls ++ [c]) ptr moved underway (hconcat calls hcalls) ?_ hretry
    rw [List.foldl_append]
    exact same.apiCall c

/-- The event thread takes up an event. -/
theorem take {inputs : List HandlerInput} (same : Same (run inputs) h) (hfailed : h.failed = [])
    {input : HandlerInput}
    (henabled : h.enabled input.event = true) (intact : (ThreadedHandler.take input ⟨h, .waiting⟩).Intact)
    (htaken : (ThreadedHandler.take input ⟨h, .waiting⟩).handler.failed = []) :
    Sequential (ThreadedHandler.take input ⟨h, .waiting⟩).handler
      (ThreadedHandler.take input ⟨h, .waiting⟩).thread := by
  obtain ⟨event, env⟩ := input
  have hrunFailed : (run inputs).failed = [] := same.failed.symm.trans hfailed
  have hrunEnabled : (run inputs).enabled event = true := (same.enabled event).symm.trans henabled
  have hwhole {h' : CConnectionHandlerInt} (hreact : h.react env event = h') : Sequential h' .waiting := by
    refine @waiting _ (inputs ++ [⟨event, env⟩]) ?_
    rw [run_react hrunFailed hrunEnabled, ← hreact]
    exact same.react env event
  cases event with
  | connection place k e =>
    change Sequential (h.beginEvent place k e).handler (h.beginEvent place k e).thread
    change (h.beginEvent place k e).Intact at intact
    change (h.beginEvent place k e).handler.failed = [] at htaken
    change ∀ h', h.connectionEvent env place k e = h' → Sequential h' .waiting at hwhole
    have hobjects := same.objects place k
    cases hobj : (h.objects place)[k]? with
    | none =>
      simp only [beginEvent, connectionEvent, hobj] at hwhole ⊢
      exact hwhole h rfl
    | some obj =>
      by_cases harmed : obj.base.armed e = true
      · cases hreact : obj.base.react e with
        | none => simp [beginEvent, hobj, harmed, hreact, fail] at htaken
        | some result =>
          obtain ⟨base, effects⟩ := result
          simp only [beginEvent, connectionEvent, hobj, harmed, hreact, if_true] at hwhole intact ⊢
          cases effects with
          | nil => exact hwhole _ rfl
          | cons effect effects =>
            obtain ⟨rfl, -, -⟩ := intact.found rfl
            refine @reporting _ inputs k e (effect :: effects) ((run inputs).put .connected k { obj with base }) []
              ⟨?_, hrunFailed, env, fun env' _ => ?_⟩ (fun c hc => absurd hc List.not_mem_nil)
              (same.put .connected k { obj with base })
            · change ((run inputs).eventBase && !(run inputs).isShutdown) = true at hrunEnabled
              simpa [Running] using hrunEnabled
            · simp only [connectionEvent, ← hobjects, hobj, harmed, hreact, if_true]
      · simp only [beginEvent, connectionEvent, hobj, harmed] at hwhole ⊢
        exact hwhole h rfl
  | _ => exact hwhole rfl

/-- The event thread makes its next report. -/
theorem notice {inputs : List HandlerInput} {k : ConnID} {e : ConnEvent} {effect : ConnEffect}
    {effects : List ConnEffect} {before : CConnectionHandlerInt} {calls : List ApiCall} {obj : ConnectionObject}
    (underway : Underway inputs k e before.trace.length fun env =>
      (effect :: effects).foldl (performEffect env .connected k) before)
    (hforeign : ∀ c ∈ calls, c.Foreign) (same : Same (calls.foldl apiCall before) h) (hfailed : h.failed = [])
    (hobj : before.connected[k]? = some obj) (hnotice : effect ≠ .disconnectInt) (next : Environment) :
    ∃ (after : CConnectionHandlerInt) (later : List ApiCall),
      (Underway inputs k e after.trace.length fun env => effects.foldl (performEffect env .connected k) after) ∧
        (∀ c ∈ later, c.Foreign) ∧ Same (later.foldl apiCall after) (h.performEffect next .connected k effect) := by
  have hperform {h : CConnectionHandlerInt} {obj : ConnectionObject} (hobj : h.connected[k]? = some obj)
      (env : Environment) : h.performEffect env .connected k effect =
        (effectCallback obj.base.id effect).elim h fun c => (h.callUser env obj.base.conn c).2 := by
    simp only [performEffect, objects, hobj, if_neg hnotice]
    cases effectCallback obj.base.id effect <;> rfl
  -- The calls that are waiting have kept the connection and its id.
  obtain ⟨base, hreached, hcalled⟩ := foldl_apiCall_reached hobj calls
  obtain ⟨hconn, hid, -⟩ := hreached.keeps
  have hfound : h.connected[k]? = some { obj with base } := (same.connected k).trans hcalled
  have hthreaded := hperform hfound next
  rw [hid, hconn] at hthreaded
  cases hcallback : effectCallback obj.base.id effect with
  | none =>
    rw [hcallback] at hthreaded
    refine ⟨before, calls, underway.handOver le_rfl [] next fun env env' _ => ?_, hforeign, hthreaded ▸ same⟩
    rw [List.foldl_cons, hperform hobj, hcallback, Option.elim_none]
  | some c =>
    rw [hcallback] at hthreaded
    refine ⟨(before.callUserAfter calls next obj.base.conn c).2, [], ?_, fun c hc => absurd hc List.not_mem_nil, ?_⟩
    · have hlt := callUserAfter_trace calls next obj.base.conn c before
      refine underway.handOver hlt.le calls next fun env env' agrees => ?_
      rw [List.foldl_cons, hperform hobj, hcallback]
      exact congrArg (effects.foldl (performEffect env' .connected k) ·.2) (callUser_handOver agrees hlt _ c)
    · rw [hthreaded]
      exact (callUserAfter_same same hforeign hfailed next obj.base.conn c).2

/-- `OnDisconnected` up to its call of `Retry`, of a connection that is there. -/
theorem removeConnected_of_some {k : ConnID} {obj : ConnectionObject} (hobj : h.connected[k]? = some obj)
    (env : Environment) (reconnect : Bool) :
    h.removeConnected env k reconnect =
      let called := ((h.without k).count obj.isOutgoing (-1)).callUser env obj.base.conn
        (.onDisconnected k (reconnect && !h.isShutdown))
      ⟨called.2, if reconnect && !h.isShutdown && called.1 then .retrying obj else .waiting⟩ := by
  simp only [removeConnected, hobj]
  rfl

/-- The end of a connection that is there. -/
theorem performEffect_disconnectInt {k : ConnID} {obj : ConnectionObject} (hobj : h.connected[k]? = some obj)
    (hid : obj.base.id = k) (env : Environment) :
    h.performEffect env .connected k .disconnectInt =
      let moved : ConnectionObject := { obj with base := obj.base.disconnectInt }
      let reconnect := obj.base.conn.opts.fPersistent && obj.isOutgoing && !h.isShutdown
      let called := (((h.put .connected k moved).without k).count obj.isOutgoing (-1)).callUser env obj.base.conn
        (.onDisconnected k reconnect)
      if reconnect && called.1 then called.2.retryConnecting moved else called.2 := by
  have hfound : (h.connected.insert k { obj with base := obj.base.disconnectInt })[k]? =
      some { obj with base := obj.base.disconnectInt } := by simp
  simp only [performEffect, objects, hobj, if_true, onDisconnected, put]
  rw [show obj.base.disconnectInt.id = k from hid, hfound]
  rfl

/-- What is left of either handler without a connection is the same, but for the calls. -/
theorem without_same {k : ConnID} {before : CConnectionHandlerInt} {calls : List ApiCall}
    (hforeign : ∀ c ∈ calls, c.Foreign) (same : Same (calls.foldl apiCall (before.without k)) (h.without k))
    (hfailed : h.failed = []) (moved : ConnectionObject) (outgoing : Bool) :
    Same (calls.foldl apiCall (((before.put .connected k moved).without k).count outgoing (-1)))
      ((h.without k).count outgoing (-1)) := by
  have hput : Same (before.without k) ((before.put .connected k moved).without k) := by
    refine Same.setConnected (.refl before) fun k' => ?_
    change ((before.connected.insert k moved).erase k)[k']? = (before.connected.erase k)[k']?
    by_cases hk : k = k' <;> simp [hk]
  have hcalled : (calls.foldl apiCall ((before.put .connected k moved).without k)).failed = [] := by
    rw [(hput.apiCalls calls).failed, ← same.failed]
    exact hfailed
  rw [(aloof_count outgoing (-1)).apiCalls hforeign hcalled]
  exact ((hput.apiCalls calls).symm.trans same).count _ _

/-- The event thread takes a connection out of `m_connected` and tells the user. -/
theorem remove {inputs : List HandlerInput} {k : ConnID} {e : ConnEvent} {before : CConnectionHandlerInt}
    {calls : List ApiCall} {obj obj' : ConnectionObject}
    (underway : Underway inputs k e before.trace.length fun env =>
      before.performEffect env .connected k .disconnectInt)
    (hforeign : ∀ c ∈ calls, c.Foreign) (same : Same (calls.foldl apiCall (before.without k)) (h.without k))
    (hobj : before.connected[k]? = some obj) (hobj' : h.connected[k]? = some obj') (hid : obj.base.id = k)
    (leaves : obj.Leaves obj') (hfailed : h.failed = []) (hrunning : h.isShutdown = false) (next : Environment)
    (hstopped : h.keeps next obj' = true → obj'.base.Stopped) :
    let t := h.removeConnected next k (obj'.base.conn.opts.fPersistent && obj'.isOutgoing)
    t.handler.failed = [] → Sequential t.handler t.thread := by
  intro t hremoved
  generalize hmoved : ({ obj with base := obj.base.disconnectInt } : ConnectionObject) = moved
  have houtgoing : obj'.isOutgoing = obj.isOutgoing := congrArg ConnKind.isOutgoing leaves.kind
  have hsilent : before.isShutdown = false := by
    rw [← hrunning]
    exact ((foldl_apiCall_frame (before.without k) calls).isShutdown.symm.trans same.isShutdown.symm)
  generalize hreconnect : (obj.base.conn.opts.fPersistent && obj.isOutgoing) = reconnect
  generalize hended : ((before.put .connected k moved).without k).count obj.isOutgoing (-1) = ended
  have hcounted : Same (calls.foldl apiCall ended) ((h.without k).count obj.isOutgoing (-1)) :=
    hended ▸ without_same hforeign same hfailed moved obj.isOutgoing
  have hendedTrace : ended.trace = before.trace := by
    rw [← hended, count_trace]
    rfl
  have hafter : ((h.without k).count obj.isOutgoing (-1)).failed = [] := by
    rw [count_failed]
    exact hfailed
  obtain ⟨hanswer, hsame⟩ := callUserAfter_same hcounted hforeign hafter next obj.base.conn
    (.onDisconnected k reconnect)
  have hlt := callUserAfter_trace calls next obj.base.conn (.onDisconnected k reconnect) ended
  have hleads (env env' : Environment)
      (agrees : (Environment.handOver before.trace.length calls env next).Agrees
        (ended.callUserAfter calls next obj.base.conn (.onDisconnected k reconnect)).2.trace.length env') :
      before.performEffect env' .connected k .disconnectInt =
        let called := ended.callUserAfter calls next obj.base.conn (.onDisconnected k reconnect)
        if reconnect && called.1 then called.2.retryConnecting moved else called.2 := by
    rw [performEffect_disconnectInt hobj hid]
    dsimp only
    rw [hmoved, hsilent, hreconnect, Bool.not_false, Bool.and_true, hended]
    rw [← hendedTrace] at agrees
    rw [callUser_handOver agrees hlt]
  have ht : t = _ := removeConnected_of_some hobj' next (obj'.base.conn.opts.fPersistent && obj'.isOutgoing)
  rw [houtgoing, leaves.conn, hreconnect, hrunning, Bool.not_false, Bool.and_true] at ht
  dsimp only at ht
  rw [ht] at hremoved ⊢
  have hkeeps : h.keeps next obj' =
      (reconnect && next.answer ((h.without k).count obj.isOutgoing (-1)).trace (.onDisconnected k reconnect)) := by
    rw [keeps, houtgoing, leaves.conn, hreconnect, hrunning, leaves.id, hid, Bool.not_false, Bool.and_true,
      count_trace]
    cases reconnect <;> rfl
  have hshutdown : (((h.without k).count obj.isOutgoing (-1)).callUser next obj.base.conn
      (.onDisconnected k reconnect)).2.isShutdown = false := by
    obtain ⟨ret, h', hcall, frame⟩ := callUser_frame ((h.without k).count obj.isOutgoing (-1)) next obj.base.conn
      (.onDisconnected k reconnect)
    rw [hcall, frame.isShutdown]
    exact (count_isShutdown _ _ _).trans hrunning
  rw [← hendedTrace] at underway
  rw [hanswer] at hremoved ⊢
  rw [show next.answer ((h.without k).count obj.isOutgoing (-1)).trace (.onDisconnected k reconnect) = _ from hanswer]
    at hkeeps
  generalize ended.callUserAfter calls next obj.base.conn (.onDisconnected k reconnect) = called at *
  have hunderway (last : CConnectionHandlerInt)
      (hlast : (if reconnect && called.1 then called.2.retryConnecting moved else called.2) = last) :
      Underway inputs k e called.2.trace.length fun _ => last :=
    underway.handOver hlt.le calls next fun env env' agrees =>
      (hleads env env' (hendedTrace ▸ agrees)).trans hlast
  by_cases hkept : (reconnect && called.1) = true
  · rw [if_pos hkept]
    refine @retrying _ inputs k e called.2 [] moved obj' (hunderway _ (if_pos hkept))
      (fun c hc => absurd hc List.not_mem_nil) hsame fun newId => ?_
    rw [← hmoved]
    exact leaves.retried (hstopped (hkeeps.trans hkept)) newId
  · rw [if_neg hkept]
    exact @Underway.finished inputs k e _ called.2 _ [] (hunderway _ (if_neg hkept)) hsame hremoved hshutdown

/-- The event thread goes on, and keeps no connection with an event armed. -/
theorem proceed (sequential : Sequential h thread) (intact : ThreadedHandler.Intact ⟨h, thread⟩)
    (hfailed : h.failed = [])
    (env : Environment)
    (hstopped : ThreadedHandler.KeepsStopped ⟨h, thread⟩ (.proceed env))
    (hproceeded : (ThreadedHandler.proceed env ⟨h, thread⟩).handler.failed = []) :
    Sequential (ThreadedHandler.proceed env ⟨h, thread⟩).handler
      (ThreadedHandler.proceed env ⟨h, thread⟩).thread := by
  cases sequential with
  | waiting same => exact .waiting same
  | @reporting inputs k e effects before calls underway hforeign same =>
    obtain ⟨-, hrunning, obj', hobj', hid⟩ := intact.found rfl
    have hobjects : (h.objects .connected)[k]? = some obj' := hobj'
    obtain ⟨obj, hobj, -⟩ := (foldl_apiCall_frame before calls).called k obj' ((same.connected k).symm.trans hobj')
    obtain ⟨base, hreached, hcalled⟩ := foldl_apiCall_reached hobj calls
    obtain rfl : obj' = { obj with base } :=
      Option.some.inj (hobj'.symm.trans ((same.connected k).trans hcalled))
    cases effects with
    | nil => exact underway.finished same hfailed hrunning.2
    | cons effect effects =>
      by_cases hend : effect = .disconnectInt
      · subst hend
        obtain rfl : effects = [] := intact.ends rfl
        simp only [ThreadedHandler.proceed, hobjects, if_true] at hproceeded ⊢
        unfold cancelEvents at hproceeded ⊢
        split at hproceeded
        · next hbev =>
          rw [if_pos hbev]
          have hcalls : (calls.foldl apiCall before).failed = [] := same.failed.symm.trans hfailed
          refine @cancelled _ inputs k e before calls obj { obj with base := base.disconnectInt }
            underway hforeign ?_ hobj
            (by simp [put]) ?_
          · refine (apiCalls_without hforeign hcalls k).symm.trans ((same.setConnected fun k' => ?_) : Same _ _)
            change ((h.connected.insert k { obj with base := base.disconnectInt }).erase k)[k']? =
              ((calls.foldl apiCall before).connected.erase k)[k']?
            by_cases hk : k = k'
            · simp [hk]
            · simpa [hk] using same.connected k'
          · have hleft : obj.Leaves { obj with base := obj.base.disconnectInt } := ⟨rfl, rfl, rfl, fun newId => rfl⟩
            obtain ⟨hconn, hsame, -⟩ := hreached.keeps
            exact ⟨rfl, hconn, hsame, fun newId => hreached.retry_disconnectInt newId⟩
        · simp [fail] at hproceeded
      · obtain ⟨after, later, hunderway, hlater, hsame⟩ := notice underway hforeign same hfailed hobj hend env
        simp only [ThreadedHandler.proceed, hobjects, if_neg hend] at hproceeded ⊢
        cases effects with
        | nil =>
          refine Underway.finished hunderway hsame hproceeded ?_
          obtain ⟨items, frame⟩ := performEffect_frame env .connected k hend h
          exact frame.isShutdown.trans hrunning.2
        | cons effect effects => exact .reporting hunderway hlater hsame
  | @cancelled inputs k e before calls obj obj' underway hforeign same hobj hobj' leaves =>
    obtain ⟨-, hrunning, found, hfound, hid⟩ := intact.found rfl
    obtain rfl : found = obj' := Option.some.inj (hfound.symm.trans hobj')
    have hobjects : (h.objects .connected)[k]? = some found := hobj'
    simp only [ThreadedHandler.proceed, hobjects, hid] at hproceeded ⊢
    exact remove underway hforeign same hobj hobj' (leaves.id.symm.trans hid) leaves hfailed hrunning.2 env
      (fun hkeeps => hstopped found hobjects hkeeps) hproceeded
  | @retrying inputs k e before calls ptr moved underway hforeign same hretry =>
    have hcalls : (calls.foldl apiCall before).failed = [] := same.failed.symm.trans hfailed
    have hrunning := intact.running rfl
    refine @Underway.finished inputs k e _ (before.retryConnecting ptr) _ calls underway ?_ hproceeded ?_
    · rw [(aloof_retryConnecting ptr).apiCalls hforeign hcalls]
      exact same.retried hretry
    · obtain ⟨id, index, failures, heq, -, -⟩ := getNextConnectionIndex_eq h
      simp only [ThreadedHandler.proceed, retryConnecting, heq]
      exact hrunning.2

/-- A step of the threads. -/
theorem step {t : ThreadedHandler} (sequential : Sequential t.handler t.thread) (intact : t.Intact)
    {input : ThreadedInput}
    (hstopped : t.KeepsStopped input) (hfailed : (t.step input).handler.failed = []) :
    Sequential (t.step input).handler (t.step input).thread := by
  have hintact := step_intact intact hstopped
  obtain ⟨h, thread⟩ := t
  unfold ThreadedHandler.step at hfailed hintact ⊢
  split
  · next hempty =>
    rw [if_pos hempty] at hfailed hintact
    have hnone : h.failed = [] := List.isEmpty_iff.mp hempty
    cases input with
    | other c =>
      cases c with
      | bind conn listens => simp [otherCall, fail] at hfailed
      | _ => exact sequential.call (fun _ _ heq => ApiCall.noConfusion heq) hnone hfailed
    | event input =>
      dsimp only at hfailed hintact ⊢
      split
      · next henabled =>
        rw [if_pos henabled] at hfailed hintact
        obtain ⟨rfl, henabled⟩ := henabled
        cases sequential with
        | waiting same => exact take same hnone henabled hintact hfailed
      · exact sequential
    | proceed env => exact sequential.proceed intact hnone env hstopped hfailed
  · exact sequential

/-- A run of the threads. -/
theorem foldl {t : ThreadedHandler} (sequential : Sequential t.handler t.thread) (intact : t.Intact)
    (inputs : List ThreadedInput) (hstopped : t.KeptStopped inputs)
    (hfailed : (inputs.foldl ThreadedHandler.step t).handler.failed = []) :
    Sequential (inputs.foldl ThreadedHandler.step t).handler (inputs.foldl ThreadedHandler.step t).thread := by
  induction inputs generalizing t with
  | nil => exact sequential
  | cons input inputs ih =>
    have hnone : (t.step input).handler.failed = [] := by
      by_contra hsome
      have hover (inputs : List ThreadedInput) :
          inputs.foldl ThreadedHandler.step (t.step input) = t.step input := by
        induction inputs with
        | nil => rfl
        | cons other inputs ih =>
          rw [List.foldl_cons, show (t.step input).step other = t.step input from
            if_neg fun hempty => hsome (List.isEmpty_iff.mp hempty)]
          exact ih
      rw [List.foldl_cons, hover] at hfailed
      exact hsome hfailed
    exact ih (sequential.step intact hstopped.1 hnone) (step_intact intact hstopped.1) hstopped.2 hfailed

end Sequential

section Traces

variable (env : Environment) (h : CConnectionHandlerInt)

/-- What happened before a callback stays. -/
theorem callUser_trace (about : Option CConnection) (c : Callback) :
    h.trace <+: (h.callUser env about c).2.trace := by
  obtain ⟨ret, h', hcall, frame⟩ := callUser_frame h env about c
  obtain ⟨items, htrace⟩ := frame.grows.trace
  rw [hcall, htrace, record, List.append_assoc]
  exact List.prefix_append _ _

/-- What happened before the end of a connection stays. -/
theorem onDisconnected_trace (id : ConnID) (reconnect : Bool) :
    h.trace <+: (h.onDisconnected env id reconnect).trace := by
  unfold onDisconnected
  dsimp only
  split
  · exact List.prefix_refl _
  · next moved hmoved =>
    have hcalled := callUser_trace env ({ h with connected := h.connected.erase id }.count moved.isOutgoing (-1))
      moved.base.conn (.onDisconnected id (reconnect && !h.isShutdown))
    rw [count_trace] at hcalled
    split
    · exact hcalled.trans (retryConnecting_trace moved)
    · exact hcalled

/-- What happened before an effect stays. -/
theorem performEffect_trace (place : Place) (k : ConnID) (effect : ConnEffect) :
    h.trace <+: (h.performEffect env place k effect).trace := by
  unfold performEffect
  split
  · exact List.prefix_refl _
  · next obj hobj =>
    split
    · have hended := onDisconnected_trace env (h.put place k { obj with base := obj.base.disconnectInt })
        obj.base.disconnectInt.id (obj.base.disconnectInt.conn.opts.fPersistent && obj.isOutgoing)
      rw [put_trace] at hended
      exact hended
    · split
      · exact List.prefix_refl _
      · exact callUser_trace env h _ _

/-- What happened before a number of effects stays. -/
theorem performEffects_trace (place : Place) (k : ConnID) (effects : List ConnEffect) :
    h.trace <+: (effects.foldl (performEffect env place k) h).trace := by
  induction effects generalizing h with
  | nil => exact List.prefix_refl _
  | cons effect effects ih => exact (performEffect_trace env h place k effect).trans (ih _)

end Traces

/-- In the end the event that is under way is over, and everything that has happened has happened in one thread. -/
theorem Sequential.trace {h : CConnectionHandlerInt} {thread : EventThread} (sequential : Sequential h thread)
    (hfailed : h.failed = []) : ∃ inputs, h.trace <+: (run inputs).trace ∧
    (thread = .waiting → Same (run inputs) h) := by
  have hmidway {inputs : List HandlerInput} {k : ConnID} {e : ConnEvent} {n : ℕ}
      {rest : Environment → CConnectionHandlerInt} (underway : Underway inputs k e n rest)
        (hthread : thread ≠ .waiting)
      (hrest : ∀ env, h.trace <+: (rest env).trace) :
      ∃ inputs, h.trace <+: (run inputs).trace ∧ (thread = .waiting → Same (run inputs) h) := by
    obtain ⟨inputs', env, hrun⟩ := underway.leadsTo
    exact ⟨inputs', hrun ▸ hrest env, fun hwaiting => absurd hwaiting hthread⟩
  have hcalled {before h' : CConnectionHandlerInt} {calls : List ApiCall} (hforeign : ∀ c ∈ calls, c.Foreign)
      (same : Same (calls.foldl apiCall before) h') (hfailed : h'.failed = []) : h'.trace = before.trace :=
    same.trace.trans (foreign_trace hforeign (same.failed.symm.trans hfailed))
  cases sequential with
  | @waiting inputs same => exact ⟨inputs, same.trace ▸ List.prefix_refl _, fun _ => same⟩
  | @reporting inputs k e effects before calls underway hforeign same =>
    refine hmidway underway (by simp) fun env => ?_
    rw [hcalled hforeign same hfailed]
    exact performEffects_trace env before .connected k effects
  | @cancelled inputs k e before calls obj obj' underway hforeign same hobj hobj' leaves =>
    refine hmidway underway (by simp) fun env => ?_
    rw [show h.trace = before.trace from @hcalled (before.without k) (h.without k) calls hforeign same hfailed]
    exact performEffect_trace env before .connected k .disconnectInt
  | @retrying inputs k e before calls ptr moved underway hforeign same hretry =>
    refine hmidway underway (by simp) fun _ => ?_
    rw [hcalled hforeign same hfailed]
    exact retryConnecting_trace ptr

/-- Whatever the threads have done, one thread can do, if no assertion failed and no connection was kept for another
attempt with an event armed: everything that has happened happens in a run of one thread, and between two events the
handler is the same as after that run. -/
theorem run_sequential (inputs : List ThreadedInput) (hstopped : ThreadedHandler.new.KeptStopped inputs)
    (hfailed : (ThreadedHandler.run inputs).handler.failed = []) :
    ∃ sequential : List HandlerInput, (ThreadedHandler.run inputs).handler.trace <+: (run sequential).trace ∧
      ((ThreadedHandler.run inputs).thread = .waiting →
        Same (run sequential) (ThreadedHandler.run inputs).handler) := by
  have hnew : Sequential ThreadedHandler.new.handler ThreadedHandler.new.thread := @Sequential.waiting _ [] (.refl _)
  exact (hnew.foldl new_intact inputs hstopped hfailed).trace hfailed

/-- A connection that other threads close and call while it is being closed. -/
theorem run_sequential_closed : ThreadedHandler.new.KeptStopped closedByOther ∧
    (ThreadedHandler.run closedByOther).handler.failed = [] ∧
    ∃ sequential : List HandlerInput, (ThreadedHandler.run closedByOther).handler.trace <+: (run sequential).trace ∧
      ((ThreadedHandler.run closedByOther).thread = .waiting →
        Same (run sequential) (ThreadedHandler.run closedByOther).handler) := by
  have hstopped : ThreadedHandler.new.KeptStopped closedByOther := by decide +kernel
  have hfailed : (ThreadedHandler.run closedByOther).handler.failed = [] := by decide +kernel
  exact ⟨hstopped, hfailed, run_sequential closedByOther hstopped hfailed⟩

end LibBtcNet
