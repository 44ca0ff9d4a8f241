import LibBtcNet.HandlerRuns

/-!
# The handler in threaded mode

Other threads call the public methods while the event thread runs. A call looks its
connection up under `m_conn_mutex` and is one step. An event of a connection is taken apart:
its method runs, every report is made by itself, `DisconnectInt` cancels the events of the
connection without the mutex, `OnDisconnected` takes it out of `m_connected` under the mutex and
tells the user, and `Retry` puts it into `m_connecting` under a new id. Calls of other threads may
come between any two of these steps.

A call that comes during a callback is one of the calls that the callback makes. Outside of its
callbacks any other event touches `m_connected` at one point only, so that it stays one step. So do
the cancels of `DisconnectInt`: a call arms one event, before or after the cancel of that event.
-/

namespace LibBtcNet

/-- What the event thread is in the middle of. -/
inductive EventThread where
  | waiting
  | reporting (place : Place) (k : ConnID) (effects : List ConnEffect)
  | cancelled (place : Place) (k : ConnID)
  | retrying (moved : ConnectionObject)
deriving DecidableEq, Repr

/-- A method that still has reports to make, or is done. -/
def EventThread.reports (place : Place) (k : ConnID) : List ConnEffect → EventThread
  | [] => .waiting
  | effect :: effects => .reporting place k (effect :: effects)

/-- The handler, and how far the event thread is. -/
structure ThreadedHandler where
  handler : CConnectionHandlerInt
  thread : EventThread

/-- What happens in threaded mode: another thread makes a call, libevent brings the event thread an event, or the
event thread goes on with the one it has. -/
inductive ThreadedInput where
  | other (c : ApiCall)
  | event (input : HandlerInput)
  | proceed (env : Environment)

namespace CConnectionHandlerInt

/-- A call of another thread, which must not bind. -/
def otherCall (h : CConnectionHandlerInt) : ApiCall → CConnectionHandlerInt
  | .bind _ _ => h.fail .bind
  | c => h.apiCall c

/-- The method of a connection runs up to its first report, unless libevent cannot bring the event. -/
def beginEvent (place : Place) (k : ConnID) (e : ConnEvent) (h : CConnectionHandlerInt) : ThreadedHandler :=
  match (h.objects place)[k]? with
  | none => ⟨h, .waiting⟩
  | some obj =>
    if obj.base.armed e then
      match obj.base.react e with
      | none => ⟨h.fail .connection, .waiting⟩
      | some (base, effects) => ⟨h.put place k { obj with base }, .reports place k effects⟩
    else ⟨h, .waiting⟩

/-- `DisconnectInt` up to its call of the handler. The bufferevent that it locks must be there. -/
def cancelEvents (place : Place) (k : ConnID) (obj : ConnectionObject) (h : CConnectionHandlerInt) :
    ThreadedHandler :=
  if obj.base.bev.isSome then
    ⟨h.put place k { obj with base := obj.base.disconnectInt }, .cancelled place k⟩
  else ⟨h.fail .connection, .waiting⟩

/-- `OnDisconnected` up to its call of `Retry`. -/
def removeConnected (env : Environment) (id : ConnID) (reconnect : Bool) (h : CConnectionHandlerInt) :
    ThreadedHandler :=
  let reconnect := reconnect && !h.isShutdown
  match h.connected[id]? with
  | none => ⟨h.fail .onDisconnected, .waiting⟩
  | some moved =>
    let h := { h with connected := h.connected.erase id }.count moved.isOutgoing (-1)
    let (ret, h) := h.callUser env moved.base.conn (.onDisconnected id reconnect)
    ⟨h, if reconnect && ret then .retrying moved else .waiting⟩

end CConnectionHandlerInt

namespace ThreadedHandler

/-- Before anything has happened. -/
def new : ThreadedHandler := ⟨.new, .waiting⟩

/-- The event thread takes up an event. -/
def take (input : HandlerInput) (t : ThreadedHandler) : ThreadedHandler :=
  match input.event with
  | .connection place k e => t.handler.beginEvent place k e
  | event => ⟨t.handler.react input.env event, .waiting⟩

/-- The event thread goes on. -/
def proceed (env : Environment) (t : ThreadedHandler) : ThreadedHandler :=
  let h := t.handler
  match t.thread with
  | .waiting => t
  | .reporting _ _ [] => ⟨h, .waiting⟩
  | .reporting place k (effect :: effects) =>
    match (h.objects place)[k]? with
    | none => ⟨h, .waiting⟩
    | some obj =>
      if effect = .disconnectInt then h.cancelEvents place k obj
      else ⟨h.performEffect env place k effect, .reports place k effects⟩
  | .cancelled place k =>
    match (h.objects place)[k]? with
    | none => ⟨h, .waiting⟩
    | some obj => h.removeConnected env obj.base.id (obj.base.conn.opts.fPersistent && obj.isOutgoing)
  | .retrying moved => ⟨h.retryConnecting moved, .waiting⟩

/-- One step; a process that failed an assertion takes none. -/
def step (t : ThreadedHandler) (input : ThreadedInput) : ThreadedHandler :=
  if t.handler.failed.isEmpty then
    match input with
    | .other c => { t with handler := t.handler.otherCall c }
    | .event input =>
      if t.thread = .waiting ∧ t.handler.enabled input.event = true then t.take input else t
    | .proceed env => t.proceed env
  else t

/-- The handler after a run of its threads. -/
def run (inputs : List ThreadedInput) : ThreadedHandler := inputs.foldl step new

end ThreadedHandler

open CConnectionHandlerInt

variable {h : CConnectionHandlerInt} {place : Place} {k : ConnID}

/-- The user's calls leave a connection where it is, with its bufferevent. -/
theorem Frame.objects {h' : CConnectionHandlerInt} (frame : Frame h h') {obj : ConnectionObject}
    (hobj : (h.objects place)[k]? = some obj) : ∃ obj', (h'.objects place)[k]? = some obj' ∧ obj.Called obj' := by
  cases place with
  | connecting =>
    change h.connecting[k]? = some obj at hobj
    exact ⟨obj, by rw [CConnectionHandlerInt.objects, frame.connecting, hobj], .refl obj⟩
  | connected => exact frame.kept k obj hobj

/-- A notice to the user leaves a connection where it is, with its bufferevent. -/
theorem performEffect_frame (env : Environment) (place : Place) (k : ConnID) {effect : ConnEffect}
    (hnotice : effect ≠ .disconnectInt) (h : CConnectionHandlerInt) :
    ∃ items, Frame (h.record items) (h.performEffect env place k effect) := by
  have hnone : Frame (h.record []) h := by
    rw [record, List.append_nil]
    exact .refl h
  unfold performEffect
  split
  · exact ⟨[], hnone⟩
  · next obj hobj =>
    rw [if_neg hnotice]
    split
    · exact ⟨[], hnone⟩
    · next c hc =>
      obtain ⟨ret, h', hcall, frame⟩ := callUser_frame h env obj.base.conn c
      rw [hcall]
      exact ⟨_, frame⟩

/-- A connection that is closed without interruption is closed as in one step. -/
theorem cancelEvents_uninterrupted (env : Environment) {obj : ConnectionObject}
    (hobj : (h.objects place)[k]? = some obj) (hbev : obj.base.bev.isSome = true) :
    ∃ n, (ThreadedHandler.proceed env)^[n] (h.cancelEvents place k obj) =
      ⟨h.performEffect env place k .disconnectInt, .waiting⟩ := by
  have hfound := objects_put h place k { obj with base := obj.base.disconnectInt }
  have hperform : h.performEffect env place k .disconnectInt =
      (h.put place k { obj with base := obj.base.disconnectInt }).onDisconnected env obj.base.disconnectInt.id
        (obj.base.disconnectInt.conn.opts.fPersistent && obj.isOutgoing) := by
    simp only [performEffect, hobj, if_true]
  rw [cancelEvents, if_pos hbev, hperform]
  generalize h.put place k { obj with base := obj.base.disconnectInt } = h' at hfound
  -- The removal first, and then the new attempt, if there is one.
  have hremove : ThreadedHandler.proceed env ⟨h', .cancelled place k⟩ =
      h'.removeConnected env obj.base.disconnectInt.id
        (obj.base.disconnectInt.conn.opts.fPersistent && obj.isOutgoing) := by
    simp only [ThreadedHandler.proceed, hfound]
    rfl
  generalize (obj.base.disconnectInt.conn.opts.fPersistent && obj.isOutgoing) = reconnect at hremove
  generalize obj.base.disconnectInt.id = id at hremove
  unfold removeConnected at hremove
  unfold onDisconnected
  cases hmoved : h'.connected[id]? with
  | none =>
    rw [hmoved] at hremove
    exact ⟨1, hremove⟩
  | some moved =>
    simp only [hmoved] at hremove ⊢
    split at hremove
    · next hretry =>
      rw [if_pos hretry]
      refine ⟨2, ?_⟩
      rw [Function.iterate_succ_apply, hremove]
      rfl
    · next hretry =>
      rw [if_neg hretry]
      exact ⟨1, hremove⟩

/-- Reports that are made without interruption are made as in one step. -/
theorem reports_uninterrupted (env : Environment) {effects : List ConnEffect}
    (hlast : ∀ before after, effects = before ++ .disconnectInt :: after → after = [])
    (hbev : ∀ obj, (h.objects place)[k]? = some obj → obj.base.bev.isSome = true) :
    ∃ n, (ThreadedHandler.proceed env)^[n] ⟨h, .reports place k effects⟩ =
      ⟨effects.foldl (performEffect env place k) h, .waiting⟩ := by
  induction effects generalizing h with
  | nil => exact ⟨0, rfl⟩
  | cons effect effects ih =>
    rw [List.foldl_cons]
    cases hobj : (h.objects place)[k]? with
    | none =>
      have hnone (effect : ConnEffect) : h.performEffect env place k effect = h := by
        simp only [performEffect, hobj]
      have hfold (effects : List ConnEffect) : effects.foldl (performEffect env place k) h = h := by
        induction effects with
        | nil => rfl
        | cons effect effects ih => rw [List.foldl_cons, hnone, ih]
      refine ⟨1, ?_⟩
      rw [hnone, hfold, Function.iterate_one]
      simp only [ThreadedHandler.proceed, EventThread.reports, hobj]
    | some obj =>
      by_cases hend : effect = .disconnectInt
      · subst hend
        obtain rfl : effects = [] := hlast [] effects rfl
        obtain ⟨n, hn⟩ := cancelEvents_uninterrupted env hobj (hbev obj hobj)
        refine ⟨n + 1, ?_⟩
        rw [Function.iterate_succ_apply]
        simp only [ThreadedHandler.proceed, EventThread.reports, hobj, if_true]
        exact hn
      · obtain ⟨items, frame⟩ := performEffect_frame env place k hend h
        obtain ⟨n, hn⟩ := @ih (h.performEffect env place k effect)
          (fun before after heq => hlast (effect :: before) after (by rw [heq, List.cons_append]))
            (fun other hother => by
            obtain ⟨found, hfound, hcalled⟩ := frame.objects (show ((h.record items).objects place)[k]? = some obj by
              rw [← hobj]; cases place <;> rfl)
            obtain rfl := Option.some.inj (hfound.symm.trans hother)
            rw [hcalled.bev]
            exact hbev obj hobj)
        refine ⟨n + 1, ?_⟩
        rw [Function.iterate_succ_apply]
        simp only [ThreadedHandler.proceed, EventThread.reports, hobj, if_neg hend]
        exact hn

/-- The end of a connection is the last of the reports in order. -/
theorem ConnEffect.Ordered.disconnectInt_last {effects : List ConnEffect} (hordered : ConnEffect.Ordered effects)
    {before after : List ConnEffect} (heq : effects = before ++ .disconnectInt :: after) : after = [] := by
  obtain ⟨notices, ending, rfl, hnotices, hending⟩ := hordered
  have hnot : ConnEffect.disconnectInt ∉ notices := fun hmem => (hnotices _ hmem).2 rfl
  rcases List.append_eq_append_iff.mp heq with ⟨middle, rfl, hrest⟩ | ⟨middle, rfl, hrest⟩
  · rcases hending with rfl | rfl | rfl
    · simp at hrest
    · cases middle with
      | nil => simpa using hrest.symm
      | cons first middle => simp at hrest
    · cases middle with
      | nil => simp at hrest
      | cons first middle =>
        cases middle with
        | nil => exact (List.cons.inj (List.cons.inj hrest).2).2.symm
        | cons second middle => simp at hrest
  · cases middle with
    | nil =>
      rcases hending with rfl | rfl | rfl
      · simp at hrest
      · simpa using hrest
      · simp at hrest
    | cons first middle =>
      obtain ⟨rfl, -⟩ := List.cons.inj hrest
      simp at hnot

/-- An event that no other thread interrupts does what it does in one step. -/
theorem beginEvent_uninterrupted (env : Environment) (e : ConnEvent)
    (hbev : ∀ obj, (h.objects place)[k]? = some obj → obj.base.bev.isSome = true) :
    ∃ n, (ThreadedHandler.proceed env)^[n] (h.beginEvent place k e) =
      ⟨h.connectionEvent env place k e, .waiting⟩ := by
  cases hobj : (h.objects place)[k]? with
  | none =>
    simp only [beginEvent, connectionEvent, hobj]
    exact ⟨0, rfl⟩
  | some obj =>
    simp only [beginEvent, connectionEvent, hobj]
    by_cases harmed : obj.base.armed e = true
    · rw [if_pos harmed, if_pos harmed]
      cases hreact : obj.base.react e with
      | none => exact ⟨0, rfl⟩
      | some result =>
        obtain ⟨base, effects⟩ := result
        obtain ⟨hkeeps, hordered⟩ := ConnectionBase.react_spec hreact
        refine reports_uninterrupted env (fun before after => hordered.disconnectInt_last) fun found hfound => ?_
        obtain rfl := Option.some.inj ((objects_put h place k { obj with base }).symm.trans hfound)
        exact hkeeps.bev.trans (hbev obj hobj)
    · rw [if_neg harmed, if_neg harmed]
      exact ⟨0, rfl⟩

end LibBtcNet
