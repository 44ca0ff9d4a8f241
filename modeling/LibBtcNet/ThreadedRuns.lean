import LibBtcNet.Bookkeeping
import LibBtcNet.StaleEvents

/-!
# One thread and many

A run of one thread is a run of the threads in which only the event thread does anything. What holds of
the maps, the counters and the callbacks in one thread holds between the steps of the threads, too.
-/

namespace LibBtcNet

open CConnectionHandlerInt

/-- What is known of a run of one thread. -/
theorem run_stageIntact (inputs : List HandlerInput) : Stage.Intact ⟨run inputs, .idle, []⟩ := by
  have hsupplies (input : HandlerInput) : input.Supplies (fun _ => True) fun _ => True :=
    ⟨fun _ _ _ _ => trivial, fun _ _ => trivial⟩
  induction inputs using List.reverseRecOn with
  | nil =>
    exact ⟨sound_new, fun hfew => run_linked [] hfew,
      fun _ => ⟨OrderedMap.All.empty, fun hhand => Hand.noConfusion hhand⟩⟩
  | append_singleton inputs input ih =>
    rw [run_concat]
    unfold step
    split
    · next hstep =>
      have henabled := (Bool.and_eq_true_iff.mp hstep).2
      exact (ih.opening input.env henabled).moves (react_moves (hsupplies input) ih.sound henabled)
    · exact ih

namespace ThreadedHandler

variable {t : ThreadedHandler} {env : Environment}

/-- What has failed before the event thread goes on stays. -/
theorem failed_of_proceed (hfailed : (t.proceed env).handler.failed = []) : t.handler.failed = [] := by
  obtain ⟨h, thread⟩ := t
  have hframe {h h' : CConnectionHandlerInt} (frame : Frame h h') (hfailed : h'.failed = []) : h.failed = [] := by
    obtain ⟨failures, heq, -⟩ := frame.failed
    exact (List.append_eq_nil_iff.mp (heq.symm.trans hfailed)).1
  cases thread with
  | waiting => exact hfailed
  | retrying moved =>
    obtain ⟨id, index, failures, heq, -, -⟩ := getNextConnectionIndex_eq h
    simp only [proceed, retryConnecting, heq] at hfailed
    exact (List.append_eq_nil_iff.mp hfailed).1
  | cancelled place k =>
    simp only [proceed] at hfailed
    split at hfailed
    · exact hfailed
    · next obj hobj =>
      generalize obj.base.id = id at hfailed
      generalize (obj.base.conn.opts.fPersistent && obj.isOutgoing) = reconnect at hfailed
      unfold removeConnected at hfailed
      split at hfailed
      · simp [fail] at hfailed
      · next moved hmoved =>
        obtain ⟨ret, h', hcall, frame⟩ := callUser_frame ({ h with connected := h.connected.erase id }.count
          moved.isOutgoing (-1)) env moved.base.conn (.onDisconnected id (reconnect && !h.isShutdown))
        simp only [hcall] at hfailed
        have hbefore := hframe frame hfailed
        simpa [record] using hbefore
  | reporting place k effects =>
    cases effects with
    | nil => exact hfailed
    | cons effect effects =>
      simp only [proceed] at hfailed
      split at hfailed
      · exact hfailed
      · next obj hobj =>
        split at hfailed
        · unfold cancelEvents at hfailed
          split at hfailed
          · simpa using hfailed
          · simp [fail] at hfailed
        · next hnotice =>
          obtain ⟨items, frame⟩ := performEffect_frame env place k hnotice h
          have hbefore : (h.record items).failed = [] := hframe frame hfailed
          exact hbefore

/-- The event thread goes on alone, if no assertion fails. -/
theorem foldl_proceed (n : ℕ) (hfailed : ((proceed env)^[n] t).handler.failed = []) :
    (List.replicate n (.proceed env)).foldl step t = (proceed env)^[n] t := by
  have hbefore (n : ℕ) (t : ThreadedHandler) (hfailed : ((proceed env)^[n] t).handler.failed = []) :
      t.handler.failed = [] := by
    induction n generalizing t with
    | zero => exact hfailed
    | succ n ih => exact failed_of_proceed (ih (t.proceed env) hfailed)
  induction n generalizing t with
  | zero => rfl
  | succ n ih =>
    have hstep : t.step (.proceed env) = t.proceed env :=
      if_pos (List.isEmpty_iff.mpr (hbefore (n + 1) t hfailed))
    rw [List.replicate_succ, List.foldl_cons, hstep]
    exact ih hfailed

end ThreadedHandler

/-- An event of a connection that is taken apart and not interrupted is one step. -/
theorem beginEvent_connectionEvent {h : CConnectionHandlerInt} (intact : Stage.Intact ⟨h, .idle, []⟩)
    (hfew : FewIds h.trace) (env : Environment) (place : Place) (k : ConnID) (e : ConnEvent) :
    ∃ n, (ThreadedHandler.proceed env)^[n] (h.beginEvent place k e) =
      ⟨h.connectionEvent env place k e, .waiting⟩ := by
  cases place with
  | connected => exact beginEvent_uninterrupted env e fun obj hobj => (intact.equipped hfew).connected k obj hobj
  | connecting =>
    refine ⟨0, ?_⟩
    rw [Function.iterate_zero_apply, connectionEvent_connecting env intact.sound, beginEvent]
    cases hobj : (h.objects .connecting)[k]? with
    | none => rfl
    | some obj =>
      have harmed : obj.base.armed e ≠ true := fun harmed =>
        absurd (intact.sound.established_of_armed hobj harmed) (by simp)
      simp only [if_neg harmed]

/-- Every run of one thread in which no assertion fails is a run of the threads in which no other thread makes a
call. -/
theorem run_threaded (inputs : List HandlerInput) (hfew : FewIds (run inputs).trace)
    (hfailed : (run inputs).failed = []) :
    ∃ threaded, ThreadedHandler.run threaded = ⟨run inputs, .waiting⟩ ∧ ∀ c, .other c ∉ threaded := by
  induction inputs using List.reverseRecOn with
  | nil => exact ⟨[], rfl, fun _ => List.not_mem_nil⟩
  | append_singleton inputs input ih =>
    have hsupplies : input.Supplies (fun _ => True) fun _ => True := ⟨fun _ _ _ _ => trivial, fun _ _ => trivial⟩
    have intact := run_stageIntact inputs
    obtain ⟨items, htrace, -⟩ := step_items hsupplies intact.sound
    rw [run_concat] at hfew hfailed ⊢
    have hbefore : FewIds (run inputs).trace := (htrace ▸ hfew).of_append
    unfold step at hfailed ⊢
    split at hfailed
    · next hstep =>
      obtain ⟨hempty, henabled⟩ := Bool.and_eq_true_iff.mp hstep
      obtain ⟨threaded, hthreaded, halone⟩ := ih hbefore (List.isEmpty_iff.mp hempty)
      rw [if_pos hstep]
      have htake : (ThreadedHandler.run threaded).step (.event input) =
          ThreadedHandler.take input ⟨run inputs, .waiting⟩ := by
        rw [hthreaded]
        unfold ThreadedHandler.step
        dsimp only
        rw [if_pos hempty, if_pos ⟨rfl, henabled⟩]
      obtain ⟨n, hn⟩ :
        ∃ n, (ThreadedHandler.proceed input.env)^[n] (ThreadedHandler.take input ⟨run inputs, .waiting⟩) =
          ⟨(run inputs).react input.env input.event, .waiting⟩ := by
        obtain ⟨event, env⟩ := input
        cases event with
        | connection place k e => exact beginEvent_connectionEvent intact hbefore env place k e
        | _ => exact ⟨0, rfl⟩
      refine ⟨threaded ++ .event input :: List.replicate n (.proceed input.env), ?_, fun c hc => ?_⟩
      · rw [ThreadedHandler.run, List.foldl_append, List.foldl_cons]
        change (List.replicate n (.proceed input.env)).foldl ThreadedHandler.step
          ((ThreadedHandler.run threaded).step (.event input)) = _
        rw [htake, ThreadedHandler.foldl_proceed n (by rw [hn]; exact hfailed), hn]
      · rcases List.mem_append.mp hc with hold | hnew
        · exact halone c hold
        · rcases List.mem_cons.mp hnew with heq | hreplicated
          · contradiction
          · exact ThreadedInput.noConfusion (List.eq_of_mem_replicate hreplicated)
    · next hstep =>
      rw [if_neg hstep]
      exact ih hbefore hfailed

/-- A persistent connection that is established, closed by the user and tried again. -/
def closedAndRetried : List HandlerInput :=
  [⟨.start 8, .accepting [] .later⟩, ⟨.requestEvent, .accepting [localPeer true] .later⟩,
    ⟨.connEvent .connecting 0 ⟨false, false, false, true⟩, .accepting [] .later⟩,
    ⟨.call (.closeConnection 0 true), .accepting [] .later⟩,
    ⟨.connection .connected 0 .disconnectFunc, .accepting [] .later⟩]

/-- The event thread closes it in three steps. -/
theorem run_threaded_retried : FewIds (run closedAndRetried).trace ∧ (run closedAndRetried).failed = [] ∧
    ∃ threaded, ThreadedHandler.run threaded = ⟨run closedAndRetried, .waiting⟩ ∧ ∀ c, .other c ∉ threaded := by
  have hfew : FewIds (run closedAndRetried).trace := by decide +kernel
  have hfailed : (run closedAndRetried).failed = [] := by decide +kernel
  exact ⟨hfew, hfailed, run_threaded closedAndRetried hfew hfailed⟩

/-- In every interleaving of calls of other threads with the steps of the event thread that keeps no connection for
another attempt with an event armed, the callbacks that mention an id follow the protocol, and between two events the
bookkeeping is right. -/
theorem run_threads (inputs : List ThreadedInput) (hstopped : ThreadedHandler.new.KeptStopped inputs)
    (hfew : FewIds (ThreadedHandler.run inputs).handler.trace) :
    (∀ id, phase id (ThreadedHandler.run inputs).handler.trace ≠ none) ∧
      ((ThreadedHandler.run inputs).thread = .waiting → (ThreadedHandler.run inputs).handler.failed = [] →
        Bookkeeping (ThreadedHandler.run inputs).handler) := by
  have intact : (ThreadedHandler.run inputs).Intact := run_intact new_intact inputs hstopped
  generalize ThreadedHandler.run inputs = t at *
  obtain ⟨h, thread⟩ := t
  obtain ⟨hand, hfits, stage⟩ := intact
  refine ⟨fun id => ?_, fun hthread hfailed => ?_⟩
  · cases (stage.linked hfew).agrees id with
    | kept hunderway hphase hconnecting hissued => simp [hphase]
    | unknown hunderway hphase => simp [hphase]
    | ended hunderway hphase hconnecting hissued => simp [hphase]
  · obtain rfl : thread = .waiting := hthread
    obtain rfl : hand = .idle := hfits (List.isEmpty_iff.mpr hfailed)
    exact (stage.sound.books hfew).bookkeeping stage.sound.objects

/-- Other threads close a connection and call it while it is being closed. -/
theorem run_threads_closed : ThreadedHandler.new.KeptStopped closedByOther ∧
    FewIds (ThreadedHandler.run closedByOther).handler.trace ∧
    (∀ id, phase id (ThreadedHandler.run closedByOther).handler.trace ≠ none) ∧
      ((ThreadedHandler.run closedByOther).thread = .waiting →
        (ThreadedHandler.run closedByOther).handler.failed = [] →
        Bookkeeping (ThreadedHandler.run closedByOther).handler) := by
  have hstopped : ThreadedHandler.new.KeptStopped closedByOther := by decide +kernel
  have hfew : FewIds (ThreadedHandler.run closedByOther).handler.trace := by decide +kernel
  exact ⟨hstopped, hfew, run_threads closedByOther hstopped hfew⟩

end LibBtcNet
