import LibBtcNet.ConnectionBase
import LibBtcNet.Support.Runs

/-!
# Closing a connection once its output is sent

`DisconnectWhenFinishedInt` on a connection with output left installs the callback that
closes it, stops reading and lowers the write watermark to zero. Calls and events go on
until the output is gone. Two of them undo the close: `UnpauseRecv` reads again, and
`CheckWriteBufferInt` on a full output installs its own callbacks. The close is kept in
exactly the runs without either.
-/

namespace LibBtcNet

open Runs

/-- A graceful close that began in `start` has stayed one: nothing was received since, and until
the connection is closed the closing callback is installed, reading is off, and an empty output
has the callback pending that closes it. -/
structure ClosesGracefully (start run : ConnRun) : Prop where
  unread : ∃ later, run.log = start.log ++ later ∧ ∀ msgs totalsize, .onReceiveMessages msgs totalsize ∉ later
  closing : run.closed = false → ∃ bev, run.base.bev = some bev ∧
    bev.writecb = some .closeOnFinishedWritecb ∧ bev.readEnabled = false ∧
    (bev.output = 0 → run.base.armed .writeCallback = true ∧
      ∃ next, run.event .writeCallback = some next ∧ next.closed = true)

/-- The steps that do not undo a close: reading is not resumed, and the output is not found full. -/
def ConnStep.KeepsClosing (run : ConnRun) : ConnStep → Prop
  | .call .unpauseRecv => run.closed = true
  | .event .checkWriteBufferFunc => run.closed = false → run.base.checkWriteBufferFunc = true →
      ∀ bev, run.base.bev = some bev → sizeToInt bev.output < run.base.conn.opts.nMaxSendBuffer
  | _ => True

/-- The bufferevent of a connection whose output is being drained before it closes. -/
structure Closing (bev : BufferEvent) : Prop where
  writecb : bev.writecb = some .closeOnFinishedWritecb
  reading : bev.readEnabled = false
  readcb : bev.readcb = none
  writeLow : bev.writeLow = 0
  pending : bev.output = 0 → bev.writePending = true

/-- What a closing connection keeps from step to step. -/
structure ClosingRun (start run : ConnRun) : Prop where
  unread : ∃ later, run.log = start.log ++ later ∧ ∀ msgs totalsize, .onReceiveMessages msgs totalsize ∉ later
  closing : run.closed = false → ∃ bev, run.base.bev = some bev ∧ Closing bev

/-- The pending closing callback closes the connection. -/
theorem Closing.writeCallback {run : ConnRun} {bev : BufferEvent} (hclosing : Closing bev)
    (hopen : run.closed = false) (hbev : run.base.bev = some bev) (hpending : bev.writePending = true) :
    run.event .writeCallback = some (run.performAll
      ({ run.base with bev := some { bev with writePending := false } }, [.disconnectInt])) := by
  simp [ConnRun.event, hopen, ConnectionBase.armed, hbev, hpending, hclosing.writecb,
    ConnectionBase.react, ConnectionBase.runWritecb]

/-- A closing connection closes gracefully. -/
theorem ClosingRun.closesGracefully {start run : ConnRun} (h : ClosingRun start run) :
    ClosesGracefully start run := by
  refine ⟨h.unread, fun hopen => ?_⟩
  obtain ⟨bev, hbev, hclosing⟩ := h.closing hopen
  refine ⟨bev, hbev, hclosing.writecb, hclosing.reading, fun hempty => ⟨?_, ?_⟩⟩
  · simp [ConnectionBase.armed, hbev, hclosing.pending hempty, hclosing.writecb]
  · refine ⟨_, hclosing.writeCallback hopen hbev (hclosing.pending hempty), ?_⟩
    rw [ConnRun.performAll_closed]
    simp

/-- Effects that close the connection, or leave it with a closing bufferevent, keep it closing. -/
theorem ClosingRun.performAll {start run : ConnRun} (h : ClosingRun start run)
    (result : ConnectionBase × List ConnEffect)
    (hunread : ∀ msgs totalsize, .onReceiveMessages msgs totalsize ∉ result.2)
    (hclosing : .disconnectInt ∉ result.2 → ∃ bev, result.1.bev = some bev ∧ Closing bev) :
    ClosingRun start (run.performAll result) := by
  obtain ⟨later, hlog, hlater⟩ := h.unread
  refine ⟨⟨later ++ result.2, ?_, fun msgs totalsize hmem => ?_⟩, fun hopen => ?_⟩
  · rw [ConnRun.performAll_log, hlog, List.append_assoc]
  · rcases List.mem_append.mp hmem with hold | hnew
    · exact hlater msgs totalsize hold
    · exact hunread msgs totalsize hnew
  · rw [ConnRun.performAll_closed, Bool.or_eq_false_iff, decide_eq_false_iff_not] at hopen
    rw [ConnRun.performAll_base _ _ hopen.2]
    exact hclosing hopen.2

/-- `DisconnectWhenFinishedInt` on a nonempty output leaves the closing bufferevent. -/
theorem disconnectWhenFinishedInt_closing (base : ConnectionBase) {bev : BufferEvent}
    (hbev : base.bev = some bev) (houtput : bev.output ≠ 0) :
    ∃ closing, base.disconnectWhenFinishedInt = some ({ base with bev := some closing }, []) ∧
      Closing closing := by
  refine ⟨((bev.setReading false).setWriteWatermark 0).setcb none (some .closeOnFinishedWritecb)
    (some .eventCb), ?_, rfl, rfl, rfl, rfl, fun hempty => absurd hempty houtput⟩
  simp [ConnectionBase.disconnectWhenFinishedInt, hbev, houtput]

/-- A call other than `UnpauseRecv` keeps the connection closing. -/
theorem ClosingRun.call {start run : ConnRun} (h : ClosingRun start run) (c : ConnCall)
    (hkeeps : (ConnStep.call c).KeepsClosing run) :
    ∃ next, run.call c = some next ∧ ClosingRun start next := by
  cases hopen : run.closed with
  | true => exact ⟨run, if_pos hopen, h⟩
  | false =>
    obtain ⟨bev, hbev, hclosing⟩ := h.closing hopen
    -- A call replaces the object and reports nothing.
    suffices hcall : ∃ base, run.base.call c = some base ∧ ∃ bev, base.bev = some bev ∧ Closing bev by
      obtain ⟨base, hcall, hbase⟩ := hcall
      exact ⟨_, ConnRun.call_of_open hopen hcall, h.unread, fun _ => hbase⟩
    cases c with
    | disconnect => exact ⟨{ run.base with disconnectFunc := true }, rfl, bev, hbev, hclosing⟩
    | disconnectWhenFinished =>
      exact ⟨{ run.base with disconnectWaitFunc := true }, rfl, bev, hbev, hclosing⟩
    | resetPingTimeout seconds => exact ⟨run.base.resetPingTimeout seconds, rfl, bev, hbev, hclosing⟩
    | setRateLimit => exact ⟨run.base, by simp [ConnectionBase.call, hbev], bev, hbev, hclosing⟩
    | write size =>
      refine ⟨{ run.base with bev := some (bev.write size), checkWriteBufferFunc := true }, ?_,
        bev.write size, rfl, ?_⟩
      · simp [ConnectionBase.call, ConnectionBase.write, hbev]
      · obtain ⟨hwritecb, hreading, hreadcb, hwriteLow, hpending⟩ := hclosing
        exact ⟨hwritecb, hreading, hreadcb, hwriteLow, fun hempty => hpending (Nat.add_eq_zero_iff.mp hempty).1⟩
    | pauseRecv =>
      refine ⟨{ run.base with bev := some (bev.setReading false) }, ?_, bev.setReading false, rfl, ?_⟩
      · simp [ConnectionBase.call, ConnectionBase.setRecv, hbev]
      · exact ⟨hclosing.writecb, rfl, hclosing.readcb, hclosing.writeLow, hclosing.pending⟩
    | unpauseRecv => exact absurd (hopen.symm.trans hkeeps) Bool.false_ne_true

/-- What the object does at an armed event while it is closing. -/
theorem Closing.react {base : ConnectionBase} {bev : BufferEvent} (hclosing : Closing bev)
    (hbev : base.bev = some bev) {e : ConnEvent} (harmed : base.armed e = true)
    (hroom : e = .checkWriteBufferFunc → sizeToInt bev.output < base.conn.opts.nMaxSendBuffer) :
    ∃ result, base.react e = some result ∧
      (∀ msgs totalsize, .onReceiveMessages msgs totalsize ∉ result.2) ∧
      (.disconnectInt ∉ result.2 → ∃ bev, result.1.bev = some bev ∧ Closing bev) := by
  have hkept := hclosing
  obtain ⟨hwritecb, hreading, hreadcb, hwriteLow, hpending⟩ := hclosing
  cases e with
  | socketRead chunks => simp [ConnectionBase.armed, hbev, hreading] at harmed
  | readCallback => simp [ConnectionBase.armed, hbev, hreadcb] at harmed
  | socketWrite size =>
    refine ⟨{ base with bev := some (bev.drained size) }.wroteData size, ?_, ?_, fun _ =>
      ⟨bev.drained size, ?_, hwritecb, hreading, hreadcb, hwriteLow, fun hempty => ?_⟩⟩
    · simp only [ConnectionBase.react, hbev]
    · unfold ConnectionBase.wroteData
      split <;> simp
    · unfold ConnectionBase.wroteData
      split <;> rfl
    · have hleft : bev.output - size = 0 := hempty
      simp [BufferEvent.drained, hwritecb, hleft]
  | socketEvent what =>
    refine ⟨({ base with bev := some (bev.raise what) }, []), ?_, by simp,
      fun _ => ⟨bev.raise what, rfl, ?_⟩⟩
    · simp only [ConnectionBase.react, hbev]
    · unfold BufferEvent.raise
      split <;> exact ⟨hwritecb, hreading, hreadcb, hwriteLow, hpending⟩
  | writeCallback =>
    refine ⟨({ base with bev := some { bev with writePending := false } }, [.disconnectInt]), ?_, ?_, ?_⟩
    · simp [ConnectionBase.react, hbev, ConnectionBase.runWritecb, hwritecb]
    · simp
    · simp
  | eventCallback =>
    refine ⟨base.runEventcb { bev with eventPending := .none } bev.eventPending, ?_, ?_, ?_⟩
    · simp only [ConnectionBase.react, hbev]
    · unfold ConnectionBase.runEventcb
      split <;> simp
    · unfold ConnectionBase.runEventcb
      split
      · simp
      · exact fun _ => ⟨_, rfl, hwritecb, hreading, hreadcb, hwriteLow, hpending⟩
  | disconnectFunc => exact ⟨({ base with disconnectFunc := false }, [.disconnectInt]), rfl, by simp, by simp⟩
  | disconnectWaitFunc =>
    by_cases hempty : bev.output = 0
    · refine ⟨({ base with
        disconnectWaitFunc := false
        bev := some ((bev.setReadingWriting false).setcb none none none) }, [.disconnectInt]), ?_, ?_, ?_⟩
      · simp [ConnectionBase.react, ConnectionBase.disconnectWhenFinishedInt, hbev, hempty]
      · simp
      · simp
    · obtain ⟨closing, hresult, hclosing'⟩ := disconnectWhenFinishedInt_closing
        { base with disconnectWaitFunc := false } hbev hempty
      exact ⟨_, hresult, by simp, fun _ => ⟨closing, rfl, hclosing'⟩⟩
  | checkWriteBufferFunc =>
    refine ⟨({ base with checkWriteBufferFunc := false }, []), ?_, by simp, fun _ => ⟨bev, hbev, hkept⟩⟩
    simp [ConnectionBase.react, ConnectionBase.checkWriteBufferInt, hbev, Int.not_le.mpr (hroom rfl)]
  | pingTimeoutFunc =>
    exact ⟨({ base with pingTimeoutFunc := false }, [.onPingTimeout]), rfl, by simp,
      fun _ => ⟨bev, hbev, hkept⟩⟩
  | firstDataFunc =>
    refine ⟨({ base with
      firstDataFunc := false
      bev := some (bev.setTimeouts base.conn.opts.nRecvTimeout base.conn.opts.nSendTimeout) }, []), ?_,
      by simp, fun _ => ⟨_, rfl, hwritecb, hreading, hreadcb, hwriteLow, hpending⟩⟩
    simp [ConnectionBase.react, ConnectionBase.firstDataInt, hbev]

/-- An event that does not find the output full keeps the connection closing. -/
theorem ClosingRun.event {start run : ConnRun} (h : ClosingRun start run) (e : ConnEvent)
    (hkeeps : (ConnStep.event e).KeepsClosing run) :
    ∃ next, run.event e = some next ∧ ClosingRun start next := by
  cases hopen : run.closed with
  | true => exact ⟨run, ConnRun.event_of_not_armed (Or.inl hopen), h⟩
  | false =>
    cases harmed : run.base.armed e with
    | false => exact ⟨run, ConnRun.event_of_not_armed (Or.inr harmed), h⟩
    | true =>
      obtain ⟨bev, hbev, hclosing⟩ := h.closing hopen
      have hroom : e = .checkWriteBufferFunc →
          sizeToInt bev.output < run.base.conn.opts.nMaxSendBuffer := by
        rintro rfl
        exact hkeeps hopen harmed bev hbev
      obtain ⟨result, hreact, hunread, hstays⟩ := hclosing.react hbev harmed hroom
      exact ⟨_, ConnRun.event_of_armed hopen harmed hreact, h.performAll result hunread hstays⟩

/-- A step that is not among those that keep the close undoes it at once. -/
theorem ClosingRun.broken {start run : ConnRun} (h : ClosingRun start run) (s : ConnStep)
    (hbreaks : ¬s.KeepsClosing run) :
    ∃ next, run.step s = some next ∧ ¬ClosesGracefully start next := by
  unfold ConnStep.KeepsClosing at hbreaks
  split at hbreaks
  · rw [Bool.not_eq_true] at hbreaks
    obtain ⟨bev, hbev, -⟩ := h.closing hbreaks
    refine ⟨{ run with base := { run.base with bev := some (bev.setReading true) } }, ?_, fun hgraceful => ?_⟩
    · apply ConnRun.call_of_open hbreaks
      simp [ConnectionBase.call, ConnectionBase.setRecv, hbev]
    · obtain ⟨bev', hbev', -, hreading, -⟩ := hgraceful.closing hbreaks
      obtain rfl := Option.some.inj hbev'
      exact absurd hreading (by simp [BufferEvent.setReading])
  · push Not at hbreaks
    obtain ⟨hopen, harmed, bev, hbev, hfull⟩ := hbreaks
    obtain ⟨base, hreact, hwritecb⟩ : ∃ base, run.base.react .checkWriteBufferFunc =
        some (base, [.onWriteBufferFull bev.output]) ∧
        base.bev = some (bev.setcb run.base.readCbPtr (some .writeCb) (some .eventCb)) := by
      refine ⟨{ run.base with
        checkWriteBufferFunc := false
        bev := some (bev.setcb run.base.readCbPtr (some .writeCb) (some .eventCb)) }, ?_, rfl⟩
      simp [ConnectionBase.react, ConnectionBase.checkWriteBufferInt, hbev, hfull]
    have harmed' : run.base.armed .checkWriteBufferFunc = true := by
      simp [ConnectionBase.armed, harmed]
    have hbase := ConnRun.event_of_armed hopen harmed' hreact
    refine ⟨_, hbase, fun hgraceful => ?_⟩
    have hopen' : (run.performAll (base, [.onWriteBufferFull bev.output])).closed = false := by
      rw [ConnRun.performAll_closed, hopen]
      simp
    obtain ⟨bev', hbev', hclosing, -⟩ := hgraceful.closing hopen'
    rw [ConnRun.performAll_base _ _ (by simp), hwritecb] at hbev'
    obtain rfl := Option.some.inj hbev'
    exact absurd hclosing (by simp [BufferEvent.setcb])
  · exact absurd trivial hbreaks

/-- A graceful close stays one throughout exactly the runs in which no step resumes reading and no
check of the write buffer finds it full. -/
theorem closesGracefully_iff_guarded (run : ConnRun) {start : ConnRun} {bev : BufferEvent}
    (hbev : run.base.bev = some bev) (houtput : bev.output ≠ 0)
    (hstart : run.base.disconnectWhenFinishedInt.map run.performAll = some start)
    (steps : List ConnStep) :
    Always ConnRun.step (ClosesGracefully start) start steps ↔
      Guarded ConnRun.step (fun run s => s.KeepsClosing run) start steps := by
  have hinitial : ClosingRun start start := by
    obtain ⟨closing, hresult, hclosing⟩ := disconnectWhenFinishedInt_closing run.base hbev houtput
    rw [hresult] at hstart
    obtain rfl := Option.some.inj hstart
    exact ⟨⟨[], by simp, by simp⟩, fun _ => ⟨closing, rfl, hclosing⟩⟩
  have hscope : Guarded ConnRun.step (fun _ _ => True) start steps :=
    guarded_of_forall (fun _ _ => trivial) start steps
  refine always_iff_guarded (fun run h => h.closesGracefully) ?_ (fun run s h _ => h.broken s)
    hinitial hscope
  intro run s next h _ hkeeps hnext
  have hstep : ∃ kept, run.step s = some kept ∧ ClosingRun start kept := by
    cases s with
    | call c => exact h.call c hkeeps
    | event e => exact h.event e hkeeps
  obtain ⟨kept, hkept, hclosing⟩ := hstep
  obtain rfl : next = kept := Option.some.inj (hnext.symm.trans hkept)
  exact hclosing

/-- An established connection of the test program's network with some output left. -/
def connectionWithOutput (output : ℕ) : ConnRun :=
  ConnRun.established (.new mainnetConnection 0 0 0) { BufferEvent.socketNew with output }

/-- A close is kept when the user sends a little more and the socket takes it all. -/
theorem closesGracefully_after_send :
    ∃ start, (connectionWithOutput 10).base.disconnectWhenFinishedInt.map
        (connectionWithOutput 10).performAll = some start ∧
      Always ConnRun.step (ClosesGracefully start) start
        [.call (.write 20), .event .checkWriteBufferFunc, .event (.socketWrite 30), .event .writeCallback] := by
  have houtput : (10 : ℕ) ≠ 0 := by decide
  refine ⟨_, rfl, (closesGracefully_iff_guarded (connectionWithOutput 10) rfl houtput rfl _).mpr
    ⟨trivial, ?_⟩⟩
  rintro _ ⟨⟩
  refine ⟨fun _ _ bev hbev => ?_, fun _ _ => ⟨trivial, fun _ _ => ⟨trivial, fun _ _ => trivial⟩⟩⟩
  obtain rfl := Option.some.inj hbev
  decide

/-- A send that fills the write buffer undoes the close: the buffer drains, the user is told that it
is ready, and the connection stays open. -/
theorem closesGracefully_undone :
    ∃ start, (connectionWithOutput 10).base.disconnectWhenFinishedInt.map
        (connectionWithOutput 10).performAll = some start ∧
      ¬Always ConnRun.step (ClosesGracefully start) start
        [.call (.write 5000000), .event .checkWriteBufferFunc, .event (.socketWrite 5000010),
          .event .writeCallback] := by
  refine ⟨_, rfl, fun halways => ?_⟩
  obtain ⟨bev, hbev, hwritecb, -⟩ := (halways.last rfl).closing rfl
  obtain rfl := Option.some.inj hbev
  contradiction

end LibBtcNet
