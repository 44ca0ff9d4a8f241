import LibBtcNet.WriteSide
import LibBtcNet.Support.Runs

/-!
# The limit of the write buffer

`CheckWriteBufferInt` finds the output full from `nMaxSendBuffer` bytes on, and libevent
finds it ready up to the watermark, which is `nMaxSendBuffer` as well: a socket write that
leaves exactly that many bytes is both. A notification is dispatched later than it is
raised, so that what was sent in between is found with it.
-/

namespace LibBtcNet

open Runs

/-- What is ready is below the limit, and so not full: in every report so far, and in the one that
a notification would make if it were dispatched now. -/
def ConnRun.ReadyBelowLimit (run : ConnRun) : Prop :=
  ∀ next, run.step (.event .writeCallback) = some next → ∀ bufsize : ℕ, .onWriteBufferReady bufsize ∈ next.log →
    bufsize < run.base.conn.opts.nMaxSendBuffer ∧ ¬run.base.conn.opts.nMaxSendBuffer ≤ sizeToInt bufsize

/-- Nothing is sent while a notification is due. -/
def ConnStep.SendsUndisturbed (run : ConnRun) : ConnStep → Prop
  | .call (.write _) => ∀ side ∈ run.writeSide, side.writePending = false
  | _ => True

/-- A socket write of `size` bytes raises a notification of `write_cb` at exactly the limit. -/
def WriteSide.LeavesLimit (nMaxSendBuffer : ℤ) (size : ℕ) (side : WriteSide) : Prop :=
  side.writecb = some .writeCb ∧ side.output - size ≤ side.writeLow ∧
    ((side.output - size : ℕ) : ℤ) = nMaxSendBuffer

instance (nMaxSendBuffer : ℤ) (size : ℕ) (side : WriteSide) : Decidable (side.LeavesLimit nMaxSendBuffer size) :=
  inferInstanceAs (Decidable (_ ∧ _ ∧ _))

/-- No socket write raises a notification of `write_cb` at exactly the limit. -/
def ConnStep.AvoidsLimit (run : ConnRun) : ConnStep → Prop
  | .event (.socketWrite size) => ∀ side ∈ run.writeSide, run.base.armed (.socketWrite size) = true →
      ¬side.LeavesLimit run.base.conn.opts.nMaxSendBuffer size
  | _ => True

instance (run : ConnRun) : (s : ConnStep) → Decidable (s.SendsUndisturbed run)
  | .call (.write _) => inferInstanceAs (Decidable (∀ side ∈ run.writeSide, side.writePending = false))
  | .call .disconnect | .call .disconnectWhenFinished | .call .pauseRecv | .call .unpauseRecv | .call .setRateLimit
  | .call (.resetPingTimeout _) | .event _ => inferInstanceAs (Decidable True)

instance (run : ConnRun) (s : ConnStep) : Decidable (s.AvoidsLimit run) := by
  unfold ConnStep.AvoidsLimit
  split <;> infer_instance

/-- A narrowed length is not more than the length. -/
theorem sizeToInt_le (size : ℕ) : sizeToInt size ≤ size := by
  change Int.bmod size 4294967296 ≤ size
  rw [Int.bmod]
  split <;> omega

/-- A converted limit is not more than the limit. -/
theorem sizeT_le {value : ℤ} (hpos : 0 ≤ value) : (sizeT value : ℤ) ≤ value := by
  rw [sizeT]
  omega

/-- What is due was raised below the limit, and the closing callback waits for an empty output. -/
structure WriteSide.BelowLimit (nMaxSendBuffer : ℤ) (side : WriteSide) : Prop where
  writeLow : side.writeLow ≤ nMaxSendBuffer
  closing : side.writecb = some .closeOnFinishedWritecb → side.writeLow = 0
  due : side.writePending = true → side.output < nMaxSendBuffer

/-- A run in which nothing is ready at the limit or above. -/
structure ReadyRun (nMaxSendBuffer : ℤ) (run : ConnRun) : Prop where
  limit : run.base.conn.opts.nMaxSendBuffer = nMaxSendBuffer
  reported : ∀ bufsize : ℕ, .onWriteBufferReady bufsize ∈ run.log → bufsize < nMaxSendBuffer
  side : run.closed = false → ∃ side, run.writeSide = some side ∧ side.BelowLimit nMaxSendBuffer

variable {nMaxSendBuffer : ℤ} {run next : ConnRun} {s : ConnStep} {side side' : WriteSide} {effects : List ConnEffect}

/-- What a step of a run below the limit does to the write side, where no notification is raised at
the limit or followed by a write. -/
theorem WriteSide.BelowLimit.change (hpos : 0 < nMaxSendBuffer) (h : side.BelowLimit nMaxSendBuffer)
    (hchange : WriteChange nMaxSendBuffer s side effects side')
    (hwrite : ∀ size, s = .call (.write size) → side.writePending = false)
    (hleft : ∀ size, s = .event (.socketWrite size) → ¬side.LeavesLimit nMaxSendBuffer size) :
    side'.BelowLimit nMaxSendBuffer := by
  obtain ⟨hlow, hclosing, hdue⟩ := h
  cases hchange with
  | other hsilent => exact ⟨hlow, hclosing, hdue⟩
  | sent size =>
    refine ⟨hlow, hclosing, fun hpending => ?_⟩
    exact absurd hpending (by simp [hwrite size rfl])
  | taken size hsilent =>
    refine ⟨hlow, hclosing, fun hpending => ?_⟩
    rcases Bool.or_eq_true_iff.mp hpending with hold | hnew
    · have hbelow := hdue hold
      simp only
      omega
    · obtain ⟨hsome, hle⟩ := Bool.and_eq_true_iff.mp hnew
      have hle := of_decide_eq_true hle
      cases hwritecb : side.writecb with
      | none => simp [hwritecb] at hsome
      | some cb =>
        cases cb with
        | writeCb =>
          have hne : ((side.output - size : ℕ) : ℤ) ≠ nMaxSendBuffer := fun heq => hleft size rfl ⟨hwritecb, hle, heq⟩
          simp only
          omega
        | closeOnFinishedWritecb =>
          have hzero := hclosing hwritecb
          simp only
          omega
  | full hcheck hfull => exact ⟨hlow, by simp, hdue⟩
  | room hcheck hroom => exact ⟨hlow, hclosing, hdue⟩
  | ready hpending hwritecb => exact ⟨hlow, by simp, by simp⟩
  | closing houtput => exact ⟨by simpa using hpos.le, fun _ => rfl, hdue⟩

/-- What a step of a run below the limit reports is ready below the limit. -/
theorem WriteSide.BelowLimit.reported (h : side.BelowLimit nMaxSendBuffer)
    (hchange : WriteChange nMaxSendBuffer s side effects side') {bufsize : ℕ}
    (hmem : .onWriteBufferReady bufsize ∈ effects) : bufsize < nMaxSendBuffer := by
  cases hchange with
  | other hsilent => exact absurd rfl (hsilent _ hmem bufsize).2
  | taken size hsilent => exact absurd rfl (hsilent _ hmem bufsize).2
  | ready hdue hwritecb =>
    obtain rfl := ConnEffect.onWriteBufferReady.inj (List.mem_singleton.mp hmem)
    exact h.due hdue
  | sent size => contradiction
  | full hcheck hfull => simp at hmem
  | room hcheck hroom => contradiction
  | closing houtput => contradiction

/-- A step of a run below the limit, whatever it is, reports what is ready below the limit. -/
theorem ReadyRun.step_reported (h : ReadyRun nMaxSendBuffer run) (hstep : run.step s = some next) {bufsize : ℕ}
    (hmem : .onWriteBufferReady bufsize ∈ next.log) : bufsize < nMaxSendBuffer := by
  cases hopen : run.closed with
  | true =>
    obtain rfl := Option.some.inj ((ConnRun.step_of_closed hopen s).symm.trans hstep)
    exact h.reported bufsize hmem
  | false =>
    obtain ⟨side, hside, hbelow⟩ := h.side hopen
    obtain ⟨effects, hlog, hwrites⟩ := ConnRun.step_writes hside hstep
    rw [hlog] at hmem
    rcases List.mem_append.mp hmem with hold | hnew
    · exact h.reported bufsize hold
    · rcases hwrites with ⟨-, hsilent⟩ | ⟨side', -, hchange⟩
      · exact absurd rfl (hsilent _ hnew bufsize).2
      · rw [h.limit] at hchange
        exact hbelow.reported hchange hnew

/-- A step in scope that avoids the limit keeps the run below it. -/
theorem ReadyRun.step (hpos : 0 < nMaxSendBuffer) (h : ReadyRun nMaxSendBuffer run)
    (hscope : s.SendsUndisturbed run) (havoids : s.AvoidsLimit run) (hstep : run.step s = some next) :
    ReadyRun nMaxSendBuffer next := by
  refine ⟨(congrArg (·.opts.nMaxSendBuffer) (ConnRun.step_conn hstep)).trans h.limit,
    fun bufsize => h.step_reported hstep, fun hstays => ?_⟩
  cases hopen : run.closed with
  | true =>
    obtain rfl := Option.some.inj ((ConnRun.step_of_closed hopen s).symm.trans hstep)
    exact h.side hstays
  | false =>
    by_cases hidle : run.step s = some run
    · obtain rfl := Option.some.inj (hidle.symm.trans hstep)
      exact h.side hopen
    · obtain ⟨side, hside, hbelow⟩ := h.side hopen
      obtain ⟨effects, -, ⟨hclosed, -⟩ | ⟨side', hside', hchange⟩⟩ := ConnRun.step_writes hside hstep
      · simp [hclosed] at hstays
      · rw [h.limit] at hchange
        refine ⟨side', hside', hbelow.change hpos hchange ?_ ?_⟩
        · rintro size rfl
          exact hscope side hside
        · rintro size rfl
          have harmed : run.base.armed (.socketWrite size) = true := by
            by_contra harmed
            exact hidle (ConnRun.event_of_not_armed (Or.inr (Bool.eq_false_iff.mpr harmed)))
          rw [← h.limit]
          exact havoids side hside harmed

/-- A socket write that raises a notification at the limit would report it as ready. -/
theorem ConnRun.not_readyBelowLimit (havoids : ¬s.AvoidsLimit run) :
    ∃ next, run.step s = some next ∧ ¬next.ReadyBelowLimit := by
  unfold ConnStep.AvoidsLimit at havoids
  split at havoids
  · next size =>
    push Not at havoids
    obtain ⟨side, hside, harmed, hwritecb, hle, hlimit⟩ := havoids
    obtain ⟨next, hnext, hside'⟩ := ConnRun.step_socketWrite hside harmed
    refine ⟨next, hnext, fun hbelow => ?_⟩
    have hdue :
      (side.writePending || (side.writecb.isSome && decide (side.output - size ≤ side.writeLow))) = true := by
      rw [hwritecb, decide_eq_true hle]
      simp
    obtain ⟨last, hlast, hlog, -⟩ := ConnRun.step_ready hside' hdue hwritecb
    have hready := (hbelow last hlast (side.output - size) (by simp [hlog])).1
    rw [ConnRun.step_conn hnext, ← hlimit] at hready
    exact lt_irrefl _ hready
  · exact absurd trivial havoids

/-- What is reported as ready is below the limit throughout exactly the runs in which no socket write
that raises a notification of `write_cb` leaves exactly `nMaxSendBuffer` bytes. -/
theorem readyBelowLimit_iff_guarded {names : NameInfo} (base : ConnectionBase) {bev : BufferEvent}
    (hbev : EstablishedOn names bev) (hpos : 0 < base.conn.opts.nMaxSendBuffer) {steps : List ConnStep}
    (hscope : Guarded ConnRun.step (fun run s => s.SendsUndisturbed run) (.established base bev) steps) :
    Always ConnRun.step ConnRun.ReadyBelowLimit (.established base bev) steps ↔
      Guarded ConnRun.step (fun run s => s.AvoidsLimit run) (.established base bev) steps := by
  have hinitial : ReadyRun base.conn.opts.nMaxSendBuffer (.established base bev) := by
    refine ⟨rfl, by simp [ConnRun.established], fun _ => ⟨_, ConnRun.established_writeSide base hbev, ?_⟩⟩
    exact ⟨sizeT_le hpos.le, by simp, by simp⟩
  refine always_iff_guarded (fun run h next hnext bufsize hmem => ?_)
    (fun run s next h => h.step hpos) (fun _ _ _ _ => ConnRun.not_readyBelowLimit) hinitial hscope
  have hbelow := h.step_reported hnext hmem
  have hnarrow := sizeToInt_le bufsize
  rw [h.limit]
  exact ⟨hbelow, by omega⟩

/-- Twelve bytes are sent and found to fill the buffer, and the socket takes some of them. -/
def fillAndTake (size : ℕ) : List ConnStep :=
  [.call (.write 12), .event .checkWriteBufferFunc, .event (.socketWrite size), .event .writeCallback]

/-- With seven bytes left the buffer is ready. -/
theorem readyBelowLimit_seven_left : Always ConnRun.step ConnRun.ReadyBelowLimit tenByteRun (fillAndTake 5) :=
  (readyBelowLimit_iff_guarded (.new tenByteConnection 0 0 0) (@EstablishedOn.accepted noNames) (by decide)
    (by decide +kernel)).mpr (by decide +kernel)

/-- With ten bytes left the buffer is reported as ready, and the next check finds it full. -/
theorem readyBelowLimit_ten_left :
    Guarded ConnRun.step (fun run s => s.SendsUndisturbed run) tenByteRun (fillAndTake 2) ∧
      ¬Always ConnRun.step ConnRun.ReadyBelowLimit tenByteRun (fillAndTake 2) := by
  refine ⟨by decide +kernel, fun halways => ?_⟩
  have hbelow := halways.last rfl _ rfl 10 (by decide +kernel)
  exact absurd hbelow.1 (by decide)

/-- Whether the last notification about the write buffer is `OnWriteBufferFull`. -/
def lastIsFull (log : List ConnEffect) : Bool :=
  log.foldl (fun last effect =>
    match effect with
    | .onWriteBufferFull _ => true
    | .onWriteBufferReady _ => false
    | _ => last) false

/-- An established connection, with whether a `Send` has written and not yet asked for the check. -/
structure SendingRun where
  run : ConnRun
  sending : Bool
deriving DecidableEq, Repr

/-- One step: `Send` writes, or asks for the check, or something else happens. -/
inductive SendingStep where
  | writes (size : ℕ)
  | asksForCheck
  | other (s : ConnStep)
deriving DecidableEq, Repr

/-- The step on a connection. One `Send` follows another, as `m_conn_mutex` is held throughout, and
a connection that is closed is not found. -/
def SendingRun.step (r : SendingRun) : SendingStep → Option SendingRun
  | .writes size =>
    if r.sending || r.run.closed then some r
    else r.run.base.bev.map fun bev =>
      { run := { r.run with base := { r.run.base with bev := some (bev.write size) } }, sending := true }
  | .asksForCheck =>
    if r.sending then
      if r.run.closed then some { r with sending := false }
      else some { run := { r.run with base := { r.run.base with checkWriteBufferFunc := true } }, sending := false }
    else some r
  | .other s => (r.run.step s).map fun run => { r with run }

/-- Between sends and checks, `write_cb` is installed exactly after a notification that the buffer
is full, and there was one when the output is longer than the limit. -/
def SendingRun.BackPressure (r : SendingRun) : Prop :=
  r.sending = false → ∀ side ∈ r.run.writeSide, side.checkPending = false →
    (side.writecb = some .writeCb ↔ lastIsFull r.run.log = true) ∧
      (r.run.base.conn.opts.nMaxSendBuffer < side.output → lastIsFull r.run.log = true)

/-- No graceful close has been asked for. -/
def SendingRun.KeptOpen (r : SendingRun) (_ : SendingStep) : Prop := r.run.base.disconnectWaitFunc = false

/-- With more output than the limit and no `Send` to follow, no check takes the length for a smaller
one unless `write_cb` is installed, and no notification of `write_cb` is dispatched unless another
check is pending. -/
def SendingStep.SeesOverrun (r : SendingRun) : SendingStep → Prop
  | .other (.event .checkWriteBufferFunc) => r.sending = false → ∀ side ∈ r.run.writeSide,
      side.checkPending = true → side.writecb ≠ some .writeCb →
        r.run.base.conn.opts.nMaxSendBuffer < side.output →
          r.run.base.conn.opts.nMaxSendBuffer ≤ sizeToInt side.output
  | .other (.event .writeCallback) => r.sending = false → ∀ side ∈ r.run.writeSide,
      side.writePending = true → side.writecb = some .writeCb → side.checkPending = false →
        side.output ≤ r.run.base.conn.opts.nMaxSendBuffer
  | _ => True

instance (r : SendingRun) (t : SendingStep) : Decidable (r.KeptOpen t) := inferInstanceAs (Decidable (_ = false))

instance (r : SendingRun) (t : SendingStep) : Decidable (t.SeesOverrun r) := by
  unfold SendingStep.SeesOverrun
  split <;> infer_instance

/-- A silent report is no notification about the write buffer. -/
theorem lastIsFull_append {log effects : List ConnEffect} (hsilent : ∀ effect ∈ effects, effect.Silent) :
    lastIsFull (log ++ effects) = lastIsFull log := by
  induction effects generalizing log with
  | nil => rw [List.append_nil]
  | cons effect effects ih =>
    have hlater := @ih (log ++ [effect]) fun other hother => hsilent other (List.mem_cons_of_mem _ hother)
    rw [List.append_cons, hlater, lastIsFull, List.foldl_append]
    have heffect := hsilent effect List.mem_cons_self
    cases effect with
    | onWriteBufferFull bufsize => exact absurd rfl (heffect bufsize).1
    | onWriteBufferReady bufsize => exact absurd rfl (heffect bufsize).2
    | _ => rfl

/-- The write side of a connection whose back-pressure works. -/
structure WriteSide.Signalled (nMaxSendBuffer : ℤ) (sending full : Bool) (side : WriteSide) : Prop where
  unclosing : side.writecb ≠ some .closeOnFinishedWritecb
  installed : side.writecb = some .writeCb ↔ full = true
  overrun : sending = false → side.checkPending = false → nMaxSendBuffer < side.output → full = true

/-- A run whose back-pressure works. -/
structure SignalledRun (nMaxSendBuffer : ℤ) (r : SendingRun) : Prop where
  limit : r.run.base.conn.opts.nMaxSendBuffer = nMaxSendBuffer
  side : r.run.closed = false → ∃ side, r.run.writeSide = some side ∧
    side.Signalled nMaxSendBuffer r.sending (lastIsFull r.run.log)

/-- What a step does to the write side of a connection whose back-pressure works. -/
theorem WriteSide.Signalled.change {log : List ConnEffect} {sending : Bool}
    (h : side.Signalled nMaxSendBuffer sending (lastIsFull log))
    (hchange : WriteChange nMaxSendBuffer s side effects side') (hopen : s ≠ .event .disconnectWaitFunc)
    (hsees : sending = false → (s = .event .checkWriteBufferFunc → side.checkPending = true →
        side.writecb ≠ some .writeCb → nMaxSendBuffer < side.output → nMaxSendBuffer ≤ sizeToInt side.output) ∧
      (s = .event .writeCallback → side.writePending = true → side.writecb = some .writeCb →
        side.checkPending = false → side.output ≤ nMaxSendBuffer)) :
    side'.Signalled nMaxSendBuffer sending (lastIsFull (log ++ effects)) := by
  obtain ⟨hopened, hinstalled, hoverrun⟩ := h
  cases hchange with
  | other hsilent =>
    rw [lastIsFull_append hsilent]
    exact ⟨hopened, hinstalled, hoverrun⟩
  | sent size =>
    rw [List.append_nil]
    exact ⟨hopened, hinstalled, fun _ hcheck => absurd hcheck (by simp)⟩
  | taken size hsilent =>
    rw [lastIsFull_append hsilent]
    refine ⟨hopened, hinstalled, fun hsending hcheck hlong => hoverrun hsending hcheck ?_⟩
    simp only at hlong
    omega
  | full hcheck hfull =>
    have hlast : lastIsFull (log ++ [.onWriteBufferFull side.output]) = true := by simp [lastIsFull]
    exact ⟨by simp, by simp [hlast], fun _ _ _ => hlast⟩
  | room hcheck hroom =>
    rw [List.append_nil]
    refine ⟨hopened, hinstalled, fun hsending _ hlong => ?_⟩
    by_contra hlast
    have hfull := (hsees hsending).1 rfl hcheck (fun hwritecb => hlast (hinstalled.mp hwritecb)) hlong
    omega
  | ready hdue hwritecb =>
    have hlast : lastIsFull (log ++ [.onWriteBufferReady side.output]) = false := by simp [lastIsFull]
    refine ⟨by simp, by simp [hlast], fun hsending hcheck hlong => ?_⟩
    have hle := (hsees hsending).2 rfl hdue hwritecb hcheck
    exact absurd hlong (not_lt.mpr hle)
  | closing houtput => exact absurd rfl hopen

namespace SignalledRun

variable {r r' : SendingRun} {t : SendingStep}

/-- In such a run back-pressure works. -/
theorem backPressure (h : SignalledRun nMaxSendBuffer r) : r.BackPressure := by
  intro hsending side hside hcheck
  obtain ⟨side', hside', hsignalled⟩ := h.side (ConnRun.writeSide_eq_some hside).1
  obtain rfl := Option.some.inj (hside'.symm.trans hside)
  refine ⟨hsignalled.installed, fun hlong => ?_⟩
  rw [h.limit] at hlong
  exact hsignalled.overrun hsending hcheck hlong

/-- A step that sees every overrun keeps it so, as long as no graceful close is asked for. -/
theorem step (h : SignalledRun nMaxSendBuffer r) (hopen : r.KeptOpen t) (hsees : t.SeesOverrun r)
    (hstep : r.step t = some r') : SignalledRun nMaxSendBuffer r' := by
  cases t with
  | writes size =>
    simp only [SendingRun.step] at hstep
    split at hstep
    · obtain rfl := Option.some.inj hstep
      exact h
    · obtain ⟨bev, hbev, rfl⟩ := Option.map_eq_some_iff.mp hstep
      refine ⟨h.limit, fun hstays => ?_⟩
      obtain ⟨side, hside, hopened, hinstalled, -⟩ := h.side hstays
      obtain ⟨-, hbase⟩ := ConnRun.writeSide_eq_some hside
      obtain ⟨bev', hbev', rfl⟩ := Option.map_eq_some_iff.mp hbase
      obtain rfl := Option.some.inj (hbev.symm.trans hbev')
      refine ⟨_, if_neg (Bool.not_eq_true _ ▸ hstays), hopened, hinstalled, fun hsending => ?_⟩
      contradiction
  | asksForCheck =>
    simp only [SendingRun.step] at hstep
    split at hstep
    · split at hstep
      · next hclosed =>
        obtain rfl := Option.some.inj hstep
        exact ⟨h.limit, fun hstays => absurd (hclosed.symm.trans hstays) (by simp)⟩
      · obtain rfl := Option.some.inj hstep
        refine ⟨h.limit, fun hstays => ?_⟩
        obtain ⟨side, hside, hopened, hinstalled, -⟩ := h.side hstays
        obtain ⟨-, hbase⟩ := ConnRun.writeSide_eq_some hside
        obtain ⟨bev, hbev, rfl⟩ := Option.map_eq_some_iff.mp hbase
        refine ⟨⟨bev.output, bev.writecb, bev.writeLow, bev.writePending, true⟩, ?_, hopened, hinstalled, ?_⟩
        · simp [ConnRun.writeSide, show r.run.closed = false from hstays, ConnectionBase.writeSide, hbev]
        · intro _ hcheck
          contradiction
    · obtain rfl := Option.some.inj hstep
      exact h
  | other s =>
    obtain ⟨run, hrun, rfl⟩ := Option.map_eq_some_iff.mp hstep
    refine ⟨(congrArg (·.opts.nMaxSendBuffer) (ConnRun.step_conn hrun)).trans h.limit, fun hstays => ?_⟩
    cases hclosed : r.run.closed with
    | true =>
      obtain rfl := Option.some.inj ((ConnRun.step_of_closed hclosed s).symm.trans hrun)
      exact h.side hstays
    | false =>
      obtain ⟨side, hside, hsignalled⟩ := h.side hclosed
      by_cases hwait : s = .event .disconnectWaitFunc
      · -- No graceful close is pending, so that nothing happens.
        have hidle : r.run.step s = some r.run := by
          rw [hwait]
          have hunarmed : r.run.base.armed .disconnectWaitFunc = false := by
            rw [ConnectionBase.armed]
            exact hopen
          exact ConnRun.event_of_not_armed (Or.inr hunarmed)
        obtain rfl := Option.some.inj (hidle.symm.trans hrun)
        exact ⟨side, hside, hsignalled⟩
      · obtain ⟨effects, hlog, ⟨hcloses, -⟩ | ⟨side', hside', hchange⟩⟩ := ConnRun.step_writes hside hrun
        · exact absurd (hcloses.symm.trans hstays) (by simp)
        · rw [h.limit] at hchange
          refine ⟨side', hside', ?_⟩
          change side'.Signalled nMaxSendBuffer r.sending (lastIsFull run.log)
          rw [hlog]
          refine hsignalled.change hchange hwait fun hsending => ⟨?_, ?_⟩
          · rintro rfl hcheck hwritecb hlong
            rw [← h.limit] at hlong ⊢
            exact hsees hsending side hside hcheck hwritecb hlong
          · rintro rfl hdue hwritecb hcheck
            rw [← h.limit]
            exact hsees hsending side hside hdue hwritecb hcheck

end SignalledRun

/-- Any other step loses an overrun. -/
theorem SendingRun.not_backPressure {r : SendingRun} {t : SendingStep} (hmisses : ¬t.SeesOverrun r) :
    ∃ next, r.step t = some next ∧ ¬next.BackPressure := by
  unfold SendingStep.SeesOverrun at hmisses
  split at hmisses
  · push Not at hmisses
    obtain ⟨hsending, side, hside, hcheck, hwritecb, hlong, hroom⟩ := hmisses
    obtain ⟨next, hnext, hlog, hside'⟩ := ConnRun.step_room hside hcheck hroom
    refine ⟨{ r with run := next }, by simp [SendingRun.step, hnext], fun hworks => ?_⟩
    obtain ⟨hinstalled, hfull⟩ := hworks hsending _ hside' rfl
    rw [ConnRun.step_conn hnext] at hfull
    exact hwritecb (hinstalled.mpr (hfull hlong))
  · push Not at hmisses
    obtain ⟨hsending, side, hside, hdue, hwritecb, hcheck, hlong⟩ := hmisses
    obtain ⟨next, hnext, hlog, hside'⟩ := ConnRun.step_ready hside hdue hwritecb
    refine ⟨{ r with run := next }, by simp [SendingRun.step, hnext], fun hworks => ?_⟩
    obtain ⟨-, hfull⟩ := hworks hsending _ hside' hcheck
    rw [ConnRun.step_conn hnext] at hfull
    have hlast : lastIsFull next.log = true := hfull hlong
    simp [hlog, lastIsFull] at hlast
  · exact absurd trivial hmisses

/-- Back-pressure is never missed in exactly the runs that start with no more output than the limit,
or with a check pending, and in which every overrun is seen: no check of a longer output takes its
length for a smaller one, and no notification raised before more was sent is dispatched after the
check of it. -/
theorem backPressure_iff_guarded {names : NameInfo} (base : ConnectionBase) {bev : BufferEvent}
    (hbev : EstablishedOn names bev) {steps : List SendingStep}
    (hopen : Guarded SendingRun.step SendingRun.KeptOpen ⟨.established base bev, false⟩ steps) :
    Always SendingRun.step SendingRun.BackPressure ⟨.established base bev, false⟩ steps ↔
      (base.checkWriteBufferFunc = false → bev.output ≤ base.conn.opts.nMaxSendBuffer) ∧
        Guarded SendingRun.step (fun r t => t.SeesOverrun r) ⟨.established base bev, false⟩ steps := by
  have hside := ConnRun.established_writeSide base hbev
  have hinitial (hroom : base.checkWriteBufferFunc = false → bev.output ≤ base.conn.opts.nMaxSendBuffer) :
      SignalledRun base.conn.opts.nMaxSendBuffer ⟨.established base bev, false⟩ := by
    refine ⟨rfl, fun _ => ⟨_, hside, by simp, by simp [ConnRun.established, lastIsFull], fun _ hcheck hlong => ?_⟩⟩
    exact absurd hlong (not_lt.mpr (hroom hcheck))
  have hiff (hroom : base.checkWriteBufferFunc = false → bev.output ≤ base.conn.opts.nMaxSendBuffer) :=
    always_iff_guarded (fun r h => h.backPressure) (fun r t next h => h.step)
      (fun _ _ _ _ => SendingRun.not_backPressure)
      (hinitial hroom) hopen
  constructor
  · intro halways
    have hroom : base.checkWriteBufferFunc = false → bev.output ≤ base.conn.opts.nMaxSendBuffer := by
      intro hcheck
      by_contra hlong
      have hfull := (halways.head rfl _ hside hcheck).2 (not_le.mp hlong)
      exact absurd hfull (by simp [ConnRun.established, lastIsFull])
    exact ⟨hroom, (hiff hroom).mp halways⟩
  · rintro ⟨hroom, hguarded⟩
    exact (hiff hroom).mpr hguarded

/-- Twenty bytes are sent and found to fill the buffer, and the socket takes most of them. -/
def fillAndDrain : List SendingStep :=
  [.writes 20, .asksForCheck, .other (.event .checkWriteBufferFunc), .other (.event (.socketWrite 15))]

/-- The notification is dispatched, and twenty more bytes are sent and checked. -/
theorem backPressure_dispatched_first :
    Always SendingRun.step SendingRun.BackPressure ⟨tenByteRun, false⟩ (fillAndDrain ++
      [.other (.event .writeCallback), .writes 20, .asksForCheck, .other (.event .checkWriteBufferFunc)]) :=
  (backPressure_iff_guarded (.new tenByteConnection 0 0 0) (@EstablishedOn.accepted noNames)
    (by decide +kernel)).mpr ⟨by decide, by decide +kernel⟩

/-- When they are sent and checked before the notification is dispatched, twenty-five bytes are
reported as ready. When `2 ^ 31` bytes are sent at once, the check finds a negative length. -/
theorem backPressure_missed :
    ¬Always SendingRun.step SendingRun.BackPressure ⟨tenByteRun, false⟩ (fillAndDrain ++
        [.writes 20, .asksForCheck, .other (.event .checkWriteBufferFunc), .other (.event .writeCallback)]) ∧
      ¬Always SendingRun.step SendingRun.BackPressure ⟨tenByteRun, false⟩
        [.writes (2 ^ 31), .asksForCheck, .other (.event .checkWriteBufferFunc)] := by
  constructor
  · intro halways
    have hlast := halways.last rfl rfl _ rfl rfl
    exact absurd (hlast.2 (by decide)) (by decide)
  · intro halways
    have hlast := halways.last rfl rfl _ rfl rfl
    exact absurd (hlast.2 (by decide)) (by decide)

end LibBtcNet
