import LibBtcNet.WriteSide
import LibBtcNet.Support.Runs

/-!
# Closing without losing output

`close_on_finished_writecb` closes the connection whenever it is dispatched. It is meant for
an empty output, under a watermark of zero; but a notification that was raised under the
watermark of the full buffer may still be due when the callback is installed, and more may
be sent between the notification of the empty output and its dispatch.
-/

namespace LibBtcNet

open Runs

/-- A dispatch of the write callback closes the connection only when the output is empty. -/
def ConnRun.ClosesOnlyWhenEmpty (run : ConnRun) : Prop :=
  ∀ side ∈ run.writeSide, ∀ next, run.step (.event .writeCallback) = some next → next.closed = true →
    side.output = 0

/-- The graceful close installs its callback when no notification is due, or nothing is left to send,
and nothing is sent while the closing callback is due. -/
def ConnStep.SparesQueued (run : ConnRun) : ConnStep → Prop
  | .event .disconnectWaitFunc => run.base.disconnectWaitFunc = true →
      ∀ side ∈ run.writeSide, side.output ≠ 0 → side.writePending = false
  | .call (.write size) => ∀ side ∈ run.writeSide,
      side.writecb = some .closeOnFinishedWritecb → side.writePending = true → size = 0
  | _ => True

instance (run : ConnRun) (s : ConnStep) : Decidable (s.SparesQueued run) := by
  unfold ConnStep.SparesQueued
  split <;> infer_instance

/-- The closing callback waits for an empty output, and is due only then. -/
def WriteSide.ClosesEmpty (side : WriteSide) : Prop :=
  side.writecb = some .closeOnFinishedWritecb →
    side.writeLow = 0 ∧ (side.writePending = true → side.output = 0)

/-- A run whose closing callback is due only when the output is empty. -/
def SparingRun (run : ConnRun) : Prop :=
  run.closed = false → ∃ side, run.writeSide = some side ∧ side.ClosesEmpty

variable {nMaxSendBuffer : ℤ} {run next : ConnRun} {s : ConnStep} {side side' : WriteSide} {effects : List ConnEffect}

/-- What a step that spares what is queued does to the write side. -/
theorem WriteSide.ClosesEmpty.change (h : side.ClosesEmpty)
    (hchange : WriteChange nMaxSendBuffer s side effects side')
    (hclose : s = .event .disconnectWaitFunc → side.output ≠ 0 → side.writePending = false)
    (hwrite : ∀ size, s = .call (.write size) → side.writecb = some .closeOnFinishedWritecb →
      side.writePending = true → size = 0) : side'.ClosesEmpty := by
  cases hchange with
  | other hsilent => exact h
  | sent size =>
    intro hwritecb
    obtain ⟨hlow, hdue⟩ := h hwritecb
    refine ⟨hlow, fun hpending => ?_⟩
    have hsize := hwrite size rfl hwritecb hpending
    have houtput := hdue hpending
    simp only
    omega
  | taken size hsilent =>
    intro hwritecb
    obtain ⟨hlow, hdue⟩ := h hwritecb
    refine ⟨hlow, fun hpending => ?_⟩
    rcases Bool.or_eq_true_iff.mp hpending with hold | hnew
    · have houtput := hdue hold
      simp only
      omega
    · have hle := of_decide_eq_true (Bool.and_eq_true_iff.mp hnew).2
      simp only
      omega
  | full hcheck hfull => exact fun hwritecb => absurd hwritecb (by simp)
  | room hcheck hroom => exact h
  | ready hdue hwritecb => exact fun hwritecb => absurd hwritecb (by simp)
  | closing houtput =>
    refine fun _ => ⟨rfl, fun hpending => ?_⟩
    exact absurd (hpending.symm.trans (hclose rfl houtput)) (by simp)

/-- Only the closing callback closes the connection when a notification is dispatched. -/
theorem ConnRun.writecb_of_closes (hside : run.writeSide = some side)
    (hstep : run.step (.event .writeCallback) = some next) (hclosed : next.closed = true) :
    side.writePending = true ∧ side.writecb = some .closeOnFinishedWritecb := by
  obtain ⟨hopen, hbase⟩ := ConnRun.writeSide_eq_some hside
  have hnotIdle : next ≠ run := by
    rintro rfl
    exact absurd (hopen.symm.trans hclosed) (by simp)
  obtain ⟨bev, hbev, rfl⟩ := Option.map_eq_some_iff.mp hbase
  have harmed : run.base.armed .writeCallback = true := by
    by_contra harmed
    have hidle := @ConnRun.event_of_not_armed run _ (Or.inr (Bool.eq_false_iff.mpr harmed))
    exact hnotIdle (Option.some.inj (hstep.symm.trans hidle))
  have hdue : bev.writePending = true ∧ bev.writecb.isSome = true := by
    simpa [ConnectionBase.armed, hbev] using harmed
  refine ⟨hdue.1, ?_⟩
  cases hwritecb : bev.writecb with
  | none => simp [hwritecb] at hdue
  | some cb =>
    cases cb with
    | closeOnFinishedWritecb => rfl
    | writeCb =>
      obtain ⟨last, hlast, -, hside'⟩ := ConnRun.step_ready hside hdue.1 hwritecb
      obtain rfl := Option.some.inj (hlast.symm.trans hstep)
      exact absurd ((ConnRun.writeSide_eq_some hside').1.symm.trans hclosed) (by simp)

/-- In a sparing run the closing callback finds nothing left to send. -/
theorem SparingRun.closesOnlyWhenEmpty (h : SparingRun run) : run.ClosesOnlyWhenEmpty := by
  intro side hside next hnext hclosed
  obtain ⟨hdue, hwritecb⟩ := ConnRun.writecb_of_closes hside hnext hclosed
  obtain ⟨side', hside', hempty⟩ := h (ConnRun.writeSide_eq_some hside).1
  obtain rfl := Option.some.inj (hside'.symm.trans hside)
  exact (hempty hwritecb).2 hdue

/-- A step that spares what is queued keeps the run sparing. -/
theorem SparingRun.step (h : SparingRun run) (hspares : s.SparesQueued run) (hstep : run.step s = some next) :
    SparingRun next := by
  intro hstays
  cases hopen : run.closed with
  | true =>
    obtain rfl := Option.some.inj ((ConnRun.step_of_closed hopen s).symm.trans hstep)
    exact h hstays
  | false =>
    by_cases hidle : run.step s = some run
    · obtain rfl := Option.some.inj (hidle.symm.trans hstep)
      exact h hopen
    · obtain ⟨side, hside, hempty⟩ := h hopen
      obtain ⟨effects, -, ⟨hclosed, -⟩ | ⟨side', hside', hchange⟩⟩ := ConnRun.step_writes hside hstep
      · exact absurd (hclosed.symm.trans hstays) (by simp)
      · refine ⟨side', hside', hempty.change hchange ?_ ?_⟩
        · rintro rfl
          have hdue : run.base.disconnectWaitFunc = true := by
            by_contra hdue
            refine hidle (ConnRun.event_of_not_armed (Or.inr ?_))
            rw [ConnectionBase.armed]
            exact Bool.eq_false_iff.mpr hdue
          exact hspares hdue side hside
        · rintro size rfl
          exact hspares side hside

/-- Any other step leaves output that a dispatch would cut off. -/
theorem ConnRun.not_closesOnlyWhenEmpty (hqueued : ¬s.SparesQueued run) :
    ∃ next, run.step s = some next ∧ ¬next.ClosesOnlyWhenEmpty := by
  unfold ConnStep.SparesQueued at hqueued
  split at hqueued
  · push Not at hqueued
    obtain ⟨hwait, side, hside, houtput, hdue⟩ := hqueued
    obtain ⟨next, hnext, hside'⟩ := ConnRun.step_closing hside hwait houtput
    refine ⟨next, hnext, fun hempty => ?_⟩
    obtain ⟨last, hlast, hclosed⟩ := ConnRun.step_closeOnFinished hside' (Bool.eq_true_of_not_eq_false hdue) rfl
    have hnone := hempty _ hside' last hlast hclosed
    exact houtput hnone
  · push Not at hqueued
    obtain ⟨side, hside, hwritecb, hdue, hsize⟩ := hqueued
    obtain ⟨next, hnext, hside'⟩ := ConnRun.step_write hside _
    refine ⟨next, hnext, fun hempty => ?_⟩
    obtain ⟨last, hlast, hclosed⟩ := ConnRun.step_closeOnFinished hside' hdue hwritecb
    exact hsize (Nat.add_eq_zero_iff.mp (hempty _ hside' last hlast hclosed)).2
  · exact absurd trivial hqueued

/-- The closing callback cuts nothing off throughout exactly the runs in which it is installed only
when no notification is due, and nothing is sent while it is due. -/
theorem closesOnlyWhenEmpty_iff_guarded {names : NameInfo} (base : ConnectionBase) {bev : BufferEvent}
    (hbev : EstablishedOn names bev) (steps : List ConnStep) :
    Always ConnRun.step ConnRun.ClosesOnlyWhenEmpty (.established base bev) steps ↔
      Guarded ConnRun.step (fun run s => s.SparesQueued run) (.established base bev) steps := by
  have hinitial : SparingRun (.established base bev) :=
    fun _ => ⟨_, ConnRun.established_writeSide base hbev, fun hwritecb => absurd hwritecb (by simp)⟩
  have hscope : Guarded ConnRun.step (fun _ _ => True) (.established base bev) steps :=
    guarded_of_forall (fun _ _ => trivial) _ steps
  exact always_iff_guarded (fun run h => h.closesOnlyWhenEmpty) (fun run s next h _ => h.step)
    (fun _ _ _ _ => ConnRun.not_closesOnlyWhenEmpty) hinitial hscope

/-- Twelve bytes fill the buffer, the socket takes five of them, and the connection is closed
gracefully, before or after the notification is dispatched. -/
def closeAfterDrain (dispatched : Bool) : List ConnStep :=
  [.call (.write 12), .event .checkWriteBufferFunc, .event (.socketWrite 5), .call .disconnectWhenFinished] ++
    (if dispatched then [.event .writeCallback] else []) ++
    [.event .disconnectWaitFunc, .event (.socketWrite 7), .event .writeCallback]

/-- After the dispatch, the seven bytes that are left are sent. -/
theorem closesOnlyWhenEmpty_after_dispatch :
    Always ConnRun.step ConnRun.ClosesOnlyWhenEmpty tenByteRun (closeAfterDrain true) :=
  (closesOnlyWhenEmpty_iff_guarded (.new tenByteConnection 0 0 0) (@EstablishedOn.accepted noNames)
    (closeAfterDrain true)).mpr (by decide +kernel)

/-- Before it, seven bytes are queued, and the notification that the buffer is ready closes the connection. -/
theorem closesOnlyWhenEmpty_cut_off :
    (∃ run closed, ((closeAfterDrain false).take 5).foldlM ConnRun.step tenByteRun = some run ∧
      run.writeSide.map (·.output) = some 7 ∧ run.closed = false ∧ run.step (.event .writeCallback) = some closed ∧
      closed.closed = true) ∧
    ¬Always ConnRun.step ConnRun.ClosesOnlyWhenEmpty tenByteRun
      ((closeAfterDrain false).take 5 ++ [.event .writeCallback]) := by
  refine ⟨⟨_, _, rfl, rfl, rfl, rfl, rfl⟩, fun halways => ?_⟩
  have hempty := halways.of_append.last rfl _ rfl _ rfl rfl
  exact absurd hempty (by decide)

end LibBtcNet
