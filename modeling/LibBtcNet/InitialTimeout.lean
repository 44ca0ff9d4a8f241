import LibBtcNet.ConnectionEffects
import LibBtcNet.Support.Runs

/-!
# The initial timeout

`InitConnection` gives the bufferevent the initial timeout and sets an event on the raw socket
that is to replace it when the first data are read or written. The event is one for readiness,
and a socket is ready for writing before anything was written. The timeouts of a whole run are
compared here with those that the bytes moved so far call for, and with those that they call
for when the replacement may wait for the event.
-/

namespace LibBtcNet

open Runs

/-- The read and the write timeout. -/
def BufferEvent.timeouts (bev : BufferEvent) : ℤ × ℤ := (bev.readTimeout, bev.writeTimeout)

/-- Those of the connection's bufferevent. -/
def ConnectionBase.timeouts (base : ConnectionBase) : Option (ℤ × ℤ) := base.bev.map BufferEvent.timeouts

/-- The timeouts of a connection on which nothing was read or written. -/
def CConnectionOptions.initialTimeouts (opts : CConnectionOptions) : ℤ × ℤ :=
  (opts.nInitialTimeout, opts.nInitialTimeout)

/-- The timeouts afterwards. -/
def CConnectionOptions.laterTimeouts (opts : CConnectionOptions) : ℤ × ℤ := (opts.nRecvTimeout, opts.nSendTimeout)

/-- A report of bytes that moved over the socket. -/
def ConnEffect.isTransfer : ConnEffect → Bool
  | .onBytesRead _ _ => true
  | .onBytesWritten _ _ => true
  | _ => false

/-- An event that moves bytes over the socket. -/
def ConnEvent.isTransfer : ConnEvent → Bool
  | .socketRead _ => true
  | .socketWrite _ => true
  | _ => false

namespace ConnRun

/-- Whether a byte has been read or written. -/
def transferred (run : ConnRun) : Bool := run.log.any ConnEffect.isTransfer

/-- The timeouts that are due. -/
def dueTimeouts (run : ConnRun) : ℤ × ℤ :=
  if run.transferred then run.base.conn.opts.laterTimeouts else run.base.conn.opts.initialTimeouts

/-- The bufferevent has the timeouts that are due. -/
def TimeoutsFollow (run : ConnRun) : Prop := run.base.timeouts = some run.dueTimeouts

/-- The replacement is still to come, unless the connection is closed first. -/
def Awaits (run : ConnRun) : Prop := run.closed = true ∨ run.base.firstDataFunc = true

/-- The bufferevent has the timeouts that are due, or will have them when the event is dispatched that the
first byte makes ready. -/
def TimeoutsSwitch (run : ConnRun) : Prop :=
  run.TimeoutsFollow ∨
    (run.transferred = true ∧ run.Awaits ∧ run.base.timeouts = some run.base.conn.opts.initialTimeouts)

/-- The step does not replace the timeouts before a byte has moved. -/
def ByteFirst (run : ConnRun) (s : ConnStep) : Prop :=
  s = .event .firstDataFunc → run.closed = false → run.base.firstDataFunc = true → run.transferred = true

/-- The step moves no byte and does not replace the timeouts. -/
def Silent (run : ConnRun) (s : ConnStep) : Prop :=
  run.closed = true ∨ ∀ e, s = .event e → (e.isTransfer = true ∨ e = .firstDataFunc) → run.base.armed e = false

end ConnRun

namespace ConnectionBase

variable {base base' : ConnectionBase} {effects : List ConnEffect}

/-- A call leaves the timeouts alone. -/
theorem Calls.timeouts {c : ConnCall} (h : base.Calls c base') : base'.timeouts = base.timeouts := by
  cases h with
  | write size hbev => simp [ConnectionBase.timeouts, hbev, BufferEvent.timeouts, BufferEvent.write]
  | pauseRecv hbev => simp [ConnectionBase.timeouts, hbev, BufferEvent.timeouts, BufferEvent.setReading]
  | unpauseRecv hbev => simp [ConnectionBase.timeouts, hbev, BufferEvent.timeouts, BufferEvent.setReading]
  | _ => rfl

/-- The loop of `read_cb_message` leaves the timeouts alone. -/
theorem afterReadLoop_timeouts (config : CNetworkConfig) (r : ReadLoop) (bev : BufferEvent) :
    (afterReadLoop config r bev).timeouts = bev.timeouts := by
  unfold afterReadLoop
  dsimp only
  split
  · rfl
  · split <;> rfl

/-- So does `read_cb_message`. -/
theorem readCbMessage_timeouts {config : CNetworkConfig} {bev bev' : BufferEvent}
    (hread : readCbMessage config bev = some (bev', effects)) : bev'.timeouts = bev.timeouts := by
  obtain ⟨r, -, hr⟩ := Option.map_eq_some_iff.mp hread
  obtain ⟨rfl, -⟩ := Prod.mk.inj hr
  exact afterReadLoop_timeouts config r bev

/-- So does `read_cb_chunk`. -/
theorem readCbChunk_timeouts {config : CNetworkConfig} {bev bev' : BufferEvent}
    (hread : readCbChunk config bev = some (bev', effects)) : bev'.timeouts = bev.timeouts := by
  unfold readCbChunk at hread
  split at hread
  · contradiction
  · obtain ⟨rfl, -⟩ := Prod.mk.inj (Option.some.inj hread)
    rfl

/-- The timeouts of a bufferevent that is put into the object. -/
theorem timeouts_of_bev {bev bev' : BufferEvent} (hbev : base.bev = some bev) (hbev' : base'.bev = some bev')
    (hsame : bev'.timeouts = bev.timeouts) : base'.timeouts = base.timeouts := by
  rw [ConnectionBase.timeouts, ConnectionBase.timeouts, hbev, hbev', Option.map_some, Option.map_some, hsame]

/-- No call takes the event away that replaces them. -/
theorem Calls.firstDataFunc {c : ConnCall} (h : base.Calls c base') : base'.firstDataFunc = base.firstDataFunc := by
  cases h <;> rfl

/-- An event leaves the timeouts alone, unless it is the one that replaces them. -/
theorem Reacts.timeouts {e : ConnEvent} (h : base.Reacts e base' effects) (he : e ≠ .firstDataFunc) :
    base'.timeouts = base.timeouts := by
  cases h with
  | firstData => contradiction
  | closing hbev => exact timeouts_of_bev hbev rfl rfl
  | finished hbev => exact timeouts_of_bev hbev rfl rfl
  | full hbev => exact timeouts_of_bev hbev rfl rfl
  | arrived hbev => exact timeouts_of_bev hbev rfl rfl
  | arrivedNothing hbev => exact timeouts_of_bev hbev rfl rfl
  | drained hbev => exact timeouts_of_bev hbev rfl rfl
  | drainedNothing hbev => exact timeouts_of_bev hbev rfl rfl
  | raised hbev =>
    refine timeouts_of_bev hbev rfl ?_
    unfold BufferEvent.raise
    split <;> rfl
  | readMessage hbev hreadcb hread => exact timeouts_of_bev hbev rfl ((readCbMessage_timeouts hread).trans rfl)
  | readChunk hbev hreadcb hread => exact timeouts_of_bev hbev rfl ((readCbChunk_timeouts hread).trans rfl)
  | unread hbev => exact timeouts_of_bev hbev rfl rfl
  | ready hbev => exact timeouts_of_bev hbev rfl rfl
  | flushed hbev => exact timeouts_of_bev hbev rfl rfl
  | unwritten hbev => exact timeouts_of_bev hbev rfl rfl
  | lost hbev => exact timeouts_of_bev hbev rfl rfl
  | notLost hbev => exact timeouts_of_bev hbev rfl rfl
  | _ => rfl

/-- It leaves that one pending. -/
theorem Reacts.firstDataFunc {e : ConnEvent} (h : base.Reacts e base' effects) (he : e ≠ .firstDataFunc) :
    base'.firstDataFunc = base.firstDataFunc := by
  cases h with
  | firstData => contradiction
  | _ => rfl

/-- What a read callback reports is no byte that moves. -/
theorem any_isTransfer_of_reading (hreading : ∀ effect ∈ effects, effect.OfReading) :
    effects.any ConnEffect.isTransfer = false := by
  rw [List.any_eq_false]
  intro effect heffect
  cases hreading effect heffect <;> exact Bool.false_ne_true

/-- Bytes that move are reported, and no others are. -/
theorem Reacts.any_isTransfer {e : ConnEvent} (h : base.Reacts e base' effects) (harmed : base.armed e = true) :
    effects.any ConnEffect.isTransfer = e.isTransfer := by
  cases h with
  | arrivedNothing hbev hchunks => simp [armed, hbev, hchunks] at harmed
  | drainedNothing hbev => simp [armed, hbev] at harmed
  | readMessage hbev hreadcb hread => exact any_isTransfer_of_reading (readCbMessage_ofReading hread)
  | readChunk hbev hreadcb hread => exact any_isTransfer_of_reading (readCbChunk_ofReading hread)
  | _ => rfl

end ConnectionBase

namespace ConnRun

variable {run next : ConnRun} {s : ConnStep}

/-- `DisconnectInt` leaves the timeouts alone. -/
theorem disconnectInt_timeouts (base : ConnectionBase) : base.disconnectInt.timeouts = base.timeouts := by
  cases hbev : base.bev <;> simp [ConnectionBase.timeouts, ConnectionBase.disconnectInt, hbev, BufferEvent.timeouts,
    BufferEvent.setReadingWriting, BufferEvent.setcb]

/-- What a step does to the timeouts and to the bytes: the event on the raw socket replaces the timeouts,
bytes move, or neither. -/
inductive Turns (run : ConnRun) : ConnStep → ConnRun → Prop
  | fired {next : ConnRun} (hopen : run.closed = false) (hfirst : run.base.firstDataFunc = true)
    (htimeouts : next.base.timeouts = some run.base.conn.opts.laterTimeouts)
    (htransferred : next.transferred = run.transferred) : Turns run (.event .firstDataFunc) next
  | moved {e : ConnEvent} {next : ConnRun} (hopen : run.closed = false) (htransfer : e.isTransfer = true)
    (harmed : run.base.armed e = true) (htimeouts : next.base.timeouts = run.base.timeouts)
    (hawaits : run.Awaits → next.Awaits) (htransferred : next.transferred = true) : Turns run (.event e) next
  | silent {s : ConnStep} {next : ConnRun} (hsilent : run.Silent s) (htimeouts : next.base.timeouts = run.base.timeouts)
    (hawaits : run.Awaits → next.Awaits) (htransferred : next.transferred = run.transferred) : Turns run s next

/-- The effects of a method leave the timeouts as the method left them. -/
theorem performAll_timeouts (run : ConnRun) (result : ConnectionBase × List ConnEffect) :
    (run.performAll result).base.timeouts = result.1.timeouts :=
  performAll_field ConnectionBase.timeouts disconnectInt_timeouts run result

/-- They add the bytes that they report. -/
theorem performAll_transferred (run : ConnRun) (result : ConnectionBase × List ConnEffect) :
    (run.performAll result).transferred = (run.transferred || result.2.any ConnEffect.isTransfer) := by
  rw [transferred, performAll_log, List.any_append, transferred]

/-- The replacement that is still to come after a method still is after its effects, unless they close
the connection. -/
theorem performAll_awaits {base : ConnectionBase} {effects : List ConnEffect}
    (hfirst : base.firstDataFunc = run.base.firstDataFunc) (hawaits : run.Awaits) :
    (run.performAll (base, effects)).Awaits := by
  unfold Awaits at hawaits ⊢
  rw [performAll_closed]
  by_cases hends : .disconnectInt ∈ effects
  · exact Or.inl (by simp [hends])
  · rw [performAll_base run _ hends, hfirst]
    exact hawaits.imp_left fun hclosed => by rw [hclosed, Bool.true_or]

/-- A step does one of these. -/
theorem turns_of_step (hstep : run.step s = some next) : run.Turns s next := by
  cases s with
  | call c =>
    have hsilent : run.Silent (.call c) := Or.inr nofun
    change run.call c = some next at hstep
    unfold call at hstep
    split at hstep
    · obtain rfl := Option.some.inj hstep
      exact .silent hsilent rfl id rfl
    · obtain ⟨base, hbase, rfl⟩ := Option.map_eq_some_iff.mp hstep
      have hcalls := ConnectionBase.calls_of_call hbase
      exact .silent hsilent hcalls.timeouts (Or.imp_right hcalls.firstDataFunc.trans) rfl
  | event e =>
    change run.event e = some next at hstep
    unfold event at hstep
    split at hstep
    · next hcan =>
      obtain ⟨hopen, harmed⟩ : run.closed = false ∧ run.base.armed e = true := by simpa using hcan
      obtain ⟨⟨base, effects⟩, hreact, rfl⟩ := Option.map_eq_some_iff.mp hstep
      have hreacts := ConnectionBase.reacts_of_react hreact
      have htimeouts : (run.performAll (base, effects)).base.timeouts = base.timeouts := performAll_timeouts run _
      have htransferred : (run.performAll (base, effects)).transferred = (run.transferred || e.isTransfer) := by
        rw [performAll_transferred, hreacts.any_isTransfer harmed]
      by_cases hfirst : e = .firstDataFunc
      · subst hfirst
        cases hreacts with
        | firstData hbev =>
          exact .fired hopen harmed htimeouts (htransferred.trans (Bool.or_false _))
      · rw [hreacts.timeouts hfirst] at htimeouts
        have hawaits : run.Awaits → (run.performAll (base, effects)).Awaits :=
          performAll_awaits (hreacts.firstDataFunc hfirst)
        cases htransfer : e.isTransfer with
        | true =>
          exact .moved hopen htransfer harmed htimeouts hawaits (by rw [htransferred, htransfer, Bool.or_true])
        | false =>
          refine .silent (Or.inr fun other heq hother => ?_) htimeouts hawaits
            (by rw [htransferred, htransfer, Bool.or_false])
          obtain rfl := ConnStep.event.inj heq
          simp [htransfer, hfirst] at hother
    · next hcan =>
      obtain rfl := Option.some.inj hstep
      refine .silent ?_ rfl id rfl
      cases hclosed : run.closed with
      | true => exact Or.inl hclosed
      | false =>
        refine Or.inr fun other heq _ => ?_
        obtain rfl := ConnStep.event.inj heq
        simpa [hclosed] using hcan

/-- A new connection has the initial timeouts. -/
theorem established_timeouts (base : ConnectionBase) (bev : BufferEvent) :
    (established base bev).base.timeouts = some base.conn.opts.initialTimeouts := rfl

/-- A step that is not silent has a result. -/
theorem exists_step_of_not_silent (hbev : run.base.timeouts.isSome = true) (hsilent : ¬run.Silent s) :
    ∃ next, run.step s = some next := by
  obtain ⟨hopen, hevent⟩ := not_or.mp hsilent
  push Not at hevent
  obtain ⟨e, rfl, hkind, harmed⟩ := hevent
  obtain ⟨bev, hbev⟩ := Option.isSome_iff_exists.mp ((Option.isSome_map ..).symm.trans hbev)
  have hreact : (run.base.react e).isSome = true := by
    cases e with
    | socketRead chunks => simp [ConnectionBase.react, hbev]
    | socketWrite size => simp [ConnectionBase.react, hbev]
    | firstDataFunc => simp [ConnectionBase.react, ConnectionBase.firstDataInt, hbev]
    | _ => simp [ConnEvent.isTransfer] at hkind
  obtain ⟨result, hresult⟩ := Option.isSome_iff_exists.mp hreact
  exact ⟨_, event_of_armed (Bool.eq_false_iff.mpr hopen) (Bool.eq_true_of_not_eq_false harmed) hresult⟩

/-- The event is not silent while it can come. -/
theorem not_silent_firstDataFunc (hopen : run.closed = false) (hfirst : run.base.firstDataFunc = true) :
    ¬run.Silent (.event .firstDataFunc) := by
  rintro (hclosed | hevent)
  · rw [hopen] at hclosed
    contradiction
  · have harmed : run.base.firstDataFunc = false := hevent .firstDataFunc rfl (Or.inr rfl)
    rw [hfirst] at harmed
    contradiction

/-- Nor are bytes that move. -/
theorem not_silent_transfer {e : ConnEvent} (hopen : run.closed = false) (htransfer : e.isTransfer = true)
    (harmed : run.base.armed e = true) : ¬run.Silent (.event e) := by
  rintro (hclosed | hevent)
  · rw [hopen] at hclosed
    contradiction
  · rw [hevent e rfl (Or.inl htransfer)] at harmed
    contradiction

/-- The timeouts are the initial ones. -/
structure Steady (opts : CConnectionOptions) (run : ConnRun) : Prop where
  config : run.base.conn.opts = opts
  timeouts : run.base.timeouts = some opts.initialTimeouts

/-- Besides, nothing was read or written. -/
structure Fresh (opts : CConnectionOptions) (run : ConnRun) : Prop extends Steady opts run where
  transferred : run.transferred = false

/-- The initial timeouts are in place and will be replaced, or they were replaced after the first byte. -/
structure Switching (opts : CConnectionOptions) (run : ConnRun) : Prop where
  config : run.base.conn.opts = opts
  timeouts : (run.base.timeouts = some opts.initialTimeouts ∧ run.Awaits) ∨
    (run.base.timeouts = some opts.laterTimeouts ∧ run.transferred = true)

section Steps

variable {opts : CConnectionOptions}

/-- A step does not change what is configured. -/
theorem step_opts (hconfig : run.base.conn.opts = opts) (hstep : run.step s = some next) :
    next.base.conn.opts = opts := by
  rw [step_conn hstep, hconfig]

/-- The timeouts that are due before the first byte and after it. -/
theorem timeoutsFollow_iff (hconfig : run.base.conn.opts = opts) : run.TimeoutsFollow ↔
    run.base.timeouts = some (if run.transferred then opts.laterTimeouts else opts.initialTimeouts) := by
  rw [TimeoutsFollow, dueTimeouts, hconfig]

/-- With equal timeouts nothing changes. -/
theorem Steady.step (h : Steady opts run) (hequal : opts.laterTimeouts = opts.initialTimeouts)
    (hstep : run.step s = some next) : Steady opts next := by
  refine ⟨step_opts h.config hstep, ?_⟩
  cases turns_of_step hstep with
  | fired _ _ htimeouts _ => rw [htimeouts, h.config, hequal]
  | moved _ _ _ htimeouts _ _ => rw [htimeouts, h.timeouts]
  | silent _ htimeouts _ _ => rw [htimeouts, h.timeouts]

/-- And they are always due. -/
theorem Steady.follow (h : Steady opts run) (hequal : opts.laterTimeouts = opts.initialTimeouts) :
    run.TimeoutsFollow := by
  rw [timeoutsFollow_iff h.config, h.timeouts, hequal, ite_self]

/-- Before the first byte they are due as well. -/
theorem Fresh.follow (h : Fresh opts run) : run.TimeoutsFollow := by
  rw [timeoutsFollow_iff h.config, h.timeouts, h.transferred, if_neg Bool.false_ne_true]

/-- A silent step keeps the initial timeouts. -/
theorem Fresh.step (h : Fresh opts run) (hsilent : run.Silent s) (hstep : run.step s = some next) :
    Fresh opts next := by
  cases turns_of_step hstep with
  | fired hopen hfirst _ _ => exact absurd hsilent (not_silent_firstDataFunc hopen hfirst)
  | moved hopen htransfer harmed _ _ _ => exact absurd hsilent (not_silent_transfer hopen htransfer harmed)
  | silent _ htimeouts _ htransferred =>
    exact ⟨⟨step_opts h.config hstep, htimeouts.trans h.timeouts⟩, htransferred.trans h.transferred⟩

/-- Any other step leaves timeouts that are not due. -/
theorem Fresh.broken (h : Fresh opts run) (hdiffer : opts.laterTimeouts ≠ opts.initialTimeouts)
    (hloud : ¬run.Silent s) : ∃ next, run.step s = some next ∧ ¬next.TimeoutsFollow := by
  obtain ⟨next, hstep⟩ := exists_step_of_not_silent (by rw [h.timeouts]; rfl) hloud
  refine ⟨next, hstep, ?_⟩
  rw [timeoutsFollow_iff (step_opts h.config hstep)]
  cases turns_of_step hstep with
  | fired _ _ htimeouts htransferred =>
    rw [htimeouts, htransferred, h.transferred, h.config, if_neg Bool.false_ne_true]
    exact fun heq => hdiffer (Option.some.inj heq)
  | moved _ _ _ htimeouts _ htransferred =>
    rw [htimeouts, htransferred, h.timeouts, if_pos rfl]
    exact fun heq => hdiffer (Option.some.inj heq).symm
  | silent hsilent _ _ _ => exact absurd hsilent hloud

/-- The initial timeouts are due or will be replaced. -/
theorem Switching.switch (h : Switching opts run) : run.TimeoutsSwitch := by
  unfold TimeoutsSwitch
  rw [timeoutsFollow_iff h.config, h.config]
  rcases h.timeouts with ⟨htimeouts, hawaits⟩ | ⟨htimeouts, htransferred⟩
  · cases htransferred : run.transferred with
    | true => exact Or.inr ⟨rfl, hawaits, htimeouts⟩
    | false => exact Or.inl htimeouts
  · rw [htransferred]
    exact Or.inl htimeouts

/-- Where the first byte comes first the timeouts switch with it. -/
theorem Switching.step (h : Switching opts run) (hfirst : run.ByteFirst s) (hstep : run.step s = some next) :
    Switching opts next := by
  refine ⟨step_opts h.config hstep, ?_⟩
  cases turns_of_step hstep with
  | fired hopen hpending htimeouts htransferred =>
    exact Or.inr ⟨by rw [htimeouts, h.config], htransferred.trans (hfirst rfl hopen hpending)⟩
  | moved _ _ _ htimeouts hawaits htransferred =>
    rw [htimeouts]
    exact h.timeouts.imp (And.imp_right hawaits) (And.imp_right fun _ => htransferred)
  | silent _ htimeouts hawaits htransferred =>
    rw [htimeouts, htransferred]
    exact h.timeouts.imp_left (And.imp_right hawaits)

/-- An event that fires before the first byte replaces them too early. -/
theorem Switching.broken (h : Switching opts run) (hdiffer : opts.laterTimeouts ≠ opts.initialTimeouts)
    (hearly : ¬run.ByteFirst s) : ∃ next, run.step s = some next ∧ ¬next.TimeoutsSwitch := by
  unfold ByteFirst at hearly
  push Not at hearly
  obtain ⟨rfl, hopen, hpending, hnothing⟩ := hearly
  have hloud := not_silent_firstDataFunc hopen hpending
  have hbev : run.base.timeouts.isSome = true := by
    rcases h.timeouts with ⟨htimeouts, -⟩ | ⟨htimeouts, -⟩ <;> rw [htimeouts] <;> rfl
  obtain ⟨next, hstep⟩ := exists_step_of_not_silent hbev hloud
  refine ⟨next, hstep, ?_⟩
  unfold TimeoutsSwitch
  rw [timeoutsFollow_iff (step_opts h.config hstep)]
  cases turns_of_step hstep with
  | fired _ _ htimeouts htransferred =>
    rw [htimeouts, htransferred, Bool.eq_false_iff.mpr hnothing, h.config, if_neg Bool.false_ne_true]
    rintro (heq | ⟨hmoved, -⟩)
    · exact hdiffer (Option.some.inj heq)
    · contradiction
  | moved _ htransfer _ _ _ _ => contradiction
  | silent hsilent _ _ _ => exact absurd hsilent hloud

end Steps

end ConnRun

/-- In a run of an established connection the timeouts are at every step those that the bytes moved so far call
for exactly when they are all equal, or no byte moves and the event on the raw socket does not fire. Let the
replacement wait for that event once a byte has moved: then it is so exactly when the timeouts are equal, or
the event does not fire before the first byte. -/
theorem timeoutsFollow_iff_guarded (base : ConnectionBase) (bev : BufferEvent) (steps : List ConnStep) :
    (Always ConnRun.step ConnRun.TimeoutsFollow (.established base bev) steps ↔
      base.conn.opts.laterTimeouts = base.conn.opts.initialTimeouts ∨
        Guarded ConnRun.step ConnRun.Silent (.established base bev) steps) ∧
    (Always ConnRun.step ConnRun.TimeoutsSwitch (.established base bev) steps ↔
      base.conn.opts.laterTimeouts = base.conn.opts.initialTimeouts ∨
        Guarded ConnRun.step ConnRun.ByteFirst (.established base bev) steps) := by
  have htimeouts := ConnRun.established_timeouts base bev
  have hsteady : (ConnRun.established base bev).Steady base.conn.opts := ⟨rfl, htimeouts⟩
  by_cases hequal : base.conn.opts.laterTimeouts = base.conn.opts.initialTimeouts
  · have hkeep (run : ConnRun) (s : ConnStep) (next : ConnRun) (h : run.Steady base.conn.opts)
        (hstep : run.step s = some next) : next.Steady base.conn.opts := h.step hequal hstep
    refine ⟨iff_of_true ?_ (Or.inl hequal), iff_of_true ?_ (Or.inl hequal)⟩
    · exact always_of_invariant (fun run h => h.follow hequal) hkeep hsteady steps
    · exact always_of_invariant (fun run h => Or.inl (h.follow hequal)) hkeep hsteady steps
  · have hscope : Guarded ConnRun.step (fun _ _ => True) (.established base bev) steps :=
      guarded_of_forall (fun _ _ => trivial) _ steps
    rw [or_iff_right hequal, or_iff_right hequal]
    constructor
    · have hfresh : (ConnRun.established base bev).Fresh base.conn.opts := ⟨hsteady, rfl⟩
      exact always_iff_guarded (fun run h => h.follow) (fun run s next h _ hsilent hstep => h.step hsilent hstep)
        (fun run s h _ hloud => h.broken hequal hloud) hfresh hscope
    · have hswitching : (ConnRun.established base bev).Switching base.conn.opts :=
        ⟨rfl, Or.inl ⟨htimeouts, Or.inr rfl⟩⟩
      exact always_iff_guarded (fun run h => h.switch) (fun run s next h _ hfirst hstep => h.step hfirst hstep)
        (fun run s h _ hearly => h.broken hequal hearly) hswitching hscope

/-- A peer of the test program's network that stays silent: its socket is ready for writing, and twenty minutes
replace the minute that is due. -/
theorem timeoutsFollow_silentPeer : ∃ next,
    (ConnRun.established (.new (localPeer false) 0 0 0) .socketNew).step (.event .firstDataFunc) = some next ∧
      next.log = [] ∧ next.base.timeouts = some (1200, 1200) ∧ next.dueTimeouts = (60, 60) ∧
      ¬next.TimeoutsFollow ∧ ¬next.TimeoutsSwitch := by
  refine ⟨_, rfl, by decide +kernel, by decide +kernel, by decide +kernel, fun hfollow => ?_, ?_⟩
  · exact absurd hfollow (by unfold ConnRun.TimeoutsFollow; decide +kernel)
  · rintro (hfollow | ⟨htransferred, -⟩)
    · exact absurd hfollow (by unfold ConnRun.TimeoutsFollow; decide +kernel)
    · exact absurd htransferred (by decide +kernel)

end LibBtcNet
