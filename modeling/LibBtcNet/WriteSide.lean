import LibBtcNet.ConnectionEffects

/-!
# The write side of an established connection

A connection is established on a bufferevent that was accepted, that has connected, or that
a proxy handshake hands over; none of them ever had a write callback. From then on only
five steps reach the output buffer, the write callback and its watermark: a write, what the
socket takes, the check of the buffer, the dispatch of a notification, and the graceful
close. `WriteChange` says what each of them does, and that no other does anything.
-/

namespace LibBtcNet

/-- The bufferevents that a connection is established on. The socket may have taken what the
handshake wrote, or some of it. -/
inductive EstablishedOn (names : NameInfo) : BufferEvent → Prop
  | accepted : EstablishedOn names .socketNew
  | connected {addr : Bytes} {connTimeout : ℤ} {bev : BufferEvent}
    (hbare : bareConnect none addr connTimeout = some bev) : EstablishedOn names bev
  | proxied {addr : Bytes} {connTimeout : ℤ} {bare bev : BufferEvent} {conn resolved : CConnection}
    {start run : ProxyRun} {steps : List ProxyStep} {left : ℕ}
    (hbare : bareConnect none addr connTimeout = some bare) (hbegin : ProxyRun.begin conn bare = some start)
    (hrun : steps.foldlM (ProxyRun.step names) start = some run)
    (hsuccess : .proxySuccess bev resolved ∈ run.log) (hleft : left ≤ bev.output) :
    EstablishedOn names { bev with output := left }

/-- No write callback is installed, and none is due. -/
def BufferEvent.Unnotified (bev : BufferEvent) : Prop := bev.writecb = none ∧ bev.writePending = false

/-- Neither the bufferevent of a handshake nor one that it hands over has a write callback. -/
structure CBareProxy.Unnotified (proxy : CBareProxy) (effects : List ProxyEffect) : Prop where
  bev : ∀ bev, proxy.bev = some bev → bev.Unnotified
  handed : ∀ bev resolved, .proxySuccess bev resolved ∈ effects → bev.Unnotified

namespace CBareProxy

variable {names : NameInfo} {proxy : CBareProxy} {bev : BufferEvent} {result : CBareProxy × List ProxyEffect}

/-- A failure hands nothing over. -/
theorem proxyFailure_unnotified (proxy : CBareProxy) : proxy.proxyFailure.1.Unnotified proxy.proxyFailure.2 :=
  ⟨by simp [proxyFailure], by simp [proxyFailure]⟩

/-- Nor does a handshake that writes and goes on with another bufferevent. -/
theorem Unnotified.of_write {request : Bytes} (hbev : bev.Unnotified) :
    Unnotified { proxy with bev := some bev } [.write request] := by
  refine ⟨fun bev' hbev' => ?_, by simp⟩
  obtain rfl := Option.some.inj hbev'
  exact hbev

/-- The request is written without a write callback. -/
theorem sendRequest_unnotified (hpending : bev.writePending = false)
    (hresult : proxy.sendRequest names bev = some result) : result.1.Unnotified result.2 := by
  unfold sendRequest at hresult
  split at hresult
  · obtain rfl := Option.some.inj hresult
    exact .of_write ⟨rfl, hpending⟩
  · obtain rfl := Option.some.inj hresult
    exact proxy.proxyFailure_unnotified
  · contradiction

/-- `receive_init` installs no write callback. -/
theorem receiveInit_unnotified (hpending : bev.writePending = false)
    (hresult : proxy.receiveInit names bev = some result) : result.1.Unnotified result.2 := by
  unfold receiveInit at hresult
  dsimp only at hresult
  split_ifs at hresult
  · obtain rfl := Option.some.inj hresult
    exact proxy.proxyFailure_unnotified
  · obtain rfl := Option.some.inj hresult
    exact proxy.proxyFailure_unnotified
  · split at hresult
    · obtain rfl := Option.some.inj hresult
      exact .of_write ⟨rfl, hpending⟩
    · obtain rfl := Option.some.inj hresult
      exact proxy.proxyFailure_unnotified
  · exact sendRequest_unnotified (by exact hpending) hresult

/-- Nor does `check_auth_response`. -/
theorem checkAuthResponse_unnotified (hpending : bev.writePending = false)
    (hresult : proxy.checkAuthResponse names bev = some result) : result.1.Unnotified result.2 := by
  unfold checkAuthResponse at hresult
  dsimp only at hresult
  split_ifs at hresult
  · obtain rfl := Option.some.inj hresult
    exact proxy.proxyFailure_unnotified
  · obtain rfl := Option.some.inj hresult
    exact proxy.proxyFailure_unnotified
  · exact sendRequest_unnotified (by exact hpending) hresult

/-- Nor does `read_final`, whatever it hands over. -/
theorem readFinal_unnotified (hbev : bev.Unnotified) (hresult : proxy.readFinal names bev = some result) :
    result.1.Unnotified result.2 := by
  have hends (input : EvBuffer) (resolved : CConnection) :
      Unnotified { proxy with bev := none } [.proxySuccess { bev with input } resolved] := by
    refine ⟨by simp, fun bev' resolved' hmem => ?_⟩
    obtain ⟨rfl, -⟩ := ProxyEffect.proxySuccess.inj (List.mem_singleton.mp hmem)
    exact hbev
  unfold readFinal at hresult
  dsimp only at hresult
  split_ifs at hresult
  · obtain rfl := Option.some.inj hresult
    exact proxy.proxyFailure_unnotified
  · split at hresult
    · obtain rfl := Option.some.inj hresult
      exact proxy.proxyFailure_unnotified
    · next addrsize sockaddr haddress =>
      split at hresult
      · obtain rfl := Option.some.inj hresult
        refine ⟨fun bev' hbev' => ?_, by simp⟩
        obtain rfl := Option.some.inj hbev'
        exact hbev
      · cases sockaddr with
        | none =>
          obtain rfl := Option.some.inj hresult
          exact hends _ _
        | some toSockAddr =>
          simp only at hresult
          split_ifs at hresult
          obtain rfl := Option.some.inj hresult
          exact hends _ _

end CBareProxy

namespace ProxyRun

variable {names : NameInfo} {run next : ProxyRun}

/-- A handshake without a write callback stays without one. -/
theorem step_unnotified {s : ProxyStep} (h : run.proxy.Unnotified run.log) (hstep : run.step names s = some next) :
    next.proxy.Unnotified next.log := by
  have hperform {result : CBareProxy × List ProxyEffect} (hresult : result.1.Unnotified result.2) :
      (run.perform result).proxy.Unnotified (run.perform result).log := by
    refine ⟨hresult.bev, fun bev resolved hmem => ?_⟩
    rcases List.mem_append.mp hmem with hold | hnew
    · exact h.handed bev resolved hold
    · exact hresult.handed bev resolved hnew
  unfold step at hstep
  split at hstep
  · obtain rfl := Option.some.inj hstep
    exact h
  · next bev chunks hbev =>
    split at hstep
    · obtain rfl := Option.some.inj hstep
      refine ⟨fun bev' hbev' => ?_, h.handed⟩
      obtain rfl := Option.some.inj hbev'
      exact h.bev bev hbev
    · obtain rfl := Option.some.inj hstep
      exact h
  · next bev hbev =>
    split at hstep
    · obtain ⟨result, hresult, rfl⟩ := Option.map_eq_some_iff.mp hstep
      have hkept : BufferEvent.Unnotified { bev with readPending := false } := h.bev bev hbev
      apply hperform
      unfold CBareProxy.runReadcb at hresult
      split at hresult
      · exact CBareProxy.receiveInit_unnotified hkept.2 hresult
      · exact CBareProxy.checkAuthResponse_unnotified hkept.2 hresult
      · exact CBareProxy.readFinal_unnotified hkept hresult
      · obtain rfl := Option.some.inj hresult
        refine ⟨fun bev' hbev' => ?_, by simp⟩
        obtain rfl := Option.some.inj hbev'
        exact hkept
    · obtain rfl := Option.some.inj hstep
      exact h
  · obtain rfl := Option.some.inj hstep
    apply hperform
    unfold CBareProxy.eventCb
    split
    · exact CBareProxy.proxyFailure_unnotified _
    · exact ⟨h.bev, by simp⟩

/-- So does a whole handshake. -/
theorem steps_unnotified (steps : List ProxyStep) {run : ProxyRun} (h : run.proxy.Unnotified run.log)
    (hrun : steps.foldlM (step names) run = some next) : next.proxy.Unnotified next.log := by
  induction steps generalizing run with
  | nil =>
    obtain rfl : run = next := Option.some.inj hrun
    exact h
  | cons s steps ih =>
    rw [List.foldlM_cons] at hrun
    obtain ⟨first, hfirst, hrest⟩ := Option.bind_eq_some_iff.mp hrun
    exact ih (step_unnotified h hfirst) hrest

end ProxyRun

/-- A bufferevent that has just begun to connect has no write callback. -/
theorem bareConnect_unnotified {old : Option BufferEvent} {addr : Bytes} {connTimeout : ℤ} {bev : BufferEvent}
    (hbare : bareConnect old addr connTimeout = some bev) : bev.Unnotified := by
  unfold bareConnect at hbare
  split at hbare
  · contradiction
  · obtain rfl := Option.some.inj hbare
    exact ⟨rfl, rfl⟩

/-- No connection is established on a bufferevent with a write callback due. -/
theorem EstablishedOn.unnotified {names : NameInfo} {bev : BufferEvent} (h : EstablishedOn names bev) :
    bev.Unnotified := by
  induction h with
  | accepted => exact ⟨rfl, rfl⟩
  | connected hbare => exact bareConnect_unnotified hbare
  | @proxied addr connTimeout bare bev conn resolved start run steps left hbare hbegin hrun hsuccess hleft =>
    have hkept := bareConnect_unnotified hbare
    have hstart : start.proxy.Unnotified start.log := by
      obtain ⟨result, hresult, rfl⟩ := Option.map_eq_some_iff.mp hbegin
      unfold CBareProxy.initProxy at hresult
      split at hresult
      · contradiction
      · obtain rfl := Option.some.inj hresult
        exact @CBareProxy.Unnotified.of_write ⟨conn, none⟩ _ _ ⟨rfl, hkept.2⟩
    exact (ProxyRun.steps_unnotified steps hstart hrun).handed bev resolved hsuccess

/-- The write side of a bufferevent: the length of its output, the write callback with its watermark,
whether a notification is due, and whether the check of the buffer is. -/
structure WriteSide where
  output : ℕ
  writecb : Option WriteCb
  writeLow : ℕ
  writePending : Bool
  checkPending : Bool
deriving DecidableEq, Repr

/-- The write side of a connection, if it has a bufferevent. -/
def ConnectionBase.writeSide (base : ConnectionBase) : Option WriteSide :=
  base.bev.map fun bev =>
    ⟨bev.output, bev.writecb, bev.writeLow, bev.writePending, base.checkWriteBufferFunc⟩

/-- The write side of a connection that is not closed. -/
def ConnRun.writeSide (run : ConnRun) : Option WriteSide := if run.closed then none else run.base.writeSide

/-- A report that says nothing of the write buffer. -/
def ConnEffect.Silent (effect : ConnEffect) : Prop :=
  ∀ bufsize, effect ≠ .onWriteBufferFull bufsize ∧ effect ≠ .onWriteBufferReady bufsize

/-- What a read callback asks and reports says nothing of the write buffer. -/
theorem ConnEffect.OfReading.silent {effect : ConnEffect} (h : effect.OfReading) : effect.Silent := by
  cases h <;> exact fun _ => ⟨by simp, by simp⟩

/-- What a step does to the write side of a connection that stays open, and what it reports. -/
inductive WriteChange (nMaxSendBuffer : ℤ) : ConnStep → WriteSide → List ConnEffect → WriteSide → Prop
  | other {s : ConnStep} {side : WriteSide} {effects : List ConnEffect}
    (hsilent : ∀ effect ∈ effects, effect.Silent) : WriteChange nMaxSendBuffer s side effects side
  | sent {side : WriteSide} (size : ℕ) : WriteChange nMaxSendBuffer (.call (.write size)) side []
      { side with output := side.output + size, checkPending := true }
  | taken {side : WriteSide} (size : ℕ) {effects : List ConnEffect} (hsilent : ∀ effect ∈ effects, effect.Silent) :
    WriteChange nMaxSendBuffer (.event (.socketWrite size)) side effects
      { side with
        output := side.output - size
        writePending := side.writePending ||
          (side.writecb.isSome && decide (side.output - size ≤ side.writeLow)) }
  | full {side : WriteSide} (hcheck : side.checkPending = true)
    (hfull : nMaxSendBuffer ≤ sizeToInt side.output) :
    WriteChange nMaxSendBuffer (.event .checkWriteBufferFunc) side [.onWriteBufferFull side.output]
      { side with writecb := some .writeCb, checkPending := false }
  | room {side : WriteSide} (hcheck : side.checkPending = true)
    (hroom : sizeToInt side.output < nMaxSendBuffer) :
    WriteChange nMaxSendBuffer (.event .checkWriteBufferFunc) side [] { side with checkPending := false }
  | ready {side : WriteSide} (hdue : side.writePending = true) (hwritecb : side.writecb = some .writeCb) :
    WriteChange nMaxSendBuffer (.event .writeCallback) side [.onWriteBufferReady side.output]
      { side with writecb := none, writePending := false }
  | closing {side : WriteSide} (houtput : side.output ≠ 0) :
    WriteChange nMaxSendBuffer (.event .disconnectWaitFunc) side []
      { side with writecb := some .closeOnFinishedWritecb, writeLow := 0 }

namespace ConnectionBase

variable {base base' : ConnectionBase} {bev : BufferEvent} {effects : List ConnEffect}

/-- An event that closes the connection, saying nothing of the write buffer, or that changes its
write side. -/
def Writes (base base' : ConnectionBase) (s : ConnStep) (side : WriteSide) (effects : List ConnEffect) : Prop :=
  (.disconnectInt ∈ effects ∧ ∀ effect ∈ effects, effect.Silent) ∨
    (.disconnectInt ∉ effects ∧ ∃ side', base'.writeSide = some side' ∧
      WriteChange base.conn.opts.nMaxSendBuffer s side effects side')

/-- The write side of a connection with a bufferevent. -/
theorem writeSide_of_bev (hbev : base.bev = some bev) : base.writeSide =
    some ⟨bev.output, bev.writecb, bev.writeLow, bev.writePending, base.checkWriteBufferFunc⟩ :=
  congrArg (Option.map _) hbev

/-- A change that does not reach the write side. -/
theorem writes_other {s : ConnStep} {side : WriteSide} (hside : base.writeSide = some side)
    (hsilent : ∀ effect ∈ effects, effect.Silent) (hbase : base'.writeSide = base.writeSide) :
    Writes base base' s side effects := by
  by_cases hcloses : .disconnectInt ∈ effects
  · exact Or.inl ⟨hcloses, hsilent⟩
  · exact Or.inr ⟨hcloses, side, hbase.trans hside, .other hsilent⟩

/-- A disconnect alone. -/
theorem writes_disconnectInt {s : ConnStep} {side : WriteSide} : Writes base base' s side [.disconnectInt] :=
  Or.inl ⟨List.mem_singleton_self _, by simp [ConnEffect.Silent]⟩

/-- `read_cb_message` leaves the write side alone, and says nothing of it. -/
theorem readCbMessage_silent {config : CNetworkConfig} {bev' : BufferEvent}
    (hread : readCbMessage config bev = some (bev', effects)) :
    (∀ effect ∈ effects, effect.Silent) ∧
      bev'.output = bev.output ∧ bev'.writecb = bev.writecb ∧ bev'.writeLow = bev.writeLow ∧
      bev'.writePending = bev.writePending := by
  refine ⟨fun effect heffect => (readCbMessage_ofReading hread effect heffect).silent, ?_⟩
  obtain ⟨r, -, hr⟩ := Option.map_eq_some_iff.mp hread
  obtain ⟨rfl, -⟩ := Prod.mk.inj hr
  unfold afterReadLoop
  dsimp only
  split_ifs <;> exact ⟨rfl, rfl, rfl, rfl⟩

/-- So does `read_cb_chunk`. -/
theorem readCbChunk_silent {config : CNetworkConfig} {bev' : BufferEvent}
    (hread : readCbChunk config bev = some (bev', effects)) :
    (∀ effect ∈ effects, effect.Silent) ∧
      bev'.output = bev.output ∧ bev'.writecb = bev.writecb ∧ bev'.writeLow = bev.writeLow ∧
      bev'.writePending = bev.writePending := by
  refine ⟨fun effect heffect => (readCbChunk_ofReading hread effect heffect).silent, ?_⟩
  unfold readCbChunk at hread
  split at hread
  · contradiction
  · obtain ⟨rfl, -⟩ := Prod.mk.inj (Option.some.inj hread)
    exact ⟨rfl, rfl, rfl, rfl⟩

/-- What an event does to the write side, unless it closes the connection. -/
theorem react_writes {e : ConnEvent} {side : WriteSide} (hside : base.writeSide = some side)
    (harmed : base.armed e = true) (hreact : base.react e = some (base', effects)) :
    Writes base base' (.event e) side effects := by
  cases reacts_of_react hreact with
  | disconnect => exact writes_disconnectInt
  | closing hbev houtput =>
    obtain rfl := Option.some.inj ((writeSide_of_bev hbev).symm.trans hside)
    exact Or.inr ⟨by simp, _, rfl, .closing houtput⟩
  | finished => exact writes_disconnectInt
  | full hbev hfull =>
    obtain rfl := Option.some.inj ((writeSide_of_bev hbev).symm.trans hside)
    exact Or.inr ⟨by simp, _, rfl, .full (by simpa [armed, hbev] using harmed) hfull⟩
  | room hbev hroom =>
    obtain rfl := Option.some.inj ((writeSide_of_bev hbev).symm.trans hside)
    exact Or.inr ⟨by simp, _, congrArg (Option.map _) hbev, .room (by simpa [armed, hbev] using harmed) hroom⟩
  | pingTimeout => exact writes_other hside (by simp [ConnEffect.Silent]) rfl
  | firstData hbev => exact writes_other hside (by simp) (writeSide_of_bev hbev).symm
  | arrived hbev => exact writes_other hside (by simp [ConnEffect.Silent]) (writeSide_of_bev hbev).symm
  | arrivedNothing hbev => exact writes_other hside (by simp) (writeSide_of_bev hbev).symm
  | @drained _ size hbev =>
    obtain rfl := Option.some.inj ((writeSide_of_bev hbev).symm.trans hside)
    exact Or.inr ⟨by simp, _, rfl, .taken size (by simp [ConnEffect.Silent])⟩
  | drainedNothing hbev =>
    obtain rfl := Option.some.inj ((writeSide_of_bev hbev).symm.trans hside)
    exact Or.inr ⟨by simp, _, rfl, .taken 0 (by simp)⟩
  | raised hbev =>
    refine writes_other hside (by simp) ?_
    rw [writeSide_of_bev hbev]
    unfold writeSide BufferEvent.raise
    split <;> rfl
  | readMessage hbev hreadcb hread =>
    obtain ⟨hsilent, houtput, hwritecb, hlow, hpending⟩ := readCbMessage_silent hread
    refine writes_other hside hsilent ?_
    simp [writeSide, hbev, houtput, hwritecb, hlow, hpending]
  | readChunk hbev hreadcb hread =>
    obtain ⟨hsilent, houtput, hwritecb, hlow, hpending⟩ := readCbChunk_silent hread
    refine writes_other hside hsilent ?_
    simp [writeSide, hbev, houtput, hwritecb, hlow, hpending]
  | unread hbev => exact writes_other hside (by simp) (writeSide_of_bev hbev).symm
  | @ready bev hbev hwritecb =>
    obtain rfl := Option.some.inj ((writeSide_of_bev hbev).symm.trans hside)
    have hdue : bev.writePending = true := by
      simp only [armed, hbev, Bool.and_eq_true] at harmed
      exact harmed.1
    exact Or.inr ⟨by simp, _, rfl, .ready hdue hwritecb⟩
  | flushed => exact writes_disconnectInt
  | unwritten hbev hwritecb => simp [armed, hbev, hwritecb] at harmed
  | lost => exact writes_disconnectInt
  | notLost hbev => exact writes_other hside (by simp) (writeSide_of_bev hbev).symm

/-- What a call does to the write side. -/
theorem call_writes {c : ConnCall} {side : WriteSide} (hside : base.writeSide = some side)
    (hcall : base.call c = some base') : ∃ side', base'.writeSide = some side' ∧
      WriteChange base.conn.opts.nMaxSendBuffer (.call c) side [] side' := by
  have hother (hbase : base'.writeSide = base.writeSide) : ∃ side', base'.writeSide = some side' ∧
      WriteChange base.conn.opts.nMaxSendBuffer (.call c) side [] side' :=
    ⟨_, hbase.trans hside, .other (by simp)⟩
  cases calls_of_call hcall with
  | disconnect => exact hother rfl
  | disconnectWhenFinished => exact hother rfl
  | write size hbev =>
    obtain rfl := Option.some.inj ((writeSide_of_bev hbev).symm.trans hside)
    exact ⟨_, rfl, .sent size⟩
  | pauseRecv hbev => exact hother (writeSide_of_bev hbev).symm
  | unpauseRecv hbev => exact hother (writeSide_of_bev hbev).symm
  | setRateLimit => exact hother rfl
  | resetPingTimeout seconds => exact hother rfl

end ConnectionBase

namespace ConnRun

variable {run next : ConnRun} {side : WriteSide}

/-- An open connection with a bufferevent has a write side. -/
theorem writeSide_eq_some (hside : run.writeSide = some side) :
    run.closed = false ∧ run.base.writeSide = some side := by
  unfold writeSide at hside
  split at hside
  · contradiction
  · next hopen => exact ⟨Bool.eq_false_iff.mpr hopen, hside⟩

/-- What a step does to the write side, unless it closes the connection. -/
theorem step_writes {s : ConnStep} (hside : run.writeSide = some side) (hstep : run.step s = some next) :
    ∃ effects, next.log = run.log ++ effects ∧
      ((next.closed = true ∧ ∀ effect ∈ effects, effect.Silent) ∨
        ∃ side', next.writeSide = some side' ∧
          WriteChange run.base.conn.opts.nMaxSendBuffer s side effects side') := by
  obtain ⟨hopen, hbase⟩ := writeSide_eq_some hside
  cases s with
  | call c =>
    simp only [step, call, hopen, Bool.false_eq_true, if_false] at hstep
    obtain ⟨base', hcall, rfl⟩ := Option.map_eq_some_iff.mp hstep
    obtain ⟨side', hside', hchange⟩ := ConnectionBase.call_writes hbase hcall
    exact ⟨[], by simp, Or.inr ⟨side', by simp [writeSide, hside'], hchange⟩⟩
  | event e =>
    simp only [step, event, hopen, Bool.not_false, Bool.true_and] at hstep
    split at hstep
    · next harmed =>
      obtain ⟨⟨base', effects⟩, hreact, rfl⟩ := Option.map_eq_some_iff.mp hstep
      refine ⟨effects, performAll_log _ _, ?_⟩
      rcases ConnectionBase.react_writes hbase harmed hreact with ⟨hcloses, hsilent⟩ | ⟨hstays, side',
        hside', hchange⟩
      · refine Or.inl ⟨?_, hsilent⟩
        simp [performAll_closed, hcloses]
      · refine Or.inr ⟨side', ?_, hchange⟩
        rw [writeSide, performAll_closed, hopen, performAll_base _ _ hstays]
        simpa [hstays] using hside'
    · obtain rfl := Option.some.inj hstep
      exact ⟨[], by simp, Or.inr ⟨side, hside, .other (by simp)⟩⟩

/-- Nothing happens to a connection that is closed. -/
theorem step_of_closed (hclosed : run.closed = true) (s : ConnStep) : run.step s = some run := by
  cases s with
  | call c => exact if_pos hclosed
  | event e => exact event_of_not_armed (Or.inl hclosed)

/-- The socket takes bytes. -/
theorem step_socketWrite {size : ℕ} (hside : run.writeSide = some side)
    (harmed : run.base.armed (.socketWrite size) = true) :
    ∃ next, run.step (.event (.socketWrite size)) = some next ∧ next.writeSide = some { side with
      output := side.output - size
      writePending :=
        side.writePending || (side.writecb.isSome && decide (side.output - size ≤ side.writeLow)) } := by
  obtain ⟨hopen, hbase⟩ := writeSide_eq_some hside
  obtain ⟨bev, hbev, rfl⟩ := Option.map_eq_some_iff.mp hbase
  have hreact : run.base.react (.socketWrite size) =
      some ({ run.base with bev := some (bev.drained size) }.wroteData size) := by
    simp only [ConnectionBase.react, hbev]
  refine ⟨_, event_of_armed hopen harmed hreact, ?_⟩
  have hstays : .disconnectInt ∉ ({ run.base with bev := some (bev.drained size) }.wroteData size).2 := by
    unfold ConnectionBase.wroteData
    split <;> simp
  rw [writeSide, performAll_closed, hopen, performAll_base _ _ hstays]
  simp only [hstays, decide_false, Bool.or_self, Bool.false_eq_true, if_false, ConnectionBase.writeSide]
  unfold ConnectionBase.wroteData
  split <;> rfl

/-- The notification of `write_cb` is dispatched. -/
theorem step_ready (hside : run.writeSide = some side) (hdue : side.writePending = true)
    (hwritecb : side.writecb = some .writeCb) :
    ∃ next, run.step (.event .writeCallback) = some next ∧
      next.log = run.log ++ [.onWriteBufferReady side.output] ∧
      next.writeSide = some { side with writecb := none, writePending := false } := by
  obtain ⟨hopen, hbase⟩ := writeSide_eq_some hside
  obtain ⟨bev, hbev, rfl⟩ := Option.map_eq_some_iff.mp hbase
  change bev.writePending = true at hdue
  change bev.writecb = some .writeCb at hwritecb
  have harmed : run.base.armed .writeCallback = true := by
    simp [ConnectionBase.armed, hbev, hdue, hwritecb]
  have hreact : run.base.react .writeCallback = some ({ run.base with
      bev := some ({ bev with writePending := false }.setcb run.base.readCbPtr none (some .eventCb)) },
      [.onWriteBufferReady bev.output]) := by
    simp only [ConnectionBase.react, hbev, ConnectionBase.runWritecb, hwritecb]
  refine ⟨_, event_of_armed hopen harmed hreact, performAll_log _ _, ?_⟩
  rw [writeSide, performAll_closed, hopen, performAll_base _ _ (by simp)]
  rfl

/-- The notification of `close_on_finished_writecb` is dispatched. -/
theorem step_closeOnFinished (hside : run.writeSide = some side) (hdue : side.writePending = true)
    (hwritecb : side.writecb = some .closeOnFinishedWritecb) :
    ∃ next, run.step (.event .writeCallback) = some next ∧ next.closed = true := by
  obtain ⟨hopen, hbase⟩ := writeSide_eq_some hside
  obtain ⟨bev, hbev, rfl⟩ := Option.map_eq_some_iff.mp hbase
  change bev.writePending = true at hdue
  change bev.writecb = some .closeOnFinishedWritecb at hwritecb
  have harmed : run.base.armed .writeCallback = true := by
    simp [ConnectionBase.armed, hbev, hdue, hwritecb]
  have hreact : run.base.react .writeCallback = some ({ run.base with
      bev := some { bev with writePending := false } }, [.disconnectInt]) := by
    simp only [ConnectionBase.react, hbev, ConnectionBase.runWritecb, hwritecb]
  refine ⟨_, event_of_armed hopen harmed hreact, ?_⟩
  rw [performAll_closed]
  simp

/-- The graceful close finds output left. -/
theorem step_closing (hside : run.writeSide = some side) (hdue : run.base.disconnectWaitFunc = true)
    (houtput : side.output ≠ 0) :
    ∃ next, run.step (.event .disconnectWaitFunc) = some next ∧
      next.writeSide = some { side with writecb := some .closeOnFinishedWritecb, writeLow := 0 } := by
  obtain ⟨hopen, hbase⟩ := writeSide_eq_some hside
  obtain ⟨bev, hbev, rfl⟩ := Option.map_eq_some_iff.mp hbase
  have harmed : run.base.armed .disconnectWaitFunc = true := by simp [ConnectionBase.armed, hdue]
  have hreact : run.base.react .disconnectWaitFunc = some ({ run.base with
      disconnectWaitFunc := false
      bev := some (((bev.setReading false).setWriteWatermark 0).setcb none (some .closeOnFinishedWritecb)
        (some .eventCb)) }, []) := by
    simp [ConnectionBase.react, ConnectionBase.disconnectWhenFinishedInt, hbev, show bev.output ≠ 0 from houtput]
  refine ⟨_, event_of_armed hopen harmed hreact, ?_⟩
  rw [writeSide, performAll_closed, hopen, performAll_base _ _ (by simp)]
  rfl

/-- The check finds room. -/
theorem step_room (hside : run.writeSide = some side) (hdue : side.checkPending = true)
    (hroom : sizeToInt side.output < run.base.conn.opts.nMaxSendBuffer) :
    ∃ next, run.step (.event .checkWriteBufferFunc) = some next ∧ next.log = run.log ∧
      next.writeSide = some { side with checkPending := false } := by
  obtain ⟨hopen, hbase⟩ := writeSide_eq_some hside
  obtain ⟨bev, hbev, rfl⟩ := Option.map_eq_some_iff.mp hbase
  change run.base.checkWriteBufferFunc = true at hdue
  have harmed : run.base.armed .checkWriteBufferFunc = true := by simp [ConnectionBase.armed, hdue]
  have hreact : run.base.react .checkWriteBufferFunc =
    some ({ run.base with checkWriteBufferFunc := false }, []) := by
    simp [ConnectionBase.react, ConnectionBase.checkWriteBufferInt, hbev, Int.not_le.mpr hroom]
  refine ⟨_, event_of_armed hopen harmed hreact, by simp, ?_⟩
  rw [writeSide, performAll_closed, hopen, performAll_base _ _ (by simp)]
  exact congrArg (Option.map fun bev : BufferEvent =>
    WriteSide.mk bev.output bev.writecb bev.writeLow bev.writePending false) hbev

/-- A write of the user. -/
theorem step_write (hside : run.writeSide = some side) (size : ℕ) :
    ∃ next, run.step (.call (.write size)) = some next ∧
      next.writeSide = some { side with output := side.output + size, checkPending := true } := by
  obtain ⟨hopen, hbase⟩ := writeSide_eq_some hside
  obtain ⟨bev, hbev, rfl⟩ := Option.map_eq_some_iff.mp hbase
  refine ⟨_, call_of_open hopen (by simp [ConnectionBase.call, ConnectionBase.write, hbev]; rfl), ?_⟩
  rw [writeSide]
  simp only [hopen, Bool.false_eq_true, if_false]
  rfl

/-- A connection begins without a write callback, under the watermark that it is configured with. -/
theorem established_writeSide {names : NameInfo} (base : ConnectionBase) {bev : BufferEvent}
    (hbev : EstablishedOn names bev) : (established base bev).writeSide =
      some ⟨bev.output, none, sizeT base.conn.opts.nMaxSendBuffer, false, base.checkWriteBufferFunc⟩ := by
  have hpending := hbev.unnotified.2
  simp only [writeSide, established, ConnectionBase.enable, ConnectionBase.writeSide,
    ConnectionBase.initConnection, Bool.false_eq_true, if_false, Option.map_some]
  exact congrArg (fun due => some (WriteSide.mk bev.output none _ due base.checkWriteBufferFunc)) hpending

end ConnRun

/-- A connection to a peer on the local host whose write buffer is full from ten bytes on. -/
def tenByteConnection : CConnection :=
  { localPeer false with opts := { (localPeer false).opts with nMaxSendBuffer := 10 } }

/-- That connection, established. -/
def tenByteRun : ConnRun := .established (.new tenByteConnection 0 0 0) .socketNew

end LibBtcNet
