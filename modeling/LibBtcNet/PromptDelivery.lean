import LibBtcNet.HeardStreams

/-!
# Nothing that has arrived is withheld

The read callback is not run for every byte: libevent brings it when the input is as long as the low
watermark, which the callback has set to what it wants next. So on a connection that nobody has asked to
close when it is finished, whose read callback is not due, everything that can be cut off has been
delivered.
-/

namespace LibBtcNet

open CConnectionHandlerInt StreamFraming

/-- A read callback that leaves as its low watermark what the undecided rest wants. -/
structure ReadsPromptly (config : CNetworkConfig) (readcb : ReadCb) (F : Framer UInt8) (wants : Bytes → ℕ) : Prop
    extends ReadsBy config readcb F where
  watermark {base : ConnectionBase} {bev bev' : BufferEvent} {effects : List ConnEffect}
    (hconfig : base.conn.netConfig = config) (hreadcb : bev.readcb = some readcb)
    (hlow : ∃ before, bev.readLow = wants before) (hgood : (F.split bev.input.flatten).bad = false)
    (hreads : base.runReadcb bev = some ({ base with bev := some bev' }, effects)) :
    bev'.readLow = wants (F.split bev.input.flatten).rest ∧ bev'.readPending = bev.readPending
  begins {base : ConnectionBase} {bev bev' : BufferEvent} (hconfig : base.conn.netConfig = config)
    (hestablished : (ConnRun.established base bev).base.bev = some bev') :
    bev'.readLow = wants [] ∧ bev'.readPending = bev.readPending
  wants_more {rest : Bytes} (hmore : F.verdict rest = .more) : rest.length < wants rest
  undecided {rest later : Bytes} (hmore : F.verdict rest = .more) (hlt : (rest ++ later).length < wants rest) :
    F.verdict (rest ++ later) = .more

/-- In message mode an undecided rest wants its header, or the whole message. -/
theorem messageMode_readsPromptly {config : CNetworkConfig} (h : MessageMode config) :
    ReadsPromptly config .readCbMessage (messageFramer config h) (wantedLength config) where
  toReadsBy := messageMode_readsBy h
  watermark {base bev bev' effects} hconfig hreadcb hlow hgood hreads := by
    obtain ⟨r, hr, hmatch⟩ := h.readLoop_matches bev.input _ (Nat.lt_succ_self _) [] 0
    simp only [ConnectionBase.runReadcb, hreadcb, hconfig, readCbMessage, hr, Option.map_some, Option.some.injEq,
      Prod.mk.injEq, ConnectionBase.mk.injEq] at hreads
    obtain rfl := hreads.1.2.2.2.2.1
    refine ⟨(h.afterReadLoop_watermarks bev hmatch hgood).1, ?_⟩
    rw [afterReadLoop_eq]
  begins {base bev bev'} hconfig hestablished := by
    rw [ConnRun.established_base base bev (hconfig ▸ h.chunk) (hconfig ▸ h.header)] at hestablished
    obtain rfl := Option.some.inj hestablished
    refine ⟨?_, rfl⟩
    dsimp only
    have hneeded := h.sizeNeeded_eq
    have hoffset := h.offset
    rw [hconfig, h.sizeT_sizeNeeded, wantedLength, if_pos (by simp; omega)]
  wants_more hmore := length_lt_wantedLength hmore
  undecided hmore hlt := messageVerdict_of_lt_wantedLength h hmore hlt

/-- In chunk mode it wants a chunk. -/
theorem chunkMode_readsPromptly {config : CNetworkConfig} (hchunk : 0 < config.chunkSize.toInt.toNat) :
    ReadsPromptly config .readCbChunk (chunkFramer config.chunkSize.toInt.toNat hchunk)
      fun _ => config.chunkSize.toInt.toNat where
  toReadsBy := chunkMode_readsBy hchunk
  watermark {base bev bev' effects} hconfig hreadcb hlow hgood hreads := by
    obtain ⟨_, hlow⟩ := hlow
    have hsome : ¬config.chunkSize.toInt ≤ 0 := by omega
    simp only [ConnectionBase.runReadcb, hreadcb, hconfig, readCbChunk, hsome, if_false, Option.map_some,
      Option.some.injEq, Prod.mk.injEq, ConnectionBase.mk.injEq] at hreads
    obtain rfl := hreads.1.2.2.2.2.1
    exact ⟨hlow, rfl⟩
  begins {base bev bev'} hconfig hestablished := by
    have hmode : 0 < base.conn.netConfig.chunkSize.toInt := by
      rw [hconfig]
      omega
    simp only [ConnRun.established, ConnectionBase.initConnection, ConnectionBase.enable, hmode, if_true,
      Option.map_some, Option.some.injEq] at hestablished
    obtain rfl := hestablished
    refine ⟨?_, rfl⟩
    have hbound := config.chunkSize.toInt_lt
    change sizeT base.conn.netConfig.chunkSize.toInt = _
    rw [hconfig, sizeT_of_nonneg (by omega) (by omega)]
  wants_more {rest} hmore := by
    by_contra hlong
    have hframe : (chunkFramer config.chunkSize.toInt.toNat hchunk).verdict rest =
      .frame config.chunkSize.toInt.toNat :=
      if_pos (Nat.le_of_not_lt hlong)
    rw [hmore] at hframe
    contradiction
  undecided hmore hlt := if_neg (Nat.not_le.mpr hlt)

/-- The input side of an open connection that nobody has asked to close when it is finished: the read callback is
installed and waits for what the undecided rest wants, and it is due when that has arrived. -/
structure Prompt (readcb : ReadCb) (F : Framer UInt8) (wants : Bytes → ℕ) (base : ConnectionBase) : Prop where
  ptr : base.readCbPtr = some readcb
  waits : ∃ bev rest later, base.bev = some bev ∧ bev.readcb = some readcb ∧ bev.input.flatten = rest ++ later ∧
    F.verdict rest = .more ∧ bev.readLow = wants rest ∧
      (bev.readPending = false → bev.input.flatten.length < bev.readLow)

section Steps

variable {config : CNetworkConfig} {readcb : ReadCb} {F : Framer UInt8} {wants : Bytes → ℕ}
  {base base' : ConnectionBase} {run next : ConnRun}

/-- What is held while the callback is not due cannot be cut. -/
theorem Prompt.verdict (reads : ReadsPromptly config readcb F wants) (prompt : Prompt readcb F wants base)
    (hdue : base.armed .readCallback = false) {held : Bytes} (holding : Holding readcb held base) :
    F.verdict held = .more := by
  obtain ⟨hptr, bev, rest, later, hbev, hreadcb, hinput, hmore, hlow, hpending⟩ := prompt
  obtain ⟨-, bev', hbev', -, rfl⟩ := holding
  obtain rfl := Option.some.inj (hbev.symm.trans hbev')
  simp only [ConnectionBase.armed, hbev, hreadcb, Option.isSome_some, Bool.and_true] at hdue
  have hlt := hpending hdue
  rw [hlow, hinput] at hlt
  rw [hinput]
  exact reads.undecided hmore hlt

/-- A call of the user leaves the input side as it is. -/
theorem Prompt.call (prompt : Prompt readcb F wants base) {c : ConnCall} (hcall : base.call c = some base') :
    Prompt readcb F wants base' := by
  obtain ⟨hptr, bev, rest, later, hbev, hwaits⟩ := prompt
  cases ConnectionBase.calls_of_call hcall with
  | disconnect => exact ⟨hptr, bev, rest, later, hbev, hwaits⟩
  | disconnectWhenFinished => exact ⟨hptr, bev, rest, later, hbev, hwaits⟩
  | write size hother =>
    obtain rfl := Option.some.inj (hother.symm.trans hbev)
    exact ⟨hptr, _, rest, later, rfl, hwaits⟩
  | pauseRecv hother =>
    obtain rfl := Option.some.inj (hother.symm.trans hbev)
    exact ⟨hptr, _, rest, later, rfl, hwaits⟩
  | unpauseRecv hother =>
    obtain rfl := Option.some.inj (hother.symm.trans hbev)
    exact ⟨hptr, _, rest, later, rfl, hwaits⟩
  | setRateLimit => exact ⟨hptr, bev, rest, later, hbev, hwaits⟩
  | resetPingTimeout seconds => exact ⟨hptr, bev, rest, later, hbev, hwaits⟩

/-- The read callback cuts off what it can and waits for what is behind it. -/
theorem Prompt.readCallback (reads : ReadsPromptly config readcb F wants) (hconfig : base.conn.netConfig = config)
    (prompt : Prompt readcb F wants base) {effects : List ConnEffect}
    (hreact : base.react .readCallback = some (base', effects)) (hgoes : .disconnectInt ∉ effects) :
    Prompt readcb F wants base' := by
  obtain ⟨hptr, bev, rest, later, hbev, hreadcb, hinput, hmore, hlow, hpending⟩ := prompt
  simp only [ConnectionBase.react, hbev] at hreact
  obtain ⟨bev', expand, hresult, hexpand, hreadcb', hrest⟩ :=
    reads.reads base { bev with readPending := false } hconfig hreadcb
  obtain ⟨rfl, rfl⟩ := Prod.mk.inj (Option.some.inj (hreact.symm.trans hresult))
  have hgood : (F.split bev.input.flatten).bad = false := by
    by_contra hbad
    refine hgoes (List.mem_append_right _ (List.mem_append_right _ ?_))
    rw [if_pos (by simpa using hbad)]
    simp
  obtain ⟨hlow', hpending'⟩ := @ReadsPromptly.watermark config readcb F wants reads base
    { bev with readPending := false }
    bev' _ hconfig hreadcb ⟨rest, hlow⟩ hgood hresult
  have hundecided := F.verdict_rest bev.input.flatten hgood
  refine ⟨hptr, bev', (F.split bev.input.flatten).rest, [], rfl, hreadcb', ?_, hundecided, hlow', fun _ => ?_⟩
  · rw [List.append_nil]
    exact hrest hgood
  · rw [hrest hgood, hlow']
    exact reads.wants_more hundecided

/-- An event after which the connection goes on, other than the request to close it when it is finished. -/
theorem Prompt.react (reads : ReadsPromptly config readcb F wants) (hconfig : base.conn.netConfig = config)
    (prompt : Prompt readcb F wants base) {e : ConnEvent} {effects : List ConnEffect}
    (hwait : e ≠ .disconnectWaitFunc)
    (hreact : base.react e = some (base', effects)) (hgoes : .disconnectInt ∉ effects) :
      Prompt readcb F wants base' := by
  by_cases hread : e = .readCallback
  · subst hread
    exact prompt.readCallback reads hconfig hreact hgoes
  obtain ⟨hptr, bev, rest, later, hbev, hreadcb, hwaits⟩ := id prompt
  have hsame {other : BufferEvent} (hother : base.bev = some other) : other = bev :=
    Option.some.inj (hother.symm.trans hbev)
  cases ConnectionBase.reacts_of_react hreact with
  | disconnect | finished | flushed | lost => simp at hgoes
  | closing => exact absurd rfl hwait
  | full hother =>
    obtain rfl := hsame hother
    exact ⟨hptr, _, rest, later, rfl, hptr, hwaits⟩
  | room => exact ⟨hptr, bev, rest, later, hbev, hreadcb, hwaits⟩
  | pingTimeout => exact ⟨hptr, bev, rest, later, hbev, hreadcb, hwaits⟩
  | firstData hother =>
    obtain rfl := hsame hother
    exact ⟨hptr, _, rest, later, rfl, hreadcb, hwaits⟩
  | @arrived _ chunks hother | @arrivedNothing _ chunks hother =>
    obtain rfl := hsame hother
    obtain ⟨hinput, hmore, hlow, hpending⟩ := hwaits
    refine ⟨hptr, _, rest, later ++ chunks.flatten, rfl, hreadcb, ?_, hmore, hlow, fun hdue => ?_⟩
    · rw [BufferEvent.arrive, EvBuffer.flatten_add, hinput, List.append_assoc]
    · exact BufferEvent.lt_of_arrive_not_pending _ hreadcb hdue
  | drained hother | drainedNothing hother =>
    obtain rfl := hsame hother
    exact ⟨hptr, _, rest, later, rfl, hreadcb, hwaits⟩
  | @raised other what hother =>
    obtain rfl := hsame hother
    refine ⟨hptr, _, rest, later, rfl, ?_⟩
    unfold BufferEvent.raise
    split <;> exact ⟨hreadcb, hwaits⟩
  | readMessage | readChunk | unread => exact absurd rfl hread
  | ready hother =>
    obtain rfl := hsame hother
    exact ⟨hptr, _, rest, later, rfl, hptr, hwaits⟩
  | unwritten hother | notLost hother =>
    obtain rfl := hsame hother
    exact ⟨hptr, _, rest, later, rfl, hreadcb, hwaits⟩

/-- Any number of steps, while the connection stays open. -/
theorem Prompt.foldlM_take (reads : ReadsPromptly config readcb F wants) (hconfig : run.base.conn.netConfig = config)
    (prompt : run.closed = false → Prompt readcb F wants run.base) {steps : List ConnStep}
    (htakes : steps.foldlM ConnRun.take run = some next)
    (hwait : .disconnectWaitFunc ∉ steps.filterMap ConnStep.event?) (hopen : next.closed = false) :
    Prompt readcb F wants next.base := by
  induction steps generalizing run with
  | nil =>
    obtain rfl := Option.some.inj htakes
    exact prompt hopen
  | cons s steps ih =>
    rw [List.foldlM_cons] at htakes
    obtain ⟨between, htake, hrest⟩ := Option.bind_eq_some_iff.mp htakes
    have hsame : between.base.conn.netConfig = config := by
      rw [ConnRun.step_conn (ConnRun.step_of_take htake)]
      exact hconfig
    rw [← List.singleton_append, List.filterMap_append, List.mem_append, not_or] at hwait
    refine ih hsame (fun hbetween => ?_) hrest hwait.2
    cases s with
    | call c =>
      change run.call c = some between at htake
      unfold ConnRun.call at htake
      split at htake
      · next hclosed =>
        obtain rfl := Option.some.inj htake
        exact absurd (hclosed.symm.trans hbetween) (by simp)
      · next hclosed =>
        obtain ⟨base, hcall, rfl⟩ := Option.map_eq_some_iff.mp htake
        exact (prompt hbetween).call hcall
    | event e =>
      obtain ⟨hclosed, harmed⟩ := ConnRun.armed_of_take htake
      simp only [ConnRun.take, ConnRun.event, hclosed, harmed, Bool.not_false, Bool.and_self, if_true] at htake
      obtain ⟨⟨base, effects⟩, hreact, rfl⟩ := Option.map_eq_some_iff.mp htake
      rw [ConnRun.performAll_closed, hclosed, Bool.false_or, decide_eq_false_iff_not] at hbetween
      rw [ConnRun.performAll_base _ _ hbetween]
      exact (prompt hclosed).react reads hconfig (fun heq => hwait.1 (heq ▸ List.mem_singleton_self _))
        hreact hbetween

/-- A connection established on a bufferevent that has not been used. -/
theorem prompt_of_established (reads : ReadsPromptly config readcb F wants) {bev : BufferEvent} (hunused : bev.Unused)
    (hconfig : base.conn.netConfig = config) : Prompt readcb F wants (ConnRun.established base bev).base := by
  obtain ⟨bev', hbev, hinput, hreadcb, hptr⟩ := reads.established base bev hconfig
  obtain ⟨hlow, -⟩ := reads.begins hconfig hbev
  refine ⟨hptr, bev', [], [], hbev, hreadcb, ?_, reads.waits, hlow, fun _ => ?_⟩
  · rw [hinput, hunused.input]
    rfl
  · rw [hinput, hunused.input, hlow]
    exact reads.wants_more reads.waits

end Steps

/-- Each rule is that of a read callback that waits for what it wants. -/
theorem Framing.readsPromptly {config : CNetworkConfig} {F : Framer UInt8} (framing : Framing config F) :
    ∃ readcb wants, ReadsPromptly config readcb F wants := by
  cases framing with
  | chunks hchunk => exact ⟨_, _, chunkMode_readsPromptly hchunk⟩
  | messages h => exact ⟨_, _, messageMode_readsPromptly h⟩

/-- A session that goes on, whose read callback is not due, has delivered what can be cut off. -/
theorem Session.delivers_all {S : Bool → CConnection → BufferEvent → Prop} {k : ConnID} {outgoing : Bool}
    {conn : CConnection} {events : List ConnEvent} {heard : List (Callback × Bool)} {base : ConnectionBase}
    (session : Session S k outgoing conn events heard (some base))
    (hunused : ∀ bev, S outgoing conn bev → bev.Unused) {F : Framer UInt8} (framing : Framing conn.netConfig F)
    (hwait : .disconnectWaitFunc ∉ events) (hdue : base.armed .readCallback = false) :
    messagesHeard heard = (F.split (arrivals events)).frames ∧ (F.split (arrivals events)).bad = false := by
  obtain @⟨start, bev, steps, run, announced, reports, ended, rfl, hbev, hrun, rfl, hannounced, hreports, hended, rfl,
    hbase⟩ := session
  obtain ⟨hopen, rfl⟩ := hbase _ rfl
  obtain ⟨readcb, wants, reads⟩ := framing.readsPromptly
  have prompt := Prompt.foldlM_take reads rfl (fun _ => prompt_of_established reads (hunused bev hbev) rfl)
    hrun hwait hopen
  obtain @⟨seen, later, hstream, hreceived, -, -, hholds⟩ := cuts_of_established reads.toReadsBy rfl hrun
  obtain ⟨hgood, holding⟩ := hholds hopen
  have hnone := F.split_of_more (prompt.verdict reads hdue holding)
  have hsplit := F.split_append_of_good later hgood
  rw [(hunused bev hbev).input, List.flatten_nil, List.nil_append] at hstream
  rw [messagesHeard_session hannounced hreports hended, hreceived, hstream, hsplit, hnone]
  exact ⟨(List.append_nil _).symm, rfl⟩

/-- In every run, on a connection without a proxy that nobody has asked to close when it is finished, the user has been
given every message that has arrived, unless the read callback is due. -/
theorem run_delivers_all (inputs : List HandlerInput) (hfew : FewIds (run inputs).trace)
    (hgood : .connection ∉ (run inputs).failed) {k : ConnID} {outgoing : Bool} {conn resolved : CConnection}
    (hmem : (announcement outgoing k conn resolved, true) ∈ mentions k (run inputs).trace)
    (hdirect : outgoing = true → conn.proxy.isSet = false) {F : Framer UInt8} (framing : Framing conn.netConfig F)
    {obj : ConnectionObject} (hobj : (run inputs).connected[k]? = some obj)
    (hwait : .disconnectWaitFunc ∉ deliveries k new inputs) (hdue : obj.base.armed .readCallback = false) :
    messagesHeard (mentions k (run inputs).trace) = (F.split (arrivals (deliveries k new inputs))).frames ∧
      (F.split (arrivals (deliveries k new inputs))).bad = false := by
  have session := (run_histories inputs hfew hgood k).session hmem
  rw [hobj] at session
  refine session.delivers_all (fun bev hbev => ?_) framing hwait hdue
  unfold Taken at hbev
  cases outgoing <;> simp_all

/-- The run in which a message and the start of another have been read. -/
theorem run_delivers_all_message : ∃ obj, (run messageRead).connected[(0 : ConnID)]? = some obj ∧
    messagesHeard (mentions 0 (run messageRead).trace) =
        ((messageFramer mainnetConfig mainnetConfig_messageMode).split
          (arrivals (deliveries 0 new messageRead))).frames ∧
      ((messageFramer mainnetConfig mainnetConfig_messageMode).split (arrivals (deliveries 0 new messageRead))).bad =
        false := by
  have hsome : (run messageRead).connected[(0 : ConnID)]?.isSome = true := by decide +kernel
  have hdue : (run messageRead).connected[(0 : ConnID)]?.any (fun obj => obj.base.armed .readCallback) = false := by
    decide +kernel
  obtain ⟨obj, hobj⟩ := Option.isSome_iff_exists.mp hsome
  rw [hobj, Option.any_some] at hdue
  exact ⟨obj, hobj, @run_delivers_all messageRead (by decide +kernel) (by decide +kernel) 0 true (localPeer true)
    (localPeer true) (by decide +kernel) (fun _ => rfl) _ (.messages mainnetConfig_messageMode) obj hobj
    (by decide +kernel) hdue⟩

end LibBtcNet
