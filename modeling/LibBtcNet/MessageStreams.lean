import LibBtcNet.ConnectionHistories
import LibBtcNet.MessageFraming

/-!
# The messages of a connection, whatever happens to it

A connection in chunk mode cuts its stream into chunks, one in message mode into messages; either is a
framing rule. Between two runs of the read callback bytes arrive, reading is paused, callbacks are
replaced and dispatched late. The messages delivered are the first frames of the stream at any time,
and they are all of its frames once it has been found malformed.
-/

namespace LibBtcNet

open StreamFraming

/-- The rule of chunk mode: every frame is a chunk. -/
def chunkFramer (chunkSize : ℕ) (hpos : 0 < chunkSize) : Framer UInt8 where
  verdict stream := if chunkSize ≤ stream.length then .frame chunkSize else .more
  frame_bounds stream size hv := by
    split at hv
    · next hle =>
      obtain rfl := Verdict.frame.inj hv
      exact ⟨hpos, hle⟩
    · contradiction
  frame_stable stream later size hv := by
    split at hv
    · next hle => rw [if_pos (by rw [List.length_append]; omega), hv]
    · contradiction
  bad_stable stream later hv := by
    split at hv <;> contradiction

namespace chunkFramer

variable {chunkSize : ℕ} (hpos : 0 < chunkSize)

/-- Every chunk has the size of a chunk, and no stream is rejected. -/
theorem split_sound (stream : Bytes) :
    (∀ frame ∈ ((chunkFramer chunkSize hpos).split stream).frames, frame.length = chunkSize) ∧
      ((chunkFramer chunkSize hpos).split stream).bad = false := by
  induction stream using (chunkFramer chunkSize hpos).splitInduction with
  | more stream hv => simp [(chunkFramer chunkSize hpos).split_of_more hv]
  | bad stream hv =>
    change (if chunkSize ≤ stream.length then Verdict.frame chunkSize else .more) = .bad at hv
    split at hv <;> contradiction
  | frame stream size hv ih =>
    change (if chunkSize ≤ stream.length then Verdict.frame chunkSize else .more) = .frame size at hv
    split at hv
    · next hle =>
      obtain rfl := Verdict.frame.inj hv
      rw [(chunkFramer chunkSize hpos).split_of_frame (if_pos hle)]
      refine ⟨fun frame hframe => ?_, ih.2⟩
      rcases List.mem_cons.mp hframe with rfl | hlater
      · rw [List.length_take, Nat.min_eq_left hle]
      · exact ih.1 frame hlater
    · contradiction

/-- The loop cuts off exactly the chunks of the split. -/
theorem chunkLoop_split (fuel : ℕ) (input : EvBuffer) (hfuel : input.getLength ≤ fuel) (msgs : List Bytes) :
    (chunkLoop chunkSize fuel input msgs).2 = msgs ++ ((chunkFramer chunkSize hpos).split input.flatten).frames ∧
      (chunkLoop chunkSize fuel input msgs).1.flatten = ((chunkFramer chunkSize hpos).split input.flatten).rest := by
  induction fuel generalizing input msgs with
  | zero =>
    have hshort : ¬chunkSize ≤ input.flatten.length := by
      rw [EvBuffer.getLength] at hfuel
      omega
    rw [(chunkFramer chunkSize hpos).split_of_more (if_neg hshort)]
    exact ⟨(List.append_nil msgs).symm, rfl⟩
  | succ fuel ih =>
    rw [chunkLoop]
    split
    · next hle =>
      have hshorter : (input.drain chunkSize).getLength ≤ fuel := by
        rw [EvBuffer.getLength_drain]
        omega
      obtain ⟨hmsgs, hrest⟩ := ih (input.drain chunkSize) hshorter (msgs ++ [input.copyout chunkSize])
      rw [EvBuffer.flatten_drain] at hmsgs hrest
      rw [(chunkFramer chunkSize hpos).split_of_frame (if_pos hle)]
      refine ⟨?_, hrest⟩
      rw [hmsgs, EvBuffer.copyout, List.append_assoc]
      rfl
    · next hshort =>
      rw [(chunkFramer chunkSize hpos).split_of_more (if_neg hshort)]
      exact ⟨(List.append_nil msgs).symm, rfl⟩

end chunkFramer

/-- The read callback of a mode cuts the buffered bytes by a framing rule, and reports what it cuts off. -/
structure ReadsBy (config : CNetworkConfig) (readcb : ReadCb) (F : Framer UInt8) : Prop where
  reads (base : ConnectionBase) (bev : BufferEvent) (hconfig : base.conn.netConfig = config)
    (hreadcb : bev.readcb = some readcb) :
    ∃ bev' expand, base.runReadcb bev =
        some ({ base with bev := some bev' }, expand ++ splitReports (F.split bev.input.flatten)) ∧
      (∀ effect ∈ expand, ∃ size, effect = .evbufferExpand size) ∧ bev'.readcb = some readcb ∧
      ((F.split bev.input.flatten).bad = false → bev'.input.flatten = (F.split bev.input.flatten).rest)
  established (base : ConnectionBase) (bev : BufferEvent) (hconfig : base.conn.netConfig = config) :
    ∃ bev', (ConnRun.established base bev).base.bev = some bev' ∧ bev'.input = bev.input ∧
      bev'.readcb = some readcb ∧ (ConnRun.established base bev).base.readCbPtr = some readcb
  waits : F.verdict [] = .more

/-- Message mode. -/
theorem messageMode_readsBy {config : CNetworkConfig} (h : MessageMode config) :
    ReadsBy config .readCbMessage (messageFramer config h) := by
  constructor
  · intro base bev hconfig hreadcb
    obtain ⟨r, hr, hmatch⟩ := h.readLoop_matches bev.input _ (Nat.lt_succ_self _) [] 0
    refine ⟨afterReadLoop config r bev, expandRequest config r, ?_, fun _ => mem_expandRequest, ?_, fun hgood => ?_⟩
    · rw [← h.readLoopReports_eq bev.input.flatten hmatch]
      simp only [ConnectionBase.runReadcb, hreadcb, hconfig, readCbMessage, hr, Option.map_some]
    · rw [afterReadLoop_eq]
      exact hreadcb
    · rw [afterReadLoop_eq]
      exact hmatch.input hgood
  · intro base bev hconfig
    rw [ConnRun.established_base base bev (hconfig ▸ h.chunk) (hconfig ▸ h.header)]
    exact ⟨_, rfl, rfl, rfl, rfl⟩
  · have hneeded := h.sizeNeeded_eq
    have hoffset := h.offset
    exact if_pos (by simp; omega)

/-- Chunk mode. -/
theorem chunkMode_readsBy {config : CNetworkConfig} (hchunk : 0 < config.chunkSize.toInt.toNat) :
    ReadsBy config .readCbChunk (chunkFramer config.chunkSize.toInt.toNat hchunk) := by
  constructor
  · intro base bev hconfig hreadcb
    obtain ⟨hmsgs, hrest⟩ := chunkFramer.chunkLoop_split hchunk bev.input.getLength bev.input (Nat.le_refl _) []
    obtain ⟨hlength, hgood⟩ := chunkFramer.split_sound hchunk bev.input.flatten
    generalize hloop : chunkLoop config.chunkSize.toInt.toNat bev.input.getLength bev.input [] = loop at hmsgs hrest
    rw [List.nil_append] at hmsgs
    have htotal : loop.2.flatten.length = loop.2.length * config.chunkSize.toInt.toNat := by
      rw [List.length_flatten, List.eq_replicate_of_mem (l := loop.2.map List.length)
        (a := config.chunkSize.toInt.toNat)
        (fun length hmem => ?_)]
      · simp
      · obtain ⟨frame, hframe, rfl⟩ := List.mem_map.mp hmem
        exact hlength frame (hmsgs ▸ hframe)
    refine ⟨{ bev with input := loop.1 }, [.evbufferExpand config.chunkSize.toInt.toNat], ?_, by simp, hreadcb,
      fun _ => hrest⟩
    have hsome : ¬config.chunkSize.toInt ≤ 0 := by omega
    simp only [ConnectionBase.runReadcb, hreadcb, hconfig, readCbChunk, hsome, if_false, hloop, Option.map_some,
      splitReports, hgood, Bool.false_eq_true, ← hmsgs, htotal, List.append_nil]
    by_cases hnil : loop.2 = [] <;> simp [hnil]
  · intro base bev hconfig
    have hmode : 0 < base.conn.netConfig.chunkSize.toInt := by
      rw [hconfig]
      omega
    simp only [ConnRun.established, ConnectionBase.initConnection, ConnectionBase.enable, hmode, if_true]
    exact ⟨_, rfl, rfl, rfl, trivial⟩
  · exact if_neg (Nat.not_le.mpr hchunk)

/-- The input side of an open connection: it holds these bytes, and its read callback is installed or has been
taken out. -/
structure Holding (readcb : ReadCb) (held : Bytes) (base : ConnectionBase) : Prop where
  ptr : base.readCbPtr = some readcb
  input : ∃ bev, base.bev = some bev ∧ (bev.readcb = none ∨ bev.readcb = some readcb) ∧ bev.input.flatten = held

/-- The bytes that an event brings. -/
def ConnEvent.arrived : ConnEvent → Bytes
  | .socketRead chunks => chunks.flatten
  | _ => []

/-- The bytes that events bring one after the other. -/
def arrivals (events : List ConnEvent) : Bytes := events.flatMap ConnEvent.arrived

/-- Effects that deliver nothing and reject nothing. -/
def Quiet (effects : List ConnEffect) : Prop :=
  ∀ effect ∈ effects, (∀ msgs totalsize, effect ≠ .onReceiveMessages msgs totalsize) ∧ effect ≠ .onMalformedMessage

section Steps

variable {config : CNetworkConfig} {readcb : ReadCb} {F : Framer UInt8} {held stream : Bytes}
  {base base' : ConnectionBase} {run next : ConnRun}

/-- Quiet effects add no message. -/
theorem Quiet.receivedMessages {effects : List ConnEffect} (quiet : Quiet effects) :
    receivedMessages effects = [] := by
  rw [LibBtcNet.receivedMessages, List.flatMap_eq_nil_iff]
  intro effect hmem
  cases effect with
  | onReceiveMessages msgs totalsize => exact absurd rfl ((quiet _ hmem).1 msgs totalsize)
  | _ => rfl

/-- A call of the user leaves the input as it is. -/
theorem Holding.call (holding : Holding readcb held base) {c : ConnCall} (hcall : base.call c = some base') :
    Holding readcb held base' := by
  obtain ⟨hptr, bev, hbev, hreadcb, hinput⟩ := holding
  cases ConnectionBase.calls_of_call hcall with
  | disconnect => exact ⟨hptr, bev, hbev, hreadcb, hinput⟩
  | disconnectWhenFinished => exact ⟨hptr, bev, hbev, hreadcb, hinput⟩
  | write size hother =>
    obtain rfl := Option.some.inj (hother.symm.trans hbev)
    exact ⟨hptr, _, rfl, hreadcb, hinput⟩
  | pauseRecv hother =>
    obtain rfl := Option.some.inj (hother.symm.trans hbev)
    exact ⟨hptr, _, rfl, hreadcb, hinput⟩
  | unpauseRecv hother =>
    obtain rfl := Option.some.inj (hother.symm.trans hbev)
    exact ⟨hptr, _, rfl, hreadcb, hinput⟩
  | setRateLimit => exact ⟨hptr, bev, hbev, hreadcb, hinput⟩
  | resetPingTimeout seconds => exact ⟨hptr, bev, hbev, hreadcb, hinput⟩

/-- An event other than the read callback appends what it brings, and is quiet. -/
theorem Holding.react_of_ne (holding : Holding readcb held base) {e : ConnEvent} {effects : List ConnEffect}
    (hne : e ≠ .readCallback) (hreact : base.react e = some (base', effects)) :
    Holding readcb (held ++ e.arrived) base' ∧ Quiet effects := by
  obtain ⟨hptr, bev, hbev, hreadcb, hinput⟩ := holding
  have hsame {other : BufferEvent} (hother : base.bev = some other) : other = bev :=
    Option.some.inj (hother.symm.trans hbev)
  rw [← hinput]
  cases ConnectionBase.reacts_of_react hreact with
  | disconnect => exact ⟨⟨hptr, bev, hbev, hreadcb, (List.append_nil _).symm⟩, by simp [Quiet]⟩
  | closing hother =>
    obtain rfl := hsame hother
    exact ⟨⟨hptr, _, rfl, Or.inl rfl, (List.append_nil _).symm⟩, by simp [Quiet]⟩
  | finished hother =>
    obtain rfl := hsame hother
    exact ⟨⟨hptr, _, rfl, Or.inl rfl, (List.append_nil _).symm⟩, by simp [Quiet]⟩
  | full hother =>
    obtain rfl := hsame hother
    exact ⟨⟨hptr, _, rfl, Or.inr hptr, (List.append_nil _).symm⟩, by simp [Quiet]⟩
  | room => exact ⟨⟨hptr, bev, hbev, hreadcb, (List.append_nil _).symm⟩, by simp [Quiet]⟩
  | pingTimeout => exact ⟨⟨hptr, bev, hbev, hreadcb, (List.append_nil _).symm⟩, by simp [Quiet]⟩
  | firstData hother =>
    obtain rfl := hsame hother
    exact ⟨⟨hptr, _, rfl, hreadcb, (List.append_nil _).symm⟩, by simp [Quiet]⟩
  | arrived hother | arrivedNothing hother =>
    obtain rfl := hsame hother
    exact ⟨⟨hptr, _, rfl, hreadcb, EvBuffer.flatten_add _ _⟩, by simp [Quiet]⟩
  | drained hother | drainedNothing hother =>
    obtain rfl := hsame hother
    exact ⟨⟨hptr, _, rfl, hreadcb, (List.append_nil _).symm⟩, by simp [Quiet]⟩
  | @raised other what hother =>
    obtain rfl := hsame hother
    have hraise : (other.raise what).readcb = other.readcb ∧ (other.raise what).input = other.input := by
      unfold BufferEvent.raise
      split <;> exact ⟨rfl, rfl⟩
    refine ⟨⟨hptr, _, rfl, ?_, ?_⟩, by simp [Quiet]⟩
    · rw [hraise.1]
      exact hreadcb
    · rw [hraise.2]
      exact (List.append_nil _).symm
  | readMessage | readChunk | unread => exact absurd rfl hne
  | ready hother =>
    obtain rfl := hsame hother
    exact ⟨⟨hptr, _, rfl, Or.inr hptr, (List.append_nil _).symm⟩, by simp [Quiet]⟩
  | flushed hother | unwritten hother | lost hother | notLost hother =>
    obtain rfl := hsame hother
    exact ⟨⟨hptr, _, rfl, hreadcb, (List.append_nil _).symm⟩, by simp [Quiet]⟩

/-- The read callback cuts what is held, unless it has been taken out. -/
theorem Holding.readCallback (reads : ReadsBy config readcb F) (hconfig : base.conn.netConfig = config)
    (holding : Holding readcb held base) {effects : List ConnEffect}
    (hreact : base.react .readCallback = some (base', effects)) :
    (Holding readcb held base' ∧ effects = []) ∨ ∃ expand, effects = expand ++ splitReports (F.split held) ∧
      (∀ effect ∈ expand, ∃ size, effect = .evbufferExpand size) ∧
      ((F.split held).bad = false → Holding readcb (F.split held).rest base') := by
  obtain ⟨hptr, bev, hbev, hreadcb, rfl⟩ := holding
  simp only [ConnectionBase.react, hbev] at hreact
  rcases hreadcb with hnone | hinstalled
  · simp only [ConnectionBase.runReadcb, hnone, Option.some.injEq, Prod.mk.injEq] at hreact
    obtain ⟨rfl, rfl⟩ := hreact
    exact Or.inl ⟨⟨hptr, _, rfl, Or.inl rfl, rfl⟩, rfl⟩
  · obtain ⟨bev', expand, hresult, hexpand, hreadcb, hrest⟩ :=
      reads.reads base { bev with readPending := false } hconfig hinstalled
    obtain ⟨rfl, rfl⟩ := Prod.mk.inj (Option.some.inj (hreact.symm.trans hresult))
    exact Or.inr ⟨expand, rfl, hexpand, fun hgood => ⟨hptr, bev', rfl, Or.inr hreadcb, hrest hgood⟩⟩

/-- What a connection has delivered of its stream: the frames of what its read callback has seen. While it is open,
it holds what is behind them. -/
inductive Cuts (readcb : ReadCb) (F : Framer UInt8) (stream : Bytes) (run : ConnRun) : Prop where
  | intro {seen later : Bytes} (hstream : stream = seen ++ later)
    (hreceived : receivedMessages run.log = (F.split seen).frames)
    (hmalformed : .onMalformedMessage ∈ run.log ↔ (F.split seen).bad = true)
    (htotals : ∀ msgs totalsize, .onReceiveMessages msgs totalsize ∈ run.log → totalsize = msgs.flatten.length)
    (hopen : run.closed = false →
      (F.split seen).bad = false ∧ Holding readcb ((F.split seen).rest ++ later) run.base)

/-- Quiet effects leave what was delivered. -/
theorem Cuts.quiet (cuts : Cuts readcb F stream run) (hclosed : run.closed = false) {later : Bytes}
    {effects : List ConnEffect} (quiet : Quiet effects)
    (hholding : ∀ held, Holding readcb held run.base → Holding readcb (held ++ later) base') :
    Cuts readcb F (stream ++ later) (run.performAll (base', effects)) := by
  obtain @⟨seen, behind, hstream, hreceived, hmalformed, htotals, hopen⟩ := cuts
  obtain ⟨hgood, holding⟩ := hopen hclosed
  refine @Cuts.intro readcb F _ _ seen (behind ++ later) ?_ ?_ ?_ (fun msgs totalsize hmem => ?_)
    fun hstill => ⟨hgood, ?_⟩
  · rw [hstream, List.append_assoc]
  · rw [ConnRun.performAll_log, receivedMessages, List.flatMap_append]
    change receivedMessages run.log ++ receivedMessages effects = _
    rw [quiet.receivedMessages, List.append_nil, hreceived]
  · rw [ConnRun.performAll_log, List.mem_append, ← hmalformed]
    exact or_iff_left fun hmem => (quiet _ hmem).2 rfl
  · rw [ConnRun.performAll_log, List.mem_append] at hmem
    exact htotals msgs totalsize (hmem.resolve_right fun hnew => (quiet _ hnew).1 msgs totalsize rfl)
  · rw [ConnRun.performAll_closed, hclosed, Bool.false_or, decide_eq_false_iff_not] at hstill
    rw [ConnRun.performAll_base _ _ hstill, ← List.append_assoc]
    exact hholding _ holding

/-- A run of the read callback delivers the frames of what has arrived since the last one. -/
theorem Cuts.cut (cuts : Cuts readcb F stream run) (hclosed : run.closed = false) {expand : List ConnEffect}
    (hexpand : ∀ effect ∈ expand, ∃ size, effect = .evbufferExpand size) {held : Bytes}
    (hheld : ∀ held', Holding readcb held' run.base → held' = held)
    (hrest : (F.split held).bad = false → Holding readcb (F.split held).rest base') :
    Cuts readcb F stream (run.performAll (base', expand ++ splitReports (F.split held))) := by
  obtain @⟨seen, behind, hstream, hreceived, hmalformed, htotals, hopen⟩ := cuts
  obtain ⟨hgood, holding⟩ := hopen hclosed
  obtain rfl := hheld _ holding
  have hsplit := F.split_append_of_good behind hgood
  have hquiet : Quiet expand := by
    intro effect hmem
    obtain ⟨size, rfl⟩ := hexpand effect hmem
    simp
  refine @Cuts.intro readcb F _ _ (seen ++ behind) [] ?_ ?_ ?_ (fun msgs totalsize hmem => ?_) fun hstill => ?_
  · rw [hstream, List.append_nil]
  · have hnew : receivedMessages (splitReports (F.split ((F.split seen).rest ++ behind))) =
        (F.split ((F.split seen).rest ++ behind)).frames := by
      rw [splitReports, receivedMessages, List.flatMap_append]
      cases (F.split ((F.split seen).rest ++ behind)).bad <;>
        by_cases hnil : (F.split ((F.split seen).rest ++ behind)).frames = [] <;> simp [hnil]
    rw [ConnRun.performAll_log, receivedMessages, List.flatMap_append, List.flatMap_append]
    change receivedMessages run.log ++ (receivedMessages expand ++ receivedMessages (splitReports _)) = _
    rw [hreceived, hquiet.receivedMessages, hnew, List.nil_append, hsplit]
  · have hold : .onMalformedMessage ∉ run.log := by
      rw [hmalformed, hgood]
      simp
    have hnot : .onMalformedMessage ∉ expand := fun hmem => (hquiet _ hmem).2 rfl
    rw [ConnRun.performAll_log, List.mem_append, List.mem_append, hsplit]
    simp only [hold, hnot, false_or, splitReports]
    cases (F.split ((F.split seen).rest ++ behind)).bad <;>
      by_cases hnil : (F.split ((F.split seen).rest ++ behind)).frames = [] <;> simp [hnil]
  · rw [ConnRun.performAll_log, List.mem_append, List.mem_append] at hmem
    rcases hmem with hold | hnew | hnew
    · exact htotals msgs totalsize hold
    · exact absurd rfl ((hquiet _ hnew).1 msgs totalsize)
    · rw [splitReports] at hnew
      cases hbad : (F.split ((F.split seen).rest ++ behind)).bad <;>
        by_cases hnil : (F.split ((F.split seen).rest ++ behind)).frames = [] <;> simp_all
  · rw [ConnRun.performAll_closed, hclosed, Bool.false_or, decide_eq_false_iff_not] at hstill
    have hfine : (F.split ((F.split seen).rest ++ behind)).bad = false := by
      by_contra hbad
      refine hstill (List.mem_append_right _ (List.mem_append_right _ ?_))
      rw [if_pos (by simpa using hbad)]
      simp
    rw [hsplit, ConnRun.performAll_base _ _ hstill, List.append_nil]
    exact ⟨hfine, hrest hfine⟩

/-- A connection holds what it holds. -/
theorem Holding.unique {held' : Bytes} (holding : Holding readcb held base) (holding' : Holding readcb held' base) :
    held' = held := by
  obtain ⟨-, bev, hbev, -, rfl⟩ := holding
  obtain ⟨-, bev', hbev', -, rfl⟩ := holding'
  obtain rfl := Option.some.inj (hbev.symm.trans hbev')
  rfl

/-- One step of the connection. -/
theorem Cuts.take (reads : ReadsBy config readcb F) (hconfig : run.base.conn.netConfig = config)
    (cuts : Cuts readcb F stream run) {s : ConnStep} (htake : run.take s = some next) :
    Cuts readcb F (stream ++ arrivals ([s].filterMap ConnStep.event?)) next := by
  cases s with
  | call c =>
    change Cuts readcb F (stream ++ []) next
    rw [List.append_nil]
    change run.call c = some next at htake
    unfold ConnRun.call at htake
    split at htake
    · exact Option.some.inj htake ▸ cuts
    · obtain ⟨base, hcall, rfl⟩ := Option.map_eq_some_iff.mp htake
      obtain ⟨hstream, hreceived, hmalformed, htotals, hopen⟩ := cuts
      exact .intro hstream hreceived hmalformed htotals fun hclosed =>
        (hopen hclosed).imp_right fun holding => holding.call hcall
  | event e =>
    change Cuts readcb F (stream ++ (e.arrived ++ [])) next
    rw [List.append_nil]
    obtain ⟨hclosed, harmed⟩ := ConnRun.armed_of_take htake
    simp only [ConnRun.take, ConnRun.event, hclosed, harmed, Bool.not_false, Bool.and_self, if_true] at htake
    obtain ⟨⟨base, effects⟩, hreact, rfl⟩ := Option.map_eq_some_iff.mp htake
    by_cases hread : e = .readCallback
    · subst hread
      rw [show ConnEvent.readCallback.arrived = [] from rfl, List.append_nil]
      obtain ⟨hstream, hreceived, hmalformed, htotals, hopen⟩ := id cuts
      obtain ⟨hgood, holding⟩ := hopen hclosed
      rcases holding.readCallback reads hconfig hreact with ⟨holding', rfl⟩ | ⟨expand, rfl, hexpand, hrest⟩
      · have hquiet := @Cuts.quiet readcb F stream base run cuts hclosed [] [] (by simp [Quiet]) fun held hheld => by
          rw [List.append_nil, holding.unique hheld]
          exact holding'
        rwa [List.append_nil] at hquiet
      · exact cuts.cut hclosed hexpand (fun _ hother => holding.unique hother) hrest
    · exact cuts.quiet hclosed (by
        obtain ⟨hstream, hreceived, hmalformed, htotals, hopen⟩ := cuts
        exact ((hopen hclosed).2.react_of_ne hread hreact).2) fun held holding => (holding.react_of_ne hread hreact).1

/-- Any number of steps. -/
theorem Cuts.foldlM_take (reads : ReadsBy config readcb F) (hconfig : run.base.conn.netConfig = config)
    (cuts : Cuts readcb F stream run) {steps : List ConnStep} (htakes : steps.foldlM ConnRun.take run = some next) :
    Cuts readcb F (stream ++ arrivals (steps.filterMap ConnStep.event?)) next := by
  induction steps generalizing run stream with
  | nil =>
    obtain rfl := Option.some.inj htakes
    rw [List.filterMap_nil, arrivals, List.flatMap_nil, List.append_nil]
    exact cuts
  | cons s steps ih =>
    rw [List.foldlM_cons] at htakes
    obtain ⟨between, htake, hrest⟩ := Option.bind_eq_some_iff.mp htakes
    have hsame : between.base.conn.netConfig = config := by
      rw [ConnRun.step_conn (ConnRun.step_of_take htake)]
      exact hconfig
    have hcuts := ih hsame (cuts.take reads hconfig htake) hrest
    rw [List.append_assoc, arrivals, arrivals, ← List.flatMap_append, ← List.filterMap_append] at hcuts
    exact hcuts

/-- From its establishment on a connection cuts what its bufferevent brought along and what has arrived since. -/
theorem cuts_of_established (reads : ReadsBy config readcb F) {bev : BufferEvent}
    (hconfig : base.conn.netConfig = config) {steps : List ConnStep}
    (htakes : steps.foldlM ConnRun.take (ConnRun.established base bev) = some run) :
    Cuts readcb F (bev.input.flatten ++ arrivals (steps.filterMap ConnStep.event?)) run := by
  obtain ⟨bev', hbev, hinput, hreadcb, hptr⟩ := reads.established base bev hconfig
  have hsplit : F.split [] = ⟨[], [], false⟩ := F.split_of_more reads.waits
  refine Cuts.foldlM_take reads hconfig (@Cuts.intro readcb F _ _ [] bev.input.flatten rfl ?_ ?_ ?_ fun _ => ?_)
    htakes
  · rw [hsplit]
    rfl
  · simp [hsplit, ConnRun.established]
  · simp [ConnRun.established]
  · rw [hsplit, List.nil_append]
    exact ⟨rfl, hptr, bev', hbev, Or.inr hreadcb, by rw [hinput]⟩

/-- The messages delivered are the first frames of the stream. -/
theorem Cuts.received_prefix (cuts : Cuts readcb F stream run) :
    receivedMessages run.log <+: (F.split stream).frames := by
  obtain ⟨rfl, hreceived, -⟩ := cuts
  rw [hreceived]
  exact F.frames_prefix _ _

/-- They are all of its frames once it has been found malformed. -/
theorem Cuts.received_of_malformed (cuts : Cuts readcb F stream run) (hbad : .onMalformedMessage ∈ run.log) :
    receivedMessages run.log = (F.split stream).frames ∧ (F.split stream).bad = true := by
  obtain ⟨rfl, hreceived, hmalformed, -⟩ := cuts
  obtain ⟨hframes, hsplit⟩ := F.split_append_of_bad _ (hmalformed.mp hbad)
  exact ⟨hreceived.trans hframes.symm, hsplit⟩

end Steps

end LibBtcNet
