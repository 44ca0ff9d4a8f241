import LibBtcNet.ByteTotals
import LibBtcNet.MessageStreams
import LibBtcNet.Provenance
import LibBtcNet.ProxyHandOver

/-!
# What the user hears of a stream

The history of an id carries the facts about a connection on its own over to whole runs of the handler:
the messages that the user is given are the frames of what has arrived, the byte counts add up, and
through a proxy the stream begins behind a reply that the handshake took for a success.
-/

namespace LibBtcNet

open CConnectionHandlerInt StreamFraming

/-- The messages that a callback brings. -/
def Callback.messages : Callback → List Bytes
  | .onReceiveMessages _ msgs _ => msgs
  | _ => []

/-- The bytes and the total that a callback reports in a direction. -/
def Callback.counted : Direction → Callback → Option (ℕ × ℕ)
  | .reading, .onBytesRead _ bytes totalBytes => some (bytes, totalBytes)
  | .writing, .onBytesWritten _ bytes totalBytes => some (bytes, totalBytes)
  | _, _ => none

/-- The messages that callbacks bring, in order. -/
def messagesHeard (heard : List (Callback × Bool)) : List Bytes := heard.flatMap fun entry => entry.1.messages

/-- The counts that callbacks report in a direction, in order. -/
def countsHeard (direction : Direction) (heard : List (Callback × Bool)) : List (ℕ × ℕ) :=
  heard.filterMap fun entry => entry.1.counted direction

/-- The callback that asks the user about a connection. -/
def announcement (outgoing : Bool) (k : ConnID) (conn resolved : CConnection) : Callback :=
  if outgoing then .onOutgoingConnection k conn resolved else .onIncomingConnection k conn resolved

section Reports

variable {k : ConnID} {conn conn' resolved : CConnection} {outgoing outgoing' : Bool} {log : List ConnEffect}
  {announced reports : List (Callback × Bool)}

/-- The messages of a report are passed on. -/
theorem messagesHeard_reports (hreports : reports.map Prod.fst = log.filterMap (effectCallback k)) :
    messagesHeard reports = receivedMessages log := by
  have hmap : messagesHeard reports = (reports.map Prod.fst).flatMap Callback.messages := by
    rw [List.flatMap_map]
    rfl
  have hlog (log : List ConnEffect) :
      (log.filterMap (effectCallback k)).flatMap Callback.messages = receivedMessages log := by
    have heffect (effect : ConnEffect) :
        ((effectCallback k effect).toList.flatMap Callback.messages) = receivedMessages [effect] := by
      cases effect <;> rfl
    rw [List.filterMap_eq_flatMap_toList, List.flatMap_assoc]
    simp only [heffect]
    rw [receivedMessages]
    simp only [receivedMessages, List.flatMap_cons, List.flatMap_nil, List.append_nil]
  rw [hmap, hreports, hlog]

/-- So are its counts. -/
theorem countsHeard_reports (direction : Direction)
    (hreports : reports.map Prod.fst = log.filterMap (effectCallback k)) :
    countsHeard direction reports = log.filterMap (ConnEffect.counted direction) := by
  have hmap : countsHeard direction reports = (reports.map Prod.fst).filterMap (Callback.counted direction) := by
    rw [List.filterMap_map]
    rfl
  rw [hmap, hreports, List.filterMap_filterMap]
  congr 1
  funext effect
  cases effect <;> cases direction <;> rfl

/-- An announcement brings no message and counts nothing. -/
theorem Announces.silent (announces : Announces k conn outgoing announced) :
    messagesHeard announced = [] ∧ ∀ direction, countsHeard direction announced = [] := by
  cases announces <;> exact ⟨rfl, fun direction => by cases direction <;> rfl⟩

/-- No report announces a connection. -/
theorem announcement_not_mem_reports (hreports : reports.map Prod.fst = log.filterMap (effectCallback k))
    (ret : Bool) :
    (announcement outgoing k conn resolved, ret) ∉ reports := by
  intro hmem
  have hreport := hreports ▸ List.mem_map_of_mem (f := Prod.fst) hmem
  obtain ⟨effect, -, heffect⟩ := List.mem_filterMap.mp hreport
  cases effect <;> cases outgoing <;> simp [effectCallback, announcement] at heffect

/-- An announcement is one of its own connection, which is kept. -/
theorem Announces.of_mem (announces : Announces k conn' outgoing' announced) {ret : Bool}
    (hmem : (announcement outgoing k conn resolved, ret) ∈ announced) :
    outgoing = outgoing' ∧ conn = conn' ∧ ret = true := by
  cases announces <;> cases outgoing <;> simp_all [announcement]

end Reports

/-- A connection that the user has kept, established on its own, explains what the user has heard of it, up to a last
callback that it is over. While it is in the map, it is as its run has left it. -/
inductive Session (S : Bool → CConnection → BufferEvent → Prop) (k : ConnID) (outgoing : Bool) (conn : CConnection)
    (events : List ConnEvent) (heard : List (Callback × Bool)) (base : Option ConnectionBase) : Prop where
  | intro {start : ConnectionBase} {bev : BufferEvent} {steps : List ConnStep} {run : ConnRun}
    {announced reports ended : List (Callback × Bool)} (hconn : start.conn = conn) (hbev : S outgoing conn bev)
    (hrun : steps.foldlM ConnRun.take (ConnRun.established start bev) = some run)
    (hevents : events = steps.filterMap ConnStep.event?) (hannounced : Announces k conn outgoing announced)
    (hreports : reports.map Prod.fst = run.log.filterMap (effectCallback k))
    (hended : ended = [] ∨ ∃ reconnect ret, ended = [(.onDisconnected k reconnect, ret)])
    (hheard : heard = announced ++ reports ++ ended)
    (hbase : ∀ other, base = some other → run.closed = false ∧ run.base = other) :
    Session S k outgoing conn events heard base

section Sessions

variable {S : Bool → CConnection → BufferEvent → Prop} {k : ConnID} {outgoing outgoing' : Bool}
  {conn conn' resolved : CConnection} {events : List ConnEvent} {heard : List (Callback × Bool)}
  {base : Option ConnectionBase}

/-- A history is one of nothing, of a connection that the user has refused, or of one that it has kept. -/
theorem History.cases_session (history : History S k events heard base) :
    (events = [] ∧ (heard = [] ∨ ∃ outgoing conn resolved, heard = [(announcement outgoing k conn resolved, false)] ∧
        (outgoing = true → ∃ bev, S true conn bev))) ∨
      ∃ outgoing conn, Session S k outgoing conn events heard base := by
  have hsession {events : List ConnEvent} {told ended : List (Callback × Bool)} {run : ConnRun}
    {base : Option ConnectionBase}
      (explains : Explains S k events told run)
        (hended : ended = [] ∨ ∃ reconnect ret, ended = [(.onDisconnected k reconnect, ret)])
      (hbase : ∀ other, base = some other → run.closed = false ∧ run.base = other) :
      ∃ outgoing conn, Session S k outgoing conn events (told ++ ended) base := by
    obtain @⟨outgoing, start, bev, steps, _, announced, reports, hid, hbev, hrun, hevents, hannounced, hreports⟩ :=
      explains
    exact ⟨outgoing, start.conn, .intro rfl hbev hrun hevents hannounced hreports hended rfl hbase⟩
  cases history with
  | unknown => exact Or.inl ⟨rfl, Or.inl rfl⟩
  | refusedIncoming conn resolved => exact Or.inl ⟨rfl, Or.inr ⟨false, conn, resolved, rfl, by simp⟩⟩
  | refusedOutgoing hbev resolved => exact Or.inl ⟨rfl, Or.inr ⟨true, _, resolved, rfl, fun _ => ⟨_, hbev⟩⟩⟩
  | live explains hopen =>
    have hlive := hsession explains (Or.inl rfl) fun _ hbase => ⟨hopen, Option.some.inj hbase⟩
    rw [List.append_nil] at hlive
    exact Or.inr hlive
  | closed explains hclosed hreconnect => exact Or.inr (hsession explains (Or.inr ⟨_, _, rfl⟩) (by simp))
  | shutDown explains hopen => exact Or.inr (hsession explains (Or.inr ⟨_, _, rfl⟩) (by simp))

/-- A session announces only its own connection, which is kept. -/
theorem Session.of_mem (session : Session S k outgoing' conn' events heard base) {ret : Bool}
    (hmem : (announcement outgoing k conn resolved, ret) ∈ heard) :
    outgoing = outgoing' ∧ conn = conn' ∧ ret = true := by
  obtain ⟨-, -, -, -, hannounced, hreports, hended, rfl, -⟩ := session
  rcases List.mem_append.mp hmem with htold | hlast
  · rcases List.mem_append.mp htold with hfirst | hreport
    · exact hannounced.of_mem hfirst
    · exact absurd hreport (announcement_not_mem_reports hreports ret)
  · rcases hended with rfl | ⟨reconnect, ret, rfl⟩
    · contradiction
    · cases outgoing <;> simp [announcement] at hlast

/-- The user is told of every connection that it keeps. -/
theorem History.session (history : History S k events heard base)
    (hmem : (announcement outgoing k conn resolved, true) ∈ heard) : Session S k outgoing conn events heard base := by
  rcases history.cases_session with ⟨-, rfl | ⟨_, _, _, rfl, -⟩⟩ | ⟨outgoing', conn', session⟩
  · contradiction
  · simp at hmem
  · obtain ⟨rfl, rfl, -⟩ := session.of_mem hmem
    exact session

/-- A refused outgoing connection was on a bufferevent as it should be. -/
theorem History.bev_of_refused (history : History S k events heard base)
    (hmem : (.onOutgoingConnection k conn resolved, false) ∈ heard) : ∃ bev, S true conn bev := by
  rcases history.cases_session with ⟨-, rfl | ⟨outgoing, conn', resolved', rfl, hbev⟩⟩ | ⟨outgoing, conn', session⟩
  · contradiction
  · cases outgoing with
    | true =>
      obtain ⟨-, rfl, -⟩ := Callback.onOutgoingConnection.inj (Prod.mk.inj (List.mem_singleton.mp hmem)).1
      exact hbev rfl
    | false => simp [announcement] at hmem
  · have hannounced : (announcement true k conn resolved, false) ∈ heard := hmem
    exact absurd (session.of_mem hannounced).2.2 (by simp)

end Sessions

/-- Each total is a start plus the bytes counted until then, modulo `2 ^ 64`. -/
def RunningFrom (start : ℕ) (counts : List (ℕ × ℕ)) : Prop :=
  ∀ before bytes total later, counts = before ++ (bytes, total) :: later →
    total = (start + (before.map Prod.fst).sum + bytes) % 2 ^ 64

/-- One more count. -/
theorem RunningFrom.concat {start bytes : ℕ} {counts : List (ℕ × ℕ)} (running : RunningFrom start counts) :
    RunningFrom start (counts ++ [(bytes, (start + (counts.map Prod.fst).sum + bytes) % 2 ^ 64)]) := by
  intro before other total later hsplit
  rcases List.eq_nil_or_concat later with rfl | ⟨between, last, rfl⟩
  · obtain ⟨rfl, hlast⟩ := List.append_inj' hsplit rfl
    obtain ⟨rfl, rfl⟩ := Prod.mk.inj (List.cons.inj hlast).1
    rfl
  · have hinit : counts ++ [(bytes, (start + (counts.map Prod.fst).sum + bytes) % 2 ^ 64)] =
        (before ++ (other, total) :: between) ++ [last] := by
      rw [hsplit, List.concat_eq_append, List.append_assoc]
      rfl
    exact running before other total between (List.append_inj' hinit rfl).1

/-- The bytes that an event moves in a direction. -/
def ConnEvent.transferred : Direction → ConnEvent → ℕ
  | .reading, .socketRead chunks => chunks.flatten.length
  | .writing, .socketWrite size => size
  | _, _ => 0

/-- The bytes that events move in a direction. -/
def transfers (direction : Direction) (events : List ConnEvent) : ℕ := (events.map (·.transferred direction)).sum

/-- The counts of a direction after a number of bytes: they add up, and their totals run from a start. -/
structure Tallies (direction : Direction) (start transferred : ℕ) (run : ConnRun) : Prop where
  running : RunningFrom start (run.log.filterMap (·.counted direction))
  sum : ((run.log.filterMap (·.counted direction)).map Prod.fst).sum = transferred
  counter : run.base.counter direction % 2 ^ 64 = (start + transferred) % 2 ^ 64

section Tallies

variable {direction : Direction} {start transferred : ℕ} {run next : ConnRun}

/-- One step. -/
theorem Tallies.take (tallies : Tallies direction start transferred run) {s : ConnStep}
    (htake : run.take s = some next) :
    Tallies direction start (transferred + transfers direction ([s].filterMap ConnStep.event?)) next := by
  obtain ⟨running, hsum, hcounter⟩ := tallies
  cases s with
  | call c =>
    change run.call c = some next at htake
    unfold ConnRun.call at htake
    split at htake
    · exact Option.some.inj htake ▸ ⟨running, hsum, hcounter⟩
    · obtain ⟨base, hcall, rfl⟩ := Option.map_eq_some_iff.mp htake
      exact ⟨running, hsum, by rw [ConnectionBase.call_counts hcall]; exact hcounter⟩
  | event e =>
    obtain ⟨hclosed, harmed⟩ := ConnRun.armed_of_take htake
    simp only [ConnRun.take, ConnRun.event, hclosed, harmed, Bool.not_false, Bool.and_self, if_true] at htake
    obtain ⟨⟨base, effects⟩, hreact, rfl⟩ := Option.map_eq_some_iff.mp htake
    have hcounts := @ConnectionBase.react_counts run.base base effects direction e harmed hreact
    have hlast : (run.performAll (base, effects)).base.counter direction = base.counter direction :=
      ConnRun.performAll_field (ConnectionBase.counter direction) (fun _ => by cases direction <;> rfl)
        run (base, effects)
    have hbytes : transfers direction ([ConnStep.event e].filterMap ConnStep.event?) =
        ((ConnStep.event e).transferred direction run.base).getD 0 := by
      cases e <;> cases direction <;>
        simp [transfers, ConnStep.event?, ConnEvent.transferred, ConnStep.transferred, harmed]
    rw [hbytes]
    cases htransferred : (ConnStep.event e).transferred direction run.base with
    | none =>
      rw [htransferred] at hcounts
      have hsilent : effects.filterMap (·.counted direction) = [] := List.filterMap_eq_nil_iff.mpr hcounts.2
      refine ⟨?_, ?_, ?_⟩
      · rwa [ConnRun.performAll_log, List.filterMap_append, hsilent, List.append_nil]
      · rwa [ConnRun.performAll_log, List.filterMap_append, hsilent, List.append_nil]
      · rw [hlast, hcounts.1]
        exact hcounter
    | some bytes =>
      rw [htransferred] at hcounts
      obtain ⟨hadded, effect, rfl, hcounted⟩ := hcounts
      have htotal : base.counter direction = (start + transferred + bytes) % 2 ^ 64 := by
        rw [hadded, Nat.add_mod, hcounter, ← Nat.add_mod]
      have hnew : [effect].filterMap (·.counted direction) = [(bytes, (start + transferred + bytes) % 2 ^ 64)] := by
        rw [List.filterMap_cons_some hcounted, htotal]
        rfl
      refine ⟨?_, ?_, ?_⟩
      · rw [ConnRun.performAll_log, List.filterMap_append, hnew, ← hsum]
        exact running.concat
      · rw [ConnRun.performAll_log, List.filterMap_append, hnew, List.map_append, List.sum_append, hsum]
        simp
      · rw [hlast, htotal, Nat.mod_mod, Nat.add_assoc]
        rfl

/-- Any number of steps. -/
theorem Tallies.foldlM_take (tallies : Tallies direction start transferred run) {steps : List ConnStep}
    (htakes : steps.foldlM ConnRun.take run = some next) :
    Tallies direction start (transferred + transfers direction (steps.filterMap ConnStep.event?)) next := by
  induction steps generalizing run transferred with
  | nil =>
    obtain rfl := Option.some.inj htakes
    exact tallies
  | cons s steps ih =>
    rw [List.foldlM_cons] at htakes
    obtain ⟨between, htake, hrest⟩ := Option.bind_eq_some_iff.mp htakes
    have htallies := ih (tallies.take htake) hrest
    rw [Nat.add_assoc, transfers, transfers, ← List.sum_append, ← List.map_append,
      ← List.filterMap_append] at htallies
    exact htallies

end Tallies

/-- The rules by which connections cut their streams: chunks, or messages with a header. -/
inductive Framing (config : CNetworkConfig) : Framer UInt8 → Prop where
  | chunks (hchunk : 0 < config.chunkSize.toInt.toNat) :
    Framing config (chunkFramer config.chunkSize.toInt.toNat hchunk)
  | messages (h : MessageMode config) : Framing config (messageFramer config h)

/-- Each is the rule of a read callback. -/
theorem Framing.readsBy {config : CNetworkConfig} {F : Framer UInt8} (framing : Framing config F) :
    ∃ readcb, ReadsBy config readcb F := by
  cases framing with
  | chunks hchunk => exact ⟨_, chunkMode_readsBy hchunk⟩
  | messages h => exact ⟨_, messageMode_readsBy h⟩

/-- The user hears the frames of a stream: the first ones at any time, all of them once it is malformed, each time with
their length. -/
structure DeliveredBy (F : Framer UInt8) (k : ConnID) (stream : Bytes) (heard : List (Callback × Bool)) : Prop where
  delivered : messagesHeard heard <+: (F.split stream).frames
  malformed (ret : Bool) (hbad : (.onMalformedMessage k, ret) ∈ heard) :
    messagesHeard heard = (F.split stream).frames ∧ (F.split stream).bad = true
  totals (msgs : List Bytes) (totalsize : ℕ) (ret : Bool)
    (hmsgs : (.onReceiveMessages k msgs totalsize, ret) ∈ heard) :
    totalsize = msgs.flatten.length

/-- The messages that a session brings are those of its run. -/
theorem messagesHeard_session {k : ConnID} {conn : CConnection} {outgoing : Bool} {log : List ConnEffect}
    {announced reports ended : List (Callback × Bool)} (hannounced : Announces k conn outgoing announced)
    (hreports : reports.map Prod.fst = log.filterMap (effectCallback k))
    (hended : ended = [] ∨ ∃ reconnect ret, ended = [(.onDisconnected k reconnect, ret)]) :
    messagesHeard (announced ++ reports ++ ended) = receivedMessages log := by
  have hlast : messagesHeard ended = [] := by
    rcases hended with rfl | ⟨reconnect, ret, rfl⟩ <;> rfl
  rw [messagesHeard, List.flatMap_append, List.flatMap_append]
  change messagesHeard announced ++ messagesHeard reports ++ messagesHeard ended = _
  rw [hannounced.silent.1, hlast, messagesHeard_reports hreports, List.nil_append, List.append_nil]

/-- A callback that reports an effect is in what the user has heard only because of it. -/
theorem mem_log_of_mem_heard {k : ConnID} {conn : CConnection} {outgoing : Bool} {log : List ConnEffect}
    {announced reports ended : List (Callback × Bool)} (hannounced : Announces k conn outgoing announced)
    (hreports : reports.map Prod.fst = log.filterMap (effectCallback k))
    (hended : ended = [] ∨ ∃ reconnect ret, ended = [(.onDisconnected k reconnect, ret)]) {effect : ConnEffect}
    {c : Callback} (hc : effectCallback k effect = some c) {ret : Bool}
    (hmem : (c, ret) ∈ announced ++ reports ++ ended) :
    effect ∈ log := by
  rcases List.mem_append.mp hmem with htold | hlast
  · rcases List.mem_append.mp htold with hfirst | hreport
    · cases hannounced <;> cases effect <;> cases hc <;> simp at hfirst
    · obtain ⟨effect', hlogged, heffect⟩ := List.mem_filterMap.mp
        (hreports ▸ List.mem_map_of_mem (f := Prod.fst) hreport)
      have hsame : effect' = effect := by
        cases effect <;> cases hc <;> cases effect' <;> cases heffect <;> rfl
      exact hsame ▸ hlogged
  · rcases hended with rfl | ⟨reconnect, _, rfl⟩
    · contradiction
    · cases effect <;> cases hc <;> simp at hlast

section Streams

variable {S : Bool → CConnection → BufferEvent → Prop} {k : ConnID} {outgoing : Bool} {conn : CConnection}
  {events : List ConnEvent} {heard : List (Callback × Bool)} {base : Option ConnectionBase}

/-- A session cuts what its bufferevent brought along and what has arrived since. -/
theorem Session.deliveredBy (session : Session S k outgoing conn events heard base) {F : Framer UInt8}
    (framing : Framing conn.netConfig F) :
    ∃ bev, S outgoing conn bev ∧ DeliveredBy F k (bev.input.flatten ++ arrivals events) heard := by
  obtain @⟨start, bev, steps, run, announced, reports, ended, rfl, hbev, hrun, rfl, hannounced, hreports,
    hended, rfl, -⟩ :=
    session
  obtain ⟨readcb, reads⟩ := framing.readsBy
  have cuts := cuts_of_established reads rfl hrun
  have hmessages := messagesHeard_session hannounced hreports hended
  refine ⟨bev, hbev, ⟨?_, fun ret hbad => ?_, fun msgs totalsize ret hmsgs => ?_⟩⟩
  · rw [hmessages]
    exact cuts.received_prefix
  · have hcallback : effectCallback k .onMalformedMessage = some (.onMalformedMessage k) := rfl
    rw [hmessages]
    exact cuts.received_of_malformed (mem_log_of_mem_heard hannounced hreports hended hcallback hbad)
  · obtain ⟨-, -, -, htotals, -⟩ := cuts
    have hcallback : effectCallback k (.onReceiveMessages msgs totalsize) =
      some (.onReceiveMessages k msgs totalsize) :=
      rfl
    exact htotals msgs totalsize (mem_log_of_mem_heard hannounced hreports hended hcallback hmsgs)

/-- Its counts are those of what was read and written. -/
theorem Session.tallies (session : Session S k outgoing conn events heard base) (direction : Direction) :
    ∃ start, RunningFrom start (countsHeard direction heard) ∧
      ((countsHeard direction heard).map Prod.fst).sum = transfers direction events := by
  obtain @⟨start, bev, steps, run, announced, reports, ended, rfl, hbev, hrun, rfl, hannounced, hreports,
    hended, rfl, -⟩ :=
    session
  have hinitial : Tallies direction (start.counter direction) 0 (ConnRun.established start bev) := by
    have hcounter : (ConnRun.established start bev).base.counter direction = start.counter direction := by
      cases direction <;> rfl
    exact ⟨fun before bytes total later hsplit => absurd hsplit (by simp [ConnRun.established]),
      rfl, by rw [hcounter]; rfl⟩
  obtain ⟨hrunning, hsum, -⟩ := hinitial.foldlM_take hrun
  have hcounts : countsHeard direction (announced ++ reports ++ ended) = run.log.filterMap (·.counted direction) := by
    have hlast : countsHeard direction ended = [] := by
      rcases hended with rfl | ⟨reconnect, ret, rfl⟩ <;> cases direction <;> rfl
    rw [countsHeard, List.filterMap_append, List.filterMap_append]
    change countsHeard direction announced ++ countsHeard direction reports ++ countsHeard direction ended = _
    rw [hannounced.silent.2, hlast, countsHeard_reports direction hreports, List.nil_append, List.append_nil]
  rw [hcounts, ← Nat.zero_add (transfers direction _)]
  exact ⟨_, hrunning, hsum⟩

end Streams

/-- What a proxy sent grants the request of a connection by the code's own checks, and has some bytes behind the
reply: the greeting was accepted, the request was written, and the reply is complete by the count of `read_final`.
Unless the proxy was misjudged, success was due. -/
inductive Granted (conn : CConnection) (received behind : Bytes) : Prop where
  | intro {names : NameInfo} {head reply request : Bytes} {need : ℕ} (hreceived : received = head ++ reply)
    (hhead : GreetingAccepted conn.proxy.auth head) (hrequest : writeproto names conn = .written request)
    (hlen : 8 ≤ reply.length) (hneed : finalNeed reply = some need) (hfull : need ≤ reply.length)
    (hbehind : behind = reply.drop need)
    (hdue : ¬Misjudged names conn received → SuccessDue conn.proxy.auth received)

/-- A bufferevent that a handshake has handed over holds what the proxy sent behind its reply. -/
theorem FromHandshake.granted {conn : CConnection} {shakes : List Shake} {bev : BufferEvent}
    (hproxy : conn.proxy.isSet = true) (handed : FromHandshake conn shakes bev) :
    Granted conn (shakenBytes shakes) bev.input.flatten := by
  obtain ⟨run, resolved, shaken, hsuccess, hreceived⟩ := handed
  rw [← hreceived]
  obtain ⟨names, handshake, -⟩ := shaken.handshake hproxy
  have hdue (hjudged : ¬Misjudged names conn run.received) : SuccessDue conn.proxy.auth run.received :=
    (handshake.endsSoundly List.prefix_rfl hjudged).successDue hsuccess
  obtain ⟨head, reply, request, need, hsplit, hhead, hrequest, hlen, hneed, hfull, hhanded, -⟩ :=
    handshake.of_success hsuccess
  exact .intro hsplit hhead hrequest hlen hneed hfull hhanded hdue

section Runs

variable (inputs : List HandlerInput) (hfew : FewIds (run inputs).trace) (hgood : .connection ∉ (run inputs).failed)
  {k : ConnID} {outgoing : Bool} {conn resolved : CConnection}

include hfew hgood

/-- In every run the user is given the frames of what has arrived on a connection, unless it goes through a proxy. -/
theorem run_delivers (hmem : (announcement outgoing k conn resolved, true) ∈ mentions k (run inputs).trace)
    (hdirect : outgoing = true → conn.proxy.isSet = false) {F : Framer UInt8} (framing : Framing conn.netConfig F) :
    DeliveredBy F k (arrivals (deliveries k new inputs)) (mentions k (run inputs).trace) := by
  obtain ⟨bev, hbev, delivered⟩ := ((run_histories inputs hfew hgood k).session hmem).deliveredBy framing
  have hunused : bev.Unused := by
    unfold Taken at hbev
    cases outgoing <;> simp_all
  rwa [hunused.input] at delivered

/-- In every run a connection through a proxy is announced only when what its handshake has received grants the request,
and if the user keeps it, the user is given the frames of what came behind the reply and of what has arrived since. -/
theorem run_delivers_proxied {ret : Bool}
    (hmem : (.onOutgoingConnection k conn resolved, ret) ∈ mentions k (run inputs).trace)
    (hproxy : conn.proxy.isSet = true) {F : Framer UInt8} (framing : Framing conn.netConfig F) :
    ∃ behind, Granted conn (shakenBytes (handshakes k new inputs)) behind ∧ (ret = true →
      DeliveredBy F k (behind ++ arrivals (deliveries k new inputs)) (mentions k (run inputs).trace)) := by
  have history := run_histories inputs hfew hgood k
  have hgranted {bev : BufferEvent} (hbev : Taken (handshakes k new inputs) true conn bev) :
      Granted conn (shakenBytes (handshakes k new inputs)) bev.input.flatten := by
    unfold Taken at hbev
    rw [hproxy] at hbev
    exact hbev.granted hproxy
  cases ret with
  | true =>
    have hannounced : (announcement true k conn resolved, true) ∈ mentions k (run inputs).trace := hmem
    obtain ⟨bev, hbev, delivered⟩ := (history.session hannounced).deliveredBy framing
    exact ⟨_, hgranted hbev, fun _ => delivered⟩
  | false =>
    obtain ⟨bev, hbev⟩ := history.bev_of_refused hmem
    exact ⟨_, hgranted hbev, fun hkept => absurd hkept (by simp)⟩

end Runs

/-- A connection is established, a message arrives and the start of another, and what has arrived is read. -/
def messageRead : List HandlerInput :=
  [⟨.start 8, .accepting [] .later⟩, ⟨.requestEvent, .accepting [localPeer true] .later⟩,
    ⟨.connEvent .connecting 0 ⟨false, false, false, true⟩, .accepting [] .later⟩,
    ⟨.connection .connected 0 (.socketRead [emptyMessage, emptyMessage.take 9]), .accepting [] .later⟩,
    ⟨.connection .connected 0 .readCallback, .accepting [] .later⟩]

/-- The message is delivered. -/
theorem run_delivers_message : messagesHeard (mentions 0 (run messageRead).trace) = [emptyMessage] ∧
    DeliveredBy (messageFramer mainnetConfig mainnetConfig_messageMode) 0 (arrivals (deliveries 0 new messageRead))
      (mentions 0 (run messageRead).trace) :=
  ⟨by decide +kernel, @run_delivers messageRead (by decide +kernel) (by decide +kernel) 0 true (localPeer true)
    (localPeer true) (by decide +kernel) (fun _ => rfl) _ (.messages mainnetConfig_messageMode)⟩

/-- The same peer through a proxy. -/
def proxiedPeer : CConnection := { localPeer true with proxy := localProxy .socks5 }

/-- The proxy grants the request, and a message begins right behind its reply. -/
def messageBehindReply : List HandlerInput :=
  [⟨.start 8, .accepting [] .later⟩, ⟨.requestEvent, .accepting [proxiedPeer] .later⟩,
    ⟨.connEvent .connecting 0 ⟨false, false, false, true⟩, .accepting [] .later⟩,
    ⟨.handshake .connecting 0 (.arrive [grantingProxy.take 2]), .accepting [] .later⟩,
    ⟨.handshake .connecting 0 .readCallback, .accepting [] .later⟩,
    ⟨.handshake .connecting 0 (.arrive [grantingProxy.drop 2, emptyMessage.take 10]), .accepting [] .later⟩,
    ⟨.handshake .connecting 0 .readCallback, .accepting [] .later⟩,
    ⟨.connection .connected 0 (.socketRead [emptyMessage.drop 10]), .accepting [] .later⟩,
    ⟨.connection .connected 0 .readCallback, .accepting [] .later⟩]

/-- The message is delivered as a whole. -/
theorem run_delivers_behind : messagesHeard (mentions 0 (run messageBehindReply).trace) = [emptyMessage] ∧
    shakenBytes (handshakes 0 new messageBehindReply) = grantingProxy ++ emptyMessage.take 10 ∧
    ∃ behind, Granted proxiedPeer (shakenBytes (handshakes 0 new messageBehindReply)) behind ∧ (true = true →
      DeliveredBy (messageFramer mainnetConfig mainnetConfig_messageMode) 0
        (behind ++ arrivals (deliveries 0 new messageBehindReply)) (mentions 0 (run messageBehindReply).trace)) :=
  ⟨by decide +kernel, by decide +kernel, @run_delivers_proxied messageBehindReply (by decide +kernel)
    (by decide +kernel) 0 proxiedPeer proxiedPeer true (by decide +kernel) rfl _
    (.messages mainnetConfig_messageMode)⟩

end LibBtcNet
