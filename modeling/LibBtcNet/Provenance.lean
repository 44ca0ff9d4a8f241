import LibBtcNet.HistoryRuns
import LibBtcNet.ProxySoundness

/-!
# Where a bufferevent comes from

A connection is established on the bufferevent of its own attempt. An attempt without a proxy hands
over one that has not been used, and an attempt through a proxy one that has been through a whole
handshake, whose input is what followed the reply. That holds of every object in a map of the
handler, so it is part of what a history tells.
-/

namespace LibBtcNet

open CConnectionHandlerInt

/-- Nothing has gone through a bufferevent, and none of its callbacks is pending. -/
structure BufferEvent.Unused (bev : BufferEvent) : Prop where
  input : bev.input = []
  output : bev.output = 0
  readPending : bev.readPending = false
  writePending : bev.writePending = false
  eventPending : bev.eventPending = .none

/-- A new bufferevent that connects is not used. -/
theorem unused_of_bareConnect {before : Option BufferEvent} {addr : Bytes} {connTimeout : ℤ} {bev : BufferEvent}
    (hbev : bareConnect before addr connTimeout = some bev) : bev.Unused := by
  obtain ⟨-, hbev⟩ := Option.ite_none_left_eq_some.mp hbev
  obtain rfl := Option.some.inj hbev
  exact ⟨rfl, rfl, rfl, rfl, rfl⟩

namespace ProxyRun

/-- A step does not look at what was reported and received before. -/
theorem step_eq_map (names : NameInfo) (run : ProxyRun) (s : ProxyStep) :
    run.step names s = (step names ⟨run.proxy, [], []⟩ s).map fun next =>
      ⟨next.proxy, run.log ++ next.log, run.received ++ next.received⟩ := by
  obtain ⟨⟨conn, bev⟩, log, received⟩ := run
  cases bev with
  | none => simp [step]
  | some bev =>
    cases s with
    | arrive chunks => by_cases hreads : (bev.readEnabled && !bev.readSuspended) = true <;> simp [step, hreads]
    | event what => simp [step, perform]
    | readCallback =>
      have hdue : due ⟨⟨conn, some bev⟩, log, received⟩ = due ⟨⟨conn, some bev⟩, [], []⟩ := rfl
      simp only [step, hdue, dispatched]
      split
      · rw [Option.map_map]
        congr 1
        funext result
        simp [perform]
      · simp

end ProxyRun

section Handshakes

variable {names names' : NameInfo} {conn : CConnection} {run next : ProxyRun} {bev : BufferEvent}

/-- A step keeps a handshake. -/
theorem Handshake.step (h : Handshake names conn True run) {s : ProxyStep} (hnext : run.step names s = some next) :
    Handshake names conn True next := by
  cases s with
  | arrive chunks =>
    obtain ⟨other, hother, handshake, -⟩ := h.arrive chunks
    exact Option.some.inj (hother.symm.trans hnext) ▸ handshake
  | event what =>
    obtain ⟨other, hother, handshake, -⟩ := h.event what
    exact Option.some.inj (hother.symm.trans hnext) ▸ handshake
  | readCallback =>
    cases hdue : run.due with
    | false => exact Option.some.inj ((step_readCallback_of_not_due hdue).symm.trans hnext) ▸ h
    | true =>
      rcases h.readCallback hdue with ⟨other, hother, handshake, -⟩ | ⟨hnone, -⟩
      · exact Option.some.inj (hother.symm.trans hnext) ▸ handshake
      · exact absurd (hnone.symm.trans hnext) (by simp)

/-- A success hands over the same bufferevent whatever connection it names. -/
theorem Handshake.resolved {proxy : CBareProxy} {log : List ProxyEffect} {received : Bytes} {resolved : CConnection}
    (h : Handshake names conn True ⟨proxy, log ++ [.proxySuccess bev resolved], received⟩) (other : CConnection) :
    Handshake names conn True ⟨proxy, log ++ [.proxySuccess bev other], received⟩ := by
  have hwrites (writes : List Bytes) : log ++ [.proxySuccess bev resolved] ≠ writes.map ProxyEffect.write := by
    intro heq
    obtain ⟨data, -, hdata⟩ := List.mem_map.mp (heq ▸ List.mem_append_right log (List.mem_singleton_self _))
    contradiction
  generalize hrun : (⟨proxy, log ++ [.proxySuccess bev resolved], received⟩ : ProxyRun) = run at h
  cases h with
  | methodReply hawait => exact absurd (ProxyRun.mk.inj hrun).2.1 (hwrites [_])
  | authReply hauth hawait => exact absurd (ProxyRun.mk.inj hrun).2.1 (hwrites [_, _])
  | finalReply hhead hrequest hlow hawait => exact absurd (ProxyRun.mk.inj hrun).2.1 (hwrites _)
  | failed => simpa using (List.append_inj' (ProxyRun.mk.inj hrun).2.1 rfl).2
  | succeeded hhead hrequest hlen hneed hfull hhanded hpending =>
    obtain ⟨rfl, hlog, rfl⟩ := ProxyRun.mk.inj hrun
    obtain ⟨rfl, hlast⟩ := List.append_inj' hlog rfl
    obtain ⟨rfl, -⟩ := ProxyEffect.proxySuccess.inj (List.cons.inj hlast).1
    exact .succeeded hhead hrequest hlen hneed hfull hhanded hpending

/-- The port of the endpoint decides at most how an address of the reply is written. -/
theorem replyAddress_cases (port port' : UInt16) (atyp length : UInt8) :
    replyAddress port atyp length = replyAddress port' atyp length ∨ ∃ addrsize toSockAddr toSockAddr',
      replyAddress port atyp length = some (addrsize, some toSockAddr) ∧
        replyAddress port' atyp length = some (addrsize, some toSockAddr') := by
  unfold replyAddress
  split
  · exact Or.inr ⟨_, _, _, rfl, rfl⟩
  · exact Or.inr ⟨_, _, _, rfl, rfl⟩
  · exact Or.inl rfl
  · exact Or.inl rfl

/-- The last callback looks at names only to name a connection. -/
theorem readFinal_renamed {proxy : CBareProxy} {result : CBareProxy × List ProxyEffect} (names : NameInfo)
    (hresult : proxy.readFinal names' bev = some result) :
    proxy.readFinal names bev = some result ∨ ∃ handed resolved other, result.2 = [.proxySuccess handed resolved] ∧
      proxy.readFinal names bev = some (result.1, [.proxySuccess handed other]) := by
  rcases replyAddress_cases (proxy.conn.getPort names') (proxy.conn.getPort names) ((bev.input.copyout 5).getD 3 0)
    ((bev.input.copyout 5).getD 4 0) with hsame | ⟨addrsize, toSockAddr, toSockAddr', haddress, haddress'⟩
  · simp only [CBareProxy.readFinal, hsame] at hresult
    exact Or.inl hresult
  · simp only [CBareProxy.readFinal, haddress] at hresult
    simp only [CBareProxy.readFinal, haddress']
    have hneed : needSize (addrsize, some toSockAddr') = needSize (addrsize, some toSockAddr) := rfl
    rw [hneed]
    split at hresult
    · contradiction
    · next hlen =>
      rw [if_neg hlen]
      split at hresult
      · next hwrong => exact Or.inl (by rw [if_pos hwrong]; exact hresult)
      · next hstart =>
        rw [if_neg hstart]
        split at hresult
        · next hmore => exact Or.inl (by rw [if_pos hmore]; exact hresult)
        · next hfull =>
          rw [if_neg hfull]
          split at hresult
          · contradiction
          · next hread =>
            rw [if_neg hread]
            obtain rfl := Option.some.inj hresult
            exact Or.inr ⟨_, _, _, rfl, rfl⟩

/-- A handshake goes on as one, though its names may change. -/
theorem Handshake.step_renamed (h : Handshake names conn True run) {s : ProxyStep}
    (hnext : run.step names' s = some next) : ∃ names, Handshake names conn True next := by
  cases h with
  | methodReply hawait => exact ⟨names', Handshake.step (.methodReply hawait) hnext⟩
  | authReply hauth hawait => exact ⟨names', Handshake.step (.authReply hauth hawait) hnext⟩
  | failed hreason => exact ⟨names, Option.some.inj hnext ▸ .failed hreason⟩
  | succeeded hhead hrequest hlen hneed hfull hhanded hpending =>
    exact ⟨names, Option.some.inj hnext ▸ .succeeded hhead hrequest hlen hneed hfull hhanded hpending⟩
  | @finalReply bev head input request low hhead hrequest hlow hawait =>
    have handshake : Handshake names conn True _ := .finalReply hhead hrequest hlow hawait
    cases s with
    | arrive chunks => exact ⟨names, @Handshake.step names conn _ next handshake (.arrive chunks) hnext⟩
    | event what => exact ⟨names, @Handshake.step names conn _ next handshake (.event what) hnext⟩
    | readCallback =>
      refine ⟨names, ?_⟩
      generalize hrun : (⟨⟨conn, some bev⟩, (greetingWrites conn.proxy.auth head ++ [request]).map .write,
        head ++ input⟩ : ProxyRun) = run at *
      have hbev : run.proxy.bev = some bev := by rw [← hrun]
      cases hdue : run.due with
      | false => exact Option.some.inj ((step_readCallback_of_not_due hdue).symm.trans hnext) ▸ handshake
      | true =>
        rw [step_readCallback hbev hdue, CBareProxy.runReadcb_readFinal hawait.dispatched.readcb] at hnext
        obtain ⟨result, hresult, rfl⟩ := Option.map_eq_some_iff.mp hnext
        have hstep {result : CBareProxy × List ProxyEffect}
            (hresult : CBareProxy.readFinal names (run.dispatched bev).proxy { bev with readPending := false } =
              some result) : Handshake names conn True (run.perform result) := by
          refine @Handshake.step names conn _ _ handshake .readCallback ?_
          rw [step_readCallback hbev hdue, CBareProxy.runReadcb_readFinal hawait.dispatched.readcb, hresult,
            Option.map_some]
        rcases readFinal_renamed names hresult with hsame | ⟨handed, resolved, other, heffects, hother⟩
        · exact hstep hsame
        · have hresolved := (hstep hother).resolved resolved
          rwa [← heffects] at hresolved

/-- The object of a handshake is the one for its connection. -/
theorem Handshake.proxy_conn (h : Handshake names conn True run) : run.proxy.conn = conn := by
  cases h <;> rfl

/-- A handshake that is on wrote last. -/
theorem Handshake.getLast?_of_open (h : Handshake names conn True run) (hbev : run.proxy.bev = some bev) :
    ∃ data, run.log.getLast? = some (.write data) := by
  cases h with
  | methodReply => exact ⟨_, rfl⟩
  | authReply => exact ⟨_, rfl⟩
  | finalReply => exact ⟨_, by rw [List.map_append, List.map_singleton, List.getLast?_concat]⟩
  | failed => contradiction
  | succeeded => contradiction

/-- A handshake that has ended reported its one outcome last. -/
theorem Handshake.getLast?_of_ended (h : Handshake names conn True run) (hbev : run.proxy.bev = none) :
    ∃ outcome, run.log.getLast? = some outcome ∧ outcomes run.log = [outcome] ∧
      (outcome = .proxyFailure ∨ ∃ handed resolved, outcome = .proxySuccess handed resolved) := by
  cases h with
  | methodReply => contradiction
  | authReply => contradiction
  | finalReply => contradiction
  | failed =>
    exact ⟨_, List.getLast?_concat, by rw [outcomes_append, outcomes_map_write]; rfl, Or.inl rfl⟩
  | succeeded =>
    exact ⟨_, List.getLast?_concat, by rw [outcomes_append, outcomes_map_write]; rfl, Or.inr ⟨_, _, rfl⟩⟩

/-- While a handshake is on, a step adds to what was received what it brings. -/
theorem Handshake.step_received (h : Handshake names conn True run) (hbev : run.proxy.bev = some bev)
    {s : ProxyStep} (hnext : run.step names' s = some next) :
    next.received = run.received ++ arrivedBytes [s] := by
  have hsilent {r : ProxyRun} (hreceived : r.received = run.received) :
      r.received = run.received ++ [] := hreceived.trans (List.append_nil _).symm
  cases s with
  | arrive chunks =>
    obtain ⟨other, hother, -, hreceived⟩ := h.arrive chunks
    have hsame : run.step names' (.arrive chunks) = run.step names (.arrive chunks) := by
      simp only [ProxyRun.step, hbev]
    obtain rfl := Option.some.inj (hother.symm.trans (hsame.symm.trans hnext))
    rw [hreceived, hbev, Option.isSome_some, if_pos rfl]
    simp [arrivedBytes]
  | event what =>
    simp only [ProxyRun.step, hbev, Option.some.injEq] at hnext
    exact hsilent (by rw [← hnext]; rfl)
  | readCallback =>
    simp only [ProxyRun.step, hbev] at hnext
    split at hnext
    · obtain ⟨result, -, rfl⟩ := Option.map_eq_some_iff.mp hnext
      exact hsilent rfl
    · exact hsilent (by rw [Option.some.inj hnext])

end Handshakes

/-- The bytes that the steps of a handshake bring. -/
def shakenBytes (shakes : List Shake) : Bytes := arrivedBytes (shakes.map Prod.snd)

/-- The handshake of a connection, begun on the bufferevent that has connected to the proxy and taken through its
steps. -/
def Shaken (conn : CConnection) (shakes : List Shake) (run : ProxyRun) : Prop :=
  ∃ bare start, BufferEvent.Unused bare ∧ ProxyRun.begin conn bare = some start ∧
    shakes.foldlM (fun run shake => ProxyRun.step shake.1 run shake.2) start = some run

/-- The handshake of a connection has come to where its bufferevent is. -/
def Shaking (conn : CConnection) (shakes : List Shake) (bev : BufferEvent) : Prop :=
  ∃ run, Shaken conn shakes run ∧ run.proxy = ⟨conn, some bev⟩

/-- The handshake of a connection has taken in all the bytes that came, succeeded, and handed its bufferevent
over. -/
def FromHandshake (conn : CConnection) (shakes : List Shake) (bev : BufferEvent) : Prop :=
  ∃ run resolved, Shaken conn shakes run ∧ outcomes run.log = [.proxySuccess bev resolved] ∧
    run.received = shakenBytes shakes

section Shakes

variable {names : NameInfo} {conn : CConnection} {shakes : List Shake} {run next : ProxyRun} {bev : BufferEvent}

/-- It goes on with a step. -/
theorem Shaken.step (shaken : Shaken conn shakes run) {s : ProxyStep} (hnext : run.step names s = some next) :
    Shaken conn (shakes ++ [(names, s)]) next := by
  obtain ⟨bare, start, hunused, hstart, hrun⟩ := shaken
  refine ⟨bare, start, hunused, hstart, ?_⟩
  rw [List.foldlM_append, hrun]
  exact (bind_pure _).trans hnext

/-- It is described as any handshake is, and while it is on it has received what its steps brought. -/
theorem Shaken.handshake (hproxy : conn.proxy.isSet = true) (shaken : Shaken conn shakes run) :
    ∃ names, Handshake names conn True run ∧
      (run.proxy.bev.isSome = true → run.received = shakenBytes shakes) := by
  obtain ⟨bare, start, hunused, hstart, hrun⟩ := shaken
  induction shakes using List.reverseRecOn generalizing run with
  | nil =>
    obtain ⟨other, hother, handshake, hreceived, -⟩ :=
      @begin_handshake conn noNames True bare hproxy (by rw [hunused.input]; rfl)
    obtain rfl := Option.some.inj (hother.symm.trans hstart)
    obtain rfl : other = run := Option.some.inj hrun
    exact ⟨noNames, handshake, fun _ => hreceived⟩
  | append_singleton shakes shake ih =>
    rw [List.foldlM_append] at hrun
    obtain ⟨before, hbefore, hlast⟩ := Option.bind_eq_some_iff.mp hrun
    have hstep : before.step shake.1 shake.2 = some run := (bind_pure _).symm.trans hlast
    obtain ⟨names, handshake, hreceived⟩ := ih hbefore
    obtain ⟨names', handshake'⟩ := handshake.step_renamed hstep
    refine ⟨names', handshake', fun hopen => ?_⟩
    cases hbev : before.proxy.bev with
    | none =>
      obtain rfl := Option.some.inj ((step_of_ended hbev shake.2).symm.trans hstep)
      rw [hbev] at hopen
      contradiction
    | some bev =>
      rw [handshake.step_received hbev hstep, hreceived (by rw [hbev]; rfl)]
      simp [shakenBytes, arrivedBytes]

/-- The step of a bufferevent on its own is the step of the handshake that has come to it. -/
theorem Shaking.step (hproxy : conn.proxy.isSet = true) (shaking : Shaking conn shakes bev) {s : ProxyStep}
    (hnext : ProxyRun.step names ⟨⟨conn, some bev⟩, [], []⟩ s = some next) :
    (∃ bev', next.proxy.bev = some bev' ∧ Shaking conn (shakes ++ [(names, s)]) bev' ∧
        ∀ outcome, next.log.getLast? = some outcome → ∃ data, outcome = .write data) ∨
      next.proxy.bev = none ∧ (next.log.getLast? = some .proxyFailure ∨ ∃ bev' resolved,
        next.log.getLast? = some (.proxySuccess bev' resolved) ∧
          FromHandshake conn (shakes ++ [(names, s)]) bev') := by
  obtain ⟨run, shaken, hrun⟩ := shaking
  have hbev : run.proxy.bev = some bev := congrArg CBareProxy.bev hrun
  have hstep : run.step names s = some ⟨next.proxy, run.log ++ next.log, run.received ++ next.received⟩ := by
    rw [ProxyRun.step_eq_map, hrun, hnext]
    rfl
  obtain ⟨names₁, handshake, hreceived⟩ := shaken.handshake hproxy
  obtain ⟨names₂, handshake'⟩ := handshake.step_renamed hstep
  have hall : run.received ++ next.received = shakenBytes (shakes ++ [(names, s)]) := by
    have hadded := handshake.step_received hbev hstep
    rw [hreceived (by rw [hbev]; rfl)] at hadded
    rw [hreceived (by rw [hbev]; rfl)]
    refine hadded.trans ?_
    simp [shakenBytes, arrivedBytes]
  obtain ⟨data, hwrote⟩ := handshake.getLast?_of_open hbev
  have hlast : (run.log ++ next.log).getLast? = next.log.getLast?.or (some (.write data)) := by
    rw [List.getLast?_append, hwrote]
  cases hended : next.proxy.bev with
  | some bev' =>
    refine Or.inl ⟨bev', rfl, ⟨_, shaken.step hstep, ?_⟩, fun outcome houtcome => ?_⟩
    · have hconn : next.proxy.conn = conn := handshake'.proxy_conn
      rw [← hconn, ← hended]
    · obtain ⟨data', hwrites⟩ := handshake'.getLast?_of_open hended
      rw [hlast, houtcome, Option.some_or] at hwrites
      exact ⟨data', Option.some.inj hwrites⟩
  | none =>
    obtain ⟨outcome, hreported, hone, hkind⟩ := handshake'.getLast?_of_ended hended
    rw [hlast] at hreported
    have hnow : next.log.getLast? = some outcome := by
      cases hlog : next.log.getLast? with
      | some last =>
        rw [hlog, Option.some_or] at hreported
        exact hreported
      | none =>
        rw [hlog, Option.none_or] at hreported
        obtain rfl := Option.some.inj hreported
        rcases hkind with hwrong | ⟨handed, resolved, hwrong⟩
        · contradiction
        · contradiction
    refine Or.inr ⟨rfl, ?_⟩
    rcases hkind with rfl | ⟨handed, resolved, rfl⟩
    · exact Or.inl hnow
    · exact Or.inr ⟨handed, resolved, hnow, _, resolved, shaken.step hstep, hone, hall⟩

end Shakes

/-- The bufferevents that a class holds come from its own attempt, and from the handshake that has taken the
steps. -/
def ConnKind.Own (conn : CConnection) (shakes : List Shake) : ConnKind → Prop
  | .incoming _ => True
  | .direct c => ∀ bev, c.bareBev = some bev → bev.Unused
  | .dns c => ∀ bev, c.bareBev = some bev → bev.Unused
  | .proxied c => (∀ bev, c.bareBev = some bev → bev.Unused ∧ c.proxyBev = none) ∧ (c.proxyBev = none → shakes = []) ∧
      ∀ bev, c.proxyBev = some bev → Shaking conn shakes bev

/-- The bufferevents that connections are established on, outgoing or incoming: through a proxy, the one that the
handshake hands over. -/
def Taken (shakes : List Shake) (outgoing : Bool) (conn : CConnection) (bev : BufferEvent) : Prop :=
  if outgoing && conn.proxy.isSet then FromHandshake conn shakes bev else bev.Unused

/-- A result of a class leaves it with a bufferevent of its own while it waits, and with none of a handshake when it
reports. It hands over the one of its attempt. -/
structure ConnResult.Owns {α : Type} (conn : CConnection) (shakes : List Shake) (kind : α → ConnKind)
    (r : ConnResult α) : Prop where
  own (hreport : r.report = .waiting) : (kind r.obj).Own conn shakes
  idle (hreport : r.report ≠ .waiting) : (kind r.obj).Own conn []
  taken (bev : BufferEvent) (resolved : CConnection) (hreport : r.report = .outgoingConnected bev resolved) :
    Taken shakes true conn bev

section Classes

variable {names : NameInfo} {conn : CConnection} {shakes : List Shake}

/-- A class that waits hands nothing over. -/
theorem ConnResult.Owns.of_waiting {α : Type} {kind : α → ConnKind} {r : ConnResult α}
    (hown : (kind r.obj).Own conn shakes) (hreport : r.report = .waiting) : r.Owns conn shakes kind :=
  ⟨fun _ => hown, fun hnot => absurd hreport hnot,
    fun bev resolved hconnected => absurd (hreport.symm.trans hconnected) (by simp)⟩

/-- Nor does one that fails. -/
theorem ConnResult.Owns.of_failure {α : Type} {kind : α → ConnKind} {r : ConnResult α} {type : ConnectionFailureType}
    {failed : CConnection} {retry : Bool} (hown : (kind r.obj).Own conn [])
    (hreport : r.report = .connectionFailure type failed retry) : r.Owns conn shakes kind :=
  ⟨fun hwaits => absurd (hreport.symm.trans hwaits) (by simp), fun _ => hown,
    fun bev resolved hconnected => absurd (hreport.symm.trans hconnected) (by simp)⟩

/-- `Connect` of a direct connection. -/
theorem CDirectConnection.connect_owns {c : CDirectConnection} {r : ConnResult CDirectConnection}
    (hown : (ConnKind.direct c).Own conn shakes) (hr : c.connect conn = some r) : r.Owns conn shakes .direct := by
  unfold connect at hr
  split at hr
  · contradiction
  · split at hr
    · obtain ⟨bev, hbev, hr⟩ := Option.bind_eq_some_iff.mp hr
      obtain rfl := Option.some.inj hr
      refine .of_waiting (fun other hother => ?_) rfl
      obtain rfl := Option.some.inj hother
      exact unused_of_bareConnect hbev
    · obtain rfl := Option.some.inj hr
      exact .of_failure hown rfl

/-- `conn_event` of a direct connection. -/
theorem CDirectConnection.connEvent_owns {c : CDirectConnection} (hproxy : conn.proxy.isSet = false)
    (hown : (ConnKind.direct c).Own conn shakes) (event : BevEvents) :
    (c.connEvent conn event).Owns conn shakes .direct := by
  unfold connEvent
  split
  · exact .of_waiting hown rfl
  · next bev hbev =>
    split
    · refine ⟨by simp [onConnectSuccess], fun _ => by simp [onConnectSuccess, ConnKind.Own],
        fun other resolved hreport => ?_⟩
      obtain ⟨rfl, -⟩ := ConnReport.outgoingConnected.inj hreport
      rw [Taken, hproxy]
      exact hown bev hbev
    · exact .of_failure (by simp [onConnectFailure, ConnKind.Own]) rfl

namespace CDNSConnection

variable {c : CDNSConnection} {r : ConnResult CDNSConnection}

/-- `OnResolveFailure`. -/
theorem onResolveFailure_owns (hown : (ConnKind.dns c).Own conn shakes) (hr : c.onResolveFailure conn = some r) :
    r.Owns conn shakes .dns := by
  obtain ⟨-, rfl⟩ := onResolveFailure_cases hr
  exact .of_failure hown rfl

/-- `OnConnectFailure`. -/
theorem onConnectFailure_owns (hown : (ConnKind.dns c).Own conn shakes) (hr : c.onConnectFailure conn = some r) :
    r.Owns conn shakes .dns := by
  obtain ⟨addr, iter, -, -, rfl⟩ := onConnectFailure_cases hr
  exact .of_failure hown rfl

/-- `ConnectResolved`. -/
theorem connectResolved_owns (hown : (ConnKind.dns c).Own conn shakes) (hr : c.connectResolved conn = some r) :
    r.Owns conn shakes .dns := by
  unfold connectResolved at hr
  split at hr
  · contradiction
  · split at hr
    · contradiction
    · split at hr
      · obtain ⟨bev, hbev, hr⟩ := Option.bind_eq_some_iff.mp hr
        obtain rfl := Option.some.inj hr
        refine .of_waiting (fun other hother => ?_) rfl
        obtain rfl := Option.some.inj hother
        exact unused_of_bareConnect hbev
      · exact onConnectFailure_owns hown hr

/-- The answer to a request. -/
theorem onResolved_owns (hown : (ConnKind.dns c).Own conn shakes) {result : DnsResult}
    (hr : c.onResolved conn result = some r) : r.Owns conn shakes .dns := by
  rcases onResolved_cases hr with hfails | ⟨first, rest, hconnects⟩
  · exact onResolveFailure_owns hown hfails
  · refine connectResolved_owns ?_ hconnects
    exact hown

/-- `Connect`. -/
theorem connect_owns (hown : (ConnKind.dns c).Own conn shakes) {lookup : Lookup}
    (hr : c.connect names conn lookup = some r) : r.Owns conn shakes .dns := by
  rcases connect_cases hr with hresolves | hconnects
  · rcases doResolve_cases hresolves with ⟨-, family, -, rfl | ⟨result, answered, hanswered, rfl⟩⟩ | hfails
    · exact .of_waiting hown rfl
    · obtain ⟨hleft, hidle, htaken⟩ := onResolved_owns hown hanswered
      exact ⟨hleft, hidle, htaken⟩
    · exact onResolveFailure_owns hown hfails
  · exact connectResolved_owns hown hconnects

/-- `conn_event`. -/
theorem connEvent_owns (hproxy : conn.proxy.isSet = false) (hown : (ConnKind.dns c).Own conn shakes)
    {event : BevEvents} (hr : c.connEvent conn event = some r) : r.Owns conn shakes .dns := by
  unfold connEvent at hr
  split at hr
  · obtain rfl := Option.some.inj hr
    exact .of_waiting hown rfl
  · next bev hbev =>
    split at hr
    · unfold onConnectSuccess at hr
      split at hr
      · contradiction
      · obtain ⟨-, hr⟩ := Option.ite_none_left_eq_some.mp hr
        obtain rfl := Option.some.inj hr
        refine ⟨by simp, fun _ => by simp [ConnKind.Own], fun other resolved hreport => ?_⟩
        obtain ⟨rfl, -⟩ := ConnReport.outgoingConnected.inj hreport
        rw [Taken, hproxy]
        exact hown bev hbev
    · exact onConnectFailure_owns (by simp [ConnKind.Own]) hr

/-- `dns_callback`. -/
theorem dnsCallback_owns (hown : (ConnKind.dns c).Own conn shakes) {result : DnsResult}
    (hr : c.dnsCallback conn result = some r) : r.Owns conn shakes .dns := by
  rcases dnsCallback_cases hr with ⟨-, hanswered⟩ | rfl
  · exact onResolved_owns hown hanswered
  · exact .of_waiting hown rfl

end CDNSConnection

namespace CProxyConn

variable {c : CProxyConn} {r : ConnResult CProxyConn}

/-- Without a bufferevent nothing is owned. -/
theorem own_of_idle (hbare : c.bareBev = none) (hidle : c.proxyBev = none) : (ConnKind.proxied c).Own conn [] :=
  ⟨fun bev hbev => absurd (hbare.symm.trans hbev) (by simp), fun _ => rfl,
    fun bev hbev => absurd (hidle.symm.trans hbev) (by simp)⟩

/-- `Connect` of a connection without a bufferevent. -/
theorem connect_owns (hown : (ConnKind.proxied c).Own conn shakes) (hbare : c.bareBev = none)
    (hidle : c.proxyBev = none) (hr : c.connect conn = some r) : r.Owns conn shakes .proxied := by
  unfold connect at hr
  split at hr
  · contradiction
  · split at hr
    · obtain ⟨bev, hbev, hr⟩ := Option.bind_eq_some_iff.mp hr
      obtain rfl := Option.some.inj hr
      refine .of_waiting ⟨fun other hother => ?_, hown.2⟩ rfl
      obtain rfl := Option.some.inj hother
      exact ⟨unused_of_bareConnect hbev, hidle⟩
    · obtain rfl := Option.some.inj hr
      exact .of_failure (own_of_idle hbare hidle) rfl

/-- `conn_event` begins a handshake on the bufferevent that has connected. -/
theorem connEvent_owns (hown : (ConnKind.proxied c).Own conn shakes) {event : BevEvents}
    (hr : c.connEvent conn event = some r) : r.Owns conn shakes .proxied := by
  unfold connEvent at hr
  split at hr
  · obtain rfl := Option.some.inj hr
    exact .of_waiting hown rfl
  · next bev hbev =>
    obtain ⟨hunused, hidle⟩ := hown.1 bev hbev
    split at hr
    · obtain ⟨begun, hbegun, rfl⟩ := Option.map_eq_some_iff.mp hr
      change CBareProxy.initProxy bev ⟨conn, c.proxyBev⟩ = some begun at hbegun
      rw [hidle] at hbegun
      have hstart : ProxyRun.begin conn bev = some ⟨begun.1, begun.2, []⟩ := by
        rw [ProxyRun.begin, hbegun, Option.map_some]
      have hconn : begun.1.conn = conn := by
        obtain ⟨-, hbegun⟩ := Option.ite_none_left_eq_some.mp hbegun
        rw [← Option.some.inj hbegun]
      obtain rfl := hown.2.1 hidle
      refine .of_waiting ⟨fun other hother => absurd hother (by simp), fun _ => rfl, fun other hother => ?_⟩ rfl
      refine ⟨_, ⟨bev, _, hunused, hstart, rfl⟩, ?_⟩
      rw [← hconn, ← hother]
    · obtain rfl := Option.some.inj hr
      exact .of_failure (own_of_idle rfl hidle) rfl

/-- The handshake goes on with a step, if there is one. -/
theorem handshake_owns (hproxy : conn.proxy.isSet = true) (hown : (ConnKind.proxied c).Own conn shakes) {s : ProxyStep}
    (hr : c.handshake names conn s = some r) :
    r.Owns conn (shakes ++ if c.proxyBev.isSome then [(names, s)] else []) .proxied := by
  obtain ⟨next, hnext, rfl⟩ := Option.map_eq_some_iff.mp hr
  cases hbev : c.proxyBev with
  | none =>
    have hunchanged := Option.some.inj ((ProxyRun.step_of_none names s hbev).symm.trans hnext)
    subst hunchanged
    rw [Option.isSome_none, if_neg (by simp), List.append_nil]
    exact .of_waiting hown rfl
  | some bev =>
    have hbare : c.bareBev = none := by
      cases hbare : c.bareBev with
      | none => rfl
      | some other => exact absurd (hbev.symm.trans (hown.1 other hbare).2) (by simp)
    rw [hbev] at hnext
    rw [Option.isSome_some, if_pos rfl]
    dsimp only
    rcases (hown.2.2 bev hbev).step hproxy hnext with ⟨bev', hopen, hshaking, hwrites⟩ | ⟨hended, houtcome⟩
    · have hown' : (ConnKind.proxied { c with proxyBev := next.proxy.bev }).Own conn (shakes ++ [(names, s)]) := by
        refine ⟨fun other hother => absurd (hbare.symm.trans hother) (by simp),
          fun hnone => absurd (hopen.symm.trans hnone) (by simp), fun other hother => ?_⟩
        obtain rfl := Option.some.inj (hopen.symm.trans hother)
        exact hshaking
      split
      · next hlast => obtain ⟨data, hdata⟩ := hwrites _ hlast; contradiction
      · next hlast => obtain ⟨data, hdata⟩ := hwrites _ hlast; contradiction
      · exact .of_waiting hown' rfl
    · have hidle : (ConnKind.proxied { c with proxyBev := next.proxy.bev }).Own conn [] := own_of_idle hbare hended
      rcases houtcome with hlast | ⟨handed, resolved, hlast, hfrom⟩
      · rw [hlast]
        exact .of_failure (own_of_idle hbare hended) rfl
      · rw [hlast]
        refine ⟨by simp [onProxySuccess], fun _ => hidle, fun other named hreport => ?_⟩
        obtain ⟨rfl, -⟩ := ConnReport.outgoingConnected.inj hreport
        rw [Taken, hproxy]
        exact hfrom

end CProxyConn

end Classes

namespace ConnectionObject

/-- An object of the class for its connection, with bufferevents of its own attempt and of a handshake that has taken
the steps. -/
structure Proper (shakes : List Shake) (obj : ConnectionObject) : Prop where
  suits : obj.kind.Suits obj.base.conn
  own : obj.kind.Own obj.base.conn shakes

variable {obj : ConnectionObject} {r : ConnResult ConnectionObject} {names : NameInfo} {shakes : List Shake}

/-- What a class owns, its object does. -/
theorem owns_settle {α : Type} {conn : CConnection} {kind : α → ConnKind} {r : ConnResult α} (base : ConnectionBase)
    (howns : r.Owns conn shakes kind) : (settle base kind r).Owns conn shakes ConnectionObject.kind :=
  ⟨howns.own, howns.idle, howns.taken⟩

/-- Nothing happens to a proper object. -/
theorem Proper.owns_unchanged (proper : obj.Proper shakes) :
    (ConnResult.unchanged obj).Owns obj.base.conn shakes kind :=
  .of_waiting proper.own rfl

/-- A new object has no bufferevent. -/
theorem proper_new {conn : CConnection} (hconnects : conn.isResolveOnly = false) (id : ConnID)
    (bytesRead bytesWritten : ℕ) : (new conn id bytesRead bytesWritten).Proper [] := by
  unfold new
  cases hproxy : conn.proxy.isSet with
  | true => exact ⟨⟨hproxy, hconnects⟩, CProxyConn.own_of_idle rfl rfl⟩
  | false =>
    cases hdns : conn.isDns with
    | true =>
      refine ⟨⟨hproxy, hdns, hconnects, fun hmiddle => ?_⟩, by simp [ConnKind.Own, CDNSConnection.new]⟩
      simp [CDNSConnection.new] at hmiddle
    | false => exact ⟨⟨hproxy, hdns⟩, by simp [ConnKind.Own, CDirectConnection.new]⟩

/-- `Connect` of an object without a handle. -/
theorem Proper.connect (proper : obj.Proper shakes) (hidle : obj.kind.handles = 0) {lookup : Lookup}
    (hr : obj.connect names lookup = some r) : r.Owns obj.base.conn shakes kind := by
  obtain ⟨base, kind⟩ := obj
  obtain ⟨hsuits, hown⟩ := proper
  cases kind with
  | incoming c =>
    obtain rfl := Option.some.inj hr
    exact owns_settle base ⟨fun _ => trivial, fun _ => trivial, by simp [CIncomingConn.connect]⟩
  | direct c =>
    obtain ⟨result, hresult, rfl⟩ := Option.map_eq_some_iff.mp hr
    exact owns_settle base (CDirectConnection.connect_owns hown hresult)
  | dns c =>
    obtain ⟨result, hresult, rfl⟩ := Option.map_eq_some_iff.mp hr
    exact owns_settle base (CDNSConnection.connect_owns hown hresult)
  | proxied c =>
    obtain ⟨result, hresult, rfl⟩ := Option.map_eq_some_iff.mp hr
    obtain ⟨hbare, hproxyBev⟩ : c.bareBev = none ∧ c.proxyBev = none := by simpa [ConnKind.handles] using hidle
    exact owns_settle base (CProxyConn.connect_owns hown hbare hproxyBev hresult)

/-- `conn_event`. -/
theorem Proper.connEvent (proper : obj.Proper shakes) {event : BevEvents} (hr : obj.connEvent event = some r) :
    r.Owns obj.base.conn shakes kind := by
  obtain ⟨base, kind⟩ := obj
  have hunchanged := proper.owns_unchanged
  obtain ⟨hsuits, hown⟩ := proper
  cases kind with
  | incoming c =>
    obtain rfl := Option.some.inj hr
    exact hunchanged
  | direct c =>
    obtain rfl := Option.some.inj hr
    exact owns_settle base (CDirectConnection.connEvent_owns hsuits.1 hown event)
  | dns c =>
    obtain ⟨result, hresult, rfl⟩ := Option.map_eq_some_iff.mp hr
    exact owns_settle base (CDNSConnection.connEvent_owns hsuits.1 hown hresult)
  | proxied c =>
    obtain ⟨result, hresult, rfl⟩ := Option.map_eq_some_iff.mp hr
    exact owns_settle base (CProxyConn.connEvent_owns hown hresult)

/-- `dns_callback`. -/
theorem Proper.dnsCallback (proper : obj.Proper shakes) {result : DnsResult} (hr : obj.dnsCallback result = some r) :
    r.Owns obj.base.conn shakes kind := by
  obtain ⟨base, kind⟩ := obj
  unfold ConnectionObject.dnsCallback at hr
  split at hr
  · next c hkind =>
    obtain ⟨answered, hanswered, rfl⟩ := Option.map_eq_some_iff.mp hr
    change kind = .dns c at hkind
    subst hkind
    exact owns_settle base (CDNSConnection.dnsCallback_owns proper.own hanswered)
  · obtain rfl := Option.some.inj hr
    exact proper.owns_unchanged

/-- The handshake. -/
theorem Proper.handshake (proper : obj.Proper shakes) {s : ProxyStep} (hr : obj.handshake names s = some r) :
    r.Owns obj.base.conn (shakes ++ if obj.isShaking then [(names, s)] else []) kind := by
  obtain ⟨base, kind⟩ := obj
  unfold ConnectionObject.handshake at hr
  split at hr
  · next c hkind =>
    obtain ⟨result, hresult, rfl⟩ := Option.map_eq_some_iff.mp hr
    change kind = .proxied c at hkind
    subst hkind
    exact owns_settle base (CProxyConn.handshake_owns proper.suits.1 proper.own hresult)
  · next hnot =>
    obtain rfl := Option.some.inj hr
    have hcalm : isShaking ⟨base, kind⟩ = false := by
      unfold isShaking
      split
      · next c hkind => exact absurd hkind (hnot c)
      · rfl
    rw [hcalm, if_neg (by simp), List.append_nil]
    exact proper.owns_unchanged

/-- An object stays proper whatever happens to its base. -/
theorem Proper.of_conn (proper : obj.Proper shakes) {base : ConnectionBase} (hconn : base.conn = obj.base.conn) :
    ({ obj with base } : ConnectionObject).Proper shakes := by
  constructor
  · rw [hconn]
    exact proper.suits
  · rw [hconn]
    exact proper.own

end ConnectionObject

/-- The steps of the handshake that a connection is in: an established one is in none. -/
def Place.shakes (shakes : List Shake) : Place → List Shake
  | .connecting => shakes
  | .connected => []

/-- A method leaves a proper object, or hands over the bufferevent of its attempt. -/
theorem ConnResult.Owns.leaves {obj : ConnectionObject} {r : ConnResult ConnectionObject} {shakes : List Shake}
    (howns : r.Owns obj.base.conn shakes ConnectionObject.kind) (hworks : obj.Works r)
    (hsuits : obj.kind.Suits obj.base.conn) :
    r.Leaves (fun shakes place => ConnectionObject.Proper (place.shakes shakes)) Taken shakes := by
  have hconn := hworks.keeps.1
  have hsuits' : r.obj.kind.Suits r.obj.base.conn := by
    rw [hconn]
    exact hworks.suits hsuits
  unfold ConnResult.Leaves
  cases hreport : r.report with
  | waiting => exact ⟨hsuits', hconn ▸ howns.own hreport⟩
  | connectionFailure type failed retry =>
    exact fun _ newId => ⟨hsuits', hconn ▸ howns.idle (by simp [hreport])⟩
  | outgoingConnected bev resolved =>
    refine ⟨⟨hsuits', hconn ▸ howns.idle (by simp [hreport])⟩, ?_⟩
    rw [hconn]
    exact howns.taken bev resolved hreport
  | incomingConnected bev resolved => trivial

/-- Objects stay proper, and connections are established on the bufferevents of their attempts. -/
theorem lasting_proper : Lasting (fun shakes place => ConnectionObject.Proper (place.shakes shakes)) Taken := by
  constructor
  · intro names lookup conn id bytesRead bytesWritten r _ hconnects hr
    have proper := ConnectionObject.proper_new hconnects id bytesRead bytesWritten
    have hidle : (ConnectionObject.new conn id bytesRead bytesWritten).kind.handles = 0 := by
      unfold ConnectionObject.new
      split
      · rfl
      · split <;> rfl
    exact (proper.connect hidle hr).leaves (ConnectionObject.connect_works hr) proper.suits
  · intro shakes names lookup obj r proper _ hidle hr
    have resumed : ConnectionObject.Proper shakes { obj with base := { obj.base with reconnectFunc := false } } :=
      proper.of_conn rfl
    exact (resumed.connect hidle hr).leaves (ConnectionObject.connect_works hr) resumed.suits
  · exact fun proper _ hr => (proper.connEvent hr).leaves (ConnectionObject.connEvent_works hr) proper.suits
  · exact fun proper _ hr => (proper.dnsCallback hr).leaves (ConnectionObject.dnsCallback_works hr) proper.suits
  · exact fun proper _ hr => (proper.handshake hr).leaves (ConnectionObject.handshake_works hr) proper.suits
  · exact fun conn id bytesRead bytesWritten addr => ⟨⟨trivial, trivial⟩, ⟨rfl, rfl, rfl, rfl, rfl⟩⟩
  · intro shakes obj c base proper hcall
    exact proper.of_conn (ConnectionObject.called_of_call hcall).conn
  · exact fun proper _ hreact _ => proper.of_conn (ConnectionBase.react_spec hreact).1.conn
  · exact fun proper _ hreact _ _ _ newId => proper.of_conn (ConnectionBase.react_spec hreact).1.conn

/-- In every run that issues few ids and in which no connection fails an assertion, what the user has heard of an id
is the history of one connection on its own, on the events that have come to it. Behind a proxy it is established on
the bufferevent that the handshake of the id has handed over. -/
theorem run_histories (inputs : List HandlerInput) (hfew : FewIds (run inputs).trace)
    (hgood : .connection ∉ (run inputs).failed) (k : ConnID) :
    History (Taken (handshakes k new inputs)) k (deliveries k new inputs) (mentions k (run inputs).trace)
      ((run inputs).connected[k]?.map (·.base)) := by
  have hset : ∀ conn : CConnection, conn.isSet = true → conn.isSet = true := fun _ => id
  have hsupplies : ∀ input ∈ inputs, input.Supplies (·.isSet = true) fun _ => True :=
    fun _ _ => ⟨fun _ _ _ => id, fun _ _ => trivial⟩
  exact (run_told lasting_proper hset inputs hsupplies hfew hgood).history k List.not_mem_nil

/-- A connection that is established, reads, and is closed by the user. -/
def readAndClosed : List HandlerInput :=
  [⟨.start 8, .accepting [] .later⟩, ⟨.requestEvent, .accepting [localPeer true] .later⟩,
    ⟨.connEvent .connecting 0 ⟨false, false, false, true⟩, .accepting [] .later⟩,
    ⟨.connection .connected 0 (.socketRead [[0xf9, 0xbe]]), .accepting [] .later⟩,
    ⟨.call (.closeConnection 0 true), .accepting [] .later⟩,
    ⟨.connection .connected 0 .disconnectFunc, .accepting [] .later⟩]

/-- Its history tells both events, and that it is over. -/
theorem run_histories_closed :
    FewIds (run readAndClosed).trace ∧ .connection ∉ (run readAndClosed).failed ∧
      deliveries 0 new readAndClosed = [.socketRead [[0xf9, 0xbe]], .disconnectFunc] ∧
      History (Taken (handshakes 0 new readAndClosed)) 0 (deliveries 0 new readAndClosed)
        (mentions 0 (run readAndClosed).trace)
        ((run readAndClosed).connected[(0 : ConnID)]?.map (·.base)) :=
  ⟨by decide +kernel, by decide +kernel, by decide +kernel,
    run_histories readAndClosed (by decide +kernel) (by decide +kernel) 0⟩

end LibBtcNet
