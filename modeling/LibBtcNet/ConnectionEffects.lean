import LibBtcNet.HandlerStages

/-!
# What events do to an established connection

An event of libevent leaves the connection, its id and its bufferevent in place. What it
reports comes in order: notices first, a malformed message after them, and the end of the
connection last. A connection that is stopped and has no bufferevent meets no event, and
one without a handle of an attempt makes nothing of what comes for an attempt.
-/

namespace LibBtcNet

/-- A report after which the connection goes on. -/
def ConnEffect.Notice (effect : ConnEffect) : Prop := effect ≠ .onMalformedMessage ∧ effect ≠ .disconnectInt

/-- Notices, and then perhaps the end, right before which a malformed message may come. -/
def ConnEffect.Ordered (effects : List ConnEffect) : Prop :=
  ∃ notices ending, effects = notices ++ ending ∧ (∀ effect ∈ notices, effect.Notice) ∧
    (ending = [] ∨ ending = [.disconnectInt] ∨ ending = [.onMalformedMessage, .disconnectInt])

/-- What a read callback asks and reports. -/
inductive ConnEffect.OfReading : ConnEffect → Prop
  | evbufferExpand (size : ℕ) : OfReading (.evbufferExpand size)
  | onReceiveMessages (msgs : List Bytes) (totalsize : ℕ) : OfReading (.onReceiveMessages msgs totalsize)
  | onMalformedMessage : OfReading .onMalformedMessage
  | disconnectInt : OfReading .disconnectInt

namespace ConnEffect

/-- Notices alone are in order. -/
theorem Ordered.of_notices {effects : List ConnEffect} (hnotices : ∀ effect ∈ effects, effect.Notice) :
    Ordered effects :=
  ⟨effects, [], by simp, hnotices, Or.inl rfl⟩

/-- So is a single notice. -/
theorem Ordered.of_notice {effect : ConnEffect} (hnotice : effect.Notice) : Ordered [effect] :=
  .of_notices fun _ hother => (List.mem_singleton.mp hother).symm ▸ hnotice

/-- So is the end alone. -/
theorem Ordered.of_end : Ordered [.disconnectInt] := ⟨[], _, rfl, by simp, Or.inr (Or.inl rfl)⟩

end ConnEffect

namespace ConnectionBase

/-- What an event leaves as it was. -/
structure Keeps (base base' : ConnectionBase) : Prop where
  conn : base'.conn = base.conn
  id : base'.id = base.id
  bev : base'.bev.isSome = base.bev.isSome
  reconnectFunc : base'.reconnectFunc = base.reconnectFunc

variable {base base' : ConnectionBase} {effects : List ConnEffect}

/-- What `read_cb_message` asks and reports. -/
theorem readCbMessage_ofReading {config : CNetworkConfig} {bev bev' : BufferEvent}
    (hread : readCbMessage config bev = some (bev', effects)) : ∀ effect ∈ effects, effect.OfReading := by
  obtain ⟨r, -, hr⟩ := Option.map_eq_some_iff.mp hread
  obtain ⟨-, rfl⟩ := Prod.mk.inj hr
  intro effect heffect
  rcases List.mem_append.mp heffect with hexpand | hreport
  · unfold expandRequest at hexpand
    dsimp only at hexpand
    split_ifs at hexpand
    · obtain rfl := List.mem_singleton.mp hexpand
      exact .evbufferExpand _
    · contradiction
  · rcases List.mem_append.mp hreport with hmsgs | hbad
    · split_ifs at hmsgs
      · obtain rfl := List.mem_singleton.mp hmsgs
        exact .onReceiveMessages _ _
      · contradiction
    · split_ifs at hbad
      · rcases List.mem_cons.mp hbad with rfl | hlast
        · exact .onMalformedMessage
        · obtain rfl := List.mem_singleton.mp hlast
          exact .disconnectInt
      · contradiction

/-- What `read_cb_chunk` asks and reports. -/
theorem readCbChunk_ofReading {config : CNetworkConfig} {bev bev' : BufferEvent}
    (hread : readCbChunk config bev = some (bev', effects)) : ∀ effect ∈ effects, effect.OfReading := by
  unfold readCbChunk at hread
  split at hread
  · contradiction
  · obtain ⟨-, rfl⟩ := Prod.mk.inj (Option.some.inj hread)
    intro effect heffect
    rcases List.mem_cons.mp heffect with rfl | hmsgs
    · exact .evbufferExpand _
    · split_ifs at hmsgs
      · obtain rfl := List.mem_singleton.mp hmsgs
        exact .onReceiveMessages _ _
      · contradiction

/-- The reports of `read_cb_message` are in order. -/
theorem readCbMessage_ordered {config : CNetworkConfig} {bev bev' : BufferEvent}
    (hread : readCbMessage config bev = some (bev', effects)) : ConnEffect.Ordered effects := by
  obtain ⟨r, -, hr⟩ := Option.map_eq_some_iff.mp hread
  obtain ⟨-, rfl⟩ := Prod.mk.inj hr
  refine ⟨expandRequest config r ++ if r.totalsize ≠ 0 then [.onReceiveMessages r.msgs r.totalsize] else [],
    if r.fTooBig || r.fBadMsgStart then [.onMalformedMessage, .disconnectInt] else [], ?_,
      fun effect heffect => ?_, ?_⟩
  · rw [readLoopReports, List.append_assoc]
  · rcases List.mem_append.mp heffect with hexpand | hmsgs
    · simp only [expandRequest] at hexpand
      split at hexpand
      · obtain rfl := List.mem_singleton.mp hexpand
        exact ⟨by simp, by simp⟩
      · contradiction
    · split at hmsgs
      · obtain rfl := List.mem_singleton.mp hmsgs
        exact ⟨by simp, by simp⟩
      · contradiction
  · split
    · exact Or.inr (Or.inr rfl)
    · exact Or.inl rfl

/-- The reports of `read_cb_chunk` are notices. -/
theorem readCbChunk_ordered {config : CNetworkConfig} {bev bev' : BufferEvent}
    (hread : readCbChunk config bev = some (bev', effects)) : ConnEffect.Ordered effects := by
  unfold readCbChunk at hread
  split at hread
  · contradiction
  · obtain ⟨-, rfl⟩ := Prod.mk.inj (Option.some.inj hread)
    refine .of_notices fun effect heffect => ?_
    rcases List.mem_cons.mp heffect with rfl | hmsgs
    · exact ⟨by simp, by simp⟩
    · split at hmsgs
      · obtain rfl := List.mem_singleton.mp hmsgs
        exact ⟨by simp, by simp⟩
      · contradiction

/-- Any event. -/
theorem react_spec {event : ConnEvent} (hreact : base.react event = some (base', effects)) :
    base.Keeps base' ∧ ConnEffect.Ordered effects := by
  cases reacts_of_react hreact with
  | disconnect => exact ⟨⟨rfl, rfl, rfl, rfl⟩, .of_end⟩
  | closing hbev => exact ⟨⟨rfl, rfl, by rw [hbev]; rfl, rfl⟩, .of_notices (by simp)⟩
  | finished hbev => exact ⟨⟨rfl, rfl, by rw [hbev]; rfl, rfl⟩, .of_end⟩
  | full hbev => exact ⟨⟨rfl, rfl, by rw [hbev]; rfl, rfl⟩, .of_notice ⟨by simp, by simp⟩⟩
  | room => exact ⟨⟨rfl, rfl, rfl, rfl⟩, .of_notices (by simp)⟩
  | pingTimeout => exact ⟨⟨rfl, rfl, rfl, rfl⟩, .of_notice ⟨by simp, by simp⟩⟩
  | firstData hbev => exact ⟨⟨rfl, rfl, by rw [hbev]; rfl, rfl⟩, .of_notices (by simp)⟩
  | arrived hbev => exact ⟨⟨rfl, rfl, by rw [hbev]; rfl, rfl⟩, .of_notice ⟨by simp, by simp⟩⟩
  | arrivedNothing hbev => exact ⟨⟨rfl, rfl, by rw [hbev]; rfl, rfl⟩, .of_notices (by simp)⟩
  | drained hbev => exact ⟨⟨rfl, rfl, by rw [hbev]; rfl, rfl⟩, .of_notice ⟨by simp, by simp⟩⟩
  | drainedNothing hbev => exact ⟨⟨rfl, rfl, by rw [hbev]; rfl, rfl⟩, .of_notices (by simp)⟩
  | raised hbev => exact ⟨⟨rfl, rfl, by rw [hbev]; rfl, rfl⟩, .of_notices (by simp)⟩
  | readMessage hbev hreadcb hread =>
    exact ⟨⟨rfl, rfl, by rw [hbev]; rfl, rfl⟩, readCbMessage_ordered hread⟩
  | readChunk hbev hreadcb hread =>
    exact ⟨⟨rfl, rfl, by rw [hbev]; rfl, rfl⟩, readCbChunk_ordered hread⟩
  | unread hbev => exact ⟨⟨rfl, rfl, by rw [hbev]; rfl, rfl⟩, .of_notices (by simp)⟩
  | ready hbev => exact ⟨⟨rfl, rfl, by rw [hbev]; rfl, rfl⟩, .of_notice ⟨by simp, by simp⟩⟩
  | flushed hbev => exact ⟨⟨rfl, rfl, by rw [hbev]; rfl, rfl⟩, .of_end⟩
  | unwritten hbev => exact ⟨⟨rfl, rfl, by rw [hbev]; rfl, rfl⟩, .of_notices (by simp)⟩
  | lost hbev => exact ⟨⟨rfl, rfl, by rw [hbev]; rfl, rfl⟩, .of_end⟩
  | notLost hbev => exact ⟨⟨rfl, rfl, by rw [hbev]; rfl, rfl⟩, .of_notices (by simp)⟩

/-- A connection that is stopped and has no bufferevent meets no event. -/
theorem Stopped.not_armed (stopped : base.Stopped) (hbev : base.bev = none) (event : ConnEvent) :
    base.armed event = false := by
  obtain ⟨hdisconnect, hwait, hcheck, hping, hfirst⟩ := stopped
  unfold armed
  rw [hbev]
  cases event with
  | disconnectFunc => exact hdisconnect
  | disconnectWaitFunc => exact hwait
  | checkWriteBufferFunc => exact hcheck
  | pingTimeoutFunc => exact hping
  | firstDataFunc => exact hfirst
  | _ => rfl

/-- `DisconnectInt` stops a connection. -/
theorem disconnectInt_stopped (base : ConnectionBase) : base.disconnectInt.Stopped := ⟨rfl, rfl, rfl, rfl, rfl⟩

end ConnectionBase

namespace ConnectionObject

variable {obj : ConnectionObject} {r : ConnResult ConnectionObject} {names : NameInfo}

/-- An object without a handle does nothing at `conn_event`. -/
theorem connEvent_of_idle {event : BevEvents} (hidle : obj.kind.handles = 0) (hr : obj.connEvent event = some r) :
    r = ConnResult.unchanged obj := by
  obtain ⟨base, kind⟩ := obj
  cases kind with
  | incoming c => exact (Option.some.inj hr).symm
  | direct c =>
    have hbare : c.bareBev = none := by simpa [ConnKind.handles] using hidle
    obtain rfl := Option.some.inj hr
    rw [CDirectConnection.connEvent, hbare]
    rfl
  | dns c =>
    obtain ⟨hbare, -⟩ : c.bareBev = none ∧ c.request = false := by simpa [ConnKind.handles] using hidle
    obtain ⟨result, hresult, rfl⟩ := Option.map_eq_some_iff.mp hr
    rw [CDNSConnection.connEvent, hbare] at hresult
    obtain rfl := Option.some.inj hresult
    rfl
  | proxied c =>
    obtain ⟨hbare, -⟩ : c.bareBev = none ∧ c.proxyBev = none := by simpa [ConnKind.handles] using hidle
    obtain ⟨result, hresult, rfl⟩ := Option.map_eq_some_iff.mp hr
    rw [CProxyConn.connEvent, hbare] at hresult
    obtain rfl := Option.some.inj hresult
    rfl

/-- Nor at `dns_callback`. -/
theorem dnsCallback_of_idle {result : DnsResult} (hidle : obj.kind.handles = 0)
    (hr : obj.dnsCallback result = some r) : r = ConnResult.unchanged obj := by
  obtain ⟨base, kind⟩ := obj
  unfold dnsCallback at hr
  split at hr
  · next c hkind =>
    change kind = .dns c at hkind
    subst hkind
    obtain ⟨-, hrequest⟩ : c.bareBev = none ∧ c.request = false := by simpa [ConnKind.handles] using hidle
    obtain ⟨answered, hanswered, rfl⟩ := Option.map_eq_some_iff.mp hr
    rw [CDNSConnection.dnsCallback, hrequest] at hanswered
    obtain rfl := Option.some.inj hanswered
    rfl
  · exact (Option.some.inj hr).symm

/-- Nor in a handshake. -/
theorem handshake_of_idle {s : ProxyStep} (hidle : obj.kind.handles = 0) (hr : obj.handshake names s = some r) :
    r = ConnResult.unchanged obj := by
  obtain ⟨base, kind⟩ := obj
  unfold handshake at hr
  split at hr
  · next c hkind =>
    change kind = .proxied c at hkind
    subst hkind
    obtain ⟨-, hproxy⟩ : c.bareBev = none ∧ c.proxyBev = none := by simpa [ConnKind.handles] using hidle
    obtain ⟨result, hresult, rfl⟩ := Option.map_eq_some_iff.mp hr
    obtain ⟨run, hrun, rfl⟩ := Option.map_eq_some_iff.mp hresult
    rw [ProxyRun.step_of_none names s hproxy] at hrun
    obtain rfl := Option.some.inj hrun
    rfl
  · exact (Option.some.inj hr).symm

end ConnectionObject

/-- A step keeps what is configured and the bufferevent, and begins no retry. -/
theorem ConnRun.step_keeps {run next : ConnRun} {s : ConnStep} (hstep : run.step s = some next) :
    next.base.conn = run.base.conn ∧ next.base.bev.isSome = run.base.bev.isSome ∧
      (run.base.reconnectFunc = false → next.base.reconnectFunc = false) := by
  cases s with
  | call c =>
    simp only [step, call] at hstep
    split at hstep
    · obtain rfl := Option.some.inj hstep
      exact ⟨rfl, rfl, id⟩
    · obtain ⟨base', hcall, rfl⟩ := Option.map_eq_some_iff.mp hstep
      have hcalled := @ConnectionObject.called_of_call ⟨run.base, .incoming ⟨[]⟩⟩ base' c hcall
      exact ⟨hcalled.conn, hcalled.bev, hcalled.reconnectFunc.trans⟩
  | event e =>
    simp only [step, event] at hstep
    split at hstep
    · obtain ⟨⟨base', effects⟩, hreact, rfl⟩ := Option.map_eq_some_iff.mp hstep
      obtain ⟨hconn, -, hbev, hretry⟩ := (ConnectionBase.react_spec hreact).1
      refine ⟨?_, ?_, fun hfalse => ?_⟩
      · rw [performAll_conn, hconn]
      · rw [performAll_field (·.bev.isSome) fun base => by simp [ConnectionBase.disconnectInt]]
        exact hbev
      · exact @performAll_invariant (fun base => base.reconnectFunc = false) (fun _ _ => rfl) run (base', effects)
          (hretry.trans hfalse)
    · obtain rfl := Option.some.inj hstep
      exact ⟨rfl, rfl, id⟩

/-- A step does not change what is configured. -/
theorem ConnRun.step_conn {run next : ConnRun} {s : ConnStep} (hstep : run.step s = some next) :
    next.base.conn = run.base.conn := (step_keeps hstep).1

end LibBtcNet
