import LibBtcNet.ConnectionEffects
import LibBtcNet.HandlerFrame
import LibBtcNet.Support.Runs

/-!
# What the user hears of an id

Two views of an established connection are put side by side. On its own it is a run of calls and
events that reports effects; in the handler it is a number of callbacks that mention its id, between
which the user may call anything. The history of an id says that the second view is the first one:
the connection was announced, it reports what a run of its own on the same events reports, in the same
order, and it ends when that run closes or the handler shuts down.
-/

namespace LibBtcNet

open CConnectionHandlerInt Runs

/-- Calls of the user lead from a connection to another. -/
def ConnectionBase.Reached (base base' : ConnectionBase) : Prop :=
  ∃ calls : List ConnCall, calls.foldlM ConnectionBase.call base = some base'

namespace ConnectionBase.Reached

variable {base base' base'' : ConnectionBase}

/-- Without a call. -/
theorem refl (base : ConnectionBase) : base.Reached base := ⟨[], rfl⟩

/-- Calls after calls. -/
theorem trans (first : base.Reached base') (second : base'.Reached base'') : base.Reached base'' := by
  obtain ⟨calls, hcalls⟩ := first
  obtain ⟨later, hlater⟩ := second
  refine ⟨calls ++ later, ?_⟩
  rw [List.foldlM_append, hcalls]
  exact hlater

/-- One call. -/
theorem of_call {c : ConnCall} (hcall : base.call c = some base') : base.Reached base' := by
  refine ⟨[c], ?_⟩
  rw [List.foldlM_cons, hcall]
  rfl

/-- What every call keeps. -/
theorem invariant {Inv : ConnectionBase → Prop}
    (hkeep : ∀ base c base', Inv base → base.call c = some base' → Inv base') (hbase : Inv base)
    (reached : base.Reached base') : Inv base' := by
  obtain ⟨calls, hcalls⟩ := reached
  exact foldlM_invariant hkeep hbase hcalls

/-- The connection stays, under its id and with its bufferevent. -/
theorem keeps (reached : base.Reached base') :
    base'.conn = base.conn ∧ base'.id = base.id ∧ base'.bev.isSome = base.bev.isSome := by
  refine @invariant base base' (fun other => other.conn = base.conn ∧ other.id = base.id ∧
    other.bev.isSome = base.bev.isSome) (fun other c next hother hcall => ?_) ⟨rfl, rfl, rfl⟩ reached
  have hcalled := @ConnectionObject.called_of_call ⟨other, .incoming ⟨[]⟩⟩ next c hcall
  exact ⟨hcalled.conn.trans hother.1, hcalled.id.trans hother.2.1, hcalled.bev.trans hother.2.2⟩

/-- A connection that has ended is tried again as if the calls of its last callbacks had not been made. -/
theorem retry_disconnectInt (reached : base.Reached base') (newId : ConnID) :
    base'.disconnectInt.retry newId = base.disconnectInt.retry newId := by
  refine @invariant base base' (fun other => other.disconnectInt.retry newId = base.disconnectInt.retry newId)
    (fun other c next hother hcall => ?_) rfl reached
  cases calls_of_call hcall <;> exact hother

end ConnectionBase.Reached

/-- The event of a step. -/
def ConnStep.event? : ConnStep → Option ConnEvent
  | .call _ => none
  | .event e => some e

namespace ConnRun

variable {run next : ConnRun} {base : ConnectionBase}

/-- The step of a connection to which only those events come that libevent can bring. -/
def take (run : ConnRun) : ConnStep → Option ConnRun
  | .call c => run.call c
  | .event e => if !run.closed && run.base.armed e then run.event e else none

/-- It is a step. -/
theorem step_of_take {s : ConnStep} (htake : run.take s = some next) : run.step s = some next := by
  cases s with
  | call c => exact htake
  | event e => exact (Option.ite_none_right_eq_some.mp htake).2

/-- An event that comes is armed on an open connection. -/
theorem armed_of_take {e : ConnEvent} (htake : run.take (.event e) = some next) :
    run.closed = false ∧ run.base.armed e = true := by
  simpa using (Option.ite_none_right_eq_some.mp htake).1

/-- An armed event has the effects of the object's reaction. -/
theorem take_of_armed {e : ConnEvent} {result : ConnectionBase × List ConnEffect} (hopen : run.closed = false)
    (harmed : run.base.armed e = true) (hreact : run.base.react e = some result) :
    run.take (.event e) = some (run.performAll result) := by
  simp only [take, hopen, harmed, Bool.not_false, Bool.and_self, if_true]
  exact event_of_armed hopen harmed hreact

/-- Calls on an open connection replace the object. -/
theorem foldlM_call_of_reached (hopen : run.closed = false) (reached : run.base.Reached base) :
    ∃ steps : List ConnStep, steps.foldlM take run = some { run with base } ∧
      steps.filterMap ConnStep.event? = [] := by
  obtain ⟨calls, hcalls⟩ := reached
  induction calls generalizing run with
  | nil =>
    obtain rfl : run.base = base := Option.some.inj hcalls
    exact ⟨[], rfl, rfl⟩
  | cons c calls ih =>
    rw [List.foldlM_cons] at hcalls
    obtain ⟨next, hcall, hrest⟩ := Option.bind_eq_some_iff.mp hcalls
    obtain ⟨steps, hsteps, hsilent⟩ := @ih { run with base := next } hopen hrest
    refine ⟨.call c :: steps, ?_, hsilent⟩
    rw [List.foldlM_cons, take, call_of_open hopen hcall]
    exact hsteps

end ConnRun

/-- The callbacks that announce a connection, outgoing or incoming, which the user keeps. -/
inductive Announces (k : ConnID) (conn : CConnection) : Bool → List (Callback × Bool) → Prop
  | incoming (resolved : CConnection) : Announces k conn false [(.onIncomingConnection k conn resolved, true)]
  | outgoing (resolved : CConnection) (ret : Bool) :
    Announces k conn true [(.onOutgoingConnection k conn resolved, true), (.onReadyForFirstSend k, ret)]

/-- What the user has heard of an id is what a connection reports that was established on its own, on a
bufferevent as it should be, and has met the events since. -/
inductive Explains (S : Bool → CConnection → BufferEvent → Prop) (k : ConnID) (events : List ConnEvent) :
    List (Callback × Bool) → ConnRun → Prop where
  | intro {outgoing : Bool} {base : ConnectionBase} {bev : BufferEvent} {steps : List ConnStep} {run : ConnRun}
    {announced reports : List (Callback × Bool)} (hid : base.id = k) (hbev : S outgoing base.conn bev)
    (hrun : steps.foldlM ConnRun.take (ConnRun.established base bev) = some run)
    (hevents : events = steps.filterMap ConnStep.event?) (hannounced : Announces k base.conn outgoing announced)
    (hreports : reports.map Prod.fst = run.log.filterMap (effectCallback k)) :
    Explains S k events (announced ++ reports) run

/-- What the user has heard of an id to which the events have come, and the object established under it. -/
inductive History (S : Bool → CConnection → BufferEvent → Prop) (k : ConnID) :
    List ConnEvent → List (Callback × Bool) → Option ConnectionBase → Prop where
  | unknown : History S k [] [] none
  | refusedIncoming (bind resolved : CConnection) :
      History S k [] [(.onIncomingConnection k bind resolved, false)] none
  | refusedOutgoing {conn : CConnection} {bev : BufferEvent} (hbev : S true conn bev) (resolved : CConnection) :
    History S k [] [(.onOutgoingConnection k conn resolved, false)] none
  | live {events : List ConnEvent} {heard : List (Callback × Bool)} {run : ConnRun}
    (explains : Explains S k events heard run) (hopen : run.closed = false) : History S k events heard (some run.base)
  | closed {events : List ConnEvent} {heard : List (Callback × Bool)} {run : ConnRun} {reconnect ret : Bool}
    (explains : Explains S k events heard run) (hclosed : run.closed = true)
    (hreconnect : reconnect = true → run.base.conn.opts.fPersistent = true) :
    History S k events (heard ++ [(.onDisconnected k reconnect, ret)]) none
  | shutDown {events : List ConnEvent} {heard : List (Callback × Bool)} {run : ConnRun} {ret : Bool}
    (explains : Explains S k events heard run) (hopen : run.closed = false) :
    History S k events (heard ++ [(.onDisconnected k false, ret)]) none

namespace Explains

variable {S : Bool → CConnection → BufferEvent → Prop} {k : ConnID} {events : List ConnEvent}
  {heard : List (Callback × Bool)} {run next : ConnRun} {base : ConnectionBase}

/-- A connection just established has met nothing and reported nothing. -/
theorem established {outgoing : Bool} {bev : BufferEvent} {announced : List (Callback × Bool)} (hid : base.id = k)
    (hbev : S outgoing base.conn bev) (hannounced : Announces k base.conn outgoing announced) :
    Explains S k [] announced (ConnRun.established base bev) := by
  have hintro : Explains S k [] (announced ++ []) (ConnRun.established base bev) :=
    @Explains.intro S k [] outgoing base bev [] _ announced [] hid hbev rfl rfl hannounced rfl
  rwa [List.append_nil] at hintro

/-- It goes on with what its steps bring and report. -/
theorem append {later : List ConnStep} {reports : List (Callback × Bool)} {items : List ConnEffect}
    (explains : Explains S k events heard run) (hlater : later.foldlM ConnRun.take run = some next)
    (hlog : next.log = run.log ++ items) (hreports : reports.map Prod.fst = items.filterMap (effectCallback k)) :
    Explains S k (events ++ later.filterMap ConnStep.event?) (heard ++ reports) next := by
  obtain @⟨outgoing, base, bev, steps, _, announced, told, hid, hbev, hrun, hevents, hannounced, htold⟩ := explains
  have hsteps : (steps ++ later).foldlM ConnRun.take (ConnRun.established base bev) = some next := by
    rw [List.foldlM_append, hrun]
    exact hlater
  have hbrought : events ++ later.filterMap ConnStep.event? = (steps ++ later).filterMap ConnStep.event? := by
    rw [hevents, List.filterMap_append]
  rw [List.append_assoc]
  refine .intro hid hbev hsteps hbrought hannounced ?_
  rw [List.map_append, htold, hreports, hlog, List.filterMap_append]

/-- Calls bring nothing and report nothing. -/
theorem reached (explains : Explains S k events heard run) (hopen : run.closed = false)
    (hreached : run.base.Reached base) : Explains S k events heard { run with base } := by
  obtain ⟨steps, hsteps, hsilent⟩ := ConnRun.foldlM_call_of_reached hopen hreached
  have hlog : ({ run with base } : ConnRun).log = run.log ++ [] := (List.append_nil _).symm
  have hexplains := @append S k events heard run _ steps [] [] explains hsteps hlog rfl
  rwa [hsilent, List.append_nil, List.append_nil] at hexplains

/-- An established connection holds a bufferevent. -/
theorem bev_isSome (explains : Explains S k events heard run) : run.base.bev.isSome = true := by
  obtain ⟨-, -, hrun, -, -, -⟩ := explains
  exact foldlM_invariant (fun _ _ _ hbev htake => (ConnRun.step_keeps (ConnRun.step_of_take htake)).2.1.trans hbev)
    rfl hrun

end Explains

namespace History

variable {S : Bool → CConnection → BufferEvent → Prop} {k : ConnID} {events : List ConnEvent}
  {heard : List (Callback × Bool)} {base base' : ConnectionBase}

/-- An established connection holds a bufferevent. -/
theorem bev_isSome (history : History S k events heard (some base)) : base.bev.isSome = true := by
  cases history with
  | live explains hopen => exact explains.bev_isSome

/-- The user's calls change the connection and nothing that was heard of it. -/
theorem reached (history : History S k events heard (some base)) (hreached : base.Reached base') :
    History S k events heard (some base') := by
  cases history with
  | live explains hopen => exact .live (explains.reached hopen hreached) hopen

/-- The connection meets an event after which it goes on, and the user makes calls meanwhile. -/
theorem event {e : ConnEvent} {effects : List ConnEffect} {reports : List (Callback × Bool)}
    {base'' : ConnectionBase} (history : History S k events heard (some base)) (harmed : base.armed e = true)
    (hreact : base.react e = some (base', effects)) (hgoes : .disconnectInt ∉ effects)
    (hreached : base'.Reached base'') (hreports : reports.map Prod.fst = effects.filterMap (effectCallback k)) :
    History S k (events ++ [e]) (heard ++ reports) (some base'') := by
  cases history with
  | @live _ heard run explains hopen =>
    have hstep : [ConnStep.event e].foldlM ConnRun.take run = some (run.performAll (base', effects)) := by
      rw [List.foldlM_cons, ConnRun.take_of_armed hopen harmed hreact]
      rfl
    have hexplains := @Explains.append S k events heard run _ [.event e] reports effects explains hstep
      (ConnRun.performAll_log run _) hreports
    have hstill : (run.performAll (base', effects)).closed = false := by
      rw [ConnRun.performAll_closed, hopen]
      simpa using hgoes
    have hbase := ConnRun.performAll_base run (base', effects) hgoes
    exact .live (hexplains.reached hstill (hbase.symm ▸ hreached)) hstill

/-- The connection meets an event that ends it. -/
theorem last {e : ConnEvent} {effects : List ConnEffect} {reports : List (Callback × Bool)} {reconnect ret : Bool}
    (history : History S k events heard (some base)) (harmed : base.armed e = true)
    (hreact : base.react e = some (base', effects)) (hends : .disconnectInt ∈ effects)
    (hreports : reports.map Prod.fst = effects.filterMap (effectCallback k))
    (hreconnect : reconnect = true → base.conn.opts.fPersistent = true) :
    History S k (events ++ [e]) (heard ++ reports ++ [(.onDisconnected k reconnect, ret)]) none := by
  cases history with
  | @live _ heard run explains hopen =>
    have hstep : [ConnStep.event e].foldlM ConnRun.take run = some (run.performAll (base', effects)) := by
      rw [List.foldlM_cons, ConnRun.take_of_armed hopen harmed hreact]
      rfl
    have hexplains := @Explains.append S k events heard run _ [.event e] reports effects explains hstep
      (ConnRun.performAll_log run _) hreports
    have hclosed : (run.performAll (base', effects)).closed = true := by
      rw [ConnRun.performAll_closed, hopen]
      simpa using hends
    refine .closed hexplains hclosed fun hpersistent => ?_
    rw [ConnRun.performAll_conn, (ConnectionBase.react_spec hreact).1.conn]
    exact hreconnect hpersistent

/-- The handler shuts down while the connection is established. -/
theorem finished (history : History S k events heard (some base)) (ret : Bool) :
    History S k events (heard ++ [(.onDisconnected k false, ret)]) none := by
  cases history with
  | live explains hopen => exact .shutDown explains hopen

end History

end LibBtcNet
