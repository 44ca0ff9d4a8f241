import LibBtcNet.ConnectionReports
import LibBtcNet.Support.Runs

/-!
# The attempts of a connection object

One connection object is followed through its attempts, its losses and its reconnects, with a
user who accepts every retry, every connection and every reconnect. What it asked of the
network, what it was answered and what it reported are kept in order.
-/

namespace LibBtcNet

/-- What an attempt asks, is answered and reports. A failure is reported at once where the method
that was to connect reports it, without waiting for the network. -/
inductive AttemptItem where
  | lookup
  | answer (result : DnsResult)
  | started (addr : Bytes)
  | failure (atOnce : Bool) (type : ConnectionFailureType) (failed : CConnection) (retry : Bool)
  | connected (resolved : CConnection)
  | lost
deriving DecidableEq, Repr

/-- Where a connection stands: about to begin an attempt, in the middle of one, established, or dropped. -/
inductive AttemptPhase where
  | due
  | waiting
  | established
  | dropped
deriving DecidableEq, Repr

/-- A connection object with what it asked and reported so far. -/
structure Attempts where
  obj : ConnectionObject
  phase : AttemptPhase
  log : List AttemptItem
deriving DecidableEq, Repr

/-- What decides an attempt. -/
inductive AttemptEvent where
  | begin (lookup : Lookup)
  | connEvent (event : BevEvents)
  | dnsCallback (result : DnsResult)
  | handshake (s : ProxyStep)
deriving DecidableEq, Repr

/-- What happens to a connection: an attempt goes on, or something happens while it is established. -/
inductive AttemptsEvent where
  | attempt (e : AttemptEvent)
  | established (s : ConnStep)
deriving DecidableEq, Repr

/-- The answer of the resolver, if it comes before `evdns_getaddrinfo` returns. -/
def Lookup.answers : Lookup → List AttemptItem
  | .atOnce result => [.answer result]
  | .later => []

/-- Whether a request is outstanding, so that `dns_callback` may come. -/
def ConnKind.resolving : ConnKind → Bool
  | .dns c => c.request
  | _ => false

/-- What a method asks, with the answers to a request. -/
def NetAction.items (answers : List AttemptItem) : NetAction → List AttemptItem
  | .getaddrinfo _ _ _ => .lookup :: answers
  | .socketConnect addr => [.started addr]

/-- What a report adds. -/
def ConnReport.items (atOnce : Bool) : ConnReport → List AttemptItem
  | .waiting => []
  | .connectionFailure type failed retry => [.failure atOnce type failed retry]
  | .outgoingConnected _ resolved => [.connected resolved]
  | .incomingConnected _ resolved => [.connected resolved]

/-- What a method asks and reports, in order. -/
def ConnResult.items {α : Type} (answers : List AttemptItem) (atOnce : Bool) (r : ConnResult α) : List AttemptItem :=
  r.net.flatMap (·.items answers) ++ r.report.items atOnce

/-- Where a report leaves the connection, with a user who accepts everything. -/
def ConnReport.phase : ConnReport → AttemptPhase
  | .waiting => .waiting
  | .connectionFailure _ _ true => .due
  | .connectionFailure _ _ false => .dropped
  | _ => .established

namespace Attempts

/-- A connection that is about to begin its first attempt. -/
def start (obj : ConnectionObject) : Attempts := ⟨obj, .due, []⟩

/-- A method has run and reported. An object that is kept gets the id that `GetNextConnectionIndex`
gives then. -/
def report (newId : Attempts → ConnID) (a : Attempts) (items : List AttemptItem) (r : ConnResult ConnectionObject) :
    Attempts where
  obj :=
    match r.report.phase with
    | .due => r.obj.retry (newId a)
    | .established => r.obj.enable
    | _ => r.obj
  phase := r.report.phase
  log := a.log ++ items

/-- A kept object stays of its class. -/
@[simp] theorem report_kind (newId : Attempts → ConnID) (a : Attempts) (items : List AttemptItem)
    (r : ConnResult ConnectionObject) : (a.report newId items r).obj.kind = r.obj.kind := by
  unfold report
  simp only
  split <;> rfl

/-- A kept object stays one for its connection. -/
@[simp] theorem report_conn (newId : Attempts → ConnID) (a : Attempts) (items : List AttemptItem)
    (r : ConnResult ConnectionObject) : (a.report newId items r).obj.base.conn = r.obj.base.conn := by
  unfold report
  simp only
  split <;> rfl

/-- An attempt goes on; an event that cannot come changes nothing. -/
def attempt (names : NameInfo) (newId : Attempts → ConnID) (a : Attempts) (e : AttemptEvent) : Option Attempts :=
  match a.phase, e with
  | .due, .begin lookup =>
    let obj := { a.obj with base := { a.obj.base with reconnectFunc := false } }
    (obj.connect names lookup).map fun r => a.report newId (r.items lookup.answers true) r
  | .waiting, .connEvent event => (a.obj.connEvent event).map fun r => a.report newId (r.items [] false) r
  | .waiting, .dnsCallback result =>
    if a.obj.kind.resolving then
      (a.obj.dnsCallback result).map fun r => a.report newId (.answer result :: r.items [] true) r
    else some a
  | .waiting, .handshake s => (a.obj.handshake names s).map fun r => a.report newId (r.items [] false) r
  | _, _ => some a

/-- Something happens while the connection is established. Once it is lost, it is tried again under a
new id if it is persistent. -/
def lived (newId : Attempts → ConnID) (a : Attempts) (run : ConnRun) : Attempts :=
  let obj := { a.obj with base := run.base }
  if !run.closed then { a with obj }
  else if obj.base.conn.opts.fPersistent && obj.isOutgoing then ⟨obj.retry (newId a), .due, a.log ++ [.lost]⟩
  else ⟨obj, .dropped, a.log ++ [.lost]⟩

/-- One event in the life of the connection. -/
def step (names : NameInfo) (newId : Attempts → ConnID) (a : Attempts) : AttemptsEvent → Option Attempts
  | .attempt e => a.attempt names newId e
  | .established s =>
    if a.phase = .established then (ConnRun.step ⟨a.obj.base, [], false⟩ s).map (a.lived newId) else some a

/-- What happens to an established connection does not reach its class. -/
@[simp] theorem lived_kind (newId : Attempts → ConnID) (a : Attempts) (run : ConnRun) :
    (a.lived newId run).obj.kind = a.obj.kind := by
  unfold lived
  simp only
  split
  · rfl
  · split <;> rfl

/-- It leaves the connection that the run has. -/
@[simp] theorem lived_conn (newId : Attempts → ConnID) (a : Attempts) (run : ConnRun) :
    (a.lived newId run).obj.base.conn = run.base.conn := by
  unfold lived
  simp only
  split
  · rfl
  · split <;> rfl

/-- A method has run in the phase that it may come in, with what it asked and reported. -/
inductive Ran (names : NameInfo) (a : Attempts) : List AttemptItem → ConnResult ConnectionObject → Prop
  | connect {lookup : Lookup} {r : ConnResult ConnectionObject} (hphase : a.phase = .due)
    (hr : ConnectionObject.connect names lookup
      { a.obj with base := { a.obj.base with reconnectFunc := false } } = some r) :
    Ran names a (r.items lookup.answers true) r
  | connEvent {event : BevEvents} {r : ConnResult ConnectionObject} (hphase : a.phase = .waiting)
    (hr : a.obj.connEvent event = some r) : Ran names a (r.items [] false) r
  | dnsCallback {result : DnsResult} {r : ConnResult ConnectionObject} (hphase : a.phase = .waiting)
    (hresolving : a.obj.kind.resolving = true) (hr : a.obj.dnsCallback result = some r) :
    Ran names a (.answer result :: r.items [] true) r
  | handshake {s : ProxyStep} {r : ConnResult ConnectionObject} (hphase : a.phase = .waiting)
    (hr : a.obj.handshake names s = some r) : Ran names a (r.items [] false) r

variable {names : NameInfo} {newId : Attempts → ConnID} {a next : Attempts}

/-- What an event of an attempt can do. -/
theorem attempt_cases {e : AttemptEvent} (hstep : a.attempt names newId e = some next) :
    next = a ∨ ∃ items r, a.Ran names items r ∧ next = a.report newId items r := by
  unfold attempt at hstep
  split at hstep
  · next hphase =>
    obtain ⟨r, hr, rfl⟩ := Option.map_eq_some_iff.mp hstep
    exact Or.inr ⟨_, r, .connect hphase hr, rfl⟩
  · next hphase =>
    obtain ⟨r, hr, rfl⟩ := Option.map_eq_some_iff.mp hstep
    exact Or.inr ⟨_, r, .connEvent hphase hr, rfl⟩
  · next hphase =>
    split at hstep
    · next hresolving =>
      obtain ⟨r, hr, rfl⟩ := Option.map_eq_some_iff.mp hstep
      exact Or.inr ⟨_, r, .dnsCallback hphase hresolving hr, rfl⟩
    · exact Or.inl (Option.some.inj hstep).symm
  · next hphase =>
    obtain ⟨r, hr, rfl⟩ := Option.map_eq_some_iff.mp hstep
    exact Or.inr ⟨_, r, .handshake hphase hr, rfl⟩
  · exact Or.inl (Option.some.inj hstep).symm

/-- What any event can do. -/
theorem step_cases {e : AttemptsEvent} (hstep : a.step names newId e = some next) :
    next = a ∨ (∃ items r, a.Ran names items r ∧ next = a.report newId items r) ∨
      (a.phase = .established ∧ ∃ s run, ConnRun.step ⟨a.obj.base, [], false⟩ s = some run ∧
        next = a.lived newId run) := by
  cases e with
  | attempt e => exact (attempt_cases hstep).imp_right Or.inl
  | established s =>
    change (if a.phase = .established then _ else _) = some next at hstep
    split at hstep
    · next hphase =>
      obtain ⟨run, hrun, rfl⟩ := Option.map_eq_some_iff.mp hstep
      exact Or.inr (Or.inr ⟨hphase, s, run, hrun, rfl⟩)
    · exact Or.inl (Option.some.inj hstep).symm

/-- A lost connection is due again or dropped. -/
theorem lived_phase (newId : Attempts → ConnID) (a : Attempts) (run : ConnRun) :
    ((a.lived newId run).phase = a.phase ∧ (a.lived newId run).log = a.log) ∨
      (((a.lived newId run).phase = .due ∨ (a.lived newId run).phase = .dropped) ∧
        (a.lived newId run).log = a.log ++ [.lost]) := by
  unfold lived
  simp only
  split
  · exact Or.inl ⟨rfl, rfl⟩
  · split
    · exact Or.inr ⟨Or.inl rfl, rfl⟩
    · exact Or.inr ⟨Or.inr rfl, rfl⟩

end Attempts

/-- Taking a bufferevent over does not change what is configured. -/
@[simp] theorem ConnectionObject.settle_conn {α : Type} (base : ConnectionBase) (kind : α → ConnKind)
    (r : ConnResult α) :
    (settle base kind r).obj.base.conn = base.conn := by
  obtain ⟨c, net, report⟩ := r
  cases report <;> rfl

end LibBtcNet
