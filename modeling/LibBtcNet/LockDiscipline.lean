import LibBtcNet.LockScopes

/-!
# Lock order in threaded mode

All code takes `m_conn_mutex` before the lock of a bufferevent, but for the callbacks of the
evbuffers: they run the user's code with the lock of the bufferevent held. When that code takes no
`m_conn_mutex`, no threads wait for each other in a circle.
-/

namespace LibBtcNet

open LockOrder LockCode

namespace LockMachine

/-- The order in which the locks are taken. -/
def rank : Lock → ℕ
  | .connMutex => 0
  | .bufferEvent _ => 1
  | .bindMutex => 2
  | .groupRateMutex => 2

/-- A callback holds the locks of bufferevents at most. -/
def CallsWith (_ : UserCallback) (held : List Lock) : Prop := ∀ lock ∈ held, ∃ k, lock = .bufferEvent k

/-- Whether a call takes `m_conn_mutex`: it looks a connection up. -/
def takesConnMutex : PublicCall → Bool
  | .api (.closeConnection id _) => decide (0 ≤ id)
  | .api (.send id _) => decide (0 ≤ id)
  | .api (.setRateLimit id) => decide (0 ≤ id)
  | .api (.pauseRecv id) => decide (0 ≤ id)
  | .api (.unpauseRecv id) => decide (0 ≤ id)
  | .api (.resetPingTimeout id _) => decide (0 ≤ id)
  | _ => false

/-- What is called back while a lock is held takes no `m_conn_mutex`. -/
def SparesMutex (m : LockMachine) : LockInput → Prop
  | .advance name calls =>
    (m.threads name).calling ≠ none → (m.threads name).held ≠ [] → ∀ c ∈ calls, takesConnMutex c = false
  | _ => True

/-- In every step of a run. -/
def SparesMutexes (m : LockMachine) : List LockInput → Prop
  | [] => True
  | input :: inputs => SparesMutex m input ∧ SparesMutexes (step m input) inputs

/-- A step can be checked. -/
instance (m : LockMachine) (input : LockInput) : Decidable (SparesMutex m input) := by
  unfold SparesMutex
  split <;> infer_instance

/-- So can a run. -/
instance decidableSparesMutexes (m : LockMachine) : (inputs : List LockInput) → Decidable (SparesMutexes m inputs)
  | [] => .isTrue trivial
  | input :: inputs =>
    have := decidableSparesMutexes (step m input) inputs
    inferInstanceAs (Decidable (SparesMutex m input ∧ SparesMutexes (step m input) inputs))

end LockMachine

open LockMachine

/-- Code that takes its locks in order. -/
abbrev LockCode.Ordered (held : List Lock) (code : LockCode) : Prop := Code.Ordered rank CallsWith held code

namespace LockCode

variable {held : List Lock} {k : ConnID} {body : LockCode}

/-- Pieces in order. -/
theorem inOrder_ordered {codes : List LockCode} (hcodes : ∀ code ∈ codes, Ordered held code) :
    Ordered held (inOrder codes) := by
  induction codes with
  | nil => trivial
  | cons code codes ih =>
    exact ⟨hcodes code List.mem_cons_self, ih fun other hother => hcodes other (List.mem_cons_of_mem _ hother)⟩

/-- A bufferevent may be locked again, or under `m_conn_mutex`. -/
theorem bufferEventLocker_ordered (hheld : .bufferEvent k ∈ held ∨ ∀ lock ∈ held, lock = .connMutex)
    (hbody : Ordered (.bufferEvent k :: held) body) : Ordered held (bufferEventLocker k body) := by
  refine ⟨hheld.imp_right fun hmutex lock hlock => ?_, hbody⟩
  rw [hmutex lock hlock]
  exact Nat.zero_lt_one

/-- A function of libevent locks a bufferevent. -/
theorem bufferEventCall_ordered (hheld : .bufferEvent k ∈ held ∨ ∀ lock ∈ held, lock = .connMutex) :
    Ordered held (bufferEventCall k) := bufferEventLocker_ordered hheld trivial

/-- Under the lock of its bufferevent. -/
theorem bufferEventCall_again : Ordered (.bufferEvent k :: held) (bufferEventCall k) :=
  bufferEventCall_ordered (Or.inl List.mem_cons_self)

/-- A callback of a bufferevent. -/
theorem bufferEventCallback_ordered (hbody : Ordered [] body) : Ordered [] (bufferEventCallback k body) := by
  have hcall : Ordered [] (bufferEventCall k) := bufferEventCall_ordered (Or.inr (by simp))
  exact ⟨hcall, hbody, hcall, trivial⟩

/-- A method that locks its connection's bufferevent under the mutex. -/
theorem connectionCall_ordered {id : ConnID} {method : LockCode} (hheld : held = [] ∨ id < 0)
    (hmethod : Ordered [.connMutex] method) : Ordered held (connectionCall id method) := by
  unfold connectionCall
  split
  · next hid =>
    obtain rfl := hheld.resolve_right (not_lt.mpr hid)
    exact ⟨Or.inr (by simp), hmethod⟩
  · trivial

/-- A public method, wherever it may be called. -/
theorem publicCall_ordered {c : PublicCall} (hheld : ∀ lock ∈ held, ∃ k, lock = .bufferEvent k)
    (hspares : held = [] ∨ takesConnMutex c = false) : Ordered held (publicCall c) := by
  have hmutex (id : ConnID) : Ordered [.connMutex] (bufferEventCall id) := bufferEventCall_ordered (Or.inr (by simp))
  have hlocker (id : ConnID) : Ordered [.connMutex] (bufferEventLocker id (bufferEventCall id)) :=
    bufferEventLocker_ordered (Or.inr (by simp)) bufferEventCall_again
  have hspared {id : ConnID} (hid : decide (0 ≤ id) = false) : id < 0 := by simpa using hid
  have hlate {mutex : Lock} (hrank : rank mutex = 2) : Ordered held (optionalLock mutex .skip) := by
    refine ⟨Or.inr fun lock hlock => ?_, trivial⟩
    obtain ⟨k, rfl⟩ := hheld lock hlock
    rw [hrank]
    exact Nat.one_lt_two
  cases c with
  | setIncomingRateLimit => exact hlate rfl
  | setOutgoingRateLimit => exact hlate rfl
  | api c =>
    cases c with
    | closeConnection id immediately => exact connectionCall_ordered (hspares.imp_right hspared) trivial
    | send id size => exact connectionCall_ordered (hspares.imp_right hspared) (hmutex id)
    | setRateLimit id => exact connectionCall_ordered (hspares.imp_right hspared) (hlocker id)
    | pauseRecv id => exact connectionCall_ordered (hspares.imp_right hspared) (hlocker id)
    | unpauseRecv id => exact connectionCall_ordered (hspares.imp_right hspared) (hlocker id)
    | resetPingTimeout id seconds => exact connectionCall_ordered (hspares.imp_right hspared) trivial
    | shutdown => trivial
    | bind conn listens =>
      cases listens with
      | true => exact hlate rfl
      | false => exact ⟨hheld, hlate rfl, trivial⟩

/-- A callback that holds no lock. -/
theorem call_ordered (c : UserCallback) : Ordered [] (.call c) := fun _ hlock => absurd hlock List.not_mem_nil

/-- A bufferevent is locked with nothing else. -/
theorem bufferEventCall_alone (k : ConnID) : Ordered [] (bufferEventCall k) :=
    bufferEventCall_ordered (Or.inr (by simp))

/-- So it is for a scope. -/
theorem bufferEventLocker_alone (hbody : Ordered [.bufferEvent k] body) : Ordered [] (bufferEventLocker k body) :=
  bufferEventLocker_ordered (Or.inr (by simp)) hbody

/-- `m_conn_mutex` is taken before anything else. -/
theorem optionalLock_alone {mutex : Lock} (hbody : Ordered [mutex] body) : Ordered [] (optionalLock mutex body) :=
  ⟨Or.inr (by simp), hbody⟩

/-- `DisconnectInt`. -/
theorem disconnectInt_ordered (k : ConnID) : Ordered [] (disconnectInt k) := by
  refine ⟨bufferEventLocker_alone ⟨bufferEventCall_again, bufferEventCall_again, trivial⟩, ?_, trivial⟩
  exact ⟨optionalLock_alone trivial, call_ordered _, bufferEventCall_alone k, trivial⟩

/-- `InitConnection`. -/
theorem initConnection_ordered (k : ConnID) : Ordered [] (initConnection k) := by
  refine inOrder_ordered fun code hcode => ?_
  rw [List.eq_of_mem_replicate hcode]
  exact bufferEventCall_alone k

/-- Callbacks one after the other. -/
theorem calls_ordered {α : Type} (callback : α → UserCallback) (items : List α) :
    Ordered [] (inOrder (items.map fun item => .call (callback item))) := by
  refine inOrder_ordered fun code hcode => ?_
  obtain ⟨item, -, rfl⟩ := List.mem_map.mp hcode
  exact call_ordered _

/-- Connections that are told to the user and destroyed. -/
theorem destroyed_ordered (callback : ConnID → UserCallback) (ids : List ConnID) (code : LockCode)
    (hcode : code ∈ ids.map fun k => inOrder [.call (callback k), bufferEventCall k]) : Ordered [] code := by
  obtain ⟨k, -, rfl⟩ := List.mem_map.mp hcode
  exact ⟨call_ordered _, bufferEventCall_alone k, trivial⟩

end LockCode

/-- What the event thread runs. -/
theorem LockEvent.code_ordered (connected : List ConnID) (e : LockEvent) :
    LockCode.Ordered [] (e.code connected) := by
  have hevent (k : ConnID) (c : UserCallback) : LockCode.Ordered [.bufferEvent k] (.call c) :=
    fun lock hlock => ⟨k, List.mem_singleton.mp hlock⟩
  cases e with
  | start => exact call_ordered _
  | userCall c => exact publicCall_ordered (by simp) (Or.inl rfl)
  | request failures => exact ⟨call_ordered _, calls_ordered failureCallback failures⟩
  | reconnectFunc failures => exact calls_ordered failureCallback failures
  | attemptFailed k type =>
    exact bufferEventCallback_ordered ⟨bufferEventCall_alone k, call_ordered _, trivial⟩
  | resolved success => exact call_ordered _
  | outgoingConnected k accepted =>
    refine bufferEventCallback_ordered ⟨initConnection_ordered k, call_ordered _, ?_⟩
    cases accepted with
    | true =>
      exact ⟨bufferEventCall_alone k, bufferEventCall_alone k, optionalLock_alone trivial, call_ordered _, trivial⟩
    | false => exact ⟨bufferEventCall_alone k, trivial⟩
  | incomingConnected k accepted =>
    refine ⟨initConnection_ordered k, call_ordered _, ?_⟩
    cases accepted with
    | true => exact ⟨bufferEventCall_alone k, bufferEventCall_alone k, optionalLock_alone trivial, trivial⟩
    | false => exact ⟨bufferEventCall_alone k, trivial⟩
  | socketRead k => exact bufferEventLocker_alone (hevent k _)
  | socketWrite k => exact bufferEventLocker_alone (hevent k _)
  | readCbChunk k received =>
    refine bufferEventCallback_ordered ⟨bufferEventLocker_alone bufferEventCall_again, bufferEventCall_alone k, ?_⟩
    cases received with
    | true => exact ⟨call_ordered _, trivial⟩
    | false => trivial
  | readCbMessage k received malformed =>
    refine bufferEventCallback_ordered
      ⟨bufferEventLocker_alone ⟨bufferEventCall_again, bufferEventCall_again, trivial⟩, ?_⟩
    have hmalformed : LockCode.Ordered []
        (inOrder (if malformed then [.call (.onMalformedMessage k), disconnectInt k] else [])) := by
      cases malformed with
      | true => exact ⟨call_ordered _, disconnectInt_ordered k, trivial⟩
      | false => trivial
    cases received with
    | true => exact ⟨call_ordered _, hmalformed⟩
    | false => exact hmalformed
  | writeCb k =>
    exact bufferEventCallback_ordered ⟨bufferEventCall_alone k, bufferEventCall_alone k, call_ordered _, trivial⟩
  | closeOnFinishedWritecb k => exact bufferEventCallback_ordered (disconnectInt_ordered k)
  | eventCb k => exact bufferEventCallback_ordered (disconnectInt_ordered k)
  | disconnectFunc k => exact disconnectInt_ordered k
  | disconnectWaitFunc k now =>
    cases now with
    | true =>
      refine ⟨bufferEventLocker_alone ?_, disconnectInt_ordered k, trivial⟩
      exact ⟨bufferEventCall_again, bufferEventCall_again, bufferEventCall_again, trivial⟩
    | false =>
      refine bufferEventLocker_alone ?_
      exact ⟨bufferEventCall_again, bufferEventCall_again, bufferEventCall_again, bufferEventCall_again, trivial⟩
  | checkWriteBufferFunc k full =>
    cases full with
    | true =>
      exact ⟨bufferEventLocker_alone ⟨bufferEventCall_again, bufferEventCall_again, trivial⟩, call_ordered _, trivial⟩
    | false => exact bufferEventLocker_alone bufferEventCall_again
  | pingTimeoutFunc k => exact call_ordered _
  | firstDataFunc k => exact bufferEventCall_alone k
  | shutdown connecting =>
    refine inOrder_ordered fun code hcode => ?_
    rcases List.mem_append.mp hcode with hcode | hcode
    · rcases List.mem_append.mp hcode with hcode | hcode
      · rcases List.mem_pair.mp hcode with rfl | rfl
        · exact optionalLock_alone trivial
        · exact optionalLock_alone trivial
      · exact destroyed_ordered _ connected code hcode
    · exact destroyed_ordered (fun _ => .onConnectionFailure) connecting code hcode
  | pumpReturn => exact call_ordered _

/-- A step keeps the threads in order, if no callback under a lock takes `m_conn_mutex`. -/
theorem step_disciplined {m : LockMachine} (disciplined : Disciplined rank CallsWith m) {input : LockInput}
    (hspares : SparesMutex m input) : Disciplined rank CallsWith (step m input) := by
  cases input with
  | call n c =>
    simp only [step]
    split
    · exact disciplined.start (.other n) (publicCall_ordered (by simp) (Or.inl rfl))
    · exact disciplined
  | event e =>
    simp only [step]
    split
    · exact disciplined.start .event (e.code_ordered m.shared)
    · exact disciplined
  | advance name calls =>
    refine disciplined.advance recursive fun c hcalling hheld => inOrder_ordered fun code hcode => ?_
    obtain ⟨call, hcall, rfl⟩ := List.mem_map.mp hcode
    refine publicCall_ordered hheld ?_
    by_cases hempty : (m.threads name).held = []
    · exact Or.inl hempty
    · exact Or.inr (hspares (by simp [hcalling]) hempty call hcall)

/-- So does a run. -/
theorem run_disciplined {m : LockMachine} (disciplined : Disciplined rank CallsWith m) (inputs : List LockInput)
    (hspares : SparesMutexes m inputs) : Disciplined rank CallsWith (inputs.foldl step m) := by
  induction inputs generalizing m with
  | nil => exact disciplined
  | cons input inputs ih => exact ih (step_disciplined disciplined hspares.1) hspares.2

/-- Two threads that are deadlocked wait for each other. -/
theorem LockMachine.Deadlocked.cycle {m : LockMachine} (deadlocked : Deadlocked m) :
    ∃ name, Relation.TransGen m.WaitsFor name name := by
  obtain ⟨name, other, k, hne, hmutex, hwants, hlock, hother⟩ := deadlocked
  have hfirst : m.WaitsFor name other := ⟨_, hwants, hlock, hne⟩
  have hsecond : m.WaitsFor other name := ⟨_, hother, hmutex, Ne.symm hne⟩
  exact ⟨name, .tail (.single hfirst) hsecond⟩

/-- A run in which no callback under the lock of a bufferevent takes `m_conn_mutex` reaches no deadlock. -/
theorem run_notDeadlocked (inputs : List LockInput) (hspares : SparesMutexes (.idle []) inputs) :
    ¬Deadlocked (LockMachine.run inputs) := by
  intro deadlocked
  obtain ⟨name, hcycle⟩ := deadlocked.cycle
  exact (run_disciplined (.idle []) inputs hspares).no_cycle name hcycle

/-- A connection is established and receives a message, and the user answers while another thread sends. -/
def answering : List LockInput :=
  [.event (.incomingConnected 0 true)] ++ .replicate 60 (.advance .event []) ++
    [.event (.readCbMessage 0 true false), .call 0 (.api (.send 0 1))] ++ .replicate 3 (.advance (.other 0) []) ++
      .replicate 40 (.advance .event [.api (.send 0 1)])

/-- There the locks are taken in order. -/
theorem run_notDeadlocked_answering : SparesMutexes (.idle []) answering ∧
    ¬Deadlocked (LockMachine.run answering) := by
  have hspares : SparesMutexes (.idle []) answering := by decide +kernel
  exact ⟨hspares, run_notDeadlocked answering hspares⟩

/-- A connection is established and receives bytes. The user pauses it when it is told of them, while another thread
sends. -/
def pausing : List LockInput :=
  [.event (.incomingConnected 0 true)] ++ .replicate 60 (.advance .event []) ++
    [.event (.socketRead 0), .advance .event [], .call 0 (.api (.send 0 1))] ++
      .replicate 2 (.advance (.other 0) []) ++
      .replicate 2 (.advance .event [.api (.pauseRecv 0)])

/-- The other thread holds `m_conn_mutex` and wants the bufferevent, and the event thread the other way round. -/
theorem run_deadlocked : ¬∀ inputs : List LockInput, ¬Deadlocked (LockMachine.run inputs) := by
  intro hclaim
  refine hclaim pausing ⟨.other 0, .event, 0, by simp, ?_, ?_, ?_, ?_⟩ <;> decide +kernel

end LibBtcNet
