import LibBtcNet.ConnectionEffects
import LibBtcNet.RetryBudget
import LibBtcNet.Support.Runs
import Mathlib.Algebra.BigOperators.Group.List.Basic

/-!
# The byte totals of a connection

The counters live in the connection object, which is used again under a new id after every
accepted retry. `Retry` sets them to zero, and the constructor leaves them as it finds
them: what is reported under the first id of a connection starts from whatever was there.
-/

namespace LibBtcNet

open Runs

/-- The two directions that are counted. -/
inductive Direction where
  | reading
  | writing
deriving DecidableEq, Repr

/-- The counter of a direction. -/
def ConnectionBase.counter (direction : Direction) (base : ConnectionBase) : ℕ :=
  match direction with
  | .reading => base.bytesRead
  | .writing => base.bytesWritten

/-- The bytes and the total of a report about a direction. -/
def ConnEffect.counted : Direction → ConnEffect → Option (ℕ × ℕ)
  | .reading, .onBytesRead bytes totalBytes => some (bytes, totalBytes)
  | .writing, .onBytesWritten bytes totalBytes => some (bytes, totalBytes)
  | _, _ => none

/-- The reports of a connection, each with the id that it was made under. -/
abbrev ReportLog := List (ConnID × ConnEffect)

/-- The bytes reported in a direction under an id. -/
def bytesOf (direction : Direction) (id : ConnID) (log : ReportLog) : ℕ :=
  (log.map fun entry => if entry.1 = id then ((entry.2.counted direction).map Prod.fst).getD 0 else 0).sum

/-- Every total is the sum of the bytes reported under its id so far, modulo `2 ^ 64`. -/
def RunningSums (log : ReportLog) : Prop :=
  ∀ direction before entry later, log = before ++ entry :: later → ∀ bytes totalBytes,
    entry.2.counted direction = some (bytes, totalBytes) →
      totalBytes = (bytesOf direction entry.1 before + bytes) % 2 ^ 64

/-- A connection object through its life, with the ids that it has had and what it reported. -/
structure ConnectionLife where
  obj : ConnectionObject
  ids : List ConnID
  log : ReportLog
deriving DecidableEq, Repr

/-- What happens to a connection object: the methods of its class run, the handler enables it or tries
it again under a new id, or something happens to it while it is established. -/
inductive LifeStep where
  | connect (lookup : Lookup)
  | connEvent (event : BevEvents)
  | dnsCallback (result : DnsResult)
  | handshake (s : ProxyStep)
  | enable
  | retry (newId : ConnID)
  | established (s : ConnStep)
deriving DecidableEq, Repr

namespace ConnectionLife

/-- A method of the class has run. -/
def worked (life : ConnectionLife) (r : ConnResult ConnectionObject) : ConnectionLife := { life with obj := r.obj }

/-- One step, in any order. -/
def step (names : NameInfo) (life : ConnectionLife) : LifeStep → Option ConnectionLife
  | .connect lookup => (life.obj.connect names lookup).map life.worked
  | .connEvent event => (life.obj.connEvent event).map life.worked
  | .dnsCallback result => (life.obj.dnsCallback result).map life.worked
  | .handshake s => (life.obj.handshake names s).map life.worked
  | .enable => some { life with obj := life.obj.enable }
  | .retry newId => some { life with obj := life.obj.retry newId, ids := life.ids ++ [newId] }
  | .established s => (ConnRun.step ⟨life.obj.base, [], false⟩ s).map fun run =>
      { life with
        obj := { life.obj with base := run.base }
        log := life.log ++ run.log.map (life.obj.base.id, ·) }

/-- A connection object as the constructor of its class leaves it. -/
def begin (kind : ConnKind) (conn : CConnection) (id : ConnID) (bytesRead bytesWritten : ℕ) : ConnectionLife :=
  ⟨⟨.new conn id bytesRead bytesWritten, kind⟩, [id], []⟩

end ConnectionLife

/-- `GetNextConnectionIndex` gives a new id, as it does for the first `2 ^ 63` times. -/
def LifeStep.NewId (life : ConnectionLife) : LifeStep → Prop
  | .retry newId => newId ∉ life.ids
  | _ => True

/-- The bytes that a step counts in a direction. -/
def ConnStep.transferred (direction : Direction) (base : ConnectionBase) : ConnStep → Option ℕ
  | .event (.socketRead chunks) =>
    if direction = .reading ∧ base.armed (.socketRead chunks) = true then some chunks.flatten.length else none
  | .event (.socketWrite size) =>
    if direction = .writing ∧ base.armed (.socketWrite size) = true then some size else none
  | _ => none

/-- Nothing is counted under the first id in a direction whose counter did not start at zero. -/
def LifeStep.CountsFromZero (start : ConnectionBase) (life : ConnectionLife) : LifeStep → Prop
  | .established s => life.obj.base.id = start.id → ∀ direction,
      (s.transferred direction life.obj.base).isSome = true → start.counter direction % 2 ^ 64 = 0
  | _ => True

/-- No report of a read callback counts bytes. -/
theorem ConnEffect.OfReading.counted {effect : ConnEffect} (h : effect.OfReading) (direction : Direction) :
    effect.counted direction = none := by
  cases h <;> cases direction <;> rfl

namespace ConnectionBase

variable {base base' : ConnectionBase} {effects : List ConnEffect} {direction : Direction}

/-- What a step does to a counter: it adds what it transfers and reports the sum, or leaves the counter
alone and reports nothing of it. -/
def Counts (direction : Direction) (base base' : ConnectionBase) (effects : List ConnEffect)
    (bytes : Option ℕ) : Prop :=
  match bytes with
  | some bytes => base'.counter direction = (base.counter direction + bytes) % 2 ^ 64 ∧
      ∃ effect, effects = [effect] ∧ effect.counted direction = some (bytes, base'.counter direction)
  | none => base'.counter direction = base.counter direction ∧
      ∀ effect ∈ effects, effect.counted direction = none

/-- A step that transfers nothing in a direction. -/
theorem counts_none (hread : base'.bytesRead = base.bytesRead) (hwritten : base'.bytesWritten = base.bytesWritten)
    (heffects : ∀ effect ∈ effects, effect.counted direction = none) : Counts direction base base' effects none := by
  cases direction with
  | reading => exact ⟨hread, heffects⟩
  | writing => exact ⟨hwritten, heffects⟩

/-- The report of a disconnect counts nothing. -/
theorem counted_disconnectInt : ∀ effect ∈ [ConnEffect.disconnectInt], effect.counted direction = none := by
  cases direction <;> simp [ConnEffect.counted]

/-- What an event does to the counters. -/
theorem react_counts {e : ConnEvent} (harmed : base.armed e = true) (hreact : base.react e = some (base', effects)) :
    Counts direction base base' effects ((ConnStep.event e).transferred direction base) := by
  have hnil : ∀ effect ∈ ([] : List ConnEffect), effect.counted direction = none := by simp
  cases reacts_of_react hreact with
  | disconnect => exact counts_none rfl rfl counted_disconnectInt
  | closing => exact counts_none rfl rfl hnil
  | finished => exact counts_none rfl rfl counted_disconnectInt
  | full => exact counts_none rfl rfl (by cases direction <;> simp [ConnEffect.counted])
  | room => exact counts_none rfl rfl hnil
  | pingTimeout => exact counts_none rfl rfl (by cases direction <;> simp [ConnEffect.counted])
  | firstData => exact counts_none rfl rfl hnil
  | arrived =>
    cases direction with
    | reading =>
      simp only [ConnStep.transferred, harmed, and_self, if_true]
      exact ⟨rfl, _, rfl, rfl⟩
    | writing => exact ⟨rfl, by simp [ConnEffect.counted]⟩
  | arrivedNothing hbev hchunks => simp [armed, hbev, hchunks] at harmed
  | drained =>
    cases direction with
    | reading => exact ⟨rfl, by simp [ConnEffect.counted]⟩
    | writing =>
      simp only [ConnStep.transferred, harmed, and_self, if_true]
      exact ⟨rfl, _, rfl, rfl⟩
  | drainedNothing hbev => simp [armed, hbev] at harmed
  | raised => exact counts_none rfl rfl hnil
  | readMessage hbev hreadcb hread =>
    exact counts_none rfl rfl fun effect heffect => (readCbMessage_ofReading hread effect heffect).counted direction
  | readChunk hbev hreadcb hread =>
    exact counts_none rfl rfl fun effect heffect => (readCbChunk_ofReading hread effect heffect).counted direction
  | unread => exact counts_none rfl rfl hnil
  | ready => exact counts_none rfl rfl (by cases direction <;> simp [ConnEffect.counted])
  | flushed => exact counts_none rfl rfl counted_disconnectInt
  | unwritten => exact counts_none rfl rfl hnil
  | lost => exact counts_none rfl rfl counted_disconnectInt
  | notLost => exact counts_none rfl rfl hnil

/-- A call does not reach the counters. -/
theorem call_counts {c : ConnCall} (hcall : base.call c = some base') :
    base'.counter direction = base.counter direction := by
  cases calls_of_call hcall <;> cases direction <;> rfl

end ConnectionBase

/-- What a step of an established connection does to the counters, and to the id. -/
theorem ConnRun.step_counts {base : ConnectionBase} {s : ConnStep} {run : ConnRun}
    (hstep : ConnRun.step ⟨base, [], false⟩ s = some run) : run.base.id = base.id ∧ ∀ direction,
      ConnectionBase.Counts direction base run.base run.log (s.transferred direction base) := by
  cases s with
  | call c =>
    obtain ⟨base', hcall, rfl⟩ := Option.map_eq_some_iff.mp hstep
    exact ⟨(@ConnectionObject.called_of_call ⟨base, .incoming ⟨[]⟩⟩ base' c hcall).id,
      fun direction => ⟨ConnectionBase.call_counts hcall, by simp⟩⟩
  | event e =>
    cases harmed : base.armed e with
    | false =>
      obtain rfl := Option.some.inj ((ConnRun.event_of_not_armed (Or.inr harmed)).symm.trans hstep)
      refine ⟨rfl, fun direction => ?_⟩
      have hnone : (ConnStep.event e).transferred direction base = none := by
        cases e <;> simp [ConnStep.transferred, harmed]
      rw [hnone]
      exact ⟨rfl, by simp⟩
    | true =>
      obtain ⟨⟨base', effects⟩, hreact, rfl⟩ : ∃ result, base.react e = some result ∧
          ConnRun.performAll ⟨base, [], false⟩ result = run := by
        simpa [ConnRun.step, ConnRun.event, harmed] using hstep
      refine ⟨?_, fun direction => ?_⟩
      · rw [ConnRun.performAll_field (·.id) fun _ => rfl]
        exact (ConnectionBase.react_spec hreact).1.id
      · have hcounts := @ConnectionBase.react_counts base base' effects direction e harmed hreact
        have hcounter := ConnRun.performAll_field (ConnectionBase.counter direction)
          (fun _ => by cases direction <;> rfl) ⟨base, [], false⟩ (base', effects)
        rw [ConnRun.performAll_log, List.nil_append]
        unfold ConnectionBase.Counts at hcounts ⊢
        split at hcounts
        · rw [hcounter]
          exact hcounts
        · rw [hcounter]
          exact hcounts

/-- A step that counts something takes place. -/
theorem ConnRun.exists_step_of_transferred {base : ConnectionBase} {s : ConnStep} {direction : Direction} {bytes : ℕ}
    (hbytes : s.transferred direction base = some bytes) : ∃ run, ConnRun.step ⟨base, [], false⟩ s = some run := by
  have hreacts {e : ConnEvent} (harmed : base.armed e = true)
    (hreact : base.bev.isSome = true → (base.react e).isSome = true)
      (hbev : base.bev.isSome = true) : ∃ run, ConnRun.step ⟨base, [], false⟩ (.event e) = some run := by
    obtain ⟨result, hresult⟩ := Option.isSome_iff_exists.mp (hreact hbev)
    exact ⟨_, ConnRun.event_of_armed rfl harmed hresult⟩
  unfold ConnStep.transferred at hbytes
  split at hbytes
  · next chunks =>
    split_ifs at hbytes with harmed
    cases hbev : base.bev with
    | none => simp [ConnectionBase.armed, hbev] at harmed
    | some bev => exact hreacts harmed.2 (fun _ => by simp [ConnectionBase.react, hbev]) (by simp [hbev])
  · next size =>
    split_ifs at hbytes with harmed
    cases hbev : base.bev with
    | none => simp [ConnectionBase.armed, hbev] at harmed
    | some bev => exact hreacts harmed.2 (fun _ => by simp [ConnectionBase.react, hbev]) (by simp [hbev])
  · contradiction

/-- A log with more reports. -/
theorem bytesOf_append (direction : Direction) (id : ConnID) (log later : ReportLog) :
    bytesOf direction id (log ++ later) = bytesOf direction id log + bytesOf direction id later := by
  rw [bytesOf, List.map_append, List.sum_append]
  rfl

/-- Reports that count nothing. -/
theorem bytesOf_eq_zero {direction : Direction} {id : ConnID} {log : ReportLog}
    (hlog : ∀ entry ∈ log, entry.1 = id → entry.2.counted direction = none) : bytesOf direction id log = 0 := by
  apply List.sum_eq_zero
  intro bytes hbytes
  obtain ⟨entry, hentry, rfl⟩ := List.mem_map.mp hbytes
  split
  · next hid =>
    rw [hlog entry hentry hid]
    rfl
  · rfl

/-- The running sums of a longer log are those of its beginning, and those of its end. -/
theorem runningSums_append {log later : ReportLog} (hlog : RunningSums log)
    (hlater : ∀ direction before entry rest, later = before ++ entry :: rest → ∀ bytes totalBytes,
      entry.2.counted direction = some (bytes, totalBytes) →
        totalBytes = (bytesOf direction entry.1 (log ++ before) + bytes) % 2 ^ 64) : RunningSums (log ++ later) := by
  intro direction before entry rest hsplit bytes totalBytes hcounted
  rcases List.append_eq_append_iff.mp hsplit with ⟨middle, hbefore, hmiddle⟩ | ⟨middle, hlog', hrest⟩
  · rw [hbefore]
    exact hlater direction middle entry rest hmiddle bytes totalBytes hcounted
  · cases middle with
    | nil =>
      rw [List.nil_append] at hrest
      rw [List.append_nil] at hlog'
      have hsums := hlater direction [] entry rest hrest.symm bytes totalBytes hcounted
      rwa [List.append_nil, hlog'] at hsums
    | cons head middle =>
      obtain ⟨rfl, -⟩ := List.cons.inj hrest
      exact hlog direction before entry middle hlog' bytes totalBytes hcounted

/-- A method of the class leaves the id and the counters alone. -/
theorem ConnectionObject.Works.counters {obj : ConnectionObject} {r : ConnResult ConnectionObject}
    (works : obj.Works r) :
    r.obj.base.id = obj.base.id ∧ ∀ direction, r.obj.base.counter direction = obj.base.counter direction := by
  rw [works.base]
  split <;> exact ⟨rfl, fun direction => by cases direction <;> rfl⟩

/-- What the counters and the reports of a connection are, if it started from these counters. -/
structure Totalled (start : ConnectionBase) (life : ConnectionLife) : Prop where
  first : start.id ∈ life.ids
  current : life.obj.base.id ∈ life.ids
  known : ∀ entry ∈ life.log, entry.1 ∈ life.ids
  sums : RunningSums life.log
  counter : ∀ direction, life.obj.base.counter direction % 2 ^ 64 =
    ((if life.obj.base.id = start.id then start.counter direction else 0) +
      bytesOf direction life.obj.base.id life.log) % 2 ^ 64

namespace Totalled

variable {names : NameInfo} {start : ConnectionBase} {life next : ConnectionLife}

/-- A change that leaves the id and the counters alone. -/
theorem of_counters (h : Totalled start life) {obj : ConnectionObject}
    (hcounters : obj.base.id = life.obj.base.id ∧
      ∀ direction, obj.base.counter direction = life.obj.base.counter direction) :
    Totalled start { life with obj } := by
  obtain ⟨hid, hcounter⟩ := hcounters
  refine ⟨h.first, ?_, h.known, h.sums, fun direction => ?_⟩
  · exact hid ▸ h.current
  · change obj.base.counter direction % 2 ^ 64 = _
    rw [hcounter direction, h.counter direction]
    simp only [hid]

/-- A retry under a new id starts from zero. -/
theorem retry (h : Totalled start life) {newId : ConnID} (hnew : newId ∉ life.ids) :
    Totalled start { life with obj := life.obj.retry newId, ids := life.ids ++ [newId] } := by
  have hother : newId ≠ start.id := fun heq => hnew (heq ▸ h.first)
  have hnone (direction : Direction) : bytesOf direction newId life.log = 0 :=
    bytesOf_eq_zero fun entry hentry hid => absurd (hid ▸ h.known entry hentry) hnew
  refine ⟨List.mem_append_left _ h.first, List.mem_append_right _ (List.mem_singleton_self _),
    fun entry hentry => List.mem_append_left _ (h.known entry hentry), h.sums, fun direction => ?_⟩
  change (life.obj.base.retry newId).counter direction % 2 ^ 64 =
    ((if newId = start.id then start.counter direction else 0) + bytesOf direction newId life.log) % 2 ^ 64
  rw [if_neg hother, hnone direction]
  cases direction <;> rfl

/-- A step while the connection is established, where nothing is counted on top of what was there. -/
theorem established (h : Totalled start life) {s : ConnStep} {run : ConnRun}
    (hzero : (LifeStep.established s).CountsFromZero start life)
    (hstep : ConnRun.step ⟨life.obj.base, [], false⟩ s = some run) :
    Totalled start { life with
      obj := { life.obj with base := run.base }
      log := life.log ++ run.log.map (life.obj.base.id, ·) } := by
  obtain ⟨hid, hcounts⟩ := ConnRun.step_counts hstep
  have hstart (direction : Direction) (hsome : (s.transferred direction life.obj.base).isSome = true) :
      (if life.obj.base.id = start.id then start.counter direction else 0) % 2 ^ 64 = 0 := by
    split
    · next hfirst => exact hzero hfirst direction hsome
    · rfl
  refine ⟨h.first, ?_, fun entry hentry => ?_, ?_, fun direction => ?_⟩
  · exact hid ▸ h.current
  · rcases List.mem_append.mp hentry with hold | hnew
    · exact h.known entry hold
    · obtain ⟨effect, -, rfl⟩ := List.mem_map.mp hnew
      exact h.current
  · refine runningSums_append h.sums fun direction before entry rest hsplit bytes totalBytes hcounted => ?_
    have hcount := hcounts direction
    have hcounter := h.counter direction
    have hzero := hstart direction
    unfold ConnectionBase.Counts at hcount
    split at hcount
    · next added hadded =>
      obtain ⟨hsum, effect, heffects, heffect⟩ := hcount
      rw [hadded] at hzero
      rw [heffects] at hsplit
      obtain ⟨rfl, hentry⟩ : before = [] ∧ (life.obj.base.id, effect) = entry := by
        cases before with
        | nil => exact ⟨rfl, (List.cons.inj hsplit).1⟩
        | cons head before => exact absurd (List.cons.inj hsplit).2.symm (by simp)
      subst hentry
      obtain ⟨rfl, rfl⟩ := Prod.mk.inj (Option.some.inj (heffect.symm.trans hcounted))
      have hnone := hzero rfl
      rw [List.append_nil, hsum]
      simp only
      omega
    · next hnone =>
      have hmem : entry ∈ run.log.map (life.obj.base.id, ·) := hsplit ▸ by simp
      obtain ⟨effect, heffect, rfl⟩ := List.mem_map.mp hmem
      exact absurd ((hcount.2 effect heffect).symm.trans hcounted) (by simp)
  · have hcount := hcounts direction
    have hcounter := h.counter direction
    change run.base.counter direction % 2 ^ 64 = ((if run.base.id = start.id then start.counter direction else 0) +
      bytesOf direction run.base.id (life.log ++ run.log.map (life.obj.base.id, ·))) % 2 ^ 64
    rw [hid, bytesOf_append]
    unfold ConnectionBase.Counts at hcount
    split at hcount
    · next added hadded =>
      obtain ⟨hsum, effect, heffects, heffect⟩ := hcount
      have hadds : bytesOf direction life.obj.base.id (run.log.map (life.obj.base.id, ·)) = added := by
        simp [bytesOf, heffects, heffect]
      omega
    · next hnone =>
      have hadds : bytesOf direction life.obj.base.id (run.log.map (life.obj.base.id, ·)) = 0 := by
        refine bytesOf_eq_zero fun entry hentry _ => ?_
        obtain ⟨effect, heffect, rfl⟩ := List.mem_map.mp hentry
        exact hcount.2 effect heffect
      rw [hadds, hcount.1, hcounter, Nat.add_zero]

/-- A step that counts from zero keeps the totals. -/
theorem step (h : Totalled start life) {s : LifeStep} (hnew : s.NewId life) (hzero : s.CountsFromZero start life)
    (hstep : life.step names s = some next) : Totalled start next := by
  cases s with
  | connect lookup =>
    obtain ⟨r, hr, rfl⟩ := Option.map_eq_some_iff.mp hstep
    exact h.of_counters (ConnectionObject.connect_works hr).counters
  | connEvent event =>
    obtain ⟨r, hr, rfl⟩ := Option.map_eq_some_iff.mp hstep
    exact h.of_counters (ConnectionObject.connEvent_works hr).counters
  | dnsCallback result =>
    obtain ⟨r, hr, rfl⟩ := Option.map_eq_some_iff.mp hstep
    exact h.of_counters (ConnectionObject.dnsCallback_works hr).counters
  | handshake s =>
    obtain ⟨r, hr, rfl⟩ := Option.map_eq_some_iff.mp hstep
    exact h.of_counters (ConnectionObject.handshake_works hr).counters
  | enable =>
    obtain rfl := Option.some.inj hstep
    exact h.of_counters ⟨rfl, fun direction => by cases direction <;> rfl⟩
  | retry newId =>
    obtain rfl := Option.some.inj hstep
    exact h.retry hnew
  | established s =>
    obtain ⟨run, hrun, rfl⟩ := Option.map_eq_some_iff.mp hstep
    exact h.established hzero hrun

/-- What is counted on top of something else gives a total that is not a sum. -/
theorem broken (h : Totalled start life) {s : LifeStep} (hstart : ¬s.CountsFromZero start life) :
    ∃ next, life.step names s = some next ∧ ¬RunningSums next.log := by
  unfold LifeStep.CountsFromZero at hstart
  split at hstart
  · next s =>
    push Not at hstart
    obtain ⟨hfirst, direction, hsome, hne⟩ := hstart
    obtain ⟨added, hadded⟩ := Option.isSome_iff_exists.mp hsome
    obtain ⟨run, hrun⟩ := ConnRun.exists_step_of_transferred hadded
    have hcount := (ConnRun.step_counts hrun).2 direction
    rw [hadded] at hcount
    obtain ⟨hsum, effect, heffects, heffect⟩ := hcount
    refine ⟨_, congrArg (Option.map _) hrun, fun hsums => ?_⟩
    have htotal := hsums direction life.log (life.obj.base.id, effect) [] (by simp [heffects]) added _ heffect
    have hcounter := h.counter direction
    rw [if_pos hfirst] at hcounter
    rw [hsum] at htotal
    simp only at htotal
    omega
  · exact absurd trivial hstart

end Totalled

/-- The totals of a connection of any kind are running sums throughout exactly the lives in which
nothing is counted under its first id in a direction whose counter was not zero when the object was
constructed. -/
theorem runningSums_iff_guarded (names : NameInfo) (kind : ConnKind) (conn : CConnection) (id : ConnID)
    (bytesRead bytesWritten : ℕ) {steps : List LifeStep}
    (hnew : Guarded (ConnectionLife.step names) (fun life s => s.NewId life)
      (.begin kind conn id bytesRead bytesWritten) steps) :
    Always (ConnectionLife.step names) (fun life => RunningSums life.log)
        (.begin kind conn id bytesRead bytesWritten) steps ↔
      Guarded (ConnectionLife.step names) (fun life s => s.CountsFromZero (.new conn id bytesRead bytesWritten) life)
        (.begin kind conn id bytesRead bytesWritten) steps := by
  have hinitial : Totalled (.new conn id bytesRead bytesWritten) (.begin kind conn id bytesRead bytesWritten) := by
    refine ⟨List.mem_singleton_self _, List.mem_singleton_self _, by simp [ConnectionLife.begin],
      fun direction before entry later hsplit => absurd hsplit (by simp [ConnectionLife.begin]), fun direction => ?_⟩
    cases direction <;> simp [ConnectionLife.begin, ConnectionBase.new, bytesOf]
  exact always_iff_guarded (fun life h => h.sums) (fun life s next h hnew hzero => h.step hnew hzero)
    (fun life s h _ => h.broken) hinitial hnew

instance (life : ConnectionLife) (s : LifeStep) : Decidable (s.NewId life) := by
  unfold LifeStep.NewId
  split <;> infer_instance

/-- A direct connection to a peer on the local host, whose counters start as they are found. -/
def countedLife (bytesRead bytesWritten : ℕ) : ConnectionLife :=
  .begin (.direct (.new (localPeer true))) (localPeer true) 0 bytesRead bytesWritten

/-- It is established, and three bytes arrive. -/
def firstRead : List LifeStep :=
  [.connect .later, .connEvent .connects, .enable, .established (.event (.socketRead [[1, 2, 3]]))]

/-- It reads two more bytes, is tried again and reads once more, all from zero. -/
theorem runningSums_from_zero :
    Always (ConnectionLife.step noNames) (fun life => RunningSums life.log) (countedLife 0 0)
      (firstRead ++ [.established (.event (.socketRead [[4, 5]])), .retry 1, .connect .later,
        .connEvent .connects, .enable, .established (.event (.socketRead [[6]]))]) := by
  refine (runningSums_iff_guarded noNames (.direct (.new (localPeer true))) (localPeer true) 0 0 0
    (by decide +kernel)).mpr (guarded_of_forall (fun life s => ?_) _ _)
  unfold LifeStep.CountsFromZero
  split
  · exact fun _ direction _ => by cases direction <;> rfl
  · trivial

/-- With a counter that is found to be seven, the first three bytes are reported as ten. -/
theorem runningSums_from_seven :
    ¬Always (ConnectionLife.step noNames) (fun life => RunningSums life.log) (countedLife 7 0) firstRead := by
  intro halways
  have htotal := halways.last rfl .reading [] (0, .onBytesRead 3 10) [] rfl 3 10 rfl
  exact absurd htotal (by decide)

end LibBtcNet
