import Mathlib.Data.Nat.Notation
import Mathlib.Logic.Function.Basic
import Mathlib.Logic.Relation

/-!
# Threads that take locks

Threads run code that takes locks in scopes, reads and changes a shared state, and calls code that
is only known when it is called. A thread that wants a lock of another thread waits, and a recursive
lock may be taken again by its owner. As long as all code takes its locks in the order of a rank,
no threads wait for each other in a circle.
-/

namespace LockOrder

/-- Code that a thread runs: a lock is held for a scope. -/
inductive Code (Lock σ Call : Type) where
  | skip
  | update (f : σ → σ)
  | locked (lock : Lock) (body : Code Lock σ Call)
  | seq (first second : Code Lock σ Call)
  | whenever (condition : σ → Bool) (body : Code Lock σ Call)
  | call (c : Call)

/-- Code that is still to run, or the end of a scope. -/
inductive Frame (Lock σ Call : Type) where
  | run (code : Code Lock σ Call)
  | unlock (lock : Lock)

/-- A thread: the locks of its open scopes, innermost first, and what it does next. -/
structure Thread (Lock σ Call : Type) where
  held : List Lock
  frames : List (Frame Lock σ Call)

/-- The threads with their shared state and the owners of the locks. -/
structure Machine (Name Lock σ Call : Type) where
  shared : σ
  owner : Lock → Option Name
  threads : Name → Thread Lock σ Call

variable {Name Lock σ Call : Type}

/-- The lock that a thread is about to take. -/
def Thread.wanted (thread : Thread Lock σ Call) : Option Lock :=
  match thread.frames with
  | .run (.locked lock _) :: _ => some lock
  | _ => none

/-- The call that a thread is about to make. -/
def Thread.calling (thread : Thread Lock σ Call) : Option Call :=
  match thread.frames with
  | .run (.call c) :: _ => some c
  | _ => none

namespace Machine

variable [DecidableEq Name] [DecidableEq Lock]

/-- No thread has anything to do. -/
def idle (shared : σ) : Machine Name Lock σ Call := ⟨shared, fun _ => none, fun _ => ⟨[], []⟩⟩

/-- A thread changes. -/
def setThread (name : Name) (thread : Thread Lock σ Call) (m : Machine Name Lock σ Call) :
    Machine Name Lock σ Call :=
  { m with threads := Function.update m.threads name thread }

/-- An idle thread begins to run code. -/
def start (name : Name) (code : Code Lock σ Call) (m : Machine Name Lock σ Call) : Machine Name Lock σ Call :=
  if (m.threads name).frames.isEmpty then m.setThread name ⟨(m.threads name).held, [.run code]⟩ else m

/-- Whether a thread may take a lock. -/
def free (recursive : Lock → Bool) (name : Name) (lock : Lock) (m : Machine Name Lock σ Call) : Bool :=
  match m.owner lock with
  | none => true
  | some other => decide (other = name) && recursive lock

/-- A thread does its next step, unless it has to wait. The answer is the code that its call runs. -/
def advance (recursive : Lock → Bool) (answer : Code Lock σ Call) (name : Name) (m : Machine Name Lock σ Call) :
    Machine Name Lock σ Call :=
  let held := (m.threads name).held
  match (m.threads name).frames with
  | [] => m
  | .run .skip :: rest => m.setThread name ⟨held, rest⟩
  | .run (.update f) :: rest => { m.setThread name ⟨held, rest⟩ with shared := f m.shared }
  | .run (.seq first second) :: rest => m.setThread name ⟨held, .run first :: .run second :: rest⟩
  | .run (.whenever condition body) :: rest =>
    m.setThread name ⟨held, if condition m.shared then .run body :: rest else rest⟩
  | .run (.call _) :: rest => m.setThread name ⟨held, .run answer :: rest⟩
  | .run (.locked lock body) :: rest =>
    if m.free recursive name lock then
      { m.setThread name ⟨lock :: held, .run body :: .unlock lock :: rest⟩ with
        owner := Function.update m.owner lock (some name) }
    else m
  | .unlock lock :: rest =>
    { m.setThread name ⟨held.tail, rest⟩ with
      owner := if lock ∈ held.tail then m.owner else Function.update m.owner lock none }

/-- A thread wants a lock that another one holds. -/
def WaitsFor (m : Machine Name Lock σ Call) (name other : Name) : Prop :=
  ∃ lock, (m.threads name).wanted = some lock ∧ m.owner lock = some other ∧ name ≠ other

end Machine

section Order

variable {rank : Lock → ℕ} {mayCall : Call → List Lock → Prop}

/-- Code that takes locks in the order of their rank, or again, and makes calls where it may. -/
def Code.Ordered (rank : Lock → ℕ) (mayCall : Call → List Lock → Prop) (held : List Lock) : Code Lock σ Call → Prop
  | .skip => True
  | .update _ => True
  | .locked lock body =>
    (lock ∈ held ∨ ∀ other ∈ held, rank other < rank lock) ∧ body.Ordered rank mayCall (lock :: held)
  | .seq first second => first.Ordered rank mayCall held ∧ second.Ordered rank mayCall held
  | .whenever _ body => body.Ordered rank mayCall held
  | .call c => mayCall c held

/-- What a thread does next is ordered, and its scopes are those of the locks that it holds. -/
def FramesOrdered (rank : Lock → ℕ) (mayCall : Call → List Lock → Prop) (held : List Lock) :
    List (Frame Lock σ Call) → Prop
  | [] => held = []
  | .run code :: rest => code.Ordered rank mayCall held ∧ FramesOrdered rank mayCall held rest
  | .unlock lock :: rest => ∃ outer, held = lock :: outer ∧ FramesOrdered rank mayCall outer rest

/-- Every thread is ordered, and owns what it holds. -/
structure Disciplined (rank : Lock → ℕ) (mayCall : Call → List Lock → Prop) (m : Machine Name Lock σ Call) :
    Prop where
  owner (lock : Lock) (name : Name) : m.owner lock = some name ↔ lock ∈ (m.threads name).held
  ordered (name : Name) : FramesOrdered rank mayCall (m.threads name).held (m.threads name).frames

namespace Disciplined

variable {m : Machine Name Lock σ Call}

/-- Idle threads are disciplined. -/
theorem idle (shared : σ) : Disciplined rank mayCall (Machine.idle shared : Machine Name Lock σ Call) :=
  ⟨fun _ _ => by simp [Machine.idle], fun _ => rfl⟩

/-- The shared state does not matter. -/
theorem setShared (disciplined : Disciplined rank mayCall m) (shared : σ) :
    Disciplined rank mayCall { m with shared } := ⟨disciplined.owner, disciplined.ordered⟩

/-- A thread that waits wants a lock of a higher rank than those it holds. -/
theorem rank_lt (disciplined : Disciplined rank mayCall m) {name other : Name} {held wanted : Lock}
    (hheld : m.owner held = some name) (hwanted : (m.threads name).wanted = some wanted)
    (hother : m.owner wanted = some other) (hne : name ≠ other) : rank held < rank wanted := by
  have hordered := disciplined.ordered name
  unfold Thread.wanted at hwanted
  split at hwanted
  · next lock body rest hframes =>
    obtain rfl := Option.some.inj hwanted
    rw [hframes] at hordered
    obtain ⟨⟨hlock, -⟩, -⟩ := hordered
    rcases hlock with hagain | hhigher
    · have hown := (disciplined.owner lock name).mpr hagain
      rw [hother] at hown
      exact absurd (Option.some.inj hown).symm hne
    · exact hhigher held ((disciplined.owner held name).mp hheld)
  · contradiction

/-- No thread waits, through however many others, for itself. -/
theorem no_cycle (disciplined : Disciplined rank mayCall m) (name : Name) :
    ¬Relation.TransGen m.WaitsFor name name := by
  -- Along a chain the locks that the threads want have higher and higher ranks.
  have hchain {first last : Name} (hpath : Relation.TransGen m.WaitsFor first last) {lock wanted : Lock}
    {other : Name}
      (hlock : (m.threads first).wanted = some lock) (hwanted : (m.threads last).wanted = some wanted)
      (hother : m.owner wanted = some other) (hne : last ≠ other) : rank lock < rank wanted := by
    induction hpath generalizing wanted other with
    | single hwaits =>
      obtain ⟨l, hl, howner, -⟩ := hwaits
      obtain rfl := Option.some.inj (hl.symm.trans hlock)
      exact disciplined.rank_lt howner hwanted hother hne
    | tail hpath hwaits ih =>
      obtain ⟨l, hl, howner, hbetween⟩ := hwaits
      exact Nat.lt_trans (ih hl howner hbetween) (disciplined.rank_lt howner hwanted hother hne)
  intro hcycle
  obtain ⟨next, ⟨lock, hlock, howner, hne⟩, -⟩ := (Relation.TransGen.head'_iff).mp hcycle
  exact absurd (hchain hcycle hlock hlock howner hne) (Nat.lt_irrefl _)

variable [DecidableEq Name]

/-- A thread goes on and holds what it held. -/
theorem setThread (disciplined : Disciplined rank mayCall m) {name : Name} {frames : List (Frame Lock σ Call)}
    (hordered : FramesOrdered rank mayCall (m.threads name).held frames) :
    Disciplined rank mayCall (m.setThread name ⟨(m.threads name).held, frames⟩) := by
  refine ⟨fun lock other => ?_, fun other => ?_⟩
  · by_cases heq : other = name
    · subst heq
      simpa [Machine.setThread] using disciplined.owner lock other
    · simpa [Machine.setThread, heq] using disciplined.owner lock other
  · by_cases heq : other = name
    · subst heq
      simpa [Machine.setThread] using hordered
    · simpa [Machine.setThread, heq] using disciplined.ordered other

/-- An idle thread begins with ordered code. -/
theorem start (disciplined : Disciplined rank mayCall m) (name : Name) {code : Code Lock σ Call}
    (hcode : code.Ordered rank mayCall []) : Disciplined rank mayCall (m.start name code) := by
  unfold Machine.start
  split
  · next hidle =>
    have hordered := disciplined.ordered name
    rw [List.isEmpty_iff.mp hidle] at hordered
    have hheld : (m.threads name).held = [] := hordered
    refine disciplined.setThread ⟨?_, ?_⟩
    · rw [hheld]
      exact hcode
    · rw [hheld]
      rfl
  · exact disciplined

variable [DecidableEq Lock]

/-- A thread takes a lock that is free. -/
theorem acquire (disciplined : Disciplined rank mayCall m) {recursive : Lock → Bool} {name : Name} {lock : Lock}
    {frames : List (Frame Lock σ Call)} (hfree : m.free recursive name lock = true)
    (hordered : FramesOrdered rank mayCall (lock :: (m.threads name).held) frames) :
    Disciplined rank mayCall { m.setThread name ⟨lock :: (m.threads name).held, frames⟩ with
      owner := Function.update m.owner lock (some name) } := by
  refine ⟨fun l other => ?_, fun other => ?_⟩
  · have howner := disciplined.owner l other
    by_cases hlock : l = lock
    · subst hlock
      by_cases heq : other = name
      · simp [Machine.setThread, heq]
      · -- No other thread can hold the lock.
        have hnot : m.owner l ≠ some other := by
          intro hother
          simp [Machine.free, hother, heq] at hfree
        simpa [Machine.setThread, heq, Ne.symm heq] using mt howner.mpr hnot
    · by_cases heq : other = name
      · subst heq
        simpa [Machine.setThread, hlock] using howner
      · simpa [Machine.setThread, hlock, heq] using howner
  · by_cases heq : other = name
    · subst heq
      simpa [Machine.setThread] using hordered
    · simpa [Machine.setThread, heq] using disciplined.ordered other

/-- A thread leaves the scope of a lock. -/
theorem release (disciplined : Disciplined rank mayCall m) {name : Name} {lock : Lock} {outer : List Lock}
    {frames : List (Frame Lock σ Call)} (hheld : (m.threads name).held = lock :: outer)
    (hordered : FramesOrdered rank mayCall outer frames) :
    Disciplined rank mayCall { m.setThread name ⟨outer, frames⟩ with
      owner := if lock ∈ outer then m.owner else Function.update m.owner lock none } := by
  have hown : m.owner lock = some name := by
    rw [disciplined.owner, hheld]
    exact List.mem_cons_self
  refine ⟨fun l other => ?_, fun other => ?_⟩
  · have howner := disciplined.owner l other
    by_cases hlock : l = lock
    · subst hlock
      by_cases heq : other = name
      · subst heq
        by_cases hagain : l ∈ outer <;> simp [Machine.setThread, hagain, hown]
      · have hnot : l ∉ (m.threads other).held := by
          rw [← howner, hown]
          exact fun hsame => heq (Option.some.inj hsame).symm
        by_cases hagain : l ∈ outer <;> simp [Machine.setThread, hagain, hown, heq, Ne.symm heq, hnot]
    · have hsame : (if lock ∈ outer then m.owner else Function.update m.owner lock none) l = m.owner l := by
        split <;> simp [hlock]
      by_cases heq : other = name
      · subst heq
        rw [hheld, List.mem_cons, or_iff_right hlock] at howner
        simpa [Machine.setThread, hsame] using howner
      · simpa [Machine.setThread, heq, hsame] using howner
  · by_cases heq : other = name
    · subst heq
      simpa [Machine.setThread] using hordered
    · simpa [Machine.setThread, heq] using disciplined.ordered other

/-- A thread goes on, and its call runs ordered code. -/
theorem advance (disciplined : Disciplined rank mayCall m) (recursive : Lock → Bool) {answer : Code Lock σ Call}
    {name : Name} (hanswer : ∀ c, (m.threads name).calling = some c → mayCall c (m.threads name).held →
      answer.Ordered rank mayCall (m.threads name).held) :
        Disciplined rank mayCall (m.advance recursive answer name) := by
  have hordered := disciplined.ordered name
  unfold Machine.advance
  split
  · exact disciplined
  · next rest hframes =>
    rw [hframes] at hordered
    exact disciplined.setThread hordered.2
  · next f rest hframes =>
    rw [hframes] at hordered
    exact (disciplined.setThread hordered.2).setShared _
  · next first second rest hframes =>
    rw [hframes] at hordered
    exact disciplined.setThread ⟨hordered.1.1, hordered.1.2, hordered.2⟩
  · next condition body rest hframes =>
    rw [hframes] at hordered
    refine disciplined.setThread ?_
    split
    · exact hordered
    · exact hordered.2
  · next c rest hframes =>
    rw [hframes] at hordered
    refine disciplined.setThread ⟨hanswer c ?_ hordered.1, hordered.2⟩
    rw [Thread.calling, hframes]
  · next lock body rest hframes =>
    rw [hframes] at hordered
    obtain ⟨⟨-, hbody⟩, hrest⟩ := hordered
    split
    · next hfree => exact disciplined.acquire hfree ⟨hbody, _, rfl, hrest⟩
    · exact disciplined
  · next lock rest hframes =>
    rw [hframes] at hordered
    obtain ⟨outer, hheld, hrest⟩ := hordered
    simp only [hheld, List.tail_cons]
    exact disciplined.release hheld hrest

end Disciplined

end Order

end LockOrder
