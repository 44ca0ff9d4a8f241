import Mathlib.Data.List.Basic
import Mathlib.Tactic.Basic

/-!
# Splitting a stream into frames, at once or as it arrives

A framing rule looks at the front of a stream and either asks for more symbols, cuts
off a first frame, or rejects the stream. Its answers must be decided by a prefix: more
symbols arriving later change neither a cut nor a rejection.

The greedy split applies the rule to a whole stream. An incremental consumer keeps the
undecided rest and applies the rule again whenever symbols arrive. The two agree at
every arrival.
-/

namespace StreamFraming

/-- What a framing rule says about the front of a stream. -/
inductive Verdict where
  | more
  | frame (size : ℕ)
  | bad
deriving DecidableEq, Repr

/-- A framing rule whose answers are nonempty, within the stream, and stable under arrival of
further symbols. -/
structure Framer (A : Type*) where
  verdict : List A → Verdict
  frame_bounds : ∀ stream size, verdict stream = .frame size → 0 < size ∧ size ≤ stream.length
  frame_stable : ∀ stream later size, verdict stream = .frame size →
    verdict (stream ++ later) = .frame size
  bad_stable : ∀ stream later, verdict stream = .bad → verdict (stream ++ later) = .bad

/-- The frames cut off so far, the undecided rest, and whether that rest was rejected. -/
structure Split (A : Type*) where
  frames : List (List A)
  rest : List A
  bad : Bool
deriving DecidableEq, Repr

namespace Framer

variable {A : Type*} (F : Framer A)

/-- Cut off frames until the rule asks for more or rejects, at most `fuel` times. -/
def splitFuel : ℕ → List A → Split A
  | 0, stream => ⟨[], stream, false⟩
  | fuel + 1, stream =>
    match F.verdict stream with
    | .more => ⟨[], stream, false⟩
    | .bad => ⟨[], stream, true⟩
    | .frame size =>
      let later := splitFuel fuel (stream.drop size)
      ⟨stream.take size :: later.frames, later.rest, later.bad⟩

/-- The greedy split of a whole stream; every frame is nonempty, so the fuel suffices. -/
def split (stream : List A) : Split A := F.splitFuel (stream.length + 1) stream

/-- Induction along the greedy split: a frame is followed by the split of what is behind it. -/
theorem splitInduction {motive : List A → Prop}
    (more : ∀ stream, F.verdict stream = .more → motive stream)
    (bad : ∀ stream, F.verdict stream = .bad → motive stream)
    (frame : ∀ stream size, F.verdict stream = .frame size → motive (stream.drop size) → motive stream)
    (stream : List A) : motive stream := by
  induction hlen : stream.length using Nat.strongRecOn generalizing stream with
  | _ n ih =>
    cases hv : F.verdict stream with
    | more => exact more stream hv
    | bad => exact bad stream hv
    | frame size =>
      obtain ⟨hpos, hle⟩ := F.frame_bounds stream size hv
      refine frame stream size hv (ih (stream.drop size).length ?_ _ rfl)
      rw [List.length_drop]
      omega

/-- Any fuel above the stream's length gives the greedy split. -/
theorem splitFuel_eq_split (fuel : ℕ) (stream : List A) (h : stream.length < fuel) :
    F.splitFuel fuel stream = F.split stream := by
  suffices hboth : ∀ m n : ℕ, stream.length < m → stream.length < n →
      F.splitFuel m stream = F.splitFuel n stream from hboth _ _ h (Nat.lt_succ_self _)
  clear h
  induction stream using F.splitInduction with
  | more stream hv | bad stream hv =>
    intro m n hm hn
    obtain ⟨m, rfl⟩ := Nat.exists_eq_succ_of_ne_zero (by omega : m ≠ 0)
    obtain ⟨n, rfl⟩ := Nat.exists_eq_succ_of_ne_zero (by omega : n ≠ 0)
    simp only [splitFuel, hv]
  | frame stream size hv ih =>
    intro m n hm hn
    obtain ⟨m, rfl⟩ := Nat.exists_eq_succ_of_ne_zero (by omega : m ≠ 0)
    obtain ⟨n, rfl⟩ := Nat.exists_eq_succ_of_ne_zero (by omega : n ≠ 0)
    obtain ⟨hpos, hle⟩ := F.frame_bounds stream size hv
    have hdrop : (stream.drop size).length < m ∧ (stream.drop size).length < n := by
      rw [List.length_drop]
      omega
    simp only [splitFuel, hv, ih m n hdrop.1 hdrop.2]

/-- A stream whose front is undecided is kept whole. -/
theorem split_of_more {stream : List A} (h : F.verdict stream = .more) :
    F.split stream = ⟨[], stream, false⟩ := by
  simp only [split, splitFuel, h]

/-- A stream whose front is rejected yields no frame. -/
theorem split_of_bad {stream : List A} (h : F.verdict stream = .bad) :
    F.split stream = ⟨[], stream, true⟩ := by
  simp only [split, splitFuel, h]

/-- A stream with a decided first frame yields it, then the split of what is behind it. -/
theorem split_of_frame {stream : List A} {size : ℕ} (h : F.verdict stream = .frame size) :
    F.split stream = ⟨stream.take size :: (F.split (stream.drop size)).frames,
      (F.split (stream.drop size)).rest, (F.split (stream.drop size)).bad⟩ := by
  obtain ⟨hpos, hle⟩ := F.frame_bounds stream size h
  have hfuel : (stream.drop size).length < stream.length := by
    rw [List.length_drop]
    omega
  conv_lhs => rw [split, splitFuel]
  simp only [h, F.splitFuel_eq_split _ _ hfuel]

/-- The rest of a split that was not rejected is undecided. -/
theorem verdict_rest (stream : List A) (h : (F.split stream).bad = false) :
    F.verdict (F.split stream).rest = .more := by
  induction stream using F.splitInduction with
  | more stream hv => rwa [F.split_of_more hv]
  | bad stream hv => simp [F.split_of_bad hv] at h
  | frame stream size hv ih =>
    rw [F.split_of_frame hv] at h ⊢
    exact ih h

/-- Every frame of a split is nonempty. -/
theorem ne_nil_of_mem_frames {stream frame : List A} (h : frame ∈ (F.split stream).frames) :
    frame ≠ [] := by
  induction stream using F.splitInduction with
  | more stream hv => simp [F.split_of_more hv] at h
  | bad stream hv => simp [F.split_of_bad hv] at h
  | frame stream size hv ih =>
    obtain ⟨hpos, hle⟩ := F.frame_bounds stream size hv
    rw [F.split_of_frame hv, List.mem_cons] at h
    rcases h with rfl | h
    · apply List.ne_nil_of_length_pos
      rw [List.length_take]
      omega
    · exact ih h

/-- Frames of total length zero are no frames. -/
theorem frames_eq_nil_iff (stream : List A) :
    (F.split stream).frames.flatten.length = 0 ↔ (F.split stream).frames = [] := by
  constructor
  · intro hzero
    cases hframes : (F.split stream).frames with
    | nil => rfl
    | cons frame frames =>
      have hmem : frame ∈ (F.split stream).frames := by simp [hframes]
      have hnonempty := List.length_pos_of_ne_nil (F.ne_nil_of_mem_frames hmem)
      rw [hframes, List.flatten_cons, List.length_append] at hzero
      omega
  · intro hnil
    rw [hnil]
    rfl

/-- One arrival: a rejected stream stays rejected, any other is split further from its rest. -/
def feed (before : Split A) (arrival : List A) : Split A :=
  if before.bad then { before with rest := before.rest ++ arrival }
  else
    let after := F.split (before.rest ++ arrival)
    { after with frames := before.frames ++ after.frames }

/-- Splitting a stream with its continuation is feeding the continuation to the split stream. -/
theorem split_append (stream later : List A) :
    F.split (stream ++ later) = F.feed (F.split stream) later := by
  induction stream using F.splitInduction with
  | more stream hv => simp [F.split_of_more hv, feed]
  | bad stream hv =>
    rw [F.split_of_bad hv, F.split_of_bad (F.bad_stable stream later hv)]
    rfl
  | frame stream size hv ih =>
    obtain ⟨-, hle⟩ := F.frame_bounds stream size hv
    rw [F.split_of_frame (F.frame_stable stream later size hv), F.split_of_frame hv,
      List.take_append_of_le_length hle, List.drop_append_of_le_length hle, ih]
    unfold feed
    split <;> simp_all

/-- A split that was not rejected goes on from its rest. -/
theorem split_append_of_good {stream : List A} (later : List A) (hgood : (F.split stream).bad = false) :
    F.split (stream ++ later) = { F.split ((F.split stream).rest ++ later) with
      frames := (F.split stream).frames ++ (F.split ((F.split stream).rest ++ later)).frames } := by
  rw [split_append, feed, hgood, if_neg Bool.false_ne_true]

/-- One that was rejected has all its frames. -/
theorem split_append_of_bad {stream : List A} (later : List A) (hbad : (F.split stream).bad = true) :
    (F.split (stream ++ later)).frames = (F.split stream).frames ∧ (F.split (stream ++ later)).bad = true := by
  rw [split_append, feed, if_pos hbad]
  exact ⟨rfl, hbad⟩

/-- What arrives later takes no frame back. -/
theorem frames_prefix (stream later : List A) : (F.split stream).frames <+: (F.split (stream ++ later)).frames := by
  cases hbad : (F.split stream).bad with
  | true => exact (F.split_append_of_bad later hbad).1 ▸ List.prefix_rfl
  | false =>
    rw [F.split_append_of_good later hbad]
    exact List.prefix_append _ _

/-- An arrival after which the rest is still undecided only lengthens the rest. -/
theorem feed_of_more {before : Split A} {arrival : List A} (hgood : before.bad = false)
    (h : F.verdict (before.rest ++ arrival) = .more) :
    F.feed before arrival = ⟨before.frames, before.rest ++ arrival, false⟩ := by
  simp [feed, hgood, F.split_of_more h]

end Framer

end StreamFraming
