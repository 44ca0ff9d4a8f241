import LibBtcNet.Connection
import Mathlib.Data.List.Flatten

/-!
# The byte queue of libevent

An `evbuffer` is a chain of chunks; the way its bytes are divided into chunks is visible
only through `evbuffer_peek`. Chunks may be empty. The lemmas say what each operation
does to the concatenated bytes.
-/

namespace LibBtcNet

/-- The chain of chunks of an `evbuffer`, front first. -/
abbrev EvBuffer := List Bytes

namespace EvBuffer

/-- `evbuffer_get_length`. -/
def getLength (buffer : EvBuffer) : ℕ := buffer.flatten.length

/-- `evbuffer_add`: the new bytes arrive in chunks of their own. -/
def add (buffer : EvBuffer) (chunks : List Bytes) : EvBuffer := buffer ++ chunks

/-- How many chunks `evbuffer_peek` needs to cover the first `len` bytes. -/
def peekCount : EvBuffer → ℕ → ℕ
  | [], _ => 0
  | chunk :: rest, len => if len = 0 then 0 else peekCount rest (len - chunk.length) + 1

/-- The memory of the first chunk, which is what `evbuffer_peek` puts in its first vector. -/
def peekFirst (buffer : EvBuffer) : Bytes := buffer.headD []

/-- `evbuffer_copyout`. -/
def copyout (buffer : EvBuffer) (len : ℕ) : Bytes := buffer.flatten.take len

/-- `evbuffer_drain`: whole chunks go first, then the front of the chunk that is left. -/
def drain : EvBuffer → ℕ → EvBuffer
  | [], _ => []
  | chunk :: rest, len =>
    if len < chunk.length then chunk.drop len :: rest else drain rest (len - chunk.length)

/-- The added bytes follow the buffered ones. -/
@[simp] theorem flatten_add (buffer : EvBuffer) (chunks : List Bytes) :
    (buffer.add chunks).flatten = buffer.flatten ++ chunks.flatten := List.flatten_append

/-- Draining drops bytes from the front, for every division into chunks. -/
@[simp] theorem flatten_drain (buffer : EvBuffer) (len : ℕ) :
    (buffer.drain len).flatten = buffer.flatten.drop len := by
  induction buffer generalizing len with
  | nil => simp [drain]
  | cons chunk rest ih =>
    rw [drain, List.flatten_cons]
    split
    · rw [List.flatten_cons, List.drop_append_of_le_length (by omega)]
    · have hgone : chunk.drop len = [] := List.drop_eq_nil_of_le (by omega)
      rw [ih, List.drop_append, hgone, List.nil_append]

/-- A drained buffer is shorter by what was drained. -/
theorem getLength_drain (buffer : EvBuffer) (len : ℕ) :
    (buffer.drain len).getLength = buffer.getLength - len := by
  simp [getLength]

/-- When one chunk covers the requested bytes, its memory begins with them. -/
theorem take_peekFirst {buffer : EvBuffer} {len : ℕ} (h : buffer.peekCount len = 1) :
    buffer.peekFirst.take len = buffer.flatten.take len := by
  cases buffer with
  | nil => simp [peekCount] at h
  | cons chunk rest =>
    simp only [peekFirst, List.headD_cons, List.flatten_cons]
    rw [peekCount] at h
    split at h
    · contradiction
    · cases rest with
      | nil => simp
      | cons next rest =>
        have hcovered : len - chunk.length = 0 := by
          by_contra hne
          simp [peekCount, hne] at h
        rw [List.take_append_of_le_length (by omega)]

/-- Chunks behind the requested bytes do not count. -/
theorem peekCount_append {buffer : EvBuffer} {len : ℕ} (hlen : len ≤ buffer.getLength) (later : EvBuffer) :
    peekCount (buffer ++ later) len = buffer.peekCount len := by
  induction buffer generalizing len with
  | nil =>
    obtain rfl : len = 0 := Nat.le_zero.mp hlen
    cases later <;> rfl
  | cons chunk rest ih =>
    have hrest : len - chunk.length ≤ getLength rest := by
      rw [getLength, List.flatten_cons, List.length_append] at hlen
      rw [getLength]
      omega
    rw [List.cons_append, peekCount, peekCount, ih hrest]

/-- The first chunk stays the first. -/
theorem peekFirst_append {buffer : EvBuffer} (hne : buffer ≠ []) (later : EvBuffer) :
    peekFirst (buffer ++ later) = buffer.peekFirst := by
  cases buffer with
  | nil => contradiction
  | cons chunk rest => rfl

/-- Bytes behind the requested ones are not copied. -/
theorem copyout_append {buffer : EvBuffer} {len : ℕ} (hlen : len ≤ buffer.getLength) (later : EvBuffer) :
    copyout (buffer ++ later) len = buffer.copyout len := by
  rw [copyout, copyout, List.flatten_append, List.take_append_of_le_length hlen]

end EvBuffer

end LibBtcNet
