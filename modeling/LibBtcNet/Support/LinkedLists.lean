import LibBtcNet.Support.OrderedMap
import Mathlib.Data.List.Nodup
import Mathlib.Logic.Function.Basic

/-!
# Linked lists in memory, and who owns them

Cells with a value and the address of the next one. A list of cells is laid out in memory when each
is found at its address and points at its successor; it may then be walked from its first cell, and
released from there. Both stop with an error at an address that is not allocated, so that what
walks or releases a list twice is noticed.

Several owners share a memory when no address has two of them and none is left without one. An owner
that exchanges what it holds for something else, by releasing and allocating, leaves the others as
they are.
-/

namespace LinkedLists

open Std

/-- An address. -/
abbrev Ptr := ℕ

/-- A cell. -/
structure Cell (V : Type*) where
  value : V
  next : Option Ptr
deriving DecidableEq, Repr

/-- The cells that are allocated. -/
abbrev Heap (V : Type*) := TreeMap Ptr (Cell V) compare

variable {V : Type*}

/-- The address of the first of some cells, which is null when there is none. -/
def first : List (Ptr × V) → Option Ptr
  | [] => none
  | cell :: _ => some cell.1

/-- There is no first cell. -/
@[simp] theorem first_nil : first ([] : List (Ptr × V)) = none := rfl

/-- The first cell. -/
@[simp] theorem first_cons (cell : Ptr × V) (cells : List (Ptr × V)) : first (cell :: cells) = some cell.1 := rfl

/-- Where there is a cell there is a first one. -/
theorem first_append_cons (before : List (Ptr × V)) (cell : Ptr × V) (after : List (Ptr × V)) :
    ∃ p, first (before ++ cell :: after) = some p := by
  cases before with
  | nil => exact ⟨cell.1, rfl⟩
  | cons other before => exact ⟨other.1, rfl⟩

/-- The addresses of cells. -/
def addresses (cells : List (Ptr × V)) : List Ptr := cells.map Prod.fst

/-- The cells are laid out in memory, each pointing at the next. -/
def LaidOut (m : Heap V) : List (Ptr × V) → Prop
  | [] => True
  | (p, v) :: cells => m[p]? = some ⟨v, first cells⟩ ∧ LaidOut m cells

/-- The cells are allocated. -/
def allocate (m : Heap V) : List (Ptr × V) → Heap V
  | [] => m
  | (p, v) :: cells => (allocate m cells).insert p ⟨v, first cells⟩

/-- The cells from an address on, in a number of steps at most. -/
def walk (m : Heap V) : ℕ → Option Ptr → Option (List (Ptr × V))
  | _, none => some []
  | 0, some _ => none
  | steps + 1, some p =>
    match m[p]? with
    | none => none
    | some cell => (walk m steps cell.next).map ((p, cell.value) :: ·)

/-- The cells from an address on are released one after the other, in a number of steps at most. -/
def release : ℕ → Heap V → Option Ptr → Option (Heap V)
  | _, m, none => some m
  | 0, _, some _ => none
  | steps + 1, m, some p =>
    match m[p]? with
    | none => none
    | some cell => release steps (m.erase p) cell.next

/-- Addresses that may be allocated: they are free and each comes once. -/
def Available (m : Heap V) (cells : List (Ptr × V)) : Prop :=
  (addresses cells).Nodup ∧ ∀ p ∈ addresses cells, m[p]? = none

/-- This can be checked. -/
instance (m : Heap V) (cells : List (Ptr × V)) : Decidable (Available m cells) :=
  inferInstanceAs (Decidable ((addresses cells).Nodup ∧ ∀ p ∈ addresses cells, (m[p]?) = none))

section Layout

variable {m m' : Heap V} {cells : List (Ptr × V)}

/-- What is laid out is found at its address. -/
theorem LaidOut.isSome (linked : LaidOut m cells) {p : Ptr} (hp : p ∈ addresses cells) : m[p]? ≠ none := by
  induction cells with
  | nil => exact absurd hp List.not_mem_nil
  | cons cell cells ih =>
    obtain ⟨hfound, linked⟩ := linked
    rcases List.mem_cons.mp hp with rfl | hp
    · simp [hfound]
    · exact ih linked hp

/-- What is laid out stays so while its own addresses do. -/
theorem LaidOut.frame (linked : LaidOut m cells) (hsame : ∀ p ∈ addresses cells, m'[p]? = m[p]?) :
    LaidOut m' cells := by
  induction cells with
  | nil => trivial
  | cons cell cells ih =>
    obtain ⟨hfound, linked⟩ := linked
    refine ⟨(hsame cell.1 List.mem_cons_self).trans hfound, ih linked fun p hp => ?_⟩
    exact hsame p (List.mem_cons_of_mem _ hp)

/-- So is its end. -/
theorem LaidOut.suffix {before after : List (Ptr × V)} (linked : LaidOut m (before ++ after)) : LaidOut m after := by
  induction before with
  | nil => exact linked
  | cons cell before ih => exact ih linked.2

/-- From an address on only one list is laid out. -/
theorem LaidOut.unique {cells' : List (Ptr × V)} (linked : LaidOut m cells) (linked' : LaidOut m cells')
    (hfirst : first cells = first cells') : cells = cells' := by
  induction cells generalizing cells' with
  | nil =>
    cases cells' with
    | nil => rfl
    | cons cell' cells' => simp [first] at hfirst
  | cons cell cells ih =>
    cases cells' with
    | nil => simp [first] at hfirst
    | cons cell' cells' =>
      obtain ⟨p, v⟩ := cell
      obtain ⟨p', v'⟩ := cell'
      obtain rfl : p = p' := Option.some.inj hfirst
      obtain ⟨hfound, linked⟩ := linked
      obtain ⟨hfound', linked'⟩ := linked'
      have hcell := Option.some.inj (hfound.symm.trans hfound')
      obtain ⟨rfl, hnext⟩ := Cell.mk.inj hcell
      rw [ih linked linked' hnext]

/-- No address comes twice: from the second on the same list would follow as from the first. -/
theorem LaidOut.nodup (linked : LaidOut m cells) : (addresses cells).Nodup := by
  induction cells with
  | nil => exact List.nodup_nil
  | cons cell cells ih =>
    refine List.nodup_cons.mpr ⟨fun hmem => ?_, ih linked.2⟩
    obtain ⟨again, hagain, haddress⟩ := List.mem_map.mp hmem
    obtain ⟨before, after, rfl⟩ := List.append_of_mem hagain
    have hsuffix := @LaidOut.suffix V m (cell :: before) (again :: after) linked
    have hsame := LaidOut.unique linked hsuffix (congrArg some haddress.symm)
    have hlength := congrArg List.length hsame
    simp only [List.length_cons, List.length_append] at hlength
    omega

/-- Allocated cells are laid out, and everything else is where it was. -/
theorem getElem?_allocate (hnodup : (addresses cells).Nodup) :
    LaidOut (allocate m cells) cells ∧ ∀ p ∉ addresses cells, (allocate m cells)[p]? = m[p]? := by
  induction cells with
  | nil => exact ⟨trivial, fun _ _ => rfl⟩
  | cons cell cells ih =>
    obtain ⟨hnew, hnodup⟩ := List.nodup_cons.mp hnodup
    obtain ⟨linked, hother⟩ := ih hnodup
    refine ⟨⟨by simp [allocate], linked.frame fun p hp => ?_⟩, fun p hp => ?_⟩
    · rw [allocate, OrderedMap.getElem?_insert, if_neg fun heq : cell.1 = p => hnew (heq ▸ hp)]
    · obtain ⟨hne, hp⟩ := List.ne_and_not_mem_of_not_mem_cons hp
      rw [allocate, OrderedMap.getElem?_insert, if_neg (Ne.symm hne), hother p hp]

/-- A list that is laid out is walked to its end. -/
theorem walk_of_laidOut (linked : LaidOut m cells) {steps : ℕ} (hsteps : cells.length ≤ steps) :
    walk m steps (first cells) = some cells := by
  induction cells generalizing steps with
  | nil => cases steps <;> rfl
  | cons cell cells ih =>
    obtain ⟨hfound, linked⟩ := linked
    cases steps with
    | zero => simp at hsteps
    | succ steps =>
      simp only [first_cons, walk, hfound]
      rw [ih linked (Nat.le_of_succ_le_succ hsteps)]
      rfl

/-- A list that is laid out is released to its end, and nothing else is. -/
theorem release_of_laidOut (linked : LaidOut m cells) {steps : ℕ} (hsteps : cells.length ≤ steps) :
    ∃ m', release steps m (first cells) = some m' ∧
      ∀ p : Ptr, m'[p]? = if p ∈ addresses cells then none else m[p]? := by
  induction cells generalizing m steps with
  | nil =>
    refine ⟨m, ?_, fun p => (if_neg List.not_mem_nil).symm⟩
    cases steps <;> rfl
  | cons cell cells ih =>
    obtain ⟨hnew, -⟩ := List.nodup_cons.mp linked.nodup
    obtain ⟨hfound, linked⟩ := linked
    cases steps with
    | zero => simp at hsteps
    | succ steps =>
      have hrest : LaidOut (m.erase cell.1) cells := linked.frame fun p hp => by
        rw [OrderedMap.getElem?_erase, if_neg fun heq : cell.1 = p => hnew (heq ▸ hp)]
      obtain ⟨m', hrelease, hother⟩ := ih hrest (Nat.le_of_succ_le_succ hsteps)
      refine ⟨m', by simp only [first_cons, release, hfound, hrelease], fun p => ?_⟩
      rw [hother, OrderedMap.getElem?_erase]
      simp only [addresses, List.map_cons, List.mem_cons]
      by_cases hp : p ∈ cells.map Prod.fst
      · simp [hp]
      · by_cases heq : cell.1 = p
        · simp [hp, heq]
        · simp [hp, heq, Ne.symm heq]

/-- As many steps are enough as there are cells in memory. -/
theorem LaidOut.length_le_size (linked : LaidOut m cells) : cells.length ≤ m.size := by
  have hsubset : addresses cells ⊆ m.keys := fun p hp => by
    rw [TreeMap.mem_keys, TreeMap.mem_iff_isSome_getElem?, Option.isSome_iff_ne_none]
    exact linked.isSome hp
  have hlength := (List.subperm_of_subset linked.nodup hsubset).length_le
  rwa [addresses, List.length_map, TreeMap.length_keys] at hlength

end Layout

section Owners

variable {K : Type*} {m m' : Heap V}

/-- No address has two owners, and every address that is allocated has one. -/
structure Shared (m : Heap V) (owned : K → List Ptr) : Prop where
  live (k : K) (p : Ptr) : p ∈ owned k → m[p]? ≠ none
  apart (k k' : K) (p : Ptr) : p ∈ owned k → p ∈ owned k' → k = k'
  accounted (p : Ptr) : m[p]? ≠ none → ∃ k, p ∈ owned k

/-- What was held is exchanged for something new: the rest of the memory stays as it is. -/
structure Exchanged (m m' : Heap V) (old new : List Ptr) : Prop where
  kept (p : Ptr) : p ∉ old → p ∉ new → m'[p]? = m[p]?
  live (p : Ptr) : p ∈ new → m'[p]? ≠ none
  released (p : Ptr) : p ∈ old → p ∉ new → m'[p]? = none
  allocated (p : Ptr) : p ∈ new → p ∉ old → m[p]? = none

namespace Exchanged

variable {m'' : Heap V} {old new new' : List Ptr}

/-- Nothing is exchanged. -/
theorem refl (hlive : ∀ p ∈ old, m[p]? ≠ none) : Exchanged m m old old :=
  ⟨fun _ _ _ => rfl, hlive, fun _ hold hnew => absurd hold hnew, fun _ hnew hold => absurd hnew hold⟩

/-- One exchange after another. -/
theorem trans (exchange : Exchanged m m' old new) (later : Exchanged m' m'' new new') : Exchanged m m'' old new' := by
  refine ⟨fun p hold hnew' => ?_, later.live, fun p hold hnew' => ?_, fun p hnew' hold => ?_⟩
  · by_cases hnew : p ∈ new
    · rw [later.released p hnew hnew', exchange.allocated p hnew hold]
    · rw [later.kept p hnew hnew', exchange.kept p hold hnew]
  · by_cases hnew : p ∈ new
    · exact later.released p hnew hnew'
    · rw [later.kept p hnew hnew', exchange.released p hold hnew]
  · by_cases hnew : p ∈ new
    · exact exchange.allocated p hnew hold
    · rw [← exchange.kept p hold hnew]
      exact later.allocated p hnew' hnew

/-- A list that is laid out is given up. -/
theorem of_release {cells : List (Ptr × V)}
    (hreleased : ∀ p : Ptr, m'[p]? = if p ∈ addresses cells then none else m[p]?) :
    Exchanged m m' (addresses cells) [] := by
  refine ⟨fun p hold _ => ?_, fun p hp => absurd hp List.not_mem_nil, fun p hold _ => ?_,
    fun p hp => absurd hp List.not_mem_nil⟩
  · rw [hreleased, if_neg hold]
  · rw [hreleased, if_pos hold]

/-- A list is laid out where there was none. -/
theorem of_allocate {cells : List (Ptr × V)} (available : Available m cells) :
    Exchanged m (allocate m cells) [] (addresses cells) := by
  obtain ⟨linked, hother⟩ := getElem?_allocate (m := m) available.1
  exact ⟨fun p _ hnew => hother p hnew, fun p hp => linked.isSome hp, fun p hp => absurd hp List.not_mem_nil,
    fun p hnew _ => available.2 p hnew⟩

end Exchanged

namespace Shared

variable {owned : K → List Ptr} {k : K} {new : List Ptr}

/-- Nothing is allocated, and nobody owns anything. -/
theorem empty : Shared (∅ : Heap V) fun _ : K => [] :=
  ⟨fun _ _ hp => absurd hp List.not_mem_nil, fun _ _ _ hp => absurd hp List.not_mem_nil,
    fun _ hp => absurd TreeMap.getElem?_emptyc hp⟩

/-- An exchange by one owner leaves what the others hold. -/
theorem frame (shared : Shared m owned) (exchange : Exchanged m m' (owned k) new) {k' : K} (hother : k' ≠ k) {p : Ptr}
    (hp : p ∈ owned k') : m'[p]? = m[p]? := by
  have hold : p ∉ owned k := fun hold => hother (shared.apart k' k p hp hold)
  exact exchange.kept p hold fun hnew => shared.live k' p hp (exchange.allocated p hnew hold)

/-- Afterwards the memory is shared again. -/
theorem exchange [DecidableEq K] (shared : Shared m owned) (exchange : Exchanged m m' (owned k) new) :
    Shared m' (Function.update owned k new) := by
  have hnew (k' : K) (hother : k' ≠ k) (p : Ptr) (hp : p ∈ owned k') : p ∉ new := fun hnew =>
    shared.live k' p hp (exchange.allocated p hnew fun hold => hother (shared.apart k' k p hp hold))
  constructor
  · intro k' p hp
    by_cases hother : k' = k
    · subst hother
      rw [Function.update_self] at hp
      exact exchange.live p hp
    · rw [Function.update_of_ne hother] at hp
      rw [shared.frame exchange hother hp]
      exact shared.live k' p hp
  · intro k₁ k₂ p h₁ h₂
    by_cases hk₁ : k₁ = k <;> by_cases hk₂ : k₂ = k
    · rw [hk₁, hk₂]
    · subst hk₁
      rw [Function.update_self] at h₁
      rw [Function.update_of_ne hk₂] at h₂
      exact absurd h₁ (hnew k₂ hk₂ p h₂)
    · subst hk₂
      rw [Function.update_self] at h₂
      rw [Function.update_of_ne hk₁] at h₁
      exact absurd h₂ (hnew k₁ hk₁ p h₁)
    · rw [Function.update_of_ne hk₁] at h₁
      rw [Function.update_of_ne hk₂] at h₂
      exact shared.apart k₁ k₂ p h₁ h₂
  · intro p hp
    by_cases hin : p ∈ new
    · exact ⟨k, by rwa [Function.update_self]⟩
    · have hold : p ∉ owned k := fun hold => hp (exchange.released p hold hin)
      rw [exchange.kept p hold hin] at hp
      obtain ⟨k', hk'⟩ := shared.accounted p hp
      exact ⟨k', by rwa [Function.update_of_ne fun heq : k' = k => hold (heq ▸ hk')]⟩

end Shared

end Owners

end LinkedLists
