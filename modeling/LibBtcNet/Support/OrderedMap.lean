import Mathlib.Data.List.Perm.Basic
import Mathlib.Tactic.Common

/-!
# Ordered maps with counted values

`Std.TreeMap` with lawful keys, read by `getElem?` alone, and the number of its values with
some property. Every update changes that number by the value it adds and the value it
takes away.
-/

namespace OrderedMap

open Std

variable {α β : Type*} {cmp : α → α → Ordering} [DecidableEq α] [TransCmp cmp] [LawfulEqCmp cmp]
  {m : TreeMap α β cmp}

/-- A lookup after an insertion. -/
@[simp] theorem getElem?_insert (k a : α) (v : β) :
    (m.insert k v)[a]? = if k = a then some v else m[a]? := by
  simp [TreeMap.getElem?_insert]

/-- A lookup after an erasure. -/
@[simp] theorem getElem?_erase (k a : α) : (m.erase k)[a]? = if k = a then none else m[a]? := by
  simp [TreeMap.getElem?_erase]

/-- A lookup after an insertion that keeps what is there. -/
@[simp] theorem getElem?_insertIfNew (k a : α) (v : β) :
    (m.insertIfNew k v)[a]? = if k = a then some (m[k]?.getD v) else m[a]? := by
  rw [TreeMap.getElem?_insertIfNew]
  by_cases heq : k = a
  · subst heq
    cases hk : m[k]? with
    | none => simp [TreeMap.mem_iff_isSome_getElem?, hk]
    | some old => simp [TreeMap.mem_iff_isSome_getElem?, hk]
  · simp [heq]

/-- A lookup after a change of the value at a key. -/
@[simp] theorem getElem?_modify (k a : α) (f : β → β) :
    (m.modify k f)[a]? = if k = a then m[k]?.map f else m[a]? := by
  rw [TreeMap.getElem?_modify]
  by_cases heq : k = a
  · subst heq
    simp
  · simp [heq]

section Congr

variable {m' : TreeMap α β cmp} (h : ∀ k : α, m'[k]? = m[k]?)

include h

/-- Insertions into maps with the same lookups. -/
theorem insert_congr (k : α) (v : β) (a : α) : (m'.insert k v)[a]? = (m.insert k v)[a]? := by
  rw [getElem?_insert, getElem?_insert, h]

/-- Erasures from them. -/
theorem erase_congr (k a : α) : (m'.erase k)[a]? = (m.erase k)[a]? := by
  rw [getElem?_erase, getElem?_erase, h]

/-- Insertions that keep what is there. -/
theorem insertIfNew_congr (k : α) (v : β) (a : α) : (m'.insertIfNew k v)[a]? = (m.insertIfNew k v)[a]? := by
  rw [getElem?_insertIfNew, getElem?_insertIfNew, h, h]

/-- Changes of the value at a key. -/
theorem modify_congr (k : α) (f : β → β) (a : α) : (m'.modify k f)[a]? = (m.modify k f)[a]? := by
  rw [getElem?_modify, getElem?_modify, h, h]

end Congr

/-- Every entry has a property. -/
def All (Q : α → β → Prop) (m : TreeMap α β cmp) : Prop := ∀ (k : α) (v : β), m[k]? = some v → Q k v

namespace All

variable {Q : α → β → Prop}

omit [DecidableEq α] [LawfulEqCmp cmp] in
/-- The empty map has no entry. -/
theorem empty : All Q (∅ : TreeMap α β cmp) := by
  intro k v hk
  simp at hk

omit [DecidableEq α] [TransCmp cmp] [LawfulEqCmp cmp] in
/-- Only lookups matter. -/
theorem congr {m' : TreeMap α β cmp} (hall : All Q m) (hsame : ∀ k : α, m'[k]? = m[k]?) : All Q m' :=
  fun k v hk => hall k v ((hsame k).symm.trans hk)

/-- An erasure takes an entry away. -/
theorem erase (hall : All Q m) (k : α) : All Q (m.erase k) := by
  intro a v ha
  rw [getElem?_erase] at ha
  split at ha
  · contradiction
  · exact hall a v ha

/-- An insertion of a value with the property. -/
theorem insert (hall : All Q m) {k : α} {v : β} (hv : Q k v) : All Q (m.insert k v) := by
  intro a w ha
  rw [getElem?_insert] at ha
  split at ha
  · next heq =>
    obtain rfl := Option.some.inj ha
    exact heq ▸ hv
  · exact hall a w ha

/-- An insertion that keeps what is there. -/
theorem insertIfNew (hall : All Q m) {k : α} {v : β} (hv : Q k v) : All Q (m.insertIfNew k v) := by
  intro a w ha
  rw [getElem?_insertIfNew] at ha
  split at ha
  · next heq =>
    subst heq
    cases hk : m[k]? with
    | none =>
      rw [hk] at ha
      exact Option.some.inj ha ▸ hv
    | some old =>
      rw [hk] at ha
      exact Option.some.inj ha ▸ hall k old hk
  · exact hall a w ha

/-- A value inserted unless there is one, and then changed. -/
theorem insertIfNew_modify (hall : All Q m) {k : α} {v : β} {f : β → β} (hf : ∀ v, Q k v → Q k (f v))
    (hv : Q k (f v)) : All Q ((m.insertIfNew k v).modify k f) := by
  intro a w ha
  rw [getElem?_modify] at ha
  split at ha
  · next heq =>
    subst heq
    rw [getElem?_insertIfNew, if_pos rfl] at ha
    obtain rfl := Option.some.inj ha
    cases hk : m[k]? with
    | none => exact hv
    | some old => exact hf old (hall k old hk)
  · next hne =>
    rw [getElem?_insertIfNew, if_neg hne] at ha
    exact hall a w ha

end All

omit [DecidableEq α] [LawfulEqCmp cmp] in
/-- A map is empty when no lookup finds anything. -/
theorem isEmpty_iff : m.isEmpty = true ↔ ∀ k : α, m[k]? = none := by
  rw [TreeMap.isEmpty_iff_forall_not_mem]
  refine ⟨fun h k => TreeMap.getElem?_eq_none (h k), fun h k hmem => ?_⟩
  rw [TreeMap.mem_iff_isSome_getElem?, h k] at hmem
  contradiction

omit [DecidableEq α] [LawfulEqCmp cmp] in
/-- Maps with the same lookups are empty together. -/
theorem isEmpty_congr {m' : TreeMap α β cmp} (h : ∀ k : α, m[k]? = m'[k]?) : m.isEmpty = m'.isEmpty := by
  rw [Bool.eq_iff_iff, isEmpty_iff, isEmpty_iff]
  exact forall_congr' fun k => by rw [h k]

omit [DecidableEq α] [LawfulEqCmp cmp] in
/-- No entry is listed twice. -/
theorem nodup_toList (m : TreeMap α β cmp) : m.toList.Nodup := by
  refine m.distinct_keys_toList.imp fun {entry other} hne heq => hne ?_
  rw [heq]
  exact ReflCmp.compare_self

/-- The entries of a map are the entry of a key and the entries without it. -/
theorem toList_perm_erase {k : α} {v : β} (hk : m[k]? = some v) :
    m.toList.Perm ((k, v) :: (m.erase k).toList) := by
  have hnot : (k, v) ∉ (m.erase k).toList := by
    simp [TreeMap.mem_toList_iff_getElem?_eq_some]
  rw [List.perm_ext_iff_of_nodup (nodup_toList m) (List.nodup_cons.mpr ⟨hnot, nodup_toList _⟩)]
  rintro ⟨a, b⟩
  rw [List.mem_cons, TreeMap.mem_toList_iff_getElem?_eq_some, TreeMap.mem_toList_iff_getElem?_eq_some,
    getElem?_erase]
  by_cases heq : k = a
  · subst heq
    simp [hk, eq_comm]
  · simp [heq, Ne.symm heq]

omit [DecidableEq α] in
/-- Two maps with the same lookups have the same entries. -/
theorem toList_perm_of_getElem? {m' : TreeMap α β cmp} (h : ∀ k : α, m[k]? = m'[k]?) :
    m.toList.Perm m'.toList := by
  rw [List.perm_ext_iff_of_nodup (nodup_toList m) (nodup_toList m')]
  rintro ⟨a, b⟩
  rw [TreeMap.mem_toList_iff_getElem?_eq_some, TreeMap.mem_toList_iff_getElem?_eq_some, h a]

omit [DecidableEq α] in
/-- They list them in the same order. -/
theorem toList_congr {m' : TreeMap α β cmp} (h : ∀ k : α, m[k]? = m'[k]?) : m.toList = m'.toList :=
  (TreeMap.Equiv.of_toList_perm (toList_perm_of_getElem? h)).toList_eq

/-- An erasure takes one entry away. -/
theorem size_erase {k : α} {v : β} (hk : m[k]? = some v) : (m.erase k).size + 1 = m.size := by
  have hlength := (toList_perm_erase hk).length_eq
  rw [List.length_cons, TreeMap.length_toList, TreeMap.length_toList] at hlength
  exact hlength.symm

omit [DecidableEq α] [LawfulEqCmp cmp] in
/-- A value replaced leaves the size. -/
theorem size_insert {k : α} {old : β} (hk : m[k]? = some old) (v : β) : (m.insert k v).size = m.size := by
  rw [TreeMap.size_insert, if_pos]
  rw [TreeMap.contains_eq_isSome_getElem?, hk, Option.isSome_some]

omit [DecidableEq α] in
/-- Maps with the same lookups have the same size. -/
theorem size_congr {m' : TreeMap α β cmp} (h : ∀ k : α, m[k]? = m'[k]?) : m.size = m'.size := by
  rw [← TreeMap.length_toList, ← TreeMap.length_toList]
  exact (toList_perm_of_getElem? h).length_eq

/-- The number of values with a property. -/
def countValues (p : β → Bool) (m : TreeMap α β cmp) : ℕ := m.toList.countP fun entry => p entry.2

variable (p : β → Bool)

omit [DecidableEq α] in
/-- Maps with the same lookups have the same counts. -/
theorem countValues_congr {m' : TreeMap α β cmp} (h : ∀ k : α, m[k]? = m'[k]?) :
    countValues p m = countValues p m' :=
  (toList_perm_of_getElem? h).countP_eq _

omit [DecidableEq α] in
/-- The keys whose values have a property are as many. -/
theorem countValues_eq_countP_keys (m : TreeMap α β cmp) :
    countValues p m = m.keys.countP fun k => (m[k]?).any p := by
  rw [countValues, ← TreeMap.map_fst_toList_eq_keys, List.countP_map]
  refine List.countP_congr fun entry hentry => ?_
  have hvalue : m[entry.1]? = some entry.2 := TreeMap.mem_toList_iff_getElem?_eq_some.mp hentry
  simp [hvalue]

omit [DecidableEq α] in
/-- A change of the values that leaves their property leaves the count. -/
theorem countValues_of_map {m' : TreeMap α β cmp} (h : ∀ k : α, m'[k]?.map p = m[k]?.map p) :
    countValues p m' = countValues p m := by
  have hkeys : m'.keys.Perm m.keys := by
    refine (List.perm_ext_iff_of_nodup TreeMap.nodup_keys TreeMap.nodup_keys).mpr fun k => ?_
    rw [TreeMap.mem_keys, TreeMap.mem_keys, TreeMap.mem_iff_isSome_getElem?, TreeMap.mem_iff_isSome_getElem?,
      ← Option.isSome_map, h, Option.isSome_map]
  rw [countValues_eq_countP_keys, countValues_eq_countP_keys, hkeys.countP_eq]
  refine List.countP_congr fun k _ => ?_
  have hk := h k
  cases hm : m[k]? <;> cases hm' : m'[k]? <;> simp_all

/-- An erasure takes the value of the key away. -/
theorem countValues_erase {k : α} {v : β} (hk : m[k]? = some v) :
    countValues p (m.erase k) + (p v).toNat = countValues p m := by
  rw [countValues, countValues, (toList_perm_erase hk).countP_eq, List.countP_cons]
  cases p v <;> rfl

/-- An insertion at a new key adds its value. -/
theorem countValues_insert {k : α} (v : β) (hk : m[k]? = none) :
    countValues p (m.insert k v) = countValues p m + (p v).toNat := by
  have hinsert : (m.insert k v)[k]? = some v := by simp
  rw [← countValues_erase p hinsert]
  congr 1
  apply countValues_congr
  intro a
  by_cases heq : k = a
  · subst heq
    simp [hk]
  · simp [heq]

/-- A value replaced by one that counts the same leaves the count. -/
theorem countValues_replace {k : α} {old v : β} (hk : m[k]? = some old) (hv : p v = p old) :
    countValues p (m.insert k v) = countValues p m := by
  have hinsert : (m.insert k v)[k]? = some v := by simp
  rw [← countValues_erase p hinsert, ← countValues_erase p hk, hv]
  congr 1
  apply countValues_congr
  intro a
  by_cases heq : k = a <;> simp [heq]

/-- An insertion that keeps what is there adds its value at a new key. -/
theorem countValues_insertIfNew {k : α} (v : β) (hk : m[k]? = none) :
    countValues p (m.insertIfNew k v) = countValues p m + (p v).toNat := by
  rw [← countValues_insert p v hk]
  apply countValues_congr
  intro a
  rw [getElem?_insertIfNew, getElem?_insert, hk, Option.getD_none]

/-- An insertion that keeps what is there leaves the count where there is something. -/
theorem countValues_insertIfNew_of_some {k : α} {old : β} (v : β) (hk : m[k]? = some old) :
    countValues p (m.insertIfNew k v) = countValues p m := by
  apply countValues_congr
  intro a
  rw [getElem?_insertIfNew]
  split
  · next heq => rw [← heq, hk, Option.getD_some]
  · rfl

omit [DecidableEq α] [TransCmp cmp] [LawfulEqCmp cmp] in
/-- An empty map has nothing to count. -/
theorem countValues_of_isEmpty (h : m.isEmpty = true) : countValues p m = 0 := by
  rw [countValues, List.isEmpty_iff.mp (TreeMap.isEmpty_toList.trans h)]
  rfl

omit [DecidableEq α] [TransCmp cmp] [LawfulEqCmp cmp] in
/-- The size of a map is the count of all its values. -/
theorem countValues_true (m : TreeMap α β cmp) : countValues (fun _ => true) m = m.size := by
  simp [countValues]

omit [DecidableEq α] [TransCmp cmp] [LawfulEqCmp cmp] in
/-- The values with a property are among all values. -/
theorem countValues_le_size (m : TreeMap α β cmp) : countValues p m ≤ m.size := by
  rw [countValues, ← TreeMap.length_toList]
  exact List.countP_le_length

end OrderedMap
