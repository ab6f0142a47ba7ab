import UniverEscrow.Lib.KeyedList
import Mathlib.Data.List.Dedup

/-!
# Insertion-ordered maps

`Map` keeps its keys in order of first insertion; setting a present key changes the value in
place.
-/

namespace UniverEscrow.Js

structure OrderedMap (κ ν : Type*) where
  entries : List (κ × ν)
  nodupKeys : (entries.map Prod.fst).Nodup

namespace OrderedMap

open UniverEscrow.Lib.KeyedList

variable {κ ν : Type*}

def empty : OrderedMap κ ν := ⟨[], by simp⟩

def keys (m : OrderedMap κ ν) : List κ := m.entries.map Prod.fst

def values (m : OrderedMap κ ν) : List ν := m.entries.map Prod.snd

def size (m : OrderedMap κ ν) : ℕ := m.entries.length

def mapValues {ν' : Type*} (f : ν → ν') (m : OrderedMap κ ν) : OrderedMap κ ν' where
  entries := m.entries.map fun e => (e.1, f e.2)
  nodupKeys := by
    rw [List.map_map]
    exact m.nodupKeys

@[simp] theorem keys_empty : (empty : OrderedMap κ ν).keys = [] := rfl

@[simp] theorem length_keys (m : OrderedMap κ ν) : m.keys.length = m.size := by
  simp [keys, size]

theorem keys_nodup (m : OrderedMap κ ν) : m.keys.Nodup := m.nodupKeys

variable [DecidableEq κ]

def get? (m : OrderedMap κ ν) (k : κ) : Option ν :=
  (m.entries.find? fun e => e.1 = k).map Prod.snd

def setEntries (k : κ) (v : ν) : List (κ × ν) → List (κ × ν)
  | [] => [(k, v)]
  | e :: es => if e.1 = k then (k, v) :: es else e :: setEntries k v es

theorem setEntries_eq_upsertBy (k : κ) (v : ν) (es : List (κ × ν)) :
    setEntries k v es = upsertBy Prod.fst (k, v) es := by
  induction es with
  | nil => rfl
  | cons e es ih => rw [setEntries, upsertBy, ih]

theorem keys_setEntries (k : κ) (v : ν) (es : List (κ × ν)) :
    (setEntries k v es).map Prod.fst =
      if k ∈ es.map Prod.fst then es.map Prod.fst else es.map Prod.fst ++ [k] := by
  rw [setEntries_eq_upsertBy]
  exact map_key_upsertBy (k, v) es

def set (m : OrderedMap κ ν) (k : κ) (v : ν) : OrderedMap κ ν where
  entries := setEntries k v m.entries
  nodupKeys := by
    rw [keys_setEntries]
    split_ifs with h
    · exact m.nodupKeys
    · exact List.nodup_append.2 ⟨m.nodupKeys, by simp, by
        intro a ha b hb hab
        rw [List.mem_singleton] at hb
        exact h (hb ▸ hab ▸ ha)⟩

theorem keys_set (m : OrderedMap κ ν) (k : κ) (v : ν) :
    (m.set k v).keys = if k ∈ m.keys then m.keys else m.keys ++ [k] :=
  keys_setEntries k v m.entries

theorem mem_keys_set {m : OrderedMap κ ν} {k k' : κ} {v : ν} :
    k' ∈ (m.set k v).keys ↔ k' = k ∨ k' ∈ m.keys := by
  rw [keys_set]
  split_ifs with h
  · constructor
    · exact .inr
    · rintro (rfl | h')
      exacts [h, h']
  · rw [List.mem_append, List.mem_singleton, or_comm]

theorem entries_set (m : OrderedMap κ ν) (k : κ) (v : ν) :
    (m.set k v).entries = upsertBy Prod.fst (k, v) m.entries :=
  setEntries_eq_upsertBy k v m.entries

theorem get?_set (m : OrderedMap κ ν) (k k' : κ) (v : ν) :
    (m.set k v).get? k' = if k' = k then some v else m.get? k' := by
  rw [get?, entries_set, find?_upsertBy]
  split_ifs <;> rfl

@[simp] theorem get?_set_self (m : OrderedMap κ ν) (k : κ) (v : ν) :
    (m.set k v).get? k = some v := by
  rw [get?_set, if_pos rfl]

theorem mem_entries_iff {m : OrderedMap κ ν} {k : κ} {v : ν} :
    (k, v) ∈ m.entries ↔ m.get? k = some v := by
  rw [get?, Option.map_eq_some_iff]
  constructor
  · intro hmem
    exact ⟨(k, v), find?_key_of_mem m.nodupKeys hmem, rfl⟩
  · rintro ⟨⟨k', v'⟩, hfind, rfl⟩
    obtain ⟨hmem, rfl⟩ := mem_of_find?_key hfind
    exact hmem

theorem mem_keys_iff {m : OrderedMap κ ν} {k : κ} : k ∈ m.keys ↔ ∃ v, m.get? k = some v := by
  constructor
  · intro h
    obtain ⟨⟨_, v⟩, he, rfl⟩ := List.mem_map.1 h
    exact ⟨v, mem_entries_iff.1 he⟩
  · intro ⟨v, hv⟩
    exact List.mem_map.2 ⟨(k, v), mem_entries_iff.2 hv, rfl⟩

theorem size_set (m : OrderedMap κ ν) (k : κ) (v : ν) :
    (m.set k v).size = if k ∈ m.keys then m.size else m.size + 1 := by
  rw [← length_keys, keys_set]
  split_ifs
  · exact length_keys m
  · rw [List.length_append, length_keys, List.length_singleton]

/-- Setting one key relates every value to the one after it exactly where it does so there. -/
theorem rel_set_iff {R : ν → ν → Prop} (hrefl : ∀ v, R v v) {m : OrderedMap κ ν} {k : κ} {v w : ν}
    (hk : m.get? k = some v) :
    (∀ k' a, m.get? k' = some a → ∃ b, (m.set k w).get? k' = some b ∧ R a b) ↔ R v w := by
  constructor
  · intro h
    obtain ⟨b, hb, hvb⟩ := h k v hk
    rw [get?_set_self] at hb
    rwa [← Option.some.inj hb] at hvb
  · intro h k' a ha
    rw [get?_set]
    split_ifs with hkk
    · rw [hkk, hk] at ha
      exact ⟨w, rfl, Option.some.inj ha ▸ h⟩
    · exact ⟨a, ha, hrefl a⟩

/-- `delete`. -/
def erase (m : OrderedMap κ ν) (k : κ) : OrderedMap κ ν where
  entries := m.entries.filter fun e => e.1 ≠ k
  nodupKeys := m.nodupKeys.sublist (List.filter_sublist.map Prod.fst)

theorem get?_erase (m : OrderedMap κ ν) (k k' : κ) :
    (m.erase k).get? k' = if k' = k then none else m.get? k' := by
  rw [get?, erase, List.find?_filter]
  split_ifs with h
  · subst h
    rw [List.find?_eq_none.2 (by simp), Option.map_none]
  · have hpred : (fun e : κ × ν => decide (decide (e.1 ≠ k) = true ∧ decide (e.1 = k') = true)) =
        fun e => decide (e.1 = k') := by
      funext e
      by_cases hk : e.1 = k' <;> simp [hk, h]
    rw [hpred, get?]

theorem keys_erase (m : OrderedMap κ ν) (k : κ) : (m.erase k).keys = m.keys.erase k := by
  rw [m.keys_nodup.erase_eq_filter, keys, keys, erase, List.filter_map]
  congr 1
  apply List.filter_congr
  intro e _
  by_cases he : e.1 = k <;> simp [he]

theorem size_erase_of_mem {m : OrderedMap κ ν} {k : κ} (h : k ∈ m.keys) :
    (m.erase k).size = m.size - 1 := by
  rw [← length_keys, keys_erase, List.length_erase_of_mem h, length_keys]

/-- `new Map` filled from a list of pairs in order. -/
def ofPairs (ps : List (κ × ν)) : OrderedMap κ ν :=
  ps.foldl (fun m p => m.set p.1 p.2) empty

theorem mem_keys_foldl_set {ps : List (κ × ν)} {m : OrderedMap κ ν} {k : κ} :
    k ∈ (ps.foldl (fun m p => m.set p.1 p.2) m).keys ↔ k ∈ m.keys ∨ k ∈ ps.map Prod.fst := by
  induction ps generalizing m with
  | nil => simp
  | cons p ps ih =>
      rw [List.foldl_cons, ih, mem_keys_set, List.map_cons, List.mem_cons]
      tauto

theorem mem_keys_ofPairs {ps : List (κ × ν)} {k : κ} :
    k ∈ (ofPairs ps).keys ↔ k ∈ ps.map Prod.fst := by
  simp [ofPairs, mem_keys_foldl_set]

theorem size_ofPairs (ps : List (κ × ν)) :
    (ofPairs ps).size = (ps.map Prod.fst).dedup.length := by
  rw [← length_keys]
  apply List.Perm.length_eq
  rw [List.perm_ext_iff_of_nodup (keys_nodup _) (List.nodup_dedup _)]
  intro k
  rw [mem_keys_ofPairs, List.mem_dedup]

theorem entries_foldl_set (ps : List (κ × ν)) (m : OrderedMap κ ν) :
    (ps.foldl (fun m p => m.set p.1 p.2) m).entries = upsertAll Prod.fst m.entries ps := by
  induction ps generalizing m with
  | nil => rfl
  | cons p ps ih =>
      rw [List.foldl_cons, ih, entries_set]
      rfl

theorem entries_ofPairs (ps : List (κ × ν)) : (ofPairs ps).entries = upsertAll Prod.fst [] ps :=
  entries_foldl_set ps empty

/-- The last pair with the key gives the value. -/
theorem get?_ofPairs (ps : List (κ × ν)) (k : κ) :
    (ofPairs ps).get? k = (ps.reverse.find? fun p => p.1 = k).map Prod.snd := by
  rw [get?, entries_ofPairs, find?_upsertAll, List.find?_nil, Option.or_none]

theorem mem_of_get?_ofPairs {ps : List (κ × ν)} {k : κ} {v : ν}
    (h : (ofPairs ps).get? k = some v) : (k, v) ∈ ps := by
  rw [get?_ofPairs, Option.map_eq_some_iff] at h
  obtain ⟨⟨k', v'⟩, hfind, rfl⟩ := h
  have hk : k' = k := by simpa using List.find?_some hfind
  rw [← hk]
  exact List.mem_reverse.1 (List.mem_of_find?_eq_some hfind)

theorem exists_get?_ofPairs {ps : List (κ × ν)} {k : κ} (h : k ∈ ps.map Prod.fst) :
    ∃ v, (ofPairs ps).get? k = some v := by
  obtain ⟨p, hp, rfl⟩ := List.mem_map.1 h
  obtain ⟨q, hq⟩ := Option.isSome_iff_exists.1
    (List.find?_isSome.2 ⟨p, List.mem_reverse.2 hp, by simp⟩ :
      (ps.reverse.find? fun q => q.1 = p.1).isSome = true)
  exact ⟨q.2, by rw [get?_ofPairs, hq]; rfl⟩

end OrderedMap

end UniverEscrow.Js
