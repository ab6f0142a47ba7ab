import Mathlib.Data.List.Basic
import Mathlib.Data.List.Induction
import Mathlib.Data.List.Nodup
import Mathlib.Tactic.Common

/-!
# Keyed lists

A list of values with a key, updated in place: a value whose key is present replaces the first
one that has it, any other value goes to the end.  Keys keep the order of their first update,
and looking a key up finds the last update of it.
-/

namespace UniverEscrow.Lib.KeyedList

variable {α κ : Type*} [DecidableEq κ] (key : α → κ)

def upsertBy (a : α) : List α → List α
  | [] => [a]
  | x :: xs => if key x = key a then a :: xs else x :: upsertBy a xs

def upsertAll (xs updates : List α) : List α :=
  updates.foldl (fun ys a => upsertBy key a ys) xs

variable {key}

theorem map_key_upsertBy (a : α) (xs : List α) :
    (upsertBy key a xs).map key =
      if key a ∈ xs.map key then xs.map key else xs.map key ++ [key a] := by
  induction xs with
  | nil => simp [upsertBy]
  | cons x xs ih =>
      unfold upsertBy
      by_cases h : key x = key a
      · simp [h]
      · have hne : ¬ key a = key x := fun hk => h hk.symm
        rw [if_neg h, List.map_cons, ih]
        by_cases hmem : key a ∈ xs.map key <;> simp [hne, hmem]

theorem find?_upsertBy (a : α) (xs : List α) (k : κ) :
    (upsertBy key a xs).find? (fun x => key x = k) =
      if k = key a then some a else xs.find? (fun x => key x = k) := by
  induction xs with
  | nil =>
      by_cases h : k = key a
      · simp [upsertBy, h]
      · simp [upsertBy, h, Ne.symm h]
  | cons x xs ih =>
      unfold upsertBy
      by_cases hx : key x = key a
      · rw [if_pos hx]
        by_cases h : k = key a
        · simp [h]
        · have hne : ¬ key a = k := fun hk => h hk.symm
          simp [h, hne, hx]
      · rw [if_neg hx, List.find?_cons, List.find?_cons, ih]
        by_cases h : k = key a
        · subst h
          simp [hx]
        · simp [h]

/-- The update by index: set the first value with the key, or append. -/
theorem upsertBy_eq_findIdx? (a : α) (xs : List α) :
    upsertBy key a xs =
      match xs.findIdx? (fun x => key x = key a) with
      | some i => xs.set i a
      | none => xs ++ [a] := by
  induction xs with
  | nil => rfl
  | cons x xs ih =>
      unfold upsertBy
      rw [List.findIdx?_cons]
      by_cases h : key x = key a
      · simp [h]
      · simp only [h, if_false, decide_false, Bool.false_eq_true, ih]
        cases xs.findIdx? (fun x => key x = key a) <;> rfl

theorem upsertBy_nodup {a : α} {xs : List α} (h : (xs.map key).Nodup) :
    ((upsertBy key a xs).map key).Nodup := by
  rw [map_key_upsertBy]
  split_ifs with hmem
  · exact h
  · rw [← List.concat_eq_append]
    exact h.concat hmem

theorem length_upsertBy_le (a : α) (xs : List α) :
    xs.length ≤ (upsertBy key a xs).length := by
  have hlen : ((upsertBy key a xs).map key).length = _ :=
    congrArg List.length (map_key_upsertBy a xs)
  split_ifs at hlen <;> simp at hlen <;> omega

theorem mem_upsertBy_self (a : α) (xs : List α) : a ∈ upsertBy key a xs := by
  induction xs with
  | nil => exact List.mem_singleton_self a
  | cons x xs ih =>
      unfold upsertBy
      split_ifs
      · exact List.mem_cons_self
      · exact List.mem_cons_of_mem x ih

/-- An update removes only values with its own key. -/
theorem mem_upsertBy_of_ne {a x : α} {xs : List α} (hx : x ∈ xs) (hne : key x ≠ key a) :
    x ∈ upsertBy key a xs := by
  induction xs with
  | nil => cases hx
  | cons y xs ih =>
      unfold upsertBy
      rcases List.mem_cons.1 hx with rfl | hx
      · rw [if_neg hne]
        exact List.mem_cons_self
      · split_ifs
        · exact List.mem_cons_of_mem a hx
        · exact List.mem_cons_of_mem y (ih hx)

/-! ## Many updates -/

@[simp] theorem upsertAll_nil (xs : List α) : upsertAll key xs [] = xs := rfl

@[simp] theorem upsertAll_append (xs updates more : List α) :
    upsertAll key xs (updates ++ more) = upsertAll key (upsertAll key xs updates) more := by
  simp [upsertAll]

theorem upsertAll_singleton (xs : List α) (a : α) : upsertAll key xs [a] = upsertBy key a xs := rfl

theorem upsertBy_map {β : Type*} (key' : β → κ) (f : α → β) (hkey : ∀ a, key' (f a) = key a)
    (a : α) (xs : List α) :
    upsertBy key' (f a) (xs.map f) = (upsertBy key a xs).map f := by
  induction xs with
  | nil => rfl
  | cons x xs ih =>
      rw [List.map_cons, upsertBy, upsertBy, hkey, hkey, ih]
      split_ifs <;> rfl

theorem upsertAll_map {β : Type*} (key' : β → κ) (f : α → β) (hkey : ∀ a, key' (f a) = key a)
    (xs updates : List α) :
    upsertAll key' (xs.map f) (updates.map f) = (upsertAll key xs updates).map f := by
  induction updates using List.reverseRecOn with
  | nil => rfl
  | append_singleton updates a ih =>
      rw [List.map_append, upsertAll_append, upsertAll_append, ih, List.map_singleton,
        upsertAll_singleton, upsertAll_singleton, upsertBy_map key' f hkey]

theorem length_le_upsertAll (xs updates : List α) :
    xs.length ≤ (upsertAll key xs updates).length := by
  induction updates using List.reverseRecOn with
  | nil => exact Nat.le_refl _
  | append_singleton updates a ih =>
      rw [upsertAll_append, upsertAll_singleton]
      exact Nat.le_trans ih (length_upsertBy_le a _)

theorem find?_upsertAll (key : α → κ) (xs updates : List α) (k : κ) :
    (upsertAll key xs updates).find? (fun x => key x = k) =
      (updates.reverse.find? (fun x => key x = k)).or (xs.find? (fun x => key x = k)) := by
  induction updates using List.reverseRecOn with
  | nil => rfl
  | append_singleton updates a ih =>
      rw [upsertAll_append, upsertAll_singleton, find?_upsertBy, ih, List.reverse_append,
        List.reverse_singleton, List.singleton_append, List.find?_cons]
      by_cases h : k = key a
      · simp [h]
      · have hne : ¬ key a = k := fun hk => h hk.symm
        simp [h, hne]

theorem eraseDups_removeAll_singleton (k : κ) (ks : List κ) :
    ([k].removeAll ks).eraseDups = if k ∈ ks then [] else [k] := by
  unfold List.removeAll
  rw [List.filter_singleton]
  by_cases h : k ∈ ks
  · rw [if_pos h]
    simp only [List.elem_eq_mem, h, decide_true, Bool.not_true]
    rfl
  · rw [if_neg h]
    simp only [List.elem_eq_mem, h, decide_false, Bool.not_false]
    rfl

/-- Keys stand in the order of their first update. -/
theorem map_key_upsertAll (updates : List α) :
    (upsertAll key [] updates).map key = (updates.map key).eraseDups := by
  induction updates using List.reverseRecOn with
  | nil => rfl
  | append_singleton updates a ih =>
      rw [upsertAll_append, upsertAll_singleton, map_key_upsertBy, ih, List.map_append,
        List.eraseDups_append, List.map_singleton, eraseDups_removeAll_singleton]
      by_cases h : key a ∈ updates.map key
      · rw [if_pos (List.mem_eraseDups.2 h), if_pos h, List.append_nil]
      · rw [if_neg fun hmem => h (List.mem_eraseDups.1 hmem), if_neg h]

/-- Updates of distinct new keys are appended. -/
theorem upsertAll_of_nodup {xs updates : List α} (h : ((xs ++ updates).map key).Nodup) :
    upsertAll key xs updates = xs ++ updates := by
  induction updates using List.reverseRecOn with
  | nil => rw [upsertAll_nil, List.append_nil]
  | append_singleton updates a ih =>
      rw [← List.append_assoc, List.map_append, List.nodup_append] at h
      obtain ⟨hxs, -, hnew⟩ := h
      have hfind : (xs ++ updates).findIdx? (fun x => key x = key a) = none := by
        rw [List.findIdx?_eq_none_iff]
        intro x hx
        simpa using hnew (key x) (List.mem_map_of_mem hx) (key a) (by simp)
      rw [upsertAll_append, upsertAll_singleton, ih hxs, upsertBy_eq_findIdx?, hfind,
        List.append_assoc]

theorem upsertAll_nodup (updates : List α) : ((upsertAll key [] updates).map key).Nodup := by
  induction updates using List.reverseRecOn with
  | nil => exact List.nodup_nil
  | append_singleton updates a ih =>
      rw [upsertAll_append, upsertAll_singleton]
      exact upsertBy_nodup ih

theorem find?_key_of_mem {xs : List α} (hnodup : (xs.map key).Nodup) {a : α} (ha : a ∈ xs) :
    xs.find? (fun x => key x = key a) = some a := by
  have hsome : (xs.find? (fun x => key x = key a)).isSome = true :=
    List.find?_isSome.2 ⟨a, ha, by simp⟩
  obtain ⟨b, hb⟩ := Option.isSome_iff_exists.1 hsome
  have hkey : key b = key a := by simpa using List.find?_some hb
  rw [hb, List.inj_on_of_nodup_map hnodup (List.mem_of_find?_eq_some hb) ha hkey]

theorem mem_of_find?_key {xs : List α} {k : κ} {a : α}
    (h : xs.find? (fun x => key x = k) = some a) : a ∈ xs ∧ key a = k :=
  ⟨List.mem_of_find?_eq_some h, by simpa using List.find?_some h⟩

/-- Two lists that find the same value under every key hold the same values. -/
theorem perm_of_find?_eq {xs ys : List α} (hxs : (xs.map key).Nodup) (hys : (ys.map key).Nodup)
    (h : ∀ k, xs.find? (fun x => key x = k) = ys.find? (fun x => key x = k)) : xs.Perm ys := by
  rw [List.perm_ext_iff_of_nodup (List.Nodup.of_map key hxs) (List.Nodup.of_map key hys)]
  intro a
  constructor
  · intro ha
    exact (mem_of_find?_key ((h (key a)).symm.trans (find?_key_of_mem hxs ha))).1
  · intro ha
    exact (mem_of_find?_key ((h (key a)).trans (find?_key_of_mem hys ha))).1

/-- What the list holds under a key is the last update of it. -/
theorem last_of_mem_upsertAll {updates : List α} {a : α} (ha : a ∈ upsertAll key [] updates) :
    updates.reverse.find? (fun x => key x = key a) = some a := by
  have hfind := find?_upsertAll key [] updates (key a)
  rw [find?_key_of_mem (upsertAll_nodup updates) ha, List.find?_nil, Option.or_none] at hfind
  exact hfind.symm

/-! ## A part of the values -/

variable {p : α → Bool}

/-- Updating a value of the part, where what it replaces is of the part too. -/
theorem filter_upsertBy_of_pos {a : α} {xs : List α} (ha : p a = true)
    (hxs : ∀ x ∈ xs, key x = key a → p x = true) :
    (upsertBy key a xs).filter p = upsertBy key a (xs.filter p) := by
  induction xs with
  | nil => simp [upsertBy, ha]
  | cons x xs ih =>
      have hxs' : ∀ y ∈ xs, key y = key a → p y = true :=
        fun y hy => hxs y (List.mem_cons_of_mem x hy)
      by_cases hkey : key x = key a
      · have hx := hxs x List.mem_cons_self hkey
        simp [upsertBy, hkey, ha, hx]
      · by_cases hx : p x = true
        · simp [upsertBy, hkey, hx, ih hxs']
        · simp [upsertBy, hkey, hx, ih hxs']

/-- Updating a value that is not of the part, nor what it replaces. -/
theorem filter_upsertBy_of_neg {a : α} {xs : List α} (ha : p a = false)
    (hxs : ∀ x ∈ xs, key x = key a → p x = false) : (upsertBy key a xs).filter p = xs.filter p := by
  induction xs with
  | nil => simp [upsertBy, ha]
  | cons x xs ih =>
      have hxs' : ∀ y ∈ xs, key y = key a → p y = false :=
        fun y hy => hxs y (List.mem_cons_of_mem x hy)
      unfold upsertBy
      by_cases hkey : key x = key a
      · have hx := hxs x List.mem_cons_self hkey
        rw [if_pos hkey, List.filter_cons_of_neg (by simp [ha]),
          List.filter_cons_of_neg (by simp [hx])]
      · rw [if_neg hkey, List.filter_cons, List.filter_cons, ih hxs']

end UniverEscrow.Lib.KeyedList
