import Mathlib.Data.List.Basic
import Mathlib.Data.List.Induction
import Mathlib.Tactic.Common

/-!
# First and last occurrence of a key

A search from the front finds the first value with a key, a table filled from the front keeps
the last one.  Both name an index, and the two are the same exactly where the key occurs once.
-/

namespace UniverEscrow.Lib.LastOccurrence

variable {α κ : Type*} (key : α → κ) (k : κ)

/-- The value at the index has the key, and no later one does. -/
structure LastAt (xs : List α) (i : ℕ) (a : α) : Prop where
  get : xs[i]? = some a
  key_eq : key a = k
  last : ∀ j b, i < j → xs[j]? = some b → key b ≠ k

/-- The value at the index has the key, and no earlier one does. -/
structure FirstAt (xs : List α) (i : ℕ) (a : α) : Prop where
  get : xs[i]? = some a
  key_eq : key a = k
  first : ∀ j b, j < i → xs[j]? = some b → key b ≠ k

variable {key k} {xs : List α}

theorem LastAt.unique {i j : ℕ} {a b : α} (h : LastAt key k xs i a) (h' : LastAt key k xs j b) :
    i = j ∧ a = b := by
  have hij : i = j := by
    rcases Nat.lt_trichotomy i j with hlt | heq | hgt
    · exact absurd h'.key_eq (h.last j b hlt h'.get)
    · exact heq
    · exact absurd h.key_eq (h'.last i a hgt h.get)
  subst hij
  exact ⟨rfl, Option.some.inj (h.get.symm.trans h'.get)⟩

/-- First and last occurrence are at one index exactly where there is one occurrence. -/
theorem FirstAt.eq_last_iff {i j : ℕ} {a b : α} (h : FirstAt key k xs i a)
    (h' : LastAt key k xs j b) :
    i = j ↔ ∀ n c, xs[n]? = some c → key c = k → n = i := by
  constructor
  · rintro rfl n c hget hkey
    have hlower : i ≤ n := by
      by_contra hlt
      exact h.first n c (by omega) hget hkey
    have hupper : n ≤ i := by
      by_contra hlt
      exact h'.last n c (by omega) hget hkey
    omega
  · intro hone
    exact (hone j b h'.get h'.key_eq).symm

variable [DecidableEq κ]

theorem exists_firstAt_of_findIdx? {i : ℕ} (h : xs.findIdx? (fun a => key a = k) = some i) :
    ∃ a, FirstAt key k xs i a := by
  obtain ⟨hlt, hkey, hfirst⟩ := List.findIdx?_eq_some_iff_getElem.1 h
  refine ⟨xs[i], List.getElem?_eq_getElem hlt, of_decide_eq_true hkey, ?_⟩
  intro j b hj hget hb
  obtain ⟨hjlt, rfl⟩ := List.getElem?_eq_some_iff.1 hget
  exact hfirst j hj (decide_eq_true hb)

theorem FirstAt.find?_eq {i : ℕ} {a : α} (h : FirstAt key k xs i a) :
    xs.find? (fun a => key a = k) = some a := by
  obtain ⟨hlt, rfl⟩ := List.getElem?_eq_some_iff.1 h.get
  rw [List.find?_eq_some_iff_getElem]
  refine ⟨decide_eq_true h.key_eq, i, hlt, rfl, ?_⟩
  intro j hj
  have hkey := h.first j _ hj (List.getElem?_eq_getElem (by omega))
  simpa using hkey

/-- Searching an indexed list from the back finds the last value with the key. -/
theorem find?_reverse_zipIdx {γ : Type*} (f : α → ℕ → γ) (hmem : k ∈ xs.map key) :
    ∃ i a, LastAt key k xs i a ∧
      ((xs.zipIdx.map fun (a, i) => (key a, f a i)).reverse.find? fun p => p.1 = k) =
        some (k, f a i) := by
  induction xs using List.reverseRecOn with
  | nil => simp at hmem
  | append_singleton xs a ih =>
      by_cases ha : key a = k
      · refine ⟨xs.length, a, ⟨by simp, ha, ?_⟩, ?_⟩
        · intro j b hj hget
          rw [List.getElem?_eq_none (by simp; omega)] at hget
          cases hget
        · simp [List.zipIdx_append, ha]
      · have hmem' : k ∈ xs.map key := by
          simp only [List.map_append, List.map_cons, List.map_nil, List.mem_append,
            List.mem_singleton] at hmem
          exact hmem.resolve_right fun h => ha h.symm
        obtain ⟨i, b, hlast, hfind⟩ := ih hmem'
        have hlt : i < xs.length := (List.getElem?_eq_some_iff.1 hlast.get).1
        refine ⟨i, b, ⟨?_, hlast.key_eq, ?_⟩, ?_⟩
        · rw [List.getElem?_append_left hlt, hlast.get]
        · intro j c hj hget
          by_cases hjlt : j < xs.length
          · rw [List.getElem?_append_left hjlt] at hget
            exact hlast.last j c hj hget
          · have hc : c = a := by
              obtain ⟨hjlt', rfl⟩ := List.getElem?_eq_some_iff.1 hget
              simp only [List.length_append, List.length_singleton] at hjlt'
              have hj' : j = xs.length := by omega
              subst hj'
              simp
            exact hc ▸ ha
        · simpa [List.zipIdx_append, ha] using hfind

end UniverEscrow.Lib.LastOccurrence
