import UniverEscrow.Js.OrderedMap

/-!
# Maps whose values have owners

The entries of one owner, and those of all others.  Reading and writing under a key that is not
the owner's needs only the others' entries and leaves the owner's as they are.
-/

namespace UniverEscrow.Js.OrderedMap

open UniverEscrow.Lib.KeyedList

variable {κ ν τ : Type*} (owner : ν → τ) (t : τ)

section
variable [DecidableEq τ]

def ownEntries (m : OrderedMap κ ν) : List (κ × ν) := m.entries.filter fun e => owner e.2 = t

def otherEntries (m : OrderedMap κ ν) : List (κ × ν) := m.entries.filter fun e => owner e.2 ≠ t

/-- The maps differ at most in the owner's entries. -/
abbrev SameOthers (m m' : OrderedMap κ ν) : Prop := m.otherEntries owner t = m'.otherEntries owner t

variable {owner t} {m : OrderedMap κ ν}

/-- A search that no entry of the owner passes sees the others' entries alone. -/
theorem any_entries_eq {f : κ × ν → Bool} (hf : ∀ e ∈ m.entries, owner e.2 = t → f e = false) :
    m.entries.any f = (m.otherEntries owner t).any f := by
  rw [otherEntries, List.any_filter]
  apply Bool.eq_iff_iff.2
  rw [List.any_eq_true, List.any_eq_true]
  constructor
  · rintro ⟨e, he, hfe⟩
    refine ⟨e, he, ?_⟩
    rw [Bool.and_eq_true, decide_eq_true_eq]
    exact ⟨fun howner => by simp [hf e he howner] at hfe, hfe⟩
  · rintro ⟨e, he, hfe⟩
    exact ⟨e, he, (Bool.and_eq_true _ _ ▸ hfe).2⟩

end

section
variable [DecidableEq τ] {ρ : Type*} (P : ρ → Prop)

/-- Two results on maps that differ at most in the owner's entries: so do they, the first has left
those of `m` as they were, and the answers are the same and meet `P`. -/
structure SameResults (m : OrderedMap κ ν) (r r' : OrderedMap κ ν × ρ) : Prop where
  others : SameOthers owner t r.1 r'.1
  own : r.1.ownEntries owner t = m.ownEntries owner t
  answer : r.2 = r'.2
  meets : P r.2

variable {owner t P} {m m' : OrderedMap κ ν} {a : ρ}

theorem sameResults_unchanged (hsame : SameOthers owner t m m')
    (ha : P a) : SameResults owner t P m (m, a) (m', a) :=
  ⟨hsame, rfl, rfl, ha⟩

end

section
variable [DecidableEq κ]

/-- The value under the key is the owner's. -/
def OwnsKey (m : OrderedMap κ ν) (k : κ) : Prop := ∃ v, m.get? k = some v ∧ owner v = t

variable {owner t} {m : OrderedMap κ ν} {k : κ}

instance [DecidableEq τ] : Decidable (OwnsKey owner t m k) :=
  decidable_of_iff (∃ v ∈ m.get? k, owner v = t) Iff.rfl

theorem owner_ne_of_mem (hk : ¬ OwnsKey owner t m k) {e : κ × ν} (he : e ∈ m.entries)
    (hkey : e.1 = k) : owner e.2 ≠ t := by
  intro howner
  obtain ⟨k', v'⟩ := e
  exact hk ⟨v', hkey ▸ mem_entries_iff.1 he, howner⟩

end

variable [DecidableEq κ] [DecidableEq τ] {owner t} {m m' : OrderedMap κ ν} {k : κ} {v : ν}

theorem mem_otherEntries : (k, v) ∈ m.otherEntries owner t ↔ m.get? k = some v ∧ owner v ≠ t := by
  rw [otherEntries, List.mem_filter, mem_entries_iff, decide_eq_true_eq]

theorem get?_of_otherEntries_subset (hsame : SameOthers owner t m m')
    (hk : ¬ OwnsKey owner t m k) (hv : m.get? k = some v) : m'.get? k = some v := by
  have howner : owner v ≠ t := fun h => hk ⟨v, hv, h⟩
  have hmem : (k, v) ∈ m'.otherEntries owner t := hsame ▸ mem_otherEntries.2 ⟨hv, howner⟩
  exact (mem_otherEntries.1 hmem).1

/-- What is under a key that the owner has in neither map. -/
theorem get?_eq_of_otherEntries (hsame : SameOthers owner t m m')
    (hk : ¬ OwnsKey owner t m k) (hk' : ¬ OwnsKey owner t m' k) : m.get? k = m'.get? k := by
  ext v
  exact ⟨get?_of_otherEntries_subset hsame hk, get?_of_otherEntries_subset hsame.symm hk'⟩

theorem otherEntries_set (hk : ¬ OwnsKey owner t m k) (hv : owner v ≠ t) :
    (m.set k v).otherEntries owner t = upsertBy Prod.fst (k, v) (m.otherEntries owner t) := by
  rw [otherEntries, entries_set]
  apply filter_upsertBy_of_pos
  · simpa using hv
  · intro e he hkey
    simpa using owner_ne_of_mem hk he hkey

theorem ownEntries_set (hk : ¬ OwnsKey owner t m k) (hv : owner v ≠ t) :
    (m.set k v).ownEntries owner t = m.ownEntries owner t := by
  rw [ownEntries, entries_set]
  apply filter_upsertBy_of_neg
  · simpa using hv
  · intro e he hkey
    simpa using owner_ne_of_mem hk he hkey

theorem sameResults_set {ρ : Type*} {P : ρ → Prop} {a : ρ}
    (hsame : SameOthers owner t m m')
    (hk : ¬ OwnsKey owner t m k) (hk' : ¬ OwnsKey owner t m' k) (hv : owner v ≠ t) (ha : P a) :
    SameResults owner t P m (m.set k v, a) (m'.set k v, a) where
  others := by rw [SameOthers, otherEntries_set hk hv, otherEntries_set hk' hv, hsame]
  own := ownEntries_set hk hv
  answer := rfl
  meets := ha

end UniverEscrow.Js.OrderedMap
