import Mathlib.Data.Finset.Card
import Mathlib.Tactic.Common

/-!
# Quorums by counting

A quorum of size `k` is any set of at least `k` of the nodes.  Two of them overlap in at
least `2 k - n` of the `n` nodes, and some two overlap in no more.
-/

namespace UniverEscrow.Lib.Quorum

variable {α : Type*} [DecidableEq α] {nodes A B : Finset α} {k m : ℕ}

structure IsQuorum (nodes : Finset α) (k : ℕ) (A : Finset α) : Prop where
  subset : A ⊆ nodes
  le_card : k ≤ A.card

theorem le_card_inter (hA : IsQuorum nodes k A) (hB : IsQuorum nodes k B) :
    2 * k ≤ nodes.card + (A ∩ B).card := by
  have hunion : (A ∪ B).card ≤ nodes.card :=
    Finset.card_le_card (Finset.union_subset hA.subset hB.subset)
  have hcount := Finset.card_union_add_card_inter A B
  have := hA.le_card
  have := hB.le_card
  omega

/-- The bound of `le_card_inter` is attained. -/
theorem exists_card_inter_eq (hk : k ≤ nodes.card) :
    ∃ A B, IsQuorum nodes k A ∧ IsQuorum nodes k B ∧ (A ∩ B).card = 2 * k - nodes.card := by
  obtain ⟨A, hA, hAcard⟩ := Finset.exists_subset_card_eq hk
  have hrest : (nodes \ A).card = nodes.card - k := by
    rw [Finset.card_sdiff_of_subset hA, hAcard]
  by_cases hdisj : k ≤ (nodes \ A).card
  · obtain ⟨B, hB, hBcard⟩ := Finset.exists_subset_card_eq hdisj
    refine ⟨A, B, ⟨hA, hAcard.ge⟩, ⟨hB.trans Finset.sdiff_subset, hBcard.ge⟩, ?_⟩
    have hinter : A ∩ B = ∅ := by
      rw [← Finset.disjoint_iff_inter_eq_empty]
      exact Finset.disjoint_of_subset_right hB Finset.disjoint_sdiff
    rw [hinter, Finset.card_empty]
    omega
  · -- the second quorum takes every node outside the first and fills up from it
    obtain ⟨C, hC, hCcard⟩ :=
      Finset.exists_subset_card_eq (s := A) (n := 2 * k - nodes.card) (by omega)
    have hdisj' : Disjoint (nodes \ A) C := Finset.disjoint_of_subset_right hC Finset.sdiff_disjoint
    refine ⟨A, nodes \ A ∪ C, ⟨hA, hAcard.ge⟩,
      ⟨Finset.union_subset Finset.sdiff_subset (hC.trans hA), ?_⟩, ?_⟩
    · rw [Finset.card_union_of_disjoint hdisj']
      omega
    · rw [Finset.inter_union_distrib_left, Finset.inter_sdiff_self, Finset.empty_union,
        Finset.inter_eq_right.2 hC, hCcard]

/-- All quorums of size `k` overlap pairwise in `m` nodes exactly when the counts force it. -/
theorem forall_le_card_inter_iff (hk : k ≤ nodes.card) :
    (∀ A B, IsQuorum nodes k A → IsQuorum nodes k B → m ≤ (A ∩ B).card) ↔
      m ≤ 2 * k - nodes.card := by
  constructor
  · intro h
    obtain ⟨A, B, hA, hB, hcard⟩ := exists_card_inter_eq hk
    exact hcard ▸ h A B hA hB
  · intro h A B hA hB
    have := le_card_inter hA hB
    omega

/-! ## Quorums of two views -/

section Views

variable {a b : ℕ}

/-- Where the two sizes fit into the union, disjoint quorums of the views exist. -/
theorem exists_disjoint_of_le_card_union (ha : a ≤ A.card) (hb : b ≤ B.card)
    (hab : a + b ≤ (A ∪ B).card) :
    ∃ S ⊆ A, ∃ T ⊆ B, S.card = a ∧ T.card = b ∧ S ∩ T = ∅ := by
  have hcount := Finset.card_union_add_card_inter A B
  have hsdiff := Finset.card_sdiff_add_card_inter B A
  have hcomm : (B ∩ A).card = (A ∩ B).card := by rw [Finset.inter_comm]
  by_cases hrest : b ≤ (B \ A).card
  · obtain ⟨S, hS, hScard⟩ := Finset.exists_subset_card_eq ha
    obtain ⟨T, hT, hTcard⟩ := Finset.exists_subset_card_eq hrest
    refine ⟨S, hS, T, hT.trans Finset.sdiff_subset, hScard, hTcard, ?_⟩
    rw [← Finset.disjoint_iff_inter_eq_empty]
    exact Finset.disjoint_of_subset_left hS
      (Finset.disjoint_of_subset_right hT Finset.disjoint_sdiff)
  · -- the second quorum takes all the first view lacks and fills up from the common nodes
    obtain ⟨C, hC, hCcard⟩ := Finset.exists_subset_card_eq
      (s := A ∩ B) (n := b - (B \ A).card) (by omega)
    have hCA : C ⊆ A := hC.trans Finset.inter_subset_left
    have hCB : C ⊆ B := hC.trans Finset.inter_subset_right
    have hAC : (A \ C).card = A.card - C.card := Finset.card_sdiff_of_subset hCA
    obtain ⟨S, hS, hScard⟩ := Finset.exists_subset_card_eq (s := A \ C) (n := a) (by omega)
    have hdisj : Disjoint (B \ A) C := Finset.disjoint_of_subset_right hCA Finset.sdiff_disjoint
    refine ⟨S, hS.trans Finset.sdiff_subset, B \ A ∪ C,
      Finset.union_subset Finset.sdiff_subset hCB, hScard, ?_, ?_⟩
    · rw [Finset.card_union_of_disjoint hdisj]
      omega
    · rw [← Finset.disjoint_iff_inter_eq_empty, Finset.disjoint_union_right]
      exact ⟨Finset.disjoint_of_subset_left (hS.trans Finset.sdiff_subset)
          Finset.disjoint_sdiff,
        Finset.disjoint_of_subset_left hS Finset.sdiff_disjoint⟩

/-- Quorums of two views always meet exactly when together they are more than the views hold. -/
theorem forall_inter_nonempty_iff (ha : a ≤ A.card) (hb : b ≤ B.card) :
    (∀ S ⊆ A, ∀ T ⊆ B, S.card = a → T.card = b → (S ∩ T).Nonempty) ↔
      (A ∪ B).card < a + b := by
  constructor
  · intro h
    by_contra hle
    obtain ⟨S, hS, T, hT, hScard, hTcard, hempty⟩ :=
      exists_disjoint_of_le_card_union ha hb (not_lt.1 hle)
    have hmeet := h S hS T hT hScard hTcard
    rw [hempty] at hmeet
    exact absurd hmeet Finset.not_nonempty_empty
  · intro hlt S hS T hT hScard hTcard
    rw [← Finset.card_pos]
    have hunion : (S ∪ T).card ≤ (A ∪ B).card :=
      Finset.card_le_card (Finset.union_subset_union hS hT)
    have hcount := Finset.card_union_add_card_inter S T
    omega

end Views

end UniverEscrow.Lib.Quorum
