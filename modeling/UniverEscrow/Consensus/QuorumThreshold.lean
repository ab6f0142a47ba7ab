import UniverEscrow.Js.OrderedMap
import UniverEscrow.Js.Value
import UniverEscrow.Lib.Quorum

/-!
# The BFT quorum threshold

`f = floor((N - 1) / 3)` and `threshold = 2 f + 1`, computed in three places: on the counted
cluster size, on the active members, and on the cluster size a commit request states, which
may be any Number.
-/

namespace UniverEscrow.Consensus

open UniverEscrow.Js UniverEscrow.Lib.Quorum

abbrev NodeId := String

structure QuorumParams where
  f : ℤ
  threshold : ℤ
deriving DecidableEq

/-- `EnclaveBftVerifyEngine.quorumThreshold` of a counted cluster. -/
def quorumThreshold (clusterSize : ℤ) : QuorumParams :=
  let f := (clusterSize - 1) / 3
  { f := f, threshold := 2 * f + 1 }

def fExpected (clusterSize : JsNumber) : JsNumber :=
  ((clusterSize.sub (.ofInt 1)).div (.ofInt 3)).floor

def thresholdExpected (clusterSize : JsNumber) : JsNumber :=
  ((JsNumber.ofInt 2).mul (fExpected clusterSize)).add (.ofInt 1)

inductive NodeStatus where
  | ACTIVE
  | OFFLINE
  | SUSPECTED
  | EVICTED
  | JOINING
deriving DecidableEq

/-- The part of a cluster member the threshold depends on. -/
structure ClusterNode where
  nodeId : NodeId
  status : NodeStatus

structure ClusterMembershipManager where
  nodes : OrderedMap NodeId ClusterNode

def ClusterMembershipManager.getActiveNodeCount (manager : ClusterMembershipManager) : ℕ :=
  (manager.nodes.values.filter fun n => n.status = .ACTIVE ∨ n.status = .JOINING).length

structure ThresholdReport where
  clusterSize : ℕ
  f : ℤ
  threshold : ℤ

def ClusterMembershipManager.calculateThreshold (manager : ClusterMembershipManager) :
    ThresholdReport :=
  let clusterSize := manager.getActiveNodeCount
  let f := ((clusterSize : ℤ) - 1) / 3
  { clusterSize := clusterSize, f := f, threshold := 2 * f + 1 }

theorem calculateThreshold_eq (manager : ClusterMembershipManager) :
    manager.calculateThreshold.f = (quorumThreshold manager.calculateThreshold.clusterSize).f ∧
      manager.calculateThreshold.threshold =
        (quorumThreshold manager.calculateThreshold.clusterSize).threshold :=
  ⟨rfl, rfl⟩

/-! ## The threshold on Numbers -/

theorem fExpected_ofInt {n : ℤ} (hpos : 1 ≤ n) (hn : n ≤ 2 ^ 53) :
    fExpected (.ofInt n) = .ofInt (quorumThreshold n).f := by
  have hsub : (JsNumber.ofInt n).sub (.ofInt 1) = .ofInt (n - 1) := by
    rw [JsNumber.sub, JsNumber.ofInt_eq_fin (n := n) (by rw [abs_le]; omega),
      JsNumber.ofInt_eq_fin (n := 1) (by norm_num), JsNumber.ofInt_eq_fin (n := n - 1)
        (by rw [abs_le]; omega)]
    have hneg : JsNumber.neg (.fin ⟨_, isBinary64_intCast (n := 1) (by norm_num)⟩) =
        .fin ⟨_, isBinary64_intCast (n := -1) (by norm_num)⟩ := by
      rw [JsNumber.neg, ← JsNumber.ofRat_val]
      simp
    rw [hneg, JsNumber.add, ← JsNumber.ofRat_val]
    push_cast
    rw [sub_eq_add_neg]
  rw [fExpected, hsub,
    JsNumber.floor_div_ofInt (by rw [abs_le]; omega) (by norm_num) (by norm_num)]
  rfl

theorem thresholdExpected_ofInt {n : ℤ} (hpos : 1 ≤ n) (hn : n ≤ 2 ^ 53) :
    thresholdExpected (.ofInt n) = .ofInt (quorumThreshold n).threshold := by
  have hf0 : 0 ≤ (quorumThreshold n).f := by simp only [quorumThreshold]; omega
  have hf1 : 3 * (quorumThreshold n).f ≤ 2 ^ 53 := by simp only [quorumThreshold]; omega
  have ht : (quorumThreshold n).threshold = 2 * (quorumThreshold n).f + 1 := rfl
  rw [thresholdExpected, fExpected_ofInt hpos hn, ht]
  generalize (quorumThreshold n).f = f at hf0 hf1
  have hmul : (JsNumber.ofInt 2).mul (.ofInt f) = .ofInt (2 * f) := by
    rw [JsNumber.ofInt_eq_fin (n := 2) (by norm_num),
      JsNumber.ofInt_eq_fin (n := f) (by rw [abs_le]; omega)]
    simp [JsNumber.mul, JsNumber.ofInt]
  rw [hmul, JsNumber.ofInt_eq_fin (n := 2 * f) (by rw [abs_le]; omega),
    JsNumber.ofInt_eq_fin (n := 1) (by norm_num)]
  simp [JsNumber.add, JsNumber.ofInt]

/-! ## Overlap of quorums -/

section Overlap

variable {α : Type*} [DecidableEq α] {nodes : Finset α}

/-- A quorum is reachable with `f` nodes silent, and `f` nodes are fewer than a third. -/
theorem quorumThreshold_reachable (n : ℕ) :
    3 * (quorumThreshold n).f < n ∧ (quorumThreshold n).threshold ≤ n - (quorumThreshold n).f := by
  simp only [quorumThreshold]
  omega

omit [DecidableEq α] in
theorem isQuorum_toNat {A : Finset α} (hA : A ⊆ nodes)
    (hcard : (quorumThreshold nodes.card).threshold ≤ A.card) :
    IsQuorum nodes (quorumThreshold nodes.card).threshold.toNat A :=
  ⟨hA, by omega⟩

theorem le_card_inter_of_threshold {A B : Finset α} (hA : A ⊆ nodes) (hB : B ⊆ nodes)
    (hAcard : (quorumThreshold nodes.card).threshold ≤ A.card)
    (hBcard : (quorumThreshold nodes.card).threshold ≤ B.card) :
    2 * (quorumThreshold nodes.card).threshold - nodes.card ≤ (A ∩ B).card := by
  have := le_card_inter (isQuorum_toNat hA hAcard) (isQuorum_toNat hB hBcard)
  omega

/-- An overlap of `f + 1` is sure only where no node is left over by the division. -/
theorem forall_succ_f_le_card_inter_iff (hne : 1 ≤ nodes.card) :
    (∀ A B, A ⊆ nodes → B ⊆ nodes → (quorumThreshold nodes.card).threshold ≤ A.card →
        (quorumThreshold nodes.card).threshold ≤ B.card →
        (quorumThreshold nodes.card).f + 1 ≤ (A ∩ B).card) ↔ nodes.card % 3 = 1 := by
  have hf0 : 0 ≤ (quorumThreshold nodes.card).f := by simp only [quorumThreshold]; omega
  have hthreshold : (quorumThreshold nodes.card).threshold =
      2 * (quorumThreshold nodes.card).f + 1 := rfl
  have hf : (quorumThreshold nodes.card).f = ((nodes.card : ℤ) - 1) / 3 := rfl
  have hreach : (quorumThreshold nodes.card).threshold.toNat ≤ nodes.card := by omega
  have hcount := forall_le_card_inter_iff (m := ((quorumThreshold nodes.card).f + 1).toNat) hreach
  calc (∀ A B, A ⊆ nodes → B ⊆ nodes → (quorumThreshold nodes.card).threshold ≤ A.card →
        (quorumThreshold nodes.card).threshold ≤ B.card →
        (quorumThreshold nodes.card).f + 1 ≤ (A ∩ B).card)
      ↔ ∀ A B, IsQuorum nodes (quorumThreshold nodes.card).threshold.toNat A →
          IsQuorum nodes (quorumThreshold nodes.card).threshold.toNat B →
          ((quorumThreshold nodes.card).f + 1).toNat ≤ (A ∩ B).card := by
        constructor
        · intro h A B hA hB
          have := h A B hA.subset hB.subset (by have := hA.le_card; omega)
            (by have := hB.le_card; omega)
          omega
        · intro h A B hA hB hAcard hBcard
          have := h A B (isQuorum_toNat hA hAcard) (isQuorum_toNat hB hBcard)
          omega
    _ ↔ _ := hcount
    _ ↔ _ := by omega

/-- For every cluster of at least one node: `f` is below a third, a quorum is reachable with
`f` nodes silent, two quorums overlap in at least `2 threshold - N` nodes, which is `f + 1`
for every pair exactly when `N` leaves remainder one, and the commit path and the membership
manager compute the same two values. -/
theorem quorum_overlap (N : ℕ) (hN : 1 ≤ N) (nodes : Finset α) (hnodes : nodes.card = N) :
    ((quorumThreshold N).f : ℚ) < N / 3 ∧
      (quorumThreshold N).threshold ≤ N - (quorumThreshold N).f ∧
      (∀ A B, A ⊆ nodes → B ⊆ nodes → (quorumThreshold N).threshold ≤ A.card →
        (quorumThreshold N).threshold ≤ B.card →
        2 * (quorumThreshold N).threshold - N ≤ (A ∩ B).card) ∧
      ((∀ A B, A ⊆ nodes → B ⊆ nodes → (quorumThreshold N).threshold ≤ A.card →
          (quorumThreshold N).threshold ≤ B.card → (quorumThreshold N).f + 1 ≤ (A ∩ B).card) ↔
        N % 3 = 1) ∧
      (N ≤ 2 ^ 53 → fExpected (.ofInt N) = .ofInt (quorumThreshold N).f ∧
        thresholdExpected (.ofInt N) = .ofInt (quorumThreshold N).threshold) ∧
      ∀ manager : ClusterMembershipManager, manager.getActiveNodeCount = N →
        manager.calculateThreshold.f = (quorumThreshold N).f ∧
          manager.calculateThreshold.threshold = (quorumThreshold N).threshold := by
  subst hnodes
  obtain ⟨hf, hreach⟩ := quorumThreshold_reachable nodes.card
  refine ⟨?_, hreach, fun A B => le_card_inter_of_threshold, forall_succ_f_le_card_inter_iff hN,
    fun hle => ⟨fExpected_ofInt (by omega) (by omega), thresholdExpected_ofInt (by omega)
      (by omega)⟩, ?_⟩
  · rw [lt_div_iff₀ (by norm_num), mul_comm]
    exact_mod_cast hf
  · intro manager hcount
    rw [← hcount]
    exact calculateThreshold_eq manager

theorem quorum_overlap_four :
    ((quorumThreshold 4).f : ℚ) < (4 : ℕ) / 3 ∧
      (quorumThreshold 4).threshold ≤ (4 : ℕ) - (quorumThreshold 4).f ∧
      (∀ A B : Finset ℕ, A ⊆ {1, 2, 3, 4} → B ⊆ {1, 2, 3, 4} →
        (quorumThreshold 4).threshold ≤ A.card → (quorumThreshold 4).threshold ≤ B.card →
        2 * (quorumThreshold 4).threshold - (4 : ℕ) ≤ (A ∩ B).card) ∧
      ((∀ A B : Finset ℕ, A ⊆ {1, 2, 3, 4} → B ⊆ {1, 2, 3, 4} →
          (quorumThreshold 4).threshold ≤ A.card → (quorumThreshold 4).threshold ≤ B.card →
          (quorumThreshold 4).f + 1 ≤ (A ∩ B).card) ↔ 4 % 3 = 1) ∧
      (4 ≤ 2 ^ 53 → fExpected (.ofInt 4) = .ofInt (quorumThreshold 4).f ∧
        thresholdExpected (.ofInt 4) = .ofInt (quorumThreshold 4).threshold) ∧
      ∀ manager : ClusterMembershipManager, manager.getActiveNodeCount = 4 →
        manager.calculateThreshold.f = (quorumThreshold 4).f ∧
          manager.calculateThreshold.threshold = (quorumThreshold 4).threshold :=
  quorum_overlap 4 (by decide) ({1, 2, 3, 4} : Finset ℕ) rfl

/-- Six nodes have two quorums without a common node. -/
theorem six_nodes_disjoint_quorums :
    ∃ nodes A B : Finset ℕ, nodes.card = 6 ∧ A ⊆ nodes ∧ B ⊆ nodes ∧
      (quorumThreshold 6).threshold ≤ A.card ∧ (quorumThreshold 6).threshold ≤ B.card ∧
      ¬ (quorumThreshold 6).f + 1 ≤ (A ∩ B).card ∧ A ∩ B = ∅ :=
  ⟨{1, 2, 3, 4, 5, 6}, {1, 2, 3}, {4, 5, 6}, by decide⟩

end Overlap

end UniverEscrow.Consensus
