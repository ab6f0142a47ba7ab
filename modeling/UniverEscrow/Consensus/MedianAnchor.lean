import UniverEscrow.Consensus.EnclaveTimeAnchorService
import UniverEscrow.Lib.Majority
import Mathlib.Algebra.Order.Field.Rat
import Mathlib.Tactic.Linarith

/-!
# The median anchor under an honest majority

The anchor's computation over any arithmetic.  At the binary64 numbers it is what the service
computes; at the exact rationals a strict majority of honest clocks holds it in their interval.
-/

namespace UniverEscrow.Consensus

open UniverEscrow.Js UniverEscrow.Merkle UniverEscrow.Lib

/-- The operations the anchor's computation uses, on asserted times `τ` and numbers `ν`. -/
structure MedianArithmetic (τ ν : Type) where
  timeLe : τ → τ → Bool
  ofTime : τ → ν
  ofNat : ℕ → ν
  /-- What arithmetic makes of an element that is not there. -/
  undefinedTime : ν
  add : ν → ν → ν
  sub : ν → ν → ν
  div : ν → ν → ν
  abs : ν → ν
  lt : ν → ν → Bool

/-- What the anchor's computation reads of an assertion. -/
structure AssertedTime (τ : Type) where
  nodeId : NodeId
  assertedAtMs : τ

/-- An anchor before its fingerprint is taken. -/
structure AnchorBody (ν : Type) where
  anchorMs : ν
  includedNodeIds : List NodeId
  outlierNodeIds : List NodeId

namespace MedianArithmetic

variable {τ ν : Type} (A : MedianArithmetic τ ν)

def medianOfSorted (sorted : List τ) : Except AnchorFailure ν :=
  let n := sorted.length
  let mid := n / 2
  let at? (i : ℕ) : ν := (sorted[i]?.map A.ofTime).getD A.undefinedTime
  if n = 0 then .error (.thrown "medianOfSorted: empty")
  else if n % 2 = 0 then .ok (A.div (A.add (at? (mid - 1)) (at? mid)) (A.ofNat 2))
  else .ok (at? mid)

def sortedTimes (assertions : List (AssertedTime τ)) : List τ :=
  (assertions.map AssertedTime.assertedAtMs).insertionSort fun a b => A.timeLe a b

def isOutlier (driftThresholdMs median : ν) (assertion : AssertedTime τ) : Bool :=
  A.lt driftThresholdMs (A.abs (A.sub (A.ofTime assertion.assertedAtMs) median))

def computeMedianAnchor (driftThresholdMs : ν) (values : List (AssertedTime τ))
    (requiredMinAssertions : Option ν) : Except AnchorFailure (AnchorBody ν) := do
  EnclaveTimeAnchorService.refuseWhen (values.length = 0) "NO_ASSERTIONS"
  let median ← A.medianOfSorted (A.sortedTimes values)
  let outliers := values.filter (A.isOutlier driftThresholdMs median)
  let included := values.filter fun a => !A.isOutlier driftThresholdMs median a
  let requiredMin := requiredMinAssertions.getD (A.ofNat 3)
  EnclaveTimeAnchorService.refuseWhen (A.lt (A.ofNat included.length) requiredMin)
    "INSUFFICIENT_QUORUM_AFTER_FILTERING"
  let anchorMs ← A.medianOfSorted (A.sortedTimes included)
  return {
    anchorMs := anchorMs
    includedNodeIds := sortNodeIds (included.map AssertedTime.nodeId)
    outlierNodeIds := sortNodeIds (outliers.map AssertedTime.nodeId) }

variable {A} {driftThresholdMs median anchorMs : ν} {values : List (AssertedTime τ)}
  {requiredMinAssertions : Option ν}

theorem computeMedianAnchor_of_included (hpos : values.length ≠ 0)
    (hmedian : A.medianOfSorted (A.sortedTimes values) = .ok median)
    (henough : A.lt (A.ofNat (values.filter fun a =>
      !A.isOutlier driftThresholdMs median a).length) (requiredMinAssertions.getD (A.ofNat 3)) =
        false)
    (hanchor : A.medianOfSorted (A.sortedTimes (values.filter fun a =>
      !A.isOutlier driftThresholdMs median a)) = .ok anchorMs) :
    A.computeMedianAnchor driftThresholdMs values requiredMinAssertions = .ok {
      anchorMs := anchorMs
      includedNodeIds := sortNodeIds ((values.filter fun a =>
        !A.isOutlier driftThresholdMs median a).map AssertedTime.nodeId)
      outlierNodeIds := sortNodeIds ((values.filter
        (A.isOutlier driftThresholdMs median)).map AssertedTime.nodeId) } := by
  simp only [computeMedianAnchor, hpos, hmedian, decide_false]
  change EnclaveTimeAnchorService.refuseWhen (A.lt _ _) _ >>= _ = _
  rw [henough]
  change A.medianOfSorted _ >>= _ = _
  rw [hanchor]
  rfl

end MedianArithmetic

/-! ## The service computes it at the binary64 numbers -/

def binary64Arithmetic : MedianArithmetic Binary64 JsNumber where
  timeLe a b := a.val ≤ b.val
  ofTime := .fin
  ofNat n := .ofInt n
  undefinedTime := .nan
  add := .add
  sub := .sub
  div := .div
  abs := EnclaveTimeAnchorService.mathAbs
  lt := JsNumber.lt

def SignedTimeAssertion.asserted (assertion : SignedTimeAssertion) : AssertedTime Binary64 where
  nodeId := assertion.nodeId
  assertedAtMs := assertion.assertedAtMs

def AnchorBody.fingerprinted (sha256 : Sha256) (body : AnchorBody JsNumber) :
    MedianTimeAnchor where
  anchorMs := body.anchorMs
  anchorFingerprint := sha256Hex sha256 (EnclaveTimeAnchorService.fingerprintText body.anchorMs
    body.includedNodeIds body.outlierNodeIds)
  includedNodeIds := body.includedNodeIds
  outlierNodeIds := body.outlierNodeIds

theorem medianOfSorted_binary64 :
    binary64Arithmetic.medianOfSorted = EnclaveTimeAnchorService.medianOfSorted := rfl

theorem sortedTimes_asserted (assertions : List SignedTimeAssertion) :
    binary64Arithmetic.sortedTimes (assertions.map SignedTimeAssertion.asserted) =
      EnclaveTimeAnchorService.sortedTimes assertions := by
  simp only [MedianArithmetic.sortedTimes, EnclaveTimeAnchorService.sortedTimes, List.map_map,
    binary64Arithmetic, decide_eq_true_eq]
  rfl

theorem filter_asserted (keep : AssertedTime Binary64 → Bool)
    (assertions : List SignedTimeAssertion) :
    (assertions.map SignedTimeAssertion.asserted).filter keep =
      (assertions.filter fun a => keep a.asserted).map SignedTimeAssertion.asserted := by
  rw [List.filter_map]
  rfl

theorem nodeId_asserted (assertions : List SignedTimeAssertion) :
    (assertions.map SignedTimeAssertion.asserted).map AssertedTime.nodeId =
      assertions.map SignedTimeAssertion.nodeId := by
  rw [List.map_map]
  rfl

theorem computeMedianAnchor_eq (sha256 : Sha256) (service : EnclaveTimeAnchorService)
    (requiredMinAssertions : Option JsNumber) :
    service.computeMedianAnchor sha256 requiredMinAssertions =
      (binary64Arithmetic.computeMedianAnchor (.fin service.driftThresholdMs)
        (service.assertions.values.map SignedTimeAssertion.asserted) requiredMinAssertions).map
        (AnchorBody.fingerprinted sha256) := by
  simp only [MedianArithmetic.computeMedianAnchor, filter_asserted, sortedTimes_asserted,
    nodeId_asserted, medianOfSorted_binary64, List.length_map]
  simp only [EnclaveTimeAnchorService.computeMedianAnchor, map_bind]
  rfl

/-! ## The exact anchor -/

def exactArithmetic : MedianArithmetic ℚ ℚ where
  timeLe a b := a ≤ b
  ofTime t := t
  ofNat n := n
  undefinedTime := 0
  add a b := a + b
  sub a b := a - b
  div a b := a / b
  abs a := |a|
  lt a b := a < b

theorem sortedTimes_exact (values : List (AssertedTime ℚ)) :
    exactArithmetic.sortedTimes values =
      (values.map AssertedTime.assertedAtMs).insertionSort fun a b : ℚ => a ≤ b := by
  simp only [MedianArithmetic.sortedTimes, exactArithmetic, decide_eq_true_eq]

section HonestMajority

variable {values : List (AssertedTime ℚ)} {honest : AssertedTime ℚ → Bool} {lo hi : ℚ}

theorem getElem_sortedTimes_of_majority {i : ℕ}
    (hhonest : ∀ a ∈ values, honest a = true → lo ≤ a.assertedAtMs ∧ a.assertedAtMs ≤ hi)
    (hmajority : values.length < 2 * values.countP honest)
    (hle : 2 * i ≤ values.length) (hge : values.length ≤ 2 * i + 2) :
    ∃ t, (exactArithmetic.sortedTimes values)[i]? = some t ∧ lo ≤ t ∧ t ≤ hi := by
  have hperm := List.perm_insertionSort (fun a b : ℚ => a ≤ b)
    (values.map AssertedTime.assertedAtMs)
  have hsorted := List.sortedLE_insertionSort (l := values.map AssertedTime.assertedAtMs)
  rw [sortedTimes_exact]
  have hlength := hperm.length_eq
  have hcount := hperm.countP_eq fun t => lo ≤ t ∧ t ≤ hi
  rw [List.length_map] at hlength
  rw [List.countP_map] at hcount
  have hmono : values.countP honest ≤
      values.countP ((fun t : ℚ => decide (lo ≤ t ∧ t ≤ hi)) ∘ AssertedTime.assertedAtMs) := by
    apply List.countP_mono_left
    intro a ha hha
    simpa using hhonest a ha hha
  have hle' : values.countP honest ≤ values.length := List.countP_le_length
  have hi' : i < (List.insertionSort (fun a b : ℚ => a ≤ b)
      (values.map AssertedTime.assertedAtMs)).length := by omega
  exact ⟨_, List.getElem?_eq_getElem hi',
    Majority.getElem_of_majority hsorted (by omega) hi' (by omega) (by omega)⟩

/-- The median lies where the honest majority lies. -/
theorem medianOfSorted_of_majority
    (hhonest : ∀ a ∈ values, honest a = true → lo ≤ a.assertedAtMs ∧ a.assertedAtMs ≤ hi)
    (hmajority : values.length < 2 * values.countP honest) :
    ∃ m, exactArithmetic.medianOfSorted (exactArithmetic.sortedTimes values) = .ok m ∧
      lo ≤ m ∧ m ≤ hi := by
  have hlength : (exactArithmetic.sortedTimes values).length = values.length := by
    rw [sortedTimes_exact, List.length_insertionSort, List.length_map]
  have hpos : values.length ≠ 0 := by
    have := List.countP_le_length (p := honest) (l := values)
    omega
  obtain ⟨t, ht, hlo, hhi⟩ := getElem_sortedTimes_of_majority (i := values.length / 2) hhonest
    hmajority (by omega) (by omega)
  rw [MedianArithmetic.medianOfSorted]
  simp only [hlength, if_neg hpos, ht]
  by_cases heven : values.length % 2 = 0
  · obtain ⟨s, hs, hlo', hhi'⟩ := getElem_sortedTimes_of_majority (i := values.length / 2 - 1)
      hhonest hmajority (by omega) (by omega)
    refine ⟨(s + t) / 2, ?_, by linarith, by linarith⟩
    rw [if_pos heven, hs]
    simp [exactArithmetic]
  · exact ⟨t, by simp [heven, exactArithmetic], hlo, hhi⟩

theorem not_isOutlier_of_majority {driftThresholdMs m : ℚ} {a : AssertedTime ℚ}
    (hwidth : hi - lo ≤ driftThresholdMs) (hm : lo ≤ m ∧ m ≤ hi)
    (ha : lo ≤ a.assertedAtMs ∧ a.assertedAtMs ≤ hi) :
    exactArithmetic.isOutlier driftThresholdMs m a = false := by
  have habs : |a.assertedAtMs - m| ≤ driftThresholdMs := by
    rw [abs_le]
    constructor <;> linarith
  simpa [MedianArithmetic.isOutlier, exactArithmetic] using habs

/-- Filtering keeps the honest assertions, so they stay the majority. -/
theorem countP_included_of_majority {keep : AssertedTime ℚ → Bool}
    (hkeep : ∀ a ∈ values, honest a = true → keep a = true) :
    (values.filter keep).countP honest = values.countP honest := by
  rw [List.countP_filter]
  apply List.countP_congr
  intro a ha
  simp only [Bool.and_eq_true, and_iff_left_iff_imp]
  exact hkeep a ha

end HonestMajority

/-- Exact arithmetic: an honest majority within the drift threshold is included whole and holds
the anchor in its interval. -/
theorem computeMedianAnchor_of_majority (driftThresholdMs : ℚ) (requiredMin : Option ℚ)
    (window : List (AssertedTime ℚ)) (honest : AssertedTime ℚ → Bool) (lo hi : ℚ)
    (hwidth : hi - lo ≤ driftThresholdMs)
    (hhonest : ∀ a ∈ window, honest a = true → lo ≤ a.assertedAtMs ∧ a.assertedAtMs ≤ hi)
    (hmajority : window.length < 2 * window.countP honest)
    (hrequired : requiredMin.getD 3 ≤ window.countP honest) :
    ∃ anchor, exactArithmetic.computeMedianAnchor driftThresholdMs window requiredMin =
        .ok anchor ∧
      (∀ a ∈ window, honest a = true → a.nodeId ∈ anchor.includedNodeIds) ∧
      lo ≤ anchor.anchorMs ∧ anchor.anchorMs ≤ hi := by
  have hpos : window.length ≠ 0 := by
    have := List.countP_le_length (p := honest) (l := window)
    omega
  obtain ⟨median, hmedian, hm⟩ := medianOfSorted_of_majority hhonest hmajority
  have hkeep : ∀ a ∈ window, honest a = true →
      (!exactArithmetic.isOutlier driftThresholdMs median a) = true := by
    intro a ha hha
    rw [not_isOutlier_of_majority hwidth hm (hhonest a ha hha)]
    rfl
  let included := window.filter fun a => !exactArithmetic.isOutlier driftThresholdMs median a
  have hcount : included.countP honest = window.countP honest := countP_included_of_majority hkeep
  have hlength : included.length ≤ window.length := List.length_filter_le _ _
  have hcount' : included.countP honest ≤ included.length := List.countP_le_length
  have hincluded : ∀ a ∈ included, honest a = true → lo ≤ a.assertedAtMs ∧ a.assertedAtMs ≤ hi :=
    fun a ha => hhonest a (List.mem_of_mem_filter ha)
  obtain ⟨anchorMs, hanchor, hlo, hhi⟩ :=
    medianOfSorted_of_majority hincluded (by omega)
  have henough : exactArithmetic.lt (exactArithmetic.ofNat included.length)
      (requiredMin.getD (exactArithmetic.ofNat 3)) = false := by
    have hle : (window.countP honest : ℚ) ≤ included.length := by
      rw [← hcount]
      exact_mod_cast hcount'
    simpa [exactArithmetic] using hrequired.trans hle
  refine ⟨_, exactArithmetic.computeMedianAnchor_of_included hpos hmedian henough hanchor, ?_, hlo,
    hhi⟩
  intro a ha hha
  rw [sortNodeIds, List.mem_insertionSort]
  exact List.mem_map_of_mem (List.mem_filter.2 ⟨ha, hkeep a ha hha⟩)

/-- Two honest clocks outvote one that is ages ahead. -/
theorem computeMedianAnchor_of_majority_three :
    ∃ anchor, exactArithmetic.computeMedianAnchor 5000
        [⟨"node-1", 1000⟩, ⟨"node-2", 1400⟩, ⟨"node-3", 900000000⟩] (some 2) = .ok anchor ∧
      (∀ a ∈ [⟨"node-1", 1000⟩, ⟨"node-2", 1400⟩, (⟨"node-3", 900000000⟩ : AssertedTime ℚ)],
        decide (a.nodeId ≠ "node-3") = true → a.nodeId ∈ anchor.includedNodeIds) ∧
      1000 ≤ anchor.anchorMs ∧ anchor.anchorMs ≤ 1400 :=
  computeMedianAnchor_of_majority 5000 (some 2)
    [⟨"node-1", 1000⟩, ⟨"node-2", 1400⟩, ⟨"node-3", 900000000⟩]
    (fun a => decide (a.nodeId ≠ "node-3")) 1000 1400 (by norm_num) (by norm_num) (by decide)
    (Nat.cast_le.2 (by decide : 2 ≤ List.countP _ _))

end UniverEscrow.Consensus
