import Mathlib.Data.List.Basic
import Mathlib.Tactic.Common

/-!
# Binary trees that duplicate an odd last node

A layer is reduced by combining neighbours; an odd last node is combined with itself.  The
reduction stops at a single node.  The results are stated for any combining function that is
injective on the pairs the tree combines, which is all a collision-free hash provides.
-/

namespace UniverEscrow.Lib.PairTree

variable {α : Type*} (node : α → α → α)

def nextLayer : List α → List α
  | [] => []
  | [a] => [node a a]
  | a :: b :: rest => node a b :: nextLayer rest

def layerPairs : List α → List (α × α)
  | [] => []
  | [a] => [(a, a)]
  | a :: b :: rest => (a, b) :: layerPairs rest

/-- The layer and everything above it, root layer last.  Each round shortens a layer of at
least two nodes, so `fuel` as large as the layer is enough. -/
def buildLayers : ℕ → List α → List (List α)
  | 0, layer => [layer]
  | fuel + 1, layer =>
      if layer.length ≤ 1 then [layer] else layer :: buildLayers fuel (nextLayer node layer)

def treePairs : ℕ → List α → List (α × α)
  | 0, _ => []
  | fuel + 1, layer =>
      if layer.length ≤ 1 then [] else layerPairs layer ++ treePairs fuel (nextLayer node layer)

@[simp] theorem length_nextLayer :
    ∀ layer : List α, (nextLayer node layer).length = (layer.length + 1) / 2
  | [] => by simp [nextLayer]
  | [_] => by simp [nextLayer]
  | _ :: _ :: rest => by
      simp only [nextLayer, List.length_cons, length_nextLayer rest]
      omega

theorem buildLayers_ne_nil (fuel : ℕ) (layer : List α) : buildLayers node fuel layer ≠ [] := by
  cases fuel with
  | zero => simp [buildLayers]
  | succ fuel =>
      unfold buildLayers
      split_ifs <;> simp

def topLayer (fuel : ℕ) (layer : List α) : List α :=
  (buildLayers node fuel layer).getLast (buildLayers_ne_nil node fuel layer)

@[simp] theorem topLayer_of_length_le_one {fuel : ℕ} {layer : List α} (h : layer.length ≤ 1) :
    topLayer node fuel layer = layer := by
  cases fuel with
  | zero => rfl
  | succ fuel => simp [topLayer, buildLayers, h]

theorem topLayer_succ {fuel : ℕ} {layer : List α} (h : 1 < layer.length) :
    topLayer node (fuel + 1) layer = topLayer node fuel (nextLayer node layer) := by
  have hbuild : buildLayers node (fuel + 1) layer =
      layer :: buildLayers node fuel (nextLayer node layer) := by
    simp [buildLayers, Nat.not_le.2 h]
  simp only [topLayer, hbuild]
  exact List.getLast_cons (buildLayers_ne_nil node fuel _)

theorem length_topLayer {fuel : ℕ} {layer : List α} (hfuel : layer.length ≤ fuel + 1)
    (hne : layer ≠ []) : (topLayer node fuel layer).length = 1 := by
  induction fuel generalizing layer with
  | zero =>
      have := List.length_pos_iff.2 hne
      rw [topLayer_of_length_le_one node hfuel]
      omega
  | succ fuel ih =>
      have hpos := List.length_pos_iff.2 hne
      by_cases h : layer.length ≤ 1
      · rw [topLayer_of_length_le_one node h]
        omega
      · have hlt : 1 < layer.length := Nat.not_le.1 h
        rw [topLayer_succ node hlt]
        apply ih
        · rw [length_nextLayer]
          omega
        · rw [← List.length_pos_iff, length_nextLayer]
          omega

/-- Copies of one node that is its own parent stay that. -/
theorem nextLayer_replicate {a : α} (ha : node a a = a) :
    ∀ n : ℕ, nextLayer node (List.replicate n a) = List.replicate ((n + 1) / 2) a
  | 0 => rfl
  | 1 => by simp [nextLayer, ha]
  | n + 2 => by
      rw [List.replicate_succ, List.replicate_succ, nextLayer, ha, nextLayer_replicate ha n,
        ← List.replicate_succ, show (n + 2 + 1) / 2 = (n + 1) / 2 + 1 by omega]

theorem topLayer_replicate {a : α} (ha : node a a = a) (fuel n : ℕ) :
    ∃ m, topLayer node fuel (List.replicate n a) = List.replicate m a := by
  induction fuel generalizing n with
  | zero => exact ⟨n, rfl⟩
  | succ fuel ih =>
      by_cases hle : n ≤ 1
      · exact ⟨n, topLayer_of_length_le_one node (by simpa using hle)⟩
      · rw [topLayer_succ node (by simpa using hle), nextLayer_replicate node ha]
        exact ih _

/-! ## What holds of all nodes -/

theorem mem_of_mem_layerPairs : ∀ {layer : List α} {p : α × α},
    p ∈ layerPairs layer → p.1 ∈ layer ∧ p.2 ∈ layer
  | [], _, h => by simp [layerPairs] at h
  | [_], _, h => by
      simp only [layerPairs, List.mem_singleton] at h
      simp [h]
  | _ :: _ :: rest, p, h => by
      simp only [layerPairs, List.mem_cons] at h
      rcases h with rfl | h
      · simp
      · have := mem_of_mem_layerPairs h
        exact ⟨by simp [this.1], by simp [this.2]⟩

variable {node} {P : α → Prop}

theorem forall_mem_nextLayer (hnode : ∀ a b, P (node a b)) :
    ∀ layer : List α, ∀ x ∈ nextLayer node layer, P x
  | [] => by simp [nextLayer]
  | [a] => by simp [nextLayer, hnode]
  | a :: b :: rest => by
      have ih := forall_mem_nextLayer hnode rest
      simp only [nextLayer, List.mem_cons, forall_eq_or_imp]
      exact ⟨hnode a b, ih⟩

theorem forall_mem_buildLayers (hnode : ∀ a b, P (node a b)) (fuel : ℕ) {layer : List α}
    (hlayer : ∀ x ∈ layer, P x) : ∀ l ∈ buildLayers node fuel layer, ∀ x ∈ l, P x := by
  induction fuel generalizing layer with
  | zero => simpa [buildLayers] using hlayer
  | succ fuel ih =>
      unfold buildLayers
      split_ifs
      · simpa using hlayer
      · intro l hl
        rcases List.mem_cons.1 hl with rfl | hl
        · exact hlayer
        · exact ih (forall_mem_nextLayer hnode layer) l hl

theorem forall_mem_topLayer (hnode : ∀ a b, P (node a b)) (fuel : ℕ) {layer : List α}
    (hlayer : ∀ x ∈ layer, P x) : ∀ x ∈ topLayer node fuel layer, P x :=
  forall_mem_buildLayers hnode fuel hlayer _ (List.getLast_mem _)

theorem forall_mem_treePairs (hnode : ∀ a b, P (node a b)) {fuel : ℕ} {layer : List α}
    (hlayer : ∀ x ∈ layer, P x) : ∀ p ∈ treePairs node fuel layer, P p.1 ∧ P p.2 := by
  induction fuel generalizing layer with
  | zero => simp [treePairs]
  | succ fuel ih =>
      intro p hp
      unfold treePairs at hp
      split_ifs at hp with hle
      · simp at hp
      · rcases List.mem_append.1 hp with hp | hp
        · obtain ⟨h1, h2⟩ := mem_of_mem_layerPairs hp
          exact ⟨hlayer _ h1, hlayer _ h2⟩
        · exact ih (forall_mem_nextLayer hnode layer) p hp

variable (node)

/-! ## Binding -/

/-- `node` does not identify a pair of `ps` with a different pair of `qs`. -/
def InjectiveOnPairs (ps qs : List (α × α)) : Prop :=
  ∀ p ∈ ps, ∀ q ∈ qs, node p.1 p.2 = node q.1 q.2 → p = q

theorem eq_of_nextLayer_eq : ∀ {xs ys : List α}, xs.length = ys.length →
    InjectiveOnPairs node (layerPairs xs) (layerPairs ys) →
    nextLayer node xs = nextLayer node ys → xs = ys
  | [], [], _, _, _ => rfl
  | [a], [b], _, hinj, heq => by
      have hnode : node a a = node b b := by simpa [nextLayer] using heq
      have := hinj (a, a) (by simp [layerPairs]) (b, b) (by simp [layerPairs]) hnode
      simpa using this
  | a :: a' :: xs, b :: b' :: ys, hlen, hinj, heq => by
      simp only [nextLayer, List.cons.injEq] at heq
      have hpair := hinj (a, a') (by simp [layerPairs]) (b, b') (by simp [layerPairs]) heq.1
      have hrest : InjectiveOnPairs node (layerPairs xs) (layerPairs ys) := fun p hp q hq =>
        hinj p (by simp [layerPairs, hp]) q (by simp [layerPairs, hq])
      have htail := eq_of_nextLayer_eq (by simpa using hlen) hrest heq.2
      simp only [Prod.mk.injEq] at hpair
      rw [hpair.1, hpair.2, htail]
  | [], _ :: _, hlen, _, _ => by simp at hlen
  | _ :: _, [], hlen, _, _ => by simp at hlen
  | [_], _ :: _ :: _, hlen, _, _ => by simp at hlen
  | _ :: _ :: _, [_], hlen, _, _ => by simp at hlen

/-- Two layers of one length with the same root layer are equal. -/
theorem eq_of_topLayer_eq (fuel : ℕ) {xs ys : List α} (hlen : xs.length = ys.length)
    (hinj : InjectiveOnPairs node (treePairs node fuel xs) (treePairs node fuel ys))
    (htop : topLayer node fuel xs = topLayer node fuel ys) : xs = ys := by
  induction fuel generalizing xs ys with
  | zero => exact htop
  | succ fuel ih =>
      by_cases h : xs.length ≤ 1
      · rwa [topLayer_of_length_le_one node h, topLayer_of_length_le_one node (hlen ▸ h)] at htop
      · have hys : ¬ ys.length ≤ 1 := hlen ▸ h
        simp only [treePairs, if_neg h, if_neg hys] at hinj
        rw [topLayer_succ node (Nat.not_le.1 h), topLayer_succ node (Nat.not_le.1 hys)] at htop
        have hnext : nextLayer node xs = nextLayer node ys := by
          refine ih ?_ ?_ htop
          · rw [length_nextLayer, length_nextLayer, hlen]
          · exact fun p hp q hq =>
              hinj p (List.mem_append_right _ hp) q (List.mem_append_right _ hq)
        exact eq_of_nextLayer_eq node hlen
          (fun p hp q hq => hinj p (List.mem_append_left _ hp) q (List.mem_append_left _ hq)) hnext

end UniverEscrow.Lib.PairTree
