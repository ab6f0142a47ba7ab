import UniverEscrow.Lib.PairTree

/-!
# The trees a reduction builds

Combining formally instead of with a node function keeps the tree of a reduction.  Evaluating
it gives the root, and where the evaluation confuses no two pairs and no leaf with a node, equal
roots come from equal trees.  Lists with equal trees can differ in length, because an odd last
node stands twice in its tree.
-/

namespace UniverEscrow.Lib

inductive FreeTree (α : Type*) where
  | leaf (a : α)
  | node (left right : FreeTree α)
deriving DecidableEq

namespace FreeTree

open PairTree

variable {α : Type*} (node : α → α → α)

def eval : FreeTree α → α
  | .leaf a => a
  | .node left right => node (eval left) (eval right)

def leaves : FreeTree α → List α
  | .leaf a => [a]
  | .node left right => leaves left ++ leaves right

/-- The evaluated pairs at the inner nodes. -/
def pairs : FreeTree α → List (α × α)
  | .leaf _ => []
  | .node left right => (eval node left, eval node right) :: (pairs left ++ pairs right)

/-- The tree over a list of leaves, alone in a list; none over no leaves. -/
def ofLeaves (xs : List α) : List (FreeTree α) :=
  topLayer FreeTree.node xs.length (xs.map FreeTree.leaf)

/-! ## Evaluation -/

theorem map_eval_nextLayer : ∀ layer : List (FreeTree α),
    (nextLayer FreeTree.node layer).map (eval node) = nextLayer node (layer.map (eval node))
  | [] => rfl
  | [_] => rfl
  | a :: b :: rest => by
      simp only [nextLayer, List.map_cons, eval]
      rw [map_eval_nextLayer rest]

theorem map_eval_topLayer (fuel : ℕ) (layer : List (FreeTree α)) :
    (topLayer FreeTree.node fuel layer).map (eval node) =
      topLayer node fuel (layer.map (eval node)) := by
  induction fuel generalizing layer with
  | zero => rfl
  | succ fuel ih =>
      by_cases h : layer.length ≤ 1
      · rw [topLayer_of_length_le_one _ h, topLayer_of_length_le_one _ (by simpa using h)]
      · have hlt : 1 < layer.length := Nat.not_le.1 h
        rw [topLayer_succ _ hlt, topLayer_succ _ (by simpa using hlt), ih, map_eval_nextLayer]

theorem map_eval_ofLeaves (xs : List α) :
    (ofLeaves xs).map (eval node) = topLayer node xs.length xs := by
  rw [ofLeaves, map_eval_topLayer, List.map_map]
  congr 1
  exact List.map_id xs

theorem length_ofLeaves {xs : List α} (hne : xs ≠ []) : (ofLeaves xs).length = 1 := by
  apply length_topLayer
  · simp
  · simpa using hne

theorem pairs_nextLayer_subset {S : List (α × α)} : ∀ {layer : List (FreeTree α)},
    (∀ t ∈ layer, pairs node t ⊆ S) → layerPairs (layer.map (eval node)) ⊆ S →
      ∀ t ∈ nextLayer FreeTree.node layer, pairs node t ⊆ S
  | [], _, _ => by simp [nextLayer]
  | [a], hlayer, hpairs => by
      have ha := hlayer a List.mem_cons_self
      simp only [nextLayer, List.mem_singleton, forall_eq, pairs]
      simp only [List.map_cons, List.map_nil, layerPairs] at hpairs
      exact List.cons_subset.2 ⟨hpairs List.mem_cons_self, List.append_subset.2 ⟨ha, ha⟩⟩
  | a :: b :: rest, hlayer, hpairs => by
      simp only [List.map_cons, layerPairs, List.cons_subset] at hpairs
      have hrest : ∀ t ∈ nextLayer FreeTree.node rest, pairs node t ⊆ S :=
        pairs_nextLayer_subset (fun t ht => hlayer t (by simp [ht])) hpairs.2
      intro t ht
      simp only [nextLayer, List.mem_cons] at ht
      rcases ht with rfl | ht
      · exact List.cons_subset.2 ⟨hpairs.1,
          List.append_subset.2 ⟨hlayer a (by simp), hlayer b (by simp)⟩⟩
      · exact hrest t ht

/-- The tree's pairs are pairs of the reduction. -/
theorem pairs_topLayer_subset {S : List (α × α)} (fuel : ℕ) {layer : List (FreeTree α)}
    (hlayer : ∀ t ∈ layer, pairs node t ⊆ S)
    (hpairs : treePairs node fuel (layer.map (eval node)) ⊆ S) :
    ∀ t ∈ topLayer FreeTree.node fuel layer, pairs node t ⊆ S := by
  induction fuel generalizing layer with
  | zero => exact hlayer
  | succ fuel ih =>
      by_cases h : layer.length ≤ 1
      · rwa [topLayer_of_length_le_one _ h]
      · have h' : ¬ (layer.map (eval node)).length ≤ 1 := by simpa using h
        rw [treePairs, if_neg h', List.append_subset] at hpairs
        rw [topLayer_succ _ (Nat.not_le.1 h)]
        apply ih (pairs_nextLayer_subset node hlayer hpairs.1)
        rw [map_eval_nextLayer]
        exact hpairs.2

theorem pairs_ofLeaves_subset (xs : List α) :
    ∀ t ∈ ofLeaves xs, pairs node t ⊆ treePairs node xs.length xs := by
  apply pairs_topLayer_subset
  · intro t ht
    obtain ⟨a, -, rfl⟩ := List.mem_map.1 ht
    exact List.nil_subset _
  · rw [List.map_map]
    have hid : xs.map (eval node ∘ FreeTree.leaf) = xs := List.map_id xs
    rw [hid]
    exact List.Subset.refl _

/-! ## Equal roots -/

/-- Where pairs are not confused with each other nor leaves with nodes, a tree is determined by
its value. -/
theorem eq_of_eval_eq {s t : FreeTree α}
    (hpairs : InjectiveOnPairs node (pairs node s) (pairs node t))
    (hst : ∀ a ∈ s.leaves, ∀ p ∈ pairs node t, a ≠ node p.1 p.2)
    (hts : ∀ a ∈ t.leaves, ∀ p ∈ pairs node s, a ≠ node p.1 p.2)
    (heq : eval node s = eval node t) : s = t := by
  induction s generalizing t with
  | leaf a =>
      cases t with
      | leaf b => exact congrArg leaf heq
      | node l r =>
          exact absurd heq
            (hst a (by simp [leaves]) (eval node l, eval node r) (by simp [pairs]))
  | node l r ihl ihr =>
      cases t with
      | leaf b =>
          exact absurd heq.symm
            (hts b (by simp [leaves]) (eval node l, eval node r) (by simp [pairs]))
      | node l' r' =>
          have hchildren := hpairs (eval node l, eval node r) (by simp [pairs])
            (eval node l', eval node r') (by simp [pairs]) heq
          obtain ⟨hl, hr⟩ := Prod.mk.inj hchildren
          have hleft : l = l' := ihl
            (fun p hp q hq => hpairs p (by simp [pairs, hp]) q (by simp [pairs, hq]))
            (fun a ha p hp => hst a (by simp [leaves, ha]) p (by simp [pairs, hp]))
            (fun a ha p hp => hts a (by simp [leaves, ha]) p (by simp [pairs, hp])) hl
          have hright : r = r' := ihr
            (fun p hp q hq => hpairs p (by simp [pairs, hp]) q (by simp [pairs, hq]))
            (fun a ha p hp => hst a (by simp [leaves, ha]) p (by simp [pairs, hp]))
            (fun a ha p hp => hts a (by simp [leaves, ha]) p (by simp [pairs, hp])) hr
          rw [hleft, hright]

/-! ## Equal trees -/

theorem leaves_nextLayer : ∀ layer : List (FreeTree α),
    ∃ extra ⊆ layer.flatMap leaves,
      (nextLayer FreeTree.node layer).flatMap leaves = layer.flatMap leaves ++ extra
  | [] => ⟨[], by simp [nextLayer]⟩
  | [a] => ⟨a.leaves, by simp [nextLayer, leaves]⟩
  | a :: b :: rest => by
      obtain ⟨extra, hextra, hleaves⟩ := leaves_nextLayer rest
      refine ⟨extra, fun x hx => ?_, ?_⟩
      · simp only [List.flatMap_cons, List.mem_append]
        exact .inr (.inr (hextra hx))
      · simp only [nextLayer, List.flatMap_cons, leaves, hleaves, List.append_assoc]

theorem leaves_topLayer (fuel : ℕ) (layer : List (FreeTree α)) :
    ∃ extra ⊆ layer.flatMap leaves,
      (topLayer FreeTree.node fuel layer).flatMap leaves = layer.flatMap leaves ++ extra := by
  induction fuel generalizing layer with
  | zero => exact ⟨[], List.nil_subset _, (List.append_nil _).symm⟩
  | succ fuel ih =>
      by_cases h : layer.length ≤ 1
      · exact ⟨[], List.nil_subset _, by simp [h]⟩
      · obtain ⟨extra, hextra, hleaves⟩ := leaves_nextLayer layer
        obtain ⟨extra', hextra', hleaves'⟩ := ih (nextLayer FreeTree.node layer)
        rw [hleaves] at hextra' hleaves'
        refine ⟨extra ++ extra', List.append_subset.2 ⟨hextra, ?_⟩, ?_⟩
        · intro x hx
          rcases List.mem_append.1 (hextra' hx) with hx | hx
          exacts [hx, hextra hx]
        · rw [topLayer_succ _ (Nat.not_le.1 h), hleaves', List.append_assoc]

/-- The leaves of the tree are the list, followed by repetitions. -/
theorem leaves_ofLeaves (xs : List α) :
    ∃ extra ⊆ xs, (ofLeaves xs).flatMap leaves = xs ++ extra := by
  have hxs : (xs.map FreeTree.leaf).flatMap leaves = xs := by
    induction xs with
    | nil => rfl
    | cons x xs ih => rw [List.map_cons, List.flatMap_cons, ih]; rfl
  have hleaves := leaves_topLayer xs.length (xs.map FreeTree.leaf)
  rwa [hxs] at hleaves

/-- The tree over some leaves: its value is the root, its leaves and pairs are those of the
reduction. -/
theorem exists_ofLeaves (node : α → α → α) {xs : List α} (hne : xs ≠ []) :
    ∃ t, ofLeaves xs = [t] ∧ topLayer node xs.length xs = [eval node t] ∧ t.leaves ⊆ xs ∧
      pairs node t ⊆ treePairs node xs.length xs := by
  obtain ⟨t, ht⟩ := List.length_eq_one_iff.1 (length_ofLeaves hne)
  obtain ⟨extra, hextra, hleaves⟩ := leaves_ofLeaves xs
  refine ⟨t, ht, ?_, ?_, pairs_ofLeaves_subset node xs t (by simp [ht])⟩
  · rw [← map_eval_ofLeaves, ht, List.map_singleton]
  · rw [ht, List.flatMap_singleton] at hleaves
    rw [hleaves]
    exact List.append_subset.2 ⟨List.Subset.refl _, hextra⟩

theorem eq_of_ofLeaves_eq {xs ys : List α} (h : ofLeaves xs = ofLeaves ys)
    (hlen : xs.length = ys.length) : xs = ys := by
  obtain ⟨extra, -, hxs⟩ := leaves_ofLeaves xs
  obtain ⟨extra', -, hys⟩ := leaves_ofLeaves ys
  rw [h, hys] at hxs
  exact (List.append_inj hxs hlen.symm).1.symm

/-- A list without repetitions is the shortest with its tree. -/
theorem length_le_of_ofLeaves_eq {xs ys : List α} (h : ofLeaves xs = ofLeaves ys)
    (hnodup : ys.Nodup) : ys.length ≤ xs.length := by
  obtain ⟨extra, hextra, hxs⟩ := leaves_ofLeaves xs
  obtain ⟨extra', -, hys⟩ := leaves_ofLeaves ys
  rw [h, hys] at hxs
  by_contra hle
  have hlt : xs.length < ys.length := Nat.not_le.1 hle
  have htake : ys.take xs.length = xs := by
    have := congrArg (List.take xs.length) hxs
    rwa [List.take_append_of_le_length (Nat.le_of_lt hlt), List.take_left] at this
  have hdrop : ys.drop xs.length ++ extra' = extra := by
    have := congrArg (List.drop xs.length) hxs
    rwa [List.drop_append_of_le_length (Nat.le_of_lt hlt), List.drop_left] at this
  have hdisjoint : List.Disjoint (ys.take xs.length) (ys.drop xs.length) :=
    List.disjoint_take_drop hnodup (Nat.le_refl _)
  -- the first element of `ys` after `xs` repeats an element of `xs`
  have hmem : ys[xs.length] ∈ ys.drop xs.length := by
    rw [List.drop_eq_getElem_cons hlt]
    exact List.mem_cons_self
  have hrepeat : ys[xs.length] ∈ xs := hextra (hdrop ▸ List.mem_append_left _ hmem)
  exact hdisjoint (htake.symm ▸ hrepeat) hmem

end FreeTree

end UniverEscrow.Lib
