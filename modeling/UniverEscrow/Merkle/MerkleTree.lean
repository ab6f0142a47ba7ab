import UniverEscrow.Lib.PairTree
import UniverEscrow.Merkle.Sha256

/-!
# The ledger's Merkle tree

Leaves and nodes are texts; a node hashes the domain tag and its two children separated by
bars.  The tree is the duplicate-last tree of `Lib.PairTree` over that node function.
-/

namespace UniverEscrow.Merkle

open UniverEscrow.Lib

variable (sha256 : Sha256)

def merkleNodeText (left right : String) : String := "MERKLE_NODE|" ++ left ++ "|" ++ right

def merkleNode (left right : String) : String := sha256Hex sha256 (merkleNodeText left right)

structure MerkleTree where
  leaves : List String
  /-- `layers[0]` is the leaves, the last layer holds the root. -/
  layers : List (List String)

def MerkleTree.new (leaves : List String) : MerkleTree where
  leaves := leaves
  layers :=
    if leaves.length = 0 then [[sha256Hex sha256 ""]]
    else PairTree.buildLayers (merkleNode sha256) leaves.length leaves

def MerkleTree.getLeafCount (tree : MerkleTree) : ℕ := tree.leaves.length

def MerkleTree.getRoot (tree : MerkleTree) : String := (tree.layers.getLast?.getD []).headD ""

structure MerkleProof where
  siblings : List String
  leafIndex : ℕ
  leafCount : ℕ

/-- The sibling at one layer; a missing right sibling is the node itself. -/
def proofSibling (layer : List String) (idx : ℕ) : String :=
  let siblingIdx := if idx % 2 = 1 then idx - 1 else idx + 1
  (layer[siblingIdx]?).getD ((layer[idx]?).getD "")

/-- Walk the layers below the root, halving the index. -/
def proofSiblings : List (List String) → ℕ → List String
  | [], _ => []
  | [_], _ => []
  | layer :: layers, idx => proofSibling layer idx :: proofSiblings layers (idx / 2)

/-- `none` is the RangeError. -/
def MerkleTree.getProof (tree : MerkleTree) (leafIndex : ℕ) : Option MerkleProof :=
  if leafIndex < tree.leaves.length then
    some { siblings := proofSiblings tree.layers leafIndex
           leafIndex := leafIndex
           leafCount := tree.leaves.length }
  else none

/-- Fold a leaf hash up its siblings, the parity of the index deciding the side. -/
def foldProof : String → List String → ℕ → String
  | hash, [], _ => hash
  | hash, sibling :: siblings, idx =>
      let next := if idx % 2 = 1 then merkleNode sha256 sibling hash
        else merkleNode sha256 hash sibling
      foldProof next siblings (idx / 2)

def MerkleTree.verifyProof (leafHash : String) (proof : MerkleProof) : String :=
  foldProof sha256 leafHash proof.siblings proof.leafIndex

def hashedNodes (leaves : List String) : List String :=
  if leaves.length = 0 then [""]
  else (PairTree.treePairs (merkleNode sha256) leaves.length leaves).map
    fun p => merkleNodeText p.1 p.2

@[simp] theorem getLeafCount_new (leaves : List String) :
    (MerkleTree.new sha256 leaves).getLeafCount = leaves.length := rfl

theorem topLayer_eq_singleton_getRoot {leaves : List String} (hne : leaves ≠ []) :
    PairTree.topLayer (merkleNode sha256) leaves.length leaves =
      [(MerkleTree.new sha256 leaves).getRoot] := by
  have hpos := List.length_pos_iff.2 hne
  have hlen := PairTree.length_topLayer (merkleNode sha256) (Nat.le_succ leaves.length) hne
  obtain ⟨root, hroot⟩ := List.length_eq_one_iff.1 hlen
  have hlast : (PairTree.buildLayers (merkleNode sha256) leaves.length leaves).getLast? =
      some [root] := by
    rw [List.getLast?_eq_some_getLast (PairTree.buildLayers_ne_nil _ _ _)]
    exact congrArg some hroot
  simp [hroot, MerkleTree.getRoot, MerkleTree.new, hpos.ne', hlast]

/-! ## Binding -/

/-- Children of equal length are recovered from the node text. -/
theorem merkleNodeText_inj {l r l' r' : String} (hlen : l.toList.length = l'.toList.length)
    (h : merkleNodeText l r = merkleNodeText l' r') : l = l' ∧ r = r' := by
  have hchars : l.toList ++ '|' :: r.toList = l'.toList ++ '|' :: r'.toList := by
    have := congrArg String.toList h
    simpa [merkleNodeText, String.toList_append] using this
  obtain ⟨hl, hr⟩ := List.append_inj hchars hlen
  exact ⟨String.toList_inj.1 hl, String.toList_inj.1 (List.cons.inj hr).2⟩

/-- All nodes of a layer are as long as a digest. -/
def DigestLength (layer : List String) : Prop := ∀ s ∈ layer, s.toList.length = 64

theorem digestLength_topLayer (fuel : ℕ) {layer : List String} (h : DigestLength layer) :
    DigestLength (PairTree.topLayer (merkleNode sha256) fuel layer) := by
  apply PairTree.forall_mem_topLayer _ fuel h
  intro a b
  exact length_sha256Hex sha256 _

/-- The root of digests is a digest, also for no leaves. -/
theorem length_getRoot {leaves : List String} (h : DigestLength leaves) :
    (MerkleTree.new sha256 leaves).getRoot.toList.length = 64 := by
  by_cases hne : leaves = []
  · subst hne
    exact length_sha256Hex sha256 ""
  · have htop := digestLength_topLayer sha256 leaves.length h
    rw [topLayer_eq_singleton_getRoot sha256 hne] at htop
    exact htop _ List.mem_cons_self

theorem length_of_mem_treePairs {fuel : ℕ} {layer : List String} (hlayer : DigestLength layer)
    {p : String × String} (hp : p ∈ PairTree.treePairs (merkleNode sha256) fuel layer) :
    p.1.toList.length = 64 := by
  have hnode (a b : String) : (merkleNode sha256 a b).toList.length = 64 :=
    length_sha256Hex sha256 _
  have hpair := PairTree.forall_mem_treePairs (P := fun s : String => s.toList.length = 64)
    hnode hlayer p hp
  exact hpair.1

theorem mem_hashedNodes {leaves : List String} {p : String × String} (hne : leaves ≠ [])
    (hp : p ∈ PairTree.treePairs (merkleNode sha256) leaves.length leaves) :
    merkleNodeText p.1 p.2 ∈ hashedNodes sha256 leaves := by
  rw [hashedNodes, if_neg fun h => hne (List.length_eq_zero_iff.1 h)]
  exact List.mem_map.2 ⟨p, hp, rfl⟩

/-- Unless node texts collide, no two pairs of digests have one node. -/
theorem injectiveOnPairs_merkleNode {xs ys : List String} (hxne : xs ≠ []) (hyne : ys ≠ [])
    (hxs : DigestLength xs) (hys : DigestLength ys)
    (hfree : CollisionFreeOn sha256 (hashedNodes sha256 xs ++ hashedNodes sha256 ys)) :
    PairTree.InjectiveOnPairs (merkleNode sha256)
      (PairTree.treePairs (merkleNode sha256) xs.length xs)
      (PairTree.treePairs (merkleNode sha256) ys.length ys) := by
  intro p hp q hq hnode
  have htext := hfree _ (List.mem_append_left _ (mem_hashedNodes sha256 hxne hp)) _
    (List.mem_append_right _ (mem_hashedNodes sha256 hyne hq)) hnode
  have hlen := (length_of_mem_treePairs sha256 hxs hp).trans
    (length_of_mem_treePairs sha256 hys hq).symm
  obtain ⟨h1, h2⟩ := merkleNodeText_inj hlen htext
  exact Prod.ext h1 h2

/-- Two leaf lists of one length with digest-length leaves and the same root are equal, unless
two of the hashed node texts collide. -/
theorem leaves_eq_of_getRoot_eq {xs ys : List String} (hlen : xs.length = ys.length)
    (hxs : DigestLength xs) (hys : DigestLength ys)
    (hfree : CollisionFreeOn sha256 (hashedNodes sha256 xs ++ hashedNodes sha256 ys))
    (hroot : (MerkleTree.new sha256 xs).getRoot = (MerkleTree.new sha256 ys).getRoot) :
    xs = ys := by
  by_cases hnil : xs = []
  · subst hnil
    exact (List.length_eq_zero_iff.1 hlen.symm).symm
  · have hnil' : ys ≠ [] := by
      intro h
      rw [h] at hlen
      exact hnil (List.length_eq_zero_iff.1 hlen)
    apply PairTree.eq_of_topLayer_eq (merkleNode sha256) xs.length hlen
    · have hinj := injectiveOnPairs_merkleNode sha256 hnil hnil' hxs hys hfree
      rwa [← hlen] at hinj
    · have hy := topLayer_eq_singleton_getRoot sha256 hnil'
      rw [← hlen] at hy
      rw [topLayer_eq_singleton_getRoot sha256 hnil, hy, hroot]

end UniverEscrow.Merkle
