import UniverEscrow.Enclave.CryptoService
import UniverEscrow.Lib.PairPath
import UniverEscrow.Merkle.LedgerMerkle

/-!
# Inclusion proofs

The prover and the verifier of the tree, as climbs of `Lib.PairPath`: the sides are the parities
of the leaf index.  A node text has exactly two bars besides those of its children, so where the
children have none it determines both.
-/

namespace UniverEscrow.Merkle

open UniverEscrow.Enclave UniverEscrow.Lib

variable (sha256 : Sha256)

/-- `/^[0-9a-f]{64}$/i`. -/
def isHex64 (s : String) : Bool := s.toList.length = 64 && s.toList.all isHexChar

def HexLeaves (leaves : List String) : Prop := ∀ s ∈ leaves, isHex64 s = true

instance (leaves : List String) : Decidable (HexLeaves leaves) :=
  inferInstanceAs (Decidable (∀ s ∈ leaves, _))

/-- The texts hashed on the way up. -/
def pathTexts (leafHash : String) (path : List (Bool × String)) : List String :=
  (PairTree.climbPairs (merkleNode sha256) leafHash path).map fun p => merkleNodeText p.1 p.2

def MerkleProof.path (proof : MerkleProof) : List (Bool × String) :=
  (PairTree.parities proof.siblings.length proof.leafIndex).zip proof.siblings

theorem isHexChar_of_isLowerHex {c : Char} (h : isLowerHex c = true) : isHexChar c = true := by
  simp only [isLowerHex, isHexChar, Bool.or_eq_true] at h ⊢
  exact .inl h

@[simp] theorem isHex64_sha256Hex (data : String) : isHex64 (sha256Hex sha256 data) = true := by
  have h := (sha256 data).isHex
  simp only [isHexDigest, Bool.and_eq_true, decide_eq_true_eq, List.all_eq_true] at h
  simp only [isHex64, Bool.and_eq_true, decide_eq_true_eq, List.all_eq_true]
  exact ⟨h.1, fun c hc => isHexChar_of_isLowerHex (h.2 c hc)⟩

theorem HexLeaves.digestLength {leaves : List String} (h : HexLeaves leaves) :
    DigestLength leaves := by
  intro s hs
  have := h s hs
  simp only [isHex64, Bool.and_eq_true, decide_eq_true_eq] at this
  exact this.1

theorem bar_not_mem_of_isHex64 {s : String} (h : isHex64 s = true) : '|' ∉ s.toList := by
  intro hbar
  simp only [isHex64, Bool.and_eq_true, List.all_eq_true] at h
  have := h.2 _ hbar
  revert this
  decide

/-! ## The tree as a tower of layers -/

theorem foldProof_eq_climb (hash : String) (siblings : List String) (idx : ℕ) :
    foldProof sha256 hash siblings idx = PairTree.climb (merkleNode sha256) hash
      ((PairTree.parities siblings.length idx).zip siblings) := by
  induction siblings generalizing hash idx with
  | nil => rfl
  | cons sibling siblings ih =>
      rw [foldProof, List.length_cons, PairTree.parities, List.zip_cons_cons, PairTree.climb, ih]
      by_cases hodd : idx % 2 = 1 <;> simp [PairTree.combine, PairTree.orient, hodd]

theorem proofSiblings_eq_siblings :
    ∀ (layers : List (List String)) (idx : ℕ),
      proofSiblings layers idx = PairTree.siblings "" layers idx
  | [], _ => rfl
  | [_], _ => rfl
  | layer :: next :: above, idx => by
      rw [proofSiblings, PairTree.siblings, proofSiblings_eq_siblings (next :: above)]
      · rfl
      · simp
      · simp

variable {leaves : List String}

theorem layers_new (hne : leaves ≠ []) :
    (MerkleTree.new sha256 leaves).layers =
      PairTree.buildLayers (merkleNode sha256) leaves.length leaves := by
  have hlen : leaves.length ≠ 0 := fun h => hne (List.length_eq_zero_iff.1 h)
  simp [MerkleTree.new, hlen]

theorem headD_layers_new (hne : leaves ≠ []) :
    (MerkleTree.new sha256 leaves).layers.headD [] = leaves := by
  obtain ⟨above, habove⟩ :=
    PairTree.buildLayers_eq_cons (merkleNode sha256) leaves.length leaves
  rw [layers_new sha256 hne, habove]
  rfl

theorem tower_layers (hne : leaves ≠ []) :
    PairTree.Tower (merkleNode sha256) (MerkleTree.new sha256 leaves).getRoot
      (MerkleTree.new sha256 leaves).layers := by
  rw [layers_new sha256 hne]
  exact PairTree.tower_buildLayers _ (Nat.le_succ _) hne
    (topLayer_eq_singleton_getRoot sha256 hne)

theorem hashedNodes_eq_map (hne : leaves ≠ []) :
    hashedNodes sha256 leaves =
      ((MerkleTree.new sha256 leaves).layers.dropLast.flatMap PairTree.layerPairs).map
        fun p => merkleNodeText p.1 p.2 := by
  have hlen : leaves.length ≠ 0 := fun h => hne (List.length_eq_zero_iff.1 h)
  rw [layers_new sha256 hne, PairTree.flatMap_layerPairs_dropLast, hashedNodes, if_neg hlen]

variable {sha256}

theorem isHex64_getRoot (sha256 : Sha256) (hne : leaves ≠ []) (hhex : HexLeaves leaves) :
    isHex64 (MerkleTree.new sha256 leaves).getRoot = true := by
  have hhexNode (a b : String) : isHex64 (merkleNode sha256 a b) = true :=
    isHex64_sha256Hex sha256 _
  have htop := PairTree.forall_mem_topLayer (P := fun s : String => isHex64 s = true) hhexNode
    leaves.length hhex
  rw [topLayer_eq_singleton_getRoot sha256 hne] at htop
  exact htop _ List.mem_cons_self

/-! ## Completeness -/

@[simp] theorem length_proofSiblings (layers : List (List String)) (i : ℕ) :
    (proofSiblings layers i).length = layers.length - 1 := by
  rw [proofSiblings_eq_siblings, PairTree.length_siblings]

theorem fits_leafIndex (sha256 : Sha256) {i : ℕ} (hi : i < leaves.length) :
    PairTree.Fits (MerkleTree.new sha256 leaves).layers i
      (PairTree.parities ((MerkleTree.new sha256 leaves).layers.length - 1) i) := by
  have hne : leaves ≠ [] := List.length_pos_iff.1 (Nat.zero_lt_of_lt hi)
  apply (tower_layers sha256 hne).fits_parities
  rwa [headD_layers_new sha256 hne]

theorem climb_proofSiblings (sha256 : Sha256) {i : ℕ} (hi : i < leaves.length) :
    PairTree.climb (merkleNode sha256) (leaves.get ⟨i, hi⟩)
        ((PairTree.parities ((MerkleTree.new sha256 leaves).layers.length - 1) i).zip
          (proofSiblings (MerkleTree.new sha256 leaves).layers i)) =
      (MerkleTree.new sha256 leaves).getRoot := by
  have hne : leaves ≠ [] := List.length_pos_iff.1 (Nat.zero_lt_of_lt hi)
  rw [proofSiblings_eq_siblings]
  apply (tower_layers sha256 hne).climb_siblings "" (fits_leafIndex sha256 hi)
  rw [headD_layers_new sha256 hne, List.getElem?_eq_getElem hi]
  rfl

theorem verifyProof_proofSiblings (sha256 : Sha256) {i : ℕ} (hi : i < leaves.length)
    (leafCount : ℕ) :
    MerkleTree.verifyProof sha256 (leaves.get ⟨i, hi⟩)
        ⟨proofSiblings (MerkleTree.new sha256 leaves).layers i, i, leafCount⟩ =
      (MerkleTree.new sha256 leaves).getRoot := by
  rw [MerkleTree.verifyProof, foldProof_eq_climb, length_proofSiblings]
  exact climb_proofSiblings sha256 hi

theorem isHex64_of_mem_proofSiblings (sha256 : Sha256) (hhex : HexLeaves leaves) {i : ℕ}
    (hi : i < leaves.length) :
    ∀ s ∈ proofSiblings (MerkleTree.new sha256 leaves).layers i, isHex64 s = true := by
  have hne : leaves ≠ [] := List.length_pos_iff.1 (Nat.zero_lt_of_lt hi)
  have hhexNode (a b : String) : isHex64 (merkleNode sha256 a b) = true :=
    isHex64_sha256Hex sha256 _
  have hlayers : ∀ layer ∈ (MerkleTree.new sha256 leaves).layers, ∀ s ∈ layer,
      isHex64 s = true := by
    rw [layers_new sha256 hne]
    exact PairTree.forall_mem_buildLayers (P := fun s : String => isHex64 s = true) hhexNode _ hhex
  rw [proofSiblings_eq_siblings]
  exact PairTree.forall_mem_siblings (P := fun s : String => isHex64 s = true) ""
    (fits_leafIndex sha256 hi) hlayers

/-- The loop that collects the proofs of all records. -/
theorem filterMap_getProof {β γ : Type*} (records : List β) (leafOf : β → String)
    (entry : β → String → MerkleProof → γ) :
    ((records.zip (records.map leafOf)).zipIdx.filterMap fun ((record, leaf), i) =>
        ((MerkleTree.new sha256 (records.map leafOf)).getProof i).map fun proof =>
          entry record leaf proof) =
      records.zipIdx.map fun (record, i) => entry record (leafOf record)
        ⟨proofSiblings (MerkleTree.new sha256 (records.map leafOf)).layers i, i,
          records.length⟩ := by
  have hzip : records.zip (records.map leafOf) = records.map fun r => (r, leafOf r) := by
    simpa using List.zip_map' (f := id) (g := leafOf) (l := records)
  rw [hzip, List.zipIdx_map, List.filterMap_map]
  apply List.filterMap_eq_map_iff_forall_eq_some.2
  rintro ⟨record, i⟩ hmem
  have hi : i < records.length := (List.mem_zipIdx' hmem).1
  simp [MerkleTree.getProof, MerkleTree.new, hi]

/-- The proof of every leaf leads to the root, with one sibling for each layer above the
leaves. -/
theorem verifyProof_getProof (sha256 : Sha256) (leaves : List String) (i : Fin leaves.length) :
    ∃ proof, (MerkleTree.new sha256 leaves).getProof i = some proof ∧
      MerkleTree.verifyProof sha256 (leaves.get i) proof =
        (MerkleTree.new sha256 leaves).getRoot ∧
      proof.siblings.length = (MerkleTree.new sha256 leaves).layers.length - 1 := by
  exact ⟨_, if_pos i.isLt, verifyProof_proofSiblings sha256 i.isLt _, length_proofSiblings _ _⟩

/-! ## Binding -/

/-- Children without a bar are recovered from the node text, against any other children. -/
theorem merkleNodeText_inj_of_no_bar {p q : String × String} (h1 : '|' ∉ p.1.toList)
    (h2 : '|' ∉ p.2.toList) (h : merkleNodeText p.1 p.2 = merkleNodeText q.1 q.2) : p = q := by
  have hchars : p.1.toList ++ '|' :: p.2.toList = q.1.toList ++ '|' :: q.2.toList := by
    have := congrArg String.toList h
    simpa [merkleNodeText, String.toList_append] using this
  obtain ⟨hl, -, hr⟩ := (List.append_cons_inj_of_notMem h1 h2).1 hchars
  exact Prod.ext (String.toList_inj.1 hl) (String.toList_inj.1 hr)

theorem injectiveOnPairs_layers (hne : leaves ≠ []) (hhex : HexLeaves leaves)
    {pairs : List (String × String)}
    (hfree : CollisionFreeOn sha256
      (hashedNodes sha256 leaves ++ pairs.map fun p => merkleNodeText p.1 p.2)) :
    PairTree.InjectiveOnPairs (merkleNode sha256)
      ((MerkleTree.new sha256 leaves).layers.dropLast.flatMap PairTree.layerPairs) pairs := by
  intro p hp q hq hnode
  have hmemp : merkleNodeText p.1 p.2 ∈ hashedNodes sha256 leaves := by
    rw [hashedNodes_eq_map sha256 hne]
    exact List.mem_map_of_mem hp
  have htext := hfree _ (List.mem_append_left _ hmemp) _
    (List.mem_append_right _ (List.mem_map_of_mem hq)) hnode
  rw [layers_new sha256 hne, PairTree.flatMap_layerPairs_dropLast] at hp
  have hhexNode (a b : String) : isHex64 (merkleNode sha256 a b) = true :=
    isHex64_sha256Hex sha256 _
  obtain ⟨h1, h2⟩ := PairTree.forall_mem_treePairs (P := fun s : String => isHex64 s = true)
    hhexNode hhex p hp
  exact merkleNodeText_inj_of_no_bar (bar_not_mem_of_isHex64 h1) (bar_not_mem_of_isHex64 h2) htext

/-- A path with a sibling for each layer above the leaves that leads to the root starts at the leaf
at its index and goes along that leaf's own siblings. -/
theorem of_verifyProof_eq_root {leafHash : String} {proof : MerkleProof} (hhex : HexLeaves leaves)
    (hindex : proof.leafIndex < leaves.length)
    (hlen : proof.siblings.length = (MerkleTree.new sha256 leaves).layers.length - 1)
    (hfree : CollisionFreeOn sha256
      (hashedNodes sha256 leaves ++ pathTexts sha256 leafHash proof.path))
    (hroot : MerkleTree.verifyProof sha256 leafHash proof =
      (MerkleTree.new sha256 leaves).getRoot) :
    leafHash = leaves.get ⟨proof.leafIndex, hindex⟩ ∧
      proof.siblings = proofSiblings (MerkleTree.new sha256 leaves).layers proof.leafIndex := by
  have hne : leaves ≠ [] := List.length_pos_iff.1 (Nat.zero_lt_of_lt hindex)
  have hsides : proof.path.map Prod.fst =
      PairTree.parities ((MerkleTree.new sha256 leaves).layers.length - 1) proof.leafIndex := by
    rw [← hlen]
    exact List.map_fst_zip (by simp)
  have hsiblings : proof.path.map Prod.snd = proof.siblings := List.map_snd_zip (by simp)
  rw [MerkleTree.verifyProof, foldProof_eq_climb] at hroot
  have hfits : PairTree.Fits (MerkleTree.new sha256 leaves).layers proof.leafIndex
      (proof.path.map Prod.fst) := by
    rw [hsides]
    exact fits_leafIndex sha256 hindex
  obtain ⟨hleaf, hpath⟩ := (tower_layers sha256 hne).of_climb_eq "" hfits
    (injectiveOnPairs_layers hne hhex hfree) hroot
  rw [headD_layers_new sha256 hne, List.getElem?_eq_getElem hindex] at hleaf
  exact ⟨(Option.some.inj hleaf).symm, by rw [← hsiblings, hpath, proofSiblings_eq_siblings]⟩

/-- Whatever the siblings, a proof with one of them for each layer above the leaves leads to the
root from no other value than the leaf at its index. -/
theorem leaf_of_verifyProof_eq_root (sha256 : Sha256) (leaves : List String) (leafHash : String)
    (proof : MerkleProof) (hhex : HexLeaves leaves) (hindex : proof.leafIndex < leaves.length)
    (hlen : proof.siblings.length = (MerkleTree.new sha256 leaves).layers.length - 1)
    (hfree : CollisionFreeOn sha256
      (hashedNodes sha256 leaves ++ pathTexts sha256 leafHash proof.path))
    (hroot : MerkleTree.verifyProof sha256 leafHash proof =
      (MerkleTree.new sha256 leaves).getRoot) :
    leafHash = leaves.get ⟨proof.leafIndex, hindex⟩ :=
  (of_verifyProof_eq_root hhex hindex hlen hfree hroot).1

def firstLeaf : String := "e9845d1809b292abbfa6e93b1fd1e7be6da0065d23af392017eecc0ab4d0ad0f"

def secondLeaf : String := "b2ff96642b087187598e416db9912019fb27ef02be1d0436fdc1ad7a3b28ae19"

def sampleLeaves : List String := [firstLeaf, secondLeaf]

/-- SHA-256 on the node texts of `sampleLeaves`, in this and in the other order. -/
def treeSha256 : Sha256 := fun text =>
  if text = merkleNodeText firstLeaf secondLeaf then
    ⟨"ec603f662e10e4e56d67ae67b3fd6751c7348b1c3fead9696858c5da3ef94dbb", by decide⟩
  else ⟨"071759a21557761daf01c02ddd2fc5162ac76e74aa6d2c2b71f912d01bf9f567", by decide⟩

def sampleProof : MerkleProof where
  siblings := [firstLeaf]
  leafIndex := 1
  leafCount := 2

theorem leaf_of_verifyProof_eq_root_second :
    secondLeaf = sampleLeaves.get ⟨sampleProof.leafIndex, by decide⟩ :=
  leaf_of_verifyProof_eq_root treeSha256 sampleLeaves secondLeaf sampleProof
    (by decide +kernel) (by decide) (by decide +kernel) (by decide +kernel) (by decide +kernel)

/-! ## Root and leaf count -/

/-- The root and the leaf count, which is what an audit compares, determine the leaves. -/
theorem root_and_count_eq_iff (sha256 : Sha256) (xs ys : List String) (hxs : HexLeaves xs)
    (hys : HexLeaves ys)
    (hfree : CollisionFreeOn sha256 (hashedNodes sha256 xs ++ hashedNodes sha256 ys)) :
    ((MerkleTree.new sha256 xs).getRoot = (MerkleTree.new sha256 ys).getRoot ∧
      (MerkleTree.new sha256 xs).getLeafCount = (MerkleTree.new sha256 ys).getLeafCount) ↔
      xs = ys := by
  constructor
  · rintro ⟨hroot, hcount⟩
    exact leaves_eq_of_getRoot_eq sha256 hcount hxs.digestLength hys.digestLength hfree hroot
  · rintro rfl
    exact ⟨rfl, rfl⟩

theorem root_and_count_eq_iff_reversed :
    ((MerkleTree.new treeSha256 sampleLeaves).getRoot =
        (MerkleTree.new treeSha256 sampleLeaves.reverse).getRoot ∧
      (MerkleTree.new treeSha256 sampleLeaves).getLeafCount =
        (MerkleTree.new treeSha256 sampleLeaves.reverse).getLeafCount) ↔
      sampleLeaves = sampleLeaves.reverse :=
  root_and_count_eq_iff treeSha256 sampleLeaves sampleLeaves.reverse (by decide +kernel)
    (by decide +kernel) (by decide +kernel)

end UniverEscrow.Merkle
