import UniverEscrow.Merkle.InclusionProof

/-!
# The inclusion verifier

The verifier takes plain values and fails closed on every shape it does not expect.  What it
accepts is exactly the genuine paths of the tree, from a node of any layer; the leaf index and
the leaf count of the matrix take no part in it.
-/

namespace UniverEscrow.Merkle

open UniverEscrow.Js UniverEscrow.Lib

structure ZkInclusionReceipt where
  verified : Bool
  computedRootHash : JsValue

namespace ZkInclusionVerifier

def failClosedReceipt (computedRootHash : JsValue) : ZkInclusionReceipt :=
  ⟨false, computedRootHash⟩

/-- Sibling and marker of one level; `none` where the loop returns. -/
def level? (sibling marker : JsValue) : Option (Bool × String) :=
  match sibling with
  | .str s =>
      if !isHex64 s then none
      else if marker.isStr "R" then some (true, s)
      else if marker.isStr "L" then some (false, s)
      else none
  | _ => none

variable (sha256 : Sha256)

/-- The hash after the loop; `none` where the loop returns. -/
def foldLevels : String → List (JsValue × JsValue) → Option String
  | hash, [] => some hash
  | hash, (sibling, marker) :: levels =>
      match level? sibling marker with
      | none => none
      | some (true, s) => foldLevels (merkleNode sha256 s hash) levels
      | some (false, s) => foldLevels (merkleNode sha256 hash s) levels

def verifyPath (leafHash merkleRootHash : String) (siblings leftRight : List JsValue) :
    ZkInclusionReceipt :=
  if siblings.length ≠ leftRight.length then failClosedReceipt merkleRootHash
  else
    match foldLevels sha256 leafHash (siblings.zip leftRight) with
    | none => failClosedReceipt merkleRootHash
    | some hash => ⟨hash = merkleRootHash, hash⟩

def verify (leafHash merkleRootHash proof : JsValue) : ZkInclusionReceipt :=
  match leafHash, merkleRootHash with
  | .str leaf, .str root =>
      if !isHex64 leaf || !isHex64 root then failClosedReceipt merkleRootHash
      else
        match proof.get "siblings", proof.get "leftRight" with
        | .arr siblings, .arr leftRight => verifyPath sha256 leaf root siblings leftRight
        | _, _ => failClosedReceipt merkleRootHash
  | _, _ => failClosedReceipt merkleRootHash

/-! ## The path of a matrix -/

def levels? : List (JsValue × JsValue) → Option (List (Bool × String))
  | [] => some []
  | (sibling, marker) :: levels => do
      let step ← level? sibling marker
      let path ← levels? levels
      return step :: path

/-- The path of a matrix of the right shape. -/
def path? (proof : JsValue) : Option (List (Bool × String)) :=
  match proof.get "siblings", proof.get "leftRight" with
  | .arr siblings, .arr leftRight =>
      if siblings.length = leftRight.length then levels? (siblings.zip leftRight) else none
  | _, _ => none

/-- The texts hashed for a matrix of the right shape. -/
def hashedTexts (leafHash proof : JsValue) : List String :=
  match leafHash, path? proof with
  | .str leaf, some path => pathTexts sha256 leaf path
  | _, _ => []

variable {sha256}

theorem foldLevels_eq (hash : String) (levels : List (JsValue × JsValue)) :
    foldLevels sha256 hash levels =
      (levels? levels).map (PairTree.climb (merkleNode sha256) hash) := by
  induction levels generalizing hash with
  | nil => rfl
  | cons level levels ih =>
      obtain ⟨sibling, marker⟩ := level
      rw [foldLevels, levels?]
      cases level? sibling marker with
      | none => rfl
      | some step =>
          obtain ⟨right, s⟩ := step
          cases right with
          | true =>
              simp only [ih]
              cases levels? levels <;> rfl
          | false =>
              simp only [ih]
              cases levels? levels <;> rfl

theorem verify_of_path? {leaf root : String} {proof : JsValue} {path : List (Bool × String)}
    (hleaf : isHex64 leaf = true) (hroot : isHex64 root = true) (hpath : path? proof = some path) :
    verify sha256 leaf root proof =
      ⟨PairTree.climb (merkleNode sha256) leaf path = root,
        .str (PairTree.climb (merkleNode sha256) leaf path)⟩ := by
  unfold path? at hpath
  simp only [verify, hleaf, hroot, Bool.not_true, Bool.or_self, Bool.false_eq_true, if_false]
  split at hpath
  · split_ifs at hpath with hlen
    simp [verifyPath, hlen, foldLevels_eq, hpath]
  · cases hpath

theorem verified_iff {leafHash proof : JsValue} {root : String} (hroot : isHex64 root = true) :
    (verify sha256 leafHash root proof).verified = true ↔
      ∃ leaf path, leafHash = .str leaf ∧ isHex64 leaf = true ∧ path? proof = some path ∧
        PairTree.climb (merkleNode sha256) leaf path = root := by
  cases leafHash with
  | str leaf =>
      by_cases hleaf : isHex64 leaf = true
      · simp only [verify, hleaf, hroot, Bool.not_true, Bool.or_self, Bool.false_eq_true, if_false,
          path?, verifyPath, foldLevels_eq, JsValue.str.injEq, exists_and_left, exists_eq_left',
          true_and]
        split
        · rename_i siblings leftRight _ _
          by_cases hlen : siblings.length = leftRight.length
          · simp only [hlen, ne_eq, not_true_eq_false, if_false, if_true]
            cases levels? (siblings.zip leftRight) with
            | none => simp [failClosedReceipt]
            | some path => simp
          · simp [hlen, failClosedReceipt]
        · simp [failClosedReceipt]
      · simp [verify, hleaf, failClosedReceipt]
  | _ => simp [verify, failClosedReceipt]

/-! ## What the verifier accepts -/

/-- The markers lead down from the root to a node, the siblings are those of the nodes passed,
and the node is the value the path starts from.  A path longer than the tree is high reaches a
leaf that its first steps hash up to. -/
def GenuinePath (sha256 : Sha256) (leaves : List String) (leafHash : String)
    (path : List (Bool × String)) : Prop :=
  let layers := (MerkleTree.new sha256 leaves).layers
  let below := path.take (path.length - (layers.length - 1))
  let above := path.drop (path.length - (layers.length - 1))
  let reached := layers.drop (layers.length - 1 - above.length)
  ∃ i, PairTree.Fits reached i (above.map Prod.fst) ∧
    above.map Prod.snd = proofSiblings reached i ∧
    (reached.headD [])[i]? = some (PairTree.climb (merkleNode sha256) leafHash below)

theorem climb_eq_root_iff {leaves : List String} (hne : leaves ≠ []) (hhex : HexLeaves leaves)
    {leafHash : String} {path : List (Bool × String)}
    (hfree : CollisionFreeOn sha256
      (hashedNodes sha256 leaves ++ pathTexts sha256 leafHash path)) :
    PairTree.climb (merkleNode sha256) leafHash path = (MerkleTree.new sha256 leaves).getRoot ↔
      GenuinePath sha256 leaves leafHash path := by
  have htower := tower_layers sha256 hne
  have hinj := injectiveOnPairs_layers hne hhex hfree
  unfold GenuinePath
  simp only
  generalize hlayers : (MerkleTree.new sha256 leaves).layers = layers at *
  set k := path.length - (layers.length - 1) with hk
  have hpos := htower.length_pos
  have habove : (path.drop k).length ≤ layers.length - 1 := by
    rw [List.length_drop]
    omega
  set j := layers.length - 1 - (path.drop k).length with hj
  have hreached := htower.drop (j := j) (by omega)
  have hlen : (layers.drop j).length - 1 = (path.drop k).length := by
    rw [List.length_drop]
    omega
  have hsplit : PairTree.climb (merkleNode sha256) leafHash path =
      PairTree.climb (merkleNode sha256)
        (PairTree.climb (merkleNode sha256) leafHash (path.take k)) (path.drop k) := by
    rw [← PairTree.climb_append, List.take_append_drop]
  have hpairs : PairTree.climbPairs (merkleNode sha256) leafHash path =
      PairTree.climbPairs (merkleNode sha256) leafHash (path.take k) ++
        PairTree.climbPairs (merkleNode sha256)
          (PairTree.climb (merkleNode sha256) leafHash (path.take k)) (path.drop k) := by
    rw [← PairTree.climbPairs_append, List.take_append_drop]
  constructor
  · intro hroot
    obtain ⟨i, hfits⟩ := hreached.exists_fits ((path.drop k).map Prod.fst)
      (by rw [List.length_map, hlen])
    rw [hsplit] at hroot
    obtain ⟨hnode, hsiblings⟩ := hreached.of_climb_eq "" hfits (by
      intro p hp q hq
      refine hinj p ?_ q ?_
      · rw [List.dropLast_drop_eq_drop_dropLast] at hp
        obtain ⟨layer, hlayer, hmem⟩ := List.mem_flatMap.1 hp
        exact List.mem_flatMap.2 ⟨layer, List.drop_subset _ _ hlayer, hmem⟩
      · rw [hpairs]
        exact List.mem_append_right _ hq) hroot
    exact ⟨i, hfits, by rw [hsiblings, proofSiblings_eq_siblings], hnode⟩
  · rintro ⟨i, hfits, hsiblings, hnode⟩
    rw [hsplit]
    have hclimb := hreached.climb_siblings "" hfits hnode
    rwa [← proofSiblings_eq_siblings, ← hsiblings, ← List.zip_of_prod rfl rfl] at hclimb

/-- The leaf count of the matrix is that of the tree, and the leaf at its index is the value. -/
def NamesLeaf (leaves : List String) (leafHash proof : JsValue) : Prop :=
  proof.get "leafCount" = .num (.ofInt leaves.length) ∧
    ∃ i : Fin leaves.length, proof.get "leafIndex" = .num (.ofInt i) ∧
      leafHash = .str (leaves.get i)

/-- The matrix is a genuine path of its leaf hash. -/
def GenuineMatrix (sha256 : Sha256) (leaves : List String) (leafHash proof : JsValue) : Prop :=
  ∃ leaf path, leafHash = .str leaf ∧ isHex64 leaf = true ∧ path? proof = some path ∧
    GenuinePath sha256 leaves leaf path

theorem verified_iff_genuine {leaves : List String} (hne : leaves ≠ []) (hhex : HexLeaves leaves)
    {leafHash proof : JsValue}
    (hfree : CollisionFreeOn sha256
      (hashedNodes sha256 leaves ++ hashedTexts sha256 leafHash proof)) :
    (verify sha256 leafHash (MerkleTree.new sha256 leaves).getRoot proof).verified = true ↔
      GenuineMatrix sha256 leaves leafHash proof := by
  rw [verified_iff (isHex64_getRoot sha256 hne hhex)]
  have hgenuine {leaf : String} {path : List (Bool × String)} (hleaf : leafHash = .str leaf)
      (hpath : path? proof = some path) :
      PairTree.climb (merkleNode sha256) leaf path = (MerkleTree.new sha256 leaves).getRoot ↔
        GenuinePath sha256 leaves leaf path := by
    apply climb_eq_root_iff hne hhex
    simpa [hashedTexts, hleaf, hpath] using hfree
  constructor
  · rintro ⟨leaf, path, hleaf, hhexLeaf, hpath, hclimb⟩
    exact ⟨leaf, path, hleaf, hhexLeaf, hpath, (hgenuine hleaf hpath).1 hclimb⟩
  · rintro ⟨leaf, path, hleaf, hhexLeaf, hpath, hopens⟩
    exact ⟨leaf, path, hleaf, hhexLeaf, hpath, (hgenuine hleaf hpath).2 hopens⟩

/-- A receipt for the root of a tree is sound exactly unless the matrix is a genuine path of
some node whose leaf index and leaf count do not name that node as a leaf. -/
theorem receipt_sound_iff (sha256 : Sha256) (leaves : List String) (leafHash proof : JsValue)
    (hne : leaves ≠ []) (hhex : HexLeaves leaves)
    (hfree : CollisionFreeOn sha256
      (hashedNodes sha256 leaves ++ hashedTexts sha256 leafHash proof)) :
    ((verify sha256 leafHash (MerkleTree.new sha256 leaves).getRoot proof).verified = true →
        NamesLeaf leaves leafHash proof) ↔
      ¬ (GenuineMatrix sha256 leaves leafHash proof ∧ ¬ NamesLeaf leaves leafHash proof) := by
  rw [verified_iff_genuine hne hhex hfree]
  tauto

def sampleMatrix : JsValue :=
  .obj [("siblings", .arr [firstLeaf]), ("leftRight", .arr ["R"]), ("leafIndex", .num (.ofInt 1)),
    ("leafCount", .num (.ofInt 2))]

theorem receipt_sound_iff_second :
    ((verify treeSha256 secondLeaf (MerkleTree.new treeSha256 sampleLeaves).getRoot
        sampleMatrix).verified = true → NamesLeaf sampleLeaves secondLeaf sampleMatrix) ↔
      ¬ (GenuineMatrix treeSha256 sampleLeaves secondLeaf sampleMatrix ∧
        ¬ NamesLeaf sampleLeaves secondLeaf sampleMatrix) :=
  receipt_sound_iff treeSha256 sampleLeaves secondLeaf sampleMatrix (by decide)
    (by decide +kernel) (by decide +kernel)

/-- The empty path, with an index and a leaf count of no tree of two leaves. -/
def emptyMatrix : JsValue :=
  .obj [("siblings", .arr []), ("leftRight", .arr []), ("leafIndex", .num (.ofInt 7)),
    ("leafCount", .num (.ofInt 99))]

/-- The root is accepted as a leaf of its own tree. -/
theorem root_accepted_as_leaf :
    HexLeaves sampleLeaves ∧
      CollisionFreeOn treeSha256 (hashedNodes treeSha256 sampleLeaves ++ hashedTexts treeSha256
        (MerkleTree.new treeSha256 sampleLeaves).getRoot emptyMatrix) ∧
      (verify treeSha256 (MerkleTree.new treeSha256 sampleLeaves).getRoot
        (MerkleTree.new treeSha256 sampleLeaves).getRoot emptyMatrix).verified = true ∧
      (MerkleTree.new treeSha256 sampleLeaves).getRoot ∉ sampleLeaves ∧
      ¬ NamesLeaf sampleLeaves (MerkleTree.new treeSha256 sampleLeaves).getRoot emptyMatrix := by
  have hnew : (MerkleTree.new treeSha256 sampleLeaves).getRoot ∉ sampleLeaves := by
    decide +kernel
  refine ⟨by decide +kernel, by decide +kernel, by decide +kernel, hnew, ?_⟩
  rintro ⟨-, i, -, hleaf⟩
  apply hnew
  rw [JsValue.str.inj hleaf]
  exact List.get_mem sampleLeaves i

end ZkInclusionVerifier

end UniverEscrow.Merkle
