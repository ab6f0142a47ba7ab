import UniverEscrow.Js.SafeInteger
import UniverEscrow.Merkle.MerkleCompactor

/-!
# Proofs against checkpoints

The compactor accepts every proof against a checkpoint it still has: it folds the proof from the
active root and drops the result.  What it accepts is sound where the proof is one that the
checkpointed tree itself gives.
-/

namespace UniverEscrow.Merkle

open UniverEscrow.Js UniverEscrow.Lib

variable {sha256 : Sha256}

/-! ## Folding from a Number index -/

theorem isRightIndex_ofInt {i : ℕ} (hi : i ≤ 2 ^ 53) :
    isRightIndex (.ofInt i) = decide (i % 2 = 1) := by
  rw [JsNumber.ofInt_eq_fin (by rw [abs_of_nonneg (by omega)]; exact_mod_cast hi)]
  simp only [isRightIndex, Int.cast_natCast, Rat.den_natCast, Rat.num_natCast]
  rw [Bool.eq_iff_iff]
  simp only [decide_true, Bool.true_and, Bool.and_eq_true, decide_eq_true_eq]
  omega

/-- On an index within the safe integers the fold is that over its parities. -/
theorem foldNumbered_ofInt (hash : String) (siblings : List String) {i : ℕ} (hi : i ≤ 2 ^ 53) :
    foldNumbered sha256 hash siblings (.ofInt i) = foldProof sha256 hash siblings i := by
  induction siblings generalizing hash i with
  | nil => rfl
  | cons sibling siblings ih =>
      have habs : |(i : ℤ)| ≤ 2 ^ 53 := by
        rw [abs_of_nonneg (by omega)]
        exact_mod_cast hi
      have hhalf : ((JsNumber.ofInt i).div (.ofInt 2)).floor = .ofInt ((i / 2 : ℕ) : ℤ) := by
        rw [JsNumber.floor_div_ofInt habs (by norm_num) (by norm_num)]
        push_cast
        rfl
      rw [foldNumbered, foldProof, isRightIndex_ofInt hi, hhalf, ih _ (by omega)]
      simp only [decide_eq_true_eq]

/-! ## What is kept at a checkpoint -/

/-- The tree of at least one digest. -/
def DigestTree (sha256 : Sha256) (tree : MerkleTree) : Prop :=
  ∃ leaves, leaves ≠ [] ∧ HexLeaves leaves ∧ tree = MerkleTree.new sha256 leaves

/-- The active tree and every checkpointed one are trees of digests, and a record that is retained
has the root of its tree. -/
structure WellKept (sha256 : Sha256) (h : CompactorHistory) : Prop where
  activeTree : ∀ tree, h.compactor.activeTree = some tree → DigestTree sha256 tree
  retained : ∀ k record, h.compactor.historicalTrees.get? k = some record →
    h.compactor.activeTree ≠ none ∧ ∃ tree, h.checkpointed.get? k = some tree ∧
      DigestTree sha256 tree ∧ record.rootHash = tree.getRoot

theorem wellKept_new (config : CompactorConfig) : WellKept sha256 (.new config) where
  activeTree := fun _ h => nomatch h
  retained := fun _ _ h => nomatch h

theorem DigestTree.isHex64_getRoot {tree : MerkleTree} (h : DigestTree sha256 tree) :
    isHex64 tree.getRoot = true := by
  obtain ⟨leaves, hne, hhex, rfl⟩ := h
  exact UniverEscrow.Merkle.isHex64_getRoot sha256 hne hhex

theorem isHex64_text (d : HexDigest) : isHex64 d.text = true :=
  isHex64_sha256Hex (fun _ => d) ""

theorem hexLeaves_getActiveLeaves {c : MerkleCompactor}
    (h : ∀ tree, c.activeTree = some tree → DigestTree sha256 tree) :
    HexLeaves c.getActiveLeaves := by
  unfold MerkleCompactor.getActiveLeaves
  cases htree : c.activeTree with
  | none => exact fun _ hs => nomatch hs
  | some tree =>
      intro s hs
      obtain ⟨_, -, hroot⟩ := List.mem_filterMap.1 hs
      split_ifs at hroot
      rw [← Option.some.inj hroot]
      exact (h tree htree).isHex64_getRoot

theorem digestTree_addLeaf {c : MerkleCompactor}
    (h : ∀ tree, c.activeTree = some tree → DigestTree sha256 tree) (leaf : HexDigest) :
    ∀ tree, (c.addLeaf sha256 leaf).activeTree = some tree → DigestTree sha256 tree := by
  have hleaf : HexLeaves [leaf.text] := by
    intro s hs
    rw [List.mem_singleton.1 hs]
    exact isHex64_text leaf
  intro tree htree
  cases hactive : c.activeTree with
  | none =>
      refine ⟨[leaf.text], by simp, hleaf, ?_⟩
      simpa [MerkleCompactor.addLeaf, hactive] using htree.symm
  | some _ =>
      refine ⟨c.getActiveLeaves ++ [leaf.text], by simp, ?_, ?_⟩
      · intro s hs
        exact (List.mem_append.1 hs).elim (hexLeaves_getActiveLeaves h s) (hleaf s)
      · simpa [MerkleCompactor.addLeaf, hactive] using htree.symm

theorem get?_foldl_erase {κ ν : Type*} [DecidableEq κ] {es : List (κ × ν)} {m : OrderedMap κ ν}
    {k : κ} {v : ν} (h : (es.foldl (fun m e => m.erase e.1) m).get? k = some v) :
    m.get? k = some v := by
  induction es generalizing m with
  | nil => exact h
  | cons e es ih =>
      have herase := ih h
      rw [OrderedMap.get?_erase] at herase
      split_ifs at herase
      exact herase

/-- Pruning only drops records. -/
theorem get?_pruneHistoricalTree {c : MerkleCompactor} {i k : JsNumber} {record : HistoricalTree}
    (h : (c.pruneHistoricalTree sha256 i).2.historicalTrees.get? k = some record) :
    c.historicalTrees.get? k = some record := by
  unfold MerkleCompactor.pruneHistoricalTree at h
  dsimp only at h
  split_ifs at h
  · exact h
  · exact h
  · exact get?_foldl_erase h

/-- A record that is there after a checkpoint is its own or was there before. -/
theorem get?_createCheckpoint {c : MerkleCompactor} {k : JsNumber} {record : HistoricalTree}
    (h : (c.createCheckpoint sha256).2.historicalTrees.get? k = some record) :
    (k = c.currentCheckpoint ∧ c.checkpointRecord = some record) ∨
      ((k ≠ c.currentCheckpoint ∨ c.activeTree = none) ∧
        c.historicalTrees.get? k = some record) := by
  unfold MerkleCompactor.createCheckpoint at h
  split at h
  · rename_i hnone
    exact .inr ⟨.inr (Option.map_eq_none_iff.1 hnone), h⟩
  · rename_i taken htaken
    have hset : (c.historicalTrees.set c.currentCheckpoint taken).get? k = some record := by
      dsimp only at h
      split_ifs at h
      · exact get?_pruneHistoricalTree h
      · exact h
    rw [OrderedMap.get?_set] at hset
    split_ifs at hset with hk
    · exact .inl ⟨hk, by rw [htaken, hset]⟩
    · exact .inr ⟨.inl hk, hset⟩

theorem WellKept.step {h : CompactorHistory} (hkept : WellKept sha256 h) (call : CompactorCall) :
    WellKept sha256 (h.step sha256 call) := by
  cases call with
  | addLeaf leaf =>
      refine ⟨digestTree_addLeaf hkept.activeTree leaf, fun k record hrecord => ?_⟩
      exact ⟨by simp [CompactorHistory.step, MerkleCompactor.addLeaf],
        (hkept.retained k record hrecord).2⟩
  | pruneHistoricalTree i =>
      refine ⟨fun tree htree => ?_, fun k record hrecord => ?_⟩
      · exact hkept.activeTree tree ((activeTree_pruneHistoricalTree _ _).symm.trans htree)
      · have hold := hkept.retained k record (get?_pruneHistoricalTree hrecord)
        exact ⟨by simpa [CompactorHistory.step] using hold.1, hold.2⟩
  | createCheckpoint =>
      refine ⟨fun tree htree => ?_, fun k record hrecord => ?_⟩
      · exact hkept.activeTree tree ((activeTree_createCheckpoint _).symm.trans htree)
      · rcases get?_createCheckpoint hrecord with ⟨rfl, htaken⟩ | ⟨hother, hold⟩
        · obtain ⟨tree, htree, rfl⟩ := Option.map_eq_some_iff.1 htaken
          have hstep := hkept.activeTree tree htree
          refine ⟨by simp [CompactorHistory.step, htree], tree, ?_, hstep, rfl⟩
          simp [CompactorHistory.step, htree]
        · obtain ⟨hactive, tree, htree, hrest⟩ := hkept.retained k record hold
          refine ⟨by simpa [CompactorHistory.step] using hactive, tree, ?_, hrest⟩
          simp only [CompactorHistory.step]
          split
          · exact htree
          · rw [OrderedMap.get?_set, if_neg (hother.resolve_right hactive)]
            exact htree

theorem wellKept_run (config : CompactorConfig) (calls : List CompactorCall) :
    WellKept sha256 (Run.run (CompactorHistory.step sha256) (.new config) calls) :=
  Run.run_of_step (fun _ call hkept => hkept.step call) (wellKept_new config)

/-! ## What is accepted -/

theorem get?_mapValues {κ ν ν' : Type*} [DecidableEq κ] (f : ν → ν') (m : OrderedMap κ ν) (k : κ) :
    (m.mapValues f).get? k = (m.get? k).map f := by
  simp [OrderedMap.get?, OrderedMap.mapValues, List.find?_map, Function.comp_def]

/-- Everything is accepted against a checkpoint that is retained. -/
theorem verifyProof_iff {h : CompactorHistory} (hkept : WellKept sha256 h) (proof : NumberedProof)
    (k nowMs : JsNumber) :
    h.compactor.verifyProof sha256 proof k nowMs = true ↔
      ∃ record, h.compactor.historicalTrees.get? k = some record := by
  unfold MerkleCompactor.verifyProof MerkleCompactor.getCompactedState
  cases hrecord : h.compactor.historicalTrees.get? k with
  | none => simp
  | some record =>
      obtain ⟨hactive, tree, -, htree, hroot⟩ := hkept.retained k record hrecord
      obtain ⟨active, hsome⟩ := Option.ne_none_iff_exists'.1 hactive
      have hne : record.rootHash ≠ "" := by
        intro hempty
        have hhex := htree.isHex64_getRoot
        rw [← hroot, hempty] at hhex
        exact absurd hhex (by decide)
      simp [get?_mapValues, hrecord, hsome, hne]

/-! ## What is sound -/

/-- If the proof is accepted, it leads from a leaf of the checkpointed tree to the recorded root. -/
def SoundAt (sha256 : Sha256) (h : CompactorHistory) (proof : NumberedProof)
    (k nowMs : JsNumber) : Prop :=
  h.compactor.verifyProof sha256 proof k nowMs = true →
    ∃ record tree, h.compactor.historicalTrees.get? k = some record ∧
      h.checkpointed.get? k = some tree ∧
      ∃ leaf ∈ tree.leaves,
        foldNumbered sha256 leaf proof.siblings proof.leafIndex = record.rootHash

/-- The index and the siblings the tree gives for one of its leaves. -/
def OwnPath (tree : MerkleTree) (proof : NumberedProof) : Prop :=
  ∃ i : ℕ, i < tree.leaves.length ∧ i ≤ 2 ^ 53 ∧ proof.leafIndex = .ofInt i ∧
    proof.siblings = proofSiblings tree.layers i

/-- The index of a leaf and one sibling for each layer above the leaves. -/
def HasShape (tree : MerkleTree) (proof : NumberedProof) (i : ℕ) : Prop :=
  i < tree.leaves.length ∧ i ≤ 2 ^ 53 ∧ proof.leafIndex = .ofInt i ∧
    proof.siblings.length = tree.layers.length - 1

/-- No two nodes hashed for the tree, or on the way up from one of its leaves, collide. -/
def NoPathCollision (sha256 : Sha256) (tree : MerkleTree) (proof : NumberedProof) (i : ℕ) : Prop :=
  ∀ leaf ∈ tree.leaves, CollisionFreeOn sha256 (hashedNodes sha256 tree.leaves ++
    pathTexts sha256 leaf (MerkleProof.path ⟨proof.siblings, i, tree.leaves.length⟩))

instance (sha256 : Sha256) (tree : MerkleTree) (proof : NumberedProof) (i : ℕ) :
    Decidable (NoPathCollision sha256 tree proof i) :=
  inferInstanceAs (Decidable (∀ leaf ∈ tree.leaves, CollisionFreeOn sha256 _))

theorem foldNumbered_ownPath {leaves : List String} {i : ℕ} (hi : i < leaves.length)
    (hsafe : i ≤ 2 ^ 53) :
    foldNumbered sha256 (leaves.get ⟨i, hi⟩)
        (proofSiblings (MerkleTree.new sha256 leaves).layers i) (.ofInt i) =
      (MerkleTree.new sha256 leaves).getRoot := by
  rw [foldNumbered_ofInt _ _ hsafe]
  exact verifyProof_proofSiblings sha256 hi leaves.length

theorem soundAt_of_ownPath {h : CompactorHistory} (hkept : WellKept sha256 h)
    {proof : NumberedProof} {k : JsNumber} (nowMs : JsNumber)
    (hown : ∀ record tree, h.compactor.historicalTrees.get? k = some record →
      h.checkpointed.get? k = some tree → OwnPath tree proof) :
    SoundAt sha256 h proof k nowMs := by
  intro haccepted
  obtain ⟨record, hrecord⟩ := (verifyProof_iff hkept proof k nowMs).1 haccepted
  obtain ⟨-, tree, htree, ⟨leaves, -, -, rfl⟩, hroot⟩ := hkept.retained k record hrecord
  obtain ⟨i, hi, hsafe, hindex, hsiblings⟩ := hown record _ hrecord htree
  refine ⟨record, _, hrecord, htree, leaves.get ⟨i, hi⟩, List.get_mem _ _, ?_⟩
  rw [hindex, hsiblings, hroot]
  exact foldNumbered_ownPath hi hsafe

/-- A proof of the tree's shape that leads from a leaf to the root is the tree's own. -/
theorem siblings_of_foldNumbered {leaves : List String} {proof : NumberedProof} {i : ℕ}
    (hhex : HexLeaves leaves) (hshape : HasShape (MerkleTree.new sha256 leaves) proof i)
    (hfree : NoPathCollision sha256 (MerkleTree.new sha256 leaves) proof i) {leaf : String}
    (hleaf : leaf ∈ leaves)
    (hfold : foldNumbered sha256 leaf proof.siblings proof.leafIndex =
      (MerkleTree.new sha256 leaves).getRoot) :
    proof.siblings = proofSiblings (MerkleTree.new sha256 leaves).layers i := by
  obtain ⟨hi, hsafe, hindex, hlen⟩ := hshape
  rw [hindex, foldNumbered_ofInt _ _ hsafe] at hfold
  let asNumbered : MerkleProof := ⟨proof.siblings, i, leaves.length⟩
  have hroot : MerkleTree.verifyProof sha256 leaf asNumbered =
      (MerkleTree.new sha256 leaves).getRoot := hfold
  exact (of_verifyProof_eq_root hhex hi hlen (hfree leaf hleaf) hroot).2

/-- Against a checkpoint that is retained only the checkpointed tree's own proofs are sure to be
sound; among proofs of that tree's shape, unless SHA-256 collides, no other is. -/
theorem verifyProof_sound (sha256 : Sha256) (config : CompactorConfig)
    (calls : List CompactorCall) (proof : NumberedProof) (k nowMs : JsNumber) :
    let h := Run.run (CompactorHistory.step sha256) (.new config) calls
    ((∀ record tree, h.compactor.historicalTrees.get? k = some record →
        h.checkpointed.get? k = some tree → OwnPath tree proof) →
      SoundAt sha256 h proof k nowMs) ∧
      ∀ record tree i, h.compactor.historicalTrees.get? k = some record →
        h.checkpointed.get? k = some tree → HasShape tree proof i →
        NoPathCollision sha256 tree proof i →
        (SoundAt sha256 h proof k nowMs ↔ proof.siblings = proofSiblings tree.layers i) := by
  intro h
  have hkept : WellKept sha256 h := wellKept_run config calls
  refine ⟨soundAt_of_ownPath hkept nowMs, fun record tree i hrecord htree hshape hfree => ?_⟩
  obtain ⟨-, tree', htree', ⟨leaves, -, hhex, rfl⟩, hroot⟩ := hkept.retained k record hrecord
  obtain rfl : tree = MerkleTree.new sha256 leaves := Option.some.inj (htree.symm.trans htree')
  constructor
  · intro hsound
    obtain ⟨record', tree'', hrecord', htree'', leaf, hleaf, hfold⟩ :=
      hsound ((verifyProof_iff hkept proof k nowMs).2 ⟨record, hrecord⟩)
    obtain rfl : record' = record := Option.some.inj (hrecord'.symm.trans hrecord)
    obtain rfl : tree'' = _ := Option.some.inj (htree''.symm.trans htree)
    exact siblings_of_foldNumbered hhex hshape hfree hleaf (hfold.trans hroot)
  · intro hsiblings
    apply soundAt_of_ownPath hkept
    intro _ tree'' _ htree''
    obtain rfl : tree'' = _ := Option.some.inj (htree''.symm.trans htree)
    exact ⟨i, hshape.1, hshape.2.1, hshape.2.2.1, hsiblings⟩

/-- Two leaves and a checkpoint of them. -/
def checkpointedCalls : List CompactorCall :=
  [.addLeaf firstDigest, .addLeaf secondDigest, .createCheckpoint]

def secondLeafProof : NumberedProof where
  siblings := [firstLeaf]
  leafIndex := .ofInt 1
  leafCount := .ofInt 2

instance : DecidableEq MerkleTree := fun a b =>
  decidable_of_iff (a.leaves = b.leaves ∧ a.layers = b.layers)
    ⟨fun h => by cases a; cases b; simpa using h, fun h => by rw [h]; exact ⟨rfl, rfl⟩⟩

theorem get?_checkpointedCalls :
    (Run.run (CompactorHistory.step treeSha256) (.new {}) checkpointedCalls).checkpointed.get?
      (.ofInt 0) = some (MerkleTree.new treeSha256 sampleLeaves) := by
  decide +kernel

theorem get?_historicalTrees :
    (Run.run (CompactorHistory.step treeSha256) (.new {})
      checkpointedCalls).compactor.historicalTrees.get? (.ofInt 0) =
        some ⟨.ofInt 0, (MerkleTree.new treeSha256 sampleLeaves).getRoot,
          List.replicate 2 (MerkleTree.new treeSha256 sampleLeaves).getRoot, false⟩ := by
  decide +kernel

theorem verifyProof_sound_second :
    SoundAt treeSha256 (Run.run (CompactorHistory.step treeSha256) (.new {}) checkpointedCalls)
        secondLeafProof (.ofInt 0) (.ofInt 0) ∧
      secondLeafProof.siblings =
        proofSiblings (MerkleTree.new treeSha256 sampleLeaves).layers 1 := by
  have hsound := (verifyProof_sound treeSha256 {} checkpointedCalls secondLeafProof (.ofInt 0)
    (.ofInt 0)).1 (by
      intro record tree _ htree
      obtain rfl := Option.some.inj (get?_checkpointedCalls.symm.trans htree)
      exact ⟨1, by decide, by decide, rfl, rfl⟩)
  exact ⟨hsound, ((verifyProof_sound treeSha256 {} checkpointedCalls secondLeafProof (.ofInt 0)
    (.ofInt 0)).2 _ _ 1 get?_historicalTrees get?_checkpointedCalls
    ⟨by decide, by decide, rfl, rfl⟩ (by decide +kernel)).1 hsound⟩

def forgedProof : NumberedProof where
  siblings := [secondLeaf]
  leafIndex := .ofInt 1
  leafCount := .ofInt 2

/-- A sibling that is no leaf's is accepted too, and folds no leaf to the root. -/
theorem verifyProof_unsound :
    ¬SoundAt treeSha256 (Run.run (CompactorHistory.step treeSha256) (.new {}) checkpointedCalls)
      forgedProof (.ofInt 0) (.ofInt 0) := by
  intro h
  obtain ⟨record, tree, hrecord, htree, leaf, hleaf, hfold⟩ := h (by decide +kernel)
  rw [← Option.some.inj (get?_historicalTrees.symm.trans hrecord)] at hfold
  rw [← Option.some.inj (get?_checkpointedCalls.symm.trans htree)] at hleaf
  simp only at hfold
  have hnone : ∀ leaf ∈ (MerkleTree.new treeSha256 sampleLeaves).leaves,
      foldNumbered treeSha256 leaf forgedProof.siblings forgedProof.leafIndex ≠
        (MerkleTree.new treeSha256 sampleLeaves).getRoot := by decide +kernel
  exact hnone leaf hleaf hfold

end UniverEscrow.Merkle
