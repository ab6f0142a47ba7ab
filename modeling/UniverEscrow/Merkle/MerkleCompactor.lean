import UniverEscrow.Js.OrderedMap
import UniverEscrow.Lib.Run
import UniverEscrow.Merkle.InclusionProof

/-!
# The Merkle compactor

The compactor keeps an active tree and a record of each checkpoint.  Adding a leaf builds a new
tree from the leaves it reads off the active one, and that reading returns the root, once for each
leaf.
-/

namespace UniverEscrow.Merkle

open UniverEscrow.Js UniverEscrow.Lib

/-- `Math.min(a, b)`. -/
def minNumber (a b : JsNumber) : JsNumber :=
  if a = .nan ∨ b = .nan then .nan else if b.lt a then b else a

structure CompactorConfig where
  maxHistoricalDepth : JsNumber := .ofInt 1000
  minCheckpointInterval : JsNumber := .ofInt 10
  preserveRecentLeaves : JsNumber := .ofInt 50

structure HistoricalTree where
  checkpointIndex : JsNumber
  rootHash : String
  leaves : List String
  compacted : Bool
deriving DecidableEq

structure CompactionResult where
  success : Bool
  previousCheckpoint : JsNumber
  newCheckpoint : JsNumber
  memoryFreedBytes : JsNumber
  aggregateHash : String
  error : Option String := none

structure CompactedState where
  checkpointIndex : JsNumber
  aggregateHash : String
  compactedAt : JsNumber
  preservedLeaves : List String
  activeBranchHashes : OrderedMap JsNumber String

structure MerkleCompactor where
  config : CompactorConfig
  historicalTrees : OrderedMap JsNumber HistoricalTree := .empty
  activeTree : Option MerkleTree := none
  currentCheckpoint : JsNumber := .ofInt 0
  totalMemoryUsed : JsNumber := .ofInt 0

/-- A proof as it is passed in, with any Number for an index. -/
structure NumberedProof where
  siblings : List String
  leafIndex : JsNumber
  leafCount : JsNumber

/-- `idx % 2 === 1`: the remainder has the sign of the dividend. -/
def isRightIndex : JsNumber → Bool
  | .fin x => x.val.den = 1 && 0 < x.val.num && x.val.num % 2 = 1
  | _ => false

variable (sha256 : Sha256)

def foldNumbered : String → List String → JsNumber → String
  | hash, [], _ => hash
  | hash, sibling :: siblings, idx =>
      let next := if isRightIndex idx then merkleNode sha256 sibling hash
        else merkleNode sha256 hash sibling
      foldNumbered next siblings (idx.div (.ofInt 2)).floor

namespace MerkleCompactor

/-- One copy of the root for each leaf of the active tree, none of an empty root. -/
def getActiveLeaves (c : MerkleCompactor) : List String :=
  match c.activeTree with
  | none => []
  | some tree =>
      (List.range tree.getLeafCount).filterMap fun _ =>
        if tree.getRoot = "" then none else some tree.getRoot

def addLeaf (c : MerkleCompactor) (leaf : HexDigest) : MerkleCompactor :=
  let leaves := match c.activeTree with
    | none => [leaf.text]
    | some _ => c.getActiveLeaves ++ [leaf.text]
  { c with
    activeTree := some (MerkleTree.new sha256 leaves)
    totalMemoryUsed := c.totalMemoryUsed.add
      ((JsNumber.ofInt (JsValue.utf16Length leaf.text)).mul (.ofInt 2)) }

def getActiveRoot (c : MerkleCompactor) : String :=
  match c.activeTree with
  | none => ""
  | some tree => tree.getRoot

def pruneHistoricalTree (c : MerkleCompactor) (checkpointIndex : JsNumber) :
    CompactionResult × MerkleCompactor :=
  let refused (error : String) : CompactionResult :=
    { success := false
      previousCheckpoint := c.currentCheckpoint
      newCheckpoint := c.currentCheckpoint
      memoryFreedBytes := .ofInt 0
      aggregateHash := ""
      error := some error }
  if checkpointIndex.lt (.ofInt 0) then (refused "Invalid checkpoint index", c)
  else if checkpointIndex.le c.currentCheckpoint then (refused "Checkpoint already compacted", c)
  else
    let targetIndex := minNumber checkpointIndex
      (c.currentCheckpoint.add c.config.minCheckpointInterval)
    let preserved (index : JsNumber) : Bool :=
      (targetIndex.sub c.config.preserveRecentLeaves).le index
    let dropped := c.historicalTrees.entries.filter fun e => !preserved e.1
    let kept := c.historicalTrees.entries.filter fun e => preserved e.1
    let memoryFreed := dropped.foldl (fun freed e =>
      freed.add ((JsNumber.ofInt e.2.leaves.length).mul (.ofInt 66))) (JsNumber.ofInt 0)
    -- the result reports the checkpoint already moved as the previous one
    ({ success := true
       previousCheckpoint := targetIndex
       newCheckpoint := targetIndex
       memoryFreedBytes := memoryFreed
       aggregateHash := sha256Hex sha256 (String.intercalate "|" (kept.map fun e => e.2.rootHash)) },
      { c with
        historicalTrees := dropped.foldl (fun trees e => trees.erase e.1) c.historicalTrees
        currentCheckpoint := targetIndex
        totalMemoryUsed := c.totalMemoryUsed.sub memoryFreed })

/-- What a checkpoint records of the active tree. -/
def checkpointRecord (c : MerkleCompactor) : Option HistoricalTree :=
  c.activeTree.map fun tree =>
    { checkpointIndex := c.currentCheckpoint
      rootHash := tree.getRoot
      leaves := c.getActiveLeaves
      compacted := false }

def createCheckpoint (c : MerkleCompactor) : JsNumber × MerkleCompactor :=
  match c.checkpointRecord with
  | none => (c.currentCheckpoint, c)
  | some tree =>
      let c := { c with
        historicalTrees := c.historicalTrees.set c.currentCheckpoint tree
        currentCheckpoint := c.currentCheckpoint.add (.ofInt 1) }
      let maxDepth := c.config.maxHistoricalDepth
      let c := if maxDepth.lt (.ofInt c.historicalTrees.size) then
          (c.pruneHistoricalTree sha256 ((c.currentCheckpoint.sub maxDepth).add
            (maxDepth.div (.ofInt 2)).floor)).2
        else c
      (c.currentCheckpoint, c)

def getCompactedState (c : MerkleCompactor) (checkpointIndex nowMs : JsNumber) :
    Option CompactedState :=
  (c.historicalTrees.get? checkpointIndex).map fun tree =>
    { checkpointIndex := checkpointIndex
      aggregateHash := tree.rootHash
      compactedAt := nowMs
      preservedLeaves := (c.historicalTrees.entries.filter fun e =>
        (checkpointIndex.sub c.config.preserveRecentLeaves).le e.1).map fun e => e.2.rootHash
      activeBranchHashes := c.historicalTrees.mapValues HistoricalTree.rootHash }

def verifyProof (c : MerkleCompactor) (proof : NumberedProof) (checkpointIndex nowMs : JsNumber) :
    Bool :=
  match c.getCompactedState checkpointIndex nowMs with
  | none => false
  | some state =>
      match state.activeBranchHashes.get? checkpointIndex, c.activeTree with
      | some root, some tree =>
          if root = "" then false
          else
            -- folding never throws, and nothing is compared with its result
            let _folded := foldNumbered sha256 tree.getRoot proof.siblings proof.leafIndex
            true
      | _, _ => false

end MerkleCompactor

/-! ## Histories -/

inductive CompactorCall
  | addLeaf (leaf : HexDigest)
  | createCheckpoint
  | pruneHistoricalTree (checkpointIndex : JsNumber)

/-- The compactor with the leaves added so far and the tree that was active at each checkpoint. -/
structure CompactorHistory where
  compactor : MerkleCompactor
  added : List HexDigest := []
  checkpointed : OrderedMap JsNumber MerkleTree := .empty

namespace CompactorHistory

def new (config : CompactorConfig) : CompactorHistory where
  compactor := { config := config }

def step (h : CompactorHistory) : CompactorCall → CompactorHistory
  | .addLeaf leaf =>
      { h with compactor := h.compactor.addLeaf sha256 leaf, added := h.added ++ [leaf] }
  | .createCheckpoint =>
      { h with
        compactor := (h.compactor.createCheckpoint sha256).2
        checkpointed := match h.compactor.activeTree with
          | none => h.checkpointed
          | some tree => h.checkpointed.set h.compactor.currentCheckpoint tree }
  | .pruneHistoricalTree checkpointIndex =>
      { h with compactor := (h.compactor.pruneHistoricalTree sha256 checkpointIndex).2 }

def leaves (h : CompactorHistory) : List String := h.added.map HexDigest.text

end CompactorHistory

variable {sha256}

@[simp] theorem activeTree_pruneHistoricalTree (c : MerkleCompactor) (k : JsNumber) :
    (c.pruneHistoricalTree sha256 k).2.activeTree = c.activeTree := by
  unfold MerkleCompactor.pruneHistoricalTree
  dsimp only
  split_ifs <;> rfl

@[simp] theorem activeTree_createCheckpoint (c : MerkleCompactor) :
    (c.createCheckpoint sha256).2.activeTree = c.activeTree := by
  unfold MerkleCompactor.createCheckpoint
  split
  · rfl
  · dsimp only
    split_ifs
    · exact activeTree_pruneHistoricalTree _ _
    · rfl

/-! ## The active root -/

/-- The root asked for is that of the leaves added. -/
def RootRight (sha256 : Sha256) (h : CompactorHistory) : Prop :=
  h.added ≠ [] → h.compactor.getActiveRoot = (MerkleTree.new sha256 h.leaves).getRoot

/-- A checkpoint records the root of the leaves added, and those leaves. -/
def CheckpointRight (sha256 : Sha256) (h : CompactorHistory) : CompactorCall → Prop
  | .createCheckpoint => ∀ record, h.compactor.checkpointRecord = some record →
      record.rootHash = (MerkleTree.new sha256 h.leaves).getRoot ∧ record.leaves = h.leaves
  | _ => True

/-- At most one leaf, or copies of a digest that is its own parent. -/
def SelfRooted (sha256 : Sha256) (leaves : List String) : Prop :=
  leaves.length ≤ 1 ∨
    ∃ x, merkleNode sha256 x x = x ∧ leaves = List.replicate leaves.length x

/-- The leaves are read before the call, except for pruning, which reads none. -/
def LeavesReadable (sha256 : Sha256) (h : CompactorHistory) : CompactorCall → Prop
  | .pruneHistoricalTree _ => True
  | _ => SelfRooted sha256 h.leaves

/-- What the active tree is built from while every reading was right. -/
structure Tracked (sha256 : Sha256) (h : CompactorHistory) : Prop where
  activeTree : h.compactor.activeTree =
    if h.added = [] then none else some (MerkleTree.new sha256 h.leaves)
  dropLast : SelfRooted sha256 h.leaves.dropLast

theorem tracked_new (config : CompactorConfig) : Tracked sha256 (.new config) where
  activeTree := rfl
  dropLast := .inl (by simp [CompactorHistory.leaves, CompactorHistory.new])

theorem getRoot_ne_empty {leaves : List HexDigest} :
    (MerkleTree.new sha256 (leaves.map HexDigest.text)).getRoot ≠ "" := by
  intro hempty
  have hdigests : DigestLength (leaves.map HexDigest.text) := by
    intro s hs
    obtain ⟨d, -, rfl⟩ := List.mem_map.1 hs
    exact d.length_toList
  have hlen := length_getRoot sha256 hdigests
  rw [hempty] at hlen
  cases hlen

/-- Reading the leaves off a tree gives copies of its root. -/
theorem getActiveLeaves_eq {h : CompactorHistory} (ht : Tracked sha256 h) :
    h.compactor.getActiveLeaves =
      List.replicate h.leaves.length (MerkleTree.new sha256 h.leaves).getRoot := by
  unfold MerkleCompactor.getActiveLeaves
  rw [ht.activeTree]
  by_cases hnil : h.added = []
  · simp [hnil, CompactorHistory.leaves]
  · have hroot : (MerkleTree.new sha256 h.leaves).getRoot ≠ "" := getRoot_ne_empty
    simp [hnil, hroot]

theorem getRoot_replicate {x : String} (hx : merkleNode sha256 x x = x) {n : ℕ} (hn : 0 < n) :
    (MerkleTree.new sha256 (List.replicate n x)).getRoot = x := by
  have hne : List.replicate n x ≠ [] := by
    rw [ne_eq, List.replicate_eq_nil_iff]
    omega
  have htop := topLayer_eq_singleton_getRoot sha256 hne
  obtain ⟨m, hm⟩ := PairTree.topLayer_replicate (merkleNode sha256) hx
    (List.replicate n x).length n
  rw [hm] at htop
  have hroot : (MerkleTree.new sha256 (List.replicate n x)).getRoot ∈ List.replicate m x := by
    rw [htop]
    exact List.mem_cons_self
  exact List.eq_of_mem_replicate hroot

/-- Self-rooted leaves are copies of their root. -/
theorem SelfRooted.eq_replicate {leaves : List String} (h : SelfRooted sha256 leaves) :
    List.replicate leaves.length (MerkleTree.new sha256 leaves).getRoot = leaves := by
  rcases h with hle | ⟨x, hx, heq⟩
  · match leaves, hle with
    | [], _ => rfl
    | [leaf], _ => rfl
  · by_cases hnil : leaves = []
    · simp [hnil]
    · have hroot := getRoot_replicate hx (List.length_pos_iff.2 hnil)
      rw [← heq] at hroot
      rw [hroot, ← heq]

/-- Copies of their root are self-rooted, if so were the leaves before the last. -/
theorem selfRooted_of_replicate {leaves : List String} (hlast : SelfRooted sha256 leaves.dropLast)
    (heq : List.replicate leaves.length (MerkleTree.new sha256 leaves).getRoot = leaves) :
    SelfRooted sha256 leaves := by
  set root := (MerkleTree.new sha256 leaves).getRoot with hroot
  have hdrop : leaves.dropLast = List.replicate (leaves.length - 1) root := by
    conv_lhs => rw [← heq, List.dropLast_replicate]
  by_cases hle : leaves.length ≤ 1
  · exact .inl hle
  · refine .inr ⟨root, ?_, heq.symm⟩
    rcases hlast with hshort | ⟨x, hx, hcopies⟩
    · -- two leaves: the root is their parent
      have htwo : leaves.length = 2 := by
        rw [List.length_dropLast] at hshort
        omega
      have hpair : leaves = [root, root] := by rw [← heq, htwo]; rfl
      calc merkleNode sha256 root root = (MerkleTree.new sha256 [root, root]).getRoot := rfl
        _ = root := by rw [← hpair, ← hroot]
    · have hmem : root ∈ List.replicate leaves.dropLast.length x := by
        rw [← hcopies, hdrop]
        exact List.mem_replicate.2 ⟨by omega, rfl⟩
      rwa [List.eq_of_mem_replicate hmem]

theorem leaves_addLeaf (h : CompactorHistory) (leaf : HexDigest) :
    (h.step sha256 (.addLeaf leaf)).leaves = h.leaves ++ [leaf.text] := by
  simp [CompactorHistory.leaves, CompactorHistory.step]

/-- The tree built for a new leaf. -/
theorem activeTree_addLeaf {h : CompactorHistory} (ht : Tracked sha256 h) (leaf : HexDigest) :
    (h.step sha256 (.addLeaf leaf)).compactor.activeTree =
      some (MerkleTree.new sha256 (h.compactor.getActiveLeaves ++ [leaf.text])) := by
  simp only [CompactorHistory.step, MerkleCompactor.addLeaf]
  by_cases hnil : h.added = []
  · have hnone : h.compactor.activeTree = none := by rw [ht.activeTree, if_pos hnil]
    simp [hnone, MerkleCompactor.getActiveLeaves]
  · have hsome : h.compactor.activeTree = some (MerkleTree.new sha256 h.leaves) := by
      rw [ht.activeTree, if_neg hnil]
    simp [hsome]

theorem Tracked.rootRight {h : CompactorHistory} (ht : Tracked sha256 h) : RootRight sha256 h := by
  intro hne
  simp [MerkleCompactor.getActiveRoot, ht.activeTree, hne]

theorem Tracked.addLeaf {h : CompactorHistory} (ht : Tracked sha256 h) (leaf : HexDigest)
    (hself : SelfRooted sha256 h.leaves) : Tracked sha256 (h.step sha256 (.addLeaf leaf)) where
  activeTree := by
    have hleaves : (h.step sha256 (.addLeaf leaf)).leaves = h.leaves ++ [leaf.text] :=
      leaves_addLeaf h leaf
    rw [activeTree_addLeaf ht, getActiveLeaves_eq ht, hself.eq_replicate, ← hleaves]
    simp [CompactorHistory.step]
  dropLast := by
    rw [leaves_addLeaf, List.dropLast_concat]
    exact hself

/-- A readable call is right and keeps the tree that of the leaves added. -/
theorem step_of_leavesReadable {h : CompactorHistory} {call : CompactorCall}
    (ht : Tracked sha256 h) (hread : LeavesReadable sha256 h call) :
    CheckpointRight sha256 h call ∧ RootRight sha256 (h.step sha256 call) ∧
      Tracked sha256 (h.step sha256 call) := by
  have hkept (h' : CompactorHistory) (hadded : h'.added = h.added)
      (hactive : h'.compactor.activeTree = h.compactor.activeTree) : Tracked sha256 h' := by
    have hleaves : h'.leaves = h.leaves := congrArg (List.map HexDigest.text) hadded
    exact ⟨by rw [hactive, hadded, hleaves, ht.activeTree], by rw [hleaves]; exact ht.dropLast⟩
  cases call with
  | addLeaf leaf =>
      have ht' := ht.addLeaf leaf hread
      exact ⟨trivial, ht'.rootRight, ht'⟩
  | createCheckpoint =>
      have ht' := hkept (h.step sha256 .createCheckpoint) rfl (activeTree_createCheckpoint _)
      refine ⟨fun record hrecord => ?_, ht'.rootRight, ht'⟩
      obtain ⟨tree, htree, rfl⟩ := Option.map_eq_some_iff.1 hrecord
      have hne : h.added ≠ [] := by
        intro hnil
        rw [ht.activeTree, if_pos hnil] at htree
        cases htree
      rw [ht.activeTree, if_neg hne, Option.some.injEq] at htree
      exact ⟨by rw [htree], (getActiveLeaves_eq ht).trans hread.eq_replicate⟩
  | pruneHistoricalTree k =>
      have ht' := hkept (h.step sha256 (.pruneHistoricalTree k)) rfl
        (activeTree_pruneHistoricalTree _ _)
      exact ⟨trivial, ht'.rootRight, ht'⟩

/-- The two trees compared after a call combine no two pairs of nodes into one. -/
def NoCollision (sha256 : Sha256) (h : CompactorHistory) : CompactorCall → Prop
  | .addLeaf leaf => CollisionFreeOn sha256
      (hashedNodes sha256 (h.compactor.getActiveLeaves ++ [leaf.text]) ++
        hashedNodes sha256 (h.leaves ++ [leaf.text]))
  | _ => True

instance (sha256 : Sha256) (h : CompactorHistory) :
    ∀ call, Decidable (NoCollision sha256 h call)
  | .addLeaf _ => inferInstanceAs (Decidable (CollisionFreeOn _ _))
  | .createCheckpoint => inferInstanceAs (Decidable True)
  | .pruneHistoricalTree _ => inferInstanceAs (Decidable True)

theorem digestLength_texts (digests : List HexDigest) :
    DigestLength (digests.map HexDigest.text) := by
  intro s hs
  obtain ⟨d, -, rfl⟩ := List.mem_map.1 hs
  exact d.length_toList

/-- A call that is right was readable. -/
theorem leavesReadable_of_step {h : CompactorHistory} {call : CompactorCall}
    (ht : Tracked sha256 h) (hfree : NoCollision sha256 h call)
    (hcheckpoint : CheckpointRight sha256 h call)
    (hroot : RootRight sha256 (h.step sha256 call)) : LeavesReadable sha256 h call := by
  cases call with
  | addLeaf leaf =>
      have hroots := hroot (by simp [CompactorHistory.step])
      rw [MerkleCompactor.getActiveRoot, activeTree_addLeaf ht, leaves_addLeaf] at hroots
      have hlength : DigestLength (h.compactor.getActiveLeaves ++ [leaf.text]) := by
        rw [getActiveLeaves_eq ht]
        intro s hs
        rcases List.mem_append.1 hs with hs | hs
        · rw [List.eq_of_mem_replicate hs]
          exact length_getRoot sha256 (digestLength_texts h.added)
        · rw [List.mem_singleton.1 hs]
          exact leaf.length_toList
      have hlength' : DigestLength (h.leaves ++ [leaf.text]) := by
        have := digestLength_texts (h.added ++ [leaf])
        rwa [List.map_append] at this
      have heq := leaves_eq_of_getRoot_eq sha256 (by simp [getActiveLeaves_eq ht]) hlength
        hlength' hfree hroots
      rw [List.append_left_inj, getActiveLeaves_eq ht] at heq
      exact selfRooted_of_replicate ht.dropLast heq
  | createCheckpoint =>
      by_cases hnil : h.added = []
      · exact .inl (by simp [CompactorHistory.leaves, hnil])
      · have hrecord : h.compactor.checkpointRecord = some
            { checkpointIndex := h.compactor.currentCheckpoint
              rootHash := (MerkleTree.new sha256 h.leaves).getRoot
              leaves := h.compactor.getActiveLeaves
              compacted := false } := by
          rw [MerkleCompactor.checkpointRecord, ht.activeTree, if_neg hnil]
          rfl
        have hleaves := (hcheckpoint _ hrecord).2
        rw [getActiveLeaves_eq ht] at hleaves
        exact selfRooted_of_replicate ht.dropLast hleaves
  | pruneHistoricalTree k => trivial

/-- From the second leaf on the compactor reads its leaves wrongly: it is right about the root and
about every checkpoint as long as leaves are added and checkpoints taken over self-rooted leaves
only, and, unless SHA-256 collides, no longer. -/
theorem compactor_right_iff (sha256 : Sha256) (config : CompactorConfig)
    (calls : List CompactorCall) :
    (Run.EachStep (CompactorHistory.step sha256) (LeavesReadable sha256) (.new config) calls →
      Run.EachStep (CompactorHistory.step sha256) (CheckpointRight sha256) (.new config) calls ∧
        Run.Throughout (CompactorHistory.step sha256) (RootRight sha256) (.new config) calls) ∧
      (Run.EachStep (CompactorHistory.step sha256) (NoCollision sha256) (.new config) calls →
        Run.EachStep (CompactorHistory.step sha256) (CheckpointRight sha256) (.new config) calls →
        Run.Throughout (CompactorHistory.step sha256) (RootRight sha256) (.new config) calls →
        Run.EachStep (CompactorHistory.step sha256) (LeavesReadable sha256) (.new config) calls) :=
  ⟨Run.eachStep_and_throughout_of_step (fun _ _ => step_of_leavesReadable)
      (tracked_new config) (tracked_new config).rootRight,
    Run.eachStep_of_throughout (fun _ _ ht hread => (step_of_leavesReadable ht hread).2.2)
      (fun _ _ => leavesReadable_of_step) (tracked_new config)⟩

def firstDigest : HexDigest := ⟨firstLeaf, by decide +kernel⟩

def secondDigest : HexDigest := ⟨secondLeaf, by decide +kernel⟩

/-- `treeSha256`, with a digest of its own for the nodes over the parent of the first two leaves. -/
def compactorSha256 : Sha256 := fun text =>
  let parent := sha256Hex treeSha256 (merkleNodeText firstLeaf secondLeaf)
  if text = merkleNodeText parent parent ∨
      text = merkleNodeText parent (sha256Hex treeSha256 "") then secondDigest
  else treeSha256 text

/-- One leaf, its checkpoint, and a second leaf. -/
def readableCalls : List CompactorCall :=
  [.addLeaf firstDigest, .createCheckpoint, .addLeaf secondDigest]

theorem compactor_right_iff_readable :
    (Run.EachStep (CompactorHistory.step compactorSha256) (CheckpointRight compactorSha256)
        (.new {}) readableCalls ∧
      Run.Throughout (CompactorHistory.step compactorSha256) (RootRight compactorSha256)
        (.new {}) readableCalls) ∧
      Run.EachStep (CompactorHistory.step compactorSha256) (LeavesReadable compactorSha256)
        (.new {}) readableCalls := by
  have hright := (compactor_right_iff compactorSha256 {} readableCalls).1
    ⟨.inl (by decide), .inl (by decide), .inl (by decide), trivial⟩
  exact ⟨hright, (compactor_right_iff compactorSha256 {} readableCalls).2
    ⟨by decide +kernel, trivial, by decide +kernel, trivial⟩ hright.1 hright.2⟩

/-- With a third leaf the root is another one, and already a checkpoint over two leaves records
their parent twice. -/
theorem compactor_wrong :
    ¬RootRight compactorSha256 (Run.run (CompactorHistory.step compactorSha256) (.new {})
      [.addLeaf firstDigest, .addLeaf secondDigest, .addLeaf firstDigest]) ∧
      ¬CheckpointRight compactorSha256 (Run.run (CompactorHistory.step compactorSha256) (.new {})
        [.addLeaf firstDigest, .addLeaf secondDigest]) .createCheckpoint := by
  constructor
  · intro h
    exact absurd (h (by decide)) (by decide +kernel)
  · intro h
    exact absurd (h _ rfl).2 (by decide +kernel)

end UniverEscrow.Merkle
