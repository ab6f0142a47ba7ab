import UniverEscrow.Js.Rounding
import UniverEscrow.Merkle.MerkleCompactor

/-!
# What the compactor keeps and counts

A checkpoint prunes to an index that is never past the current checkpoint, so the pruning is
refused.  Adding a leaf counts twice its digest's length, and dropping a tree takes off 66 bytes
for each of its leaves, however many trees repeat them.
-/

namespace UniverEscrow.Merkle

open UniverEscrow.Js UniverEscrow.Lib

namespace MerkleCompactor

def getMemoryUsage (c : MerkleCompactor) : JsNumber := c.totalMemoryUsed

/-- The compactor after a call. -/
def call (sha256 : Sha256) (c : MerkleCompactor) : CompactorCall → MerkleCompactor
  | .addLeaf leaf => c.addLeaf sha256 leaf
  | .createCheckpoint => (c.createCheckpoint sha256).2
  | .pruneHistoricalTree checkpointIndex => (c.pruneHistoricalTree sha256 checkpointIndex).2

def WithinDepth (c : MerkleCompactor) : Prop :=
  (JsNumber.ofInt c.historicalTrees.size).le c.config.maxHistoricalDepth = true

/-- After a checkpoint no more trees are retained than configured. -/
def BoundsDepth (sha256 : Sha256) (c : MerkleCompactor) (request : CompactorCall) : Prop :=
  request = .createCheckpoint → WithinDepth (c.call sha256 request)

def NotNegative (c : MerkleCompactor) : Prop := c.getMemoryUsage.lt (.ofInt 0) = false

/-! ## The condition -/

/-- 66 bytes for each leaf of the trees. -/
def leafBytes (trees : List (JsNumber × HistoricalTree)) : JsNumber :=
  trees.foldl (fun freed e => freed.add ((JsNumber.ofInt e.2.leaves.length).mul (.ofInt 66)))
    (JsNumber.ofInt 0)

def Refuses (c : MerkleCompactor) (checkpointIndex : JsNumber) : Prop :=
  checkpointIndex.lt (.ofInt 0) = true ∨ checkpointIndex.le c.currentCheckpoint = true

def targetIndex (c : MerkleCompactor) (checkpointIndex : JsNumber) : JsNumber :=
  minNumber checkpointIndex (c.currentCheckpoint.add c.config.minCheckpointInterval)

/-- The trees before the leaves to preserve. -/
def treesBelow (c : MerkleCompactor) (checkpointIndex : JsNumber) :
    List (JsNumber × HistoricalTree) :=
  c.historicalTrees.entries.filter fun e =>
    !((c.targetIndex checkpointIndex).sub c.config.preserveRecentLeaves).le e.1

/-- The trees with the active one recorded under the current checkpoint. -/
def recorded (c : MerkleCompactor) : OrderedMap JsNumber HistoricalTree :=
  match c.checkpointRecord with
  | none => c.historicalTrees
  | some tree => c.historicalTrees.set c.currentCheckpoint tree

/-- Enough is accounted for the leaves of the trees. -/
def Covers (c : MerkleCompactor) (trees : List (JsNumber × HistoricalTree)) : Prop :=
  c.totalMemoryUsed.lt (leafBytes trees) = false

/-- A checkpoint has room for its tree, or follows the current checkpoint being lost to NaN, when
every tree is dropped; pruning is refused, or drops no more leaves than are accounted for. -/
def Fits (c : MerkleCompactor) : CompactorCall → Prop
  | .addLeaf _ => True
  | .createCheckpoint =>
      (JsNumber.ofInt c.recorded.size).le c.config.maxHistoricalDepth = true ∨
        c.currentCheckpoint = .nan ∧ c.Covers c.recorded.entries
  | .pruneHistoricalTree checkpointIndex =>
      c.Refuses checkpointIndex ∨ c.Covers (c.treesBelow checkpointIndex)

variable {sha256 : Sha256} {c : MerkleCompactor} {k : JsNumber}

/-! ## Pruning -/

theorem prune_of_refuses (h : c.Refuses k) : (c.pruneHistoricalTree sha256 k).2 = c := by
  unfold pruneHistoricalTree
  dsimp only
  split_ifs with hnegative hcompacted
  · rfl
  · rfl
  · exact absurd h (not_or.2 ⟨hnegative, hcompacted⟩)

theorem prune_of_not_refuses (h : ¬c.Refuses k) :
    (c.pruneHistoricalTree sha256 k).2 =
      { c with
        historicalTrees := (c.treesBelow k).foldl (fun trees e => trees.erase e.1) c.historicalTrees
        currentCheckpoint := c.targetIndex k
        totalMemoryUsed := c.totalMemoryUsed.sub (leafBytes (c.treesBelow k)) } := by
  unfold pruneHistoricalTree
  dsimp only
  rw [if_neg (not_or.1 h).1, if_neg (not_or.1 h).2]
  rfl

theorem config_prune : (c.pruneHistoricalTree sha256 k).2.config = c.config := by
  by_cases h : c.Refuses k
  · rw [prune_of_refuses h]
  · rw [prune_of_not_refuses h]

/-- What is taken off is covered exactly where nothing negative is left. -/
theorem notNegative_sub_iff {trees : List (JsNumber × HistoricalTree)} :
    (c.totalMemoryUsed.sub (leafBytes trees)).lt (.ofInt 0) = false ↔ c.Covers trees := by
  rw [JsNumber.sub_lt_zero, Covers]

theorem notNegative_prune_iff (sha256 : Sha256) (h : NotNegative c) :
    NotNegative (c.pruneHistoricalTree sha256 k).2 ↔ c.Refuses k ∨ c.Covers (c.treesBelow k) := by
  by_cases hrefuses : c.Refuses k
  · rw [prune_of_refuses hrefuses]
    exact ⟨fun _ => .inl hrefuses, fun _ => h⟩
  · rw [prune_of_not_refuses hrefuses, or_iff_right hrefuses]
    exact notNegative_sub_iff

/-! ## Adding a leaf -/

theorem notNegative_addLeaf (leaf : HexDigest) (h : NotNegative c) :
    NotNegative (c.addLeaf sha256 leaf) :=
  JsNumber.add_lt_zero h (JsNumber.mul_ofInt_lt_zero (by norm_num) (by norm_num)
    (JsNumber.ofInt_lt_zero (Int.natCast_nonneg _)))

/-! ## The automatic pruning -/

/-- What a checkpoint prunes to once the current checkpoint has moved on. -/
def automaticIndex (c : MerkleCompactor) : JsNumber :=
  (c.currentCheckpoint.sub c.config.maxHistoricalDepth).add
    (c.config.maxHistoricalDepth.div (.ofInt 2)).floor

/-- From a depth of one on the index is negative or not past the current checkpoint. -/
theorem refuses_automaticIndex (hcheckpoint : c.currentCheckpoint ≠ .nan)
    (hdepth : (JsNumber.ofInt 1).le c.config.maxHistoricalDepth = true)
    (hfull : c.config.maxHistoricalDepth.lt (.ofInt c.historicalTrees.size) = true) :
    c.Refuses c.automaticIndex := by
  unfold Refuses automaticIndex
  cases hd : c.config.maxHistoricalDepth with
  | nan => rw [hd] at hfull; cases hfull
  | posInf => rw [hd, JsNumber.posInf_lt] at hfull; cases hfull
  | negInf =>
      rw [hd, JsNumber.ofInt_eq_fin (n := 1) (by norm_num)] at hdepth
      cases hdepth
  | fin d =>
      have hone : 1 ≤ d.val := by
        rw [hd] at hdepth
        exact JsNumber.one_le_val hdepth
      cases hn : c.currentCheckpoint with
      | nan => exact absurd hn hcheckpoint
      | fin n => exact JsNumber.sub_add_floor_half hone
      | posInf =>
          obtain ⟨x, hx, -⟩ := JsNumber.floor_half hone
          rw [hx, JsNumber.sub, JsNumber.neg_fin]
          exact .inr rfl
      | negInf =>
          obtain ⟨x, hx, -⟩ := JsNumber.floor_half hone
          rw [hx, JsNumber.sub, JsNumber.neg_fin, JsNumber.ofInt_zero]
          exact .inl rfl

/-- Once the current checkpoint is NaN everything is dropped. -/
theorem treesBelow_nan (hcheckpoint : c.currentCheckpoint = .nan) :
    ¬c.Refuses c.automaticIndex ∧ c.treesBelow c.automaticIndex = c.historicalTrees.entries := by
  have hindex : c.automaticIndex = .nan := by
    rw [automaticIndex, hcheckpoint, JsNumber.sub, JsNumber.nan_add, JsNumber.nan_add]
  have htarget : c.targetIndex .nan = .nan := by rw [targetIndex, minNumber, if_pos (.inl rfl)]
  constructor
  · rw [Refuses, hindex, hcheckpoint]
    exact not_or.2 ⟨Bool.false_ne_true, Bool.false_ne_true⟩
  · rw [treesBelow, hindex, htarget]
    apply List.filter_eq_self.2
    intro e _
    rw [JsNumber.sub, JsNumber.nan_add]
    rfl

/-! ## A checkpoint -/

/-- The compactor before the automatic pruning. -/
def advanced (c : MerkleCompactor) : MerkleCompactor :=
  { c with
    historicalTrees := c.recorded
    currentCheckpoint := c.currentCheckpoint.add (.ofInt 1) }

theorem createCheckpoint_eq (hactive : c.activeTree ≠ none) :
    (c.createCheckpoint sha256).2 =
      if c.config.maxHistoricalDepth.lt (.ofInt c.recorded.size) then
        (c.advanced.pruneHistoricalTree sha256 c.advanced.automaticIndex).2
      else c.advanced := by
  cases htree : c.activeTree with
  | none => exact absurd htree hactive
  | some tree =>
      unfold createCheckpoint advanced recorded checkpointRecord
      rw [htree]
      rfl

theorem createCheckpoint_of_none (hactive : c.activeTree = none) :
    (c.createCheckpoint sha256).2 = c := by
  unfold createCheckpoint checkpointRecord
  rw [hactive]
  rfl

theorem recorded_of_none (hactive : c.activeTree = none) : c.recorded = c.historicalTrees := by
  unfold recorded checkpointRecord
  rw [hactive]
  rfl

theorem entries_foldl_erase (es : List (JsNumber × HistoricalTree))
    (trees : OrderedMap JsNumber HistoricalTree) :
    (es.foldl (fun trees e => trees.erase e.1) trees).entries =
      trees.entries.filter fun e => e.1 ∉ es.map Prod.fst := by
  induction es generalizing trees with
  | nil => simp
  | cons e es ih =>
      rw [List.foldl_cons, ih, OrderedMap.erase, List.filter_filter]
      apply List.filter_congr
      intro other _
      by_cases hsame : other.1 = e.1 <;> simp [hsame]

theorem size_foldl_erase_entries (trees : OrderedMap JsNumber HistoricalTree) :
    (trees.entries.foldl (fun trees e => trees.erase e.1) trees).size = 0 := by
  rw [OrderedMap.size, entries_foldl_erase, List.length_eq_zero_iff, List.filter_eq_nil_iff]
  intro e he
  have hmem : e.1 ∈ trees.entries.map Prod.fst := List.mem_map_of_mem he
  simp only [hmem, not_true_eq_false, decide_false, Bool.false_eq_true, not_false_eq_true]

/-- What holds along every run. -/
structure Kept (config : CompactorConfig) (c : MerkleCompactor) : Prop where
  config : c.config = config
  noTree : c.activeTree = none → c.historicalTrees.size = 0

variable {config : CompactorConfig}

/-- A checkpoint keeps to the depth and leaves nothing negative exactly where it fits. -/
theorem createCheckpoint_iff (sha256 : Sha256) (hkept : Kept config c)
    (hdepth : (JsNumber.ofInt 1).le config.maxHistoricalDepth = true) (h : NotNegative c) :
    WithinDepth (c.createCheckpoint sha256).2 ∧ NotNegative (c.createCheckpoint sha256).2 ↔
      c.Fits .createCheckpoint := by
  have hzero : (JsNumber.ofInt (0 : ℕ)).le c.config.maxHistoricalDepth = true := by
    rw [hkept.config]
    exact JsNumber.le_trans (JsNumber.le_ofInt (by norm_num) (by norm_num) (by norm_num)) hdepth
  have hne : c.config.maxHistoricalDepth ≠ .nan := by
    intro hnan
    rw [hnan, JsNumber.le_nan] at hzero
    cases hzero
  rw [← hkept.config] at hdepth
  by_cases hactive : c.activeTree = none
  · have hfits : WithinDepth c := by rw [WithinDepth, hkept.noTree hactive]; exact hzero
    rw [createCheckpoint_of_none hactive, Fits, recorded_of_none hactive]
    exact ⟨fun _ => .inl hfits, fun _ => ⟨hfits, h⟩⟩
  · rw [createCheckpoint_eq hactive, Fits]
    split_ifs with hfull
    · have hover : ¬(JsNumber.ofInt c.recorded.size).le c.config.maxHistoricalDepth = true :=
        JsNumber.not_le_of_lt hfull
      rw [or_iff_right hover]
      by_cases hnan : c.currentCheckpoint = .nan
      · have hadvanced : c.advanced.currentCheckpoint = .nan := by
          rw [advanced, hnan]
          exact JsNumber.nan_add (.ofInt 1)
        obtain ⟨hrefuses, hbelow⟩ := treesBelow_nan hadvanced
        rw [prune_of_not_refuses hrefuses, hbelow, and_iff_right hnan]
        have hempty : WithinDepth { c.advanced with
            historicalTrees := c.advanced.historicalTrees.entries.foldl
              (fun trees e => trees.erase e.1) c.advanced.historicalTrees
            currentCheckpoint := c.advanced.targetIndex c.advanced.automaticIndex
            totalMemoryUsed := c.advanced.totalMemoryUsed.sub
              (leafBytes c.advanced.historicalTrees.entries) } := by
          rw [WithinDepth, size_foldl_erase_entries]
          exact hzero
        rw [and_iff_right hempty]
        exact notNegative_sub_iff
      · have hrefuses : c.advanced.Refuses c.advanced.automaticIndex :=
          refuses_automaticIndex (JsNumber.add_one_ne_nan hnan) hdepth hfull
        rw [prune_of_refuses hrefuses]
        exact ⟨fun hboth => absurd hboth.1 hover, fun hnan' => absurd hnan'.1 hnan⟩
    · have hfits : (JsNumber.ofInt c.recorded.size).le c.config.maxHistoricalDepth = true :=
        JsNumber.le_of_not_lt (JsNumber.ofRat_ne_nan _) hne hfull
      exact ⟨fun _ => .inl hfits, fun _ => ⟨hfits, h⟩⟩

theorem config_createCheckpoint : (c.createCheckpoint sha256).2.config = c.config := by
  by_cases hactive : c.activeTree = none
  · rw [createCheckpoint_of_none hactive]
  · rw [createCheckpoint_eq hactive]
    split_ifs
    · exact config_prune
    · rfl

theorem kept_call (hkept : Kept config c) (request : CompactorCall) :
    Kept config (c.call sha256 request) := by
  cases request with
  | addLeaf leaf => exact ⟨hkept.config, fun hnone => (by cases hnone)⟩
  | createCheckpoint =>
      refine ⟨config_createCheckpoint.trans hkept.config, fun hnone => ?_⟩
      have hactive : c.activeTree = none := (activeTree_createCheckpoint c).symm.trans hnone
      change (c.createCheckpoint sha256).2.historicalTrees.size = 0
      rw [createCheckpoint_of_none hactive]
      exact hkept.noTree hactive
  | pruneHistoricalTree k =>
      refine ⟨config_prune.trans hkept.config, fun hnone => ?_⟩
      have hactive : c.activeTree = none := (activeTree_pruneHistoricalTree c k).symm.trans hnone
      have hempty : c.historicalTrees.entries = [] :=
        List.length_eq_zero_iff.1 (hkept.noTree hactive)
      change (c.pruneHistoricalTree sha256 k).2.historicalTrees.size = 0
      by_cases hrefuses : c.Refuses k
      · rw [prune_of_refuses hrefuses]
        exact hkept.noTree hactive
      · rw [prune_of_not_refuses hrefuses, OrderedMap.size, entries_foldl_erase, hempty]
        rfl

/-- For every configuration of at least depth one and every run, every checkpoint keeps to the
depth and the memory usage is never negative exactly as long as every call fits. -/
theorem compactor_bounded_iff (sha256 : Sha256) (config : CompactorConfig)
    (hdepth : (JsNumber.ofInt 1).le config.maxHistoricalDepth = true)
    (calls : List CompactorCall) :
    (Run.EachStep (call sha256) (BoundsDepth sha256) { config := config } calls ∧
      Run.Throughout (call sha256) NotNegative { config := config } calls) ↔
      Run.EachStep (call sha256) Fits { config := config } calls := by
  apply Run.eachStep_and_throughout_iff (Kept config)
  · intro c request hkept _
    exact kept_call hkept request
  · intro c request hkept hnot
    cases request with
    | addLeaf leaf =>
        exact ⟨fun _ => trivial, fun _ => ⟨fun h => (by cases h), notNegative_addLeaf leaf hnot⟩⟩
    | createCheckpoint =>
        rw [← createCheckpoint_iff sha256 hkept hdepth hnot]
        exact and_congr_left fun _ => ⟨fun h => h rfl, fun h _ => h⟩
    | pruneHistoricalTree checkpointIndex =>
        rw [Fits, ← notNegative_prune_iff sha256 hnot]
        exact ⟨fun h => h.2, fun h => ⟨fun h => (by cases h), h⟩⟩
  · exact ⟨rfl, fun _ => rfl⟩
  · exact JsNumber.ofInt_lt_zero le_rfl

theorem compactor_bounded_iff_sample :
    Run.EachStep (call compactorSha256) (BoundsDepth compactorSha256) { config := {} }
        [.addLeaf firstDigest, .createCheckpoint] ∧
      Run.Throughout (call compactorSha256) NotNegative { config := {} }
        [.addLeaf firstDigest, .createCheckpoint] :=
  (compactor_bounded_iff compactorSha256 {} (by decide +kernel)
    [.addLeaf firstDigest, .createCheckpoint]).2
      ⟨trivial, .inl (by decide +kernel), trivial⟩

/-- A depth of one is exceeded by the second checkpoint; and two checkpoints of one leaf, dropped
together, take off more than the leaf counts. -/
theorem compactor_unbounded :
    ¬Run.EachStep (call compactorSha256) (BoundsDepth compactorSha256)
        { config := { maxHistoricalDepth := .ofInt 1 } }
        [.addLeaf firstDigest, .createCheckpoint, .createCheckpoint] ∧
      ¬NotNegative (Run.run (call compactorSha256)
        { config := { preserveRecentLeaves := .ofInt 0 } }
        [.addLeaf firstDigest, .createCheckpoint, .createCheckpoint,
          .pruneHistoricalTree (.ofInt 3)]) := by
  constructor
  · intro h
    exact absurd (h.2.2.1 rfl) (by unfold WithinDepth; decide +kernel)
  · unfold NotNegative
    decide +kernel

end MerkleCompactor

end UniverEscrow.Merkle
