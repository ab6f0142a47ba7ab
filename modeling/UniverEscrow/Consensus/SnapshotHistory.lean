import UniverEscrow.Consensus.EnclaveSnapshotManager
import UniverEscrow.Lib.Run
import UniverEscrow.Merkle.LedgerMerkle

/-!
# The history of snapshots

The manager keeps its last snapshots twice, in order of creation and by their ids.  A call that
throws leaves both as they were.
-/

namespace UniverEscrow.Consensus

open UniverEscrow.Js UniverEscrow.Merkle UniverEscrow.Lib

/-- A call of `createSnapshot`, with the UUID and the clock it draws. -/
structure SnapshotCall where
  snapshotId : String
  timestamp : JsNumber
  latestIndex : JsNumber
  latestTerm : JsNumber
  ledgerEntries : List JsValue
  quorumSignatures : List JsValue

def EpochStateSnapshot.id (snapshot : EpochStateSnapshot) : String :=
  snapshot.metadata.snapshotId

/-- The last `n` of a list. -/
def lastOf {α : Type} (n : ℕ) (xs : List α) : List α := xs.drop (xs.length - n)

theorem lastOf_append_singleton {α : Type} {n : ℕ} (hn : 0 < n) (xs : List α) (x : α) :
    lastOf n (xs ++ [x]) =
      if n < (lastOf n xs ++ [x]).length then (lastOf n xs ++ [x]).tail
      else lastOf n xs ++ [x] := by
  unfold lastOf
  rw [List.length_append, List.length_append, List.length_drop, List.length_singleton]
  split_ifs with hfull
  · rw [← List.drop_append_of_le_length (by omega), ← List.drop_one, List.drop_drop]
    congr 1
    omega
  · rw [List.drop_append_of_le_length (by omega)]
    congr 2
    omega

namespace EnclaveSnapshotManager

variable (sha256 : Sha256)

/-- What a call creates, whatever the manager holds. -/
def created? (call : SnapshotCall) : Option EpochStateSnapshot :=
  (getInstance.createSnapshot sha256 call.snapshotId call.timestamp call.latestIndex
    call.latestTerm call.ledgerEntries call.quorumSignatures).map Prod.fst

/-- The manager after a call; one that throws leaves it as it was. -/
def create (manager : EnclaveSnapshotManager) (call : SnapshotCall) : EnclaveSnapshotManager :=
  ((manager.createSnapshot sha256 call.snapshotId call.timestamp call.latestIndex
    call.latestTerm call.ledgerEntries call.quorumSignatures).map Prod.snd).getD manager

/-- The fold of the hashes of a path. -/
def foldPath : List String → String
  | [] => sha256Hex sha256 "EMPTY"
  | hash :: hashes =>
      hashes.foldl (fun current hash => sha256Hex sha256 (current ++ hash)) hash

theorem createSnapshot_eq (manager : EnclaveSnapshotManager) (call : SnapshotCall) :
    manager.createSnapshot sha256 call.snapshotId call.timestamp call.latestIndex
        call.latestTerm call.ledgerEntries call.quorumSignatures =
      (created? sha256 call).map fun snapshot => (snapshot, manager.remember snapshot) := by
  unfold created? createSnapshot
  cases computeMerkleRoot sha256 call.ledgerEntries with
  | none => rfl
  | some root =>
      cases computeMerklePath sha256 call.ledgerEntries with
      | none => rfl
      | some path => rfl

theorem create_eq (manager : EnclaveSnapshotManager) (call : SnapshotCall) :
    manager.create sha256 call =
      ((created? sha256 call).map manager.remember).getD manager := by
  rw [create, createSnapshot_eq]
  cases created? sha256 call <;> rfl

theorem foldPath_map (texts : List String) :
    foldPath sha256 (texts.map (sha256Hex sha256)) = (foldEntryTexts sha256 texts).text := by
  cases texts with
  | nil => rfl
  | cons text texts =>
      have hfold (current : HexDigest) : (texts.map (sha256Hex sha256)).foldl
          (fun current hash => sha256Hex sha256 (current ++ hash)) current.text =
            (texts.foldl (fun current t => sha256 (digestPair current (sha256 t)))
              current).text := by
        rw [List.foldl_map]
        induction texts generalizing current with
        | nil => rfl
        | cons t texts ih => exact ih (sha256 (digestPair current (sha256 t)))
      exact hfold (sha256 text)

/-- The root and the path of a snapshot are made of the same texts. -/
theorem merkleRootHash_of_created {call : SnapshotCall} {snapshot : EpochStateSnapshot}
    (h : created? sha256 call = some snapshot) :
    snapshot.metadata.merkleRootHash = foldPath sha256 snapshot.merklePath := by
  unfold created? createSnapshot computeMerkleRoot computeMerklePath at h
  cases htexts : call.ledgerEntries.mapM JsValue.jsonText? with
  | none =>
      rw [htexts] at h
      cases h
  | some texts =>
      rw [htexts] at h
      cases h
      exact (foldPath_map sha256 texts).symm

/-! ## The two copies agree -/

/-- The history is what was created last, and the index finds the same. -/
structure Retains (manager : EnclaveSnapshotManager) (created : List EpochStateSnapshot) :
    Prop where
  history : manager.snapshotHistory = lastOf maxSnapshotHistory created
  index : ∀ id snapshot, manager.snapshots.get? id = some snapshot ↔
    snapshot ∈ manager.snapshotHistory ∧ snapshot.id = id

variable {sha256} {manager : EnclaveSnapshotManager} {created : List EpochStateSnapshot}
  {snapshot : EpochStateSnapshot}

theorem retains_getInstance : Retains getInstance [] where
  history := rfl
  index := by simp [getInstance, OrderedMap.empty, OrderedMap.get?]

/-- The index after a new id, before anything is dropped. -/
theorem get?_set_iff (hretains : Retains manager created)
    (hfresh : snapshot.id ∉ manager.snapshotHistory.map EpochStateSnapshot.id) (id : String)
    (s : EpochStateSnapshot) :
    (manager.snapshots.set snapshot.id snapshot).get? id = some s ↔
      s ∈ manager.snapshotHistory ++ [snapshot] ∧ s.id = id := by
  rw [OrderedMap.get?_set, List.mem_append, List.mem_singleton]
  split_ifs with hid
  · constructor
    · intro h
      cases h
      exact ⟨.inr rfl, hid.symm⟩
    · intro h
      rcases h.1 with hmem | rfl
      · exact absurd (List.mem_map.2 ⟨s, hmem, h.2.trans hid⟩) hfresh
      · rfl
  · rw [hretains.index]
    constructor
    · intro h
      exact ⟨.inl h.1, h.2⟩
    · intro h
      rcases h.1 with hmem | rfl
      · exact ⟨hmem, h.2⟩
      · exact absurd h.2.symm hid

/-- The index without the oldest id, which no other snapshot has. -/
theorem get?_erase_iff {index : OrderedMap String EpochStateSnapshot}
    {oldest : EpochStateSnapshot} {history : List EpochStateSnapshot}
    (hids : ((oldest :: history).map EpochStateSnapshot.id).Nodup)
    (hindex : ∀ id s, index.get? id = some s ↔ s ∈ oldest :: history ∧ s.id = id) (id : String)
    (s : EpochStateSnapshot) :
    (index.erase oldest.id).get? id = some s ↔ s ∈ history ∧ s.id = id := by
  have hne : ∀ other ∈ history, other.id ≠ oldest.id := by
    rw [List.map_cons, List.nodup_cons] at hids
    intro other hother hid
    exact hids.1 (List.mem_map.2 ⟨other, hother, hid⟩)
  rw [OrderedMap.get?_erase]
  split_ifs with hid
  · constructor
    · intro h
      cases h
    · intro h
      exact absurd (h.2.trans hid) (hne s h.1)
  · refine (hindex id s).trans ?_
    constructor
    · intro h
      rcases List.mem_cons.1 h.1 with rfl | hmem
      · exact absurd h.2.symm hid
      · exact ⟨hmem, h.2⟩
    · intro h
      exact ⟨List.mem_cons_of_mem oldest h.1, h.2⟩

theorem retains_remember (hretains : Retains manager created)
    (hnodup : ((created ++ [snapshot]).map EpochStateSnapshot.id).Nodup) :
    Retains (manager.remember snapshot) (created ++ [snapshot]) := by
  have hsub : (manager.snapshotHistory ++ [snapshot]).Sublist (created ++ [snapshot]) := by
    rw [hretains.history]
    exact (List.drop_sublist _ _).append_right _
  have hids := hnodup.sublist (hsub.map EpochStateSnapshot.id)
  have hfresh : snapshot.id ∉ manager.snapshotHistory.map EpochStateSnapshot.id := by
    rw [List.map_append, List.nodup_append] at hids
    intro hmem
    exact hids.2.2 _ hmem _ (List.mem_singleton_self _) rfl
  have hindex := get?_set_iff hretains hfresh
  have hlast := lastOf_append_singleton (n := maxSnapshotHistory) (by decide) created snapshot
  rw [← hretains.history] at hlast
  unfold remember
  dsimp only
  split_ifs with hfull
  · rw [if_pos hfull] at hlast
    cases hhistory : manager.snapshotHistory ++ [snapshot] with
    | nil => simp at hhistory
    | cons oldest history =>
        rw [hhistory] at hlast hids hindex
        exact ⟨hlast.symm, get?_erase_iff hids hindex⟩
  · rw [if_neg hfull] at hlast
    exact ⟨hlast.symm, hindex⟩

theorem retains_run (calls : List SnapshotCall) (hretains : Retains manager created)
    (hnodup : ((created ++ calls.filterMap (created? sha256)).map EpochStateSnapshot.id).Nodup) :
    Retains (Run.run (create sha256) manager calls)
      (created ++ calls.filterMap (created? sha256)) := by
  induction calls generalizing manager created with
  | nil =>
      rw [List.filterMap_nil, List.append_nil]
      exact hretains
  | cons call calls ih =>
      rw [Run.run_cons, create_eq]
      cases hcreated : created? sha256 call with
      | none =>
          rw [List.filterMap_cons_none hcreated] at hnodup ⊢
          exact ih hretains hnodup
      | some snapshot =>
          rw [List.filterMap_cons_some hcreated, ← List.singleton_append,
            ← List.append_assoc] at hnodup ⊢
          refine ih (retains_remember hretains ?_) hnodup
          rw [List.map_append] at hnodup
          exact hnodup.of_append_left

theorem id_of_created {call : SnapshotCall} (h : created? sha256 call = some snapshot) :
    snapshot.id = call.snapshotId := by
  unfold created? createSnapshot at h
  cases hroot : computeMerkleRoot sha256 call.ledgerEntries with
  | none => rw [hroot] at h; cases h
  | some root =>
      cases hpath : computeMerklePath sha256 call.ledgerEntries with
      | none => rw [hroot, hpath] at h; cases h
      | some path =>
          rw [hroot, hpath] at h
          cases h
          rfl

theorem ids_sublist (calls : List SnapshotCall) :
    ((calls.filterMap (created? sha256)).map EpochStateSnapshot.id).Sublist
      (calls.map SnapshotCall.snapshotId) := by
  induction calls with
  | nil => exact List.Sublist.refl _
  | cons call calls ih =>
      rw [List.map_cons]
      cases hcreated : created? sha256 call with
      | none =>
          rw [List.filterMap_cons_none hcreated]
          exact ih.cons _
      | some snapshot =>
          rw [List.filterMap_cons_some hcreated, List.map_cons, id_of_created hcreated]
          exact ih.cons_cons _

/-- After any calls that drew distinct ids, the history is the last ten snapshots created, the
index finds exactly these, the latest is the last of them, and every root is the fold of its
path. -/
theorem snapshot_history_agrees (sha256 : Sha256) (calls : List SnapshotCall)
    (hdistinct : (calls.map SnapshotCall.snapshotId).Nodup) :
    let created := calls.filterMap (created? sha256)
    let manager := Run.run (create sha256) getInstance calls
    manager.getSnapshotHistory = created.drop (created.length - min created.length 10) ∧
      (∀ id snapshot, manager.getSnapshot id = some snapshot ↔
        snapshot ∈ manager.getSnapshotHistory ∧ snapshot.id = id) ∧
      manager.getLatestSnapshot = manager.getSnapshotHistory.getLast? ∧
      manager.getLatestSnapshot = created.getLast? ∧
      ∀ snapshot ∈ created,
        snapshot.metadata.merkleRootHash = foldPath sha256 snapshot.merklePath := by
  intro created manager
  have hretains : Retains manager created := by
    apply retains_run calls retains_getInstance
    rw [List.nil_append]
    exact hdistinct.sublist (ids_sublist calls)
  have hhistory : manager.snapshotHistory =
      created.drop (created.length - min created.length 10) := by
    rw [hretains.history, lastOf, maxSnapshotHistory]
    congr 1
    omega
  have hlatest : manager.snapshotHistory.getLast? = created.getLast? := by
    rw [hhistory, List.getLast?_drop]
    split_ifs with hempty
    · have hnil : created = [] := List.length_eq_zero_iff.1 (by omega)
      rw [hnil, List.getLast?_nil]
    · rfl
  refine ⟨hhistory, hretains.index, rfl, hlatest, ?_⟩
  intro snapshot hsnapshot
  obtain ⟨call, -, hcreated⟩ := List.mem_filterMap.1 hsnapshot
  exact merkleRootHash_of_created sha256 hcreated

def sampleSnapshotCall (i : ℕ) : SnapshotCall where
  snapshotId := String.ofList (List.replicate i 's')
  timestamp := .ofInt 1000
  latestIndex := .ofInt i
  latestTerm := .ofInt 1
  ledgerEntries := []
  quorumSignatures := []

/-- Of eleven snapshots the history keeps ten. -/
theorem snapshot_history_agrees_eleven :
    (Run.run (create sampleSha256) getInstance
      ((List.range 11).map sampleSnapshotCall)).getSnapshotHistory.length = 10 := by
  rw [(snapshot_history_agrees sampleSha256 ((List.range 11).map sampleSnapshotCall)
    (by decide)).1]
  rfl

end EnclaveSnapshotManager

end UniverEscrow.Consensus
