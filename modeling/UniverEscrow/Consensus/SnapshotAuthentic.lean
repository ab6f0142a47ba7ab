import UniverEscrow.Consensus.EnclaveSnapshotManager
import UniverEscrow.Consensus.QuorumThreshold

/-!
# Authentic snapshots

The class comment says when a quorum share is valid; validation computes no hash.  So whatever a
snapshot commits to can be replaced and the snapshot is accepted as before.
-/

namespace UniverEscrow.Js.JsValue

open UniverEscrow.Lib

/-- The object with one member replaced or added. -/
def withMember (v : JsValue) (key : String) (value : JsValue) : JsValue :=
  match v with
  | .obj members => .obj (KeyedList.upsertBy Prod.fst (key, value) members)
  | v => v

variable {members : List (String × JsValue)} {key : String} {value : JsValue}

theorem get_withMember (key' : String) :
    ((JsValue.obj members).withMember key value).get key' =
      if key' = key then value else (JsValue.obj members).get key' := by
  simp only [withMember, get, KeyedList.find?_upsertBy]
  split_ifs <;> rfl

theorem get_withMember_self : ((JsValue.obj members).withMember key value).get key = value := by
  rw [get_withMember, if_pos rfl]

theorem get_withMember_of_ne {key' : String} (h : key' ≠ key) :
    ((JsValue.obj members).withMember key value).get key' = (JsValue.obj members).get key' := by
  rw [get_withMember, if_neg h]

end UniverEscrow.Js.JsValue

namespace UniverEscrow.Consensus

open UniverEscrow.Js UniverEscrow.Merkle UniverEscrow.Lib

variable (sha256 : Sha256)

/-! ## What a snapshot should carry -/

/-- `sha256(domain || nodeId || term || merkleRootHash)`. -/
def quorumShare (nodeId : String) (term : JsNumber) (merkleRootHash : String) : String :=
  sha256Hex sha256 (EnclaveSnapshotManager.signatureDomainSeparator ++ nodeId ++ term.toText ++
    merkleRootHash)

/-- The signature is the node's share for the root. -/
def IsQuorumShare (merkleRootHash nodeId : String) (sig : JsValue) : Prop :=
  ∃ term, sig.get "nodeId" = .str nodeId ∧ sig.get "term" = .num term ∧
    sig.get "signature" = .str (quorumShare sha256 nodeId term merkleRootHash)

/-- The root a list of entry hashes folds to. -/
def foldMerklePath : List String → String
  | [] => sha256Hex sha256 "EMPTY"
  | hash :: hashes =>
      hashes.foldl (fun current entryHash => sha256Hex sha256 (current ++ entryHash)) hash

/-- Shares for the root from `2 f + 1` different nodes. -/
def HasQuorum (clusterSize : ℤ) (merkleRootHash : String) (signatures : List JsValue) : Prop :=
  ∃ signers : List String, signers.Nodup ∧
    (quorumThreshold clusterSize).threshold ≤ signers.length ∧
    ∀ nodeId ∈ signers, ∃ sig ∈ signatures, IsQuorumShare sha256 merkleRootHash nodeId sig

structure CarriesQuorum (clusterSize : ℤ) (snapshot : JsValue) (hashes : List String)
    (signatures : List JsValue) : Prop where
  merklePath : snapshot.get "merklePath" = .arr (hashes.map JsValue.str)
  merkleRootHash : (snapshot.get "metadata").get "merkleRootHash" =
    .str (foldMerklePath sha256 hashes)
  quorumSignatures : snapshot.get "quorumSignatures" = .arr signatures
  quorum : HasQuorum sha256 clusterSize (foldMerklePath sha256 hashes) signatures

/-- The root is the fold of the path and a quorum of nodes signed it. -/
def Authentic (clusterSize : ℤ) (snapshot : JsValue) : Prop :=
  ∃ hashes signatures, CarriesQuorum sha256 clusterSize snapshot hashes signatures

/-- A snapshot in which the root, the path or one signature is replaced. -/
inductive Tampers (snapshot : JsValue) : JsValue → Prop
  | merkleRootHash (members : List (String × JsValue)) (root : JsValue)
      (hmetadata : snapshot.get "metadata" = .obj members)
      (hroot : (snapshot.get "metadata").get "merkleRootHash" ≠ root) :
      Tampers snapshot (snapshot.withMember "metadata"
        ((snapshot.get "metadata").withMember "merkleRootHash" root))
  | merklePath (path : List JsValue) (hpath : snapshot.get "merklePath" ≠ .arr path) :
      Tampers snapshot (snapshot.withMember "merklePath" (.arr path))
  | signature (before : List JsValue) (sig : JsValue) (after : List JsValue) (text : String)
      (hsignatures : snapshot.get "quorumSignatures" = .arr (before ++ sig :: after))
      (hsig : sig.get "signature" ≠ .str text) :
      Tampers snapshot (snapshot.withMember "quorumSignatures"
        (.arr (before ++ sig.withMember "signature" (.str text) :: after)))

variable {sha256} {snapshot : JsValue} {signatures : List JsValue}

/-- The root and the path of a created snapshot are of the same entries. -/
theorem foldMerklePath_map (texts : List String) :
    foldMerklePath sha256 (texts.map (sha256Hex sha256)) = (foldEntryTexts sha256 texts).text := by
  cases texts with
  | nil => rfl
  | cons text texts =>
      simp only [List.map_cons, foldMerklePath, foldEntryTexts, HashChain.foldDigests, sha256Hex]
      generalize sha256 text = current
      induction texts generalizing current with
      | nil => rfl
      | cons next texts ih =>
          rw [List.map_cons, List.foldl_cons, List.foldl_cons]
          exact ih (sha256 (digestPair current (sha256 next)))

/-- A snapshot created with a quorum of shares for its root is authentic. -/
theorem authentic_createSnapshot {manager manager' : EnclaveSnapshotManager}
    {created : EpochStateSnapshot} {snapshotId : String}
    {timestamp latestIndex latestTerm : JsNumber} {ledgerEntries : List JsValue} {clusterSize : ℤ}
    (h : manager.createSnapshot sha256 snapshotId timestamp latestIndex latestTerm ledgerEntries
      signatures = some (created, manager'))
    (hquorum : HasQuorum sha256 clusterSize created.metadata.merkleRootHash signatures) :
    Authentic sha256 clusterSize created.toJs := by
  rw [EnclaveSnapshotManager.createSnapshot, EnclaveSnapshotManager.computeMerkleRoot,
    EnclaveSnapshotManager.computeMerklePath] at h
  cases htexts : ledgerEntries.mapM JsValue.jsonText? with
  | none =>
      rw [htexts] at h
      cases h
  | some texts =>
      rw [htexts] at h
      cases h
      refine ⟨texts.map (sha256Hex sha256), signatures, rfl, ?_, rfl, ?_⟩
      · rw [foldMerklePath_map]
        rfl
      · rw [foldMerklePath_map]
        exact hquorum

/-! ## What validation lets through -/

open EnclaveSnapshotManager (hasSignatureFormat WellFormedSnapshot accepts accepts_iff)

theorem exists_eq_obj_of_hasSignatureFormat {sig : JsValue} (h : hasSignatureFormat sig = true) :
    ∃ members, sig = .obj members := by
  apply JsValue.exists_eq_obj_of_get_ne "nodeId" (by decide)
  intro hnodeId
  rw [hasSignatureFormat, hnodeId] at h
  cases h

theorem exists_eq_obj_of_wellFormed (h : WellFormedSnapshot snapshot signatures) :
    ∃ members, snapshot = .obj members := by
  apply JsValue.exists_eq_obj_of_get_ne "quorumSignatures" (by decide)
  rw [h.quorumSignatures]
  exact JsValue.noConfusion

theorem hasSignatureFormat_withMember {sig : JsValue} {text : String} (htext : text ≠ "")
    (h : hasSignatureFormat sig = true) :
    hasSignatureFormat (sig.withMember "signature" (.str text)) = true := by
  obtain ⟨members, rfl⟩ := exists_eq_obj_of_hasSignatureFormat h
  rw [hasSignatureFormat, Bool.and_eq_true, Bool.and_eq_true] at h
  obtain ⟨⟨hnodeId, -⟩, hterm⟩ := h
  rw [hasSignatureFormat, JsValue.get_withMember_of_ne (by decide), JsValue.get_withMember_self,
    JsValue.get_withMember_of_ne (by decide), hnodeId, hterm]
  simpa using htext

/-- What replaces a member with one that passes the same checks is accepted. -/
theorem wellFormed_withRoot {members : List (String × JsValue)} (root : JsValue)
    (h : WellFormedSnapshot snapshot signatures)
    (hmetadata : snapshot.get "metadata" = .obj members) :
    WellFormedSnapshot (snapshot.withMember "metadata"
      ((snapshot.get "metadata").withMember "merkleRootHash" root)) signatures := by
  obtain ⟨fields, rfl⟩ := exists_eq_obj_of_wellFormed h
  constructor
  · rw [JsValue.get_withMember_self, hmetadata]
    rfl
  · rw [JsValue.get_withMember_of_ne (by decide)]
    exact h.quorumSignatures
  · exact h.two_le
  · exact h.format
  · rw [JsValue.get_withMember_of_ne (by decide)]
    exact h.merklePath

theorem wellFormed_withPath (path : List JsValue) (h : WellFormedSnapshot snapshot signatures) :
    WellFormedSnapshot (snapshot.withMember "merklePath" (.arr path)) signatures := by
  obtain ⟨fields, rfl⟩ := exists_eq_obj_of_wellFormed h
  constructor
  · rw [JsValue.get_withMember_of_ne (by decide)]
    exact h.metadata
  · rw [JsValue.get_withMember_of_ne (by decide)]
    exact h.quorumSignatures
  · exact h.two_le
  · exact h.format
  · rw [JsValue.get_withMember_self]
    rfl

theorem wellFormed_withSignature {before after : List JsValue} {sig : JsValue} {text : String}
    (htext : text ≠ "") (h : WellFormedSnapshot snapshot (before ++ sig :: after)) :
    WellFormedSnapshot (snapshot.withMember "quorumSignatures"
        (.arr (before ++ sig.withMember "signature" (.str text) :: after)))
      (before ++ sig.withMember "signature" (.str text) :: after) := by
  obtain ⟨fields, rfl⟩ := exists_eq_obj_of_wellFormed h
  have hlength := h.two_le
  have hformat := h.format
  rw [List.forall_mem_append, List.forall_mem_cons] at hformat
  constructor
  · rw [JsValue.get_withMember_of_ne (by decide)]
    exact h.metadata
  · rw [JsValue.get_withMember_self]
  · rw [List.length_append, List.length_cons] at hlength ⊢
    exact hlength
  · rw [List.forall_mem_append, List.forall_mem_cons]
    exact ⟨hformat.1, hasSignatureFormat_withMember htext hformat.2.1, hformat.2.2⟩
  · rw [JsValue.get_withMember_of_ne (by decide)]
    exact h.merklePath

/-- Validation notices no replacement except a signature blanked. -/
theorem accepts_of_tampers {snapshot' : JsValue} (ht : Tampers snapshot snapshot')
    (h : accepts snapshot = true)
    (hblank : ∀ sigs, snapshot'.get "quorumSignatures" = .arr sigs →
      ∀ sig ∈ sigs, sig.get "signature" ≠ .str "") :
    accepts snapshot' = true := by
  obtain ⟨signatures, hformed⟩ := accepts_iff.1 h
  obtain ⟨fields, rfl⟩ := exists_eq_obj_of_wellFormed hformed
  cases ht with
  | merkleRootHash members root hmetadata hroot =>
      exact accepts_iff.2 ⟨_, wellFormed_withRoot root hformed hmetadata⟩
  | merklePath path hpath => exact accepts_iff.2 ⟨_, wellFormed_withPath path hformed⟩
  | signature before sig after text hsignatures hsig =>
      obtain rfl : signatures = before ++ sig :: after :=
        JsValue.arr.inj (hformed.quorumSignatures.symm.trans hsignatures)
      refine accepts_iff.2 ⟨_, wellFormed_withSignature ?_ hformed⟩
      rintro rfl
      obtain ⟨members, rfl⟩ :=
        exists_eq_obj_of_hasSignatureFormat (hformed.format sig (by simp))
      exact hblank _ JsValue.get_withMember_self _
        (List.mem_append_right before List.mem_cons_self) JsValue.get_withMember_self

/-- Every accepted snapshot has an accepted one with another path. -/
theorem exists_tampers_accepted (h : WellFormedSnapshot snapshot signatures) :
    ∃ snapshot', Tampers snapshot snapshot' ∧ accepts snapshot' = true := by
  cases hpath : snapshot.get "merklePath" with
  | arr items =>
      refine ⟨_, .merklePath (.null :: items) ?_,
        accepts_iff.2 ⟨_, wellFormed_withPath (.null :: items) h⟩⟩
      rw [hpath]
      intro heq
      exact List.cons_ne_self _ _ (JsValue.arr.inj heq).symm
  | _ =>
      have harray := h.merklePath
      rw [hpath] at harray
      cases harray

/-- Validation keeps what it promises only for snapshots it refuses: for every cluster size, an
accepted snapshot can be tampered with, and it is authentic where the checks that validation leaves
out hold. -/
theorem snapshot_authentic_iff (sha256 : Sha256) (clusterSize : ℤ) (snapshot : JsValue) :
    ((accepts snapshot = true → Authentic sha256 clusterSize snapshot ∧
        ∀ snapshot', Tampers snapshot snapshot' → accepts snapshot' = false) ↔
      ¬ ∃ signatures, WellFormedSnapshot snapshot signatures) ∧
    ((accepts snapshot = true → Authentic sha256 clusterSize snapshot) ↔
      ∀ signatures, WellFormedSnapshot snapshot signatures →
        ∃ hashes, CarriesQuorum sha256 clusterSize snapshot hashes signatures) := by
  constructor
  · constructor
    · rintro h ⟨signatures, hformed⟩
      obtain ⟨snapshot', htampers, haccepted⟩ := exists_tampers_accepted hformed
      have hrefused := (h (accepts_iff.2 ⟨_, hformed⟩)).2 snapshot' htampers
      rw [haccepted] at hrefused
      cases hrefused
    · intro h haccepted
      exact absurd (accepts_iff.1 haccepted) h
  · constructor
    · intro h signatures hformed
      obtain ⟨hashes, signatures', hquorum⟩ := h (accepts_iff.2 ⟨_, hformed⟩)
      obtain rfl : signatures = signatures' :=
        JsValue.arr.inj (hformed.quorumSignatures.symm.trans hquorum.quorumSignatures)
      exact ⟨hashes, hquorum⟩
    · intro h haccepted
      obtain ⟨signatures, hformed⟩ := accepts_iff.1 haccepted
      obtain ⟨hashes, hquorum⟩ := h signatures hformed
      exact ⟨hashes, signatures, hquorum⟩

/-- Two made-up signatures of one node under a made-up root. -/
def forgedSnapshot : JsValue :=
  .obj [("metadata", .obj [("latestIndex", .num (.ofInt 50)), ("merkleRootHash", "forged")]),
    ("quorumSignatures", .arr [
      .obj [("nodeId", "node_1"), ("signature", "made up"), ("term", .num (.ofInt 1))],
      .obj [("nodeId", "node_1"), ("signature", "made up"), ("term", .num (.ofInt 1))]]),
    ("merklePath", .arr [])]

/-- In a cluster of four it is accepted, whatever SHA-256 computes. -/
theorem forged_snapshot_accepted :
    accepts forgedSnapshot = true ∧ ∀ sha256 : Sha256, ¬ Authentic sha256 4 forgedSnapshot := by
  refine ⟨by decide, ?_⟩
  rintro sha256 ⟨hashes, signatures, hquorum⟩
  obtain ⟨signers, hnodup, hthreshold, hshares⟩ := hquorum.quorum
  have hsigners : ∀ nodeId ∈ signers, nodeId = "node_1" := by
    intro nodeId hnodeId
    obtain ⟨sig, hsig, term, hid, -, -⟩ := hshares nodeId hnodeId
    rw [← JsValue.arr.inj hquorum.quorumSignatures] at hsig
    simp only [List.mem_cons, List.not_mem_nil, or_false, or_self] at hsig
    rw [hsig] at hid
    exact (JsValue.str.inj hid).symm
  have hone : signers.length ≤ 1 := by
    rw [List.eq_replicate_of_mem hsigners, List.nodup_replicate] at hnodup
    exact hnodup
  have hthree : (quorumThreshold 4).threshold = 3 := rfl
  omega

end UniverEscrow.Consensus
