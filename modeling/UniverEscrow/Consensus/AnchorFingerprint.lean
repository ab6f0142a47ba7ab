import UniverEscrow.Consensus.EnclaveTimeAnchorService

/-!
# Fingerprints of time anchors

The service hashes the anchor's members with a domain tag, the verification engine without one.
-/

namespace UniverEscrow.Consensus

open UniverEscrow.Js UniverEscrow.Merkle

/-- The text the verification engine hashes for an anchor. -/
def recomputedText (anchor : MedianTimeAnchor) : String :=
  JsValue.stringify (.obj [("anchorMs", .num anchor.anchorMs),
    ("includedNodeIds", nodeIdsToJs anchor.includedNodeIds),
    ("outlierNodeIds", nodeIdsToJs anchor.outlierNodeIds)])

def MedianTimeAnchor.text (anchor : MedianTimeAnchor) : String :=
  EnclaveTimeAnchorService.fingerprintText anchor.anchorMs anchor.includedNodeIds
    anchor.outlierNodeIds

theorem anchorFingerprint_toJs (sha256 : Sha256) (anchor : MedianTimeAnchor) :
    anchorFingerprint sha256 anchor.toJs = sha256Hex sha256 (recomputedText anchor) := rfl

/-- A proposal that passes every structural check but those on its anchor. -/
structure OtherwiseValid (proposal : JsValue) : Prop where
  present : proposal.truthy = true
  transactionId : ∃ s, proposal.get "transactionId" = .str s ∧ s ≠ ""
  commitment : ∃ s, proposal.get "commitment" = .str s ∧ s ≠ ""
  consensusTerm : ∃ x, proposal.get "consensusTerm" = .num (.fin x)
  index : ∃ x, proposal.get "index" = .num (.fin x)
  zkObject : (proposal.get "zkPublicCommitment").isObject = true
  zkCommitment : ∃ s, (proposal.get "zkPublicCommitment").get "commitment" = .str s ∧ s ≠ ""
  hybridObject : (proposal.get "hybridSignature").isObject = true
  classicalSignature :
    ∃ s, (proposal.get "hybridSignature").get "classicalSignature" = .str s ∧ s ≠ ""
  pqcSignature : ∃ s, (proposal.get "hybridSignature").get "pqcSignature" = .str s ∧ s ≠ ""
  timeLocksObject : (proposal.get "timeLocks").isObject = true
  validAfterMs : ∃ x, (proposal.get "timeLocks").get "validAfterMs" = .num (.fin x)
  validUntilMs : ∃ x, (proposal.get "timeLocks").get "validUntilMs" = .num (.fin x)
  record : (proposal.get "record").truthy = true

theorem verifyProposalStructurally_isOk_iff {sha256 : Sha256} {proposal anchor : JsValue}
    (hvalid : OtherwiseValid proposal)
    (hanchor : (proposal.get "timeLocks").get "quorumMedianAnchor" = anchor) :
    (∃ checked, verifyProposalStructurally sha256 proposal = .ok checked) ↔
      anchor.truthy = true ∧ (∃ x, anchor.get "anchorMs" = .num (.fin x)) ∧
        ∃ s, (anchor.get "anchorFingerprint" = .str s ∧ s ≠ "") ∧
          anchorFingerprint sha256 anchor = s := by
  simp only [verifyProposalStructurally, bind_eq_ok, require_eq_ok, exists_const,
    nonEmptyString_eq_ok, finiteNumber_eq_ok, hanchor, decide_eq_true_eq]
  constructor
  · rintro ⟨_, -, _, -, _, -, _, -, _, -, -, _, -, -, _, -, _, -, -, _, -, _, -, htruthy, x, hms,
      s, hs, heq, -, -⟩
    exact ⟨htruthy, ⟨x, hms⟩, s, hs, heq⟩
  · rintro ⟨htruthy, ⟨x, hms⟩, s, hs, heq⟩
    obtain ⟨tx, htx⟩ := hvalid.transactionId
    obtain ⟨commitment, hcommitment⟩ := hvalid.commitment
    obtain ⟨term, hterm⟩ := hvalid.consensusTerm
    obtain ⟨index, hindex⟩ := hvalid.index
    obtain ⟨zk, hzk⟩ := hvalid.zkCommitment
    obtain ⟨classical, hclassical⟩ := hvalid.classicalSignature
    obtain ⟨pqc, hpqc⟩ := hvalid.pqcSignature
    obtain ⟨after, hafter⟩ := hvalid.validAfterMs
    obtain ⟨til, htil⟩ := hvalid.validUntilMs
    exact ⟨_, hvalid.present, tx, htx, commitment, hcommitment, term, hterm, index, hindex,
      hvalid.zkObject, zk, hzk, hvalid.hybridObject, classical, hclassical, pqc, hpqc,
      hvalid.timeLocksObject, after, hafter, til, htil, htruthy, x, hms, s, hs, heq,
      hvalid.record, rfl⟩

/-! ## The two texts -/

theorem sortByKey_anchorMembers {β : Type*} (domain ms included outliers : β) :
    JsValue.sortByKey [("domain", domain), ("anchorMs", ms), ("includedNodeIds", included),
        ("outlierNodeIds", outliers)] =
      [("anchorMs", ms), ("domain", domain), ("includedNodeIds", included),
        ("outlierNodeIds", outliers)] := by
  simp [JsValue.sortByKey, List.insertionSort, List.orderedInsert,
    show JsValue.keyLe "domain" "anchorMs" = false by decide,
    show JsValue.keyLe "domain" "includedNodeIds" = true by decide,
    show JsValue.keyLe "anchorMs" "includedNodeIds" = true by decide,
    show JsValue.keyLe "includedNodeIds" "outlierNodeIds" = true by decide]

theorem text_eq (anchor : MedianTimeAnchor) :
    anchor.text =
      "\x7b" ++ (quote "anchorMs" ++ ":" ++ anchor.anchorMs.toText ++ "," ++
        (quote "domain" ++ ":" ++ quote "ENCLAVE_MEDIAN_TIME_ANCHOR" ++ "," ++
          (quote "includedNodeIds" ++ ":" ++
              stableStringify (nodeIdsToJs anchor.includedNodeIds) ++ "," ++
            (quote "outlierNodeIds" ++ ":" ++
              stableStringify (nodeIdsToJs anchor.outlierNodeIds))))) ++ "\x7d" := by
  rw [MedianTimeAnchor.text, EnclaveTimeAnchorService.fingerprintText, stableStringify,
    Admin.canonicalizeJsonStable]
  simp [Admin.canonicalMembers, sortByKey_anchorMembers, Admin.canonicalizeJsonStable,
    stableStringify]

theorem recomputedText_eq (anchor : MedianTimeAnchor) :
    recomputedText anchor =
      "\x7b" ++ (quote "anchorMs" ++ ":" ++ JsValue.numberJson anchor.anchorMs ++ "," ++
        (quote "includedNodeIds" ++ ":" ++
            JsValue.stringify (nodeIdsToJs anchor.includedNodeIds) ++ "," ++
          (quote "outlierNodeIds" ++ ":" ++
            JsValue.stringify (nodeIdsToJs anchor.outlierNodeIds)))) ++ "\x7d" := by
  rw [recomputedText, JsValue.stringify]
  simp [JsValue.memberJsons, JsValue.stringify, nodeIdsToJs]

/-- After the number one text goes on with the domain and the other with the node ids. -/
theorem recomputedText_ne_text (anchor : MedianTimeAnchor) :
    recomputedText anchor ≠ anchor.text := by
  intro h
  have hchars := congrArg String.toList h
  simp only [text_eq, recomputedText_eq, String.toList_append, List.append_assoc,
    List.append_cancel_left_eq] at hchars
  cases hms : anchor.anchorMs with
  | fin x =>
      simp only [hms, JsValue.numberJson, JsNumber.isFinite, if_true,
        List.append_cancel_left_eq] at hchars
      exact absurd (quote_append_inj hchars).1 (by decide)
  | nan =>
      rw [hms] at hchars
      cases hchars
  | posInf =>
      rw [hms] at hchars
      cases hchars
  | negInf =>
      rw [hms] at hchars
      cases hchars

/-! ## The service's anchors at the engine -/

theorem anchorFingerprint_of_computeMedianAnchor {sha256 : Sha256}
    {service : EnclaveTimeAnchorService} {requiredMin : Option JsNumber} {anchor : MedianTimeAnchor}
    (hok : service.computeMedianAnchor sha256 requiredMin = .ok anchor) :
    anchor.anchorFingerprint = sha256Hex sha256 anchor.text := by
  simp only [EnclaveTimeAnchorService.computeMedianAnchor, bind_eq_ok] at hok
  obtain ⟨_, -, median, -, _, -, anchorMs, -, hreturn⟩ := hok
  cases hreturn
  rfl

/-- The engine accepts an anchor of the service only if two different texts have one digest. -/
theorem anchor_interoperates_iff (sha256 : Sha256) {service : EnclaveTimeAnchorService}
    {requiredMin : Option JsNumber} {anchor : MedianTimeAnchor} {proposal : JsValue}
    (hok : service.computeMedianAnchor sha256 requiredMin = .ok anchor)
    (hanchor : (proposal.get "timeLocks").get "quorumMedianAnchor" = anchor.toJs)
    (hvalid : OtherwiseValid proposal) :
    recomputedText anchor ≠ anchor.text ∧
      ((∃ checked, verifyProposalStructurally sha256 proposal = .ok checked) ↔
        (∃ x, anchor.anchorMs = .fin x) ∧
          sha256Hex sha256 (recomputedText anchor) = sha256Hex sha256 anchor.text) := by
  refine ⟨recomputedText_ne_text anchor, ?_⟩
  have hfingerprint : anchor.toJs.get "anchorFingerprint" =
      .str (sha256Hex sha256 anchor.text) := by
    rw [← anchorFingerprint_of_computeMedianAnchor hok]
    rfl
  have hms : anchor.toJs.get "anchorMs" = .num anchor.anchorMs := rfl
  have hne : sha256Hex sha256 anchor.text ≠ "" := (sha256 anchor.text).text_ne_empty
  rw [verifyProposalStructurally_isOk_iff hvalid hanchor, hfingerprint, hms,
    anchorFingerprint_toJs]
  constructor
  · rintro ⟨-, ⟨x, hx⟩, s, ⟨hs, -⟩, heq⟩
    cases hs
    exact ⟨⟨x, by simpa using hx⟩, heq⟩
  · rintro ⟨⟨x, hx⟩, heq⟩
    exact ⟨rfl, ⟨x, by rw [hx]⟩, _, ⟨rfl, hne⟩, heq⟩

/-- SHA-256 of the canonical text of the node's assertion below. -/
def sampleSignature (nodeId : NodeId) : String :=
  if nodeId = "n1" then "a3ea22af1391b79148f00d1d0a8eacbd07e1d198182166e50ed2532184cddde2"
  else if nodeId = "n2" then
    "815f2b73f28ea910e60ca3427e1ae274f6750b53f11e9a3107ed654b607706df"
  else "7513612d9f8f254ad313ba58fe2eecc49d3140aaffa8d32cd70b09b88845c7a1"

theorem abs_sampleMs_le : |(1000 : ℤ)| ≤ 2 ^ 53 := by norm_num

/-- What each of the nodes asserts. -/
def sampleMs : Binary64 := .ofInt 1000 abs_sampleMs_le

def sampleAssertion (nodeId : NodeId) : SignedTimeAssertion where
  nodeId := nodeId
  assertedAtMs := sampleMs
  signature := sampleSignature nodeId
  pcr0Hash := "pcr0"
  validUntilMs := none
  expires := by simp

def sampleService : EnclaveTimeAnchorService :=
  { EnclaveTimeAnchorService.getInstance with
    assertions := .ofPairs (["n1", "n2", "n3"].map fun n => (n, sampleAssertion n)) }

theorem isOutlier_sampleAssertion (nodeId : NodeId) :
    sampleService.isOutlier (.fin sampleMs) (sampleAssertion nodeId) = false := by
  have hneg : JsNumber.neg (.fin sampleMs) = .fin (.ofInt (-1000)) := by
    have h := JsNumber.ofInt_eq_fin (n := -1000) (by norm_num)
    simpa [JsNumber.neg, JsNumber.ofInt, sampleMs, Binary64.ofInt] using h
  have hsub : (JsNumber.fin sampleMs).sub (.fin sampleMs) = .fin (.ofInt 0) := by
    have h := JsNumber.ofInt_eq_fin (n := 0) (by norm_num)
    rw [JsNumber.sub, hneg]
    simpa [JsNumber.add, JsNumber.ofInt, sampleMs, Binary64.ofInt] using h
  have habs : EnclaveTimeAnchorService.mathAbs (.fin (.ofInt 0)) = .fin (.ofInt 0) := by
    simp [EnclaveTimeAnchorService.mathAbs, JsNumber.ofInt_eq_fin, JsNumber.lt, Binary64.ofInt]
  rw [EnclaveTimeAnchorService.isOutlier, show (sampleAssertion nodeId).assertedAtMs = sampleMs
    from rfl, hsub, habs]
  simp [sampleService, EnclaveTimeAnchorService.getInstance, JsNumber.lt, Binary64.ofInt]

def sampleAnchor (sha256 : Sha256) : MedianTimeAnchor where
  anchorMs := .fin sampleMs
  anchorFingerprint := sha256Hex sha256
    (EnclaveTimeAnchorService.fingerprintText (.fin sampleMs) ["n1", "n2", "n3"] [])
  includedNodeIds := ["n1", "n2", "n3"]
  outlierNodeIds := []

theorem computeMedianAnchor_sampleService (sha256 : Sha256) :
    sampleService.computeMedianAnchor sha256 none = .ok (sampleAnchor sha256) := by
  have hvalues : sampleService.assertions.values = ["n1", "n2", "n3"].map sampleAssertion := rfl
  have hmedian : EnclaveTimeAnchorService.medianOfSorted
      (EnclaveTimeAnchorService.sortedTimes (["n1", "n2", "n3"].map sampleAssertion)) =
        .ok (.fin sampleMs) := by
    simp [EnclaveTimeAnchorService.sortedTimes, sampleAssertion, List.insertionSort,
      EnclaveTimeAnchorService.medianOfSorted]
  have hincluded : (["n1", "n2", "n3"].map sampleAssertion).filter
      (fun a => !sampleService.isOutlier (.fin sampleMs) a) =
        ["n1", "n2", "n3"].map sampleAssertion := by
    simp [isOutlier_sampleAssertion]
  have houtliers : (["n1", "n2", "n3"].map sampleAssertion).filter
      (sampleService.isOutlier (.fin sampleMs)) = [] := by
    simp [isOutlier_sampleAssertion]
  have hcount : (JsNumber.ofInt ((["n1", "n2", "n3"].map sampleAssertion).length : ℤ)).lt
      (JsNumber.ofInt 3) = false := by
    simp [JsNumber.ofInt_eq_fin, JsNumber.lt]
  simp only [EnclaveTimeAnchorService.computeMedianAnchor, hvalues, hmedian, bind, Except.bind,
    hincluded, houtliers, Option.getD_none, hcount, EnclaveTimeAnchorService.refuseWhen]
  rfl

def proposalCarrying (anchor : JsValue) : JsValue :=
  .obj [("transactionId", "tx_9c41"),
    ("commitment", "commitment_valid"),
    ("consensusTerm", .num (.ofInt 7)),
    ("index", .num (.ofInt 10)),
    ("zkPublicCommitment", .obj [("commitment", "zk_commit")]),
    ("hybridSignature",
      .obj [("classicalSignature", "classical_sig"), ("pqcSignature", "pqc_sig")]),
    ("timeLocks", .obj [("validAfterMs", .num (.ofInt 0)),
      ("validUntilMs", .num (.ofInt 9999999999)),
      ("quorumMedianAnchor", anchor)]),
    ("record", .obj [("escrowRecordLeafHash", "commitment_valid")])]

theorem proposalCarrying_otherwiseValid (anchor : JsValue) :
    OtherwiseValid (proposalCarrying anchor) where
  present := rfl
  transactionId := ⟨"tx_9c41", rfl, by decide⟩
  commitment := ⟨"commitment_valid", rfl, by decide⟩
  consensusTerm := ⟨_, congrArg JsValue.num (JsNumber.ofInt_eq_fin (by norm_num))⟩
  index := ⟨_, congrArg JsValue.num (JsNumber.ofInt_eq_fin (by norm_num))⟩
  zkObject := rfl
  zkCommitment := ⟨"zk_commit", rfl, by decide⟩
  hybridObject := rfl
  classicalSignature := ⟨"classical_sig", rfl, by decide⟩
  pqcSignature := ⟨"pqc_sig", rfl, by decide⟩
  timeLocksObject := rfl
  validAfterMs := ⟨_, congrArg JsValue.num (JsNumber.ofInt_eq_fin (by norm_num))⟩
  validUntilMs := ⟨_, congrArg JsValue.num (JsNumber.ofInt_eq_fin (by norm_num))⟩
  record := rfl

/-- SHA-256 on the two texts of the sample anchor. -/
def anchorSha256 : Sha256 := fun text =>
  if text = JsValue.stringify (.obj plainAnchor) then sampleShareSha256 text
  else ⟨"ee3daafbea50659ff0dc10cb7bb730097f18f2f24a14303675df3c1599e7a29d", by decide⟩

theorem anchor_interoperates_iff_sample :
    recomputedText (sampleAnchor anchorSha256) ≠ (sampleAnchor anchorSha256).text ∧
      ((∃ checked, verifyProposalStructurally anchorSha256
          (proposalCarrying (sampleAnchor anchorSha256).toJs) = .ok checked) ↔
        (∃ x, (sampleAnchor anchorSha256).anchorMs = .fin x) ∧
          sha256Hex anchorSha256 (recomputedText (sampleAnchor anchorSha256)) =
            sha256Hex anchorSha256 (sampleAnchor anchorSha256).text) :=
  anchor_interoperates_iff anchorSha256 (computeMedianAnchor_sampleService anchorSha256) rfl
    (proposalCarrying_otherwiseValid _)

/-- The anchor of three agreeing nodes is turned down. -/
theorem anchor_of_three_nodes_refused :
    ∃ anchor, sampleService.computeMedianAnchor anchorSha256 none = .ok anchor ∧
      OtherwiseValid (proposalCarrying anchor.toJs) ∧
      ((proposalCarrying anchor.toJs).get "timeLocks").get "quorumMedianAnchor" = anchor.toJs ∧
      verifyProposalStructurally anchorSha256 (proposalCarrying anchor.toJs) =
        .error "ANCHOR_FINGERPRINT_MISMATCH" := by
  refine ⟨sampleAnchor anchorSha256, computeMedianAnchor_sampleService anchorSha256,
    proposalCarrying_otherwiseValid _, rfl, ?_⟩
  have hrecomputedText : recomputedText (sampleAnchor anchorSha256) =
      JsValue.stringify (.obj plainAnchor) := rfl
  have hne := recomputedText_ne_text (sampleAnchor anchorSha256)
  rw [hrecomputedText] at hne
  have hproduced : (sampleAnchor anchorSha256).anchorFingerprint =
      "ee3daafbea50659ff0dc10cb7bb730097f18f2f24a14303675df3c1599e7a29d" := by
    change sha256Hex anchorSha256 (sampleAnchor anchorSha256).text = _
    rw [sha256Hex, anchorSha256, if_neg hne.symm]
  have hfingerprint : anchorFingerprint anchorSha256 (sampleAnchor anchorSha256).toJs =
      "7d7f1c51c08b07edf090267ebfaa14c4451db54be47508ec70050a306e590421" := by
    rw [anchorFingerprint_toJs, hrecomputedText, sha256Hex, anchorSha256, if_pos rfl,
      sampleShareSha256, if_pos rfl]
  have hmember : (sampleAnchor anchorSha256).toJs.get "anchorFingerprint" =
      .str "ee3daafbea50659ff0dc10cb7bb730097f18f2f24a14303675df3c1599e7a29d" := by
    rw [← hproduced]
    rfl
  have hms : (sampleAnchor anchorSha256).toJs.get "anchorMs" = .num (.fin sampleMs) := rfl
  have htruthy : (sampleAnchor anchorSha256).toJs.truthy = true := rfl
  simp [verifyProposalStructurally, proposalCarrying, JsValue.get.eq_1, require, nonEmptyString,
    finiteNumber, Ledger.finiteNumber?, JsValue.isObject, JsNumber.ofInt_eq_fin, hfingerprint,
    hmember, hms, htruthy, bind, Except.bind]
  rfl

end UniverEscrow.Consensus
