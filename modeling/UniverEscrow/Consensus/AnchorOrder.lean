import UniverEscrow.Consensus.AnchorFingerprint
import UniverEscrow.Consensus.MedianAnchor
import UniverEscrow.Js.KeyOrder

/-!
# Anchors and the order of arrival

A window that never fills up holds the last accepted assertion of every node, in an order that
neither the median nor the sorted lists of nodes see.
-/

namespace UniverEscrow.Consensus

open UniverEscrow.Js UniverEscrow.Merkle UniverEscrow.Lib

namespace EnclaveTimeAnchorService

variable (sha256 : Sha256)

def fresh (windowMaxSize : ℕ) (driftThresholdMs : Binary64) : EnclaveTimeAnchorService where
  assertions := .empty
  windowMaxSize := windowMaxSize
  driftThresholdMs := driftThresholdMs

/-- A rejected assertion leaves the service as it was. -/
def receive (service : EnclaveTimeAnchorService) (assertion : JsValue) :
    EnclaveTimeAnchorService :=
  (service.ingestAssertion sha256 assertion).toOption.getD service

def receiveAll (service : EnclaveTimeAnchorService) (assertions : List JsValue) :
    EnclaveTimeAnchorService :=
  assertions.foldl (receive sha256) service

/-- Whether an assertion is accepted does not depend on the window. -/
def accepted? (assertion : JsValue) : Option SignedTimeAssertion :=
  (checkAssertion assertion).toOption.filter (verifySignatureMock sha256)

def accepted (assertions : List JsValue) : List SignedTimeAssertion :=
  assertions.filterMap (accepted? sha256)

def lastAccepted (assertions : List JsValue) (nodeId : NodeId) : Option SignedTimeAssertion :=
  (accepted sha256 assertions).reverse.find? fun a => a.nodeId = nodeId

theorem receive_eq (service : EnclaveTimeAnchorService) (assertion : JsValue) :
    service.receive sha256 assertion =
      ((accepted? sha256 assertion).map service.recordAssertion).getD service := by
  unfold receive ingestAssertion accepted?
  cases checkAssertion assertion with
  | error reason => rfl
  | ok checked =>
      change (require (verifySignatureMock sha256 checked) "SIGNATURE_REJECTED" >>=
          fun _ => pure (service.recordAssertion checked)).toOption.getD service =
        (((some checked).filter (verifySignatureMock sha256)).map service.recordAssertion).getD
          service
      rw [Option.filter_some]
      cases verifySignatureMock sha256 checked with
      | false => rfl
      | true => rfl

theorem recordAssertion_of_lt {service : EnclaveTimeAnchorService}
    (assertion : SignedTimeAssertion) (h : service.assertions.size < service.windowMaxSize) :
    service.recordAssertion assertion =
      { service with assertions := service.assertions.set assertion.nodeId assertion } := by
  rw [recordAssertion, if_neg (not_le.2 h)]

/-! ## The window of a run -/

theorem length_dedup_congr {xs ys : List NodeId} (h : ∀ nodeId, nodeId ∈ xs ↔ nodeId ∈ ys) :
    xs.dedup.length = ys.dedup.length := by
  apply List.Perm.length_eq
  rw [List.perm_ext_iff_of_nodup (List.nodup_dedup xs) (List.nodup_dedup ys)]
  simpa using h

theorem size_le_length_dedup (m : OrderedMap NodeId SignedTimeAssertion) (more : List NodeId) :
    m.size ≤ (m.keys ++ more).dedup.length := by
  rw [← OrderedMap.length_keys]
  apply List.Subperm.length_le
  apply m.keys_nodup.subperm
  intro nodeId h
  rw [List.mem_dedup, List.mem_append]
  exact .inl h

/-- As long as all nodes fit, nothing is evicted. -/
theorem receiveAll_eq (service : EnclaveTimeAnchorService) {assertions : List JsValue}
    (h : (service.assertions.keys ++
      (accepted sha256 assertions).map SignedTimeAssertion.nodeId).dedup.length <
        service.windowMaxSize) :
    service.receiveAll sha256 assertions = { service with
      assertions := (accepted sha256 assertions).foldl (fun m a => m.set a.nodeId a)
        service.assertions } := by
  induction assertions generalizing service with
  | nil => rfl
  | cons assertion assertions ih =>
      rw [receiveAll, List.foldl_cons, receive_eq]
      cases hacc : accepted? sha256 assertion with
      | none =>
          have hrest : accepted sha256 (assertion :: assertions) = accepted sha256 assertions := by
            rw [accepted, List.filterMap_cons_none hacc, accepted]
          rw [hrest] at h ⊢
          exact ih service h
      | some a =>
          have hrest : accepted sha256 (assertion :: assertions) =
              a :: accepted sha256 assertions := by
            rw [accepted, List.filterMap_cons_some hacc, accepted]
          rw [hrest] at h ⊢
          have hsize : service.assertions.size < service.windowMaxSize :=
            (size_le_length_dedup _ _).trans_lt h
          rw [Option.map_some, Option.getD_some, recordAssertion_of_lt a hsize, List.foldl_cons]
          apply ih
          rw [← length_dedup_congr] at h
          · exact h
          · intro nodeId
            simp only [List.mem_append, OrderedMap.mem_keys_set, List.map_cons, List.mem_cons]
            tauto

theorem values_receiveAll_fresh (windowMaxSize : ℕ) (driftThresholdMs : Binary64)
    (assertions : List JsValue)
    (h : ((accepted sha256 assertions).map SignedTimeAssertion.nodeId).dedup.length <
      windowMaxSize) :
    ((fresh windowMaxSize driftThresholdMs).receiveAll sha256 assertions).assertions.values =
      KeyedList.upsertAll SignedTimeAssertion.nodeId [] (accepted sha256 assertions) := by
  let pair (a : SignedTimeAssertion) : NodeId × SignedTimeAssertion := (a.nodeId, a)
  have hentries : ((accepted sha256 assertions).foldl (fun m a => m.set a.nodeId a)
      (OrderedMap.empty : OrderedMap NodeId SignedTimeAssertion)).entries =
        (KeyedList.upsertAll SignedTimeAssertion.nodeId []
          (accepted sha256 assertions)).map pair := by
    rw [← KeyedList.upsertAll_map Prod.fst pair fun _ => rfl,
      List.map_nil, ← OrderedMap.entries_ofPairs, OrderedMap.ofPairs, List.foldl_map]
  rw [receiveAll_eq sha256 (fresh windowMaxSize driftThresholdMs) h]
  exact (congrArg (List.map Prod.snd) hentries).trans (by rw [List.map_map]; exact List.map_id _)

theorem values_perm {xs ys : List JsValue}
    (hlast : ∀ nodeId, lastAccepted sha256 xs nodeId = lastAccepted sha256 ys nodeId) :
    (KeyedList.upsertAll SignedTimeAssertion.nodeId [] (accepted sha256 xs)).Perm
      (KeyedList.upsertAll SignedTimeAssertion.nodeId [] (accepted sha256 ys)) := by
  apply KeyedList.perm_of_find?_eq (KeyedList.upsertAll_nodup _) (KeyedList.upsertAll_nodup _)
  intro nodeId
  rw [KeyedList.find?_upsertAll, KeyedList.find?_upsertAll]
  exact congrArg (Option.or · _) (hlast nodeId)

theorem mem_accepted_iff {assertions : List JsValue} {nodeId : NodeId} :
    nodeId ∈ (accepted sha256 assertions).map SignedTimeAssertion.nodeId ↔
      (lastAccepted sha256 assertions nodeId).isSome := by
  rw [lastAccepted, List.find?_isSome]
  simp

end EnclaveTimeAnchorService

/-! ## The anchor of a permuted window -/

instance timeLe_total : Std.Total fun a b : Binary64 => a.val ≤ b.val where
  total a b := le_total a.val b.val

instance timeLe_trans : IsTrans Binary64 fun a b => a.val ≤ b.val where
  trans _ _ _ := le_trans

instance timeLe_antisymm : Std.Antisymm fun a b : Binary64 => a.val ≤ b.val where
  antisymm _ _ hab hba := Binary64.ext_val (le_antisymm hab hba)

theorem sortNodeIds_perm {xs ys : List NodeId} (h : xs.Perm ys) :
    sortNodeIds xs = sortNodeIds ys :=
  insertionSort_eq_of_perm _ h

theorem sortedTimes_perm {xs ys : List SignedTimeAssertion} (h : xs.Perm ys) :
    EnclaveTimeAnchorService.sortedTimes xs = EnclaveTimeAnchorService.sortedTimes ys :=
  insertionSort_eq_of_perm _ (h.map _)

/-- The anchor sees the window as a multiset, the drift threshold and nothing else. -/
theorem computeMedianAnchor_perm (sha256 : Sha256) {service service' : EnclaveTimeAnchorService}
    (hdrift : service.driftThresholdMs = service'.driftThresholdMs)
    (hperm : service.assertions.values.Perm service'.assertions.values)
    (requiredMinAssertions : Option JsNumber) :
    service.computeMedianAnchor sha256 requiredMinAssertions =
      service'.computeMedianAnchor sha256 requiredMinAssertions := by
  have houtlier : service.isOutlier = service'.isOutlier := by
    funext median assertion
    rw [EnclaveTimeAnchorService.isOutlier, EnclaveTimeAnchorService.isOutlier, hdrift]
  have hfilter (keep : SignedTimeAssertion → Bool) :=
    hperm.filter keep
  simp only [EnclaveTimeAnchorService.computeMedianAnchor, houtlier, hperm.length_eq,
    sortedTimes_perm hperm, (hfilter _).length_eq, sortedTimes_perm (hfilter _),
    sortNodeIds_perm ((hfilter _).map SignedTimeAssertion.nodeId)]

open EnclaveTimeAnchorService in
/-- Fresh services that accepted the same last assertion of every node, of fewer nodes than the
window holds, derive the same anchor. -/
theorem computeMedianAnchor_of_lastAccepted (sha256 : Sha256) (windowMaxSize : ℕ)
    (driftThresholdMs : Binary64) (xs ys : List JsValue)
    (hnodes : ((accepted sha256 xs).map SignedTimeAssertion.nodeId).dedup.length <
      windowMaxSize)
    (hlast : ∀ nodeId, lastAccepted sha256 xs nodeId = lastAccepted sha256 ys nodeId)
    (requiredMinAssertions : Option JsNumber) :
    ((fresh windowMaxSize driftThresholdMs).receiveAll sha256 xs).computeMedianAnchor sha256
        requiredMinAssertions =
      ((fresh windowMaxSize driftThresholdMs).receiveAll sha256 ys).computeMedianAnchor sha256
        requiredMinAssertions := by
  have hnodes' : ((accepted sha256 ys).map SignedTimeAssertion.nodeId).dedup.length <
      windowMaxSize := by
    rw [← length_dedup_congr]
    · exact hnodes
    · intro nodeId
      rw [mem_accepted_iff, mem_accepted_iff, hlast]
  apply computeMedianAnchor_perm
  · rw [receiveAll_eq sha256 (fresh windowMaxSize driftThresholdMs) hnodes,
      receiveAll_eq sha256 (fresh windowMaxSize driftThresholdMs) hnodes']
  · rw [values_receiveAll_fresh sha256 _ _ _ hnodes, values_receiveAll_fresh sha256 _ _ _ hnodes']
    exact values_perm sha256 hlast

def assertionOf (nodeId : NodeId) : JsValue :=
  .obj [("nodeId", nodeId), ("assertedAtMs", .num (.fin sampleMs)), ("pcr0Hash", "pcr0"),
    ("signature", sampleSignature nodeId)]

def signedText (nodeId : NodeId) : String :=
  stableStringify (.obj [("nodeId", nodeId), ("assertedAtMs", .num (.fin sampleMs)),
    ("pcr0Hash", "pcr0"), ("validUntilMs", .null)])

/-- SHA-256 on the signed texts of two nodes. -/
def signingSha256 : Sha256 := fun text =>
  if text = signedText "n1" then ⟨sampleSignature "n1", by decide⟩
  else ⟨sampleSignature "n2", by decide⟩

theorem accepted?_assertionOf {nodeId : NodeId}
    (hcheck : EnclaveTimeAnchorService.checkAssertion (assertionOf nodeId) =
      .ok (sampleAssertion nodeId))
    (hsig : EnclaveTimeAnchorService.verifySignatureMock signingSha256 (sampleAssertion nodeId) =
      true) :
    EnclaveTimeAnchorService.accepted? signingSha256 (assertionOf nodeId) =
      some (sampleAssertion nodeId) := by
  rw [EnclaveTimeAnchorService.accepted?, hcheck]
  exact Option.filter_some_pos hsig

theorem accepted?_n1 :
    EnclaveTimeAnchorService.accepted? signingSha256 (assertionOf "n1") =
      some (sampleAssertion "n1") :=
  accepted?_assertionOf rfl (by decide +kernel)

theorem accepted?_n2 :
    EnclaveTimeAnchorService.accepted? signingSha256 (assertionOf "n2") =
      some (sampleAssertion "n2") :=
  accepted?_assertionOf rfl (by decide +kernel)

theorem accepted?_null :
    EnclaveTimeAnchorService.accepted? signingSha256 .null = none := rfl

open EnclaveTimeAnchorService in
/-- Two nodes in either order, one of them sending twice around a rejected assertion. -/
theorem computeMedianAnchor_of_lastAccepted_swapped :
    ((fresh 32 sampleMs).receiveAll signingSha256
        [assertionOf "n1", assertionOf "n2"]).computeMedianAnchor signingSha256 none =
      ((fresh 32 sampleMs).receiveAll signingSha256
        [assertionOf "n2", assertionOf "n1", .null, assertionOf "n2"]).computeMedianAnchor
          signingSha256 none := by
  have hxs : accepted signingSha256 [assertionOf "n1", assertionOf "n2"] =
      [sampleAssertion "n1", sampleAssertion "n2"] := by
    simp [accepted, accepted?_n1, accepted?_n2]
  have hys : accepted signingSha256
      [assertionOf "n2", assertionOf "n1", .null, assertionOf "n2"] =
        [sampleAssertion "n2", sampleAssertion "n1", sampleAssertion "n2"] := by
    simp [accepted, List.filterMap_cons, accepted?_n1, accepted?_n2, accepted?_null]
  apply computeMedianAnchor_of_lastAccepted
  · rw [hxs]
    decide
  · intro nodeId
    rw [lastAccepted, lastAccepted, hxs, hys]
    by_cases h2 : nodeId = "n2"
    · simp [h2, sampleAssertion]
    · have hne : ¬ ("n2" : NodeId) = nodeId := fun h => h2 h.symm
      simp [List.find?_cons, sampleAssertion, hne]

end UniverEscrow.Consensus
