import UniverEscrow.Enclave.EnclaveBridgeService
import UniverEscrow.Js.OrderedMap
import UniverEscrow.Ledger.EscrowRecord
import Mathlib.Data.Finset.Card

/-!
# Cold recovery

The master secret is recomputed from the shares that the surviving nodes present.  Items that are
no shares are skipped, and of the shares of one node the first counts.
-/

namespace UniverEscrow.Cryptography

open UniverEscrow.Js UniverEscrow.Merkle UniverEscrow.Enclave

structure ReconstructedNodeShare where
  nodeId : String
  shareIndex : Binary64
  shareBytesHex : String
deriving DecidableEq

structure RecoveryReceipt where
  recovered : Bool
  epoch : Binary64
  masterSecretId : String
  reconstructedMasterSecretHex : Option String
  recoveryAuditHash : String

namespace EnclaveRecoveryEngine

/-- The share checks on an item of a node that has none yet. -/
def shareOf (nodeId : String) (s : JsValue) : Option ReconstructedNodeShare := do
  let shareIndex ← Ledger.finiteNumber? (s.get "shareIndex")
  if shareIndex.val ≤ 0 then none
  else do
    let shareBytesHex ← (s.get "shareBytesHex").asString?
    if shareBytesHex = "" then none else some ⟨nodeId, shareIndex, shareBytesHex⟩

/-- One round of the loop over the presented items. -/
def addShare (distinct : OrderedMap String ReconstructedNodeShare) (s : JsValue) :
    OrderedMap String ReconstructedNodeShare :=
  match if s.truthy then (s.get "nodeId").asString? else none with
  | none => distinct
  | some nodeId =>
      if (distinct.get? nodeId).isSome then distinct
      else
        match shareOf nodeId s with
        | none => distinct
        | some share => distinct.set nodeId share

def distinctShares (shares : List JsValue) : OrderedMap String ReconstructedNodeShare :=
  shares.foldl addShare .empty

/-- `sort((a, b) => a.shareIndex - b.shareIndex)`: the difference of two Numbers has the sign of
their comparison. -/
def sortByIndex (shares : List ReconstructedNodeShare) : List ReconstructedNodeShare :=
  shares.insertionSort fun a b => a.shareIndex.val ≤ b.shareIndex.val

def numberText (x : Binary64) : String := (JsNumber.fin x).toText

def reconstructionSeed (sha256 : Sha256) (masterSecretId : String) (epoch : Binary64)
    (sortedShares : List ReconstructedNodeShare) : String :=
  sha256Hex sha256 ("RECONSTRUCT_SEED_V1|" ++ masterSecretId ++ "|" ++ numberText epoch ++ "|" ++
    String.intercalate "," (sortedShares.map fun x => numberText x.shareIndex))

def materialText (sortedShares : List ReconstructedNodeShare) : String :=
  String.intercalate "|" (sortedShares.map ReconstructedNodeShare.shareBytesHex)

def masterText (sha256 : Sha256) (masterSecretId : String) (epoch : Binary64)
    (sortedShares : List ReconstructedNodeShare) : String :=
  "MASTER_SECRET_DERIVE_V1|" ++ reconstructionSeed sha256 masterSecretId epoch sortedShares ++
    "|" ++ sha256Hex sha256 (materialText sortedShares)

def masterSecretHex (sha256 : Sha256) (masterSecretId : String) (epoch : Binary64)
    (sortedShares : List ReconstructedNodeShare) : String :=
  sha256Hex sha256 (masterText sha256 masterSecretId epoch sortedShares)

def failedReceipt (sha256 : Sha256) (masterSecretId : String) (epoch : Binary64) (size : ℕ) :
    RecoveryReceipt where
  recovered := false
  epoch := epoch
  masterSecretId := masterSecretId
  reconstructedMasterSecretHex := none
  recoveryAuditHash := sha256Hex sha256 ("RECOVERY_FAIL|" ++ masterSecretId ++ "|" ++
    numberText epoch ++ "|size=" ++ toString size)

def recoveredReceipt (sha256 : Sha256) (masterSecretId : String) (epoch threshold : Binary64)
    (sortedShares : List ReconstructedNodeShare) : RecoveryReceipt where
  recovered := true
  epoch := epoch
  masterSecretId := masterSecretId
  reconstructedMasterSecretHex := some (masterSecretHex sha256 masterSecretId epoch sortedShares)
  recoveryAuditHash := sha256Hex sha256 ("RECOVERY_AUDIT_V1|" ++ masterSecretId ++ "|" ++
    numberText epoch ++ "|threshold=" ++ numberText threshold ++ "|nodes=" ++
    String.intercalate "," (sortedShares.map ReconstructedNodeShare.nodeId) ++ "|master=" ++
    masterSecretHex sha256 masterSecretId epoch sortedShares)

/-- The checks of the parameters before the shares are looked at. -/
def checkedParams (bridge : EnclaveBridge) (epoch masterSecretId threshold : JsValue) :
    Except String (Binary64 × String × Binary64) :=
  if !bridge.isEnclaveReady then
    .error "SECURITY_VIOLATION: enclave not ready for cold recovery"
  else
    match Ledger.finiteNumber? epoch with
    | none => .error "INVALID_NUMBER"
    | some epoch =>
        match masterSecretId.asString? with
        | none => .error "INVALID_MASTER_SECRET_ID"
        | some masterSecretId =>
            if masterSecretId = "" then .error "INVALID_MASTER_SECRET_ID"
            else
              match Ledger.finiteNumber? threshold with
              | none => .error "INVALID_THRESHOLD"
              | some threshold =>
                  if threshold.val ≤ 0 then .error "INVALID_THRESHOLD"
                  else .ok (epoch, masterSecretId, threshold)

/-- The size of a Map is an exact Number, so it is compared as it is. -/
def receiptFor (sha256 : Sha256) (epoch : Binary64) (masterSecretId : String)
    (threshold : Binary64) (distinct : OrderedMap String ReconstructedNodeShare) :
    RecoveryReceipt :=
  if (distinct.size : ℚ) < threshold.val then
    failedReceipt sha256 masterSecretId epoch distinct.size
  else recoveredReceipt sha256 masterSecretId epoch threshold (sortByIndex distinct.values)

/-- An error is the text thrown. -/
def recoverMasterSecretFromShares (sha256 : Sha256) (bridge : EnclaveBridge)
    (epoch masterSecretId threshold : JsValue) (shares : List JsValue) :
    Except String RecoveryReceipt :=
  match checkedParams bridge epoch masterSecretId threshold with
  | .error message => .error message
  | .ok (epoch, masterSecretId, threshold) =>
      .ok (receiptFor sha256 epoch masterSecretId threshold (distinctShares shares))

/-! ## Well-formed shares -/

/-- The share an item is, if it is one. -/
def wellFormedShare (s : JsValue) : Option ReconstructedNodeShare :=
  match if s.truthy then (s.get "nodeId").asString? else none with
  | none => none
  | some nodeId => shareOf nodeId s

def wellFormedShares (shares : List JsValue) : List ReconstructedNodeShare :=
  shares.filterMap wellFormedShare

/-- The nodes that well-formed shares come from. -/
def shareNodes (shares : List JsValue) : Finset String :=
  ((wellFormedShares shares).map ReconstructedNodeShare.nodeId).toFinset

def shareIndices (shares : List JsValue) : Finset Binary64 :=
  ((wellFormedShares shares).map ReconstructedNodeShare.shareIndex).toFinset

theorem nodeId_of_shareOf {nodeId : String} {s : JsValue} {share : ReconstructedNodeShare}
    (h : shareOf nodeId s = some share) : share.nodeId = nodeId := by
  simp only [shareOf, bind, Option.bind_eq_some_iff] at h
  obtain ⟨shareIndex, -, h⟩ := h
  split_ifs at h
  obtain ⟨shareBytesHex, -, h⟩ := Option.bind_eq_some_iff.1 h
  split_ifs at h
  rw [← Option.some.inj h]

/-- A share is added unless its node has one already, and nothing else is. -/
theorem addShare_eq (distinct : OrderedMap String ReconstructedNodeShare) (s : JsValue) :
    addShare distinct s =
      match wellFormedShare s with
      | none => distinct
      | some share =>
          if (distinct.get? share.nodeId).isSome then distinct
          else distinct.set share.nodeId share := by
  rw [addShare, wellFormedShare]
  split
  · rfl
  · rename_i nodeId hnodeId
    cases hshare : shareOf nodeId s with
    | none => exact ite_self distinct
    | some share =>
        dsimp only
        rw [nodeId_of_shareOf hshare]

/-- The shares are looked up under their own nodes. -/
theorem mem_keys_addShare {distinct : OrderedMap String ReconstructedNodeShare} {s : JsValue}
    {nodeId : String} :
    nodeId ∈ (addShare distinct s).keys ↔
      nodeId ∈ distinct.keys ∨ ∃ share, wellFormedShare s = some share ∧ share.nodeId = nodeId := by
  rw [addShare_eq]
  cases hshare : wellFormedShare s with
  | none => simp
  | some share =>
      dsimp only
      split_ifs with hpresent
      · have hmem : share.nodeId ∈ distinct.keys := by
          obtain ⟨other, hother⟩ := Option.isSome_iff_exists.1 hpresent
          exact List.mem_map.2 ⟨_, OrderedMap.mem_entries_iff.2 hother, rfl⟩
        constructor
        · exact .inl
        · rintro (h | ⟨share', hshare', rfl⟩)
          · exact h
          · rwa [← Option.some.inj hshare']
      · rw [OrderedMap.mem_keys_set, or_comm]
        simp [eq_comm]

theorem mem_keys_foldl_addShare {shares : List JsValue}
    {distinct : OrderedMap String ReconstructedNodeShare} {nodeId : String} :
    nodeId ∈ (shares.foldl addShare distinct).keys ↔
      nodeId ∈ distinct.keys ∨ nodeId ∈ shareNodes shares := by
  induction shares generalizing distinct with
  | nil => simp [shareNodes, wellFormedShares]
  | cons s shares ih =>
      rw [List.foldl_cons, ih, mem_keys_addShare, or_assoc]
      refine or_congr_right ?_
      cases hshare : wellFormedShare s with
      | none => simp [shareNodes, wellFormedShares, hshare]
      | some share => simp [shareNodes, wellFormedShares, hshare, eq_comm]

/-- As many shares count as there are nodes with a well-formed one. -/
theorem size_distinctShares (shares : List JsValue) :
    (distinctShares shares).size = (shareNodes shares).card := by
  rw [← OrderedMap.length_keys, ← List.toFinset_card_of_nodup (OrderedMap.keys_nodup _)]
  congr 1
  ext nodeId
  rw [List.mem_toFinset, distinctShares, mem_keys_foldl_addShare, OrderedMap.keys_empty]
  simp

/-! ## When shares recover -/

theorem recovered_receiptFor (sha256 : Sha256) (epoch : Binary64) (masterSecretId : String)
    (threshold : Binary64) (shares : List JsValue) :
    (receiptFor sha256 epoch masterSecretId threshold (distinctShares shares)).recovered = true ↔
      threshold.val ≤ (shareNodes shares).card := by
  rw [receiptFor, size_distinctShares]
  split_ifs with hfew
  · exact iff_of_false Bool.false_ne_true (not_le.2 hfew)
  · exact iff_of_true rfl (not_lt.1 hfew)

/-- The parameters pass the checks ahead of the shares. -/
structure ParamsAccepted (bridge : EnclaveBridge) (epoch masterSecretId : JsValue)
    (threshold : Binary64) : Prop where
  ready : bridge.isEnclaveReady = true
  epoch : ∃ x, epoch = .num (.fin x)
  masterSecretId : ∃ id, masterSecretId = .str id ∧ id ≠ ""
  threshold : 0 < threshold.val

theorem checkedParams_of_accepted {bridge : EnclaveBridge} {epoch threshold : Binary64}
    {masterSecretId : String} (hready : bridge.isEnclaveReady = true) (hid : masterSecretId ≠ "")
    (hpos : 0 < threshold.val) :
    checkedParams bridge (.num (.fin epoch)) (.str masterSecretId) (.num (.fin threshold)) =
      .ok (epoch, masterSecretId, threshold) := by
  simp [checkedParams, hready, Ledger.finiteNumber?, JsValue.asString?, hid, not_le.2 hpos]

theorem checkedParams_eq_ok {bridge : EnclaveBridge} {epoch masterSecretId : JsValue}
    {threshold : Binary64} {checked : Binary64 × String × Binary64}
    (h : checkedParams bridge epoch masterSecretId (.num (.fin threshold)) = .ok checked) :
    ParamsAccepted bridge epoch masterSecretId threshold ∧ checked.2.2 = threshold := by
  have hthreshold : Ledger.finiteNumber? (.num (.fin threshold)) = some threshold := rfl
  rw [checkedParams, hthreshold] at h
  cases hready : bridge.isEnclaveReady with
  | false => simp [hready] at h
  | true =>
      cases hepoch : Ledger.finiteNumber? epoch with
      | none => simp [hready, hepoch] at h
      | some x =>
          cases hid : masterSecretId.asString? with
          | none => simp [hready, hepoch, hid] at h
          | some id =>
              by_cases hempty : id = ""
              · simp [hready, hepoch, hid, hempty] at h
              · by_cases hpos : threshold.val ≤ 0
                · simp [hready, hepoch, hid, hempty, hpos] at h
                · simp only [hready, hepoch, hid, hempty, hpos, Bool.not_true,
                    Bool.false_eq_true, if_false, Except.ok.injEq] at h
                  subst h
                  exact ⟨⟨hready, ⟨x, Ledger.finiteNumber?_eq_some.1 hepoch⟩,
                    ⟨id, JsValue.asString?_eq_some.1 hid, hempty⟩, not_le.1 hpos⟩, rfl⟩

/-- The call recovers a secret exactly from accepted parameters and enough different nodes. -/
theorem recovers_iff (sha256 : Sha256) (bridge : EnclaveBridge) (epoch masterSecretId : JsValue)
    (threshold : Binary64) (shares : List JsValue) :
    (∃ receipt, recoverMasterSecretFromShares sha256 bridge epoch masterSecretId
        (.num (.fin threshold)) shares = .ok receipt ∧ receipt.recovered = true) ↔
      ParamsAccepted bridge epoch masterSecretId threshold ∧
        threshold.val ≤ (shareNodes shares).card := by
  constructor
  · rintro ⟨receipt, hreceipt, hrecovered⟩
    rw [recoverMasterSecretFromShares] at hreceipt
    cases hchecked : checkedParams bridge epoch masterSecretId (.num (.fin threshold)) with
    | error message => simp [hchecked] at hreceipt
    | ok checked =>
        obtain ⟨haccepted, hthreshold⟩ := checkedParams_eq_ok hchecked
        simp only [hchecked, Except.ok.injEq] at hreceipt
        rw [← hreceipt, recovered_receiptFor, hthreshold] at hrecovered
        exact ⟨haccepted, hrecovered⟩
  · rintro ⟨⟨hready, ⟨x, rfl⟩, ⟨id, rfl, hid⟩, hpos⟩, henough⟩
    rw [recoverMasterSecretFromShares, checkedParams_of_accepted hready hid hpos]
    exact ⟨_, rfl, (recovered_receiptFor ..).2 henough⟩

def sampleEpoch : Binary64 := .ofInt 1

def twoShares : Binary64 := .ofInt 2

/-- One share under another node's name. -/
def replayedShare (nodeId : String) : JsValue :=
  .obj [("nodeId", nodeId), ("shareIndex", .num (.ofInt 1)), ("shareBytesHex", "aa")]

def replayedShares : List JsValue := [replayedShare "node_1", replayedShare "node_2"]

end EnclaveRecoveryEngine

end UniverEscrow.Cryptography
