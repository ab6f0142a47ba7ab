import UniverEscrow.Consensus.AnchorOrder
import UniverEscrow.Lib.Run

/-!
# The window of assertions

Room for an assertion is made before anyone asks whether its node is in the window already, so a
node that asserts again can push another node out.
-/

namespace UniverEscrow.Consensus

open UniverEscrow.Js UniverEscrow.Merkle UniverEscrow.Lib

namespace EnclaveTimeAnchorService

/-- Only the assertion of its own node has changed. -/
structure UpdatesInPlace (service after : EnclaveTimeAnchorService)
    (assertion : SignedTimeAssertion) : Prop where
  sameNodes : ∀ nodeId, nodeId ∈ after.assertions.keys ↔ nodeId ∈ service.assertions.keys
  updated : after.assertions.get? assertion.nodeId = some assertion
  others : ∀ nodeId, nodeId ≠ assertion.nodeId →
    after.assertions.get? nodeId = service.assertions.get? nodeId

variable (sha256 : Sha256)

/-- A node in the window that asserts again only updates its assertion. -/
def Refreshes (service : EnclaveTimeAnchorService) (assertion : JsValue) : Prop :=
  ∀ a, accepted? sha256 assertion = some a → a.nodeId ∈ service.assertions.keys →
    UpdatesInPlace service (service.receive sha256 assertion) a

/-- A node is lost to a new one that is admitted to a full window. -/
def LosesOnlyToNew (service : EnclaveTimeAnchorService) (assertion : JsValue) : Prop :=
  ∀ lost ∈ service.assertions.keys,
    lost ∉ (service.receive sha256 assertion).assertions.keys →
      ∃ a, accepted? sha256 assertion = some a ∧ a.nodeId ∉ service.assertions.keys ∧
        service.assertions.size = service.windowMaxSize

def WithinWindow (service : EnclaveTimeAnchorService) : Prop :=
  service.assertions.size ≤ service.windowMaxSize

/-- The window is full, and the node that asserts again is not the smallest in it. -/
def Displaces (service : EnclaveTimeAnchorService) (assertion : JsValue) : Prop :=
  ∃ a, accepted? sha256 assertion = some a ∧ a.nodeId ∈ service.assertions.keys ∧
    service.windowMaxSize ≤ service.assertions.size ∧
    ∃ smaller ∈ service.assertions.keys,
      smaller ≠ a.nodeId ∧ JsValue.keyLe smaller a.nodeId = true

/-! ## One assertion -/

/-- What stays in the window while an assertion is recorded. -/
def kept (service : EnclaveTimeAnchorService) : OrderedMap NodeId SignedTimeAssertion :=
  if service.windowMaxSize ≤ service.assertions.size then
    match (sortNodeIds service.assertions.keys).head? with
    | some toDelete => service.assertions.erase toDelete
    | none => service.assertions
  else service.assertions

theorem assertions_recordAssertion (service : EnclaveTimeAnchorService)
    (a : SignedTimeAssertion) :
    (service.recordAssertion a).assertions = service.kept.set a.nodeId a := rfl

theorem head?_sortNodeIds {nodeIds : List NodeId} {nodeId : NodeId}
    (h : (sortNodeIds nodeIds).head? = some nodeId) :
    nodeId ∈ nodeIds ∧ ∀ other ∈ nodeIds, JsValue.keyLe nodeId other = true := by
  obtain ⟨rest, hsorted⟩ := List.head?_eq_some_iff.1 h
  have hperm : (sortNodeIds nodeIds).Perm nodeIds := List.perm_insertionSort _ nodeIds
  have hpairwise := List.pairwise_insertionSort (fun a b => JsValue.keyLe a b = true) nodeIds
  change List.Pairwise _ (sortNodeIds nodeIds) at hpairwise
  rw [hsorted] at hperm hpairwise
  constructor
  · exact hperm.mem_iff.1 List.mem_cons_self
  · intro other hother
    rcases List.mem_cons.1 (hperm.mem_iff.2 hother) with rfl | hrest
    · exact (JsValue.keyLe_total.total other other).elim id id
    · exact List.rel_of_pairwise_cons hpairwise hrest

variable {service : EnclaveTimeAnchorService} {a : SignedTimeAssertion} {nodeId : NodeId}

/-- A window that is not full keeps its nodes, a full one loses the smallest. -/
theorem kept_cases (hmax : 0 < service.windowMaxSize) :
    service.assertions.size < service.windowMaxSize ∧ service.kept = service.assertions ∨
      service.windowMaxSize ≤ service.assertions.size ∧ ∃ smallest ∈ service.assertions.keys,
        (∀ other ∈ service.assertions.keys, JsValue.keyLe smallest other = true) ∧
          service.kept = service.assertions.erase smallest := by
  unfold kept
  split_ifs with hfull
  · refine .inr ⟨hfull, ?_⟩
    cases hhead : (sortNodeIds service.assertions.keys).head? with
    | none =>
        have hnil : sortNodeIds service.assertions.keys = [] := List.head?_eq_none_iff.1 hhead
        have hlength := (List.perm_insertionSort (fun a b => JsValue.keyLe a b = true)
          service.assertions.keys).length_eq
        change (sortNodeIds service.assertions.keys).length = _ at hlength
        rw [hnil, OrderedMap.length_keys, List.length_nil] at hlength
        omega
    | some smallest =>
        obtain ⟨hmem, hle⟩ := head?_sortNodeIds hhead
        exact ⟨smallest, hmem, hle, rfl⟩
  · exact .inl ⟨not_le.1 hfull, rfl⟩

theorem mem_keys_recordAssertion :
    nodeId ∈ (service.recordAssertion a).assertions.keys ↔
      nodeId = a.nodeId ∨ nodeId ∈ service.kept.keys := by
  rw [assertions_recordAssertion, OrderedMap.mem_keys_set]

/-- The window never holds more than it may. -/
theorem withinWindow_recordAssertion (hmax : 0 < service.windowMaxSize)
    (hwithin : WithinWindow service) : WithinWindow (service.recordAssertion a) := by
  unfold WithinWindow at hwithin ⊢
  have hkept : service.kept.size < service.windowMaxSize := by
    rcases kept_cases hmax with ⟨hroom, heq⟩ | ⟨-, smallest, hmem, -, heq⟩
    · rw [heq]
      exact hroom
    · rw [heq, OrderedMap.size_erase_of_mem hmem]
      omega
  rw [assertions_recordAssertion, OrderedMap.size_set]
  split_ifs
  · exact hkept.le
  · exact hkept

/-- A node in the window updates in place as long as no other node goes. -/
theorem updatesInPlace_recordAssertion (hnode : a.nodeId ∈ service.assertions.keys)
    (hkept : ∀ k, k ≠ a.nodeId → service.kept.get? k = service.assertions.get? k) :
    UpdatesInPlace service (service.recordAssertion a) a where
  sameNodes := by
    intro k
    rw [mem_keys_recordAssertion]
    by_cases hk : k = a.nodeId
    · simp [hk, hnode]
    · rw [OrderedMap.mem_keys_iff, OrderedMap.mem_keys_iff, hkept k hk]
      simp [hk]
  updated := OrderedMap.get?_set_self _ _ _
  others := by
    intro k hk
    rw [assertions_recordAssertion, OrderedMap.get?_set, if_neg hk, hkept k hk]

variable {sha256} {assertion : JsValue}

theorem receive_of_accepted (haccepted : accepted? sha256 assertion = some a) :
    service.receive sha256 assertion = service.recordAssertion a := by
  rw [receive_eq, haccepted, Option.map_some, Option.getD_some]

theorem receive_of_rejected (hrejected : accepted? sha256 assertion = none) :
    service.receive sha256 assertion = service := by
  rw [receive_eq, hrejected, Option.map_none, Option.getD_none]

theorem windowMaxSize_receive :
    (service.receive sha256 assertion).windowMaxSize = service.windowMaxSize := by
  cases haccepted : accepted? sha256 assertion with
  | none => rw [receive_of_rejected haccepted]
  | some a => rw [receive_of_accepted haccepted]; rfl

theorem withinWindow_receive (hmax : 0 < service.windowMaxSize) (hwithin : WithinWindow service) :
    WithinWindow (service.receive sha256 assertion) := by
  cases haccepted : accepted? sha256 assertion with
  | none => rwa [receive_of_rejected haccepted]
  | some a =>
      rw [receive_of_accepted haccepted]
      exact withinWindow_recordAssertion hmax hwithin

/-- A node that asserts again without displacing another one updates in place. -/
theorem refreshes_of_not_displaces (hmax : 0 < service.windowMaxSize)
    (hnot : ¬Displaces sha256 service assertion) : Refreshes sha256 service assertion := by
  intro a haccepted hnode
  rw [receive_of_accepted haccepted]
  apply updatesInPlace_recordAssertion hnode
  intro k hk
  rcases kept_cases hmax with ⟨-, heq⟩ | ⟨hfull, smallest, hmem, hle, heq⟩
  · rw [heq]
  · -- the node that goes is the node that asserts
    have hself : smallest = a.nodeId := by
      by_contra hne
      exact hnot ⟨a, haccepted, hnode, hfull, smallest, hmem, hne, hle _ hnode⟩
    rw [heq, OrderedMap.get?_erase, if_neg (hself ▸ hk)]

theorem losesOnlyToNew_of_refreshes (hmax : 0 < service.windowMaxSize)
    (hwithin : WithinWindow service) (hrefreshes : Refreshes sha256 service assertion) :
    LosesOnlyToNew sha256 service assertion := by
  intro lost hlost hgone
  cases haccepted : accepted? sha256 assertion with
  | none =>
      rw [receive_of_rejected haccepted] at hgone
      exact absurd hlost hgone
  | some a =>
      refine ⟨a, rfl, fun hnode => ?_, ?_⟩
      · exact hgone (((hrefreshes a haccepted hnode).sameNodes lost).2 hlost)
      · rw [receive_of_accepted haccepted, mem_keys_recordAssertion] at hgone
        rcases kept_cases hmax with ⟨-, heq⟩ | ⟨hfull, -⟩
        · rw [heq] at hgone
          exact absurd (.inr hlost) hgone
        · exact le_antisymm hwithin hfull

theorem not_displaces_of_refreshes (hmax : 0 < service.windowMaxSize)
    (hrefreshes : Refreshes sha256 service assertion) : ¬Displaces sha256 service assertion := by
  intro ⟨a, haccepted, hnode, hfull, smaller, hsmaller, hne, hle⟩
  have hsame := (hrefreshes a haccepted hnode).sameNodes
  rcases kept_cases hmax with ⟨hroom, -⟩ | ⟨-, smallest, hmem, hsmallest, heq⟩
  · omega
  · have hsmallest_ne : smallest ≠ a.nodeId := by
      rintro rfl
      exact hne (JsValue.keyLe_antisymm.antisymm _ _ hle (hsmallest smaller hsmaller))
    have hlost := (hsame smallest).2 hmem
    rw [receive_of_accepted haccepted, mem_keys_recordAssertion, heq,
      OrderedMap.keys_erase, service.assertions.keys_nodup.mem_erase_iff] at hlost
    exact hlost.elim hsmallest_ne fun h => h.1 rfl

/-- Along every run of the service, the window stays within its size; nodes that assert again
update in place, and nodes are lost to new ones only, exactly as long as no assertion displaces
a node. -/
theorem window_updates_in_place_iff (sha256 : Sha256) (assertions : List JsValue) :
    (Run.EachStep (receive sha256)
        (fun service assertion => Refreshes sha256 service assertion ∧
          LosesOnlyToNew sha256 service assertion) getInstance assertions ∧
      Run.Throughout (receive sha256) WithinWindow getInstance assertions) ↔
      Run.EachStep (receive sha256)
        (fun service assertion => ¬Displaces sha256 service assertion) getInstance assertions := by
  apply Run.eachStep_and_throughout_iff fun service => 0 < service.windowMaxSize
  · intro service assertion hmax _
    rwa [windowMaxSize_receive]
  · intro service assertion hmax hwithin
    constructor
    · intro h
      exact not_displaces_of_refreshes hmax h.1.1
    · intro hnot
      have hrefreshes := refreshes_of_not_displaces hmax hnot
      exact ⟨⟨hrefreshes, losesOnlyToNew_of_refreshes hmax hwithin hrefreshes⟩,
        withinWindow_receive hmax hwithin⟩
  · decide
  · exact Nat.zero_le _

/-! ## A window of 32 nodes -/

def nodeName (i : ℕ) : NodeId := String.ofList (List.replicate (i + 1) 'n')

theorem nodeName_injective : Function.Injective nodeName := by
  intro i j h
  have hlist := congrArg List.length (String.ofList_inj.1 h)
  simpa using hlist

theorem sampleMs_expires : ∀ x ∈ (none : Option Binary64), sampleMs.val < x.val := by
  intro x h
  cases h

def signedAssertion (sha256 : Sha256) (nodeId : NodeId) : SignedTimeAssertion where
  nodeId := nodeId
  assertedAtMs := sampleMs
  signature := sha256Hex sha256 (signedText nodeId)
  pcr0Hash := "pcr0"
  validUntilMs := none
  expires := sampleMs_expires

def signedAssertionJs (sha256 : Sha256) (nodeId : NodeId) : JsValue :=
  .obj [("nodeId", nodeId), ("assertedAtMs", .num (.fin sampleMs)), ("pcr0Hash", "pcr0"),
    ("signature", sha256Hex sha256 (signedText nodeId))]

theorem accepted?_signedAssertionJs (hnode : nodeId ≠ "") :
    accepted? sha256 (signedAssertionJs sha256 nodeId) = some (signedAssertion sha256 nodeId) := by
  have hchecked : checkAssertion (signedAssertionJs sha256 nodeId) =
      .ok (signedAssertion sha256 nodeId) := by
    have hsignature : sha256Hex sha256 (signedText nodeId) ≠ "" := HexDigest.text_ne_empty _
    simp [checkAssertion, signedAssertionJs, JsValue.isObject, JsValue.get, require,
      nonEmptyString, finiteNumber, Ledger.finiteNumber?, checkValidUntil, JsValue.isUndefined,
      hnode, hsignature, signedAssertion]
    rfl
  rw [accepted?, hchecked]
  apply Option.filter_some_pos
  exact decide_eq_true rfl

theorem windowMaxSize_run (service : EnclaveTimeAnchorService) (assertions : List JsValue) :
    (Run.run (receive sha256) service assertions).windowMaxSize = service.windowMaxSize := by
  induction assertions generalizing service with
  | nil => rfl
  | cons assertion assertions ih => rw [Run.run_cons, ih, windowMaxSize_receive]

/-- New nodes enter a window that has room for them. -/
theorem run_receive_new (sha256 : Sha256) (service : EnclaveTimeAnchorService)
    (nodeIds : List NodeId)
    (hnodup : (service.assertions.keys ++ nodeIds).Nodup)
    (hnonempty : ∀ nodeId ∈ nodeIds, nodeId ≠ "")
    (hroom : (service.assertions.keys ++ nodeIds).length ≤ service.windowMaxSize) :
    (Run.run (receive sha256) service (nodeIds.map (signedAssertionJs sha256))).assertions.keys =
      service.assertions.keys ++ nodeIds := by
  induction nodeIds generalizing service with
  | nil => exact (List.append_nil _).symm
  | cons nodeId nodeIds ih =>
      have haccepted : accepted? sha256 (signedAssertionJs sha256 nodeId) =
          some (signedAssertion sha256 nodeId) :=
        accepted?_signedAssertionJs (hnonempty nodeId List.mem_cons_self)
      have hlength := hroom
      rw [List.length_append, OrderedMap.length_keys, List.length_cons] at hlength
      have hnew : nodeId ∉ service.assertions.keys := fun hmem =>
        (List.nodup_append.1 hnodup).2.2 nodeId hmem nodeId List.mem_cons_self rfl
      have hkeys : (service.receive sha256 (signedAssertionJs sha256 nodeId)).assertions.keys =
          service.assertions.keys ++ [nodeId] := by
        rw [receive_of_accepted haccepted, recordAssertion_of_lt _ (by omega)]
        exact (OrderedMap.keys_set _ _ _).trans (if_neg hnew)
      rw [List.map_cons, Run.run_cons, ih, hkeys, List.append_assoc, List.singleton_append]
      · rwa [hkeys, List.append_assoc]
      · exact fun other hother => hnonempty other (List.mem_cons_of_mem nodeId hother)
      · rwa [hkeys, List.append_assoc, windowMaxSize_receive]

/-- The assertions of 32 nodes, and a second one of the last of them. -/
def crowdedAssertions (sha256 : Sha256) : List JsValue :=
  (((List.range 32).map nodeName) ++ [nodeName 31]).map (signedAssertionJs sha256)

/-- Whatever the hash, the second assertion of the last node pushes the first node out. -/
theorem window_displaces :
    ¬∃ sha256, Run.EachStep (receive sha256) (Refreshes sha256) getInstance
      (crowdedAssertions sha256) := by
  intro ⟨sha256, heach⟩
  have hnonempty (i : ℕ) : nodeName i ≠ "" := by
    intro h
    cases String.ofList_inj.1 (h.trans String.ofList_nil.symm)
  have hkeys := run_receive_new sha256 getInstance ((List.range 32).map nodeName)
    (List.nodup_range.map nodeName_injective) (by simp [hnonempty]) (by decide)
  rw [crowdedAssertions, List.map_append, Run.eachStep_append] at heach
  set service := Run.run (receive sha256) getInstance
    (((List.range 32).map nodeName).map (signedAssertionJs sha256)) with hservice
  have hmax : service.windowMaxSize = 32 := windowMaxSize_run getInstance _
  have hmem (i : ℕ) (hi : i < 32) : nodeName i ∈ service.assertions.keys := by
    rw [hkeys]
    exact List.mem_append_right _ (List.mem_map_of_mem (List.mem_range.2 hi))
  have hle : JsValue.keyLe (nodeName 0) (nodeName 31) = true := by decide
  refine not_displaces_of_refreshes (hmax ▸ by decide) heach.2.1
    ⟨_, accepted?_signedAssertionJs (hnonempty 31), hmem 31 (by decide), ?_, nodeName 0,
      hmem 0 (by decide), fun h => absurd (nodeName_injective h) (by decide), hle⟩
  rw [hmax, ← OrderedMap.length_keys, hkeys]
  simp

end EnclaveTimeAnchorService

end UniverEscrow.Consensus
