import UniverEscrow.Bootstrap.UnifiedBootstrapper

/-!
# Requests to a frozen node

Requests of both applications reach one node one after another.  The router tests the freeze
flag in front of every write; the submit handler does not.
-/

namespace UniverEscrow.Bootstrap

open UniverEscrow.Js UniverEscrow.Ledger UniverEscrow.Router UniverEscrow.Lib.Run

inductive NodeCall where
  | lock (body : JsValue)
  | appendEntry (body : JsValue)
  | escrowSubmit (body : JsValue)
  | adminUnfreeze (replies : RitualReplies) (payload : JsValue)

structure NodeRequest where
  call : NodeCall
  clock : RequestClock

def handle (platform : Platform) (node : Node) (request : NodeRequest) : Node × Response :=
  match request.call with
  | .lock body => lock platform request.clock body node
  | .appendEntry body => appendEntry platform request.clock body node
  | .escrowSubmit body => handleEscrowSubmit platform request.clock body node
  | .adminUnfreeze replies payload => adminUnfreeze platform request.clock replies payload node

def nodeStep (platform : Platform) (node : Node) (request : NodeRequest) : Node :=
  (handle platform node request).1

/-- The request is an unfreeze ritual that cuts the ledger back. -/
def HealsLedger (platform : Platform) (node : Node) (request : NodeRequest) : Prop :=
  match request.call with
  | .adminUnfreeze replies payload =>
      unfreezeGate platform request.clock payload = .ok () ∧
        ∃ outcome, (node.heal platform request.clock replies payload).2 = .ok outcome ∧
          outcome.healed = true
  | _ => False

/-- A ritual, if that is what the request is, does not heal and leaves the node frozen. -/
def RitualFails (platform : Platform) (node : Node) (request : NodeRequest) : Prop :=
  match request.call with
  | .adminUnfreeze _ _ =>
      ¬ HealsLedger platform node request ∧
        (nodeStep platform node request).auditor.isFrozen = true
  | _ => True

/-- A submit lacks a required field or has an id without a text, and a ritual finds the store
initialised or its file a JSON array. -/
def KeepsOffLedger (node : Node) (request : NodeRequest) : Prop :=
  match request.call with
  | .escrowSubmit body =>
      hasRequiredFields body = false ∨ (body.get "transactionId").toText = none
  | .adminUnfreeze _ _ => node.auditor.store.Settled
  | _ => True

/-! ## The gates -/

variable {platform : Platform} {clock : RequestClock} {body : JsValue} {node : Node}

theorem lock_frozen (hfrozen : node.auditor.isFrozen = true) :
    lock platform clock body node = (node, failed 503 lockFreezeError) := by
  have hgate : lockGate node = .error (failed 503 lockFreezeError) := by
    simp [lockGate, answerUnless, hfrozen, bind, Except.bind]
  simp only [lock, hgate]

theorem appendEntry_frozen (hfrozen : node.auditor.isFrozen = true) :
    (appendEntry platform clock body node).1 = node := by
  have hgate : ∃ response, appendEntryGate body node = .error response := by
    cases hterm : (body.get "term").asNumber? with
    | none => exact ⟨_, by simp [appendEntryGate, hterm, orAnswer, bind, Except.bind]; rfl⟩
    | some term =>
        exact ⟨_, by simp [appendEntryGate, hterm, orAnswer, answerUnless, hfrozen, bind,
          Except.bind]; rfl⟩
  obtain ⟨response, hresponse⟩ := hgate
  simp only [appendEntry, hresponse]

theorem handleEscrowSubmit_refused
    (hrefuse : hasRequiredFields body = false ∨ (body.get "transactionId").toText = none) :
    (handleEscrowSubmit platform clock body node).1 = node := by
  have hrefused : ∃ response, submitDecision platform clock body = .error response := by
    cases hnullish : body.isNullish with
    | true => exact ⟨_, by simp [submitDecision, answerUnless, hnullish, bind, Except.bind]; rfl⟩
    | false =>
        cases hfields : hasRequiredFields body with
        | false =>
            exact ⟨_, by simp [submitDecision, answerUnless, hnullish, hfields, bind,
              Except.bind]; rfl⟩
        | true =>
            have hid : (body.get "transactionId").toText = none :=
              hrefuse.resolve_left (by simp [hfields])
            exact ⟨_, by simp [submitDecision, createConsensusProposal, orAnswer, answerUnless,
              hnullish, hfields, hid, bind, Except.bind]; rfl⟩
  obtain ⟨response, hresponse⟩ := hrefused
  simp only [handleEscrowSubmit, hresponse]

/-- A heal that does not cut the ledger back leaves both files and a settled store. -/
theorem heal_frame (replies : RitualReplies) (payload : JsValue)
    (hsettled : node.auditor.store.Settled) :
    (∃ outcome, (node.heal platform clock replies payload).2 = .ok outcome ∧
      outcome.healed = true) ∨
    (node.heal platform clock replies payload).1.auditor.store.Settled ∧
      (node.heal platform clock replies payload).1.auditor.store.dataFiles =
        node.auditor.store.dataFiles := by
  refine (Admin.attemptHeal_frame payload).imp_right fun hstore => ?_
  change (node.heal platform clock replies payload).1.auditor.store ∈ _ at hstore
  rcases List.mem_pair.1 hstore with hstore | hstore
  · rw [hstore]
    exact ⟨hsettled, rfl⟩
  · rw [hstore]
    exact ⟨Store.settled_initializeStore _, hsettled.initializeStore⟩

theorem answerHeal_dataFiles (replies : RitualReplies) (payload : JsValue)
    (result : Except Admin.HealFailure Admin.AdminRecoveryOutcome)
    (hsettled : node.auditor.store.Settled)
    (hfrozen : (answerHeal platform clock replies payload node result).1.auditor.isFrozen = true) :
    (answerHeal platform clock replies payload node result).1.auditor.store.dataFiles =
      node.auditor.store.dataFiles := by
  unfold answerHeal at hfrozen ⊢
  split at hfrozen
  · rfl
  · split_ifs at hfrozen ⊢
    · rfl
    · split at hfrozen
      · rfl
      · exact unfreezeIfClean_dataFiles hsettled hfrozen

theorem adminUnfreeze_dataFiles (replies : RitualReplies) (payload : JsValue)
    (hsettled : node.auditor.store.Settled)
    (hheal : ¬ (unfreezeGate platform clock payload = .ok () ∧
      ∃ outcome, (node.heal platform clock replies payload).2 = .ok outcome ∧
        outcome.healed = true))
    (hfrozen : (adminUnfreeze platform clock replies payload node).1.auditor.isFrozen = true) :
    (adminUnfreeze platform clock replies payload node).1.auditor.store.dataFiles =
      node.auditor.store.dataFiles := by
  unfold adminUnfreeze at hfrozen ⊢
  cases hgate : unfreezeGate platform clock payload with
  | error response => rfl
  | ok _ =>
      obtain ⟨hsettled', hfiles⟩ :=
        (heal_frame replies payload hsettled).resolve_left fun h => hheal ⟨hgate, h⟩
      rw [hgate] at hfrozen
      exact (answerHeal_dataFiles replies payload _ hsettled' hfrozen).trans hfiles

/-! ## Runs of a frozen node -/

/-- The node is frozen and both files are as given. -/
def SealedAt (files : Option FileText × Option FileText) (node : Node) : Prop :=
  node.auditor.isFrozen = true ∧ node.auditor.store.dataFiles = files

theorem SealedAt.nodeStep {files : Option FileText × Option FileText} {request : NodeRequest}
    (h : SealedAt files node) (hritual : RitualFails platform node request)
    (hoff : KeepsOffLedger node request) : SealedAt files (nodeStep platform node request) := by
  obtain ⟨call, clock⟩ := request
  cases call with
  | lock body =>
      have hstep : Bootstrap.nodeStep platform node ⟨.lock body, clock⟩ = node := by
        simp only [Bootstrap.nodeStep, handle, lock_frozen h.1]
      rwa [hstep]
  | appendEntry body =>
      have hstep : Bootstrap.nodeStep platform node ⟨.appendEntry body, clock⟩ = node :=
        appendEntry_frozen h.1
      rwa [hstep]
  | escrowSubmit body =>
      have hstep : Bootstrap.nodeStep platform node ⟨.escrowSubmit body, clock⟩ = node :=
        handleEscrowSubmit_refused hoff
      rwa [hstep]
  | adminUnfreeze replies payload =>
      exact ⟨hritual.2,
        (adminUnfreeze_dataFiles replies payload hoff hritual.1 hritual.2).trans h.2⟩

/-- A frozen node to which no ritual succeeds keeps ledger file and checkpoint through every
run in which each submit is turned down for its fields and each ritual finds a settled store. -/
theorem frozen_node_keeps_files (platform : Platform) (node : Node) (requests : List NodeRequest)
    (hfrozen : node.auditor.isFrozen = true)
    (hrituals : EachStep (nodeStep platform) (RitualFails platform) node requests)
    (hoff : EachStep (nodeStep platform) KeepsOffLedger node requests) :
    Throughout (nodeStep platform) (SealedAt node.auditor.store.dataFiles) node requests :=
  throughout_of_step (fun _ _ h hstep => h.nodeStep hstep.1 hstep.2) ⟨hfrozen, rfl⟩
    (hrituals.and hoff)

def frozenNode : Node where
  auditor :=
    { store := { ledger := some (.json (.arr [])), checkpoint := none, storeInitialized := true }
      frozen := true
      marker := some unreachableReason }
  bridge := ⟨true, false⟩
  cluster := ⟨.empty⟩
  raft := { currentTerm := .ofInt 0, log := [], commitIndex := 0, failClosed := true }
  recovery := ⟨none, []⟩

/-- A lock, a submit without an amount and a ritual without signatures. -/
def sampleRequests (clock : RequestClock) (replies : RitualReplies) : List NodeRequest :=
  [⟨.lock (.obj [("tenantId", "t1")]), clock⟩,
    ⟨.escrowSubmit (.obj [("transactionId", "tx_1"), ("recipient", "bob")]), clock⟩,
    ⟨.adminUnfreeze replies (.obj [("requestId", "r1")]), clock⟩]

theorem frozen_node_keeps_files_sample :
    frozenNode.auditor.isFrozen = true ∧
      ∀ (platform : Platform) (clock : RequestClock) (replies : RitualReplies),
        Throughout (nodeStep platform) (SealedAt frozenNode.auditor.store.dataFiles) frozenNode
          (sampleRequests clock replies) := by
  refine ⟨rfl, fun platform clock replies => ?_⟩
  refine frozen_node_keeps_files platform frozenNode (sampleRequests clock replies) rfl ?_ ?_
  · refine ⟨trivial, trivial, ⟨fun h => ?_, rfl⟩, trivial⟩
    cases h.1
  · exact ⟨trivial, .inl rfl, .inl rfl, trivial⟩

def fullSubmit (clock : RequestClock) : NodeRequest :=
  ⟨.escrowSubmit (.obj [("transactionId", "tx_1"), ("amount", "100"), ("recipient", "bob")]), clock⟩

/-- Whatever the platform, a submit with all its fields is written to the frozen ledger. -/
theorem frozen_submit_writes :
    frozenNode.auditor.isFrozen = true ∧
      ∀ (platform : Platform) (clock : RequestClock),
        RitualFails platform frozenNode (fullSubmit clock) ∧
          (nodeStep platform frozenNode (fullSubmit clock)).auditor.isFrozen = true ∧
          (nodeStep platform frozenNode (fullSubmit clock)).auditor.store.ledger ≠
            frozenNode.auditor.store.ledger := by
  refine ⟨rfl, fun platform clock => ?_⟩
  have hledger : ∃ item, (nodeStep platform frozenNode (fullSubmit clock)).auditor.store.ledger =
      some (.json (.arr [item])) := ⟨_, rfl⟩
  obtain ⟨item, hitem⟩ := hledger
  refine ⟨trivial, rfl, ?_⟩
  rw [hitem]
  simp [frozenNode]

end UniverEscrow.Bootstrap
