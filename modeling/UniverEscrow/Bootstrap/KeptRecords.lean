import UniverEscrow.Bootstrap.LedgerFreeze
import UniverEscrow.Ledger.NamedRecords
import UniverEscrow.Router.EnclaveRoutes
import UniverEscrow.Router.LockIdentity

/-!
# Records a node keeps

Between the requests of its two applications a node audits its ledger and admits peers.  What is
stored under an id changes only with a request that saves a record of that id, or with a ritual
that cuts the ledger back; so a record whose save was acknowledged is found until then.
-/

namespace UniverEscrow.Bootstrap

open UniverEscrow.Js UniverEscrow.Ledger UniverEscrow.Router UniverEscrow.Lib.Run

/-- What can reach a node, one event after another. -/
inductive NodeEvent where
  | request (request : NodeRequest)
  | audit (now : IsoTime) (replies : ℕ → NotaryReply)
  | enclaveAttest (doc : JsValue)
  | joinCluster (body : JsValue)
  | registerPeer (body : JsValue)
  | verifyZkProof (body : JsValue)

def eventStep (platform : Platform) (node : Node) : NodeEvent → Node
  | .request request => nodeStep platform node request
  | .audit now replies =>
      { node with auditor := auditOnce platform.sha256 now replies node.auditor }
  | .enclaveAttest doc => (enclaveAttest platform doc node).1
  | .joinCluster body => (joinCluster platform body node).1
  | .registerPeer body => (registerPeer platform body node).1
  | .verifyZkProof body => (verifyZkProof platform body node).1

/-! ## What a request saves -/

def lockSaves? (platform : Platform) (clock : RequestClock) (body : JsValue) (node : Node) :
    Option JsValue :=
  match lockGate node, lockRecord platform clock body node with
  | .ok (), .ok (record, _) => some record
  | _, _ => none

def appendSaves? (body : JsValue) (node : Node) : Option JsValue :=
  match appendEntryGate body node with
  | .error _ => none
  | .ok (term, entry) =>
      if logFull node.raft then none
      else (appendDecision term entry (body.get "bft") node.raft).toOption.map
        fun saved => saved.record

def submitSaves? (platform : Platform) (clock : RequestClock) (body : JsValue) : Option JsValue :=
  (submitDecision platform clock body).toOption.map Prod.fst

/-- The record a request gets as far as saving. -/
def savedRecord? (platform : Platform) (node : Node) (request : NodeRequest) : Option JsValue :=
  match request.call with
  | .lock body => lockSaves? platform request.clock body node
  | .appendEntry body => appendSaves? body node
  | .escrowSubmit body => submitSaves? platform request.clock body
  | .adminUnfreeze _ _ => none

/-- The event saves a record of the id. -/
def Names (platform : Platform) (transactionId : String) (node : Node) (event : NodeEvent) : Prop :=
  ∃ request record, event = .request request ∧
    savedRecord? platform node request = some record ∧ StoresUnder record transactionId

/-- The event is a ritual that cuts the ledger back. -/
def Heals (platform : Platform) (node : Node) (event : NodeEvent) : Prop :=
  ∃ request, event = .request request ∧ HealsLedger platform node request

def successCode : NodeCall → ℕ
  | .lock _ => 201
  | _ => 200

/-- The request saves the record and answers with success. -/
def Acknowledges (platform : Platform) (node : Node) (request : NodeRequest) (record : JsValue) :
    Prop :=
  savedRecord? platform node request = some record ∧
    (handle platform node request).2.code = successCode request.call

def storedRecord (transactionId : String) (node : Node) : Option EscrowRecord :=
  storedUnder (.str transactionId) node.auditor.store

/-! ## What one request does to the store -/

/-- The state and the answer of a handler that saves the record, if there is one: the store is
that of the save, and a success tells that the save did not throw. -/
structure AnswersSave (platform : Platform) (clock : RequestClock) (node : Node)
    (saved? : Option JsValue) (success : ℕ) (result : Node × Response) : Prop where
  store_eq : result.1.auditor.store =
    match saved? with
    | none => node.auditor.store
    | some record => saveStep platform.sha256 node.auditor.store ⟨record, clock.updatedAt⟩
  resolves : result.2.code = success → ∀ record, saved? = some record →
    Resolves platform.sha256 node.auditor.store ⟨record, clock.updatedAt⟩

section Requests

variable {platform : Platform} {clock : RequestClock} {node : Node}

theorem answersSave_none (success : ℕ) (response : Response) :
    AnswersSave platform clock node none success (node, response) :=
  ⟨rfl, fun _ _ h => by cases h⟩

/-- A handler that answers the save of the record with `answer`, and a throw with `onFailure`. -/
theorem answersSave_some (record : JsValue) (answer : Response)
    (onFailure : SaveFailure → Response) {success : ℕ}
    (hfailure : ∀ failure, (onFailure failure).code ≠ success) :
    AnswersSave platform clock node (some record) success
      (match node.saveRecord platform clock record with
      | (node, none) => (node, answer)
      | (node, some failure) => (node, onFailure failure)) := by
  have hstore : (node.saveRecord platform clock record).1.auditor.store =
      saveStep platform.sha256 node.auditor.store ⟨record, clock.updatedAt⟩ := rfl
  have hthrown : (node.saveRecord platform clock record).2 = (Ledger.saveRecord platform.sha256
      clock.updatedAt record node.auditor.store).2 := rfl
  cases hsave : node.saveRecord platform clock record with
  | mk saved failure? =>
      rw [hsave] at hstore hthrown
      cases failure? with
      | none =>
          refine ⟨hstore, fun _ record' h => ?_⟩
          cases h
          exact hthrown.symm
      | some failure =>
          exact ⟨hstore, fun hcode => absurd hcode (hfailure failure)⟩

theorem answersSave_lock (body : JsValue) :
    AnswersSave platform clock node (lockSaves? platform clock body node) 201
      (lock platform clock body node) := by
  unfold lock lockSaves?
  cases lockGate node with
  | error response => exact answersSave_none _ response
  | ok u =>
      cases lockRecord platform clock body node with
      | error response => exact answersSave_none _ response
      | ok checked => exact answersSave_some checked.1 checked.2 _ fun _ =>
          (by decide : (500 : ℕ) ≠ 201)

theorem answersSave_handleEscrowSubmit (body : JsValue) :
    AnswersSave platform clock node (submitSaves? platform clock body) 200
      (handleEscrowSubmit platform clock body node) := by
  unfold handleEscrowSubmit submitSaves?
  cases submitDecision platform clock body with
  | error response => exact answersSave_none _ response
  | ok checked =>
      exact answersSave_some checked.1 checked.2 (fun _ => submitFailed) fun _ =>
        (by decide : (500 : ℕ) ≠ 200)

theorem answersSave_appendEntry (body : JsValue) :
    AnswersSave platform clock node (appendSaves? body node) 200
      (appendEntry platform clock body node) := by
  unfold appendEntry appendSaves?
  cases appendEntryGate body node with
  | error response => exact answersSave_none _ response
  | ok gated =>
      obtain ⟨term, entry⟩ := gated
      dsimp only
      cases hfull : logFull node.raft with
      | true =>
          rw [appendAndCommit, hfull]
          exact answersSave_none _ _
      | false =>
          cases hdecision : appendDecision term entry (body.get "bft") node.raft with
          | error stop =>
              simp only [appendAndCommit, hfull, hdecision, Bool.false_eq_true, if_false]
              exact ⟨rfl, fun _ _ h => by cases h⟩
          | ok saved =>
              obtain ⟨hstore, hcode⟩ := appendAndCommit_saves platform clock hfull hdecision
              refine ⟨hstore, fun hanswer record hrecord => ?_⟩
              cases hrecord
              exact hcode.1 hanswer

theorem answersSave_handle (platform : Platform) (node : Node) (request : NodeRequest)
    (hritual : ∀ replies payload, request.call ≠ .adminUnfreeze replies payload) :
    AnswersSave platform request.clock node (savedRecord? platform node request)
      (successCode request.call) (handle platform node request) := by
  obtain ⟨call, clock⟩ := request
  cases call with
  | lock body => exact answersSave_lock body
  | appendEntry body => exact answersSave_appendEntry body
  | escrowSubmit body => exact answersSave_handleEscrowSubmit body
  | adminUnfreeze replies payload => exact absurd rfl (hritual replies payload)

end Requests

/-! ## What is stored under an id -/

section Frames

variable {platform : Platform} {node : Node} (transactionId : String)

theorem storedUnder_writeCheckpoint (root : String) (leafCount : ℕ) (updatedAt : IsoTime)
    (store : Store) :
    storedUnder (.str transactionId) (writeCheckpoint root leafCount updatedAt store) =
      storedUnder (.str transactionId) store := by
  have hinit : initializeStore (writeCheckpoint root leafCount updatedAt store) =
      writeCheckpoint root leafCount updatedAt (initializeStore store) := by
    unfold initializeStore
    rw [writeCheckpoint_ledger]
    by_cases hinit : store.storeInitialized = true
    · rw [if_pos hinit, if_pos (by exact hinit)]
    · rw [if_neg hinit, if_neg (by exact hinit)]
      split <;> rfl
  simp only [storedUnder, getRecord, hinit, readAllRecordsInternal_writeCheckpoint]

theorem storedUnder_auditOnce (sha256 : Merkle.Sha256) (now : IsoTime)
    (replies : ℕ → NotaryReply) (auditor : Auditor) :
    storedUnder (.str transactionId) (auditOnce sha256 now replies auditor).store =
      storedUnder (.str transactionId) auditor.store := by
  unfold auditOnce
  split_ifs
  · rfl
  · split
    · exact (storedUnder_writeCheckpoint transactionId _ _ _ _).trans
        (storedUnder_initializeStore _ _)
    · unfold Auditor.verifyCheckpoint
      split
      · rw [Auditor.store_freeze]
      · split_ifs
        · rw [Auditor.store_freeze]
        · split
          · rw [Auditor.compareLedger, Auditor.store_settle]
            exact storedUnder_initializeStore _ _
          · rw [Auditor.store_freeze]
          · rw [Auditor.store_freeze]

theorem storedUnder_unfreezeIfClean (sha256 : Merkle.Sha256) (now : IsoTime)
    (replies : ℕ → NotaryReply) (auditor : Auditor) :
    storedUnder (.str transactionId) (unfreezeIfClean sha256 now replies auditor).1.store =
      storedUnder (.str transactionId) auditor.store := by
  have haudit := storedUnder_auditOnce transactionId sha256 now replies
    { auditor with frozen := false }
  unfold unfreezeIfClean
  dsimp only
  split_ifs
  · rfl
  · exact haudit
  · exact haudit

theorem storedRecord_heal {clock : RequestClock} {replies : RitualReplies} {payload : JsValue}
    (hheal : ¬ ∃ outcome, (node.heal platform clock replies payload).2 = .ok outcome ∧
      outcome.healed = true) :
    storedRecord transactionId (node.heal platform clock replies payload).1 =
      storedRecord transactionId node := by
  have hstore : (node.heal platform clock replies payload).1.auditor.store ∈
      [node.auditor.store, initializeStore node.auditor.store] :=
    (Admin.attemptHeal_frame payload).resolve_left hheal
  rcases List.mem_pair.1 hstore with hsame | hsame
  · rw [storedRecord, hsame]; rfl
  · rw [storedRecord, hsame, storedUnder_initializeStore]; rfl

theorem storedRecord_answerHeal {clock : RequestClock} {replies : RitualReplies}
    {payload : JsValue} (result : Except Admin.HealFailure Admin.AdminRecoveryOutcome) :
    storedRecord transactionId (answerHeal platform clock replies payload node result).1 =
      storedRecord transactionId node := by
  unfold answerHeal
  split
  · rfl
  · split_ifs
    · rfl
    · split
      · rfl
      · exact storedUnder_unfreezeIfClean transactionId platform.sha256 clock.updatedAt
          replies.audit node.auditor

theorem storedRecord_adminUnfreeze {clock : RequestClock} {replies : RitualReplies}
    {payload : JsValue}
    (hheal : ¬ HealsLedger platform node ⟨.adminUnfreeze replies payload, clock⟩) :
    storedRecord transactionId (adminUnfreeze platform clock replies payload node).1 =
      storedRecord transactionId node := by
  unfold adminUnfreeze
  cases hgate : unfreezeGate platform clock payload with
  | error response => rfl
  | ok u =>
      have hkept : ¬ ∃ outcome, (node.heal platform clock replies payload).2 = .ok outcome ∧
          outcome.healed = true := fun h => hheal ⟨hgate, h⟩
      exact (storedRecord_answerHeal transactionId _).trans (storedRecord_heal transactionId hkept)

/-- The handlers that admit peers and verify documents leave the auditor. -/
theorem auditor_registerPeer (body : JsValue) :
    (registerPeer platform body node).1.auditor = node.auditor := by
  unfold registerPeer
  split
  · rfl
  · dsimp only
    split_ifs <;> rfl

theorem auditor_enclaveAttest (doc : JsValue) :
    (enclaveAttest platform doc node).1.auditor = node.auditor := by
  unfold enclaveAttest
  dsimp only
  split_ifs <;> rfl

theorem auditor_joinCluster (body : JsValue) :
    (joinCluster platform body node).1.auditor = node.auditor := by
  unfold joinCluster admitPeer
  dsimp only
  split
  · rfl
  · split_ifs <;> rfl

theorem auditor_verifyZkProof (body : JsValue) :
    (verifyZkProof platform body node).1.auditor = node.auditor := by
  unfold verifyZkProof
  split <;> rfl

/-- One event changes what is stored under an id only if it saves a record of that id or heals
the ledger. -/
theorem storedRecord_eventStep {event : NodeEvent}
    (hnames : ¬ Names platform transactionId node event) (hheals : ¬ Heals platform node event) :
    storedRecord transactionId (eventStep platform node event) =
      storedRecord transactionId node := by
  cases event with
  | request request =>
      by_cases hritual : ∃ replies payload, request.call = .adminUnfreeze replies payload
      · obtain ⟨replies, payload, hcall⟩ := hritual
        obtain ⟨call, clock⟩ := request
        cases hcall
        exact storedRecord_adminUnfreeze transactionId fun h => hheals ⟨_, rfl, h⟩
      · have hanswers := answersSave_handle platform node request
          fun replies payload hcall => hritual ⟨replies, payload, hcall⟩
        have hstore := hanswers.store_eq
        rw [storedRecord, eventStep, nodeStep, hstore]
        cases hsaved : savedRecord? platform node request with
        | none => rfl
        | some record =>
            apply storedUnder_saveStep_of_not_storesUnder
            exact fun h => hnames ⟨request, record, rfl, hsaved, h⟩
  | audit now replies =>
      exact storedUnder_auditOnce transactionId platform.sha256 now replies node.auditor
  | enclaveAttest doc => rw [storedRecord, eventStep, auditor_enclaveAttest]; rfl
  | joinCluster body => rw [storedRecord, eventStep, auditor_joinCluster]; rfl
  | registerPeer body => rw [storedRecord, eventStep, auditor_registerPeer]; rfl
  | verifyZkProof body => rw [storedRecord, eventStep, auditor_verifyZkProof]; rfl

end Frames

/-! ## Runs -/

/-- The event leaves the id to what it stands for. -/
def LeavesRecord (platform : Platform) (transactionId : String) (node : Node) (event : NodeEvent) :
    Prop :=
  ¬ Names platform transactionId node event ∧ ¬ Heals platform node event

/-- Through every run of requests, audits and admissions, what a node has stored under an id, or
that it has nothing there, stays until an event saves a record of that id or heals the ledger. -/
theorem unnamed_record_kept (platform : Platform) (transactionId : String) (node : Node)
    (events : List NodeEvent)
    (hevents : EachStep (eventStep platform) (LeavesRecord platform transactionId) node events) :
    Throughout (eventStep platform)
      (fun later => storedRecord transactionId later = storedRecord transactionId node)
      node events :=
  throughout_of_step
    (fun _ _ h hstep => (storedRecord_eventStep transactionId hstep.1 hstep.2).trans h) rfl hevents

/-- A submit for another transaction, an audit and a registration that is refused. -/
def otherEvents (transactionId : String) (clock : RequestClock) (replies : ℕ → NotaryReply) :
    List NodeEvent :=
  [.request ⟨.escrowSubmit (.obj [("transactionId", transactionId), ("amount", "100"),
      ("recipient", "bob")]), clock⟩,
    .audit sampleTime replies,
    .registerPeer (.obj [("nodeId", "peer")])]

theorem leavesRecord_otherEvents {platform : Platform} {node : Node} {a b : String}
    {clock : RequestClock} {replies : ℕ → NotaryReply} (hempty : a ≠ "") (hne : a ≠ b) :
    EachStep (eventStep platform) (LeavesRecord platform b) node (otherEvents a clock replies) := by
  refine ⟨⟨?_, ?_⟩, ⟨?_, ?_⟩, ⟨?_, ?_⟩, trivial⟩
  · rintro ⟨request, record, hrequest, hsaved, hstores⟩
    cases hrequest
    have hrecord : record.get "transactionId" = .str a := by
      simp [savedRecord?, submitSaves?, submitDecision, createConsensusProposal,
        executeBftVerification, hasRequiredFields, answerUnless, orAnswer, JsValue.isNullish,
        JsValue.get, JsValue.truthy, JsValue.toText, hempty, bind, Except.bind, pure, Except.pure,
        Except.toOption] at hsaved
      rw [← hsaved]
      rfl
    rw [StoresUnder, hrecord] at hstores
    exact hne (Option.some.inj hstores)
  · rintro ⟨request, hrequest, hheals⟩
    cases hrequest
    exact hheals
  · rintro ⟨request, record, hrequest, -⟩
    cases hrequest
  · rintro ⟨request, hrequest, -⟩
    cases hrequest
  · rintro ⟨request, record, hrequest, -⟩
    cases hrequest
  · rintro ⟨request, hrequest, -⟩
    cases hrequest

theorem unnamed_record_kept_sample :
    Throughout (eventStep appendPlatform)
      (fun later => storedRecord "tx_2" later = storedRecord "tx_2" openNode)
      openNode (otherEvents "tx_1" appendClock (notaryWithRoot "r")) :=
  unnamed_record_kept appendPlatform "tx_2" openNode
    (otherEvents "tx_1" appendClock (notaryWithRoot "r"))
    (leavesRecord_otherEvents (by decide) (by decide))

/-- The record of an acknowledged request, if it passes the reader's guard, is the one the node
finds under its id throughout the run that follows, up to an event that saves a record of the
same id or heals the ledger. -/
theorem acknowledged_record_kept (platform : Platform) (node : Node) (request : NodeRequest)
    (record : JsValue) (events : List NodeEvent)
    (hacknowledged : Acknowledges platform node request record)
    (hguard : passesGuard record = true)
    (hevents : ∀ transactionId, StoresUnder record transactionId →
      EachStep (eventStep platform) (LeavesRecord platform transactionId)
        (nodeStep platform node request) events) :
    ∃ stored : EscrowRecord, normalizeRecord record = some stored.toRow ∧
      Throughout (eventStep platform)
        (fun later => storedRecord stored.transactionId later = some stored)
        (nodeStep platform node request) events := by
  obtain ⟨hsaved, hcode⟩ := hacknowledged
  have hritual : ∀ replies payload, request.call ≠ .adminUnfreeze replies payload := by
    intro replies payload hcall
    rw [savedRecord?, hcall] at hsaved
    cases hsaved
  have hanswers := answersSave_handle platform node request hritual
  have hresolves := hanswers.resolves hcode record hsaved
  obtain ⟨stored, hid, hnormal, hfound⟩ := storedUnder_saveStep_self hresolves hguard
  have hstore : (nodeStep platform node request).auditor.store =
      saveStep platform.sha256 node.auditor.store ⟨record, request.clock.updatedAt⟩ := by
    have := hanswers.store_eq
    rwa [hsaved] at this
  have hfirst : storedRecord stored.transactionId (nodeStep platform node request) =
      some stored := by
    rw [storedRecord, hstore]
    exact hfound
  have hnamed : StoresUnder record stored.transactionId := by rw [StoresUnder, hid]; rfl
  refine ⟨stored, hnormal, ?_⟩
  apply (unnamed_record_kept platform stored.transactionId _ events (hevents _ hnamed)).mono
  intro later hlater
  exact hlater.trans hfirst

/-- What a lock saves always passes the guard. -/
theorem passesGuard_lockSaves {platform : Platform} {clock : RequestClock} {body : JsValue}
    {node : Node} {record : JsValue} (h : lockSaves? platform clock body node = some record) :
    passesGuard record = true := by
  unfold lockSaves? at h
  split at h
  · rename_i saved receipt _ hchecked
    cases h
    obtain ⟨canonical, signature, -, after, til, -, -, -, -, -, -, rfl, -⟩ :=
      lockRecord_eq_ok hchecked
    exact passesGuard_of_toRow (get_transactionId_toRow _) (normalizeRecord_toRow _)
  · cases h

def submitOne : NodeRequest :=
  ⟨.escrowSubmit (.obj [("transactionId", "tx_1"), ("amount", "100"), ("recipient", "bob")]),
    appendClock⟩

def recordOfOne : JsValue :=
  submitRecord appendPlatform appendClock
    (.obj [("transactionId", "tx_1"), ("amount", "100"), ("recipient", "bob")])

theorem passesGuard_recordOfOne : passesGuard recordOfOne = true := by
  have hafter : |(1767225600000 : ℤ)| ≤ 2 ^ 53 := by decide
  have huntil : |(1767225600000 + dayMs : ℤ)| ≤ 2 ^ 53 := by decide
  simp [passesGuard, recordOfOne, submitRecord, appendClock, JsValue.get, finiteNumber?,
    EscrowStatus.ofText?, JsNumber.ofInt_eq_fin hafter, JsNumber.ofInt_eq_fin huntil]

theorem acknowledged_record_kept_sample :
    ∃ stored : EscrowRecord, normalizeRecord recordOfOne = some stored.toRow ∧
      Throughout (eventStep appendPlatform)
        (fun later => storedRecord stored.transactionId later = some stored)
        (nodeStep appendPlatform openNode submitOne)
        (otherEvents "tx_2" appendClock (notaryWithRoot "r")) := by
  refine acknowledged_record_kept appendPlatform openNode submitOne recordOfOne
    (otherEvents "tx_2" appendClock (notaryWithRoot "r")) ⟨rfl, rfl⟩ passesGuard_recordOfOne ?_
  intro transactionId hstores
  have hid : "tx_1" = transactionId := Option.some.inj hstores
  exact leavesRecord_otherEvents (by decide) (hid ▸ by decide)

end UniverEscrow.Bootstrap
