import UniverEscrow.Consensus.CatchUpChain
import UniverEscrow.Consensus.SnapshotAuthentic
import UniverEscrow.Router.EnclaveRoutes

/-!
# The reconciliation routes

A peer catches up over HTTP: it asks one node for its latest snapshot and sends it, or blocks, to
another.  Everything the engine is given has been through JSON.
-/

namespace UniverEscrow.Router

open UniverEscrow.Js UniverEscrow.Merkle UniverEscrow.Consensus UniverEscrow.Lib
open UniverEscrow.Consensus.EnclaveReconciliationEngine (Call)

/-! ## POST /api/reconciliation/catch-up -/

/-- A body, the clock, and what the platform would say of an error it throws. -/
structure CatchUpRequest where
  body : JsValue
  nowMs : ℤ
  thrownText : String

def stateToJs (state : ReconciliationState) : JsValue :=
  .obj [("isReconciling", .bool state.isReconciling), ("startedAt", .num state.startedAt),
    ("localIndex", state.localIndex), ("targetCommitIndex", .num state.targetCommitIndex),
    ("blocksApplied", .num (.ofInt state.blocksApplied)),
    ("lastAppliedMerkleHash", state.lastAppliedMerkleHash)]

def reconciliationStateToJs (engine : EnclaveReconciliationEngine) : JsValue :=
  (engine.reconciliationState.map stateToJs).getD .null

def isReconciling (engine : EnclaveReconciliationEngine) : Bool :=
  engine.reconciliationState.any (·.isReconciling)

def catchUpFailure (request : CatchUpRequest) (tag : String) : CatchUpFailure → Response
  | .refused reason => failedWithCode 409 reason tag
  | .thrown => failed 500 request.thrownText

def begin (request : CatchUpRequest) (engine : EnclaveReconciliationEngine) :
    EnclaveReconciliationEngine × Response :=
  match (request.body.get "localIndex").asNumber?,
      (request.body.get "targetCommitIndex").asNumber? with
  | some localIndex, some targetCommitIndex =>
      let engine := engine.beginReconciliation (.ofInt request.nowMs) localIndex targetCommitIndex
      (engine, ⟨200, .obj [("status", "SUCCESS"),
        ("reconciliationState", reconciliationStateToJs engine)]⟩)
  | _, _ =>
      (engine, failedWithCode 400 "Missing or invalid localIndex/targetCommitIndex"
        "INVALID_REQUEST")

/-- The answer to a call that fails, or takes effect on the engine. -/
def answerCall (onFailure : CatchUpFailure → Response)
    (onApplied : EnclaveReconciliationEngine → Response) :
    Except CatchUpFailure Unit × EnclaveReconciliationEngine →
      EnclaveReconciliationEngine × Response
  | (.error failure, engine) => (engine, onFailure failure)
  | (.ok (), engine) => (engine, onApplied engine)

def applyBlock (sha256 : Sha256) (request : CatchUpRequest)
    (engine : EnclaveReconciliationEngine) : EnclaveReconciliationEngine × Response :=
  let block := request.body.get "block"
  if !block.truthy then
    (engine, failedWithCode 400 "Missing catch-up block" "INVALID_REQUEST")
  else
    answerCall (catchUpFailure request "BLOCK_APPLY_FAILED")
      (fun engine => ⟨200, .obj [("status", "SUCCESS"), ("applied", .bool true),
        ("blockIndex", block.get "index"),
        ("reconciliationState", reconciliationStateToJs engine)]⟩)
      (engine.applyCatchUpBlock sha256 block)

def applySnapshot (request : CatchUpRequest) (engine : EnclaveReconciliationEngine) :
    EnclaveReconciliationEngine × Response :=
  let snapshot := request.body.get "snapshot"
  if !snapshot.truthy then
    (engine, failedWithCode 400 "Missing snapshot" "INVALID_REQUEST")
  else
    answerCall (catchUpFailure request "SNAPSHOT_APPLY_FAILED")
      (fun engine => ⟨200, .obj [("status", "SUCCESS"), ("applied", .bool true),
        ("reconciliationState", reconciliationStateToJs engine)]⟩)
      (engine.applySnapshot snapshot)

def complete (engine : EnclaveReconciliationEngine) : EnclaveReconciliationEngine × Response :=
  match engine.completeReconciliation with
  | (none, engine) =>
      (engine, failedWithCode 409 "No active reconciliation to complete"
        "NO_ACTIVE_RECONCILIATION")
  | (some completed, engine) =>
      (engine, ⟨200, .obj [("status", "SUCCESS"),
        ("reconciliationCompleted", stateToJs completed)]⟩)

def catchUp (sha256 : Sha256) (request : CatchUpRequest) (engine : EnclaveReconciliationEngine) :
    EnclaveReconciliationEngine × Response :=
  let action := request.body.get "action"
  if action.isStr "BEGIN" then begin request engine
  else if action.isStr "APPLY_BLOCK" then applyBlock sha256 request engine
  else if action.isStr "APPLY_SNAPSHOT" then applySnapshot request engine
  else if action.isStr "COMPLETE" then complete engine
  else if action.isStr "STATUS" then
    (engine, ⟨200, .obj [("status", "SUCCESS"), ("isReconciling", .bool (isReconciling engine)),
      ("reconciliationState", reconciliationStateToJs engine)]⟩)
  else (engine, failedWithCode 400 "Unknown reconciliation action" "INVALID_ACTION")

/-! ## POST /api/reconciliation/snapshot -/

def servedSnapshot (snapshot : EpochStateSnapshot) : JsValue :=
  .obj [("metadata", snapshot.metadata.toJs),
    ("quorumSignatures", .arr snapshot.quorumSignatures),
    ("merklePath", .arr (snapshot.merklePath.map JsValue.str)),
    ("latestEntry", snapshot.latestEntry)]

/-- `thrownText` is the platform's message for a signature list that cannot be read. -/
def latestSnapshot (thrownText : String) (manager : EnclaveSnapshotManager) : Response :=
  match manager.getLatestSnapshot with
  | none => failedWithCode 404 "No snapshot available" "SNAPSHOT_NOT_FOUND"
  | some snapshot =>
      match EnclaveSnapshotManager.validateSnapshot snapshot.toJs with
      | none => failed 500 thrownText
      | some validation =>
          if !validation.valid then
            ⟨500, .obj [("status", "FAILED"), ("error", "Snapshot validation failed"),
              ("reason", (validation.reason.map JsValue.str).getD .undefined),
              ("code", "SNAPSHOT_INVALID")]⟩
          else ⟨200, .obj [("status", "SUCCESS"), ("snapshot", servedSnapshot snapshot)]⟩

/-! ## The route is the engine -/

/-- The call a body asks for. -/
def catchUpCall? (request : CatchUpRequest) : Option Call :=
  let body := request.body
  if (body.get "action").isStr "BEGIN" then
    match (body.get "localIndex").asNumber?, (body.get "targetCommitIndex").asNumber? with
    | some localIndex, some targetCommitIndex =>
        some (.beginReconciliation (.ofInt request.nowMs) localIndex targetCommitIndex)
    | _, _ => none
  else if (body.get "action").isStr "APPLY_BLOCK" then
    if (body.get "block").truthy then some (.applyCatchUpBlock (body.get "block")) else none
  else if (body.get "action").isStr "APPLY_SNAPSHOT" then
    if (body.get "snapshot").truthy then some (.applySnapshot (body.get "snapshot")) else none
  else if (body.get "action").isStr "COMPLETE" then some .completeReconciliation
  else none

/-- What the route does with the call it is asked for: the engine goes through the call, and the
answer tells whether the call took effect. -/
structure Performs (sha256 : Sha256) (engine : EnclaveReconciliationEngine) (call? : Option Call)
    (result : EnclaveReconciliationEngine × Response) : Prop where
  engine_eq : result.1 = (call?.map fun c => (engine.call sha256 c).2).getD engine
  code_iff : ∀ c, call? = some c → (result.2.code = 200 ↔ (engine.call sha256 c).1 = .ok ())

section Refinement

variable {sha256 : Sha256} {engine : EnclaveReconciliationEngine}

theorem performs_none (response : Response) : Performs sha256 engine none (engine, response) :=
  ⟨rfl, fun _ h => by cases h⟩

theorem catchUpFailure_code (request : CatchUpRequest) (tag : String) (failure : CatchUpFailure) :
    (catchUpFailure request tag failure).code ≠ 200 := by
  cases failure with
  | refused reason => exact (by decide : (409 : ℕ) ≠ 200)
  | thrown => exact (by decide : (500 : ℕ) ≠ 200)

theorem performs_begin {request : CatchUpRequest}
    (haction : request.body.get "action" = .str "BEGIN") :
    Performs sha256 engine (catchUpCall? request) (begin request engine) := by
  have hcall : (request.body.get "action").isStr "BEGIN" = true := JsValue.isStr_iff.2 haction
  simp only [catchUpCall?, hcall, if_true, begin]
  cases (request.body.get "localIndex").asNumber? with
  | none => exact performs_none _
  | some localIndex =>
      cases (request.body.get "targetCommitIndex").asNumber? with
      | none => exact performs_none _
      | some targetCommitIndex =>
          refine ⟨rfl, fun c h => ?_⟩
          cases h
          exact iff_of_true rfl rfl

theorem performs_answerCall (c : Call) {onFailure : CatchUpFailure → Response}
    {onApplied : EnclaveReconciliationEngine → Response}
    (hfailure : ∀ failure, (onFailure failure).code ≠ 200)
    (happlied : ∀ engine, (onApplied engine).code = 200) :
    Performs sha256 engine (some c) (answerCall onFailure onApplied (engine.call sha256 c)) := by
  rcases hcall : engine.call sha256 c with ⟨failure | u, after⟩
  · refine ⟨by simp [hcall, answerCall], fun c' h => ?_⟩
    cases h
    rw [hcall]
    exact iff_of_false (hfailure failure) (by simp)
  · refine ⟨by simp [hcall, answerCall], fun c' h => ?_⟩
    cases h
    rw [hcall]
    exact iff_of_true (happlied after) rfl

theorem performs_applyBlock (request : CatchUpRequest) :
    Performs sha256 engine
      (if (request.body.get "block").truthy then
        some (.applyCatchUpBlock (request.body.get "block")) else none)
      (applyBlock sha256 request engine) := by
  unfold applyBlock
  dsimp only
  by_cases htruthy : (request.body.get "block").truthy = true
  · rw [if_pos htruthy, htruthy, if_neg (by simp)]
    exact performs_answerCall (.applyCatchUpBlock (request.body.get "block"))
      (catchUpFailure_code request _) fun _ => rfl
  · rw [if_neg htruthy, Bool.eq_false_iff.2 htruthy]
    exact performs_none _

theorem performs_applySnapshot (request : CatchUpRequest) :
    Performs sha256 engine
      (if (request.body.get "snapshot").truthy then
        some (.applySnapshot (request.body.get "snapshot")) else none)
      (applySnapshot request engine) := by
  unfold applySnapshot
  dsimp only
  by_cases htruthy : (request.body.get "snapshot").truthy = true
  · rw [if_pos htruthy, htruthy, if_neg (by simp)]
    exact performs_answerCall (.applySnapshot (request.body.get "snapshot"))
      (catchUpFailure_code request _) fun _ => rfl
  · rw [if_neg htruthy, Bool.eq_false_iff.2 htruthy]
    exact performs_none _

theorem performs_complete :
    Performs sha256 engine (some .completeReconciliation) (complete engine) := by
  unfold complete EnclaveReconciliationEngine.completeReconciliation
  cases hstate : engine.reconciliationState with
  | none =>
      refine ⟨by simp [EnclaveReconciliationEngine.call,
        EnclaveReconciliationEngine.completeReconciliation, hstate], fun c h => ?_⟩
      cases h
      refine iff_of_false (by decide : (409 : ℕ) ≠ 200) ?_
      simp [EnclaveReconciliationEngine.call, EnclaveReconciliationEngine.completeReconciliation,
        hstate]
  | some state =>
      refine ⟨by simp [EnclaveReconciliationEngine.call,
        EnclaveReconciliationEngine.completeReconciliation, hstate], fun c h => ?_⟩
      cases h
      refine iff_of_true rfl ?_
      simp [EnclaveReconciliationEngine.call, EnclaveReconciliationEngine.completeReconciliation,
        hstate]

/-- One request performs the call its body asks for, and a body that asks for none leaves the
engine. -/
theorem performs_catchUp (sha256 : Sha256) (engine : EnclaveReconciliationEngine)
    (request : CatchUpRequest) :
    Performs sha256 engine (catchUpCall? request) (catchUp sha256 request engine) := by
  unfold catchUp
  dsimp only
  split_ifs with hbegin hblock hsnapshot hcomplete
  · exact performs_begin (JsValue.isStr_iff.1 hbegin)
  · simp only [catchUpCall?, hbegin, hblock, if_true, if_false, Bool.false_eq_true]
    exact performs_applyBlock request
  · simp only [catchUpCall?, hbegin, hblock, hsnapshot, if_true, if_false, Bool.false_eq_true]
    exact performs_applySnapshot request
  · simp only [catchUpCall?, hbegin, hblock, hsnapshot, hcomplete, if_true, if_false,
      Bool.false_eq_true]
    exact performs_complete
  · simp only [catchUpCall?, hbegin, hblock, hsnapshot, hcomplete, if_false, Bool.false_eq_true]
    exact performs_none _
  · simp only [catchUpCall?, hbegin, hblock, hsnapshot, hcomplete, if_false, Bool.false_eq_true]
    exact performs_none _

/-- A request that is not answered with 200 leaves the engine. -/
theorem catchUp_refused {request : CatchUpRequest}
    (hcode : (catchUp sha256 request engine).2.code ≠ 200) :
    (catchUp sha256 request engine).1 = engine := by
  have hperforms := performs_catchUp sha256 engine request
  rw [hperforms.engine_eq]
  cases hcall : catchUpCall? request with
  | none => rfl
  | some c =>
      have hrefused : (engine.call sha256 c).1 ≠ .ok () :=
        fun hok => hcode ((hperforms.code_iff c hcall).2 hok)
      rcases hreply : (engine.call sha256 c).1 with failure | u
      · exact EnclaveReconciliationEngine.call_of_error hreply
      · exact absurd hreply hrefused

end Refinement

/-! ## Runs of requests -/

/-- The engine and the blocks of the requests it has answered with success, in order. -/
structure CatchUpTraffic where
  engine : EnclaveReconciliationEngine
  applied : List JsValue

namespace CatchUpTraffic

def fresh : CatchUpTraffic := ⟨.getInstance, []⟩

def step (sha256 : Sha256) (traffic : CatchUpTraffic) (request : CatchUpRequest) :
    CatchUpTraffic where
  engine := (catchUp sha256 request traffic.engine).1
  applied :=
    match catchUpCall? request with
    | some (.applyCatchUpBlock block) =>
        if (catchUp sha256 request traffic.engine).2.code = 200 then traffic.applied ++ [block]
        else traffic.applied
    | _ => traffic.applied

end CatchUpTraffic

/-- The traffic is a run of engine calls, seen from outside. -/
structure SeesRun (traffic : CatchUpTraffic) (run : CatchUpRun) : Prop where
  engine : traffic.engine = run.engine
  applied : traffic.applied = run.accepted

section Traffic

variable {sha256 : Sha256} {traffic : CatchUpTraffic} {run : CatchUpRun}

theorem accepted_step_of_not_block {c : Call} (hblock : ∀ block, c ≠ .applyCatchUpBlock block) :
    (run.step sha256 c).accepted = run.accepted := by
  cases c with
  | beginReconciliation startedAt localIndex targetCommitIndex =>
      exact accepted_begin _ localIndex run.sessions
  | applyCatchUpBlock block => exact absurd rfl (hblock block)
  | applySnapshot snapshot => rfl
  | completeReconciliation => rfl

/-- A block counts as accepted exactly if its call takes effect. -/
theorem accepted_step_block (hrun : LinearChain sha256 run) (block : JsValue) :
    ((run.engine.call sha256 (.applyCatchUpBlock block)).1 = .ok () →
        (run.step sha256 (.applyCatchUpBlock block)).accepted = run.accepted ++ [block]) ∧
      ((run.engine.call sha256 (.applyCatchUpBlock block)).1 ≠ .ok () →
        (run.step sha256 (.applyCatchUpBlock block)).accepted = run.accepted) := by
  rcases EnclaveReconciliationEngine.applyCatchUpBlock_cases sha256 run.engine block with
    ⟨state, index, haccepts, happlied⟩ | ⟨failure, hrefused, happlied⟩
  · obtain ⟨session, sessions, hsessions, -⟩ := hrun.state state haccepts.active
    have hreply : (run.engine.call sha256 (.applyCatchUpBlock block)).1 = .ok () := by
      rw [EnclaveReconciliationEngine.call, happlied]
    have hbefore : run.accepted = (CatchUpRun.mk run.engine (session :: sessions)).accepted := by
      rw [← hsessions]
    refine ⟨fun _ => ?_, fun hne => absurd hreply hne⟩
    rw [step_of_accepts haccepts, hsessions, hbefore]
    exact accepted_addAccepted _ session sessions block
  · have hreply : (run.engine.call sha256 (.applyCatchUpBlock block)).1 ≠ .ok () := by
      rw [EnclaveReconciliationEngine.call, happlied]
      simp
    exact ⟨fun hok => absurd hok hreply, fun _ => by rw [step_of_refused hrefused]⟩

theorem SeesRun.step_none (h : SeesRun traffic run) {request : CatchUpRequest}
    (hcall : catchUpCall? request = none) : SeesRun (traffic.step sha256 request) run := by
  have hperforms := performs_catchUp sha256 traffic.engine request
  constructor
  · rw [CatchUpTraffic.step, hperforms.engine_eq, hcall]
    exact h.engine
  · rw [CatchUpTraffic.step, hcall]
    exact h.applied

theorem SeesRun.step_some (h : SeesRun traffic run) (hrun : LinearChain sha256 run)
    {request : CatchUpRequest} {c : Call} (hcall : catchUpCall? request = some c) :
    SeesRun (traffic.step sha256 request) (run.step sha256 c) := by
  have hperforms := performs_catchUp sha256 traffic.engine request
  constructor
  · rw [CatchUpTraffic.step, hperforms.engine_eq, hcall, h.engine]
    rfl
  · by_cases hblock : ∃ block, c = .applyCatchUpBlock block
    · obtain ⟨block, rfl⟩ := hblock
      obtain ⟨hok, hrefused⟩ := accepted_step_block hrun block
      have hcode := hperforms.code_iff _ hcall
      rw [CatchUpTraffic.step, hcall]
      dsimp only
      split_ifs with hanswer
      · rw [hok (h.engine ▸ hcode.1 hanswer), h.applied]
      · rw [hrefused fun hreply => hanswer (hcode.2 (h.engine ▸ hreply)), h.applied]
    · have hother : ∀ block, c ≠ .applyCatchUpBlock block := fun block hc => hblock ⟨block, hc⟩
      rw [accepted_step_of_not_block hother, ← h.applied, CatchUpTraffic.step, hcall]
      split
      · rename_i block hc
        exact absurd (Option.some.inj hc) (hother block)
      · rfl

/-- Every run of requests is the run of the calls their bodies ask for. -/
theorem seesRun_catchUp (sha256 : Sha256) (requests : List CatchUpRequest)
    (hrequests : ∀ request ∈ requests, ∀ c, catchUpCall? request = some c → BlockCatchUp c) :
    SeesRun (Run.run (CatchUpTraffic.step sha256) .fresh requests)
      (Run.run (CatchUpRun.step sha256) .fresh (requests.filterMap catchUpCall?)) := by
  induction requests using List.reverseRecOn with
  | nil => exact ⟨rfl, rfl⟩
  | append_singleton requests request ih =>
      have hbefore : ∀ r ∈ requests, ∀ c, catchUpCall? r = some c → BlockCatchUp c :=
        fun r hr => hrequests r (List.mem_append_left _ hr)
      have hcalls : ∀ c ∈ requests.filterMap catchUpCall?, BlockCatchUp c := by
        intro c hc
        obtain ⟨r, hr, hcall⟩ := List.mem_filterMap.1 hc
        exact hbefore r hr c hcall
      have hsees := ih hbefore
      rw [Run.run_append, List.filterMap_append, Run.run_append]
      cases hcall : catchUpCall? request with
      | none =>
          simp only [List.filterMap_cons, hcall, List.filterMap_nil, Run.run_nil, Run.run_cons]
          exact hsees.step_none hcall
      | some c =>
          simp only [List.filterMap_cons, hcall, List.filterMap_nil, Run.run_nil, Run.run_cons]
          exact hsees.step_some (catchUp_linear sha256 _ hcalls).1 hcall

end Traffic

/-- Whatever requests reach the route, blocks whose requests were answered with success form one
hash chain from the genesis text, each over its own entries, the engine stands at its head, and a
request answered otherwise leaves the engine. -/
theorem catchUp_traffic_linear (sha256 : Sha256) (requests : List CatchUpRequest)
    (hrequests : ∀ request ∈ requests, ∀ c, catchUpCall? request = some c → BlockCatchUp c) :
    let traffic := Run.run (CatchUpTraffic.step sha256) .fresh requests
    HashChain.Linked previousHash merkleHash genesisHash traffic.applied ∧
      (∀ block ∈ traffic.applied, HashedBlock sha256 block) ∧
      traffic.engine.lastAppliedMerkleHash =
        HashChain.headFrom merkleHash genesisHash traffic.applied ∧
      ∀ request, (catchUp sha256 request traffic.engine).2.code ≠ 200 →
        (catchUp sha256 request traffic.engine).1 = traffic.engine := by
  intro traffic
  have hsees := seesRun_catchUp sha256 requests hrequests
  have hcalls : ∀ c ∈ requests.filterMap catchUpCall?, BlockCatchUp c := by
    intro c hc
    obtain ⟨r, hr, hcall⟩ := List.mem_filterMap.1 hc
    exact hrequests r hr c hcall
  have hlinear := (catchUp_linear sha256 _ hcalls).1
  refine ⟨?_, ?_, ?_, fun request => catchUp_refused⟩
  · rw [hsees.applied]
    exact hlinear.linked
  · rw [hsees.applied]
    exact hlinear.hashed
  · rw [hsees.applied, hsees.engine]
    exact hlinear.head

/-- A session that takes a block, and a request without one. -/
def sampleRequests : List CatchUpRequest :=
  [⟨.obj [("action", "BEGIN"), ("localIndex", .num (.ofInt 0)),
      ("targetCommitIndex", .num (.ofInt 5))], 0, ""⟩,
    ⟨.obj [("action", "APPLY_BLOCK"),
      ("block", sampleBlock 1 [] emptyDigest.text "GENESIS_BLOCK")], 0, ""⟩,
    ⟨.obj [("action", "APPLY_BLOCK")], 0, ""⟩]

theorem catchUp_traffic_linear_sample :
    let traffic :=
      Run.run (CatchUpTraffic.step fun _ => emptyDigest) .fresh sampleRequests
    HashChain.Linked previousHash merkleHash genesisHash traffic.applied ∧
      (∀ block ∈ traffic.applied, HashedBlock (fun _ => emptyDigest) block) ∧
      traffic.engine.lastAppliedMerkleHash =
        HashChain.headFrom merkleHash genesisHash traffic.applied ∧
      ∀ request, (catchUp (fun _ => emptyDigest) request traffic.engine).2.code ≠ 200 →
        (catchUp (fun _ => emptyDigest) request traffic.engine).1 = traffic.engine := by
  apply catchUp_traffic_linear
  intro request hrequest c hcall
  simp only [sampleRequests, List.mem_cons, List.not_mem_nil, or_false] at hrequest
  rcases hrequest with rfl | rfl | rfl
  · cases hcall
    exact ⟨0, by norm_num, rfl⟩
  · cases hcall
    intro n hn
    cases hn
    exact (JsNumber.lt_ofInt (by norm_num) (by norm_num)).2 (by norm_num)
  · cases hcall

/-! ## A snapshot from one node to another -/

/-- The term of the signature survives JSON. -/
def FiniteTerm (sig : JsValue) : Prop := ∃ x, sig.get "term" = .num (.fin x)

section Handover

variable {sig : JsValue}

/-- A signature of the right format keeps it through JSON exactly if its term is finite. -/
theorem hasSignatureFormat_viaJson_iff
    (h : EnclaveSnapshotManager.hasSignatureFormat sig = true) :
    EnclaveSnapshotManager.hasSignatureFormat sig.viaJson = true ↔ FiniteTerm sig := by
  have hobj := exists_eq_obj_of_hasSignatureFormat h
  simp only [EnclaveSnapshotManager.hasSignatureFormat, Bool.and_eq_true,
    Option.isSome_iff_exists, JsValue.asString?_eq_some, Option.any_eq_true,
    JsValue.asNumber?_eq_some] at h
  obtain ⟨⟨⟨nodeId, hnode⟩, text, htext, hne⟩, term, hterm⟩ := h
  have hnode' := Ledger.get_viaJson hobj hnode (by simp)
  have htext' := Ledger.get_viaJson hobj htext (by simp)
  have hterm' := Ledger.get_viaJson hobj hterm (by simp)
  have hformat : EnclaveSnapshotManager.hasSignatureFormat sig.viaJson =
      (JsValue.num term).viaJson.asNumber?.isSome := by
    have hshown : (JsValue.str text).viaJson.asString?.any (· ≠ "") = true := by
      simpa [JsValue.viaJson] using hne
    rw [EnclaveSnapshotManager.hasSignatureFormat, hnode', htext', hterm', hshown]
    rfl
  have hfinite : FiniteTerm sig ↔ ∃ x, term = .fin x := by
    rw [FiniteTerm, hterm]
    simp
  rw [hformat, hfinite]
  cases term <;> simp [JsValue.viaJson, JsNumber.isFinite, JsValue.asNumber?]

/-- What the receiver of a served snapshot is given. -/
def receivedSnapshot (snapshot : EpochStateSnapshot) : JsValue := (servedSnapshot snapshot).viaJson

variable {snapshot : EpochStateSnapshot}

theorem get_metadata_received :
    (receivedSnapshot snapshot).get "metadata" = snapshot.metadata.toJs.viaJson :=
  Ledger.get_viaJson (v := snapshot.metadata.toJs) ⟨_, rfl⟩ rfl (by simp [SnapshotMetadata.toJs])

theorem get_quorumSignatures_received :
    (receivedSnapshot snapshot).get "quorumSignatures" =
      .arr (snapshot.quorumSignatures.map JsValue.viaJson) := by
  have hget : (servedSnapshot snapshot).viaJson.get "quorumSignatures" =
      (JsValue.arr snapshot.quorumSignatures).viaJson :=
    Ledger.get_viaJson ⟨_, rfl⟩ rfl (by simp)
  rw [receivedSnapshot, hget, JsValue.viaJson, Ledger.itemsViaJson_eq_map]

theorem isArray_merklePath_received :
    ((receivedSnapshot snapshot).get "merklePath").isArray = true := by
  have hget : (servedSnapshot snapshot).viaJson.get "merklePath" =
      (JsValue.arr (snapshot.merklePath.map JsValue.str)).viaJson :=
    Ledger.get_viaJson ⟨_, rfl⟩ rfl (by simp)
  rw [receivedSnapshot, hget, JsValue.viaJson]
  rfl

/-- A snapshot the server validates is valid for the receiver exactly if all terms are finite. -/
theorem accepts_received_iff (h : EnclaveSnapshotManager.accepts snapshot.toJs = true) :
    EnclaveSnapshotManager.accepts (receivedSnapshot snapshot) = true ↔
      ∀ sig ∈ snapshot.quorumSignatures, FiniteTerm sig := by
  obtain ⟨signatures, hwell⟩ := EnclaveSnapshotManager.accepts_iff.1 h
  have hsignatures : signatures = snapshot.quorumSignatures :=
    (JsValue.arr.inj hwell.quorumSignatures).symm
  subst hsignatures
  rw [EnclaveSnapshotManager.accepts_iff]
  constructor
  · rintro ⟨received, hreceived⟩ sig hsig
    have hsame := JsValue.arr.inj
      (hreceived.quorumSignatures.symm.trans get_quorumSignatures_received)
    have hmem : sig.viaJson ∈ received := hsame ▸ List.mem_map_of_mem hsig
    exact (hasSignatureFormat_viaJson_iff (hwell.format sig hsig)).1 (hreceived.format _ hmem)
  · intro hfinite
    refine ⟨_, ?_, get_quorumSignatures_received, ?_, ?_, isArray_merklePath_received⟩
    · rw [get_metadata_received, SnapshotMetadata.toJs, JsValue.viaJson]
      rfl
    · rw [List.length_map]
      exact hwell.two_le
    · intro sig hsig
      obtain ⟨before, hbefore, rfl⟩ := List.mem_map.1 hsig
      exact (hasSignatureFormat_viaJson_iff (hwell.format before hbefore)).2 (hfinite before hbefore)

theorem accepts_of_served {thrownText : String} {manager : EnclaveSnapshotManager}
    (hlatest : manager.getLatestSnapshot = some snapshot)
    (hserved : (latestSnapshot thrownText manager).code = 200) :
    EnclaveSnapshotManager.accepts snapshot.toJs = true ∧
      ((latestSnapshot thrownText manager).body.get "snapshot").viaJson =
        receivedSnapshot snapshot := by
  unfold latestSnapshot at hserved ⊢
  rw [hlatest] at hserved ⊢
  dsimp only at hserved ⊢
  cases hvalidation : EnclaveSnapshotManager.validateSnapshot snapshot.toJs with
  | none => rw [hvalidation] at hserved; cases hserved
  | some validation =>
      rw [hvalidation] at hserved
      dsimp only at hserved ⊢
      split_ifs at hserved ⊢ with hvalid
      · cases hserved
      · refine ⟨?_, rfl⟩
        rw [EnclaveSnapshotManager.accepts, hvalidation]
        simpa using hvalid

/-- Which block the receiver takes after the snapshot. -/
def ContinuesFrom (sha256 : Sha256) (l : ℤ) (merkleRootHash : String) (block : JsValue) : Prop :=
  block.get "index" = .num (.ofInt (l + 1)) ∧ previousHash block = .str merkleRootHash ∧
    HashedBlock sha256 block ∧ ∃ signature, block.get "signature" = .str signature ∧ signature ≠ ""

theorem accepts_after_snapshot {sha256 : Sha256} {engine : EnclaveReconciliationEngine}
    {state : ReconciliationState} {l : ℤ} {root : String} {block : JsValue} (hl : |l| < 2 ^ 53)
    (hactive : engine.reconciliationState = some state) (hreconciling : state.isReconciling = true)
    (hempty : engine.appliedBlocks.size = 0) (hlocal : state.localIndex = .num (.ofInt l))
    (hhead : engine.lastAppliedMerkleHash = .str root) :
    (engine.applyCatchUpBlock sha256 block).1 = .ok () ↔ ContinuesFrom sha256 l root block := by
  obtain ⟨hlow, hhigh⟩ := abs_lt.1 hl
  have hexpected : addOne (engine.lastAppliedIndex state) = some (.num (.ofInt (l + 1))) := by
    rw [EnclaveReconciliationEngine.lastAppliedIndex, if_neg (by omega), hlocal, addOne,
      JsNumber.add_ofInt (abs_le.2 ⟨by omega, by omega⟩) (by norm_num)]
  constructor
  · intro hok
    obtain ⟨state', index, haccepts⟩ :=
      EnclaveReconciliationEngine.exists_accepts_of_applied hok
    cases hactive.symm.trans haccepts.active
    cases hexpected.symm.trans haccepts.expected
    refine ⟨haccepts.indexed, ?_, haccepts.hashed, haccepts.signed⟩
    exact strictEq_str.1 (hhead ▸ haccepts.linked)
  · rintro ⟨hindex, hprevious, hhashed, hsigned⟩
    have hnan : IndexKey.num (.ofInt (l + 1)) ≠ .num .nan := fun h =>
      JsNumber.ofInt_ne_nan (abs_le.2 ⟨by omega, by omega⟩) (IndexKey.num.inj h)
    have haccepts : EnclaveReconciliationEngine.Accepts sha256 engine state
        (.num (.ofInt (l + 1))) block :=
      ⟨hactive, hreconciling, hexpected, hindex, hnan, hhead ▸ strictEq_str.2 hprevious, hhashed,
        hsigned⟩
    rw [EnclaveReconciliationEngine.applyCatchUpBlock_of_accepts haccepts]

/-- The snapshot one node serves, sent as JSON to a node that has begun a session, is taken
exactly if the terms of its signatures are finite; from then on the receiver takes exactly the
well-formed blocks that follow the snapshot's index and name its root. -/
theorem snapshot_handover (sha256 : Sha256) (thrownText : String)
    (manager : EnclaveSnapshotManager) (engine : EnclaveReconciliationEngine)
    (startedAt localIndex targetCommitIndex : JsNumber) (request : CatchUpRequest) (l : ℤ)
    (hlatest : manager.getLatestSnapshot = some snapshot)
    (hserved : (latestSnapshot thrownText manager).code = 200)
    (haction : request.body.get "action" = .str "APPLY_SNAPSHOT")
    (hbody : request.body.get "snapshot" =
      ((latestSnapshot thrownText manager).body.get "snapshot").viaJson)
    (hl : |l| < 2 ^ 53) (hindex : snapshot.metadata.latestIndex = .ofInt l) :
    let answered :=
      catchUp sha256 request (engine.beginReconciliation startedAt localIndex targetCommitIndex)
    (answered.2.code = 200 ↔ ∀ sig ∈ snapshot.quorumSignatures, FiniteTerm sig) ∧
      (answered.2.code = 200 → ∀ block,
        (answered.1.applyCatchUpBlock sha256 block).1 = .ok () ↔
          ContinuesFrom sha256 l snapshot.metadata.merkleRootHash block) := by
  intro answered
  obtain ⟨hvalid, hsent⟩ := accepts_of_served hlatest hserved
  rw [hsent] at hbody
  have htruthy : (receivedSnapshot snapshot).truthy = true := by
    rw [receivedSnapshot, servedSnapshot, JsValue.viaJson]
    rfl
  have hcall : catchUpCall? request = some (.applySnapshot (receivedSnapshot snapshot)) := by
    simp [catchUpCall?, haction, hbody, htruthy, JsValue.isStr]
  have hperforms := performs_catchUp sha256
    (engine.beginReconciliation startedAt localIndex targetCommitIndex) request
  have hcode := hperforms.code_iff _ hcall
  have hengine : answered.1 = ((engine.beginReconciliation startedAt localIndex
      targetCommitIndex).applySnapshot (receivedSnapshot snapshot)).2 := by
    have := hperforms.engine_eq
    rwa [hcall] at this
  rcases EnclaveReconciliationEngine.applySnapshot_cases
      (engine.beginReconciliation startedAt localIndex targetCommitIndex)
      (receivedSnapshot snapshot) with ⟨state, haccepts, happlied⟩ | ⟨failure, hrefused, happlied⟩
  · have hok : answered.2.code = 200 := hcode.2 (congrArg Prod.fst happlied)
    refine ⟨iff_of_true hok ((accepts_received_iff hvalid).1 haccepts.valid), fun _ block => ?_⟩
    rw [hengine, happlied, get_metadata_received]
    have hlocal : snapshot.metadata.toJs.viaJson.get "latestIndex" = .num (.ofInt l) := by
      have hget : snapshot.metadata.toJs.viaJson.get "latestIndex" =
          (JsValue.num snapshot.metadata.latestIndex).viaJson :=
        Ledger.get_viaJson ⟨_, rfl⟩ rfl (by simp)
      rw [hget, hindex, JsNumber.ofInt_eq_fin hl.le]
      rfl
    have hroot : snapshot.metadata.toJs.viaJson.get "merkleRootHash" =
        .str snapshot.metadata.merkleRootHash :=
      Ledger.get_viaJson (v := .str snapshot.metadata.merkleRootHash) ⟨_, rfl⟩ rfl (by simp)
    exact accepts_after_snapshot hl rfl haccepts.isReconciling rfl hlocal hroot
  · have hnot : answered.2.code ≠ 200 := by
      intro h
      have hok : ((engine.beginReconciliation startedAt localIndex
        targetCommitIndex).applySnapshot (receivedSnapshot snapshot)).1 = .ok () := hcode.1 h
      rw [happlied] at hok
      cases hok
    refine ⟨iff_of_false hnot fun hfinite => ?_, fun h => absurd h hnot⟩
    have hstate : EnclaveReconciliationEngine.AcceptsSnapshot
        (engine.beginReconciliation startedAt localIndex targetCommitIndex) _
        (receivedSnapshot snapshot) := ⟨rfl, rfl, (accepts_received_iff hvalid).2 hfinite⟩
    rw [EnclaveReconciliationEngine.checkSnapshot_eq_ok.2 hstate] at hrefused
    cases hrefused

end Handover

def handedSignature (nodeId : String) : JsValue :=
  .obj [("nodeId", nodeId), ("signature", "share"), ("term", .num (.ofInt 1))]

def handedSnapshot : EpochStateSnapshot where
  metadata := {
    snapshotId := "snapshot-1"
    timestamp := .ofInt 0
    latestIndex := .ofInt 3
    latestTerm := .ofInt 1
    merkleRootHash := emptyDigest.text
    committedTransactionCount := 0 }
  quorumSignatures := [handedSignature "n1", handedSignature "n2"]
  merklePath := []
  latestEntry := .undefined

def handingManager : EnclaveSnapshotManager :=
  EnclaveSnapshotManager.getInstance.remember handedSnapshot

def handoverRequest : CatchUpRequest where
  body := .obj [("action", "APPLY_SNAPSHOT"), ("snapshot", receivedSnapshot handedSnapshot)]
  nowMs := 0
  thrownText := ""

theorem snapshot_handover_sample :
    let answered := catchUp (fun _ => emptyDigest) handoverRequest
      (EnclaveReconciliationEngine.getInstance.beginReconciliation (.ofInt 0) (.ofInt 0)
        (.ofInt 5))
    (answered.2.code = 200 ↔ ∀ sig ∈ handedSnapshot.quorumSignatures, FiniteTerm sig) ∧
      (answered.2.code = 200 → ∀ block,
        (answered.1.applyCatchUpBlock (fun _ => emptyDigest) block).1 = .ok () ↔
          ContinuesFrom (fun _ => emptyDigest) 3 handedSnapshot.metadata.merkleRootHash block) :=
  snapshot_handover (fun _ => emptyDigest) "" handingManager .getInstance (.ofInt 0) (.ofInt 0)
    (.ofInt 5) handoverRequest 3 rfl rfl rfl rfl (by norm_num) rfl

end UniverEscrow.Router
