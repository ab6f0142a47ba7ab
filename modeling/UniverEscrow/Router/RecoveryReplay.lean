import UniverEscrow.Admin.HealConserves
import UniverEscrow.Lib.Run
import UniverEscrow.Router.EscrowRouter

/-!
# Replaying an unfreeze request

A ritual records its request id, and a recorded id makes the next ritual with it return at
once with `ok` set; the handler then goes on to the audit that lifts the freeze.
-/

namespace UniverEscrow.Router

open UniverEscrow.Js UniverEscrow.Ledger UniverEscrow.Admin UniverEscrow.Lib.Run

/-! ## The file of recorded ids -/

theorem isSome_elementTexts_cons (v : JsValue) (vs : List JsValue) :
    (JsValue.elementTexts (v :: vs)).isSome =
      (v.toText.isSome && (JsValue.elementTexts vs).isSome) := by
  cases v with
  | undefined => rw [JsValue.elementTexts, JsValue.toText]; simp
  | null => rw [JsValue.elementTexts, JsValue.toText]; simp
  | _ =>
      rw [JsValue.elementTexts]
      · generalize JsValue.toText _ = text
        cases text <;> cases JsValue.elementTexts vs <;> rfl
      all_goals simp

theorem any_membersViaJson (p : String → Bool) (members : List (String × JsValue))
    (h : (JsValue.membersViaJson members).any (fun m => p m.1) = true) :
    members.any (fun m => p m.1) = true := by
  induction members with
  | nil => exact h
  | cons m members ih =>
      obtain ⟨k, v⟩ := m
      rw [List.any_cons, Bool.or_eq_true]
      cases v with
      | undefined => exact .inr (ih h)
      | _ =>
          rw [JsValue.membersViaJson, List.any_cons, Bool.or_eq_true] at h
          · exact h.imp_right ih
          · simp

mutual

/-- A value with a text keeps one through a file. -/
theorem isSome_toText_viaJson : ∀ v : JsValue, v.toText.isSome = true →
    v.viaJson.toText.isSome = true
  | .undefined, _ => rfl
  | .null, _ => rfl
  | .bool _, _ => rfl
  | .num n, _ => by
      rw [JsValue.viaJson]
      split_ifs <;> rfl
  | .str _, _ => rfl
  | .arr items, h => by
      rw [JsValue.toText, Option.isSome_map] at h
      rw [JsValue.viaJson, JsValue.toText, Option.isSome_map]
      exact isSome_elementTexts_viaJson items h
  | .obj members, h => by
      rw [JsValue.viaJson, JsValue.toText]
      rw [JsValue.toText] at h
      split_ifs with hviaJson
      · rw [if_pos (any_membersViaJson (fun k => decide (k = "toString")) members hviaJson)] at h
        exact h
      · rfl

theorem isSome_elementTexts_viaJson : ∀ vs : List JsValue,
    (JsValue.elementTexts vs).isSome = true →
      (JsValue.elementTexts (JsValue.itemsViaJson vs)).isSome = true
  | [], _ => rfl
  | v :: vs, h => by
      rw [isSome_elementTexts_cons, Bool.and_eq_true] at h
      rw [JsValue.itemsViaJson, isSome_elementTexts_cons, Bool.and_eq_true]
      exact ⟨isSome_toText_viaJson v h.1, isSome_elementTexts_viaJson vs h.2⟩

end

theorem mapM_toText_str (existing : List String) :
    (existing.map JsValue.str).mapM JsValue.toText = some existing := by
  induction existing with
  | nil => rfl
  | cons id existing ih => simp [List.mapM_cons, ih, JsValue.toText]

/-- Recording an id that has a text keeps the ids that were there and adds that text. -/
theorem readRecoveryRequests_append {requestId : JsValue} (file : Option FileText)
    (htext : requestId.toText.isSome = true) :
    ∃ text, requestId.viaJson.toText = some text ∧
      readRecoveryRequests (some (.ofJson (.arr
        ((readRecoveryRequests file).map JsValue.str ++ [requestId])))) =
          readRecoveryRequests file ++ [text] := by
  obtain ⟨text, hread⟩ := Option.isSome_iff_exists.1 (isSome_toText_viaJson requestId htext)
  refine ⟨text, hread, ?_⟩
  have hstr : ((readRecoveryRequests file).map JsValue.str).map JsValue.viaJson =
      (readRecoveryRequests file).map JsValue.str := by
    simp [Function.comp_def, JsValue.viaJson]
  simp only [FileText.ofJson, JsValue.viaJson, itemsViaJson_eq_map, List.map_append, hstr]
  rw [readRecoveryRequests, List.mapM_append, mapM_toText_str]
  simp [hread]

theorem includesRequest_append {requestId id : JsValue} {file : Option FileText}
    (htext : requestId.toText.isSome = true)
    (hid : includesRequest (readRecoveryRequests file) id = true) :
    includesRequest (readRecoveryRequests (appendRecoveryRequest requestId file)) id = true := by
  unfold appendRecoveryRequest
  dsimp only
  split_ifs
  · exact hid
  · obtain ⟨text, -, hread⟩ := readRecoveryRequests_append file htext
    rw [hread, includesRequest, List.any_append, Bool.or_eq_true]
    exact .inl hid

theorem includesRequest_append_self (id : String) (file : Option FileText) :
    includesRequest (readRecoveryRequests (appendRecoveryRequest (.str id) file)) (.str id) =
      true := by
  unfold appendRecoveryRequest
  dsimp only
  split_ifs with hrecorded
  · exact hrecorded
  · obtain ⟨text, htext, hread⟩ :=
      readRecoveryRequests_append file (show (JsValue.str id).toText.isSome = true from rfl)
    cases htext
    rw [hread, includesRequest, List.any_append, Bool.or_eq_true]
    exact .inr (by simp [JsValue.isStr])

/-- Only strings are found among the recorded ids. -/
theorem eq_str_of_includesRequest {existing : List String} {requestId : JsValue}
    (h : includesRequest existing requestId = true) : ∃ id, requestId = .str id := by
  obtain ⟨id, -, hid⟩ := List.any_eq_true.1 h
  exact ⟨id, JsValue.asString?_eq_some.1 (of_decide_eq_true hid)⟩

/-! ## The handler -/

structure UnfreezeRequest where
  clock : RequestClock
  replies : RitualReplies
  payload : JsValue

def UnfreezeRequest.requestId (request : UnfreezeRequest) : JsValue :=
  request.payload.get "requestId"

def UnfreezeRequest.healClock (request : UnfreezeRequest) : HealClock :=
  ⟨.ofInt (request.clock.nowMs 1), .ofInt (request.clock.nowMs 2), request.clock.updatedAt⟩

section Handler

variable (platform : Platform) (request : UnfreezeRequest) (node : Node)

def UnfreezeRequest.handle : Node × Response :=
  adminUnfreeze platform request.clock request.replies request.payload node

def UnfreezeRequest.heal : Node × Except HealFailure AdminRecoveryOutcome :=
  node.heal platform request.clock request.replies request.payload

/-- The request gets past its checks and past the heal to `unfreezeIfClean`. -/
def ReachesUnfreeze : Prop :=
  unfreezeGate platform request.clock request.payload = .ok () ∧
    ∃ outcome, (request.heal platform node).2 = .ok outcome ∧ outcome.ok = true ∧
      request.requestId.toText.isSome = true

def LiftsFreeze : Prop :=
  node.auditor.isFrozen = true ∧ (request.handle platform node).1.auditor.isFrozen = false

/-- The heal of the request would truncate the ledger. -/
def Heals : Prop :=
  ∃ state prefixLen text, HealsTo platform.toRecoveryPlatform platform.recoveryEnv
    request.healClock request.replies.heal request.payload node.auditor.store state prefixLen text

def Recorded (id : JsValue) : Prop :=
  includesRequest (readRecoveryRequests node.recovery.requests) id = true

variable {platform request node}

theorem heal_ends (platform : Platform) (request : UnfreezeRequest) (node : Node) :
    HealEnds platform.toRecoveryPlatform platform.recoveryEnv request.healClock
      request.replies.heal request.payload node.auditor.store node.recovery
      ((request.heal platform node).1.auditor.store, (request.heal platform node).1.recovery,
        (request.heal platform node).2) :=
  attemptHeal_ends _ _ _ _ request.payload _ _

/-- The outcome is `ok` for a recorded id and for a heal. -/
theorem heal_ok_iff :
    (∃ outcome, (request.heal platform node).2 = .ok outcome ∧ outcome.ok = true) ↔
      Recorded node request.requestId ∨ Heals platform request node := by
  have hends := heal_ends platform request node
  generalize request.heal platform node = result at hends
  obtain ⟨after, result⟩ := result
  dsimp only at hends ⊢
  generalize after.auditor.store = store at hends
  generalize after.recovery = files at hends
  cases hends with
  | recorded hrecorded => exact iff_of_true ⟨_, rfl, rfl⟩ (.inl hrecorded)
  | stopped hnew hheals _ hresult =>
      refine iff_of_false ?_ ?_
      · rintro ⟨outcome, houtcome, hok⟩
        rw [hresult outcome houtcome] at hok
        cases hok
      · rintro (hrecorded | ⟨state, prefixLen, text, h⟩)
        · exact Bool.false_ne_true (hnew.symm.trans hrecorded)
        · exact hheals state prefixLen text h
  | healed _ hheals => exact iff_of_true ⟨_, rfl, rfl⟩ (.inr ⟨_, _, _, hheals⟩)

theorem reachesUnfreeze_iff :
    ReachesUnfreeze platform request node ↔
      unfreezeGate platform request.clock request.payload = .ok () ∧
        (Recorded node request.requestId ∨ Heals platform request node) := by
  rw [← heal_ok_iff]
  constructor
  · rintro ⟨hgate, outcome, houtcome, hok, -⟩
    exact ⟨hgate, outcome, houtcome, hok⟩
  · rintro ⟨hgate, outcome, houtcome, hok⟩
    refine ⟨hgate, outcome, houtcome, hok, ?_⟩
    rcases heal_ok_iff.1 ⟨outcome, houtcome, hok⟩ with hrecorded | ⟨_, _, text, hheals⟩
    · obtain ⟨id, hid⟩ := eq_str_of_includesRequest hrecorded
      rw [hid]
      rfl
    · rw [UnfreezeRequest.requestId, hheals.named]
      rfl

/-- The heal records the id of the request, unless it does not heal or finds it recorded. -/
theorem requests_heal (platform : Platform) (request : UnfreezeRequest) (node : Node) :
    ((request.heal platform node).1.recovery.requests = node.recovery.requests ∧
        (Recorded node request.requestId ∨ ¬ Heals platform request node)) ∨
      (Heals platform request node ∧ (request.heal platform node).1.recovery.requests =
        appendRecoveryRequest request.requestId node.recovery.requests) := by
  have hends := heal_ends platform request node
  generalize request.heal platform node = result at hends
  obtain ⟨after, result⟩ := result
  dsimp only at hends ⊢
  generalize after.auditor.store = store at hends
  generalize after.recovery = files at hends
  cases hends with
  | recorded hrecorded => exact .inl ⟨rfl, .inl hrecorded⟩
  | stopped _ hheals => exact .inl ⟨rfl, .inr fun ⟨_, _, _, h⟩ => hheals _ _ _ h⟩
  | healed _ hheals => exact .inr ⟨⟨_, _, _, hheals⟩, rfl⟩

theorem recorded_heal {id : JsValue} (h : Recorded node id) :
    Recorded (request.heal platform node).1 id := by
  rcases requests_heal platform request node with ⟨hsame, -⟩ | ⟨⟨_, _, text, hheals⟩, happend⟩
  · rwa [Recorded, hsame]
  · rw [Recorded, happend]
    refine includesRequest_append ?_ h
    rw [UnfreezeRequest.requestId, hheals.named]
    rfl

/-- A request that reaches the audit leaves a string id recorded. -/
theorem recorded_of_reaches {id : String} (hid : request.requestId = .str id)
    (hreaches : ReachesUnfreeze platform request node) :
    Recorded (request.heal platform node).1 (.str id) := by
  have hok := (reachesUnfreeze_iff.1 hreaches).2
  rcases requests_heal platform request node with ⟨-, hstopped⟩ | ⟨-, happend⟩
  · have hrecorded : Recorded node request.requestId := by tauto
    rw [hid] at hrecorded
    exact recorded_heal hrecorded
  · rw [Recorded, happend, hid]
    exact includesRequest_append_self id _

theorem code_of_unfreezeGate {response : Response}
    (h : unfreezeGate platform request.clock request.payload = .error response) :
    response.code ≠ 200 := by
  simp only [unfreezeGate, bind_eq_error, answerUnless_eq_error, answerUnless_eq_ok,
    orAnswer_eq_error, orAnswer_eq_ok, exists_const] at h
  obtain ⟨-, rfl⟩ | ⟨-, ⟨-, rfl⟩ | ⟨_, -, -, rfl⟩⟩ := h
  · exact show (400 : ℕ) ≠ 200 by decide
  · exact show (500 : ℕ) ≠ 200 by decide
  · exact show (403 : ℕ) ≠ 200 by decide

/-- Short of the audit the handler leaves the flag alone and answers with an error. -/
theorem answerHeal_stopped (platform : Platform) (clock : RequestClock) (replies : RitualReplies)
    (node : Node) {payload : JsValue} {result : Except HealFailure AdminRecoveryOutcome}
    (h : ¬ ∃ outcome, result = .ok outcome ∧ outcome.ok = true ∧
      ((payload.get "requestId").toText).isSome = true) :
    (answerHeal platform clock replies payload node result).1 = node ∧
      (answerHeal platform clock replies payload node result).2.code ≠ 200 := by
  cases result with
  | error failure => exact ⟨rfl, by simp [answerHeal, failed]⟩
  | ok outcome =>
      rw [answerHeal]
      cases hok : outcome.ok with
      | false => exact ⟨rfl, by simp [healFailedResponse]⟩
      | true =>
          cases htext : (payload.get "requestId").toText with
          | none => exact ⟨rfl, by simp [failed]⟩
          | some text => exact absurd ⟨outcome, rfl, hok, by rw [htext]; rfl⟩ h

theorem recovery_answerHeal (platform : Platform) (clock : RequestClock) (replies : RitualReplies)
    (payload : JsValue) (node : Node) (result : Except HealFailure AdminRecoveryOutcome) :
    (answerHeal platform clock replies payload node result).1.recovery = node.recovery := by
  cases result with
  | error failure => rfl
  | ok outcome =>
      rw [answerHeal]
      split_ifs
      · rfl
      · cases (payload.get "requestId").toText <;> rfl

/-- What the handler does to flag, recorded ids and answer. -/
theorem handle_cases (platform : Platform) (request : UnfreezeRequest) (node : Node) :
    (¬ ReachesUnfreeze platform request node ∧
        (request.handle platform node).1.auditor.frozen = node.auditor.frozen ∧
        (request.handle platform node).2.code ≠ 200 ∧
        (request.handle platform node).1.recovery ∈
          [node.recovery, (request.heal platform node).1.recovery]) ∨
      (ReachesUnfreeze platform request node ∧
        (request.handle platform node).1.recovery = (request.heal platform node).1.recovery) := by
  unfold UnfreezeRequest.handle adminUnfreeze
  cases hgate : unfreezeGate platform request.clock request.payload with
  | error response =>
      refine .inl ⟨fun h => ?_, rfl, code_of_unfreezeGate hgate, by simp⟩
      cases hgate.symm.trans h.1
  | ok =>
      have hrecovery := recovery_answerHeal platform request.clock request.replies
        request.payload (request.heal platform node).1 (request.heal platform node).2
      by_cases hreaches : ReachesUnfreeze platform request node
      · exact .inr ⟨hreaches, hrecovery⟩
      · have hstopped : ¬ ∃ outcome, (request.heal platform node).2 = .ok outcome ∧
            outcome.ok = true ∧ ((request.payload.get "requestId").toText).isSome = true :=
          fun h => hreaches ⟨hgate, h⟩
        obtain ⟨hnode, hcode⟩ := answerHeal_stopped platform request.clock request.replies
          (request.heal platform node).1 hstopped
        refine .inl ⟨hreaches, ?_, hcode, List.mem_pair.2 (.inr hrecovery)⟩
        exact congrArg (fun n => n.auditor.frozen) hnode

end Handler

/-! ## Runs of requests, audits and freezes -/

/-- The node and the request ids of the rituals answered with success, in order. -/
structure RecoveryHistory where
  node : Node
  used : List JsValue

inductive RecoveryEvent where
  | unfreeze (request : UnfreezeRequest)
  | audit (now : IsoTime) (replies : ℕ → NotaryReply)
  | freeze (reason : String)

namespace RecoveryHistory

def start (node : Node) : RecoveryHistory := ⟨node, []⟩

def setAuditor (history : RecoveryHistory) (auditor : Auditor) : RecoveryHistory :=
  { history with node := { history.node with auditor := auditor } }

variable (platform : Platform)

def step (history : RecoveryHistory) : RecoveryEvent → RecoveryHistory
  | .unfreeze request =>
      let (node, response) := request.handle platform history.node
      { node := node
        used := history.used ++ if response.code = 200 then [request.requestId] else [] }
  | .audit now replies =>
      history.setAuditor (auditOnce platform.sha256 now replies history.node.auditor)
  | .freeze reason => history.setAuditor (history.node.auditor.freeze reason)

/-- A request whose id has been used neither reaches `unfreezeIfClean` nor lifts a freeze. -/
def UsedOnce (history : RecoveryHistory) : RecoveryEvent → Prop
  | .unfreeze request => request.requestId ∈ history.used →
      ¬ ReachesUnfreeze platform request history.node ∧
        ¬ LiftsFreeze platform request history.node
  | _ => True

/-- A request whose id has been used fails the handler's checks, or its id is no string and its
heal fails. -/
def ReplayStopped (history : RecoveryHistory) : RecoveryEvent → Prop
  | .unfreeze request => request.requestId ∈ history.used →
      unfreezeGate platform request.clock request.payload ≠ .ok () ∨
        ((∀ id, request.requestId ≠ .str id) ∧ ¬ Heals platform request history.node)
  | _ => True

/-- Used ids that are strings are recorded. -/
def UsedRecorded (history : RecoveryHistory) : Prop :=
  ∀ id, .str id ∈ history.used → Recorded history.node (.str id)

variable {platform} {history : RecoveryHistory}

theorem UsedRecorded.step (h : history.UsedRecorded) (event : RecoveryEvent) :
    (history.step platform event).UsedRecorded := by
  cases event with
  | audit now replies => exact h
  | freeze reason => exact h
  | unfreeze request =>
      intro id hid
      simp only [RecoveryHistory.step] at hid ⊢
      rcases handle_cases platform request history.node with
        ⟨-, -, hcode, hrecovery⟩ | ⟨hreaches, hrecovery⟩
      · rw [if_neg hcode, List.append_nil] at hid
        rcases List.mem_pair.1 hrecovery with hrecovery | hrecovery
        · rw [Recorded, hrecovery]
          exact h id hid
        · rw [Recorded, hrecovery]
          exact recorded_heal (h id hid)
      · rw [Recorded, hrecovery]
        rcases List.mem_append.1 hid with hid | hid
        · exact recorded_heal (h id hid)
        · split_ifs at hid with hcode
          · exact recorded_of_reaches (List.mem_singleton.1 hid).symm hreaches
          · cases hid

theorem liftsFreeze_reaches {request : UnfreezeRequest} {node : Node}
    (h : LiftsFreeze platform request node) : ReachesUnfreeze platform request node := by
  obtain ⟨hfrozen, hlifted⟩ := h
  rcases handle_cases platform request node with ⟨-, hflag, -⟩ | ⟨hreaches, -⟩
  · have hclear : node.auditor.frozen = false := hflag.symm.trans hlifted
    cases hfrozen.symm.trans hclear
  · exact hreaches

/-- A request keeps the law exactly if its replay is stopped. -/
theorem usedOnce_iff (h : history.UsedRecorded) (hnodup : history.used.Nodup)
    (event : RecoveryEvent) :
    history.UsedOnce platform event ∧ (history.step platform event).used.Nodup ↔
      history.ReplayStopped platform event := by
  cases event with
  | audit now replies => exact iff_of_true ⟨trivial, hnodup⟩ trivial
  | freeze reason => exact iff_of_true ⟨trivial, hnodup⟩ trivial
  | unfreeze request =>
      constructor
      · rintro ⟨honce, -⟩ hused
        have hreaches := (honce hused).1
        rw [reachesUnfreeze_iff, not_and, not_or] at hreaches
        by_cases hgate : unfreezeGate platform request.clock request.payload = .ok ()
        · obtain ⟨hnew, hheals⟩ := hreaches hgate
          refine .inr ⟨fun id hid => ?_, hheals⟩
          rw [hid] at hnew hused
          exact hnew (h id hused)
        · exact .inl hgate
      · intro hstopped
        have hreaches (hused : request.requestId ∈ history.used) :
            ¬ ReachesUnfreeze platform request history.node := by
          rw [reachesUnfreeze_iff]
          rintro ⟨hgate, hok⟩
          obtain ⟨hstring, hheals⟩ := (hstopped hused).resolve_left (not_not.2 hgate)
          rcases hok with hrecorded | hheals'
          · obtain ⟨id, hid⟩ := eq_str_of_includesRequest hrecorded
            exact hstring id hid
          · exact hheals hheals'
        refine ⟨fun hused => ⟨hreaches hused, fun hlifts =>
          hreaches hused (liftsFreeze_reaches hlifts)⟩, ?_⟩
        simp only [RecoveryHistory.step]
        split_ifs with hcode
        · have hfresh : request.requestId ∉ history.used := by
            intro hused
            rcases handle_cases platform request history.node with ⟨-, -, hfails, -⟩ | ⟨h', -⟩
            · exact hfails hcode
            · exact hreaches hused h'
          rw [← List.concat_eq_append]
          exact hnodup.concat hfresh
        · rwa [List.append_nil]

/-- Each request id lifts a freeze at most once, exactly if no request with an id that has been
used passes the handler's checks. -/
theorem recovery_used_once_iff (platform : Platform) (node : Node) (events : List RecoveryEvent) :
    EachStep (step platform) (UsedOnce platform) (start node) events ∧
        Throughout (step platform) (fun history => history.used.Nodup) (start node) events ↔
      EachStep (step platform) (ReplayStopped platform) (start node) events :=
  eachStep_and_throughout_iff UsedRecorded (fun _ event h _ => h.step event)
    (fun _ event h hnodup => usedOnce_iff h hnodup event) (fun _ h => by cases h) List.nodup_nil

/-! ## A request sent again -/

/-- One officer suffices, and the officer's signature is the one in the request. -/
def replayPlatform : Platform where
  toRecoveryPlatform := { healPlatform with sha256 := fun _ => emptyRoot }
  recoveryEnv := oneOfficer
  bftQuorumThreshold := 3
  errorText _ := "Unexpected end of JSON input"

def replayedRequest : UnfreezeRequest where
  clock := { nowMs := fun _ => 1700000000000, timestamp := sampleTime, updatedAt := sampleTime }
  replies := ⟨notaryWithRoot emptyRoot.text, notaryWithRoot emptyRoot.text⟩
  payload := signedRequest

/-- A node with an empty ledger, frozen while the notary was out of reach. -/
def replayNode : Node where
  auditor := { emptyAuditor with frozen := true, marker := some unreachableReason }
  bridge := ⟨true, false⟩
  cluster := ⟨.empty⟩
  raft := { currentTerm := .ofInt 0, log := [], commitIndex := 0, failClosed := true }
  recovery := ⟨none, []⟩

/-- The request unfreezes the node twice, the second time after a later freeze. -/
theorem replayed_request_lifts_freeze :
    ((run (step replayPlatform) (start replayNode)
        [.unfreeze replayedRequest, .freeze corruptedReason]).used.map JsValue.asString? =
          [some "r1"] ∧
      LiftsFreeze replayPlatform replayedRequest (run (step replayPlatform) (start replayNode)
        [.unfreeze replayedRequest, .freeze corruptedReason]).node) ∧
      (run (step replayPlatform) (start replayNode) [.unfreeze replayedRequest,
        .freeze corruptedReason, .unfreeze replayedRequest]).used.map JsValue.asString? =
          [some "r1", some "r1"] := by
  unfold LiftsFreeze
  decide +kernel

end RecoveryHistory

end UniverEscrow.Router
