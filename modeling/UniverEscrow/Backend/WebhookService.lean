import UniverEscrow.Js.Throw
import UniverEscrow.Lib.Except
import UniverEscrow.Lib.Retry

/-!
# Sending a webhook

The service posts a signed event up to five times.  It retries what may pass (a network error, a
429 or a 5xx), and files the event in the dead-letter queue when the attempts are used up.
-/

namespace UniverEscrow.Backend

open UniverEscrow.Js UniverEscrow.Lib

structure SendWebhookEventParams where
  tenantId : String
  tenantWebhookSecret : String
  callbackUrl : String
  ipAddress : Option String
  event : JsValue
  requestTimeoutMs : Option JsNumber

structure DeadLetterFailure where
  tenantId : String
  eventId : JsValue
  eventType : JsValue
  callbackUrl : String
  ipAddress : String
  failureReason : String
  attempts : ℕ
  payload : JsValue

/-- What is sent in an attempt. -/
structure WebhookPost where
  callbackUrl : String
  body : String
  headers : List (String × String)
  timeout : JsNumber

structure AxiosError where
  code : Option String
  message : Option String

/-- What an attempt meets. -/
inductive PostOutcome where
  | response (status : ℕ) (data : JsValue)
  | thrown (e : AxiosError)

/-- A call: the hash, the time of day, what attempt after attempt meets, and what the database
answers to the write of a row. -/
structure WebhookCall where
  hmacSha256Hex : (secret jsonBody : String) → String
  isoDate : String
  outcome : (attempt : ℕ) → PostOutcome
  createRow : DeadLetterFailure → Except String Unit

structure WebhookResult where
  ok : Bool
  status : Option ℕ
  responseText : Option String

/-- `ms` between two attempts. -/
def getExponentialBackoffDelayMs (attemptIndex : ℕ) : ℕ :=
  min (1000 * 2 ^ attemptIndex) (30 * 60000)

def normalizeIp (ipAddress : Option String) : String := ipAddress.getD ""

/-- The write of the row; its error is logged and nothing more. -/
def writeDeadLetterQueueFailure (call : WebhookCall) (failure : DeadLetterFailure)
    (deadLetterQueue : List DeadLetterFailure) : List DeadLetterFailure :=
  match call.createRow failure with
  | .ok _ => deadLetterQueue ++ [failure]
  | .error _ => deadLetterQueue

/-! ## The loop -/

def maxAttempts : ℕ := 5

/-- What the loop has sent, how long it has slept, and its variables. -/
structure SendState where
  posts : List WebhookPost
  sleeps : List ℕ
  lastStatus : Option ℕ
  lastText : Option String
  lastFailureReason : String

def SendState.initial : SendState := ⟨[], [], none, none, "WEBHOOK_SEND_FAILED"⟩

def SendState.sleep (s : SendState) (attempt : ℕ) : SendState :=
  if attempt < maxAttempts - 1 then
    { s with sleeps := s.sleeps ++ [getExponentialBackoffDelayMs attempt] }
  else s

/-- The text of the data of a response. -/
def responseDataText : JsValue → String
  | .str s => s
  | data => (data.orElse (.str "")).stringify

def serverErrorReason (status : ℕ) : String := "WEBHOOK_SERVER_ERROR_" ++ toString status

def networkErrorReason (e : AxiosError) : String :=
  match e.code, e.message with
  | none, none | none, some "" | some "", none | some "", some "" => "WEBHOOK_NETWORK_ERROR"
  | none, some message | some "", some message => "WEBHOOK_NETWORK_ERROR_" ++ message
  | some code, _ => "WEBHOOK_NETWORK_ERROR_" ++ code

/-- The body of the loop. -/
def sendAttempt (post : WebhookPost) (outcome : ℕ → PostOutcome) (attempt : ℕ) (s : SendState) :
    SendState × Option WebhookResult :=
  let s := { s with posts := s.posts ++ [post] }
  match outcome attempt with
  | .response status data =>
      let s := { s with lastStatus := some status, lastText := some (responseDataText data) }
      if 200 ≤ status ∧ status < 400 then (s, some ⟨true, some status, s.lastText⟩)
      else if status = 429 ∨ 500 ≤ status ∧ status ≤ 599 then
        ({ s with lastFailureReason := serverErrorReason status }.sleep attempt, none)
      else (s, some ⟨false, some status, s.lastText⟩)
  | .thrown e =>
      ({ s with lastFailureReason := networkErrorReason e, lastStatus := none,
                lastText := none }.sleep attempt, none)

/-- The signed event. -/
def signedPost (call : WebhookCall) (params : SendWebhookEventParams) : WebhookPost :=
  let jsonBody := params.event.stringify
  { callbackUrl := params.callbackUrl
    body := jsonBody
    headers := [("Content-Type", "application/json"),
      ("X-Securerise-Signature", call.hmacSha256Hex params.tenantWebhookSecret jsonBody),
      ("X-Securerise-Timestamp", call.isoDate)]
    timeout := params.requestTimeoutMs.getD (.ofInt 30000) }

def WebhookService.checkParams (params : SendWebhookEventParams) : Except String Unit := do
  throwUnless (params.tenantId ≠ "") "TENANT_ID_MISSING"
  throwUnless (params.tenantWebhookSecret ≠ "") "WEBHOOK_SECRET_MISSING"
  throwUnless (params.callbackUrl ≠ "") "WEBHOOK_CALLBACK_URL_MISSING"
  throwUnless (params.event.get "id").truthy "WEBHOOK_EVENT_ID_MISSING"
  throwUnless (params.event.get "type").truthy "WEBHOOK_EVENT_TYPE_MISSING"
  throwUnless (params.event.get "data").truthy "WEBHOOK_EVENT_DATA_MISSING"

/-- The row of an event whose attempts are used up. -/
def deadLetter (params : SendWebhookEventParams) (attempts : ℕ) (failureReason : String) :
    DeadLetterFailure where
  tenantId := params.tenantId
  eventId := params.event.get "id"
  eventType := params.event.get "type"
  callbackUrl := params.callbackUrl
  ipAddress := normalizeIp params.ipAddress
  failureReason := failureReason
  attempts := attempts
  payload := params.event

/-- A call that returns: what the loop left, the queue after it and the result. -/
structure SentWebhook where
  loop : SendState
  deadLetterQueue : List DeadLetterFailure
  result : WebhookResult

def WebhookService.sendWebhookEvent (call : WebhookCall) (params : SendWebhookEventParams)
    (deadLetterQueue : List DeadLetterFailure) : Except String SentWebhook := do
  WebhookService.checkParams params
  match Retry.retry (sendAttempt (signedPost call params) call.outcome) maxAttempts 0 .initial with
  | (s, some result) => return ⟨s, deadLetterQueue, result⟩
  | (s, none) =>
      let failure := deadLetter params maxAttempts s.lastFailureReason
      return ⟨s, writeDeadLetterQueueFailure call failure deadLetterQueue,
        ⟨false, s.lastStatus, s.lastText⟩⟩

/-! ## The three kinds of outcomes -/

namespace PostOutcome

/-- A 2xx or 3xx. -/
def Succeeds : PostOutcome → Prop
  | .response status _ => 200 ≤ status ∧ status < 400
  | .thrown _ => False

/-- What may pass: a 429, a 5xx or an error of the network. -/
def Retryable : PostOutcome → Prop
  | .response status _ => status = 429 ∨ 500 ≤ status ∧ status ≤ 599
  | .thrown _ => True

def failureReason : PostOutcome → String
  | .response status _ => serverErrorReason status
  | .thrown e => networkErrorReason e

theorem not_retryable_of_succeeds {o : PostOutcome} (h : o.Succeeds) : ¬o.Retryable := by
  cases o with
  | response status data =>
      obtain ⟨hlow, hhigh⟩ := h
      rintro (rfl | hserver)
      · omega
      · omega
  | thrown e => exact h.elim

end PostOutcome

/-- The variables of the loop after `n` attempts, all of which may be repeated. -/
structure AfterRetries (post : WebhookPost) (outcome : ℕ → PostOutcome) (n : ℕ)
    (s : SendState) : Prop where
  posts : s.posts = List.replicate n post
  retryable : ∀ m < n, (outcome m).Retryable
  reason : ∀ m, m + 1 = n → s.lastFailureReason = (outcome m).failureReason

/-- Attempt `n` has ended the loop. -/
structure EndedAt (post : WebhookPost) (outcome : ℕ → PostOutcome) (n : ℕ) (s : SendState)
    (result : WebhookResult) : Prop where
  posts : s.posts = List.replicate (n + 1) post
  retryable : ∀ m < n, (outcome m).Retryable
  ended : ¬(outcome n).Retryable
  ok_iff : result.ok = true ↔ (outcome n).Succeeds

section Loop
variable {post : WebhookPost} {outcome : ℕ → PostOutcome}

@[simp] theorem SendState.sleep_posts (s : SendState) (attempt : ℕ) :
    (s.sleep attempt).posts = s.posts := by
  unfold SendState.sleep
  split_ifs <;> rfl

@[simp] theorem SendState.sleep_lastFailureReason (s : SendState) (attempt : ℕ) :
    (s.sleep attempt).lastFailureReason = s.lastFailureReason := by
  unfold SendState.sleep
  split_ifs <;> rfl

theorem AfterRetries.next {n : ℕ} {s s' : SendState} (h : AfterRetries post outcome n s)
    (hposts : s'.posts = s.posts ++ [post]) (hretryable : (outcome n).Retryable)
    (hreason : s'.lastFailureReason = (outcome n).failureReason) :
    AfterRetries post outcome (n + 1) s' where
  posts := by rw [hposts, h.posts, List.replicate_succ']
  retryable m hm := by
    rcases Nat.lt_succ_iff_lt_or_eq.1 hm with hbefore | rfl
    · exact h.retryable m hbefore
    · exact hretryable
  reason m hm := by rw [Nat.add_right_cancel hm, hreason]

theorem AfterRetries.ended {n : ℕ} {s s' : SendState} {result : WebhookResult}
    (h : AfterRetries post outcome n s) (hposts : s'.posts = s.posts ++ [post])
    (hended : ¬(outcome n).Retryable) (hok : result.ok = true ↔ (outcome n).Succeeds) :
    EndedAt post outcome n s' result where
  posts := by rw [hposts, h.posts, List.replicate_succ']
  retryable := h.retryable
  ended := hended
  ok_iff := hok

/-- What one attempt does. -/
theorem sendAttempt_keeps :
    Retry.Keeps (sendAttempt post outcome) (AfterRetries post outcome)
      (EndedAt post outcome) := by
  intro n s hs
  unfold sendAttempt
  cases houtcome : outcome n with
  | thrown e =>
      refine ⟨_, .inr ⟨rfl, hs.next ?_ ?_ ?_⟩⟩
      · rw [SendState.sleep_posts]
      · rw [houtcome]
        trivial
      · rw [SendState.sleep_lastFailureReason, houtcome, PostOutcome.failureReason]
  | response status data =>
      dsimp only
      by_cases hsucceeds : 200 ≤ status ∧ status < 400
      · rw [if_pos hsucceeds]
        have hsent : (outcome n).Succeeds := by rwa [houtcome]
        exact ⟨_, .inl ⟨_, rfl, hs.ended rfl (PostOutcome.not_retryable_of_succeeds hsent)
          (iff_of_true rfl hsent)⟩⟩
      · rw [if_neg hsucceeds]
        by_cases hretryable : status = 429 ∨ 500 ≤ status ∧ status ≤ 599
        · rw [if_pos hretryable]
          refine ⟨_, .inr ⟨rfl, hs.next ?_ ?_ ?_⟩⟩
          · rw [SendState.sleep_posts]
          · rwa [houtcome]
          · rw [SendState.sleep_lastFailureReason, houtcome, PostOutcome.failureReason]
        · rw [if_neg hretryable]
          refine ⟨_, .inl ⟨_, rfl, hs.ended rfl ?_ ?_⟩⟩
          · rwa [houtcome]
          · rw [houtcome]
            exact iff_of_false Bool.false_ne_true hsucceeds

theorem afterRetries_initial : AfterRetries post outcome 0 .initial where
  posts := rfl
  retryable m hm := absurd hm m.not_lt_zero
  reason m hm := absurd hm m.succ_ne_zero

end Loop

/-- A call that returns has been ended by an attempt, or has used up all five. -/
theorem sendWebhookEvent_cases {call : WebhookCall} {params : SendWebhookEventParams}
    {queue : List DeadLetterFailure} {sent : SentWebhook}
    (h : WebhookService.sendWebhookEvent call params queue = .ok sent) :
    (∃ n < maxAttempts,
      EndedAt (signedPost call params) call.outcome n sent.loop sent.result ∧
        sent.deadLetterQueue = queue) ∨
    (AfterRetries (signedPost call params) call.outcome maxAttempts sent.loop ∧
      sent.result.ok = false ∧
      sent.deadLetterQueue = writeDeadLetterQueueFailure call
        (deadLetter params maxAttempts sent.loop.lastFailureReason) queue) := by
  simp only [WebhookService.sendWebhookEvent, bind_eq_ok] at h
  obtain ⟨_, -, h⟩ := h
  have hkeeps : Retry.Keeps (sendAttempt (signedPost call params) call.outcome)
      (AfterRetries (signedPost call params) call.outcome)
      (EndedAt (signedPost call params) call.outcome) := sendAttempt_keeps
  rcases Retry.retry_spec hkeeps (k := maxAttempts) afterRetries_initial with
    ⟨n, s, result, hn, hresult, hended⟩ | ⟨s, hnone, hused⟩
  · rw [hresult] at h
    cases h
    exact .inl ⟨n, by omega, hended, rfl⟩
  · rw [hnone] at h
    cases h
    rw [Nat.zero_add] at hused
    exact .inr ⟨hused, rfl, rfl⟩

/-! ## Failed webhooks -/

/-- One to five attempts with the same signed body, none after a success, and the row of the event
in the queue when the result is a failure. -/
structure FilesFailure (call : WebhookCall) (params : SendWebhookEventParams)
    (queue : List DeadLetterFailure) (sent : SentWebhook) : Prop where
  attempts : 1 ≤ sent.loop.posts.length ∧ sent.loop.posts.length ≤ 5
  signed : ∀ post ∈ sent.loop.posts, post.body = params.event.stringify ∧
    ("X-Securerise-Signature",
      call.hmacSha256Hex params.tenantWebhookSecret params.event.stringify) ∈ post.headers
  stops : ∀ n, n + 1 < sent.loop.posts.length → ¬(call.outcome n).Succeeds
  ok_iff : sent.result.ok = true ↔ (call.outcome (sent.loop.posts.length - 1)).Succeeds
  filed : sent.result.ok = false →
    sent.deadLetterQueue = queue ++ [deadLetter params sent.loop.posts.length
      (call.outcome (sent.loop.posts.length - 1)).failureReason]

/-- No attempt is refused for good after attempts that were worth another. -/
def NeverRefused (outcome : ℕ → PostOutcome) : Prop :=
  ∀ n < maxAttempts, (∀ m < n, (outcome m).Retryable) →
    (outcome n).Succeeds ∨ (outcome n).Retryable

section
variable {call : WebhookCall} {params : SendWebhookEventParams} {queue : List DeadLetterFailure}
  {sent : SentWebhook}

theorem signed_of_replicate {n : ℕ}
    (h : sent.loop.posts = List.replicate n (signedPost call params)) :
    ∀ post ∈ sent.loop.posts, post.body = params.event.stringify ∧
      ("X-Securerise-Signature",
        call.hmacSha256Hex params.tenantWebhookSecret params.event.stringify) ∈ post.headers := by
  intro post hpost
  rw [h] at hpost
  rw [List.eq_of_mem_replicate hpost]
  exact ⟨rfl, List.mem_cons_of_mem _ (List.mem_cons_self ..)⟩

/-- Exactly the calls that no response refuses for good file their failure. -/
theorem filesFailure_iff (hsent : WebhookService.sendWebhookEvent call params queue = .ok sent)
    (hwrites : ∀ failure, call.createRow failure = .ok ()) :
    FilesFailure call params queue sent ↔ NeverRefused call.outcome := by
  rcases sendWebhookEvent_cases hsent with ⟨n, hn, hended, hqueue⟩ | ⟨hused, hok, hqueue⟩
  · have hlength : sent.loop.posts.length = n + 1 := by rw [hended.posts, List.length_replicate]
    have hlast : call.outcome (sent.loop.posts.length - 1) = call.outcome n := by
      rw [hlength, Nat.add_sub_cancel]
    constructor
    · intro hfiles m hm hretries
      -- an attempt before the last is worth another, and the last one was not refused
      rcases lt_trichotomy m n with hbefore | rfl | hafter
      · exact .inr (hended.retryable m hbefore)
      · left
        rw [← hended.ok_iff]
        by_contra hfailed
        have hfiled := hfiles.filed (Bool.eq_false_of_not_eq_true hfailed)
        rw [hqueue] at hfiled
        exact absurd (congrArg List.length hfiled) (by simp)
      · exact absurd (hretries n hafter) hended.ended
    · intro hnever
      have hsucceeds : (call.outcome n).Succeeds :=
        (hnever n hn hended.retryable).resolve_right hended.ended
      refine ⟨?_, signed_of_replicate hended.posts, ?_, ?_, ?_⟩
      · rw [hlength]
        exact ⟨Nat.succ_pos n, hn⟩
      · intro m hm hearly
        exact PostOutcome.not_retryable_of_succeeds hearly (hended.retryable m (by omega))
      · rw [hlast, hended.ok_iff]
      · intro hfailed
        rw [hended.ok_iff.2 hsucceeds] at hfailed
        cases hfailed
  · have hlength : sent.loop.posts.length = maxAttempts := by
      rw [hused.posts, List.length_replicate]
    have hlast : call.outcome (sent.loop.posts.length - 1) = call.outcome 4 := by rw [hlength]; rfl
    have hretryable : (call.outcome 4).Retryable := hused.retryable 4 (by decide)
    have hneverRefused : NeverRefused call.outcome := fun m hm _ => .inr (hused.retryable m hm)
    refine iff_of_true ⟨?_, signed_of_replicate hused.posts, ?_, ?_, ?_⟩ hneverRefused
    · rw [hlength]
      decide
    · intro m hm hearly
      exact PostOutcome.not_retryable_of_succeeds hearly (hused.retryable m (by omega))
    · rw [hlast, hok]
      exact iff_of_false Bool.false_ne_true fun hearly =>
        PostOutcome.not_retryable_of_succeeds hearly hretryable
    · intro _
      rw [hqueue, writeDeadLetterQueueFailure, hwrites, hlast, hlength, hused.reason 4 rfl]

end

/-! ### A sample -/

/-- An event, and a partner that is down for one attempt. -/
def sampleWebhookParams : SendWebhookEventParams where
  tenantId := "tenant-a"
  tenantWebhookSecret := "whsec_1"
  callbackUrl := "https://partner.example/hooks"
  ipAddress := none
  event := .obj [("id", "evt_1"), ("type", "handshake.verified"), ("data", .obj [])]
  requestTimeoutMs := none

/-- Another answer after a first 503. -/
def afterUnavailable (status : ℕ) : WebhookCall where
  hmacSha256Hex _ jsonBody := jsonBody
  isoDate := "2026-01-01T00:00:00.000Z"
  outcome attempt := if attempt = 0 then .response 503 (.str "") else .response status (.str "")
  createRow _ := .ok ()

theorem filesFailure_afterUnavailable :
    ∃ sent, WebhookService.sendWebhookEvent (afterUnavailable 200) sampleWebhookParams [] =
      .ok sent ∧ (FilesFailure (afterUnavailable 200) sampleWebhookParams [] sent ↔
        NeverRefused (afterUnavailable 200).outcome) :=
  ⟨_, rfl, filesFailure_iff rfl fun _ => rfl⟩

/-- A partner that has no such path any more: the call fails and nothing is filed. -/
theorem webhook_lost :
    ∃ sent, WebhookService.sendWebhookEvent (afterUnavailable 404) sampleWebhookParams [] =
      .ok sent ∧ (∀ failure, (afterUnavailable 404).createRow failure = .ok ()) ∧
        sent.result.ok = false ∧ sent.deadLetterQueue = [] ∧
          ¬FilesFailure (afterUnavailable 404) sampleWebhookParams [] sent := by
  refine ⟨_, rfl, fun _ => rfl, rfl, rfl, ?_⟩
  intro hfiles
  cases hfiles.filed rfl

end UniverEscrow.Backend
