import UniverEscrow.Backend.EscrowStateMachine
import UniverEscrow.Backend.TenantApi

/-!
# Webhooks and who confirms a release

`POST /webhooks/:provider` asks the provider of its path and finds an escrow by the transaction
id alone; the release route asks the provider that the escrow names.
-/

namespace UniverEscrow.Backend

open UniverEscrow.Js UniverEscrow.Merkle UniverEscrow.Lib UniverEscrow.Lib.Run

structure WebhookPlatform extends EscrowApi where
  toUpperCase : String → String

/-- A webhook request: what each provider answers to the transaction of the body, and what it
answers while the service releases. -/
structure WebhookRequest where
  provider : Option String
  body : JsValue
  verifies : (providerType : String) → (transactionId : JsValue) → Except String Bool
  providers : (providerType : String) → PaymentProvider
  hashMs : ℤ
  dateMs : ℤ
  isoDate : String

/-! ## The handler -/

def isProviderSupported (providerType : String) : Bool := providerType ∈ getSupportedProviders

def webhookTransactionId (body : JsValue) : JsValue :=
  orElseFalsy (body.get "transactionId")
    (orElseFalsy (body.get "checkoutRequestId") (body.get "paymentIntentId"))

structure VerifiedWebhook where
  providerType : String
  provider : PaymentProvider
  transactionId : JsValue

/-- The handler up to its query: the provider of the path answers for the transaction. -/
def verifiedWebhook (platform : WebhookPlatform) (request : WebhookRequest) :
    Reply VerifiedWebhook := do
  let providerType := platform.toUpperCase (request.provider.getD "")
  replyUnless (isProviderSupported providerType) 400 ("PROVIDER_NOT_SUPPORTED_" ++ providerType)
  let provider ← thrownAs (fun _ => 500) (getProvider request.providers providerType)
  let transactionId := webhookTransactionId request.body
  replyUnless transactionId.truthy 400 "TRANSACTION_ID_REQUIRED"
  let isVerified ← thrownAs (fun _ => 500) (request.verifies providerType transactionId)
  replyUnless isVerified 401 "WEBHOOK_VERIFICATION_FAILED"
  return ⟨providerType, provider, transactionId⟩

/-- The first document of the query, whose order is that of the ids. -/
def findByTransaction (transactionId : JsValue) (escrows : Escrows) : Option (String × Escrow) :=
  ((escrows.entries.filter fun e => e.2.transactionId.any fun t => transactionId.isStr t
    ).insertionSort fun a b => a.1 ≤ b.1).head?

/-- The release that the webhook asks the service for. -/
def WebhookRequest.call (request : WebhookRequest) (provider : PaymentProvider) : EscrowCall where
  op := .release
  provider := provider
  hashMs := request.hashMs
  dateMs := request.dateMs
  isoDate := request.isoDate

structure WebhookReply where
  escrowId : String
  status : EscrowStatus
  transactionId : JsValue

def WebhookController.handleWebhook (platform : WebhookPlatform) (request : WebhookRequest)
    (escrows : Escrows) : Escrows × Reply WebhookReply :=
  match verifiedWebhook platform request with
  | .error e => (escrows, .error e)
  | .ok webhook =>
      match findByTransaction webhook.transactionId escrows with
      | none => (escrows, .error ⟨404, "ESCROW_NOT_FOUND"⟩)
      | some (escrowId, _) =>
          let (escrows, result) :=
            operate platform.service escrowId (request.call webhook.provider) escrows
          (escrows, (thrownAs (fun _ => 500) result).map fun updated =>
            ⟨escrowId, updated.status, webhook.transactionId⟩)

def WebhookController.handleMpesaWebhook (platform : WebhookPlatform) (request : WebhookRequest)
    (escrows : Escrows) : Escrows × Reply WebhookReply :=
  handleWebhook platform { request with provider := some "MPESA" } escrows

/-! ## Requests -/

/-- The requests that write escrows. -/
inductive ApiRequest where
  | createEscrow (tenantId : Option String) (uuid : String) (createdAtMs : ℤ) (body : JsValue)
  | onEscrow (route : EscrowRoute) (request : EscrowRequest)
  | webhook (request : WebhookRequest)
  | mpesaWebhook (request : WebhookRequest)

/-- The documents after a request. -/
def afterRequest (platform : WebhookPlatform) (escrows : Escrows) : ApiRequest → Escrows
  | .createEscrow tenantId uuid createdAtMs body =>
      (EscrowController.createEscrow tenantId uuid createdAtMs body escrows).1
  | .onEscrow route request => (route.handler platform.toEscrowApi request escrows).1
  | .webhook request => (WebhookController.handleWebhook platform request escrows).1
  | .mpesaWebhook request => (WebhookController.handleMpesaWebhook platform request escrows).1

/-- A provider has answered true to `verifyTransaction`. -/
structure Confirmation where
  providerType : String
  transactionId : String
deriving DecidableEq

/-- What the provider that a release asks confirms of the document. -/
def releaseConfirmations (providerType : String) (provider : PaymentProvider) (escrow : Escrow) :
    List Confirmation :=
  match releaseRequest escrow with
  | .error _ => []
  | .ok txnId =>
      if provider.verifyTransaction txnId = .ok true then [⟨providerType, txnId⟩] else []

def webhookConfirmations (platform : WebhookPlatform) (escrows : Escrows)
    (request : WebhookRequest) : List Confirmation :=
  match verifiedWebhook platform request with
  | .error _ => []
  | .ok webhook =>
      (webhook.transactionId.asString?.map (Confirmation.mk webhook.providerType)).toList ++
        match findByTransaction webhook.transactionId escrows with
        | none => []
        | some (_, escrow) => releaseConfirmations webhook.providerType webhook.provider escrow

/-- The positive answers to `verifyTransaction` that the request gets. -/
def confirmations (platform : WebhookPlatform) (escrows : Escrows) :
    ApiRequest → List Confirmation
  | .onEscrow .release request =>
      match withProvider platform.toEscrowApi "/:escrowId/release" .release request escrows,
        escrows.get? (jsTrim request.escrowId) with
      | .ok call, some escrow => releaseConfirmations escrow.providerType call.provider escrow
      | _, _ => []
  | .webhook request => webhookConfirmations platform escrows request
  | .mpesaWebhook request =>
      webhookConfirmations platform escrows { request with provider := some "MPESA" }
  | _ => []

/-- Every escrow that becomes released has its transaction confirmed by its own provider in the
same request. -/
def ConfirmsReleases (platform : WebhookPlatform) (escrows : Escrows) (request : ApiRequest) :
    Prop :=
  ∀ id escrow, (afterRequest platform escrows request).get? id = some escrow →
    escrow.status = .released →
    (∀ before, escrows.get? id = some before → before.status ≠ .released) →
    ∃ txnId, escrow.transactionId = some txnId ∧
      ⟨escrow.providerType, txnId⟩ ∈ confirmations platform escrows request

/-- The webhook, if its provider confirms the transaction twice, finds no locked escrow of
another provider. -/
def FindsOwnEscrow (platform : WebhookPlatform) (escrows : Escrows) (request : WebhookRequest) :
    Prop :=
  ∀ webhook, verifiedWebhook platform request = .ok webhook →
    ∀ escrowId escrow, findByTransaction webhook.transactionId escrows = some (escrowId, escrow) →
      ∀ txnId, releaseRequest escrow = .ok txnId →
        webhook.provider.verifyTransaction txnId = .ok true →
          escrow.providerType = webhook.providerType

def ReleasesOwnEscrows (platform : WebhookPlatform) (escrows : Escrows) : ApiRequest → Prop
  | .webhook request => FindsOwnEscrow platform escrows request
  | .mpesaWebhook request =>
      FindsOwnEscrow platform escrows { request with provider := some "MPESA" }
  | _ => True

/-! ## One request -/

variable {platform : WebhookPlatform} {escrows : Escrows} {id escrowId : String}
  {escrow after : Escrow}

/-- The document was not released before. -/
def NewlyReleased (escrows : Escrows) (id : String) (after : Escrow) : Prop :=
  after.status = .released ∧ ∀ before, escrows.get? id = some before → before.status ≠ .released

theorem not_newlyReleased_of_get? (h : escrows.get? id = some after) :
    ¬ NewlyReleased escrows id after :=
  fun hnew => hnew.2 after h hnew.1

/-- An operation after which a document is newly released is a release of it, which its provider
has let through. -/
theorem operate_newlyReleased {service : EscrowPlatform} {call : EscrowCall}
    (hafter : (operate service escrowId call escrows).1.get? id = some after)
    (hnew : NewlyReleased escrows id after) :
    ∃ doc txnId, id = escrowId ∧ escrows.get? escrowId = some doc ∧ call.op = .release ∧
      releaseRequest doc = .ok txnId ∧ call.provider.verifyTransaction txnId = .ok true ∧
      after.providerType = doc.providerType ∧ after.transactionId = some txnId := by
  cases operate_cases service escrowId call escrows with
  | inl hthrows =>
      obtain ⟨message, hthrows⟩ := hthrows
      rw [hthrows] at hafter
      exact absurd hnew (not_newlyReleased_of_get? hafter)
  | inr hoperates =>
      obtain ⟨doc, request, updated, hdoc, hoperates, heq⟩ := hoperates
      rw [heq, OrderedMap.get?_set] at hafter
      by_cases hid : id = escrowId
      · rw [if_pos hid] at hafter
        cases hafter
        have hstatus := hnew.1
        rw [Escrow.status_update] at hstatus
        cases hoperates with
        | lock payment txResult updated op request answer written =>
            obtain ⟨-, rfl⟩ := lockedEscrow_eq_ok.1 written
            cases hstatus
        | release txnId op request answer =>
            refine ⟨doc, txnId, hid, hdoc, op, request, answer, rfl, ?_⟩
            simp [Escrow.update, (releaseRequest_eq_ok.1 request).2.1]
        | refund txnId reason op request answer => cases hstatus
        | dispute reason op request => cases hstatus
      · rw [if_neg hid] at hafter
        exact absurd hnew (not_newlyReleased_of_get? hafter)

/-- The handler that calls the service for an operation found the escrow and its provider. -/
theorem withProvider_eq_ok {api : EscrowApi} {path : String} {op : EscrowOp}
    {request : EscrowRequest} {call : EscrowCall}
    (h : withProvider api path op request escrows = .ok call) :
    ∃ doc provider, escrows.get? (jsTrim request.escrowId) = some doc ∧
      getProvider request.providers doc.providerType = .ok provider ∧
      call = request.call op provider := by
  simp only [withProvider, trimmedId, bind_eq_ok, orReply_eq_ok, thrownAs_eq_ok] at h
  obtain ⟨-, -, trimmed, ⟨-, -, htrim⟩, doc, hdoc, provider, hprovider, hcall⟩ := h
  cases htrim
  cases hcall
  exact ⟨doc, provider, hdoc, hprovider, rfl⟩

theorem mem_releaseConfirmations {providerType txnId : String} {provider : PaymentProvider}
    (hrequest : releaseRequest escrow = .ok txnId)
    (hanswer : provider.verifyTransaction txnId = .ok true) :
    ⟨providerType, txnId⟩ ∈ releaseConfirmations providerType provider escrow := by
  simp [releaseConfirmations, hrequest, hanswer]

theorem providerType_of_mem_releaseConfirmations {providerType : String}
    {provider : PaymentProvider} {c : Confirmation}
    (h : c ∈ releaseConfirmations providerType provider escrow) :
    c.providerType = providerType := by
  unfold releaseConfirmations at h
  split at h
  · cases h
  · split at h
    · rw [List.mem_singleton.1 h]
    · cases h

/-- A service call on behalf of a route releases a document only as that operation. -/
theorem callService_newlyReleased {api : EscrowApi} {request : EscrowRequest}
    {reply : Reply EscrowCall}
    (hafter : (callService api request reply escrows).1.get? id = some after)
    (hnew : NewlyReleased escrows id after) :
    ∃ call doc txnId, reply = .ok call ∧ call.op = .release ∧
      escrows.get? (jsTrim request.escrowId) = some doc ∧ releaseRequest doc = .ok txnId ∧
      call.provider.verifyTransaction txnId = .ok true ∧
      after.providerType = doc.providerType ∧ after.transactionId = some txnId := by
  cases reply with
  | error e => exact absurd hnew (not_newlyReleased_of_get? hafter)
  | ok call =>
      obtain ⟨doc, txnId, -, hdoc, hop, hanswers⟩ := operate_newlyReleased hafter hnew
      exact ⟨call, doc, txnId, rfl, hop, hdoc, hanswers⟩

theorem op_of_withProvider {api : EscrowApi} {path : String} {op : EscrowOp}
    {request : EscrowRequest} {call : EscrowCall}
    (h : withProvider api path op request escrows = .ok call) : call.op = op := by
  obtain ⟨-, provider, -, -, rfl⟩ := withProvider_eq_ok h
  rfl

theorem op_of_disputeCall {api : EscrowApi} {request : EscrowRequest} {call : EscrowCall}
    (h : disputeCall api request = .ok call) :
    call.op = .dispute (request.body.get "reason") := by
  simp only [disputeCall, trimmedId, bind_eq_ok] at h
  obtain ⟨-, -, -, -, -, -, hcall⟩ := h
  cases hcall
  rfl

/-- The routes of the escrow API release with the provider the escrow names. -/
theorem onEscrow_confirmsReleases (route : EscrowRoute) (request : EscrowRequest) :
    ConfirmsReleases platform escrows (.onEscrow route request) := by
  intro id after hafter hreleased hbefore
  have hnew : NewlyReleased escrows id after := ⟨hreleased, hbefore⟩
  cases route with
  | lock =>
      obtain ⟨call, -, -, hcall, hop, -⟩ := callService_newlyReleased hafter hnew
      cases hop.symm.trans (op_of_withProvider hcall)
  | refund =>
      obtain ⟨call, -, -, hcall, hop, -⟩ := callService_newlyReleased hafter hnew
      cases hop.symm.trans (op_of_withProvider hcall)
  | dispute =>
      obtain ⟨call, -, -, hcall, hop, -⟩ := callService_newlyReleased hafter hnew
      cases hop.symm.trans (op_of_disputeCall hcall)
  | release =>
      obtain ⟨call, doc, txnId, hcall, -, hdoc, hrequest, hanswer, hprovider, htxn⟩ :=
        callService_newlyReleased hafter hnew
      refine ⟨txnId, htxn, ?_⟩
      simp only [confirmations, hcall, hdoc]
      rw [hprovider]
      exact mem_releaseConfirmations hrequest hanswer

/-- A new escrow is pending. -/
theorem createEscrow_confirmsReleases {tenantId : Option String} {uuid : String}
    {createdAtMs : ℤ} {body : JsValue} :
    ConfirmsReleases platform escrows (.createEscrow tenantId uuid createdAtMs body) := by
  intro id after hafter hreleased hbefore
  have hnew : NewlyReleased escrows id after := ⟨hreleased, hbefore⟩
  exfalso
  simp only [afterRequest, EscrowController.createEscrow] at hafter
  cases hparams : createEscrowParams tenantId body with
  | error e =>
      rw [hparams] at hafter
      exact not_newlyReleased_of_get? hafter hnew
  | ok params =>
      rw [hparams] at hafter
      dsimp only at hafter
      rw [OrderedMap.get?_set] at hafter
      split at hafter
      · cases hafter
        cases hreleased
      · exact not_newlyReleased_of_get? hafter hnew

theorem get?_of_findByTransaction {transactionId : JsValue}
    (h : findByTransaction transactionId escrows = some (id, escrow)) :
    escrows.get? id = some escrow := by
  have hmem := List.mem_of_mem_head? (Option.mem_def.2 h)
  rw [List.mem_insertionSort, List.mem_filter] at hmem
  exact OrderedMap.mem_entries_iff.1 hmem.1

section Webhook

variable {request : WebhookRequest} {webhook : VerifiedWebhook}

theorem afterRequest_webhook (hwebhook : verifiedWebhook platform request = .ok webhook)
    (hfind : findByTransaction webhook.transactionId escrows = some (escrowId, escrow)) :
    afterRequest platform escrows (.webhook request) =
      (operate platform.service escrowId (request.call webhook.provider) escrows).1 := by
  simp only [afterRequest, WebhookController.handleWebhook, hwebhook, hfind]

/-- Only the provider of the path answers in a webhook. -/
theorem providerType_of_mem_confirmations
    (hwebhook : verifiedWebhook platform request = .ok webhook) {c : Confirmation}
    (hc : c ∈ confirmations platform escrows (.webhook request)) :
    c.providerType = webhook.providerType := by
  simp only [confirmations, webhookConfirmations, hwebhook, List.mem_append] at hc
  cases hc with
  | inl hfirst =>
      rw [Option.mem_toList, Option.map_eq_some_iff] at hfirst
      obtain ⟨txnId, -, rfl⟩ := hfirst
      rfl
  | inr hrelease =>
      split at hrelease
      · cases hrelease
      · exact providerType_of_mem_releaseConfirmations hrelease

/-- A locked escrow that a webhook finds is released where the provider of the path lets it
through. -/
theorem get?_afterRequest_webhook {txnId : String}
    (hwebhook : verifiedWebhook platform request = .ok webhook)
    (hfind : findByTransaction webhook.transactionId escrows = some (escrowId, escrow))
    (hrequest : releaseRequest escrow = .ok txnId)
    (hanswer : webhook.provider.verifyTransaction txnId = .ok true) :
    (afterRequest platform escrows (.webhook request)).get? escrowId =
      some (escrow.update
        { escrow with status := .released, releasedAt := some request.dateMs }) := by
  have hoperates := @Operates.release platform.service escrowId (request.call webhook.provider)
    escrow txnId rfl hrequest hanswer
  rw [afterRequest_webhook hwebhook hfind,
    operate_of_operates (get?_of_findByTransaction hfind) hoperates, OrderedMap.get?_set_self]
  rfl

/-- A document that a webhook releases is the one it has found, let through by the provider of
the path. -/
theorem webhook_newlyReleased
    (hafter : (afterRequest platform escrows (.webhook request)).get? id = some after)
    (hnew : NewlyReleased escrows id after) :
    ∃ webhook doc txnId, verifiedWebhook platform request = .ok webhook ∧
      (∃ escrowId, findByTransaction webhook.transactionId escrows = some (escrowId, doc)) ∧
      releaseRequest doc = .ok txnId ∧ webhook.provider.verifyTransaction txnId = .ok true ∧
      after.providerType = doc.providerType ∧ after.transactionId = some txnId := by
  cases hwebhook : verifiedWebhook platform request with
  | error e =>
      simp only [afterRequest, WebhookController.handleWebhook, hwebhook] at hafter
      exact absurd hnew (not_newlyReleased_of_get? hafter)
  | ok webhook =>
      cases hfind : findByTransaction webhook.transactionId escrows with
      | none =>
          simp only [afterRequest, WebhookController.handleWebhook, hwebhook, hfind] at hafter
          exact absurd hnew (not_newlyReleased_of_get? hafter)
      | some found =>
          obtain ⟨escrowId, doc⟩ := found
          rw [afterRequest_webhook hwebhook hfind] at hafter
          obtain ⟨doc', txnId, -, hdoc, -, hreleased⟩ := operate_newlyReleased hafter hnew
          obtain rfl : doc = doc' :=
            Option.some.inj ((get?_of_findByTransaction hfind).symm.trans hdoc)
          exact ⟨webhook, doc, txnId, rfl, ⟨escrowId, hfind⟩, hreleased⟩

/-- A webhook has its release confirmed by the escrow's provider exactly if it finds no escrow of
another one. -/
theorem webhook_confirmsReleases_iff :
    ConfirmsReleases platform escrows (.webhook request) ↔
      FindsOwnEscrow platform escrows request := by
  constructor
  · intro h webhook hwebhook escrowId doc hfind txnId hrequest hanswer
    have hafter := get?_afterRequest_webhook hwebhook hfind hrequest hanswer
    have hbefore (before : Escrow) (hget : escrows.get? escrowId = some before) :
        before.status ≠ .released := by
      rw [get?_of_findByTransaction hfind] at hget
      rw [← Option.some.inj hget, (releaseRequest_eq_ok.1 hrequest).1]
      exact nofun
    obtain ⟨_, -, hconfirmed⟩ := h escrowId _ hafter rfl hbefore
    exact providerType_of_mem_confirmations hwebhook hconfirmed
  · intro h id after hafter hreleased hbefore
    obtain ⟨webhook, doc, txnId, hwebhook, ⟨escrowId, hfind⟩, hrequest, hanswer, hprovider, htxn⟩ :=
      webhook_newlyReleased hafter ⟨hreleased, hbefore⟩
    refine ⟨txnId, htxn, ?_⟩
    rw [hprovider, h webhook hwebhook escrowId doc hfind txnId hrequest hanswer]
    simp only [confirmations, webhookConfirmations, hwebhook, hfind]
    exact List.mem_append_right _ (mem_releaseConfirmations hrequest hanswer)

end Webhook

theorem confirmsReleases_iff (platform : WebhookPlatform) (escrows : Escrows)
    (request : ApiRequest) :
    ConfirmsReleases platform escrows request ↔ ReleasesOwnEscrows platform escrows request := by
  cases request with
  | createEscrow tenantId uuid createdAtMs body =>
      exact iff_of_true createEscrow_confirmsReleases trivial
  | onEscrow route request => exact iff_of_true (onEscrow_confirmsReleases route request) trivial
  | webhook request => exact webhook_confirmsReleases_iff
  | mpesaWebhook request =>
      exact @webhook_confirmsReleases_iff platform escrows
        { request with provider := some "MPESA" }

/-! ## Runs -/

/-- In a run of requests every release is confirmed by the escrow's own provider exactly if no
webhook that its path's provider confirms finds a locked escrow of another one. -/
theorem releases_confirmed_iff (platform : WebhookPlatform) (escrows : Escrows)
    (requests : List ApiRequest) :
    EachStep (afterRequest platform) (ConfirmsReleases platform) escrows requests ↔
      EachStep (afterRequest platform) (ReleasesOwnEscrows platform) escrows requests :=
  eachStep_congr fun escrows request => confirmsReleases_iff platform escrows request

/-! ### A sample -/

/-- HMAC-SHA256 on the request to lock the escrow. -/
def lockHmac (_key data : String) : HexDigest :=
  if data = "escrow_u-1:/:escrowId/lock:1767225600" then
    ⟨"366a8850ffe01d9e2909120a0c19c286d513ac1ab25dfd59dcbb433dae99ac53", by decide +kernel⟩
  else developmentHmac "" data

def sampleWebhooks : WebhookPlatform where
  service := { developmentPlatform with hmacSha256 := lockHmac }
  integrityKey := some "request-key"
  toUpperCase := String.toUpper

/-- An escrow of M-Pesa with the id `escrow_u-1`. -/
def createMpesaEscrow : ApiRequest :=
  .createEscrow (some "tenant-a") "u-1" 1767225599000
    (.obj [("buyerId", "buyer-1"), ("sellerId", "seller-1"), ("amount", .num (.ofInt 250)),
      ("currency", "KES"), ("providerType", "MPESA")])

/-- It is locked; its transaction is `tx-1`. -/
def lockMpesaEscrow : ApiRequest :=
  .onEscrow .lock {
    escrowId := "escrow_u-1"
    body := .obj [("timestamp", "1767225600"), ("integrityHash",
      "366a8850ffe01d9e2909120a0c19c286d513ac1ab25dfd59dcbb433dae99ac53")]
    integrityHash := none
    integrityTimestamp := none
    providers := fun _ => providerWith ⟨.success, some "tx-1"⟩
    hashMs := 1767225600000
    dateMs := 1767225601000
    isoDate := "2026-01-01T00:00:01.000Z" }

/-- Stripe confirms a transaction that has the same id. -/
def stripeWebhook : ApiRequest :=
  .webhook {
    provider := some "stripe"
    body := .obj [("transactionId", "tx-1")]
    verifies := fun _ _ => .ok true
    providers := fun _ => providerWith ⟨.success, some "tx-1"⟩
    hashMs := 1767225600000
    dateMs := 1767225601000
    isoDate := "2026-01-01T00:00:01.000Z" }

/-- Stripe's confirmation releases the escrow of M-Pesa. -/
theorem stripe_releases_mpesa :
    ¬ EachStep (afterRequest sampleWebhooks) (ConfirmsReleases sampleWebhooks) OrderedMap.empty
      [createMpesaEscrow, lockMpesaEscrow, stripeWebhook] := by
  intro h
  have hrun : ((run (afterRequest sampleWebhooks) OrderedMap.empty
        [createMpesaEscrow, lockMpesaEscrow, stripeWebhook]).get? "escrow_u-1").map
          (fun e => (e.status, e.providerType)) = some (.released, "MPESA") ∧
      ((run (afterRequest sampleWebhooks) OrderedMap.empty
        [createMpesaEscrow, lockMpesaEscrow]).get? "escrow_u-1").map Escrow.status =
          some .locked ∧
      confirmations sampleWebhooks (run (afterRequest sampleWebhooks) OrderedMap.empty
        [createMpesaEscrow, lockMpesaEscrow]) stripeWebhook =
          [⟨"STRIPE", "tx-1"⟩, ⟨"STRIPE", "tx-1"⟩] := by
    decide +kernel
  obtain ⟨hafter, hlocked, hconfirmations⟩ := hrun
  obtain ⟨after, hget, hfields⟩ := Option.map_eq_some_iff.1 hafter
  obtain ⟨hstatus, hprovider⟩ := Prod.mk.inj hfields
  have hbefore (before : Escrow)
      (hbefore : (run (afterRequest sampleWebhooks) OrderedMap.empty
        [createMpesaEscrow, lockMpesaEscrow]).get? "escrow_u-1" = some before) :
      before.status ≠ .released := by
    rw [hbefore] at hlocked
    rw [Option.some.inj hlocked]
    exact nofun
  obtain ⟨txnId, -, hmem⟩ := h.2.2.1 "escrow_u-1" after hget hstatus hbefore
  have hmem' : (⟨after.providerType, txnId⟩ : Confirmation) ∈
      [(⟨"STRIPE", "tx-1"⟩ : Confirmation), ⟨"STRIPE", "tx-1"⟩] := hconfirmations ▸ hmem
  rw [hprovider] at hmem'
  simp at hmem'

end UniverEscrow.Backend
