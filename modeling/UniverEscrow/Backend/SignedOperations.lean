import UniverEscrow.Backend.EscrowIntegrity
import UniverEscrow.Backend.TenantIsolation
import UniverEscrow.Backend.WebhookController

/-!
# What the holder of the integrity key has signed

The request hash of the middleware and the integrity hash of the service are HMACs under one key.
A request hash names the escrow, the route and a time, nothing of the body, and may be sent again.
The service hashes the id, the amount and the time of a lock, and shows the hash to everybody.
-/

namespace UniverEscrow.Backend

open UniverEscrow.Js UniverEscrow.Merkle UniverEscrow.Lib UniverEscrow.Lib.Run

/-! ## Requests and their hashes -/

def EscrowRoute.name : EscrowRoute → String
  | .lock => "lock"
  | .release => "release"
  | .refund => "refund"
  | .dispute => "dispute"

/-- The time that a request names, in its body or in a header. -/
def EscrowRequest.timestamp (request : EscrowRequest) : Option String :=
  textOrHeader request.body "timestamp" request.integrityTimestamp

/-- The hash that a request shows. -/
def EscrowRequest.shownHash (request : EscrowRequest) : Option String :=
  textOrHeader request.body "integrityHash" request.integrityHash

/-- What the hash of a request to the route has to be made of. -/
def EscrowRoute.payload (route : EscrowRoute) (request : EscrowRequest) : String :=
  requestPayload request.escrowId route.path request.timestamp

/-- An operation for which the holder of the key has made a request hash. -/
structure SignedOperation where
  escrowId : String
  route : EscrowRoute
  timestamp : String

def SignedOperation.payload (op : SignedOperation) : String :=
  requestPayload op.escrowId op.route.path (some op.timestamp)

/-- The id and the time keep clear of the slash, as the ids of the service and dates do. -/
structure SignedOperation.Plain (op : SignedOperation) : Prop where
  escrowId : '/' ∉ op.escrowId.toList
  timestamp : '/' ∉ op.timestamp.toList

/-- A text that the service hashes when it locks the escrow or checks its hash. -/
def HashedByService (escrows : Escrows) (payload : String) : Prop :=
  ∃ id doc amount nowMs, escrows.get? id = some doc ∧ doc.amount.toText = some amount ∧
    payload = integrityPayload id amount nowMs

/-- What passes the middleware has been hashed by the holder of the key or by the service. -/
def Unforged (api : EscrowApi) (signed : List SignedOperation) (escrows : Escrows)
    (route : EscrowRoute) (request : EscrowRequest) : Prop :=
  validateRequestIntegrityHash api route.path request = .ok () →
    (∃ op ∈ signed, route.payload request = op.payload) ∨
      HashedByService escrows (route.payload request)

theorem validateRequestIntegrityHash_eq_ok_iff {api : EscrowApi} {path : String}
    {request : EscrowRequest} :
    validateRequestIntegrityHash api path request = .ok () ↔
      ∃ masterKey, api.integrityKey = some masterKey ∧ masterKey ≠ "" ∧
        request.shownHash = some (api.service.hmacSha256 masterKey
          (requestPayload request.escrowId path request.timestamp)).text := by
  simp only [validateRequestIntegrityHash, bind_eq_ok, orReply_eq_ok, replyUnless_eq_ok,
    Option.filter_eq_some_iff, decide_eq_true_eq]
  constructor
  · rintro ⟨masterKey, ⟨hkey, hne⟩, hash, ⟨hshown, -⟩, hexpected⟩
    exact ⟨masterKey, hkey, hne, hshown.trans (congrArg some hexpected)⟩
  · rintro ⟨masterKey, hkey, hne, hshown⟩
    exact ⟨masterKey, ⟨hkey, hne⟩, _, ⟨hshown, HexDigest.text_ne_empty _⟩, rfl⟩

/-! ## The payload tells its parts apart -/

theorem EscrowRoute.path_eq (route : EscrowRoute) :
    route.path.toList = '/' :: (":escrowId".toList ++ '/' :: route.name.toList) := by
  cases route <;> rfl

theorem EscrowRoute.slash_notMem_name (route : EscrowRoute) : '/' ∉ route.name.toList := by
  cases route <;> decide

theorem EscrowRoute.colon_notMem_name (route : EscrowRoute) : ':' ∉ route.name.toList := by
  cases route <;> decide

theorem EscrowRoute.name_injective : Function.Injective EscrowRoute.name := by
  intro route route' h
  cases route <;> cases route' <;> first | rfl | exact absurd h (by decide)

theorem toList_requestPayload (id : String) (route : EscrowRoute) (timestamp : Option String) :
    (requestPayload id route.path timestamp).toList =
      (id.toList ++ [':']) ++ '/' :: (":escrowId".toList ++
        '/' :: (route.name.toList ++ ':' :: (timestamp.getD "").toList)) := by
  rw [requestPayload]
  simp only [String.toList_append, route.path_eq, List.append_assoc, List.cons_append]
  rfl

/-- The payload of a request has two slashes of its own. -/
theorem count_slash_requestPayload (id : String) (route : EscrowRoute)
    (timestamp : Option String) :
    (requestPayload id route.path timestamp).toList.count '/' =
      id.toList.count '/' + 2 + (timestamp.getD "").toList.count '/' := by
  have hname : route.name.toList.count '/' = 0 := List.count_eq_zero.2 route.slash_notMem_name
  have hmember : (":escrowId".toList).count '/' = 0 := by decide
  rw [toList_requestPayload]
  simp only [List.count_append, List.count_cons, hname, hmember]
  simp
  omega

/-- Where the signed id and time keep clear of the slash, whoever presents the payload asks for the
signed operation, whatever the presented id and time are. -/
theorem eq_of_payload_eq {op : SignedOperation} (hplain : op.Plain) {id : String}
    {route : EscrowRoute} {timestamp : Option String}
    (h : requestPayload id route.path timestamp = op.payload) :
    id = op.escrowId ∧ route = op.route ∧ timestamp.getD "" = op.timestamp := by
  have hcount := congrArg (fun s : String => s.toList.count '/') h
  simp only [SignedOperation.payload, count_slash_requestPayload, Option.getD_some,
    List.count_eq_zero.2 hplain.escrowId, List.count_eq_zero.2 hplain.timestamp] at hcount
  have hid : '/' ∉ id.toList := List.count_eq_zero.1 (by omega)
  have htexts := congrArg String.toList h
  rw [SignedOperation.payload, toList_requestPayload, toList_requestPayload] at htexts
  have hcolon (s : String) (hs : '/' ∉ s.toList) : '/' ∉ s.toList ++ [':'] := by simpa using hs
  obtain ⟨hids, hrest⟩ := eq_of_append_cons (hcolon _ hid) (hcolon _ hplain.escrowId) htexts
  obtain ⟨-, hrest⟩ := eq_of_append_cons (by decide) (by decide) hrest
  obtain ⟨hnames, htimes⟩ :=
    eq_of_append_cons route.colon_notMem_name op.route.colon_notMem_name hrest
  exact ⟨String.toList_inj.1 (List.append_cancel_right hids),
    EscrowRoute.name_injective (String.toList_inj.1 hnames), String.toList_inj.1 htimes⟩

theorem slash_notMem_repr (t : ℤ) : '/' ∉ t.repr.toList := by
  have hdigits : ∀ n : ℕ, '/' ∉ n.repr.toList := by
    intro n h
    rw [Nat.toList_repr] at h
    exact absurd (Nat.isDigit_of_mem_toDigits (by decide) (by decide) h) (by decide)
  rw [Int.repr_eq_if]
  split_ifs
  · exact hdigits _
  · rw [String.toList_append, List.mem_append, not_or]
    exact ⟨by decide, hdigits _⟩

/-- What the service hashes of a number is no payload of a request. -/
theorem requestPayload_ne_integrityPayload {id escrowId : String} {route : EscrowRoute}
    {timestamp : Option String} {n : JsNumber} {nowMs : ℤ} (hid : '/' ∉ escrowId.toList) :
    requestPayload id route.path timestamp ≠ integrityPayload escrowId n.toText nowMs := by
  intro h
  have hcount := congrArg (fun s : String => s.toList.count '/') h
  have hnumber : '/' ∉ n.toText.toList := notMem_toText (by decide) (by decide) n
  simp only [count_slash_requestPayload, toList_integrityPayload, List.count_append,
    List.count_cons, List.count_eq_zero.2 hid, List.count_eq_zero.2 hnumber,
    List.count_eq_zero.2 (slash_notMem_repr nowMs)] at hcount
  simp at hcount

/-! ## What vouches for a document -/

def EscrowOp.route : EscrowOp → EscrowRoute
  | .lock => .lock
  | .release => .release
  | .refund _ => .refund
  | .dispute _ => .dispute

/-- The holder of the key has signed the operation for the escrow. -/
def SignedFor (signed : List SignedOperation) (id : String) (route : EscrowRoute) : Prop :=
  ∃ op ∈ signed, op.route = route ∧ jsTrim op.escrowId = id

/-- A provider has confirmed the transaction of the document to a webhook. -/
def ConfirmedFor (confirmed : List String) (doc : Escrow) : Prop :=
  ∃ txnId ∈ confirmed, doc.transactionId = some txnId

/-- The operation on the document is signed, or it is the release of a webhook. -/
def Authorised (signed : List SignedOperation) (confirmed : List String) (id : String)
    (op : EscrowOp) (doc : Escrow) : Prop :=
  SignedFor signed id op.route ∨ op = .release ∧ ConfirmedFor confirmed doc

/-- Every operation that the document shows the traces of has been signed for it; a release may
have been confirmed to a webhook instead. -/
structure Vouched (signed : List SignedOperation) (confirmed : List String) (id : String)
    (doc : Escrow) : Prop where
  locked : doc.status = .locked ∨ doc.lockedAt.isSome → SignedFor signed id .lock
  released : doc.status = .released ∨ doc.releasedAt.isSome →
    SignedFor signed id .release ∨ ConfirmedFor confirmed doc
  refunded : doc.status = .refunded ∨ doc.refundedAt.isSome → SignedFor signed id .refund
  disputed : doc.status = .disputed → SignedFor signed id .dispute
  closed : doc.releasedAt.isSome → doc.status = .released ∨ doc.status = .refunded

/-- The id has no slash and the amount is a number. -/
structure PlainDocument (id : String) (doc : Escrow) : Prop where
  id : '/' ∉ id.toList
  amount : ∃ n, doc.amount = .num n

def AllVouched (signed : List SignedOperation) (confirmed : List String) (escrows : Escrows) :
    Prop :=
  ∀ id doc, escrows.get? id = some doc → PlainDocument id doc ∧ Vouched signed confirmed id doc

section Documents

variable {signed : List SignedOperation} {confirmed : List String} {service : EscrowPlatform}
  {id : String} {call : EscrowCall} {doc updated : Escrow} {request : Option ProviderRequest}

theorem amount_of_operates (h : Operates service id call doc request updated) :
    updated.amount = doc.amount := by
  cases h with
  | lock payment txResult updated op request answer written =>
      obtain ⟨-, rfl⟩ := lockedEscrow_eq_ok.1 written
      rfl
  | release | refund | dispute => rfl

theorem Authorised.signedFor {op : EscrowOp} (h : Authorised signed confirmed id op doc)
    (hop : op ≠ .release) : SignedFor signed id op.route :=
  h.resolve_right fun hrelease => hop hrelease.1

theorem ConfirmedFor.of_transactionId (h : ConfirmedFor confirmed doc)
    (htxn : updated.transactionId = doc.transactionId) : ConfirmedFor confirmed updated := by
  obtain ⟨txnId, hmem, hdoc⟩ := h
  exact ⟨txnId, hmem, htxn.trans hdoc⟩

theorem Vouched.releasedAt_eq_none (h : Vouched signed confirmed id doc)
    (hreleased : doc.status ≠ .released) (hrefunded : doc.status ≠ .refunded) :
    doc.releasedAt = none := by
  cases hshown : doc.releasedAt with
  | none => rfl
  | some date =>
      rcases h.closed (by rw [hshown]; rfl) with hclosed | hclosed
      · exact absurd hclosed hreleased
      · exact absurd hclosed hrefunded

/-- An authorised operation that gets through leaves a document that is vouched for. -/
theorem Vouched.update (h : Vouched signed confirmed id doc)
    (hoperates : Operates service id call doc request updated)
    (hauthorised : Authorised signed confirmed id call.op doc) :
    Vouched signed confirmed id (doc.update updated) := by
  cases hoperates with
  | lock payment txResult updated op request answer written =>
      obtain ⟨-, rfl⟩ := lockedEscrow_eq_ok.1 written
      have hpending := (status_of_lockRequest request).1
      rw [op] at hauthorised
      have hsigned : SignedFor signed id .lock := hauthorised.signedFor (by simp)
      -- a pending document was not released, so the new transaction is not that of a release
      have hreleasedAt := h.releasedAt_eq_none (by simp [hpending]) (by simp [hpending])
      constructor
      · exact fun _ => hsigned
      · intro hshown
        simp [Escrow.update, hreleasedAt] at hshown
      · intro hshown
        refine h.refunded (.inr ?_)
        simpa [Escrow.update] using hshown
      · intro hshown
        cases hshown
      · intro hshown
        simp [Escrow.update, hreleasedAt] at hshown
  | release txnId op request answer =>
      have hrelease : SignedFor signed id .release ∨ ConfirmedFor confirmed doc := by
        rw [Authorised, op] at hauthorised
        exact hauthorised.imp_right And.right
      constructor
      · intro hshown
        refine h.locked (.inr ?_)
        simpa [Escrow.update] using hshown
      · intro _
        exact hrelease.imp_right fun hconfirmed => hconfirmed.of_transactionId <| by
          simp [Escrow.update]
      · intro hshown
        refine h.refunded (.inr ?_)
        simpa [Escrow.update] using hshown
      · intro hshown
        cases hshown
      · exact fun _ => .inl rfl
  | refund txnId reason op request answer =>
      rw [op] at hauthorised
      have hsigned : SignedFor signed id .refund := hauthorised.signedFor (by simp)
      constructor
      · intro hshown
        refine h.locked (.inr ?_)
        simpa [Escrow.update] using hshown
      · intro hshown
        have hreleased : doc.releasedAt.isSome := by simpa [Escrow.update] using hshown
        exact (h.released (.inr hreleased)).imp_right fun hconfirmed =>
          hconfirmed.of_transactionId <| by simp [Escrow.update]
      · exact fun _ => hsigned
      · intro hshown
        cases hshown
      · exact fun _ => .inr rfl
  | dispute reason op request =>
      have hguard := disputeGuard_eq_ok.1 request
      have hreleasedAt := h.releasedAt_eq_none hguard.1 hguard.2
      rw [op] at hauthorised
      have hsigned : SignedFor signed id .dispute := hauthorised.signedFor (by simp)
      constructor
      · intro hshown
        refine h.locked (.inr ?_)
        simpa [Escrow.update, disputedEscrow] using hshown
      · intro hshown
        simp [Escrow.update, disputedEscrow, hreleasedAt] at hshown
      · intro hshown
        refine h.refunded (.inr ?_)
        simpa [Escrow.update, disputedEscrow] using hshown
      · exact fun _ => hsigned
      · intro hshown
        simp [Escrow.update, disputedEscrow, hreleasedAt] at hshown

theorem vouched_createdEscrow (uuid : String) (createdAtMs : ℤ) (params : CreateEscrowParams) :
    Vouched signed confirmed id (createdEscrow uuid createdAtMs params) := by
  constructor <;> intro hshown <;> simp [createdEscrow] at hshown

theorem AllVouched.operate {escrows : Escrows} (h : AllVouched signed confirmed escrows)
    (hauthorised : ∀ doc, escrows.get? id = some doc →
      Authorised signed confirmed id call.op doc) :
    AllVouched signed confirmed (operate service id call escrows).1 := by
  cases operate_cases service id call escrows with
  | inl hthrows =>
      obtain ⟨message, hthrows⟩ := hthrows
      rw [hthrows]
      exact h
  | inr hoperates =>
      obtain ⟨doc, request, updated, hdoc, hoperates, heq⟩ := hoperates
      rw [heq]
      intro id' after hafter
      rw [OrderedMap.get?_set] at hafter
      split at hafter
      · rename_i hid
        subst hid
        cases hafter
        obtain ⟨hplain, hvouched⟩ := h _ doc hdoc
        refine ⟨⟨hplain.id, ?_⟩, hvouched.update hoperates (hauthorised doc hdoc)⟩
        obtain ⟨n, hn⟩ := hplain.amount
        exact ⟨n, (amount_of_operates hoperates).trans hn⟩
      · exact h id' after hafter

end Documents

/-! ## Requests -/

/-- The webhook gets a positive answer for confirmed transactions only. -/
def ConfirmsOnly (platform : WebhookPlatform) (confirmed : List String)
    (request : WebhookRequest) : Prop :=
  ∀ webhook txnId, verifiedWebhook platform request = .ok webhook →
    webhook.transactionId = .str txnId → txnId ∈ confirmed

/-- A new escrow has an id without a slash and a number for its amount, no request hash is forged,
and no webhook is confirmed that should not be. -/
def Sound (platform : WebhookPlatform) (signed : List SignedOperation) (confirmed : List String)
    (escrows : Escrows) : ApiRequest → Prop
  | .createEscrow _ uuid _ body => '/' ∉ uuid.toList ∧ ∃ n, body.get "amount" = .num n
  | .onEscrow route request => Unforged platform.toEscrowApi signed escrows route request
  | .webhook request => ConfirmsOnly platform confirmed request
  | .mpesaWebhook request =>
      ConfirmsOnly platform confirmed { request with provider := some "MPESA" }

section Requests

variable {platform : WebhookPlatform} {api : EscrowApi} {signed : List SignedOperation}
  {confirmed : List String} {escrows : Escrows}

theorem validated_of_withProvider {path : String} {op : EscrowOp} {request : EscrowRequest}
    {call : EscrowCall} (h : withProvider api path op request escrows = .ok call) :
    validateRequestIntegrityHash api path request = .ok () := by
  simp only [withProvider, bind_eq_ok] at h
  exact h.choose_spec.1

theorem validated_of_disputeCall {request : EscrowRequest} {call : EscrowCall}
    (h : disputeCall api request = .ok call) :
    validateRequestIntegrityHash api "/:escrowId/dispute" request = .ok () := by
  simp only [disputeCall, bind_eq_ok] at h
  exact h.choose_spec.1

/-- A handler leaves the documents, or it has checked the hash and carries out its operation on the
escrow of the path. -/
theorem handler_cases (api : EscrowApi) (escrows : Escrows) (route : EscrowRoute)
    (request : EscrowRequest) :
    (route.handler api request escrows).1 = escrows ∨
      validateRequestIntegrityHash api route.path request = .ok () ∧
        ∃ call : EscrowCall, call.op.route = route ∧
          (route.handler api request escrows).1 =
            (operate api.service (jsTrim request.escrowId) call escrows).1 := by
  have hcases {reply : Reply EscrowCall} (hvalid : ∀ call, reply = .ok call →
      validateRequestIntegrityHash api route.path request = .ok () ∧ call.op.route = route) :
      (callService api request reply escrows).1 = escrows ∨
        validateRequestIntegrityHash api route.path request = .ok () ∧
          ∃ call : EscrowCall, call.op.route = route ∧
            (callService api request reply escrows).1 =
              (operate api.service (jsTrim request.escrowId) call escrows).1 := by
    cases reply with
    | error e => exact .inl rfl
    | ok call =>
        obtain ⟨hvalidated, hroute⟩ := hvalid call rfl
        exact .inr ⟨hvalidated, call, hroute, rfl⟩
  cases route with
  | lock | release | refund =>
      refine hcases fun call hcall => ⟨validated_of_withProvider hcall, ?_⟩
      rw [op_of_withProvider hcall]
      rfl
  | dispute =>
      refine hcases fun call hcall => ⟨validated_of_disputeCall hcall, ?_⟩
      rw [op_of_disputeCall hcall]
      rfl

/-- A request that passes has been signed: no text of the service is the payload of a request. -/
theorem signedFor_of_unforged (hplain : ∀ op ∈ signed, op.Plain)
    (h : AllVouched signed confirmed escrows) {route : EscrowRoute} {request : EscrowRequest}
    (hunforged : Unforged api signed escrows route request)
    (hvalid : validateRequestIntegrityHash api route.path request = .ok ()) :
    SignedFor signed (jsTrim request.escrowId) route := by
  rcases hunforged hvalid with ⟨op, hop, hpayload⟩ | ⟨id, doc, amount, nowMs, hdoc, htext, hpayload⟩
  · obtain ⟨hid, hroute, -⟩ := eq_of_payload_eq (hplain op hop) hpayload
    exact ⟨op, hop, hroute.symm, congrArg jsTrim hid.symm⟩
  · obtain ⟨⟨hid, n, hn⟩, -⟩ := h id doc hdoc
    rw [hn, JsValue.toText, Option.some.injEq] at htext
    subst htext
    exact absurd hpayload (requestPayload_ne_integrityPayload hid)

theorem amount_of_createEscrowParams {tenantId : Option String} {body : JsValue}
    {params : CreateEscrowParams} (h : createEscrowParams tenantId body = .ok params) :
    params.amount = body.get "amount" := by
  simp only [createEscrowParams, bind_eq_ok] at h
  obtain ⟨_, -, _, -, _, -, _, -, _, -, _, -, _, -, hparams⟩ := h
  cases hparams
  rfl

theorem allVouched_createEscrow (h : AllVouched signed confirmed escrows)
    {tenantId : Option String} {uuid : String} {createdAtMs : ℤ} {body : JsValue}
    (huuid : '/' ∉ uuid.toList) (hamount : ∃ n, body.get "amount" = .num n) :
    AllVouched signed confirmed
      (EscrowController.createEscrow tenantId uuid createdAtMs body escrows).1 := by
  rw [EscrowController.createEscrow]
  cases hparams : createEscrowParams tenantId body with
  | error e => exact h
  | ok params =>
      intro id doc hdoc
      rw [OrderedMap.get?_set] at hdoc
      split at hdoc
      · rename_i hid
        subst hid
        cases hdoc
        refine ⟨⟨?_, ?_⟩, vouched_createdEscrow uuid createdAtMs params⟩
        · rw [createdEscrow, String.toList_append, List.mem_append, not_or]
          exact ⟨by decide, huuid⟩
        · obtain ⟨n, hn⟩ := hamount
          exact ⟨n, (amount_of_createEscrowParams hparams).trans hn⟩
      · exact h id doc hdoc

theorem transaction_of_findByTransaction {transactionId : JsValue} {id : String} {doc : Escrow}
    (h : findByTransaction transactionId escrows = some (id, doc)) :
    ∃ txnId, doc.transactionId = some txnId ∧ transactionId = .str txnId := by
  have hmem := List.mem_of_mem_head? (Option.mem_def.2 h)
  rw [List.mem_insertionSort, List.mem_filter, Option.any_eq_true] at hmem
  obtain ⟨-, txnId, htxn, hstr⟩ := hmem
  exact ⟨txnId, htxn, JsValue.isStr_iff.1 hstr⟩

theorem allVouched_handleWebhook (h : AllVouched signed confirmed escrows)
    {request : WebhookRequest} (hconfirms : ConfirmsOnly platform confirmed request) :
    AllVouched signed confirmed (WebhookController.handleWebhook platform request escrows).1 := by
  cases hwebhook : verifiedWebhook platform request with
  | error e =>
      simp only [WebhookController.handleWebhook, hwebhook]
      exact h
  | ok webhook =>
      cases hfind : findByTransaction webhook.transactionId escrows with
      | none =>
          simp only [WebhookController.handleWebhook, hwebhook, hfind]
          exact h
      | some found =>
          obtain ⟨id, doc⟩ := found
          simp only [WebhookController.handleWebhook, hwebhook, hfind]
          refine h.operate fun doc' hdoc' => .inr ⟨rfl, ?_⟩
          obtain rfl : doc = doc' :=
            Option.some.inj ((get?_of_findByTransaction hfind).symm.trans hdoc')
          obtain ⟨txnId, htxn, hstr⟩ := transaction_of_findByTransaction hfind
          exact ⟨txnId, hconfirms webhook txnId hwebhook hstr, htxn⟩

theorem allVouched_afterRequest (hplain : ∀ op ∈ signed, op.Plain)
    (h : AllVouched signed confirmed escrows) {request : ApiRequest}
    (hsound : Sound platform signed confirmed escrows request) :
    AllVouched signed confirmed (afterRequest platform escrows request) := by
  cases request with
  | createEscrow tenantId uuid createdAtMs body =>
      exact allVouched_createEscrow h hsound.1 hsound.2
  | onEscrow route request =>
      rcases handler_cases platform.toEscrowApi escrows route request with
        hsame | ⟨hvalid, call, hroute, hafter⟩
      · rw [afterRequest, hsame]
        exact h
      · rw [afterRequest, hafter]
        have hsigned := signedFor_of_unforged hplain h hsound hvalid
        exact h.operate fun doc _ => .inl (hroute ▸ hsigned)
  | webhook request => exact allVouched_handleWebhook h hsound
  | mpesaWebhook request => exact allVouched_handleWebhook h hsound

end Requests

/-- Whoever sends the requests and however often one is sent again: in every state of a run each
document shows traces only of operations that the holder of the key has signed for that escrow and
that route, or of a release that a provider has confirmed to a webhook. -/
theorem documents_vouched (platform : WebhookPlatform) (signed : List SignedOperation)
    (confirmed : List String) (requests : List ApiRequest) (hplain : ∀ op ∈ signed, op.Plain)
    (hsound : EachStep (afterRequest platform) (Sound platform signed confirmed)
      OrderedMap.empty requests) :
    Throughout (afterRequest platform)
      (fun escrows => ∀ id doc, escrows.get? id = some doc → Vouched signed confirmed id doc)
      OrderedMap.empty requests := by
  have hempty : AllVouched signed confirmed OrderedMap.empty := by
    intro id doc hdoc
    cases hdoc
  have hall : Throughout (afterRequest platform) (AllVouched signed confirmed) OrderedMap.empty
      requests :=
    throughout_of_step (fun _ _ h hstep => allVouched_afterRequest hplain h hstep) hempty hsound
  exact hall.mono fun escrows h id doc hdoc => (h id doc hdoc).2

/-- HMAC-SHA256 under the sample key, on a signed lock, on the amount that it locks, and on the name
of a route in place of the amount. -/
def signedHmac (_key data : String) : HexDigest :=
  if data = "escrow_u-1:/:escrowId/lock:2026-01-01T00:00:00.000Z" then
    ⟨"fce56d93640d5ff25a7e423ccf90d8aafdf320aa3451177095d81fd157082ebb", by rfl⟩
  else if data = "escrow_u-1:250:1767225600000" then
    ⟨"15c9b493c72c2c805fea9fd7fdd4f81e142c28e348c5420db9c7557cb6e6c871", by rfl⟩
  else ⟨"46d9af7ade60ffeb468074a2c8a7c644f57fa25ca8b8b075fc4bbfa3163849dd", by rfl⟩

def signedPlatform : WebhookPlatform where
  service := { developmentPlatform with
    hmacSha256 := signedHmac
    masterIntegrityKey := "sample-integrity-key" }
  integrityKey := some "sample-integrity-key"
  toUpperCase := fun s => s

/-- A request on the sample's escrow with a hash and a time in its headers. -/
def signedRequest (hash timestamp : String) : EscrowRequest where
  escrowId := "escrow_u-1"
  body := .obj []
  integrityHash := some hash
  integrityTimestamp := some timestamp
  providers _ := providerWith ⟨.success, some "tx-1"⟩
  hashMs := 1767225600000
  dateMs := 1767225601000
  isoDate := "2026-01-01T00:00:01.000Z"

def signedLock : EscrowRequest :=
  signedRequest "fce56d93640d5ff25a7e423ccf90d8aafdf320aa3451177095d81fd157082ebb"
    "2026-01-01T00:00:00.000Z"

/-- The creation of the sample's escrow with the amount. -/
def sampleCreation (amount : JsValue) : ApiRequest :=
  .createEscrow (some "tenant-a") "u-1" 1767225599000 (.obj [("buyerId", "buyer-1"),
    ("sellerId", "seller-1"), ("amount", amount), ("currency", "KES"), ("providerType", "MPESA")])

/-- One signed lock, sent twice. -/
theorem documents_vouched_sample :
    Throughout (afterRequest signedPlatform)
      (fun escrows => ∀ id doc, escrows.get? id = some doc →
        Vouched [⟨"escrow_u-1", .lock, "2026-01-01T00:00:00.000Z"⟩] [] id doc)
      OrderedMap.empty [sampleCreation (.num (.ofInt 250)), .onEscrow .lock signedLock,
        .onEscrow .lock signedLock] := by
  have hlock : ∀ escrows, Unforged signedPlatform.toEscrowApi
      [⟨"escrow_u-1", .lock, "2026-01-01T00:00:00.000Z"⟩] escrows .lock signedLock :=
    fun escrows _ => .inl ⟨_, List.mem_cons_self, rfl⟩
  refine documents_vouched signedPlatform _ [] _ ?_
    ⟨⟨by decide, _, rfl⟩, hlock _, hlock _, trivial⟩
  intro op hop
  rw [List.mem_singleton.1 hop]
  exact ⟨by decide, by decide⟩

/-! ## The service as a signer -/

/-- The key of the service: that of the middleware, or a default where there is none. -/
def masterIntegrityKey (env : Option String) : String :=
  (env.filter (· ≠ "")).getD "default-development-key"

/-- What a lock has hashed when its handler replies. -/
theorem integrityHash_of_lockEscrow {api : EscrowApi} {lock : EscrowRequest} {escrows : Escrows}
    {reply : Escrow} (h : (EscrowController.lockEscrow api lock escrows).2 = .ok reply) :
    validateRequestIntegrityHash api "/:escrowId/lock" lock = .ok () ∧
      ∃ amount, reply.amount.toText = some amount ∧ reply.integrityHash =
        payloadHash api.service (integrityPayload (jsTrim lock.escrowId) amount lock.hashMs) := by
  rw [EscrowController.lockEscrow] at h
  cases hcall : withProvider api "/:escrowId/lock" .lock lock escrows with
  | error e =>
      rw [hcall] at h
      cases h
  | ok call =>
      refine ⟨validated_of_withProvider hcall, ?_⟩
      obtain ⟨-, provider, -, -, rfl⟩ := withProvider_eq_ok hcall
      rw [hcall] at h
      have hoperate : (operate api.service (jsTrim lock.escrowId) (lock.call .lock provider)
          escrows).2 = .ok reply := thrownAs_eq_ok.1 h
      cases operate_cases api.service (jsTrim lock.escrowId) (lock.call .lock provider) escrows with
      | inl hthrows =>
          obtain ⟨message, hthrows⟩ := hthrows
          rw [hthrows] at hoperate
          cases hoperate
      | inr hoperates =>
          obtain ⟨doc, request, updated, -, hoperates, heq⟩ := hoperates
          rw [heq] at hoperate
          cases hoperate
          cases hoperates with
          | lock payment txResult reply op request answer written =>
              obtain ⟨-, rfl⟩ := lockedEscrow_eq_ok.1 written
              obtain ⟨amount, htext, hhash⟩ :=
                generateIntegrityHash_eq_ok_iff.1 (status_of_lockRequest request).2
              exact ⟨amount, htext, hhash.symm⟩
          | release txnId op => cases op
          | refund txnId reason op => cases op
          | dispute reason op => cases op

/-- The hash in the reply to a lock is a request hash for another operation on the escrow exactly
where the amount, followed by the time of the lock, reads as that route and the time of the request:
a number never does, the path of the route itself always. -/
theorem lockReply_admits_iff {api : EscrowApi} {escrows : Escrows} {lock request : EscrowRequest}
    {reply : Escrow} {route : EscrowRoute} {timestamp : String}
    (hkey : api.service.masterIntegrityKey = masterIntegrityKey api.integrityKey)
    (hlock : (EscrowController.lockEscrow api lock escrows).2 = .ok reply)
    (hid : request.escrowId = jsTrim lock.escrowId)
    (hshown : request.shownHash = some reply.integrityHash)
    (htime : request.timestamp = some timestamp)
    (hfree : ∀ amount, reply.amount.toText = some amount →
      CollisionFreeOn (api.service.hmacSha256 api.service.masterIntegrityKey)
        [integrityPayload request.escrowId amount lock.hashMs, route.payload request]) :
    validateRequestIntegrityHash api route.path request = .ok () ↔
      ∃ amount, reply.amount.toText = some amount ∧
        amount ++ ":" ++ toString lock.hashMs = route.path ++ ":" ++ timestamp := by
  obtain ⟨hvalid, amount, htext, hhash⟩ := integrityHash_of_lockEscrow hlock
  obtain ⟨masterKey, henv, hne, -⟩ := validateRequestIntegrityHash_eq_ok_iff.1 hvalid
  have hfilter : (some masterKey).filter (· ≠ "") = some masterKey :=
    Option.filter_eq_some_iff.2 ⟨rfl, decide_eq_true hne⟩
  have hmaster : api.service.masterIntegrityKey = masterKey := by
    rw [hkey, masterIntegrityKey, henv, hfilter]
    rfl
  have hpayload : route.payload request =
      request.escrowId ++ ":" ++ (route.path ++ ":" ++ timestamp) := by
    rw [EscrowRoute.payload, htime, requestPayload, Option.getD_some]
    simp only [String.append_assoc]
  have hhashed : integrityPayload request.escrowId amount lock.hashMs =
      request.escrowId ++ ":" ++ (amount ++ ":" ++ toString lock.hashMs) := by
    rw [integrityPayload]
    simp only [String.append_assoc]
  have htexts : integrityPayload request.escrowId amount lock.hashMs = route.payload request ↔
      amount ++ ":" ++ toString lock.hashMs = route.path ++ ":" ++ timestamp := by
    rw [hhashed, hpayload, String.append_right_inj]
  rw [validateRequestIntegrityHash_eq_ok_iff]
  rw [← hid] at hhash
  constructor
  · rintro ⟨key, hkey', -, hexpected⟩
    obtain rfl : masterKey = key := Option.some.inj (henv.symm.trans hkey')
    rw [hshown, hhash, Option.some.injEq, ← hmaster] at hexpected
    exact ⟨amount, htext, htexts.1 ((payloadHash_inj (hfree amount htext)).1 hexpected)⟩
  · rintro ⟨amount', htext', heq⟩
    obtain rfl : amount = amount' := Option.some.inj (htext.symm.trans htext')
    refine ⟨masterKey, henv, hne, ?_⟩
    rw [hshown, hhash, htexts.2 heq, ← hmaster]
    rfl

/-- The sample's escrow, with the path of the release route for its amount. -/
def renamedEscrows : Escrows :=
  afterRequest signedPlatform OrderedMap.empty (sampleCreation "/:escrowId/release")

def renamedReply : Escrow where
  id := "escrow_u-1"
  tenantId := "tenant-a"
  buyerId := "buyer-1"
  sellerId := "seller-1"
  amount := "/:escrowId/release"
  currency := "KES"
  status := .locked
  providerType := "MPESA"
  transactionId := some "tx-1"
  integrityHash := "46d9af7ade60ffeb468074a2c8a7c644f57fa25ca8b8b075fc4bbfa3163849dd"
  createdAt := 1767225599000
  lockedAt := some 1767225601000
  releasedAt := none
  refundedAt := none
  metadata := [("description", "Escrow Transaction")]

/-- Whoever gets that escrow locked can release it. -/
theorem lockReply_admits_iff_sample :
    validateRequestIntegrityHash signedPlatform.toEscrowApi EscrowRoute.release.path
        (signedRequest renamedReply.integrityHash "1767225600000") = .ok () ↔
      ∃ amount, renamedReply.amount.toText = some amount ∧
        amount ++ ":" ++ toString signedLock.hashMs =
          EscrowRoute.release.path ++ ":" ++ "1767225600000" := by
  have hlock : (EscrowController.lockEscrow signedPlatform.toEscrowApi signedLock
      renamedEscrows).2 = .ok renamedReply := by rfl
  refine lockReply_admits_iff rfl hlock (by rfl) rfl rfl fun amount htext => ?_
  obtain rfl : "/:escrowId/release" = amount := Option.some.inj htext
  intro a ha b hb _
  rw [List.mem_pair] at ha hb
  rcases ha with rfl | rfl <;> rcases hb with rfl | rfl <;> rfl

end UniverEscrow.Backend
