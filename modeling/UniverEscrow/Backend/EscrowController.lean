import UniverEscrow.Backend.EscrowService
import UniverEscrow.Backend.HandshakeController

/-!
# The escrow controller and its routes

The routes that change an escrow authenticate a tenant and check an HMAC of the request; those
that read one do neither.  No handler compares the tenant with that of the document.
-/

namespace UniverEscrow.Backend

open UniverEscrow.Js UniverEscrow.Merkle UniverEscrow.Lib

/-- The service's platform, and the environment variable with the key of the middleware. -/
structure EscrowApi where
  service : EscrowPlatform
  integrityKey : Option String

/-- A request for an operation on an escrow: the path, the body and the headers, with the clock
and what the provider of each type answers. -/
structure EscrowRequest where
  escrowId : String
  body : JsValue
  integrityHash : Option String
  integrityTimestamp : Option String
  providers : (providerType : String) → PaymentProvider
  hashMs : ℤ
  dateMs : ℤ
  isoDate : String

/-! ## The middleware -/

/-- A member of the body that is a text, or else the header. -/
def textOrHeader (body : JsValue) (key : String) (header : Option String) : Option String :=
  (body.get key).asString? <|> header

/-- What the HMAC of a request is made of. -/
def requestPayload (escrowId operation : String) (timestamp : Option String) : String :=
  escrowId ++ ":" ++ operation ++ ":" ++ timestamp.getD ""

/-- `operation` is the path of the route. -/
def validateRequestIntegrityHash (api : EscrowApi) (operation : String) (request : EscrowRequest) :
    Reply Unit := do
  let masterKey ← orReply 500 "MASTER_INTEGRITY_KEY_MISSING" (api.integrityKey.filter (· ≠ ""))
  let integrityHash ← orReply 403 "INTEGRITY_HASH_REQUIRED"
    ((textOrHeader request.body "integrityHash" request.integrityHash).filter (· ≠ ""))
  let timestamp := textOrHeader request.body "timestamp" request.integrityTimestamp
  let expected := (api.service.hmacSha256 masterKey
    (requestPayload request.escrowId operation timestamp)).text
  replyUnless (integrityHash = expected) 403 "INTEGRITY_HASH_INVALID"

/-! ## Providers -/

def getSupportedProviders : List String := ["MPESA", "STRIPE", "BANK_TRANSFER"]

def getProvider (providers : (providerType : String) → PaymentProvider) (providerType : String) :
    Except String PaymentProvider :=
  if providerType ∈ getSupportedProviders then .ok (providers providerType)
  else if providerType ∈ ["USDC", "AIRTEL"] then
    .error ("PROVIDER_NOT_YET_IMPLEMENTED_" ++ providerType)
  else .error ("PROVIDER_NOT_SUPPORTED_" ++ providerType)

/-! ## Creating an escrow -/

/-- The members that `...v` spreads, for a text without surrogate pairs. -/
def spreadMembers : JsValue → List (String × JsValue)
  | .obj members => members
  | .arr items => items.zipIdx.map fun item => (toString item.2, item.1)
  | .str s => s.toList.zipIdx.map fun c => (toString c.2, .str (String.ofList [c.1]))
  | _ => []

/-- `amount <= 0`. -/
def notPositive (amount : JsValue) : Except String Bool := do
  let n ← orThrow "Cannot convert object to primitive value" amount.toNumber
  return n.le (.ofInt 0)

/-- `msg.includes('REQUIRED') ? 400 : 500`. -/
def createEscrowStatus (message : String) : ℕ := if includes message "REQUIRED" then 400 else 500

/-- What the service is asked to create. -/
def createEscrowParams (tenantId : Option String) (body : JsValue) : Reply CreateEscrowParams := do
  let tenantId ← resolvedTenant tenantId
  replyUnless (!body.isNullish) 500 "Cannot destructure property 'buyerId' of 'body'."
  replyUnless (["buyerId", "sellerId", "amount", "currency", "providerType"].all fun key =>
    (body.get key).truthy) 400 "REQUIRED_FIELDS_MISSING"
  let invalid ← thrownAs createEscrowStatus (notPositive (body.get "amount"))
  replyUnless (!invalid) 400 "AMOUNT_INVALID"
  let providerText ← thrownAs createEscrowStatus (textOrThrow (body.get "providerType"))
  let providerType ← orReply 400 ("PROVIDER_NOT_SUPPORTED_" ++ providerText)
    ((body.get "providerType").asString?.filter (· ∈ getSupportedProviders))
  return {
    tenantId := tenantId
    buyerId := body.get "buyerId"
    sellerId := body.get "sellerId"
    amount := body.get "amount"
    currency := body.get "currency"
    providerType := providerType
    description := orElseFalsy (body.get "description") (.str "Escrow Transaction")
    metadata := spreadMembers (body.get "metadata") }

/-- The UUID and the time are those of the call. -/
def EscrowController.createEscrow (tenantId : Option String) (uuid : String) (createdAtMs : ℤ)
    (body : JsValue) (escrows : Escrows) : Escrows × Reply Escrow :=
  match createEscrowParams tenantId body with
  | .error e => (escrows, .error e)
  | .ok params =>
      let escrow := createdEscrow uuid createdAtMs params
      (escrows.set escrow.id escrow, .ok escrow)

/-! ## Operations -/

/-- `msg.includes('NOT_FOUND') ? 404 : msg.includes('INVALID_STATE') ? 409 : 500`. -/
def operationStatus (message : String) : ℕ :=
  if includes message "NOT_FOUND" then 404
  else if includes message "INVALID_STATE" then 409 else 500

def trimmedId (id error : String) : Reply String := do
  replyUnless (jsTrim id ≠ "") 400 error
  return jsTrim id

/-- The operation of a request. -/
def EscrowRequest.call (request : EscrowRequest) (op : EscrowOp) (provider : PaymentProvider) :
    EscrowCall where
  op := op
  provider := provider
  hashMs := request.hashMs
  dateMs := request.dateMs
  isoDate := request.isoDate

/-- What the handlers of lock, release and refund find before they call the service. -/
def withProvider (api : EscrowApi) (path : String) (op : EscrowOp) (request : EscrowRequest)
    (escrows : Escrows) : Reply EscrowCall := do
  validateRequestIntegrityHash api path request
  let escrowId ← trimmedId request.escrowId "escrowId_REQUIRED"
  let escrow ← orReply 404 "ESCROW_NOT_FOUND" (escrows.get? escrowId)
  let provider ← thrownAs operationStatus (getProvider request.providers escrow.providerType)
  return request.call op provider

/-- The call of the service, where the handler gets that far. -/
def callService (api : EscrowApi) (request : EscrowRequest) (call : Reply EscrowCall)
    (escrows : Escrows) : Escrows × Reply Escrow :=
  match call with
  | .error e => (escrows, .error e)
  | .ok call =>
      let (escrows, result) := operate api.service (jsTrim request.escrowId) call escrows
      (escrows, thrownAs operationStatus result)

def EscrowController.lockEscrow (api : EscrowApi) (request : EscrowRequest) (escrows : Escrows) :
    Escrows × Reply Escrow :=
  callService api request (withProvider api "/:escrowId/lock" .lock request escrows) escrows

def EscrowController.releaseEscrow (api : EscrowApi) (request : EscrowRequest)
    (escrows : Escrows) : Escrows × Reply Escrow :=
  callService api request (withProvider api "/:escrowId/release" .release request escrows) escrows

def EscrowController.refundEscrow (api : EscrowApi) (request : EscrowRequest) (escrows : Escrows) :
    Escrows × Reply Escrow :=
  let reason := orElseFalsy (request.body.get "reason") (.str "Escrow refund requested")
  callService api request (withProvider api "/:escrowId/refund" (.refund reason) request escrows)
    escrows

/-- A dispute asks no provider, and leaves it to the service to find the escrow. -/
def disputeCall (api : EscrowApi) (request : EscrowRequest) : Reply EscrowCall := do
  validateRequestIntegrityHash api "/:escrowId/dispute" request
  let _ ← trimmedId request.escrowId "escrowId_REQUIRED"
  replyUnless (request.body.get "reason").truthy 400 "reason_REQUIRED"
  return request.call (.dispute (request.body.get "reason")) (request.providers "")

def EscrowController.disputeEscrow (api : EscrowApi) (request : EscrowRequest)
    (escrows : Escrows) : Escrows × Reply Escrow :=
  callService api request (disputeCall api request) escrows

/-! ## Reading -/

structure CheckedEscrow where
  escrow : Escrow
  integrityValid : Bool

def EscrowController.getEscrow (api : EscrowApi) (nowMs : ℤ) (escrowId : String)
    (escrows : Escrows) : Reply CheckedEscrow := do
  let escrowId ← trimmedId escrowId "escrowId_REQUIRED"
  let escrow ← orReply 404 "ESCROW_NOT_FOUND" (escrows.get? escrowId)
  let isValid ← thrownAs (fun _ => 500) (validateIntegrityHash api.service nowMs escrow)
  return ⟨escrow, isValid⟩

/-- The query of the service gives the documents in the order of their ids. -/
def tenantEscrows (tenantId : String) (escrows : Escrows) : List Escrow :=
  ((escrows.entries.filter fun e => e.2.tenantId = tenantId).insertionSort
    fun a b => a.1 ≤ b.1).map Prod.snd

def EscrowController.getTenantEscrows (tenantId : String) (escrows : Escrows) :
    Reply (List Escrow) := do
  let tenantId ← trimmedId tenantId "tenantId_REQUIRED"
  return tenantEscrows tenantId escrows

end UniverEscrow.Backend
