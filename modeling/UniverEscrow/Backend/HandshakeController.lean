import UniverEscrow.Backend.AiService
import UniverEscrow.Backend.PaymentService

/-!
# The handshake controller

A tenant creates handshakes of its own, with the metadata of the request in a text column, and
lets the vision model verify a photo: the verdict alone decides the status.
-/

namespace UniverEscrow.Backend

open UniverEscrow.Js UniverEscrow.Merkle UniverEscrow.Lib

/-- `res.status(status).json({ error })`. -/
structure HttpError where
  status : ℕ
  error : String
deriving DecidableEq

/-- The body of a reply that reports success, or the error. -/
abbrev Reply (α : Type) := Except HttpError α

def replyUnless (holds : Bool) (status : ℕ) (error : String) : Reply Unit :=
  if holds then .ok () else .error ⟨status, error⟩

def orReply {α : Type} (status : ℕ) (error : String) (x : Option α) : Reply α :=
  match x with
  | some a => .ok a
  | none => .error ⟨status, error⟩

/-- A thrown message becomes an error of this status. -/
def thrownAs {α : Type} (status : String → ℕ) (x : Except String α) : Reply α :=
  x.mapError fun message => ⟨status message, message⟩

@[simp] theorem replyUnless_eq_ok {holds : Bool} {status : ℕ} {error : String} {u : Unit} :
    replyUnless holds status error = .ok u ↔ holds = true := by
  cases holds <;> simp [replyUnless]

@[simp] theorem orReply_eq_ok {α : Type} {status : ℕ} {error : String} {x : Option α} {a : α} :
    orReply status error x = .ok a ↔ x = some a := by
  cases x <;> simp [orReply]

@[simp] theorem thrownAs_eq_ok {α : Type} {status : String → ℕ} {x : Except String α} {a : α} :
    thrownAs status x = .ok a ↔ x = .ok a := by
  rw [thrownAs, mapError_eq_ok]

/-- The tenant that the middleware has resolved. -/
def resolvedTenant (tenantId : Option String) : Reply String := do
  let tenantId ← orReply 401 "TENANT_NOT_RESOLVED" tenantId
  replyUnless (tenantId ≠ "") 401 "TENANT_NOT_RESOLVED"
  return tenantId

theorem resolvedTenant_eq_ok {tenantId : Option String} {tenant : String}
    (h : resolvedTenant tenantId = .ok tenant) : tenantId = some tenant := by
  simp only [resolvedTenant, bind_eq_ok, orReply_eq_ok] at h
  obtain ⟨resolved, hresolved, -, -, heq⟩ := h
  cases heq
  exact hresolved

/-! ## Amounts -/

def isDigits (s : String) : Bool := (readDigits 10 s.toList).isSome

/-- `BigInt(s)` for a text of digits. -/
def digitsToInt (s : String) : ℤ := digitsValue 10 s.toList

def toBigIntStrictIntegerString (v : JsValue) (fieldName : String) : Except String ℤ := do
  let text ← orThrow (fieldName ++ "_INVALID") (match v with
    | .str s => some s
    | .num n => if n.isInteger then some n.toText else none
    | _ => none)
  let s := jsTrim text
  throwUnless (isDigits s) (fieldName ++ "_INVALID")
  return digitsToInt s

/-- `/e/i.test(s)`. -/
def hasExponentMark (s : String) : Bool := s.toList.any fun c => c = 'e' || c = 'E'

/-- `frac.padEnd(2, '0').slice(0, 2)`. -/
def twoFractionDigits (frac : String) : String :=
  String.ofList ((frac.toList ++ List.replicate (2 - frac.toList.length) '0').take 2)

def convertAmountToSmallestUnitCents (amount : JsValue) : Except String ℤ := do
  let raw ← match amount with
    | .str s => pure (jsTrim s)
    | v => textOrThrow v
  throwUnless (raw ≠ "") "amount_REQUIRED"
  let normalized := String.ofList (raw.toList.filter (· ≠ ','))
  throwUnless (!hasExponentMark normalized) "amount_INVALID_FORMAT"
  let (whole, frac) := splitPoint normalized
  let frac := frac.getD ""
  throwUnless (isDigits whole) "amount_INVALID"
  throwUnless (frac = "" || isDigits frac) "amount_INVALID"
  let cents := digitsToInt whole * 100 + digitsToInt (twoFractionDigits frac)
  throwUnless (0 < cents) "amount_MUST_BE_POSITIVE"
  return cents

/-! ## Creating a handshake -/

/-- `isPrismaDbUnreachableError`, as far as it reads the message. -/
def isPrismaDbUnreachableError (message : String) : Bool :=
  let msg := message.toLower
  includes msg "econnrefused" || includes msg "econnreset" || includes msg "etimedout" ||
    includes msg "timeout" || includes msg "failed to connect" ||
    includes msg "prisma" && includes msg "offline"

/-- `message.endsWith('_REQUIRED') || message.includes('INVALID') ? 400 : 500`. -/
def createStatus (message : String) : ℕ :=
  if "_REQUIRED".toList <:+ message.toList ∨ includes message "INVALID" then 400 else 500

/-- What the request asks for, normalised. -/
structure HandshakeData where
  route : JsValue
  amountKESCents : ℤ
  amountUSDCents : ℤ
  exchangeRateKESPerUSDC : ℤ
  handshakeMetadata : JsValue

def isRecord : JsValue → Bool
  | .obj _ => true
  | _ => false

/-- The request in the form of the OpenAPI schema. -/
def openApiData (body routeFromBody : JsValue) : Reply HandshakeData := do
  replyUnless routeFromBody.truthy 400 "route_REQUIRED"
  replyUnless (isRecord (body.get "handshakeMetadata")) 400 "handshakeMetadata_REQUIRED"
  let cents (field : String) : Reply ℤ :=
    thrownAs createStatus (toBigIntStrictIntegerString (body.get field) field)
  let amountKESCents ← cents "amountKESCents"
  let amountUSDCents ← cents "amountUSDCents"
  let exchangeRateKESPerUSDC ← cents "exchangeRateKESPerUSDC"
  return ⟨routeFromBody, amountKESCents, amountUSDCents, exchangeRateKESPerUSDC,
    body.get "handshakeMetadata"⟩

/-- The request with an amount, a currency and a provider reference. -/
def taskTextData (body routeFromBody : JsValue) (escrow_address : String) :
    Reply HandshakeData := do
  replyUnless (!(body.get "amount").isUndefined) 400 "amount_REQUIRED"
  replyUnless (body.get "currency").truthy 400 "currency_REQUIRED"
  replyUnless (body.get "provider_ref").truthy 400 "provider_ref_REQUIRED"
  let cents ← thrownAs createStatus (convertAmountToSmallestUnitCents (body.get "amount"))
  let handshakeMetadata := JsValue.obj
    [("provider_ref", body.get "provider_ref"), ("escrow_address", .str escrow_address)]
  if (body.get "currency").isStr "KES" then
    return ⟨routeFromBody.orElse (.str "MPESA"), cents, 0, 0, handshakeMetadata⟩
  else return ⟨routeFromBody.orElse (.str "USDC"), 0, cents, 0, handshakeMetadata⟩

def handshakeData (body : JsValue) (escrow_address : String) : Reply HandshakeData := do
  let routeFromBody ← thrownAs createStatus (memberOrThrow body "route")
  if !(body.get "amountKESCents").isUndefined || !(body.get "amountUSDCents").isUndefined then
    openApiData body routeFromBody
  else taskTextData body routeFromBody escrow_address

/-- A value of an optional text column. -/
def textColumn (errors : CreateErrors) (field : String) : JsValue → Except String (Option String)
  | .undefined | .null => .ok none
  | .str s => .ok (some s)
  | v => .error (errors.invalidValue field v)

/-- The stored row, which the reply shows as `OPEN`, with what is not stored. -/
structure OpenedHandshake where
  created : PayoutHandshake
  metadata : JsValue
  escrow_address : String
  evidenceUploadUrl : String

/-- The row of a request. -/
def openedRow (errors : CreateErrors) (nextId : ℕ) (tenantId handshakeId : String)
    (body : JsValue) (data : HandshakeData) : Except String PayoutHandshake := do
  let route ← routeColumn errors data.route
  let mpesaB2CRecipient ← textColumn errors "mpesaB2CRecipient" (body.get "mpesaB2CRecipient")
  let pesaLinkRecipient ← textColumn errors "pesaLinkRecipient" (body.get "pesaLinkRecipient")
  let circleRecipient ← textColumn errors "circleRecipient" (body.get "circleRecipient")
  return {
    id := nextId
    tenantId := tenantId
    handshakeId := handshakeId
    route := route
    status := .locked
    aiConfidence := binaryZero
    handshakeCodeHash := none
    podPhotoUrlCiphertext := none
    podGpsCiphertext := none
    podIntegrityHash := none
    amountKESCents := data.amountKESCents
    amountUSDCents := data.amountUSDCents
    exchangeRateKESPerUSDC := data.exchangeRateKESPerUSDC
    mpesaB2CRecipient := mpesaB2CRecipient
    pesaLinkRecipient := pesaLinkRecipient
    circleRecipient := circleRecipient
    releaseIdempotencyKey := none
    processedReleaseTxId := none
    releasedAt := none
    failureReason := some data.handshakeMetadata.stringify }

/-- What the reply shows of a row that is created. -/
def openedHandshake (escrow_address : String) (data : HandshakeData) (created : PayoutHandshake) :
    OpenedHandshake where
  created := created
  metadata := data.handshakeMetadata
  escrow_address := escrow_address
  evidenceUploadUrl := "/api/payout/handshakes/" ++ created.handshakeId ++ "/verify-proof"

/-- What a message thrown while the row is created becomes. -/
def createHandshakeError (message : String) : HttpError :=
  if isPrismaDbUnreachableError message then ⟨503, "Trust Layer Offline"⟩
  else ⟨createStatus message, message⟩

/-- The next `id` and the UUIDs are those of the call. -/
def HandshakeController.createHandshake (errors : CreateErrors) (tenantExists : String → Bool)
    (nextId : ℕ) (escrowUuid uuid : String) (tenantId : Option String) (body : JsValue)
    (handshakes : Handshakes) : Reply (Handshakes × OpenedHandshake) := do
  let tenantId ← resolvedTenant tenantId
  let escrow_address := "escrow_" ++ escrowUuid
  let handshakeId := "hs_" ++ uuid
  let data ← handshakeData body escrow_address
  let stored : Except String (Handshakes × PayoutHandshake) := do
    let row ← openedRow errors nextId tenantId handshakeId body data
    let handshakes ← handshakes.create errors tenantExists row
    return (handshakes, row)
  let (handshakes, created) ← stored.mapError createHandshakeError
  return (handshakes, openedHandshake escrow_address data created)

/-! ## Verifying an asset -/

/-- `JSON.parse`; `none` where it throws. -/
abbrev JsonParse := String → Option JsValue

/-- The metadata that the text column holds, as far as it does. -/
def storedMetadata (jsonParse : JsonParse) (failureReason : Option String) : JsValue :=
  match failureReason with
  | none | some "" => .null
  | some text =>
      match jsonParse text with
      | some parsed => if parsed.isObject then parsed else .null
      | none => .null

/-- `a || b`. -/
def orElseFalsy (a b : JsValue) : JsValue := if a.truthy then a else b

def expectedItem (jsonParse : JsonParse) (handshake : PayoutHandshake) : JsValue :=
  let metadata := storedMetadata jsonParse handshake.failureReason
  orElseFalsy (metadata.get "expectedItem") (orElseFalsy (metadata.get "itemDescription")
    (orElseFalsy (metadata.get "provider_ref")
      (.str "the expected item described by the handshake")))

/-- `s.slice(0, n)`.  The half of a surrogate pair that stays at the end is stored as the
replacement character. -/
def sliceUnits : ℕ → List Char → List Char
  | _, [] => []
  | 0, _ => []
  | n + 1, c :: cs =>
      if c.toNat < 0x10000 then c :: sliceUnits n cs
      else if n = 0 then ['\ufffd'] else c :: sliceUnits (n - 1) cs

def sliceText (n : ℕ) (s : String) : String := String.ofList (sliceUnits n s.toList)

/-- A request with its tenant, and what the model answers for the item expected. -/
structure VerifyAssetRequest where
  id : String
  hasImage : Bool
  tenantId : Option String
  model : (expectedItem : String) → ModelAnswer

structure VerifyAssetReply where
  verification : VerifyAssetResult
  mappedStatus : PayoutHandshakeStatus
  statusLabel : String

def VerifyAssetResult.nextStatus (verification : VerifyAssetResult) : PayoutHandshakeStatus :=
  if verification.isMatch then .released else .failed

def VerifyAssetResult.failureReason (verification : VerifyAssetResult) : Option String :=
  if verification.isMatch then none
  else if verification.extractedDetails ≠ "" then
    some (sliceText 1000 verification.extractedDetails)
  else if verification.issueDetected then some "ASSET_FLAGGED"
  else some "ASSET_NOT_MATCHED"

/-- The row after the update. -/
def verifiedAsset (verification : VerifyAssetResult) (row : PayoutHandshake) : PayoutHandshake :=
  { row with
    status := verification.nextStatus
    aiConfidence := verification.confidence
    failureReason := verification.failureReason }

/-- The handshake and its verification, before anything is stored. -/
def assetVerification (jsonParse : JsonParse) (request : VerifyAssetRequest)
    (handshakes : Handshakes) : Reply (PayoutHandshake × VerifyAssetResult) := do
  replyUnless request.hasImage 400 "image_REQUIRED"
  let tenantId ← resolvedTenant request.tenantId
  let handshake ← orReply 404 "HANDSHAKE_NOT_FOUND" (handshakes.get? request.id)
  replyUnless (handshake.tenantId = tenantId) 403 "HANDSHAKE_TENANT_MISMATCH"
  let item ← thrownAs (fun _ => 500) (textOrThrow (expectedItem jsonParse handshake))
  let verification ← thrownAs (fun _ => 500) (assetResult (request.model item))
  return (handshake, verification)

def verifyAsset (jsonParse : JsonParse) (request : VerifyAssetRequest) (handshakes : Handshakes) :
    Handshakes × Reply VerifyAssetReply :=
  match assetVerification jsonParse request handshakes with
  | .error e => (handshakes, .error e)
  | .ok (handshake, verification) =>
      (handshakes.set request.id (verifiedAsset verification handshake),
        .ok {
          verification := verification
          mappedStatus := verification.nextStatus
          statusLabel := if verification.isMatch then "AI_VERIFIED" else "FLAGGED" })

/-- What a verification has found, and about whom. -/
theorem assetVerification_eq_ok {jsonParse : JsonParse} {request : VerifyAssetRequest}
    {handshakes : Handshakes} {handshake : PayoutHandshake} {verification : VerifyAssetResult}
    (h : assetVerification jsonParse request handshakes = .ok (handshake, verification)) :
    handshakes.get? request.id = some handshake ∧ request.tenantId = some handshake.tenantId := by
  simp only [assetVerification, bind_eq_ok, replyUnless_eq_ok, orReply_eq_ok, thrownAs_eq_ok,
    decide_eq_true_eq] at h
  obtain ⟨-, -, tenantId, htenant, row, hfound, -, hmine, item, hitem, result, hresult, heq⟩ := h
  cases heq
  exact ⟨hfound, hmine ▸ resolvedTenant_eq_ok htenant⟩

end UniverEscrow.Backend
