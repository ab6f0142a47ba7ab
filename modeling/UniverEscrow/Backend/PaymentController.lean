import UniverEscrow.Backend.HandshakeController

/-!
# The payment controller

It takes the tenant of a new handshake from the body, and releases any handshake by its id.
-/

namespace UniverEscrow.Backend

open UniverEscrow.Js UniverEscrow.Merkle UniverEscrow.Lib

/-- `typeof body?.key === 'string' ? body.key : ''`. -/
def textMember (body : JsValue) (key : String) : String := (body.get key).asString?.getD ""

/-- `msg.includes('REQUIRED') || msg.includes('INVALID') ? 400 : 500`. -/
def paymentCreateStatus (message : String) : ℕ :=
  if includes message "REQUIRED" || includes message "INVALID" then 400 else 500

/-- What the service is asked to create. -/
def createHandshakeInput (body : JsValue) : Reply CreateHandshakeInput := do
  replyUnless (jsTrim (textMember body "tenantId") ≠ "") 400 "tenantId_REQUIRED"
  replyUnless (jsTrim (textMember body "recipient") ≠ "") 400 "recipient_REQUIRED"
  replyUnless (body.get "route").truthy 400 "route_REQUIRED"
  let amount ← orReply 400 "amount_INVALID"
    ((body.get "amount").asNumber?.filter fun amount => amount.isFinite)
  return {
    tenantId := .str (textMember body "tenantId")
    amountKES := amount
    recipientPhone := .str (textMember body "recipient")
    route := body.get "route" }

/-- The next `id`, the UUID and the random number are those of the call. -/
def PaymentController.create (sha256 : Sha256) (errors : CreateErrors)
    (tenantExists : String → Bool) (nextId : ℕ) (uuid : String) (n : Fin 1000000) (body : JsValue)
    (handshakes : Handshakes) : Reply (Handshakes × CreatedHandshake) := do
  let input ← createHandshakeInput body
  thrownAs paymentCreateStatus
    (createHandshake sha256 errors tenantExists nextId uuid n input handshakes)

/-- A request to release a handshake by its password. -/
structure VerifyHandshakeRequest where
  idempotencyKey : Option String
  body : JsValue
  nowMs : ℤ

def verifyStatus (message : String) : ℕ :=
  if message = "INVALID_OTP" then 400 else if message = "NOT_FOUND" then 404
  else if message = "ALREADY_PROCESSED" then 409 else 500

/-- What the service is asked to release. -/
def verifyHandshakeInput (request : VerifyHandshakeRequest) : Reply VerifyAndReleaseInput := do
  let idempotencyKey := jsTrim (request.idempotencyKey.getD "")
  replyUnless (idempotencyKey ≠ "") 400 "idempotencyKey_REQUIRED"
  let handshakeId := textMember request.body "handshakeId"
  let otpCode := textMember request.body "otpCode"
  let safetyNetImageUrl := textMember request.body "safetyNetImageUrl"
  let photoBase64 := textMember request.body "photoBase64"
  replyUnless (jsTrim handshakeId ≠ "") 400 "handshakeId_REQUIRED"
  replyUnless (jsTrim otpCode ≠ "") 400 "otpCode_REQUIRED"
  replyUnless (jsTrim safetyNetImageUrl ≠ "" || jsTrim photoBase64 ≠ "") 400
    "safetyNetImageUrl_OR_photoBase64_REQUIRED"
  return {
    handshakeId := .str handshakeId
    userProvidedOtp := .str otpCode
    safetyNetImageUrl := .str (if jsTrim photoBase64 ≠ "" then photoBase64 else safetyNetImageUrl)
    gpsMetadata := request.body.get "gpsCoords"
    idempotencyKey := .str idempotencyKey }

/-- `verify`, and `verifyRail` of the three rails, which do the same. -/
def PaymentController.verify (sha256 : Sha256) (request : VerifyHandshakeRequest)
    (handshakes : Handshakes) : Reply (Handshakes × PayoutHandshake) := do
  let input ← verifyHandshakeInput request
  thrownAs verifyStatus (verifyAndRelease sha256 request.nowMs input handshakes)

end UniverEscrow.Backend
