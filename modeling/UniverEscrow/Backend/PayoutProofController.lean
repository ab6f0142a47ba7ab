import UniverEscrow.Backend.HandshakeController
import UniverEscrow.Backend.PayoutRouter

/-!
# The proof-of-delivery controller

The confidence of the verdict is stored, and the handshake is processed where the verdict is
positive and the confidence over the bar.
-/

namespace UniverEscrow.Backend

open UniverEscrow.Js UniverEscrow.Merkle UniverEscrow.Lib

/-- The decoding of the image, as far as it throws. -/
def decodeBase64ToBuffer (imageBase64 : JsValue) : Except String Unit :=
  match imageBase64 with
  | .str _ => .ok ()
  | .arr items =>
      throwUnless (!items.any fun item => item.isStr ",") "imageBase64.split is not a function"
  | _ => .error "imageBase64.includes is not a function"

/-- A request with the answer of the model, and the call that processes the handshake. -/
structure VerifyProofRequest where
  handshakeId : String
  body : JsValue
  answer : ModelAnswer
  process : ProcessCall

inductive VerifyProofReply where
  | processed (verification : VerifyProofOfDeliveryResult) (result : ProcessResult)
  | rejected (verification : VerifyProofOfDeliveryResult)

/-- The handshake and its verification, before anything is stored. -/
def proofVerification (request : VerifyProofRequest) (handshakes : Handshakes) :
    Reply (PayoutHandshake × VerifyProofOfDeliveryResult) := do
  replyUnless (request.body.get "imageBase64").truthy 400 "imageBase64_REQUIRED"
  replyUnless (request.body.get "handshakeMetadata").truthy 400 "handshakeMetadata_REQUIRED"
  let handshake ← orReply 404 "HANDSHAKE_NOT_FOUND" (handshakes.get? request.handshakeId)
  replyUnless (handshake.status = .locked) 400 "HANDSHAKE_NOT_LOCKED"
  thrownAs (fun _ => 500) (decodeBase64ToBuffer (request.body.get "imageBase64"))
  let verification ← thrownAs (fun _ => 500) (verifyProofOfDelivery request.answer)
  return (handshake, verification)

/-- `verified && confidence_score > 0.95`. -/
def VerifyProofOfDeliveryResult.proves (verification : VerifyProofOfDeliveryResult) : Bool :=
  verification.verified && JsNumber.lt confidenceBar (.fin verification.confidence_score)

/-- The row after the update. -/
def verifiedProof (verification : VerifyProofOfDeliveryResult) (row : PayoutHandshake) :
    PayoutHandshake :=
  { row with
    aiConfidence := verification.confidence_score
    failureReason :=
      if verification.proves then none else some (sliceText 500 verification.reasoning) }

def verifyAndProcess (request : VerifyProofRequest) (handshakes : Handshakes) :
    Handshakes × Reply VerifyProofReply :=
  match proofVerification request handshakes with
  | .error e => (handshakes, .error e)
  | .ok (handshake, verification) =>
      let handshakes :=
        handshakes.set request.handshakeId (verifiedProof verification handshake)
      if verification.proves then
        let (handshakes, result) :=
          processUniversalHandshake request.handshakeId request.process handshakes
        (handshakes, thrownAs (fun _ => 500) (result.map (.processed verification)))
      else (handshakes, .ok (.rejected verification))

theorem proofVerification_eq_ok {request : VerifyProofRequest} {handshakes : Handshakes}
    {handshake : PayoutHandshake} {verification : VerifyProofOfDeliveryResult}
    (h : proofVerification request handshakes = .ok (handshake, verification)) :
    handshakes.get? request.handshakeId = some handshake ∧ handshake.status = .locked := by
  simp only [proofVerification, bind_eq_ok, replyUnless_eq_ok, orReply_eq_ok, thrownAs_eq_ok,
    decide_eq_true_eq] at h
  obtain ⟨-, -, -, -, row, hfound, -, hlocked, -, hdecoded, result, hresult, heq⟩ := h
  cases heq
  exact ⟨hfound, hlocked⟩

end UniverEscrow.Backend
