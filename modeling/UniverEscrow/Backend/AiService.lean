import UniverEscrow.Js.FixedPoint
import UniverEscrow.Js.Value

/-!
# The two AI services

A verification asks a vision model for JSON and coerces what it gets.  One service compares an
item with its description, the other judges a proof of delivery.
-/

namespace UniverEscrow.Backend

open UniverEscrow.Js

/-- What comes of a question to the model: no key, no SDK, a rejected request, or a text, which is
JSON or not. -/
inductive ModelAnswer where
  | apiKeyMissing
  | sdkUnavailable
  | rejects (message : String)
  | text (parsed : Option JsValue)

def binaryZero : Binary64 := ⟨0, isBinary64_zero⟩

def binaryOne : Binary64 := ⟨1, isBinary64_one⟩

/-! ## `ai.service` -/

structure VerifyAssetResult where
  isMatch : Bool
  confidence : Binary64
  extractedDetails : String
  issueDetected : Bool
deriving DecidableEq

def clamp01 : JsNumber → Binary64
  | .fin x => if x.val < 0 then binaryZero else if 1 < x.val then binaryOne else x
  | _ => binaryZero

def normalizeCandidateString : JsValue → String
  | .str s => s
  | .null | .undefined => ""
  | v => v.stringify

/-- `none` where a coercion throws. -/
def coerceOutput (input : JsValue) : Option VerifyAssetResult := do
  let confidence ← (input.get "confidence").toNumber
  return {
    isMatch := (input.get "isMatch").truthy
    confidence := clamp01 confidence
    extractedDetails := normalizeCandidateString (input.get "extractedDetails")
    issueDetected := (input.get "issueDetected").truthy }

/-- The result without an answer of the model. -/
def unverifiedAsset (extractedDetails : String) : VerifyAssetResult :=
  ⟨false, binaryZero, extractedDetails, true⟩

/-- `verifyAsset` of the service, which throws the message of a rejected request. -/
def assetResult : ModelAnswer → Except String VerifyAssetResult
  | .apiKeyMissing => .ok (unverifiedAsset "GEMINI_API_KEY_MISSING")
  | .sdkUnavailable => .ok (unverifiedAsset "GEMINI_SDK_UNAVAILABLE")
  | .rejects message => .error message
  | .text parsed =>
      .ok ((parsed.bind coerceOutput).getD (unverifiedAsset "MODEL_OUTPUT_NOT_VALID_JSON"))

/-! ## `aiTrustService` -/

structure VerifyProofOfDeliveryResult where
  confidence_score : Binary64
  reasoning : String
  verified : Bool
deriving DecidableEq

def finiteOrZero : JsNumber → Binary64
  | .fin x => x
  | _ => binaryZero

/-- `none` where a coercion throws. -/
def coerceResult (input : JsValue) : Option VerifyProofOfDeliveryResult := do
  let confidence ← (input.get "confidence_score").toNumber
  let confidence_score := finiteOrZero confidence
  return {
    confidence_score := confidence_score
    reasoning := (input.get "reasoning").asString?.getD ""
    verified := (input.get "verified").truthy && decide (0 ≤ confidence_score.val) &&
      decide (confidence_score.val ≤ 1) }

def unverifiedProof (reasoning : String) : VerifyProofOfDeliveryResult :=
  ⟨binaryZero, reasoning, false⟩

def verifyProofOfDelivery : ModelAnswer → Except String VerifyProofOfDeliveryResult
  | .apiKeyMissing => .error "GEMINI_API_KEY_MISSING"
  | .sdkUnavailable => .ok (unverifiedProof "GEMINI_SDK_UNAVAILABLE")
  | .rejects message => .error message
  | .text parsed =>
      .ok ((parsed.bind coerceResult).getD (unverifiedProof "MODEL_OUTPUT_NOT_VALID_JSON"))

/-! ## The range of a confidence -/

theorem clamp01_mem (n : JsNumber) : 0 ≤ (clamp01 n).val ∧ (clamp01 n).val ≤ 1 := by
  have hzero : binaryZero.val = 0 := rfl
  have hone : binaryOne.val = 1 := rfl
  unfold clamp01
  split
  · split_ifs with hneg hbig
    · simp [hzero]
    · simp [hone]
    · exact ⟨not_lt.1 hneg, not_lt.1 hbig⟩
  · simp [hzero]

theorem unverifiedAsset_mem (details : String) :
    0 ≤ (unverifiedAsset details).confidence.val ∧ (unverifiedAsset details).confidence.val ≤ 1 :=
  ⟨le_rfl, zero_le_one⟩

/-- Whatever the model answers, the confidence about an asset lies between 0 and 1. -/
theorem confidence_mem_of_assetResult {answer : ModelAnswer} {result : VerifyAssetResult}
    (h : assetResult answer = .ok result) :
    0 ≤ result.confidence.val ∧ result.confidence.val ≤ 1 := by
  cases answer with
  | apiKeyMissing => exact Except.ok.inj h ▸ unverifiedAsset_mem _
  | sdkUnavailable => exact Except.ok.inj h ▸ unverifiedAsset_mem _
  | rejects message => cases h
  | text parsed =>
      rw [← Except.ok.inj h]
      cases hout : parsed.bind coerceOutput with
      | none => exact unverifiedAsset_mem _
      | some coerced =>
          obtain ⟨input, -, hcoerced⟩ := Option.bind_eq_some_iff.1 hout
          obtain ⟨n, -, heq⟩ := Option.bind_eq_some_iff.1 hcoerced
          cases heq
          exact clamp01_mem n

end UniverEscrow.Backend
