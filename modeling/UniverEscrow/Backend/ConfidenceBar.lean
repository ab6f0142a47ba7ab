import UniverEscrow.Backend.HandshakeLifecycle
import Mathlib.Logic.Function.Basic

/-!
# The confidence of a release

A stored confidence does not say which verdict it came with.  The proof controller stores it for
either verdict, the router trusts any that is high enough, and the verdict about an asset
releases at any confidence.
-/

namespace UniverEscrow.Backend

open UniverEscrow.Js UniverEscrow.Merkle UniverEscrow.Lib

/-- The table, and of every handshake whether the verification that its stored confidence came
from had a positive verdict. -/
structure JudgedHandshakes where
  table : Handshakes
  positive : String → Bool

/-- The verdict that a call stores the confidence of. -/
def storedVerdict (platform : HandshakePlatform) (handshakes : Handshakes) :
    HandshakeCall → Option (String × Bool)
  | .verifyAsset request =>
      match assetVerification platform.jsonParse request handshakes with
      | .ok (_, verification) => some (request.id, verification.isMatch)
      | .error _ => none
  | .verifyAndProcess request =>
      match proofVerification request handshakes with
      | .ok (_, verification) => some (request.handshakeId, verification.verified)
      | .error _ => none
  | .verifyAndRelease _ _ | .processUniversalHandshake _ _ => none

def afterJudgedCall (platform : HandshakePlatform) (judged : JudgedHandshakes)
    (call : HandshakeCall) : JudgedHandshakes where
  table := afterHandshakeCall platform judged.table call
  positive :=
    match storedVerdict platform judged.table call with
    | some (id, verdict) => Function.update judged.positive id verdict
    | none => judged.positive

/-- The handshake that a verdict or a stored confidence has set to `RELEASED`. -/
def releasedByAi (platform : HandshakePlatform) (handshakes : Handshakes) :
    HandshakeCall → Option String
  | .verifyAsset request =>
      match (verifyAsset platform.jsonParse request handshakes).2 with
      | .ok reply => if reply.mappedStatus = .released then some request.id else none
      | .error _ => none
  | .verifyAndProcess request =>
      match (verifyAndProcess request handshakes).2 with
      | .ok (.processed _ _) => some request.handshakeId
      | .ok (.rejected _) => none
      | .error _ => none
  | .processUniversalHandshake handshakeId call =>
      match (processUniversalHandshake handshakeId call handshakes).2 with
      | .ok _ => some handshakeId
      | .error _ => none
  | .verifyAndRelease _ _ => none

/-- What a call sets to `RELEASED` has a confidence over the bar, of a positive verdict. -/
def ReleasesByBar (platform : HandshakePlatform) (judged : JudgedHandshakes)
    (call : HandshakeCall) : Prop :=
  ∀ id, releasedByAi platform judged.table call = some id →
    (afterJudgedCall platform judged call).positive id = true ∧
      ∃ row, (afterJudgedCall platform judged call).table.get? id = some row ∧
        row.status = .released ∧ JsNumber.lt confidenceBar (.fin row.aiConfidence) = true

/-- A match has a confidence over the bar, and a handshake that the router pays out has the
confidence of a positive verdict. -/
def TrustsVerdicts (platform : HandshakePlatform) (judged : JudgedHandshakes) :
    HandshakeCall → Prop
  | .verifyAsset request =>
      ∀ handshake verification,
        assetVerification platform.jsonParse request judged.table = .ok (handshake, verification) →
          verification.isMatch = true →
            JsNumber.lt confidenceBar (.fin verification.confidence) = true
  | .processUniversalHandshake handshakeId call =>
      ∀ handshake, Payable handshakeId judged.table handshake →
        executeRouteRelease call.rail handshake = .ok () →
          judged.table.takenElsewhere handshakeId PayoutHandshake.processedReleaseTxId
              (releaseTxId handshake call.txMs) = false →
            judged.positive handshakeId = true
  | .verifyAndProcess _ | .verifyAndRelease _ _ => True

section
variable {platform : HandshakePlatform} {judged : JudgedHandshakes} {handshakes : Handshakes}

/-- What a call that the router answers has paid out. -/
theorem process_eq_ok {handshakeId : String} {call : ProcessCall} {result : ProcessResult}
    (h : (processUniversalHandshake handshakeId call handshakes).2 = .ok result) :
    ∃ handshake, Payable handshakeId handshakes handshake ∧
      executeRouteRelease call.rail handshake = .ok () ∧
      handshakes.takenElsewhere handshakeId PayoutHandshake.processedReleaseTxId
        (releaseTxId handshake call.txMs) = false ∧
      (processUniversalHandshake handshakeId call handshakes).1 = handshakes.set handshakeId
        (releasedByRail (releaseTxId handshake call.txMs) call.releasedMs handshake) := by
  have hprocesses := processes handshakeId call handshakes
  generalize processUniversalHandshake handshakeId call handshakes = reply at hprocesses h ⊢
  cases hprocesses with
  | refused _ => cases h
  | released payable paid fresh => exact ⟨_, payable, paid, fresh, rfl⟩
  | failed _ => cases h

theorem releasesByBar_process_iff {handshakeId : String} {call : ProcessCall} :
    ReleasesByBar platform judged (.processUniversalHandshake handshakeId call) ↔
      TrustsVerdicts platform judged (.processUniversalHandshake handshakeId call) := by
  constructor
  · intro h handshake payable paid fresh
    obtain ⟨result, hresult⟩ := process_of_payable payable paid fresh
    have hreleased : releasedByAi platform judged.table
        (.processUniversalHandshake handshakeId call) = some handshakeId := by
      simp only [releasedByAi, hresult]
    exact (h handshakeId hreleased).1
  · intro h id hid
    simp only [releasedByAi] at hid
    cases hreply : (processUniversalHandshake handshakeId call judged.table).2 with
    | error message =>
        rw [hreply] at hid
        cases hid
    | ok result =>
        rw [hreply] at hid
        obtain rfl : handshakeId = id := Option.some.inj hid
        obtain ⟨handshake, payable, paid, fresh, hafter⟩ := process_eq_ok hreply
        refine ⟨h handshake payable paid fresh,
          releasedByRail (releaseTxId handshake call.txMs) call.releasedMs handshake, ?_, rfl,
          (meetsBar_iff handshake.aiConfidence).1 payable.confident⟩
        simp only [afterJudgedCall, afterHandshakeCall, hafter]
        exact OrderedMap.get?_set_self _ _ _

theorem releasesByBar_verifyAndProcess (request : VerifyProofRequest) :
    ReleasesByBar platform judged (.verifyAndProcess request) := by
  intro id hid
  simp only [releasedByAi, verifyAndProcess] at hid
  cases hproof : proofVerification request judged.table with
  | error e => simp [hproof] at hid
  | ok found =>
      obtain ⟨handshake, verification⟩ := found
      cases hproves : verification.proves with
      | false => simp [hproof, hproves] at hid
      | true =>
          simp only [hproof, hproves, ↓reduceIte] at hid
          cases hreply : (processUniversalHandshake request.handshakeId request.process
              (judged.table.set request.handshakeId (verifiedProof verification handshake))).2 with
          | error message => simp [hreply, thrownAs, Except.map, Except.mapError] at hid
          | ok result =>
              simp only [hreply, thrownAs, Except.map, Except.mapError, Option.some.injEq] at hid
              subst hid
              obtain ⟨row, payable, -, -, hafter⟩ := process_eq_ok hreply
              have hrow := payable.found
              rw [OrderedMap.get?_set_self] at hrow
              have hboth := hproves
              rw [VerifyProofOfDeliveryResult.proves, Bool.and_eq_true] at hboth
              refine ⟨?_, releasedByRail (releaseTxId row request.process.txMs)
                request.process.releasedMs row, ?_, rfl, ?_⟩
              · simp only [afterJudgedCall, storedVerdict, hproof, Function.update_self]
                exact hboth.1
              · simp only [afterJudgedCall, afterHandshakeCall, verifyAndProcess, hproof, hproves,
                  ↓reduceIte, hafter]
                exact OrderedMap.get?_set_self _ _ _
              · rw [← Option.some.inj hrow]
                exact hboth.2

theorem releasesByBar_verifyAsset_iff {request : VerifyAssetRequest} :
    ReleasesByBar platform judged (.verifyAsset request) ↔
      TrustsVerdicts platform judged (.verifyAsset request) := by
  simp only [ReleasesByBar, TrustsVerdicts, releasedByAi, afterJudgedCall, afterHandshakeCall,
    storedVerdict, verifyAsset]
  cases hasset : assetVerification platform.jsonParse request judged.table with
  | error e => simp
  | ok found =>
      obtain ⟨handshake, verification⟩ := found
      cases hmatch : verification.isMatch with
      | false => simp [VerifyAssetResult.nextStatus, hmatch]
      | true => simp [VerifyAssetResult.nextStatus, hmatch, verifiedAsset]

theorem releasesByBar_iff (platform : HandshakePlatform) (judged : JudgedHandshakes)
    (call : HandshakeCall) :
    ReleasesByBar platform judged call ↔ TrustsVerdicts platform judged call := by
  cases call with
  | verifyAndRelease nowMs input =>
      exact iff_of_true (fun id hid => by cases hid) trivial
  | processUniversalHandshake handshakeId call => exact releasesByBar_process_iff
  | verifyAndProcess request => exact iff_of_true (releasesByBar_verifyAndProcess request) trivial
  | verifyAsset request => exact releasesByBar_verifyAsset_iff

end

/-- Every release of a run that rests on a verdict clears the bar, exactly where every match does
and the router never pays out on the confidence of a negative verdict. -/
theorem ai_releases_clear_bar_iff (platform : HandshakePlatform) (judged : JudgedHandshakes)
    (calls : List HandshakeCall) :
    Run.EachStep (afterJudgedCall platform) (ReleasesByBar platform) judged calls ↔
      Run.EachStep (afterJudgedCall platform) (TrustsVerdicts platform) judged calls :=
  Run.eachStep_congr (releasesByBar_iff platform)

/-! ### A sample -/

def judgedSample : JudgedHandshakes := ⟨sampleHandshakes, fun _ => false⟩

/-- A proof of delivery that the model answers with a verdict and a confidence. -/
def proofCall (verified : Bool) (confidence : ℚ) : HandshakeCall :=
  .verifyAndProcess {
    handshakeId := "hs_u-1"
    body := .obj [("imageBase64", .str "aGk="), ("handshakeMetadata", .obj [])]
    answer := .text (some (.obj [("confidence_score", .num (.ofRat confidence)),
      ("reasoning", .str "screenshot of a photo"), ("verified", .bool verified)]))
    process := sampleProcess }

def processCall : HandshakeCall := .processUniversalHandshake "hs_u-1" sampleProcess

/-- A match at 0.4 releases, and so does the router on the 0.99 of a negative verdict. -/
theorem release_below_bar :
    handshakeStatusAfter [assetCall true (2 / 5)] = some .released ∧
      ¬ Run.EachStep (afterJudgedCall samplePlatform) (ReleasesByBar samplePlatform) judgedSample
        [assetCall true (2 / 5)] ∧
      handshakeStatusAfter [proofCall false (99 / 100), processCall] = some .released ∧
      ¬ Run.EachStep (afterJudgedCall samplePlatform) (ReleasesByBar samplePlatform) judgedSample
        [proofCall false (99 / 100), processCall] := by
  refine ⟨by decide +kernel, fun h => ?_, by decide +kernel, fun h => ?_⟩
  · have hreleased : releasedByAi samplePlatform sampleHandshakes (assetCall true (2 / 5)) =
        some "hs_u-1" := by decide +kernel
    have hlow : ((afterHandshakeCall samplePlatform sampleHandshakes
        (assetCall true (2 / 5))).get? "hs_u-1").map (fun row =>
          JsNumber.lt confidenceBar (.fin row.aiConfidence)) = some false := by decide +kernel
    obtain ⟨-, row, hrow, -, hbar⟩ := h.1 "hs_u-1" hreleased
    have hrow' : (afterHandshakeCall samplePlatform sampleHandshakes
        (assetCall true (2 / 5))).get? "hs_u-1" = some row := hrow
    rw [hrow', Option.map_some, hbar] at hlow
    cases hlow
  · have hreleased : releasedByAi samplePlatform
        (afterHandshakeCall samplePlatform sampleHandshakes (proofCall false (99 / 100)))
        processCall = some "hs_u-1" := by decide +kernel
    have hnegative : (afterJudgedCall samplePlatform
        (afterJudgedCall samplePlatform judgedSample (proofCall false (99 / 100)))
        processCall).positive "hs_u-1" = false := by decide +kernel
    obtain ⟨hpositive, -⟩ := h.2.1 "hs_u-1" hreleased
    rw [hnegative] at hpositive
    cases hpositive

end UniverEscrow.Backend
