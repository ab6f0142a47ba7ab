import UniverEscrow.Js.Value

/-!
# The notary

What the network returns for one attempt is a parameter; three attempts are made, and an
answer that fails a check counts as no answer.
-/

namespace UniverEscrow.Ledger

open UniverEscrow.Js

structure NotaryWitnessSignature where
  witnessId : String
  signature : String

structure NotaryAuthoritativeState where
  root : String
  sequenceNumber : JsNumber
  anchoringTimestamp : String
  witnessSignatures : List NotaryWitnessSignature

/-- One attempt: no response, an error status or no JSON, or a JSON body. -/
inductive NotaryReply where
  | failed
  | body (parsed : JsValue)

/-- `String(x?.key ?? '')`. -/
def witnessText (x : JsValue) (key : String) : Option String := ((x.get key).orElse "").toText

def NotaryWitnessSignature.ofJs? (x : JsValue) : Option NotaryWitnessSignature := do
  let witnessId ← witnessText x "witnessId"
  let signature ← witnessText x "signature"
  return { witnessId, signature }

/-- `getAuthoritativeState`; `none` where the attempt throws. -/
def getAuthoritativeState : NotaryReply → Option NotaryAuthoritativeState
  | .failed => none
  | .body parsed =>
      match parsed.get "root", parsed.get "sequenceNumber", parsed.get "anchoringTimestamp",
        parsed.get "witnessSignatures" with
      | .str root, .num sequenceNumber, .str anchoringTimestamp, .arr signatures =>
          if parsed.isObject && root ≠ "" && sequenceNumber.isInteger && anchoringTimestamp ≠ ""
          then do
            let witnessSignatures ← signatures.mapM NotaryWitnessSignature.ofJs?
            return { root, sequenceNumber, anchoringTimestamp, witnessSignatures }
          else none
      | _, _, _, _ => none

def maxAttempts : ℕ := 3

def notaryUnreachable : String :=
  "No authoritative notary state available: remote unreachable"

/-- The attempts from `attempt` on, `remaining` of them; `replies n` answers attempt `n`. -/
def fetchFrom (replies : ℕ → NotaryReply) (attempt : ℕ) : ℕ → Option NotaryAuthoritativeState
  | 0 => none
  | remaining + 1 =>
      match getAuthoritativeState (replies attempt) with
      | some state => some state
      | none => fetchFrom replies (attempt + 1) remaining

/-- `none` is the thrown `notaryUnreachable`. -/
def fetchAuthoritativeState (replies : ℕ → NotaryReply) : Option NotaryAuthoritativeState :=
  fetchFrom replies 1 maxAttempts

end UniverEscrow.Ledger
