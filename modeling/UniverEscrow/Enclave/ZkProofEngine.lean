import UniverEscrow.Enclave.CryptoService
import UniverEscrow.Merkle.Sha256

/-!
# The commitments and the mock proof verifier

A commitment is the digest of its four inputs.  A proof is accepted when the digest of its own
text begins like the public commitment.
-/

namespace UniverEscrow.Enclave.ZkProofEngine

open UniverEscrow.Js UniverEscrow.Merkle

mutual

/-- The engine's own stable text, which renders `undefined` as a string. -/
def stableStringify : JsValue → String
  | .undefined => quote "undefined"
  | .null => "null"
  | .str s => quote s
  | .num n => n.toText
  | .bool b => if b then "true" else "false"
  | .arr items => "[" ++ String.intercalate "," (stableItems items) ++ "]"
  | .obj members =>
      "\x7b" ++ String.intercalate ","
        ((JsValue.sortByKey (stableMembers members)).map Prod.snd) ++ "\x7d"

def stableItems : List JsValue → List String
  | [] => []
  | v :: vs => stableStringify v :: stableItems vs

def stableMembers : List (String × JsValue) → List (String × String)
  | [] => []
  | (k, v) :: ms => (k, quote k ++ ":" ++ stableStringify v) :: stableMembers ms

end

/-- The text a commitment is the digest of. -/
def canonicalCommitment (tenantId account : String) (amount : JsNumber) (blindingSalt : String) :
    String :=
  "tenantId=" ++ tenantId ++ "|account=" ++ account ++ "|amount=" ++ amount.toText ++
    "|blindingSalt=" ++ blindingSalt

def computeCommitment (sha256 : Sha256) (tenantId account : String) (amount : JsNumber)
    (blindingSalt : String) : String :=
  sha256Hex sha256 (canonicalCommitment tenantId account amount blindingSalt)

/-- A string of at least one hexadecimal digit. -/
def isHexLike (x : JsValue) : Bool :=
  match x with
  | .str s => s.toList ≠ [] && s.toList.all isHexChar
  | _ => false

/-- The elements of an array of two. -/
def pair? (v : JsValue) : Option (List JsValue) :=
  match v with
  | .arr items => if items.length = 2 then some items else none
  | _ => none

/-- The coordinates of a proof of the right shape, with the rows of `pi_b` joined. -/
def coordinates? (proof : JsValue) : Option (List JsValue) := do
  let a ← pair? (proof.get "pi_a")
  let c ← pair? (proof.get "pi_c")
  let rows ← pair? (proof.get "pi_b")
  let b ← rows.mapM pair?
  return a ++ b.flatten ++ c

def prefixStrength : ℕ := 8

/-- A digest has no surrogate pairs, so its code units and those of a text that begins like it
are characters. -/
def startsLike (n : ℕ) (digest text : String) : Bool := digest.toList.take n = text.toList.take n

def verifyProofMock (sha256 : Sha256) (proof : JsValue)
    (publicCommitment allowedTenantHash : String) : Bool :=
  if !proof.truthy then false
  else if JsValue.utf16Length publicCommitment ≠ 64 then false
  else if JsValue.utf16Length allowedTenantHash ≠ 64 then false
  else
    match coordinates? proof with
    | none => false
    | some coordinates =>
        if !coordinates.all isHexLike then false
        else
          let proofFingerprint := sha256Hex sha256 (stableStringify
            (.obj [("pi_a", proof.get "pi_a"), ("pi_b", proof.get "pi_b"),
              ("pi_c", proof.get "pi_c")]))
          startsLike prefixStrength proofFingerprint publicCommitment

end UniverEscrow.Enclave.ZkProofEngine
