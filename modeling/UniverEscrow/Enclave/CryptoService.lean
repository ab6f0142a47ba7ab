import UniverEscrow.Js.Value

/-!
# Signature verification

RSA verification itself belongs to the platform and is a parameter: key, signed text and
hexadecimal signature to a verdict, `none` when the platform throws.
-/

namespace UniverEscrow.Enclave

open UniverEscrow.Js

/-- `crypto.createVerify('sha256')` over the text, then `verify(key, signature)`. -/
abbrev RsaVerify := (publicKeyPem data signatureHex : String) → Option Bool

def isHexChar (c : Char) : Bool :=
  ('0' ≤ c && c ≤ '9') || ('a' ≤ c && c ≤ 'f') || ('A' ≤ c && c ≤ 'F')

/-- `/^[0-9a-fA-F]+$/` and an even length. -/
def isHexBytes (s : String) : Bool :=
  s.toList ≠ [] && s.toList.all isHexChar && s.toList.length % 2 = 0

/-- `CryptoService.verifySignature`.  A signature that is no string has no hexadecimal text of
even `length`, and a throw counts as a rejection. -/
def verifySignature (rsa : RsaVerify) (data : String) (signatureHex : JsValue)
    (publicKeyPem : String) : Bool :=
  match signatureHex with
  | .str signature =>
      data ≠ "" && publicKeyPem ≠ "" && isHexBytes signature &&
        (rsa publicKeyPem data signature).getD false
  | _ => false

end UniverEscrow.Enclave
