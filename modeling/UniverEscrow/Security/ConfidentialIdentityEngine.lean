import UniverEscrow.Admin.AdminRecoveryService
import UniverEscrow.Js.Hex
import UniverEscrow.Js.OrderedMap
import UniverEscrow.Js.Rounding
import UniverEscrow.Js.Throw
import UniverEscrow.Lib.Except

/-!
# ConfidentialIdentityEngine

A credential is any value a request body can hold.  Its dates are read before its issuer is
resolved and its signature is looked at; a text that is no date gives a time that is no number,
which is neither before nor after anything.
-/

namespace UniverEscrow.Security

open UniverEscrow.Js UniverEscrow.Admin

inductive KeyType where
  | Ed25519
  | Secp256k1

def KeyType.text : KeyType → String
  | .Ed25519 => "Ed25519"
  | .Secp256k1 => "Secp256k1"

structure VerificationMethod where
  id : String
  type : String
  publicKeyHex : Option String

structure DIDDocument where
  verificationMethod : List VerificationMethod

structure IdentityVerificationResult where
  valid : Bool
  credentialId : JsValue
  subjectDid : JsValue
  issuerDid : JsValue
  verifiedAt : ℤ
  error : Option String

structure ConfidentialIdentityEngine where
  didResolutions : OrderedMap String DIDDocument
  maxCredentialAgeMs : JsNumber

/-- Date texts are parsed by the platform.  The clock is read for the dates and again for the
result. -/
structure IdentityMoment where
  dateParse : String → JsNumber
  nowMs : ℤ
  verifiedAt : ℤ

def IdentityMoment.now (moment : IdentityMoment) : JsNumber := .ofInt moment.nowMs

/-- `v || null`. -/
def orNull (v : JsValue) : JsValue := if v.truthy then v else .null

/-! ## Signatures -/

/-- `s.slice(n)`.  The half of a surrogate pair that stays in front is read as the replacement
character, which is no digit either. -/
def dropUnits : ℕ → List Char → List Char
  | 0, cs => cs
  | _ + 1, [] => []
  | n + 1, c :: cs =>
      if c.toNat < 0x10000 then dropUnits n cs
      else if n = 0 then '\ufffd' :: cs
      else dropUnits (n - 1) cs

/-- `Buffer.from(publicKey.slice(2), 'hex').length`. -/
def keyLength (publicKey : String) : ℕ := (bytesOfDigits (dropUnits 2 publicKey.toList)).length

def verifyEd25519Signature (proof : JsValue) (publicKey : String) : Bool :=
  (proof.get "jws").truthy && keyLength publicKey = 32

def verifySecp256k1Signature (proof : JsValue) (publicKey : String) : Bool :=
  ((proof.get "jws").truthy || (proof.get "signatureValue").truthy) &&
    (keyLength publicKey = 33 || keyLength publicKey = 65)

/-- The method the proof names, in full or by the end of its id. -/
def findMethod (proof : JsValue) :
    List VerificationMethod → Except String (Option VerificationMethod)
  | [] => .ok none
  | vm :: vms => do
      let wanted ← memberOrThrow proof "verificationMethod"
      if wanted.isStr vm.id then return some vm
      let ending ← textOrThrow wanted
      if ending.toList.isSuffixOf vm.id.toList then return some vm
      findMethod proof vms

def verifyCredentialSignature (credential : JsValue) (didDoc : DIDDocument) :
    Except String Bool := do
  let proof := credential.get "proof"
  match ← findMethod proof didDoc.verificationMethod with
  | none => return false
  | some method =>
      match method.publicKeyHex.filter (· ≠ "") with
      | none => return false
      | some publicKey =>
          if method.type = KeyType.Ed25519.text then
            return verifyEd25519Signature proof publicKey
          else if method.type = KeyType.Secp256k1.text then
            return verifySecp256k1Signature proof publicKey
          else return false

/-! ## Credentials -/

namespace ConfidentialIdentityEngine

/-- The constructor. -/
def new (maxAgeHours : JsNumber) : ConfidentialIdentityEngine where
  didResolutions := .empty
  maxCredentialAgeMs := ((maxAgeHours.mul (.ofInt 60)).mul (.ofInt 60)).mul (.ofInt 1000)

def cacheDidResolution (engine : ConfidentialIdentityEngine) (did : String)
    (didDoc : DIDDocument) : ConfidentialIdentityEngine :=
  { engine with didResolutions := engine.didResolutions.set did didDoc }

def resolveDid (engine : ConfidentialIdentityEngine) (did : JsValue) : Option DIDDocument :=
  did.asString?.bind engine.didResolutions.get?

/-- `true` for a stale credential. -/
def checkTimestampFreshness (engine : ConfidentialIdentityEngine) (moment : IdentityMoment)
    (credential : JsValue) : Except String Bool := do
  let issuanceDate ← memberOrThrow credential "issuanceDate"
  let issuance ← orThrow "Cannot convert object to primitive value"
    (dateTime moment.dateParse issuanceDate)
  if moment.now.lt issuance then return true
  if (credential.get "expirationDate").truthy then
    let expiration ← orThrow "Cannot convert object to primitive value"
      (dateTime moment.dateParse (credential.get "expirationDate"))
    if expiration.lt moment.now then return true
  return engine.maxCredentialAgeMs.lt (moment.now.sub issuance)

/-- `typeof issuer === 'string' ? issuer : issuer.id`. -/
def issuerDidOf (credential : JsValue) : Except String JsValue :=
  match credential.get "issuer" with
  | .str did => .ok (.str did)
  | issuer => memberOrThrow issuer "id"

/-- A result of the body: valid if it has no error. -/
def answer (moment : IdentityMoment) (credential : JsValue) (issuerDid : Except String JsValue)
    (error : Option String) : Except String IdentityVerificationResult := do
  let subjectDid ← memberOrThrow (credential.get "credentialSubject") "id"
  let issuerDid ← issuerDid
  return {
    valid := error.isNone
    credentialId := orNull (credential.get "id")
    subjectDid := subjectDid
    issuerDid := issuerDid
    verifiedAt := moment.verifiedAt
    error := error }

/-- The body of the try statement. -/
def tryCredential (engine : ConfidentialIdentityEngine) (moment : IdentityMoment)
    (credential : JsValue) : Except String IdentityVerificationResult := do
  let isStale ← engine.checkTimestampFreshness moment credential
  if isStale then
    answer moment credential (issuerDidOf credential)
      (some "Credential expired or not yet valid")
  else
    let issuerDid ← issuerDidOf credential
    match engine.resolveDid issuerDid with
    | none => answer moment credential (.ok issuerDid) (some "Issuer DID not resolved")
    | some didDoc =>
        let isValid ← verifyCredentialSignature credential didDoc
        if !isValid then answer moment credential (.ok issuerDid) (some "Invalid signature")
        else answer moment credential (.ok issuerDid) none

/-- `none` where the promise is rejected: without a credential the catch block throws too. -/
def verifyCredential (engine : ConfidentialIdentityEngine) (moment : IdentityMoment)
    (credential : JsValue) : Option IdentityVerificationResult :=
  match engine.tryCredential moment credential with
  | .ok result => some result
  | .error message =>
      if credential.isNullish then none
      else some {
        valid := false
        credentialId := orNull (credential.get "id")
        subjectDid := orNull ((credential.get "credentialSubject").get "id")
        issuerDid := if (credential.get "issuer").asString?.isSome then credential.get "issuer"
          else orNull ((credential.get "issuer").get "id")
        verifiedAt := moment.verifiedAt
        error := some message }

/-- The result says valid. -/
def Accepts (engine : ConfidentialIdentityEngine) (moment : IdentityMoment)
    (credential : JsValue) : Prop :=
  ∃ result, engine.verifyCredential moment credential = some result ∧ result.valid = true

/-- All but the dates: the issuer is resolved, the signature looks right and there is a
subject. -/
structure Vouched (engine : ConfidentialIdentityEngine) (credential : JsValue) : Prop where
  signed : ∃ issuerDid didDoc, issuerDidOf credential = .ok issuerDid ∧
    engine.resolveDid issuerDid = some didDoc ∧
    verifyCredentialSignature credential didDoc = .ok true
  subject : (credential.get "credentialSubject").isNullish = false

theorem answer_eq_ok {moment : IdentityMoment} {credential : JsValue}
    {issuerDid : Except String JsValue} {error : Option String}
    {result : IdentityVerificationResult}
    (h : answer moment credential issuerDid error = .ok result) :
    (credential.get "credentialSubject").isNullish = false ∧ result.valid = error.isNone := by
  obtain ⟨subjectDid, hsubject, h⟩ := bind_eq_ok.1 h
  obtain ⟨did, -, h⟩ := bind_eq_ok.1 h
  cases h
  exact ⟨(memberOrThrow_eq_ok.1 hsubject).1, rfl⟩

/-- A result with an error is not a valid one. -/
theorem not_valid_of_answer {moment : IdentityMoment} {credential : JsValue}
    {issuerDid : Except String JsValue} {error : String} {result : IdentityVerificationResult}
    (h : answer moment credential issuerDid (some error) = .ok result) : ¬result.valid = true := by
  rw [(answer_eq_ok h).2]
  exact Bool.false_ne_true

theorem exists_answer {credential : JsValue}
    (h : (credential.get "credentialSubject").isNullish = false) (moment : IdentityMoment)
    (did : JsValue) (error : Option String) :
    ∃ result, answer moment credential (.ok did) error = .ok result := by
  refine ⟨_, bind_eq_ok.2 ⟨_, memberOrThrow_eq_ok.2 ⟨h, rfl⟩, bind_eq_ok.2 ⟨did, rfl, rfl⟩⟩⟩

theorem accepts_iff_tryCredential {engine : ConfidentialIdentityEngine} {moment : IdentityMoment}
    {credential : JsValue} :
    engine.Accepts moment credential ↔
      ∃ result, engine.tryCredential moment credential = .ok result ∧ result.valid = true := by
  unfold Accepts verifyCredential
  cases engine.tryCredential moment credential with
  | ok result => simp
  | error message => cases credential.isNullish <;> simp

/-- A credential is accepted when its dates pass and all else does. -/
theorem accepts_iff {engine : ConfidentialIdentityEngine} {moment : IdentityMoment}
    {credential : JsValue} :
    engine.Accepts moment credential ↔
      engine.checkTimestampFreshness moment credential = .ok false ∧
        engine.Vouched credential := by
  rw [accepts_iff_tryCredential]
  constructor
  · rintro ⟨result, htry, hvalid⟩
    obtain ⟨isStale, hfresh, htry⟩ := bind_eq_ok.1 htry
    cases isStale with
    | true => exact absurd hvalid (not_valid_of_answer htry)
    | false =>
        obtain ⟨issuerDid, hissuer, htry⟩ := bind_eq_ok.1 htry
        refine ⟨hfresh, ?_⟩
        cases hresolve : engine.resolveDid issuerDid with
        | none =>
            rw [hresolve] at htry
            exact absurd hvalid (not_valid_of_answer htry)
        | some didDoc =>
            rw [hresolve] at htry
            obtain ⟨isValid, hsigned, htry⟩ := bind_eq_ok.1 htry
            cases isValid with
            | false => exact absurd hvalid (not_valid_of_answer htry)
            | true => exact ⟨⟨issuerDid, didDoc, hissuer, hresolve, hsigned⟩, (answer_eq_ok htry).1⟩
  · rintro ⟨hfresh, ⟨issuerDid, didDoc, hissuer, hresolve, hsigned⟩, hsubject⟩
    obtain ⟨result, hresult⟩ := exists_answer hsubject moment issuerDid none
    have htry : engine.tryCredential moment credential = .ok result := by
      refine bind_eq_ok.2 ⟨false, hfresh, bind_eq_ok.2 ⟨issuerDid, hissuer, ?_⟩⟩
      rw [hresolve]
      exact bind_eq_ok.2 ⟨true, hsigned, hresult⟩
    exact ⟨result, htry, (answer_eq_ok hresult).2⟩

/-! ## Dates -/

/-- `new Date(v)` is a date, at the time `t`. -/
def IsDate (moment : IdentityMoment) (v : JsValue) (t : JsNumber) : Prop :=
  dateTime moment.dateParse v = some t ∧ t ≠ .nan

/-- `new Date(v)` is an Invalid Date. -/
def IsNoDate (moment : IdentityMoment) (v : JsValue) : Prop :=
  dateTime moment.dateParse v = some .nan

/-- Issued at a date that is not ahead and not too long ago, and not expired. -/
structure Fresh (engine : ConfidentialIdentityEngine) (moment : IdentityMoment)
    (credential : JsValue) : Prop where
  issuance : ∃ t, IsDate moment (credential.get "issuanceDate") t ∧ t.le moment.now = true ∧
    engine.maxCredentialAgeMs.lt (moment.now.sub t) = false
  expiration : (credential.get "expirationDate").isNullish = false →
    ∃ t, IsDate moment (credential.get "expirationDate") t ∧ moment.now.le t = true

/-- The expiration date does not stand in the way: it is not looked at, or no date, or no date
passed. -/
def NotExpired (moment : IdentityMoment) (credential : JsValue) : Prop :=
  (credential.get "expirationDate").truthy = true →
    IsNoDate moment (credential.get "expirationDate") ∨
      ∃ t, IsDate moment (credential.get "expirationDate") t ∧ moment.now.le t = true

/-- No date of issuance, and no date of expiration that has passed. -/
structure UndatedIssuance (moment : IdentityMoment) (credential : JsValue) : Prop where
  isNoDate : IsNoDate moment (credential.get "issuanceDate")
  notExpired : NotExpired moment credential

/-- Of the right age, with an expiration that is no date, or a falsy one that is not now or
later. -/
structure UndatedExpiration (engine : ConfidentialIdentityEngine) (moment : IdentityMoment)
    (credential : JsValue) : Prop where
  issuance : ∃ t, IsDate moment (credential.get "issuanceDate") t ∧ t.le moment.now = true ∧
    engine.maxCredentialAgeMs.lt (moment.now.sub t) = false
  isPresent : (credential.get "expirationDate").isNullish = false
  expiration : if (credential.get "expirationDate").truthy then
      IsNoDate moment (credential.get "expirationDate")
    else ¬∃ t, IsDate moment (credential.get "expirationDate") t ∧ moment.now.le t = true

theorem now_ne_nan (moment : IdentityMoment) : moment.now ≠ .nan :=
  JsNumber.ofRat_ne_nan _

/-- What is not less is at least, or one of the two is no number. -/
theorem lt_eq_false_iff {a b : JsNumber} :
    a.lt b = false ↔ a = .nan ∨ b = .nan ∨ b.le a = true := by
  rw [← Bool.not_eq_true]
  constructor
  · intro h
    by_cases ha : a = .nan
    · exact .inl ha
    · by_cases hb : b = .nan
      · exact .inr (.inl hb)
      · exact .inr (.inr (JsNumber.le_of_not_lt hb ha h))
  · rintro (rfl | rfl | hle) hlt
    · cases hlt
    · cases a <;> cases hlt
    · exact JsNumber.not_le_of_lt hlt hle

theorem notExpired_iff {moment : IdentityMoment} {credential : JsValue} :
    NotExpired moment credential ↔ ((credential.get "expirationDate").truthy = true →
      ∃ t, dateTime moment.dateParse (credential.get "expirationDate") = some t ∧
        t.lt moment.now = false) := by
  apply imp_congr_right
  intro _
  constructor
  · rintro (hnan | ⟨t, ⟨htime, hne⟩, hle⟩)
    · exact ⟨.nan, hnan, rfl⟩
    · exact ⟨t, htime, lt_eq_false_iff.2 (.inr (.inr hle))⟩
  · rintro ⟨t, htime, hlt⟩
    by_cases hnan : t = .nan
    · exact .inl (htime.trans (congrArg some hnan))
    · have hle := ((lt_eq_false_iff.1 hlt).resolve_left hnan).resolve_left (now_ne_nan moment)
      exact .inr ⟨t, ⟨htime, hnan⟩, hle⟩

/-- What the freshness check lets through. -/
theorem checkTimestampFreshness_eq_false {engine : ConfidentialIdentityEngine}
    {moment : IdentityMoment} {credential : JsValue} :
    engine.checkTimestampFreshness moment credential = .ok false ↔
      credential.isNullish = false ∧ NotExpired moment credential ∧
        ∃ t, dateTime moment.dateParse (credential.get "issuanceDate") = some t ∧
          moment.now.lt t = false ∧ engine.maxCredentialAgeMs.lt (moment.now.sub t) = false := by
  have htail (t : JsNumber) (tooOld : Bool) :
      (if moment.now.lt t = true then pure true
        else if (credential.get "expirationDate").truthy = true then do
          let expiration ← orThrow "Cannot convert object to primitive value"
            (dateTime moment.dateParse (credential.get "expirationDate"))
          if expiration.lt moment.now = true then pure true else pure tooOld
        else pure tooOld : Except String Bool) = .ok false ↔
      moment.now.lt t = false ∧ tooOld = false ∧
        ((credential.get "expirationDate").truthy = true →
          ∃ t, dateTime moment.dateParse (credential.get "expirationDate") = some t ∧
            t.lt moment.now = false) := by
    have hpure (b : Bool) : (pure b : Except String Bool) = .ok false ↔ b = false := by
      cases b <;> simp [pure, Except.pure]
    cases hnow : moment.now.lt t with
    | true => simp [hpure]
    | false =>
        cases (credential.get "expirationDate").truthy with
        | false => simp [hpure]
        | true =>
            simp only [Bool.false_eq_true, if_false, if_true, bind_eq_ok, orThrow_eq_ok, true_and,
              forall_const]
            constructor
            · rintro ⟨e, htime, h⟩
              cases hlt : e.lt moment.now with
              | true =>
                  rw [hlt] at h
                  cases h
              | false =>
                  rw [hlt] at h
                  exact ⟨(hpure _).1 h, e, htime, hlt⟩
            · rintro ⟨rfl, e, htime, hlt⟩
              exact ⟨e, htime, by rw [hlt]; rfl⟩
  rw [notExpired_iff, checkTimestampFreshness, bind_eq_ok]
  simp only [memberOrThrow_eq_ok, bind_eq_ok, orThrow_eq_ok, htail]
  constructor
  · rintro ⟨issuanceDate, ⟨hcredential, rfl⟩, t, htime, hnow, hage, hexpiration⟩
    exact ⟨hcredential, hexpiration, t, htime, hnow, hage⟩
  · rintro ⟨hcredential, hexpiration, t, htime, hnow, hage⟩
    exact ⟨_, ⟨hcredential, rfl⟩, t, htime, hnow, hage, hexpiration⟩

variable {engine : ConfidentialIdentityEngine} {moment : IdentityMoment} {credential : JsValue}

theorem Vouched.isNullish (h : engine.Vouched credential) : credential.isNullish = false := by
  apply @JsValue.isNullish_of_get_ne credential "credentialSubject"
  intro hundefined
  have hsubject := h.subject
  rw [hundefined] at hsubject
  cases hsubject

/-- The difference to a time that is no number exceeds nothing. -/
theorem lt_sub_nan (a b : JsNumber) : a.lt (b.sub .nan) = false := by
  have hsub : b.sub .nan = .nan := by cases b <;> rfl
  rw [hsub, lt_eq_false_iff]
  exact .inr (.inl rfl)

theorem UndatedIssuance.accepts (h : UndatedIssuance moment credential)
    (hvouched : engine.Vouched credential) : engine.Accepts moment credential :=
  accepts_iff.2 ⟨checkTimestampFreshness_eq_false.2 ⟨hvouched.isNullish, h.notExpired, .nan,
    h.isNoDate, lt_eq_false_iff.2 (.inr (.inl rfl)), lt_sub_nan _ _⟩, hvouched⟩

theorem UndatedExpiration.accepts (h : UndatedExpiration engine moment credential)
    (hvouched : engine.Vouched credential) : engine.Accepts moment credential := by
  have hexpired : NotExpired moment credential := by
    intro htruthy
    have hexpiration := h.expiration
    rw [if_pos htruthy] at hexpiration
    exact .inl hexpiration
  obtain ⟨t, hdate, hle, hage⟩ := h.issuance
  exact accepts_iff.2 ⟨checkTimestampFreshness_eq_false.2 ⟨hvouched.isNullish, hexpired, t,
    hdate.1, lt_eq_false_iff.2 (.inr (.inr hle)), hage⟩, hvouched⟩

theorem not_isDate_of_isNoDate {v : JsValue} {t : JsNumber} (h : IsNoDate moment v) :
    ¬IsDate moment v t := by
  rintro ⟨htime, hne⟩
  exact hne (Option.some.inj (htime.symm.trans h))

/-- An accepted credential is fresh, unless it is vouched for and one of its dates is none. -/
theorem accepted_fresh_iff (engine : ConfidentialIdentityEngine) (moment : IdentityMoment)
    (credential : JsValue) :
    (engine.Accepts moment credential → engine.Fresh moment credential) ↔
      (engine.Vouched credential →
        ¬UndatedIssuance moment credential ∧ ¬engine.UndatedExpiration moment credential) := by
  constructor
  · intro h hvouched
    refine ⟨fun hundated => ?_, fun hundated => ?_⟩
    · obtain ⟨t, hdate, -⟩ := (h (hundated.accepts hvouched)).issuance
      exact not_isDate_of_isNoDate hundated.isNoDate hdate
    · have hfresh := (h (hundated.accepts hvouched)).expiration hundated.isPresent
      have hexpiration := hundated.expiration
      split_ifs at hexpiration with htruthy
      · obtain ⟨t, hdate, -⟩ := hfresh
        exact not_isDate_of_isNoDate hexpiration hdate
      · exact hexpiration hfresh
  · intro h haccepts
    obtain ⟨hcheck, hvouched⟩ := accepts_iff.1 haccepts
    obtain ⟨-, hexpired, t, htime, hnow, hage⟩ := checkTimestampFreshness_eq_false.1 hcheck
    obtain ⟨hissuance, hexpiration⟩ := h hvouched
    have hne : t ≠ .nan := by
      rintro rfl
      exact hissuance ⟨htime, hexpired⟩
    have hle := ((lt_eq_false_iff.1 hnow).resolve_left (now_ne_nan moment)).resolve_left hne
    refine ⟨⟨t, ⟨htime, hne⟩, hle, hage⟩, fun hpresent => ?_⟩
    by_contra hnone
    refine hexpiration ⟨⟨t, ⟨htime, hne⟩, hle, hage⟩, hpresent, ?_⟩
    split_ifs with htruthy
    · exact (hexpired htruthy).resolve_right hnone
    · exact hnone

end ConfidentialIdentityEngine

/-! ## A credential without a date -/

def validatorMethod : VerificationMethod where
  id := "key1"
  type := "Secp256k1"
  publicKeyHex := some ("0x" ++ String.ofList (List.replicate 66 'a'))

/-- The engine of the default age with the document of one issuer. -/
def validatorEngine : ConfidentialIdentityEngine :=
  (ConfidentialIdentityEngine.new (.ofInt 24)).cacheDidResolution "did:eth:0xvalidator"
    ⟨[validatorMethod]⟩

def undatedCredential : JsValue :=
  .obj [("issuer", .obj [("id", "did:eth:0xvalidator")]),
    ("issuanceDate", "unknown"),
    ("credentialSubject", .obj [("id", "did:eth:0xasset")]),
    ("proof", .obj [("verificationMethod", "key1"), ("jws", "valid")])]

/-- The only text parsed is no date. -/
def undatedMoment : IdentityMoment where
  dateParse := fun _ => .nan
  nowMs := 1700000000000
  verifiedAt := 1700000000000

theorem undatedCredential_accepted :
    validatorEngine.Accepts undatedMoment undatedCredential ∧
      ¬validatorEngine.Fresh undatedMoment undatedCredential := by
  constructor
  · have hvalid : (validatorEngine.verifyCredential undatedMoment undatedCredential).any
        (·.valid) = true := by
      decide +kernel
    exact (Option.any_eq_true _ _).1 hvalid
  · rintro ⟨⟨t, hdate, -⟩, -⟩
    have hunknown : ConfidentialIdentityEngine.IsNoDate undatedMoment (.str "unknown") := rfl
    exact ConfidentialIdentityEngine.not_isDate_of_isNoDate hunknown hdate

end UniverEscrow.Security
