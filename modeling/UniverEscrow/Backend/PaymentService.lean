import UniverEscrow.Js.FixedPoint
import UniverEscrow.Js.OrderedMap
import UniverEscrow.Js.Throw
import UniverEscrow.Lib.Except
import UniverEscrow.Merkle.Sha256

/-!
# The payment service

A payout handshake is a row of the database.  The service creates it with the digest of a
one-time password, and releases it to whoever brings the password and a proof of delivery.
-/

namespace UniverEscrow.Backend

open UniverEscrow.Js UniverEscrow.Merkle UniverEscrow.Lib

inductive PayoutRoute where
  | mpesa
  | bank
  | usdc
deriving DecidableEq

def PayoutRoute.text : PayoutRoute → String
  | .mpesa => "MPESA"
  | .bank => "BANK"
  | .usdc => "USDC"

inductive PayoutHandshakeStatus where
  | locked
  | released
  | failed
deriving DecidableEq

/-- The columns that the code reads or writes; `releasedAt` is in milliseconds. -/
structure PayoutHandshake where
  id : ℕ
  tenantId : String
  handshakeId : String
  route : PayoutRoute
  status : PayoutHandshakeStatus
  aiConfidence : Binary64
  handshakeCodeHash : Option String
  podPhotoUrlCiphertext : Option String
  podGpsCiphertext : Option String
  podIntegrityHash : Option String
  amountKESCents : ℤ
  amountUSDCents : ℤ
  exchangeRateKESPerUSDC : ℤ
  mpesaB2CRecipient : Option String
  pesaLinkRecipient : Option String
  circleRecipient : Option String
  releaseIdempotencyKey : Option String
  processedReleaseTxId : Option String
  releasedAt : Option ℤ
  failureReason : Option String

/-! ## The table -/

/-- Rows under their `handshakeId`.  Both it and `id` are unique and never rewritten, so the row
with the `id` of a handshake is the one under its `handshakeId`. -/
abbrev Handshakes := OrderedMap String PayoutHandshake

/-- `updateMany({ where: { handshakeId }, data })`. -/
def Handshakes.updateMany (handshakes : Handshakes) (handshakeId : String)
    (data : PayoutHandshake → PayoutHandshake) : Handshakes :=
  match handshakes.get? handshakeId with
  | some row => handshakes.set handshakeId (data row)
  | none => handshakes

/-- The end of the message, after the place of the statement. -/
def uniqueConstraintError (field : String) : String :=
  "Unique constraint failed on the fields: (`" ++ field ++ "`)"

def recordNotFoundError : String :=
  "An operation failed because it depends on one or more records that were required but not " ++
    "found. No record was found for an update."

/-- A row has the value in a unique column. -/
def Handshakes.taken (handshakes : Handshakes) (column : PayoutHandshake → Option String)
    (value : String) : Bool :=
  handshakes.entries.any fun e => column e.2 = some value

/-- A row other than that of the handshake has it. -/
def Handshakes.takenElsewhere (handshakes : Handshakes) (handshakeId : String)
    (column : PayoutHandshake → Option String) (value : String) : Bool :=
  handshakes.entries.any fun e => e.1 ≠ handshakeId && column e.2 = some value

/-- `update({ where: { id }, data })`, which gives the row. -/
def Handshakes.update (handshakes : Handshakes) (handshakeId : String)
    (data : PayoutHandshake → PayoutHandshake) : Except String (Handshakes × PayoutHandshake) := do
  let row ← orThrow recordNotFoundError (handshakes.get? handshakeId)
  return (handshakes.set handshakeId (data row), data row)

/-- The same where the data has a value for a unique column. -/
def Handshakes.updateUnique (handshakes : Handshakes) (handshakeId : String)
    (column : PayoutHandshake → Option String) (field value : String)
    (data : PayoutHandshake → PayoutHandshake) : Except String (Handshakes × PayoutHandshake) := do
  throwUnless (!handshakes.takenElsewhere handshakeId column value) (uniqueConstraintError field)
  handshakes.update handshakeId data

/-! ## Creating a handshake -/

def assertNonEmptyString (v : JsValue) (name : String) : Except String String := do
  let text ← orThrow (name ++ "_INVALID") v.asString?
  let s := jsTrim text
  throwUnless (s ≠ "") (name ++ "_REQUIRED")
  return s

/-- `BigInt(s)` on a text or on `undefined`. -/
def bigIntOrThrow (s : Option String) : Except String ℤ := do
  let text ← orThrow "Cannot convert undefined to a BigInt" s
  orThrow ("Cannot convert " ++ text ++ " to a BigInt") (bigIntOfText? text)

def toCentsKESBigInt (amountKES : JsNumber) : Except String ℤ :=
  match amountKES with
  | .fin x => do
      let (whole, frac) := splitPoint (toFixed2 x)
      let whole ← bigIntOrThrow (some whole)
      let frac ← bigIntOrThrow frac
      let cents := whole * 100 + frac
      throwUnless (0 < cents) "amountKES_MUST_BE_POSITIVE"
      return cents
  | _ => .error "amountKES_INVALID"

/-- `crypto.randomInt(0, 1_000_000)` in six digits. -/
def generateSecure6DigitOtp (n : Fin 1000000) : String :=
  String.ofList ((Nat.toDigits 10 n.val).leftpad 6 '0')

def PayoutRoute.ofText? (text : String) : Option PayoutRoute :=
  [PayoutRoute.mpesa, .bank, .usdc].find? fun route => route.text = text

structure CreateHandshakeInput where
  tenantId : JsValue
  amountKES : JsNumber
  recipientPhone : JsValue
  route : JsValue

structure CreatedHandshake where
  handshake : PayoutHandshake
  otp : String

/-- What the database says to a row it does not take. -/
structure CreateErrors where
  invalidValue : (field : String) → JsValue → String
  integerOutOfRange : ℤ → String
  tenantNotFound : String

/-- A value of an enumeration column. -/
def routeColumn (errors : CreateErrors) (route : JsValue) : Except String PayoutRoute :=
  orThrow (errors.invalidValue "route" route) (route.asString?.bind PayoutRoute.ofText?)

/-- A value of a 64-bit column. -/
def integerColumn (errors : CreateErrors) (n : ℤ) : Except String Unit :=
  throwUnless (-2 ^ 63 ≤ n && n < 2 ^ 63) (errors.integerOutOfRange n)

/-- `create({ data })`: the row needs a tenant, and a `handshakeId` of its own. -/
def Handshakes.create (errors : CreateErrors) (tenantExists : String → Bool)
    (row : PayoutHandshake) (handshakes : Handshakes) : Except String Handshakes := do
  integerColumn errors row.amountKESCents
  integerColumn errors row.amountUSDCents
  integerColumn errors row.exchangeRateKESPerUSDC
  throwUnless (handshakes.get? row.handshakeId).isNone (uniqueConstraintError "handshakeId")
  throwUnless (tenantExists row.tenantId) errors.tenantNotFound
  return handshakes.set row.handshakeId row

/-- The row that an input asks for, and its password.  The next `id`, the UUID and the random
number are those of the call. -/
def requestedHandshake (sha256 : Sha256) (errors : CreateErrors) (nextId : ℕ) (uuid : String)
    (n : Fin 1000000) (input : CreateHandshakeInput) : Except String CreatedHandshake := do
  let tenantId ← assertNonEmptyString input.tenantId "tenantId"
  let recipientPhone ← assertNonEmptyString input.recipientPhone "recipientPhone"
  let amountKESCents ← toCentsKESBigInt input.amountKES
  let otpPlain := generateSecure6DigitOtp n
  let route ← routeColumn errors input.route
  let row : PayoutHandshake :=
    { id := nextId
      tenantId := tenantId
      handshakeId := "hs_" ++ uuid
      route := route
      status := .locked
      aiConfidence := ⟨0, isBinary64_zero⟩
      handshakeCodeHash := some (sha256Hex sha256 otpPlain)
      podPhotoUrlCiphertext := none
      podGpsCiphertext := none
      podIntegrityHash := none
      amountKESCents := amountKESCents
      amountUSDCents := 0
      exchangeRateKESPerUSDC := 0
      mpesaB2CRecipient := if route = .mpesa then some recipientPhone else none
      pesaLinkRecipient := if route = .bank then some recipientPhone else none
      circleRecipient := if route = .usdc then some recipientPhone else none
      releaseIdempotencyKey := none
      processedReleaseTxId := none
      releasedAt := none
      failureReason := none }
  return ⟨row, otpPlain⟩

def createHandshake (sha256 : Sha256) (errors : CreateErrors) (tenantExists : String → Bool)
    (nextId : ℕ) (uuid : String) (n : Fin 1000000) (input : CreateHandshakeInput)
    (handshakes : Handshakes) : Except String (Handshakes × CreatedHandshake) := do
  let created ← requestedHandshake sha256 errors nextId uuid n input
  let handshakes ← handshakes.create errors tenantExists created.handshake
  return (handshakes, created)

/-! ## Verifying and releasing -/

structure VerifyAndReleaseInput where
  handshakeId : JsValue
  userProvidedOtp : JsValue
  safetyNetImageUrl : JsValue
  gpsMetadata : JsValue
  idempotencyKey : JsValue

/-- What the transaction gets from the input. -/
structure ReleaseRequest where
  handshakeId : String
  idempotencyKey : String
  userOtpHash : String
  podPhotoUrl : String
  podGpsCiphertext : String

/-- `/^\d{6}$/.test(s)`. -/
def isSixDigits (s : String) : Bool := s.toList.length = 6 && s.toList.all (isDigitOf 10)

/-- The one-time password of the input, once it has the form of one. -/
def wellFormedOtp (userProvidedOtp : JsValue) : Except String String := do
  let userOtpRaw := match userProvidedOtp with
    | .num n => JsValue.str n.toText
    | v => v
  let userOtp ← assertNonEmptyString userOtpRaw "userProvidedOtp"
  throwUnless (isSixDigits userOtp) "INVALID_OTP"
  return userOtp

def otpReleaseRequest (sha256 : Sha256) (input : VerifyAndReleaseInput) :
    Except String ReleaseRequest := do
  let handshakeId ← assertNonEmptyString input.handshakeId "handshakeId"
  let idempotencyKey ← assertNonEmptyString input.idempotencyKey "idempotencyKey"
  let userOtp ← wellFormedOtp input.userProvidedOtp
  let podPhotoUrl ← assertNonEmptyString input.safetyNetImageUrl "safetyNetImageUrl"
  return {
    handshakeId := handshakeId
    idempotencyKey := idempotencyKey
    userOtpHash := sha256Hex sha256 userOtp
    podPhotoUrl := podPhotoUrl
    podGpsCiphertext := (input.gpsMetadata.orElse .null).stringify }

/-- The transaction up to the search for the key. -/
def checkOtp (request : ReleaseRequest) (handshakes : Handshakes) :
    Except String PayoutHandshake := do
  let handshake ← orThrow "NOT_FOUND" (handshakes.get? request.handshakeId)
  throwUnless (handshake.handshakeCodeHash = some request.userOtpHash) "INVALID_OTP"
  throwUnless (handshake.status ≠ .released) "ALREADY_PROCESSED"
  return handshake

def checkKey (request : ReleaseRequest) (handshakes : Handshakes) : Except String Unit :=
  throwUnless (!handshakes.taken PayoutHandshake.releaseIdempotencyKey request.idempotencyKey)
    "ALREADY_PROCESSED"

/-- The row after the update; `handshake` is the row that the transaction has read. -/
def releasedByOtp (request : ReleaseRequest) (handshake : PayoutHandshake) (nowMs : ℤ)
    (row : PayoutHandshake) : PayoutHandshake :=
  { row with
    status := .released
    releaseIdempotencyKey := some request.idempotencyKey
    podPhotoUrlCiphertext := some request.podPhotoUrl
    podGpsCiphertext := some request.podGpsCiphertext
    podIntegrityHash := handshake.podIntegrityHash
    releasedAt := some nowMs }

def releaseByOtp (request : ReleaseRequest) (handshake : PayoutHandshake) (nowMs : ℤ)
    (handshakes : Handshakes) : Except String (Handshakes × PayoutHandshake) :=
  handshakes.updateUnique request.handshakeId PayoutHandshake.releaseIdempotencyKey
    "releaseIdempotencyKey" request.idempotencyKey (releasedByOtp request handshake nowMs)

/-- `s.includes(t)`. -/
def includes (s t : String) : Bool := t.toList <:+: s.toList

/-- The message after the `catch`. -/
def verifyAndReleaseError (msg : String) : String :=
  if msg ∈ ["NOT_FOUND", "INVALID_OTP", "ALREADY_PROCESSED"] then msg
  else if includes msg "Unique constraint" || includes msg.toLower "releaseidempotencykey" ||
      includes msg.toLower "unique" then "ALREADY_PROCESSED"
  else msg

def releaseTransaction (request : ReleaseRequest) (nowMs : ℤ) (handshakes : Handshakes) :
    Except String (Handshakes × PayoutHandshake) := do
  let handshake ← checkOtp request handshakes
  checkKey request handshakes
  releaseByOtp request handshake nowMs handshakes

def verifyAndRelease (sha256 : Sha256) (nowMs : ℤ) (input : VerifyAndReleaseInput)
    (handshakes : Handshakes) : Except String (Handshakes × PayoutHandshake) := do
  let request ← otpReleaseRequest sha256 input
  (releaseTransaction request nowMs handshakes).mapError verifyAndReleaseError

/-! ## What a release finds -/

theorem update_eq_ok {handshakes after : Handshakes} {handshakeId : String}
    {data : PayoutHandshake → PayoutHandshake} {row : PayoutHandshake} :
    handshakes.update handshakeId data = .ok (after, row) ↔
      ∃ before, handshakes.get? handshakeId = some before ∧ data before = row ∧
        handshakes.set handshakeId row = after := by
  simp only [Handshakes.update, bind_eq_ok, orThrow_eq_ok]
  constructor
  · rintro ⟨before, hbefore, heq⟩
    cases heq
    exact ⟨before, hbefore, rfl, rfl⟩
  · rintro ⟨before, hbefore, rfl, rfl⟩
    exact ⟨before, hbefore, rfl⟩

theorem updateUnique_eq_ok {handshakes after : Handshakes} {handshakeId field value : String}
    {column : PayoutHandshake → Option String} {data : PayoutHandshake → PayoutHandshake}
    {row : PayoutHandshake} :
    handshakes.updateUnique handshakeId column field value data = .ok (after, row) ↔
      handshakes.takenElsewhere handshakeId column value = false ∧
        ∃ before, handshakes.get? handshakeId = some before ∧ data before = row ∧
          handshakes.set handshakeId row = after := by
  simp only [Handshakes.updateUnique, bind_eq_ok, throwUnless_eq_ok, Bool.not_eq_true',
    update_eq_ok]
  constructor
  · rintro ⟨-, hfree, hupdate⟩
    exact ⟨hfree, hupdate⟩
  · rintro ⟨hfree, hupdate⟩
    exact ⟨(), hfree, hupdate⟩

theorem takenElsewhere_of_not_taken {handshakes : Handshakes} {handshakeId value : String}
    {column : PayoutHandshake → Option String} (h : handshakes.taken column value = false) :
    handshakes.takenElsewhere handshakeId column value = false := by
  rw [Handshakes.taken, List.any_eq_false] at h
  rw [Handshakes.takenElsewhere, List.any_eq_false]
  intro e he
  simp only [Bool.and_eq_true, not_and]
  intro _
  exact h e he

/-- The checks of the transaction on the row it releases. -/
structure Releasable (request : ReleaseRequest) (handshakes : Handshakes)
    (handshake : PayoutHandshake) : Prop where
  found : handshakes.get? request.handshakeId = some handshake
  code : handshake.handshakeCodeHash = some request.userOtpHash
  notReleased : handshake.status ≠ .released
  freshKey : handshakes.taken PayoutHandshake.releaseIdempotencyKey request.idempotencyKey = false

theorem checkOtp_eq_ok {request : ReleaseRequest} {handshakes : Handshakes}
    {handshake : PayoutHandshake} :
    checkOtp request handshakes = .ok handshake ↔
      handshakes.get? request.handshakeId = some handshake ∧
        handshake.handshakeCodeHash = some request.userOtpHash ∧ handshake.status ≠ .released := by
  simp only [checkOtp, bind_eq_ok, orThrow_eq_ok, throwUnless_eq_ok, decide_eq_true_eq]
  constructor
  · rintro ⟨row, hfound, -, hcode, -, hstatus, heq⟩
    cases heq
    exact ⟨hfound, hcode, hstatus⟩
  · rintro ⟨hfound, hcode, hstatus⟩
    exact ⟨handshake, hfound, (), hcode, (), hstatus, rfl⟩

theorem releaseTransaction_eq_ok {request : ReleaseRequest} {nowMs : ℤ}
    {handshakes after : Handshakes} {row : PayoutHandshake} :
    releaseTransaction request nowMs handshakes = .ok (after, row) ↔
      ∃ before, Releasable request handshakes before ∧
        releasedByOtp request before nowMs before = row ∧
        handshakes.set request.handshakeId row = after := by
  simp only [releaseTransaction, bind_eq_ok, checkOtp_eq_ok, checkKey, throwUnless_eq_ok,
    Bool.not_eq_true', releaseByOtp, updateUnique_eq_ok]
  constructor
  · rintro ⟨before, ⟨hfound, hcode, hstatus⟩, -, hkey, -, row', hrow', hdata, hset⟩
    rw [hfound] at hrow'
    rw [← Option.some.inj hrow'] at hdata
    exact ⟨before, ⟨hfound, hcode, hstatus, hkey⟩, hdata, hset⟩
  · rintro ⟨before, h, hdata, hset⟩
    exact ⟨before, ⟨h.found, h.code, h.notReleased⟩, (), h.freshKey,
      takenElsewhere_of_not_taken h.freshKey, before, h.found, hdata, hset⟩

theorem verifyAndRelease_eq_ok {sha256 : Sha256} {nowMs : ℤ} {input : VerifyAndReleaseInput}
    {handshakes after : Handshakes} {row : PayoutHandshake} :
    verifyAndRelease sha256 nowMs input handshakes = .ok (after, row) ↔
      ∃ request before, otpReleaseRequest sha256 input = .ok request ∧
        Releasable request handshakes before ∧
        releasedByOtp request before nowMs before = row ∧
        handshakes.set request.handshakeId row = after := by
  simp only [verifyAndRelease, bind_eq_ok, mapError_eq_ok, releaseTransaction_eq_ok]
  constructor
  · rintro ⟨request, hrequest, before, h⟩
    exact ⟨request, before, hrequest, h⟩
  · rintro ⟨request, before, hrequest, h⟩
    exact ⟨request, hrequest, before, h⟩

end UniverEscrow.Backend
