import UniverEscrow.Js.OrderedMap
import UniverEscrow.Js.Throw
import UniverEscrow.Lib.ReadModifyWrite
import UniverEscrow.Merkle.Sha256

/-!
# The escrow service

An escrow is a Firestore document.  Every operation reads it, asks the payment provider, and
updates it with a copy of what it has read; what it does between two awaits is one part of a
`Call`.
-/

namespace UniverEscrow.Backend

open UniverEscrow.Js UniverEscrow.Merkle UniverEscrow.Lib UniverEscrow.Lib.ReadModifyWrite

inductive EscrowStatus where
  | pending
  | locked
  | disputed
  | released
  | refunded
deriving DecidableEq

def EscrowStatus.text : EscrowStatus → String
  | .pending => "PENDING"
  | .locked => "LOCKED"
  | .disputed => "DISPUTED"
  | .released => "RELEASED"
  | .refunded => "REFUNDED"

/-- The parties, the amount and the currency are stored as the request has them; dates are in
milliseconds, and `metadata` is the members of an object. -/
structure Escrow where
  id : String
  tenantId : String
  buyerId : JsValue
  sellerId : JsValue
  amount : JsValue
  currency : JsValue
  status : EscrowStatus
  providerType : String
  transactionId : Option String
  integrityHash : String
  createdAt : ℤ
  lockedAt : Option ℤ
  releasedAt : Option ℤ
  refundedAt : Option ℤ
  metadata : List (String × JsValue)

/-! ## The payment provider -/

inductive PaymentStatus where
  | success
  | failed
  | pending
deriving DecidableEq

structure PaymentResult where
  status : PaymentStatus
  transactionId : Option String

/-- The third argument of `initializePayment`; its `metadata` repeats the hash and the tenant. -/
structure PaymentMetadata where
  escrowId : String
  buyerId : JsValue
  sellerId : JsValue
  description : JsValue
  integrityHash : String
  tenantId : String

structure Payment where
  amount : JsValue
  currency : JsValue
  metadata : PaymentMetadata

/-- The answers of a provider during one call: a result, or the message it throws. -/
structure PaymentProvider where
  initializePayment : Payment → Except String PaymentResult
  verifyTransaction : (txnId : String) → Except String Bool
  initiateRefund : (txnId : String) → Except String Bool

inductive ProviderRequest where
  | initializePayment (payment : Payment)
  | verifyTransaction (txnId : String)
  | initiateRefund (txnId : String)

/-! ## The platform -/

/-- HMAC-SHA256, the key of the service, and Firestore.  Firestore refuses to write a member
that is there and undefined unless it is set to ignore it. -/
structure EscrowPlatform where
  hmacSha256 : (key : String) → (data : String) → HexDigest
  masterIntegrityKey : String
  ignoreUndefinedProperties : Bool
  undefinedError : (field : String) → String

/-- `{ ...members, ...more }`. -/
def spread (members more : List (String × JsValue)) : List (String × JsValue) :=
  KeyedList.upsertAll Prod.fst members more

/-- `ref.update(updated)`: a member that `updated` does not have stays. -/
def Escrow.update (doc updated : Escrow) : Escrow :=
  { updated with
    transactionId := updated.transactionId <|> doc.transactionId
    lockedAt := updated.lockedAt <|> doc.lockedAt
    releasedAt := updated.releasedAt <|> doc.releasedAt
    refundedAt := updated.refundedAt <|> doc.refundedAt }

def generateIntegrityHash (platform : EscrowPlatform) (nowMs : ℤ) (escrowId : String)
    (amount : JsValue) : Except String String := do
  let amount ← textOrThrow amount
  return (platform.hmacSha256 platform.masterIntegrityKey
    (escrowId ++ ":" ++ amount ++ ":" ++ toString nowMs)).text

/-- `crypto.timingSafeEqual` of the bytes of two texts. -/
def timingSafeEqual (a b : String) : Except String Bool := do
  throwUnless (a.utf8ByteSize = b.utf8ByteSize) "Input buffers must have the same byte length"
  return a = b

/-- The check of the hash at the time `nowMs`. -/
def validateIntegrityHash (platform : EscrowPlatform) (nowMs : ℤ) (escrow : Escrow) :
    Except String Bool := do
  let expectedHash ← generateIntegrityHash platform nowMs escrow.id escrow.amount
  timingSafeEqual escrow.integrityHash expectedHash

/-! ## The operations -/

inductive EscrowOp where
  | lock
  | release
  | refund (reason : JsValue)
  | dispute (reason : JsValue)

/-- An operation with its provider and its clock: the time that is hashed, that of the date it
stores, and the text of that date. -/
structure EscrowCall where
  op : EscrowOp
  provider : PaymentProvider
  hashMs : ℤ
  dateMs : ℤ
  isoDate : String

def invalidTransition (source target : EscrowStatus) : String :=
  "INVALID_STATE_TRANSITION_" ++ source.text ++ "_TO_" ++ target.text

/-- `lockEscrow` up to its provider call. -/
def lockRequest (platform : EscrowPlatform) (nowMs : ℤ) (escrowId : String) (escrow : Escrow) :
    Except String Payment := do
  throwUnless (escrow.status = .pending) (invalidTransition escrow.status .locked)
  let integrityHash ← generateIntegrityHash platform nowMs escrowId escrow.amount
  let description := (JsValue.obj escrow.metadata).get "description"
  return {
    amount := escrow.amount
    currency := escrow.currency
    metadata := {
      escrowId := escrowId
      buyerId := escrow.buyerId
      sellerId := escrow.sellerId
      description := if description.truthy then description else "Escrow Payment"
      integrityHash := integrityHash
      tenantId := escrow.tenantId } }

/-- The update of `lockEscrow`, which takes the transaction id as the result has it. -/
def lockedEscrow (platform : EscrowPlatform) (dateMs : ℤ) (escrow : Escrow) (payment : Payment)
    (txResult : PaymentResult) : Except String Escrow := do
  throwUnless (txResult.transactionId.isSome || platform.ignoreUndefinedProperties)
    (platform.undefinedError "transactionId")
  return { escrow with
    status := .locked
    transactionId := txResult.transactionId
    integrityHash := payment.metadata.integrityHash
    lockedAt := some dateMs }

/-- `escrow.transactionId`, where the empty text counts as none. -/
def transactionOrThrow (message : String) (escrow : Escrow) : Except String String :=
  orThrow message (escrow.transactionId.filter (· ≠ ""))

/-- `releaseEscrow` up to its provider call. -/
def releaseRequest (escrow : Escrow) : Except String String := do
  throwUnless (escrow.status = .locked) (invalidTransition escrow.status .released)
  transactionOrThrow "NO_TRANSACTION_TO_RELEASE" escrow

def releasedEscrow (dateMs : ℤ) (escrow : Escrow) (isVerified : Bool) : Except String Escrow := do
  throwUnless isVerified "TRANSACTION_NOT_CAPTURED"
  return { escrow with status := .released, releasedAt := some dateMs }

/-- `refundEscrow` up to its provider call. -/
def refundRequest (escrow : Escrow) : Except String String := do
  let transactionId ← transactionOrThrow "NO_TRANSACTION_TO_REFUND" escrow
  throwUnless (escrow.status ≠ .refunded) "ALREADY_REFUNDED"
  return transactionId

def refundMetadata (reason : JsValue) (metadata : List (String × JsValue)) :
    List (String × JsValue) :=
  spread metadata [("refundInitiated", .bool true), ("reason", reason)]

def refundedEscrow (dateMs : ℤ) (reason : JsValue) (escrow : Escrow) (refundOk : Bool) :
    Except String Escrow := do
  throwUnless refundOk "REFUND_INITIATION_FAILED"
  return { escrow with
    status := .refunded
    refundedAt := some dateMs
    metadata := refundMetadata reason escrow.metadata }

/-- `disputeEscrow` up to its update. -/
def disputeGuard (escrow : Escrow) : Except String Unit :=
  throwUnless (escrow.status ≠ .released && escrow.status ≠ .refunded)
    ("CANNOT_DISPUTE_" ++ escrow.status.text ++ "_ESCROW")

def disputeMetadata (reason : JsValue) (isoDate : String) (metadata : List (String × JsValue)) :
    List (String × JsValue) :=
  spread metadata [("disputeReason", reason), ("disputedAt", isoDate)]

def disputedEscrow (reason : JsValue) (isoDate : String) (escrow : Escrow) : Escrow :=
  { escrow with status := .disputed, metadata := disputeMetadata reason isoDate escrow.metadata }

namespace EscrowCall

variable (platform : EscrowPlatform) (escrowId : String) (call : EscrowCall)

/-- What the operation asks of the provider once it has read the escrow; a dispute asks
nothing. -/
def request (escrow : Escrow) : Except String (Option ProviderRequest) :=
  match call.op with
  | .lock =>
      (lockRequest platform call.hashMs escrowId escrow).map (some <| .initializePayment ·)
  | .release => (releaseRequest escrow).map (some <| .verifyTransaction ·)
  | .refund _ => (refundRequest escrow).map (some <| .initiateRefund ·)
  | .dispute _ => (disputeGuard escrow).map fun _ => none

/-- The reason of a refund or a dispute. -/
def reason : JsValue :=
  match call.op with
  | .lock | .release => .undefined
  | .refund reason | .dispute reason => reason

/-- What the operation writes back, once the provider has answered. -/
def updated (escrow : Escrow) : Option ProviderRequest → Except String Escrow
  | some (.initializePayment payment) => do
      let txResult ← call.provider.initializePayment payment
      lockedEscrow platform call.dateMs escrow payment txResult
  | some (.verifyTransaction txnId) => do
      let isVerified ← call.provider.verifyTransaction txnId
      releasedEscrow call.dateMs escrow isVerified
  | some (.initiateRefund txnId) => do
      let refundOk ← call.provider.initiateRefund txnId
      refundedEscrow call.dateMs call.reason escrow refundOk
  | none => return disputedEscrow call.reason call.isoDate escrow

/-- The operation in its atomic parts: the document it reads, the provider, the update. -/
def toCall : Call Escrow (Escrow × Option ProviderRequest) Escrow String where
  read escrow := (call.request platform escrowId escrow).map (escrow, ·)
  settle asked := call.updated platform asked.1 asked.2
  write updated doc := doc.update updated

end EscrowCall

/-! ## One call after another -/

structure CreateEscrowParams where
  tenantId : String
  buyerId : JsValue
  sellerId : JsValue
  amount : JsValue
  currency : JsValue
  providerType : String
  description : JsValue
  metadata : List (String × JsValue)

/-- The document of a new escrow, whose id is made of a random UUID. -/
def createdEscrow (uuid : String) (createdAtMs : ℤ) (params : CreateEscrowParams) : Escrow where
  id := "escrow_" ++ uuid
  tenantId := params.tenantId
  buyerId := params.buyerId
  sellerId := params.sellerId
  amount := params.amount
  currency := params.currency
  status := .pending
  providerType := params.providerType
  transactionId := none
  integrityHash := ""
  createdAt := createdAtMs
  lockedAt := none
  releasedAt := none
  refundedAt := none
  metadata := spread [("description", params.description)] params.metadata

/-- The collection `escrows`. -/
abbrev Escrows := OrderedMap String Escrow

inductive ServiceCall where
  | createEscrow (uuid : String) (createdAtMs : ℤ) (params : CreateEscrowParams)
  | onEscrow (escrowId : String) (call : EscrowCall)

/-- An operation on the document with the id, which it leaves alone when it throws. -/
def operate (platform : EscrowPlatform) (escrowId : String) (call : EscrowCall)
    (escrows : Escrows) : Escrows × Except String Escrow :=
  match escrows.get? escrowId with
  | none => (escrows, .error "ESCROW_NOT_FOUND")
  | some doc =>
      match (call.toCall platform escrowId).atomic doc with
      | .ok (doc', updated) => (escrows.set escrowId doc', .ok updated)
      | .error message => (escrows, .error message)

/-- The documents after a call, and what it returns or throws. -/
def serve (platform : EscrowPlatform) (escrows : Escrows) :
    ServiceCall → Escrows × Except String Escrow
  | .createEscrow uuid createdAtMs params =>
      let escrow := createdEscrow uuid createdAtMs params
      (escrows.set escrow.id escrow, .ok escrow)
  | .onEscrow escrowId call => operate platform escrowId call escrows

/-- The documents after a call. -/
def afterCall (platform : EscrowPlatform) (escrows : Escrows) (call : ServiceCall) : Escrows :=
  (serve platform escrows call).1

/-! ## What an operation does -/

@[simp] theorem Escrow.status_update (doc updated : Escrow) :
    (doc.update updated).status = updated.status := rfl

variable {platform : EscrowPlatform} {escrowId : String} {call : EscrowCall} {escrow : Escrow}

theorem generateIntegrityHash_eq_ok {nowMs : ℤ} {amount : JsValue} {hash : String} :
    generateIntegrityHash platform nowMs escrowId amount = .ok hash ↔
      ∃ text, amount.toText = some text ∧ (platform.hmacSha256 platform.masterIntegrityKey
        (escrowId ++ ":" ++ text ++ ":" ++ toString nowMs)).text = hash := by
  simp [generateIntegrityHash, bind_eq_ok, pure, Except.pure]

theorem status_of_lockRequest {nowMs : ℤ} {payment : Payment}
    (h : lockRequest platform nowMs escrowId escrow = .ok payment) :
    escrow.status = .pending ∧
      generateIntegrityHash platform nowMs escrowId escrow.amount =
        .ok payment.metadata.integrityHash := by
  simp only [lockRequest, bind_eq_ok, throwUnless_eq_ok, decide_eq_true_eq, pure, Except.pure,
    Except.ok.injEq] at h
  obtain ⟨-, hpending, hash, hhash, rfl⟩ := h
  exact ⟨hpending, hhash⟩

theorem lockedEscrow_eq_ok {dateMs : ℤ} {payment : Payment} {txResult : PaymentResult}
    {updated : Escrow} :
    lockedEscrow platform dateMs escrow payment txResult = .ok updated ↔
      (txResult.transactionId.isSome || platform.ignoreUndefinedProperties) = true ∧
        { escrow with
          status := .locked
          transactionId := txResult.transactionId
          integrityHash := payment.metadata.integrityHash
          lockedAt := some dateMs } = updated := by
  simp [lockedEscrow, bind_eq_ok, pure, Except.pure]

theorem transactionOrThrow_eq_ok {message txnId : String} :
    transactionOrThrow message escrow = .ok txnId ↔
      escrow.transactionId = some txnId ∧ txnId ≠ "" := by
  simp [transactionOrThrow, Option.filter_eq_some_iff]

theorem releaseRequest_eq_ok {txnId : String} :
    releaseRequest escrow = .ok txnId ↔
      escrow.status = .locked ∧ escrow.transactionId = some txnId ∧ txnId ≠ "" := by
  simp [releaseRequest, bind_eq_ok, transactionOrThrow_eq_ok]

theorem refundRequest_eq_ok {txnId : String} :
    refundRequest escrow = .ok txnId ↔
      (escrow.transactionId = some txnId ∧ txnId ≠ "") ∧ escrow.status ≠ .refunded := by
  simp only [refundRequest, bind_eq_ok, transactionOrThrow_eq_ok, throwUnless_eq_ok,
    decide_eq_true_eq, pure, Except.pure, Except.ok.injEq]
  constructor
  · rintro ⟨_, htxn, _, hstatus, rfl⟩
    exact ⟨htxn, hstatus⟩
  · rintro ⟨htxn, hstatus⟩
    exact ⟨txnId, htxn, (), hstatus, rfl⟩

theorem disputeGuard_eq_ok {u : Unit} :
    disputeGuard escrow = .ok u ↔ escrow.status ≠ .released ∧ escrow.status ≠ .refunded := by
  simp [disputeGuard]

/-- An operation that gets through: what its checks found, what the provider answered, and what
it writes back. -/
inductive Operates (platform : EscrowPlatform) (escrowId : String) (call : EscrowCall)
    (escrow : Escrow) : Option ProviderRequest → Escrow → Prop
  | lock (payment : Payment) (txResult : PaymentResult) (updated : Escrow)
      (op : call.op = .lock)
      (request : lockRequest platform call.hashMs escrowId escrow = .ok payment)
      (answer : call.provider.initializePayment payment = .ok txResult)
      (written : lockedEscrow platform call.dateMs escrow payment txResult = .ok updated) :
      Operates platform escrowId call escrow (some (.initializePayment payment)) updated
  | release (txnId : String) (op : call.op = .release)
      (request : releaseRequest escrow = .ok txnId)
      (answer : call.provider.verifyTransaction txnId = .ok true) :
      Operates platform escrowId call escrow (some (.verifyTransaction txnId))
        { escrow with status := .released, releasedAt := some call.dateMs }
  | refund (txnId : String) (reason : JsValue) (op : call.op = .refund reason)
      (request : refundRequest escrow = .ok txnId)
      (answer : call.provider.initiateRefund txnId = .ok true) :
      Operates platform escrowId call escrow (some (.initiateRefund txnId))
        { escrow with
          status := .refunded
          refundedAt := some call.dateMs
          metadata := refundMetadata reason escrow.metadata }
  | dispute (reason : JsValue) (op : call.op = .dispute reason)
      (request : disputeGuard escrow = .ok ()) :
      Operates platform escrowId call escrow none (disputedEscrow reason call.isoDate escrow)

theorem operates_iff {request : Option ProviderRequest} {updated : Escrow} :
    Operates platform escrowId call escrow request updated ↔
      call.request platform escrowId escrow = .ok request ∧
        call.updated platform escrow request = .ok updated := by
  constructor
  · intro h
    cases h with
    | lock payment txResult updated op request answer written =>
        simp [EscrowCall.request, EscrowCall.updated, op, request, answer, written, bind,
          Except.bind, Except.map]
    | release txnId op request answer =>
        simp [EscrowCall.request, EscrowCall.updated, op, request, answer, bind, Except.bind,
          Except.map, releasedEscrow, throwUnless, pure, Except.pure]
    | refund txnId reason op request answer =>
        simp [EscrowCall.request, EscrowCall.updated, EscrowCall.reason, op, request, answer, bind,
          Except.bind, Except.map, refundedEscrow, throwUnless, pure, Except.pure]
    | dispute reason op request =>
        simp [EscrowCall.request, EscrowCall.updated, EscrowCall.reason, op, request, Except.map,
          pure, Except.pure]
  · rintro ⟨hrequest, hupdated⟩
    cases hop : call.op with
    | lock =>
        simp only [EscrowCall.request, hop, map_eq_ok] at hrequest
        obtain ⟨payment, hpayment, rfl⟩ := hrequest
        simp only [EscrowCall.updated, bind_eq_ok] at hupdated
        obtain ⟨txResult, hanswer, hwritten⟩ := hupdated
        exact .lock payment txResult updated hop hpayment hanswer hwritten
    | release =>
        simp only [EscrowCall.request, hop, map_eq_ok] at hrequest
        obtain ⟨txnId, htxn, rfl⟩ := hrequest
        simp only [EscrowCall.updated, releasedEscrow, bind_eq_ok, throwUnless_eq_ok, pure,
          Except.pure, Except.ok.injEq] at hupdated
        obtain ⟨_, hanswer, _, rfl, rfl⟩ := hupdated
        exact .release txnId hop htxn hanswer
    | refund reason =>
        simp only [EscrowCall.request, hop, map_eq_ok] at hrequest
        obtain ⟨txnId, htxn, rfl⟩ := hrequest
        simp only [EscrowCall.updated, EscrowCall.reason, hop, refundedEscrow, bind_eq_ok,
          throwUnless_eq_ok, pure, Except.pure, Except.ok.injEq] at hupdated
        obtain ⟨_, hanswer, _, rfl, rfl⟩ := hupdated
        exact .refund txnId reason hop htxn hanswer
    | dispute reason =>
        simp only [EscrowCall.request, hop, map_eq_ok] at hrequest
        obtain ⟨_, hguard, rfl⟩ := hrequest
        simp only [EscrowCall.updated, EscrowCall.reason, hop, pure, Except.pure,
          Except.ok.injEq] at hupdated
        subst hupdated
        exact .dispute reason hop hguard

theorem read_toCall_eq_ok {asked : Escrow × Option ProviderRequest} :
    (call.toCall platform escrowId).read escrow = .ok asked ↔
      asked.1 = escrow ∧ call.request platform escrowId escrow = .ok asked.2 := by
  simp only [EscrowCall.toCall, map_eq_ok]
  constructor
  · rintro ⟨request, hrequest, rfl⟩
    exact ⟨rfl, hrequest⟩
  · rintro ⟨rfl, hrequest⟩
    exact ⟨asked.2, hrequest, rfl⟩

/-- An operation with nothing in between gets through exactly where its parts do. -/
theorem atomic_toCall_eq_ok {doc' updated : Escrow} :
    (call.toCall platform escrowId).atomic escrow = .ok (doc', updated) ↔
      (∃ request, Operates platform escrowId call escrow request updated) ∧
        escrow.update updated = doc' := by
  simp only [Call.atomic, bind_eq_ok, read_toCall_eq_ok, operates_iff, pure, Except.pure,
    Except.ok.injEq, Prod.mk.injEq]
  constructor
  · rintro ⟨⟨_, request⟩, ⟨rfl, hrequest⟩, _, hupdated, rfl, rfl⟩
    exact ⟨⟨request, hrequest, hupdated⟩, rfl⟩
  · rintro ⟨⟨request, hrequest, hupdated⟩, rfl⟩
    exact ⟨(escrow, request), ⟨rfl, hrequest⟩, updated, hupdated, rfl, rfl⟩

variable {escrows : Escrows}

theorem operate_of_operates {doc updated : Escrow} {request : Option ProviderRequest}
    (hdoc : escrows.get? escrowId = some doc)
    (h : Operates platform escrowId call doc request updated) :
    operate platform escrowId call escrows =
      (escrows.set escrowId (doc.update updated), .ok updated) := by
  have hatomic := atomic_toCall_eq_ok.2 ⟨⟨request, h⟩, rfl⟩
  simp [operate, hdoc, hatomic]

/-- An operation throws and leaves the documents, or gets through on the one it names. -/
theorem operate_cases (platform : EscrowPlatform) (escrowId : String) (call : EscrowCall)
    (escrows : Escrows) :
    (∃ message, operate platform escrowId call escrows = (escrows, .error message)) ∨
      ∃ doc request updated, escrows.get? escrowId = some doc ∧
        Operates platform escrowId call doc request updated ∧
        operate platform escrowId call escrows =
          (escrows.set escrowId (doc.update updated), .ok updated) := by
  cases hdoc : escrows.get? escrowId with
  | none => exact .inl ⟨_, by rw [operate, hdoc]⟩
  | some doc =>
      cases hatomic : (call.toCall platform escrowId).atomic doc with
      | error message => exact .inl ⟨message, by simp [operate, hdoc, hatomic]⟩
      | ok result =>
          obtain ⟨⟨request, hoperates⟩, -⟩ := atomic_toCall_eq_ok.1 hatomic
          exact .inr ⟨doc, request, _, rfl, hoperates, operate_of_operates hdoc hoperates⟩

end UniverEscrow.Backend
