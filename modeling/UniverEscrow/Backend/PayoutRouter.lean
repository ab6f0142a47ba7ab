import UniverEscrow.Backend.PaymentService

/-!
# The payout router

A locked handshake whose stored confidence is high enough is paid out over its rail and marked
as released; whatever throws on the way marks it as failed.
-/

namespace UniverEscrow.Backend

open UniverEscrow.Js UniverEscrow.Merkle UniverEscrow.Lib

/-- `0.95` as the source writes it. -/
def confidenceBar : JsNumber := .ofRat (19 / 20)

/-- `!(aiConfidence <= 0.95)`. -/
def meetsBar (aiConfidence : Binary64) : Bool := !JsNumber.le (.fin aiConfidence) confidenceBar

/-- One call: its two readings of the clock, and the outcome of the rail's client, which the source
leaves as a comment (`.ok ()` is the code as it stands). -/
structure ProcessCall where
  txMs : ℤ
  releasedMs : ℤ
  rail : Except String Unit

structure ProcessResult where
  handshakeId : String
  route : PayoutRoute
  status : PayoutHandshakeStatus
  processedReleaseTxId : Option String

def PayoutHandshake.processResult (row : PayoutHandshake) : ProcessResult :=
  ⟨row.handshakeId, row.route, row.status, row.processedReleaseTxId⟩

def preflight (handshakeId : String) (handshakes : Handshakes) :
    Except String PayoutHandshake := do
  let handshake ← orThrow "HANDSHAKE_NOT_FOUND" (handshakes.get? handshakeId)
  throwUnless (handshake.status = .locked) "HANDSHAKE_NOT_LOCKED"
  throwUnless (meetsBar handshake.aiConfidence) "AI_CONFIDENCE_TOO_LOW"
  return handshake

def releaseTxId (handshake : PayoutHandshake) (nowMs : ℤ) : String :=
  "rel_" ++ handshake.handshakeId ++ "_" ++ toString nowMs

/-- The recipient of the route, and the error where it is missing. -/
def PayoutHandshake.recipient (handshake : PayoutHandshake) : Option String × String :=
  match handshake.route with
  | .mpesa => (handshake.mpesaB2CRecipient, "MPESA_RECIPIENT_MISSING")
  | .bank => (handshake.pesaLinkRecipient, "PESALINK_RECIPIENT_MISSING")
  | .usdc => (handshake.circleRecipient, "CIRCLE_RECIPIENT_MISSING")

def executeRouteRelease (rail : Except String Unit) (handshake : PayoutHandshake) :
    Except String Unit := do
  throwUnless (handshake.recipient.1.getD "" ≠ "") handshake.recipient.2
  rail

/-- The row after the release. -/
def releasedByRail (txId : String) (nowMs : ℤ) (row : PayoutHandshake) : PayoutHandshake :=
  { row with
    status := .released
    processedReleaseTxId := some txId
    releasedAt := some nowMs
    failureReason := none }

def releaseByRail (txId : String) (handshakeId : String) (nowMs : ℤ) (handshakes : Handshakes) :
    Except String (Handshakes × PayoutHandshake) :=
  handshakes.updateUnique handshakeId PayoutHandshake.processedReleaseTxId "processedReleaseTxId"
    txId (releasedByRail txId nowMs)

/-- The message is that of a lost race. -/
def isUniqueRace (msg : String) : Bool :=
  includes msg "processedReleaseTxId" || includes msg "Unique constraint"

/-- What a lost race finds: the record that another worker has released. -/
def releasedRecord (handshakeId : String) (handshakes : Handshakes) : Option ProcessResult :=
  (handshakes.get? handshakeId).bind fun existing =>
    if existing.status = .released then some existing.processResult else none

/-- The row after the mark. -/
def markedFailed (row : PayoutHandshake) : PayoutHandshake :=
  { row with
    status := .failed
    failureReason := some "RELEASE_FAILED" }

def markFailed (handshakeId : String) (handshakes : Handshakes) : Handshakes :=
  handshakes.updateMany handshakeId markedFailed

/-- The `catch`. -/
def recoverRelease (handshakeId : String) (msg : String) (handshakes : Handshakes) :
    Handshakes × Except String ProcessResult :=
  match if isUniqueRace msg then releasedRecord handshakeId handshakes else none with
  | some result => (handshakes, .ok result)
  | none => (markFailed handshakeId handshakes, .error msg)

def processUniversalHandshake (handshakeId : String) (call : ProcessCall)
    (handshakes : Handshakes) : Handshakes × Except String ProcessResult :=
  match preflight handshakeId handshakes with
  | .error msg => (handshakes, .error msg)
  | .ok handshake =>
      let released := do
        executeRouteRelease call.rail handshake
        releaseByRail (releaseTxId handshake call.txMs) handshakeId call.releasedMs handshakes
      match released with
      | .ok (handshakes, updated) => (handshakes, .ok updated.processResult)
      | .error msg => recoverRelease handshakeId msg handshakes

/-! ## What a call does -/

/-- What the preflight has checked. -/
structure Payable (handshakeId : String) (handshakes : Handshakes) (handshake : PayoutHandshake) :
    Prop where
  found : handshakes.get? handshakeId = some handshake
  locked : handshake.status = .locked
  confident : meetsBar handshake.aiConfidence = true

theorem preflight_eq_ok {handshakeId : String} {handshakes : Handshakes}
    {handshake : PayoutHandshake} :
    preflight handshakeId handshakes = .ok handshake ↔
      Payable handshakeId handshakes handshake := by
  simp only [preflight, bind_eq_ok, orThrow_eq_ok, throwUnless_eq_ok, decide_eq_true_eq]
  constructor
  · rintro ⟨row, hfound, -, hlocked, -, hconfident, heq⟩
    cases heq
    exact ⟨hfound, hlocked, hconfident⟩
  · intro h
    exact ⟨handshake, h.found, (), h.locked, (), h.confident, rfl⟩

theorem updateMany_of_found {handshakes : Handshakes} {handshakeId : String}
    {data : PayoutHandshake → PayoutHandshake} {row : PayoutHandshake}
    (h : handshakes.get? handshakeId = some row) :
    handshakes.updateMany handshakeId data = handshakes.set handshakeId (data row) := by
  rw [Handshakes.updateMany, h]

/-- A locked row is no record of another worker. -/
theorem releasedRecord_of_payable {handshakeId : String} {handshakes : Handshakes}
    {handshake : PayoutHandshake} (h : Payable handshakeId handshakes handshake) :
    releasedRecord handshakeId handshakes = none := by
  simp [releasedRecord, h.found, h.locked]

theorem recoverRelease_of_payable {handshakeId : String} {handshakes : Handshakes}
    {handshake : PayoutHandshake} (h : Payable handshakeId handshakes handshake) (msg : String) :
    recoverRelease handshakeId msg handshakes =
      (handshakes.set handshakeId (markedFailed handshake), .error msg) := by
  rw [recoverRelease, releasedRecord_of_payable h, ite_self, markFailed,
    updateMany_of_found h.found]

/-- The three ways a call goes. -/
inductive Processes (handshakeId : String) (call : ProcessCall) (handshakes : Handshakes) :
    Handshakes × Except String ProcessResult → Prop
  | refused {msg : String} (preflight : preflight handshakeId handshakes = .error msg) :
      Processes handshakeId call handshakes (handshakes, .error msg)
  | released {handshake : PayoutHandshake} (payable : Payable handshakeId handshakes handshake)
      (paid : executeRouteRelease call.rail handshake = .ok ())
      (fresh : handshakes.takenElsewhere handshakeId PayoutHandshake.processedReleaseTxId
        (releaseTxId handshake call.txMs) = false) :
      Processes handshakeId call handshakes
        (handshakes.set handshakeId
          (releasedByRail (releaseTxId handshake call.txMs) call.releasedMs handshake),
        .ok (releasedByRail (releaseTxId handshake call.txMs) call.releasedMs
          handshake).processResult)
  | failed {handshake : PayoutHandshake} {msg : String}
      (payable : Payable handshakeId handshakes handshake) :
      Processes handshakeId call handshakes
        (handshakes.set handshakeId (markedFailed handshake), .error msg)

theorem processes (handshakeId : String) (call : ProcessCall) (handshakes : Handshakes) :
    Processes handshakeId call handshakes
      (processUniversalHandshake handshakeId call handshakes) := by
  rw [processUniversalHandshake]
  cases hpre : preflight handshakeId handshakes with
  | error msg => exact .refused hpre
  | ok handshake =>
      have hpayable := preflight_eq_ok.1 hpre
      cases hrail : executeRouteRelease call.rail handshake with
      | error msg =>
          simp only [hrail, bind, Except.bind, recoverRelease_of_payable hpayable]
          exact .failed hpayable
      | ok u =>
          cases hwrite : releaseByRail (releaseTxId handshake call.txMs) handshakeId
              call.releasedMs handshakes with
          | error msg =>
              simp only [hrail, bind, Except.bind, hwrite, recoverRelease_of_payable hpayable]
              exact .failed hpayable
          | ok written =>
              obtain ⟨after, row⟩ := written
              obtain ⟨hfresh, before, hbefore, hrow, hafter⟩ := updateUnique_eq_ok.1 hwrite
              rw [hpayable.found] at hbefore
              rw [← Option.some.inj hbefore] at hrow
              simp only [hrail, bind, Except.bind, hwrite, ← hrow, ← hafter]
              exact .released hpayable hrail hfresh

/-- A call that passes the checks, is paid and has a token of its own releases the handshake. -/
theorem process_of_payable {handshakeId : String} {call : ProcessCall} {handshakes : Handshakes}
    {handshake : PayoutHandshake} (payable : Payable handshakeId handshakes handshake)
    (paid : executeRouteRelease call.rail handshake = .ok ())
    (fresh : handshakes.takenElsewhere handshakeId PayoutHandshake.processedReleaseTxId
      (releaseTxId handshake call.txMs) = false) :
    ∃ result, (processUniversalHandshake handshakeId call handshakes).2 = .ok result := by
  have hwrite : releaseByRail (releaseTxId handshake call.txMs) handshakeId call.releasedMs
      handshakes = .ok _ := updateUnique_eq_ok.2 ⟨fresh, handshake, payable.found, rfl, rfl⟩
  rw [processUniversalHandshake, preflight_eq_ok.2 payable]
  simp only [paid, bind, Except.bind, hwrite]
  exact ⟨_, rfl⟩

/-! ## The bar -/

theorem confidenceBar_isFinite : confidenceBar.isFinite = true := by decide +kernel

theorem meetsBar_iff (aiConfidence : Binary64) :
    meetsBar aiConfidence = true ↔ JsNumber.lt confidenceBar (.fin aiConfidence) = true := by
  have hfinite := confidenceBar_isFinite
  unfold meetsBar
  cases hbar : confidenceBar with
  | fin bar =>
      simp only [JsNumber.le, JsNumber.lt, JsNumber.strictEq]
      have htotal : aiConfidence = bar ↔ aiConfidence.val = bar.val :=
        ⟨fun h => h ▸ rfl, Binary64.ext_val⟩
      simp only [Bool.not_eq_true', Bool.or_eq_false_iff, decide_eq_false_iff_not, not_lt,
        decide_eq_true_eq, Bool.and_eq_false_iff, ne_eq, reduceCtorEq, not_false_eq_true,
        not_true_eq_false, false_or, JsNumber.fin.injEq, htotal]
      exact ⟨fun h => lt_of_le_of_ne h.1 (Ne.symm h.2), fun h => ⟨h.le, h.ne'⟩⟩
  | nan => rw [hbar] at hfinite; cases hfinite
  | posInf => rw [hbar] at hfinite; cases hfinite
  | negInf => rw [hbar] at hfinite; cases hfinite

end UniverEscrow.Backend
