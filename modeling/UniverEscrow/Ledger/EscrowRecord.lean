import UniverEscrow.Js.Value

/-!
# Escrow records

`EscrowRecord` is a record that passes the type guard of the store: its fields have the
declared types, its status is one of the three and its Numbers are finite.  `LedgerRow` is a
record as a save holds it in memory, where the status and the time locks are still whatever
the caller passed.
-/

namespace UniverEscrow.Ledger

open UniverEscrow.Js

inductive EscrowStatus where
  | LOCKED
  | RELEASED
  | FAILED
deriving DecidableEq

def EscrowStatus.text : EscrowStatus → String
  | .LOCKED => "LOCKED"
  | .RELEASED => "RELEASED"
  | .FAILED => "FAILED"

def EscrowStatus.ofText? (s : String) : Option EscrowStatus :=
  if s = "LOCKED" then some .LOCKED
  else if s = "RELEASED" then some .RELEASED
  else if s = "FAILED" then some .FAILED
  else none

@[simp] theorem EscrowStatus.ofText?_text (status : EscrowStatus) :
    EscrowStatus.ofText? status.text = some status := by
  cases status <;> decide

theorem EscrowStatus.ofText?_eq_some {s : String} {status : EscrowStatus} :
    EscrowStatus.ofText? s = some status ↔ s = status.text := by
  constructor
  · intro h
    unfold ofText? at h
    split_ifs at h with h₁ h₂ h₃ <;> cases h <;> assumption
  · rintro rfl
    exact ofText?_text status

theorem EscrowStatus.text_injective : Function.Injective EscrowStatus.text := by
  intro a b h
  have := congrArg EscrowStatus.ofText? h
  simpa using this

structure EscrowRecord where
  transactionId : String
  escrowRecordLeafHash : String
  signature : String
  status : EscrowStatus
  validAfterMs : Binary64
  validUntilMs : Binary64
  timestamp : String
deriving DecidableEq

structure LedgerRow where
  transactionId : String
  escrowRecordLeafHash : String
  signature : String
  status : JsValue
  validAfterMs : JsValue
  validUntilMs : JsValue
  timestamp : String

def EscrowRecord.toRow (record : EscrowRecord) : LedgerRow where
  transactionId := record.transactionId
  escrowRecordLeafHash := record.escrowRecordLeafHash
  signature := record.signature
  status := record.status.text
  validAfterMs := .num (.fin record.validAfterMs)
  validUntilMs := .num (.fin record.validUntilMs)
  timestamp := record.timestamp

/-- The object written to the store file, members in the order the normaliser lists them. -/
def LedgerRow.toJs (row : LedgerRow) : JsValue :=
  .obj [("transactionId", row.transactionId),
    ("escrowRecordLeafHash", row.escrowRecordLeafHash),
    ("signature", row.signature),
    ("status", row.status),
    ("validAfterMs", row.validAfterMs),
    ("validUntilMs", row.validUntilMs),
    ("timestamp", row.timestamp)]

def finiteNumber? (v : JsValue) : Option Binary64 :=
  match v with
  | .num (.fin x) => some x
  | _ => none

/-- The type guard of `readAllRecordsInternal`; an item that fails it is skipped. -/
def EscrowRecord.ofJs? (item : JsValue) : Option EscrowRecord := do
  let transactionId ← (item.get "transactionId").asString?
  let escrowRecordLeafHash ← (item.get "escrowRecordLeafHash").asString?
  let signature ← (item.get "signature").asString?
  let status ← (item.get "status").asString?.bind EscrowStatus.ofText?
  let validAfterMs ← finiteNumber? (item.get "validAfterMs")
  let validUntilMs ← finiteNumber? (item.get "validUntilMs")
  let timestamp ← (item.get "timestamp").asString?
  return { transactionId, escrowRecordLeafHash, signature, status, validAfterMs, validUntilMs,
           timestamp }

theorem finiteNumber?_eq_some {v : JsValue} {x : Binary64} :
    finiteNumber? v = some x ↔ v = .num (.fin x) := by
  unfold finiteNumber?
  split
  · simp
  · rename_i hne
    constructor
    · intro h
      cases h
    · rintro rfl
      exact absurd rfl (hne x)

/-- The guard admits exactly the values that carry the record's fields. -/
theorem EscrowRecord.ofJs?_eq_some {item : JsValue} {record : EscrowRecord} :
    EscrowRecord.ofJs? item = some record ↔
      item.get "transactionId" = .str record.transactionId ∧
      item.get "escrowRecordLeafHash" = .str record.escrowRecordLeafHash ∧
      item.get "signature" = .str record.signature ∧
      item.get "status" = .str record.status.text ∧
      item.get "validAfterMs" = .num (.fin record.validAfterMs) ∧
      item.get "validUntilMs" = .num (.fin record.validUntilMs) ∧
      item.get "timestamp" = .str record.timestamp := by
  simp only [EscrowRecord.ofJs?, Option.bind_eq_bind, Option.bind_eq_some_iff,
    JsValue.asString?_eq_some, EscrowStatus.ofText?_eq_some, finiteNumber?_eq_some]
  constructor
  · rintro ⟨tx, htx, leaf, hleaf, sig, hsig, status, ⟨_, hstatus, rfl⟩, after, hafter, til, huntil,
      time, htime, hreturn⟩
    cases hreturn
    exact ⟨htx, hleaf, hsig, hstatus, hafter, huntil, htime⟩
  · rintro ⟨htx, hleaf, hsig, hstatus, hafter, huntil, htime⟩
    exact ⟨_, htx, _, hleaf, _, hsig, _, ⟨_, hstatus, rfl⟩, _, hafter, _, huntil, _, htime, rfl⟩

@[simp] theorem EscrowRecord.ofJs?_viaJson_toRow (record : EscrowRecord) :
    EscrowRecord.ofJs? record.toRow.toJs.viaJson = some record := by
  simp [EscrowRecord.ofJs?, EscrowRecord.toRow, LedgerRow.toJs, JsValue.viaJson,
    JsValue.membersViaJson, JsValue.get, JsNumber.isFinite, finiteNumber?]

end UniverEscrow.Ledger
