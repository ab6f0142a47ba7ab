import UniverEscrow.Ledger.SaveCoherence
import UniverEscrow.Router.AppendEntry

/-!
# What identifies a lock

The id of a lock is cut off after sixteen bytes of the text its signature covers; locks whose
texts begin alike share an id, and the later one replaces the record of the earlier.
-/

namespace UniverEscrow.Router

open UniverEscrow.Js UniverEscrow.Enclave UniverEscrow.Ledger UniverEscrow.Merkle
open UniverEscrow.Consensus UniverEscrow.Lib.Run UniverEscrow.Lib.KeyedList

/-! ## Ids -/

/-- The text the signature of a lock request covers. -/
def validationString? (body : JsValue) : Option String := do
  let tenantText ← (body.get "tenantId").toText
  let accountText ← (body.get "account").toText
  let amountText ← (body.get "amount").toText
  return tenantText ++ ":" ++ accountText ++ ":" ++ amountText

def utf8Bytes (s : String) : List UInt8 := s.toList.flatMap String.utf8EncodeChar

theorem digitChar_injOn {m n : ℕ} (hm : m < 16) (hn : n < 16)
    (h : Nat.digitChar m = Nat.digitChar n) : m = n := by
  have hall : ∀ i j : Fin 16, Nat.digitChar i = Nat.digitChar j → i = j := by decide
  exact congrArg Fin.val (hall ⟨m, hm⟩ ⟨n, hn⟩ h)

theorem hexByte_injective : Function.Injective hexByte := by
  intro a b h
  simp only [hexByte, List.cons.injEq, and_true] at h
  have ha := a.toNat_lt
  have hb := b.toNat_lt
  have hhigh := digitChar_injOn (by omega) (by omega) h.1
  have hlow := digitChar_injOn (by omega) (by omega) h.2
  apply UInt8.toNat_inj.1
  omega

theorem flatMap_hexByte_injective {xs ys : List UInt8}
    (h : xs.flatMap hexByte = ys.flatMap hexByte) : xs = ys := by
  induction xs generalizing ys with
  | nil =>
      cases ys with
      | nil => rfl
      | cons y ys => simp [hexByte] at h
  | cons x xs ih =>
      cases ys with
      | nil => simp [hexByte] at h
      | cons y ys =>
          rw [List.flatMap_cons, List.flatMap_cons] at h
          obtain ⟨hhead, htail⟩ := List.append_inj h rfl
          rw [hexByte_injective hhead, ih htail]

/-- A cut between two bytes of the hexadecimal text is a cut between the bytes. -/
theorem take_flatMap_hexByte (n : ℕ) (bytes : List UInt8) :
    (bytes.flatMap hexByte).take (2 * n) = (bytes.take n).flatMap hexByte := by
  induction bytes generalizing n with
  | nil => simp
  | cons b bytes ih =>
      cases n with
      | zero => rfl
      | succ n =>
          have hcut : 2 * (n + 1) = (hexByte b).length + 2 * n := by
            rw [show (hexByte b).length = 2 from rfl]
            omega
          rw [List.flatMap_cons, hcut, List.take_length_add_append, ih, List.take_succ_cons,
            List.flatMap_cons]

theorem toList_utf8Hex (s : String) : (utf8Hex s).toList = (utf8Bytes s).flatMap hexByte :=
  String.toList_ofList

theorem toList_sliceTo (n : ℕ) (s : String) : (sliceTo n s).toList = s.toList.take n :=
  String.toList_ofList

theorem lockTransactionId_eq_iff {a b : String} :
    lockTransactionId a = lockTransactionId b ↔
      (utf8Bytes a).take 16 = (utf8Bytes b).take 16 := by
  have htext (s : String) : (lockTransactionId s).toList =
      "tx_".toList ++ ((utf8Bytes s).take 16).flatMap hexByte := by
    have hcut : ((utf8Bytes s).flatMap hexByte).take 32 = ((utf8Bytes s).take 16).flatMap hexByte :=
      take_flatMap_hexByte 16 (utf8Bytes s)
    rw [lockTransactionId, String.toList_append, toList_sliceTo, toList_utf8Hex, hcut]
  constructor
  · intro h
    have hchars := congrArg String.toList h
    rw [htext, htext] at hchars
    exact flatMap_hexByte_injective (List.append_cancel_left hchars)
  · intro h
    apply String.toList_inj.1
    rw [htext, htext, h]

/-! ## Accepted requests -/

def lockedRecord (canonical signature : String) (validAfterMs validUntilMs : Binary64)
    (timestamp : IsoTime) : EscrowRecord where
  transactionId := lockTransactionId canonical
  escrowRecordLeafHash := "PENDING"
  signature := signature
  status := .LOCKED
  validAfterMs := validAfterMs
  validUntilMs := validUntilMs
  timestamp := timestamp.text

def lockReceipt (canonical : String) (body : JsValue) : Response :=
  ⟨201, .obj [("status", "SUCCESS"),
    ("receipt", .obj [("transactionId", lockTransactionId canonical),
      ("tenantId", body.get "tenantId"), ("account", body.get "account"),
      ("amount", body.get "amount")])]⟩

variable {platform : Platform} {clock : RequestClock} {body : JsValue} {node : Node}

theorem rsa_of_verifySignatureInEnclave (bridge : EnclaveBridge)
    {rsa : RsaVerify} {payload signature publicKey : String}
    (h : bridge.verifySignatureInEnclave rsa payload signature publicKey = .ok true) :
    rsa publicKey payload signature = some true := by
  unfold EnclaveBridge.verifySignatureInEnclave at h
  split_ifs at h
  simp only [Except.ok.injEq, verifySignature, Bool.and_eq_true, Option.getD_eq_iff] at h
  obtain ⟨-, h | ⟨-, h⟩⟩ := h
  · exact h
  · cases h

theorem finiteNumbers_eq_ok {a b : JsValue} {x y : Binary64} (h : finiteNumbers a b = .ok (x, y)) :
    a = .num (.fin x) ∧ b = .num (.fin y) := by
  unfold finiteNumbers at h
  split at h
  · rename_i ha hb
    cases h
    exact ⟨finiteNumber?_eq_some.1 ha, finiteNumber?_eq_some.1 hb⟩
  · cases h

/-- What the handler saves and answers for a request that passes its checks, and what its
signature has been verified for. -/
theorem lockRecord_eq_ok {record : JsValue} {receipt : Response}
    (h : lockRecord platform clock body node = .ok (record, receipt)) :
    ∃ canonical signature publicKey validAfterMs validUntilMs,
      validationString? body = some canonical ∧
      (body.get "signature").toText = some signature ∧
      (body.get "publicKey").toText = some publicKey ∧
      body.get "validAfterMs" = .num (.fin validAfterMs) ∧
      body.get "validUntilMs" = .num (.fin validUntilMs) ∧
      platform.rsa publicKey canonical signature = some true ∧
      record = (lockedRecord canonical signature validAfterMs validUntilMs
        clock.timestamp).toRow.toJs ∧
      receipt = lockReceipt canonical body := by
  simp only [lockRecord, bind_eq_ok, answerUnless_eq_ok, orAnswer_eq_ok] at h
  obtain ⟨-, -, ⟨validAfterMs, validUntilMs⟩, hlocks, -, -, tenant, htenant, account, haccount,
    amount, hamount, signature, hsignature, publicKey, hpublicKey, verified, hverified, -,
    rfl, hreturn⟩ := h
  obtain ⟨hafter, huntil⟩ := finiteNumbers_eq_ok hlocks
  have hrsa : platform.rsa publicKey (tenant ++ ":" ++ account ++ ":" ++ amount) signature =
      some true := by
    apply rsa_of_verifySignatureInEnclave node.bridge
    revert hverified
    cases node.bridge.verifySignatureInEnclave platform.rsa
        (tenant ++ ":" ++ account ++ ":" ++ amount) signature publicKey with
    | error message => simp [Except.mapError]
    | ok verdict => simp [Except.mapError]
  cases hreturn
  refine ⟨_, signature, publicKey, validAfterMs, validUntilMs, ?_, hsignature, hpublicKey, hafter,
    huntil, hrsa, rfl, rfl⟩
  simp [validationString?, htenant, haccount, hamount]

/-! ## Runs of lock requests -/

structure LockRequest where
  clock : RequestClock
  body : JsValue

/-- A node, with the bodies of the requests that have passed its checks and the records made of
them. -/
structure LockRun where
  node : Node
  accepted : List (JsValue × JsValue)

def lockTriple (body : JsValue) : JsValue × JsValue × JsValue :=
  (body.get "tenantId", body.get "account", body.get "amount")

/-- The bytes of the covered text that reach the id. -/
def lockPrefix (body : JsValue) : Option (List UInt8) :=
  (validationString? body).map fun canonical => (utf8Bytes canonical).take 16

namespace LockRun

variable (platform : Platform)

def step (run : LockRun) (request : LockRequest) : LockRun where
  node := (lock platform request.clock request.body run.node).1
  accepted := run.accepted ++
    match lockRecord platform request.clock request.body run.node with
    | .ok (record, _) => [(request.body, record)]
    | .error _ => []

/-- The request passes validation and signature verification. -/
def Accepts (run : LockRun) (request : LockRequest) (record : JsValue) : Prop :=
  ∃ receipt, lockRecord platform request.clock request.body run.node = .ok (record, receipt)

/-- A request that passes gets an id of its own among the accepted ones with another triple,
and what is stored under theirs stays. -/
def KeepsOthers (run : LockRun) (request : LockRequest) : Prop :=
  ∀ record, run.Accepts platform request record →
    ∀ earlier ∈ run.accepted, lockTriple earlier.1 ≠ lockTriple request.body →
      earlier.2.get "transactionId" ≠ record.get "transactionId" ∧
        storedUnder (earlier.2.get "transactionId")
            (run.step platform request).node.auditor.store =
          storedUnder (earlier.2.get "transactionId") run.node.auditor.store

/-- A request that passes differs in the first sixteen bytes of the covered text from the
accepted ones with another triple. -/
def OwnPrefix (run : LockRun) (request : LockRequest) : Prop :=
  (∃ record, run.Accepts platform request record) →
    ∀ earlier ∈ run.accepted, lockTriple earlier.1 ≠ lockTriple request.body →
      lockPrefix earlier.1 ≠ lockPrefix request.body

/-- The records of accepted requests carry the ids of their covered texts. -/
def Identified (run : LockRun) : Prop :=
  ∀ accepted ∈ run.accepted, ∃ canonical, validationString? accepted.1 = some canonical ∧
    accepted.2.get "transactionId" = .str (lockTransactionId canonical)

variable {platform} {run : LockRun} {request : LockRequest}

theorem accepts_of_isOk
    (h : (lockRecord platform request.clock request.body run.node).isOk = true) :
    ∃ record, run.Accepts platform request record := by
  cases hrecord : lockRecord platform request.clock request.body run.node with
  | error response =>
      rw [hrecord] at h
      cases h
  | ok result => exact ⟨result.1, result.2, hrecord⟩

theorem mem_accepted_step {record : JsValue} (h : run.Accepts platform request record) :
    (request.body, record) ∈ (run.step platform request).accepted := by
  obtain ⟨receipt, hrecord⟩ := h
  simp [LockRun.step, hrecord]

theorem identified_start : Identified ⟨node, []⟩ := by
  rintro accepted ⟨⟩

theorem Accepts.identified {record : JsValue} (h : run.Accepts platform request record) :
    ∃ canonical, validationString? request.body = some canonical ∧
      record.get "transactionId" = .str (lockTransactionId canonical) := by
  obtain ⟨receipt, h⟩ := h
  obtain ⟨canonical, _, _, _, _, hcanonical, -, -, -, -, -, rfl, -⟩ := lockRecord_eq_ok h
  exact ⟨canonical, hcanonical, rfl⟩

theorem Identified.step (h : run.Identified) (request : LockRequest) :
    (run.step platform request).Identified := by
  intro accepted hmem
  rcases List.mem_append.1 hmem with hmem | hmem
  · exact h accepted hmem
  · split at hmem
    · rename_i record receipt hrecord
      rw [List.mem_singleton.1 hmem]
      exact Accepts.identified ⟨receipt, hrecord⟩
    · cases hmem

/-- Two ids agree exactly when the covered texts agree in their first sixteen bytes. -/
theorem lockPrefix_eq_iff {a b : JsValue} {s t : String} (ha : validationString? a = some s)
    (hb : validationString? b = some t) :
    lockPrefix a = lockPrefix b ↔ lockTransactionId s = lockTransactionId t := by
  rw [lockPrefix, lockPrefix, ha, hb, Option.map_some, Option.map_some, Option.some.injEq,
    lockTransactionId_eq_iff]

/-- A lock writes under no id but its own. -/
theorem storedUnder_step {record : JsValue} (haccepts : run.Accepts platform request record)
    {transactionId : String} (hne : JsValue.str transactionId ≠ record.get "transactionId") :
    storedUnder (.str transactionId) (run.step platform request).node.auditor.store =
      storedUnder (.str transactionId) run.node.auditor.store := by
  obtain ⟨receipt, hrecord⟩ := haccepts
  obtain ⟨canonical, signature, _, validAfterMs, validUntilMs, -, -, -, -, -, -, rfl, -⟩ :=
    lockRecord_eq_ok hrecord
  have hid : transactionId ≠ (lockedRecord canonical signature validAfterMs validUntilMs
      request.clock.timestamp).transactionId := fun h => hne (congrArg JsValue.str h)
  have hsave := storedUnder_saveStep platform.sha256 run.node.auditor.store
    request.clock.updatedAt hid
  have hstore (record : JsValue) :
      (run.node.saveRecord platform request.clock record).1.auditor.store =
        saveStep platform.sha256 run.node.auditor.store ⟨record, request.clock.updatedAt⟩ := rfl
  simp only [LockRun.step, lock, hrecord]
  cases lockGate run.node with
  | error response => rfl
  | ok u =>
      rw [← hsave, ← hstore]
      dsimp only
      split
      · rename_i node hnode
        rw [hnode]
      · rename_i node failure hnode
        rw [hnode]

theorem ownPrefix_of_keepsOthers (hrun : run.Identified) (h : run.KeepsOthers platform request) :
    run.OwnPrefix platform request := by
  rintro ⟨record, haccepts⟩ earlier hearlier htriple hstart
  obtain ⟨s, hs, hsid⟩ := hrun earlier hearlier
  obtain ⟨t, ht, htid⟩ := haccepts.identified
  have hid := (h record haccepts earlier hearlier htriple).1
  rw [hsid, htid, (lockPrefix_eq_iff hs ht).1 hstart] at hid
  exact hid rfl

theorem keepsOthers_of_ownPrefix (hrun : run.Identified) (h : run.OwnPrefix platform request) :
    run.KeepsOthers platform request := by
  intro record haccepts earlier hearlier htriple
  obtain ⟨s, hs, hsid⟩ := hrun earlier hearlier
  obtain ⟨t, ht, htid⟩ := haccepts.identified
  have hstart := h ⟨record, haccepts⟩ earlier hearlier htriple
  have hne : earlier.2.get "transactionId" ≠ record.get "transactionId" := by
    rw [hsid, htid]
    intro heq
    exact hstart ((lockPrefix_eq_iff hs ht).2 (JsValue.str.inj heq))
  refine ⟨hne, ?_⟩
  rw [hsid] at hne ⊢
  exact storedUnder_step haccepts hne

end LockRun

/-- In every run of lock requests, accepted locks of different triples have different ids and
leave each other's records alone exactly when their covered texts differ in the first sixteen
bytes. -/
theorem locks_distinct_iff (platform : Platform) (node : Node) (requests : List LockRequest) :
    EachStep (LockRun.step platform) (fun run request => run.KeepsOthers platform request)
        ⟨node, []⟩ requests ↔
      EachStep (LockRun.step platform) (fun run request => run.OwnPrefix platform request)
        ⟨node, []⟩ requests := by
  constructor
  · exact eachStep_of_invariant LockRun.Identified (fun run request h => h.step request)
      (fun run request hrun h => LockRun.ownPrefix_of_keepsOthers hrun h)
      LockRun.identified_start
  · exact eachStep_of_invariant LockRun.Identified (fun run request h => h.step request)
      (fun run request hrun h => LockRun.keepsOthers_of_ownPrefix hrun h)
      LockRun.identified_start

/-! ## Two accounts of one tenant -/

def lockBody (account : String) (amount : JsValue) (signature : String) (validUntilMs : ℤ) :
    JsValue :=
  .obj [("tenantId", "merchant-tenant-1"), ("account", account), ("amount", amount),
    ("signature", signature), ("publicKey", "key"), ("validAfterMs", .num (.ofInt 0)),
    ("validUntilMs", .num (.ofInt validUntilMs))]

def lockOfA : LockRequest :=
  ⟨appendClock, lockBody "acct-a" (.num (.ofInt 50)) "0a" 1767225600000⟩

def lockOfB : LockRequest :=
  ⟨appendClock, lockBody "acct-b" (.num (.ofInt 75)) "0b" 1767225600000⟩

/-- The key has signed two texts. -/
def lockPlatform : Platform :=
  { appendPlatform with
    rsa := fun publicKey data signature => some (publicKey = "key" &&
      ((data = "merchant-tenant-1:acct-a:50" && signature = "0a") ||
        (data = "merchant-tenant-1:acct-b:75" && signature = "0b"))) }

def lockedA : LockRun := LockRun.step lockPlatform ⟨openNode, []⟩ lockOfA

def lockedB : LockRun := LockRun.step lockPlatform lockedA lockOfB

theorem lockTriple_lockOfA_ne : lockTriple lockOfA.body ≠ lockTriple lockOfB.body := by
  intro h
  have haccount : JsValue.str "acct-a" = .str "acct-b" := congrArg (fun t => t.2.1) h
  exact absurd (JsValue.str.inj haccount) (by decide)

/-- Both locks succeed, under one id, and the second replaces the record of the first. -/
theorem second_lock_replaces_first :
    (lock lockPlatform appendClock lockOfA.body openNode).2.code = 201 ∧
      (lock lockPlatform appendClock lockOfB.body lockedA.node).2.code = 201 ∧
      (storedUnder "tx_6d65726368616e742d74656e616e742d" lockedA.node.auditor.store).map
        EscrowRecord.signature = some "0a" ∧
      (storedUnder "tx_6d65726368616e742d74656e616e742d" lockedB.node.auditor.store).map
        EscrowRecord.signature = some "0b" ∧
      ¬ EachStep (LockRun.step lockPlatform)
        (fun run request => run.KeepsOthers lockPlatform request) ⟨openNode, []⟩
        [lockOfA, lockOfB] := by
  -- one evaluation of both locks for the four facts
  have hlocks : (lock lockPlatform appendClock lockOfA.body openNode).2.code = 201 ∧
      (lock lockPlatform appendClock lockOfB.body lockedA.node).2.code = 201 ∧
      (storedUnder "tx_6d65726368616e742d74656e616e742d" lockedA.node.auditor.store).map
        EscrowRecord.signature = some "0a" ∧
      (storedUnder "tx_6d65726368616e742d74656e616e742d" lockedB.node.auditor.store).map
        EscrowRecord.signature = some "0b" := by
    decide +kernel
  obtain ⟨hcodeA, hcodeB, hstoredA, hstoredB⟩ := hlocks
  refine ⟨hcodeA, hcodeB, hstoredA, hstoredB, ?_⟩
  rintro ⟨-, hB, -⟩
  obtain ⟨recordA, hacceptsA⟩ : ∃ record,
      LockRun.Accepts lockPlatform ⟨openNode, []⟩ lockOfA record :=
    LockRun.accepts_of_isOk (by decide +kernel)
  have hidentified : lockedA.Identified := LockRun.identified_start.step lockOfA
  have hown := LockRun.ownPrefix_of_keepsOthers hidentified hB
  have hstart : lockPrefix lockOfA.body = lockPrefix lockOfB.body := by decide +kernel
  exact hown (LockRun.accepts_of_isOk (by decide +kernel)) (lockOfA.body, recordA)
    (LockRun.mem_accepted_step hacceptsA) lockTriple_lockOfA_ne hstart

end UniverEscrow.Router
