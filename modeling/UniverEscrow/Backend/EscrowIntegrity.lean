import Mathlib
import UniverEscrow.Backend.EscrowStateMachine
import UniverEscrow.Js.NumberRoundTrip
import UniverEscrow.Lib.Delimited

/-!
# The integrity hash of an escrow

The hash is made of the id, the amount and the time of the lock, and the check computes it again
with its own time.  So it passes only within the millisecond of the lock; before the lock there is
no hash, and comparing with it throws.
-/

namespace UniverEscrow.Backend

open UniverEscrow.Js UniverEscrow.Merkle UniverEscrow.Lib

/-- What is hashed of an escrow. -/
def integrityPayload (escrowId amount : String) (nowMs : ℤ) : String :=
  escrowId ++ ":" ++ amount ++ ":" ++ toString nowMs

/-! ## The payload tells its parts apart -/

theorem colon_notMem_repr (t : ℤ) : ':' ∉ t.repr.toList := by
  have hdigits : ∀ n : ℕ, ':' ∉ n.repr.toList := by
    intro n h
    rw [Nat.toList_repr] at h
    exact absurd (Nat.isDigit_of_mem_toDigits (by decide) (by decide) h) (by decide)
  rw [Int.repr_eq_if]
  split_ifs
  · exact hdigits _
  · rw [String.toList_append, List.mem_append, not_or]
    exact ⟨by decide, hdigits _⟩

theorem toList_integrityPayload (escrowId amount : String) (nowMs : ℤ) :
    (integrityPayload escrowId amount nowMs).toList =
      (escrowId.toList ++ ':' :: amount.toList) ++ ':' :: nowMs.repr.toList := by
  simp [integrityPayload, String.toList_append, Int.toString_eq_repr]

theorem nowMs_of_integrityPayload_eq {escrowId escrowId' amount amount' : String} {t t' : ℤ}
    (h : integrityPayload escrowId amount t = integrityPayload escrowId' amount' t') :
    escrowId.toList ++ ':' :: amount.toList = escrowId'.toList ++ ':' :: amount'.toList ∧
      t = t' := by
  have hlist := congrArg String.toList h
  rw [toList_integrityPayload, toList_integrityPayload] at hlist
  obtain ⟨hparts, ht⟩ := eq_of_append_cons_last (colon_notMem_repr t) (colon_notMem_repr t') hlist
  exact ⟨hparts, Int.repr_injective (String.toList_inj.1 ht)⟩

theorem integrityPayload_inj {escrowId escrowId' : String} {n n' : JsNumber} {t t' : ℤ}
    (h : integrityPayload escrowId n.toText t = integrityPayload escrowId' n'.toText t') :
    escrowId = escrowId' ∧ n.toText = n'.toText ∧ t = t' := by
  obtain ⟨hparts, ht⟩ := nowMs_of_integrityPayload_eq h
  have hcolon : ∀ m : JsNumber, ':' ∉ m.toText.toList := notMem_toText (by decide) (by decide)
  obtain ⟨hid, hamount⟩ := eq_of_append_cons_last (hcolon n) (hcolon n') hparts
  exact ⟨String.toList_inj.1 hid, String.toList_inj.1 hamount, ht⟩

/-! ## When the hash of each escrow was made -/

/-- The documents, and for each id the time that its last lock has hashed. -/
structure TrackedEscrows where
  escrows : Escrows
  hashedMs : String → Option ℤ

/-- The time that stands after an operation that gets through: a lock hashes its own. -/
def EscrowCall.hashedMs (call : EscrowCall) (before : Option ℤ) : Option ℤ :=
  match call.op with
  | .lock => some call.hashMs
  | .release | .refund _ | .dispute _ => before

def hashedAfter (platform : EscrowPlatform) (tracked : TrackedEscrows) :
    ServiceCall → String → Option ℤ
  | .createEscrow uuid _ _ => Function.update tracked.hashedMs ("escrow_" ++ uuid) none
  | .onEscrow id call =>
      match (operate platform id call tracked.escrows).2 with
      | .ok _ => Function.update tracked.hashedMs id (call.hashedMs (tracked.hashedMs id))
      | .error _ => tracked.hashedMs

def trackCall (platform : EscrowPlatform) (tracked : TrackedEscrows) (call : ServiceCall) :
    TrackedEscrows where
  escrows := afterCall platform tracked.escrows call
  hashedMs := hashedAfter platform tracked call

/-- Before any call. -/
def TrackedEscrows.empty : TrackedEscrows := ⟨OrderedMap.empty, fun _ => none⟩

/-- The escrow has its id, and the hash of the time it was locked at. -/
structure Anchored (platform : EscrowPlatform) (id : String) (hashedMs : Option ℤ)
    (escrow : Escrow) : Prop where
  id_eq : escrow.id = id
  unlocked : hashedMs = none → escrow.integrityHash = ""
  locked : ∀ t, hashedMs = some t →
    generateIntegrityHash platform t id escrow.amount = .ok escrow.integrityHash

def AllAnchored (platform : EscrowPlatform) (tracked : TrackedEscrows) : Prop :=
  ∀ id escrow, tracked.escrows.get? id = some escrow →
    Anchored platform id (tracked.hashedMs id) escrow

variable {platform : EscrowPlatform} {tracked : TrackedEscrows} {id : String} {call : EscrowCall}

theorem allAnchored_empty (platform : EscrowPlatform) :
    AllAnchored platform TrackedEscrows.empty := by
  intro id escrow h
  cases h

theorem anchored_createdEscrow (platform : EscrowPlatform) (uuid : String) (createdAtMs : ℤ)
    (params : CreateEscrowParams) :
    Anchored platform ("escrow_" ++ uuid) none (createdEscrow uuid createdAtMs params) where
  id_eq := rfl
  unlocked _ := rfl
  locked t h := by cases h

/-- What an operation writes is anchored: by its own time where it locks, as before elsewhere. -/
theorem anchored_update {doc updated : Escrow} {request : Option ProviderRequest}
    {hashedMs : Option ℤ} (h : Anchored platform id hashedMs doc)
    (hoperates : Operates platform id call doc request updated) :
    Anchored platform id (call.hashedMs hashedMs) (doc.update updated) := by
  cases hoperates with
  | lock payment txResult _ op request answer written =>
      obtain ⟨-, rfl⟩ := lockedEscrow_eq_ok.1 written
      rw [EscrowCall.hashedMs, op]
      refine ⟨h.id_eq, fun hnone => (by cases hnone), fun t ht => ?_⟩
      cases ht
      exact (status_of_lockRequest request).2
  | release txnId op request answer =>
      rw [EscrowCall.hashedMs, op]
      exact ⟨h.id_eq, h.unlocked, h.locked⟩
  | refund txnId reason op request answer =>
      rw [EscrowCall.hashedMs, op]
      exact ⟨h.id_eq, h.unlocked, h.locked⟩
  | dispute reason op request =>
      rw [EscrowCall.hashedMs, op]
      exact ⟨h.id_eq, h.unlocked, h.locked⟩

/-- Setting one document and its time keeps the others anchored. -/
theorem allAnchored_set {escrow : Escrow} {hashedMs : Option ℤ} (h : AllAnchored platform tracked)
    (hself : Anchored platform id hashedMs escrow) :
    AllAnchored platform
      ⟨tracked.escrows.set id escrow, Function.update tracked.hashedMs id hashedMs⟩ := by
  intro id' escrow' hget
  dsimp only at hget ⊢
  by_cases hid : id' = id
  · subst hid
    rw [OrderedMap.get?_set_self] at hget
    rw [Function.update_self, ← Option.some.inj hget]
    exact hself
  · rw [OrderedMap.get?_set, if_neg hid] at hget
    rw [Function.update_of_ne hid]
    exact h id' escrow' hget

theorem allAnchored_trackCall (h : AllAnchored platform tracked) (call : ServiceCall) :
    AllAnchored platform (trackCall platform tracked call) := by
  cases call with
  | createEscrow uuid createdAtMs params =>
      exact allAnchored_set h (anchored_createdEscrow platform uuid createdAtMs params)
  | onEscrow id call =>
      obtain ⟨message, hthrows⟩ | ⟨doc, request, updated, hdoc, hoperates, hoperate⟩ :=
        operate_cases platform id call tracked.escrows
      · rw [trackCall, afterCall_onEscrow, hashedAfter, hthrows]
        exact h
      · rw [trackCall, afterCall_onEscrow, hashedAfter, hoperate]
        exact allAnchored_set h (anchored_update (h id doc hdoc) hoperates)

/-! ## When the check is usable -/

/-- The check does not throw, accepts an escrow that was locked and rejects it under another id
or amount, unless two of the payloads have one hash. -/
structure IntegrityUsable (platform : EscrowPlatform) (hashedMs : Option ℤ) (escrow : Escrow)
    (nowMs : ℤ) : Prop where
  total : ∃ valid, validateIntegrityHash platform nowMs escrow = .ok valid
  accepts : hashedMs.isSome = true → validateIntegrityHash platform nowMs escrow = .ok true
  rejects : ∀ t (n : JsNumber) id (n' : JsNumber), hashedMs = some t → escrow.amount = .num n →
    (id ≠ escrow.id ∨ n'.toText ≠ n.toText) →
    CollisionFreeOn (platform.hmacSha256 platform.masterIntegrityKey)
      [integrityPayload escrow.id n.toText t, integrityPayload id n'.toText nowMs] →
    validateIntegrityHash platform nowMs { escrow with id := id, amount := .num n' } = .ok false

/-- The hash at the time of the lock and the hash at the time of the check do not collide. -/
def LockDistinct (platform : EscrowPlatform) (hashedMs : Option ℤ) (escrow : Escrow)
    (nowMs : ℤ) : Prop :=
  ∀ t amount, hashedMs = some t → escrow.amount.toText = some amount →
    CollisionFreeOn (platform.hmacSha256 platform.masterIntegrityKey)
      [integrityPayload escrow.id amount t, integrityPayload escrow.id amount nowMs]

/-- A hash as the service makes it. -/
def payloadHash (platform : EscrowPlatform) (payload : String) : String :=
  sha256Hex (platform.hmacSha256 platform.masterIntegrityKey) payload

theorem generateIntegrityHash_eq_ok_iff {nowMs : ℤ} {amount : JsValue} {hash : String} :
    generateIntegrityHash platform nowMs id amount = .ok hash ↔
      ∃ text, amount.toText = some text ∧
        payloadHash platform (integrityPayload id text nowMs) = hash :=
  generateIntegrityHash_eq_ok

theorem utf8Len_of_isLowerHex {cs : List Char} (h : ∀ c ∈ cs, isLowerHex c = true) :
    String.utf8Len cs = cs.length := by
  induction cs with
  | nil => rfl
  | cons c cs ih =>
      have hsize : c.utf8Size = 1 := by
        have hc := h c List.mem_cons_self
        simp only [isLowerHex, Bool.or_eq_true, Bool.and_eq_true, decide_eq_true_eq] at hc
        rw [Char.utf8Size_eq_one_iff]
        obtain ⟨-, hle⟩ | ⟨-, hle⟩ := hc
        · exact UInt32.le_trans (b := '9'.val) hle (by decide)
        · exact UInt32.le_trans (b := 'f'.val) hle (by decide)
      rw [String.utf8Len_cons, List.length_cons, hsize,
        ih fun d hd => h d (List.mem_cons_of_mem c hd)]

theorem utf8ByteSize_payloadHash (platform : EscrowPlatform) (payload : String) :
    (payloadHash platform payload).utf8ByteSize = 64 := by
  rw [← String.ofList_toList (s := payloadHash platform payload), String.utf8ByteSize_ofList,
    payloadHash, sha256Hex, utf8Len_of_isLowerHex fun c hc => isLowerHex_of_mem_text hc]
  exact length_sha256Hex _ payload

/-- Digests have one length, so comparing two of them does not throw. -/
theorem timingSafeEqual_payloadHash (platform : EscrowPlatform) (payload payload' : String) :
    timingSafeEqual (payloadHash platform payload) (payloadHash platform payload') =
      .ok (decide (payloadHash platform payload = payloadHash platform payload')) := by
  rw [timingSafeEqual, utf8ByteSize_payloadHash, utf8ByteSize_payloadHash]
  rfl

/-- An escrow without a hash cannot be checked. -/
theorem validateIntegrityHash_unlocked {nowMs : ℤ} {escrow : Escrow}
    (h : escrow.integrityHash = "") (valid : Bool) :
    validateIntegrityHash platform nowMs escrow ≠ .ok valid := by
  intro hvalid
  simp only [validateIntegrityHash, bind_eq_ok, generateIntegrityHash_eq_ok_iff] at hvalid
  obtain ⟨_, ⟨text, -, rfl⟩, hequal⟩ := hvalid
  simp only [timingSafeEqual, bind_eq_ok, throwUnless_eq_ok, decide_eq_true_eq, h,
    utf8ByteSize_payloadHash] at hequal
  obtain ⟨-, hsize, -⟩ := hequal
  exact absurd hsize (by decide)

/-- An escrow with a hash is checked by comparing the hashed texts' digests. -/
theorem validateIntegrityHash_locked (platform : EscrowPlatform) (nowMs : ℤ) (escrow : Escrow)
    {payload text : String} (h : escrow.integrityHash = payloadHash platform payload)
    (htext : escrow.amount.toText = some text) :
    validateIntegrityHash platform nowMs escrow = .ok (decide (payloadHash platform payload =
      payloadHash platform (integrityPayload escrow.id text nowMs))) := by
  have hhash : generateIntegrityHash platform nowMs escrow.id escrow.amount =
      .ok (payloadHash platform (integrityPayload escrow.id text nowMs)) :=
    generateIntegrityHash_eq_ok_iff.2 ⟨text, htext, rfl⟩
  rw [validateIntegrityHash, hhash, h]
  exact timingSafeEqual_payloadHash platform payload _

theorem payloadHash_inj {payload payload' : String}
    (hfree : CollisionFreeOn (platform.hmacSha256 platform.masterIntegrityKey)
      [payload, payload']) :
    payloadHash platform payload = payloadHash platform payload' ↔ payload = payload' := by
  constructor
  · exact hfree payload (by simp) payload' (by simp)
  · exact fun h => by rw [h]

/-- The check of a locked escrow is usable exactly at the time that was hashed. -/
theorem integrityUsable_iff {hashedMs : Option ℤ} {escrow : Escrow} {nowMs : ℤ}
    (h : Anchored platform escrow.id hashedMs escrow)
    (hdistinct : LockDistinct platform hashedMs escrow nowMs) :
    IntegrityUsable platform hashedMs escrow nowMs ↔ hashedMs = some nowMs := by
  cases hashedMs with
  | none =>
      refine ⟨fun husable => ?_, fun hnone => by cases hnone⟩
      obtain ⟨valid, hvalid⟩ := husable.total
      exact absurd hvalid (validateIntegrityHash_unlocked (h.unlocked rfl) valid)
  | some t =>
      obtain ⟨text, htext, hhash⟩ := generateIntegrityHash_eq_ok_iff.1 (h.locked t rfl)
      have hcheck := validateIntegrityHash_locked platform nowMs escrow hhash.symm htext
      simp only [payloadHash_inj (hdistinct t text rfl htext)] at hcheck
      constructor
      · intro husable
        have haccepts := husable.accepts rfl
        rw [hcheck, Except.ok.injEq, decide_eq_true_eq] at haccepts
        rw [(nowMs_of_integrityPayload_eq haccepts).2]
      · rintro ⟨⟩
        refine ⟨⟨_, hcheck⟩, fun _ => ?_, fun t' n id n' ht hamount haltered hfree => ?_⟩
        · rw [hcheck]
          simp
        · cases ht
          rw [hamount] at htext
          cases htext
          have hcheck' := validateIntegrityHash_locked platform nowMs
            { escrow with id := id, amount := .num n' } hhash.symm rfl
          rw [hcheck', Except.ok.injEq, decide_eq_false_iff_not, payloadHash_inj hfree]
          intro hpayload
          obtain ⟨hid, htext, -⟩ := integrityPayload_inj hpayload
          exact haltered.elim (fun h => h hid.symm) fun h => h htext.symm

/-- In every state that the service reaches, the check of a stored escrow is usable exactly at
the time that its lock has hashed. -/
theorem integrity_check_usable_iff (platform : EscrowPlatform) (calls : List ServiceCall)
    (id : String) (escrow : Escrow) (nowMs : ℤ)
    (hstored : (Run.run (trackCall platform) TrackedEscrows.empty calls).escrows.get? id =
      some escrow)
    (hdistinct : LockDistinct platform
      ((Run.run (trackCall platform) TrackedEscrows.empty calls).hashedMs id) escrow nowMs) :
    IntegrityUsable platform
        ((Run.run (trackCall platform) TrackedEscrows.empty calls).hashedMs id) escrow nowMs ↔
      (Run.run (trackCall platform) TrackedEscrows.empty calls).hashedMs id = some nowMs := by
  have hanchored : AllAnchored platform
      (Run.run (trackCall platform) TrackedEscrows.empty calls) :=
    Run.run_of_step (fun _ call h => allAnchored_trackCall h call) (allAnchored_empty platform)
  have hescrow := hanchored id escrow hstored
  refine integrityUsable_iff ?_ hdistinct
  rw [hescrow.id_eq]
  exact hescrow

/-- The sample's escrow after calls from no documents. -/
def trackedAfter (calls : List ServiceCall) : TrackedEscrows :=
  Run.run (trackCall developmentPlatform) TrackedEscrows.empty calls

/-- What the check of the sample's escrow gives at a time. -/
def checkAfter (calls : List ServiceCall) (nowMs : ℤ) : Option (Except String Bool) :=
  ((trackedAfter calls).escrows.get? "escrow_u-1").map
    (validateIntegrityHash developmentPlatform nowMs)

theorem integrity_check_usable_iff_sample :
    ∃ escrow, (trackedAfter [sampleCreate, onSample .lock]).escrows.get? "escrow_u-1" =
        some escrow ∧
      (IntegrityUsable developmentPlatform
          ((trackedAfter [sampleCreate, onSample .lock]).hashedMs "escrow_u-1") escrow
          1767225601000 ↔
        (trackedAfter [sampleCreate, onSample .lock]).hashedMs "escrow_u-1" =
          some 1767225601000) := by
  refine ⟨_, rfl, integrity_check_usable_iff developmentPlatform [sampleCreate, onSample .lock]
    "escrow_u-1" _ 1767225601000 rfl ?_⟩
  intro t amount ht hamount
  have hhashed : (trackedAfter [sampleCreate, onSample .lock]).hashedMs "escrow_u-1" =
      some 1767225600000 := by
    decide +kernel
  have htext : sampleParams.amount.toText = some "250" := by
    decide +kernel
  cases hhashed.symm.trans ht
  cases htext.symm.trans hamount
  decide +kernel

/-- Unlocked, the check throws; locked, it fails a second later with nothing altered. -/
theorem integrity_check_not_usable :
    checkAfter [sampleCreate] 1767225601000 =
        some (.error "Input buffers must have the same byte length") ∧
      checkAfter [sampleCreate, onSample .lock] 1767225601000 = some (.ok false) := by
  decide +kernel

end UniverEscrow.Backend
