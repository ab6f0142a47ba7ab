import UniverEscrow.Consensus.EnclaveSnapshotManager
import UniverEscrow.Lib.Except

/-!
# Catching up after a partition

A session begins at the node's local index and takes blocks, each one index after the last and
linked to it by hash, or snapshots.  Blocks and snapshots are whatever the peer sends, so reading
one can throw.
-/

namespace UniverEscrow.Consensus

open UniverEscrow.Js UniverEscrow.Merkle

/-- A block's index as the engine computes it: a Number, or a string once a snapshot has put one
into `localIndex`. -/
inductive IndexKey where
  | num (n : JsNumber)
  | text (s : String)
deriving DecidableEq

namespace IndexKey

def toJs : IndexKey → JsValue
  | .num n => .num n
  | .text s => .str s

def toNumber : IndexKey → JsNumber
  | .num n => n
  | .text s => stringToNumber s

def print : IndexKey → String
  | .num n => n.toText
  | .text s => s

end IndexKey

/-- `v + 1`; `none` is the TypeError of an object without a text. -/
def addOne (v : JsValue) : Option IndexKey :=
  match v with
  | .undefined => some (.num .nan)
  | .null => some (.num (.ofInt 1))
  | .bool b => some (.num (.ofInt (if b then 2 else 1)))
  | .num n => some (.num (n.add (.ofInt 1)))
  | v => v.toText.map fun s => .text (s ++ "1")

/-- `Math.max(...numbers)`. -/
def mathMax (numbers : List JsNumber) : JsNumber :=
  numbers.foldl
    (fun a b => if a = .nan ∨ b = .nan then .nan else if a.lt b then b else a) .negInf

structure ReconciliationState where
  isReconciling : Bool
  startedAt : JsNumber
  localIndex : JsValue
  targetCommitIndex : JsNumber
  blocksApplied : ℕ
  lastAppliedMerkleHash : JsValue

structure EnclaveReconciliationEngine where
  reconciliationState : Option ReconciliationState
  appliedBlocks : OrderedMap IndexKey JsValue
  lastAppliedMerkleHash : JsValue

/-- Why a call has no effect: `applied: false` with a reason, or a thrown error. -/
inductive CatchUpFailure where
  | refused (reason : String)
  | thrown

def checkCatchUp (holds : Bool) (reason : String) : Except CatchUpFailure Unit :=
  if holds then .ok () else .error (.refused reason)

def orThrow {α : Type} (v : Option α) : Except CatchUpFailure α :=
  match v with
  | some a => .ok a
  | none => .error .thrown

/-- Reading a property of `undefined` or `null` throws. -/
def checkReadable (v : JsValue) : Except CatchUpFailure Unit :=
  if v.isNullish then .error .thrown else .ok ()

namespace EnclaveReconciliationEngine

/-- The engine of a fresh process. -/
def getInstance : EnclaveReconciliationEngine where
  reconciliationState := none
  appliedBlocks := .empty
  lastAppliedMerkleHash := "GENESIS_BLOCK"

/-- `startedAt` is the clock. -/
def beginReconciliation (engine : EnclaveReconciliationEngine)
    (startedAt localIndex targetCommitIndex : JsNumber) : EnclaveReconciliationEngine where
  reconciliationState := some {
    isReconciling := true
    startedAt := startedAt
    localIndex := .num localIndex
    targetCommitIndex := targetCommitIndex
    blocksApplied := 0
    lastAppliedMerkleHash := engine.lastAppliedMerkleHash }
  appliedBlocks := .empty
  lastAppliedMerkleHash := engine.lastAppliedMerkleHash

def activeState (engine : EnclaveReconciliationEngine) :
    Except CatchUpFailure ReconciliationState :=
  match engine.reconciliationState with
  | some state =>
      if state.isReconciling then .ok state else .error (.refused "No active reconciliation")
  | none => .error (.refused "No active reconciliation")

def lastAppliedIndex (engine : EnclaveReconciliationEngine) (state : ReconciliationState) :
    JsValue :=
  if 0 < engine.appliedBlocks.size then
    .num (mathMax (engine.appliedBlocks.keys.map IndexKey.toNumber))
  else state.localIndex

variable (sha256 : Sha256)

def checkIndex (expectedIndex : IndexKey) (index : JsValue) : Except CatchUpFailure Unit :=
  if index.strictEq expectedIndex.toJs then .ok ()
  else do
    let got ← orThrow index.toText
    .error (.refused ("Non-linear block index: expected " ++ expectedIndex.print ++ ", got " ++
      got))

/-- The checks on a block, in order; the result is the index to file it under. -/
def checkBlock (engine : EnclaveReconciliationEngine) (block : JsValue) :
    Except CatchUpFailure (ReconciliationState × IndexKey) := do
  let state ← engine.activeState
  let expectedIndex ← orThrow (addOne (engine.lastAppliedIndex state))
  checkReadable block
  checkIndex expectedIndex (block.get "index")
  checkCatchUp ((block.get "previousMerkleHash").strictEq engine.lastAppliedMerkleHash)
    "Merkle chain broken: previous hash mismatch"
  let expectedMerkleHash ← orThrow (computeBlockMerkleHash sha256 (block.get "entries"))
  checkCatchUp ((block.get "merkleHash").isStr expectedMerkleHash) "Block Merkle hash invalid"
  checkCatchUp ((block.get "signature").asString?.any (· ≠ ""))
    "Block missing valid signature"
  return (state, expectedIndex)

def recordBlock (engine : EnclaveReconciliationEngine) (state : ReconciliationState)
    (index : IndexKey) (block : JsValue) : EnclaveReconciliationEngine where
  reconciliationState := some { state with
    blocksApplied := state.blocksApplied + 1
    lastAppliedMerkleHash := block.get "merkleHash" }
  appliedBlocks := engine.appliedBlocks.set index block
  lastAppliedMerkleHash := block.get "merkleHash"

def applyCatchUpBlock (engine : EnclaveReconciliationEngine) (block : JsValue) :
    Except CatchUpFailure Unit × EnclaveReconciliationEngine :=
  match engine.checkBlock sha256 block with
  | .ok (state, index) => (.ok (), engine.recordBlock state index block)
  | .error failure => (.error failure, engine)

def checkSnapshot (engine : EnclaveReconciliationEngine) (snapshot : JsValue) :
    Except CatchUpFailure ReconciliationState := do
  let state ← engine.activeState
  let validation ← orThrow (EnclaveSnapshotManager.validateSnapshot snapshot)
  checkCatchUp validation.valid
    ("Snapshot validation failed: " ++ validation.reason.getD "undefined")
  return state

def recordSnapshot (engine : EnclaveReconciliationEngine) (state : ReconciliationState)
    (metadata : JsValue) : EnclaveReconciliationEngine where
  reconciliationState := some { state with
    blocksApplied := state.blocksApplied + 1
    localIndex := metadata.get "latestIndex"
    lastAppliedMerkleHash := metadata.get "merkleRootHash" }
  appliedBlocks := engine.appliedBlocks
  lastAppliedMerkleHash := metadata.get "merkleRootHash"

def applySnapshot (engine : EnclaveReconciliationEngine) (snapshot : JsValue) :
    Except CatchUpFailure Unit × EnclaveReconciliationEngine :=
  match engine.checkSnapshot snapshot with
  | .ok state => (.ok (), engine.recordSnapshot state (snapshot.get "metadata"))
  | .error failure => (.error failure, engine)

def completeReconciliation (engine : EnclaveReconciliationEngine) :
    Option ReconciliationState × EnclaveReconciliationEngine :=
  match engine.reconciliationState with
  | some state =>
      (some { state with isReconciling := false }, { engine with reconciliationState := none })
  | none => (none, engine)

/-! ## Calls -/

inductive Call where
  | beginReconciliation (startedAt localIndex targetCommitIndex : JsNumber)
  | applyCatchUpBlock (block : JsValue)
  | applySnapshot (snapshot : JsValue)
  | completeReconciliation

def call (engine : EnclaveReconciliationEngine) :
    Call → Except CatchUpFailure Unit × EnclaveReconciliationEngine
  | .beginReconciliation startedAt localIndex targetCommitIndex =>
      (.ok (), engine.beginReconciliation startedAt localIndex targetCommitIndex)
  | .applyCatchUpBlock block => engine.applyCatchUpBlock sha256 block
  | .applySnapshot snapshot => engine.applySnapshot snapshot
  | .completeReconciliation =>
      match engine.completeReconciliation with
      | (some _, engine') => (.ok (), engine')
      | (none, engine') => (.error (.refused "No active reconciliation to complete"), engine')

/-! ## What is accepted -/

section Accepted

variable {sha256} {engine : EnclaveReconciliationEngine} {state : ReconciliationState}
  {index : IndexKey} {block : JsValue}

@[simp] theorem checkCatchUp_eq_ok {holds : Bool} {reason : String} {u : Unit} :
    checkCatchUp holds reason = .ok u ↔ holds = true := by
  cases holds <;> simp [checkCatchUp]

@[simp] theorem orThrow_eq_ok {α : Type} {v : Option α} {a : α} :
    orThrow v = .ok a ↔ v = some a := by
  cases v <;> simp [orThrow]

@[simp] theorem checkReadable_eq_ok {v : JsValue} {u : Unit} :
    checkReadable v = .ok u ↔ v.isNullish = false := by
  unfold checkReadable
  cases v.isNullish <;> simp

theorem activeState_eq_ok :
    engine.activeState = .ok state ↔
      engine.reconciliationState = some state ∧ state.isReconciling = true := by
  unfold activeState
  cases hstate : engine.reconciliationState with
  | none => simp
  | some s =>
      simp only [Option.some.injEq]
      by_cases hactive : s.isReconciling = true
      · rw [if_pos hactive, Except.ok.injEq]
        constructor
        · rintro rfl
          exact ⟨rfl, hactive⟩
        · exact And.left
      · rw [if_neg hactive]
        constructor
        · intro h
          cases h
        · rintro ⟨rfl, h⟩
          exact absurd h hactive

theorem checkIndex_eq_ok {v : JsValue} {u : Unit} :
    checkIndex index v = .ok u ↔ v.strictEq index.toJs = true := by
  unfold checkIndex
  cases v.strictEq index.toJs with
  | true => simp
  | false => cases htext : v.toText <;> simp [orThrow, bind, Except.bind]

theorem strictEq_toJs {v : JsValue} :
    v.strictEq index.toJs = true ↔ v = index.toJs ∧ index ≠ .num .nan := by
  cases index with
  | num n =>
      cases v with
      | num m =>
          simp only [IndexKey.toJs, JsValue.strictEq, JsNumber.strictEq, Bool.and_eq_true,
            decide_eq_true_eq, JsValue.num.injEq, IndexKey.num.injEq, ne_eq]
          constructor
          · rintro ⟨hm, rfl⟩
            exact ⟨rfl, hm⟩
          · rintro ⟨rfl, hm⟩
            exact ⟨hm, rfl⟩
      | _ => simp [IndexKey.toJs, JsValue.strictEq]
  | text s => cases v <;> simp [IndexKey.toJs, JsValue.strictEq]

theorem any_asString? {v : JsValue} :
    v.asString?.any (· ≠ "") = true ↔ ∃ s, v = .str s ∧ s ≠ "" := by
  cases v <;> simp [JsValue.asString?]

theorem not_isNullish_of_get_eq {v : JsValue} {key : String} {index : IndexKey}
    (h : v.get key = index.toJs) : v.isNullish = false := by
  apply JsValue.isNullish_of_get_ne
  rw [h]
  cases index <;> simp [IndexKey.toJs]

/-- Why a block is accepted, and under which index. -/
structure Accepts (sha256 : Sha256) (engine : EnclaveReconciliationEngine)
    (state : ReconciliationState) (index : IndexKey) (block : JsValue) : Prop where
  active : engine.reconciliationState = some state
  isReconciling : state.isReconciling = true
  expected : addOne (engine.lastAppliedIndex state) = some index
  indexed : block.get "index" = index.toJs
  index_ne_nan : index ≠ .num .nan
  linked : (block.get "previousMerkleHash").strictEq engine.lastAppliedMerkleHash = true
  hashed : ∃ hash, computeBlockMerkleHash sha256 (block.get "entries") = some hash ∧
    block.get "merkleHash" = .str hash
  signed : ∃ signature, block.get "signature" = .str signature ∧ signature ≠ ""

theorem checkBlock_eq_ok :
    engine.checkBlock sha256 block = .ok (state, index) ↔
      Accepts sha256 engine state index block := by
  simp only [checkBlock, bind_eq_ok, activeState_eq_ok, orThrow_eq_ok, checkIndex_eq_ok,
    checkCatchUp_eq_ok, checkReadable_eq_ok, strictEq_toJs, JsValue.isStr_iff, any_asString?]
  constructor
  · rintro ⟨s, ⟨hactive, hreconciling⟩, key, hexpected, _, -, _, ⟨hindex, hnan⟩, _, hlinked, hash,
      hhash, _, hmerkle, _, hsigned, hpure⟩
    cases hpure
    exact ⟨hactive, hreconciling, hexpected, hindex, hnan, hlinked, ⟨hash, hhash, hmerkle⟩,
      hsigned⟩
  · intro h
    obtain ⟨hash, hhash, hmerkle⟩ := h.hashed
    exact ⟨state, ⟨h.active, h.isReconciling⟩, index, h.expected, (),
      not_isNullish_of_get_eq h.indexed, (), ⟨h.indexed, h.index_ne_nan⟩, (), h.linked, hash, hhash,
      (), hmerkle, (), h.signed, rfl⟩

theorem applyCatchUpBlock_of_accepts (h : Accepts sha256 engine state index block) :
    engine.applyCatchUpBlock sha256 block = (.ok (), engine.recordBlock state index block) := by
  rw [applyCatchUpBlock, checkBlock_eq_ok.2 h]

/-- A block is recorded, or the engine is left alone. -/
theorem applyCatchUpBlock_cases (sha256 : Sha256) (engine : EnclaveReconciliationEngine)
    (block : JsValue) :
    (∃ state index, Accepts sha256 engine state index block ∧
        engine.applyCatchUpBlock sha256 block =
          (.ok (), engine.recordBlock state index block)) ∨
      ∃ failure, engine.checkBlock sha256 block = .error failure ∧
        engine.applyCatchUpBlock sha256 block = (.error failure, engine) := by
  cases hcheck : engine.checkBlock sha256 block with
  | ok accepted =>
      have haccepts := checkBlock_eq_ok.1 hcheck
      exact .inl ⟨_, _, haccepts, applyCatchUpBlock_of_accepts haccepts⟩
  | error failure => exact .inr ⟨failure, rfl, by rw [applyCatchUpBlock, hcheck]⟩

theorem exists_accepts_of_applied (h : (engine.applyCatchUpBlock sha256 block).1 = .ok ()) :
    ∃ state index, Accepts sha256 engine state index block := by
  rcases applyCatchUpBlock_cases sha256 engine block with
    ⟨state, index, haccepts, -⟩ | ⟨failure, -, herror⟩
  · exact ⟨state, index, haccepts⟩
  · rw [herror] at h
    cases h

/-- Why a snapshot is accepted. -/
structure AcceptsSnapshot (engine : EnclaveReconciliationEngine) (state : ReconciliationState)
    (snapshot : JsValue) : Prop where
  active : engine.reconciliationState = some state
  isReconciling : state.isReconciling = true
  valid : EnclaveSnapshotManager.accepts snapshot = true

theorem checkSnapshot_eq_ok {snapshot : JsValue} :
    engine.checkSnapshot snapshot = .ok state ↔ AcceptsSnapshot engine state snapshot := by
  simp only [checkSnapshot, bind_eq_ok, activeState_eq_ok, orThrow_eq_ok, checkCatchUp_eq_ok]
  constructor
  · rintro ⟨s, ⟨hactive, hreconciling⟩, validation, hvalidation, _, hvalid, hpure⟩
    cases hpure
    refine ⟨hactive, hreconciling, ?_⟩
    rw [EnclaveSnapshotManager.accepts, hvalidation]
    exact hvalid
  · intro h
    have hvalid := h.valid
    rw [EnclaveSnapshotManager.accepts, Option.any_eq_true] at hvalid
    obtain ⟨validation, hvalidation, hv⟩ := hvalid
    exact ⟨state, ⟨h.active, h.isReconciling⟩, validation, hvalidation, (), hv, rfl⟩

theorem applySnapshot_of_accepts {snapshot : JsValue} (h : AcceptsSnapshot engine state snapshot) :
    engine.applySnapshot snapshot =
      (.ok (), engine.recordSnapshot state (snapshot.get "metadata")) := by
  rw [applySnapshot, checkSnapshot_eq_ok.2 h]

/-- A snapshot is recorded, or the engine is left alone. -/
theorem applySnapshot_cases (engine : EnclaveReconciliationEngine) (snapshot : JsValue) :
    (∃ state, AcceptsSnapshot engine state snapshot ∧
        engine.applySnapshot snapshot =
          (.ok (), engine.recordSnapshot state (snapshot.get "metadata"))) ∨
      ∃ failure, engine.checkSnapshot snapshot = .error failure ∧
        engine.applySnapshot snapshot = (.error failure, engine) := by
  cases hcheck : engine.checkSnapshot snapshot with
  | ok state =>
      have haccepts := checkSnapshot_eq_ok.1 hcheck
      exact .inl ⟨_, haccepts, applySnapshot_of_accepts haccepts⟩
  | error failure => exact .inr ⟨failure, rfl, by rw [applySnapshot, hcheck]⟩

/-- A call that is refused or throws leaves the engine as it was. -/
theorem call_of_error {c : Call} {failure : CatchUpFailure}
    (h : (engine.call sha256 c).1 = .error failure) : (engine.call sha256 c).2 = engine := by
  cases c with
  | beginReconciliation startedAt localIndex targetCommitIndex => cases h
  | applyCatchUpBlock block =>
      rw [call] at h ⊢
      rcases applyCatchUpBlock_cases sha256 engine block with
        ⟨state, index, -, hok⟩ | ⟨failure, -, herror⟩
      · rw [hok] at h
        cases h
      · rw [herror]
  | applySnapshot snapshot =>
      rw [call] at h ⊢
      rcases applySnapshot_cases engine snapshot with ⟨state, -, hok⟩ | ⟨failure, -, herror⟩
      · rw [hok] at h
        cases h
      · rw [herror]
  | completeReconciliation =>
      simp only [call, completeReconciliation] at h ⊢
      cases hstate : engine.reconciliationState with
      | some state =>
          rw [hstate] at h
          cases h
      | none => rfl

end Accepted

end EnclaveReconciliationEngine

end UniverEscrow.Consensus
