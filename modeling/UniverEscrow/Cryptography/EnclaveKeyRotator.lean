import UniverEscrow.Enclave.EnclaveBridgeService
import UniverEscrow.Js.OrderedMap
import UniverEscrow.Js.SafeInteger
import Mathlib.Data.Finset.Basic

/-!
# Epoch key rotation

Every epoch has its own signing keys.  A time-locked transaction is bound to the epoch current at
its registration, and an epoch that rotation leaves behind is kept while a transaction refers
to it.
-/

namespace UniverEscrow.Cryptography

open UniverEscrow.Js UniverEscrow.Merkle UniverEscrow.Enclave

structure EpochPublicKeySet where
  classicalPublicKeyHex : String
  pqcPublicKeyToken : String
deriving DecidableEq

structure EpochState where
  epoch : ℕ
  deprecated : Bool
  signingKeys : EpochPublicKeySet
  referencedUnspentTxIds : Finset String

structure RotationReceipt where
  prevEpoch : ℕ
  nextEpoch : ℕ
  signingKeys : EpochPublicKeySet

structure EnclaveKeyRotator where
  epochState : EpochState
  epochIndexByTxId : OrderedMap String ℕ
  deprecatedEpochs : List EpochState

def deriveDeterministicKeySet (sha256 : Sha256) (seed : String) : EpochPublicKeySet where
  classicalPublicKeyHex := sha256Hex sha256 ("CLASSICAL_PUBKEY_V1|" ++ seed)
  pqcPublicKeyToken := sha256Hex sha256 ("PQC_PUBKEY_TOKEN_V1|" ++ seed)

/-- The keys the constructor and a rotation derive for an epoch. -/
def epochKeys (sha256 : Sha256) (epoch : ℕ) : EpochPublicKeySet :=
  deriveDeterministicKeySet sha256 ("EPOCH_SEED_V1|" ++ toString epoch ++ "|inrepo")

def newEpochState (sha256 : Sha256) (epoch : ℕ) : EpochState where
  epoch := epoch
  deprecated := false
  signingKeys := epochKeys sha256 epoch
  referencedUnspentTxIds := ∅

/-- `prevEpoch + 1`, which stays where it is once Number addition rounds the one away. -/
def nextEpoch (prevEpoch : ℕ) : ℕ := min (prevEpoch + 1) (2 ^ 53)

theorem ofInt_nextEpoch {prevEpoch : ℕ} (h : prevEpoch ≤ 2 ^ 53) :
    JsNumber.ofInt (nextEpoch prevEpoch) = (JsNumber.ofInt prevEpoch).add (.ofInt 1) :=
  (JsNumber.add_one_ofInt h).symm

def EpochState.forget (epoch : ℕ) (txId : String) (st : EpochState) : EpochState :=
  if st.epoch = epoch then
    { st with referencedUnspentTxIds := st.referencedUnspentTxIds.erase txId }
  else st

/-- The id under which a value handed to `registerUnspentTimeLockedTx` is bound. -/
def registeredTxId (tx : JsValue) : Option String :=
  if !tx.truthy then none else (tx.get "transactionId").asString?

namespace EnclaveKeyRotator

def getInstance (sha256 : Sha256) : EnclaveKeyRotator where
  epochState := newEpochState sha256 1
  epochIndexByTxId := .empty
  deprecatedEpochs := []

def getCurrentEpoch (rotator : EnclaveKeyRotator) : ℕ := rotator.epochState.epoch

def getCurrentSigningPublicKeys (rotator : EnclaveKeyRotator) : EpochPublicKeySet :=
  rotator.epochState.signingKeys

def registerUnspentTimeLockedTx (rotator : EnclaveKeyRotator) (tx : JsValue) :
    EnclaveKeyRotator :=
  match registeredTxId tx with
  | none => rotator
  | some txId =>
      { rotator with
        epochIndexByTxId := rotator.epochIndexByTxId.set txId rotator.getCurrentEpoch
        epochState := { rotator.epochState with
          referencedUnspentTxIds := insert txId rotator.epochState.referencedUnspentTxIds } }

/-- An epoch left without references is dropped. -/
def markTxSpent (rotator : EnclaveKeyRotator) (txId : String) : EnclaveKeyRotator :=
  match rotator.epochIndexByTxId.get? txId with
  | none => rotator
  | some epoch =>
      if epoch = 0 then rotator
      else
        { epochState := rotator.epochState.forget epoch txId
          epochIndexByTxId := rotator.epochIndexByTxId.erase txId
          deprecatedEpochs := (rotator.deprecatedEpochs.map (EpochState.forget epoch txId)).filter
            fun st => st.referencedUnspentTxIds ≠ ∅ }

def getSigningPublicKeysForEpoch (rotator : EnclaveKeyRotator) (epoch : ℕ) :
    Option EpochPublicKeySet :=
  if rotator.epochState.epoch = epoch then some rotator.epochState.signingKeys
  else (rotator.deprecatedEpochs.find? fun st => st.epoch = epoch).map EpochState.signingKeys

def triggerEpochRotation (sha256 : Sha256) (bridge : EnclaveBridge)
    (rotator : EnclaveKeyRotator) : Except String (RotationReceipt × EnclaveKeyRotator) :=
  if !bridge.isEnclaveReady then
    .error "SECURITY_VIOLATION: enclave not ready for epoch rotation"
  else
    let prev := { rotator.epochState with deprecated := true }
    let next := newEpochState sha256 (nextEpoch prev.epoch)
    .ok (⟨prev.epoch, next.epoch, next.signingKeys⟩,
      { rotator with
        epochState := next
        deprecatedEpochs := if prev.referencedUnspentTxIds.card > 0
          then rotator.deprecatedEpochs ++ [prev] else rotator.deprecatedEpochs })

def getEpochForTxId (rotator : EnclaveKeyRotator) (txId : String) : Option ℕ :=
  (rotator.epochIndexByTxId.get? txId).filter fun e => e ≠ 0

/-! ## Operations -/

/-- A rotation meets the enclave boundary as it stands then. -/
inductive Operation where
  | registerUnspentTimeLockedTx (tx : JsValue)
  | markTxSpent (txId : String)
  | triggerEpochRotation (bridge : EnclaveBridge)

/-- The rotator once an operation has returned or thrown. -/
def step (sha256 : Sha256) (rotator : EnclaveKeyRotator) : Operation → EnclaveKeyRotator
  | .registerUnspentTimeLockedTx tx => rotator.registerUnspentTimeLockedTx tx
  | .markTxSpent txId => rotator.markTxSpent txId
  | .triggerEpochRotation bridge =>
      match rotator.triggerEpochRotation sha256 bridge with
      | .ok (_, rotator') => rotator'
      | .error _ => rotator

/-- The transaction a call registers or spends. -/
def Operation.txId : Operation → Option String
  | .registerUnspentTimeLockedTx tx => registeredTxId tx
  | .markTxSpent txId => some txId
  | .triggerEpochRotation _ => none

end EnclaveKeyRotator

end UniverEscrow.Cryptography
