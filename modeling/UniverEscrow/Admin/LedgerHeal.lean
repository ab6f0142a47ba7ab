import UniverEscrow.Admin.AdminRecoveryService
import UniverEscrow.Ledger.LedgerAuditor

/-!
# The heal ritual

A verified recovery payload cuts the ledger back to the longest prefix the notary anchored,
keeps the rest in a quarantine file and writes the checkpoint of the prefix.  File operations
succeed here and nothing else runs.
-/

namespace UniverEscrow.Admin

open UniverEscrow.Js UniverEscrow.Ledger UniverEscrow.Merkle

structure QuarantineFile where
  name : String
  content : JsValue

/-- The files only the ritual uses. -/
structure RecoveryFiles where
  requests : Option FileText
  quarantine : List QuarantineFile

structure AdminRecoveryOutcome where
  ok : Bool
  authoritativeState : Option NotaryAuthoritativeState
  healedRoot : Option String
  healedLeafCount : Option ℕ
  quarantineFile : Option String
  error : Option String

def AdminRecoveryOutcome.failed (authoritativeState : Option NotaryAuthoritativeState)
    (error : String) : AdminRecoveryOutcome :=
  ⟨false, authoritativeState, none, none, none, some error⟩

/-- Why the ritual throws: its own error for a silent notary, or one of the platform. -/
inductive HealFailure where
  | notaryUnreachable
  | platformError
deriving DecidableEq

def readRecoveryRequests (file : Option FileText) : List String :=
  match file with
  | some (.json (.arr items)) => (items.mapM JsValue.toText).getD []
  | _ => []

/-- `existing.includes(requestId)`. -/
def includesRequest (existing : List String) (requestId : JsValue) : Bool :=
  existing.any fun id => requestId.isStr id

def appendRecoveryRequest (requestId : JsValue) (file : Option FileText) : Option FileText :=
  let existing := readRecoveryRequests file
  if includesRequest existing requestId then file
  else some (.ofJson (.arr (existing.map JsValue.str ++ [requestId])))

def witnessToJs (witness : NotaryWitnessSignature) : JsValue :=
  .obj [("witnessId", witness.witnessId), ("signature", witness.signature)]

def authoritativeStateToJs (state : NotaryAuthoritativeState) : JsValue :=
  .obj [("root", state.root), ("sequenceNumber", .num state.sequenceNumber),
    ("anchoringTimestamp", state.anchoringTimestamp),
    ("witnessSignatures", .arr (state.witnessSignatures.map witnessToJs))]

section Heal

variable (sha256 : Sha256)

/-- `tree.getLeafCount() === i && root === targetRoot` for the prefix of length `i`. -/
def prefixMatches (records : List StoredRecord) (targetRoot : String) (i : ℕ) : Bool :=
  let merkle := merkleOfStored sha256 (records.take i)
  merkle.tree.getLeafCount = i && merkle.root = targetRoot

/-- The first match of the scan from length `i` down to the empty prefix. -/
def healedPrefixLen (records : List StoredRecord) (targetRoot : String) : ℕ → Option ℕ
  | 0 => if prefixMatches sha256 records targetRoot 0 then some 0 else none
  | i + 1 =>
      if prefixMatches sha256 records targetRoot (i + 1) then some (i + 1)
      else healedPrefixLen records targetRoot i

def quarantineContent (requestId : JsValue) (state : NotaryAuthoritativeState)
    (records : List StoredRecord) (prefixLen : ℕ) : JsValue :=
  .obj [("requestId", requestId), ("authoritativeState", authoritativeStateToJs state),
    ("truncatedAt", .num (.ofInt prefixLen)),
    ("quarantined", .arr ((records.drop prefixLen).map StoredRecord.item))]

/-- Steps 3 to 5: quarantine, truncate, write the checkpoint, remember the request. -/
def truncateLedger (updatedAt : IsoTime) (quarantineName : String) (requestId : JsValue)
    (state : NotaryAuthoritativeState) (records : List StoredRecord) (prefixLen : ℕ)
    (store : Store) (files : RecoveryFiles) : Store × RecoveryFiles × AdminRecoveryOutcome :=
  let healed := records.take prefixLen
  let merkle := merkleOfStored sha256 healed
  (writeCheckpoint merkle.root merkle.tree.getLeafCount updatedAt
      (writeLedger (healed.map StoredRecord.toEntry) store),
    { requests := appendRecoveryRequest requestId files.requests
      quarantine := files.quarantine ++
        [⟨quarantineName, (quarantineContent requestId state records prefixLen).viaJson⟩] },
    { ok := true
      authoritativeState := some state
      healedRoot := some merkle.root
      healedLeafCount := some merkle.tree.getLeafCount
      quarantineFile := some quarantineName
      error := none })

end Heal

/-- The clock readings of one ritual: the expiry check, the quarantine file's name and the
checkpoint. -/
structure HealClock where
  verifiedAtMs : JsNumber
  quarantinedAtMs : JsNumber
  updatedAt : IsoTime

variable (platform : RecoveryPlatform) (env : RecoveryEnv)

def healLedger (clock : HealClock) (replies : ℕ → NotaryReply) (requestId : JsValue)
    (store : Store) (files : RecoveryFiles) :
    Store × RecoveryFiles × Except HealFailure AdminRecoveryOutcome :=
  match fetchAuthoritativeState replies with
  | none => (store, files, .error .notaryUnreachable)
  | some state =>
      let (records, store) := getAllRecords store
      match healedPrefixLen platform.sha256 records state.root records.length with
      | none =>
          (store, files, .ok (.failed (some state) "NO_PREFIX_MATCHES_AUTHORITATIVE_NOTARY_ROOT"))
      | some prefixLen =>
          match requestId.toText with
          | none => (store, files, .error .platformError)
          | some requestText =>
              let name :=
                "quarantine_" ++ requestText ++ "_" ++ clock.quarantinedAtMs.toText ++ ".json"
              let (store, files, outcome) := truncateLedger platform.sha256 clock.updatedAt name
                requestId state records prefixLen store files
              (store, files, .ok outcome)

def attemptHealAndReturnOutcome (clock : HealClock) (replies : ℕ → NotaryReply)
    (payload : JsValue) (store : Store) (files : RecoveryFiles) :
    Store × RecoveryFiles × Except HealFailure AdminRecoveryOutcome :=
  let requestId := payload.get "requestId"
  if includesRequest (readRecoveryRequests files.requests) requestId then
    (store, files, .ok ⟨true, none, none, none, none, some "DUPLICATE_REQUEST_ID"⟩)
  else
    match verifyMultiSig platform env clock.verifiedAtMs payload with
    | none => (store, files, .error .platformError)
    | some false => (store, files, .ok (.failed none "MULTISIG_THRESHOLD_VERIFICATION_FAILED"))
    | some true => healLedger platform clock replies requestId store files

def AdminRecoveryOutcome.healed (outcome : AdminRecoveryOutcome) : Bool :=
  outcome.ok && outcome.healedRoot.isSome

variable {platform env} {clock : HealClock} {replies : ℕ → NotaryReply} {store : Store}
  {files : RecoveryFiles}

/-- A ritual that does not heal at most initialises the store. -/
theorem healLedger_frame (requestId : JsValue) :
    (∃ outcome, (healLedger platform clock replies requestId store files).2.2 = .ok outcome ∧
      outcome.healed = true) ∨
    (healLedger platform clock replies requestId store files).1 ∈
      [store, initializeStore store] := by
  unfold healLedger
  cases fetchAuthoritativeState replies with
  | none => exact .inr (by simp)
  | some state =>
      dsimp only [getAllRecords]
      split
      · exact .inr (by simp)
      · split
        · exact .inr (by simp)
        · exact .inl ⟨_, rfl, rfl⟩

theorem attemptHeal_frame (payload : JsValue) :
    (∃ outcome, (attemptHealAndReturnOutcome platform env clock replies payload store files).2.2 =
        .ok outcome ∧ outcome.healed = true) ∨
    (attemptHealAndReturnOutcome platform env clock replies payload store files).1 ∈
      [store, initializeStore store] := by
  unfold attemptHealAndReturnOutcome
  dsimp only
  split_ifs
  · exact .inr (by simp)
  · split
    · exact .inr (by simp)
    · exact .inr (by simp)
    · exact healLedger_frame _

/-! ## How a ritual ends -/

def duplicateOutcome : AdminRecoveryOutcome :=
  ⟨true, none, none, none, none, some "DUPLICATE_REQUEST_ID"⟩

/-- `quarantine_${requestId}_${now}.json`. -/
def quarantineName (clock : HealClock) (requestText : String) : String :=
  "quarantine_" ++ requestText ++ "_" ++ clock.quarantinedAtMs.toText ++ ".json"

/-- The payload verifies, the notary answers, a prefix matches, and the request id has a text. -/
structure HealsTo (platform : RecoveryPlatform) (env : RecoveryEnv) (clock : HealClock)
    (replies : ℕ → NotaryReply) (payload : JsValue) (store : Store)
    (state : NotaryAuthoritativeState) (prefixLen : ℕ) (requestText : String) : Prop where
  verified : verifyMultiSig platform env clock.verifiedAtMs payload = some true
  fetched : fetchAuthoritativeState replies = some state
  found : healedPrefixLen platform.sha256 (getAllRecords store).1 state.root
    (getAllRecords store).1.length = some prefixLen
  named : (payload.get "requestId").toText = some requestText

/-- How a ritual ends: a recorded request changes nothing, one that does not heal at most
initialises the store, and any other truncates the ledger. -/
inductive HealEnds (platform : RecoveryPlatform) (env : RecoveryEnv) (clock : HealClock)
    (replies : ℕ → NotaryReply) (payload : JsValue) (store : Store) (files : RecoveryFiles) :
    Store × RecoveryFiles × Except HealFailure AdminRecoveryOutcome → Prop where
  | recorded
      (hrecorded : includesRequest (readRecoveryRequests files.requests)
        (payload.get "requestId") = true) :
      HealEnds platform env clock replies payload store files (store, files, .ok duplicateOutcome)
  | stopped {stopStore : Store} {result : Except HealFailure AdminRecoveryOutcome}
      (hnew : includesRequest (readRecoveryRequests files.requests)
        (payload.get "requestId") = false)
      (hheals : ∀ state prefixLen text,
        ¬ HealsTo platform env clock replies payload store state prefixLen text)
      (hstore : stopStore ∈ [store, initializeStore store])
      (hresult : ∀ outcome, result = .ok outcome → outcome.ok = false) :
      HealEnds platform env clock replies payload store files (stopStore, files, result)
  | healed {state : NotaryAuthoritativeState} {prefixLen : ℕ} {text : String}
      (hnew : includesRequest (readRecoveryRequests files.requests)
        (payload.get "requestId") = false)
      (hheals : HealsTo platform env clock replies payload store state prefixLen text) :
      HealEnds platform env clock replies payload store files
        (let truncated := truncateLedger platform.sha256 clock.updatedAt
          (quarantineName clock text) (payload.get "requestId") state (getAllRecords store).1
          prefixLen (initializeStore store) files
        (truncated.1, truncated.2.1, .ok truncated.2.2))

theorem healLedger_ends {payload : JsValue}
    (hnew : includesRequest (readRecoveryRequests files.requests)
      (payload.get "requestId") = false)
    (hverified : verifyMultiSig platform env clock.verifiedAtMs payload = some true) :
    HealEnds platform env clock replies payload store files
      (healLedger platform clock replies (payload.get "requestId") store files) := by
  unfold healLedger
  cases hfetch : fetchAuthoritativeState replies with
  | none =>
      refine .stopped hnew (fun _ _ _ h => ?_) (by simp) (by simp)
      cases hfetch.symm.trans h.fetched
  | some state =>
      dsimp only
      cases hfound : healedPrefixLen platform.sha256 (getAllRecords store).1 state.root
          (getAllRecords store).1.length with
      | none =>
          refine .stopped hnew (fun _ _ _ h => ?_) (by simp [getAllRecords]) ?_
          · cases hfetch.symm.trans h.fetched
            cases hfound.symm.trans h.found
          · rintro outcome ⟨⟩
            rfl
      | some prefixLen =>
          cases htext : (payload.get "requestId").toText with
          | none =>
              refine .stopped hnew (fun _ _ _ h => ?_) (by simp [getAllRecords]) (by simp)
              cases htext.symm.trans h.named
          | some text => exact .healed hnew ⟨hverified, hfetch, hfound, htext⟩

theorem attemptHeal_ends (platform : RecoveryPlatform) (env : RecoveryEnv) (clock : HealClock)
    (replies : ℕ → NotaryReply) (payload : JsValue) (store : Store) (files : RecoveryFiles) :
    HealEnds platform env clock replies payload store files
      (attemptHealAndReturnOutcome platform env clock replies payload store files) := by
  unfold attemptHealAndReturnOutcome
  dsimp only
  cases hrecorded : includesRequest (readRecoveryRequests files.requests)
      (payload.get "requestId") with
  | true =>
      rw [if_pos rfl]
      exact .recorded hrecorded
  | false =>
      rw [if_neg Bool.false_ne_true]
      cases hverified : verifyMultiSig platform env clock.verifiedAtMs payload with
      | none =>
          refine .stopped hrecorded (fun _ _ _ h => ?_) (by simp) (by simp)
          cases hverified.symm.trans h.verified
      | some verified =>
          cases verified with
          | true => exact healLedger_ends hrecorded hverified
          | false =>
              refine .stopped hrecorded (fun _ _ _ h => ?_) (by simp) ?_
              · cases hverified.symm.trans h.verified
              · rintro outcome ⟨⟩
                rfl

end UniverEscrow.Admin
