import UniverEscrow.Admin.HealRestores

/-!
# A heal whose file operations fail

A heal writes its files in place, and such a write truncates its file first.  At any point of it
the write may throw or the process stop.  The ledger file is then read by the same process or by
a new one, which resets a file that holds no JSON array.
-/

namespace UniverEscrow.Admin

open UniverEscrow.Js UniverEscrow.Ledger UniverEscrow.Merkle

inductive WriteProgress where
  | untouched
  | truncated
  | partWritten
  | complete
deriving DecidableEq

structure WriteFault where
  progress : WriteProgress
  /-- The process stops; otherwise the write throws. -/
  stops : Bool

/-- The file is left neither as it was nor as it was to become. -/
def WriteFault.torn (fault : WriteFault) : Bool :=
  fault.progress = .truncated || fault.progress = .partWritten

/-- The file after the write; part of the text of an array or an object is no JSON. -/
def written (fault : Option WriteFault) (old new : Option FileText) : Option FileText :=
  match fault with
  | none => new
  | some fault =>
      match fault.progress with
      | .untouched => old
      | .truncated => some .empty
      | .partWritten => some .malformed
      | .complete => new

def stopsAt (fault : Option WriteFault) : Bool := fault.any WriteFault.stops

def throwsAt (fault : Option WriteFault) : Bool := fault.any fun fault => !fault.stops

structure HealFaults where
  /-- The recorded requests cannot be read, for the replay check and for the append. -/
  requestsRead : Bool
  requestsReread : Bool
  ledgerRead : Bool
  quarantine : Option WriteFault
  ledger : Option WriteFault
  checkpoint : Option WriteFault
  requests : Option WriteFault
  /-- The message of the error with which the write of the ledger throws. -/
  message : String

def HealFaults.none : HealFaults :=
  ⟨false, false, false, Option.none, Option.none, Option.none, Option.none, ""⟩

/-- A failing read is answered like a missing file. -/
def readRecoveryRequestsOrNone (fails : Bool) (file : Option FileText) : List String :=
  if fails then [] else readRecoveryRequests file

/-- The quarantine files after the write of one more; one that is not written to its end lists
no records. -/
def quarantineWritten (fault : Option WriteFault) (file : QuarantineFile)
    (quarantine : List QuarantineFile) : List QuarantineFile :=
  match fault with
  | none => quarantine ++ [file]
  | some fault => if fault.progress = .complete then quarantine ++ [file] else quarantine

/-- The recorded requests after the append, and whether the process has stopped in it. -/
def appendRecoveryRequestWithFaults (faults : HealFaults) (requestId : JsValue)
    (file : Option FileText) : Option FileText × Bool :=
  let existing := readRecoveryRequestsOrNone faults.requestsReread file
  if includesRequest existing requestId then (file, false)
  else
    (written faults.requests file
      (some (.ofJson (.arr (existing.map JsValue.str ++ [requestId])))), stopsAt faults.requests)

section Heal

variable (sha256 : Sha256)

/-- Steps 3 to 5.  There is no outcome where the process has stopped. -/
def truncateLedgerWithFaults (faults : HealFaults) (updatedAt : IsoTime) (quarantineName : String)
    (requestId : JsValue) (state : NotaryAuthoritativeState) (records : List StoredRecord)
    (prefixLen : ℕ) (store : Store) (files : RecoveryFiles) :
    Store × RecoveryFiles × Option AdminRecoveryOutcome :=
  let healed := records.take prefixLen
  let files := { files with
    quarantine := quarantineWritten faults.quarantine
      ⟨quarantineName, (quarantineContent requestId state records prefixLen).viaJson⟩
      files.quarantine }
  -- a quarantine file that cannot be written does not keep the ledger from being cut
  if stopsAt faults.quarantine then (store, files, none)
  else
    let store := { store with
      ledger := written faults.ledger store.ledger
        (writeLedger (healed.map StoredRecord.toEntry) store).ledger }
    if stopsAt faults.ledger then (store, files, none)
    else if throwsAt faults.ledger then
      (store, files,
        some ⟨false, some state, none, none, some quarantineName, some faults.message⟩)
    else
      let merkle := merkleOfStored sha256 healed
      let store := { store with
        checkpoint := written faults.checkpoint store.checkpoint
          (writeCheckpoint merkle.root merkle.tree.getLeafCount updatedAt store).checkpoint }
      if stopsAt faults.checkpoint then (store, files, none)
      else
        let (requests, stopped) := appendRecoveryRequestWithFaults faults requestId files.requests
        let files := { files with requests := requests }
        if stopped then (store, files, none)
        else
          (store, files,
            some {
              ok := true
              authoritativeState := some state
              healedRoot := some merkle.root
              healedLeafCount := some merkle.tree.getLeafCount
              quarantineFile := some quarantineName
              error := none })

end Heal

variable (platform : RecoveryPlatform) (env : RecoveryEnv)

def healLedgerWithFaults (faults : HealFaults) (clock : HealClock) (replies : ℕ → NotaryReply)
    (requestId : JsValue) (store : Store) (files : RecoveryFiles) :
    Store × RecoveryFiles × Option (Except HealFailure AdminRecoveryOutcome) :=
  match fetchAuthoritativeState replies with
  | none => (store, files, some (.error .notaryUnreachable))
  | some state =>
      -- `getAllRecords` answers a failing read with no records
      let records := if faults.ledgerRead then [] else (getAllRecords store).1
      let store := (getAllRecords store).2
      match healedPrefixLen platform.sha256 records state.root records.length with
      | none =>
          (store, files,
            some (.ok (.failed (some state) "NO_PREFIX_MATCHES_AUTHORITATIVE_NOTARY_ROOT")))
      | some prefixLen =>
          match requestId.toText with
          | none => (store, files, some (.error .platformError))
          | some requestText =>
              let (store, files, outcome) := truncateLedgerWithFaults platform.sha256 faults
                clock.updatedAt (quarantineName clock requestText) requestId state records
                prefixLen store files
              (store, files, outcome.map .ok)

def attemptHealWithFaults (faults : HealFaults) (clock : HealClock) (replies : ℕ → NotaryReply)
    (payload : JsValue) (store : Store) (files : RecoveryFiles) :
    Store × RecoveryFiles × Option (Except HealFailure AdminRecoveryOutcome) :=
  let requestId := payload.get "requestId"
  let existing := readRecoveryRequestsOrNone faults.requestsRead files.requests
  if includesRequest existing requestId then (store, files, some (.ok duplicateOutcome))
  else
    match verifyMultiSig platform env clock.verifiedAtMs payload with
    | none => (store, files, some (.error .platformError))
    | some false =>
        (store, files, some (.ok (.failed none "MULTISIG_THRESHOLD_VERIFICATION_FAILED")))
    | some true => healLedgerWithFaults platform faults clock replies requestId store files

/-- A new process on the same files. -/
def restart (store : Store) : Store := { store with storeInitialized := false }

/-! ## Without faults -/

theorem truncateLedgerWithFaults_none (sha256 : Sha256) (updatedAt : IsoTime)
    (quarantineName : String) (requestId : JsValue) (state : NotaryAuthoritativeState)
    (records : List StoredRecord) (prefixLen : ℕ) (store : Store) (files : RecoveryFiles) :
    truncateLedgerWithFaults sha256 .none updatedAt quarantineName requestId state records
        prefixLen store files =
      let truncated := truncateLedger sha256 updatedAt quarantineName requestId state records
        prefixLen store files
      (truncated.1, truncated.2.1, some truncated.2.2) := by
  cases hrecorded : includesRequest (readRecoveryRequests files.requests) requestId <;>
    simp [truncateLedgerWithFaults, truncateLedger, HealFaults.none, stopsAt, throwsAt, written,
      quarantineWritten, appendRecoveryRequestWithFaults, appendRecoveryRequest,
      readRecoveryRequestsOrNone, hrecorded, writeLedger, writeCheckpoint]

variable {platform env}

theorem healLedgerWithFaults_none (clock : HealClock) (replies : ℕ → NotaryReply)
    (requestId : JsValue) (store : Store) (files : RecoveryFiles) :
    healLedgerWithFaults platform .none clock replies requestId store files =
      let healed := healLedger platform clock replies requestId store files
      (healed.1, healed.2.1, some healed.2.2) := by
  unfold healLedgerWithFaults healLedger
  cases fetchAuthoritativeState replies with
  | none => rfl
  | some state =>
      simp only [HealFaults.none, Bool.false_eq_true, if_false]
      cases healedPrefixLen platform.sha256 (getAllRecords store).1 state.root
          (getAllRecords store).1.length with
      | none => rfl
      | some prefixLen =>
          cases requestId.toText with
          | none => rfl
          | some text =>
              have htruncate := truncateLedgerWithFaults_none platform.sha256 clock.updatedAt
                (quarantineName clock text) requestId state (getAllRecords store).1 prefixLen
                (getAllRecords store).2 files
              simp only [HealFaults.none] at htruncate
              simp only [htruncate, Option.map_some]
              rfl

/-- Where every file operation succeeds, the heal is the one without faults. -/
theorem attemptHealWithFaults_none (clock : HealClock) (replies : ℕ → NotaryReply)
    (payload : JsValue) (store : Store) (files : RecoveryFiles) :
    attemptHealWithFaults platform env .none clock replies payload store files =
      let healed := attemptHealAndReturnOutcome platform env clock replies payload store files
      (healed.1, healed.2.1, some healed.2.2) := by
  have hread : readRecoveryRequestsOrNone HealFaults.none.requestsRead files.requests =
      readRecoveryRequests files.requests := rfl
  simp only [attemptHealWithFaults, attemptHealAndReturnOutcome, hread]
  split_ifs
  · rfl
  · cases verifyMultiSig platform env clock.verifiedAtMs payload with
    | none => rfl
    | some verified =>
        cases verified with
        | false => rfl
        | true => exact healLedgerWithFaults_none clock replies _ store files

/-! ## What a faulty heal leaves -/

theorem written_of_not_torn {fault : Option WriteFault} {old new : Option FileText}
    (h : fault.all (fun fault => !fault.torn) = true) :
    written fault old new = old ∨ written fault old new = new := by
  rcases fault with - | ⟨progress, stops⟩
  · exact .inr rfl
  · cases progress with
    | untouched => exact .inl rfl
    | truncated => simp [WriteFault.torn] at h
    | partWritten => simp [WriteFault.torn] at h
    | complete => exact .inr rfl

section Truncate

variable {sha256 : Sha256} {faults : HealFaults} {updatedAt : IsoTime} {quarantineName : String}
  {requestId : JsValue} {state : NotaryAuthoritativeState} {records : List StoredRecord}
  {prefixLen : ℕ} {store : Store} {files : RecoveryFiles}

theorem ledger_truncateLedgerWithFaults :
    (truncateLedgerWithFaults sha256 faults updatedAt quarantineName requestId state records
        prefixLen store files).1.ledger =
      if stopsAt faults.quarantine then store.ledger
      else written faults.ledger store.ledger
        (writeLedger ((records.take prefixLen).map StoredRecord.toEntry) store).ledger := by
  unfold truncateLedgerWithFaults
  dsimp only
  split_ifs <;> rfl

theorem quarantine_truncateLedgerWithFaults :
    (truncateLedgerWithFaults sha256 faults updatedAt quarantineName requestId state records
        prefixLen store files).2.1.quarantine =
      quarantineWritten faults.quarantine
        ⟨quarantineName, (quarantineContent requestId state records prefixLen).viaJson⟩
        files.quarantine := by
  unfold truncateLedgerWithFaults
  dsimp only
  split_ifs <;> rfl

/-- A heal leaves the ledger file alone or puts the prefix into it; where it does, the others
are in the quarantine file, unless that could not be written. -/
theorem truncateLedgerWithFaults_cases (sha256 : Sha256) (updatedAt : IsoTime)
    (quarantineName : String) (requestId : JsValue) (state : NotaryAuthoritativeState)
    (records : List StoredRecord) (prefixLen : ℕ) (store : Store) (files : RecoveryFiles)
    (hledger : faults.ledger.all (fun fault => !fault.torn) = true) :
    (truncateLedgerWithFaults sha256 faults updatedAt quarantineName requestId state records
        prefixLen store files).1.ledger = store.ledger ∨
      (truncateLedgerWithFaults sha256 faults updatedAt quarantineName requestId state records
          prefixLen store files).1.ledger =
          (writeLedger ((records.take prefixLen).map StoredRecord.toEntry) store).ledger ∧
        (throwsAt faults.quarantine = false →
          ⟨quarantineName, (quarantineContent requestId state records prefixLen).viaJson⟩ ∈
            (truncateLedgerWithFaults sha256 faults updatedAt quarantineName requestId state
              records prefixLen store files).2.1.quarantine) := by
  rw [ledger_truncateLedgerWithFaults, quarantine_truncateLedgerWithFaults]
  by_cases hstops : stopsAt faults.quarantine = true
  · exact .inl (if_pos hstops)
  · rw [if_neg hstops]
    rcases written_of_not_torn hledger with hold | hnew
    · exact .inl hold
    · refine .inr ⟨hnew, fun hthrows => ?_⟩
      -- a write that neither stops nor throws succeeds
      have hdone : faults.quarantine = none := by
        cases hfault : faults.quarantine with
        | none => rfl
        | some fault => simp_all [stopsAt, throwsAt]
      rw [hdone]
      exact List.mem_append_right _ (List.mem_singleton_self _)

end Truncate

/-- Readers of the store get all records there were or the healed prefix, and the others are in a
quarantine file, unless that could not be written. -/
structure FaultsSurvived (platform : RecoveryPlatform) (faults : HealFaults)
    (replies : ℕ → NotaryReply) (before after : Store) (afterFiles : RecoveryFiles) : Prop where
  ledger : recordsOf after = recordsOf before ∨
    ∃ state k, fetchAuthoritativeState replies = some state ∧
      healedPrefixLen platform.sha256 (getAllRecords before).1 state.root
        (getAllRecords before).1.length = some k ∧
      recordsOf after = (recordsOf before).take k
  quarantined : throwsAt faults.quarantine = false →
    recordsOf after = recordsOf before ∨ ∃ file ∈ afterFiles.quarantine,
      recordsOf after ++ file.records.map StoredRecord.record = recordsOf before

variable {faults : HealFaults} {clock : HealClock} {replies : ℕ → NotaryReply}
  {store after : Store} {files afterFiles : RecoveryFiles}

theorem faultsSurvived_of_same (h : recordsOf after = recordsOf store) :
    FaultsSurvived platform faults replies store after afterFiles :=
  ⟨.inl h, fun _ => .inl h⟩

theorem FaultsSurvived.restart
    (h : FaultsSurvived platform faults replies store after afterFiles) :
    FaultsSurvived platform faults replies store (restart after) afterFiles := by
  have hsame : recordsOf (Admin.restart after) = recordsOf after := recordsOf_congr rfl
  exact ⟨hsame ▸ h.ledger, hsame ▸ h.quarantined⟩

theorem faultsSurvived_truncateLedger {state : NotaryAuthoritativeState} {k : ℕ}
    (hfetch : fetchAuthoritativeState replies = some state)
    (hfound : healedPrefixLen platform.sha256 (getAllRecords store).1 state.root
      (getAllRecords store).1.length = some k)
    (hledger : faults.ledger.all (fun fault => !fault.torn) = true) (updatedAt : IsoTime)
    (name : String) (requestId : JsValue) :
    FaultsSurvived platform faults replies store
      (truncateLedgerWithFaults platform.sha256 faults updatedAt name requestId state
        (getAllRecords store).1 k (initializeStore store) files).1
      (truncateLedgerWithFaults platform.sha256 faults updatedAt name requestId state
        (getAllRecords store).1 k (initializeStore store) files).2.1 := by
  rcases truncateLedgerWithFaults_cases platform.sha256 updatedAt name requestId state
    (getAllRecords store).1 k (initializeStore store) files hledger with
    hsame | ⟨hcut, hquarantined⟩
  · apply faultsSurvived_of_same
    rw [recordsOf_congr hsame, recordsOf_initializeStore]
  · have hnow := recordsOf_writeLedger hcut
    refine ⟨.inr ⟨state, k, hfetch, hfound, ?_⟩, fun hthrows => .inr ⟨_, hquarantined hthrows, ?_⟩⟩
    · rw [hnow, List.map_take]
      rfl
    · rw [hnow, records_quarantineContent, List.map_map]
      exact (List.map_append).symm.trans (congrArg _ (List.take_append_drop k _))

theorem faultsSurvived_healLedger (hread : faults.ledgerRead = false)
    (hledger : faults.ledger.all (fun fault => !fault.torn) = true) (requestId : JsValue) :
    FaultsSurvived platform faults replies store
      (healLedgerWithFaults platform faults clock replies requestId store files).1
      (healLedgerWithFaults platform faults clock replies requestId store files).2.1 := by
  unfold healLedgerWithFaults
  cases hfetch : fetchAuthoritativeState replies with
  | none => exact faultsSurvived_of_same rfl
  | some state =>
      simp only [hread, Bool.false_eq_true, if_false]
      cases hfound : healedPrefixLen platform.sha256 (getAllRecords store).1 state.root
          (getAllRecords store).1.length with
      | none => exact faultsSurvived_of_same (recordsOf_initializeStore store)
      | some k =>
          cases requestId.toText with
          | none => exact faultsSurvived_of_same (recordsOf_initializeStore store)
          | some text => exact faultsSurvived_truncateLedger hfetch hfound hledger _ _ _

/-- After a heal whose ledger read succeeds and whose ledger write is not torn, whatever else
failed and wherever the process stopped, readers get the records from before or the healed
prefix, in the same process or in a new one; and unless the quarantine file could not be written,
the other records are in it. -/
theorem heal_survives_faults (platform : RecoveryPlatform) (env : RecoveryEnv)
    (faults : HealFaults) (clock : HealClock) (replies : ℕ → NotaryReply) (payload : JsValue)
    (store : Store) (files : RecoveryFiles) (hread : faults.ledgerRead = false)
    (hledger : faults.ledger.all (fun fault => !fault.torn) = true) :
    let healed := attemptHealWithFaults platform env faults clock replies payload store files
    FaultsSurvived platform faults replies store healed.1 healed.2.1 ∧
      FaultsSurvived platform faults replies store (restart healed.1) healed.2.1 := by
  have hsurvived : FaultsSurvived platform faults replies store
      (attemptHealWithFaults platform env faults clock replies payload store files).1
      (attemptHealWithFaults platform env faults clock replies payload store files).2.1 := by
    unfold attemptHealWithFaults
    dsimp only
    split_ifs
    · exact faultsSurvived_of_same rfl
    · cases verifyMultiSig platform env clock.verifiedAtMs payload with
      | none => exact faultsSurvived_of_same rfl
      | some verified =>
          cases verified with
          | false => exact faultsSurvived_of_same rfl
          | true => exact faultsSurvived_healLedger hread hledger _
  exact ⟨hsurvived, hsurvived.restart⟩

/-! ## Faults that lose records -/

/-- The heal of `twoRecords` to the prefix with the root, with faults. -/
def faultyHeal (faults : HealFaults) (root : String) :
    Store × RecoveryFiles × Option (Except HealFailure AdminRecoveryOutcome) :=
  attemptHealWithFaults healPlatform oneOfficer faults healClock (notaryWithRoot root)
    signedRequest twoRecords ⟨none, []⟩

/-- The process stops when the suffix is in quarantine and the ledger still whole. -/
def stoppedBeforeCut : HealFaults := { HealFaults.none with ledger := some ⟨.untouched, true⟩ }

theorem heal_survives_faults_stopped :
    FaultsSurvived healPlatform stoppedBeforeCut (notaryWithRoot sampleRoot.text) twoRecords
        (faultyHeal stoppedBeforeCut sampleRoot.text).1
        (faultyHeal stoppedBeforeCut sampleRoot.text).2.1 ∧
      FaultsSurvived healPlatform stoppedBeforeCut (notaryWithRoot sampleRoot.text) twoRecords
        (restart (faultyHeal stoppedBeforeCut sampleRoot.text).1)
        (faultyHeal stoppedBeforeCut sampleRoot.text).2.1 :=
  heal_survives_faults healPlatform oneOfficer stoppedBeforeCut healClock
    (notaryWithRoot sampleRoot.text) signedRequest twoRecords ⟨none, []⟩ rfl rfl

def quarantineThrows : HealFaults :=
  { HealFaults.none with quarantine := some ⟨.untouched, false⟩ }

def ledgerTruncated : HealFaults := { HealFaults.none with ledger := some ⟨.truncated, true⟩ }

def ledgerUnread : HealFaults := { HealFaults.none with ledgerRead := true }

/-- Two records of which the first was anchored.  Where the quarantine file cannot be written, the
second is lost; where the process stops in the write of the ledger, a new one finds neither;
and where the ledger cannot be read, a notary that anchored an empty ledger has both deleted. -/
theorem faults_lose_records :
    recordsOf twoRecords = [sampleRecord, sampleSecond] ∧
      healedPrefixLen healSha256 (getAllRecords twoRecords).1 sampleRoot.text 2 = some 1 ∧
      (recordsOf (faultyHeal quarantineThrows sampleRoot.text).1 = [sampleRecord] ∧
        quarantinedRecords (faultyHeal quarantineThrows sampleRoot.text).2.1 = []) ∧
      (recordsOf (restart (faultyHeal ledgerTruncated sampleRoot.text).1) = []) ∧
      (recordsOf (faultyHeal ledgerUnread (merkleOfRecords healSha256 []).root).1 = [] ∧
        quarantinedRecords
          (faultyHeal ledgerUnread (merkleOfRecords healSha256 []).root).2.1 = []) := by
  -- evaluated at once, so that the heals under faults are run once each
  decide +kernel

end UniverEscrow.Admin
