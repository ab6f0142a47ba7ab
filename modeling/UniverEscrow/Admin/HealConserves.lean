import UniverEscrow.Admin.LedgerHeal

/-!
# What a heal keeps

A heal splits the ledger between the ledger file and a quarantine file, at the longest prefix
with the notary's root.  Items pass through JSON on their way, which a record survives.
-/

namespace UniverEscrow.Admin

open UniverEscrow.Js UniverEscrow.Ledger UniverEscrow.Merkle

variable {sha256 : Sha256}

/-! ## The scan -/

theorem getLeafCount_take {records : List StoredRecord} {i : ℕ} (hi : i ≤ records.length) :
    (merkleOfStored sha256 (records.take i)).tree.getLeafCount = i := by
  rw [merkleOfStored, getLeafCount_merkleOfRecords, List.length_map, List.length_take]
  omega

/-- The leaf count of a prefix is its length, so only its root decides. -/
theorem prefixMatches_iff {records : List StoredRecord} {targetRoot : String} {i : ℕ}
    (hi : i ≤ records.length) :
    prefixMatches sha256 records targetRoot i = true ↔
      (merkleOfStored sha256 (records.take i)).root = targetRoot := by
  simp [prefixMatches, getLeafCount_take hi]

/-- The scan finds the longest match up to the length it starts from. -/
theorem healedPrefixLen_eq_some {records : List StoredRecord} {targetRoot : String} {i k : ℕ} :
    healedPrefixLen sha256 records targetRoot i = some k ↔
      k ≤ i ∧ prefixMatches sha256 records targetRoot k = true ∧
        ∀ j, k < j → j ≤ i → prefixMatches sha256 records targetRoot j = false := by
  induction i with
  | zero =>
      rw [healedPrefixLen]
      split_ifs with hzero
      · constructor
        · rintro ⟨⟩
          exact ⟨le_refl 0, hzero, fun j hk hj => by omega⟩
        · rintro ⟨hk, -, -⟩
          rw [Nat.le_zero.1 hk]
      · refine iff_of_false (by simp) ?_
        rintro ⟨hk, hmatch, -⟩
        rw [Nat.le_zero.1 hk] at hmatch
        exact hzero hmatch
  | succ i ih =>
      rw [healedPrefixLen]
      split_ifs with hlast
      · constructor
        · rintro ⟨⟩
          exact ⟨le_refl _, hlast, fun j hk hj => by omega⟩
        · rintro ⟨hk, -, hlonger⟩
          rcases hk.lt_or_eq with hlt | rfl
          · rw [hlonger (i + 1) hlt (le_refl _)] at hlast
            cases hlast
          · rfl
      · rw [ih]
        constructor
        · rintro ⟨hk, hmatch, hlonger⟩
          refine ⟨by omega, hmatch, fun j hkj hj => ?_⟩
          rcases hj.lt_or_eq with hlt | rfl
          · exact hlonger j hkj (by omega)
          · exact Bool.not_eq_true _ ▸ hlast
        · rintro ⟨hk, hmatch, hlonger⟩
          have hne : k ≠ i + 1 := by
            rintro rfl
            exact hlast hmatch
          exact ⟨by omega, hmatch, fun j hkj hj => hlonger j hkj (by omega)⟩

/-! ## Reading back what a heal wrote -/

/-- The record with its item as it comes back from a file. -/
def reread (stored : StoredRecord) : StoredRecord :=
  ⟨stored.item.viaJson, stored.record, EscrowRecord.ofJs?_viaJson stored.guard⟩

@[simp] theorem record_reread (stored : StoredRecord) : (reread stored).record = stored.record :=
  rfl

theorem filterMap_ofItem?_viaJson (records : List StoredRecord) :
    (records.map fun stored => stored.item.viaJson).filterMap StoredRecord.ofItem? =
      records.map reread := by
  induction records with
  | nil => rfl
  | cons stored records ih =>
      rw [List.map_cons, List.filterMap_cons,
        StoredRecord.ofItem?_eq (EscrowRecord.ofJs?_viaJson stored.guard), ih]
      rfl

theorem readAllRecordsInternal_writeLedger_toEntry (records : List StoredRecord) (store : Store) :
    readAllRecordsInternal (writeLedger (records.map StoredRecord.toEntry) store) =
      some (records.map reread) := by
  rw [← filterMap_ofItem?_viaJson]
  simp [readAllRecordsInternal, writeLedger, parseLedgerFile, FileText.ofJson, JsValue.viaJson,
    itemsViaJson_eq_map, StoredRecord.toEntry, Function.comp_def]

/-- The records a quarantine file lists. -/
def QuarantineFile.records (file : QuarantineFile) : List StoredRecord :=
  match file.content.get "quarantined" with
  | .arr items => items.filterMap StoredRecord.ofItem?
  | _ => []

def quarantinedRecords (files : RecoveryFiles) : List EscrowRecord :=
  files.quarantine.flatMap fun file => file.records.map StoredRecord.record

theorem records_quarantineContent (name : String) (requestId : JsValue)
    (state : NotaryAuthoritativeState) (records : List StoredRecord) (prefixLen : ℕ) :
    QuarantineFile.records
        ⟨name, (quarantineContent requestId state records prefixLen).viaJson⟩ =
      (records.drop prefixLen).map reread := by
  have hget : (quarantineContent requestId state records prefixLen).viaJson.get "quarantined" =
      .arr ((records.drop prefixLen).map fun stored => stored.item.viaJson) := by
    have hlisted : (quarantineContent requestId state records prefixLen).get "quarantined" =
        .arr ((records.drop prefixLen).map StoredRecord.item) := by
      simp [quarantineContent, JsValue.get]
    have hobject : ∃ members,
        quarantineContent requestId state records prefixLen = .obj members := ⟨_, rfl⟩
    rw [get_viaJson hobject hlisted (by simp), JsValue.viaJson, itemsViaJson_eq_map, List.map_map]
    rfl
  rw [QuarantineFile.records]
  simp only [hget, filterMap_ofItem?_viaJson]

@[simp] theorem merkleOfStored_map_reread (records : List StoredRecord) :
    merkleOfStored sha256 (records.map reread) = merkleOfStored sha256 records := by
  simp [merkleOfStored, Function.comp_def]

theorem getAllRecords_initializeStore (store : Store) :
    getAllRecords (initializeStore store) = getAllRecords store := by
  simp [getAllRecords, initializeStore_of_initialized]

/-! ## The split -/

/-- The ledger holds the first `k` records, the quarantine file the others, no longer prefix has
the notary's root, and the checkpoint is that of the ledger. -/
structure SplitAt (sha256 : Sha256) (updatedAt : IsoTime) (root : String)
    (records : List StoredRecord) (k : ℕ) (file : QuarantineFile) (after : Store) : Prop where
  le_length : k ≤ records.length
  ledger : (getAllRecords after).1 = (records.take k).map reread
  quarantine : file.records = (records.drop k).map reread
  root_eq : (merkleOfStored sha256 (getAllRecords after).1).root = root
  longest : ∀ j, k < j → j ≤ records.length →
    (merkleOfStored sha256 (records.take j)).root ≠ root
  checkpoint : ∃ before, after = writeCheckpoint root k updatedAt before

theorem truncateLedger_splitAt {state : NotaryAuthoritativeState} {records : List StoredRecord}
    {k : ℕ} (hfound : healedPrefixLen sha256 records state.root records.length = some k)
    (updatedAt : IsoTime) (name : String) (requestId : JsValue) (store : Store)
    (files : RecoveryFiles) (hinit : store.storeInitialized = true) :
    SplitAt sha256 updatedAt state.root records k
      ⟨name, (quarantineContent requestId state records k).viaJson⟩
      (truncateLedger sha256 updatedAt name requestId state records k store files).1 := by
  obtain ⟨hk, hmatch, hlonger⟩ := healedPrefixLen_eq_some.1 hfound
  have hroot := (prefixMatches_iff hk).1 hmatch
  have hread : (getAllRecords (truncateLedger sha256 updatedAt name requestId state records k
      store files).1).1 = (records.take k).map reread := by
    rw [getAllRecords, initializeStore_of_initialized (by exact hinit)]
    exact congrArg (·.getD [])
      (readAllRecordsInternal_writeLedger_toEntry (records.take k) store)
  refine ⟨hk, hread, records_quarantineContent .., ?_, ?_, ?_⟩
  · rw [hread, merkleOfStored_map_reread, hroot]
  · intro j hkj hj hroot'
    have := (prefixMatches_iff hj).2 hroot'
    rw [hlonger j hkj hj] at this
    cases this
  · refine ⟨writeLedger ((records.take k).map StoredRecord.toEntry) store, ?_⟩
    simp only [truncateLedger, hroot, getLeafCount_take hk]

/-- A heal that resolves with `ok` splits the records between ledger and quarantine file at the
longest prefix with the notary's root; one that resolves without leaves records and checkpoint
alone. -/
theorem heal_conserves (platform : RecoveryPlatform) (env : RecoveryEnv) (clock : HealClock)
    (replies : ℕ → NotaryReply) (payload : JsValue) (store after : Store)
    (files afterFiles : RecoveryFiles) (outcome : AdminRecoveryOutcome)
    (hnew : includesRequest (readRecoveryRequests files.requests)
      (payload.get "requestId") = false)
    (hresult : attemptHealAndReturnOutcome platform env clock replies payload store files =
      (after, afterFiles, .ok outcome)) :
    (outcome.ok = true → ∃ state k file, fetchAuthoritativeState replies = some state ∧
      outcome.healedLeafCount = some k ∧ outcome.quarantineFile = some file.name ∧
      afterFiles.quarantine = files.quarantine ++ [file] ∧
      SplitAt platform.sha256 clock.updatedAt state.root (getAllRecords store).1 k file after) ∧
    (outcome.ok = false → (getAllRecords after).1 = (getAllRecords store).1 ∧
      after.checkpoint = store.checkpoint) := by
  have hends := attemptHeal_ends platform env clock replies payload store files
  rw [hresult] at hends
  cases hends with
  | recorded hrecorded => cases hnew.symm.trans hrecorded
  | stopped _ _ hstore hstopped =>
      have hfails := hstopped outcome rfl
      refine ⟨fun hok => ?_, fun _ => ?_⟩
      · cases hfails.symm.trans hok
      · rcases List.mem_pair.1 hstore with rfl | rfl
        · exact ⟨rfl, rfl⟩
        · exact ⟨congrArg Prod.fst (getAllRecords_initializeStore store),
            initializeStore_checkpoint store⟩
  | healed _ hheals =>
      have hk := (healedPrefixLen_eq_some.1 hheals.found).1
      refine ⟨fun _ => ⟨_, _, _, hheals.fetched, congrArg some (getLeafCount_take hk), rfl, rfl,
        truncateLedger_splitAt hheals.found _ _ _ _ _ (storeInitialized_initializeStore store)⟩,
        fun hfails => by cases hfails⟩

def sampleSecond : EscrowRecord :=
  { sampleRecord with transactionId := "tx_746e742d323a6163632d383a3235" }

def sampleSecondLeaf : HexDigest :=
  ⟨"3269d252d94a468a5378481e77a524164a06851fe314a14dd5b4890cede43a48", by decide⟩

/-- SHA-256 on the texts of the two records' tree and on the message that is signed. -/
def healSha256 : Sha256 := fun text =>
  if text = leafText sampleRecord then sampleRoot
  else if text = leafText sampleSecond then sampleSecondLeaf
  else if text = merkleNodeText sampleRoot.text sampleSecondLeaf.text then
    ⟨"a8f9e0119779f2fcf333e1578b7525df77dcde13e829d47001ec0503fb9f2ce4", by decide⟩
  else ⟨"bff6b96e50c3ba269c38611e4a526c68517c4d9736a1d3fef6bb26505cd5c32a", by decide⟩

def healPlatform : RecoveryPlatform where
  sha256 := healSha256
  rsa key _ signature := some (key = "KEY-A" && signature = "6a1f")
  dateParse := sampleDateParse

def oneOfficer : RecoveryEnv := ⟨some "KEY-A", some "1"⟩

def signedRequest : JsValue :=
  .obj [("requestId", "r1"), ("action", "LEDGER_UNFREEZE_RITUAL"),
    ("expiresAt", "2100-01-01T00:00:00.000Z"),
    ("signatures", .arr [.obj [("officerPublicKey", "KEY-A"), ("signatureHex", "6a1f")]])]

def healClock : HealClock := ⟨.ofInt 1700000000000, .ofInt 1700000000000, sampleTime⟩

/-- Two records of which only the first was anchored. -/
def twoRecords : Store where
  ledger := some (.json (.arr ([sampleRecord, sampleSecond].map fun r => r.toRow.toJs)))
  checkpoint := none
  storeInitialized := true

def sampleHeal : Store × RecoveryFiles × Except HealFailure AdminRecoveryOutcome :=
  attemptHealAndReturnOutcome healPlatform oneOfficer healClock (notaryWithRoot sampleRoot.text)
    signedRequest twoRecords ⟨none, []⟩

theorem sampleHeal_eq :
    ∃ outcome, attemptHealAndReturnOutcome healPlatform oneOfficer healClock
        (notaryWithRoot sampleRoot.text) signedRequest twoRecords ⟨none, []⟩ =
          (sampleHeal.1, sampleHeal.2.1, .ok outcome) ∧
      outcome.ok = true ∧ outcome.healedLeafCount = some 1 := by
  have hhealed : (sampleHeal.2.2.toOption.map fun outcome =>
      (outcome.ok, outcome.healedLeafCount)) = some (true, some 1) := by
    decide +kernel
  have hrun : attemptHealAndReturnOutcome healPlatform oneOfficer healClock
      (notaryWithRoot sampleRoot.text) signedRequest twoRecords ⟨none, []⟩ = sampleHeal := rfl
  generalize sampleHeal = run at hrun hhealed ⊢
  obtain ⟨after, afterFiles, result⟩ := run
  cases result with
  | error failure => cases hhealed
  | ok outcome => exact ⟨outcome, hrun, by simpa [Except.toOption] using hhealed⟩

theorem heal_conserves_sample :
    ∃ outcome : AdminRecoveryOutcome, (outcome.ok = true ∧ outcome.healedLeafCount = some 1) ∧
      ((outcome.ok = true → ∃ state k file,
          fetchAuthoritativeState (notaryWithRoot sampleRoot.text) = some state ∧
          outcome.healedLeafCount = some k ∧ outcome.quarantineFile = some file.name ∧
          sampleHeal.2.1.quarantine = [] ++ [file] ∧
          SplitAt healSha256 sampleTime state.root (getAllRecords twoRecords).1 k file
            sampleHeal.1) ∧
        (outcome.ok = false → (getAllRecords sampleHeal.1).1 = (getAllRecords twoRecords).1 ∧
          sampleHeal.1.checkpoint = twoRecords.checkpoint)) := by
  obtain ⟨outcome, hrun, hhealed⟩ := sampleHeal_eq
  exact ⟨outcome, hhealed, heal_conserves healPlatform oneOfficer healClock
    (notaryWithRoot sampleRoot.text) signedRequest twoRecords sampleHeal.1 ⟨none, []⟩
    sampleHeal.2.1 outcome rfl hrun⟩

end UniverEscrow.Admin
