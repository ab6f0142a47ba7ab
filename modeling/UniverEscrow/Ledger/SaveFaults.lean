import UniverEscrow.Ledger.WriteQueue
import UniverEscrow.Lib.PromiseChain

/-!
# Saves whose file operations fail

A save reads the ledger file, writes the new ledger into a temporary file, renames that over the
ledger file and writes the checkpoint.  Every one of these may throw, and a write that throws
may leave anything in its target.  A failing checkpoint write is swallowed; after any other
failure the save tries to remove its temporary file and throws.
-/

namespace UniverEscrow.Ledger

open UniverEscrow.Js UniverEscrow.Merkle UniverEscrow.Lib.Run UniverEscrow.Lib.KeyedList
open UniverEscrow.Lib.PromiseChain

structure SaveFaults where
  readFails : Bool
  /-- What a failing write leaves in the temporary file. -/
  tempWrite : Option (Option FileText)
  renameFails : Bool
  unlinkFails : Bool
  /-- What a failing write leaves in the checkpoint file. -/
  checkpointWrite : Option (Option FileText)

def SaveFaults.none : SaveFaults := ⟨false, Option.none, false, false, Option.none⟩

/-- Reading, writing the temporary file and renaming it succeed. -/
structure SaveFaults.Clear (faults : SaveFaults) : Prop where
  read : faults.readFails = false
  tempWrite : faults.tempWrite = Option.none
  rename : faults.renameFails = false

theorem SaveFaults.none_clear : SaveFaults.none.Clear := ⟨rfl, rfl, rfl⟩

structure DataDir where
  store : Store
  /-- The file beside the ledger that a save renames over it. -/
  temp : Option FileText

def readWithFaults (faults : SaveFaults) (store : Store) : Option (List StoredRecord) :=
  if faults.readFails then none else readAllRecordsInternal store

/-- The array a save writes; `none` where a coercion or `push` throws. -/
def updatedEntries (existing : List StoredRecord) (record : JsValue) : Option (List LedgerEntry) :=
  (normalizeRecord record).bind (upsert existing record)

/-- Write the temporary file and rename it; the flag says that neither threw. -/
def DataDir.replaceLedger (faults : SaveFaults) (entries : List LedgerEntry) (dir : DataDir) :
    DataDir × Bool :=
  match faults.tempWrite with
  | some left => ({ dir with temp := left }, false)
  | none =>
      let temp := some (FileText.ofJson (.arr (entries.map LedgerEntry.item)))
      if faults.renameFails then ({ dir with temp := temp }, false)
      else ({ store := { dir.store with ledger := temp }, temp := none }, true)

/-- The recovery in the `catch` of a save. -/
def DataDir.removeTemp (faults : SaveFaults) (dir : DataDir) : DataDir :=
  if faults.unlinkFails then dir else { dir with temp := none }

/-- `writeCheckpoint` swallows the error of its write. -/
def tryWriteCheckpoint (faults : SaveFaults) (root : String) (leafCount : ℕ)
    (updatedAt : IsoTime) (store : Store) : Store :=
  match faults.checkpointWrite with
  | some left => { store with checkpoint := left }
  | none => writeCheckpoint root leafCount updatedAt store

variable (sha256 : Sha256)

/-- The part of a save after it has read the ledger. -/
def commitWithFaults (faults : SaveFaults) (updatedAt : IsoTime) (existing : List StoredRecord)
    (record : JsValue) (dir : DataDir) : DataDir × Option SaveFailure :=
  match updatedEntries existing record with
  | none => (dir.removeTemp faults, some .platformError)
  | some entries =>
      let (dir, replaced) := dir.replaceLedger faults entries
      if replaced then
        let merkle := buildMerkleForLedger sha256 (entries.map LedgerEntry.row)
        ({ dir with
            store := tryWriteCheckpoint faults merkle.root merkle.tree.getLeafCount updatedAt
              dir.store }, none)
      else (dir.removeTemp faults, some .platformError)

/-- The files after a save with nothing else running, and why it throws, if it does. -/
def saveRecordWithFaults (faults : SaveFaults) (updatedAt : IsoTime) (record : JsValue)
    (dir : DataDir) : DataDir × Option SaveFailure :=
  if !record.isObject then (dir, some .notAnObject)
  else
    let dir := { dir with store := initializeStore dir.store }
    match readWithFaults faults dir.store with
    | none => (dir.removeTemp faults, some .unreadableStore)
    | some existing => commitWithFaults sha256 faults updatedAt existing record dir

variable {sha256}

/-! ## One save -/

@[simp] theorem DataDir.removeTemp_store (faults : SaveFaults) (dir : DataDir) :
    (dir.removeTemp faults).store = dir.store := by
  unfold removeTemp
  split_ifs <;> rfl

theorem DataDir.replaceLedger_of_clear {faults : SaveFaults} (hclear : faults.Clear)
    (entries : List LedgerEntry) (dir : DataDir) :
    dir.replaceLedger faults entries = (⟨writeLedger entries dir.store, none⟩, true) := by
  simp [replaceLedger, hclear.tempWrite, hclear.rename, writeLedger]

/-- Either the rename has put the new ledger in place, or the store is as it was. -/
theorem DataDir.replaceLedger_cases (faults : SaveFaults) (entries : List LedgerEntry)
    (dir : DataDir) :
    dir.replaceLedger faults entries = (⟨writeLedger entries dir.store, none⟩, true) ∨
      ∃ temp, dir.replaceLedger faults entries = ({ dir with temp := temp }, false) := by
  unfold replaceLedger
  cases faults.tempWrite with
  | some left => exact .inr ⟨left, rfl⟩
  | none =>
      dsimp only
      split_ifs
      · exact .inr ⟨_, rfl⟩
      · exact .inl rfl

variable (sha256) in
/-- What the write half of a save can do: throw and leave the store, or put the updated array in
place and leave some checkpoint. -/
theorem commitWithFaults_cases (faults : SaveFaults) (updatedAt : IsoTime)
    (existing : List StoredRecord) (record : JsValue) (dir : DataDir) :
    ((commitWithFaults sha256 faults updatedAt existing record dir).2 = some .platformError ∧
        (commitWithFaults sha256 faults updatedAt existing record dir).1.store = dir.store) ∨
      ∃ entries checkpoint, updatedEntries existing record = some entries ∧
        (commitWithFaults sha256 faults updatedAt existing record dir).2 = none ∧
        (commitWithFaults sha256 faults updatedAt existing record dir).1.store =
          { writeLedger entries dir.store with checkpoint := checkpoint } := by
  unfold commitWithFaults
  cases updatedEntries existing record with
  | none => exact .inl ⟨rfl, dir.removeTemp_store faults⟩
  | some entries =>
      rcases dir.replaceLedger_cases faults entries with hdone | ⟨temp, hfailed⟩
      · refine .inr ⟨entries, ?_⟩
        simp only [hdone, if_true, tryWriteCheckpoint]
        cases faults.checkpointWrite with
        | some left => exact ⟨left, trivial, trivial, rfl⟩
        | none => exact ⟨_, trivial, trivial, rfl⟩
      · left
        simp [hfailed]

theorem store_of_commitWithFaults_failed {faults : SaveFaults} {updatedAt : IsoTime}
    {existing : List StoredRecord} {record : JsValue} {dir : DataDir} {failure : SaveFailure}
    (hfailure : (commitWithFaults sha256 faults updatedAt existing record dir).2 = some failure) :
    (commitWithFaults sha256 faults updatedAt existing record dir).1.store = dir.store := by
  rcases commitWithFaults_cases sha256 faults updatedAt existing record dir with
    ⟨-, hstore⟩ | ⟨entries, checkpoint, -, hresolves, -⟩
  · exact hstore
  · rw [hresolves] at hfailure
    cases hfailure

/-- A save that throws leaves ledger and checkpoint as they were. -/
theorem dataFiles_of_saveRecordWithFaults {faults : SaveFaults} {updatedAt : IsoTime}
    {record : JsValue} {dir : DataDir} (hinit : dir.store.storeInitialized = true)
    (hthrows : (saveRecordWithFaults sha256 faults updatedAt record dir).2 ≠ none) :
    (saveRecordWithFaults sha256 faults updatedAt record dir).1.store.dataFiles =
      dir.store.dataFiles := by
  unfold saveRecordWithFaults at hthrows ⊢
  rw [initializeStore_of_initialized hinit] at hthrows ⊢
  cases hobject : record.isObject with
  | false => rfl
  | true =>
      simp only [hobject, Bool.not_true, Bool.false_eq_true, if_false] at hthrows ⊢
      cases hread : readWithFaults faults dir.store with
      | none => simp
      | some existing =>
          simp only [hread] at hthrows ⊢
          obtain ⟨failure, hfailure⟩ := Option.ne_none_iff_exists'.1 hthrows
          rw [store_of_commitWithFaults_failed hfailure]

theorem commitRecord_eq_map (updatedAt : IsoTime) (existing : List StoredRecord)
    (record : JsValue) (store : Store) :
    commitRecord sha256 updatedAt existing record store =
      (updatedEntries existing record).map fun entries =>
        persist sha256 updatedAt entries store := by
  unfold commitRecord updatedEntries
  cases normalizeRecord record with
  | none => rfl
  | some normalized =>
      simp only [Option.bind_eq_bind, Option.bind_some]
      cases upsert existing record normalized <;> rfl

/-- Where every file operation succeeds, a save does what it does on the store alone. -/
theorem saveRecordWithFaults_none (updatedAt : IsoTime) (record : JsValue) (dir : DataDir) :
    (saveRecordWithFaults sha256 .none updatedAt record dir).1.store =
        (saveRecord sha256 updatedAt record dir.store).1 ∧
      (saveRecordWithFaults sha256 .none updatedAt record dir).2 =
        (saveRecord sha256 updatedAt record dir.store).2 := by
  unfold saveRecordWithFaults saveRecord
  cases record.isObject with
  | false => exact ⟨rfl, rfl⟩
  | true =>
      have hread : readWithFaults .none (initializeStore dir.store) =
          readAllRecordsInternal (initializeStore dir.store) := rfl
      simp only [Bool.not_true, Bool.false_eq_true, if_false, hread]
      cases readAllRecordsInternal (initializeStore dir.store) with
      | none => exact ⟨by simp, rfl⟩
      | some existing =>
          simp only [commitRecord_eq_map, commitWithFaults]
          cases updatedEntries existing record with
          | none => exact ⟨by simp, rfl⟩
          | some entries =>
              simp only [DataDir.replaceLedger_of_clear SaveFaults.none_clear, if_true]
              exact ⟨rfl, rfl⟩

/-- Only an array at its length limit makes a save throw whose file operations succeed. -/
theorem length_of_commitWithFaults {faults : SaveFaults} {updatedAt : IsoTime}
    {existing : List StoredRecord} {record : EscrowRecord} {dir : DataDir}
    (hclear : faults.Clear)
    (hthrows : (commitWithFaults sha256 faults updatedAt existing record.toRow.toJs dir).2 ≠ none) :
    maxArrayLength ≤ existing.length := by
  cases hentries : updatedEntries existing record.toRow.toJs with
  | none =>
      have hcommit : commitRecord sha256 updatedAt existing record.toRow.toJs dir.store = none := by
        rw [commitRecord_eq_map, hentries, Option.map_none]
      exact SaveHistory.length_of_commitRecord_eq_none hcommit
  | some entries =>
      exfalso
      apply hthrows
      simp [commitWithFaults, hentries, DataDir.replaceLedger_of_clear hclear]

/-- A save that resolves upserts the records it has read. -/
theorem records_of_commitWithFaults {faults : SaveFaults} {updatedAt : IsoTime}
    {existing : List StoredRecord} {record : EscrowRecord} {dir : DataDir}
    (hresolves :
      (commitWithFaults sha256 faults updatedAt existing record.toRow.toJs dir).2 = none) :
    (commitWithFaults sha256 faults updatedAt existing record.toRow.toJs
          dir).1.store.storeInitialized = dir.store.storeInitialized ∧
      ∃ stored, readAllRecordsInternal
          (commitWithFaults sha256 faults updatedAt existing record.toRow.toJs dir).1.store =
            some stored ∧
        stored.map StoredRecord.record =
          upsertBy EscrowRecord.transactionId record (existing.map StoredRecord.record) := by
  rcases commitWithFaults_cases sha256 faults updatedAt existing record.toRow.toJs dir
    with ⟨hthrows, -⟩ | ⟨entries, checkpoint, hentries, -, hstore⟩
  · rw [hresolves] at hthrows
    cases hthrows
  · have hupsert : upsert existing record.toRow.toJs record.toRow = some entries := by
      simpa [updatedEntries, normalizeRecord_toRow] using hentries
    obtain ⟨hholds, -⟩ := upsert_wellFormed (get_transactionId_toRow record) hupsert
    rw [hstore]
    exact ⟨rfl, readAllRecordsInternal_writeLedger hholds dir.store⟩

/-! ## Any number of saves -/

structure FaultySave where
  record : EscrowRecord
  updatedAt : IsoTime
  faults : SaveFaults

/-- A save in the write queue; it holds the records it has read. -/
abbrev SaveLink := Link FaultySave (List StoredRecord) (Option SaveFailure)

structure SaveChain where
  dir : DataDir
  /-- Saves that have initialised the store and not yet entered the write queue. -/
  pending : List FaultySave
  writeQueue : List SaveLink

inductive SaveEvent where
  | save (call : FaultySave)
  | enqueue (i : ℕ)
  | start (i : ℕ)
  | finish (i : ℕ)

def SaveEvent.issued? : SaveEvent → Option FaultySave
  | .save call => some call
  | _ => none

namespace SaveChain

def start (dir : DataDir) : SaveChain := ⟨dir, [], []⟩

variable (sha256) in
def step (sys : SaveChain) : SaveEvent → SaveChain
  | .save call =>
      { sys with
        dir := { sys.dir with store := initializeStore sys.dir.store }
        pending := sys.pending ++ [call] }
  | .enqueue i =>
      match sys.pending[i]? with
      | some call =>
          { sys with pending := sys.pending.eraseIdx i, writeQueue := enter call sys.writeQueue }
      | none => sys
  | .start i =>
      match startable? sys.writeQueue i with
      | some call =>
          match readWithFaults call.faults sys.dir.store with
          | some existing =>
              { sys with writeQueue := sys.writeQueue.set i ⟨call, .running existing⟩ }
          | none =>
              { sys with
                dir := sys.dir.removeTemp call.faults
                writeQueue := sys.writeQueue.set i ⟨call, .settled (some .unreadableStore)⟩ }
      | none => sys
  | .finish i =>
      match running? sys.writeQueue i with
      | some (call, existing) =>
          let (dir, failure) := commitWithFaults sha256 call.faults call.updatedAt existing
            call.record.toRow.toJs sys.dir
          { sys with dir := dir, writeQueue := sys.writeQueue.set i ⟨call, .settled failure⟩ }
      | none => sys

variable (sha256) in
/-- The state after the events, in a process that starts on the files. -/
def after (dir : DataDir) (events : List SaveEvent) : SaveChain :=
  run (step sha256) (start dir) events

/-- The record of a save that resolved. -/
def savedRecord? : FaultySave × Option SaveFailure → Option EscrowRecord
  | (call, none) => some call.record
  | _ => none

/-- The saves that resolved, in the order of the write queue. -/
def saved (sys : SaveChain) : List EscrowRecord := (outcomes sys.writeQueue).filterMap savedRecord?

/-- What readers get. -/
def ledger (sys : SaveChain) : List EscrowRecord :=
  ((readAllRecordsInternal sys.dir.store).getD []).map StoredRecord.record

/-- Every save that was called has resolved or rejected. -/
def Settled (sys : SaveChain) : Prop :=
  sys.pending = [] ∧ ∀ link ∈ sys.writeQueue, link.settled = true

/-- How much the saves under way have still to do. -/
def work (sys : SaveChain) : ℕ := 3 * sys.pending.length + Lib.PromiseChain.work sys.writeQueue

structure Invariant (initial : List EscrowRecord) (readable : Bool) (sys : SaveChain) : Prop where
  initialized : sys.dir.store.storeInitialized = true
  inOrder : InOrder sys.writeQueue
  ledger : sys.ledger = upsertAll EscrowRecord.transactionId initial sys.saved
  stillReadable : readable = true → (readAllRecordsInternal sys.dir.store).isSome = true
  /-- The save inside the lock has read the ledger as it still is. -/
  running : ∀ link ∈ sys.writeQueue, ∀ existing, link.phase = .running existing →
    existing.map StoredRecord.record = sys.ledger
  clear : readable = true → ∀ call failure, (call, some failure) ∈ outcomes sys.writeQueue →
    call.faults.Clear → maxArrayLength ≤ sys.ledger.length

variable {sys : SaveChain} {initial : List EscrowRecord} {readable : Bool}

/-! ## What an event does -/

theorem start_invariant {dir : DataDir} (hinit : dir.store.storeInitialized = true) :
    (start dir).Invariant (start dir).ledger (readAllRecordsInternal dir.store).isSome where
  initialized := hinit
  inOrder := inOrder_nil
  ledger := rfl
  stillReadable := id
  running := by intro link hlink; cases hlink
  clear := by intro _ call failure hmem; cases hmem

theorem step_save (h : sys.dir.store.storeInitialized = true) (call : FaultySave) :
    sys.step sha256 (.save call) = { sys with pending := sys.pending ++ [call] } := by
  simp only [step, initializeStore_of_initialized h]

theorem saved_enter (call : FaultySave) :
    outcomes (enter call sys.writeQueue) = outcomes sys.writeQueue := by
  simp [outcomes, enter, Link.outcome?]

theorem Invariant.enqueue (h : sys.Invariant initial readable) (i : ℕ) :
    (sys.step sha256 (.enqueue i)).Invariant initial readable := by
  simp only [step]
  split
  · rename_i call hcall
    refine ⟨h.initialized, h.inOrder.enter call, ?_, h.stillReadable, ?_, ?_⟩
    · simp only [saved, saved_enter]
      exact h.ledger
    · intro link hlink existing hrunning
      rcases List.mem_append.1 hlink with hlink | hlink
      · exact h.running link hlink existing hrunning
      · rw [List.mem_singleton.1 hlink] at hrunning
        cases hrunning
    · simp only [saved_enter]
      exact h.clear
  · exact h

theorem outcomes_of_turn {before later : List SaveLink} {old : SaveLink} (new : SaveLink)
    (hqueue : sys.writeQueue = before ++ old :: later) (hturn : Turn before later)
    (hold : old.outcome? = none) :
    outcomes (before ++ new :: later) = outcomes sys.writeQueue ++ new.outcome?.toList := by
  rw [hqueue, hturn.outcomes old, hturn.outcomes new, hold, Option.toList_none, List.append_nil]

theorem saved_of_turn {before later : List SaveLink} {old : SaveLink} (new : SaveLink)
    (dir : DataDir) (hqueue : sys.writeQueue = before ++ old :: later)
    (hturn : Turn before later) (hold : old.outcome? = none) :
    (SaveChain.mk dir sys.pending (before ++ new :: later)).saved =
      sys.saved ++ (new.outcome?.bind savedRecord?).toList := by
  unfold saved
  rw [outcomes_of_turn new hqueue hturn hold, List.filterMap_append]
  cases new.outcome? with
  | none => rfl
  | some outcome => cases houtcome : savedRecord? outcome <;> simp [houtcome]

/-- Where the link whose turn it is moves on, and the ledger with it, the invariant asks for
what is new alone. -/
theorem Invariant.advance (h : sys.Invariant initial readable) {before later : List SaveLink}
    {old new : SaveLink} {dir : DataDir} (hqueue : sys.writeQueue = before ++ old :: later)
    (hturn : Turn before later) (hold : old.outcome? = none)
    (hinit : dir.store.storeInitialized = true)
    (hledger : (SaveChain.mk dir sys.pending (before ++ new :: later)).ledger =
      upsertAll EscrowRecord.transactionId sys.ledger (new.outcome?.bind savedRecord?).toList)
    (hreadable : readable = true → (readAllRecordsInternal dir.store).isSome = true)
    (hrunning : ∀ existing, new.phase = .running existing →
      existing.map StoredRecord.record = sys.ledger)
    (hclear : readable = true → ∀ call failure, new.outcome? = some (call, some failure) →
      call.faults.Clear → maxArrayLength ≤ sys.ledger.length) :
    (SaveChain.mk dir sys.pending (before ++ new :: later)).Invariant initial readable := by
  have hgrows : sys.ledger.length ≤
      (SaveChain.mk dir sys.pending (before ++ new :: later)).ledger.length := by
    rw [hledger]
    exact length_le_upsertAll _ _
  refine ⟨hinit, hturn.inOrder new, ?_, hreadable, ?_, ?_⟩
  · rw [hledger, saved_of_turn new dir hqueue hturn hold, upsertAll_append, h.ledger]
  · intro link hlink existing hphase
    rcases List.mem_append.1 hlink with hlink | hlink
    · have hsettled := hturn.settled link hlink
      simp [Link.settled, Link.outcome?, hphase] at hsettled
    · rcases List.mem_cons.1 hlink with rfl | hlink
      -- a save inside the lock has not written
      · have hnone : link.outcome? = none := by simp [Link.outcome?, hphase]
        rw [hledger, hnone]
        exact hrunning existing hphase
      · have hwaiting : link.phase = .waiting := hturn.waiting link hlink
        rw [hwaiting] at hphase
        cases hphase
  · intro hreadable' call failure hmem hcall
    rw [outcomes_of_turn new hqueue hturn hold] at hmem
    rcases List.mem_append.1 hmem with hmem | hmem
    · exact (h.clear hreadable' call failure hmem hcall).trans hgrows
    · exact (hclear hreadable' call failure (Option.mem_toList.1 hmem) hcall).trans hgrows

theorem Invariant.start (h : sys.Invariant initial readable) (i : ℕ) :
    (sys.step sha256 (.start i)).Invariant initial readable := by
  simp only [step]
  cases hstart : startable? sys.writeQueue i with
  | none => exact h
  | some call =>
      obtain ⟨before, later, hqueue, rfl, hturn⟩ := h.inOrder.turn_of_startable hstart
      dsimp only
      cases hread : readWithFaults call.faults sys.dir.store with
      | some existing =>
          have hexisting : existing.map StoredRecord.record = sys.ledger := by
            unfold readWithFaults at hread
            split_ifs at hread
            rw [SaveChain.ledger, hread, Option.getD_some]
          simp only [hqueue, set_append_cons]
          refine h.advance hqueue hturn rfl h.initialized rfl h.stillReadable ?_ ?_
          · rintro held ⟨⟩
            exact hexisting
          · rintro _ call failure ⟨⟩
      | none =>
          simp only [hqueue, set_append_cons]
          refine h.advance hqueue hturn rfl ?_ ?_ ?_ ?_ ?_
          · rw [DataDir.removeTemp_store]
            exact h.initialized
          · simp [SaveChain.ledger, Link.outcome?, savedRecord?]
          · rw [DataDir.removeTemp_store]
            exact h.stillReadable
          · rintro held ⟨⟩
          · rintro hreadable c failure ⟨⟩ hclear
            have hsome := h.stillReadable hreadable
            rw [readWithFaults, hclear.read] at hread
            simp only [Bool.false_eq_true, if_false] at hread
            rw [hread] at hsome
            cases hsome

theorem Invariant.finish (h : sys.Invariant initial readable) (i : ℕ) :
    (sys.step sha256 (.finish i)).Invariant initial readable := by
  simp only [step]
  cases hrunning : running? sys.writeQueue i with
  | none => exact h
  | some started =>
      obtain ⟨call, existing⟩ := started
      obtain ⟨before, later, hqueue, rfl, hturn⟩ := h.inOrder.turn_of_running hrunning
      have hexisting : existing.map StoredRecord.record = sys.ledger := by
        apply h.running ⟨call, .running existing⟩
        · rw [hqueue]
          exact List.mem_append_right before List.mem_cons_self
        · rfl
      simp only [hqueue, set_append_cons]
      cases hfailure : (commitWithFaults sha256 call.faults call.updatedAt existing
          call.record.toRow.toJs sys.dir).2 with
      | some failure =>
          have hstore : (commitWithFaults sha256 call.faults call.updatedAt existing
              call.record.toRow.toJs sys.dir).1.store = sys.dir.store :=
            store_of_commitWithFaults_failed hfailure
          refine h.advance hqueue hturn rfl ?_ ?_ ?_ ?_ ?_
          · rw [hstore]
            exact h.initialized
          · simp [SaveChain.ledger, Link.outcome?, savedRecord?, hstore]
          · rw [hstore]
            exact h.stillReadable
          · rintro held ⟨⟩
          · rintro _ c f ⟨⟩ hclear
            rw [← hexisting, List.length_map]
            apply length_of_commitWithFaults hclear
            rw [hfailure]
            exact Option.some_ne_none _
      | none =>
          obtain ⟨hinit, stored, hread, hrecords⟩ := records_of_commitWithFaults hfailure
          refine h.advance hqueue hturn rfl ?_ ?_ ?_ ?_ ?_
          · rw [hinit]
            exact h.initialized
          · simp only [SaveChain.ledger, hread, Option.getD_some, hrecords, hexisting,
              Link.outcome?, savedRecord?, Option.bind_some, Option.toList_some,
              upsertAll_singleton]
          · intro _
            rw [hread]
            rfl
          · rintro held ⟨⟩
          · rintro _ c f ⟨⟩

theorem Invariant.step (h : sys.Invariant initial readable) (event : SaveEvent) :
    (sys.step sha256 event).Invariant initial readable := by
  cases event with
  | save call =>
      rw [step_save h.initialized]
      exact ⟨h.initialized, h.inOrder, h.ledger, h.stillReadable, h.running, h.clear⟩
  | enqueue i => exact h.enqueue i
  | start i => exact h.start i
  | finish i => exact h.finish i

variable (sha256) in
/-- Once every save has settled, the queue does what one save does. -/
theorem run_alone (hsettled : sys.Settled) (call : FaultySave) :
    (run (step sha256) sys [.save call, .enqueue 0, .start sys.writeQueue.length,
          .finish sys.writeQueue.length]).dir =
        (saveRecordWithFaults sha256 call.faults call.updatedAt call.record.toRow.toJs
          sys.dir).1 ∧
      outcomes (run (step sha256) sys [.save call, .enqueue 0, .start sys.writeQueue.length,
          .finish sys.writeQueue.length]).writeQueue =
        outcomes sys.writeQueue ++ [(call, (saveRecordWithFaults sha256 call.faults call.updatedAt
          call.record.toRow.toJs sys.dir).2)] := by
  obtain ⟨hpending, hqueue⟩ := hsettled
  have hobject : call.record.toRow.toJs.isObject = true := rfl
  have hlast : sys.writeQueue.getLast?.all Link.settled = true := by
    cases hlink : sys.writeQueue.getLast? with
    | none => rfl
    | some link => exact hqueue link (List.mem_of_getLast? hlink)
  cases hread : readWithFaults call.faults (initializeStore sys.dir.store) with
  | none =>
      simp [run, step, hpending, enter, startable?, running?, hlast, outcomes, Link.outcome?,
        saveRecordWithFaults, hobject, hread]
  | some existing =>
      simp [run, step, hpending, enter, startable?, running?, hlast, outcomes, Link.outcome?,
        saveRecordWithFaults, hobject, hread]

variable (sha256) in
/-- With nothing else running, the queue does what one save does. -/
theorem after_alone (dir : DataDir) (call : FaultySave) :
    (after sha256 dir [.save call, .enqueue 0, .start 0, .finish 0]).dir =
        (saveRecordWithFaults sha256 call.faults call.updatedAt call.record.toRow.toJs dir).1 ∧
      outcomes (after sha256 dir [.save call, .enqueue 0, .start 0, .finish 0]).writeQueue =
        [(call, (saveRecordWithFaults sha256 call.faults call.updatedAt call.record.toRow.toJs
          dir).2)] := by
  have hsettled : (start dir).Settled := ⟨rfl, by intro link hlink; cases hlink⟩
  exact run_alone sha256 hsettled call

/-! ## The queue goes on -/

theorem work_enqueue {i : ℕ} {call : FaultySave} (hcall : sys.pending[i]? = some call) :
    (sys.step sha256 (.enqueue i)).work < sys.work := by
  obtain ⟨hi, -⟩ := List.getElem?_eq_some_iff.1 hcall
  have hlen := List.length_eraseIdx_of_lt hi
  simp only [step, hcall, work, work_enter, hlen]
  omega

theorem work_start (h : InOrder sys.writeQueue) {i : ℕ} {call : FaultySave}
    (hstart : startable? sys.writeQueue i = some call) :
    (sys.step sha256 (.start i)).work < sys.work := by
  obtain ⟨before, later, hqueue, rfl, -⟩ := h.turn_of_startable hstart
  simp only [step, hstart]
  cases readWithFaults call.faults sys.dir.store with
  | some existing =>
      simp only [work, hqueue, set_append_cons, work_append_cons, Link.work]
      omega
  | none =>
      simp only [work, hqueue, set_append_cons, work_append_cons, Link.work]
      omega

theorem work_finish (h : InOrder sys.writeQueue) {i : ℕ}
    {started : FaultySave × List StoredRecord}
    (hrunning : running? sys.writeQueue i = some started) :
    (sys.step sha256 (.finish i)).work < sys.work := by
  obtain ⟨before, later, hqueue, rfl, -⟩ := h.turn_of_running hrunning
  simp only [step, hrunning]
  simp only [work, hqueue, set_append_cons, work_append_cons, Link.work]
  omega

/-- An event other than a call does nothing or brings the end nearer. -/
theorem step_eq_or_work_lt (h : InOrder sys.writeQueue) {event : SaveEvent}
    (hissued : event.issued? = none) :
    sys.step sha256 event = sys ∨ (sys.step sha256 event).work < sys.work := by
  cases event with
  | save call => cases hissued
  | enqueue i =>
      cases hcall : sys.pending[i]? with
      | none => exact .inl (by simp only [step, hcall])
      | some call => exact .inr (work_enqueue hcall)
  | start i =>
      cases hstart : startable? sys.writeQueue i with
      | none => exact .inl (by simp only [step, hstart])
      | some call => exact .inr (work_start h hstart)
  | finish i =>
      cases hrunning : running? sys.writeQueue i with
      | none => exact .inl (by simp only [step, hrunning])
      | some started => exact .inr (work_finish h hrunning)

/-- Until every save has settled, one of them can go on. -/
theorem exists_work_lt (h : InOrder sys.writeQueue) (hopen : ¬ sys.Settled) :
    ∃ event : SaveEvent, event.issued? = none ∧ (sys.step sha256 event).work < sys.work := by
  by_cases hpending : sys.pending = []
  · have hlink : ∃ link ∈ sys.writeQueue, link.settled = false := by
      by_contra hall
      refine hopen ⟨hpending, fun link hlink => ?_⟩
      by_contra hfalse
      exact hall ⟨link, hlink, by simpa using hfalse⟩
    obtain ⟨i, hstart | hrunning⟩ := exists_turn h hlink
    · obtain ⟨call, hcall⟩ := Option.isSome_iff_exists.1 hstart
      exact ⟨.start i, rfl, work_start h hcall⟩
    · obtain ⟨started, hstarted⟩ := Option.isSome_iff_exists.1 hrunning
      exact ⟨.finish i, rfl, work_finish h hstarted⟩
  · obtain ⟨call, rest, hcall⟩ := List.exists_cons_of_ne_nil hpending
    have hfirst : sys.pending[0]? = some call := by
      rw [hcall]
      rfl
    exact ⟨.enqueue 0, rfl, work_enqueue hfirst⟩

/-! ## What a run keeps -/

/-- An event with which no save resolves leaves ledger and checkpoint as they were. -/
theorem dataFiles_step (h : sys.Invariant initial readable) {event : SaveEvent}
    (hnone : (sys.step sha256 event).saved = sys.saved) :
    (sys.step sha256 event).dir.store.dataFiles = sys.dir.store.dataFiles := by
  cases event with
  | save call => rw [step_save h.initialized]
  | enqueue i =>
      simp only [step]
      split <;> rfl
  | start i =>
      simp only [step]
      split
      · split
        · rfl
        · rw [DataDir.removeTemp_store]
      · rfl
  | finish i =>
      cases hrunning : running? sys.writeQueue i with
      | none => simp only [step, hrunning]
      | some started =>
          obtain ⟨call, existing⟩ := started
          obtain ⟨before, later, hqueue, rfl, hturn⟩ := h.inOrder.turn_of_running hrunning
          simp only [step, hrunning] at hnone ⊢
          rcases commitWithFaults_cases sha256 call.faults call.updatedAt existing
            call.record.toRow.toJs sys.dir with ⟨-, hstore⟩ | ⟨-, -, -, hresolves, -⟩
          · exact congrArg Store.dataFiles hstore
          · exfalso
            simp only [hqueue, set_append_cons, hresolves] at hnone
            rw [saved_of_turn _ _ hqueue hturn rfl] at hnone
            simp [Link.outcome?, savedRecord?] at hnone

theorem map_call_set {call : FaultySave} {before later : List SaveLink} {old : SaveLink}
    (hqueue : sys.writeQueue = before ++ old :: later) (hcall : old.call = call)
    (phase : Phase (List StoredRecord) (Option SaveFailure)) :
    (sys.writeQueue.set before.length ⟨call, phase⟩).map Link.call =
      sys.writeQueue.map Link.call := by
  rw [hqueue, set_append_cons, List.map_append, List.map_append, List.map_cons, List.map_cons,
    hcall]

variable (sha256) in
/-- An event adds the call it issues to those under way or settled, and loses none. -/
theorem Invariant.issued_step (h : sys.Invariant initial readable) (event : SaveEvent) :
    (sys.pending ++ sys.writeQueue.map Link.call ++ event.issued?.toList).Perm
      ((sys.step sha256 event).pending ++ (sys.step sha256 event).writeQueue.map Link.call) := by
  cases event with
  | save call =>
      simp only [SaveChain.step, SaveEvent.issued?, Option.toList_some, List.append_assoc]
      exact List.perm_append_comm.append_left _
  | enqueue i =>
      simp only [SaveEvent.issued?, Option.toList_none, List.append_nil, SaveChain.step]
      cases hcall : sys.pending[i]? with
      | none => exact .refl _
      | some call =>
          obtain ⟨hi, rfl⟩ := List.getElem?_eq_some_iff.1 hcall
          simp only [enter, List.map_append, List.map_singleton]
          refine ((List.getElem_cons_eraseIdx_perm hi).symm.append_right _).trans ?_
          rw [List.cons_append, ← List.append_assoc]
          exact (List.perm_append_singleton _ _).symm
  | start i =>
      simp only [SaveEvent.issued?, Option.toList_none, List.append_nil, SaveChain.step]
      cases hstart : startable? sys.writeQueue i with
      | none => exact .refl _
      | some call =>
          obtain ⟨before, later, hqueue, rfl, -⟩ := h.inOrder.turn_of_startable hstart
          dsimp only
          split
          · rw [map_call_set hqueue rfl]
          · rw [map_call_set hqueue rfl]
  | finish i =>
      simp only [SaveEvent.issued?, Option.toList_none, List.append_nil, SaveChain.step]
      cases hrunning : running? sys.writeQueue i with
      | none => exact .refl _
      | some started =>
          obtain ⟨call, existing⟩ := started
          obtain ⟨before, later, hqueue, rfl, -⟩ := h.inOrder.turn_of_running hrunning
          dsimp only
          rw [map_call_set hqueue rfl]

theorem after_concat (dir : DataDir) (events : List SaveEvent) (event : SaveEvent) :
    after sha256 dir (events ++ [event]) = (after sha256 dir events).step sha256 event := by
  rw [after, run_append, run_cons, run_nil]
  rfl

variable (sha256) in
theorem after_invariant {dir : DataDir} (hinit : dir.store.storeInitialized = true)
    (events : List SaveEvent) :
    (after sha256 dir events).Invariant (start dir).ledger
      (readAllRecordsInternal dir.store).isSome :=
  run_of_step (fun _ event h => h.step event) (start_invariant hinit)

variable (sha256) in
theorem issued_after {dir : DataDir} (hinit : dir.store.storeInitialized = true)
    (events : List SaveEvent) :
    (events.filterMap SaveEvent.issued?).Perm
      ((after sha256 dir events).pending ++
        (after sha256 dir events).writeQueue.map Link.call) := by
  induction events using List.reverseRecOn with
  | nil => exact .nil
  | append_singleton events event ih =>
      have hstep := (after_invariant sha256 hinit events).issued_step sha256 event
      rw [after_concat, List.filterMap_append]
      refine ((ih.append_right _).trans ?_).trans hstep
      cases hissued : event.issued? <;> simp [hissued]

variable (sha256) in
/-- What a queue of saves keeps after the events, whatever operations have failed. -/
structure Kept (dir : DataDir) (events : List SaveEvent) (sys : SaveChain) : Prop where
  /-- Every call made is under way or settled, once. -/
  issued : (events.filterMap SaveEvent.issued?).Perm
    (sys.pending ++ sys.writeQueue.map Link.call)
  /-- No save starts before all that entered the queue earlier have settled. -/
  inOrder : InOrder sys.writeQueue
  /-- Of the saves whose file operations succeed only those throw that find no room. -/
  resolves : (readAllRecordsInternal dir.store).isSome = true →
    ∀ call failure, (call, some failure) ∈ outcomes sys.writeQueue → call.faults.Clear →
      maxArrayLength ≤ sys.ledger.length
  /-- Under every id readers get what the last resolved save of it has saved, else what was
  there at the start. -/
  lastSaved : ∀ transactionId,
    sys.ledger.find? (fun r => r.transactionId = transactionId) =
      (sys.saved.reverse.find? fun r => r.transactionId = transactionId).or
        ((start dir).ledger.find? fun r => r.transactionId = transactionId)
  /-- The next event leaves ledger and checkpoint as they are unless a save resolves with it. -/
  rejects : ∀ event, (sys.step sha256 event).saved = sys.saved →
    (sys.step sha256 event).dir.store.dataFiles = sys.dir.store.dataFiles
  /-- While a save is open some event brings the end nearer, and only a new call puts it off. -/
  goesOn : sys.Settled ∨
    ∃ event : SaveEvent, event.issued? = none ∧ (sys.step sha256 event).work < sys.work
  advances : ∀ event : SaveEvent, event.issued? = none →
    sys.step sha256 event = sys ∨ (sys.step sha256 event).work < sys.work

end SaveChain

/-- On an initialised store a save that throws, at whichever of its file operations, leaves
ledger and checkpoint as they were; and in any queue of saves of which any number fail, those
whose operations succeed resolve, in their turn, and readers get under each id what the last
resolved save of it has saved. -/
theorem failed_save_leaves_no_trace (sha256 : Sha256) (dir : DataDir)
    (hinit : dir.store.storeInitialized = true) :
    (∀ (faults : SaveFaults) (updatedAt : IsoTime) (record : EscrowRecord),
      (saveRecordWithFaults sha256 faults updatedAt record.toRow.toJs dir).2 ≠ none →
        (saveRecordWithFaults sha256 faults updatedAt record.toRow.toJs dir).1.store.dataFiles =
          dir.store.dataFiles) ∧
      ∀ events, (SaveChain.after sha256 dir events).Kept sha256 dir events := by
  refine ⟨fun faults updatedAt record => dataFiles_of_saveRecordWithFaults hinit, fun events => ?_⟩
  have hinv := SaveChain.after_invariant sha256 hinit events
  refine ⟨SaveChain.issued_after sha256 hinit events, hinv.inOrder, hinv.clear, fun id => ?_,
    fun event => SaveChain.dataFiles_step hinv, ?_,
    fun event => SaveChain.step_eq_or_work_lt hinv.inOrder⟩
  · rw [hinv.ledger, find?_upsertAll]
  · by_cases hsettled : (SaveChain.after sha256 dir events).Settled
    · exact .inl hsettled
    · exact .inr (SaveChain.exists_work_lt hinv.inOrder hsettled)

/-! ## A save whose rename fails -/

def freshDir : DataDir := ⟨freshAuditor.store, none⟩

def renameFault : SaveFaults := { SaveFaults.none with renameFails := true }

/-- Two saves of one id of which the second fails. -/
def failingSaves : List SaveEvent :=
  [.save ⟨sampleReleased, sampleTime, .none⟩, .save ⟨sampleRecord, sampleTime, renameFault⟩,
    .enqueue 0, .enqueue 0, .start 0, .finish 0, .start 1, .finish 1]

theorem failed_save_leaves_no_trace_rename :
    (saveRecordWithFaults raceSha256 renameFault sampleTime sampleRecord.toRow.toJs
        freshDir).1.store.dataFiles = freshDir.store.dataFiles ∧
      (SaveChain.after raceSha256 freshDir failingSaves).Kept raceSha256 freshDir failingSaves :=
  ⟨(failed_save_leaves_no_trace raceSha256 freshDir rfl).1 renameFault sampleTime sampleRecord
      (by decide +kernel),
    (failed_save_leaves_no_trace raceSha256 freshDir rfl).2 failingSaves⟩

/-- The save that resolved is the one that readers see. -/
example : (SaveChain.after raceSha256 freshDir failingSaves).saved = [sampleReleased] := by
  decide +kernel

end UniverEscrow.Ledger
