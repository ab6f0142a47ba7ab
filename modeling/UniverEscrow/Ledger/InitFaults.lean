import UniverEscrow.Ledger.SaveFaults

/-!
# An initialisation whose file operations fail

The first call that needs the store creates the directory, looks at the ledger file and leaves a
JSON array in it; every other call awaits the promise of that one attempt.  The flag that the
store is initialised is set once the directory is there, whatever becomes of the file.
-/

namespace UniverEscrow.Ledger

open UniverEscrow.Js UniverEscrow.Merkle UniverEscrow.Lib.Run UniverEscrow.Lib.KeyedList
open UniverEscrow.Lib.PromiseChain

structure InitFaults where
  mkdirFails : Bool
  /-- `existsSync` does not throw: it answers that there is no file. -/
  existsFails : Bool
  readFails : Bool
  /-- What a failing write of the empty array leaves in the ledger file. -/
  write : Option (Option FileText)
  /-- The same for the write in the `catch` around the parse, where the write before it failed. -/
  rewrite : Option (Option FileText)

def InitFaults.none : InitFaults := ⟨false, false, false, Option.none, Option.none⟩

/-- Write an empty array into the ledger file; the flag says that this did not throw. -/
def writeEmptyLedger (fault : Option (Option FileText)) (store : Store) : Store × Bool :=
  match fault with
  | some left => ({ store with ledger := left }, false)
  | none => ({ store with ledger := some (.ofJson (.arr [])) }, true)

/-- The file holds JSON other than an array: a failing write is caught and done again. -/
def replaceNonArray (faults : InitFaults) (store : Store) : Store × Bool :=
  if (writeEmptyLedger faults.write store).2 then writeEmptyLedger faults.write store
  else writeEmptyLedger faults.rewrite (writeEmptyLedger faults.write store).1

def ensureLedgerFile (faults : InitFaults) (store : Store) : Store × Bool :=
  match if faults.existsFails then none else store.ledger with
  | none => writeEmptyLedger faults.write store
  | some text =>
      if faults.readFails then (store, false)
      else
        match text with
        | .json (.arr _) => (store, true)
        | .json _ => replaceNonArray faults store
        | _ => writeEmptyLedger faults.write store

/-- The one attempt to initialise the store. -/
def initializeOnce (faults : InitFaults) (store : Store) : Store × Bool :=
  if faults.mkdirFails then (store, false)
  else
    ({ (ensureLedgerFile faults store).1 with storeInitialized := true },
      (ensureLedgerFile faults store).2)

/-- A process and the ledger store it uses. -/
structure LedgerProcess where
  chain : SaveChain
  /-- Whether the promise of the attempt has been fulfilled; `none` before the first call. -/
  initLock : Option Bool
  /-- The saves that were rejected by the initialisation. -/
  refused : List (InitFaults × FaultySave)

/-- `getRecord` and `getAllRecords` are one event: the change they make is the initialisation. -/
inductive LedgerEvent where
  | save (init : InitFaults) (call : FaultySave)
  | read (init : InitFaults)
  | enqueue (i : ℕ)
  | start (i : ℕ)
  | finish (i : ℕ)

namespace LedgerProcess

/-- The process has just started on the files. -/
def boot (dir : DataDir) : LedgerProcess where
  chain := .start { dir with store := { dir.store with storeInitialized := false } }
  initLock := none
  refused := []

def setStore (store : Store) (sys : LedgerProcess) : LedgerProcess :=
  { sys with chain := { sys.chain with dir := { sys.chain.dir with store := store } } }

/-- `initializeStore` of a call; the flag says that it did not reject. -/
def initializeStore (init : InitFaults) (sys : LedgerProcess) : LedgerProcess × Bool :=
  if sys.chain.dir.store.storeInitialized then (sys, true)
  else
    match sys.initLock with
    | some fulfilled => (sys, fulfilled)
    | none =>
        let attempt := initializeOnce init sys.chain.dir.store
        ({ sys.setStore attempt.1 with initLock := some attempt.2 }, attempt.2)

/-- What a caller gets that nothing else comes in between. -/
def getAllRecords (init : InitFaults) (readFails : Bool) (sys : LedgerProcess) :
    List EscrowRecord :=
  if (sys.initializeStore init).2 && !readFails then (sys.initializeStore init).1.chain.ledger
  else []

variable (sha256 : Sha256)

def step (sys : LedgerProcess) : LedgerEvent → LedgerProcess
  | .save init call =>
      let (sys, fulfilled) := sys.initializeStore init
      if fulfilled then { sys with chain := sys.chain.step sha256 (.save call) }
      else { sys with refused := sys.refused ++ [(init, call)] }
  | .read init => (sys.initializeStore init).1
  | .enqueue i => { sys with chain := sys.chain.step sha256 (.enqueue i) }
  | .start i => { sys with chain := sys.chain.step sha256 (.start i) }
  | .finish i => { sys with chain := sys.chain.step sha256 (.finish i) }

/-- A save with nothing else running, once every save before it has settled. -/
def saveAlone (call : FaultySave) (sys : LedgerProcess) : LedgerProcess :=
  run (step sha256) sys [.save .none call, .enqueue 0, .start sys.chain.writeQueue.length,
    .finish sys.chain.writeQueue.length]

end LedgerProcess

/-- What a reader finds in a ledger file. -/
def recordsIn? (file : Option FileText) : Option (List EscrowRecord) :=
  (readAllRecordsInternal ⟨file, none, true⟩).map (List.map StoredRecord.record)

/-- The records that were saved before the process started. -/
def recordsBefore (file : Option FileText) : List EscrowRecord :=
  match file with
  | some (.json (.arr _)) => (recordsIn? file).getD []
  | _ => []

/-- What the operations of the first call may do to the ledger file. -/
def InitFaults.Harmless (init : InitFaults) (file : Option FileText) : Prop :=
  init.mkdirFails = false ∧
    match if init.existsFails then .none else file with
    -- a file that is not seen is overwritten
    | .none =>
        match init.write with
        | .none => recordsBefore file = []
        | some left => recordsIn? left = some (recordsBefore file)
    | some text =>
        if init.readFails then (recordsIn? file).isSome = true
        else
          match text with
          | .json (.arr _) => True
          | .json _ =>
              match init.write, init.rewrite with
              | some _, some left => recordsIn? left = some []
              | _, _ => True
          | _ =>
              match init.write with
              | .none => True
              | some left => recordsIn? left = some []

namespace LedgerProcess

variable (sha256 : Sha256)

/-- Calls whose file operations succeed get what has been saved so far, and save. -/
structure Recovered (before : List EscrowRecord) (sys : LedgerProcess) : Prop where
  reads : sys.getAllRecords .none false =
    upsertAll EscrowRecord.transactionId before sys.chain.saved
  /-- The next save resolves, where the array has room, and is read with all before it. -/
  saves : sys.chain.Settled → ∀ call : FaultySave, call.faults.Clear →
    maxArrayLength ≤ (sys.getAllRecords .none false).length ∨
      outcomes (sys.saveAlone sha256 call).chain.writeQueue =
          outcomes sys.chain.writeQueue ++ [(call, none)] ∧
        (sys.saveAlone sha256 call).getAllRecords .none false =
          upsertAll EscrowRecord.transactionId before (sys.chain.saved ++ [call.record])
  /-- Nor has any other save been rejected whose operations succeed. -/
  resolved : ∀ call failure, (call, some failure) ∈ outcomes sys.chain.writeQueue →
    call.faults.Clear → maxArrayLength ≤ (sys.getAllRecords .none false).length
  admitted : ∀ call, (InitFaults.none, call) ∉ sys.refused

/-- The call that attempts the initialisation does no harm to the ledger file. -/
def InitHarmless (sys : LedgerProcess) : LedgerEvent → Prop
  | .save init _ => sys.initLock = none → init.Harmless sys.chain.dir.store.ledger
  | .read init => sys.initLock = none → init.Harmless sys.chain.dir.store.ledger
  | _ => True

end LedgerProcess

/-! ## What the attempt leaves -/

theorem map_readAllRecordsInternal (store : Store) :
    (readAllRecordsInternal store).map (List.map StoredRecord.record) = recordsIn? store.ledger :=
  rfl

/-- A file that is read is read as the records that were saved. -/
theorem recordsIn?_eq_recordsBefore {file : Option FileText} (h : (recordsIn? file).isSome = true) :
    recordsIn? file = some (recordsBefore file) := by
  unfold recordsBefore
  split
  · obtain ⟨records, hrecords⟩ := Option.isSome_iff_exists.1 h
    rw [hrecords, Option.getD_some]
  · rename_i hne
    match file, h with
    | some .empty, _ => rfl
    | some (.json v), _ =>
        cases v with
        | arr items => exact absurd rfl (hne items)
        | _ => rfl

theorem recordsIn?_eq_iff {file : Option FileText} :
    recordsIn? file = some (recordsBefore file) ↔ (recordsIn? file).isSome = true := by
  constructor
  · intro h
    rw [h]
    rfl
  · exact recordsIn?_eq_recordsBefore

theorem recordsIn?_writeEmptyLedger (fault : Option (Option FileText)) (store : Store) :
    recordsIn? (writeEmptyLedger fault store).1.ledger =
      match fault with
      | none => some []
      | some left => recordsIn? left := by
  cases fault <;> rfl

theorem recordsIn?_replaceNonArray (faults : InitFaults) (store : Store) :
    recordsIn? (replaceNonArray faults store).1.ledger =
      match faults.write, faults.rewrite with
      | some _, some left => recordsIn? left
      | _, _ => some [] := by
  unfold replaceNonArray
  cases faults.write with
  | none => rfl
  | some left =>
      simp only [writeEmptyLedger, Bool.false_eq_true, if_false]
      cases faults.rewrite <;> rfl

/-- After an attempt that got to the file, a reader finds the records there were exactly where its
operations did no harm. -/
theorem recordsIn?_ensureLedgerFile_iff {init : InitFaults} {store : Store}
    (hmkdir : init.mkdirFails = false) :
    recordsIn? (ensureLedgerFile init store).1.ledger = some (recordsBefore store.ledger) ↔
      init.Harmless store.ledger := by
  unfold ensureLedgerFile InitFaults.Harmless
  rw [and_iff_right hmkdir]
  cases hseen : if init.existsFails then none else store.ledger with
  | none =>
      simp only [recordsIn?_writeEmptyLedger]
      cases init.write with
      | none => exact ⟨fun h => (Option.some.inj h).symm, fun h => by rw [h]⟩
      | some left => rfl
  | some text =>
      have hfile : store.ledger = some text := by
        split_ifs at hseen
        exact hseen
      cases hread : init.readFails with
      | true =>
          simp only [if_true]
          exact recordsIn?_eq_iff
      | false =>
          simp only [Bool.false_eq_true, if_false, hfile]
          cases text with
          | json v =>
              cases v with
              | arr items =>
                  simp only [iff_true, hfile]
                  exact recordsIn?_eq_recordsBefore rfl
              | _ =>
                  simp only [recordsIn?_replaceNonArray]
                  cases init.write <;> cases init.rewrite <;> simp [recordsBefore]
          | _ =>
              simp only [recordsIn?_writeEmptyLedger]
              cases init.write <;> simp [recordsBefore]

theorem ensureLedgerFile_none (store : Store) : (ensureLedgerFile .none store).2 = true := by
  unfold ensureLedgerFile
  simp only [InitFaults.none, Bool.false_eq_true, if_false]
  split
  · rfl
  · split <;> rfl

/-- An empty array that has been written is read. -/
theorem isSome_recordsIn?_of_written {fault : Option (Option FileText)} {store : Store}
    (h : (writeEmptyLedger fault store).2 = true) :
    (recordsIn? (writeEmptyLedger fault store).1.ledger).isSome = true := by
  cases fault with
  | none => rfl
  | some left => cases h

/-- An attempt that is fulfilled leaves a file that is read. -/
theorem isSome_recordsIn?_of_fulfilled {init : InitFaults} {store : Store}
    (h : (ensureLedgerFile init store).2 = true) :
    (recordsIn? (ensureLedgerFile init store).1.ledger).isSome = true := by
  unfold ensureLedgerFile at h ⊢
  cases hseen : if init.existsFails then none else store.ledger with
  | none =>
      simp only [hseen] at h ⊢
      exact isSome_recordsIn?_of_written h
  | some text =>
      have hfile : store.ledger = some text := by
        split_ifs at hseen
        exact hseen
      simp only [hseen] at h ⊢
      cases hread : init.readFails with
      | true => simp [hread] at h
      | false =>
          simp only [hread, Bool.false_eq_true, if_false] at h ⊢
          split at h
          · rw [hfile]
            rfl
          · unfold replaceNonArray at h ⊢
            split_ifs at h ⊢
            · exact isSome_recordsIn?_of_written h
            · exact isSome_recordsIn?_of_written h
          · exact isSome_recordsIn?_of_written h

namespace LedgerProcess

variable {sha256 : Sha256} {sys : LedgerProcess} {init : InitFaults} {dir : DataDir}

theorem initializeStore_of_initialized (h : sys.chain.dir.store.storeInitialized = true)
    (init : InitFaults) : sys.initializeStore init = (sys, true) := if_pos h

theorem getAllRecords_of_initialized (h : sys.chain.dir.store.storeInitialized = true) :
    sys.getAllRecords .none false = sys.chain.ledger := by
  simp [getAllRecords, initializeStore_of_initialized h]

/-- The process after its first call has attempted the initialisation. -/
def attempted (init : InitFaults) (dir : DataDir) : LedgerProcess :=
  ((boot dir).initializeStore init).1

theorem initializeStore_boot (init : InitFaults) (dir : DataDir) :
    (boot dir).initializeStore init =
      (attempted init dir, (initializeOnce init (boot dir).chain.dir.store).2) := rfl

theorem chain_attempted (init : InitFaults) (dir : DataDir) :
    (attempted init dir).chain =
      .start ⟨(initializeOnce init (boot dir).chain.dir.store).1, dir.temp⟩ := rfl

theorem initLock_attempted (init : InitFaults) (dir : DataDir) :
    (attempted init dir).initLock = some (initializeOnce init (boot dir).chain.dir.store).2 := rfl

theorem settled_start (dir : DataDir) : (SaveChain.start dir).Settled :=
  ⟨rfl, by intro link hlink; cases hlink⟩

theorem initializeOnce_of_mkdir (hmkdir : init.mkdirFails = false) (store : Store) :
    initializeOnce init store =
      ({ (ensureLedgerFile init store).1 with storeInitialized := true },
        (ensureLedgerFile init store).2) := by
  rw [initializeOnce, hmkdir]
  rfl

theorem storeInitialized_attempted (hmkdir : init.mkdirFails = false) (dir : DataDir) :
    (attempted init dir).chain.dir.store.storeInitialized = true := by
  rw [chain_attempted, initializeOnce_of_mkdir hmkdir]
  rfl

theorem ledger_attempted (hmkdir : init.mkdirFails = false) (dir : DataDir) :
    (attempted init dir).chain.dir.store.ledger =
      (ensureLedgerFile init (boot dir).chain.dir.store).1.ledger := by
  rw [chain_attempted, initializeOnce_of_mkdir hmkdir]
  rfl

theorem ledger_eq_getD (chain : SaveChain) :
    chain.ledger = (recordsIn? chain.dir.store.ledger).getD [] := by
  rw [← map_readAllRecordsInternal, SaveChain.ledger]
  cases readAllRecordsInternal chain.dir.store <;> rfl

/-! ## A process whose store has not been harmed -/

/-- The initialisation has not been attempted, or did no harm to the ledger file. -/
inductive Sound (dir : DataDir) (sys : LedgerProcess) : Prop where
  | fresh (h : sys = boot dir)
  | live (initialized : sys.chain.dir.store.storeInitialized = true)
      (attempted : sys.initLock.isSome = true)
      (invariant : sys.chain.Invariant (recordsBefore dir.store.ledger) true)
      (admitted : ∀ call, (InitFaults.none, call) ∉ sys.refused)

/-- After a harmless attempt the saves start on the records there were. -/
theorem invariant_attempted (h : init.Harmless dir.store.ledger) :
    (attempted init dir).chain.Invariant (recordsBefore dir.store.ledger) true := by
  have hrecords : recordsIn? (attempted init dir).chain.dir.store.ledger =
      some (recordsBefore dir.store.ledger) := by
    rw [ledger_attempted h.1]
    exact (recordsIn?_ensureLedgerFile_iff h.1).2 h
  have hstart := SaveChain.start_invariant (storeInitialized_attempted h.1 dir)
  have hsame : SaveChain.start (attempted init dir).chain.dir = (attempted init dir).chain := rfl
  have hread : (readAllRecordsInternal (attempted init dir).chain.dir.store).isSome = true := by
    rw [← Option.isSome_map (f := List.map StoredRecord.record), map_readAllRecordsInternal,
      hrecords]
    rfl
  rw [hsame, hread, ledger_eq_getD, hrecords, Option.getD_some] at hstart
  exact hstart

theorem none_harmless (file : Option FileText) : InitFaults.none.Harmless file := by
  refine ⟨rfl, ?_⟩
  cases file with
  | none => rfl
  | some text =>
      simp only [InitFaults.none, Bool.false_eq_true, if_false]
      split <;> trivial

/-- Only a call with a failing operation is rejected by the attempt. -/
theorem ne_none_of_rejected (h : (initializeOnce init (boot dir).chain.dir.store).2 = false) :
    init ≠ .none := by
  rintro rfl
  rw [initializeOnce_of_mkdir rfl, ensureLedgerFile_none] at h
  cases h

theorem step_save_boot (init : InitFaults) (call : FaultySave) (dir : DataDir) :
    (boot dir).step sha256 (.save init call) =
      if (initializeOnce init (boot dir).chain.dir.store).2 then
        { attempted init dir with chain := (attempted init dir).chain.step sha256 (.save call) }
      else { attempted init dir with refused := [(init, call)] } := rfl

theorem sound_attempted (h : init.Harmless dir.store.ledger) : Sound dir (attempted init dir) :=
  .live (storeInitialized_attempted h.1 dir) rfl (invariant_attempted h)
    fun _ hmem => by cases hmem

theorem Sound.chainStep (h : Sound dir sys) (hinit : sys.initLock.isSome = true)
    (event : SaveEvent) : Sound dir { sys with chain := sys.chain.step sha256 event } := by
  cases h with
  | fresh h =>
      rw [h] at hinit
      cases hinit
  | live initialized attempted invariant admitted =>
      have hstep : (sys.chain.step sha256 event).Invariant (recordsBefore dir.store.ledger) true :=
        invariant.step event
      exact .live hstep.initialized attempted hstep admitted

theorem Sound.step (h : Sound dir sys) {event : LedgerEvent} (hevent : sys.InitHarmless event) :
    Sound dir (sys.step sha256 event) := by
  cases h with
  | fresh h =>
      subst h
      cases event with
      | save init call =>
          have hharmless : init.Harmless dir.store.ledger := hevent rfl
          have hsound := sound_attempted hharmless
          rw [step_save_boot]
          split_ifs with hfulfilled
          · exact hsound.chainStep rfl (.save call)
          · cases hsound with
            | fresh hboot => cases congrArg LedgerProcess.initLock hboot
            | live initialized attempted invariant _ =>
                refine .live initialized attempted invariant fun other hmem => ?_
                have hpair := List.mem_singleton.1 hmem
                have hrejected := ne_none_of_rejected (by simpa using hfulfilled)
                exact hrejected (Prod.mk.inj hpair).1.symm
      | read init =>
          have hharmless : init.Harmless dir.store.ledger := hevent rfl
          exact sound_attempted hharmless
      | enqueue i => exact .fresh rfl
      | start i => exact .fresh rfl
      | finish i => exact .fresh rfl
  | live initialized attempted invariant admitted =>
      have hsound : Sound dir sys := .live initialized attempted invariant admitted
      cases event with
      | save init call =>
          simp only [LedgerProcess.step, initializeStore_of_initialized initialized, if_true]
          exact hsound.chainStep attempted (.save call)
      | read init =>
          simp only [LedgerProcess.step, initializeStore_of_initialized initialized]
          exact hsound
      | enqueue i => exact hsound.chainStep attempted (.enqueue i)
      | start i => exact hsound.chainStep attempted (.start i)
      | finish i => exact hsound.chainStep attempted (.finish i)

/-! ## What its callers get -/

variable (sha256) in
theorem saveAlone_of_initialized (h : sys.chain.dir.store.storeInitialized = true)
    (call : FaultySave) :
    sys.saveAlone sha256 call =
      { sys with
        chain := run (SaveChain.step sha256) sys.chain
          [.save call, .enqueue 0, .start sys.chain.writeQueue.length,
            .finish sys.chain.writeQueue.length] } := by
  simp only [saveAlone, run_cons, run_nil, step, initializeStore_of_initialized h, if_true]

theorem saved_of_outcomes {chain chain' : SaveChain} {call : FaultySave}
    {failure : Option SaveFailure}
    (h : outcomes chain'.writeQueue = outcomes chain.writeQueue ++ [(call, failure)]) :
    chain'.saved = chain.saved ++ (SaveChain.savedRecord? (call, failure)).toList := by
  rw [SaveChain.saved, SaveChain.saved, h, List.filterMap_append]
  cases hsaved : SaveChain.savedRecord? (call, failure) <;> simp [hsaved]

theorem recovered_of_live {before : List EscrowRecord}
    (hinit : sys.chain.dir.store.storeInitialized = true)
    (h : sys.chain.Invariant before true)
    (hadmitted : ∀ call, (InitFaults.none, call) ∉ sys.refused) :
    sys.Recovered sha256 before where
  reads := by rw [getAllRecords_of_initialized hinit, h.ledger]
  saves := by
    intro hsettled call hclear
    have hinvariant : (run (SaveChain.step sha256) sys.chain [.save call, .enqueue 0,
        .start sys.chain.writeQueue.length, .finish sys.chain.writeQueue.length]).Invariant
          before true :=
      run_of_step (fun _ event h => h.step event) h
    have houtcomes := (SaveChain.run_alone sha256 hsettled call).2
    have hsaved := saved_of_outcomes houtcomes
    have hafter := saveAlone_of_initialized sha256 hinit call
    cases hfailure : (saveRecordWithFaults sha256 call.faults call.updatedAt
        call.record.toRow.toJs sys.chain.dir).2 with
    | none =>
        right
        rw [hfailure] at houtcomes hsaved
        rw [hafter, getAllRecords_of_initialized hinvariant.initialized]
        exact ⟨houtcomes, by rw [hinvariant.ledger, hsaved]; rfl⟩
    | some failure =>
        left
        rw [hfailure] at houtcomes hsaved
        have hmem : (call, some failure) ∈ outcomes (run (SaveChain.step sha256) sys.chain
            [.save call, .enqueue 0, .start sys.chain.writeQueue.length,
              .finish sys.chain.writeQueue.length]).writeQueue := by
          rw [houtcomes]
          exact List.mem_append_right _ List.mem_cons_self
        have hfull := hinvariant.clear rfl call failure hmem hclear
        -- the save that was turned away has left the ledger as it was
        rw [hinvariant.ledger, hsaved] at hfull
        rw [getAllRecords_of_initialized hinit, h.ledger]
        simpa [SaveChain.savedRecord?] using hfull
  resolved := by
    rw [getAllRecords_of_initialized hinit]
    exact h.clear rfl
  admitted := hadmitted

/-- The attempt of a call whose operations succeed is one of its own. -/
theorem saveAlone_boot (call : FaultySave) (dir : DataDir) :
    (boot dir).saveAlone sha256 call = (attempted .none dir).saveAlone sha256 call := by
  have hinit : (attempted .none dir).chain.dir.store.storeInitialized = true :=
    storeInitialized_attempted rfl dir
  have hstep : (boot dir).step sha256 (.save .none call) =
      (attempted .none dir).step sha256 (.save .none call) := by
    rw [step_save_boot, initializeOnce_of_mkdir rfl, ensureLedgerFile_none, if_pos rfl]
    simp only [step, initializeStore_of_initialized hinit, if_true]
  simp only [saveAlone, run_cons, hstep]
  rfl

theorem recovered_boot (dir : DataDir) :
    (boot dir).Recovered sha256 (recordsBefore dir.store.ledger) := by
  have hinit : (attempted .none dir).chain.dir.store.storeInitialized = true :=
    storeInitialized_attempted rfl dir
  have hinvariant := invariant_attempted (none_harmless dir.store.ledger)
  have hattempted : (attempted .none dir).Recovered sha256 (recordsBefore dir.store.ledger) :=
    recovered_of_live hinit hinvariant fun _ hmem => by cases hmem
  have hreads : (boot dir).getAllRecords .none false =
      (attempted .none dir).getAllRecords .none false := by
    rw [getAllRecords_of_initialized hinit, getAllRecords, initializeStore_boot,
      initializeOnce_of_mkdir rfl, ensureLedgerFile_none]
    rfl
  refine ⟨?_, ?_, ?_, ?_⟩
  · rw [hreads]
    exact hattempted.reads
  · intro _ call hclear
    rw [hreads, saveAlone_boot]
    exact hattempted.saves (settled_start _) call hclear
  · intro call failure hmem
    cases hmem
  · intro call hmem
    cases hmem

theorem Sound.recovered (h : Sound dir sys) :
    sys.Recovered sha256 (recordsBefore dir.store.ledger) := by
  cases h with
  | fresh h =>
      rw [h]
      exact recovered_boot dir
  | live initialized _ invariant admitted =>
      exact recovered_of_live initialized invariant admitted

/-! ## A process whose store has been harmed -/

/-- The flag has not been set and every later call awaits a promise that has been rejected. -/
structure Dead (sys : LedgerProcess) : Prop where
  uninitialized : sys.chain.dir.store.storeInitialized = false
  rejected : sys.initLock = some false

theorem Dead.initializeStore (h : sys.Dead) (init : InitFaults) :
    sys.initializeStore init = (sys, false) := by
  simp [LedgerProcess.initializeStore, h.uninitialized, h.rejected]

theorem Dead.getAllRecords (h : sys.Dead) : sys.getAllRecords .none false = [] := by
  simp [LedgerProcess.getAllRecords, h.initializeStore]

theorem Dead.saveAlone (h : sys.Dead) (hsettled : sys.chain.Settled) (call : FaultySave) :
    (sys.saveAlone sha256 call).chain = sys.chain := by
  obtain ⟨hpending, -⟩ := hsettled
  simp [LedgerProcess.saveAlone, step, h.initializeStore, SaveChain.step, hpending, startable?,
    running?]

def sampleCall : FaultySave := ⟨sampleRecord, sampleTime, .none⟩

theorem lt_maxArrayLength : ¬ maxArrayLength ≤ ([] : List EscrowRecord).length := by
  simp [maxArrayLength]

theorem not_recovered_of_outcomes {before : List EscrowRecord} (hsettled : sys.chain.Settled)
    (hempty : sys.getAllRecords .none false = [])
    (hrejects : outcomes (sys.saveAlone sha256 sampleCall).chain.writeQueue ≠
      outcomes sys.chain.writeQueue ++ [(sampleCall, none)]) : ¬ sys.Recovered sha256 before := by
  intro h
  rcases h.saves hsettled sampleCall SaveFaults.none_clear with hfull | ⟨hresolves, -⟩
  · rw [hempty] at hfull
    exact lt_maxArrayLength hfull
  · exact hrejects hresolves

theorem Dead.not_recovered {before : List EscrowRecord} (h : sys.Dead)
    (hsettled : sys.chain.Settled) : ¬ sys.Recovered sha256 before := by
  apply not_recovered_of_outcomes hsettled h.getAllRecords
  rw [h.saveAlone hsettled]
  simp

/-- Neither does a store recover whose file is no JSON. -/
theorem not_recovered_of_unreadable {before : List EscrowRecord}
    (hinit : sys.chain.dir.store.storeInitialized = true) (hsettled : sys.chain.Settled)
    (hread : recordsIn? sys.chain.dir.store.ledger = none) : ¬ sys.Recovered sha256 before := by
  have hunreadable : readAllRecordsInternal sys.chain.dir.store = none := by
    rw [← map_readAllRecordsInternal, Option.map_eq_none_iff] at hread
    exact hread
  apply not_recovered_of_outcomes hsettled
  · rw [getAllRecords_of_initialized hinit, ledger_eq_getD, hread]
    rfl
  · rw [saveAlone_of_initialized sha256 hinit, (SaveChain.run_alone sha256 hsettled _).2]
    have hobject : sampleCall.record.toRow.toJs.isObject = true := rfl
    have hclear : sampleCall.faults.readFails = false := rfl
    simp [saveRecordWithFaults, hobject, Ledger.initializeStore_of_initialized hinit,
      readWithFaults, hclear, hunreadable]

/-- A process whose attempt left a file that is read as other records than there were. -/
theorem eq_of_reads {before records : List EscrowRecord}
    (hinit : sys.chain.dir.store.storeInitialized = true) (hsaved : sys.chain.saved = [])
    (hread : recordsIn? sys.chain.dir.store.ledger = some records)
    (h : sys.Recovered sha256 before) : records = before := by
  have hreads := h.reads
  rw [getAllRecords_of_initialized hinit, ledger_eq_getD, hread, hsaved] at hreads
  exact hreads

/-- No call gets past an attempt that could not create the directory. -/
theorem dead_of_mkdirFails (hmkdir : init.mkdirFails = true)
    (hstore : sys.chain.dir.store = (attempted init dir).chain.dir.store)
    (hlock : sys.initLock = (attempted init dir).initLock) : sys.Dead := by
  have honce : initializeOnce init (boot dir).chain.dir.store =
      ((boot dir).chain.dir.store, false) := by
    rw [initializeOnce, hmkdir]
    rfl
  constructor
  · rw [hstore, chain_attempted, honce]
    rfl
  · rw [hlock, initLock_attempted, honce]

/-- Right after the attempt a process has recovered only where it did no harm. -/
theorem harmless_of_recovered
    (hstore : sys.chain.dir.store = (attempted init dir).chain.dir.store)
    (hlock : sys.initLock = (attempted init dir).initLock) (hsaved : sys.chain.saved = [])
    (hsettled : (initializeOnce init (boot dir).chain.dir.store).2 = false → sys.chain.Settled)
    (h : sys.Recovered sha256 (recordsBefore dir.store.ledger)) :
    init.Harmless dir.store.ledger := by
  cases hmkdir : init.mkdirFails with
  | true =>
      exfalso
      have hrejected : (initializeOnce init (boot dir).chain.dir.store).2 = false := by
        rw [initializeOnce, hmkdir]
        rfl
      exact (dead_of_mkdirFails hmkdir hstore hlock).not_recovered (hsettled hrejected) h
  | false =>
      have hinit : sys.chain.dir.store.storeInitialized = true := by
        rw [hstore]
        exact storeInitialized_attempted hmkdir dir
      have hledger : sys.chain.dir.store.ledger =
          (ensureLedgerFile init (boot dir).chain.dir.store).1.ledger := by
        rw [hstore, ledger_attempted hmkdir]
      cases hread : recordsIn? sys.chain.dir.store.ledger with
      | none =>
          exfalso
          have hrejected : (initializeOnce init (boot dir).chain.dir.store).2 = false := by
            rw [initializeOnce_of_mkdir hmkdir]
            by_contra hfulfilled
            have hsome := isSome_recordsIn?_of_fulfilled (by simpa using hfulfilled)
            rw [← hledger, hread] at hsome
            cases hsome
          exact not_recovered_of_unreadable hinit (hsettled hrejected) hread h
      | some records =>
          have hbefore := eq_of_reads hinit hsaved hread h
          rw [hbefore, hledger] at hread
          have hharmless : init.Harmless (boot dir).chain.dir.store.ledger :=
            (recordsIn?_ensureLedgerFile_iff hmkdir).1 hread
          exact hharmless

theorem mkdirFails_of_fulfilled (h : (initializeOnce init (boot dir).chain.dir.store).2 = true) :
    init.mkdirFails = false := by
  cases hmkdir : init.mkdirFails with
  | true => simp [initializeOnce, hmkdir] at h
  | false => rfl

theorem harmless_of_recovered_save {call : FaultySave}
    (h : ((boot dir).step sha256 (.save init call)).Recovered sha256
      (recordsBefore dir.store.ledger)) : init.Harmless dir.store.ledger := by
  rw [step_save_boot] at h
  split_ifs at h with hfulfilled
  · have hinit := storeInitialized_attempted (mkdirFails_of_fulfilled hfulfilled) dir
    refine harmless_of_recovered ?_ ?_ ?_ (fun hrejected => ?_) h
    · rw [SaveChain.step_save hinit]
    · rfl
    · rw [SaveChain.step_save hinit]
      rfl
    · rw [hfulfilled] at hrejected
      cases hrejected
  · refine harmless_of_recovered ?_ ?_ ?_ (fun _ => ?_) h
    · rfl
    · rfl
    · rfl
    · exact settled_start _

theorem harmless_of_recovered_read
    (h : ((boot dir).step sha256 (.read init)).Recovered sha256
      (recordsBefore dir.store.ledger)) : init.Harmless dir.store.ledger := by
  have hattempted : (attempted init dir).Recovered sha256 (recordsBefore dir.store.ledger) := h
  exact harmless_of_recovered rfl rfl rfl (fun _ => settled_start _) hattempted

theorem Sound.initHarmless (hsound : Sound dir sys) {event : LedgerEvent}
    (h : (sys.step sha256 event).Recovered sha256 (recordsBefore dir.store.ledger)) :
    sys.InitHarmless event := by
  cases hsound with
  | fresh hboot =>
      subst hboot
      cases event with
      | save init call => exact fun _ => harmless_of_recovered_save h
      | read init => exact fun _ => harmless_of_recovered_read h
      | _ => trivial
  | live _ attempted _ _ =>
      have htried : sys.initLock ≠ none := by
        intro hnone
        rw [hnone] at attempted
        cases attempted
      cases event with
      | save init call => exact fun hnone => absurd hnone htried
      | read init => exact fun hnone => absurd hnone htried
      | _ => trivial

/-- After any calls and any failures callers get what has been saved so far, and the next save
resolves, exactly where the call that attempted the initialisation did no harm. -/
theorem recovered_iff (sha256 : Sha256) (dir : DataDir) (events : List LedgerEvent) :
    Throughout (step sha256) (Recovered sha256 (recordsBefore dir.store.ledger)) (boot dir)
        events ↔
      EachStep (step sha256) InitHarmless (boot dir) events := by
  have hkeeps : ∀ sys event, Sound dir sys → InitHarmless sys event →
      Sound dir (sys.step sha256 event) := fun _ _ hsound hevent => hsound.step hevent
  constructor
  · intro h
    have hstep : ∀ sys event, Sound dir sys → True → True →
        (sys.step sha256 event).Recovered sha256 (recordsBefore dir.store.ledger) →
          InitHarmless sys event := fun _ _ hsound _ _ hrecovered => hsound.initHarmless hrecovered
    exact eachStep_of_throughout hkeeps hstep (.fresh rfl) eachStep_true eachStep_true h
  · intro h
    have hsound := throughout_of_step hkeeps (.fresh rfl) h
    exact hsound.mono fun _ hsys => hsys.recovered

/-! ### Two first calls -/

/-- A ledger file with one record. -/
def savedDir : DataDir :=
  ⟨⟨some (.ofJson (.arr [sampleRecord.toRow.toJs])), none, false⟩, none⟩

def mkdirFault : InitFaults := { InitFaults.none with mkdirFails := true }

def existsFault : InitFaults := { InitFaults.none with existsFails := true }

theorem dead_of_mkdirFault : ((boot savedDir).step raceSha256 (.read mkdirFault)).Dead :=
  ⟨rfl, rfl⟩

/-- After a first call that could not create the directory every save is rejected and every reader
gets nothing; after one that could not see the ledger file it has been overwritten. -/
theorem first_call_harms :
    recordsBefore savedDir.store.ledger = [sampleRecord] ∧
      ¬ Throughout (step raceSha256) (Recovered raceSha256 (recordsBefore savedDir.store.ledger))
        (boot savedDir) [.read mkdirFault] ∧
      (run (step raceSha256) (boot savedDir)
        [.read mkdirFault, .save .none sampleCall]).refused = [(.none, sampleCall)] ∧
      (run (step raceSha256) (boot savedDir) [.read mkdirFault]).getAllRecords .none false = [] ∧
      (run (step raceSha256) (boot savedDir) [.read existsFault]).getAllRecords .none false =
        [] := by
  refine ⟨by decide +kernel, ?_, rfl, rfl, rfl⟩
  intro h
  exact dead_of_mkdirFault.not_recovered (settled_start _) h.run

end LedgerProcess

end UniverEscrow.Ledger
