import UniverEscrow.Ledger.SaveCoherence

/-!
# Records other than the saved one

A save compares the id it is passed, stores the text of that id, and leaves out of later reads
whatever the type guard rejects.  Whatever object it is given, it changes what is stored under
one id at most, the text of the object's own.
-/

namespace UniverEscrow.Ledger

open UniverEscrow.Js UniverEscrow.Merkle UniverEscrow.Lib.KeyedList

/-- The save of the object stores something under the id. -/
def StoresUnder (record : JsValue) (transactionId : String) : Prop :=
  (record.get "transactionId").toText = some transactionId

/-- The entry reads back as a record with the id. -/
def rereadsUnder (transactionId : String) (entry : LedgerEntry) : Bool :=
  (EscrowRecord.ofJs? entry.item.viaJson).any fun r => r.transactionId = transactionId

theorem find?_set_of_false {α : Type*} {p : α → Bool} {xs : List α} {i : ℕ} {a b : α}
    (hget : xs[i]? = some b) (hb : p b = false) (ha : p a = false) :
    (xs.set i a).find? p = xs.find? p := by
  induction xs generalizing i with
  | nil => rfl
  | cons x xs ih =>
      cases i with
      | zero =>
          have hx : x = b := by simpa using hget
          simp [hx, ha, hb]
      | succ i =>
          have htail : xs[i]? = some b := by simpa using hget
          rw [List.set_cons_succ, List.find?_cons, List.find?_cons, ih htail]

theorem rereadsUnder_toEntry (transactionId : String) (stored : StoredRecord) :
    rereadsUnder transactionId stored.toEntry =
      decide (stored.record.transactionId = transactionId) := by
  rw [rereadsUnder, stored.toEntry_holds.2, Option.any_some]

theorem rereadsUnder_row {row : LedgerRow} {transactionId : String}
    (hne : row.transactionId ≠ transactionId) :
    rereadsUnder transactionId row.toEntry = false := by
  have hid : row.toJs.viaJson.get "transactionId" = .str row.transactionId :=
    get_viaJson (v := .str row.transactionId) ⟨_, rfl⟩ rfl (by simp)
  rw [rereadsUnder, Option.any_eq_false]
  intro r hr
  obtain ⟨htx, -⟩ := EscrowRecord.ofJs?_eq_some.1 hr
  have hsame : row.transactionId = r.transactionId := JsValue.str.inj (hid.symm.trans htx)
  simpa [← hsame] using hne

/-- Looking an id up in a file a save has written. -/
theorem storedUnder_persist (sha256 : Sha256) (updatedAt : IsoTime) (entries : List LedgerEntry)
    {store : Store} (hinit : store.storeInitialized = true) (transactionId : String) :
    storedUnder (.str transactionId) (persist sha256 updatedAt entries store) =
      (entries.find? (rereadsUnder transactionId)).bind
        fun entry => EscrowRecord.ofJs? entry.item.viaJson := by
  have hread : readAllRecordsInternal
      (initializeStore (persist sha256 updatedAt entries store)) =
        some ((entries.map fun entry => entry.item.viaJson).filterMap StoredRecord.ofItem?) := by
    rw [initializeStore_of_initialized (by exact hinit)]
    simp [persist, readAllRecordsInternal, writeLedger, parseLedgerFile, FileText.ofJson,
      JsValue.viaJson, itemsViaJson_eq_map, List.map_map, Function.comp_def]
  have hrecord : ∀ item, (StoredRecord.ofItem? item).map StoredRecord.record =
      EscrowRecord.ofJs? item := by
    intro item
    cases h : EscrowRecord.ofJs? item with
    | none =>
        unfold StoredRecord.ofItem?
        split
        · simp_all
        · rfl
    | some record => rw [StoredRecord.ofItem?_eq h]; rfl
  rw [storedUnder_eq_find? hread, List.map_filterMap, List.filterMap_map, List.find?_filterMap]
  simp only [Function.comp_def, hrecord]
  rfl

/-- Where every entry the update replaces or adds reads back under another id, if at all, the
lookup does not change. -/
theorem storedUnder_upsert {store : Store} {existing : List StoredRecord} {record : JsValue}
    {normalized : LedgerRow} {entries : List LedgerEntry} {transactionId : String}
    (sha256 : Sha256) (updatedAt : IsoTime)
    (hinit : store.storeInitialized = true)
    (hread : readAllRecordsInternal store = some existing)
    (hnormal : normalizeRecord record = some normalized)
    (hupsert : upsert existing record normalized = some entries)
    (hne : ¬ StoresUnder record transactionId) :
    storedUnder (.str transactionId) (persist sha256 updatedAt entries store) =
      storedUnder (.str transactionId) store := by
  have htext : (record.get "transactionId").toText = some normalized.transactionId := by
    simp only [normalizeRecord, Option.bind_eq_bind, Option.bind_eq_some_iff] at hnormal
    obtain ⟨text, htext, _, -, _, -, _, -, hreturn⟩ := hnormal
    cases hreturn
    exact htext
  have hrow : rereadsUnder transactionId normalized.toEntry = false := by
    apply rereadsUnder_row
    intro hsame
    exact hne (hsame ▸ htext)
  have hbefore : storedUnder (.str transactionId) store =
      ((existing.map StoredRecord.toEntry).find? (rereadsUnder transactionId)).bind
        fun entry => EscrowRecord.ofJs? entry.item.viaJson := by
    rw [storedUnder_eq_find? (by rwa [initializeStore_of_initialized hinit]), List.find?_map,
      List.find?_map]
    simp only [Function.comp_def, rereadsUnder_toEntry, Option.bind_map]
    cases existing.find? fun r => decide (r.record.transactionId = transactionId) with
    | none => rfl
    | some stored => exact stored.toEntry_holds.2.symm
  rw [storedUnder_persist sha256 updatedAt entries hinit, hbefore]
  congr 1
  unfold upsert at hupsert
  dsimp only at hupsert
  split at hupsert
  · rename_i idx hidx
    cases hupsert
    obtain ⟨hlt, hsame, -⟩ := List.findIdx?_eq_some_iff_getElem.1 hidx
    have hid : existing[idx].record.transactionId ≠ transactionId := by
      intro hid
      rw [sameTransactionId, JsValue.isStr_iff, hid] at hsame
      exact hne (by rw [StoresUnder, hsame]; rfl)
    have hget : (existing.map StoredRecord.toEntry)[idx]? = some existing[idx].toEntry := by
      simp [hlt]
    apply find?_set_of_false hget _ hrow
    rw [rereadsUnder_toEntry]
    exact decide_eq_false hid
  · split_ifs at hupsert
    cases hupsert
    rw [List.find?_append, List.find?_singleton, hrow]
    simp

/-- A save leaves what is stored under ids other than its own, whatever it is given. -/
theorem storedUnder_saveStep_of_not_storesUnder (sha256 : Sha256) (store : Store)
    (call : SaveCall) {transactionId : String} (hne : ¬ StoresUnder call.record transactionId) :
    storedUnder (.str transactionId) (saveStep sha256 store call) =
      storedUnder (.str transactionId) store := by
  by_cases hresolves : Resolves sha256 store call
  · obtain ⟨existing, normalized, entries, hread, hnormal, hupsert, hsave⟩ :=
      hresolves.eq_persist
    rw [hsave, storedUnder_upsert sha256 call.updatedAt (storeInitialized_initializeStore store)
      hread hnormal hupsert hne, storedUnder_initializeStore]
  · rcases saveStep_of_not_resolves hresolves with hsame | hsame
    · rw [hsame]
    · rw [hsame, storedUnder_initializeStore]

/-- A resolved save of an object that passes the guard stores it under its id. -/
theorem storedUnder_saveStep_self {sha256 : Sha256} {store : Store} {call : SaveCall}
    (hresolves : Resolves sha256 store call) (hguard : passesGuard call.record = true) :
    ∃ stored : EscrowRecord, call.record.get "transactionId" = .str stored.transactionId ∧
      normalizeRecord call.record = some stored.toRow ∧
      storedUnder (.str stored.transactionId) (saveStep sha256 store call) = some stored := by
  obtain ⟨existing, normalized, hread, hnormal, hcommit⟩ := hresolves.eq_commitRecord
  obtain ⟨record, hid, rfl⟩ := exists_toRow_of_passesGuard hguard hnormal
  obtain ⟨records, hrecords, hmap⟩ := commitRecord_records hid hnormal hcommit
  have hinit := hresolves.initializeStore_saveStep
  refine ⟨record, hid, hnormal, ?_⟩
  rw [storedUnder_eq_find? (hinit.symm ▸ hrecords), hmap, find?_upsertBy, if_pos rfl]

end UniverEscrow.Ledger
