import UniverEscrow.Js.Number
import UniverEscrow.Js.OrderedMap
import UniverEscrow.Lib.Run
import Mathlib.Data.List.Sort

/-!
# LocalTransactionCache

The offline cache of the app is one SQLite table.  A row is pending while `syncedAt` is null.
Each statement runs alone: `markAsSynced` is one statement for each of its ids, every other
operation is one statement.
-/

namespace UniverEscrow.Frontend

open UniverEscrow.Js UniverEscrow.Lib.Run

/-- The values of a metadata map; a number is kept as its text. -/
inductive DartValue where
  | null
  | bool (b : Bool)
  | num (text : String)
  | str (s : String)
  | list (items : List DartValue)
  | map (entries : List (String × DartValue))
  | other

/-- `s.replaceAll('"', '\\"')`, in quotes. -/
def quoteDart (s : String) : String :=
  String.ofList ('"' :: (s.toList.flatMap fun c => if c = '"' then ['\\', '"'] else [c]) ++ ['"'])

mutual

def simpleJsonEncode : DartValue → String
  | .null => "null"
  | .bool b => if b then "true" else "false"
  | .num text => text
  | .str s => quoteDart s
  | .list items => "[" ++ ",".intercalate (encodeItems items) ++ "]"
  | .map entries => "\x7b" ++ ",".intercalate (encodeEntries entries) ++ "\x7d"
  | .other => "null"

def encodeItems : List DartValue → List String
  | [] => []
  | v :: vs => simpleJsonEncode v :: encodeItems vs

/-- The keys stand as they are, unescaped. -/
def encodeEntries : List (String × DartValue) → List String
  | [] => []
  | (key, v) :: rest => ("\"" ++ key ++ "\":" ++ simpleJsonEncode v) :: encodeEntries rest

end

def encodeJson (data : List (String × DartValue)) : String := simpleJsonEncode (.map data)

/-- The decoder is a placeholder. -/
def decodeJson (_data : String) : List (String × DartValue) := []

/-! ## The table -/

/-- The columns of a row without `syncedAt`; `amount` is a binary64 number. -/
structure Content where
  id : String
  escrowId : String
  transactionId : Option String
  provider : String
  amount : JsNumber
  currency : String
  status : String
  buyerId : String
  sellerId : String
  metadata : Option String
  integrityHash : Option String
  createdAt : ℤ
  updatedAt : ℤ
deriving DecidableEq

structure Row where
  content : Content
  syncedAt : Option ℤ
deriving DecidableEq

abbrev Table := OrderedMap String Row

/-- What the database library does: whether the rows that a query returns take an assignment. -/
structure DatabasePlatform where
  assignsRows : Bool

structure CacheParams where
  id : String
  escrowId : String
  provider : String
  amount : JsNumber
  currency : String
  buyerId : String
  sellerId : String
  transactionId : Option String
  status : Option String
  metadata : Option (List (String × DartValue))
  integrityHash : Option String

def CacheParams.content (params : CacheParams) (now : ℤ) : Content where
  id := params.id
  escrowId := params.escrowId
  transactionId := params.transactionId
  provider := params.provider
  amount := params.amount
  currency := params.currency
  status := params.status.getD "PENDING"
  buyerId := params.buyerId
  sellerId := params.sellerId
  metadata := params.metadata.map encodeJson
  integrityHash := params.integrityHash
  createdAt := now
  updatedAt := now

/-- A row with the id is replaced by one that is not synced.  SQLite keeps NaN as null, which the
column `amount` refuses. -/
def cacheTransaction (params : CacheParams) (now : ℤ) (table : Table) : Table :=
  if params.amount = .nan then table
  else (table.erase params.id).set params.id ⟨params.content now, none⟩

structure StatusUpdate where
  id : String
  status : String
  transactionId : Option String
  metadata : Option (List (String × DartValue))
  now : ℤ

/-- The columns that an update sets, on the columns of a row. -/
def StatusUpdate.content (u : StatusUpdate) (old : Content) : Content :=
  { old with
    status := u.status
    updatedAt := u.now
    transactionId := u.transactionId <|> old.transactionId
    metadata := u.metadata.map encodeJson <|> old.metadata }

/-- `UPDATE ... WHERE id = ?`. -/
def updateRow (id : String) (f : Row → Row) (table : Table) : Table :=
  match table.get? id with
  | none => table
  | some row => table.set id (f row)

def updateTransactionStatus (u : StatusUpdate) (table : Table) : Table :=
  updateRow u.id (fun row => { row with content := u.content row.content }) table

/-- The statement of `markAsSynced` for one id. -/
def markRow (id : String) (now : ℤ) (table : Table) : Table :=
  updateRow id (fun row => { row with syncedAt := some now }) table

/-- A row that is handed out: its columns, and the map put in place of the metadata. -/
structure PendingTransaction where
  content : Content
  metadata : Option (List (String × DartValue))

/-- The rows with `syncedAt IS NULL`, by `createdAt`. -/
def pendingRows (table : Table) : List Row :=
  (table.values.filter fun row => row.syncedAt.isNone).insertionSort
    fun a b => a.content.createdAt ≤ b.content.createdAt

def getPendingTransactions (platform : DatabasePlatform) (table : Table) :
    Except String (List PendingTransaction) :=
  let results := pendingRows table
  if results.isEmpty || platform.assignsRows then
    .ok (results.map fun row => ⟨row.content, row.content.metadata.map decodeJson⟩)
  else .error "Unsupported operation: read-only"

/-- The row is deleted: `syncedAt IS NOT NULL AND syncedAt < ?`. -/
def isCleared (cutoffTime : ℤ) (row : Row) : Bool := row.syncedAt.any fun t => t < cutoffTime

def cutoffTime (now olderThanDays : ℤ) : ℤ := now - olderThanDays * 86400000

/-- `DELETE FROM ... WHERE`. -/
def deleteRows (p : Row → Bool) (table : Table) : Table where
  entries := table.entries.filter fun e => !p e.2
  nodupKeys := table.nodupKeys.sublist (List.filter_sublist.map Prod.fst)

def clearOldSyncedTransactions (now olderThanDays : ℤ) (table : Table) : Table :=
  deleteRows (isCleared (cutoffTime now olderThanDays)) table

/-! ## Rows after a statement -/

section Table

variable {table : Table} {id key : String} {row : Row}

theorem get?_updateRow {f : Row → Row} :
    (updateRow id f table).get? key =
      if key = id then (table.get? id).map f else table.get? key := by
  unfold updateRow
  cases hrow : table.get? id with
  | none =>
      by_cases hkey : key = id
      · rw [if_pos hkey, hkey]
        exact hrow
      · rw [if_neg hkey]
  | some row => exact OrderedMap.get?_set _ _ _ _

theorem get?_deleteRows {p : Row → Bool} :
    (deleteRows p table).get? key = (table.get? key).filter fun row => !p row := by
  ext row
  rw [Option.filter_eq_some_iff, ← OrderedMap.mem_entries_iff, ← OrderedMap.mem_entries_iff,
    deleteRows, List.mem_filter]

theorem get?_cacheTransaction {params : CacheParams} {now : ℤ} (hamount : params.amount ≠ .nan) :
    (cacheTransaction params now table).get? key =
      if key = params.id then some ⟨params.content now, none⟩ else table.get? key := by
  rw [cacheTransaction, if_neg hamount, OrderedMap.get?_set]
  by_cases hkey : key = params.id
  · rw [if_pos hkey, if_pos hkey]
  · rw [if_neg hkey, if_neg hkey, OrderedMap.get?_erase, if_neg hkey]

/-- Setting one row keeps a property of all rows exactly where it holds of that row. -/
theorem forall_rows_iff {P : String → Row → Prop} {table' : Table}
    (hget : ∀ key, table'.get? key = if key = id then some row else table.get? key)
    (h : ∀ key old, table.get? key = some old → P key old ∨ key = id) :
    (∀ key new, table'.get? key = some new → P key new) ↔ P id row := by
  constructor
  · intro hall
    exact hall id row (by rw [hget, if_pos rfl])
  · intro hrow key new hnew
    rw [hget] at hnew
    by_cases hkey : key = id
    · rw [if_pos hkey] at hnew
      cases hnew
      exact hkey ▸ hrow
    · rw [if_neg hkey] at hnew
      cases h key new hnew with
      | inl hP => exact hP
      | inr hid => exact absurd hid hkey

theorem forall_get?_some {P : Row → Prop} (hrow : table.get? id = some row) :
    (∀ row, table.get? id = some row → P row) ↔ P row := by
  constructor
  · intro h
    exact h row hrow
  · intro h other hother
    rw [hrow] at hother
    cases hother
    exact h

theorem forall_get?_none {P : Row → Prop} (hrow : table.get? id = none) :
    ∀ row, table.get? id = some row → P row := by
  intro row hsome
  rw [hrow] at hsome
  cases hsome

/-- A clearing of everything synced by then deletes exactly the synced rows. -/
theorem deletes_iff (hrow : table.get? id = some row) :
    (∃ now olderThanDays,
        (clearOldSyncedTransactions now olderThanDays table).get? id = none) ↔
      row.syncedAt ≠ none := by
  have hcleared (now olderThanDays : ℤ) :
      (clearOldSyncedTransactions now olderThanDays table).get? id = none ↔
        isCleared (cutoffTime now olderThanDays) row = true := by
    rw [clearOldSyncedTransactions, get?_deleteRows, hrow, Option.filter_eq_none_iff]
    simp
  simp only [hcleared]
  unfold isCleared
  cases hsynced : row.syncedAt with
  | none => simp
  | some t =>
      refine iff_of_true ⟨t + 1, 0, ?_⟩ (Option.some_ne_none t)
      simp [cutoffTime]

/-- Every row stands under its own id. -/
def Keyed (table : Table) : Prop := ∀ id row, table.get? id = some row → row.content.id = id

theorem mem_pendingRows : row ∈ pendingRows table ↔ row ∈ table.values ∧ row.syncedAt = none := by
  rw [pendingRows, List.mem_insertionSort, List.mem_filter, Option.isNone_iff_eq_none]

theorem mem_values (hrow : table.get? id = some row) : row ∈ table.values :=
  List.mem_map.2 ⟨(id, row), OrderedMap.mem_entries_iff.2 hrow, rfl⟩

end Table

/-! ## Runs -/

/-- The statements of the operations. -/
inductive CacheEvent where
  | cacheTransaction (params : CacheParams) (now : ℤ)
  | updateTransactionStatus (u : StatusUpdate)
  | getPendingTransactions
  | markRow (id : String) (now : ℤ)
  | clearOldSyncedTransactions (now olderThanDays : ℤ)

def markAsSynced (ids : List String) (now : ℤ) : List CacheEvent :=
  ids.map fun id => .markRow id now

/-- The table, and what has happened to each id: its content at the last call of
`getPendingTransactions`, what such calls have handed out, its content at the call before its last
mark, and what had been handed out before a mark. -/
structure CacheRun where
  table : Table
  seen : Option ((id : String) → Option Content)
  handedOut : (id : String) → List Content
  acked : (id : String) → Option (Option Content)
  confirmed : (id : String) → List Content

def CacheRun.start : CacheRun := ⟨.empty, none, fun _ => [], fun _ => none, fun _ => []⟩

/-- The contents with the id that a call of `getPendingTransactions` hands out. -/
def returnedContents (platform : DatabasePlatform) (table : Table) (id : String) : List Content :=
  match getPendingTransactions platform table with
  | .ok rows => (rows.map PendingTransaction.content).filter fun c => c.id = id
  | .error _ => []

/-- The record after a mark of a row that is there. -/
def CacheRun.recordMark (s : CacheRun) (id : String) : CacheRun :=
  if (s.table.get? id).isSome then
    { s with acked := Function.update s.acked id (s.seen.map fun contents => contents id),
             confirmed := Function.update s.confirmed id (s.confirmed id ++ s.handedOut id) }
  else s

variable (platform : DatabasePlatform)

def cacheStep (s : CacheRun) : CacheEvent → CacheRun
  | .cacheTransaction params now => { s with table := cacheTransaction params now s.table }
  | .updateTransactionStatus u => { s with table := updateTransactionStatus u s.table }
  | .getPendingTransactions =>
      { s with seen := some fun id => (s.table.get? id).map Row.content,
               handedOut := fun id => s.handedOut id ++ returnedContents platform s.table id }
  | .markRow id now => { s.recordMark id with table := markRow id now s.table }
  | .clearOldSyncedTransactions now olderThanDays =>
      { s with table := clearOldSyncedTransactions now olderThanDays s.table }

/-- A call of `getPendingTransactions` returns the row. -/
def Returns (table : Table) (row : Row) : Prop :=
  ∃ rows, getPendingTransactions platform table = .ok rows ∧
    row.content ∈ rows.map PendingTransaction.content

/-- The next call of `getPendingTransactions` returns every row whose content is not what it was
at the call before its last mark; a clearing deletes only rows whose content has been handed
out and then marked. -/
structure NothingLost (s : CacheRun) : Prop where
  returns : ∀ id row, s.table.get? id = some row → ∀ snapshot ∈ s.acked id,
    snapshot ≠ some row.content → Returns platform s.table row
  deletes : ∀ now olderThanDays id row, s.table.get? id = some row →
    (clearOldSyncedTransactions now olderThanDays s.table).get? id = none →
      row.content ∈ s.confirmed id

/-- The rows of a query take assignments, or the content is the one at the call before the last
mark. -/
def StaysPending (s : CacheRun) (id : String) (content : Content) : Prop :=
  platform.assignsRows = true ∨ ∀ snapshot ∈ s.acked id, snapshot = some content

/-- An update of a synced row changes nothing, a mark hits only a row whose content the last call
of `getPendingTransactions` found and one has handed out, and a row stays pending. -/
def LosesNothing (s : CacheRun) : CacheEvent → Prop
  | .cacheTransaction params now =>
      params.amount = .nan ∨ StaysPending platform s params.id (params.content now)
  | .updateTransactionStatus u =>
      ∀ row, s.table.get? u.id = some row →
        if row.syncedAt = none then StaysPending platform s u.id (u.content row.content)
        else u.content row.content = row.content
  | .markRow id _ =>
      ∀ row, s.table.get? id = some row →
        s.seen.map (fun contents => contents id) = some (some row.content) ∧
          row.content ∈ s.handedOut id
  | .getPendingTransactions => True
  | .clearOldSyncedTransactions _ _ => True

/-! ## One statement -/

variable {platform} {s : CacheRun} {id : String} {row : Row}

theorem getPendingTransactions_eq_ok {table : Table} {rows : List PendingTransaction} :
    getPendingTransactions platform table = .ok rows ↔
      (pendingRows table = [] ∨ platform.assignsRows = true) ∧
        rows = (pendingRows table).map fun row =>
          ⟨row.content, row.content.metadata.map decodeJson⟩ := by
  unfold getPendingTransactions
  dsimp only
  by_cases h : ((pendingRows table).isEmpty || platform.assignsRows) = true
  · rw [if_pos h]
    rw [Bool.or_eq_true, List.isEmpty_iff] at h
    rw [Except.ok.injEq, and_iff_right h]
    exact eq_comm
  · rw [if_neg h]
    rw [Bool.or_eq_true, List.isEmpty_iff] at h
    exact iff_of_false nofun fun h' => h h'.1

/-- A row is returned exactly if it is pending and the rows take assignments. -/
theorem returns_iff {table : Table} (hkeyed : Keyed table) (hrow : table.get? id = some row) :
    Returns platform table row ↔ row.syncedAt = none ∧ platform.assignsRows = true := by
  constructor
  · intro ⟨rows, hrows, hmem⟩
    obtain ⟨hcall, rfl⟩ := getPendingTransactions_eq_ok.1 hrows
    rw [List.map_map, List.mem_map] at hmem
    obtain ⟨other, hother, hcontent⟩ := hmem
    have hne : pendingRows table ≠ [] := List.ne_nil_of_mem hother
    obtain ⟨hvalues, hpending⟩ := mem_pendingRows.1 hother
    obtain ⟨⟨key, value⟩, hentry, rfl⟩ := List.mem_map.1 hvalues
    have hget : table.get? key = some value := OrderedMap.mem_entries_iff.1 hentry
    -- a row with the same columns has the same id
    have hkey : key = id := by
      rw [← hkeyed key value hget, ← hkeyed id row hrow]
      exact congrArg Content.id hcontent
    rw [hkey, hrow] at hget
    cases hget
    exact ⟨hpending, hcall.resolve_left hne⟩
  · intro ⟨hpending, hassigns⟩
    refine ⟨_, getPendingTransactions_eq_ok.2 ⟨.inr hassigns, rfl⟩, ?_⟩
    rw [List.map_map]
    exact List.mem_map.2 ⟨row, mem_pendingRows.2 ⟨mem_values hrow, hpending⟩, rfl⟩

/-- What the record of an id has to say about its row. -/
structure RowKept (platform : DatabasePlatform) (acked : Option (Option Content))
    (confirmed : List Content) (row : Row) : Prop where
  pending : ∀ snapshot ∈ acked, snapshot ≠ some row.content →
    row.syncedAt = none ∧ platform.assignsRows = true
  synced : row.syncedAt ≠ none → row.content ∈ confirmed

theorem nothingLost_iff (hkeyed : Keyed s.table) :
    NothingLost platform s ↔ ∀ id row, s.table.get? id = some row →
      RowKept platform (s.acked id) (s.confirmed id) row := by
  constructor
  · intro h id row hrow
    constructor
    · intro snapshot hacked hne
      exact (returns_iff hkeyed hrow).1 (h.returns id row hrow snapshot hacked hne)
    · intro hsynced
      obtain ⟨now, olderThanDays, hdeleted⟩ := (deletes_iff hrow).2 hsynced
      exact h.deletes now olderThanDays id row hrow hdeleted
  · intro h
    constructor
    · intro id row hrow snapshot hacked hne
      exact (returns_iff hkeyed hrow).2 ((h id row hrow).pending snapshot hacked hne)
    · intro now olderThanDays id row hrow hdeleted
      exact (h id row hrow).synced ((deletes_iff hrow).1 ⟨now, olderThanDays, hdeleted⟩)

/-- The record is made by the calls there have been, and rows stand under their ids. -/
structure Tracked (s : CacheRun) : Prop where
  keyed : Keyed s.table
  seenNone : s.seen = none → ∀ id, s.handedOut id = []
  confirmedSub : ∀ id, s.confirmed id ⊆ s.handedOut id
  ackedNone : ∀ id, s.acked id = none → s.confirmed id = []

theorem rowKept_pending {acked : Option (Option Content)} {confirmed : List Content}
    {content : Content} :
    RowKept platform acked confirmed ⟨content, none⟩ ↔
      platform.assignsRows = true ∨ ∀ snapshot ∈ acked, snapshot = some content := by
  constructor
  · intro h
    by_cases hassigns : platform.assignsRows = true
    · exact .inl hassigns
    · refine .inr fun snapshot hacked => ?_
      by_contra hne
      exact hassigns (h.pending snapshot hacked hne).2
  · intro h
    refine ⟨fun snapshot hacked hne => ⟨rfl, ?_⟩, fun hsynced => absurd rfl hsynced⟩
    exact h.resolve_right fun hall => hne (hall snapshot hacked)

theorem rowKept_synced {acked : Option (Option Content)} {confirmed : List Content}
    {content : Content} {t : ℤ} :
    RowKept platform acked confirmed ⟨content, some t⟩ ↔
      (∀ snapshot ∈ acked, snapshot = some content) ∧ content ∈ confirmed := by
  constructor
  · intro h
    refine ⟨fun snapshot hacked => ?_, h.synced (Option.some_ne_none t)⟩
    by_contra hne
    cases (h.pending snapshot hacked hne).1
  · intro ⟨hacked, hconfirmed⟩
    exact ⟨fun snapshot h hne => absurd (hacked snapshot h) hne, fun _ => hconfirmed⟩

theorem keyed_updateRow {table : Table} {f : Row → Row} (hkeyed : Keyed table)
    (hf : ∀ row, (f row).content.id = row.content.id) : Keyed (updateRow id f table) := by
  intro key row hrow
  rw [get?_updateRow] at hrow
  by_cases hkey : key = id
  · rw [if_pos hkey] at hrow
    obtain ⟨old, hold, rfl⟩ := Option.map_eq_some_iff.1 hrow
    rw [hf, hkey]
    exact hkeyed id old hold
  · rw [if_neg hkey] at hrow
    exact hkeyed key row hrow

theorem keyed_cacheTransaction {table : Table} {params : CacheParams} {now : ℤ}
    (hkeyed : Keyed table) : Keyed (cacheTransaction params now table) := by
  by_cases hamount : params.amount = .nan
  · rw [cacheTransaction, if_pos hamount]
    exact hkeyed
  · intro key row hrow
    rw [get?_cacheTransaction hamount] at hrow
    by_cases hkey : key = params.id
    · rw [if_pos hkey] at hrow
      cases hrow
      exact hkey.symm
    · rw [if_neg hkey] at hrow
      exact hkeyed key row hrow

theorem recordMark_of_none (hrow : s.table.get? id = none) : s.recordMark id = s := by
  rw [CacheRun.recordMark, hrow]
  rfl

theorem recordMark_of_some (hrow : s.table.get? id = some row) :
    s.recordMark id =
      { s with acked := Function.update s.acked id (s.seen.map fun contents => contents id),
               confirmed :=
                 Function.update s.confirmed id (s.confirmed id ++ s.handedOut id) } := by
  rw [CacheRun.recordMark, hrow]
  rfl

/-- The record of a mark keeps what the record says of the calls. -/
theorem tracked_recordMark (h : Tracked s) : Tracked (s.recordMark id) := by
  cases hrow : s.table.get? id with
  | none =>
      rw [recordMark_of_none hrow]
      exact h
  | some row =>
      rw [recordMark_of_some hrow]
      constructor
      · exact h.keyed
      · exact h.seenNone
      · intro key
        dsimp only
        by_cases hkey : key = id
        · subst hkey
          rw [Function.update_self]
          exact List.append_subset.2 ⟨h.confirmedSub key, List.Subset.refl _⟩
        · rw [Function.update_of_ne hkey]
          exact h.confirmedSub key
      · intro key hacked
        dsimp only at hacked ⊢
        by_cases hkey : key = id
        · subst hkey
          rw [Function.update_self, Option.map_eq_none_iff] at hacked
          have hnone : s.handedOut key = [] := h.seenNone hacked key
          have hconfirmed : s.confirmed key = [] :=
            List.subset_nil.1 (hnone ▸ h.confirmedSub key)
          rw [Function.update_self, hconfirmed, hnone]
          rfl
        · rw [Function.update_of_ne hkey] at hacked ⊢
          exact h.ackedNone key hacked

theorem tracked_step {e : CacheEvent} (h : Tracked s) : Tracked (cacheStep platform s e) := by
  cases e with
  | cacheTransaction params now =>
      exact ⟨keyed_cacheTransaction h.keyed, h.seenNone, h.confirmedSub, h.ackedNone⟩
  | updateTransactionStatus u =>
      exact ⟨keyed_updateRow h.keyed fun _ => rfl, h.seenNone, h.confirmedSub, h.ackedNone⟩
  | markRow id now =>
      have hmark : Tracked (s.recordMark id) := tracked_recordMark h
      exact ⟨keyed_updateRow h.keyed fun _ => rfl, hmark.seenNone, hmark.confirmedSub,
        hmark.ackedNone⟩
  | getPendingTransactions =>
      refine ⟨h.keyed, nofun, fun id => ?_, h.ackedNone⟩
      exact fun c hc => List.mem_append_left _ (h.confirmedSub id hc)
  | clearOldSyncedTransactions now olderThanDays =>
      refine ⟨fun id row hrow => ?_, h.seenNone, h.confirmedSub, h.ackedNone⟩
      rw [cacheStep, clearOldSyncedTransactions, get?_deleteRows] at hrow
      exact h.keyed id row (Option.filter_eq_some_iff.1 hrow).1

theorem get?_start (id : String) : CacheRun.start.table.get? id = none := rfl

theorem tracked_start : Tracked CacheRun.start := by
  refine ⟨fun id row hrow => ?_, fun _ _ => rfl, fun _ => List.Subset.refl _, fun _ _ => rfl⟩
  rw [get?_start] at hrow
  cases hrow

/-! ## What each statement keeps -/

theorem cacheTransaction_kept_iff {params : CacheParams} {now : ℤ}
    (hkept : ∀ id row, s.table.get? id = some row →
      RowKept platform (s.acked id) (s.confirmed id) row) :
    (∀ id row, (cacheTransaction params now s.table).get? id = some row →
        RowKept platform (s.acked id) (s.confirmed id) row) ↔
      LosesNothing platform s (.cacheTransaction params now) := by
  by_cases hamount : params.amount = .nan
  · rw [cacheTransaction, if_pos hamount]
    exact iff_of_true hkept (.inl hamount)
  · rw [forall_rows_iff (fun key => get?_cacheTransaction hamount)
      (fun key old hold => .inl (hkept key old hold)), rowKept_pending]
    exact (or_iff_right hamount).symm

theorem update_kept_iff {u : StatusUpdate} (htracked : Tracked s)
    (hkept : ∀ id row, s.table.get? id = some row →
      RowKept platform (s.acked id) (s.confirmed id) row) :
    (∀ id row, (updateTransactionStatus u s.table).get? id = some row →
        RowKept platform (s.acked id) (s.confirmed id) row) ↔
      LosesNothing platform s (.updateTransactionStatus u) := by
  cases hrow : s.table.get? u.id with
  | none =>
      have hsame : updateTransactionStatus u s.table = s.table := by
        rw [updateTransactionStatus, updateRow, hrow]
      rw [hsame]
      exact iff_of_true hkept (forall_get?_none hrow)
  | some row =>
      have hget (key : String) : (updateTransactionStatus u s.table).get? key =
          if key = u.id then some { row with content := u.content row.content }
          else s.table.get? key := by
        rw [updateTransactionStatus, get?_updateRow, hrow]
        rfl
      rw [forall_rows_iff hget fun key old hold => .inl (hkept key old hold)]
      refine Iff.trans ?_ (forall_get?_some hrow).symm
      obtain ⟨content, syncedAt⟩ := row
      cases syncedAt with
      | none => exact rowKept_pending
      | some t =>
          obtain ⟨hacked, hconfirmed⟩ := rowKept_synced.1 (hkept u.id _ hrow)
          rw [if_neg (Option.some_ne_none t), rowKept_synced]
          -- the row has been marked after a call that found its content
          have hmarked : s.acked u.id = some (some content) := by
            cases hsome : s.acked u.id with
            | none =>
                rw [htracked.ackedNone u.id hsome] at hconfirmed
                cases hconfirmed
            | some snapshot => rw [hacked snapshot hsome]
          constructor
          · intro h
            exact (Option.some.inj (h.1 _ hmarked)).symm
          · intro h
            rw [h]
            exact ⟨hacked, hconfirmed⟩

theorem mark_kept_iff {now : ℤ} (htracked : Tracked s)
    (hkept : ∀ id row, s.table.get? id = some row →
      RowKept platform (s.acked id) (s.confirmed id) row) :
    (∀ key row, (markRow id now s.table).get? key = some row →
        RowKept platform ((s.recordMark id).acked key) ((s.recordMark id).confirmed key) row) ↔
      LosesNothing platform s (.markRow id now) := by
  cases hrow : s.table.get? id with
  | none =>
      have hsame : markRow id now s.table = s.table := by
        rw [markRow, updateRow, hrow]
      rw [hsame, recordMark_of_none hrow]
      exact iff_of_true hkept (forall_get?_none hrow)
  | some row =>
      have hget (key : String) : (markRow id now s.table).get? key =
          if key = id then some { row with syncedAt := some now } else s.table.get? key := by
        rw [markRow, get?_updateRow, hrow]
        rfl
      refine Iff.trans ?_ (forall_get?_some hrow).symm
      rw [recordMark_of_some hrow]
      dsimp only
      rw [forall_rows_iff hget]
      · rw [Function.update_self, Function.update_self, rowKept_synced, List.mem_append]
        constructor
        · intro ⟨hseen, hmem⟩
          have hhanded : row.content ∈ s.handedOut id :=
            hmem.elim (fun h => htracked.confirmedSub id h) fun h => h
          refine ⟨?_, hhanded⟩
          cases hcalls : s.seen with
          | none =>
              rw [htracked.seenNone hcalls id] at hhanded
              cases hhanded
          | some contents =>
              rw [hcalls] at hseen
              exact congrArg some (hseen (contents id) rfl)
        · intro ⟨hseen, hhanded⟩
          refine ⟨fun snapshot hsnapshot => ?_, .inr hhanded⟩
          rw [hseen] at hsnapshot
          exact (Option.some.inj hsnapshot).symm
      · intro key old hold
        by_cases hkey : key = id
        · exact .inr hkey
        · rw [Function.update_of_ne hkey, Function.update_of_ne hkey]
          exact .inl (hkept key old hold)

/-- One statement loses nothing exactly under its condition. -/
theorem nothingLost_step_iff {e : CacheEvent} (htracked : Tracked s)
    (h : NothingLost platform s) :
    NothingLost platform (cacheStep platform s e) ↔ LosesNothing platform s e := by
  have hkept := (nothingLost_iff htracked.keyed).1 h
  rw [nothingLost_iff (tracked_step htracked).keyed]
  cases e with
  | cacheTransaction params now => exact cacheTransaction_kept_iff hkept
  | updateTransactionStatus u => exact update_kept_iff htracked hkept
  | markRow id now =>
      exact mark_kept_iff htracked hkept
  | getPendingTransactions => exact iff_of_true hkept trivial
  | clearOldSyncedTransactions now olderThanDays =>
      refine iff_of_true (fun id row hrow => ?_) trivial
      rw [cacheStep, clearOldSyncedTransactions, get?_deleteRows] at hrow
      exact hkept id row (Option.filter_eq_some_iff.1 hrow).1

theorem nothingLost_start : NothingLost platform CacheRun.start := by
  rw [nothingLost_iff tracked_start.keyed]
  intro id row hrow
  rw [get?_start] at hrow
  cases hrow

/-- In every state of a run from an empty cache nothing is lost, exactly if every statement of it
meets its condition. -/
theorem cache_loses_nothing_iff (platform : DatabasePlatform) (events : List CacheEvent) :
    Throughout (cacheStep platform) (NothingLost platform) CacheRun.start events ↔
      EachStep (cacheStep platform) (LosesNothing platform) CacheRun.start events :=
  throughout_iff_eachStep Tracked (fun _ _ h => tracked_step h)
    (fun _ _ htracked h => nothingLost_step_iff htracked h) tracked_start nothingLost_start

/-! ### A sample -/

def sampleTransaction : CacheParams where
  id := "local-1"
  escrowId := "escrow_u-1"
  provider := "MPESA"
  amount := .fin (.ofInt 250)
  currency := "KES"
  buyerId := "buyer-1"
  sellerId := "seller-1"
  transactionId := some "tx-1"
  status := none
  metadata := none
  integrityHash := none

def sampleUpdate : StatusUpdate := ⟨"local-1", "RELEASED", none, none, 1001⟩

/-- The status changes after the row has been handed out and before it is marked. -/
def syncRound : List CacheEvent :=
  [.cacheTransaction sampleTransaction 1000, .getPendingTransactions,
    .updateTransactionStatus sampleUpdate] ++ markAsSynced ["local-1"] 1002

/-- The row with the new status counts as synced, and a clearing deletes it, although only the
old status has been handed out. -/
theorem status_change_lost :
    ¬ Throughout (cacheStep ⟨true⟩) (NothingLost ⟨true⟩) CacheRun.start syncRound := by
  intro h
  have hsynced : (run (cacheStep ⟨true⟩) CacheRun.start syncRound).table.get? "local-1" =
      some ⟨sampleUpdate.content (sampleTransaction.content 1000), some 1002⟩ := by
    decide +kernel
  have hdeleted : (clearOldSyncedTransactions 2000 0
      (run (cacheStep ⟨true⟩) CacheRun.start syncRound).table).get? "local-1" = none := by
    decide +kernel
  have hconfirmed := h.run.deletes 2000 0 "local-1" _ hsynced hdeleted
  revert hconfirmed
  decide +kernel

end UniverEscrow.Frontend
