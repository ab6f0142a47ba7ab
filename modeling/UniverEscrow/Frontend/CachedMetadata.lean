import UniverEscrow.Frontend.LocalTransactionCache
import UniverEscrow.Js.JsonParse

/-!
# Metadata in the cache

Metadata is stored as a JSON text that the encoder writes by hand and a placeholder reads.
-/

namespace UniverEscrow.Frontend

open UniverEscrow.Js

/-- A transaction that is read: its row, and the map put in place of the metadata. -/
structure CachedTransaction where
  row : Row
  metadata : Option (List (String × DartValue))

def getTransaction (platform : DatabasePlatform) (id : String) (table : Table) :
    Except String (Option CachedTransaction) :=
  match table.get? id with
  | none => .ok none
  | some row =>
      if platform.assignsRows then .ok (some ⟨row, row.content.metadata.map decodeJson⟩)
      else .error "Unsupported operation: read-only"

/-! ## What a text denotes -/

/-- The number that its text writes. -/
def writtenNumber? (text : String) : Option ℚ :=
  let (sign, cs) := readSign text.toList
  (readUnsignedDecimal cs).map fun q => sign * q

mutual

/-- The tree of a JSON text denotes the value; anything but the values of JSON has none. -/
def Denotes : JsonTree → DartValue → Prop
  | .null, .null => True
  | .bool b, .bool b' => b = b'
  | .num q, .num text => writtenNumber? text = some q
  | .str s, .str s' => s = s'
  | .arr items, .list values => DenotesItems items values
  | .obj members, .map entries => DenotesEntries members entries
  | _, _ => False

def DenotesItems : List JsonTree → List DartValue → Prop
  | [], [] => True
  | item :: items, value :: values => Denotes item value ∧ DenotesItems items values
  | _, _ => False

def DenotesEntries : List (String × JsonTree) → List (String × DartValue) → Prop
  | [], [] => True
  | (key, member) :: members, (key', value) :: entries =>
      key = key' ∧ Denotes member value ∧ DenotesEntries members entries
  | _, _ => False

end

/-- The text of the metadata denotes it, and a transaction cached with it is read with it. -/
structure MetadataSurvives (platform : DatabasePlatform)
    (metadata : List (String × DartValue)) : Prop where
  denotes : ∃ tree, parseJsonText (encodeJson metadata) = some tree ∧
    Denotes tree (.map metadata)
  returned : ∀ (params : CacheParams) (now : ℤ) (table : Table),
    params.metadata = some metadata → params.amount ≠ .nan →
      ∃ transaction, getTransaction platform params.id (cacheTransaction params now table) =
          .ok (some transaction) ∧ transaction.metadata = some metadata

section
variable {platform : DatabasePlatform} {params : CacheParams} {now : ℤ} {table : Table}

/-- Whatever has been cached, it is read without its metadata, or not at all. -/
theorem getTransaction_cacheTransaction (hamount : params.amount ≠ .nan) :
    getTransaction platform params.id (cacheTransaction params now table) =
      if platform.assignsRows then
        .ok (some ⟨⟨params.content now, none⟩, params.metadata.map fun _ => []⟩)
      else .error "Unsupported operation: read-only" := by
  unfold getTransaction
  rw [get?_cacheTransaction hamount, if_pos rfl]
  simp only [CacheParams.content, Option.map_map]
  rfl

theorem getTransaction_eq_ok {transaction : CachedTransaction} (hamount : params.amount ≠ .nan)
    (h : getTransaction platform params.id (cacheTransaction params now table) =
      .ok (some transaction)) :
    platform.assignsRows = true ∧ transaction.metadata = params.metadata.map fun _ => [] := by
  rw [getTransaction_cacheTransaction hamount] at h
  split_ifs at h with hassigns
  · cases h
    exact ⟨hassigns, rfl⟩

end

theorem MetadataSurvives.eq_nil {platform : DatabasePlatform}
    {metadata : List (String × DartValue)} (hsurvives : MetadataSurvives platform metadata) :
    metadata = [] ∧ platform.assignsRows = true := by
  let params : CacheParams := { sampleTransaction with metadata := some metadata }
  have hamount : params.amount ≠ .nan := by
    intro hnan
    cases hnan
  obtain ⟨transaction, hread, hmetadata⟩ := hsurvives.returned params 0 .empty rfl hamount
  obtain ⟨hassigns, hempty⟩ := getTransaction_eq_ok hamount hread
  rw [hmetadata] at hempty
  exact ⟨Option.some.inj hempty, hassigns⟩

/-- Only the empty map survives, and only where the rows of a query take the decoded map. -/
theorem metadataSurvives_iff {platform : DatabasePlatform} {metadata : List (String × DartValue)} :
    MetadataSurvives platform metadata ↔ metadata = [] ∧ platform.assignsRows = true := by
  constructor
  · exact MetadataSurvives.eq_nil
  · rintro ⟨rfl, hassigns⟩
    refine ⟨⟨.obj [], rfl, trivial⟩, ?_⟩
    intro params now table hmetadata hamount
    refine ⟨_, (getTransaction_cacheTransaction hamount).trans (if_pos hassigns), ?_⟩
    rw [hmetadata]
    rfl

/-- A note is lost, and one that ends in a backslash is not even a JSON text. -/
theorem metadata_lost :
    ¬MetadataSurvives ⟨true⟩ [("note", .str "paid")] ∧
      parseJsonText (encodeJson [("note", .str "C:\\")]) = none := by
  constructor
  · intro hsurvives
    cases hsurvives.eq_nil.1
  · rw [← Option.isNone_iff_eq_none]
    decide +kernel

end UniverEscrow.Frontend
