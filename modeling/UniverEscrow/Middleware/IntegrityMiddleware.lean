import UniverEscrow.Js.Hex
import UniverEscrow.Js.ParsedValue
import UniverEscrow.Js.Throw
import UniverEscrow.Merkle.StableJson

/-!
# IntegrityMiddleware

A request carries an HMAC of its body.  The text under it is that of a copy of the body without
integrity fields, made member by member and then made again with its keys sorted.
-/

namespace UniverEscrow.Middleware

open UniverEscrow.Js UniverEscrow.Js.JsValue UniverEscrow.Merkle

/-! ## The signed text -/

def integrityFields : List String :=
  ["integrityHash", "integritySignature", "xIntegrityHash", "xIntegritySignature"]

/-- `o[key] = value` for member after member of a new object.  An assignment to `__proto__` makes
no member, it sets the prototype. -/
def assignMembers (members : List (String × JsValue)) : JsValue :=
  .obj (setMembers (members.filter fun m => m.1 ≠ "__proto__"))

mutual

def scrubIntegrityFields : JsValue → JsValue
  | .arr items => .arr (scrubItems items)
  | .obj members => assignMembers (scrubMembers members)
  | v => v

def scrubItems : List JsValue → List JsValue
  | [] => []
  | v :: vs => scrubIntegrityFields v :: scrubItems vs

def scrubMembers : List (String × JsValue) → List (String × JsValue)
  | [] => []
  | (key, v) :: ms =>
      if key ∈ integrityFields then scrubMembers ms
      else (key, scrubIntegrityFields v) :: scrubMembers ms

end

mutual

def normalize : JsValue → JsValue
  | .arr items => .arr (normalizeItems items)
  | .obj members => assignMembers (sortByKey (normalizeMembers members))
  | v => v

def normalizeItems : List JsValue → List JsValue
  | [] => []
  | v :: vs => normalize v :: normalizeItems vs

def normalizeMembers : List (String × JsValue) → List (String × JsValue)
  | [] => []
  | (key, v) :: ms => (key, normalize v) :: normalizeMembers ms

end

/-- The text; `undefined` has none. -/
def stableSerialize (value : JsValue) : Option String :=
  match normalize value with
  | .undefined => none
  | v => some v.stringify

/-! ## The handler -/

structure IntegrityPlatform where
  hmacSha256 : (key data : String) → HexDigest
  envMasterKey : Option String

structure IntegrityRequest where
  signatureHeader : Option String
  body : JsValue

inductive IntegrityReply where
  | next
  | respond (status : ℕ) (error : String)

/-- A text with something in it, without the space around it. -/
def trimmed? (s : String) : Option String := if jsTrim s = "" then none else some (jsTrim s)

def readRequestSignature (req : IntegrityRequest) : Option String :=
  req.signatureHeader.bind trimmed? <|>
    (req.body.get "integritySignature").asString?.bind trimmed? <|>
      (req.body.get "integrityHash").asString?.bind trimmed?

def computeRequestHmac (platform : IntegrityPlatform) (masterKey : String) (payload : JsValue) :
    Except String HexDigest := do
  let canonicalPayload ← orThrow ("The \"data\" argument must be of type string or an instance " ++
    "of Buffer, TypedArray, or DataView. Received undefined")
    (stableSerialize (scrubIntegrityFields payload))
  return platform.hmacSha256 masterKey canonicalPayload

/-- What the middleware does with a request, or what it throws. -/
def validateRequestIntegrityHashMiddleware (platform : IntegrityPlatform)
    (req : IntegrityRequest) : Except String IntegrityReply :=
  match platform.envMasterKey.filter fun key => jsTrim key ≠ "" with
  | none => .ok (.respond 500 "ENV_MASTER_KEY_MISSING")
  | some masterKey =>
      match readRequestSignature req with
      | none => .ok (.respond 403 "INTEGRITY_SIGNATURE_REQUIRED")
      | some signature => do
          let expected ← computeRequestHmac platform masterKey req.body
          let signatureBuffer := bytesOfHex signature
          let expectedBuffer := bytesOfHex expected.text
          if signatureBuffer.length ≠ expectedBuffer.length then
            return .respond 403 "INTEGRITY_SIGNATURE_INVALID"
          if signatureBuffer ≠ expectedBuffer then
            return .respond 403 "INTEGRITY_SIGNATURE_INVALID"
          return .next

/-! ## Digests as bytes -/

theorem exists_digitChar {c : Char} (h : isLowerHex c = true) : ∃ d < 16, Nat.digitChar d = c := by
  have hall : ∀ n < 103, (48 ≤ n ∧ n ≤ 57) ∨ (97 ≤ n ∧ n ≤ 102) →
      ∃ d < 16, Nat.digitChar d = Char.ofNat n := by decide
  simp only [isLowerHex, Bool.or_eq_true, Bool.and_eq_true, decide_eq_true_eq] at h
  have hrange : (48 ≤ c.toNat ∧ c.toNat ≤ 57) ∨ (97 ≤ c.toNat ∧ c.toNat ≤ 102) := h
  have hdigit := hall c.toNat (by omega) hrange
  rwa [Char.ofNat_toNat] at hdigit

/-- Two lower-case digits are those of the byte they stand for. -/
theorem exists_hexPair {a b : Char} (ha : isLowerHex a = true) (hb : isLowerHex b = true) :
    ∃ byte, byteOfDigits? a b = some byte ∧ hexPair byte = [a, b] := by
  obtain ⟨i, hi, rfl⟩ := exists_digitChar ha
  obtain ⟨j, hj, rfl⟩ := exists_digitChar hb
  have hlt : 16 * i + j < 256 := by omega
  have hbyte : (UInt8.ofNat (16 * i + j)).toNat = 16 * i + j := UInt8.toNat_ofNat_of_lt hlt
  have hhigh : (16 * i + j) / 16 = i := by omega
  have hlow : (16 * i + j) % 16 = j := by omega
  have hdigits := byteOfDigits?_hexPair (UInt8.ofNat (16 * i + j))
  rw [hbyte, hhigh, hlow] at hdigits
  refine ⟨_, hdigits, ?_⟩
  rw [hexPair, hbyte, hhigh, hlow]

theorem flatMap_hexPair_bytesOfDigits {n : ℕ} {cs : List Char} (hlength : cs.length = 2 * n)
    (h : ∀ c ∈ cs, isLowerHex c = true) : (bytesOfDigits cs).flatMap hexPair = cs := by
  induction n generalizing cs with
  | zero =>
      rw [List.length_eq_zero_iff.1 hlength]
      rfl
  | succ n ih =>
      cases cs with
      | nil => simp at hlength
      | cons a cs =>
          cases cs with
          | nil =>
              simp only [List.length_singleton] at hlength
              omega
          | cons b cs =>
              simp only [List.length_cons] at hlength
              obtain ⟨byte, hread, hpair⟩ := exists_hexPair (h a (by simp)) (h b (by simp))
              rw [bytesOfDigits, hread]
              simp only [List.flatMap_cons, hpair]
              rw [ih (by omega) fun c hc => h c (by simp [hc])]
              rfl

/-- A digest is told from its bytes. -/
theorem bytesOfHex_text_inj {a b : HexDigest} (h : bytesOfHex a.text = bytesOfHex b.text) :
    a = b := by
  have htext (d : HexDigest) : (bytesOfHex d.text).flatMap hexPair = d.text.toList :=
    flatMap_hexPair_bytesOfDigits (n := 32) d.length_toList fun _ hc => isLowerHex_of_mem_text hc
  apply hexDigest_ext
  rw [← String.toList_inj, ← htext a, ← htext b, h]

/-! ## The members the text shows -/

/-- A member that the HMAC does not see. -/
def Hidden (key : String) : Prop := key ∈ integrityFields ∨ key = "__proto__"

instance (key : String) : Decidable (Hidden key) := inferInstanceAs (Decidable (_ ∨ _))

def shownMembers (members : List (String × JsValue)) : List (String × JsValue) :=
  members.filter fun m => ¬Hidden m.1

theorem scrubItems_eq (items : List JsValue) :
    scrubItems items = items.map scrubIntegrityFields := by
  induction items with
  | nil => rfl
  | cons v vs ih => rw [scrubItems, ih, List.map_cons]

theorem normalizeItems_eq (items : List JsValue) : normalizeItems items = items.map normalize := by
  induction items with
  | nil => rfl
  | cons v vs ih => rw [normalizeItems, ih, List.map_cons]

theorem normalizeMembers_eq (members : List (String × JsValue)) :
    normalizeMembers members = members.map fun m => (m.1, normalize m.2) := by
  induction members with
  | nil => rfl
  | cons m ms ih => rw [normalizeMembers, ih, List.map_cons]

theorem filter_scrubMembers (members : List (String × JsValue)) :
    (scrubMembers members).filter (fun m => m.1 ≠ "__proto__") =
      (shownMembers members).map fun m => (m.1, scrubIntegrityFields m.2) := by
  unfold shownMembers
  induction members with
  | nil => rfl
  | cons m ms ih =>
      obtain ⟨key, v⟩ := m
      rw [scrubMembers]
      by_cases hfield : key ∈ integrityFields
      · rw [if_pos hfield, ih, List.filter_cons_of_neg]
        simp [Hidden, hfield]
      · rw [if_neg hfield]
        by_cases hproto : key = "__proto__"
        · rw [List.filter_cons_of_neg (by simp [hproto]), ih, List.filter_cons_of_neg]
          simp [Hidden, hproto]
        · rw [List.filter_cons_of_pos (by simp [hproto]), ih, List.filter_cons_of_pos]
          · rfl
          · simp [Hidden, hfield, hproto]

theorem mem_shownMembers {members : List (String × JsValue)} {m : String × JsValue} :
    m ∈ shownMembers members ↔ m ∈ members ∧ ¬Hidden m.1 := by
  simp [shownMembers]

theorem nodup_shownMembers {members : List (String × JsValue)}
    (h : (members.map Prod.fst).Nodup) : ((shownMembers members).map Prod.fst).Nodup :=
  h.sublist (List.filter_sublist.map Prod.fst)

theorem isParsed_assignMembers {members : List (String × JsValue)}
    (h : ∀ m ∈ members, IsParsed m.2) : IsParsed (assignMembers members) :=
  isParsed_setMembers fun m hm => h m (List.mem_of_mem_filter hm)

theorem isParsed_scrub {v : JsValue} (h : IsParsed v) : IsParsed (scrubIntegrityFields v) := by
  induction h with
  | null => exact .null
  | bool b => exact .bool b
  | num n => exact .num n
  | str s => exact .str s
  | arr hitems ih =>
      rw [scrubIntegrityFields, scrubItems_eq]
      exact .arr (List.forall_mem_map.2 ih)
  | @obj members hkeys horder hmembers ih =>
      rw [scrubIntegrityFields, assignMembers, filter_scrubMembers]
      exact isParsed_setMembers (List.forall_mem_map.2 fun m hm => ih m (mem_shownMembers.1 hm).1)

theorem isParsed_normalize {v : JsValue} (h : IsParsed v) : IsParsed (normalize v) := by
  induction h with
  | null => exact .null
  | bool b => exact .bool b
  | num n => exact .num n
  | str s => exact .str s
  | arr hitems ih =>
      rw [normalize, normalizeItems_eq]
      exact .arr (List.forall_mem_map.2 ih)
  | @obj members hkeys horder hmembers ih =>
      rw [normalize, normalizeMembers_eq]
      refine isParsed_assignMembers fun m hm => ?_
      obtain ⟨m', hm', rfl⟩ := List.mem_map.1 (mem_sortByKey.1 hm)
      exact ih m' hm'

theorem stableSerialize_of_parsed {v : JsValue} (h : IsParsed (normalize v)) :
    stableSerialize v = some (normalize v).stringify := by
  unfold stableSerialize
  split
  · rename_i heq
    rw [heq] at h
    cases h
  · rfl

/-- Scrubbed and normalised, an object has the members that are shown, in some order. -/
theorem normalize_scrub_obj {members : List (String × JsValue)}
    (hkeys : (members.map Prod.fst).Nodup) :
    ∃ members', normalize (scrubIntegrityFields (.obj members)) = .obj members' ∧
      members'.Perm ((shownMembers members).map fun m =>
        (m.1, normalize (scrubIntegrityFields m.2))) := by
  let shown := (shownMembers members).map fun m => (m.1, scrubIntegrityFields m.2)
  have hshown : (shown.map Prod.fst).Nodup := by
    rw [List.map_map]
    exact nodup_shownMembers hkeys
  have hscrubbed : (setMembers shown).Perm shown := setMembers_perm hshown
  let sorted := sortByKey ((setMembers shown).map fun m => (m.1, normalize m.2))
  have hsorted : sorted.Perm (shown.map fun m => (m.1, normalize m.2)) :=
    (List.perm_insertionSort _ _).trans (hscrubbed.map _)
  have hkeys' : (sorted.map Prod.fst).Nodup := by
    rw [(hsorted.map Prod.fst).nodup_iff, List.map_map]
    exact hshown
  have hfilter : (sorted.filter fun m => m.1 ≠ "__proto__") = sorted := by
    rw [List.filter_eq_self]
    intro m hm
    obtain ⟨m₁, hm₁, rfl⟩ := List.mem_map.1 (hsorted.mem_iff.1 hm)
    obtain ⟨m₂, hm₂, rfl⟩ := List.mem_map.1 hm₁
    simpa using fun hproto => (mem_shownMembers.1 hm₂).2 (.inr hproto)
  refine ⟨setMembers sorted, ?_, ?_⟩
  · rw [scrubIntegrityFields, assignMembers, filter_scrubMembers, normalize, normalizeMembers_eq,
      assignMembers, hfilter]
  · have hperm := (setMembers_perm hkeys').trans hsorted
    rwa [List.map_map] at hperm

end UniverEscrow.Middleware
