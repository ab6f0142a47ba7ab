import UniverEscrow.Js.ArrayLike
import UniverEscrow.Js.NumberRoundTrip
import UniverEscrow.Lib.HashChain
import UniverEscrow.Merkle.Sha256

/-!
# The hash of a block's entries

Blocks and snapshots are hashed by the same fold over the JSON texts of their entries.  No JSON
text looks like two digests in a row, so the fold tells entry lists of any lengths apart.
-/

namespace UniverEscrow.Consensus

open UniverEscrow.Js UniverEscrow.Merkle UniverEscrow.Lib

variable (sha256 : Sha256)

def digestPair (a b : HexDigest) : String := a.text ++ b.text

/-- `sha256('EMPTY')`, or the digest of the first text, concatenated with that of each next text
and digested again. -/
def foldEntryTexts (texts : List String) : HexDigest :=
  HashChain.foldDigests sha256 digestPair "EMPTY" texts

/-- `none` where reading the entries throws. -/
def computeBlockMerkleHash (entries : JsValue) : Option String :=
  entries.entryTexts?.map fun texts => (foldEntryTexts sha256 texts).text

/-- Everything hashed for the entries. -/
def entryHashInputs (texts : List String) : List String :=
  HashChain.foldInputs sha256 digestPair "EMPTY" texts

/-! ## No JSON text is a pair of digests -/

theorem length_digestPair (a b : HexDigest) : (digestPair a b).toList.length = 128 := by
  rw [digestPair, String.toList_append, List.length_append, a.length_toList, b.length_toList]

theorem ne_digestPair_of_mem {text : String} {c : Char} (h : c ∈ text.toList)
    (hc : isLowerHex c = false) (a b : HexDigest) : text ≠ digestPair a b := by
  rintro rfl
  rw [digestPair, String.toList_append, List.mem_append] at h
  have := h.elim isLowerHex_of_mem_text isLowerHex_of_mem_text
  rw [hc] at this
  cases this

theorem ne_digestPair_of_length {text : String} (h : text.toList.length ≠ 128)
    (a b : HexDigest) : text ≠ digestPair a b := by
  rintro rfl
  exact h (length_digestPair a b)

theorem digestPair_inj {a b c d : HexDigest} (h : digestPair a b = digestPair c d) :
    a = c ∧ b = d := by
  have hlist := congrArg String.toList h
  simp only [digestPair, String.toList_append] at hlist
  obtain ⟨hac, hbd⟩ := List.append_inj hlist (by rw [a.length_toList, c.length_toList])
  exact ⟨hexDigest_ext (String.toList_inj.1 hac), hexDigest_ext (String.toList_inj.1 hbd)⟩

/-! ## The texts of numbers -/

theorem exists_mem_exponentText (e : ℤ) : ∃ c ∈ exponentText e, isLowerHex c = false := by
  refine ⟨if 0 ≤ e then '+' else '-', by simp [exponentText], ?_⟩
  split_ifs <;> rfl

/-- Without a point and an exponent at most 21 digits are printed. -/
theorem layoutDecimal_not_hex_or_short (digits : List Char) (n : ℤ) :
    (∃ c ∈ layoutDecimal digits n, isLowerHex c = false) ∨
      (layoutDecimal digits n).length ≤ 21 := by
  rcases layoutDecimal_cases digits n with ⟨hk, hn, hl⟩ | hl | hl | ⟨init, point, rest, -, -, hl⟩
  · right
    rw [hl, List.length_append, List.length_replicate]
    omega
  · exact .inl ⟨'.', by simp [hl], rfl⟩
  · exact .inl ⟨'.', by simp [hl], rfl⟩
  · obtain ⟨c, hc, hhex⟩ := exists_mem_exponentText (n - 1)
    exact .inl ⟨c, by simp [hl, hc], hhex⟩

theorem not_mem_M_finiteChars (x : Binary64) : 'M' ∉ finiteChars x := by
  intro h
  have := mem_layoutDecimal (fun d => isDigit_of_mem_shortestDecimal) h
  revert this
  decide

/-- A text that is told apart from the other texts the fold hashes. -/
def OwnText (text : String) : Prop := text ≠ "EMPTY" ∧ ∀ a b, text ≠ digestPair a b

theorem ownText_of_length {text : String} (hne : text ≠ "EMPTY")
    (h : text.toList.length ≠ 128) : OwnText text :=
  ⟨hne, ne_digestPair_of_length h⟩

theorem ownText_of_head {text : String} {c : Char} (h : text.toList.head? = some c)
    (hne : c ≠ 'E') (hhex : isLowerHex c = false) : OwnText text := by
  constructor
  · rintro rfl
    cases h
    exact hne rfl
  · exact ne_digestPair_of_mem (List.mem_of_mem_head? h) hhex

theorem ownText_quote (s : String) : OwnText (quote s) :=
  ownText_of_head (c := '"') (by rw [toList_quote]; rfl) (by decide) rfl

theorem ownText_numberJson (n : JsNumber) : OwnText (JsValue.numberJson n) := by
  cases n with
  | nan => exact ownText_of_length (by decide) (by decide)
  | posInf => exact ownText_of_length (by decide) (by decide)
  | negInf => exact ownText_of_length (by decide) (by decide)
  | fin x =>
      change OwnText (JsNumber.fin x).toText
      rcases toText_fin_cases x with ⟨-, h⟩ | ⟨-, h⟩ | ⟨-, h⟩
      · rw [h]
        exact ownText_of_length (by decide) (by decide)
      · constructor
        · intro heq
          apply not_mem_M_finiteChars x
          rw [← String.toList_ofList (l := finiteChars x), ← h, heq]
          decide
        · rcases layoutDecimal_not_hex_or_short (shortestDecimal x).1 (shortestDecimal x).2 with
            ⟨c, hc, hhex⟩ | hshort
          · exact ne_digestPair_of_mem (c := c) (by rw [h, String.toList_ofList]; exact hc) hhex
          · apply ne_digestPair_of_length
            rw [h, String.toList_ofList]
            exact (hshort.trans_lt (by decide)).ne
      · refine ownText_of_head (c := '-') ?_ (by decide) rfl
        rw [h, String.toList_ofList]
        rfl

theorem ownText_stringify (v : JsValue) : OwnText v.stringify := by
  cases v with
  | undefined => exact ownText_of_length (by decide) (by decide)
  | null => exact ownText_of_length (by decide) (by decide)
  | bool b =>
      cases b with
      | false => exact ownText_of_length (by decide) (by decide)
      | true => exact ownText_of_length (by decide) (by decide)
  | num n => exact ownText_numberJson n
  | str s => exact ownText_quote s
  | arr items =>
      exact ownText_of_head (c := '[') (by simp [JsValue.stringify]) (by decide) rfl
  | obj members =>
      exact ownText_of_head (c := '\x7b') (by simp [JsValue.stringify]) (by decide) rfl

theorem ownText_unitJson (u : ℕ) : OwnText (JsValue.unitJson u) := by
  unfold JsValue.unitJson
  split_ifs
  · exact ownText_of_head (c := '"') (by simp) (by decide) rfl
  · exact ownText_quote _

theorem ownText_of_isElementText {text : String} (h : JsValue.IsElementText text) :
    OwnText text := by
  rcases h with ⟨v, hv⟩ | ⟨u, rfl⟩
  · rw [← (JsValue.jsonText?_eq_some.1 hv).2]
    exact ownText_stringify v
  · exact ownText_unitJson u

/-! ## Equal hashes -/

variable {sha256}

/-- Entries with one hash have the same JSON texts, unless SHA-256 collides on what is hashed
for them. -/
theorem entryTexts_eq_of_computeBlockMerkleHash_eq {entries entries' : JsValue}
    {texts texts' : List String} (htexts : entries.entryTexts? = some texts)
    (htexts' : entries'.entryTexts? = some texts')
    (hfree : CollisionFreeOn sha256
      (entryHashInputs sha256 texts ++ entryHashInputs sha256 texts'))
    (h : computeBlockMerkleHash sha256 entries = computeBlockMerkleHash sha256 entries') :
    texts = texts' := by
  rw [computeBlockMerkleHash, computeBlockMerkleHash, htexts, htexts'] at h
  apply HashChain.foldDigests_inj (fun a b c d => digestPair_inj)
    (ne_digestPair_of_length (by decide)) _ _ (hexDigest_ext (Option.some.inj h))
  · intro text hmem
    apply ownText_of_isElementText
    rcases List.mem_append.1 hmem with hmem | hmem
    · exact JsValue.isElementText_of_mem htexts hmem
    · exact JsValue.isElementText_of_mem htexts' hmem
  · intro a ha b hb hab
    exact hfree a ha b hb (congrArg HexDigest.text hab)

end UniverEscrow.Consensus
