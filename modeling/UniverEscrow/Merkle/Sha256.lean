import UniverEscrow.Js.Value

/-!
# SHA-256 over text

The hash function is a parameter of every definition that uses it.  A digest is 64 lower-case
hexadecimal digits by type; that distinct texts have distinct digests is never assumed of the
whole function, only of the texts a statement lists.
-/

namespace UniverEscrow.Merkle

open UniverEscrow.Js

def isLowerHex (c : Char) : Bool := ('0' ≤ c && c ≤ '9') || ('a' ≤ c && c ≤ 'f')

def isHexDigest (s : String) : Bool := s.toList.length = 64 && s.toList.all isLowerHex

structure HexDigest where
  text : String
  isHex : isHexDigest text = true
deriving DecidableEq

abbrev Sha256 := String → HexDigest

variable (sha256 : Sha256)

def sha256Hex (data : String) : String := (sha256 data).text

theorem hexDigest_ext {a b : HexDigest} (h : a.text = b.text) : a = b := by
  cases a
  cases b
  simpa using h

theorem isLowerHex_of_mem_text {d : HexDigest} {c : Char} (h : c ∈ d.text.toList) :
    isLowerHex c = true := by
  have hd := d.isHex
  simp only [isHexDigest, Bool.and_eq_true, List.all_eq_true] at hd
  exact hd.2 c h

theorem HexDigest.length_toList (d : HexDigest) : d.text.toList.length = 64 := by
  have h := d.isHex
  simp only [isHexDigest, Bool.and_eq_true, decide_eq_true_eq] at h
  exact h.1

theorem HexDigest.text_ne_empty (d : HexDigest) : d.text ≠ "" := by
  intro h
  have := d.length_toList
  rw [h] at this
  cases this

@[simp] theorem length_sha256Hex (data : String) : (sha256Hex sha256 data).toList.length = 64 :=
  (sha256 data).length_toList

/-- No two different texts of the list share a digest. -/
def CollisionFreeOn (hashed : List String) : Prop :=
  ∀ a ∈ hashed, ∀ b ∈ hashed, sha256Hex sha256 a = sha256Hex sha256 b → a = b

instance (hashed : List String) : Decidable (CollisionFreeOn sha256 hashed) :=
  inferInstanceAs (Decidable (∀ a ∈ hashed, ∀ b ∈ hashed, _))

variable {sha256}

theorem CollisionFreeOn.mono {xs ys : List String} (h : CollisionFreeOn sha256 ys)
    (hsub : xs ⊆ ys) : CollisionFreeOn sha256 xs :=
  fun a ha b hb => h a (hsub ha) b (hsub hb)

theorem CollisionFreeOn.eq_of_map_eq {xs ys : List String}
    (h : CollisionFreeOn sha256 (xs ++ ys))
    (heq : xs.map (sha256Hex sha256) = ys.map (sha256Hex sha256)) : xs = ys := by
  induction xs generalizing ys with
  | nil => exact (List.map_eq_nil_iff.1 heq.symm).symm
  | cons x xs ih =>
      cases ys with
      | nil => simp at heq
      | cons y ys =>
          simp only [List.map_cons, List.cons.injEq] at heq
          have hxy : x = y := h x (by simp) y (by simp) heq.1
          have htail : xs = ys := by
            refine ih (h.mono ?_) heq.2
            intro s hs
            simp only [List.cons_append, List.mem_cons, List.mem_append] at hs ⊢
            tauto
          rw [hxy, htail]

/-! ## Stable JSON -/

mutual

/-- `undefined` has no JSON text. -/
def stableStringify : JsValue → Option String
  | .undefined => none
  | .null => some "null"
  | .num n => some (JsValue.numberJson n)
  | .bool b => some (if b then "true" else "false")
  | .str s => some (quote s)
  | .arr items => some ("[" ++ String.intercalate "," (stableItems items) ++ "]")
  | .obj members =>
      some ("\x7b" ++ String.intercalate ","
        ((JsValue.sortByKey (stableMembers members)).map Prod.snd) ++ "\x7d")

/-- Joining renders a missing text as nothing. -/
def stableItems : List JsValue → List String
  | [] => []
  | v :: vs => (stableStringify v).getD "" :: stableItems vs

/-- Template interpolation renders a missing text as `undefined`. -/
def stableMembers : List (String × JsValue) → List (String × String)
  | [] => []
  | (k, v) :: ms => (k, quote k ++ ":" ++ (stableStringify v).getD "undefined") :: stableMembers ms

end

/-- The object literals hashed are never `undefined`, so the text is always there. -/
def sha256HexFromJsonStable (sha256 : Sha256) (v : JsValue) : String :=
  sha256Hex sha256 ((stableStringify v).getD "undefined")

end UniverEscrow.Merkle
