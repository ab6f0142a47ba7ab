import Mathlib.Data.List.Basic
import Mathlib.Data.Nat.Digits.Defs
import Mathlib.Tactic.IntervalCases

/-!
# JSON string literals

`JSON.stringify` of a string escapes the quote, the backslash and the control characters and
copies everything else.  The escapes form a prefix code whose words never start with a quote,
so a literal followed by any text determines both the string and the text.
-/

namespace UniverEscrow.Js

/-- Escape of one character inside a JSON string literal. -/
def escapeChar (c : Char) : List Char :=
  if c = '"' then ['\\', '"']
  else if c = '\\' then ['\\', '\\']
  else if c.toNat < 0x20 then
    match c.toNat with
    | 8 => ['\\', 'b']
    | 9 => ['\\', 't']
    | 10 => ['\\', 'n']
    | 12 => ['\\', 'f']
    | 13 => ['\\', 'r']
    | n => ['\\', 'u', '0', '0', Nat.digitChar (n / 16), Nat.digitChar (n % 16)]
  else [c]

def quoteChars (cs : List Char) : List Char := '"' :: (cs.flatMap escapeChar ++ ['"'])

/-- `JSON.stringify(s)`. -/
def quote (s : String) : String := String.ofList (quoteChars s.toList)

@[simp] theorem toList_quote (s : String) : (quote s).toList = quoteChars s.toList := by
  simp [quote]

/-- Read one possibly escaped character; nothing at the closing quote. -/
def unescapeHead : List Char → Option (Char × List Char)
  | [] => none
  | '"' :: _ => none
  | '\\' :: '"' :: rest => some ('"', rest)
  | '\\' :: '\\' :: rest => some ('\\', rest)
  | '\\' :: 'b' :: rest => some (Char.ofNat 8, rest)
  | '\\' :: 't' :: rest => some (Char.ofNat 9, rest)
  | '\\' :: 'n' :: rest => some (Char.ofNat 10, rest)
  | '\\' :: 'f' :: rest => some (Char.ofNat 12, rest)
  | '\\' :: 'r' :: rest => some (Char.ofNat 13, rest)
  | '\\' :: 'u' :: '0' :: '0' :: hi :: lo :: rest =>
      some (Char.ofNat ((if hi = '1' then 16 else 0) +
        if lo.toNat < 58 then lo.toNat - 48 else lo.toNat - 87), rest)
  | c :: rest => some (c, rest)

theorem unescapeHead_escapeChar_ctrl (n : ℕ) (hn : n < 0x20) (rest : List Char) :
    unescapeHead (escapeChar (Char.ofNat n) ++ rest) = some (Char.ofNat n, rest) := by
  interval_cases n <;> rfl

theorem unescapeHead_escapeChar (c : Char) (rest : List Char) :
    unescapeHead (escapeChar c ++ rest) = some (c, rest) := by
  by_cases hq : c = '"'
  · subst hq
    rfl
  by_cases hb : c = '\\'
  · subst hb
    rfl
  by_cases hc : c.toNat < 0x20
  · have h := unescapeHead_escapeChar_ctrl c.toNat hc rest
    rwa [Char.ofNat_toNat] at h
  · have hesc : escapeChar c = [c] := by simp [escapeChar, hq, hb, hc]
    rw [hesc, List.singleton_append, unescapeHead.eq_def]
    split <;> simp_all

/-- A string literal determines its text and what follows it. -/
theorem quoteChars_append_inj {xs ys : List Char} {r s : List Char}
    (h : quoteChars xs ++ r = quoteChars ys ++ s) : xs = ys ∧ r = s := by
  have hbody : xs.flatMap escapeChar ++ '"' :: r = ys.flatMap escapeChar ++ '"' :: s := by
    simpa [quoteChars] using h
  clear h
  induction xs generalizing ys with
  | nil =>
      cases ys with
      | nil => simpa using hbody
      | cons y ys =>
          have hhead := congrArg unescapeHead hbody
          simp only [List.flatMap_nil, List.nil_append, List.flatMap_cons, List.append_assoc,
            unescapeHead_escapeChar] at hhead
          cases hhead
  | cons x xs ih =>
      cases ys with
      | nil =>
          have hhead := congrArg unescapeHead hbody
          simp only [List.flatMap_nil, List.nil_append, List.flatMap_cons, List.append_assoc,
            unescapeHead_escapeChar] at hhead
          cases hhead
      | cons y ys =>
          have hhead := congrArg unescapeHead hbody
          simp only [List.flatMap_cons, List.append_assoc, unescapeHead_escapeChar,
            Option.some.injEq, Prod.mk.injEq] at hhead
          obtain ⟨rfl, htail⟩ := hhead
          obtain ⟨rfl, hr⟩ := ih htail
          exact ⟨rfl, hr⟩

theorem quote_append_inj {a b : String} {r s : List Char}
    (h : (quote a).toList ++ r = (quote b).toList ++ s) : a = b ∧ r = s := by
  rw [toList_quote, toList_quote] at h
  obtain ⟨hab, hrs⟩ := quoteChars_append_inj h
  exact ⟨String.toList_inj.1 hab, hrs⟩

end UniverEscrow.Js
