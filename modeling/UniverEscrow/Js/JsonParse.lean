import UniverEscrow.Js.DecimalText
import UniverEscrow.Js.KeyOrder
import UniverEscrow.Lib.KeyedList

/-!
# Reading JSON

`JSON.parse` reads a text by the JSON grammar and builds the value: a number is rounded, and of
members with one key the last one counts.  Strings are well-formed Unicode here, so an escape that
writes half of a surrogate pair is not read.
-/

namespace UniverEscrow.Js

/-- What a JSON text denotes; numbers are exact. -/
inductive JsonTree where
  | null
  | bool (b : Bool)
  | num (q : ℚ)
  | str (s : String)
  | arr (items : List JsonTree)
  | obj (members : List (String × JsonTree))

/-! ## Strings -/

/-- The characters that UTF-16 code units encode. -/
def decodeUnits : List ℕ → Option (List Char)
  | [] => some []
  | u :: us =>
      if u < 0xd800 ∨ 0xdfff < u then (decodeUnits us).map (Char.ofNat u :: ·)
      else
        match us with
        | [] => none
        | v :: us =>
            if u < 0xdc00 ∧ 0xdc00 ≤ v ∧ v ≤ 0xdfff then
              (decodeUnits us).map
                (Char.ofNat (0x10000 + (u - 0xd800) * 0x400 + (v - 0xdc00)) :: ·)
            else none

/-- The code unit of a short escape. -/
def escapedUnit : Char → Option ℕ
  | '"' => some 34
  | '\\' => some 92
  | '/' => some 47
  | 'b' => some 8
  | 'f' => some 12
  | 'n' => some 10
  | 'r' => some 13
  | 't' => some 9
  | _ => none

/-- The code units up to the closing quote, and what follows it. -/
def literalUnits : List Char → Option (List ℕ × List Char)
  | [] => none
  | '"' :: rest => some ([], rest)
  | '\\' :: 'u' :: a :: b :: c :: d :: rest =>
      match readDigits 16 [a, b, c, d], literalUnits rest with
      | some u, some (us, rest) => some (u :: us, rest)
      | _, _ => none
  | '\\' :: c :: rest =>
      match escapedUnit c, literalUnits rest with
      | some u, some (us, rest) => some (u :: us, rest)
      | _, _ => none
  | c :: rest =>
      if c.toNat < 0x20 then none
      else (literalUnits rest).map fun p => (JsValue.utf16Units c ++ p.1, p.2)

/-- A string literal behind its opening quote. -/
def readLiteral (cs : List Char) : Option (String × List Char) :=
  match literalUnits cs with
  | some (us, rest) => (decodeUnits us).map fun cs => (String.ofList cs, rest)
  | none => none

/-! ## Numbers -/

def isNumberMark (c : Char) : Bool := isDigitOf 10 c || ['.', 'e', 'E', '+', '-'].contains c

/-- There is an integer part, without a leading zero, and a point has digits behind it. -/
def isJsonDecimal (cs : List Char) : Bool :=
  let ip := cs.takeWhile (isDigitOf 10)
  ip ≠ [] && (ip = ['0'] || ip.head? ≠ some '0') &&
    match cs.dropWhile (isDigitOf 10) with
    | '.' :: rest => rest.takeWhile (isDigitOf 10) ≠ []
    | _ => true

def readJsonUnsigned (cs : List Char) : Option ℚ :=
  if isJsonDecimal cs then readUnsignedDecimal cs else none

def readJsonNumber : List Char → Option ℚ
  | '-' :: cs => (readJsonUnsigned cs).map (- ·)
  | cs => readJsonUnsigned cs

/-! ## Values -/

def isJsonSpace (c : Char) : Bool := [' ', '\t', '\n', '\r'].contains c

def skipSpace (cs : List Char) : List Char := cs.dropWhile isJsonSpace

mutual

/-- A value at the start of the text, and what follows it.  The fuel bounds the nesting of the
calls. -/
def parseValue : ℕ → List Char → Option (JsonTree × List Char)
  | 0, _ => none
  | fuel + 1, cs =>
      match skipSpace cs with
      | 'n' :: 'u' :: 'l' :: 'l' :: rest => some (.null, rest)
      | 't' :: 'r' :: 'u' :: 'e' :: rest => some (.bool true, rest)
      | 'f' :: 'a' :: 'l' :: 's' :: 'e' :: rest => some (.bool false, rest)
      | '"' :: rest => (readLiteral rest).map fun p => (.str p.1, p.2)
      | '[' :: rest =>
          match skipSpace rest with
          | ']' :: rest => some (.arr [], rest)
          | rest => (parseItems fuel rest).map fun p => (.arr p.1, p.2)
      | '\x7b' :: rest =>
          match skipSpace rest with
          | '\x7d' :: rest => some (.obj [], rest)
          | rest => (parseMembers fuel rest).map fun p => (.obj p.1, p.2)
      | rest =>
          (readJsonNumber (rest.takeWhile isNumberMark)).map fun q =>
            (.num q, rest.dropWhile isNumberMark)

/-- Items up to the closing bracket, at least one. -/
def parseItems : ℕ → List Char → Option (List JsonTree × List Char)
  | 0, _ => none
  | fuel + 1, cs =>
      match parseValue fuel cs with
      | none => none
      | some (item, rest) =>
          match skipSpace rest with
          | ']' :: rest => some ([item], rest)
          | ',' :: rest => (parseItems fuel rest).map fun p => (item :: p.1, p.2)
          | _ => none

/-- Members up to the closing brace, at least one. -/
def parseMembers : ℕ → List Char → Option (List (String × JsonTree) × List Char)
  | 0, _ => none
  | fuel + 1, cs =>
      match skipSpace cs with
      | '"' :: rest =>
          match readLiteral rest with
          | none => none
          | some (key, rest) =>
              match skipSpace rest with
              | ':' :: rest =>
                  match parseValue fuel rest with
                  | none => none
                  | some (value, rest) =>
                      match skipSpace rest with
                      | '\x7d' :: rest => some ([(key, value)], rest)
                      | ',' :: rest =>
                          (parseMembers fuel rest).map fun p => ((key, value) :: p.1, p.2)
                      | _ => none
              | _ => none
      | _ => none

end

/-- The tree of a JSON text; every nested call reads less text. -/
def parseJsonText (text : String) : Option JsonTree :=
  match parseValue (2 * text.toList.length + 1) text.toList with
  | some (tree, rest) => if skipSpace rest = [] then some tree else none
  | none => none

/-! ## The fuel is enough -/

theorem literalUnits_shrinks {cs rest : List Char} {us : List ℕ}
    (h : literalUnits cs = some (us, rest)) : rest.length < cs.length := by
  fun_induction literalUnits cs generalizing us rest with
  | case1 => cases h
  | case2 =>
      cases h
      simp
  | case3 a b c d rest' u us' rest'' hrest hu ih =>
      cases h
      have := ih hrest
      simp only [List.length_cons]
      omega
  | case4 => cases h
  | case5 c rest' hc u us' rest'' hrest hu ih =>
      cases h
      have := ih hrest
      simp only [List.length_cons]
      omega
  | case6 => cases h
  | case7 => cases h
  | case8 c rest' _ _ _ _ ih =>
      obtain ⟨p, hp, heq⟩ := Option.map_eq_some_iff.1 h
      cases heq
      have := ih hp
      simp only [List.length_cons]
      omega

theorem readLiteral_shrinks {cs rest : List Char} {s : String}
    (h : readLiteral cs = some (s, rest)) : rest.length < cs.length := by
  unfold readLiteral at h
  split at h
  · rename_i us rest' hunits
    obtain ⟨p, hp, heq⟩ := Option.map_eq_some_iff.1 h
    cases heq
    exact literalUnits_shrinks hunits
  · cases h

theorem length_skipSpace_le (cs : List Char) : (skipSpace cs).length ≤ cs.length :=
  (List.dropWhile_sublist _).length_le

theorem length_of_skipSpace {cs rest : List Char} {c : Char} (h : skipSpace cs = c :: rest) :
    rest.length < cs.length := by
  have hle := length_skipSpace_le cs
  rw [h, List.length_cons] at hle
  omega

theorem readJsonNumber_nil : readJsonNumber [] = none := rfl

/-- Every part that is read leaves less text. -/
structure Shrinks (fuel : ℕ) : Prop where
  value : ∀ {cs tree rest}, parseValue fuel cs = some (tree, rest) → rest.length < cs.length
  items : ∀ {cs items rest}, parseItems fuel cs = some (items, rest) → rest.length < cs.length
  members : ∀ {cs members rest}, parseMembers fuel cs = some (members, rest) →
    rest.length < cs.length

theorem Shrinks.parseValue {fuel : ℕ} (ih : Shrinks fuel) {cs rest : List Char} {tree : JsonTree}
    (h : parseValue (fuel + 1) cs = some (tree, rest)) : rest.length < cs.length := by
  rw [Js.parseValue] at h
  split at h
  · rename_i heq
    cases h
    have := length_of_skipSpace heq
    simp only [List.length_cons] at this
    omega
  · rename_i heq
    cases h
    have := length_of_skipSpace heq
    simp only [List.length_cons] at this
    omega
  · rename_i heq
    cases h
    have := length_of_skipSpace heq
    simp only [List.length_cons] at this
    omega
  · rename_i heq
    obtain ⟨p, hp, htree⟩ := Option.map_eq_some_iff.1 h
    cases htree
    exact (readLiteral_shrinks hp).trans (length_of_skipSpace heq)
  · rename_i rest' heq
    have hlt := length_of_skipSpace heq
    split at h
    · rename_i heq'
      cases h
      exact (length_of_skipSpace heq').trans hlt
    · obtain ⟨p, hp, htree⟩ := Option.map_eq_some_iff.1 h
      cases htree
      exact (ih.items hp).trans_le ((length_skipSpace_le rest').trans hlt.le)
  · rename_i rest' heq
    have hlt := length_of_skipSpace heq
    split at h
    · rename_i heq'
      cases h
      exact (length_of_skipSpace heq').trans hlt
    · obtain ⟨p, hp, htree⟩ := Option.map_eq_some_iff.1 h
      cases htree
      exact (ih.members hp).trans_le ((length_skipSpace_le rest').trans hlt.le)
  · obtain ⟨q, hq, htree⟩ := Option.map_eq_some_iff.1 h
    cases htree
    have hle := length_skipSpace_le cs
    have hsplit := congrArg List.length
      (List.takeWhile_append_dropWhile (p := isNumberMark) (l := skipSpace cs))
    rw [List.length_append] at hsplit
    cases htake : (skipSpace cs).takeWhile isNumberMark with
    | nil =>
        rw [htake, readJsonNumber_nil] at hq
        cases hq
    | cons c marks =>
        rw [htake, List.length_cons] at hsplit
        omega

theorem Shrinks.parseItems {fuel : ℕ} (ih : Shrinks fuel) {cs rest : List Char}
    {items : List JsonTree} (h : parseItems (fuel + 1) cs = some (items, rest)) :
    rest.length < cs.length := by
  rw [Js.parseItems] at h
  split at h
  · cases h
  · rename_i item rest' hitem
    have hlt := ih.value hitem
    split at h
    · rename_i heq
      cases h
      exact (length_of_skipSpace heq).trans hlt
    · rename_i heq
      obtain ⟨p, hp, hlist⟩ := Option.map_eq_some_iff.1 h
      cases hlist
      exact (ih.items hp).trans ((length_of_skipSpace heq).trans hlt)
    · cases h

theorem Shrinks.parseMembers {fuel : ℕ} (ih : Shrinks fuel) {cs rest : List Char}
    {members : List (String × JsonTree)}
    (h : parseMembers (fuel + 1) cs = some (members, rest)) : rest.length < cs.length := by
  rw [Js.parseMembers] at h
  split at h
  · rename_i rest₁ heq₁
    split at h
    · cases h
    · rename_i key rest₂ hkey
      have hlt₂ := (readLiteral_shrinks hkey).trans (length_of_skipSpace heq₁)
      split at h
      · rename_i rest₃ heq₃
        have hlt₃ := (length_of_skipSpace heq₃).trans hlt₂
        split at h
        · cases h
        · rename_i value rest₄ hval
          have hlt₄ := (ih.value hval).trans hlt₃
          split at h
          · rename_i heq₅
            cases h
            exact (length_of_skipSpace heq₅).trans hlt₄
          · rename_i heq₅
            obtain ⟨p, hp, hlist⟩ := Option.map_eq_some_iff.1 h
            cases hlist
            exact (ih.members hp).trans ((length_of_skipSpace heq₅).trans hlt₄)
          · cases h
      · cases h
  · cases h

theorem shrinks (fuel : ℕ) : Shrinks fuel := by
  induction fuel with
  | zero =>
      refine ⟨?_, ?_, ?_⟩
      · intro cs tree rest h
        rw [parseValue] at h
        cases h
      · intro cs items rest h
        rw [parseItems] at h
        cases h
      · intro cs members rest h
        rw [parseMembers] at h
        cases h
  | succ fuel ih => exact ⟨ih.parseValue, ih.parseItems, ih.parseMembers⟩

/-- One more call deep, the same is read. -/
structure FuelSuffices (fuel : ℕ) : Prop where
  value : ∀ {cs}, 2 * cs.length + 1 ≤ fuel → parseValue (fuel + 1) cs = parseValue fuel cs
  items : ∀ {cs}, 2 * cs.length + 2 ≤ fuel → parseItems (fuel + 1) cs = parseItems fuel cs
  members : ∀ {cs}, 2 * cs.length + 2 ≤ fuel → parseMembers (fuel + 1) cs = parseMembers fuel cs

theorem FuelSuffices.parseValue {fuel : ℕ} (ih : FuelSuffices fuel) {cs : List Char}
    (hfuel : 2 * cs.length + 1 ≤ fuel + 1) :
    parseValue (fuel + 2) cs = parseValue (fuel + 1) cs := by
  have hrest {rest rest' : List Char} {c : Char} (heq : skipSpace cs = c :: rest)
      (heq' : skipSpace rest = rest') : 2 * rest'.length + 2 ≤ fuel := by
    have hlt := length_of_skipSpace heq
    have hle := length_skipSpace_le rest
    rw [heq'] at hle
    omega
  rw [Js.parseValue, Js.parseValue]
  split
  · rfl
  · rfl
  · rfl
  · rfl
  · rename_i heq
    split
    · rfl
    · rw [ih.items (hrest heq rfl)]
  · rename_i heq
    split
    · rfl
    · rw [ih.members (hrest heq rfl)]
  · rfl

theorem FuelSuffices.parseItems {fuel : ℕ} (ih : FuelSuffices fuel) {cs : List Char}
    (hfuel : 2 * cs.length + 2 ≤ fuel + 1) :
    parseItems (fuel + 2) cs = parseItems (fuel + 1) cs := by
  rw [Js.parseItems, Js.parseItems, ih.value (by omega)]
  split
  · rfl
  · rename_i item rest hitem
    have hlt := (shrinks fuel).value hitem
    split
    · rfl
    · rename_i heq
      have := length_of_skipSpace heq
      rw [ih.items (by omega)]
    · rfl

theorem FuelSuffices.parseMembers {fuel : ℕ} (ih : FuelSuffices fuel) {cs : List Char}
    (hfuel : 2 * cs.length + 2 ≤ fuel + 1) :
    parseMembers (fuel + 2) cs = parseMembers (fuel + 1) cs := by
  rw [Js.parseMembers, Js.parseMembers]
  split
  · rename_i rest₁ heq₁
    split
    · rfl
    · rename_i key rest₂ hkey
      have hlt₂ := (readLiteral_shrinks hkey).trans (length_of_skipSpace heq₁)
      split
      · rename_i rest₃ heq₃
        have hlt₃ := (length_of_skipSpace heq₃).trans hlt₂
        rw [ih.value (by omega)]
        split
        · rfl
        · rename_i value rest₄ hval
          have hlt₄ := ((shrinks fuel).value hval).trans hlt₃
          split
          · rfl
          · rename_i heq₅
            have := length_of_skipSpace heq₅
            rw [ih.members (by omega)]
          · rfl
      · rfl
  · rfl

theorem fuelSuffices (fuel : ℕ) : FuelSuffices fuel := by
  induction fuel with
  | zero => exact ⟨fun h => by omega, fun h => by omega, fun h => by omega⟩
  | succ fuel ih => exact ⟨ih.parseValue, ih.parseItems, ih.parseMembers⟩

/-- Twice the text is fuel enough. -/
theorem parseValue_of_le {fuel : ℕ} {cs : List Char} (h : 2 * cs.length + 1 ≤ fuel) :
    parseValue fuel cs = parseValue (2 * cs.length + 1) cs := by
  induction fuel, h using Nat.le_induction with
  | base => rfl
  | succ fuel hle ih => rw [(fuelSuffices fuel).value hle, ih]

/-! ## The value of a tree -/

/-- The keys that come first, in the order of their numbers. -/
def arrayIndex? (key : String) : Option ℕ :=
  let n := digitsValue 10 key.toList
  if key.toList = Nat.toDigits 10 n ∧ n < 2 ^ 32 - 1 then some n else none

/-- `a` may stand before `b` among the members of an object that first got `a`. -/
def enumerates (a b : String) : Bool :=
  match arrayIndex? a, arrayIndex? b with
  | some i, some j => i ≤ j
  | none, some _ => false
  | _, none => true

/-- Members that are set one after the other, in enumeration order. -/
def setMembers (members : List (String × JsValue)) : List (String × JsValue) :=
  (Lib.KeyedList.upsertAll Prod.fst [] members).insertionSort fun a b => enumerates a.1 b.1

mutual

def JsonTree.toValue : JsonTree → JsValue
  | .null => .null
  | .bool b => .bool b
  | .num q => .num (.ofRat q)
  | .str s => .str s
  | .arr items => .arr (itemValues items)
  | .obj members => .obj (setMembers (memberValues members))

def itemValues : List JsonTree → List JsValue
  | [] => []
  | t :: ts => t.toValue :: itemValues ts

def memberValues : List (String × JsonTree) → List (String × JsValue)
  | [] => []
  | (k, t) :: ms => (k, t.toValue) :: memberValues ms

end

/-- `JSON.parse(text)`; `none` is its SyntaxError. -/
def parseJson (text : String) : Option JsValue := (parseJsonText text).map JsonTree.toValue

end UniverEscrow.Js
