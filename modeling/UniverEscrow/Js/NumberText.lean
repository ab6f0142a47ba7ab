import UniverEscrow.Js.Number
import Mathlib.Data.Nat.Digits.Defs

/-!
# Number to text and back

`String(n)` prints the shortest decimal that rounds to `n`, in the layout of
Number::toString; `Number(s)` reads a trimmed numeric literal and rounds it.
-/

namespace UniverEscrow.Js

def pow10 : ℤ → ℚ
  | .ofNat n => ((10 ^ n : ℕ) : ℚ)
  | .negSucc n => mkRat 1 (10 ^ (n + 1))

/-! ## Printing -/

/-- For `q > 0`, the `n` with `10 ^ (n - 1) ≤ q < 10 ^ n`. -/
def decimalPoint (q : ℚ) : ℤ :=
  if 1 ≤ q then (Nat.toDigits 10 ⌊q⌋.toNat).length
  else 1 - (Nat.toDigits 10 (⌈1 / q⌉.toNat - 1)).length

/-- The `k`-digit decimal closest to `x` among those that round to it. -/
def decimalCandidate (x : Binary64) (n : ℤ) (k : ℕ) : Option ℤ :=
  let t := x.val * pow10 (k - n)
  let lo := ⌊t⌋
  let roundsBack := fun s : ℤ => JsNumber.ofRat (s * pow10 (n - k)) = .fin x
  if roundsBack lo then
    if roundsBack (lo + 1) ∧ 1 / 2 < t - lo then some (lo + 1) else some lo
  else if roundsBack (lo + 1) then some (lo + 1)
  else none

/-- Digits and decimal point of the shortest decimal that rounds to `x > 0`.  Seventeen digits
always suffice. -/
def shortestDecimal (x : Binary64) : List Char × ℤ :=
  let n := decimalPoint x.val
  let (s, k) := ((List.range' 1 17).findSome? fun k =>
    (decimalCandidate x n k).map fun s => (s, k)).getD (⌊x.val * pow10 (17 - n)⌋, 17)
  let digits := Nat.toDigits 10 s.toNat
  -- a candidate that carried into one more digit is a power of ten
  if digits.length = k then (digits, n) else (['1'], n + 1)

/-- Lay out `0.digits * 10 ^ n` as Number::toString does. -/
def layoutDecimal (digits : List Char) (n : ℤ) : List Char :=
  let k : ℤ := digits.length
  if k ≤ n ∧ n ≤ 21 then digits ++ List.replicate (n - k).toNat '0'
  else if 0 < n ∧ n ≤ 21 then digits.take n.toNat ++ '.' :: digits.drop n.toNat
  else if -6 < n ∧ n ≤ 0 then '0' :: '.' :: (List.replicate (-n).toNat '0' ++ digits)
  else
    let e := n - 1
    let exponent := 'e' :: (if 0 ≤ e then '+' else '-') :: Nat.toDigits 10 e.natAbs
    match digits with
    | [d] => d :: exponent
    | d :: ds => d :: '.' :: (ds ++ exponent)
    | [] => exponent

def JsNumber.toText : JsNumber → String
  | .nan => "NaN"
  | .posInf => "Infinity"
  | .negInf => "-Infinity"
  | .fin x =>
      if x.val = 0 then "0"
      else if 0 < x.val then
        let (digits, n) := shortestDecimal x
        String.ofList (layoutDecimal digits n)
      else
        match JsNumber.neg (.fin x) with
        | .fin y =>
            let (digits, n) := shortestDecimal y
            String.ofList ('-' :: layoutDecimal digits n)
        | _ => ""

/-! ## Reading -/

/-- WhiteSpace and LineTerminator of the language. -/
def isJsSpace (c : Char) : Bool :=
  c.toNat ∈ [0x09, 0x0a, 0x0b, 0x0c, 0x0d, 0x20, 0xa0, 0x1680, 0x2028, 0x2029, 0x202f, 0x205f,
    0x3000, 0xfeff] ||
    (0x2000 ≤ c.toNat && c.toNat ≤ 0x200a)

def trimChars (cs : List Char) : List Char :=
  ((cs.dropWhile isJsSpace).reverse.dropWhile isJsSpace).reverse

def jsTrim (s : String) : String := String.ofList (trimChars s.toList)

def digitValue (c : Char) : ℕ :=
  if '0' ≤ c ∧ c ≤ '9' then c.toNat - '0'.toNat
  else if 'a' ≤ c ∧ c ≤ 'z' then c.toNat - 'a'.toNat + 10
  else if 'A' ≤ c ∧ c ≤ 'Z' then c.toNat - 'A'.toNat + 10
  else 36

def isDigitOf (base : ℕ) (c : Char) : Bool := digitValue c < base

def digitsValue (base : ℕ) (cs : List Char) : ℕ :=
  cs.foldl (fun acc c => acc * base + digitValue c) 0

/-- A non-empty run of digits and nothing else. -/
def readDigits (base : ℕ) (cs : List Char) : Option ℕ :=
  if cs ≠ [] ∧ cs.all (isDigitOf base) then some (digitsValue base cs) else none

def readSign : List Char → ℤ × List Char
  | '-' :: cs => (-1, cs)
  | '+' :: cs => (1, cs)
  | cs => (1, cs)

/-- The exponent part of a decimal literal, absent or complete. -/
def readExponent : List Char → Option ℤ
  | [] => some 0
  | c :: cs =>
      if c = 'e' ∨ c = 'E' then
        let (sign, ds) := readSign cs
        (readDigits 10 ds).map fun n => sign * n
      else none

/-- StrUnsignedDecimalLiteral without `Infinity`. -/
def readUnsignedDecimal (cs : List Char) : Option ℚ :=
  let ip := cs.takeWhile (isDigitOf 10)
  match cs.dropWhile (isDigitOf 10) with
  | '.' :: rest =>
      let fp := rest.takeWhile (isDigitOf 10)
      if ip = [] ∧ fp = [] then none
      else (readExponent (rest.dropWhile (isDigitOf 10))).map fun e =>
        digitsValue 10 (ip ++ fp) * pow10 (e - fp.length)
  | rest =>
      if ip = [] then none
      else (readExponent rest).map fun e => digitsValue 10 ip * pow10 e

/-- `Number(s)`: StringToNumber. -/
def stringToNumber (s : String) : JsNumber :=
  match trimChars s.toList with
  | [] => .ofInt 0
  | '0' :: c :: ds =>
      let radix := if c = 'x' ∨ c = 'X' then 16 else if c = 'o' ∨ c = 'O' then 8
        else if c = 'b' ∨ c = 'B' then 2 else 0
      if radix ≠ 0 then ((readDigits radix ds).map fun n => JsNumber.ofInt n).getD .nan
      else ((readUnsignedDecimal ('0' :: c :: ds)).map JsNumber.ofRat).getD .nan
  | cs =>
      let (sign, ds) := readSign cs
      if ds = "Infinity".toList then (if sign < 0 then .negInf else .posInf)
      else ((readUnsignedDecimal ds).map fun q => JsNumber.ofRat (sign * q)).getD .nan

end UniverEscrow.Js
