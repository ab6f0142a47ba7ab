import UniverEscrow.Js.NumberText

/-!
# Fixed-point text and big integers

`x.toFixed(2)` rounds the exact value of `x` to hundredths, halves away from zero; `BigInt(s)`
reads an integer literal and nothing else.
-/

namespace UniverEscrow.Js

/-- Two digits, for `n < 100`. -/
def twoDigits (n : ℕ) : List Char := [Nat.digitChar (n / 10), Nat.digitChar (n % 10)]

/-- Hundredths of `q ≥ 0`: the closest whole number of them, the larger one of two. -/
def hundredths (q : ℚ) : ℕ := ⌊q * 100 + 1 / 2⌋.toNat

/-- `x.toFixed(2)`. -/
def toFixed2 (x : Binary64) : String :=
  if 10 ^ 21 ≤ |x.val| then (JsNumber.fin x).toText
  else
    let n := hundredths |x.val|
    let digits := Nat.toDigits 10 (n / 100) ++ '.' :: twoDigits (n % 100)
    String.ofList (if x.val < 0 then '-' :: digits else digits)

/-- `BigInt(s)`; `none` is its SyntaxError. -/
def bigIntOfText? (s : String) : Option ℤ :=
  match trimChars s.toList with
  | [] => some 0
  | '0' :: c :: ds =>
      let radix := if c = 'x' ∨ c = 'X' then 16 else if c = 'o' ∨ c = 'O' then 8
        else if c = 'b' ∨ c = 'B' then 2 else 0
      if radix ≠ 0 then (readDigits radix ds).map Nat.cast
      else (readDigits 10 ('0' :: c :: ds)).map Nat.cast
  | cs =>
      let (sign, ds) := readSign cs
      (readDigits 10 ds).map fun n => sign * n

/-- The parts of a text before and after its first `.`, the second absent without one. -/
def splitPoint (s : String) : String × Option String :=
  match s.toList.dropWhile (· ≠ '.') with
  | [] => (s, none)
  | _ :: rest =>
      (String.ofList (s.toList.takeWhile (· ≠ '.')),
        some (String.ofList (rest.takeWhile (· ≠ '.'))))

end UniverEscrow.Js
