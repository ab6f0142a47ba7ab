import UniverEscrow.Js.Value

/-!
# Bytes and hexadecimal text

Writing bytes as hexadecimal text, and the reading of such a text, which stops at the first pair
of characters that is no byte instead of failing.
-/

namespace UniverEscrow.Js

abbrev Bytes := List UInt8

def hexPair (b : UInt8) : List Char :=
  [Nat.digitChar (b.toNat / 16), Nat.digitChar (b.toNat % 16)]

/-- `buffer.toString('hex')`. -/
def hexOfBytes (bytes : Bytes) : String := String.ofList (bytes.flatMap hexPair)

def hexDigit? (c : Char) : Option ℕ :=
  if '0' ≤ c ∧ c ≤ '9' then some (c.toNat - '0'.toNat)
  else if 'a' ≤ c ∧ c ≤ 'f' then some (c.toNat - 'a'.toNat + 10)
  else if 'A' ≤ c ∧ c ≤ 'F' then some (c.toNat - 'A'.toNat + 10)
  else none

/-- The byte a pair of digits stands for. -/
def byteOfDigits? (high low : Char) : Option UInt8 := do
  let h ← hexDigit? high
  let l ← hexDigit? low
  return UInt8.ofNat (16 * h + l)

def bytesOfDigits : List Char → Bytes
  | high :: low :: digits =>
      match byteOfDigits? high low with
      | some b => b :: bytesOfDigits digits
      | none => []
  | _ => []

/-- `Buffer.from(s, 'hex')`. -/
def bytesOfHex (s : String) : Bytes := bytesOfDigits s.toList

theorem hexDigit?_digitChar : ∀ d < 16, hexDigit? (Nat.digitChar d) = some d := by
  decide

theorem byteOfDigits?_hexPair (b : UInt8) :
    byteOfDigits? (Nat.digitChar (b.toNat / 16)) (Nat.digitChar (b.toNat % 16)) = some b := by
  have hb : b.toNat < 256 := b.toNat_lt
  have hhigh := hexDigit?_digitChar (b.toNat / 16) (by omega)
  have hlow := hexDigit?_digitChar (b.toNat % 16) (by omega)
  calc byteOfDigits? (Nat.digitChar (b.toNat / 16)) (Nat.digitChar (b.toNat % 16))
      = some (UInt8.ofNat (16 * (b.toNat / 16) + b.toNat % 16)) := by
        rw [byteOfDigits?, hhigh, hlow]
        rfl
    _ = some b := by rw [Nat.div_add_mod, UInt8.ofNat_toNat]

theorem bytesOfDigits_flatMap_hexPair (bytes : Bytes) :
    bytesOfDigits (bytes.flatMap hexPair) = bytes := by
  induction bytes with
  | nil => rfl
  | cons b bytes ih =>
      rw [List.flatMap_cons, hexPair]
      simp only [List.cons_append, List.nil_append, bytesOfDigits, byteOfDigits?_hexPair]
      rw [ih]

/-- What was written is read back. -/
@[simp] theorem bytesOfHex_hexOfBytes (bytes : Bytes) : bytesOfHex (hexOfBytes bytes) = bytes := by
  rw [bytesOfHex, hexOfBytes, String.toList_ofList, bytesOfDigits_flatMap_hexPair]

end UniverEscrow.Js
