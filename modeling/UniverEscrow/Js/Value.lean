import UniverEscrow.Js.NumberText
import UniverEscrow.Js.Quote
import Mathlib.Data.List.Sort

/-!
# Plain data values

The values a JSON request body, a stored record or a parsed file can hold, with the coercions
the services apply to them.  Object members stand in enumeration order and keys are unique.
An own `toString` member of such an object is never callable, so string coercion of an object
that has one throws a TypeError; `none` stands for that.
-/

namespace UniverEscrow.Js

inductive JsValue where
  | undefined
  | null
  | bool (b : Bool)
  | num (n : JsNumber)
  | str (s : String)
  | arr (items : List JsValue)
  | obj (members : List (String × JsValue))

namespace JsValue

/-- A string value, as the literals of the source are written. -/
instance : Coe String JsValue := ⟨JsValue.str⟩

instance : Inhabited JsValue := ⟨.undefined⟩

def truthy : JsValue → Bool
  | .undefined | .null => false
  | .bool b => b
  | .num n => n.truthy
  | .str s => s ≠ ""
  | .arr _ | .obj _ => true

def isUndefined : JsValue → Bool
  | .undefined => true
  | _ => false

/-- `v === undefined || v === null`. -/
def isNullish : JsValue → Bool
  | .undefined | .null => true
  | _ => false

/-- `v ?? d`. -/
def orElse (v d : JsValue) : JsValue := if v.isNullish then d else v

/-- `typeof v === 'object'` for a truthy `v`. -/
def isObject : JsValue → Bool
  | .arr _ | .obj _ => true
  | _ => false

def isArray : JsValue → Bool
  | .arr _ => true
  | _ => false

def asString? : JsValue → Option String
  | .str s => some s
  | _ => none

def asNumber? : JsValue → Option JsNumber
  | .num n => some n
  | _ => none

@[simp] theorem asString?_str (s : String) : (JsValue.str s).asString? = some s := rfl

theorem asString?_eq_some {v : JsValue} {s : String} : v.asString? = some s ↔ v = .str s := by
  cases v <;> simp [asString?]

theorem asNumber?_eq_some {v : JsValue} {n : JsNumber} : v.asNumber? = some n ↔ v = .num n := by
  cases v <;> simp [asNumber?]

/-- `a === b` of values from different documents, where no two objects are the same one. -/
def strictEq : JsValue → JsValue → Bool
  | .undefined, .undefined => true
  | .null, .null => true
  | .bool a, .bool b => a = b
  | .num a, .num b => a.strictEq b
  | .str a, .str b => a = b
  | _, _ => false

/-- `v === s` for a string `s`. -/
def isStr (v : JsValue) (s : String) : Bool := v.asString? = some s

theorem isStr_iff {v : JsValue} {s : String} : v.isStr s = true ↔ v = .str s := by
  simp [isStr, asString?_eq_some]

def isNum (v : JsValue) (n : JsNumber) : Bool :=
  match v with
  | .num m => m.strictEq n
  | _ => false

def utf16Units (c : Char) : List ℕ :=
  if c.toNat < 0x10000 then [c.toNat]
  else [0xd800 + (c.toNat - 0x10000) / 0x400, 0xdc00 + (c.toNat - 0x10000) % 0x400]

/-- The `length` of a string counts UTF-16 code units. -/
def utf16Length (s : String) : ℕ := (s.toList.flatMap utf16Units).length

/-- `v?.key` for the keys the services read. -/
def get (v : JsValue) (key : String) : JsValue :=
  match v with
  | .obj members => ((members.find? fun m => m.1 = key).map Prod.snd).getD .undefined
  | .arr items => if key = "length" then .num (.ofInt items.length) else .undefined
  | .str s => if key = "length" then .num (.ofInt (utf16Length s)) else .undefined
  | _ => .undefined

/-- Only a value that is there has members. -/
theorem isNullish_of_get_ne {v : JsValue} {key : String} (h : v.get key ≠ .undefined) :
    v.isNullish = false := by
  cases v with
  | undefined => exact absurd rfl h
  | null => exact absurd rfl h
  | _ => rfl

/-- Only an object has a member other than `length`. -/
theorem exists_eq_obj_of_get_ne (key : String) {v : JsValue} (hkey : key ≠ "length")
    (h : v.get key ≠ .undefined) : ∃ members, v = .obj members := by
  cases v with
  | obj members => exact ⟨members, rfl⟩
  | arr items => exact absurd (if_neg hkey) h
  | str s => exact absurd (if_neg hkey) h
  | undefined => exact absurd rfl h
  | null => exact absurd rfl h
  | bool b => exact absurd rfl h
  | num n => exact absurd rfl h

def head (v : JsValue) : JsValue :=
  match v with
  | .arr items => items.head?.getD .undefined
  | .str s => (s.toList.head?.map fun c => JsValue.str (String.ofList [c])).getD .undefined
  | v => v.get "0"

/-- The values `for (const x of v)` binds; `none` is the TypeError of a non-iterable. -/
def iterate? : JsValue → Option (List JsValue)
  | .arr items => some items
  | .str s => some (s.toList.map fun c => .str (String.ofList [c]))
  | _ => none

/-! ## Coercions -/

mutual

/-- `String(v)` and template interpolation. -/
def toText : JsValue → Option String
  | .undefined => some "undefined"
  | .null => some "null"
  | .bool b => some (if b then "true" else "false")
  | .num n => some n.toText
  | .str s => some s
  | .arr items => (elementTexts items).map (String.intercalate ",")
  | .obj members =>
      if members.any fun m => m.1 = "toString" then none else some "[object Object]"

/-- The texts `Array.prototype.join` puts between commas. -/
def elementTexts : List JsValue → Option (List String)
  | [] => some []
  | .undefined :: vs => (elementTexts vs).map ("" :: ·)
  | .null :: vs => (elementTexts vs).map ("" :: ·)
  | v :: vs =>
      match toText v, elementTexts vs with
      | some t, some ts => some (t :: ts)
      | _, _ => none

end

/-- `Number(v)`. -/
def toNumber : JsValue → Option JsNumber
  | .undefined => some .nan
  | .null => some (.ofInt 0)
  | .bool b => some (.ofInt (if b then 1 else 0))
  | .num n => some n
  | v => v.toText.map stringToNumber

/-! ## JSON text -/

/-- `JSON.stringify` of a Number. -/
def numberJson (n : JsNumber) : String := if n.isFinite then n.toText else "null"

mutual

/-- `JSON.stringify(v)` for `v` other than `undefined`. -/
def stringify : JsValue → String
  | .undefined => "null"
  | .null => "null"
  | .bool b => if b then "true" else "false"
  | .num n => numberJson n
  | .str s => quote s
  | .arr items => "[" ++ String.intercalate "," (itemJsons items) ++ "]"
  | .obj members => "\x7b" ++ String.intercalate "," (memberJsons members) ++ "\x7d"

def itemJsons : List JsValue → List String
  | [] => []
  | v :: vs => stringify v :: itemJsons vs

def memberJsons : List (String × JsValue) → List String
  | [] => []
  | (_, .undefined) :: ms => memberJsons ms
  | (k, v) :: ms => (quote k ++ ":" ++ stringify v) :: memberJsons ms

end

mutual

/-- `JSON.parse(JSON.stringify(v))`: non-finite Numbers become `null`, undefined members go. -/
def viaJson : JsValue → JsValue
  | .undefined => .null
  | .num n => if n.isFinite then .num n else .null
  | .arr items => .arr (itemsViaJson items)
  | .obj members => .obj (membersViaJson members)
  | v => v

def itemsViaJson : List JsValue → List JsValue
  | [] => []
  | v :: vs => viaJson v :: itemsViaJson vs

def membersViaJson : List (String × JsValue) → List (String × JsValue)
  | [] => []
  | (_, .undefined) :: ms => membersViaJson ms
  | (k, v) :: ms => (k, viaJson v) :: membersViaJson ms

end

/-! ## Key order -/

def unitsLe : List ℕ → List ℕ → Bool
  | [], _ => true
  | _ :: _, [] => false
  | a :: as, b :: bs => a < b || (a = b && unitsLe as bs)

/-- `Array.prototype.sort` compares strings by code units. -/
def keyLe (a b : String) : Bool :=
  unitsLe (a.toList.flatMap utf16Units) (b.toList.flatMap utf16Units)

/-- `Object.keys(o).sort()` carried out on the members, each with what is made of its value. -/
def sortByKey {β : Type*} (members : List (String × β)) : List (String × β) :=
  members.insertionSort fun a b => keyLe a.1 b.1

end JsValue

end UniverEscrow.Js
