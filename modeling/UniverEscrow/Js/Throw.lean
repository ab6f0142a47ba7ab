import UniverEscrow.Js.Value

/-!
# Expressions that throw

An expression that may throw gives its value or the message of the Error.
-/

namespace UniverEscrow.Js

def throwUnless (holds : Bool) (message : String) : Except String Unit :=
  if holds then .ok () else .error message

def orThrow {α : Type} (message : String) (x : Option α) : Except String α :=
  match x with
  | some a => .ok a
  | none => .error message

/-- `String(v)`, or the text of `v` in a template. -/
def textOrThrow (v : JsValue) : Except String String :=
  orThrow "Cannot convert object to primitive value" v.toText

/-- `v.key`, which throws on `undefined` and `null`. -/
def memberOrThrow (v : JsValue) (key : String) : Except String JsValue :=
  match v with
  | .undefined => .error ("Cannot read properties of undefined (reading '" ++ key ++ "')")
  | .null => .error ("Cannot read properties of null (reading '" ++ key ++ "')")
  | v => .ok (v.get key)

@[simp] theorem throwUnless_eq_ok {holds : Bool} {message : String} {u : Unit} :
    throwUnless holds message = .ok u ↔ holds = true := by
  cases holds <;> simp [throwUnless]

@[simp] theorem orThrow_eq_ok {α : Type} {message : String} {x : Option α} {a : α} :
    orThrow message x = .ok a ↔ x = some a := by
  cases x <;> simp [orThrow]

@[simp] theorem textOrThrow_eq_ok {v : JsValue} {s : String} :
    textOrThrow v = .ok s ↔ v.toText = some s := by
  simp [textOrThrow]

@[simp] theorem memberOrThrow_eq_ok {v w : JsValue} {key : String} :
    memberOrThrow v key = .ok w ↔ v.isNullish = false ∧ v.get key = w := by
  cases v <;> simp [memberOrThrow, JsValue.isNullish]

end UniverEscrow.Js
