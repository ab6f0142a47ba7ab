import UniverEscrow.Js.Hex
import UniverEscrow.Merkle.Sha256

/-!
# EnclaveLogShield

The log shield copies a value and leaves out what is sensitive.  A string under a sensitive key
becomes a token of its hash; other values there, and the text of a stack trace, become a fixed
text; in any other string the values after a few markers become tokens.
-/

namespace UniverEscrow.Security

open UniverEscrow.Js UniverEscrow.Merkle

structure LogPlatform where
  sha256 : Sha256
  enclaveSalt : String
  toLowerCase : String → String

/-- The primitive values that are no strings. -/
inductive Primitive where
  | undefined
  | null
  | bool (b : Bool)
  | num (n : JsNumber)
  | bigint (n : ℤ)
  | symbol (description : Option String)
deriving DecidableEq

/-- A value to be logged; the members of an object stand in the order of `Object.entries`. -/
inductive LogValue where
  | primitive (p : Primitive)
  | str (s : String)
  | buffer (bytes : Bytes)
  | arr (items : List LogValue)
  | obj (members : List (String × LogValue))

/-- A sanitised value; `proto` is the prototype of an object where it has been set. -/
inductive SafeValue where
  | primitive (p : Primitive)
  | str (s : String)
  | arr (items : List SafeValue)
  | obj (proto : Option SafeValue) (members : List (String × SafeValue))

def LogValue.isString : LogValue → Bool
  | .str _ => true
  | _ => false

/-! ## Strings -/

def computeRedactedToken (platform : LogPlatform) (sensitiveValue : String) : String :=
  sha256Hex platform.sha256 (sensitiveValue ++ "||" ++ platform.enclaveSalt)

def isLikelySensitiveKey (platform : LogPlatform) (key : String) : Bool :=
  let k := (platform.toLowerCase key).toList
  k = "commitment".toList || k = "transactionid".toList || k = "transaction_id".toList ||
    k = "signature".toList || k = "publickey".toList || "signature".toList <:+ k ||
    "commitment".toList <:+: k || "transaction".toList <:+: k

/-- The class `\w`. -/
def isWordChar (c : Char) : Bool := c.isAlphanum || c = '_'

/-- The text begins with the word, up to the case of ASCII letters. -/
def startsWithIgnoreCase : List Char → List Char → Bool
  | [], _ => true
  | _ :: _, [] => false
  | w :: ws, c :: cs => w.toLower = c.toLower && startsWithIgnoreCase ws cs

/-- The class `[^\s,;]`. -/
def isValueChar (c : Char) : Bool := !isJsSpace c && c ≠ ',' && c ≠ ';'

/-- A match of `\bword\b\s*[:=]\s*([^\s,;]+)` at the head of the text: the captured value, and
what comes after the match. -/
def matchMarker (word : List Char) (previous : Option Char) (cs : List Char) :
    Option (List Char × List Char) :=
  if previous.any isWordChar || !startsWithIgnoreCase word cs then none
  else
    let afterWord := cs.drop word.length
    if afterWord.head?.any isWordChar then none
    else
      match afterWord.dropWhile isJsSpace with
      | [] => none
      | sign :: rest =>
          if sign ≠ ':' ∧ sign ≠ '=' then none
          else
            let rest := rest.dropWhile isJsSpace
            match rest.takeWhile isValueChar with
            | [] => none
            | value => some (value, rest.dropWhile isValueChar)

/-- `cs.replace(re, ...)` for a global `re`; the first `skip` characters belong to a match. -/
def replaceMarkers (replacement : (value : String) → String) (word : List Char) :
    (previous : Option Char) → (skip : ℕ) → List Char → List Char
  | _, _, [] => []
  | _, skip + 1, c :: cs => replaceMarkers replacement word (some c) skip cs
  | previous, 0, c :: cs =>
      match matchMarker word previous (c :: cs) with
      | none => c :: replaceMarkers replacement word (some c) 0 cs
      | some (value, after) =>
          (replacement (String.ofList value)).toList ++
            replaceMarkers replacement word (some c) (cs.length - after.length) cs

/-- The word of a pattern and the label it is replaced by. -/
def redactPatterns : List (String × String) :=
  [("commitment", "commitment"), ("transactionId", "transactionId"),
    ("transaction_id", "transactionId"), ("signature", "signature")]

def redactPattern (platform : LogPlatform) (s : String) (pattern : String × String) : String :=
  let replacement := fun value =>
    pattern.2 ++ "=[REDACTED_" ++ computeRedactedToken platform value ++ "]"
  String.ofList (replaceMarkers replacement pattern.1.toList none 0 s.toList)

def redactString (platform : LogPlatform) (s : String) : String :=
  redactPatterns.foldl (redactPattern platform) s

/-! ## Values -/

/-- What stands for a string under a sensitive key. -/
def redactedText (platform : LogPlatform) (s : String) : String :=
  "[REDACTED_" ++ computeRedactedToken platform s ++ "]"

/-- Assigning to `__proto__` takes an object or null for the prototype, and drops the rest. -/
def SafeValue.isPrototype : SafeValue → Bool
  | .arr _ => true
  | .obj _ _ => true
  | .primitive .null => true
  | _ => false

def setsPrototype (assignment : String × SafeValue) : Bool :=
  assignment.1 = "__proto__" && assignment.2.isPrototype

def setsMember (assignment : String × SafeValue) : Bool := assignment.1 ≠ "__proto__"

/-- `out` after `out[k] = v` for each of the assignments, whose keys are distinct. -/
def safeObject (assignments : List (String × SafeValue)) : SafeValue :=
  .obj ((assignments.find? setsPrototype).map Prod.snd) (assignments.filter setsMember)

/-- What is assigned for a member, whose value has the given copy. -/
def memberValue (platform : LogPlatform) (key : String) (v : LogValue) (copy : SafeValue) :
    SafeValue :=
  if isLikelySensitiveKey platform key then
    match v with
    | .str s => .str (redactedText platform s)
    | _ => .str "[REDACTED_NONSTRING]"
  else if platform.toLowerCase key = "stack" && v.isString then .str "[STACK_REDACTED]"
  else copy

mutual

def sanitizeAny (platform : LogPlatform) : LogValue → SafeValue
  | .str s => .str (redactString platform s)
  | .buffer bytes =>
      .str ("[BUFFER_REDACTED_" ++ computeRedactedToken platform (hexOfBytes bytes) ++ "]")
  | .arr items => .arr (sanitizeItems platform items)
  | .obj members => safeObject (sanitizeMembers platform members)
  | .primitive p => .primitive p

def sanitizeItems (platform : LogPlatform) : List LogValue → List SafeValue
  | [] => []
  | v :: vs => sanitizeAny platform v :: sanitizeItems platform vs

def sanitizeMembers (platform : LogPlatform) :
    List (String × LogValue) → List (String × SafeValue)
  | [] => []
  | (key, v) :: rest =>
      (key, memberValue platform key v (sanitizeAny platform v)) :: sanitizeMembers platform rest

end

/-! ## Errors -/

/-- What is thrown: an Error with the members that are read of it, or another value. -/
inductive Thrown where
  | error (name message : String) (details payload : LogValue)
  | value (v : LogValue)

structure SanitizedError where
  trackingId : String
  message : String
  safe : SafeValue

/-- `a ?? b`. -/
def LogValue.orElse (a b : LogValue) : LogValue :=
  match a with
  | .primitive .undefined => b
  | .primitive .null => b
  | a => a

/-- The tracking id is random. -/
def sanitizeError (platform : LogPlatform) (trackingId : String) : Thrown → SanitizedError
  | .value v => ⟨trackingId, "INTERNAL_ERROR", sanitizeAny platform v⟩
  | .error name message details payload =>
      ⟨trackingId, "INTERNAL_ERROR", .obj none
        [("name", .str name), ("message", .str (redactString platform message)),
          ("stack", .str "[STACK_REDACTED]"),
          ("details", sanitizeAny platform (details.orElse payload))]⟩

/-! ## Values that agree, and copies that differ in tokens -/

variable (platform : LogPlatform) (T : String → String → Prop)

mutual

/-- The values agree but for what stands under sensitive keys, where strings are related by `T`
and other values are any, and for the strings under a key `stack`. -/
inductive Agree : LogValue → LogValue → Prop
  | primitive (p : Primitive) : Agree (.primitive p) (.primitive p)
  | str (s : String) : Agree (.str s) (.str s)
  | buffer (bytes : Bytes) : Agree (.buffer bytes) (.buffer bytes)
  | arr {vs ws : List LogValue} (items : AgreeItems vs ws) : Agree (.arr vs) (.arr ws)
  | obj {vs ws : List (String × LogValue)} (members : AgreeMembers vs ws) :
      Agree (.obj vs) (.obj ws)

inductive AgreeItems : List LogValue → List LogValue → Prop
  | nil : AgreeItems [] []
  | cons {v w : LogValue} {vs ws : List LogValue} (head : Agree v w) (tail : AgreeItems vs ws) :
      AgreeItems (v :: vs) (w :: ws)

inductive AgreeMembers : List (String × LogValue) → List (String × LogValue) → Prop
  | nil : AgreeMembers [] []
  | sensitiveString {key s t : String} {vs ws : List (String × LogValue)}
      (sensitive : isLikelySensitiveKey platform key = true) (related : T s t)
      (tail : AgreeMembers vs ws) : AgreeMembers ((key, .str s) :: vs) ((key, .str t) :: ws)
  | sensitiveOther {key : String} {v w : LogValue} {vs ws : List (String × LogValue)}
      (sensitive : isLikelySensitiveKey platform key = true) (left : v.isString = false)
      (right : w.isString = false) (tail : AgreeMembers vs ws) :
      AgreeMembers ((key, v) :: vs) ((key, w) :: ws)
  | stack {key s t : String} {vs ws : List (String × LogValue)}
      (isStack : platform.toLowerCase key = "stack") (tail : AgreeMembers vs ws) :
      AgreeMembers ((key, .str s) :: vs) ((key, .str t) :: ws)
  | member {key : String} {v w : LogValue} {vs ws : List (String × LogValue)} (value : Agree v w)
      (tail : AgreeMembers vs ws) : AgreeMembers ((key, v) :: vs) ((key, w) :: ws)

end

mutual

/-- The copies are the same but for the tokens under sensitive keys, which are those of strings
related by `T`. -/
inductive DifferInTokens : SafeValue → SafeValue → Prop
  | primitive (p : Primitive) : DifferInTokens (.primitive p) (.primitive p)
  | str (s : String) : DifferInTokens (.str s) (.str s)
  | arr {vs ws : List SafeValue} (items : ItemsDiffer vs ws) : DifferInTokens (.arr vs) (.arr ws)
  | obj {p q : Option SafeValue} {vs ws : List (String × SafeValue)} (proto : ProtoDiffers p q)
      (members : MembersDiffer vs ws) : DifferInTokens (.obj p vs) (.obj q ws)

inductive ItemsDiffer : List SafeValue → List SafeValue → Prop
  | nil : ItemsDiffer [] []
  | cons {v w : SafeValue} {vs ws : List SafeValue} (head : DifferInTokens v w)
      (tail : ItemsDiffer vs ws) : ItemsDiffer (v :: vs) (w :: ws)

inductive ProtoDiffers : Option SafeValue → Option SafeValue → Prop
  | none : ProtoDiffers none none
  | some {v w : SafeValue} (value : DifferInTokens v w) : ProtoDiffers (some v) (some w)

inductive MembersDiffer : List (String × SafeValue) → List (String × SafeValue) → Prop
  | nil : MembersDiffer [] []
  | token {key s t : String} {vs ws : List (String × SafeValue)}
      (sensitive : isLikelySensitiveKey platform key = true) (related : T s t)
      (tail : MembersDiffer vs ws) :
      MembersDiffer ((key, .str (redactedText platform s)) :: vs)
        ((key, .str (redactedText platform t)) :: ws)
  | member {key : String} {v w : SafeValue} {vs ws : List (String × SafeValue)}
      (value : DifferInTokens v w) (tail : MembersDiffer vs ws) :
      MembersDiffer ((key, v) :: vs) ((key, w) :: ws)

end

variable {platform T} {v w : LogValue}

theorem isPrototype_eq {a b : SafeValue} (h : DifferInTokens platform T a b) :
    a.isPrototype = b.isPrototype := by
  cases h <;> rfl

theorem proto_differs {vs ws : List (String × SafeValue)} (h : MembersDiffer platform T vs ws) :
    ProtoDiffers platform T ((vs.find? setsPrototype).map Prod.snd)
      ((ws.find? setsPrototype).map Prod.snd) :=
  match h with
  | .nil => .none
  | @MembersDiffer.token _ _ key s t _ _ _ _ tail => by
      have htoken (text : String) : setsPrototype (key, .str text) = false := Bool.and_false _
      simp only [List.find?_cons, htoken]
      exact proto_differs tail
  | @MembersDiffer.member _ _ key a b _ _ value tail => by
      have hsame : setsPrototype (key, a) = setsPrototype (key, b) :=
        congrArg (decide (key = "__proto__") && ·) (isPrototype_eq value)
      cases hproto : setsPrototype (key, b) with
      | true =>
          simp only [List.find?_cons, hsame, hproto]
          exact .some value
      | false =>
          simp only [List.find?_cons, hsame, hproto]
          exact proto_differs tail

theorem members_differ {vs ws : List (String × SafeValue)} (h : MembersDiffer platform T vs ws) :
    MembersDiffer platform T (vs.filter setsMember) (ws.filter setsMember) :=
  match h with
  | .nil => .nil
  | @MembersDiffer.token _ _ key _ _ _ _ sensitive related tail => by
      cases hkey : decide (key ≠ "__proto__") with
      | true =>
          simp only [List.filter_cons, setsMember, hkey, if_true]
          exact .token sensitive related (members_differ tail)
      | false =>
          simp only [List.filter_cons, setsMember, hkey, Bool.false_eq_true, if_false]
          exact members_differ tail
  | @MembersDiffer.member _ _ key _ _ _ _ value tail => by
      cases hkey : decide (key ≠ "__proto__") with
      | true =>
          simp only [List.filter_cons, setsMember, hkey, if_true]
          exact .member value (members_differ tail)
      | false =>
          simp only [List.filter_cons, setsMember, hkey, Bool.false_eq_true, if_false]
          exact members_differ tail

/-- Building the object keeps the tokens where they are. -/
theorem safeObject_differs {vs ws : List (String × SafeValue)}
    (h : MembersDiffer platform T vs ws) :
    DifferInTokens platform T (safeObject vs) (safeObject ws) :=
  .obj (proto_differs h) (members_differ h)

/-- Values that agree are the same string, or no strings. -/
theorem Agree.strings (h : Agree platform T v w) :
    (∃ s, v = .str s ∧ w = .str s) ∨ v.isString = false ∧ w.isString = false := by
  cases h with
  | str s => exact .inl ⟨s, rfl, rfl⟩
  | primitive p => exact .inr ⟨rfl, rfl⟩
  | buffer bytes => exact .inr ⟨rfl, rfl⟩
  | arr items => exact .inr ⟨rfl, rfl⟩
  | obj members => exact .inr ⟨rfl, rfl⟩

section Member

variable {key : String} {copy copy' : SafeValue}

theorem memberValue_sensitive_string {s : String}
    (h : isLikelySensitiveKey platform key = true) :
    memberValue platform key (.str s) copy = .str (redactedText platform s) := by
  unfold memberValue
  rw [if_pos h]

theorem memberValue_sensitive_other (h : isLikelySensitiveKey platform key = true)
    (hv : v.isString = false) :
    memberValue platform key v copy = .str "[REDACTED_NONSTRING]" := by
  unfold memberValue
  rw [if_pos h]
  cases v with
  | str s => cases hv
  | primitive p => rfl
  | buffer bytes => rfl
  | arr items => rfl
  | obj members => rfl

/-- The key `stack` is none of the sensitive ones. -/
theorem stack_harmless (h : platform.toLowerCase key = "stack") :
    isLikelySensitiveKey platform key = false := by
  unfold isLikelySensitiveKey
  rw [h]
  decide

theorem memberValue_stack {s : String} (h : platform.toLowerCase key = "stack") :
    memberValue platform key (.str s) copy = .str "[STACK_REDACTED]" := by
  unfold memberValue
  rw [stack_harmless h, h]
  rfl

/-- Copies that differ in tokens are assigned as such for values that agree. -/
theorem memberValue_differs (h : Agree platform T v w)
    (hcopy : DifferInTokens platform T copy copy') :
    DifferInTokens platform T (memberValue platform key v copy)
      (memberValue platform key w copy') := by
  cases hkey : isLikelySensitiveKey platform key with
  | true =>
      cases h.strings with
      | inl hstr =>
          obtain ⟨s, rfl, rfl⟩ := hstr
          rw [memberValue_sensitive_string hkey, memberValue_sensitive_string hkey]
          exact .str _
      | inr hother =>
          rw [memberValue_sensitive_other hkey hother.1, memberValue_sensitive_other hkey hother.2]
          exact .str _
  | false =>
      have hstring : v.isString = w.isString := by
        cases h.strings with
        | inl hstr =>
            obtain ⟨s, rfl, rfl⟩ := hstr
            rfl
        | inr hother => rw [hother.1, hother.2]
      unfold memberValue
      rw [hkey, hstring, if_neg Bool.false_ne_true, if_neg Bool.false_ne_true]
      split
      · exact .str _
      · exact hcopy

end Member

/-! ## Noninterference -/

mutual

theorem sanitizeAny_differs {v w : LogValue} (h : Agree platform T v w) :
    DifferInTokens platform T (sanitizeAny platform v) (sanitizeAny platform w) :=
  match h with
  | .primitive p => .primitive p
  | .str s => .str _
  | .buffer bytes => .str _
  | .arr items => .arr (sanitizeItems_differ items)
  | .obj members => safeObject_differs (sanitizeMembers_differ members)

theorem sanitizeItems_differ {vs ws : List LogValue} (h : AgreeItems platform T vs ws) :
    ItemsDiffer platform T (sanitizeItems platform vs) (sanitizeItems platform ws) :=
  match h with
  | .nil => .nil
  | .cons head tail => .cons (sanitizeAny_differs head) (sanitizeItems_differ tail)

theorem sanitizeMembers_differ {vs ws : List (String × LogValue)}
    (h : AgreeMembers platform T vs ws) :
    MembersDiffer platform T (sanitizeMembers platform vs) (sanitizeMembers platform ws) :=
  match h with
  | .nil => .nil
  | .sensitiveString sensitive related tail => by
      simp only [sanitizeMembers, memberValue_sensitive_string sensitive]
      exact .token sensitive related (sanitizeMembers_differ tail)
  | .sensitiveOther sensitive left right tail => by
      simp only [sanitizeMembers, memberValue_sensitive_other sensitive left,
        memberValue_sensitive_other sensitive right]
      exact .member (.str _) (sanitizeMembers_differ tail)
  | .stack isStack tail => by
      simp only [sanitizeMembers, memberValue_stack isStack]
      exact .member (.str _) (sanitizeMembers_differ tail)
  | .member value tail =>
      .member (memberValue_differs value (sanitizeAny_differs value))
        (sanitizeMembers_differ tail)

end

/-! ## Equal tokens -/

/-- Strings related by `T` have the same token. -/
def TokensAgree (platform : LogPlatform) (T : String → String → Prop) : Prop :=
  ∀ s t, T s t → computeRedactedToken platform s = computeRedactedToken platform t

mutual

/-- Copies that differ in tokens alone are the same where the tokens are. -/
theorem DifferInTokens.eq (htokens : TokensAgree platform T) {a b : SafeValue}
    (h : DifferInTokens platform T a b) : a = b :=
  match h with
  | .primitive p => rfl
  | .str s => rfl
  | .arr items => congrArg SafeValue.arr (items.eq htokens)
  | .obj proto members => congrArg₂ SafeValue.obj (proto.eq htokens) (members.eq htokens)

theorem ItemsDiffer.eq (htokens : TokensAgree platform T) {vs ws : List SafeValue}
    (h : ItemsDiffer platform T vs ws) : vs = ws :=
  match h with
  | .nil => rfl
  | .cons head tail => congrArg₂ List.cons (head.eq htokens) (tail.eq htokens)

theorem ProtoDiffers.eq (htokens : TokensAgree platform T) {p q : Option SafeValue}
    (h : ProtoDiffers platform T p q) : p = q :=
  match h with
  | .none => rfl
  | .some value => congrArg some (value.eq htokens)

theorem MembersDiffer.eq (htokens : TokensAgree platform T) {vs ws : List (String × SafeValue)}
    (h : MembersDiffer platform T vs ws) : vs = ws :=
  match h with
  | .nil => rfl
  | @MembersDiffer.token _ _ key s t _ _ _ related tail => by
      have htexts : redactedText platform s = redactedText platform t :=
        congrArg (fun token => "[REDACTED_" ++ token ++ "]") (htokens s t related)
      rw [htexts, tail.eq htokens]
  | .member value tail => by rw [value.eq htokens, tail.eq htokens]

end

/-! ## What the shield hides -/

/-- Values that agree but for what is sensitive have copies that differ at most in the tokens of
the strings under sensitive keys, and the same copy where these tokens are the same. -/
theorem sanitizeAny_hides (platform : LogPlatform) (T : String → String → Prop) (v w : LogValue)
    (h : Agree platform T v w) :
    DifferInTokens platform T (sanitizeAny platform v) (sanitizeAny platform w) ∧
      (TokensAgree platform T → sanitizeAny platform v = sanitizeAny platform w) :=
  ⟨sanitizeAny_differs h, fun htokens => (sanitizeAny_differs h).eq htokens⟩

/-- SHA-256 on the texts of the tokens of `sampleLog "tx-1"` and `sampleLog "tx-2"`. -/
def sampleShield : LogPlatform where
  sha256 := fun text =>
    if text = "tx-2||inrepo-enclave-salt" then
      ⟨"3ec16900790372c22a5cd0e9f60e4292796e5a8269f83c1aebf85acb635fcc21", by decide +kernel⟩
    else ⟨"eb4a1fbf98f7b1a24618df32ceb95ce2dc39b658d4027fb01e66652e5ddea296", by decide +kernel⟩
  enclaveSalt := "inrepo-enclave-salt"
  toLowerCase := String.toLower

example : redactString sampleShield "lock failed: Signature : tx-1, retry" =
    "lock failed: signature=[REDACTED_" ++ computeRedactedToken sampleShield "tx-1" ++
      "], retry" := by
  decide +kernel

/-- A log of an order: a string and another value under sensitive keys, and a stack trace. -/
def sampleLog (transactionId stack : String) (proof : LogValue) : LogValue :=
  .obj [("order", .obj [("transactionId", .str transactionId), ("status", .str "LOCKED")]),
    ("steps", .arr [.obj [("latestCommitment", proof)], .primitive .null]),
    ("Stack", .str stack)]

theorem sampleLog_agree {T : String → String → Prop} {s t : String} {proof proof' : LogValue}
    (hst : T s t) (h : proof.isString = false) (h' : proof'.isString = false) :
    Agree sampleShield T (sampleLog s "at lock" proof) (sampleLog t "at release" proof') :=
  .obj (.member
    (.obj (.sensitiveString (by decide +kernel) hst (.member (.str _) .nil)))
    (.member
      (.arr (.cons (.obj (.sensitiveOther (by decide +kernel) h h' .nil))
        (.cons (.primitive _) .nil)))
      (.stack (by decide +kernel) .nil)))

theorem sanitizeAny_hides_sample :
    DifferInTokens sampleShield (fun _ _ => True)
        (sanitizeAny sampleShield (sampleLog "tx-1" "at lock" (.arr [.str "leaf"])))
        (sanitizeAny sampleShield (sampleLog "tx-2" "at release" (.primitive .null))) ∧
      sanitizeAny sampleShield (sampleLog "tx-1" "at lock" (.arr [.str "leaf"])) =
        sanitizeAny sampleShield (sampleLog "tx-1" "at release" (.primitive .null)) :=
  ⟨(sanitizeAny_hides sampleShield (fun _ _ => True) _ _ (sampleLog_agree trivial rfl rfl)).1,
    (sanitizeAny_hides sampleShield (fun s t => s = t) _ _ (sampleLog_agree rfl rfl rfl)).2
      fun _ _ h => congrArg _ h⟩

/-- What is thrown agrees: the name and the message of an error are the same, and its details
agree. -/
inductive AgreeThrown (platform : LogPlatform) (T : String → String → Prop) :
    Thrown → Thrown → Prop
  | value {v w : LogValue} (agree : Agree platform T v w) :
      AgreeThrown platform T (.value v) (.value w)
  | error {name message : String} {details payload details' payload' : LogValue}
      (agree : Agree platform T (details.orElse payload) (details'.orElse payload')) :
      AgreeThrown platform T (.error name message details payload)
        (.error name message details' payload')

/-- The details of an error are sanitised as values are. -/
theorem sanitizeError_hides (platform : LogPlatform) (T : String → String → Prop)
    (trackingId : String) (a b : Thrown) (h : AgreeThrown platform T a b) :
    DifferInTokens platform T (sanitizeError platform trackingId a).safe
        (sanitizeError platform trackingId b).safe ∧
      (TokensAgree platform T →
        sanitizeError platform trackingId a = sanitizeError platform trackingId b) := by
  cases h with
  | value agree =>
      have hdiffer := sanitizeAny_differs agree
      exact ⟨hdiffer, fun htokens => congrArg (SanitizedError.mk _ _) (hdiffer.eq htokens)⟩
  | error agree =>
      have hdiffer := sanitizeAny_differs agree
      refine ⟨.obj .none (.member (.str _) (.member (.str _) (.member (.str _)
        (.member hdiffer .nil)))), ?_⟩
      intro htokens
      simp only [sanitizeError, hdiffer.eq htokens]

end UniverEscrow.Security
