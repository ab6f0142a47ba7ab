import UniverEscrow.Enclave.CryptoService
import UniverEscrow.Merkle.Sha256
import Mathlib.Data.Rat.Floor

/-!
# Multi-signature verification

The officers and the threshold come from two environment strings.  A payload is the parsed
request body; its signature list may hold anything.
-/

namespace UniverEscrow.Admin

open UniverEscrow.Js UniverEscrow.Enclave UniverEscrow.Merkle

structure RecoveryEnv where
  officerPublicKeys : Option String
  thresholdM : Option String

/-- `keysEnv.split(',').map(trim).filter(Boolean)`. -/
def recoveryOfficerPublicKeys (env : RecoveryEnv) : List String :=
  (((env.officerPublicKeys.getD "").toList.splitOn ',').map fun cs =>
    jsTrim (String.ofList cs)).filter (· ≠ "")

/-- `Number.isFinite(mParsed) ? Math.floor(mParsed) : 0`. -/
def thresholdM (env : RecoveryEnv) : ℤ :=
  let mEnv := env.thresholdM.getD ""
  if mEnv = "" then 0
  else
    match stringToNumber mEnv with
    | .fin m => ⌊m.val⌋
    | _ => 0

mutual

/-- `undefined` is hashed as the string of its name. -/
def canonicalizeJsonStable : JsValue → String
  | .undefined => quote "undefined"
  | .null => "null"
  | .bool b => if b then "true" else "false"
  | .num n => n.toText
  | .str s => quote s
  | .arr items => "[" ++ String.intercalate "," (canonicalItems items) ++ "]"
  | .obj members =>
      "\x7b" ++ String.intercalate ","
        ((JsValue.sortByKey (canonicalMembers members)).map Prod.snd) ++ "\x7d"

def canonicalItems : List JsValue → List String
  | [] => []
  | v :: vs => canonicalizeJsonStable v :: canonicalItems vs

def canonicalMembers : List (String × JsValue) → List (String × String)
  | [] => []
  | (k, v) :: ms => (k, quote k ++ ":" ++ canonicalizeJsonStable v) :: canonicalMembers ms

end

/-- TimeClip: whole milliseconds within the range of dates. -/
def timeClip (ms : JsNumber) : JsNumber :=
  match ms with
  | .fin x =>
      if |x.val| ≤ 8640000000000000 then
        .ofInt (if 0 ≤ x.val then ⌊x.val⌋ else ⌈x.val⌉)
      else .nan
  | _ => .nan

/-- `new Date(v).getTime()`, with the platform's parser of date texts; `none` where the
coercion throws. -/
def dateTime (dateParse : String → JsNumber) : JsValue → Option JsNumber
  | .undefined => some .nan
  | .null => some (.ofInt 0)
  | .bool b => some (.ofInt (if b then 1 else 0))
  | .num n => some (timeClip n)
  | v => v.toText.map fun text => timeClip (dateParse text)

/-- The platform's part: hashing, RSA verification and the parser of date texts. -/
structure RecoveryPlatform where
  sha256 : Sha256
  rsa : RsaVerify
  dateParse : String → JsNumber

/-- The signed message binds request id, action and expiry. -/
def recoveryMessageToVerify (sha256 : Sha256) (payload : JsValue) : String :=
  sha256Hex sha256 ("ADMIN_RECOVERY|" ++ canonicalizeJsonStable
    (.obj [("requestId", payload.get "requestId"), ("action", payload.get "action"),
      ("expiresAt", payload.get "expiresAt")]))

/-- The loop keeps the keys counted so far; their number is `validCount`. -/
def countSignature (rsa : RsaVerify) (officers : List String) (message : String)
    (counted : List String) (sig : JsValue) : List String :=
  match sig.get "officerPublicKey" with
  | .str key =>
      if key ≠ "" && (sig.get "signatureHex").truthy && key ∈ officers && key ∉ counted &&
          verifySignature rsa message (sig.get "signatureHex") key then
        counted ++ [key]
      else counted
  | _ => counted

def countSignatures (rsa : RsaVerify) (officers : List String) (message : String)
    (signatures : List JsValue) : List String :=
  signatures.foldl (countSignature rsa officers message) []

/-- `payload.signatures ?? []` as the loop walks it; `none` where it is not iterable. -/
def signatureList (payload : JsValue) : Option (List JsValue) :=
  ((payload.get "signatures").orElse (.arr [])).iterate?

/-- A payload is turned down before its signatures are looked at, makes the verification
throw, or has its signatures counted. -/
inductive Screening where
  | refused
  | thrown
  | opened (signatures : List JsValue)

def screenRequest (platform : RecoveryPlatform) (now : JsNumber) (payload : JsValue) :
    Screening :=
  if !payload.truthy || !(payload.get "action").isStr "LEDGER_UNFREEZE_RITUAL" then .refused
  else
    match dateTime platform.dateParse (payload.get "expiresAt") with
    | none => .thrown
    | some expiresMs =>
        if !expiresMs.isFinite || expiresMs.le now then .refused
        else
          match signatureList payload with
          | none => .thrown
          | some signatures => .opened signatures

/-- `none` where the verification throws. -/
def verifyMultiSig (platform : RecoveryPlatform) (env : RecoveryEnv) (now : JsNumber)
    (payload : JsValue) : Option Bool :=
  match screenRequest platform now payload with
  | .refused => some false
  | .thrown => none
  | .opened signatures =>
      some (thresholdM env ≤ (countSignatures platform.rsa (recoveryOfficerPublicKeys env)
        (recoveryMessageToVerify platform.sha256 payload) signatures).length)

/-! ## Whose signatures are counted -/

def Approves (rsa : RsaVerify) (officers : List String) (message : String)
    (signatures : List JsValue) (key : String) : Prop :=
  key ∈ officers ∧ ∃ sig ∈ signatures, sig.get "officerPublicKey" = .str key ∧
    verifySignature rsa message (sig.get "signatureHex") key = true

variable {rsa : RsaVerify} {officers : List String} {message : String}

/-- What verifies is neither an empty key nor an empty signature. -/
theorem truthy_of_verifySignature {signatureHex : JsValue} {key : String}
    (h : verifySignature rsa message signatureHex key = true) :
    key ≠ "" ∧ signatureHex.truthy = true := by
  cases signatureHex with
  | str signature =>
      simp only [verifySignature, Bool.and_eq_true, decide_eq_true_eq] at h
      obtain ⟨⟨⟨-, hkey⟩, hhex⟩, -⟩ := h
      refine ⟨hkey, ?_⟩
      simp only [JsValue.truthy, decide_eq_true_eq]
      rintro rfl
      cases hhex
  | _ => cases h

theorem mem_countSignature {counted : List String} {sig : JsValue} {key : String} :
    key ∈ countSignature rsa officers message counted sig ↔
      key ∈ counted ∨ Approves rsa officers message [sig] key := by
  unfold countSignature Approves
  split
  · rename_i sigKey hsigKey
    split_ifs with h
    · simp only [Bool.and_eq_true, decide_eq_true_eq] at h
      obtain ⟨⟨⟨-, hofficer⟩, -⟩, hverify⟩ := h
      rw [List.mem_append, List.mem_singleton]
      constructor
      · rintro (hmem | rfl)
        exacts [.inl hmem, .inr ⟨hofficer, sig, List.mem_cons_self, hsigKey, hverify⟩]
      · rintro (hmem | ⟨-, sig', hsig', hkey, -⟩)
        · exact .inl hmem
        · rw [List.mem_singleton.1 hsig', hsigKey] at hkey
          cases hkey
          exact .inr rfl
    · constructor
      · exact .inl
      · rintro (hmem | ⟨hofficer, sig', hsig', hkey, hverify⟩)
        · exact hmem
        · obtain rfl := List.mem_singleton.1 hsig'
          cases hsigKey.symm.trans hkey
          obtain ⟨hne, htruthy⟩ := truthy_of_verifySignature hverify
          by_contra hmem
          exact h (by simp [hne, htruthy, hofficer, hmem, hverify])
  · rename_i hnone
    constructor
    · exact .inl
    · rintro (hmem | ⟨-, sig', hsig', hkey, -⟩)
      · exact hmem
      · rw [List.mem_singleton.1 hsig'] at hkey
        exact absurd hkey (hnone key)

theorem nodup_countSignature {counted : List String} (h : counted.Nodup) (sig : JsValue) :
    (countSignature rsa officers message counted sig).Nodup := by
  unfold countSignature
  split
  · split_ifs with hcount
    · simp only [Bool.and_eq_true, decide_eq_true_eq] at hcount
      rw [← List.concat_eq_append]
      exact h.concat hcount.1.2
    · exact h
  · exact h

theorem approves_cons {sig : JsValue} {signatures : List JsValue} {key : String} :
    Approves rsa officers message (sig :: signatures) key ↔
      Approves rsa officers message [sig] key ∨ Approves rsa officers message signatures key := by
  simp only [Approves, List.mem_cons, List.not_mem_nil, or_false, exists_eq_or_imp,
    exists_eq_left]
  tauto

/-- The loop counts each approving officer exactly once. -/
theorem countSignatures_spec (signatures : List JsValue) :
    (countSignatures rsa officers message signatures).Nodup ∧
      ∀ key, key ∈ countSignatures rsa officers message signatures ↔
        Approves rsa officers message signatures key := by
  have hloop : ∀ (signatures : List JsValue) (counted : List String), counted.Nodup →
      (signatures.foldl (countSignature rsa officers message) counted).Nodup ∧
        ∀ key, key ∈ signatures.foldl (countSignature rsa officers message) counted ↔
          key ∈ counted ∨ Approves rsa officers message signatures key := by
    intro signatures
    induction signatures with
    | nil => exact fun counted h => ⟨h, fun key => by simp [Approves]⟩
    | cons sig signatures ih =>
        intro counted h
        obtain ⟨hnodup, hmem⟩ := ih _ (nodup_countSignature h sig)
        refine ⟨hnodup, fun key => ?_⟩
        have hsplit : Approves rsa officers message (sig :: signatures) key ↔ _ := approves_cons
        rw [List.foldl_cons, hmem key, mem_countSignature, hsplit]
        tauto
  obtain ⟨hnodup, hmem⟩ := hloop signatures [] List.nodup_nil
  exact ⟨hnodup, fun key => by simpa [countSignatures] using hmem key⟩

/-! ## When verification fails closed -/

/-- `ADMIN_RECOVERY_THRESHOLD_M` is set and not empty. -/
def ThresholdConfigured (env : RecoveryEnv) : Prop := env.thresholdM.getD "" ≠ ""

variable (platform : RecoveryPlatform) (env : RecoveryEnv) (now : JsNumber) (payload : JsValue)

def NotExpired : Prop :=
  ∃ expiresMs, dateTime platform.dateParse (payload.get "expiresAt") = some expiresMs ∧
    expiresMs.isFinite = true ∧ expiresMs.le now = false

/-- An unfreeze request that has not expired and whose signature list can be walked. -/
def WellFormedRequest (signatures : List JsValue) : Prop :=
  payload.truthy = true ∧ (payload.get "action").isStr "LEDGER_UNFREEZE_RITUAL" = true ∧
    NotExpired platform now payload ∧ signatureList payload = some signatures

/-- The officer's signature in the list verifies for this request's message. -/
def OfficerApproves (signatures : List JsValue) (key : String) : Prop :=
  Approves platform.rsa (recoveryOfficerPublicKeys env)
    (recoveryMessageToVerify platform.sha256 payload) signatures key

/-- An accepted payload is fresh and signed by enough officers, at least one, and nothing is
accepted without officers or without a threshold. -/
def FailsClosed : Prop :=
  (verifyMultiSig platform env now payload = some true →
    NotExpired platform now payload ∧
    ∃ (signatures : List JsValue) (keys : List String),
      signatureList payload = some signatures ∧ keys.Nodup ∧
      (∀ key ∈ keys, OfficerApproves platform env payload signatures key) ∧
      max 1 (thresholdM env) ≤ keys.length) ∧
  (recoveryOfficerPublicKeys env = [] ∨ ¬ ThresholdConfigured env →
    verifyMultiSig platform env now payload ≠ some true)

variable {platform env now payload}

theorem screenRequest_eq_opened {signatures : List JsValue} :
    screenRequest platform now payload = .opened signatures ↔
      WellFormedRequest platform now payload signatures := by
  unfold screenRequest
  constructor
  · intro h
    split_ifs at h with hrefused
    split at h
    · cases h
    · rename_i expiresMs hexpires
      split_ifs at h with hstale
      split at h
      · cases h
      · rename_i found hfound
        cases h
        simp only [Bool.or_eq_true, Bool.not_eq_true', not_or, Bool.not_eq_true,
          Bool.not_eq_false] at hrefused hstale
        exact ⟨hrefused.1, hrefused.2, ⟨expiresMs, hexpires, hstale.1, hstale.2⟩, hfound⟩
  · rintro ⟨htruthy, haction, ⟨expiresMs, hexpires, hfinite, hle⟩, hsignatures⟩
    simp [htruthy, haction, hexpires, hfinite, hle, hsignatures]

theorem verifyMultiSig_eq_true :
    verifyMultiSig platform env now payload = some true ↔
      ∃ signatures, WellFormedRequest platform now payload signatures ∧
        thresholdM env ≤ (countSignatures platform.rsa (recoveryOfficerPublicKeys env)
          (recoveryMessageToVerify platform.sha256 payload) signatures).length := by
  simp only [← screenRequest_eq_opened]
  unfold verifyMultiSig
  cases screenRequest platform now payload with
  | refused => simp
  | thrown => simp
  | opened signatures => simp

theorem thresholdM_of_unconfigured (h : ¬ ThresholdConfigured env) : thresholdM env = 0 := by
  have hempty : env.thresholdM.getD "" = "" := not_not.1 h
  simp [thresholdM, hempty]

theorem failsClosed_of_threshold (hthreshold : 1 ≤ thresholdM env) :
    FailsClosed platform env now payload := by
  constructor
  · intro haccepted
    obtain ⟨signatures, ⟨-, -, hfresh, hsignatures⟩, hcount⟩ := verifyMultiSig_eq_true.1 haccepted
    refine ⟨hfresh, signatures, _, hsignatures, (countSignatures_spec signatures).1,
      fun key hkey => ((countSignatures_spec signatures).2 key).1 hkey, ?_⟩
    rwa [max_eq_right hthreshold]
  · rintro hmissing haccepted
    obtain ⟨signatures, -, hcount⟩ := verifyMultiSig_eq_true.1 haccepted
    rcases hmissing with hofficers | hunset
    · have hnone : countSignatures platform.rsa (recoveryOfficerPublicKeys env)
          (recoveryMessageToVerify platform.sha256 payload) signatures = [] := by
        rw [List.eq_nil_iff_forall_not_mem]
        intro key hkey
        have hofficer := (((countSignatures_spec signatures).2 key).1 hkey).1
        rw [hofficers] at hofficer
        cases hofficer
      rw [hnone, List.length_nil] at hcount
      omega
    · rw [thresholdM_of_unconfigured hunset] at hthreshold
      omega

/-- Without a positive threshold every well-formed request passes, signed or not. -/
theorem verifyMultiSig_of_no_threshold {signatures : List JsValue} (hthreshold : thresholdM env < 1)
    (hrequest : WellFormedRequest platform now payload signatures) :
    verifyMultiSig platform env now payload = some true :=
  verifyMultiSig_eq_true.2 ⟨signatures, hrequest, by omega⟩

/-- Verification fails closed unless the threshold in force is below one, the request gets to
its signatures, and the threshold is unset or no officer signed. -/
theorem verifyMultiSig_failsClosed_iff :
    FailsClosed platform env now payload ↔
      1 ≤ thresholdM env ∨
      ∀ signatures, WellFormedRequest platform now payload signatures →
        ThresholdConfigured env ∧ ∃ key, OfficerApproves platform env payload signatures key := by
  constructor
  · rintro ⟨haccepted, hconfigured⟩
    by_contra! hcon
    obtain ⟨hthreshold, signatures, hrequest, hunsigned⟩ := hcon
    have htrue := verifyMultiSig_of_no_threshold hthreshold hrequest
    have hset : ThresholdConfigured env := by
      by_contra hunset
      exact hconfigured (.inr hunset) htrue
    obtain ⟨-, found, keys, hfound, -, happrove, hcount⟩ := haccepted htrue
    have hsame : found = signatures :=
      Option.some_injective _ (hfound.symm.trans hrequest.2.2.2)
    subst hsame
    cases keys with
    | nil =>
        rw [List.length_nil] at hcount
        exact absurd (le_max_left (1 : ℤ) (thresholdM env)) (by omega)
    | cons key keys => exact hunsigned hset key (happrove key List.mem_cons_self)
  · rintro (hthreshold | hsigned)
    · exact failsClosed_of_threshold hthreshold
    by_cases hthreshold : 1 ≤ thresholdM env
    · exact failsClosed_of_threshold hthreshold
    constructor
    · intro haccepted
      obtain ⟨signatures, hrequest, -⟩ := verifyMultiSig_eq_true.1 haccepted
      obtain ⟨-, key, happroves⟩ := hsigned signatures hrequest
      refine ⟨hrequest.2.2.1, signatures, [key], hrequest.2.2.2, List.nodup_singleton key, ?_, ?_⟩
      · intro other hother
        rwa [List.mem_singleton.1 hother]
      · rw [max_eq_left (by omega), List.length_singleton, Nat.cast_one]
    · intro hmissing haccepted
      obtain ⟨signatures, hrequest, -⟩ := verifyMultiSig_eq_true.1 haccepted
      obtain ⟨hset, key, hofficer, -⟩ := hsigned signatures hrequest
      rcases hmissing with hofficers | hunset
      · rw [hofficers] at hofficer
        cases hofficer
      · exact hunset hset

def unsetThreshold : RecoveryEnv where
  officerPublicKeys := some "KEY-A,KEY-B"
  thresholdM := none

def unsignedRequest : JsValue :=
  .obj [("requestId", .str "r1"), ("action", .str "LEDGER_UNFREEZE_RITUAL"),
    ("expiresAt", .str "2100-01-01T00:00:00.000Z"), ("signatures", .arr [])]

/-- `Date.parse` on the text of the request. -/
def sampleDateParse (text : String) : JsNumber :=
  if text = "2100-01-01T00:00:00.000Z" then .ofInt 4102444800000 else .nan

/-- Whatever the hash and the RSA verifier, a request that nobody signed is accepted. -/
theorem unsigned_request_accepted :
    ¬ ThresholdConfigured unsetThreshold ∧
      ∀ (sha256 : Sha256) (rsa : RsaVerify),
        verifyMultiSig ⟨sha256, rsa, sampleDateParse⟩ unsetThreshold (.ofInt 1700000000000)
          unsignedRequest = some true ∧
        ¬ FailsClosed ⟨sha256, rsa, sampleDateParse⟩ unsetThreshold (.ofInt 1700000000000)
          unsignedRequest := by
  have hunset : ¬ ThresholdConfigured unsetThreshold := by
    simp [ThresholdConfigured, unsetThreshold]
  refine ⟨hunset, fun sha256 rsa => ?_⟩
  have hthreshold : thresholdM unsetThreshold < 1 := by
    rw [thresholdM_of_unconfigured hunset]
    exact zero_lt_one
  have hfresh : NotExpired ⟨sha256, rsa, sampleDateParse⟩ (.ofInt 1700000000000)
      unsignedRequest := by
    refine ⟨.ofInt 4102444800000, ?_, by decide +kernel, by decide +kernel⟩
    show dateTime sampleDateParse _ = _
    decide +kernel
  have htrue : verifyMultiSig ⟨sha256, rsa, sampleDateParse⟩ unsetThreshold
      (.ofInt 1700000000000) unsignedRequest = some true :=
    verifyMultiSig_of_no_threshold hthreshold ⟨rfl, rfl, hfresh, rfl⟩
  exact ⟨htrue, fun h => h.2 (.inr hunset) htrue⟩

end UniverEscrow.Admin
