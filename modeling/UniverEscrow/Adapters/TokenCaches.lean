import Mathlib
import UniverEscrow.Backend.MpesaHandler
import UniverEscrow.Js.SafeInteger
import UniverEscrow.Lib.ExpiringCache

/-!
# Bearer tokens shared between payments

The Daraja service and the gateway's adapter each keep the last token that they were granted.  The
service counts its lifetime from the request and grants at least 2000 seconds; the adapter counts it
from the answer and stops a minute early.  Payments overlap while they wait for an answer.
-/

namespace UniverEscrow.Adapters

open UniverEscrow.Js UniverEscrow.Lib UniverEscrow.Lib.Run UniverEscrow.Lib.ExpiringCache
open UniverEscrow.Backend

/-- A reading of `Date.now()`. -/
abbrev ClockMs := {ms : ℤ // 0 ≤ ms ∧ ms ≤ 8640000000000000}

/-- The data of an answer, or the message of a request that fails. -/
abbrev TokenAnswer := Except String JsValue

/-! ## The gateway's adapter -/

structure CachedToken where
  token : JsValue
  expiresAt : JsNumber

/-- A call: the variables of the process, the cached token, the clock, the answer and the clock
when it is there. -/
structure BearerCall where
  env : String → Option String
  cachedToken : Option CachedToken
  nowMs : ℤ
  response : TokenAnswer
  answeredMs : ℤ

/-- The token and when it expires. -/
def keptToken (response : TokenAnswer) (answeredMs : ℤ) : Except String CachedToken := do
  let response ← response
  let seconds ← orThrow "Cannot convert object to primitive value"
    (← memberOrThrow response "expires_in").toNumber
  let expiresIn := if seconds.truthy then seconds else .ofInt 3600
  return ⟨response.get "access_token",
    (JsNumber.ofInt answeredMs).add (expiresIn.mul (.ofInt 1000))⟩

def CachedToken.usable (cached : CachedToken) (nowMs : ℤ) : Bool :=
  ((JsNumber.ofInt nowMs).add (.ofInt 60000)).lt cached.expiresAt

/-- The token, and the cached one after the call. -/
def requestBearerToken (call : BearerCall) : Except String (JsValue × Option CachedToken) := do
  throwUnless (orElseEmpty (call.env "MPESA_CONSUMER_KEY") "" ≠ "" &&
    orElseEmpty (call.env "MPESA_CONSUMER_SECRET") "" ≠ "") "MPESA_CREDENTIALS_MISSING"
  match call.cachedToken.filter (·.usable call.nowMs) with
  | some cached => return (cached.token, call.cachedToken)
  | none =>
      let cached ← keptToken call.response call.answeredMs
      return (cached.token, some cached)

/-- The calls of the adapter share one token. -/
def bearerPolicy : Policy ClockMs TokenAnswer CachedToken where
  keep a := (keptToken a.answer a.arrived).toOption
  usable cached now := cached.usable now

/-! ## The Daraja service -/

/-- The token and when it expires. -/
def darajaEntry (tokenData : TokenAnswer) (nowMs : ℤ) : Except String (String × JsNumber) := do
  let data ← tokenData
  let expiresIn ← orThrow "Cannot convert object to primitive value"
    ((data.get "expires_in").orElse (.num (.ofInt 3400))).toNumber
  let token ← orThrow "MPESA_ACCESS_TOKEN_MISSING" (data.get "access_token").asString?
  throwUnless (token ≠ "") "MPESA_ACCESS_TOKEN_MISSING"
  return (token, (JsNumber.ofInt nowMs).add
    ((atLeast2000 (expiresIn.sub (.ofInt 30))).mul (.ofInt 1000)))

def darajaPolicy : Policy ClockMs TokenAnswer (String × JsNumber) where
  keep a := (darajaEntry a.answer a.asked).toOption
  usable entry now := (JsNumber.ofInt now).lt entry.2

/-! ## One call -/

/-- A call of the adapter fetches under its policy. -/
theorem requestBearerToken_eq_ok {call : BearerCall} {asked arrived : ClockMs} {token : JsValue}
    {cachedToken : Option CachedToken} (hasked : call.nowMs = asked)
    (harrived : call.answeredMs = arrived)
    (h : requestBearerToken call = .ok (token, cachedToken)) :
    ∃ cached, fetch bearerPolicy call.cachedToken ⟨asked, arrived, call.response⟩ = some cached ∧
      cachedToken = some cached ∧ token = cached.token := by
  simp only [requestBearerToken, bind_eq_ok] at h
  obtain ⟨-, -, h⟩ := h
  rw [hasked, harrived] at h
  unfold fetch bearerPolicy
  dsimp only
  cases hfilter : call.cachedToken.filter (·.usable asked) with
  | some cached =>
      obtain ⟨hcached, -⟩ := Option.filter_eq_some_iff.1 hfilter
      rw [hfilter] at h
      cases h
      exact ⟨cached, rfl, hcached, rfl⟩
  | none =>
      rw [hfilter] at h
      obtain ⟨cached, hkept, heq⟩ := bind_eq_ok.1 h
      cases heq
      exact ⟨cached, congrArg Except.toOption hkept, rfl, rfl⟩

theorem fetchOAuthToken_eq (call : DarajaCall) : DarajaService.fetchOAuthToken call =
    match call.tokenCache.filter fun entry => (JsNumber.ofInt call.nowMs).lt entry.2 with
    | some entry => .ok (entry.1, call.tokenCache)
    | none => do
        let _consumerKey ← call.getEnv "MPESA_CONSUMER_KEY"
        let _consumerSecret ← call.getEnv "MPESA_CONSUMER_SECRET"
        let entry ← darajaEntry call.tokenData call.nowMs
        return (entry.1, some entry) := by
  unfold DarajaService.fetchOAuthToken darajaEntry
  cases call.tokenCache with
  | none =>
      simp only [Option.filter_none, bind_assoc, pure_bind]
  | some entry =>
      cases hlt : (JsNumber.ofInt call.nowMs).lt entry.2 with
      | true =>
          simp only [Option.filter_some, hlt, if_true]
          rfl
      | false => simp [Option.filter_some, hlt]

/-- A call of the service fetches under its policy. -/
theorem fetchOAuthToken_eq_ok {call : DarajaCall} {asked : ClockMs} (arrived : ClockMs)
    {token : String} {tokenCache : TokenCache} (hasked : call.nowMs = asked)
    (h : DarajaService.fetchOAuthToken call = .ok (token, tokenCache)) :
    ∃ entry, fetch darajaPolicy call.tokenCache ⟨asked, arrived, call.tokenData⟩ = some entry ∧
      tokenCache = some entry ∧ token = entry.1 := by
  rw [fetchOAuthToken_eq, hasked] at h
  unfold fetch darajaPolicy
  dsimp only
  cases hfilter : call.tokenCache.filter fun entry => (JsNumber.ofInt asked).lt entry.2 with
  | some entry =>
      obtain ⟨hcached, -⟩ := Option.filter_eq_some_iff.1 hfilter
      rw [hfilter] at h
      cases h
      exact ⟨entry, rfl, hcached, rfl⟩
  | none =>
      rw [hfilter] at h
      simp only [bind_eq_ok] at h
      obtain ⟨-, -, -, -, entry, hkept, heq⟩ := h
      cases heq
      exact ⟨entry, congrArg Except.toOption hkept, rfl, rfl⟩

section Calls

variable {ι : Type*} [DecidableEq ι] {caller : ι} {asked arrived : ClockMs}

/-- A call of the adapter that nothing disturbs leaves the token that its cache is left with. -/
theorem current?_requestBearerToken {cache : Cache ι ClockMs TokenAnswer CachedToken}
    {call : BearerCall} {token : JsValue} {cachedToken : Option CachedToken}
    (hwaiting : cache.waiting caller = none) (hcached : call.cachedToken = cache.current?)
    (hasked : call.nowMs = asked) (harrived : call.answeredMs = arrived)
    (h : requestBearerToken call = .ok (token, cachedToken)) :
    (run (step bearerPolicy) cache
      [.ask caller asked, .arrive caller arrived call.response]).current? = cachedToken := by
  obtain ⟨cached, hfetch, rfl, -⟩ := requestBearerToken_eq_ok hasked harrived h
  rw [current?_call (a := ⟨asked, arrived, call.response⟩) hwaiting, ← hcached, hfetch]
  rfl

/-- The same of the service. -/
theorem current?_fetchOAuthToken {cache : Cache ι ClockMs TokenAnswer (String × JsNumber)}
    {call : DarajaCall} {token : String} {tokenCache : TokenCache}
    (hwaiting : cache.waiting caller = none) (hcached : call.tokenCache = cache.current?)
    (hasked : call.nowMs = asked)
    (h : DarajaService.fetchOAuthToken call = .ok (token, tokenCache)) :
    (run (step darajaPolicy) cache
      [.ask caller asked, .arrive caller arrived call.tokenData]).current? = tokenCache := by
  obtain ⟨entry, hfetch, rfl, -⟩ := fetchOAuthToken_eq_ok arrived hasked h
  rw [current?_call (a := ⟨asked, arrived, call.tokenData⟩) hwaiting, ← hcached, hfetch]
  rfl

end Calls

/-! ## Tokens of one lifetime -/

/-- A token for so many seconds. -/
structure IsGrant (lifetime : ℕ) (data : JsValue) : Prop where
  token : ∃ token, token ≠ "" ∧ data.get "access_token" = .str token
  there : (data.get "expires_in").isNullish = false
  expiresIn : (data.get "expires_in").toNumber = some (.ofInt lifetime)

/-- A request that does not fail is granted a token. -/
def Grants (lifetime : ℕ) (a : Answered ClockMs TokenAnswer) : Prop :=
  ∀ data, a.answer = .ok data → IsGrant lifetime data

/-- The token is honoured, whenever on the way of the answer its lifetime began. -/
def Honoured (lifetime : ℕ) (a : Answered ClockMs TokenAnswer) (now : ClockMs) : Prop :=
  ∀ issued : ClockMs, a.asked ≤ issued → issued ≤ a.arrived → (now : ℤ) < issued + 1000 * lifetime

/-- In every run of callers, whatever overlaps, all tokens that are taken are honoured. -/
def TakesHonoured {ε : Type} (policy : Policy ClockMs TokenAnswer ε)
    (contract : Answered ClockMs TokenAnswer → Prop) (lifetime : ℕ) : Prop :=
  ∀ start (events : List (Event ℕ ClockMs TokenAnswer)),
    EachStep (step policy) (Fair contract) (Cache.new start) events →
    EachStep (step policy) (fun cache event => ∀ a entry,
      taken? policy cache event = some (a, entry) → Honoured lifetime a event.now)
      (Cache.new start) events

/-- Only answers are kept, and tokens of the lifetime are, for so long from the moment `since`. -/
structure KeepsFor {ε : Type} (policy : Policy ClockMs TokenAnswer ε) (lifetime : ℕ)
    (since : Answered ClockMs TokenAnswer → ℤ) (keptMs : ℤ) : Prop where
  answered : ∀ a entry, policy.keep a = some entry → ∃ data, a.answer = .ok data
  keep : ∀ a data, a.answer = .ok data → IsGrant lifetime data →
    ∃ entry, policy.keep a = some entry ∧
      ∀ now : ClockMs, policy.usable entry now = true ↔ (now : ℤ) < since a + keptMs

/-- A service of tokens of one lifetime: its answers are grants of such tokens. -/
theorem takesHonoured_iff {ε : Type} {policy : Policy ClockMs TokenAnswer ε} {lifetime : ℕ}
    {since : Answered ClockMs TokenAnswer → ℤ} {keptMs : ℤ}
    {contract : Answered ClockMs TokenAnswer → Prop}
    (hkeeps : KeepsFor policy lifetime since keptMs)
    (hcontract : ∀ a, contract a → Grants lifetime a) :
    TakesHonoured policy contract lifetime ↔
      ∀ a data (now : ClockMs), a.answer = .ok data → contract a → a.asked ≤ a.arrived →
        a.arrived ≤ now → (now : ℤ) < since a + keptMs → (now : ℤ) < a.asked + 1000 * lifetime := by
  rw [TakesHonoured, taken_iff]
  constructor
  · intro h a data now hdata hcontract' hasked harrived hkept
    obtain ⟨entry, hkeep, husable⟩ := hkeeps.keep a data hdata (hcontract a hcontract' data hdata)
    exact h a entry now hkeep hcontract' hasked harrived ((husable now).2 hkept) a.asked le_rfl
      hasked
  · intro h a entry now hkeep hcontract' hasked harrived husable issued hissued _
    obtain ⟨data, hdata⟩ := hkeeps.answered a entry hkeep
    obtain ⟨entry', hkeep', husable'⟩ := hkeeps.keep a data hdata
      (hcontract a hcontract' data hdata)
    rw [hkeep, Option.some.injEq] at hkeep'
    rw [hkeep', husable'] at husable
    have hhonoured := h a data now hdata hcontract' hasked harrived husable
    have hle : (a.asked : ℤ) ≤ issued := hissued
    omega

section Lifetimes

variable {lifetime : ℕ} {data : JsValue}

theorem atLeast2000_ofInt {n : ℤ} (hn : |n| ≤ 2 ^ 53) :
    atLeast2000 (.ofInt n) = .ofInt (max 2000 n) := by
  rw [atLeast2000, if_neg (JsNumber.ofInt_ne_nan hn)]
  split_ifs with hlt
  · rw [JsNumber.lt_ofInt hn (by norm_num)] at hlt
    rw [max_eq_left hlt.le]
  · rw [JsNumber.lt_ofInt hn (by norm_num), not_lt] at hlt
    rw [max_eq_right hlt]

theorem abs_le_of_nonneg {n : ℤ} (hlow : 0 ≤ n) (hhigh : n ≤ 2 ^ 53) : |n| ≤ 2 ^ 53 := by
  rwa [abs_of_nonneg hlow]

theorem expiresAt_ofInt {ms : ℤ} (seconds : ℤ) (hms : 0 ≤ ms ∧ ms ≤ 8640000000000000)
    (hseconds : 0 ≤ seconds ∧ seconds ≤ 10 ^ 11) :
    (JsNumber.ofInt ms).add ((JsNumber.ofInt seconds).mul (.ofInt 1000)) =
      .ofInt (ms + 1000 * seconds) := by
  rw [JsNumber.mul_ofInt (abs_le_of_nonneg (by omega) (by omega)) (by norm_num),
    JsNumber.add_ofInt (abs_le_of_nonneg (by omega) (by omega))
      (abs_le_of_nonneg (by omega) (by omega)), mul_comm]

/-- What the service keeps of a token. -/
theorem darajaEntry_of_isGrant (asked : ClockMs) (hlifetime : lifetime ≤ 10 ^ 11)
    (hgrant : IsGrant lifetime data) :
    ∃ token, darajaEntry (.ok data) asked =
      .ok (token, .ofInt (asked + 1000 * max 2000 ((lifetime : ℤ) - 30))) := by
  obtain ⟨token, htoken, haccess⟩ := hgrant.token
  have hless : |(lifetime : ℤ) - 30| ≤ 2 ^ 53 := abs_le.2 ⟨by omega, by omega⟩
  have hseconds : ((data.get "expires_in").orElse (.num (.ofInt 3400))).toNumber =
      some (.ofInt lifetime) := by
    rw [JsValue.orElse, hgrant.there]
    exact hgrant.expiresIn
  have htext : (data.get "access_token").asString? = some token := by
    rw [haccess]
    rfl
  have hexpiresAt := expiresAt_ofInt (max 2000 ((lifetime : ℤ) - 30)) asked.2
    ⟨by omega, by omega⟩
  rw [← hexpiresAt, ← atLeast2000_ofInt hless,
    ← JsNumber.sub_ofInt (abs_le_of_nonneg (by omega) (by omega)) (by norm_num)]
  simp only [darajaEntry, bind_eq_ok, orThrow_eq_ok, throwUnless_eq_ok]
  exact ⟨token, data, rfl, _, hseconds, token, htext, (), decide_eq_true htoken, rfl⟩

/-- The adapter takes a lifetime of zero for a missing one. -/
def bearerSeconds (lifetime : ℕ) : ℕ := if lifetime = 0 then 3600 else lifetime

theorem bearerSeconds_le (hlifetime : lifetime ≤ 10 ^ 11) : bearerSeconds lifetime ≤ 10 ^ 11 := by
  unfold bearerSeconds
  split_ifs <;> omega

theorem ofInt_bearerSeconds (hlifetime : lifetime ≤ 10 ^ 11) :
    (if (JsNumber.ofInt lifetime).truthy then .ofInt lifetime else .ofInt 3600) =
      JsNumber.ofInt (bearerSeconds lifetime) := by
  have htruthy : (JsNumber.ofInt lifetime).truthy = decide (lifetime ≠ 0) := by
    rw [JsNumber.ofInt_eq_fin (abs_le_of_nonneg (by omega) (by omega))]
    simp [JsNumber.truthy]
  rw [htruthy, bearerSeconds]
  by_cases hzero : lifetime = 0 <;> simp [hzero]

/-- What the adapter keeps of a token. -/
theorem keptToken_of_isGrant (arrived : ClockMs) (hlifetime : lifetime ≤ 10 ^ 11)
    (hgrant : IsGrant lifetime data) :
    keptToken (.ok data) arrived = .ok ⟨data.get "access_token",
      .ofInt (arrived + 1000 * bearerSeconds lifetime)⟩ := by
  have hnullish : data.isNullish = false := by
    refine @JsValue.isNullish_of_get_ne data "expires_in" fun hundefined => ?_
    have hthere := hgrant.there
    rw [hundefined] at hthere
    cases hthere
  have hseconds := bearerSeconds_le hlifetime
  have hexpiresAt := expiresAt_ofInt (bearerSeconds lifetime) arrived.2 ⟨by omega, by omega⟩
  rw [← hexpiresAt]
  simp only [keptToken, bind_eq_ok, orThrow_eq_ok, memberOrThrow_eq_ok]
  refine ⟨data, rfl, _, ⟨hnullish, rfl⟩, _, hgrant.expiresIn, ?_⟩
  rw [ofInt_bearerSeconds hlifetime]
  rfl

theorem daraja_keepsFor (hlifetime : lifetime ≤ 10 ^ 11) :
    KeepsFor darajaPolicy lifetime (fun a => a.asked)
      (1000 * max 2000 ((lifetime : ℤ) - 30)) where
  answered a entry hkeep := by
    cases hanswer : a.answer with
    | error message =>
        unfold darajaPolicy at hkeep
        dsimp only at hkeep
        rw [hanswer] at hkeep
        cases hkeep
    | ok data => exact ⟨data, rfl⟩
  keep a data hanswer hgrant := by
    obtain ⟨token, hentry⟩ := darajaEntry_of_isGrant a.asked hlifetime hgrant
    rw [← hanswer] at hentry
    refine ⟨_, congrArg Except.toOption hentry, fun now => ?_⟩
    have hnow := now.2
    have hasked := a.asked.2
    exact JsNumber.lt_ofInt (abs_le_of_nonneg (by omega) (by omega))
      (abs_le_of_nonneg (by omega) (by omega))

theorem bearer_keepsFor (hlifetime : lifetime ≤ 10 ^ 11) :
    KeepsFor bearerPolicy lifetime (fun a => a.arrived)
      (1000 * bearerSeconds lifetime - 60000) where
  answered a entry hkeep := by
    cases hanswer : a.answer with
    | error message =>
        unfold bearerPolicy at hkeep
        dsimp only at hkeep
        rw [hanswer] at hkeep
        cases hkeep
    | ok data => exact ⟨data, rfl⟩
  keep a data hanswer hgrant := by
    have hentry := keptToken_of_isGrant a.arrived hlifetime hgrant
    rw [← hanswer] at hentry
    refine ⟨_, congrArg Except.toOption hentry, fun now => ?_⟩
    have hnow := now.2
    have harrived := a.arrived.2
    have hseconds : bearerSeconds lifetime ≤ 10 ^ 11 := bearerSeconds_le hlifetime
    unfold bearerPolicy CachedToken.usable
    dsimp only
    rw [JsNumber.add_ofInt (abs_le_of_nonneg (by omega) (by omega)) (by norm_num),
      JsNumber.lt_ofInt (abs_le_of_nonneg (by omega) (by omega))
        (abs_le_of_nonneg (by omega) (by omega))]
    omega

/-- A token for so many seconds, that comes so many milliseconds after the start. -/
def lateGrant (lifetime : ℕ) (arrived : ClockMs) : Answered ClockMs TokenAnswer where
  asked := ⟨0, by norm_num⟩
  arrived := arrived
  answer := .ok (.obj [("access_token", "token"), ("expires_in", .num (.ofInt lifetime))])

theorem grants_lateGrant (lifetime : ℕ) (arrived : ClockMs) :
    Grants lifetime (lateGrant lifetime arrived) := by
  intro data hdata
  cases hdata
  exact ⟨⟨"token", by decide, rfl⟩, rfl, rfl⟩

end Lifetimes

/-- The service passes on only honoured tokens exactly if they last for at least the 2000 seconds
that it grants. -/
theorem daraja_takesHonoured_iff {lifetime : ℕ} (hlifetime : lifetime ≤ 10 ^ 11) :
    TakesHonoured darajaPolicy (Grants lifetime) lifetime ↔ 2000 ≤ lifetime := by
  rw [takesHonoured_iff (daraja_keepsFor hlifetime) fun a h => h]
  constructor
  · intro h
    by_contra hshort
    have hend : (0 : ℤ) ≤ 1000 * lifetime ∧ 1000 * (lifetime : ℤ) ≤ 8640000000000000 := by omega
    have hhonoured := h (lateGrant lifetime ⟨0, by norm_num⟩) _ ⟨1000 * lifetime, hend⟩ rfl
      (grants_lateGrant lifetime _) le_rfl hend.1
    dsimp only [lateGrant] at hhonoured
    omega
  · intro hlong a data now _ _ _ _ hkept
    omega

/-- Tokens of half an hour are passed on when they have expired. -/
theorem daraja_takesHonoured_iff_sample : ¬TakesHonoured darajaPolicy (Grants 1800) 1800 := by
  rw [daraja_takesHonoured_iff (by norm_num)]
  norm_num

/-- The adapter passes on only honoured tokens exactly if answers take no longer than the minute
that it leaves, or tokens last no longer. -/
theorem bearer_takesHonoured_iff {lifetime : ℕ} (hlifetime : lifetime ≤ 10 ^ 11) (delay : ℕ) :
    TakesHonoured bearerPolicy
        (fun a => Grants lifetime a ∧ (a.arrived : ℤ) ≤ a.asked + delay) lifetime ↔
      0 < lifetime ∧ (delay ≤ 60000 ∨ lifetime ≤ 60) := by
  rw [takesHonoured_iff (bearer_keepsFor hlifetime) fun a h => h.1]
  constructor
  · intro h
    have hgrants := grants_lateGrant lifetime
    constructor
    · by_contra hzero
      obtain rfl : lifetime = 0 := by omega
      have hhonoured := h (lateGrant 0 ⟨0, by norm_num⟩) _ ⟨0, by norm_num⟩ rfl
        ⟨hgrants _, by simp [lateGrant]⟩ le_rfl le_rfl
      simp [lateGrant, bearerSeconds] at hhonoured
    · by_contra hlate
      have hend : (0 : ℤ) ≤ 1000 * lifetime ∧ 1000 * (lifetime : ℤ) ≤ 8640000000000000 := by omega
      have hhonoured := h (lateGrant lifetime ⟨60001, by norm_num⟩) _ ⟨1000 * lifetime, hend⟩ rfl
        ⟨hgrants _, by simp [lateGrant]; omega⟩ (by simp [lateGrant])
        (by simp [lateGrant]; omega)
      rw [bearerSeconds, if_neg (by omega)] at hhonoured
      dsimp only [lateGrant] at hhonoured
      omega
  · rintro ⟨hpos, hslow⟩ a data now _ ⟨_, hdelay⟩ hasked harrived hkept
    have hle : (a.arrived : ℤ) ≤ now := harrived
    rw [bearerSeconds, if_neg (by omega)] at hkept
    omega

/-- Tokens of an hour, answers within half a minute. -/
theorem bearer_takesHonoured_iff_sample :
    TakesHonoured bearerPolicy
      (fun a => Grants 3599 a ∧ (a.arrived : ℤ) ≤ a.asked + (30000 : ℕ)) 3599 := by
  rw [bearer_takesHonoured_iff (by norm_num)]
  norm_num

end UniverEscrow.Adapters
