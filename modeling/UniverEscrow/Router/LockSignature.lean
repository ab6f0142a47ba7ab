import UniverEscrow.Lib.Delimited
import UniverEscrow.Router.LockIdentity

/-!
# What a lock signature covers

The signed text joins `tenantId`, `account` and `amount` with colons.  The times of the lock are
not part of it.
-/

namespace UniverEscrow.Router

open UniverEscrow.Js UniverEscrow.Enclave UniverEscrow.Ledger UniverEscrow.Lib

variable {body : JsValue}

/-- A key accepts a signature for one text only. -/
def SignsOneText (rsa : RsaVerify) : Prop :=
  ∀ publicKey signature a b, rsa publicKey a signature = some true →
    rsa publicKey b signature = some true → a = b

/-- The three fields as texts. -/
def lockTexts? (body : JsValue) : Option (String × String × String) := do
  let tenantText ← (body.get "tenantId").toText
  let accountText ← (body.get "account").toText
  let amountText ← (body.get "amount").toText
  return (tenantText, accountText, amountText)

/-- The delimiter occurs in neither `tenantId` nor `account`. -/
def ColonFree (texts : String × String × String) : Prop :=
  ':' ∉ texts.1.toList ∧ ':' ∉ texts.2.1.toList

theorem validationString?_eq_some {canonical : String} :
    validationString? body = some canonical ↔
      ∃ texts, lockTexts? body = some texts ∧
        canonical = texts.1 ++ ":" ++ texts.2.1 ++ ":" ++ texts.2.2 := by
  simp only [validationString?, lockTexts?, Option.bind_eq_bind, Option.bind_eq_some_iff]
  constructor
  · rintro ⟨tenant, htenant, account, haccount, amount, hamount, hreturn⟩
    cases hreturn
    exact ⟨_, ⟨tenant, htenant, account, haccount, amount, hamount, rfl⟩, rfl⟩
  · rintro ⟨texts, ⟨tenant, htenant, account, haccount, amount, hamount, hreturn⟩, rfl⟩
    cases hreturn
    exact ⟨tenant, htenant, account, haccount, amount, hamount, rfl⟩

/-- Without colons in them, the covered text determines the texts it is made of. -/
theorem lockTexts_eq_of_canonical_eq {s t : String × String × String} (hs : ColonFree s)
    (ht : ColonFree t)
    (h : s.1 ++ ":" ++ s.2.1 ++ ":" ++ s.2.2 = t.1 ++ ":" ++ t.2.1 ++ ":" ++ t.2.2) : s = t := by
  have hchars (u : String × String × String) :
      (u.1 ++ ":" ++ u.2.1 ++ ":" ++ u.2.2).toList =
        u.1.toList ++ ':' :: (u.2.1.toList ++ ':' :: u.2.2.toList) := by
    simp [String.toList_append]
  have hlist := congrArg String.toList h
  rw [hchars, hchars] at hlist
  obtain ⟨htenant, hrest⟩ := eq_of_append_cons hs.1 ht.1 hlist
  obtain ⟨haccount, hamount⟩ := eq_of_append_cons hs.2 ht.2 hrest
  exact Prod.ext (String.toList_inj.1 htenant)
    (Prod.ext (String.toList_inj.1 haccount) (String.toList_inj.1 hamount))

/-- The fields of a saved lock other than its times. -/
def untimedFields : List String := ["transactionId", "escrowRecordLeafHash", "signature", "status"]

/-- A signature authorises one covered text: two accepted requests with the same key and
signature have the same text and id, in the record and in the receipt, and their records differ
in nothing but times.  Where no colon occurs in `tenantId` and `account`, the three fields agree
as texts. -/
theorem signature_determines_lock (platform : Platform) (hrsa : SignsOneText platform.rsa)
    (clock₁ clock₂ : RequestClock) (body₁ body₂ : JsValue) (node₁ node₂ : Node)
    (record₁ record₂ : JsValue) (receipt₁ receipt₂ : Response)
    (h₁ : lockRecord platform clock₁ body₁ node₁ = .ok (record₁, receipt₁))
    (h₂ : lockRecord platform clock₂ body₂ node₂ = .ok (record₂, receipt₂))
    (hkey : body₁.get "publicKey" = body₂.get "publicKey")
    (hsignature : body₁.get "signature" = body₂.get "signature") :
    validationString? body₁ = validationString? body₂ ∧
      (∀ field ∈ untimedFields, record₁.get field = record₂.get field) ∧
      (receipt₁.body.get "receipt").get "transactionId" =
        (receipt₂.body.get "receipt").get "transactionId" ∧
      ∀ texts₁ texts₂, lockTexts? body₁ = some texts₁ → lockTexts? body₂ = some texts₂ →
        ColonFree texts₁ → ColonFree texts₂ → texts₁ = texts₂ := by
  obtain ⟨canonical₁, signature₁, publicKey₁, _, _, hcanonical₁, hsig₁, hkey₁, -, -, hrsa₁, rfl,
    rfl⟩ := lockRecord_eq_ok h₁
  obtain ⟨canonical₂, signature₂, publicKey₂, _, _, hcanonical₂, hsig₂, hkey₂, -, -, hrsa₂, rfl,
    rfl⟩ := lockRecord_eq_ok h₂
  rw [hkey, hkey₂] at hkey₁
  rw [hsignature, hsig₂] at hsig₁
  cases hkey₁
  cases hsig₁
  have hsame : canonical₁ = canonical₂ := hrsa _ _ _ _ hrsa₁ hrsa₂
  subst hsame
  refine ⟨hcanonical₁.trans hcanonical₂.symm, ?_, rfl, ?_⟩
  · intro field hfield
    simp only [untimedFields, List.mem_cons, List.not_mem_nil, or_false] at hfield
    rcases hfield with rfl | rfl | rfl | rfl <;> rfl
  · intro texts₁ texts₂ htexts₁ htexts₂ hfree₁ hfree₂
    obtain ⟨_, htexts₁', hjoin₁⟩ := validationString?_eq_some.1 hcanonical₁
    obtain ⟨_, htexts₂', hjoin₂⟩ := validationString?_eq_some.1 hcanonical₂
    cases htexts₁.symm.trans htexts₁'
    cases htexts₂.symm.trans htexts₂'
    exact lockTexts_eq_of_canonical_eq hfree₁ hfree₂ (hjoin₁.symm.trans hjoin₂)

/-! ## Another time window under the same signature -/

theorem signsOneText_lockPlatform : SignsOneText lockPlatform.rsa := by
  intro publicKey signature a b ha hb
  simp only [lockPlatform, Option.some.injEq, Bool.and_eq_true, Bool.or_eq_true,
    decide_eq_true_eq] at ha hb
  obtain ⟨-, ⟨rfl, rfl⟩ | ⟨rfl, rfl⟩⟩ := ha
  · obtain ⟨-, ⟨rfl, -⟩ | ⟨-, habsurd⟩⟩ := hb
    · rfl
    · exact absurd habsurd (by decide)
  · obtain ⟨-, ⟨-, habsurd⟩ | ⟨rfl, -⟩⟩ := hb
    · exact absurd habsurd (by decide)
    · rfl

/-- The lock of `lockOfA` with a later end and the amount as a text. -/
def extendedBody : JsValue := lockBody "acct-a" "50" "0a" 4102444800000

theorem signature_determines_lock_extended :
    ∃ record₁ record₂ receipt₁ receipt₂,
      lockRecord lockPlatform appendClock lockOfA.body openNode = .ok (record₁, receipt₁) ∧
      lockRecord lockPlatform appendClock extendedBody openNode = .ok (record₂, receipt₂) ∧
      validationString? lockOfA.body = validationString? extendedBody ∧
      (∀ field ∈ untimedFields, record₁.get field = record₂.get field) ∧
      (receipt₁.body.get "receipt").get "transactionId" =
        (receipt₂.body.get "receipt").get "transactionId" ∧
      ∀ texts₁ texts₂, lockTexts? lockOfA.body = some texts₁ →
        lockTexts? extendedBody = some texts₂ → ColonFree texts₁ → ColonFree texts₂ →
        texts₁ = texts₂ := by
  obtain ⟨record₁, receipt₁, h₁⟩ : ∃ record, LockRun.Accepts lockPlatform ⟨openNode, []⟩
      lockOfA record := LockRun.accepts_of_isOk (by decide +kernel)
  obtain ⟨record₂, receipt₂, h₂⟩ : ∃ record, LockRun.Accepts lockPlatform ⟨openNode, []⟩
      ⟨appendClock, extendedBody⟩ record := LockRun.accepts_of_isOk (by decide +kernel)
  exact ⟨record₁, record₂, receipt₁, receipt₂, h₁, h₂,
    signature_determines_lock lockPlatform signsOneText_lockPlatform appendClock appendClock
      lockOfA.body extendedBody openNode openNode record₁ record₂ receipt₁ receipt₂ h₁ h₂ rfl rfl⟩

/-- One signature locks for two time windows, and for an amount of either type, although the
key accepts it for one text only. -/
theorem time_window_unsigned :
    SignsOneText lockPlatform.rsa ∧
      lockOfA.body.get "publicKey" = extendedBody.get "publicKey" ∧
      lockOfA.body.get "signature" = extendedBody.get "signature" ∧
      (lock lockPlatform appendClock lockOfA.body openNode).2.code = 201 ∧
      (lock lockPlatform appendClock extendedBody openNode).2.code = 201 ∧
      lockOfA.body.get "validUntilMs" ≠ extendedBody.get "validUntilMs" ∧
      lockOfA.body.get "amount" ≠ extendedBody.get "amount" := by
  refine ⟨signsOneText_lockPlatform, rfl, rfl, by decide +kernel, by decide +kernel, ?_, ?_⟩
  · intro h
    have huntil : JsNumber.ofInt 1767225600000 = .ofInt 4102444800000 := JsValue.num.inj h
    exact absurd huntil (by decide +kernel)
  · intro h
    have hamount : JsValue.num (.ofInt 50) = .str "50" := h
    cases hamount

end UniverEscrow.Router
