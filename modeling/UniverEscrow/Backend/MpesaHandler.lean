import UniverEscrow.Js.JsonParse
import UniverEscrow.Js.Throw
import UniverEscrow.Lib.Except

/-!
# Payments over M-Pesa

The handler charges a buyer and pays a seller, the Daraja service charges too.  Amounts are whole
cents here and whole shillings there; a division of big integers cuts off towards zero.
-/

namespace UniverEscrow.Backend

open UniverEscrow.Js UniverEscrow.Lib

/-- `a || b` of texts. -/
def orElseEmpty (a : Option String) (b : String) : String :=
  match a with
  | none | some "" => b
  | some s => s

/-- What the service answers, or the message of a request that fails. -/
structure MpesaResponse where
  ok : Bool
  status : ℕ
  text : String

/-- A call: the variables of the process, the time of the request as it is written there, the
UUID, and the two answers. -/
structure MpesaCall where
  env : String → Option String
  base64 : String → String
  timestamp : String
  uuid : String
  tokenResponse : Except String MpesaResponse
  response : Except String MpesaResponse

namespace MpesaCall

variable (call : MpesaCall)

def getEnv (name : String) : Except String String := do
  let v := orElseEmpty (call.env name) ""
  throwUnless (v ≠ "") (name ++ "_MISSING")
  return v

/-- `process.env.NAME ?? value`. -/
def envOr (name value : String) : String := (call.env name).getD value

end MpesaCall

/-- The body of an answer. -/
def MpesaResponse.json (res : MpesaResponse) : JsValue :=
  if res.text = "" then .obj []
  else (parseJson res.text).getD (.obj [("raw", .str res.text)])

/-- The body, or the error that it or the status names. -/
def MpesaResponse.checked (httpError : String) (res : MpesaResponse) : Except String JsValue := do
  if !res.ok then
    let msg := if (res.json.get "errorMessage").truthy then res.json.get "errorMessage"
      else if (res.json.get "message").truthy then res.json.get "message"
      else .str (httpError ++ toString res.status)
    let text ← textOrThrow msg
    throw text
  return res.json

def fetchMpesaOAuthAccessToken (call : MpesaCall) : Except String String := do
  let _consumerKey ← call.getEnv "MPESA_CONSUMER_KEY"
  let _consumerSecret ← call.getEnv "MPESA_CONSUMER_SECRET"
  let res ← call.tokenResponse
  let json ← res.checked "MPESA_TOKEN_HTTP_"
  throwUnless (json.get "access_token").truthy "MPESA_ACCESS_TOKEN_MISSING"
  textOrThrow (json.get "access_token")

/-! ## Charging -/

structure StkPushInitiateInput where
  amountKES : ℤ
  buyerPhone : String
  accountReference : Option String
  callbackUrl : Option String

structure StkPushPayload where
  BusinessShortCode : String
  Password : String
  Timestamp : String
  TransactionType : String
  Amount : String
  PartyA : String
  PartyB : String
  PhoneNumber : String
  CallBackURL : String
  AccountReference : String
  TransactionDesc : String

structure StkPushInitiateResult where
  checkoutRequestId : String
  merchantRequestId : JsValue
  responseCode : JsValue

/-- The request of `initiateStkPush`. -/
def stkPushPayload (call : MpesaCall) (input : StkPushInitiateInput) :
    Except String StkPushPayload := do
  let _accessToken ← fetchMpesaOAuthAccessToken call
  let shortcode ← call.getEnv "MPESA_SHORTCODE"
  let passkey ← call.getEnv "MPESA_PASSKEY"
  let callbackURL ← orThrow "MPESA_STK_CALLBACK_URL_MISSING"
    (input.callbackUrl <|> call.env "MPESA_STK_CALLBACK_URL")
  let amountKESWhole := input.amountKES.tdiv 100
  let transactionReference := input.accountReference.getD ("stk_" ++ call.uuid)
  return {
    BusinessShortCode := shortcode
    Password := call.base64 (shortcode ++ passkey ++ call.timestamp)
    Timestamp := call.timestamp
    TransactionType := "CustomerPayBillOnline"
    Amount := toString amountKESWhole
    PartyA := input.buyerPhone
    PartyB := call.envOr "MPESA_LNM_SHORTCODE" shortcode
    PhoneNumber := input.buyerPhone
    CallBackURL := callbackURL
    AccountReference := transactionReference
    TransactionDesc := transactionReference }

/-- What the answer to the request becomes. -/
def stkPushResult (call : MpesaCall) : Except String StkPushInitiateResult := do
  let res ← call.response
  let json ← res.checked "MPESA_HTTP_"
  let checkoutRequestId ← textOrThrow ((json.get "CheckoutRequestID").orElse (.str ""))
  throwUnless (checkoutRequestId ≠ "") "MPESA_STK_PUSH_FAILED"
  return ⟨checkoutRequestId, json.get "MerchantRequestID", json.get "ResponseCode"⟩

/-- The request that is sent, and the outcome. -/
def initiateStkPush (call : MpesaCall) (input : StkPushInitiateInput) :
    Except String (StkPushPayload × StkPushInitiateResult) := do
  let payload ← stkPushPayload call input
  let result ← stkPushResult call
  return (payload, result)

/-! ## Paying out -/

def FEE_BPS : ℤ := 300

structure DisburseFundsInput where
  sellerPhoneOrAccount : String
  amountKESGross : ℤ

structure B2CPayload where
  InitiatorName : String
  SecurityCredential : String
  CommandID : String
  Amount : String
  PartyA : String
  PartyB : String
  Remarks : String
  QueueTimeOutURL : String
  ResultURL : String
  Occasion : String

structure DisburseFundsResult where
  resultCode : JsValue
  conversationId : JsValue
  originatorConversationId : JsValue

/-- The fee in cents. -/
def disburseFee (amountKESGross : ℤ) : ℤ := (amountKESGross * FEE_BPS).tdiv 10000

/-- The request of `disburseFunds`. -/
def b2cPayload (call : MpesaCall) (input : DisburseFundsInput) : Except String B2CPayload := do
  let _accessToken ← fetchMpesaOAuthAccessToken call
  let shortcode ← call.getEnv "MPESA_SHORTCODE"
  let passkey ← call.getEnv "MPESA_PASSKEY"
  let net := input.amountKESGross - disburseFee input.amountKESGross
  throwUnless (0 < net) "MPESA_NET_AMOUNT_INVALID"
  let amountWholeKES := net.tdiv 100
  return {
    InitiatorName := call.envOr "MPESA_INITIATOR_NAME" "Initiator"
    SecurityCredential := call.envOr "MPESA_SECURITY_CREDENTIAL" passkey
    CommandID := "SalaryPayment"
    Amount := toString amountWholeKES
    PartyA := shortcode
    PartyB := input.sellerPhoneOrAccount
    Remarks := "Securerise payout"
    QueueTimeOutURL := call.envOr "MPESA_QUEUE_TIMEOUT_URL" ""
    ResultURL := call.envOr "MPESA_RESULT_URL" ""
    Occasion := "Payout" }

def disburseResult (call : MpesaCall) : Except String DisburseFundsResult := do
  let res ← call.response
  let json ← res.checked "MPESA_B2C_HTTP_"
  return ⟨(json.get "ResultCode").orElse (.str "UNKNOWN"), json.get "ConversationID",
    json.get "OriginatorConversationID"⟩

def disburseFunds (call : MpesaCall) (input : DisburseFundsInput) :
    Except String (B2CPayload × DisburseFundsResult) := do
  let payload ← b2cPayload call input
  let result ← disburseResult call
  return (payload, result)

/-! ## The Daraja service -/

/-- The cached token and when it expires. -/
abbrev TokenCache := Option (String × JsNumber)

/-- A call of the service: its client rejects an answer of another status. -/
structure DarajaCall where
  env : String → Option String
  base64 : String → String
  nowMs : ℤ
  timestamp : String
  tokenCache : TokenCache
  tokenData : Except String JsValue
  data : Except String JsValue

def DarajaCall.getEnv (call : DarajaCall) (name : String) : Except String String := do
  let value := jsTrim ((call.env name).getD "")
  throwUnless (value ≠ "") (name ++ "_MISSING")
  return value

def normalizePhoneNumber (phoneNumber : String) : String :=
  String.ofList (phoneNumber.toList.filter (isDigitOf 10))

/-- `Math.max(2000, n)`. -/
def atLeast2000 (n : JsNumber) : JsNumber :=
  if n = .nan then .nan else if n.lt (.ofInt 2000) then .ofInt 2000 else n

/-- The token, and the cache after the call. -/
def DarajaService.fetchOAuthToken (call : DarajaCall) : Except String (String × TokenCache) := do
  let now := JsNumber.ofInt call.nowMs
  match call.tokenCache with
  | some (token, expiresAt) =>
      if now.lt expiresAt then return (token, call.tokenCache)
  | none => pure ()
  let _consumerKey ← call.getEnv "MPESA_CONSUMER_KEY"
  let _consumerSecret ← call.getEnv "MPESA_CONSUMER_SECRET"
  let data ← call.tokenData
  let expiresIn ← orThrow "Cannot convert object to primitive value"
    ((data.get "expires_in").orElse (.num (.ofInt 3400))).toNumber
  let token ← orThrow "MPESA_ACCESS_TOKEN_MISSING" (data.get "access_token").asString?
  throwUnless (token ≠ "") "MPESA_ACCESS_TOKEN_MISSING"
  let expiresAt := now.add ((atLeast2000 (expiresIn.sub (.ofInt 30))).mul (.ofInt 1000))
  return (token, some (token, expiresAt))

structure DarajaStkPushParams where
  amountKESCents : ℤ
  buyerPhone : String
  accountReference : String
  callbackUrl : Option String

/-- The request of the service's `initiateStkPush`. -/
def darajaPayload (call : DarajaCall) (params : DarajaStkPushParams) :
    Except String StkPushPayload := do
  let _accessToken ← DarajaService.fetchOAuthToken call
  let shortcode ← call.getEnv "MPESA_SHORTCODE"
  let passkey ← call.getEnv "MPESA_PASSKEY"
  let amountWholeKES := params.amountKESCents.tdiv 100
  throwUnless (0 < amountWholeKES) "MPESA_AMOUNT_INVALID"
  return {
    BusinessShortCode := shortcode
    Password := call.base64 (shortcode ++ passkey ++ call.timestamp)
    Timestamp := call.timestamp
    TransactionType := "CustomerPayBillOnline"
    Amount := toString amountWholeKES
    PartyA := normalizePhoneNumber params.buyerPhone
    PartyB := (call.env "MPESA_LNM_SHORTCODE").getD shortcode
    PhoneNumber := normalizePhoneNumber params.buyerPhone
    CallBackURL := (params.callbackUrl <|> call.env "MPESA_STK_CALLBACK_URL").getD ""
    AccountReference := params.accountReference
    TransactionDesc := params.accountReference }

/-- `buildRequestSignature`, as far as it throws: the secret that it signs with. -/
def darajaSecret (call : DarajaCall) : Except String String :=
  match call.env "DARAJA_PASSKEY" with
  | none | some "" => call.getEnv "MPESA_PASSKEY"
  | some secret => .ok secret

def darajaResult (call : DarajaCall) : Except String StkPushInitiateResult := do
  let data ← call.data
  throwUnless (data.get "CheckoutRequestID").truthy "MPESA_STK_PUSH_FAILED"
  let checkoutRequestId ← textOrThrow (data.get "CheckoutRequestID")
  return ⟨checkoutRequestId, data.get "MerchantRequestID", data.get "ResponseCode"⟩

def DarajaService.initiateStkPush (call : DarajaCall) (params : DarajaStkPushParams) :
    Except String (StkPushPayload × StkPushInitiateResult) := do
  let payload ← darajaPayload call params
  let _secret ← darajaSecret call
  let result ← darajaResult call
  return (payload, result)

/-! ## The amounts -/

/-- What is left for the seller, in cents. -/
def netAmount (amountKESGross : ℤ) : ℤ := amountKESGross - disburseFee amountKESGross

theorem disburseFee_of_nonneg {gross : ℤ} (h : 0 ≤ gross) :
    disburseFee gross = gross * 3 / 100 := by
  unfold disburseFee FEE_BPS
  rw [Int.tdiv_eq_ediv_of_nonneg (by omega)]
  omega

theorem netAmount_pos_iff {gross : ℤ} : 0 < netAmount gross ↔ 0 < gross := by
  unfold netAmount disburseFee FEE_BPS
  rcases le_or_gt 0 gross with hnonneg | hneg
  · rw [Int.tdiv_eq_ediv_of_nonneg (by omega)]
    omega
  · have hflip : gross * 300 = -(-gross * 300) := by ring
    rw [hflip, Int.neg_tdiv, Int.tdiv_eq_ediv_of_nonneg (by omega)]
    omega

theorem b2cPayload_eq_ok {call : MpesaCall} {input : DisburseFundsInput} {payload : B2CPayload}
    (h : b2cPayload call input = .ok payload) :
    0 < netAmount input.amountKESGross ∧
      payload.Amount = toString ((netAmount input.amountKESGross).tdiv 100) := by
  simp only [b2cPayload, bind_eq_ok, throwUnless_eq_ok, decide_eq_true_eq] at h
  obtain ⟨_, -, _, -, _, -, -, hpos, heq⟩ := h
  cases heq
  exact ⟨hpos, rfl⟩

theorem stkPushPayload_eq_ok {call : MpesaCall} {input : StkPushInitiateInput}
    {payload : StkPushPayload} (h : stkPushPayload call input = .ok payload) :
    payload.Amount = toString (input.amountKES.tdiv 100) := by
  simp only [stkPushPayload, bind_eq_ok] at h
  obtain ⟨_, -, _, -, _, -, _, -, heq⟩ := h
  cases heq
  rfl

theorem darajaPayload_eq_ok {call : DarajaCall} {params : DarajaStkPushParams}
    {payload : StkPushPayload} (h : darajaPayload call params = .ok payload) :
    0 < params.amountKESCents.tdiv 100 ∧
      payload.Amount = toString (params.amountKESCents.tdiv 100) := by
  simp only [darajaPayload, bind_eq_ok, throwUnless_eq_ok, decide_eq_true_eq] at h
  obtain ⟨_, -, _, -, _, -, -, hpos, heq⟩ := h
  cases heq
  exact ⟨hpos, rfl⟩

/-! ## What depends on the amount -/

/-- A call that pays out one amount pays out every amount of which something is left. -/
theorem disburseFunds_of_pos {call : MpesaCall} {recipient : String} {gross gross' : ℤ}
    (h : ∃ sent, disburseFunds call ⟨recipient, gross⟩ = .ok sent) (hpos : 0 < gross') :
    ∃ sent, disburseFunds call ⟨recipient, gross'⟩ = .ok sent := by
  have hnet := netAmount_pos_iff.2 hpos
  simp only [disburseFunds, b2cPayload, bind_eq_ok, throwUnless_eq_ok, decide_eq_true_eq] at h ⊢
  obtain ⟨sent, payload, ⟨token, htoken, shortcode, hshortcode, passkey, hpasskey, -⟩, result,
    hresult, -⟩ := h
  exact ⟨_, _, ⟨token, htoken, shortcode, hshortcode, passkey, hpasskey, (), hnet, rfl⟩, result,
    hresult, rfl⟩

/-- The handler charges every amount or none. -/
theorem initiateStkPush_of_ok {call : MpesaCall} {input : StkPushInitiateInput} {cents : ℤ}
    (h : ∃ sent, initiateStkPush call input = .ok sent) :
    ∃ sent, initiateStkPush call { input with amountKES := cents } = .ok sent := by
  simp only [initiateStkPush, stkPushPayload, bind_eq_ok] at h ⊢
  obtain ⟨sent, payload, ⟨token, htoken, shortcode, hshortcode, passkey, hpasskey, url, hurl, -⟩,
    result, hresult, -⟩ := h
  exact ⟨_, _, ⟨token, htoken, shortcode, hshortcode, passkey, hpasskey, url, hurl, rfl⟩, result,
    hresult, rfl⟩

/-- The service charges every amount from one shilling on, or none. -/
theorem daraja_of_ok {call : DarajaCall} {params : DarajaStkPushParams} {cents : ℤ}
    (h : ∃ sent, DarajaService.initiateStkPush call params = .ok sent) :
    (∃ sent, DarajaService.initiateStkPush call { params with amountKESCents := cents } =
      .ok sent) ↔ 0 < cents.tdiv 100 := by
  simp only [DarajaService.initiateStkPush, darajaPayload, bind_eq_ok, throwUnless_eq_ok,
    decide_eq_true_eq] at h ⊢
  obtain ⟨sent, payload, ⟨token, htoken, shortcode, hshortcode, passkey, hpasskey, -⟩, secret,
    hsecret, result, hresult, -⟩ := h
  constructor
  · rintro ⟨_, _, ⟨_, -, _, -, _, -, -, hpos, -⟩, -⟩
    exact hpos
  · intro hpos
    exact ⟨_, _, ⟨token, htoken, shortcode, hshortcode, passkey, hpasskey, (), hpos, rfl⟩, secret,
      hsecret, result, hresult, rfl⟩

/-! ## No cents disappear -/

/-- Fee and payout add up to the gross amount. -/
def DisbursesAll (gross : ℤ) : Prop :=
  ∀ call recipient payload result,
    disburseFunds call ⟨recipient, gross⟩ = .ok (payload, result) →
      ∃ amount : ℤ, 0 < amount ∧ payload.Amount = toString amount ∧
        gross * 3 / 100 + 100 * amount = gross

/-- Both implementations charge what is requested, and where both charge some amount they refuse
the same ones. -/
structure ChargesAll (cents : ℤ) : Prop where
  handler : ∀ call input payload result, input.amountKES = cents →
    initiateStkPush call input = .ok (payload, result) →
      ∃ amount : ℤ, payload.Amount = toString amount ∧ 100 * amount = cents
  service : ∀ call params payload result, params.amountKESCents = cents →
    DarajaService.initiateStkPush call params = .ok (payload, result) →
      ∃ amount : ℤ, payload.Amount = toString amount ∧ 100 * amount = cents
  sameThrows : ∀ call input call' params,
    (∃ sent, initiateStkPush call input = .ok sent) →
    (∃ sent, DarajaService.initiateStkPush call' params = .ok sent) →
      ((∃ sent, initiateStkPush call { input with amountKES := cents } = .ok sent) ↔
        ∃ sent, DarajaService.initiateStkPush call' { params with amountKESCents := cents } =
          .ok sent)

/-! ### A sample -/

/-- The variables of the process. -/
def sampleMpesaEnv : String → Option String := fun name =>
  if name ∈ ["MPESA_CONSUMER_KEY", "MPESA_CONSUMER_SECRET", "MPESA_SHORTCODE", "MPESA_PASSKEY"] then
    some "174379"
  else if name = "MPESA_STK_CALLBACK_URL" then some "https://gateway.example/callback"
  else none

def sampleMpesaCall : MpesaCall where
  env := sampleMpesaEnv
  base64 := id
  timestamp := "20260101T000000Z"
  uuid := "u-1"
  tokenResponse := .ok ⟨true, 200, "\x7b\"access_token\":\"t-1\"\x7d"⟩
  response := .ok ⟨true, 200, "\x7b\"CheckoutRequestID\":\"ws_CO_1\",\"ResponseCode\":\"0\"\x7d"⟩

def sampleStkInput (cents : ℤ) : StkPushInitiateInput := ⟨cents, "254700000001", none, none⟩

def sampleDarajaCall : DarajaCall where
  env := sampleMpesaEnv
  base64 := id
  nowMs := 1767225600000
  timestamp := "20260101T000000Z"
  tokenCache := none
  tokenData := .ok (.obj [("access_token", .str "t-1"), ("expires_in", .str "3599")])
  data := .ok (.obj [("CheckoutRequestID", .str "ws_CO_1"), ("ResponseCode", .str "0")])

def sampleDarajaParams (cents : ℤ) : DarajaStkPushParams := ⟨cents, "254700000001", "hs_1", none⟩

theorem exists_ok_of_toOption {α : Type} {x : Except String α} (h : x.toOption.isSome = true) :
    ∃ a, x = .ok a := by
  cases x with
  | error message => cases h
  | ok a => exact ⟨a, rfl⟩

theorem sample_disburses : ∃ sent, disburseFunds sampleMpesaCall ⟨"254700000002", 100⟩ = .ok sent :=
  exists_ok_of_toOption (by decide +kernel)

theorem sample_charges : ∃ sent, initiateStkPush sampleMpesaCall (sampleStkInput 100) = .ok sent :=
  exists_ok_of_toOption (by decide +kernel)

theorem sampleDaraja_charges :
    ∃ sent, DarajaService.initiateStkPush sampleDarajaCall (sampleDarajaParams 100) = .ok sent :=
  exists_ok_of_toOption (by decide +kernel)

theorem disbursesAll_iff {gross : ℤ} :
    DisbursesAll gross ↔ gross ≤ 0 ∨ 100 ∣ gross - gross * 3 / 100 := by
  constructor
  · intro hall
    rcases le_or_gt gross 0 with hnonpos | hpos
    · exact .inl hnonpos
    · obtain ⟨⟨payload, result⟩, hok⟩ := disburseFunds_of_pos sample_disburses hpos
      obtain ⟨amount, -, -, hsum⟩ := hall _ _ _ _ hok
      exact .inr ⟨amount, by omega⟩
  · intro h call recipient payload result hok
    simp only [disburseFunds, bind_eq_ok] at hok
    obtain ⟨_, hpayload, _, -, heq⟩ := hok
    cases heq
    obtain ⟨hnet, hamount⟩ := b2cPayload_eq_ok hpayload
    dsimp only at hnet hamount
    have hpos := netAmount_pos_iff.1 hnet
    obtain ⟨amount, hdvd⟩ := h.resolve_left (not_le.2 hpos)
    have hfee := disburseFee_of_nonneg hpos.le
    have hvalue : netAmount gross = 100 * amount := by
      rw [netAmount, hfee, hdvd]
    refine ⟨amount, by omega, ?_, by omega⟩
    rw [hamount, hvalue, Int.mul_tdiv_cancel_left _ (by decide)]

theorem chargesAll_iff {cents : ℤ} : ChargesAll cents ↔ 0 < cents ∧ 100 ∣ cents := by
  constructor
  · intro hall
    have hcharged : ∃ sent, initiateStkPush sampleMpesaCall
        { sampleStkInput 100 with amountKES := cents } = .ok sent :=
      initiateStkPush_of_ok sample_charges
    have hsame := (hall.sameThrows _ _ _ _ sample_charges sampleDaraja_charges).1 hcharged
    have hwhole := (daraja_of_ok sampleDaraja_charges).1 hsame
    obtain ⟨⟨payload, result⟩, hok⟩ := hcharged
    obtain ⟨amount, -, hamount⟩ := hall.handler _ _ _ _ rfl hok
    rw [← hamount, Int.mul_tdiv_cancel_left _ (by decide)] at hwhole
    exact ⟨by omega, amount, hamount.symm⟩
  · rintro ⟨hpos, amount, rfl⟩
    have hwhole : (100 * amount).tdiv 100 = amount := Int.mul_tdiv_cancel_left _ (by decide)
    refine ⟨?_, ?_, ?_⟩
    · intro call input payload result hinput hok
      simp only [initiateStkPush, bind_eq_ok] at hok
      obtain ⟨_, hpayload, _, -, heq⟩ := hok
      cases heq
      have hamount := stkPushPayload_eq_ok hpayload
      rw [hinput, hwhole] at hamount
      exact ⟨amount, hamount, rfl⟩
    · intro call params payload result hparams hok
      simp only [DarajaService.initiateStkPush, bind_eq_ok] at hok
      obtain ⟨_, hpayload, _, -, _, -, heq⟩ := hok
      cases heq
      have hamount := (darajaPayload_eq_ok hpayload).2
      rw [hparams, hwhole] at hamount
      exact ⟨amount, hamount, rfl⟩
    · intro call input call' params hhandler hservice
      refine iff_of_true (initiateStkPush_of_ok hhandler) ((daraja_of_ok hservice).2 ?_)
      rw [hwhole]
      omega

/-- A payout is complete where the net amount is whole shillings, a charge where the request is,
and the two charges refuse the same amounts where it is positive too. -/
theorem mpesaAmounts_iff (gross cents : ℤ) :
    (DisbursesAll gross ↔ gross ≤ 0 ∨ 100 ∣ gross - gross * 3 / 100) ∧
      (ChargesAll cents ↔ 0 < cents ∧ 100 ∣ cents) :=
  ⟨disbursesAll_iff, chargesAll_iff⟩

/-- Of 1010 cents 9 shillings are paid out after a fee of 30 cents; 150 cents are charged as one
shilling; 50 cents are charged as none by the handler and refused by the service. -/
theorem mpesa_cents_lost :
    (disburseFunds sampleMpesaCall ⟨"254700000002", 1010⟩).toOption.map (fun p => p.1.Amount) =
        some "9" ∧
      (initiateStkPush sampleMpesaCall (sampleStkInput 150)).toOption.map (fun p => p.1.Amount) =
        some "1" ∧
      (initiateStkPush sampleMpesaCall (sampleStkInput 50)).toOption.map (fun p => p.1.Amount) =
        some "0" ∧
      (DarajaService.initiateStkPush sampleDarajaCall (sampleDarajaParams 50)).toOption.isNone ∧
      ¬DisbursesAll 1010 ∧ ¬ChargesAll 150 ∧ ¬ChargesAll 50 := by
  have hsent : (disburseFunds sampleMpesaCall ⟨"254700000002", 1010⟩).toOption.map
        (fun p => p.1.Amount) = some "9" ∧
      (initiateStkPush sampleMpesaCall (sampleStkInput 150)).toOption.map (fun p => p.1.Amount) =
        some "1" ∧
      (initiateStkPush sampleMpesaCall (sampleStkInput 50)).toOption.map (fun p => p.1.Amount) =
        some "0" ∧
      (DarajaService.initiateStkPush sampleDarajaCall
        (sampleDarajaParams 50)).toOption.isNone := by
    decide +kernel
  obtain ⟨hpaid, hcharged, hnone, hrefused⟩ := hsent
  refine ⟨hpaid, hcharged, hnone, hrefused, ?_, ?_, ?_⟩
  · rw [disbursesAll_iff]
    decide
  · rw [chargesAll_iff]
    decide
  · rw [chargesAll_iff]
    decide

end UniverEscrow.Backend
