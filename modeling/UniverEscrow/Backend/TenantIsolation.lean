import UniverEscrow.Backend.EscrowStateMachine
import UniverEscrow.Backend.HandshakeLifecycle
import UniverEscrow.Backend.TenantApi
import UniverEscrow.Js.OwnedMap
import UniverEscrow.Lib.Noninterference

/-!
# Tenant isolation

Only one handler compares the tenant of a request with that of the record.  The others keep the
records of another tenant apart as far as their requests do not reach one.
-/

namespace UniverEscrow.Backend

open UniverEscrow.Js UniverEscrow.Js.OrderedMap UniverEscrow.Merkle UniverEscrow.Lib

/-- The stores differ in the records of the tenant alone. -/
structure SameWithout (B : String) (s s' : TenantStore) : Prop where
  escrows : SameOthers Escrow.tenantId B s.escrows s'.escrows
  handshakes : SameOthers PayoutHandshake.tenantId B s.handshakes s'.handshakes

/-- The tenant has the same records in both stores. -/
structure SameRecords (B : String) (s s' : TenantStore) : Prop where
  escrows : s'.escrows.ownEntries Escrow.tenantId B = s.escrows.ownEntries Escrow.tenantId B
  handshakes : s'.handshakes.ownEntries PayoutHandshake.tenantId B =
    s.handshakes.ownEntries PayoutHandshake.tenantId B

/-- The reply shows no record of the tenant. -/
def Hides (B : String) (reply : Reply Body) : Prop := ∀ body, reply = .ok body → B ∉ body.tenants

/-- The requests of tenant `A` leave the records of `B` as they are, show none, and are answered
alike from stores that differ in them. -/
structure Isolated (platform : TenantPlatform) (A B : String) (s s' : TenantStore)
    (requests : List TenantRequest) : Prop where
  answers : Noninterference.answers (respond platform A) s requests =
    Noninterference.answers (respond platform A) s' requests
  untouched : Run.Throughout (Noninterference.next (respond platform A)) (SameRecords B s) s
    requests
  undisclosed : ∀ reply ∈ Noninterference.answers (respond platform A) s requests, Hides B reply

/-! ## Which requests stay apart -/

def EscrowRoute.path : EscrowRoute → String
  | .lock => "/:escrowId/lock"
  | .release => "/:escrowId/release"
  | .refund => "/:escrowId/refund"
  | .dispute => "/:escrowId/dispute"

/-- The request gets as far as to look for the escrow. -/
def EscrowRoute.admits (api : EscrowApi) : EscrowRoute → EscrowRequest → Bool
  | .dispute, request => (disputeCall api request).isOk
  | route, request => (validateRequestIntegrityHash api route.path request).isOk

/-- The tenant has a handshake with the key, which a unique column would refuse again. -/
def HasReleaseKey (B key : String) (handshakes : Handshakes) : Prop :=
  ∃ e ∈ handshakes.entries, e.2.tenantId = B ∧ e.2.releaseIdempotencyKey = some key

/-- The release finds no handshake of the tenant and, where its password is right, none with its
key. -/
def ReleasesApart (B : String) (release : ReleaseRequest) (handshakes : Handshakes) : Prop :=
  ¬ OwnsKey PayoutHandshake.tenantId B handshakes release.handshakeId ∧
    ∀ row, checkOtp release handshakes = .ok row →
      ¬ HasReleaseKey B release.idempotencyKey handshakes

/-- The request names neither the tenant nor a record of its own, where it gets as far as to look
for one. -/
def Confined (platform : TenantPlatform) (B : String) (store : TenantStore) :
    TenantRequest → Prop
  | .createEscrow uuid _ _ => ¬ OwnsKey Escrow.tenantId B store.escrows ("escrow_" ++ uuid)
  | .getEscrow escrowId _ => ¬ OwnsKey Escrow.tenantId B store.escrows (jsTrim escrowId)
  | .getTenantEscrows tenantId =>
      jsTrim tenantId = B → store.escrows.ownEntries Escrow.tenantId B = []
  | .onEscrow route request =>
      route.admits platform.api request = true →
        ¬ OwnsKey Escrow.tenantId B store.escrows (jsTrim request.escrowId)
  | .createHandshake _ _ uuid _ =>
      ¬ OwnsKey PayoutHandshake.tenantId B store.handshakes ("hs_" ++ uuid)
  | .verifyAsset id hasImage _ =>
      hasImage = true → ¬ OwnsKey PayoutHandshake.tenantId B store.handshakes id
  | .create _ uuid _ body =>
      jsTrim (textMember body "tenantId") ≠ B ∧
        ¬ OwnsKey PayoutHandshake.tenantId B store.handshakes ("hs_" ++ uuid)
  | .verify request =>
      ∀ input, verifyHandshakeInput request = .ok input →
        ∀ release, otpReleaseRequest platform.sha256 input = .ok release →
          ReleasesApart B release store.handshakes

instance decidableHasReleaseKey (B key : String) (handshakes : Handshakes) :
    Decidable (HasReleaseKey B key handshakes) :=
  inferInstanceAs (Decidable (∃ e ∈ handshakes.entries, _ ∧ _))

instance decidableReleasesApart (B : String) (release : ReleaseRequest) (handshakes : Handshakes) :
    Decidable (ReleasesApart B release handshakes) :=
  inferInstanceAs (Decidable (¬ _ ∧ ∀ row, checkOtp release handshakes = .ok row → ¬ _))

instance decidableConfined (platform : TenantPlatform) (B : String) (store : TenantStore) :
    (request : TenantRequest) → Decidable (Confined platform B store request)
  | .createEscrow _ _ _ => inferInstanceAs (Decidable (¬ _))
  | .getEscrow _ _ => inferInstanceAs (Decidable (¬ _))
  | .getTenantEscrows _ => inferInstanceAs (Decidable (_ → _ = []))
  | .onEscrow _ _ => inferInstanceAs (Decidable (_ → ¬ _))
  | .createHandshake _ _ _ _ => inferInstanceAs (Decidable (¬ _))
  | .verifyAsset _ _ _ => inferInstanceAs (Decidable (_ → ¬ _))
  | .create _ _ _ _ => inferInstanceAs (Decidable (_ ∧ ¬ _))
  | .verify request =>
      inferInstanceAs (Decidable (∀ input, verifyHandshakeInput request = .ok input →
        ∀ release, otpReleaseRequest platform.sha256 input = .ok release →
          ReleasesApart B release store.handshakes))

/-! ## Two results of one request -/

/-- Two results of a request from stores that differ in the records of `B` alone. -/
structure Separate (B : String) (s : TenantStore) (r r' : TenantStore × Reply Body) : Prop where
  others : SameWithout B r.1 r'.1
  own : SameRecords B s r.1
  answer : r.2 = r'.2
  hides : Hides B r.2

section
variable {B : String} {s s' : TenantStore} {α : Type} {body : α → Body}

@[simp] theorem hides_error (e : HttpError) : Hides B (.error e) := by
  intro body hbody
  cases hbody

@[simp] theorem hides_ok {body : Body} : Hides B (.ok body) ↔ B ∉ body.tenants := by
  constructor
  · intro h
    exact h body rfl
  · intro h body' hbody
    exact Except.ok.inj hbody ▸ h

theorem separate_afterEscrows {r r' : Escrows × Reply α} (hsame : SameWithout B s s')
    (h : SameResults Escrow.tenantId B (fun reply => Hides B (reply.map body)) s.escrows r r') :
    Separate B s (s.afterEscrows body r) (s'.afterEscrows body r') where
  others := ⟨h.others, hsame.handshakes⟩
  own := ⟨h.own, rfl⟩
  answer := congrArg (Except.map body) h.answer
  hides := h.meets

theorem separate_afterHandshakes {r r' : Handshakes × Reply α} (hsame : SameWithout B s s')
    (h : SameResults PayoutHandshake.tenantId B (fun reply => Hides B (reply.map body)) s.handshakes
      r r') :
    Separate B s (s.afterHandshakes body r) (s'.afterHandshakes body r') where
  others := ⟨hsame.escrows, h.others⟩
  own := ⟨rfl, h.own⟩
  answer := congrArg (Except.map body) h.answer
  hides := h.meets

theorem separate_read {reply reply' : Reply Body} (hsame : SameWithout B s s')
    (hreply : reply = reply') (hhides : Hides B reply) :
    Separate B s (s, reply) (s', reply') :=
  ⟨hsame, ⟨rfl, rfl⟩, hreply, hhides⟩

end

/-! ## Escrows -/

section
variable {A B : String} {m m' : Escrows}

theorem tenantId_createEscrowParams {tenantId : Option String} {body : JsValue}
    {params : CreateEscrowParams} (h : createEscrowParams tenantId body = .ok params) :
    tenantId = some params.tenantId := by
  simp only [createEscrowParams, bind_eq_ok] at h
  obtain ⟨tenant, htenant, -, -, -, -, _, -, -, -, _, -, _, -, heq⟩ := h
  cases heq
  exact resolvedTenant_eq_ok htenant

theorem sameResults_createEscrow {uuid : String} {createdAtMs : ℤ} {body : JsValue} (hAB : A ≠ B)
    (hsame : SameOthers Escrow.tenantId B m m')
    (hk : ¬ OwnsKey Escrow.tenantId B m ("escrow_" ++ uuid))
    (hk' : ¬ OwnsKey Escrow.tenantId B m' ("escrow_" ++ uuid)) :
    SameResults Escrow.tenantId B (fun reply => Hides B (reply.map .escrow)) m
      (EscrowController.createEscrow (some A) uuid createdAtMs body m)
      (EscrowController.createEscrow (some A) uuid createdAtMs body m') := by
  rw [EscrowController.createEscrow, EscrowController.createEscrow]
  cases hparams : createEscrowParams (some A) body with
  | error e => exact sameResults_unchanged hsame (hides_error e)
  | ok params =>
      have hA : params.tenantId = A := (Option.some.inj (tenantId_createEscrowParams hparams)).symm
      have hB : (createdEscrow uuid createdAtMs params).tenantId ≠ B := by
        rw [createdEscrow, hA]
        exact hAB
      apply sameResults_set hsame hk hk' hB
      simpa [Except.map, Body.tenants] using hB.symm

/-- What an operation writes belongs to the tenant of the document. -/
theorem Operates.tenantId_eq {platform : EscrowPlatform} {escrowId : String} {call : EscrowCall}
    {doc updated : Escrow} {asked : Option ProviderRequest}
    (h : Operates platform escrowId call doc asked updated) : updated.tenantId = doc.tenantId := by
  cases h with
  | lock payment txResult updated op request answer written =>
      obtain ⟨-, hupdated⟩ := lockedEscrow_eq_ok.1 written
      rw [← hupdated]
  | release txnId op request answer => rfl
  | refund txnId reason op request answer => rfl
  | dispute reason op request => rfl

theorem sameResults_callService {api : EscrowApi} {request : EscrowRequest}
    {call : Reply EscrowCall}
    (hsame : SameOthers Escrow.tenantId B m m')
    (hk : ¬ OwnsKey Escrow.tenantId B m (jsTrim request.escrowId))
    (hk' : ¬ OwnsKey Escrow.tenantId B m' (jsTrim request.escrowId)) :
    SameResults Escrow.tenantId B (fun reply => Hides B (reply.map .escrow)) m
      (callService api request call m) (callService api request call m') := by
  cases call with
  | error e => exact sameResults_unchanged hsame (hides_error e)
  | ok call =>
      have hget := get?_eq_of_otherEntries hsame hk hk'
      rw [callService, callService, operate, operate, ← hget]
      cases hdoc : m.get? (jsTrim request.escrowId) with
      | none => exact sameResults_unchanged hsame (hides_error _)
      | some doc =>
          dsimp only
          cases hatomic : (call.toCall api.service (jsTrim request.escrowId)).atomic doc with
          | error message => exact sameResults_unchanged hsame (hides_error _)
          | ok result =>
              obtain ⟨⟨asked, hoperates⟩, hupdate⟩ := atomic_toCall_eq_ok.1 hatomic
              have hdocB : doc.tenantId ≠ B := fun h => hk ⟨doc, hdoc, h⟩
              have hupdatedB : result.2.tenantId ≠ B := hoperates.tenantId_eq ▸ hdocB
              apply sameResults_set hsame hk hk'
              · rw [← hupdate]
                exact hupdatedB
              · simpa [thrownAs, Except.mapError, Except.map, Body.tenants] using hupdatedB.symm

/-- The handlers that call a provider read the document of the request, if they read one. -/
theorem withProvider_congr {api : EscrowApi} {path : String} {op : EscrowOp}
    {request : EscrowRequest}
    (hget : m.get? (jsTrim request.escrowId) = m'.get? (jsTrim request.escrowId)) :
    withProvider api path op request m = withProvider api path op request m' := by
  simp only [withProvider, trimmedId, bind_assoc, pure_bind, hget]

theorem sameResults_withProvider {api : EscrowApi} {path : String} {op : EscrowOp}
    {request : EscrowRequest}
    (hsame : SameOthers Escrow.tenantId B m m')
    (hk : (validateRequestIntegrityHash api path request).isOk = true →
      ¬ OwnsKey Escrow.tenantId B m (jsTrim request.escrowId))
    (hk' : (validateRequestIntegrityHash api path request).isOk = true →
      ¬ OwnsKey Escrow.tenantId B m' (jsTrim request.escrowId)) :
    SameResults Escrow.tenantId B (fun reply => Hides B (reply.map .escrow)) m
      (callService api request (withProvider api path op request m) m)
      (callService api request (withProvider api path op request m') m') := by
  cases hvalid : validateRequestIntegrityHash api path request with
  | error e =>
      simp only [withProvider, hvalid]
      exact sameResults_unchanged hsame (hides_error e)
  | ok u =>
      rw [hvalid] at hk hk'
      rw [withProvider_congr (get?_eq_of_otherEntries hsame (hk rfl) (hk' rfl))]
      exact sameResults_callService hsame (hk rfl) (hk' rfl)

theorem sameResults_handler {api : EscrowApi} {route : EscrowRoute} {request : EscrowRequest}
    (hsame : SameOthers Escrow.tenantId B m m')
    (hk : route.admits api request = true →
      ¬ OwnsKey Escrow.tenantId B m (jsTrim request.escrowId))
    (hk' : route.admits api request = true →
      ¬ OwnsKey Escrow.tenantId B m' (jsTrim request.escrowId)) :
    SameResults Escrow.tenantId B (fun reply => Hides B (reply.map .escrow)) m
      (route.handler api request m) (route.handler api request m') := by
  cases route with
  | lock => exact sameResults_withProvider hsame hk hk'
  | release => exact sameResults_withProvider hsame hk hk'
  | refund => exact sameResults_withProvider hsame hk hk'
  | dispute =>
      simp only [EscrowRoute.admits] at hk hk'
      simp only [EscrowRoute.handler, EscrowController.disputeEscrow]
      cases hcall : disputeCall api request with
      | error e => exact sameResults_unchanged hsame (hides_error e)
      | ok call =>
          rw [hcall] at hk hk'
          exact sameResults_callService hsame (hk rfl) (hk' rfl)

theorem getEscrow_congr {api : EscrowApi} {nowMs : ℤ} {escrowId : String}
    (hget : m.get? (jsTrim escrowId) = m'.get? (jsTrim escrowId)) :
    EscrowController.getEscrow api nowMs escrowId m =
      EscrowController.getEscrow api nowMs escrowId m' := by
  simp only [EscrowController.getEscrow, trimmedId, bind_assoc, pure_bind, hget]

theorem hides_getEscrow {api : EscrowApi} {nowMs : ℤ} {escrowId : String}
    (hk : ¬ OwnsKey Escrow.tenantId B m (jsTrim escrowId)) :
    Hides B ((EscrowController.getEscrow api nowMs escrowId m).map .checkedEscrow) := by
  intro body hbody
  obtain ⟨checked, hchecked, rfl⟩ := map_eq_ok.1 hbody
  simp only [EscrowController.getEscrow, trimmedId, bind_eq_ok, orReply_eq_ok] at hchecked
  obtain ⟨trimmed, ⟨-, -, htrim⟩, escrow, hescrow, _, -, heq⟩ := hchecked
  cases htrim
  cases heq
  have hB : escrow.tenantId ≠ B := fun h => hk ⟨escrow, hescrow, h⟩
  simpa [Body.tenants] using hB.symm

/-- The documents of a tenant are those of the others, or its own. -/
theorem tenantEscrows_eq (hsame : SameOthers Escrow.tenantId B m m')
    {tenantId : String} (hown : tenantId = B → m.ownEntries Escrow.tenantId B = [])
    (hown' : tenantId = B → m'.ownEntries Escrow.tenantId B = []) :
    tenantEscrows tenantId m = tenantEscrows tenantId m' := by
  have hfilter : (m.entries.filter fun e => e.2.tenantId = tenantId) =
      m'.entries.filter fun e => e.2.tenantId = tenantId := by
    obtain rfl | hne := eq_or_ne tenantId B
    · exact (hown rfl).trans (hown' rfl).symm
    · have hothers : ∀ n : Escrows, (n.entries.filter fun e => e.2.tenantId = tenantId) =
          (n.otherEntries Escrow.tenantId B).filter fun e => e.2.tenantId = tenantId := by
        intro n
        rw [otherEntries, List.filter_filter]
        apply List.filter_congr
        intro e he
        by_cases h : e.2.tenantId = tenantId <;> simp [h, hne]
      rw [hothers m, hothers m', hsame]
  rw [tenantEscrows, tenantEscrows, hfilter]

theorem tenantId_of_mem_tenantEscrows {tenantId : String} {escrow : Escrow}
    (h : escrow ∈ tenantEscrows tenantId m) :
    escrow.tenantId = tenantId ∧ ∃ id, (id, escrow) ∈ m.entries := by
  simp only [tenantEscrows, List.mem_map, List.mem_insertionSort, List.mem_filter,
    decide_eq_true_eq] at h
  obtain ⟨⟨id, doc⟩, ⟨hmem, htenant⟩, rfl⟩ := h
  exact ⟨htenant, id, hmem⟩

theorem hides_getTenantEscrows {tenantId : String}
    (hown : jsTrim tenantId = B → m.ownEntries Escrow.tenantId B = []) :
    Hides B ((EscrowController.getTenantEscrows tenantId m).map .escrows) := by
  intro body hbody
  obtain ⟨shown, hshown, rfl⟩ := map_eq_ok.1 hbody
  simp only [EscrowController.getTenantEscrows, trimmedId, bind_eq_ok] at hshown
  obtain ⟨trimmed, ⟨-, -, htrim⟩, heq⟩ := hshown
  cases htrim
  cases heq
  intro hmem
  obtain ⟨escrow, hescrow, hB⟩ := List.mem_map.1 hmem
  obtain ⟨htenant, id, hentry⟩ := tenantId_of_mem_tenantEscrows hescrow
  have hmine : (id, escrow) ∈ m.ownEntries Escrow.tenantId B := by
    rw [ownEntries, List.mem_filter]
    exact ⟨hentry, by simpa using hB⟩
  rw [hown (htenant.symm.trans hB)] at hmine
  exact absurd hmine List.not_mem_nil

end

/-! ## Handshakes -/

section
variable {A B : String} {m m' : Handshakes}

/-- Whether a row can be created shows in what is under its key. -/
theorem create_eq_map {errors : CreateErrors} {tenantExists : String → Bool}
    {row : PayoutHandshake} (hget : m.get? row.handshakeId = m'.get? row.handshakeId) :
    m'.create errors tenantExists row =
      (m.create errors tenantExists row).map fun _ => m'.set row.handshakeId row := by
  simp only [Handshakes.create, map_bind, hget]
  rfl

theorem create_eq_ok {errors : CreateErrors} {tenantExists : String → Bool} {row : PayoutHandshake}
    {after : Handshakes} (h : m.create errors tenantExists row = .ok after) :
    m.set row.handshakeId row = after := by
  simp only [Handshakes.create, bind_eq_ok] at h
  obtain ⟨-, -, -, -, -, -, -, -, -, -, heq⟩ := h
  exact Except.ok.inj heq

/-- A handler that creates at most one row, of which it shows the tenant: it fails, or it comes to
create the row, before it reads the table. -/
inductive Creates {α : Type} (errors : CreateErrors) (tenantExists : String → Bool)
    (key tenant : String) (body : α → Body) (f : Handshakes → Reply (Handshakes × α)) : Prop
  | fails (e : HttpError) (h : ∀ m, f m = .error e)
  | creates (row : PayoutHandshake) (a : α) (toError : String → HttpError)
      (handshakeId : row.handshakeId = key) (tenantId : row.tenantId = tenant)
      (tenants : (body a).tenants = [tenant])
      (h : ∀ m : Handshakes, f m = ((m.create errors tenantExists row).map (·, a)).mapError toError)

theorem Creates.sameResults {α : Type} {errors : CreateErrors} {tenantExists : String → Bool}
    {key tenant : String} {body : α → Body} {f : Handshakes → Reply (Handshakes × α)}
    (h : Creates errors tenantExists key tenant body f) (htenant : tenant ≠ B)
    (hsame : SameOthers PayoutHandshake.tenantId B m m')
    (hk : ¬ OwnsKey PayoutHandshake.tenantId B m key)
    (hk' : ¬ OwnsKey PayoutHandshake.tenantId B m' key) :
    SameResults PayoutHandshake.tenantId B (fun reply => Hides B (reply.map body)) m
      (orUnchanged m (f m)) (orUnchanged m' (f m')) := by
  cases h with
  | fails e h =>
      rw [h m, h m']
      exact sameResults_unchanged hsame (hides_error e)
  | creates row a toError handshakeId tenantId tenants h =>
      have hget := get?_eq_of_otherEntries hsame hk hk'
      rw [← handshakeId] at hget hk hk'
      rw [h m, h m', create_eq_map hget]
      cases hcreate : m.create errors tenantExists row with
      | error message => exact sameResults_unchanged hsame (hides_error (toError message))
      | ok after =>
          rw [← create_eq_ok hcreate]
          apply sameResults_set hsame hk hk' (tenantId ▸ htenant)
          simpa [Except.map, Except.mapError, tenants] using htenant.symm

theorem assertNonEmptyString_str_eq_ok {text name s : String}
    (h : assertNonEmptyString (.str text) name = .ok s) : s = jsTrim text := by
  simp only [assertNonEmptyString, bind_eq_ok, orThrow_eq_ok] at h
  obtain ⟨text', htext, -, -, heq⟩ := h
  cases htext
  cases heq
  rfl

theorem tenantId_requestedHandshake {sha256 : Sha256} {errors : CreateErrors} {nextId : ℕ}
    {uuid text : String} {n : Fin 1000000} {input : CreateHandshakeInput}
    {created : CreatedHandshake} (htext : input.tenantId = .str text)
    (h : requestedHandshake sha256 errors nextId uuid n input = .ok created) :
    created.handshake.tenantId = jsTrim text ∧ created.handshake.handshakeId = "hs_" ++ uuid := by
  simp only [requestedHandshake, bind_eq_ok, htext] at h
  obtain ⟨tenantId, htenantId, _, -, _, -, _, -, heq⟩ := h
  cases heq
  exact ⟨assertNonEmptyString_str_eq_ok htenantId, rfl⟩

theorem tenantId_createHandshakeInput {body : JsValue} {input : CreateHandshakeInput}
    (h : createHandshakeInput body = .ok input) :
    input.tenantId = .str (textMember body "tenantId") := by
  simp only [createHandshakeInput, bind_eq_ok] at h
  obtain ⟨-, -, -, -, -, -, _, -, heq⟩ := h
  cases heq
  rfl

theorem creates_create {sha256 : Sha256} {errors : CreateErrors} {tenantExists : String → Bool}
    {nextId : ℕ} {uuid : String} {n : Fin 1000000} {body : JsValue} :
    Creates errors tenantExists ("hs_" ++ uuid) (jsTrim (textMember body "tenantId"))
      .createdHandshake
      (PaymentController.create sha256 errors tenantExists nextId uuid n body) := by
  cases hinput : createHandshakeInput body with
  | error e => exact .fails e fun m => by rw [PaymentController.create, hinput]; rfl
  | ok input =>
      cases hcreated : requestedHandshake sha256 errors nextId uuid n input with
      | error message =>
          refine .fails ⟨paymentCreateStatus message, message⟩ fun m => ?_
          rw [PaymentController.create, hinput]
          simp [createHandshake, hcreated, bind, Except.bind, thrownAs, Except.mapError]
      | ok created =>
          obtain ⟨htenantId, hhandshakeId⟩ :=
            tenantId_requestedHandshake (tenantId_createHandshakeInput hinput) hcreated
          refine .creates created.handshake created
            (fun message => ⟨paymentCreateStatus message, message⟩) hhandshakeId htenantId
            (by rw [Body.tenants, htenantId]) fun m => ?_
          rw [PaymentController.create, hinput]
          cases hcreate : m.create errors tenantExists created.handshake <;>
            simp [createHandshake, hcreated, hcreate, bind, Except.bind, thrownAs, pure,
              Except.pure, Except.map]

theorem tenantId_openedRow {errors : CreateErrors} {nextId : ℕ} {tenantId handshakeId : String}
    {body : JsValue} {data : HandshakeData} {row : PayoutHandshake}
    (h : openedRow errors nextId tenantId handshakeId body data = .ok row) :
    row.tenantId = tenantId ∧ row.handshakeId = handshakeId := by
  simp only [openedRow, bind_eq_ok] at h
  obtain ⟨_, -, _, -, _, -, _, -, heq⟩ := h
  cases heq
  exact ⟨rfl, rfl⟩

theorem creates_createHandshake {errors : CreateErrors} {tenantExists : String → Bool}
    {nextId : ℕ} {escrowUuid uuid : String} {body : JsValue} :
    Creates errors tenantExists ("hs_" ++ uuid) A .openedHandshake
      (HandshakeController.createHandshake errors tenantExists nextId escrowUuid uuid (some A)
        body) := by
  cases htenant : resolvedTenant (some A) with
  | error e =>
      exact .fails e fun m => by rw [HandshakeController.createHandshake, htenant]; rfl
  | ok tenant =>
      obtain rfl : A = tenant := Option.some.inj (resolvedTenant_eq_ok htenant)
      cases hdata : handshakeData body ("escrow_" ++ escrowUuid) with
      | error e =>
          refine .fails e fun m => ?_
          rw [HandshakeController.createHandshake, htenant]
          simp [hdata, bind, Except.bind]
      | ok data =>
          cases hrow : openedRow errors nextId A ("hs_" ++ uuid) body data with
          | error message =>
              refine .fails (createHandshakeError message) fun m => ?_
              rw [HandshakeController.createHandshake, htenant]
              simp [hdata, hrow, bind, Except.bind, Except.mapError]
          | ok row =>
              obtain ⟨htenantId, hhandshakeId⟩ := tenantId_openedRow hrow
              refine .creates row (openedHandshake ("escrow_" ++ escrowUuid) data row)
                createHandshakeError hhandshakeId htenantId (congrArg (fun t => [t]) htenantId)
                fun m => ?_
              rw [HandshakeController.createHandshake, htenant]
              cases hcreate : m.create errors tenantExists row <;>
                simp [hdata, hrow, hcreate, bind, Except.bind, Except.mapError, Except.map, pure,
                  Except.pure]

/-! ### Verifying an asset -/

theorem assetVerification_congr {jsonParse : JsonParse} {request : VerifyAssetRequest}
    (hget : m.get? request.id = m'.get? request.id) :
    assetVerification jsonParse request m = assetVerification jsonParse request m' := by
  simp only [assetVerification, hget]

theorem sameResults_verifyAsset {jsonParse : JsonParse} {request : VerifyAssetRequest}
    (hsame : SameOthers PayoutHandshake.tenantId B m m')
    (hk : request.hasImage = true → ¬ OwnsKey PayoutHandshake.tenantId B m request.id)
    (hk' : request.hasImage = true → ¬ OwnsKey PayoutHandshake.tenantId B m' request.id) :
    SameResults PayoutHandshake.tenantId B (fun reply => Hides B (reply.map .verifiedAsset)) m
      (verifyAsset jsonParse request m) (verifyAsset jsonParse request m') := by
  cases himage : request.hasImage with
  | false =>
      have hrefused : ∀ n, assetVerification jsonParse request n =
          .error ⟨400, "image_REQUIRED"⟩ := by
        intro n
        rw [assetVerification, himage]
        rfl
      rw [verifyAsset, verifyAsset, hrefused m, hrefused m']
      exact sameResults_unchanged hsame (hides_error _)
  | true =>
      have hget := get?_eq_of_otherEntries hsame (hk himage) (hk' himage)
      rw [verifyAsset, verifyAsset, ← assetVerification_congr hget]
      cases hverification : assetVerification jsonParse request m with
      | error e => exact sameResults_unchanged hsame (hides_error e)
      | ok found =>
          obtain ⟨handshake, verification⟩ := found
          obtain ⟨hfound, -⟩ := assetVerification_eq_ok hverification
          have hB : handshake.tenantId ≠ B := fun h => hk himage ⟨handshake, hfound, h⟩
          exact sameResults_set hsame (hk himage) (hk' himage) hB
            (hides_ok.2 List.not_mem_nil)

/-! ### Releasing by password -/

theorem checkOtp_congr {release : ReleaseRequest}
    (hget : m.get? release.handshakeId = m'.get? release.handshakeId) :
    checkOtp release m = checkOtp release m' := by
  simp only [checkOtp, hget]

theorem taken_congr {key : String}
    (hsame : SameOthers PayoutHandshake.tenantId B m m')
    (hkey : ¬ HasReleaseKey B key m) (hkey' : ¬ HasReleaseKey B key m') :
    m.taken PayoutHandshake.releaseIdempotencyKey key =
      m'.taken PayoutHandshake.releaseIdempotencyKey key := by
  have hothers : ∀ n : Handshakes, ¬ HasReleaseKey B key n →
      n.taken PayoutHandshake.releaseIdempotencyKey key =
        (n.otherEntries PayoutHandshake.tenantId B).any fun e =>
          e.2.releaseIdempotencyKey = some key := by
    intro n hn
    apply any_entries_eq
    intro e he howner
    rw [decide_eq_false_iff_not]
    exact fun hhas => hn ⟨e, he, howner, hhas⟩
  rw [hothers m hkey, hothers m' hkey', hsame]

/-- The transaction fails alike on both tables, or writes the same row in both. -/
theorem releaseTransaction_same {release : ReleaseRequest} (nowMs : ℤ)
    (hsame : SameOthers PayoutHandshake.tenantId B m m')
    (h : ReleasesApart B release m) (h' : ReleasesApart B release m') :
    (∃ message, releaseTransaction release nowMs m = .error message ∧
      releaseTransaction release nowMs m' = .error message) ∨
      ∃ row, row.tenantId ≠ B ∧
        releaseTransaction release nowMs m = .ok (m.set release.handshakeId row, row) ∧
        releaseTransaction release nowMs m' = .ok (m'.set release.handshakeId row, row) := by
  have hget := get?_eq_of_otherEntries hsame h.1 h'.1
  have hotp : checkOtp release m = checkOtp release m' := checkOtp_congr hget
  cases hcheck : checkOtp release m with
  | error message =>
      refine .inl ⟨message, ?_, ?_⟩
      · simp [releaseTransaction, hcheck, bind, Except.bind]
      · simp [releaseTransaction, ← hotp, hcheck, bind, Except.bind]
  | ok before =>
      have htaken := taken_congr hsame (h.2 before hcheck) (h'.2 before (hotp ▸ hcheck))
      cases hfree : m.taken PayoutHandshake.releaseIdempotencyKey release.idempotencyKey with
      | true =>
          refine .inl ⟨"ALREADY_PROCESSED", ?_, ?_⟩
          · simp [releaseTransaction, hcheck, checkKey, hfree, throwUnless, bind, Except.bind]
          · simp [releaseTransaction, ← hotp, hcheck, checkKey, ← htaken, hfree, throwUnless, bind,
              Except.bind]
      | false =>
          obtain ⟨hfound, hcode, hstatus⟩ := checkOtp_eq_ok.1 hcheck
          have hreleasable : Releasable release m before := ⟨hfound, hcode, hstatus, hfree⟩
          have hreleasable' : Releasable release m' before :=
            ⟨hget ▸ hfound, hcode, hstatus, htaken ▸ hfree⟩
          refine .inr ⟨releasedByOtp release before nowMs before, ?_, ?_, ?_⟩
          · exact fun hB => h.1 ⟨before, hfound, hB⟩
          · exact releaseTransaction_eq_ok.2 ⟨before, hreleasable, rfl, rfl⟩
          · exact releaseTransaction_eq_ok.2 ⟨before, hreleasable', rfl, rfl⟩

theorem sameResults_verify {platform : TenantPlatform} {request : VerifyHandshakeRequest}
    {s s' : TenantStore} (hsame : SameWithout B s s')
    (hs : Confined platform B s (.verify request)) (hs' : Confined platform B s' (.verify request)) :
    SameResults PayoutHandshake.tenantId B (fun reply => Hides B (reply.map .handshake)) s.handshakes
      (orUnchanged s.handshakes (PaymentController.verify platform.sha256 request s.handshakes))
      (orUnchanged s'.handshakes
        (PaymentController.verify platform.sha256 request s'.handshakes)) := by
  rw [PaymentController.verify, PaymentController.verify]
  cases hinput : verifyHandshakeInput request with
  | error e => exact sameResults_unchanged hsame.handshakes (hides_error e)
  | ok input =>
      simp only [verifyAndRelease, bind, Except.bind]
      cases hrelease : otpReleaseRequest platform.sha256 input with
      | error message => exact sameResults_unchanged hsame.handshakes (hides_error _)
      | ok release =>
          have hapart := hs input hinput release hrelease
          have hapart' := hs' input hinput release hrelease
          dsimp only
          obtain ⟨message, herror, herror'⟩ | ⟨row, hB, hok, hok'⟩ :=
            releaseTransaction_same request.nowMs hsame.handshakes hapart hapart'
          · rw [herror, herror']
            exact sameResults_unchanged hsame.handshakes (hides_error _)
          · rw [hok, hok']
            apply sameResults_set hsame.handshakes hapart.1 hapart'.1 hB
            simpa [thrownAs, Except.mapError, Except.map, Body.tenants] using hB.symm

end

/-! ## Runs -/

section
variable {platform : TenantPlatform} {A B : String} {s s' : TenantStore}

theorem separate_respond {request : TenantRequest} (hAB : A ≠ B) (hsame : SameWithout B s s')
    (hs : Confined platform B s request) (hs' : Confined platform B s' request) :
    Separate B s (respond platform A s request) (respond platform A s' request) := by
  cases request with
  | createEscrow uuid createdAtMs body =>
      exact separate_afterEscrows hsame (sameResults_createEscrow hAB hsame.escrows hs hs')
  | getEscrow escrowId nowMs =>
      have hget := get?_eq_of_otherEntries hsame.escrows hs hs'
      exact separate_read hsame (congrArg (Except.map _) (getEscrow_congr hget))
        (hides_getEscrow hs)
  | getTenantEscrows tenantId =>
      refine separate_read hsame ?_ (hides_getTenantEscrows hs)
      simp only [EscrowController.getTenantEscrows, trimmedId, bind_assoc, pure_bind,
        tenantEscrows_eq hsame.escrows hs hs']
  | onEscrow route request =>
      exact separate_afterEscrows hsame (sameResults_handler hsame.escrows hs hs')
  | createHandshake nextId escrowUuid uuid body =>
      exact separate_afterHandshakes hsame
        (creates_createHandshake.sameResults hAB hsame.handshakes hs hs')
  | verifyAsset id hasImage model =>
      exact separate_afterHandshakes hsame (sameResults_verifyAsset hsame.handshakes hs hs')
  | create nextId uuid n body =>
      exact separate_afterHandshakes hsame
        (creates_create.sameResults hs.1 hsame.handshakes hs.2 hs'.2)
  | verify request => exact separate_afterHandshakes hsame (sameResults_verify hsame hs hs')

end

/-! ### A sample -/

/-- HMAC-SHA256 on the request to dispute the escrow of the other tenant. -/
def requestHmac (_key data : String) : HexDigest :=
  if data = "escrow_u-2:/:escrowId/dispute:1767225600" then
    ⟨"69c5496b860ba30804bc6e6350cb5f61299a30075553663acce791f831c428bf", by decide +kernel⟩
  else developmentHmac "" data

def sampleTenants : TenantPlatform where
  api := {
    service := { developmentPlatform with hmacSha256 := requestHmac }
    integrityKey := some "request-key" }
  sha256 := passwordSha256
  jsonParse _ := none
  errors := sampleErrors
  tenantExists tenantId := tenantId ∈ ["tenant-a", "tenant-b"]

def emptyStore : TenantStore := ⟨OrderedMap.empty, OrderedMap.empty⟩

/-- One escrow, of the other tenant. -/
def otherTenantStore : TenantStore :=
  { emptyStore with
    escrows := OrderedMap.empty.set "escrow_u-2"
      (createdEscrow "u-2" 1767225599000 { sampleParams with tenantId := "tenant-b" }) }

/-- The request to dispute it, whose hash anyone with the key can compute. -/
def disputeOther : EscrowRequest where
  escrowId := "escrow_u-2"
  body := .obj [("reason", "no delivery"),
    ("integrityHash", "69c5496b860ba30804bc6e6350cb5f61299a30075553663acce791f831c428bf"),
    ("timestamp", "1767225600")]
  integrityHash := none
  integrityTimestamp := none
  providers _ := providerWith ⟨.success, some "tx-1"⟩
  hashMs := 1767225600000
  dateMs := 1767225601000
  isoDate := "2026-01-01T00:00:01.000Z"

/-- A new handshake for the tenant that the body names. -/
def createFor (tenantId : String) : TenantRequest :=
  .create 1 "u-1" samplePassword (.obj [("tenantId", tenantId), ("recipient", "254700000001"),
    ("route", "MPESA"), ("amount", .num (.ofInt 250))])

def escrowBody : JsValue :=
  .obj [("buyerId", "buyer-1"), ("sellerId", "seller-1"), ("amount", .num (.ofInt 250)),
    ("currency", "KES"), ("providerType", "MPESA")]

theorem sameWithout_sample : SameWithout "tenant-b" otherTenantStore emptyStore :=
  ⟨rfl, rfl⟩

end UniverEscrow.Backend
