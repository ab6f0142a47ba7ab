import UniverEscrow.Backend.EscrowService

/-!
# The documented state machine

The header of the service draws `PENDING -> LOCKED -> (DISPUTED | RELEASED) -> REFUNDED`.  A
refund asks for a transaction and a dispute for an escrow that is not over, so both leave it.
-/

namespace UniverEscrow.Backend

open UniverEscrow.Js UniverEscrow.Merkle UniverEscrow.Lib

/-- The edges of the machine. -/
def documentedEdge : EscrowStatus → EscrowStatus → Bool
  | .pending, .locked => true
  | .locked, .disputed => true
  | .locked, .released => true
  | .disputed, .refunded => true
  | .released, .refunded => true
  | _, _ => false

/-- The status of the escrow stays or follows an edge of the machine. -/
def Follows (source target : EscrowStatus) : Prop :=
  target = source ∨ documentedEdge source target = true

instance (source target : EscrowStatus) : Decidable (Follows source target) :=
  inferInstanceAs (Decidable (_ ∨ _))

/-- A call moves the status of every escrow along the machine, and changes nothing when it
throws. -/
structure KeepsMachine (platform : EscrowPlatform) (escrows : Escrows) (call : ServiceCall) :
    Prop where
  edges : ∀ id before, escrows.get? id = some before →
    ∃ after, (afterCall platform escrows call).get? id = some after ∧
      Follows before.status after.status
  throws : ∀ message, (serve platform escrows call).2 = .error message →
    afterCall platform escrows call = escrows

/-- A refund that would get through finds the escrow disputed or released, and a dispute finds
it locked; the id of a new escrow is not that of one which has moved on. -/
def StaysOnMachine (escrows : Escrows) : ServiceCall → Prop
  | .createEscrow uuid _ _ =>
      ∀ before, escrows.get? ("escrow_" ++ uuid) = some before → before.status = .pending
  | .onEscrow id call =>
      ∀ doc, escrows.get? id = some doc →
        match call.op with
        | .lock | .release => True
        | .refund _ =>
            ∀ txnId, refundRequest doc = .ok txnId →
              call.provider.initiateRefund txnId = .ok true →
                doc.status ≠ .pending ∧ doc.status ≠ .locked
        | .dispute _ => doc.status ≠ .pending

variable {platform : EscrowPlatform} {escrows : Escrows} {id : String} {call : EscrowCall}

theorem afterCall_onEscrow (platform : EscrowPlatform) (escrows : Escrows) (id : String)
    (call : EscrowCall) :
    afterCall platform escrows (.onEscrow id call) = (operate platform id call escrows).1 := rfl

/-- An operation that gets through follows the machine exactly where it stays on it. -/
theorem follows_operates_iff {doc updated : Escrow} {request : Option ProviderRequest}
    (hdoc : escrows.get? id = some doc)
    (h : Operates platform id call doc request updated) :
    Follows doc.status updated.status ↔ StaysOnMachine escrows (.onEscrow id call) := by
  simp only [StaysOnMachine, hdoc, Option.some.injEq, forall_eq']
  cases h with
  | lock payment txResult _ op request answer written =>
      obtain ⟨-, rfl⟩ := lockedEscrow_eq_ok.1 written
      simp [op, (status_of_lockRequest request).1, Follows, documentedEdge]
  | release txnId op request answer =>
      simp [op, (releaseRequest_eq_ok.1 request).1, Follows, documentedEdge]
  | refund txnId reason op request answer =>
      have hstatus := (refundRequest_eq_ok.1 request).2
      simp only [op, request, Except.ok.injEq, forall_eq', answer, forall_const]
      revert hstatus
      cases doc.status <;> decide
  | dispute reason op request =>
      have hstatus := disputeGuard_eq_ok.1 request
      simp only [op, disputedEscrow]
      revert hstatus
      cases doc.status <;> decide

theorem follows_self (status : EscrowStatus) : Follows status status := .inl rfl

/-- Setting one document moves the others nowhere. -/
theorem edges_set_iff {id : String} {doc updated : Escrow} (hdoc : escrows.get? id = some doc) :
    (∀ id' before, escrows.get? id' = some before →
      ∃ after, (escrows.set id updated).get? id' = some after ∧
        Follows before.status after.status) ↔ Follows doc.status updated.status :=
  OrderedMap.rel_set_iff (fun escrow => follows_self escrow.status) hdoc

theorem keepsMachine_create_iff {uuid : String} {createdAtMs : ℤ} {params : CreateEscrowParams} :
    KeepsMachine platform escrows (.createEscrow uuid createdAtMs params) ↔
      StaysOnMachine escrows (.createEscrow uuid createdAtMs params) := by
  have hfollows : ∀ status : EscrowStatus, Follows status .pending ↔ status = .pending := by
    intro status
    cases status <;> decide
  constructor
  · intro h before hbefore
    obtain ⟨after, hafter, hedge⟩ := h.edges _ before hbefore
    rw [afterCall, serve, createdEscrow, OrderedMap.get?_set_self] at hafter
    rw [← Option.some.inj hafter] at hedge
    exact (hfollows before.status).1 hedge
  · intro h
    refine ⟨fun id before hbefore => ?_, fun message hmessage => by cases hmessage⟩
    by_cases hid : id = "escrow_" ++ uuid
    · subst hid
      refine ⟨createdEscrow uuid createdAtMs params, OrderedMap.get?_set_self _ _ _, ?_⟩
      exact (hfollows before.status).2 (h before hbefore)
    · refine ⟨before, ?_, follows_self before.status⟩
      rw [afterCall, serve, createdEscrow, OrderedMap.get?_set, if_neg hid]
      exact hbefore

/-- An operation that throws changes nothing. -/
theorem keepsMachine_of_throws {message : String}
    (h : operate platform id call escrows = (escrows, .error message)) :
    KeepsMachine platform escrows (.onEscrow id call) where
  edges id' before hbefore := by
    rw [afterCall_onEscrow, h]
    exact ⟨before, hbefore, follows_self before.status⟩
  throws _ _ := by rw [afterCall_onEscrow, h]

/-- Where a dispute or a refund of the condition is refused, the condition does not matter. -/
theorem staysOnMachine_of_throws {message : String}
    (h : operate platform id call escrows = (escrows, .error message)) :
    StaysOnMachine escrows (.onEscrow id call) := by
  intro doc hdoc
  have hnone : ∀ request updated, ¬ Operates platform id call doc request updated := by
    intro request updated hoperates
    rw [operate_of_operates hdoc hoperates] at h
    cases congrArg Prod.snd h
  cases hop : call.op with
  | lock => trivial
  | release => trivial
  | refund reason =>
      intro txnId hrequest hanswer
      exact absurd (Operates.refund txnId reason hop hrequest hanswer) (hnone _ _)
  | dispute reason =>
      intro hpending
      have hguard : disputeGuard doc = .ok () := disputeGuard_eq_ok.2 (by simp [hpending])
      exact hnone _ _ (Operates.dispute reason hop hguard)

theorem keepsMachine_iff (platform : EscrowPlatform) (escrows : Escrows) (call : ServiceCall) :
    KeepsMachine platform escrows call ↔ StaysOnMachine escrows call := by
  cases call with
  | createEscrow uuid createdAtMs params => exact keepsMachine_create_iff
  | onEscrow id call =>
      obtain ⟨message, hthrows⟩ | ⟨doc, request, updated, hdoc, hoperates, hoperate⟩ :=
        operate_cases platform id call escrows
      · exact ⟨fun _ => staysOnMachine_of_throws hthrows, fun _ => keepsMachine_of_throws hthrows⟩
      · rw [← follows_operates_iff hdoc hoperates, ← Escrow.status_update doc updated,
          ← edges_set_iff hdoc]
        constructor
        · intro h id' before hbefore
          have hedge := h.edges id' before hbefore
          rwa [afterCall_onEscrow, hoperate] at hedge
        · intro h
          refine ⟨fun id' before hbefore => ?_, fun message hmessage => ?_⟩
          · rw [afterCall_onEscrow, hoperate]
            exact h id' before hbefore
          · rw [serve, hoperate] at hmessage
            cases hmessage

/-- A run of the service keeps to the machine exactly where no refund gets through before a
dispute or a release, no escrow is disputed before it is locked, and no id is used again. -/
theorem service_keeps_machine_iff (platform : EscrowPlatform) (escrows : Escrows)
    (calls : List ServiceCall) :
    Run.EachStep (afterCall platform) (KeepsMachine platform) escrows calls ↔
      Run.EachStep (afterCall platform) StaysOnMachine escrows calls :=
  Run.eachStep_congr fun escrows call => keepsMachine_iff platform escrows call

/-! ### A sample -/

/-- HMAC-SHA256 under the development key, on the payload of one lock. -/
def developmentHmac (_key data : String) : HexDigest :=
  if data = "escrow_u-1:250:1767225600000" then
    ⟨"55883e6e4e71842cd4da0b0739970190b00e7b910540293012f920b281b7d82e", by decide +kernel⟩
  else ⟨"991d75bdab69118f03c3586eb1630609412b0518ec8021becd070cddcfff96f2", by decide +kernel⟩

/-- The development key, and Firestore with its default settings. -/
def developmentPlatform : EscrowPlatform where
  hmacSha256 := developmentHmac
  masterIntegrityKey := "default-development-key"
  ignoreUndefinedProperties := false
  undefinedError field := "Cannot use \"undefined\" as a Firestore value (found in field \"" ++
    field ++ "\")."

/-- A provider that answers every payment with one result, and agrees to the rest. -/
def providerWith (txResult : PaymentResult) : PaymentProvider where
  initializePayment _ := .ok txResult
  verifyTransaction _ := .ok true
  initiateRefund _ := .ok true

def sampleParams : CreateEscrowParams where
  tenantId := "tenant-a"
  buyerId := "buyer-1"
  sellerId := "seller-1"
  amount := .num (.ofInt 250)
  currency := "KES"
  providerType := "MPESA"
  description := "Order 17"
  metadata := []

/-- A call of the sample, one second after the hash of the first lock. -/
def sampleCall (op : EscrowOp) (txResult : PaymentResult) : EscrowCall where
  op := op
  provider := providerWith txResult
  hashMs := 1767225600000
  dateMs := 1767225601000
  isoDate := "2026-01-01T00:00:01.000Z"

def sampleCreate : ServiceCall := .createEscrow "u-1" 1767225599000 sampleParams

def onSample (op : EscrowOp) : ServiceCall :=
  .onEscrow "escrow_u-1" (sampleCall op ⟨.success, some "tx-1"⟩)

/-- The status of the sample's escrow after calls from no documents. -/
def statusAfter (calls : List ServiceCall) : Option EscrowStatus :=
  ((Run.run (afterCall developmentPlatform) OrderedMap.empty calls).get? "escrow_u-1").map
    Escrow.status

/-- A locked escrow is refunded, and a pending one is disputed. -/
theorem refund_of_locked_leaves_machine :
    statusAfter [sampleCreate, onSample .lock] = some .locked ∧
      statusAfter [sampleCreate, onSample .lock, onSample (.refund "changed mind")] =
        some .refunded ∧
      statusAfter [sampleCreate, onSample (.dispute "no delivery")] = some .disputed ∧
      ¬ Run.EachStep (afterCall developmentPlatform) (KeepsMachine developmentPlatform)
        OrderedMap.empty [sampleCreate, onSample .lock, onSample (.refund "changed mind")] := by
  have hstatus : statusAfter [sampleCreate, onSample .lock] = some .locked ∧
      statusAfter [sampleCreate, onSample .lock, onSample (.refund "changed mind")] =
        some .refunded ∧
      statusAfter [sampleCreate, onSample (.dispute "no delivery")] = some .disputed := by
    decide +kernel
  obtain ⟨hlocked, hrefunded, hdisputed⟩ := hstatus
  refine ⟨hlocked, hrefunded, hdisputed, fun h => ?_⟩
  obtain ⟨-, -, hrefund, -⟩ := h
  obtain ⟨before, hbefore, hsource⟩ := Option.map_eq_some_iff.1 hlocked
  obtain ⟨after, hafter, hfollows⟩ := hrefund.edges "escrow_u-1" before hbefore
  have htarget : some after.status = some .refunded :=
    (congrArg (Option.map Escrow.status) hafter).symm.trans hrefunded
  rw [hsource, Option.some.inj htarget] at hfollows
  exact absurd hfollows (by decide)

end UniverEscrow.Backend
