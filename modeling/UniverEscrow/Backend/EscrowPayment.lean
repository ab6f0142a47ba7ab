import UniverEscrow.Backend.EscrowStateMachine

/-!
# Locked escrows are paid for

Locking stores what `initializePayment` returned without reading its status; that a result without
a transaction does not lock is left to Firestore, which refuses to store one by default.
-/

namespace UniverEscrow.Backend

open UniverEscrow.Js UniverEscrow.Merkle UniverEscrow.Lib

/-- The payment has not failed and there is a transaction for it. -/
def PaymentResult.Paid (txResult : PaymentResult) : Prop :=
  txResult.status ≠ .failed ∧ txResult.transactionId.isSome = true

instance (txResult : PaymentResult) : Decidable txResult.Paid :=
  inferInstanceAs (Decidable (_ ∧ _))

variable (platform : EscrowPlatform)

/-- Locking the escrow, the provider returns the result. -/
def ReturnsFor (id : String) (call : EscrowCall) (escrow : Escrow) (txResult : PaymentResult) :
    Prop :=
  ∃ payment, lockRequest platform call.hashMs id escrow = .ok payment ∧
    call.provider.initializePayment payment = .ok txResult

/-- An escrow becomes locked only by a payment whose transaction it stores, and a lock without one
throws and leaves it pending. -/
structure LockedIsPaid (escrows : Escrows) (call : ServiceCall) : Prop where
  paid : ∀ id after, (afterCall platform escrows call).get? id = some after →
    after.status = .locked →
    (∀ before, escrows.get? id = some before → before.status ≠ .locked) →
    ∃ lock before txResult, call = .onEscrow id lock ∧ lock.op = .lock ∧
      escrows.get? id = some before ∧ ReturnsFor platform id lock before txResult ∧
      txResult.Paid ∧ after.transactionId = txResult.transactionId
  refused : ∀ id lock before, call = .onEscrow id lock → lock.op = .lock →
    escrows.get? id = some before → before.status = .pending →
    (¬ ∃ txResult, ReturnsFor platform id lock before txResult ∧ txResult.Paid) →
    (∃ message, (serve platform escrows call).2 = .error message) ∧
      afterCall platform escrows call = escrows

/-- Every result that the update would store is that of a payment. -/
def StoresPayments (escrows : Escrows) : ServiceCall → Prop
  | .createEscrow _ _ _ => True
  | .onEscrow id call =>
      call.op = .lock → ∀ doc txResult, escrows.get? id = some doc →
        ReturnsFor platform id call doc txResult →
          (txResult.transactionId.isSome || platform.ignoreUndefinedProperties) = true →
            txResult.Paid

variable {platform} {escrows : Escrows} {id : String} {call : EscrowCall}

theorem ReturnsFor.unique {doc : Escrow} {txResult txResult' : PaymentResult}
    (h : ReturnsFor platform id call doc txResult)
    (h' : ReturnsFor platform id call doc txResult') : txResult = txResult' := by
  obtain ⟨payment, hrequest, hanswer⟩ := h
  obtain ⟨payment', hrequest', hanswer'⟩ := h'
  rw [hrequest] at hrequest'
  rw [Except.ok.inj hrequest', hanswer'] at hanswer
  exact (Except.ok.inj hanswer).symm

/-- A lock gets through with every result that the update would store. -/
theorem operates_of_returnsFor {doc : Escrow} {txResult : PaymentResult} (hop : call.op = .lock)
    (h : ReturnsFor platform id call doc txResult)
    (hstored : (txResult.transactionId.isSome || platform.ignoreUndefinedProperties) = true) :
    ∃ request updated, Operates platform id call doc request updated ∧
      updated.status = .locked := by
  obtain ⟨payment, hrequest, hanswer⟩ := h
  exact ⟨_, _, .lock payment txResult _ hop hrequest hanswer
    (lockedEscrow_eq_ok.2 ⟨hstored, rfl⟩), rfl⟩

/-- An operation that gets through and leaves the escrow locked is a lock, and its provider
returned a result that could be stored. -/
theorem lock_of_operates {doc updated : Escrow} {request : Option ProviderRequest}
    (h : Operates platform id call doc request updated) (hlocked : updated.status = .locked) :
    call.op = .lock ∧ ∃ txResult, ReturnsFor platform id call doc txResult ∧
      (txResult.transactionId.isSome || platform.ignoreUndefinedProperties) = true ∧
      updated.transactionId = txResult.transactionId := by
  cases h with
  | lock payment txResult _ op request answer written =>
      obtain ⟨hstored, rfl⟩ := lockedEscrow_eq_ok.1 written
      exact ⟨op, txResult, ⟨payment, request, answer⟩, hstored, rfl⟩
  | release => cases hlocked
  | refund => cases hlocked
  | dispute => cases hlocked

theorem lockedIsPaid_create (platform : EscrowPlatform) (escrows : Escrows) (uuid : String)
    (createdAtMs : ℤ) (params : CreateEscrowParams) :
    LockedIsPaid platform escrows (.createEscrow uuid createdAtMs params) where
  paid id after hafter hlocked hbefore := by
    rw [afterCall, serve, OrderedMap.get?_set] at hafter
    split_ifs at hafter with hid
    · rw [← Option.some.inj hafter] at hlocked
      cases hlocked
    · exact absurd hlocked (hbefore after hafter)
  refused id lock before hcall := by cases hcall

/-- An operation that throws locks nothing. -/
theorem lockedIsPaid_of_throws {message : String}
    (h : operate platform id call escrows = (escrows, .error message)) :
    LockedIsPaid platform escrows (.onEscrow id call) where
  paid id' after hafter hlocked hbefore := by
    rw [afterCall_onEscrow, h] at hafter
    exact absurd hlocked (hbefore after hafter)
  refused _ _ _ _ _ _ _ _ := ⟨⟨message, by rw [serve, h]⟩, by rw [afterCall_onEscrow, h]⟩

/-- Where an operation gets through, it is a paid lock or no lock. -/
theorem lockedIsPaid_of_operates {doc updated : Escrow} {request : Option ProviderRequest}
    (hdoc : escrows.get? id = some doc) (hoperates : Operates platform id call doc request updated)
    (hoperate : operate platform id call escrows =
      (escrows.set id (doc.update updated), .ok updated))
    (h : StoresPayments platform escrows (.onEscrow id call)) :
    LockedIsPaid platform escrows (.onEscrow id call) where
  paid id' after hafter hlocked hbefore := by
    rw [afterCall_onEscrow, hoperate, OrderedMap.get?_set] at hafter
    split_ifs at hafter with hid
    · subst hid
      rw [← Option.some.inj hafter] at hlocked ⊢
      obtain ⟨hop, txResult, hreturns, hstored, htransaction⟩ := lock_of_operates hoperates hlocked
      have hpaid : txResult.Paid := h hop doc txResult hdoc hreturns hstored
      refine ⟨call, doc, txResult, rfl, hop, hdoc, hreturns, hpaid, ?_⟩
      obtain ⟨txnId, htxnId⟩ := Option.isSome_iff_exists.1 hpaid.2
      simp [Escrow.update, htransaction, htxnId]
    · exact absurd hlocked (hbefore after hafter)
  refused id' lock before hcall hop hbefore hpending hunpaid := by
    cases hcall
    rw [hdoc] at hbefore
    cases hbefore
    have hlocked : updated.status = .locked := by
      cases hoperates with
      | lock payment txResult _ op request answer written =>
          obtain ⟨-, rfl⟩ := lockedEscrow_eq_ok.1 written
          rfl
      | release txnId op => cases hop.symm.trans op
      | refund txnId reason op => cases hop.symm.trans op
      | dispute reason op => cases hop.symm.trans op
    obtain ⟨-, txResult, hreturns, hstored, -⟩ := lock_of_operates hoperates hlocked
    exact absurd ⟨txResult, hreturns, h hop doc txResult hdoc hreturns hstored⟩ hunpaid

theorem storesPayments_of_lockedIsPaid (h : LockedIsPaid platform escrows (.onEscrow id call)) :
    StoresPayments platform escrows (.onEscrow id call) := by
  intro hop doc txResult hdoc hreturns hstored
  obtain ⟨request, updated, hoperates, hlocked⟩ := operates_of_returnsFor hop hreturns hstored
  have hpending : doc.status = .pending := by
    obtain ⟨payment, hrequest, -⟩ := hreturns
    exact (status_of_lockRequest hrequest).1
  have hafter : (afterCall platform escrows (.onEscrow id call)).get? id =
      some (doc.update updated) := by
    rw [afterCall_onEscrow, operate_of_operates hdoc hoperates, OrderedMap.get?_set_self]
  have hbefore : ∀ before, escrows.get? id = some before → before.status ≠ .locked := by
    intro before hget
    rw [hdoc] at hget
    rw [← Option.some.inj hget, hpending]
    decide
  obtain ⟨lock, before, txResult', hcall, -, hget, hreturns', hpaid, -⟩ :=
    h.paid id _ hafter hlocked hbefore
  cases hcall
  rw [hdoc] at hget
  rw [← Option.some.inj hget] at hreturns'
  exact hreturns.unique hreturns' ▸ hpaid

theorem lockedIsPaid_iff (platform : EscrowPlatform) (escrows : Escrows) (call : ServiceCall) :
    LockedIsPaid platform escrows call ↔ StoresPayments platform escrows call := by
  cases call with
  | createEscrow uuid createdAtMs params =>
      exact ⟨fun _ => trivial, fun _ => lockedIsPaid_create platform escrows uuid _ params⟩
  | onEscrow id call =>
      refine ⟨storesPayments_of_lockedIsPaid, fun h => ?_⟩
      obtain ⟨message, hthrows⟩ | ⟨doc, request, updated, hdoc, hoperates, hoperate⟩ :=
        operate_cases platform id call escrows
      · exact lockedIsPaid_of_throws hthrows
      · exact lockedIsPaid_of_operates hdoc hoperates hoperate h

/-- Locked means paid for, all along a run of the service, exactly where every payment result
that can be stored is that of a payment. -/
theorem service_locks_paid_iff (platform : EscrowPlatform) (escrows : Escrows)
    (calls : List ServiceCall) :
    Run.EachStep (afterCall platform) (LockedIsPaid platform) escrows calls ↔
      Run.EachStep (afterCall platform) (StoresPayments platform) escrows calls :=
  Run.eachStep_congr fun escrows call => lockedIsPaid_iff platform escrows call

/-- The lock of the sample's escrow with one result of the provider. -/
def lockSampleWith (txResult : PaymentResult) : ServiceCall :=
  .onEscrow "escrow_u-1" (sampleCall .lock txResult)

/-- A failed payment with a transaction locks; one without a transaction is charged, and throws. -/
theorem failed_payment_locks :
    statusAfter [sampleCreate, lockSampleWith ⟨.failed, some "tx-1"⟩] = some .locked ∧
      statusAfter [sampleCreate, lockSampleWith ⟨.success, none⟩] = some .pending ∧
      ¬ Run.EachStep (afterCall developmentPlatform) (LockedIsPaid developmentPlatform)
        OrderedMap.empty [sampleCreate, lockSampleWith ⟨.failed, some "tx-1"⟩] := by
  have hstatus : statusAfter [sampleCreate] = some .pending ∧
      statusAfter [sampleCreate, lockSampleWith ⟨.failed, some "tx-1"⟩] = some .locked ∧
      statusAfter [sampleCreate, lockSampleWith ⟨.success, none⟩] = some .pending := by
    decide +kernel
  obtain ⟨hpending, hlocked, hthrown⟩ := hstatus
  refine ⟨hlocked, hthrown, fun h => ?_⟩
  obtain ⟨-, hlock, -⟩ := h
  obtain ⟨after, hafter, hstatus⟩ := Option.map_eq_some_iff.1 hlocked
  have hbefore : ∀ before, (afterCall developmentPlatform OrderedMap.empty sampleCreate).get?
      "escrow_u-1" = some before → before.status ≠ .locked := by
    intro before hget hbefore
    have hsource : some before.status = some .pending :=
      (congrArg (Option.map Escrow.status) hget).symm.trans hpending
    rw [hbefore] at hsource
    cases hsource
  obtain ⟨lock, before, txResult, hcall, -, -, ⟨payment, -, hanswer⟩, hpaid, -⟩ :=
    hlock.paid "escrow_u-1" after hafter hstatus hbefore
  cases hcall
  cases hanswer
  exact absurd hpaid (by decide)

end UniverEscrow.Backend
