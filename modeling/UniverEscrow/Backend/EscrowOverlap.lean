import UniverEscrow.Backend.EscrowPayment

/-!
# Overlapping operations on one escrow

Between the reading of the document and the update stands the answer of the provider, and nothing
compares the document that is updated with the one that was read.  So two locks charge twice, and a
release writes over a dispute.
-/

namespace UniverEscrow.Backend

open UniverEscrow.Js UniverEscrow.Merkle UniverEscrow.Lib UniverEscrow.Lib.ReadModifyWrite

/-- The document, and where each of the calls on it stands. -/
abbrev EscrowWorld := World ℕ Escrow (Escrow × Option ProviderRequest) Escrow String

variable (platform : EscrowPlatform) (escrowId : String) (calls : ℕ → EscrowCall)

def overlapping (i : ℕ) : Call Escrow (Escrow × Option ProviderRequest) Escrow String :=
  (calls i).toCall platform escrowId

/-- The operation is a lock whose payment the provider makes. -/
def Charges (i : ℕ) (asked : Escrow × Option ProviderRequest) : Prop :=
  (calls i).op = .lock ∧ ∃ payment txResult, asked.2 = some (.initializePayment payment) ∧
    (calls i).provider.initializePayment payment = .ok txResult ∧ txResult.Paid

/-- The operation is a refund that the provider makes. -/
def Refunds (i : ℕ) (asked : Escrow × Option ProviderRequest) : Prop :=
  ∃ txnId, asked.2 = some (.initiateRefund txnId) ∧
    (calls i).provider.initiateRefund txnId = .ok true

def EscrowCall.IsDispute (call : EscrowCall) : Prop := ∃ reason, call.op = .dispute reason

/-- The calls that succeeded are serial, with one payment and one refund at most, and no dispute
of them is overwritten by a release. -/
structure Serialised (doc : Escrow) (w : EscrowWorld) : Prop where
  serial : Serial (overlapping platform escrowId calls) Prod.snd doc w
  chargesOnce : ∀ i j, Moved (Charges calls) w i → Moved (Charges calls) w j → i = j
  refundsOnce : ∀ i j, Moved (Refunds calls) w i → Moved (Refunds calls) w j → i = j
  disputeStands : ∀ i j a b c d, w.phase i = .done a b → (calls i).IsDispute →
    w.phase j = .done c d → (calls j).op ≠ .release

/-- What an operation makes of the metadata it has read. -/
def EscrowCall.metadata (call : EscrowCall) (metadata : List (String × JsValue)) :
    List (String × JsValue) :=
  match call.op with
  | .lock | .release => metadata
  | .refund reason => refundMetadata reason metadata
  | .dispute reason => disputeMetadata reason call.isoDate metadata

/-- The document still passes the checks of the operation, and writing the copy back over it
would change nothing but the status and the metadata, which the operation sets. -/
structure Current (call : EscrowCall) (copy doc : Escrow) : Prop where
  admitted : ∃ request, call.request platform escrowId doc = .ok request
  metadata : call.metadata doc.metadata = call.metadata copy.metadata
  rest : { doc.update copy with status := doc.status, metadata := doc.metadata } = doc

/-- An update is made with a current copy; a payment or a refund is asked for while the document
admits it and no other call has one that it has yet to write. -/
structure Undisturbed (w : EscrowWorld) (i : ℕ) : Prop where
  current : ∀ asked updated, w.phase i = .writing asked updated →
    Current platform escrowId (calls i) asked.1 w.shared
  charges : Alone (overlapping platform escrowId calls) (Charges calls) w i
  refunds : Alone (overlapping platform escrowId calls) (Refunds calls) w i

variable {platform} {escrowId} {calls} {call : EscrowCall} {copy doc updated : Escrow}
  {request : Option ProviderRequest}

/-! ## A current copy writes what the document would -/

theorem Escrow.update_self (doc : Escrow) : doc.update doc = doc := by
  simp [Escrow.update]

/-- Writing a current copy back leaves its status and its metadata, and the rest of the document. -/
theorem Current.update_copy (h : Current platform escrowId call copy doc) :
    doc.update copy = { doc with status := copy.status, metadata := copy.metadata } :=
  congrArg (fun e : Escrow => { e with status := copy.status, metadata := copy.metadata }) h.rest

/-- Over a current copy and over the document itself, an update that sets the status and the
metadata comes out the same. -/
theorem Current.update_eq (h : Current platform escrowId call copy doc) (status : EscrowStatus)
    {metadata metadata' : List (String × JsValue)} (hmetadata : metadata = metadata') :
    { doc.update doc with status := status, metadata := metadata } =
      { doc.update copy with status := status, metadata := metadata' } := by
  rw [doc.update_self, h.update_copy, hmetadata]

theorem Current.transactionId_eq_some (h : Current platform escrowId call copy doc)
    {txnId : String} (hcopy : copy.transactionId = some txnId) :
    doc.transactionId = some txnId := by
  have htransaction : (copy.transactionId <|> doc.transactionId) = doc.transactionId :=
    congrArg Escrow.transactionId h.update_copy
  rw [hcopy] at htransaction
  exact htransaction.symm

theorem Current.lockRequest_eq (h : Current platform escrowId call copy doc)
    (hstatus : copy.status = doc.status) (hmetadata : copy.metadata = doc.metadata) (nowMs : ℤ) :
    lockRequest platform nowMs escrowId doc = lockRequest platform nowMs escrowId copy := by
  have hdoc : doc.update copy = doc := by
    rw [h.update_copy, hstatus, hmetadata]
  calc lockRequest platform nowMs escrowId doc
      = lockRequest platform nowMs escrowId (doc.update copy) := by rw [hdoc]
    _ = lockRequest platform nowMs escrowId copy := rfl

/-- An operation that wrote with a current copy would write the same with the document. -/
theorem Current.operates (h : Current platform escrowId call copy doc)
    (hoperates : Operates platform escrowId call copy request updated) :
    ∃ updated', Operates platform escrowId call doc request updated' ∧
      doc.update updated' = doc.update updated := by
  obtain ⟨request', hadmitted⟩ := h.admitted
  have hmetadata := h.metadata
  cases hoperates with
  | lock payment txResult _ op request answer written =>
      simp only [EscrowCall.request, op, map_eq_ok] at hadmitted
      obtain ⟨payment', hpayment, -⟩ := hadmitted
      simp only [EscrowCall.metadata, op] at hmetadata
      have hstatus : copy.status = doc.status :=
        (status_of_lockRequest request).1.trans (status_of_lockRequest hpayment).1.symm
      have hrequest : lockRequest platform call.hashMs escrowId doc = .ok payment := by
        rw [h.lockRequest_eq hstatus hmetadata.symm]
        exact request
      obtain ⟨hstored, rfl⟩ := lockedEscrow_eq_ok.1 written
      refine ⟨_, .lock payment txResult _ op hrequest answer
        (lockedEscrow_eq_ok.2 ⟨hstored, rfl⟩), ?_⟩
      exact congrArg (fun e : Escrow => { e with
        transactionId := txResult.transactionId <|> doc.transactionId
        integrityHash := payment.metadata.integrityHash
        lockedAt := some call.dateMs }) (h.update_eq .locked hmetadata)
  | release txnId op request answer =>
      simp only [EscrowCall.request, op, map_eq_ok] at hadmitted
      obtain ⟨txnId', htxn, -⟩ := hadmitted
      simp only [EscrowCall.metadata, op] at hmetadata
      obtain ⟨-, htransaction, hne⟩ := releaseRequest_eq_ok.1 request
      have hrequest : releaseRequest doc = .ok txnId :=
        releaseRequest_eq_ok.2 ⟨(releaseRequest_eq_ok.1 htxn).1,
          h.transactionId_eq_some htransaction, hne⟩
      refine ⟨_, .release txnId op hrequest answer, ?_⟩
      exact congrArg (fun e : Escrow => { e with releasedAt := some call.dateMs })
        (h.update_eq .released hmetadata)
  | refund txnId reason op request answer =>
      simp only [EscrowCall.request, op, map_eq_ok] at hadmitted
      obtain ⟨txnId', htxn, -⟩ := hadmitted
      simp only [EscrowCall.metadata, op] at hmetadata
      obtain ⟨⟨htransaction, hne⟩, -⟩ := refundRequest_eq_ok.1 request
      have hrequest : refundRequest doc = .ok txnId :=
        refundRequest_eq_ok.2 ⟨⟨h.transactionId_eq_some htransaction, hne⟩,
          (refundRequest_eq_ok.1 htxn).2⟩
      refine ⟨_, .refund txnId reason op hrequest answer, ?_⟩
      exact congrArg (fun e : Escrow => { e with refundedAt := some call.dateMs })
        (h.update_eq .refunded hmetadata)
  | dispute reason op request =>
      simp only [EscrowCall.request, op, map_eq_ok] at hadmitted
      obtain ⟨_, hguard, -⟩ := hadmitted
      simp only [EscrowCall.metadata, op] at hmetadata
      exact ⟨_, .dispute reason op hguard, h.update_eq .disputed hmetadata⟩

variable {w : EscrowWorld} {i : ℕ}

theorem read_overlapping_eq_ok {escrow : Escrow} {asked : Escrow × Option ProviderRequest} :
    (overlapping platform escrowId calls i).read escrow = .ok asked ↔
      asked.1 = escrow ∧ (calls i).request platform escrowId escrow = .ok asked.2 :=
  read_toCall_eq_ok

theorem valid_of_current (hphased : WellPhased (overlapping platform escrowId calls) w)
    (hcurrent : ∀ asked updated, w.phase i = .writing asked updated →
      Current platform escrowId (calls i) asked.1 w.shared) :
    Valid (overlapping platform escrowId calls) Prod.snd w i := by
  intro asked updated hphase
  obtain ⟨⟨s, hread⟩, hsettle⟩ := hphased.writing i asked updated hphase
  obtain ⟨rfl, hrequest⟩ := read_overlapping_eq_ok.1 hread
  obtain ⟨updated', hoperates, hupdate⟩ :=
    (hcurrent asked updated hphase).operates (operates_iff.2 ⟨hrequest, hsettle⟩)
  obtain ⟨hrequest', hsettle'⟩ := operates_iff.1 hoperates
  exact ⟨(w.shared, asked.2), updated', read_overlapping_eq_ok.2 ⟨rfl, hrequest'⟩, rfl, hsettle',
    hupdate⟩

/-! ## Payments and refunds happen once -/

/-- No operation writes an escrow that is pending again. -/
theorem status_ne_pending_of_updated
    (h : call.updated platform copy request = .ok updated) : updated.status ≠ .pending := by
  cases request with
  | none =>
      cases h
      simp [disputedEscrow]
  | some request =>
      cases request with
      | initializePayment payment =>
          simp only [EscrowCall.updated, bind_eq_ok, lockedEscrow_eq_ok] at h
          obtain ⟨_, -, -, rfl⟩ := h
          simp
      | verifyTransaction txnId =>
          simp only [EscrowCall.updated, releasedEscrow, bind_eq_ok, throwUnless_eq_ok, pure,
            Except.pure, Except.ok.injEq] at h
          obtain ⟨_, -, -, -, rfl⟩ := h
          simp
      | initiateRefund txnId =>
          simp only [EscrowCall.updated, refundedEscrow, bind_eq_ok, throwUnless_eq_ok, pure,
            Except.pure, Except.ok.injEq] at h
          obtain ⟨_, -, -, -, rfl⟩ := h
          simp

/-- A refunded escrow is refused by every operation. -/
theorem status_ne_refunded_of_request
    (h : call.request platform escrowId doc = .ok request) : doc.status ≠ .refunded := by
  intro hstatus
  cases hop : call.op with
  | lock =>
      simp only [EscrowCall.request, hop, map_eq_ok] at h
      obtain ⟨payment, hpayment, -⟩ := h
      simp [(status_of_lockRequest hpayment).1] at hstatus
  | release =>
      simp only [EscrowCall.request, hop, map_eq_ok] at h
      obtain ⟨txnId, htxn, -⟩ := h
      simp [(releaseRequest_eq_ok.1 htxn).1] at hstatus
  | refund reason =>
      simp only [EscrowCall.request, hop, map_eq_ok] at h
      obtain ⟨txnId, htxn, -⟩ := h
      exact (refundRequest_eq_ok.1 htxn).2 hstatus
  | dispute reason =>
      simp only [EscrowCall.request, hop, map_eq_ok] at h
      obtain ⟨_, hguard, -⟩ := h
      exact (disputeGuard_eq_ok.1 hguard).2 hstatus

theorem exclusive_charges (platform : EscrowPlatform) (escrowId : String)
    (calls : ℕ → EscrowCall) :
    Exclusive (overlapping platform escrowId calls) (Charges calls)
      fun escrow => escrow.status ≠ .pending where
  closes _ _ updated escrow _ hsettle := by
    rw [overlapping, EscrowCall.toCall, Escrow.status_update]
    exact status_ne_pending_of_updated hsettle
  stays _ _ updated escrow _ _ hsettle := by
    rw [overlapping, EscrowCall.toCall, Escrow.status_update]
    exact status_ne_pending_of_updated hsettle
  refuses i asked asked' escrow hclosed hcharges hread := by
    obtain ⟨-, hrequest⟩ := read_overlapping_eq_ok.1 hread
    simp only [EscrowCall.request, hcharges.1, map_eq_ok] at hrequest
    obtain ⟨payment, hpayment, -⟩ := hrequest
    exact hclosed (status_of_lockRequest hpayment).1

theorem exclusive_refunds (platform : EscrowPlatform) (escrowId : String)
    (calls : ℕ → EscrowCall) :
    Exclusive (overlapping platform escrowId calls) (Refunds calls)
      fun escrow => escrow.status = .refunded where
  closes i asked updated escrow hrefunds hsettle := by
    obtain ⟨txnId, hasked, -⟩ := hrefunds
    simp only [overlapping, EscrowCall.toCall, EscrowCall.updated, hasked, refundedEscrow,
      bind_eq_ok, throwUnless_eq_ok, pure, Except.pure, Except.ok.injEq] at hsettle
    obtain ⟨_, -, -, -, rfl⟩ := hsettle
    rfl
  stays i asked updated escrow hclosed hread _ :=
    absurd hclosed (status_ne_refunded_of_request (read_overlapping_eq_ok.1 hread).2)
  refuses i asked asked' escrow hclosed _ hread :=
    status_ne_refunded_of_request (read_overlapping_eq_ok.1 hread).2 hclosed

/-! ## Disputes and releases exclude one another -/

/-- A dispute or a release of the log shows in the status, and not both are in it. -/
structure DisputesApart (calls : ℕ → EscrowCall) (log : List (ℕ × Option ProviderRequest))
    (escrow : Escrow) : Prop where
  disputed : ∀ k r, (k, r) ∈ log → (calls k).IsDispute →
    escrow.status = .disputed ∨ escrow.status = .refunded
  released : ∀ k r, (k, r) ∈ log → (calls k).op = .release →
    escrow.status = .released ∨ escrow.status = .refunded
  apart : ∀ k r k' r', (k, r) ∈ log → (k', r') ∈ log → (calls k).IsDispute →
    (calls k').op ≠ .release

/-- Once disputed, an escrow is not released, and an operation leaves it disputed or refunded. -/
theorem disputed_of_operates (h : Operates platform escrowId call doc request updated)
    (hdoc : doc.status = .disputed ∨ doc.status = .refunded) :
    call.op ≠ .release ∧ (updated.status = .disputed ∨ updated.status = .refunded) := by
  cases h with
  | lock payment txResult _ op request => simp [(status_of_lockRequest request).1] at hdoc
  | release txnId op request => simp [(releaseRequest_eq_ok.1 request).1] at hdoc
  | refund txnId reason op => exact ⟨by simp [op], .inr rfl⟩
  | dispute reason op => exact ⟨by simp [op], .inl rfl⟩

/-- Once released, an escrow is not disputed, and an operation leaves it released or refunded. -/
theorem released_of_operates (h : Operates platform escrowId call doc request updated)
    (hdoc : doc.status = .released ∨ doc.status = .refunded) :
    ¬ call.IsDispute ∧ (updated.status = .released ∨ updated.status = .refunded) := by
  cases h with
  | lock payment txResult _ op request => simp [(status_of_lockRequest request).1] at hdoc
  | release txnId op => exact ⟨by simp [EscrowCall.IsDispute, op], .inl rfl⟩
  | refund txnId reason op => exact ⟨by simp [EscrowCall.IsDispute, op], .inr rfl⟩
  | dispute reason op request =>
      have hguard := disputeGuard_eq_ok.1 request
      simp [hguard.1, hguard.2] at hdoc

theorem disputed_of_isDispute (h : Operates platform escrowId call doc request updated)
    (hdispute : call.IsDispute) : updated.status = .disputed := by
  obtain ⟨reason, hop⟩ := hdispute
  cases h with
  | lock _ _ _ op => cases hop.symm.trans op
  | release _ op => cases hop.symm.trans op
  | refund _ _ op => cases hop.symm.trans op
  | dispute => rfl

theorem released_of_op_eq (h : Operates platform escrowId call doc request updated)
    (hop : call.op = .release) : updated.status = .released := by
  cases h with
  | lock _ _ _ op => cases hop.symm.trans op
  | release => rfl
  | refund _ _ op => cases hop.symm.trans op
  | dispute _ op => cases hop.symm.trans op

theorem disputesApart_snoc {log : List (ℕ × Option ProviderRequest)} {k : ℕ}
    (h : DisputesApart calls log doc)
    (hoperates : Operates platform escrowId (calls k) doc request updated) :
    DisputesApart calls (log ++ [(k, request)]) (doc.update updated) where
  disputed j r hj hdispute := by
    rw [Escrow.status_update]
    rcases List.mem_append.1 hj with hj | hj
    · exact (disputed_of_operates hoperates (h.disputed j r hj hdispute)).2
    · cases List.mem_singleton.1 hj
      exact .inl (disputed_of_isDispute hoperates hdispute)
  released j r hj hrelease := by
    rw [Escrow.status_update]
    rcases List.mem_append.1 hj with hj | hj
    · exact (released_of_operates hoperates (h.released j r hj hrelease)).2
    · cases List.mem_singleton.1 hj
      exact .inl (released_of_op_eq hoperates hrelease)
  apart i r j r' hi hj hdispute hrelease := by
    rcases List.mem_append.1 hi with hi | hi <;> rcases List.mem_append.1 hj with hj | hj
    · exact h.apart i r j r' hi hj hdispute hrelease
    · cases List.mem_singleton.1 hj
      exact (disputed_of_operates hoperates (h.disputed i r hi hdispute)).1 hrelease
    · cases List.mem_singleton.1 hi
      exact (released_of_operates hoperates (h.released j r' hj hrelease)).1 hdispute
    · cases List.mem_singleton.1 hi
      cases List.mem_singleton.1 hj
      obtain ⟨reason, hop⟩ := hdispute
      cases hop.symm.trans hrelease

theorem disputesApart_of_replays {log : List (ℕ × Option ProviderRequest)} {escrow : Escrow}
    (h : Replays (overlapping platform escrowId calls) Prod.snd doc log escrow) :
    DisputesApart calls log escrow := by
  refine h.induct ⟨by simp, by simp, by simp⟩ fun log s k asked updated hlog hread hsettle => ?_
  obtain ⟨rfl, hrequest⟩ := read_overlapping_eq_ok.1 hread
  exact disputesApart_snoc hlog (operates_iff.2 ⟨hrequest, hsettle⟩)

/-! ## Runs -/

/-- What every undisturbed step keeps. -/
structure OverlapInvariant (platform : EscrowPlatform) (escrowId : String)
    (calls : ℕ → EscrowCall) (doc : Escrow) (w : EscrowWorld) : Prop where
  phased : WellPhased (overlapping platform escrowId calls) w
  serial : Serial (overlapping platform escrowId calls) Prod.snd doc w
  charged : MovedOnce (Charges calls) (fun escrow => escrow.status ≠ .pending) w
  refunded : MovedOnce (Refunds calls) (fun escrow => escrow.status = .refunded) w

theorem overlapInvariant_initial (platform : EscrowPlatform) (escrowId : String)
    (calls : ℕ → EscrowCall) (doc : Escrow) :
    OverlapInvariant platform escrowId calls doc (World.initial doc) where
  phased := wellPhased_initial _ doc
  serial := serial_initial _ _ doc
  charged := movedOnce_initial _ _ doc
  refunded := movedOnce_initial _ _ doc

theorem overlapInvariant_step (h : OverlapInvariant platform escrowId calls doc w)
    (hundisturbed : Undisturbed platform escrowId calls w i) :
    OverlapInvariant platform escrowId calls doc (step (overlapping platform escrowId calls) w i) :=
  have hvalid := valid_of_current h.phased hundisturbed.current
  { phased := wellPhased_step h.phased i
    serial := serial_step h.serial hvalid
    charged := movedOnce_step (exclusive_charges platform escrowId calls) h.phased h.charged hvalid
      hundisturbed.charges
    refunded := movedOnce_step (exclusive_refunds platform escrowId calls) h.phased h.refunded
      hvalid hundisturbed.refunds }

theorem OverlapInvariant.serialised (h : OverlapInvariant platform escrowId calls doc w) :
    Serialised platform escrowId calls doc w where
  serial := h.serial
  chargesOnce := h.charged.unique
  refundsOnce := h.refunded.unique
  disputeStands i j a b c d hi hdispute hj := by
    obtain ⟨log, hreplays, -, hmem⟩ := h.serial
    exact (disputesApart_of_replays hreplays).apart i _ j _ ((hmem i _).2 ⟨a, b, hi, rfl⟩)
      ((hmem j _).2 ⟨c, d, hj, rfl⟩) hdispute

/-- The call is between its reading and its end. -/
def InFlight (w : EscrowWorld) (i : ℕ) : Prop :=
  (∃ asked, w.phase i = .asking asked) ∨ ∃ asked updated, w.phase i = .writing asked updated

/-- No other call is in flight, and what the call holds is the document. -/
structure OnItsOwn (platform : EscrowPlatform) (escrowId : String) (calls : ℕ → EscrowCall)
    (w : EscrowWorld) (i : ℕ) : Prop where
  others : ∀ j, j ≠ i → ¬ InFlight w j
  asking : ∀ asked, w.phase i = .asking asked →
    (overlapping platform escrowId calls i).read w.shared = .ok asked
  writing : ∀ asked updated, w.phase i = .writing asked updated →
    (overlapping platform escrowId calls i).read w.shared = .ok asked

theorem current_self (h : call.request platform escrowId doc = .ok request) :
    Current platform escrowId call doc doc where
  admitted := ⟨request, h⟩
  metadata := rfl
  rest := by
    cases doc
    simp [Escrow.update]

theorem OnItsOwn.undisturbed (h : OnItsOwn platform escrowId calls w i) :
    Undisturbed platform escrowId calls w i where
  current asked updated hphase := by
    obtain ⟨hcopy, hrequest⟩ := read_overlapping_eq_ok.1 (h.writing asked updated hphase)
    rw [hcopy]
    exact current_self hrequest
  charges asked hphase _ := by
    refine ⟨⟨asked, h.asking asked hphase⟩, fun j asked' updated' hj => ?_⟩
    by_cases hji : j = i
    · simp [hji, hphase] at hj
    · exact absurd (.inr ⟨asked', updated', hj⟩) (h.others j hji)
  refunds asked hphase _ := by
    refine ⟨⟨asked, h.asking asked hphase⟩, fun j asked' updated' hj => ?_⟩
    by_cases hji : j = i
    · simp [hji, hphase] at hj
    · exact absurd (.inr ⟨asked', updated', hj⟩) (h.others j hji)

theorem OnItsOwn.next (h : OnItsOwn platform escrowId calls w i) :
    OnItsOwn platform escrowId calls (step (overlapping platform escrowId calls) w i) i where
  others j hji hflight := by
    simp only [InFlight, phase_step_of_ne hji] at hflight
    exact h.others j hji hflight
  asking asked hasked := by
    rw [phase_step_self] at hasked
    cases hphase : w.phase i with
    | start =>
        cases hread : (overlapping platform escrowId calls i).read w.shared <;>
          simp [hphase, Call.next, hread, step] at hasked ⊢
        exact hasked
    | asking a =>
        cases hsettle : (overlapping platform escrowId calls i).settle a <;>
          simp [hphase, Call.next, hsettle] at hasked
    | writing a b => simp [hphase, Call.next] at hasked
    | done a b => simp [hphase, Call.next] at hasked
    | failed e => simp [hphase, Call.next] at hasked
  writing asked updated hwriting := by
    obtain ⟨a, b, -, -, hself⟩ | ⟨a, b, hphase, -, hshared, hself⟩ | ⟨-, hnot, -⟩ :=
      step_cases (overlapping platform escrowId calls) w i
    · simp [hself] at hwriting
    · obtain ⟨rfl, rfl⟩ := Phase.writing.inj (hself.symm.trans hwriting)
      rw [hshared]
      exact h.asking a hphase
    · exact absurd hwriting (hnot asked updated)

theorem OnItsOwn.eachStep (h : OnItsOwn platform escrowId calls w i) (n : ℕ) :
    Run.EachStep (step (overlapping platform escrowId calls))
      (Undisturbed platform escrowId calls) w (List.replicate n i) := by
  induction n generalizing w with
  | zero => trivial
  | succ n ih => exact ⟨h.undisturbed, ih h.next⟩

theorem OnItsOwn.run (h : OnItsOwn platform escrowId calls w i) (n : ℕ) :
    OnItsOwn platform escrowId calls
      (Run.run (step (overlapping platform escrowId calls)) w (List.replicate n i)) i := by
  induction n generalizing w with
  | zero => exact h
  | succ n ih => exact ih h.next

theorem remaining_of_inFlight (h : InFlight w i) :
    0 < (w.phase i).remaining := by
  obtain ⟨asked, h⟩ | ⟨asked, updated, h⟩ := h
  · simp [h, Phase.remaining]
  · simp [h, Phase.remaining]

/-- A call that takes its steps in a row is undisturbed, and it ends. -/
theorem eachStep_of_quiet (h : ∀ j, ¬ InFlight w j) (i : ℕ) :
    Run.EachStep (step (overlapping platform escrowId calls))
        (Undisturbed platform escrowId calls) w (List.replicate 3 i) ∧
      ∀ j, ¬ InFlight
        (Run.run (step (overlapping platform escrowId calls)) w (List.replicate 3 i)) j := by
  have hown : OnItsOwn platform escrowId calls w i :=
    ⟨fun j _ => h j, fun asked hi => absurd (.inl ⟨asked, hi⟩) (h i),
      fun asked updated hi => absurd (.inr ⟨asked, updated, hi⟩) (h i)⟩
  refine ⟨hown.eachStep 3, fun j hj => ?_⟩
  by_cases hji : j = i
  · subst hji
    have hleft := remaining_of_inFlight hj
    have hsteps := remaining_run_replicate (overlapping platform escrowId calls) w j 3
    have hmost : (w.phase j).remaining ≤ 3 := by
      cases w.phase j <;> simp [Phase.remaining]
    omega
  · exact (hown.run 3).others j hji hj

/-- Operations one after another are undisturbed. -/
theorem undisturbed_one_after_another (platform : EscrowPlatform) (escrowId : String)
    (calls : ℕ → EscrowCall) (doc : Escrow) (order : List ℕ) :
    Run.EachStep (step (overlapping platform escrowId calls))
      (Undisturbed platform escrowId calls) (World.initial doc)
      (order.flatMap (List.replicate 3)) := by
  have hall : ∀ w : EscrowWorld, (∀ j, ¬ InFlight w j) →
      Run.EachStep (step (overlapping platform escrowId calls))
        (Undisturbed platform escrowId calls) w (order.flatMap (List.replicate 3)) := by
    induction order with
    | nil => exact fun _ _ => trivial
    | cons i order ih =>
        intro w hquiet
        obtain ⟨hsteps, hquiet'⟩ := eachStep_of_quiet hquiet i
        exact Run.eachStep_append.2 ⟨hsteps, ih _ hquiet'⟩
  refine hall (World.initial doc) fun j hj => ?_
  obtain ⟨asked, h⟩ | ⟨asked, updated, h⟩ := hj <;> simp [World.initial] at h

/-! ### A sample -/

/-- The operations of the sample, the first of which pays by another transaction. -/
def sampleCalls (op : ℕ → EscrowOp) (i : ℕ) : EscrowCall :=
  sampleCall (op i) ⟨.success, some (if i = 0 then "tx-1" else "tx-2")⟩

def sampleEscrow : Escrow := createdEscrow "u-1" 1767225599000 sampleParams

/-- The sample's escrow locked. -/
def lockedSample : Escrow :=
  { sampleEscrow with
    status := .locked
    transactionId := some "tx-1"
    integrityHash := "55883e6e4e71842cd4da0b0739970190b00e7b910540293012f920b281b7d82e"
    lockedAt := some 1767225601000 }

/-- The sample's escrow and operations after the steps of an order. -/
def overlapped (op : ℕ → EscrowOp) (doc : Escrow) (order : List ℕ) : EscrowWorld :=
  Run.run (step (overlapping developmentPlatform "escrow_u-1" (sampleCalls op)))
    (World.initial doc) order

end UniverEscrow.Backend
