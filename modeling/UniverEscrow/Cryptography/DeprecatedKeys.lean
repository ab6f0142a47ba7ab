import UniverEscrow.Cryptography.EpochKeys

/-!
# Keys of deprecated epochs

Spending a transaction takes it out of the epoch the index names.  A transaction registered again
in a later epoch is still kept by the earlier one, which nothing can take it out of any more.
-/

namespace UniverEscrow.Cryptography

open UniverEscrow.Js UniverEscrow.Merkle UniverEscrow.Enclave UniverEscrow.Lib

namespace EnclaveKeyRotator

/-- A past epoch to which no transaction is bound has no keys. -/
def UnboundDropped (rotator : EnclaveKeyRotator) : Prop :=
  ∀ epoch < rotator.getCurrentEpoch, (∀ txId, rotator.getEpochForTxId txId ≠ some epoch) →
    rotator.getSigningPublicKeysForEpoch epoch = none

/-- Spending a registered transaction leaves no keys of unbound epochs. -/
def DropsAtSpend (rotator : EnclaveKeyRotator) : Operation → Prop
  | .markTxSpent txId =>
      rotator.getEpochForTxId txId ≠ none → UnboundDropped (rotator.markTxSpent txId)
  | _ => True

/-- A call registers no transaction that is bound to an earlier epoch. -/
def BindsFresh (rotator : EnclaveKeyRotator) : Operation → Prop
  | .registerUnspentTimeLockedTx tx => ∀ txId, registeredTxId tx = some txId →
      ∀ epoch, rotator.getEpochForTxId txId = some epoch → ¬ epoch < rotator.getCurrentEpoch
  | _ => True

/-- Epochs are kept only for the transactions bound to them. -/
def KeptForBound (rotator : EnclaveKeyRotator) : Prop :=
  ∀ epoch txId, rotator.KeptFor epoch txId → rotator.epochIndexByTxId.get? txId = some epoch

/-- A past epoch is kept for a transaction that is not bound to it. -/
def Stale (epoch : ℕ) (txId : String) (rotator : EnclaveKeyRotator) : Prop :=
  epoch < rotator.getCurrentEpoch ∧ rotator.KeptFor epoch txId ∧
    rotator.epochIndexByTxId.get? txId ≠ some epoch

variable {sha256 : Sha256} {rotator : EnclaveKeyRotator}

theorem getCurrentEpoch_register (tx : JsValue) :
    (rotator.registerUnspentTimeLockedTx tx).getCurrentEpoch = rotator.getCurrentEpoch := by
  unfold registerUnspentTimeLockedTx
  cases registeredTxId tx <;> rfl

theorem WellFormed.le_getCurrentEpoch_step (hwf : WellFormed sha256 rotator)
    (operation : Operation) :
    rotator.getCurrentEpoch ≤ (rotator.step sha256 operation).getCurrentEpoch := by
  cases operation with
  | registerUnspentTimeLockedTx tx => exact (getCurrentEpoch_register tx).ge
  | markTxSpent txId => exact (getCurrentEpoch_markTxSpent txId).ge
  | triggerEpochRotation bridge =>
      cases hready : bridge.isEnclaveReady with
      | false => rw [step_rotation_of_not_ready hready]
      | true =>
          rw [step_rotation_of_ready hready]
          exact le_nextEpoch hwf.bounded

theorem keptFor_step_rotation (bridge : EnclaveBridge) (epoch : ℕ) (txId : String) :
    (rotator.step sha256 (.triggerEpochRotation bridge)).KeptFor epoch txId ↔
      rotator.KeptFor epoch txId := by
  cases hready : bridge.isEnclaveReady with
  | false => rw [step_rotation_of_not_ready hready]
  | true => exact keptFor_rotation hready epoch txId

/-! ## Where every registration is fresh -/

theorem keptForBound_getInstance (sha256 : Sha256) : KeptForBound (getInstance sha256) := by
  rintro epoch txId ⟨st, hst, -, hmem⟩
  rw [List.mem_singleton.1 hst] at hmem
  exact absurd hmem (Finset.notMem_empty txId)

theorem KeptForBound.step (hbound : KeptForBound rotator) (hwf : WellFormed sha256 rotator)
    {operation : Operation} (hfresh : rotator.BindsFresh operation) :
    KeptForBound (rotator.step sha256 operation) := by
  cases operation with
  | registerUnspentTimeLockedTx tx =>
      change KeptForBound (rotator.registerUnspentTimeLockedTx tx)
      cases htx : registeredTxId tx with
      | none => rwa [registerUnspentTimeLockedTx_of_none htx]
      | some txId =>
          intro epoch txId' hkept
          rw [index_register htx]
          rcases (keptFor_register htx epoch txId').1 hkept with hold | ⟨rfl, rfl⟩
          · have hindex := hbound epoch txId' hold
            split_ifs with heq
            · subst heq
              have hle := (hwf.indexed txId' epoch hindex).2.1
              have hnot := hfresh txId' htx epoch ((hwf.getEpochForTxId_eq txId').trans hindex)
              rw [le_antisymm hle (not_lt.1 hnot)]
            · exact hindex
          · rw [if_pos rfl]
  | markTxSpent txId =>
      change KeptForBound (rotator.markTxSpent txId)
      cases hindex : rotator.epochIndexByTxId.get? txId with
      | none => rwa [markTxSpent_of_none hindex]
      | some epoch =>
          intro epoch' txId' hkept
          obtain ⟨hold, hother⟩ :=
            (keptFor_markTxSpent hindex (hwf.indexed txId epoch hindex).1 epoch' txId').1 hkept
          have hindex' := hbound epoch' txId' hold
          rw [hwf.index_markTxSpent, if_neg]
          · exact hindex'
          · rintro rfl
            rw [hindex] at hindex'
            exact hother ⟨(Option.some.inj hindex').symm, rfl⟩
  | triggerEpochRotation bridge =>
      intro epoch txId hkept
      rw [index_rotation]
      exact hbound epoch txId ((keptFor_step_rotation bridge epoch txId).1 hkept)

theorem KeptForBound.unboundDropped (hbound : KeptForBound rotator)
    (hwf : WellFormed sha256 rotator) : UnboundDropped rotator := by
  intro epoch hpast hunbound
  cases hkeys : rotator.getSigningPublicKeysForEpoch epoch with
  | none => rfl
  | some keys =>
      rcases (hwf.getSigningPublicKeysForEpoch_eq_some_iff.1 hkeys).1 with hcurrent | ⟨txId, hkept⟩
      · omega
      · exact absurd ((hwf.getEpochForTxId_eq txId).trans (hbound epoch txId hkept))
          (hunbound txId)

theorem dropsAtSpend_of_bindsFresh {operations : List Operation}
    (hwf : WellFormed sha256 rotator) (hbound : KeptForBound rotator)
    (hfresh : Run.EachStep (EnclaveKeyRotator.step sha256) BindsFresh rotator operations) :
    Run.EachStep (EnclaveKeyRotator.step sha256) DropsAtSpend rotator operations := by
  have hstep : ∀ (s : EnclaveKeyRotator) (operation : Operation),
      WellFormed sha256 s ∧ KeptForBound s → s.BindsFresh operation →
        (WellFormed sha256 (s.step sha256 operation) ∧ KeptForBound (s.step sha256 operation)) ∧
          s.DropsAtSpend operation := by
    rintro s operation ⟨hwf, hbound⟩ hfresh
    have hnext := hbound.step hwf hfresh
    refine ⟨⟨hwf.step operation, hnext⟩, ?_⟩
    cases operation with
    | markTxSpent txId => exact fun _ => hnext.unboundDropped (hwf.step (.markTxSpent txId))
    | _ => trivial
  exact Run.eachStep_of_step hstep ⟨hwf, hbound⟩ hfresh

/-! ## Where one is not -/

theorem Stale.step {epoch : ℕ} {txId : String} (hstale : Stale epoch txId rotator)
    (hwf : WellFormed sha256 rotator) (operation : Operation) :
    Stale epoch txId (rotator.step sha256 operation) := by
  obtain ⟨hpast, hkept, hindex⟩ := hstale
  refine ⟨hpast.trans_le (hwf.le_getCurrentEpoch_step operation), ?_⟩
  cases operation with
  | registerUnspentTimeLockedTx tx =>
      change (rotator.registerUnspentTimeLockedTx tx).KeptFor epoch txId ∧ _
      cases htx : registeredTxId tx with
      | none =>
          rw [EnclaveKeyRotator.step, registerUnspentTimeLockedTx_of_none htx]
          exact ⟨hkept, hindex⟩
      | some txId' =>
          refine ⟨(keptFor_register htx epoch txId).2 (.inl hkept), ?_⟩
          rw [EnclaveKeyRotator.step, index_register htx]
          split_ifs
          · intro h
            have := Option.some.inj h
            omega
          · exact hindex
  | markTxSpent txId' =>
      change (rotator.markTxSpent txId').KeptFor epoch txId ∧ _
      constructor
      · cases hindex' : rotator.epochIndexByTxId.get? txId' with
        | none => rwa [markTxSpent_of_none hindex']
        | some epoch' =>
            refine (keptFor_markTxSpent hindex' (hwf.indexed _ _ hindex').1 epoch txId).2
              ⟨hkept, ?_⟩
            rintro ⟨rfl, rfl⟩
            exact hindex hindex'
      · rw [EnclaveKeyRotator.step, hwf.index_markTxSpent]
        split_ifs
        · exact (Option.some_ne_none epoch).symm
        · exact hindex
  | triggerEpochRotation bridge =>
      rw [index_rotation]
      exact ⟨(keptFor_step_rotation bridge epoch txId).2 hkept, hindex⟩

/-- Registering a transaction bound to an earlier epoch strands it there. -/
theorem stale_of_not_bindsFresh {operation : Operation} (hwf : WellFormed sha256 rotator)
    (hnot : ¬ rotator.BindsFresh operation) :
    ∃ epoch txId, Stale epoch txId (rotator.step sha256 operation) ∧
      (rotator.step sha256 operation).epochIndexByTxId.get? txId ≠ none := by
  cases operation with
  | registerUnspentTimeLockedTx tx =>
      simp only [BindsFresh, not_forall, not_not] at hnot
      obtain ⟨txId, htx, epoch, hepoch, hpast⟩ := hnot
      rw [hwf.getEpochForTxId_eq] at hepoch
      have hindex : (rotator.registerUnspentTimeLockedTx tx).epochIndexByTxId.get? txId =
          some rotator.getCurrentEpoch := by
        rw [index_register htx, if_pos rfl]
      refine ⟨epoch, txId, ⟨?_, ?_, ?_⟩, ?_⟩
      · exact hpast.trans_eq (getCurrentEpoch_register tx).symm
      · exact (keptFor_register htx epoch txId).2 (.inl (hwf.indexed txId epoch hepoch).2.2)
      · rw [EnclaveKeyRotator.step, hindex]
        intro h
        have := Option.some.inj h
        omega
      · rw [EnclaveKeyRotator.step, hindex]
        exact Option.some_ne_none _
  | markTxSpent txId => exact absurd trivial hnot
  | triggerEpochRotation bridge => exact absurd trivial hnot

theorem Stale.not_unboundDropped {epoch : ℕ} {txId : String} (hstale : Stale epoch txId rotator)
    (hwf : WellFormed sha256 rotator)
    (hunbound : ∀ txId, rotator.epochIndexByTxId.get? txId = none) : ¬ UnboundDropped rotator := by
  intro hdropped
  have hnone : rotator.getSigningPublicKeysForEpoch epoch = none := by
    refine hdropped epoch hstale.1 fun txId' => ?_
    rw [hwf.getEpochForTxId_eq, hunbound]
    exact (Option.some_ne_none epoch).symm
  have hsome := hwf.getSigningPublicKeysForEpoch_eq_some_iff.2
    ⟨.inr ⟨txId, hstale.2.1⟩, rfl⟩
  rw [hnone] at hsome
  cases hsome

/-- Only spending unbinds a transaction. -/
theorem WellFormed.eq_markTxSpent_of_unbinds (hwf : WellFormed sha256 rotator)
    {operation : Operation} {txId : String}
    (hbound : rotator.epochIndexByTxId.get? txId ≠ none)
    (hunbound : (rotator.step sha256 operation).epochIndexByTxId.get? txId = none) :
    operation = .markTxSpent txId := by
  have htouched : operation.txId = some txId := by
    by_contra hother
    rw [hwf.index_step_of_other hother] at hunbound
    exact hbound hunbound
  cases operation with
  | registerUnspentTimeLockedTx tx =>
      rw [EnclaveKeyRotator.step, index_register htouched, if_pos rfl] at hunbound
      cases hunbound
  | markTxSpent txId' => rw [Option.some.inj htouched]
  | triggerEpochRotation bridge => cases htouched

/-- A run from a stranded transaction that ends with nothing bound leaves keys behind at the spend
that unbinds the last transaction. -/
theorem Stale.not_dropsAtSpend {operations : List Operation} {epoch : ℕ} {stranded txId : String}
    (hstale : Stale epoch stranded rotator) (hwf : WellFormed sha256 rotator)
    (hbound : rotator.epochIndexByTxId.get? txId ≠ none)
    (hunbound : ∀ txId, (Run.run (EnclaveKeyRotator.step sha256) rotator
      operations).epochIndexByTxId.get? txId = none) :
    ¬ Run.EachStep (EnclaveKeyRotator.step sha256) DropsAtSpend rotator operations := by
  induction operations generalizing rotator txId with
  | nil => exact absurd (hunbound txId) hbound
  | cons operation operations ih =>
      rintro ⟨hdrops, htail⟩
      have hstale' := hstale.step hwf operation
      by_cases hsome : ∃ txId,
          (rotator.step sha256 operation).epochIndexByTxId.get? txId ≠ none
      · obtain ⟨txId', hbound'⟩ := hsome
        exact ih hstale' (hwf.step operation) hbound' hunbound htail
      · simp only [not_exists, not_not] at hsome
        obtain rfl := hwf.eq_markTxSpent_of_unbinds hbound (hsome txId)
        refine hstale'.not_unboundDropped (hwf.step _) hsome (hdrops ?_)
        rwa [hwf.getEpochForTxId_eq]

theorem WellFormed.index_run_markTxSpent (hwf : WellFormed sha256 rotator) (spent : List String)
    (txId : String) :
    (Run.run (EnclaveKeyRotator.step sha256) rotator
        (spent.map .markTxSpent)).epochIndexByTxId.get? txId =
      if txId ∈ spent then none else rotator.epochIndexByTxId.get? txId := by
  induction spent generalizing rotator with
  | nil => simp
  | cons txId' spent ih =>
      rw [List.map_cons, Run.run_cons, ih (hwf.step _), EnclaveKeyRotator.step,
        hwf.index_markTxSpent]
      by_cases htail : txId ∈ spent
      · simp [htail]
      · by_cases heq : txId = txId' <;> simp [htail, heq]

/-- Spending every bound transaction leaves none bound. -/
theorem WellFormed.index_run_spendAll (hwf : WellFormed sha256 rotator) (txId : String) :
    (Run.run (EnclaveKeyRotator.step sha256) rotator
      (rotator.epochIndexByTxId.keys.map .markTxSpent)).epochIndexByTxId.get? txId = none := by
  rw [hwf.index_run_markTxSpent]
  split_ifs with hmem
  · rfl
  · cases hindex : rotator.epochIndexByTxId.get? txId with
    | none => rfl
    | some epoch =>
        exact absurd (List.mem_map.2 ⟨_, OrderedMap.mem_entries_iff.2 hindex, rfl⟩) hmem

theorem bindsFresh_of_dropsAtSpend {operations : List Operation}
    (hwf : WellFormed sha256 rotator)
    (hdrops : ∀ spent : List String, Run.EachStep (EnclaveKeyRotator.step sha256) DropsAtSpend
      rotator (operations ++ spent.map .markTxSpent)) :
    Run.EachStep (EnclaveKeyRotator.step sha256) BindsFresh rotator operations := by
  induction operations generalizing rotator with
  | nil => trivial
  | cons operation operations ih =>
      refine ⟨?_, ih (hwf.step operation) fun spent => (hdrops spent).2⟩
      by_contra hnot
      obtain ⟨epoch, txId, hstale, hbound⟩ := stale_of_not_bindsFresh hwf hnot
      let last := Run.run (EnclaveKeyRotator.step sha256) (rotator.step sha256 operation) operations
      have hlast : WellFormed sha256 last :=
        Run.run_of_step (fun _ o h => h.step o) (hwf.step operation)
      refine hstale.not_dropsAtSpend (hwf.step operation) hbound (fun txId' => ?_)
        (hdrops last.epochIndexByTxId.keys).2
      refine (congrArg (fun s => s.epochIndexByTxId.get? txId')
        (Run.run_append (EnclaveKeyRotator.step sha256) _ operations _)).trans ?_
      exact hlast.index_run_spendAll txId'

/-- Whatever is spent after a history, unbound epochs lose their keys at every spend, exactly when
no call of the history registered a transaction bound to an earlier epoch. -/
theorem deprecated_keys_dropped_iff (sha256 : Sha256) (operations : List Operation) :
    (∀ spent : List String, Run.EachStep (step sha256) DropsAtSpend (getInstance sha256)
        (operations ++ spent.map .markTxSpent)) ↔
      Run.EachStep (step sha256) BindsFresh (getInstance sha256) operations := by
  constructor
  · exact bindsFresh_of_dropsAtSpend (wellFormed_getInstance sha256)
  · intro hfresh spent
    refine dropsAtSpend_of_bindsFresh (wellFormed_getInstance sha256)
      (keptForBound_getInstance sha256) (Run.eachStep_append.2 ⟨hfresh, ?_⟩)
    generalize Run.run (step sha256) (getInstance sha256) operations = rotator
    induction spent generalizing rotator with
    | nil => trivial
    | cons txId spent ih => exact ⟨trivial, ih _⟩

/-! ### A sample -/

/-- A lock is registered again after a rotation and then spent. -/
def registeredTwice : List Operation :=
  [.registerUnspentTimeLockedTx (sampleTx "lock"), .triggerEpochRotation readyBridge,
    .registerUnspentTimeLockedTx (sampleTx "lock"), .markTxSpent "lock"]

/-- The first epoch keeps its keys though nothing is bound to it. -/
theorem keys_of_unbound_epoch_kept :
    ¬ Run.EachStep (step epochSha256) DropsAtSpend (getInstance epochSha256) registeredTwice := by
  rintro ⟨-, -, -, hdrops, -⟩
  have hentries : (Run.run (step epochSha256) (getInstance epochSha256)
      registeredTwice).epochIndexByTxId.entries = [] := by
    decide +kernel
  have hkeys : (Run.run (step epochSha256) (getInstance epochSha256)
      registeredTwice).getSigningPublicKeysForEpoch 1 ≠ none := by
    decide +kernel
  refine hkeys (hdrops (by decide +kernel) 1 (by decide +kernel) fun txId => ?_)
  change Option.filter _ ((Run.run (step epochSha256) (getInstance epochSha256)
    registeredTwice).epochIndexByTxId.get? txId) ≠ _
  rw [OrderedMap.get?, hentries]
  exact (Option.some_ne_none 1).symm

end EnclaveKeyRotator

end UniverEscrow.Cryptography
