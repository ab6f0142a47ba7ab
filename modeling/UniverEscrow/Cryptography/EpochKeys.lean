import UniverEscrow.Cryptography.EnclaveKeyRotator
import UniverEscrow.Lib.Run

/-!
# Keys for unspent transactions

Seen from outside, a rotator is the current epoch, the index of the unspent transactions and the
relation between epochs and the transactions they are kept for.  Each operation changes these in
one way, and an epoch answers for its keys exactly while it is current or kept for something.
-/

namespace UniverEscrow.Cryptography

open UniverEscrow.Js UniverEscrow.Merkle UniverEscrow.Enclave UniverEscrow.Lib

namespace EnclaveKeyRotator

/-- The epochs that still have keys. -/
def retained (rotator : EnclaveKeyRotator) : List EpochState :=
  rotator.epochState :: rotator.deprecatedEpochs

/-- The epoch is kept for the transaction. -/
def KeptFor (rotator : EnclaveKeyRotator) (epoch : ℕ) (txId : String) : Prop :=
  ∃ st ∈ rotator.retained, st.epoch = epoch ∧ txId ∈ st.referencedUnspentTxIds

structure WellFormed (sha256 : Sha256) (rotator : EnclaveKeyRotator) : Prop where
  keys : ∀ st ∈ rotator.retained, st.signingKeys = epochKeys sha256 st.epoch
  referenced : ∀ st ∈ rotator.deprecatedEpochs, st.referencedUnspentTxIds ≠ ∅
  positive : 0 < rotator.getCurrentEpoch
  bounded : rotator.getCurrentEpoch ≤ 2 ^ 53
  indexed : ∀ txId epoch, rotator.epochIndexByTxId.get? txId = some epoch →
    0 < epoch ∧ epoch ≤ rotator.getCurrentEpoch ∧ rotator.KeptFor epoch txId

variable {sha256 : Sha256} {rotator : EnclaveKeyRotator}

/-! ## What an operation changes -/

theorem registerUnspentTimeLockedTx_of_none {tx : JsValue} (h : registeredTxId tx = none) :
    rotator.registerUnspentTimeLockedTx tx = rotator := by
  rw [registerUnspentTimeLockedTx, h]

theorem registerUnspentTimeLockedTx_of_some {tx : JsValue} {txId : String}
    (h : registeredTxId tx = some txId) :
    rotator.registerUnspentTimeLockedTx tx =
      { rotator with
        epochIndexByTxId := rotator.epochIndexByTxId.set txId rotator.getCurrentEpoch
        epochState := { rotator.epochState with
          referencedUnspentTxIds := insert txId rotator.epochState.referencedUnspentTxIds } } := by
  rw [registerUnspentTimeLockedTx, h]

theorem keptFor_register {tx : JsValue} {txId : String} (h : registeredTxId tx = some txId)
    (epoch : ℕ) (txId' : String) :
    (rotator.registerUnspentTimeLockedTx tx).KeptFor epoch txId' ↔
      rotator.KeptFor epoch txId' ∨ epoch = rotator.getCurrentEpoch ∧ txId' = txId := by
  rw [registerUnspentTimeLockedTx_of_some h]
  simp only [KeptFor, retained, List.mem_cons, exists_eq_or_imp, Finset.mem_insert,
    getCurrentEpoch]
  constructor
  · rintro (⟨hepoch, rfl | hmem⟩ | hdeprecated)
    · exact .inr ⟨hepoch.symm, rfl⟩
    · exact .inl (.inl ⟨hepoch, hmem⟩)
    · exact .inl (.inr hdeprecated)
  · rintro ((⟨hepoch, hmem⟩ | hdeprecated) | ⟨hepoch, rfl⟩)
    · exact .inl ⟨hepoch, .inr hmem⟩
    · exact .inr hdeprecated
    · exact .inl ⟨hepoch.symm, .inl rfl⟩

theorem markTxSpent_of_none {txId : String} (h : rotator.epochIndexByTxId.get? txId = none) :
    rotator.markTxSpent txId = rotator := by
  rw [markTxSpent, h]

theorem markTxSpent_of_some {txId : String} {epoch : ℕ}
    (h : rotator.epochIndexByTxId.get? txId = some epoch) (hpos : 0 < epoch) :
    rotator.markTxSpent txId =
      { epochState := rotator.epochState.forget epoch txId
        epochIndexByTxId := rotator.epochIndexByTxId.erase txId
        deprecatedEpochs := (rotator.deprecatedEpochs.map (EpochState.forget epoch txId)).filter
          fun st => st.referencedUnspentTxIds ≠ ∅ } := by
  have hne : ¬ epoch = 0 := by omega
  rw [markTxSpent, h]
  exact if_neg hne

@[simp] theorem epoch_forget (epoch : ℕ) (txId : String) (st : EpochState) :
    (st.forget epoch txId).epoch = st.epoch := by
  unfold EpochState.forget
  split_ifs <;> rfl

@[simp] theorem signingKeys_forget (epoch : ℕ) (txId : String) (st : EpochState) :
    (st.forget epoch txId).signingKeys = st.signingKeys := by
  unfold EpochState.forget
  split_ifs <;> rfl

@[simp] theorem getCurrentEpoch_markTxSpent (txId : String) :
    (rotator.markTxSpent txId).getCurrentEpoch = rotator.getCurrentEpoch := by
  unfold markTxSpent
  split
  · rfl
  · split_ifs
    · rfl
    · exact epoch_forget ..

theorem mem_referenced_forget {epoch : ℕ} {txId txId' : String} {st : EpochState} :
    txId' ∈ (st.forget epoch txId).referencedUnspentTxIds ↔
      txId' ∈ st.referencedUnspentTxIds ∧ ¬ (st.epoch = epoch ∧ txId' = txId) := by
  unfold EpochState.forget
  split_ifs with h
  · rw [Finset.mem_erase]
    tauto
  · tauto

/-- What is left of the retained epochs, those without references apart. -/
theorem mem_retained_markTxSpent {txId : String} {epoch : ℕ}
    (h : rotator.epochIndexByTxId.get? txId = some epoch) (hpos : 0 < epoch) {st : EpochState}
    (hst : st ∈ (rotator.markTxSpent txId).retained) :
    ∃ st' ∈ rotator.retained, st = st'.forget epoch txId := by
  rw [markTxSpent_of_some h hpos, retained, List.mem_cons] at hst
  rcases hst with rfl | hst
  · exact ⟨_, List.mem_cons_self, rfl⟩
  · obtain ⟨st', hst', rfl⟩ := List.mem_map.1 (List.mem_filter.1 hst).1
    exact ⟨st', List.mem_cons_of_mem _ hst', rfl⟩

theorem keptFor_markTxSpent {txId : String} {epoch : ℕ}
    (h : rotator.epochIndexByTxId.get? txId = some epoch) (hpos : 0 < epoch) (epoch' : ℕ)
    (txId' : String) :
    (rotator.markTxSpent txId).KeptFor epoch' txId' ↔
      rotator.KeptFor epoch' txId' ∧ ¬ (epoch' = epoch ∧ txId' = txId) := by
  constructor
  · rintro ⟨st, hst, rfl, hmem⟩
    obtain ⟨st', hst', rfl⟩ := mem_retained_markTxSpent h hpos hst
    rw [mem_referenced_forget] at hmem
    exact ⟨⟨st', hst', (epoch_forget ..).symm, hmem.1⟩, by simpa using hmem.2⟩
  · rintro ⟨⟨st, hst, rfl, hmem⟩, hother⟩
    have hmem' : txId' ∈ (st.forget epoch txId).referencedUnspentTxIds :=
      mem_referenced_forget.2 ⟨hmem, hother⟩
    refine ⟨st.forget epoch txId, ?_, epoch_forget .., hmem'⟩
    rw [markTxSpent_of_some h hpos, retained, List.mem_cons]
    rcases List.mem_cons.1 hst with rfl | hst
    · exact .inl rfl
    · refine .inr (List.mem_filter.2 ⟨List.mem_map_of_mem hst, ?_⟩)
      exact decide_eq_true (Finset.ne_empty_of_mem hmem')

theorem step_rotation_of_not_ready {bridge : EnclaveBridge} (h : bridge.isEnclaveReady = false) :
    rotator.step sha256 (.triggerEpochRotation bridge) = rotator := by
  rw [step, triggerEpochRotation, h]
  rfl

theorem step_rotation_of_ready {bridge : EnclaveBridge} (h : bridge.isEnclaveReady = true) :
    rotator.step sha256 (.triggerEpochRotation bridge) =
      { rotator with
        epochState := newEpochState sha256 (nextEpoch rotator.getCurrentEpoch)
        deprecatedEpochs := if rotator.epochState.referencedUnspentTxIds = ∅
          then rotator.deprecatedEpochs
          else rotator.deprecatedEpochs ++ [{ rotator.epochState with deprecated := true }] } := by
  rw [step, triggerEpochRotation, h]
  by_cases hempty : rotator.epochState.referencedUnspentTxIds = ∅
  · simp [hempty, getCurrentEpoch]
  · simp [hempty, getCurrentEpoch, Finset.card_pos, Finset.nonempty_iff_ne_empty]

theorem keptFor_rotation {bridge : EnclaveBridge} (h : bridge.isEnclaveReady = true) (epoch : ℕ)
    (txId : String) :
    (rotator.step sha256 (.triggerEpochRotation bridge)).KeptFor epoch txId ↔
      rotator.KeptFor epoch txId := by
  rw [step_rotation_of_ready h]
  by_cases hempty : rotator.epochState.referencedUnspentTxIds = ∅
  · simp [KeptFor, retained, newEpochState, hempty]
  · simp only [KeptFor, retained, newEpochState, if_neg hempty, List.mem_cons, List.mem_append,
      List.not_mem_nil, or_false, or_and_right, exists_or, exists_eq_left, Finset.notMem_empty,
      and_false, false_or]
    exact or_comm

/-! ## The invariant -/

theorem wellFormed_getInstance (sha256 : Sha256) : WellFormed sha256 (getInstance sha256) where
  keys := by
    intro st hst
    rw [List.mem_singleton.1 hst]
    rfl
  referenced := fun st hst => absurd hst List.not_mem_nil
  positive := Nat.one_pos
  bounded := Nat.one_le_two_pow
  indexed := by
    intro txId epoch h
    cases h

theorem WellFormed.register (hwf : WellFormed sha256 rotator) (tx : JsValue) :
    WellFormed sha256 (rotator.registerUnspentTimeLockedTx tx) := by
  cases htx : registeredTxId tx with
  | none => rwa [registerUnspentTimeLockedTx_of_none htx]
  | some txId =>
      have hkept : ∀ epoch txId', (rotator.registerUnspentTimeLockedTx tx).KeptFor epoch txId' ↔
          rotator.KeptFor epoch txId' ∨ epoch = rotator.getCurrentEpoch ∧ txId' = txId :=
        keptFor_register htx
      rw [registerUnspentTimeLockedTx_of_some htx] at hkept ⊢
      constructor
      · intro st hst
        rcases List.mem_cons.1 hst with rfl | hst
        · exact hwf.keys rotator.epochState List.mem_cons_self
        · exact hwf.keys st (List.mem_cons_of_mem _ hst)
      · exact hwf.referenced
      · exact hwf.positive
      · exact hwf.bounded
      · intro txId' epoch hindex
        rw [OrderedMap.get?_set] at hindex
        split_ifs at hindex with heq
        · obtain rfl := Option.some.inj hindex
          exact ⟨hwf.positive, le_refl _, (hkept _ _).2 (.inr ⟨rfl, heq⟩)⟩
        · obtain ⟨hpos, hle, hold⟩ := hwf.indexed txId' epoch hindex
          exact ⟨hpos, hle, (hkept _ _).2 (.inl hold)⟩

theorem WellFormed.markTxSpent (hwf : WellFormed sha256 rotator) (txId : String) :
    WellFormed sha256 (rotator.markTxSpent txId) := by
  cases hindex : rotator.epochIndexByTxId.get? txId with
  | none => rwa [markTxSpent_of_none hindex]
  | some epoch =>
      have hpos : 0 < epoch := (hwf.indexed txId epoch hindex).1
      have hkept := keptFor_markTxSpent hindex hpos
      have hretained : ∀ st ∈ (rotator.markTxSpent txId).retained,
          st.signingKeys = epochKeys sha256 st.epoch := by
        intro st hst
        obtain ⟨st', hst', rfl⟩ := mem_retained_markTxSpent hindex hpos hst
        rw [signingKeys_forget, epoch_forget]
        exact hwf.keys st' hst'
      have hcurrent : (rotator.markTxSpent txId).getCurrentEpoch = rotator.getCurrentEpoch :=
        getCurrentEpoch_markTxSpent txId
      rw [markTxSpent_of_some hindex hpos] at hkept hretained hcurrent ⊢
      constructor
      · exact hretained
      · intro st hst
        exact of_decide_eq_true (List.mem_filter.1 hst).2
      · exact hwf.positive.trans_eq hcurrent.symm
      · exact hcurrent.trans_le hwf.bounded
      · intro txId' epoch' hindex'
        rw [OrderedMap.get?_erase] at hindex'
        split_ifs at hindex' with heq
        obtain ⟨hpos', hle, hold⟩ := hwf.indexed txId' epoch' hindex'
        exact ⟨hpos', hle.trans_eq hcurrent.symm, (hkept _ _).2 ⟨hold, fun h => heq h.2⟩⟩

theorem le_nextEpoch {epoch : ℕ} (h : epoch ≤ 2 ^ 53) : epoch ≤ nextEpoch epoch := by
  rw [nextEpoch]
  omega

theorem WellFormed.rotation (hwf : WellFormed sha256 rotator) (bridge : EnclaveBridge) :
    WellFormed sha256 (rotator.step sha256 (.triggerEpochRotation bridge)) := by
  cases hready : bridge.isEnclaveReady with
  | false => rwa [step_rotation_of_not_ready hready]
  | true =>
      have hkept : ∀ epoch txId,
          (rotator.step sha256 (.triggerEpochRotation bridge)).KeptFor epoch txId ↔
            rotator.KeptFor epoch txId := keptFor_rotation hready
      rw [step_rotation_of_ready hready] at hkept ⊢
      have hnext : rotator.getCurrentEpoch ≤ nextEpoch rotator.getCurrentEpoch :=
        le_nextEpoch hwf.bounded
      -- the epoch left behind joins the deprecated ones only with something to be kept for
      have hdeprecated : ∀ st ∈ (if rotator.epochState.referencedUnspentTxIds = ∅
          then rotator.deprecatedEpochs
          else rotator.deprecatedEpochs ++ [{ rotator.epochState with deprecated := true }]),
          st.signingKeys = epochKeys sha256 st.epoch ∧ st.referencedUnspentTxIds ≠ ∅ := by
        have hold : ∀ st ∈ rotator.deprecatedEpochs,
            st.signingKeys = epochKeys sha256 st.epoch ∧ st.referencedUnspentTxIds ≠ ∅ :=
          fun st hst => ⟨hwf.keys st (List.mem_cons_of_mem _ hst), hwf.referenced st hst⟩
        intro st hst
        split_ifs at hst with hempty
        · exact hold st hst
        · rcases List.mem_append.1 hst with hst | hst
          · exact hold st hst
          · rw [List.mem_singleton.1 hst]
            exact ⟨hwf.keys rotator.epochState List.mem_cons_self, hempty⟩
      constructor
      · intro st hst
        rcases List.mem_cons.1 hst with rfl | hst
        · rfl
        · exact (hdeprecated st hst).1
      · exact fun st hst => (hdeprecated st hst).2
      · exact hwf.positive.trans_le hnext
      · exact min_le_right _ _
      · intro txId epoch hindex
        obtain ⟨hpos, hle, hold⟩ := hwf.indexed txId epoch hindex
        exact ⟨hpos, hle.trans hnext, (hkept _ _).2 hold⟩

theorem WellFormed.step (hwf : WellFormed sha256 rotator) (operation : Operation) :
    WellFormed sha256 (rotator.step sha256 operation) := by
  cases operation with
  | registerUnspentTimeLockedTx tx => exact hwf.register tx
  | markTxSpent txId => exact hwf.markTxSpent txId
  | triggerEpochRotation bridge => exact hwf.rotation bridge

theorem wellFormed_run (sha256 : Sha256) (operations : List Operation) :
    WellFormed sha256 (Run.run (step sha256) (getInstance sha256) operations) :=
  Run.run_of_step (fun _ operation hwf => hwf.step operation) (wellFormed_getInstance sha256)

/-- An epoch has keys exactly while it is current or kept for something, and then its own. -/
theorem WellFormed.getSigningPublicKeysForEpoch_eq_some_iff (hwf : WellFormed sha256 rotator)
    {epoch : ℕ} {keys : EpochPublicKeySet} :
    rotator.getSigningPublicKeysForEpoch epoch = some keys ↔
      (epoch = rotator.getCurrentEpoch ∨ ∃ txId, rotator.KeptFor epoch txId) ∧
        keys = epochKeys sha256 epoch := by
  have hfind : rotator.getSigningPublicKeysForEpoch epoch =
      (rotator.retained.find? fun st => st.epoch = epoch).map EpochState.signingKeys := by
    rw [getSigningPublicKeysForEpoch, retained, List.find?_cons]
    split_ifs with h <;> simp [h]
  have hkept : (∃ st ∈ rotator.retained, st.epoch = epoch) ↔
      epoch = rotator.getCurrentEpoch ∨ ∃ txId, rotator.KeptFor epoch txId := by
    constructor
    · rintro ⟨st, hst, hepoch⟩
      rcases List.mem_cons.1 hst with rfl | hdeprecated
      · exact .inl hepoch.symm
      · obtain ⟨txId, hmem⟩ := Finset.nonempty_iff_ne_empty.2 (hwf.referenced st hdeprecated)
        exact .inr ⟨txId, st, hst, hepoch, hmem⟩
    · rintro (hcurrent | ⟨txId, st, hst, hepoch, -⟩)
      · exact ⟨_, List.mem_cons_self, hcurrent.symm⟩
      · exact ⟨st, hst, hepoch⟩
  rw [hfind, Option.map_eq_some_iff, ← hkept]
  constructor
  · rintro ⟨st, hst, rfl⟩
    have hmem := List.mem_of_find?_eq_some hst
    obtain rfl : st.epoch = epoch := by simpa using List.find?_some hst
    exact ⟨⟨st, hmem, rfl⟩, hwf.keys st hmem⟩
  · rintro ⟨⟨st, hst, hepoch⟩, rfl⟩
    obtain ⟨found, hfound⟩ := Option.isSome_iff_exists.1
      (List.find?_isSome.2 ⟨st, hst, by simpa using hepoch⟩ :
        (rotator.retained.find? fun st => st.epoch = epoch).isSome = true)
    have hmem := List.mem_of_find?_eq_some hfound
    obtain rfl : found.epoch = epoch := by simpa using List.find?_some hfound
    exact ⟨found, hfound, hwf.keys found hmem⟩

/-! ## The index -/

theorem index_register {tx : JsValue} {txId : String} (h : registeredTxId tx = some txId)
    (txId' : String) :
    (rotator.registerUnspentTimeLockedTx tx).epochIndexByTxId.get? txId' =
      if txId' = txId then some rotator.getCurrentEpoch
      else rotator.epochIndexByTxId.get? txId' := by
  rw [registerUnspentTimeLockedTx_of_some h]
  exact OrderedMap.get?_set ..

theorem WellFormed.index_markTxSpent (hwf : WellFormed sha256 rotator) (txId txId' : String) :
    (rotator.markTxSpent txId).epochIndexByTxId.get? txId' =
      if txId' = txId then none else rotator.epochIndexByTxId.get? txId' := by
  cases hindex : rotator.epochIndexByTxId.get? txId with
  | none =>
      rw [markTxSpent_of_none hindex]
      split_ifs with h
      · rw [h, hindex]
      · rfl
  | some epoch =>
      rw [markTxSpent_of_some hindex (hwf.indexed txId epoch hindex).1]
      exact OrderedMap.get?_erase ..

theorem index_rotation (bridge : EnclaveBridge) :
    (rotator.step sha256 (.triggerEpochRotation bridge)).epochIndexByTxId =
      rotator.epochIndexByTxId := by
  cases hready : bridge.isEnclaveReady with
  | false => rw [step_rotation_of_not_ready hready]
  | true => rw [step_rotation_of_ready hready]

theorem WellFormed.getEpochForTxId_eq (hwf : WellFormed sha256 rotator) (txId : String) :
    rotator.getEpochForTxId txId = rotator.epochIndexByTxId.get? txId := by
  rw [getEpochForTxId]
  cases hindex : rotator.epochIndexByTxId.get? txId with
  | none => rfl
  | some epoch =>
      have hpos := (hwf.indexed txId epoch hindex).1
      exact Option.filter_some_pos (decide_eq_true (by omega))

/-- A call about another transaction leaves the binding alone. -/
theorem WellFormed.index_step_of_other (hwf : WellFormed sha256 rotator) {operation : Operation}
    {txId : String} (h : operation.txId ≠ some txId) :
    (rotator.step sha256 operation).epochIndexByTxId.get? txId =
      rotator.epochIndexByTxId.get? txId := by
  cases operation with
  | registerUnspentTimeLockedTx tx =>
      cases htx : registeredTxId tx with
      | none =>
          change (rotator.registerUnspentTimeLockedTx tx).epochIndexByTxId.get? txId = _
          rw [registerUnspentTimeLockedTx_of_none htx]
      | some txId' =>
          refine (index_register htx txId).trans (if_neg ?_)
          rintro rfl
          exact h htx
  | markTxSpent txId' =>
      refine (hwf.index_markTxSpent txId' txId).trans (if_neg ?_)
      rintro rfl
      exact h rfl
  | triggerEpochRotation bridge => rw [index_rotation]

theorem WellFormed.index_run_of_other (hwf : WellFormed sha256 rotator)
    {operations : List Operation} {txId : String}
    (h : ∀ operation ∈ operations, operation.txId ≠ some txId) :
    (Run.run (EnclaveKeyRotator.step sha256) rotator operations).epochIndexByTxId.get? txId =
      rotator.epochIndexByTxId.get? txId := by
  induction operations generalizing rotator with
  | nil => rfl
  | cons operation operations ih =>
      rw [Run.run_cons, ih (hwf.step operation) fun o ho => h o (List.mem_cons_of_mem _ ho)]
      exact hwf.index_step_of_other (h operation List.mem_cons_self)

/-! ## Unspent transactions keep their keys -/

/-- After any history, a transaction that was neither spent nor registered again since its
registration is bound to the epoch current then, and that epoch still has the keys it had. -/
theorem keys_of_unspent (sha256 : Sha256) (before after : List Operation) (tx : JsValue)
    (txId : String) (htx : registeredTxId tx = some txId)
    (hunspent : ∀ operation ∈ after, operation.txId ≠ some txId) :
    let atRegistration := Run.run (step sha256) (getInstance sha256) before
    let rotator := Run.run (step sha256) (getInstance sha256)
      (before ++ .registerUnspentTimeLockedTx tx :: after)
    rotator.getEpochForTxId txId = some atRegistration.getCurrentEpoch ∧
      rotator.getSigningPublicKeysForEpoch atRegistration.getCurrentEpoch =
        some atRegistration.getCurrentSigningPublicKeys := by
  intro atRegistration rotator
  have hbefore : WellFormed sha256 atRegistration := wellFormed_run sha256 before
  have hafter : WellFormed sha256 rotator := wellFormed_run sha256 _
  have hrun : rotator = Run.run (step sha256)
      (atRegistration.registerUnspentTimeLockedTx tx) after := Run.run_append ..
  have hindex : rotator.epochIndexByTxId.get? txId = some atRegistration.getCurrentEpoch := by
    rw [hrun, (hbefore.register tx).index_run_of_other hunspent, index_register htx, if_pos rfl]
  have hkept : rotator.KeptFor atRegistration.getCurrentEpoch txId :=
    (hafter.indexed txId _ hindex).2.2
  have hkeys : atRegistration.getCurrentSigningPublicKeys =
      epochKeys sha256 atRegistration.getCurrentEpoch :=
    hbefore.keys atRegistration.epochState List.mem_cons_self
  exact ⟨(hafter.getEpochForTxId_eq txId).trans hindex,
    hafter.getSigningPublicKeysForEpoch_eq_some_iff.2 ⟨.inr ⟨txId, hkept⟩, hkeys⟩⟩

/-! ### A sample -/

def sampleTx (txId : String) : JsValue := .obj [("transactionId", txId)]

/-- SHA-256 on the texts the first two epochs hash. -/
def epochSha256 : Sha256 := fun text =>
  if text = "CLASSICAL_PUBKEY_V1|EPOCH_SEED_V1|1|inrepo" then
    ⟨"01edb15be9e31643153a3bb26ff33827a86728a830720a941ad71ebcc8de942b", by decide +kernel⟩
  else if text = "PQC_PUBKEY_TOKEN_V1|EPOCH_SEED_V1|1|inrepo" then
    ⟨"534dea184afee8c2f00a437cfe78a2bdf319c639294808776fd99cc3c4882c75", by decide +kernel⟩
  else if text = "CLASSICAL_PUBKEY_V1|EPOCH_SEED_V1|2|inrepo" then
    ⟨"8c5f1568204fce4b382b4a79d5730df2b103768d02d6ed6f421430e78197e89a", by decide +kernel⟩
  else ⟨"244ade29540acdb3250f713f784c6a8175d0901b1752062dd76687f2f7196ada", by decide +kernel⟩

def readyBridge : EnclaveBridge := ⟨true, false⟩

theorem keys_of_unspent_sample :
    let atRegistration := Run.run (step epochSha256) (getInstance epochSha256) []
    let rotator := Run.run (step epochSha256) (getInstance epochSha256)
      ([] ++ .registerUnspentTimeLockedTx (sampleTx "lock") ::
        [.triggerEpochRotation readyBridge, .markTxSpent "other"])
    rotator.getEpochForTxId "lock" = some atRegistration.getCurrentEpoch ∧
      rotator.getSigningPublicKeysForEpoch atRegistration.getCurrentEpoch =
        some atRegistration.getCurrentSigningPublicKeys :=
  keys_of_unspent epochSha256 [] [.triggerEpochRotation readyBridge, .markTxSpent "other"]
    (sampleTx "lock") "lock" (by decide +kernel) (by
      intro operation h
      simp only [List.mem_cons, List.not_mem_nil, or_false] at h
      rcases h with rfl | rfl <;> decide)

end EnclaveKeyRotator

end UniverEscrow.Cryptography
