import UniverEscrow.Consensus.EnclaveBftVerifyEngine
import UniverEscrow.Enclave.ZkProofEngine
import UniverEscrow.Infrastructure.EnclaveMigrationManager
import UniverEscrow.Js.NumberRoundTrip
import UniverEscrow.Lib.Delimited

/-!
# What the delimited encodings tell apart

A commitment, a migration header and an approval are made of strings joined by delimiters that the
strings may contain.  So a text determines its inputs exactly when no delimiter can be found in
another place: each condition below lists the strings that move one.
-/

namespace UniverEscrow.Enclave

open UniverEscrow.Js UniverEscrow.Merkle UniverEscrow.Lib UniverEscrow.Consensus
open UniverEscrow.Infrastructure

/-- No other input is encoded like this one. -/
def Determines {α β : Type*} (encode : α → β) (x : α) : Prop := ∀ y, encode y = encode x → y = x

/-- `s.includes(part)`. -/
def Includes (s part : String) : Prop := part.toList <:+: s.toList

instance (s part : String) : Decidable (Includes s part) :=
  inferInstanceAs (Decidable (_ <:+: _))

theorem includes_iff {s part : String} :
    Includes s part ↔ ∃ before after : String, s = before ++ part ++ after := by
  constructor
  · rintro ⟨xs, ys, h⟩
    refine ⟨String.ofList xs, String.ofList ys, ?_⟩
    rw [← String.toList_inj, ← h]
    simp
  · rintro ⟨before, after, rfl⟩
    exact ⟨before.toList, after.toList, by simp⟩

theorem bar_notMem_toText (x : Binary64) : '|' ∉ (JsNumber.fin x).toText.toList :=
  notMem_toText (by decide) (by decide) _

/-! ## Commitments -/

structure CommitmentInput where
  tenantId : String
  account : String
  amount : Binary64
  blindingSalt : String

def CommitmentInput.canonical (x : CommitmentInput) : String :=
  ZkProofEngine.canonicalCommitment x.tenantId x.account (.fin x.amount) x.blindingSalt

/-- An amount between its two delimiters. -/
def amountField (amount : Binary64) : String :=
  "|amount=" ++ (JsNumber.fin amount).toText ++ "|blindingSalt="

/-- The tenant and the account hide no account, the account and the salt no amount. -/
def CommitmentInput.Plain (x : CommitmentInput) : Prop :=
  ¬Includes x.tenantId "|account=" ∧ ¬Includes x.account "|account=" ∧
    ∀ amount, ¬Includes x.account (amountField amount) ∧
      ¬Includes x.blindingSalt (amountField amount)

theorem CommitmentInput.canonical_eq (x : CommitmentInput) :
    x.canonical = "tenantId=" ++ x.tenantId ++ "|account=" ++ x.account ++ "|amount=" ++
      (JsNumber.fin x.amount).toText ++ "|blindingSalt=" ++ x.blindingSalt := rfl

theorem CommitmentInput.toList_canonical (x : CommitmentInput) :
    x.canonical.toList = "tenantId=".toList ++
      (x.tenantId.toList ++ '|' :: ("account=".toList ++ (x.account.toList ++ '|' ::
        ("amount=".toList ++ ((JsNumber.fin x.amount).toText.toList ++ '|' ::
          ("blindingSalt=".toList ++ x.blindingSalt.toList)))))) := by
  simp [canonical_eq]

/-- Behind an amount's text the next delimiter is its own, so any other lies in the salt. -/
theorem exists_of_amount_append {amount : Binary64} {salt u delimiter rest : List Char}
    (hbar : '|' ∉ delimiter)
    (hother : ∀ ys zs, "blindingSalt=".toList ++ ys ≠ delimiter ++ zs)
    (h : (JsNumber.fin amount).toText.toList ++ '|' :: ("blindingSalt=".toList ++ salt) =
      u ++ '|' :: (delimiter ++ rest)) :
    ∃ v, u = (JsNumber.fin amount).toText.toList ++ '|' :: ("blindingSalt=".toList ++ v) ∧
      salt = v ++ '|' :: (delimiter ++ rest) := by
  rcases cut_cases (by decide) hbar h with ⟨-, htail⟩ | hbehind | ⟨v, hu, -⟩
  · exact absurd htail (hother _ _)
  · exact hbehind
  · exact absurd (hu ▸ List.mem_append_right u List.mem_cons_self) (bar_notMem_toText amount)

theorem ne_of_not_includes {s part : String} (h : ¬Includes s part) (xs ys : List Char) :
    s.toList ≠ xs ++ (part.toList ++ ys) := by
  intro heq
  exact h ⟨xs, ys, by rw [heq, List.append_assoc]⟩

theorem toList_amountField (amount : Binary64) (ys : List Char) :
    (amountField amount).toList ++ ys = '|' :: ("amount=".toList ++
      ((JsNumber.fin amount).toText.toList ++ '|' :: ("blindingSalt=".toList ++ ys))) := by
  simp [amountField]

theorem CommitmentInput.eq_of_canonical_eq {x y : CommitmentInput} (hx : x.Plain)
    (h : y.canonical = x.canonical) : y = x := by
  obtain ⟨htenant, haccount, hamount⟩ := hx
  have htenant' := ne_of_not_includes htenant
  have haccount' := ne_of_not_includes haccount
  have hamount' (n : Binary64) (us vs : List Char) :
      x.account.toList ≠ us ++ ('|' :: ("amount=".toList ++
        ((JsNumber.fin n).toText.toList ++ '|' :: ("blindingSalt=".toList ++ vs)))) := by
    rw [← toList_amountField]
    exact ne_of_not_includes (hamount n).1 us vs
  have hsalt' (n : Binary64) (us vs : List Char) :
      x.blindingSalt.toList ≠ us ++ ('|' :: ("amount=".toList ++
        ((JsNumber.fin n).toText.toList ++ '|' :: ("blindingSalt=".toList ++ vs)))) := by
    rw [← toList_amountField]
    exact ne_of_not_includes (hamount n).2 us vs
  have hlist := congrArg String.toList h.symm
  rw [toList_canonical, toList_canonical, List.append_cancel_left_eq] at hlist
  rcases cut_cases (by decide) (by decide) hlist with ⟨ht, htail⟩ | ⟨u, -, htail⟩ | ⟨u, ht, -⟩
  · rw [List.append_cancel_left_eq] at htail
    rcases cut_cases (by decide) (by decide) htail with ⟨ha, hrest⟩ | ⟨u, -, hrest⟩ | ⟨u, ha, hrest⟩
    · -- the same cuts
      rw [List.append_cancel_left_eq] at hrest
      obtain ⟨hn, hs⟩ := eq_of_append_cons (bar_notMem_toText _) (bar_notMem_toText _) hrest
      have hamounts := toText_fin_inj (String.toList_inj.1 hn)
      cases x
      cases y
      simp_all [String.toList_inj]
    · -- the other amount stands in the salt
      obtain ⟨v, -, hsalt⟩ := exists_of_amount_append (by decide) (by simp) hrest
      exact absurd hsalt (hsalt' _ _ _)
    · -- the other amount stands in the account
      obtain ⟨v, rfl, -⟩ := exists_of_amount_append (by decide) (by simp) hrest
      exact absurd ha (by simpa using hamount' y.amount _ v)
  · -- the other account starts behind this one's delimiter
    rcases cut_cases (by decide) (by decide) htail with ⟨-, hrest⟩ | ⟨v, -, hrest⟩ | ⟨v, ha, -⟩
    · simp at hrest
    · obtain ⟨w, -, hsalt⟩ := exists_of_amount_append (by decide) (by simp) hrest
      exact absurd hsalt (by simpa using hsalt' y.amount (w ++ '|' :: ("account=".toList ++ _)) _)
    · exact absurd ha (by simpa using haccount' u v)
  · exact absurd ht (by simpa using htenant' _ u)

theorem ne_append_of_ne_empty {part : String} (h : part ≠ "") (s after : String) :
    s ≠ s ++ part ++ after := by
  intro heq
  have hlist := congrArg List.length (congrArg String.toList heq)
  simp only [String.toList_append, List.length_append] at hlist
  have hpart : part.toList = [] := List.length_eq_zero_iff.1 (by omega)
  exact h (String.toList_inj.1 hpart)

theorem amountField_ne_empty (amount : Binary64) : amountField amount ≠ "" := by
  rw [amountField, ← String.toList_inj.ne]
  simp

theorem CommitmentInput.determines_iff (x : CommitmentInput) :
    Determines CommitmentInput.canonical x ↔ x.Plain := by
  refine ⟨fun h => ⟨?_, ?_, fun n => ⟨?_, ?_⟩⟩, fun hx y => eq_of_canonical_eq hx⟩
  · intro hincl
    obtain ⟨before, after, htenant⟩ := includes_iff.1 hincl
    have heq := h ⟨before, after ++ "|account=" ++ x.account, x.amount, x.blindingSalt⟩
      (by simp [canonical_eq, htenant, String.append_assoc])
    exact ne_append_of_ne_empty (by decide) before after
      ((congrArg tenantId heq).trans htenant)
  · intro hincl
    obtain ⟨before, after, haccount⟩ := includes_iff.1 hincl
    have heq := h ⟨x.tenantId ++ "|account=" ++ before, after, x.amount, x.blindingSalt⟩
      (by simp [canonical_eq, haccount, String.append_assoc])
    exact ne_append_of_ne_empty (by decide) x.tenantId before (congrArg tenantId heq).symm
  · intro hincl
    obtain ⟨before, after, haccount⟩ := includes_iff.1 hincl
    have heq := h ⟨x.tenantId, before, n, after ++ amountField x.amount ++ x.blindingSalt⟩
      (by simp [canonical_eq, haccount, amountField, String.append_assoc])
    exact ne_append_of_ne_empty (amountField_ne_empty n) before after
      ((congrArg account heq).trans haccount)
  · intro hincl
    obtain ⟨before, after, hsalt⟩ := includes_iff.1 hincl
    have heq := h ⟨x.tenantId, x.account ++ amountField x.amount ++ before, n, after⟩
      (by simp [canonical_eq, hsalt, amountField, String.append_assoc])
    exact ne_append_of_ne_empty (amountField_ne_empty x.amount) x.account before
      (congrArg account heq).symm

/-! ## Migration headers -/

/-- The strings a migration package's signature covers. -/
structure MigrationHeader where
  migrationId : String
  mrsigner : String
  targetMrenclave : String

def MigrationHeader.canonical (x : MigrationHeader) : Except String String :=
  EnclaveMigrationManager.canonicalMigrationHeader x.migrationId
    (.obj [("mrsigner", x.mrsigner), ("targetMrenclave", x.targetMrenclave)])

/-- The id hides no signer, the signer neither a signer nor a target, the target no target. -/
def MigrationHeader.Plain (x : MigrationHeader) : Prop :=
  ¬Includes x.migrationId "|mrsigner=" ∧ ¬Includes x.mrsigner "|mrsigner=" ∧
    ¬Includes x.mrsigner "|targetMrenclave=" ∧ ¬Includes x.targetMrenclave "|targetMrenclave="

instance (x : MigrationHeader) : Decidable x.Plain :=
  inferInstanceAs (Decidable (_ ∧ _ ∧ _ ∧ _))

theorem MigrationHeader.canonical_eq (x : MigrationHeader) :
    x.canonical = .ok ("migrationId=" ++ x.migrationId ++ "|mrsigner=" ++ x.mrsigner ++
      "|targetMrenclave=" ++ x.targetMrenclave) := by
  rfl

/-- Whatever else the metadata holds, these are its strings that are signed. -/
theorem canonicalMigrationHeader_eq {metadata : JsValue} (x : MigrationHeader)
    (hsigner : metadata.get "mrsigner" = .str x.mrsigner)
    (htarget : metadata.get "targetMrenclave" = .str x.targetMrenclave) :
    EnclaveMigrationManager.canonicalMigrationHeader x.migrationId metadata = x.canonical := by
  rw [EnclaveMigrationManager.canonicalMigrationHeader, hsigner, htarget]
  rfl

theorem MigrationHeader.eq_of_canonical_eq {x y : MigrationHeader} (hx : x.Plain)
    (h : y.canonical = x.canonical) : y = x := by
  obtain ⟨hid, hsigner, hsigner', htarget⟩ := hx
  have hid' := ne_of_not_includes hid
  have hsigner₁ := ne_of_not_includes hsigner
  have hsigner₂ := ne_of_not_includes hsigner'
  have htarget' := ne_of_not_includes htarget
  rw [canonical_eq, canonical_eq] at h
  have hlist : "migrationId=".toList ++ (x.migrationId.toList ++ '|' :: ("mrsigner=".toList ++
        (x.mrsigner.toList ++ '|' :: ("targetMrenclave=".toList ++ x.targetMrenclave.toList)))) =
      "migrationId=".toList ++ (y.migrationId.toList ++ '|' :: ("mrsigner=".toList ++
        (y.mrsigner.toList ++ '|' :: ("targetMrenclave=".toList ++
          y.targetMrenclave.toList)))) := by
    simpa using congrArg String.toList (Except.ok.inj h).symm
  rw [List.append_cancel_left_eq] at hlist
  rcases cut_cases (by decide) (by decide) hlist with ⟨hm, htail⟩ | ⟨u, -, htail⟩ | ⟨u, hm, -⟩
  · rw [List.append_cancel_left_eq] at htail
    rcases cut_cases (by decide) (by decide) htail with ⟨hg, hrest⟩ | ⟨u, -, hrest⟩ | ⟨u, hg, -⟩
    · rw [List.append_cancel_left_eq] at hrest
      cases x
      cases y
      simp_all [String.toList_inj]
    · exact absurd hrest (htarget' u _)
    · exact absurd hg (by simpa using hsigner₂ _ u)
  · -- the other signer starts behind this one's delimiter
    rcases cut_cases (by decide) (by decide) htail with ⟨-, hrest⟩ | ⟨v, -, hrest⟩ | ⟨v, hg, -⟩
    · simp at hrest
    · exact absurd hrest (by simpa using htarget' (v ++ '|' :: ("mrsigner=".toList ++ _)) _)
    · exact absurd hg (by simpa using hsigner₁ u v)
  · exact absurd hm (by simpa using hid' _ u)

theorem MigrationHeader.determines_iff (x : MigrationHeader) :
    Determines MigrationHeader.canonical x ↔ x.Plain := by
  refine ⟨fun h => ⟨?_, ?_, ?_, ?_⟩, fun hx y => eq_of_canonical_eq hx⟩
  · intro hincl
    obtain ⟨before, after, hid⟩ := includes_iff.1 hincl
    have heq := h ⟨before, after ++ "|mrsigner=" ++ x.mrsigner, x.targetMrenclave⟩
      (by simp [canonical_eq, hid, String.append_assoc])
    exact ne_append_of_ne_empty (by decide) before after ((congrArg migrationId heq).trans hid)
  · intro hincl
    obtain ⟨before, after, hsigner⟩ := includes_iff.1 hincl
    have heq := h ⟨x.migrationId ++ "|mrsigner=" ++ before, after, x.targetMrenclave⟩
      (by simp [canonical_eq, hsigner, String.append_assoc])
    exact ne_append_of_ne_empty (by decide) x.migrationId before (congrArg migrationId heq).symm
  · intro hincl
    obtain ⟨before, after, hsigner⟩ := includes_iff.1 hincl
    have heq := h ⟨x.migrationId, before, after ++ "|targetMrenclave=" ++ x.targetMrenclave⟩
      (by simp [canonical_eq, hsigner, String.append_assoc])
    exact ne_append_of_ne_empty (by decide) before after ((congrArg mrsigner heq).trans hsigner)
  · intro hincl
    obtain ⟨before, after, htarget⟩ := includes_iff.1 hincl
    have heq := h ⟨x.migrationId, x.mrsigner ++ "|targetMrenclave=" ++ before, after⟩
      (by simp [canonical_eq, htarget, String.append_assoc])
    exact ne_append_of_ne_empty (by decide) x.mrsigner before (congrArg mrsigner heq).symm

example : (⟨"m-1", "signer", "enclave"⟩ : MigrationHeader).Plain := by decide

/-! ## Approvals -/

/-- The text an approval is the digest of. -/
def canonicalApproval (transactionId commitment : String) (consensusTerm index : JsNumber)
    (nodeId : NodeId) : String :=
  "ENCLAVE_BFT_APPROVAL_V1|" ++ transactionId ++ "|" ++ commitment ++ "|" ++
    consensusTerm.toText ++ "|" ++ index.toText ++ "|" ++ nodeId

theorem approvalHash_eq (sha256 : Sha256) (transactionId commitment : String)
    (consensusTerm index : JsNumber) (nodeId : NodeId) :
    approvalHash sha256 transactionId commitment consensusTerm index nodeId =
      sha256Hex sha256 (canonicalApproval transactionId commitment consensusTerm index nodeId) :=
  rfl

structure ApprovalInput where
  transactionId : String
  commitment : String
  consensusTerm : Binary64
  index : Binary64
  nodeId : NodeId

def ApprovalInput.canonical (x : ApprovalInput) : String :=
  canonicalApproval x.transactionId x.commitment (.fin x.consensusTerm) (.fin x.index) x.nodeId

/-- A number and the bar behind it. -/
def numberField (n : Binary64) : String := (JsNumber.fin n).toText ++ "|"

/-- The transaction and the commitment hold no bar, and the node's id does not look like the end
of another approval: it neither starts with a number and a bar nor holds two numbers in a row. -/
def ApprovalInput.Plain (x : ApprovalInput) : Prop :=
  ¬Includes x.transactionId "|" ∧ ¬Includes x.commitment "|" ∧
    ∀ n m : Binary64, ¬(numberField n).toList <+: x.nodeId.toList ∧
      ¬Includes x.nodeId ("|" ++ numberField n ++ numberField m)

theorem ApprovalInput.canonical_eq (x : ApprovalInput) :
    x.canonical = "ENCLAVE_BFT_APPROVAL_V1|" ++ x.transactionId ++ "|" ++ x.commitment ++ "|" ++
      (JsNumber.fin x.consensusTerm).toText ++ "|" ++ (JsNumber.fin x.index).toText ++ "|" ++
      x.nodeId := rfl

theorem ApprovalInput.toList_canonical (x : ApprovalInput) :
    x.canonical.toList = "ENCLAVE_BFT_APPROVAL_V1|".toList ++ (x.transactionId.toList ++ '|' ::
      (x.commitment.toList ++ '|' :: ((JsNumber.fin x.consensusTerm).toText.toList ++ '|' ::
        ((JsNumber.fin x.index).toText.toList ++ '|' :: x.nodeId.toList)))) := by
  have hbar (xs : List Char) : "|".toList ++ xs = '|' :: xs := rfl
  simp only [canonical_eq, String.toList_append, List.append_assoc, hbar, List.cons_append]

theorem bar_notMem_of_not_includes {s : String} (h : ¬Includes s "|") : '|' ∉ s.toList := by
  intro hmem
  obtain ⟨us, vs, heq⟩ := List.append_of_mem hmem
  exact ne_of_not_includes h us vs heq

/-- Two cuts at bars: one cut, or one of them lies behind the other. -/
theorem bar_cases {xs ys xs' ys' : List Char} (h : xs ++ '|' :: ys = xs' ++ '|' :: ys') :
    (xs = xs' ∧ ys = ys') ∨ (∃ u, xs' = xs ++ '|' :: u ∧ ys = u ++ '|' :: ys') ∨
      ∃ u, xs = xs' ++ '|' :: u ∧ ys' = u ++ '|' :: ys :=
  have hnil : '|' ∉ ([] : List Char) := List.not_mem_nil
  cut_cases hnil hnil h

/-- A number's text ends at the first bar. -/
theorem bar_cases_of_toText {n : Binary64} {ys xs' ys' : List Char}
    (h : (JsNumber.fin n).toText.toList ++ '|' :: ys = xs' ++ '|' :: ys') :
    (xs' = (JsNumber.fin n).toText.toList ∧ ys = ys') ∨
      ∃ u, xs' = (JsNumber.fin n).toText.toList ++ '|' :: u ∧ ys = u ++ '|' :: ys' := by
  rcases bar_cases h with ⟨hxs, hys⟩ | hbehind | ⟨u, hn, -⟩
  · exact .inl ⟨hxs.symm, hys⟩
  · exact .inr hbehind
  · exact absurd (hn ▸ List.mem_append_right xs' List.mem_cons_self) (bar_notMem_toText n)

/-- Two numbers found later than the term and the index lie in the node's id. -/
theorem not_plain_of_later {term index n m : Binary64} {node u rest : List Char}
    (hstart : ∀ n : Binary64, ¬(numberField n).toList <+: node)
    (hinner : ∀ n m : Binary64, ¬("|" ++ numberField n ++ numberField m).toList <:+: node)
    (h : (JsNumber.fin term).toText.toList ++ '|' ::
        ((JsNumber.fin index).toText.toList ++ '|' :: node) =
      u ++ '|' :: ((JsNumber.fin n).toText.toList ++ '|' ::
        ((JsNumber.fin m).toText.toList ++ '|' :: rest))) : False := by
  rcases bar_cases_of_toText h with ⟨-, htail⟩ | ⟨v, -, htail⟩
  · -- the other number is the index
    rcases bar_cases_of_toText htail with ⟨-, hnode⟩ | ⟨w, hm, -⟩
    · exact hstart m ⟨rest, by simp [numberField, hnode]⟩
    · exact bar_notMem_toText n (hm ▸ List.mem_append_right _ List.mem_cons_self)
  · rcases bar_cases_of_toText htail with ⟨-, hnode⟩ | ⟨w, -, hnode⟩
    · refine hstart n ⟨(JsNumber.fin m).toText.toList ++ '|' :: rest, ?_⟩
      simp [numberField, hnode]
    · exact hinner n m ⟨w, rest, by simp [numberField, hnode]⟩

theorem ApprovalInput.eq_of_canonical_eq {x y : ApprovalInput} (hx : x.Plain)
    (h : y.canonical = x.canonical) : y = x := by
  obtain ⟨htx, hcommitment, hnode⟩ := hx
  have htx' := bar_notMem_of_not_includes htx
  have hcommitment' := bar_notMem_of_not_includes hcommitment
  have hstart := fun n : Binary64 => (hnode n n).1
  have hinner := fun n m : Binary64 => (hnode n m).2
  have hlist := congrArg String.toList h.symm
  rw [toList_canonical, toList_canonical, List.append_cancel_left_eq] at hlist
  rcases bar_cases hlist with ⟨ht, htail⟩ | ⟨u, -, htail⟩ | ⟨u, ht, -⟩
  · rcases bar_cases htail with ⟨hc, hrest⟩ | ⟨u, -, hrest⟩ | ⟨u, hc, -⟩
    · obtain ⟨hterm, hrest⟩ := eq_of_append_cons (bar_notMem_toText _) (bar_notMem_toText _) hrest
      obtain ⟨hindex, hid⟩ := eq_of_append_cons (bar_notMem_toText _) (bar_notMem_toText _) hrest
      have hterms := toText_fin_inj (String.toList_inj.1 hterm)
      have hindices := toText_fin_inj (String.toList_inj.1 hindex)
      cases x
      cases y
      simp_all [String.toList_inj]
    · exact (not_plain_of_later hstart hinner hrest).elim
    · exact absurd (hc ▸ List.mem_append_right _ List.mem_cons_self) hcommitment'
  · -- the other transaction reaches into the commitment
    rcases bar_cases htail with ⟨-, hrest⟩ | ⟨v, -, hrest⟩ | ⟨v, hc, -⟩
    · exact (not_plain_of_later hstart hinner hrest).elim
    · have hregroup := hrest.trans (List.append_assoc v ('|' :: y.commitment.toList) _).symm
      exact (not_plain_of_later hstart hinner hregroup).elim
    · exact absurd (hc ▸ List.mem_append_right u List.mem_cons_self) hcommitment'
  · exact absurd (ht ▸ List.mem_append_right _ List.mem_cons_self) htx'

theorem ApprovalInput.determines_iff (x : ApprovalInput) :
    Determines ApprovalInput.canonical x ↔ x.Plain := by
  refine ⟨fun h => ⟨?_, ?_, fun n m => ⟨?_, ?_⟩⟩, fun hx y => eq_of_canonical_eq hx⟩
  · intro hincl
    obtain ⟨before, after, htx⟩ := includes_iff.1 hincl
    have heq := h ⟨before, after ++ "|" ++ x.commitment, x.consensusTerm, x.index, x.nodeId⟩
      (by simp only [canonical_eq, htx, String.append_assoc])
    exact ne_append_of_ne_empty (by decide) before after ((congrArg transactionId heq).trans htx)
  · intro hincl
    obtain ⟨before, after, hcommitment⟩ := includes_iff.1 hincl
    have heq := h ⟨x.transactionId ++ "|" ++ before, after, x.consensusTerm, x.index, x.nodeId⟩
      (by simp only [canonical_eq, hcommitment, String.append_assoc])
    exact ne_append_of_ne_empty (by decide) x.transactionId before
      (congrArg transactionId heq).symm
  · -- the node's number becomes the index
    rintro ⟨ys, hnode⟩
    have hnode' : x.nodeId = numberField n ++ String.ofList ys := by
      rw [← String.toList_inj, ← hnode]
      simp
    have heq := h ⟨x.transactionId, x.commitment ++ "|" ++ (JsNumber.fin x.consensusTerm).toText,
      x.index, n, String.ofList ys⟩
      (by simp only [canonical_eq, hnode', numberField, String.append_assoc])
    exact ne_append_of_ne_empty (by decide) x.commitment _ (congrArg commitment heq).symm
  · -- the node's numbers become the term and the index
    intro hincl
    obtain ⟨before, after, hnode⟩ := includes_iff.1 hincl
    have heq := h ⟨x.transactionId, x.commitment ++ "|" ++ numberField x.consensusTerm ++
      numberField x.index ++ before, n, m, after⟩
      (by simp only [canonical_eq, hnode, numberField, String.append_assoc])
    refine ne_append_of_ne_empty (by decide : "|" ≠ "") x.commitment
      (numberField x.consensusTerm ++ numberField x.index ++ before) ?_
    simpa only [String.append_assoc] using (congrArg commitment heq).symm

/-! ## The three encodings -/

/-- Each text determines its inputs exactly when they hide no delimiter of it. -/
theorem encodings_determine_iff (commitment : CommitmentInput) (header : MigrationHeader)
    (approval : ApprovalInput) :
    (Determines CommitmentInput.canonical commitment ↔ commitment.Plain) ∧
      (Determines MigrationHeader.canonical header ↔ header.Plain) ∧
      (Determines ApprovalInput.canonical approval ↔ approval.Plain) :=
  ⟨commitment.determines_iff, header.determines_iff, approval.determines_iff⟩

theorem abs_sampleAmount_le : |(1 : ℤ)| ≤ 2 ^ 53 := by norm_num

def sampleAmount : Binary64 := .ofInt 1 abs_sampleAmount_le

/-- An account written into the tenant, a signer written into the id, and a commitment written into
the transaction each have the text of another input. -/
theorem encodings_collide :
    (¬Determines CommitmentInput.canonical ⟨"t|account=x", "y", sampleAmount, "s"⟩ ∧
      ∀ sha256, ZkProofEngine.computeCommitment sha256 "t|account=x" "y" (.fin sampleAmount) "s" =
        ZkProofEngine.computeCommitment sha256 "t" "x|account=y" (.fin sampleAmount) "s") ∧
      ¬Determines MigrationHeader.canonical ⟨"m|mrsigner=a", "b", "e"⟩ ∧
      (¬Determines ApprovalInput.canonical ⟨"a|b", "c", sampleAmount, sampleAmount, "n"⟩ ∧
        ∀ sha256, approvalHash sha256 "a|b" "c" (.fin sampleAmount) (.fin sampleAmount) "n" =
          approvalHash sha256 "a" "b|c" (.fin sampleAmount) (.fin sampleAmount) "n") := by
  refine ⟨⟨fun h => ?_, fun sha256 => rfl⟩, fun h => ?_, fun h => ?_, fun sha256 => rfl⟩
  · have heq := h ⟨"t", "x|account=y", sampleAmount, "s"⟩ rfl
    exact absurd (congrArg CommitmentInput.tenantId heq) (by decide)
  · have heq := h ⟨"m", "a|mrsigner=b", "e"⟩ rfl
    exact absurd (congrArg MigrationHeader.migrationId heq) (by decide)
  · have heq := h ⟨"a", "b|c", sampleAmount, sampleAmount, "n"⟩ rfl
    exact absurd (congrArg ApprovalInput.transactionId heq) (by decide)

end UniverEscrow.Enclave
