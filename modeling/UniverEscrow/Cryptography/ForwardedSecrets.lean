import Mathlib
import UniverEscrow.Cryptography.EnclaveSecretForwarder

/-!
# What a forwarded envelope gives away and what its hash binds

A recipient that decrypts its envelope holds every share.  So one envelope recovers the secret under
any threshold that the shares can meet at all, and all envelopes recover the same one.
-/

namespace UniverEscrow.Cryptography

open UniverEscrow.Js UniverEscrow.Merkle UniverEscrow.Enclave UniverEscrow.Lib

namespace EnclaveSecretForwarder

/-! ## Opening an envelope -/

/-- The indices and the decrypted shares of an envelope. -/
def openEnvelope (decrypt : String → Option String) (envelope : EncryptedForwardingEnvelope) :
    Option (List (ℕ × String)) :=
  (envelope.shareIndices.zip envelope.encryptedShareBlobs).mapM fun entry =>
    (decrypt entry.2).map (entry.1, ·)

/-- The decryption that goes with a public key, for every draw of the padding. -/
def Decrypts (publicEncrypt : ℕ → String → String → Except String String) (publicKeyPem : String)
    (decrypt : String → Option String) : Prop :=
  ∀ i plaintext blob, publicEncrypt i publicKeyPem plaintext = .ok blob →
    decrypt blob = some plaintext

/-- The item that a node presents for recovery. -/
def presentedShare (nodeId : String) (share : ℕ × String) : JsValue :=
  .obj [("nodeId", nodeId), ("shareIndex", .num (.ofInt share.1)), ("shareBytesHex", share.2)]

/-- All shares of one forwarded envelope, under different names and in any order. -/
inductive PresentsEnvelope (sha256 : Sha256) (masterSecretId : String)
    (epoch totalShares : JsNumber)
    (presented : List JsValue) : Prop
  | mk {platform : ForwardPlatform} {params : ForwardParams} {bridge : EnclaveBridge}
      {receipt : SecretShareForwardReceipt} {publicKeyPem : String}
      {decrypt : String → Option String} {opened : List (ℕ × String)} {nodeIds : List String}
      (hplatform : platform.sha256 = sha256) (hid : params.masterSecretId = .str masterSecretId)
      (hepoch : params.epoch = epoch) (htotal : params.totalShares = totalShares)
      (hkey : params.node.nodePublicKeyPem = .str publicKeyPem)
      (hforward : (forwardSplitSharesToNewNode platform params bridge).1 = .ok receipt)
      (hdecrypts : Decrypts platform.publicEncrypt publicKeyPem decrypt)
      (hopened : openEnvelope decrypt receipt.envelope = some opened)
      (hlength : nodeIds.length = opened.length) (hnodes : nodeIds.Nodup)
      (hpresented : presented.Perm (List.zipWith presentedShare nodeIds opened))

section Opening

variable {publicEncrypt : ℕ → String → String → Except String String} {publicKeyPem : String}
  {decrypt : String → Option String}

theorem length_encryptShares {split : List SecretSplitShare} {i : ℕ} {blobs : List String}
    (h : encryptShares publicEncrypt publicKeyPem i split = .ok blobs) :
    blobs.length = split.length := by
  induction split generalizing i blobs with
  | nil =>
      rw [← Except.ok.inj h]
      rfl
  | cons share rest ih =>
      obtain ⟨blob, -, h⟩ := bind_eq_ok.1 h
      obtain ⟨tail, htail, h⟩ := bind_eq_ok.1 h
      rw [← Except.ok.inj h, List.length_cons, List.length_cons, ih htail]

/-- Decrypting undoes the second loop. -/
theorem openBlobs_encryptShares (hdecrypts : Decrypts publicEncrypt publicKeyPem decrypt)
    {split : List SecretSplitShare} {i : ℕ} {blobs : List String}
    (h : encryptShares publicEncrypt publicKeyPem i split = .ok blobs) :
    ((split.map SecretSplitShare.shareIndex).zip blobs).mapM
        (fun entry => (decrypt entry.2).map (entry.1, ·)) =
      some (split.map fun share => (share.shareIndex, share.shareBytesHex)) := by
  induction split generalizing i blobs with
  | nil =>
      rw [← Except.ok.inj h]
      rfl
  | cons share rest ih =>
      obtain ⟨blob, hblob, h⟩ := bind_eq_ok.1 h
      obtain ⟨tail, htail, h⟩ := bind_eq_ok.1 h
      rw [← Except.ok.inj h, List.map_cons, List.zip_cons_cons, List.mapM_cons, ih htail,
        hdecrypts _ _ _ hblob]
      rfl

end Opening

theorem checkedNames_eq_ok {params : ForwardParams} {names : CheckedNames}
    (h : checkedNames params = .ok names) :
    (params.node.nodeId = .str names.nodeId ∧ names.nodeId ≠ "") ∧
      params.node.nodePublicKeyPem = .str names.nodePublicKeyPem ∧
      params.masterSecretId = .str names.masterSecretId ∧ names.masterSecretId ≠ "" := by
  have hstring {x : JsValue} {name s : String} (h : assertNonEmptyString x name = .ok s) :
      x = .str s ∧ s ≠ "" := by
    cases x with
    | str text =>
        rw [assertNonEmptyString] at h
        split_ifs at h with hempty
        rw [← Except.ok.inj h]
        exact ⟨rfl, hempty⟩
    | _ => cases h
  obtain ⟨nodeId, hnode, h⟩ := bind_eq_ok.1 h
  obtain ⟨endpoint, -, h⟩ := bind_eq_ok.1 h
  obtain ⟨publicKeyPem, hkey, h⟩ := bind_eq_ok.1 h
  obtain ⟨masterSecretId, hid, h⟩ := bind_eq_ok.1 h
  rw [← Except.ok.inj h]
  exact ⟨hstring hnode, (hstring hkey).1, hstring hid⟩

theorem Forwards.receipt_eq {platform : ForwardPlatform} {params : ForwardParams}
    {receipt : SecretShareForwardReceipt} (h : Forwards platform params receipt) :
    ∃ names blobs, checkedNames params = .ok names ∧
      encryptShares platform.publicEncrypt names.nodePublicKeyPem 0
        (shares platform.sha256 names.masterSecretId params.epoch params.totalShares) =
          .ok blobs ∧
      receipt = receiptFor platform.sha256 params names
        ((shares platform.sha256 names.masterSecretId params.epoch params.totalShares).map
          SecretSplitShare.shareIndex) blobs := by
  obtain ⟨names, hnames, -, hforward⟩ := h
  obtain ⟨blobs, hblobs, hreceipt⟩ := bind_eq_ok.1 hforward
  exact ⟨names, blobs, hnames, hblobs, (Except.ok.inj hreceipt).symm⟩

/-- An opened envelope holds the shares of the split. -/
theorem openEnvelope_eq {platform : ForwardPlatform} {params : ForwardParams}
    {receipt : SecretShareForwardReceipt} {publicKeyPem masterSecretId : String}
    {decrypt : String → Option String} {opened : List (ℕ × String)}
    (hforward : Forwards platform params receipt)
    (hid : params.masterSecretId = .str masterSecretId)
    (hkey : params.node.nodePublicKeyPem = .str publicKeyPem)
    (hdecrypts : Decrypts platform.publicEncrypt publicKeyPem decrypt)
    (hopened : openEnvelope decrypt receipt.envelope = some opened) :
    opened = (shares platform.sha256 masterSecretId params.epoch params.totalShares).map
      fun share => (share.shareIndex, share.shareBytesHex) := by
  obtain ⟨names, blobs, hnames, hblobs, rfl⟩ := hforward.receipt_eq
  obtain ⟨-, hkey', hid', -⟩ := checkedNames_eq_ok hnames
  rw [hid, JsValue.str.injEq] at hid'
  rw [hkey, JsValue.str.injEq] at hkey'
  subst hid' hkey'
  have hsplit := openBlobs_encryptShares hdecrypts hblobs
  exact Option.some.inj (hopened.symm.trans hsplit)

/-! ## Recovery from one envelope -/

/-- For a finite epoch these are the shares that the recovery proofs speak of. -/
theorem shares_fin (sha256 : Sha256) (masterSecretId : String) (epoch : Binary64)
    (totalShares : JsNumber) :
    shares sha256 masterSecretId (.fin epoch) totalShares =
      splitShares sha256 masterSecretId epoch totalShares := by
  simp only [shares, splitShares, shareText, EnclaveRecoveryEngine.numberText]

/-- The secret is made of the indices and the bytes, not of the nodes' names. -/
theorem masterSecretHex_congr {sha256 : Sha256} {masterSecretId : String} {epoch : Binary64}
    {xs ys : List ReconstructedNodeShare}
    (hindex : xs.map ReconstructedNodeShare.shareIndex = ys.map ReconstructedNodeShare.shareIndex)
    (hbytes : xs.map ReconstructedNodeShare.shareBytesHex =
      ys.map ReconstructedNodeShare.shareBytesHex) :
    EnclaveRecoveryEngine.masterSecretHex sha256 masterSecretId epoch xs =
      EnclaveRecoveryEngine.masterSecretHex sha256 masterSecretId epoch ys := by
  have htexts :
      xs.map (EnclaveRecoveryEngine.numberText ∘ ReconstructedNodeShare.shareIndex) =
        ys.map (EnclaveRecoveryEngine.numberText ∘ ReconstructedNodeShare.shareIndex) := by
    rw [← List.map_map, hindex, List.map_map]
  have hseed : EnclaveRecoveryEngine.reconstructionSeed sha256 masterSecretId epoch xs =
      EnclaveRecoveryEngine.reconstructionSeed sha256 masterSecretId epoch ys := by
    unfold EnclaveRecoveryEngine.reconstructionSeed
    rw [Function.comp_def] at htexts
    rw [htexts]
  have hmaterial : EnclaveRecoveryEngine.materialText xs =
      EnclaveRecoveryEngine.materialText ys := by
    unfold EnclaveRecoveryEngine.materialText
    rw [hbytes]
  unfold EnclaveRecoveryEngine.masterSecretHex EnclaveRecoveryEngine.masterText
  rw [hseed, hmaterial]

/-- The split comes sorted by the index. -/
theorem pairwise_heldShares (sha256 : Sha256) (masterSecretId : String) (epoch : Binary64)
    {totalShares : JsNumber} {nodeIds : List String}
    (hlen : nodeIds.length = (splitShares sha256 masterSecretId epoch totalShares).length) :
    ((heldShares sha256 masterSecretId epoch totalShares nodeIds).map HeldShare.nodeShare).Pairwise
      fun a b => a.shareIndex.val ≤ b.shareIndex.val := by
  have hsplit : (splitShares sha256 masterSecretId epoch totalShares).Pairwise
      fun a b => a.shareIndex ≤ b.shareIndex := by
    rw [splitShares, List.pairwise_map]
    refine (List.pairwise_lt_finRange _).imp fun {i j} hij => ?_
    change i.val + 1 ≤ j.val + 1
    have hlt : i.val < j.val := hij
    omega
  have hsnd : ((heldShares sha256 masterSecretId epoch totalShares nodeIds).map
      Prod.snd).Pairwise fun a b => a.shareIndex ≤ b.shareIndex := by
    rw [heldShares, List.map_snd_zip hlen.ge]
    exact hsplit
  rw [List.pairwise_map] at hsnd ⊢
  refine hsnd.imp fun {a b} hab => ?_
  change (((a.2.shareIndex : ℤ) : ℚ)) ≤ ((b.2.shareIndex : ℤ) : ℚ)
  exact_mod_cast hab

theorem sortByIndex_of_perm {sha256 : Sha256} {masterSecretId : String} {epoch : Binary64}
    {totalShares : JsNumber} {nodeIds : List String} {held : List HeldShare}
    (hlen : nodeIds.length = shareCount totalShares)
    (hperm : held.Perm (heldShares sha256 masterSecretId epoch totalShares nodeIds)) :
    EnclaveRecoveryEngine.sortByIndex (held.map HeldShare.nodeShare) =
      (heldShares sha256 masterSecretId epoch totalShares nodeIds).map HeldShare.nodeShare := by
  refine List.Perm.eq_of_pairwise ?_ (List.pairwise_insertionSort _ _)
    (pairwise_heldShares sha256 masterSecretId epoch (by rw [length_splitShares, hlen])) ?_
  · intro a b ha hb hab hba
    obtain ⟨x, hx, rfl⟩ := List.mem_map.1 ((List.mem_insertionSort _).1 ha)
    obtain ⟨y, hy, rfl⟩ := List.mem_map.1 hb
    have hval : ((x.2.shareIndex : ℤ) : ℚ) = ((y.2.shareIndex : ℤ) : ℚ) := le_antisymm hab hba
    have hindex : x.2.shareIndex = y.2.shareIndex := by exact_mod_cast hval
    rw [eq_of_shareIndex_eq hlen (hperm.subset hx) hy hindex]
  · exact (List.perm_insertionSort _ _).trans (hperm.map _)

/-- The names are gone once the shares are sorted. -/
theorem masterSecretHex_heldShares {sha256 : Sha256} {masterSecretId : String} {epoch : Binary64}
    {totalShares : JsNumber} {nodeIds nodeIds' : List String}
    (hlen : nodeIds.length = shareCount totalShares)
    (hlen' : nodeIds'.length = shareCount totalShares) :
    EnclaveRecoveryEngine.masterSecretHex sha256 masterSecretId epoch
        ((heldShares sha256 masterSecretId epoch totalShares nodeIds).map HeldShare.nodeShare) =
      EnclaveRecoveryEngine.masterSecretHex sha256 masterSecretId epoch
        ((heldShares sha256 masterSecretId epoch totalShares nodeIds').map
          HeldShare.nodeShare) := by
  have hsnd {names : List String} (hnames : names.length = shareCount totalShares) :
      (heldShares sha256 masterSecretId epoch totalShares names).map Prod.snd =
        splitShares sha256 masterSecretId epoch totalShares := by
    refine List.map_snd_zip ?_
    rw [length_splitShares, hnames]
  have hsame := (hsnd hlen).trans (hsnd hlen').symm
  apply masterSecretHex_congr
  · have hmap := congrArg (List.map fun s : SecretSplitShare =>
      HeldShare.nodeShare ("", s) |>.shareIndex) hsame
    rw [List.map_map, List.map_map] at hmap
    rw [List.map_map, List.map_map]
    exact hmap
  · have hmap := congrArg (List.map SecretSplitShare.shareBytesHex) hsame
    rw [List.map_map, List.map_map] at hmap
    rw [List.map_map, List.map_map]
    exact hmap

/-- What is presented of an envelope is held shares in another order. -/
theorem PresentsEnvelope.exists_held {sha256 : Sha256} {masterSecretId : String}
    {epoch : Binary64} {totalShares : JsNumber} {presented : List JsValue}
    (h : PresentsEnvelope sha256 masterSecretId (.fin epoch) totalShares presented) :
    masterSecretId ≠ "" ∧ ∃ (nodeIds : List String) (held : List HeldShare),
      nodeIds.length = shareCount totalShares ∧
      nodeIds.Nodup ∧ presented = held.map HeldShare.toJs ∧
      held.Perm (heldShares sha256 masterSecretId epoch totalShares nodeIds) := by
  obtain ⟨rfl, hid, hepoch, rfl, hkey, hforward, hdecrypts, hopened, hlength, hnodes,
    hpresented⟩ := h
  rename_i platform params bridge receipt publicKeyPem decrypt opened nodeIds
  obtain ⟨-, hforwards⟩ := forward_eq_ok_iff.1 hforward
  have hshares := openEnvelope_eq hforwards hid hkey hdecrypts hopened
  rw [hepoch, shares_fin] at hshares
  subst hshares
  have hzip : List.zipWith presentedShare nodeIds
      ((splitShares platform.sha256 masterSecretId epoch params.totalShares).map
        fun share => (share.shareIndex, share.shareBytesHex)) =
      (heldShares platform.sha256 masterSecretId epoch params.totalShares nodeIds).map
        HeldShare.toJs := by
    rw [heldShares, List.zip, List.map_zipWith, List.zipWith_map_right]
    rfl
  rw [hzip] at hpresented
  obtain ⟨held, hheld, hperm⟩ : Relation.Comp (· = List.map HeldShare.toJs ·) List.Perm presented
      (heldShares platform.sha256 masterSecretId epoch params.totalShares nodeIds) := by
    rw [List.eq_map_comp_perm]
    exact hpresented
  obtain ⟨names, -, hnames, -, -⟩ := hforwards.receipt_eq
  obtain ⟨-, -, hid', hne⟩ := checkedNames_eq_ok hnames
  rw [hid, JsValue.str.injEq] at hid'
  refine ⟨hid' ▸ hne, nodeIds, held, ?_, hnodes, hheld, hperm⟩
  rw [hlength, List.length_map, length_splitShares]

/-- No finite number is written with a letter of `NaN` or `Infinity` other than `e`. -/
theorem toText_fin_ne {x : Binary64} {n : JsNumber} (hn : n.isFinite = false) :
    (JsNumber.fin x).toText ≠ n.toText := by
  have hletter {c : Char} (hc : c ∈ n.toText.toList) (hdigit : c.isDigit = false)
      (hsign : c ∉ ['.', 'e', '+', '-']) : (JsNumber.fin x).toText ≠ n.toText := by
    intro htext
    rw [← htext] at hc
    rcases mem_toText_fin hc with h | h
    · exact Bool.false_ne_true (hdigit.symm.trans h)
    · exact hsign h
  cases n with
  | nan => exact hletter (c := 'N') (by decide) (by decide) (by decide)
  | posInf => exact hletter (c := 'I') (by decide) (by decide) (by decide)
  | negInf => exact hletter (c := 'I') (by decide) (by decide) (by decide)
  | fin y => cases hn

theorem cases_of_not_finite {n : JsNumber} (h : n.isFinite = false) :
    n = .nan ∨ n = .posInf ∨ n = .negInf := by
  cases n with
  | fin x => cases h
  | _ => decide

/-- Equal texts come from equal numbers, finite or not. -/
theorem toText_injective : Function.Injective JsNumber.toText := by
  intro a b h
  cases ha : a.isFinite with
  | true =>
      cases hb : b.isFinite with
      | true => exact JsNumber.toText_inj ha hb h
      | false =>
          cases a with
          | fin x => exact absurd h (toText_fin_ne hb)
          | _ => cases ha
  | false =>
      cases hb : b.isFinite with
      | true =>
          cases b with
          | fin x => exact absurd h.symm (toText_fin_ne ha)
          | _ => cases hb
      | false =>
          rcases cases_of_not_finite ha with rfl | rfl | rfl <;>
            rcases cases_of_not_finite hb with rfl | rfl | rfl <;>
            first | rfl | exact absurd h (by decide)

/-- The text behind an envelope's hash. -/
def hashedText (e : EncryptedForwardingEnvelope) : String :=
  envelopeText e.masterSecretId e.epoch e.recipientNodeId e.shareIndices e.encryptedShareBlobs

/-- The two ids keep clear of the delimiter, as every hex text does. -/
structure Delimitable (e : EncryptedForwardingEnvelope) : Prop where
  masterSecretId : '|' ∉ e.masterSecretId.toList
  recipientNodeId : '|' ∉ e.recipientNodeId.toList
  blobs : ∀ blob ∈ e.encryptedShareBlobs, '|' ∉ blob.toList

theorem toList_envelopeText (masterSecretId : String) (epoch : JsNumber) (nodeId : String)
    (shareIndices : List ℕ) (blobs : List String) :
    (envelopeText masterSecretId epoch nodeId shareIndices blobs).toList =
      "ENCRYPTED_FORWARD_V1|".toList ++ (masterSecretId.toList ++ '|' :: (epoch.toText.toList ++
        '|' :: (nodeId.toList ++ '|' ::
          ((String.intercalate "," (shareIndices.map toString)).toList ++
            '|' :: (String.intercalate "|" blobs).toList)))) := by
  have hbar (cs : List Char) : "|".toList ++ cs = '|' :: cs := by simp
  unfold envelopeText
  simp only [String.toList_append, List.append_assoc, hbar, List.cons_append]

theorem notMem_toString_nat {c : Char} (hc : c.isDigit = false) (n : ℕ) :
    c ∉ (toString n).toList := by
  intro h
  have hdigits : c ∈ Nat.toDigits 10 n := by simpa [toString, Nat.repr] using h
  have hdigit := Nat.isDigit_of_mem_toDigits (by decide) (by decide) hdigits
  exact Bool.false_ne_true (hc.symm.trans hdigit)

theorem bar_notMem_indices (shareIndices : List ℕ) :
    '|' ∉ (String.intercalate "," (shareIndices.map toString)).toList := by
  apply notMem_intercalate (by decide)
  intro s hs
  obtain ⟨n, -, rfl⟩ := List.mem_map.1 hs
  exact notMem_toString_nat (by decide) n

/-- The hashed text of an envelope determines what it was made of. -/
theorem envelopeText_inj {e e' : EncryptedForwardingEnvelope} (he : Delimitable e)
    (he' : Delimitable e') (hne : e.encryptedShareBlobs ≠ []) (hne' : e'.encryptedShareBlobs ≠ [])
    (h : hashedText e = hashedText e') :
    e.masterSecretId = e'.masterSecretId ∧ e.epoch = e'.epoch ∧
      e.recipientNodeId = e'.recipientNodeId ∧
      e.encryptedShareBlobs = e'.encryptedShareBlobs := by
  have hlist := congrArg String.toList h
  rw [hashedText, hashedText, toList_envelopeText, toList_envelopeText,
    List.append_cancel_left_eq] at hlist
  have hbar (n : JsNumber) : '|' ∉ n.toText.toList := notMem_toText (by decide) (by decide) n
  obtain ⟨hid, hlist⟩ := eq_of_append_cons he.masterSecretId he'.masterSecretId hlist
  obtain ⟨hepoch, hlist⟩ := eq_of_append_cons (hbar _) (hbar _) hlist
  obtain ⟨hnode, hlist⟩ := eq_of_append_cons he.recipientNodeId he'.recipientNodeId hlist
  obtain ⟨-, hblobs⟩ := eq_of_append_cons (bar_notMem_indices _) (bar_notMem_indices _) hlist
  exact ⟨String.toList_inj.1 hid, toText_injective (String.toList_inj.1 hepoch),
    String.toList_inj.1 hnode, intercalate_inj he.blobs he'.blobs hne hne'
      (String.toList_inj.1 hblobs)⟩

/-- An envelope numbers its blobs from one on, and it has at least one. -/
theorem shareIndices_eq {platform : ForwardPlatform} {params : ForwardParams}
    {receipt : SecretShareForwardReceipt} (h : Forwards platform params receipt) :
    receipt.envelope.encryptedShareBlobs ≠ [] ∧ receipt.envelope.shareIndices =
      (List.range receipt.envelope.encryptedShareBlobs.length).map (· + 1) := by
  obtain ⟨names, blobs, -, hblobs, rfl⟩ := h.receipt_eq
  have hlength : blobs.length = shareCount params.totalShares := by
    rw [length_encryptShares hblobs, shares, List.length_map, List.length_finRange]
  constructor
  · intro hnil
    change blobs = [] at hnil
    rw [hnil, shareCount, List.length_nil] at hlength
    omega
  · change (shares _ _ _ _).map SecretSplitShare.shareIndex = (List.range blobs.length).map _
    rw [shares, hlength, List.map_map, ← List.map_coe_finRange_eq_range, List.map_map]
    rfl

theorem envelopeHash_eq {platform : ForwardPlatform} {params : ForwardParams}
    {receipt : SecretShareForwardReceipt} (h : Forwards platform params receipt) :
    receipt.envelope.envelopeHash =
      sha256Hex platform.sha256 (hashedText receipt.envelope) := by
  obtain ⟨names, blobs, -, -, rfl⟩ := h.receipt_eq
  rfl

/-- Where the ids keep clear of the delimiter and the two hashed texts do not collide, the hash of a
forwarded envelope stands for the whole envelope: the secret, the epoch, the recipient and every
ciphertext in its place. -/
theorem envelopeHash_binds {platform platform' : ForwardPlatform} {params params' : ForwardParams}
    {bridge bridge' : EnclaveBridge} {receipt receipt' : SecretShareForwardReceipt}
    (hsha256 : platform'.sha256 = platform.sha256)
    (hforward : (forwardSplitSharesToNewNode platform params bridge).1 = .ok receipt)
    (hforward' : (forwardSplitSharesToNewNode platform' params' bridge').1 = .ok receipt')
    (hplain : Delimitable receipt.envelope) (hplain' : Delimitable receipt'.envelope)
    (hfree : CollisionFreeOn platform.sha256
      [hashedText receipt.envelope, hashedText receipt'.envelope]) :
    receipt.envelope.envelopeHash = receipt'.envelope.envelopeHash ↔
      receipt.envelope = receipt'.envelope := by
  obtain ⟨-, hforwards⟩ := forward_eq_ok_iff.1 hforward
  obtain ⟨-, hforwards'⟩ := forward_eq_ok_iff.1 hforward'
  obtain ⟨hne, hindices⟩ := shareIndices_eq hforwards
  obtain ⟨hne', hindices'⟩ := shareIndices_eq hforwards'
  constructor
  · intro hhash
    have hdigests := hhash
    rw [envelopeHash_eq hforwards, envelopeHash_eq hforwards', hsha256] at hdigests
    have htext := hfree _ List.mem_cons_self _ (List.mem_cons_of_mem _ List.mem_cons_self) hdigests
    obtain ⟨hid, hepoch, hnode, hblobs⟩ := envelopeText_inj hplain hplain' hne hne' htext
    rw [← hblobs, ← hindices] at hindices'
    cases henvelope : receipt.envelope
    cases henvelope' : receipt'.envelope
    rw [henvelope, henvelope'] at hid hepoch hnode hblobs hindices' hhash
    rw [EncryptedForwardingEnvelope.mk.injEq]
    exact ⟨hepoch, hid, hnode, hblobs, hindices'.symm, hhash⟩
  · intro heq
    rw [heq]

/-! ### A sample -/

open EnclaveRecoveryEngine (sampleEpoch)

def firstShareDigest : HexDigest := recoverySha256 "secret|1|SHARE_1"

/-- One share of a secret in its first epoch. -/
def sampleText (nodeId : String) : String :=
  envelopeText "secret" (.fin sampleEpoch) nodeId [1] [firstShareDigest.text]

/-- SHA-256 on the share and on the envelopes of two nodes. -/
def forwardSha256 : Sha256 := fun text =>
  if text = sampleText "node_1" then
    ⟨"57d6040501788a4269ac9f518da3ace7f6b01e17c251b16e9363fbe496cd9d47", by rfl⟩
  else if text = sampleText "node_2" then
    ⟨"72babc860045e537d0607d3c2d049f6c16a219929ebdf2b08a569228bb12fe68", by rfl⟩
  else firstShareDigest

/-- One key has signed the measurements of the expected build. -/
def forwardPlatform : ForwardPlatform where
  sha256 := forwardSha256
  rsa := fun publicKey data signature =>
    some (publicKey = "key" && data = EnclaveBridge.expectedPcr0 ++ ":1" && signature = "0a")
  publicEncrypt := fun _ _ plaintext => .ok plaintext

def sampleParams (nodeId : String) : ForwardParams where
  node := {
    nodeId := nodeId
    endpoint := "vsock://internal/node"
    attestationDocument := .obj [("pcr0", EnclaveBridge.expectedPcr0), ("pcr1", "1"),
      ("signature", "0a"), ("hsmPublicKey", "key")]
    nodePublicKeyPem := "pem" }
  epoch := .fin sampleEpoch
  masterSecretId := "secret"
  totalShares := .fin sampleEpoch

def sampleReceipt (nodeId : String) : SecretShareForwardReceipt :=
  receiptFor forwardSha256 (sampleParams nodeId) ⟨nodeId, "pem", "secret"⟩ [1]
    [firstShareDigest.text]

theorem shareCount_sample : shareCount (.fin sampleEpoch) = 1 := by
  simp [shareCount, toInt32, sampleEpoch, Binary64.ofInt, Int.bmod]

/-- The text of a share starts in another way than that of an envelope. -/
theorem forwardSha256_share (rest : String) :
    forwardSha256 ("secret" ++ rest) = firstShareDigest := by
  have hne (nodeId : String) : "secret" ++ rest ≠ sampleText nodeId := by
    intro h
    have hlist := congrArg String.toList h
    rw [sampleText, toList_envelopeText] at hlist
    simp at hlist
  unfold forwardSha256
  rw [if_neg (hne "node_1"), if_neg (hne "node_2")]

theorem shares_sample :
    ∃ h, shares forwardSha256 "secret" (.fin sampleEpoch) (.fin sampleEpoch) =
      [⟨1, firstShareDigest.text, h⟩] := by
  have hshare (share : SecretSplitShare) (hmem : share ∈
      shares forwardSha256 "secret" (.fin sampleEpoch) (.fin sampleEpoch)) :
      share.shareIndex = 1 ∧ share.shareBytesHex = firstShareDigest.text := by
    obtain ⟨i, -, rfl⟩ := List.mem_map.1 hmem
    have hi : i.val < 1 := shareCount_sample ▸ i.isLt
    refine ⟨by dsimp only; omega, ?_⟩
    dsimp only
    rw [String.append_assoc, String.append_assoc, String.append_assoc, sha256Hex,
      forwardSha256_share]
  have hlength : (shares forwardSha256 "secret" (.fin sampleEpoch) (.fin sampleEpoch)).length =
      1 := by
    rw [shares, List.length_map, List.length_finRange, shareCount_sample]
  obtain ⟨share, heq⟩ := List.length_eq_one_iff.1 hlength
  obtain ⟨hindex, hbytes⟩ := hshare share (by rw [heq]; exact List.mem_singleton_self _)
  rw [heq]
  obtain ⟨shareIndex, shareBytesHex, his⟩ := share
  subst hindex hbytes
  exact ⟨his, rfl⟩

theorem forward_sample (nodeId : String) (h : nodeId ≠ "") :
    (forwardSplitSharesToNewNode forwardPlatform (sampleParams nodeId) ⟨true, false⟩).1 =
      .ok (sampleReceipt nodeId) := by
  have hnames : checkedNames (sampleParams nodeId) = .ok ⟨nodeId, "pem", "secret"⟩ := by
    have hnode : assertNonEmptyString (.str nodeId) "NODE_ID" = .ok nodeId := if_neg h
    change (assertNonEmptyString (.str nodeId) "NODE_ID").bind _ = _
    rw [hnode]
    rfl
  obtain ⟨his, hshares⟩ := shares_sample
  refine forward_eq_ok_iff.2 ⟨rfl, _, hnames, rfl, ?_⟩
  unfold forwardShares
  dsimp only [forwardPlatform, sampleParams]
  rw [hshares]
  rfl

theorem openEnvelope_sample (nodeId : String) :
    openEnvelope some (sampleReceipt nodeId).envelope = some [(1, firstShareDigest.text)] := rfl

theorem presentsEnvelope_sample :
    PresentsEnvelope forwardSha256 "secret" (.fin sampleEpoch) (.fin sampleEpoch)
      [presentedShare "node_3" (1, firstShareDigest.text)] :=
  .mk rfl rfl rfl rfl rfl (forward_sample "node_1" (by decide))
    (fun _ _ _ h => congrArg some (Except.ok.inj h).symm) (openEnvelope_sample "node_1")
    rfl (List.nodup_singleton "node_3") (List.Perm.refl _)

theorem delimitable_sample {nodeId : String} (h : '|' ∉ nodeId.toList) :
    Delimitable (sampleReceipt nodeId).envelope := by
  have hid : '|' ∉ "secret".toList := by decide
  refine ⟨hid, h, ?_⟩
  intro blob hblob
  have hdigest := @separator_notMem_digest (fun _ => firstShareDigest) ""
  rwa [List.mem_singleton.1 hblob]

theorem sampleText_ne : sampleText "node_2" ≠ sampleText "node_1" := by
  intro h
  have hlist := congrArg String.toList h
  rw [sampleText, sampleText, toList_envelopeText, toList_envelopeText] at hlist
  simp at hlist

theorem envelopeHash_binds_sample :
    (sampleReceipt "node_1").envelope.envelopeHash =
        (sampleReceipt "node_2").envelope.envelopeHash ↔
      (sampleReceipt "node_1").envelope = (sampleReceipt "node_2").envelope := by
  have hforward := forward_sample "node_1" (by decide)
  have hforward' := forward_sample "node_2" (by decide)
  refine envelopeHash_binds rfl hforward hforward' (delimitable_sample (by decide))
    (delimitable_sample (by decide)) ?_
  change CollisionFreeOn forwardSha256 [sampleText "node_1", sampleText "node_2"]
  have hhash : sha256Hex forwardSha256 (sampleText "node_1") ≠
      sha256Hex forwardSha256 (sampleText "node_2") := by
    unfold sha256Hex forwardSha256
    rw [if_pos rfl, if_neg sampleText_ne, if_pos rfl]
    decide
  intro a ha b hb heq
  simp only [List.mem_cons, List.not_mem_nil, or_false] at ha hb
  rcases ha with rfl | rfl <;> rcases hb with rfl | rfl
  · rfl
  · exact absurd heq hhash
  · exact absurd heq.symm hhash
  · rfl

end EnclaveSecretForwarder

end UniverEscrow.Cryptography
