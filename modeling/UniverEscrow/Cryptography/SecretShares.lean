import UniverEscrow.Cryptography.EnclaveRecoveryEngine
import UniverEscrow.Lib.Delimited

/-!
# Shares of a master secret

The forwarder hashes each share out of the secret's id, the epoch and the share's index.  Recovery
hashes the shares it is given, so the secret stands for the set of nodes that took part.
-/

namespace UniverEscrow.Cryptography

open UniverEscrow.Js UniverEscrow.Merkle UniverEscrow.Enclave UniverEscrow.Lib

/-- The last part of two texts whose middle parts are equally long. -/
theorem eq_of_append_eq {head middle middle' separator last last' : String}
    (hlength : middle.toList.length = middle'.toList.length)
    (h : head ++ middle ++ separator ++ last = head ++ middle' ++ separator ++ last') :
    last = last' := by
  have hchars := congrArg String.toList h
  simp only [String.toList_append, List.append_assoc] at hchars
  have hrest := List.append_inj_right (List.append_cancel_left hchars) hlength
  exact String.toList_inj.1 (List.append_cancel_left hrest)

/-! ## The shares of the forwarder -/

/-- `x | 0`. -/
def toInt32 : JsNumber → ℤ
  | .fin x => Int.bmod (if 0 ≤ x.val then ⌊x.val⌋ else ⌈x.val⌉) (2 ^ 32)
  | _ => 0

/-- `Math.max(1, totalShares | 0)`. -/
def shareCount (totalShares : JsNumber) : ℕ := (max 1 (toInt32 totalShares)).toNat

theorem shareCount_lt (totalShares : JsNumber) : shareCount totalShares < 2 ^ 31 := by
  have hbound : toInt32 totalShares < 2 ^ 31 := by
    cases totalShares with
    | fin x =>
        have := Int.bmod_lt (x := if 0 ≤ x.val then ⌊x.val⌋ else ⌈x.val⌉) (m := 2 ^ 32)
          (by norm_num)
        rw [toInt32]
        omega
    | nan => decide
    | posInf => decide
    | negInf => decide
  rw [shareCount]
  omega

/-- An index the forwarder can give a share. -/
def IsShareIndex (i : ℕ) : Prop := 1 ≤ i ∧ i < 2 ^ 31

structure SecretSplitShare where
  shareIndex : ℕ
  shareBytesHex : String
  isShareIndex : IsShareIndex shareIndex
deriving DecidableEq

theorem isShareIndex_succ {totalShares : JsNumber} (i : Fin (shareCount totalShares)) :
    IsShareIndex (i.val + 1) := by
  have := shareCount_lt totalShares
  have := i.isLt
  exact ⟨by omega, by omega⟩

def shareText (masterSecretId : String) (epoch : Binary64) (i : ℕ) : String :=
  masterSecretId ++ "|" ++ EnclaveRecoveryEngine.numberText epoch ++ "|SHARE_" ++ toString i

/-- A digest goes through a buffer and back unchanged. -/
def splitShares (sha256 : Sha256) (masterSecretId : String) (epoch : Binary64)
    (totalShares : JsNumber) : List SecretSplitShare :=
  (List.finRange (shareCount totalShares)).map fun i : Fin (shareCount totalShares) =>
    ⟨i.val + 1, sha256Hex sha256 (shareText masterSecretId epoch (i.val + 1)), isShareIndex_succ i⟩

/-! ## Shares in the hands of nodes -/

/-- A node and the share it holds. -/
abbrev HeldShare := String × SecretSplitShare

/-- One share for each node. -/
def heldShares (sha256 : Sha256) (masterSecretId : String) (epoch : Binary64)
    (totalShares : JsNumber) (nodeIds : List String) : List HeldShare :=
  nodeIds.zip (splitShares sha256 masterSecretId epoch totalShares)

namespace HeldShare

/-- What the node presents after a restart. -/
def toJs (h : HeldShare) : JsValue :=
  .obj [("nodeId", h.1), ("shareIndex", .num (.ofInt h.2.shareIndex)),
    ("shareBytesHex", h.2.shareBytesHex)]

theorem abs_shareIndex_le (h : HeldShare) : |(h.2.shareIndex : ℤ)| ≤ 2 ^ 53 := by
  have := h.2.isShareIndex.2
  rw [abs_of_nonneg (by omega)]
  omega

/-- What the engine makes of it. -/
def nodeShare (h : HeldShare) : ReconstructedNodeShare :=
  ⟨h.1, .ofInt h.2.shareIndex h.abs_shareIndex_le, h.2.shareBytesHex⟩

end HeldShare

/-- The texts behind a recovered secret. -/
def hashedTexts (sha256 : Sha256) (masterSecretId : String) (epoch : Binary64)
    (presented : List HeldShare) : List String :=
  let sortedShares := EnclaveRecoveryEngine.sortByIndex (presented.map HeldShare.nodeShare)
  EnclaveRecoveryEngine.masterText sha256 masterSecretId epoch sortedShares ::
    EnclaveRecoveryEngine.materialText sortedShares ::
    presented.map fun h => shareText masterSecretId epoch h.2.shareIndex

/-- At least `threshold` of the held shares, each once and in any order. -/
structure Presents (held : List HeldShare) (threshold : Binary64) (presented : List HeldShare) :
    Prop where
  nodup : presented.Nodup
  subset : presented ⊆ held
  enough : threshold.val ≤ presented.length

section Held

variable {sha256 : Sha256} {masterSecretId : String} {epoch : Binary64} {totalShares : JsNumber}
  {nodeIds : List String} {h h' : HeldShare}

theorem length_splitShares (sha256 : Sha256) (masterSecretId : String) (epoch : Binary64)
    (totalShares : JsNumber) :
    (splitShares sha256 masterSecretId epoch totalShares).length = shareCount totalShares := by
  rw [splitShares, List.length_map, List.length_finRange]

theorem shareBytesHex_of_mem
    (hmem : h ∈ heldShares sha256 masterSecretId epoch totalShares nodeIds) :
    h.2.shareBytesHex = sha256Hex sha256 (shareText masterSecretId epoch h.2.shareIndex) := by
  obtain ⟨i, -, hi⟩ := List.mem_map.1 (List.of_mem_zip hmem).2
  rw [← hi]

theorem eq_of_node_eq (hlen : nodeIds.length = shareCount totalShares) (hnodes : nodeIds.Nodup)
    (hmem : h ∈ heldShares sha256 masterSecretId epoch totalShares nodeIds)
    (hmem' : h' ∈ heldShares sha256 masterSecretId epoch totalShares nodeIds) (heq : h.1 = h'.1) :
    h = h' := by
  have hfst : (heldShares sha256 masterSecretId epoch totalShares nodeIds).map Prod.fst =
      nodeIds := by
    refine List.map_fst_zip ?_
    rw [length_splitShares, hlen]
  have hnodup : ((heldShares sha256 masterSecretId epoch totalShares nodeIds).map
      Prod.fst).Nodup := by
    rw [hfst]
    exact hnodes
  exact List.inj_on_of_nodup_map hnodup hmem hmem' heq

theorem eq_of_shareIndex_eq (hlen : nodeIds.length = shareCount totalShares)
    (hmem : h ∈ heldShares sha256 masterSecretId epoch totalShares nodeIds)
    (hmem' : h' ∈ heldShares sha256 masterSecretId epoch totalShares nodeIds)
    (heq : h.2.shareIndex = h'.2.shareIndex) : h = h' := by
  have hsnd : ((heldShares sha256 masterSecretId epoch totalShares nodeIds).map fun h =>
      h.2.shareIndex) =
      (List.finRange (shareCount totalShares)).map fun i : Fin (shareCount totalShares) =>
        i.val + 1 := by
    rw [heldShares, ← Function.comp_def (fun s : SecretSplitShare => s.shareIndex) Prod.snd,
      ← List.map_map, List.map_snd_zip (by rw [length_splitShares, hlen]), splitShares,
      List.map_map]
    rfl
  have hnodup : ((heldShares sha256 masterSecretId epoch totalShares nodeIds).map fun h =>
      h.2.shareIndex).Nodup := by
    rw [hsnd]
    exact (List.nodup_finRange _).map fun i j (hij : i.val + 1 = j.val + 1) => Fin.ext (by omega)
  exact List.inj_on_of_nodup_map hnodup hmem hmem' heq

/-! ## What the engine makes of held shares -/

theorem wellFormedShare_toJs
    (hmem : h ∈ heldShares sha256 masterSecretId epoch totalShares nodeIds) :
    EnclaveRecoveryEngine.wellFormedShare h.toJs = some h.nodeShare := by
  have hbytes : h.2.shareBytesHex ≠ "" := by
    rw [shareBytesHex_of_mem hmem]
    exact HexDigest.text_ne_empty _
  have hnode : h.toJs.get "nodeId" = .str h.1 := rfl
  have hindex : h.toJs.get "shareIndex" =
      .num (.fin (.ofInt h.2.shareIndex h.abs_shareIndex_le)) :=
    congrArg JsValue.num (JsNumber.ofInt_eq_fin h.abs_shareIndex_le)
  have hhex : h.toJs.get "shareBytesHex" = .str h.2.shareBytesHex := rfl
  have hpos : ¬ (Binary64.ofInt h.2.shareIndex h.abs_shareIndex_le).val ≤ 0 := by
    have hone := h.2.isShareIndex.1
    have hcast : (1 : ℚ) ≤ h.2.shareIndex := by exact_mod_cast hone
    change ¬ (((h.2.shareIndex : ℤ) : ℚ)) ≤ 0
    push_cast
    linarith
  have hshare : EnclaveRecoveryEngine.shareOf h.1 h.toJs = some h.nodeShare := by
    rw [EnclaveRecoveryEngine.shareOf, hindex, hhex]
    simp only [Ledger.finiteNumber?, JsValue.asString?_str, bind, Option.bind_some, if_neg hpos,
      if_neg hbytes]
    rfl
  rw [EnclaveRecoveryEngine.wellFormedShare, hnode]
  exact hshare

theorem foldl_addShare_toJs {presented : List HeldShare}
    (hsubset : presented ⊆ heldShares sha256 masterSecretId epoch totalShares nodeIds)
    (distinct : OrderedMap String ReconstructedNodeShare)
    (hfresh : (distinct.keys ++ presented.map Prod.fst).Nodup) :
    (presented.map HeldShare.toJs).foldl EnclaveRecoveryEngine.addShare distinct =
      (presented.map fun h => (h.1, h.nodeShare)).foldl (fun m p => m.set p.1 p.2) distinct := by
  induction presented generalizing distinct with
  | nil => rfl
  | cons h presented ih =>
      have hnew : h.1 ∉ distinct.keys := by
        intro hmem
        rw [List.nodup_append] at hfresh
        exact hfresh.2.2 h.1 hmem h.1 (by simp) rfl
      have hnone : distinct.get? h.1 = none := by
        cases hget : distinct.get? h.1 with
        | none => rfl
        | some share =>
            exact absurd (List.mem_map.2 ⟨_, OrderedMap.mem_entries_iff.2 hget, rfl⟩) hnew
      have hadd :
          EnclaveRecoveryEngine.addShare distinct h.toJs = distinct.set h.1 h.nodeShare := by
        rw [EnclaveRecoveryEngine.addShare_eq, wellFormedShare_toJs (hsubset List.mem_cons_self)]
        change (if (distinct.get? h.1).isSome then distinct else distinct.set h.1 h.nodeShare) = _
        rw [hnone]
        rfl
      rw [List.map_cons, List.foldl_cons, List.map_cons, List.foldl_cons, hadd]
      refine ih (fun _ hmem => hsubset (List.mem_cons_of_mem _ hmem)) _ ?_
      rw [OrderedMap.keys_set, if_neg hnew, List.append_assoc]
      exact hfresh

/-- Different nodes' shares are kept as they come. -/
theorem values_distinctShares {presented : List HeldShare}
    (hsubset : presented ⊆ heldShares sha256 masterSecretId epoch totalShares nodeIds)
    (hnodes : (presented.map Prod.fst).Nodup) :
    (EnclaveRecoveryEngine.distinctShares (presented.map HeldShare.toJs)).values =
      presented.map HeldShare.nodeShare := by
  have hkeys : ((presented.map fun h => (h.1, h.nodeShare)).map Prod.fst).Nodup := by
    rw [List.map_map]
    exact hnodes
  rw [EnclaveRecoveryEngine.distinctShares,
    foldl_addShare_toJs hsubset .empty (by simpa using hnodes), OrderedMap.values,
    OrderedMap.entries_foldl_set]
  change (KeyedList.upsertAll Prod.fst [] _).map Prod.snd = _
  rw [KeyedList.upsertAll_of_nodup (by simpa using hkeys), List.nil_append, List.map_map]
  rfl

/-! ## The recovered secret -/

variable {threshold : Binary64} {xs ys : List HeldShare}

theorem nodup_nodes (hlen : nodeIds.length = shareCount totalShares) (hnodes : nodeIds.Nodup)
    (hxs : Presents (heldShares sha256 masterSecretId epoch totalShares nodeIds) threshold xs) :
    (xs.map Prod.fst).Nodup :=
  (List.nodup_map_iff_inj_on hxs.nodup).2 fun _ hx _ hy heq =>
    eq_of_node_eq hlen hnodes (hxs.subset hx) (hxs.subset hy) heq

/-- Sorting by the index forgets the order in which shares were presented. -/
theorem sortByIndex_eq (hlen : nodeIds.length = shareCount totalShares)
    (hxs : Presents (heldShares sha256 masterSecretId epoch totalShares nodeIds) threshold xs)
    (hys : Presents (heldShares sha256 masterSecretId epoch totalShares nodeIds) threshold ys)
    (hsame : ∀ h, h ∈ xs ↔ h ∈ ys) :
    EnclaveRecoveryEngine.sortByIndex (xs.map HeldShare.nodeShare) =
      EnclaveRecoveryEngine.sortByIndex (ys.map HeldShare.nodeShare) := by
  have hperm : xs.Perm ys := (List.perm_ext_iff_of_nodup hxs.nodup hys.nodup).2 hsame
  refine List.Perm.eq_of_pairwise ?_ (List.pairwise_insertionSort _ _)
    (List.pairwise_insertionSort _ _) ?_
  · intro a b ha hb hab hba
    obtain ⟨x, hx, rfl⟩ := List.mem_map.1 ((List.mem_insertionSort _).1 ha)
    obtain ⟨y, hy, rfl⟩ := List.mem_map.1 ((List.mem_insertionSort _).1 hb)
    have hval : ((x.2.shareIndex : ℤ) : ℚ) = ((y.2.shareIndex : ℤ) : ℚ) := le_antisymm hab hba
    have hindex : x.2.shareIndex = y.2.shareIndex := by exact_mod_cast hval
    rw [eq_of_shareIndex_eq hlen (hxs.subset hx) (hys.subset hy) hindex]
  · exact (List.perm_insertionSort _ _).trans
      ((hperm.map _).trans (List.perm_insertionSort _ _).symm)

theorem shareText_inj {i j : ℕ}
    (h : shareText masterSecretId epoch i = shareText masterSecretId epoch j) : i = j := by
  have hdigits : Nat.toDigits 10 i = Nat.toDigits 10 j := by
    have htext : toString i = toString j := by
      simpa [shareText, String.append_right_inj] using h
    exact String.ofList_injective htext
  rw [← Nat.ofDigitChars_toDigits (b := 10) (n := i) (by norm_num) (by norm_num), hdigits,
    Nat.ofDigitChars_toDigits (by norm_num) (by norm_num)]

theorem separator_notMem_digest (text : String) : '|' ∉ (sha256Hex sha256 text).toList := by
  have hhex := (sha256 text).isHex
  simp only [isHexDigest, Bool.and_eq_true, List.all_eq_true] at hhex
  intro hmem
  exact absurd (hhex.2 _ hmem) (by decide)

/-- Equal secrets come from equal share bytes. -/
theorem shareBytes_eq_of_masterSecretHex_eq
    (hxs : Presents (heldShares sha256 masterSecretId epoch totalShares nodeIds) threshold xs)
    (hys : Presents (heldShares sha256 masterSecretId epoch totalShares nodeIds) threshold ys)
    (hpos : 0 < threshold.val)
    (hfree : CollisionFreeOn sha256 (hashedTexts sha256 masterSecretId epoch xs ++
      hashedTexts sha256 masterSecretId epoch ys))
    (heq : EnclaveRecoveryEngine.masterSecretHex sha256 masterSecretId epoch
        (EnclaveRecoveryEngine.sortByIndex (xs.map HeldShare.nodeShare)) =
      EnclaveRecoveryEngine.masterSecretHex sha256 masterSecretId epoch
        (EnclaveRecoveryEngine.sortByIndex (ys.map HeldShare.nodeShare))) :
    (EnclaveRecoveryEngine.sortByIndex (xs.map HeldShare.nodeShare)).map
        ReconstructedNodeShare.shareBytesHex =
      (EnclaveRecoveryEngine.sortByIndex (ys.map HeldShare.nodeShare)).map
        ReconstructedNodeShare.shareBytesHex := by
  have hmaster := hfree _ (by simp [hashedTexts]) _ (by simp [hashedTexts]) heq
  have hhashes : sha256Hex sha256 (EnclaveRecoveryEngine.materialText
        (EnclaveRecoveryEngine.sortByIndex (xs.map HeldShare.nodeShare))) =
      sha256Hex sha256 (EnclaveRecoveryEngine.materialText
        (EnclaveRecoveryEngine.sortByIndex (ys.map HeldShare.nodeShare))) := by
    refine eq_of_append_eq ?_ hmaster
    rw [EnclaveRecoveryEngine.reconstructionSeed, EnclaveRecoveryEngine.reconstructionSeed,
      length_sha256Hex, length_sha256Hex]
  have hmaterial := hfree _ (by simp [hashedTexts]) _ (by simp [hashedTexts]) hhashes
  have hdigests : ∀ {zs : List HeldShare},
      Presents (heldShares sha256 masterSecretId epoch totalShares nodeIds) threshold zs →
      (∀ s ∈ (EnclaveRecoveryEngine.sortByIndex (zs.map HeldShare.nodeShare)).map
        ReconstructedNodeShare.shareBytesHex, '|' ∉ s.toList) ∧
      (EnclaveRecoveryEngine.sortByIndex (zs.map HeldShare.nodeShare)).map
        ReconstructedNodeShare.shareBytesHex ≠ [] := by
    intro zs hzs
    constructor
    · intro s hs
      obtain ⟨share, hshare, rfl⟩ := List.mem_map.1 hs
      obtain ⟨h, hmem, rfl⟩ := List.mem_map.1 ((List.mem_insertionSort _).1 hshare)
      change '|' ∉ h.2.shareBytesHex.toList
      rw [shareBytesHex_of_mem (hzs.subset hmem)]
      exact separator_notMem_digest _
    · intro hnil
      have hlength := congrArg List.length hnil
      rw [List.length_map, EnclaveRecoveryEngine.sortByIndex, List.length_insertionSort,
        List.length_map, List.length_nil] at hlength
      have henough := hzs.enough
      rw [hlength] at henough
      exact absurd (hpos.trans_le henough) (by simp)
  exact intercalate_inj (hdigests hxs).1 (hdigests hys).1 (hdigests hxs).2 (hdigests hys).2
    hmaterial

theorem subset_of_shareBytes_eq (hlen : nodeIds.length = shareCount totalShares)
    (hxs : Presents (heldShares sha256 masterSecretId epoch totalShares nodeIds) threshold xs)
    (hys : Presents (heldShares sha256 masterSecretId epoch totalShares nodeIds) threshold ys)
    (hfree : CollisionFreeOn sha256 (hashedTexts sha256 masterSecretId epoch xs ++
      hashedTexts sha256 masterSecretId epoch ys))
    (heq : (EnclaveRecoveryEngine.sortByIndex (xs.map HeldShare.nodeShare)).map
        ReconstructedNodeShare.shareBytesHex =
      (EnclaveRecoveryEngine.sortByIndex (ys.map HeldShare.nodeShare)).map
        ReconstructedNodeShare.shareBytesHex) : xs ⊆ ys := by
  intro x hx
  have hmem : x.2.shareBytesHex ∈
      (EnclaveRecoveryEngine.sortByIndex (ys.map HeldShare.nodeShare)).map
        ReconstructedNodeShare.shareBytesHex := by
    rw [← heq]
    exact List.mem_map.2 ⟨x.nodeShare,
      (List.mem_insertionSort _).2 (List.mem_map_of_mem hx), rfl⟩
  obtain ⟨share, hshare, hbytes⟩ := List.mem_map.1 hmem
  obtain ⟨y, hy, rfl⟩ := List.mem_map.1 ((List.mem_insertionSort _).1 hshare)
  change y.2.shareBytesHex = x.2.shareBytesHex at hbytes
  rw [shareBytesHex_of_mem (hys.subset hy), shareBytesHex_of_mem (hxs.subset hx)] at hbytes
  have htext := hfree _ (List.mem_append_right _ (List.mem_cons_of_mem _ (List.mem_cons_of_mem _
      (List.mem_map.2 ⟨y, hy, rfl⟩)))) _ (List.mem_append_left _ (List.mem_cons_of_mem _
      (List.mem_cons_of_mem _ (List.mem_map.2 ⟨x, hx, rfl⟩)))) hbytes
  rwa [← eq_of_shareIndex_eq hlen (hys.subset hy) (hxs.subset hx) (shareText_inj htext)]

/-- Enough held shares recover, and the secret is the one of the sorted shares. -/
theorem recover_of_presents {bridge : EnclaveBridge} (hready : bridge.isEnclaveReady = true)
    (hid : masterSecretId ≠ "") (hpos : 0 < threshold.val)
    (hlen : nodeIds.length = shareCount totalShares) (hnodes : nodeIds.Nodup)
    (hxs : Presents (heldShares sha256 masterSecretId epoch totalShares nodeIds) threshold xs) :
    EnclaveRecoveryEngine.recoverMasterSecretFromShares sha256 bridge (.num (.fin epoch))
        (.str masterSecretId) (.num (.fin threshold)) (xs.map HeldShare.toJs) =
      .ok (EnclaveRecoveryEngine.recoveredReceipt sha256 masterSecretId epoch threshold
        (EnclaveRecoveryEngine.sortByIndex (xs.map HeldShare.nodeShare))) := by
  have hvalues := values_distinctShares hxs.subset (nodup_nodes hlen hnodes hxs)
  have hsize : (EnclaveRecoveryEngine.distinctShares (xs.map HeldShare.toJs)).size =
      xs.length := by
    have hlength := congrArg List.length hvalues
    rwa [OrderedMap.values, List.length_map, List.length_map] at hlength
  rw [EnclaveRecoveryEngine.recoverMasterSecretFromShares,
    EnclaveRecoveryEngine.checkedParams_of_accepted hready hid hpos]
  dsimp only
  rw [EnclaveRecoveryEngine.receiptFor, hsize, if_neg (not_lt.2 hxs.enough), hvalues]

end Held

/-- Any two presentations of at least `threshold` held shares recover, in any order, and they
recover the same secret exactly when they are the same set of shares. -/
theorem recovered_secret_iff (sha256 : Sha256) (bridge : EnclaveBridge)
    (hready : bridge.isEnclaveReady = true) (masterSecretId : String) (hid : masterSecretId ≠ "")
    (epoch threshold : Binary64) (hpos : 0 < threshold.val) (totalShares : JsNumber)
    (nodeIds : List String) (hlen : nodeIds.length = shareCount totalShares)
    (hnodes : nodeIds.Nodup) (xs ys : List HeldShare)
    (hxs : Presents (heldShares sha256 masterSecretId epoch totalShares nodeIds) threshold xs)
    (hys : Presents (heldShares sha256 masterSecretId epoch totalShares nodeIds) threshold ys)
    (hfree : CollisionFreeOn sha256 (hashedTexts sha256 masterSecretId epoch xs ++
      hashedTexts sha256 masterSecretId epoch ys)) :
    ∃ receipt receipt',
      EnclaveRecoveryEngine.recoverMasterSecretFromShares sha256 bridge (.num (.fin epoch))
          (.str masterSecretId) (.num (.fin threshold)) (xs.map HeldShare.toJs) = .ok receipt ∧
        EnclaveRecoveryEngine.recoverMasterSecretFromShares sha256 bridge (.num (.fin epoch))
          (.str masterSecretId) (.num (.fin threshold)) (ys.map HeldShare.toJs) = .ok receipt' ∧
        receipt.recovered = true ∧ receipt'.recovered = true ∧
        (receipt.reconstructedMasterSecretHex = receipt'.reconstructedMasterSecretHex ↔
          ∀ h, h ∈ xs ↔ h ∈ ys) := by
  refine ⟨_, _, recover_of_presents hready hid hpos hlen hnodes hxs,
    recover_of_presents hready hid hpos hlen hnodes hys, rfl, rfl, ?_⟩
  constructor
  · intro heq h
    have hbytes := shareBytes_eq_of_masterSecretHex_eq hxs hys hpos hfree (Option.some.inj heq)
    have hfree' : CollisionFreeOn sha256 (hashedTexts sha256 masterSecretId epoch ys ++
        hashedTexts sha256 masterSecretId epoch xs) :=
      hfree.mono (List.append_subset.2 ⟨List.subset_append_right _ _,
        List.subset_append_left _ _⟩)
    exact ⟨fun hx => subset_of_shareBytes_eq hlen hxs hys hfree hbytes hx,
      fun hy => subset_of_shareBytes_eq hlen hys hxs hfree' hbytes.symm hy⟩
  · intro hsame
    have hsorted := sortByIndex_eq hlen hxs hys hsame
    simp only [EnclaveRecoveryEngine.recoveredReceipt, hsorted]

/-! ### A sample -/

open EnclaveRecoveryEngine (sampleEpoch twoShares)

/-- The digests of the three shares of a sample secret. -/
def shareDigest : Fin 3 → HexDigest
  | 0 => ⟨"a6ff1f2a5a73ea78a7ffc20df950634a829595f6b0d8eb19eaa6d3eb5762cee6", by decide +kernel⟩
  | 1 => ⟨"3b8bf8d899953b6271c4fb4722ba885a826e97a3f8481103d5cd146495fb7861", by decide +kernel⟩
  | 2 => ⟨"1694227cacc78e7ae374a32587ed287a68ad3a98f14c57d154ff250a97a3fcde", by decide +kernel⟩

/-- SHA-256 on the texts behind the secrets of the shares one and two and of one and three. -/
def recoverySha256 : Sha256 := fun text =>
  if text = "secret|1|SHARE_1" then shareDigest 0
  else if text = "secret|1|SHARE_2" then shareDigest 1
  else if text = "secret|1|SHARE_3" then shareDigest 2
  else if text = "RECONSTRUCT_SEED_V1|secret|1|1,2" then
    ⟨"17b3a095330c3601d76eaede29a1f5c0b5b5aec8a8725e6f01e1573dcb1d7e15", by decide +kernel⟩
  else if text = "RECONSTRUCT_SEED_V1|secret|1|1,3" then
    ⟨"ffc7cf3dc20e588032a06527ca806638eaa5e00a26ae8155795bc9549c08d926", by decide +kernel⟩
  else if text = (shareDigest 0).text ++ "|" ++ (shareDigest 1).text then
    ⟨"5858002529dcf611f6e92fc27cd1202e1c68a3efa55a80969265d47d3ab26691", by decide +kernel⟩
  else if text = (shareDigest 0).text ++ "|" ++ (shareDigest 2).text then
    ⟨"9a36c4c6f10fc81c6b789e249e3103056b8b12e832d22b41b6b441a2490bca4e", by decide +kernel⟩
  else if text = "MASTER_SECRET_DERIVE_V1|" ++
      "17b3a095330c3601d76eaede29a1f5c0b5b5aec8a8725e6f01e1573dcb1d7e15|" ++
      "5858002529dcf611f6e92fc27cd1202e1c68a3efa55a80969265d47d3ab26691" then
    ⟨"afdccb328035c5aff07a0c72bf750c98d81d40316f38a4cf57ea2be2f88b0f63", by decide +kernel⟩
  else ⟨"656e65a6fc198601f7ae891ae185f26252b93225ec7f9f0b5c72c9c02be8e759", by decide +kernel⟩

def sampleHeld : List HeldShare :=
  heldShares recoverySha256 "secret" sampleEpoch (.ofInt 3) ["node_1", "node_2", "node_3"]

/-- The sample shares at the given places. -/
def sharesAt (places : List ℕ) : List HeldShare := places.filterMap fun i => sampleHeld[i]?

theorem presents_sharesAt :
    Presents sampleHeld twoShares (sharesAt [0, 1]) ∧
      Presents sampleHeld twoShares (sharesAt [2, 0]) := by
  have hparts : (sharesAt [0, 1]).Nodup ∧ sharesAt [0, 1] ⊆ sampleHeld ∧
      (sharesAt [0, 1]).length = 2 ∧ (sharesAt [2, 0]).Nodup ∧ sharesAt [2, 0] ⊆ sampleHeld ∧
      (sharesAt [2, 0]).length = 2 := by
    decide +kernel
  obtain ⟨hnodup, hsubset, hlength, hnodup', hsubset', hlength'⟩ := hparts
  exact ⟨⟨hnodup, hsubset, by rw [hlength]; decide +kernel⟩,
    ⟨hnodup', hsubset', by rw [hlength']; decide +kernel⟩⟩

theorem collisionFreeOn_sample :
    CollisionFreeOn recoverySha256 (hashedTexts recoverySha256 "secret" sampleEpoch
      (sharesAt [0, 1]) ++ hashedTexts recoverySha256 "secret" sampleEpoch (sharesAt [2, 0])) := by
  decide +kernel

theorem recovered_secret_iff_sample :
    ∃ receipt receipt',
      EnclaveRecoveryEngine.recoverMasterSecretFromShares recoverySha256 ⟨true, false⟩
          (.num (.fin sampleEpoch)) (.str "secret") (.num (.fin twoShares))
          ((sharesAt [0, 1]).map HeldShare.toJs) = .ok receipt ∧
        EnclaveRecoveryEngine.recoverMasterSecretFromShares recoverySha256 ⟨true, false⟩
          (.num (.fin sampleEpoch)) (.str "secret") (.num (.fin twoShares))
          ((sharesAt [2, 0]).map HeldShare.toJs) = .ok receipt' ∧
        receipt.recovered = true ∧ receipt'.recovered = true ∧
        (receipt.reconstructedMasterSecretHex = receipt'.reconstructedMasterSecretHex ↔
          ∀ h, h ∈ sharesAt [0, 1] ↔ h ∈ sharesAt [2, 0]) :=
  recovered_secret_iff recoverySha256 ⟨true, false⟩ rfl "secret" (by decide) sampleEpoch twoShares
    (by decide +kernel) (.ofInt 3) ["node_1", "node_2", "node_3"] (by decide +kernel)
    (by decide) _ _ presents_sharesAt.1 presents_sharesAt.2 collisionFreeOn_sample

/-- Shares one and two recover another secret than shares one and three. -/
theorem quorums_recover_different_secrets :
    Presents sampleHeld twoShares (sharesAt [0, 1]) ∧
      Presents sampleHeld twoShares (sharesAt [2, 0]) ∧
      ((EnclaveRecoveryEngine.recoverMasterSecretFromShares recoverySha256 ⟨true, false⟩
        (.num (.ofInt 1)) (.str "secret") (.num (.ofInt 2))
        ((sharesAt [0, 1]).map HeldShare.toJs)).toOption.bind
          RecoveryReceipt.reconstructedMasterSecretHex =
        some "afdccb328035c5aff07a0c72bf750c98d81d40316f38a4cf57ea2be2f88b0f63") ∧
      ((EnclaveRecoveryEngine.recoverMasterSecretFromShares recoverySha256 ⟨true, false⟩
        (.num (.ofInt 1)) (.str "secret") (.num (.ofInt 2))
        ((sharesAt [2, 0]).map HeldShare.toJs)).toOption.bind
          RecoveryReceipt.reconstructedMasterSecretHex =
        some "656e65a6fc198601f7ae891ae185f26252b93225ec7f9f0b5c72c9c02be8e759") := by
  refine ⟨presents_sharesAt.1, presents_sharesAt.2, ?_⟩
  decide +kernel

end UniverEscrow.Cryptography
