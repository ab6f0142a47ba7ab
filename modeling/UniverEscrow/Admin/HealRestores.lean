import UniverEscrow.Admin.HealConserves
import UniverEscrow.Lib.FreeTree

/-!
# What a heal restores

The notary anchors a root and no leaf count, and the tree duplicates an odd last node, so a
ledger that repeats anchored records at its end can have the anchored root.  The scan starts
from the longest prefix and stops there.
-/

namespace UniverEscrow.Admin

open UniverEscrow.Js UniverEscrow.Ledger UniverEscrow.Merkle UniverEscrow.Lib

variable (sha256 : Sha256)

def leafHashes (records : List EscrowRecord) : List String :=
  records.map fun record => escrowRecordLeafHash sha256 record.toRow

/-- The leaf hashes of both ledgers make the same duplicate-last tree. -/
def SameTree (xs ys : List EscrowRecord) : Prop :=
  FreeTree.ofLeaves (leafHashes sha256 xs) = FreeTree.ofLeaves (leafHashes sha256 ys)

instance (xs ys : List EscrowRecord) : Decidable (SameTree sha256 xs ys) :=
  inferInstanceAs (Decidable (_ = _))

variable {sha256}

theorem leafHashes_eq (records : List EscrowRecord) :
    leafHashes sha256 records = records.map fun r => sha256Hex sha256 (leafText r) := rfl

theorem hashedNodes_subset (records : List EscrowRecord) :
    hashedNodes sha256 (leafHashes sha256 records) ⊆ ledgerHashedTexts sha256 records := by
  rw [leafHashes_eq]
  exact List.subset_append_right _ _

/-- The tree over the records' leaf hashes, with the texts behind its root. -/
theorem exists_tree (sha256 : Sha256) {records : List EscrowRecord} (hne : records ≠ []) :
    ∃ t, FreeTree.ofLeaves (leafHashes sha256 records) = [t] ∧
      FreeTree.eval (merkleNode sha256) t = (merkleOfRecords sha256 records).root ∧
      t.leaves ⊆ leafHashes sha256 records ∧
      FreeTree.pairs (merkleNode sha256) t ⊆ PairTree.treePairs (merkleNode sha256)
        (leafHashes sha256 records).length (leafHashes sha256 records) := by
  have hleaves : leafHashes sha256 records ≠ [] := by simpa [leafHashes] using hne
  obtain ⟨t, ht, htop, hmem, hpairs⟩ := FreeTree.exists_ofLeaves (merkleNode sha256) hleaves
  refine ⟨t, ht, ?_, hmem, hpairs⟩
  rw [topLayer_eq_singleton_getRoot sha256 hleaves] at htop
  rw [root_merkleOfRecords, leaves_merkleOfRecords]
  exact (List.singleton_inj.1 htop).symm

/-- Equal trees have equal roots, under any hash. -/
theorem root_eq_of_sameTree {xs ys : List EscrowRecord} (h : SameTree sha256 xs ys) :
    (merkleOfRecords sha256 xs).root = (merkleOfRecords sha256 ys).root := by
  unfold SameTree at h
  by_cases hxs : xs = []
  · by_cases hys : ys = []
    · rw [hxs, hys]
    · obtain ⟨t, ht, -⟩ := exists_tree sha256 hys
      rw [hxs, ht] at h
      cases h
  · obtain ⟨t, ht, hroot, -⟩ := exists_tree sha256 hxs
    by_cases hys : ys = []
    · rw [hys, ht] at h
      cases h
    · obtain ⟨t', ht', hroot', -⟩ := exists_tree sha256 hys
      rw [ht, ht', List.singleton_inj] at h
      rw [← hroot, ← hroot', h]

theorem leafText_ne_merkleNodeText (record : EscrowRecord) (left right : String) :
    leafText record ≠ merkleNodeText left right := by
  intro h
  have hchars := congrArg String.toList h
  rw [leafText_eq, merkleNodeText] at hchars
  simp at hchars

theorem leafText_ne_empty (record : EscrowRecord) : leafText record ≠ "" := by
  intro h
  have hchars := congrArg String.toList h
  rw [leafText_eq] at hchars
  simp at hchars

theorem merkleNodeText_ne_empty (left right : String) : merkleNodeText left right ≠ "" := by
  intro h
  have hchars := congrArg String.toList h
  rw [merkleNodeText] at hchars
  simp at hchars

/-- The root of some records is the digest of a leaf or node text of theirs. -/
theorem exists_text_root (sha256 : Sha256) {records : List EscrowRecord} (hne : records ≠ []) :
    ∃ text ∈ ledgerHashedTexts sha256 records, text ≠ "" ∧
      (merkleOfRecords sha256 records).root = sha256Hex sha256 text := by
  have hleaves : leafHashes sha256 records ≠ [] := by simpa [leafHashes] using hne
  obtain ⟨t, -, hroot, hmem, hpairs⟩ := exists_tree sha256 hne
  cases t with
  | leaf a =>
      obtain ⟨record, hrecord, rfl⟩ := List.mem_map.1 (hmem List.mem_cons_self)
      refine ⟨leafText record, ?_, leafText_ne_empty record, hroot.symm⟩
      exact List.mem_append_left _ (List.mem_map_of_mem hrecord)
  | node l r =>
      refine ⟨merkleNodeText (FreeTree.eval (merkleNode sha256) l)
        (FreeTree.eval (merkleNode sha256) r), ?_, merkleNodeText_ne_empty _ _, hroot.symm⟩
      have hpair : (FreeTree.eval (merkleNode sha256) l, FreeTree.eval (merkleNode sha256) r) ∈
          PairTree.treePairs (merkleNode sha256) (leafHashes sha256 records).length
            (leafHashes sha256 records) := by
        apply hpairs
        rw [FreeTree.pairs]
        exact List.mem_cons_self
      have hmem := mem_hashedNodes sha256 hleaves hpair
      exact hashedNodes_subset records hmem

/-- No leaf hash is a node's digest, unless a leaf text and a node text collide. -/
theorem leafHash_ne_merkleNode {xs ys : List EscrowRecord}
    (hfree : CollisionFreeOn sha256 (ledgerHashedTexts sha256 xs ++ ledgerHashedTexts sha256 ys))
    {a : String} (ha : a ∈ leafHashes sha256 xs) {p : String × String}
    (hp : merkleNodeText p.1 p.2 ∈ ledgerHashedTexts sha256 ys) :
    a ≠ merkleNode sha256 p.1 p.2 := by
  obtain ⟨record, hrecord, rfl⟩ := List.mem_map.1 ha
  intro heq
  have hleaf : leafText record ∈ ledgerHashedTexts sha256 xs :=
    List.mem_append_left _ (List.mem_map_of_mem hrecord)
  exact leafText_ne_merkleNodeText record p.1 p.2
    (hfree _ (List.mem_append_left _ hleaf) _ (List.mem_append_right _ hp) heq)

theorem collisionFreeOn_comm {xs ys : List String} (h : CollisionFreeOn sha256 (xs ++ ys)) :
    CollisionFreeOn sha256 (ys ++ xs) :=
  h.mono fun s hs => by
    rw [List.mem_append] at hs ⊢
    exact hs.symm

/-- Records and no records have different roots, unless a text and the empty one collide. -/
theorem root_ne_root_nil {records : List EscrowRecord} (hne : records ≠ [])
    (hfree : CollisionFreeOn sha256
      (ledgerHashedTexts sha256 records ++ ledgerHashedTexts sha256 [])) :
    (merkleOfRecords sha256 records).root ≠ (merkleOfRecords sha256 []).root := by
  obtain ⟨text, htext, hempty, hroot⟩ := exists_text_root sha256 hne
  rw [hroot]
  intro heq
  exact hempty (hfree text (List.mem_append_left _ htext) ""
    (List.mem_append_right _ (by simp [ledgerHashedTexts, hashedNodes])) heq)

/-- Unless hashed texts collide, equal roots come from equal trees. -/
theorem sameTree_of_root_eq {xs ys : List EscrowRecord}
    (hfree : CollisionFreeOn sha256 (ledgerHashedTexts sha256 xs ++ ledgerHashedTexts sha256 ys))
    (h : (merkleOfRecords sha256 xs).root = (merkleOfRecords sha256 ys).root) :
    SameTree sha256 xs ys := by
  by_cases hxs : xs = []
  · by_cases hys : ys = []
    · rw [hxs, hys]
      rfl
    · subst hxs
      exact absurd h.symm (root_ne_root_nil hys (collisionFreeOn_comm hfree))
  by_cases hys : ys = []
  · subst hys
    exact absurd h (root_ne_root_nil hxs hfree)
  have hxleaves : leafHashes sha256 xs ≠ [] := by simpa [leafHashes] using hxs
  have hyleaves : leafHashes sha256 ys ≠ [] := by simpa [leafHashes] using hys
  obtain ⟨s, hs, hsroot, hsleaves, hspairs⟩ := exists_tree sha256 hxs
  obtain ⟨t, ht, htroot, htleaves, htpairs⟩ := exists_tree sha256 hys
  have hinj := injectiveOnPairs_merkleNode sha256 hxleaves hyleaves
    (digestLength_leaves sha256 xs) (digestLength_leaves sha256 ys)
    (hfree.mono (List.append_subset.2
      ⟨List.subset_append_of_subset_left _ (List.subset_append_right _ _),
        List.subset_append_of_subset_right _ (List.subset_append_right _ _)⟩))
  have htree : s = t := by
    refine FreeTree.eq_of_eval_eq (merkleNode sha256) ?_ ?_ ?_ ?_
    · exact fun p hp q hq => hinj p (hspairs hp) q (htpairs hq)
    · exact fun a ha p hp => leafHash_ne_merkleNode hfree (hsleaves ha)
        (hashedNodes_subset ys (mem_hashedNodes sha256 hyleaves (htpairs hp)))
    · exact fun a ha p hp => leafHash_ne_merkleNode (collisionFreeOn_comm hfree) (htleaves ha)
        (hashedNodes_subset xs (mem_hashedNodes sha256 hxleaves (hspairs hp)))
    · rw [hsroot, htroot, h]
  rw [SameTree, hs, ht, htree]

/-! ## The healed ledger -/

theorem length_leafHashes (records : List EscrowRecord) :
    (leafHashes sha256 records).length = records.length := List.length_map _

/-- Records with different ids have different leaf hashes. -/
theorem nodup_leafHashes {records : List EscrowRecord}
    (hids : (records.map EscrowRecord.transactionId).Nodup)
    (hfree : CollisionFreeOn sha256 (ledgerHashedTexts sha256 records)) :
    (leafHashes sha256 records).Nodup := by
  refine (List.Nodup.of_map _ hids).map_on fun x hx y hy heq => ?_
  have htext : leafText x = leafText y :=
    hfree _ (List.mem_append_left _ (List.mem_map_of_mem hx)) _
      (List.mem_append_left _ (List.mem_map_of_mem hy)) heq
  have hfields := leafText_eq_iff.1 htext
  exact List.inj_on_of_nodup_map hids hx hy (congrArg Prod.fst hfields)

/-- The records on disk. -/
def recordsOf (store : Store) : List EscrowRecord :=
  (getAllRecords store).1.map StoredRecord.record

theorem readAllRecordsInternal_initializeStore (store : Store) :
    (readAllRecordsInternal (initializeStore store)).getD [] =
      (readAllRecordsInternal store).getD [] := by
  obtain ⟨ledger, checkpoint, initialized⟩ := store
  cases initialized with
  | true => rfl
  | false =>
      rcases ledger with - | (- | - | - | v)
      · rfl
      · rfl
      · rfl
      · rfl
      · cases v <;> rfl

/-- What readers get is decided by the ledger file alone, in whatever process. -/
theorem recordsOf_congr {store other : Store} (h : store.ledger = other.ledger) :
    recordsOf store = recordsOf other := by
  have hread : readAllRecordsInternal store = readAllRecordsInternal other := by
    rw [readAllRecordsInternal, readAllRecordsInternal, h]
  simp only [recordsOf, getAllRecords, readAllRecordsInternal_initializeStore, hread]

theorem recordsOf_initializeStore (store : Store) :
    recordsOf (initializeStore store) = recordsOf store := by
  rw [recordsOf, getAllRecords_initializeStore, recordsOf]

theorem recordsOf_writeLedger {store after : Store} {records : List StoredRecord}
    (h : after.ledger = (writeLedger (records.map StoredRecord.toEntry) store).ledger) :
    recordsOf after = records.map StoredRecord.record := by
  rw [recordsOf_congr h, recordsOf, getAllRecords, readAllRecordsInternal_initializeStore,
    readAllRecordsInternal_writeLedger_toEntry, Option.getD_some, List.map_map]
  rfl

theorem merkleOfStored_take (store : Store) (j : ℕ) :
    merkleOfStored sha256 ((getAllRecords store).1.take j) =
      merkleOfRecords sha256 ((recordsOf store).take j) := by
  rw [merkleOfStored, List.map_take]
  rfl

/-- A prefix with the tree of distinct records has at least their length, and at their length
their leaf hashes. -/
theorem leafHashes_eq_iff_of_sameTree {xs anchored : List EscrowRecord}
    (hnodup : (leafHashes sha256 anchored).Nodup) (h : SameTree sha256 xs anchored) :
    anchored.length ≤ xs.length ∧
      (leafHashes sha256 xs = leafHashes sha256 anchored ↔ xs.length = anchored.length) := by
  have hlen := FreeTree.length_le_of_ofLeaves_eq h hnodup
  rw [length_leafHashes, length_leafHashes] at hlen
  refine ⟨hlen, fun heq => ?_, fun heq => ?_⟩
  · simpa [length_leafHashes] using congrArg List.length heq
  · exact FreeTree.eq_of_ofLeaves_eq h (by rw [length_leafHashes, length_leafHashes, heq])

theorem recordsOf_splitAt {updatedAt : IsoTime} {root : String} {store after : Store} {k : ℕ}
    {file : QuarantineFile}
    (hsplit : SplitAt sha256 updatedAt root (getAllRecords store).1 k file after) :
    recordsOf after = (recordsOf store).take k := by
  simp [recordsOf, hsplit.ledger, List.map_take, Function.comp_def]

theorem leafHashes_splitAt_iff {updatedAt : IsoTime} {root : String} {store after : Store} {k : ℕ}
    {file : QuarantineFile} {anchored : List EscrowRecord}
    (hsplit : SplitAt sha256 updatedAt root (getAllRecords store).1 k file after)
    (hroot : root = (merkleOfRecords sha256 anchored).root)
    (hnodup : (leafHashes sha256 anchored).Nodup)
    (hfree : ∀ j ≤ (recordsOf store).length, CollisionFreeOn sha256
      (ledgerHashedTexts sha256 ((recordsOf store).take j) ++ ledgerHashedTexts sha256 anchored)) :
    leafHashes sha256 (recordsOf after) = leafHashes sha256 anchored ↔
      ∀ j ≤ (recordsOf store).length, anchored.length < j →
        ¬ SameTree sha256 ((recordsOf store).take j) anchored := by
  have hlength : (recordsOf store).length = (getAllRecords store).1.length := List.length_map _
  have hk : k ≤ (recordsOf store).length := hlength ▸ hsplit.le_length
  have hafter := recordsOf_splitAt hsplit
  have hsame : SameTree sha256 ((recordsOf store).take k) anchored := by
    apply sameTree_of_root_eq (hfree k hk)
    rw [← hroot, ← hsplit.root_eq, ← hafter]
    rfl
  have hlonger (j : ℕ) (hkj : k < j) (hj : j ≤ (recordsOf store).length) :
      ¬ SameTree sha256 ((recordsOf store).take j) anchored := by
    intro hsame'
    apply hsplit.longest j hkj (hlength ▸ hj)
    rw [merkleOfStored_take, root_eq_of_sameTree hsame', hroot]
  obtain ⟨hle, hiff⟩ := leafHashes_eq_iff_of_sameTree hnodup hsame
  rw [List.length_take, Nat.min_eq_left hk] at hle hiff
  rw [hafter, hiff]
  constructor
  · rintro rfl j hj hlt
    exact hlonger j hlt hj
  · intro hshort
    by_contra hne
    exact hshort k hk (by omega) hsame

/-- What a heal must meet to restore the anchored ledger: a recorded request finds it in place,
and no prefix longer than it makes its tree. -/
def Restorable (sha256 : Sha256) (files : RecoveryFiles) (requestId : JsValue)
    (disk anchored : List EscrowRecord) : Prop :=
  if includesRequest (readRecoveryRequests files.requests) requestId then
    leafHashes sha256 disk = leafHashes sha256 anchored
  else
    ∀ j ≤ disk.length, anchored.length < j → ¬ SameTree sha256 (disk.take j) anchored

/-- A heal that succeeds leaves the anchored ledger, exactly if no longer prefix of the ledger
on disk has the same tree of leaf hashes; a recorded request leaves what it finds. -/
theorem heal_restores_iff (platform : RecoveryPlatform) (env : RecoveryEnv) (clock : HealClock)
    (replies : ℕ → NotaryReply) (payload : JsValue) (store after : Store)
    (files afterFiles : RecoveryFiles) (outcome : AdminRecoveryOutcome)
    (state : NotaryAuthoritativeState) (anchored : List EscrowRecord)
    (hids : (anchored.map EscrowRecord.transactionId).Nodup)
    (hstate : fetchAuthoritativeState replies = some state)
    (hroot : state.root = (merkleOfRecords platform.sha256 anchored).root)
    (hfree : ∀ j ≤ (recordsOf store).length, CollisionFreeOn platform.sha256
      (ledgerHashedTexts platform.sha256 ((recordsOf store).take j) ++
        ledgerHashedTexts platform.sha256 anchored))
    (hresult : attemptHealAndReturnOutcome platform env clock replies payload store files =
      (after, afterFiles, .ok outcome))
    (hok : outcome.ok = true) :
    leafHashes platform.sha256 (recordsOf after) = leafHashes platform.sha256 anchored ↔
      Restorable platform.sha256 files (payload.get "requestId") (recordsOf store) anchored := by
  have hnodup : (leafHashes platform.sha256 anchored).Nodup :=
    nodup_leafHashes hids ((hfree 0 (Nat.zero_le _)).mono (List.subset_append_right _ _))
  have hends := attemptHeal_ends platform env clock replies payload store files
  rw [hresult] at hends
  unfold Restorable
  cases hends with
  | recorded hrecorded => rw [if_pos hrecorded]
  | stopped _ _ _ hstopped => cases (hstopped outcome rfl).symm.trans hok
  | @healed _ k text hnew hheals =>
      rw [if_neg (by simp [hnew])]
      cases hstate.symm.trans hheals.fetched
      have hsplit := truncateLedger_splitAt hheals.found clock.updatedAt
        (quarantineName clock text) (payload.get "requestId") (initializeStore store) files
        (storeInitialized_initializeStore store)
      exact leafHashes_splitAt_iff hsplit hroot hnodup hfree

theorem getAuthoritativeState_notaryWithRoot {root : String} (hroot : root ≠ "") :
    ∃ state, (∀ attempt, getAuthoritativeState (notaryWithRoot root attempt) = some state) ∧
      state.root = root := by
  have hinteger : (JsNumber.ofInt 1).isInteger = true := isInteger_ofInt (by norm_num)
  simp [getAuthoritativeState, notaryWithRoot, JsValue.get, JsValue.isObject, hinteger, hroot]

theorem fetchAuthoritativeState_notaryWithRoot {root : String} (hroot : root ≠ "") :
    ∃ state, fetchAuthoritativeState (notaryWithRoot root) = some state ∧ state.root = root := by
  obtain ⟨state, hanswer, hstate⟩ := getAuthoritativeState_notaryWithRoot hroot
  refine ⟨state, ?_, hstate⟩
  simp only [fetchAuthoritativeState, maxAttempts, fetchFrom, hanswer]

theorem heal_restores_iff_sample :
    ∃ outcome : AdminRecoveryOutcome, outcome.ok = true ∧
      (leafHashes healSha256 (recordsOf sampleHeal.1) = leafHashes healSha256 [sampleRecord] ↔
        Restorable healSha256 ⟨none, []⟩ (signedRequest.get "requestId") (recordsOf twoRecords)
          [sampleRecord]) := by
  obtain ⟨outcome, hrun, hok, -⟩ := sampleHeal_eq
  obtain ⟨state, hstate, hroot⟩ :=
    fetchAuthoritativeState_notaryWithRoot sampleRoot.text_ne_empty
  exact ⟨outcome, hok, heal_restores_iff healPlatform oneOfficer healClock
    (notaryWithRoot sampleRoot.text) signedRequest twoRecords sampleHeal.1 ⟨none, []⟩
    sampleHeal.2.1 outcome state [sampleRecord] (by decide) hstate
    (hroot.trans (by decide +kernel)) (by decide +kernel) hrun hok⟩

/-! ## A ledger with its last record twice -/

def sampleThird : EscrowRecord :=
  { sampleRecord with transactionId := "tx_746e742d333a6163632d393a313030" }

def anchoredThree : List EscrowRecord := [sampleRecord, sampleSecond, sampleThird]

/-- The anchored ledger with its last record written again. -/
def repeatedLast : List EscrowRecord := anchoredThree ++ [sampleThird]

def storeOf (records : List EscrowRecord) : Store :=
  writeLedger (records.map fun r => r.toRow.toEntry)
    { ledger := none, checkpoint := none, storeInitialized := true }

theorem readAllRecordsInternal_storeOf (records : List EscrowRecord) :
    ∃ stored, readAllRecordsInternal (storeOf records) = some stored ∧
      stored.map StoredRecord.record = records := by
  have hholds : List.Forall₂ LedgerEntry.Holds (records.map fun r => r.toRow.toEntry) records := by
    induction records with
    | nil => exact .nil
    | cons record records ih => exact .cons (toEntry_toRow_holds record) ih
  exact readAllRecordsInternal_writeLedger hholds
    { ledger := none, checkpoint := none, storeInitialized := true }

theorem recordsOf_storeOf (records : List EscrowRecord) :
    recordsOf (storeOf records) = records := by
  obtain ⟨stored, hread, hrecords⟩ := readAllRecordsInternal_storeOf records
  have hinit : initializeStore (storeOf records) = storeOf records :=
    initializeStore_of_initialized rfl
  rw [recordsOf, getAllRecords, hinit, hread, Option.getD_some, hrecords]

theorem verifyMultiSig_signedRequest (sha256 : Sha256) :
    verifyMultiSig { healPlatform with sha256 := sha256 } oneOfficer healClock.verifiedAtMs
      signedRequest = some true := by
  have hfresh : NotExpired { healPlatform with sha256 := sha256 } healClock.verifiedAtMs
      signedRequest := by
    refine ⟨.ofInt 4102444800000, ?_, by decide +kernel, by decide +kernel⟩
    show dateTime sampleDateParse _ = _
    decide +kernel
  have hthreshold : thresholdM oneOfficer = 1 := by decide +kernel
  have hofficers : recoveryOfficerPublicKeys oneOfficer = ["KEY-A"] := by decide +kernel
  refine verifyMultiSig_eq_true.2 ⟨_, ⟨rfl, rfl, hfresh, rfl⟩, ?_⟩
  rw [hthreshold, hofficers]
  -- whatever the message's digest, it is a text the officer's signature stands for
  have hmessage : recoveryMessageToVerify sha256 signedRequest ≠ "" := (sha256 _).text_ne_empty
  generalize recoveryMessageToVerify sha256 signedRequest = message at hmessage
  have hhex : Enclave.isHexBytes "6a1f" = true := by decide
  simp [countSignatures, countSignature, JsValue.get, Enclave.verifySignature, healPlatform,
    hmessage, JsValue.truthy, hhex]

theorem sameTree_repeatedLast (sha256 : Sha256) : SameTree sha256 repeatedLast anchoredThree := rfl

theorem healsTo_repeatedLast {sha256 : Sha256} {state : NotaryAuthoritativeState}
    (hstate : fetchAuthoritativeState
      (notaryWithRoot (merkleOfRecords sha256 anchoredThree).root) = some state)
    (hroot : state.root = (merkleOfRecords sha256 anchoredThree).root) :
    HealsTo { healPlatform with sha256 := sha256 } oneOfficer healClock
      (notaryWithRoot (merkleOfRecords sha256 anchoredThree).root) signedRequest
      (storeOf repeatedLast) state 4 "r1" where
  verified := verifyMultiSig_signedRequest sha256
  fetched := hstate
  named := rfl
  found := by
    have hlength : (getAllRecords (storeOf repeatedLast)).1.length = 4 := by
      rw [← List.length_map StoredRecord.record]
      exact congrArg List.length (recordsOf_storeOf repeatedLast)
    rw [hlength, healedPrefixLen_eq_some]
    refine ⟨le_refl 4, (prefixMatches_iff hlength.ge).2 ?_, fun j hj hj' => by omega⟩
    rw [merkleOfStored_take, recordsOf_storeOf, hroot]
    exact root_eq_of_sameTree (sameTree_repeatedLast sha256)

/-- Whatever the hash, the ledger with its last record twice is healed to itself. -/
theorem repeated_last_record_survives_heal :
    (anchoredThree.map EscrowRecord.transactionId).Nodup ∧
      ∀ sha256 : Sha256, ∃ state after afterFiles outcome,
        fetchAuthoritativeState
            (notaryWithRoot (merkleOfRecords sha256 anchoredThree).root) = some state ∧
          state.root = (merkleOfRecords sha256 anchoredThree).root ∧
          attemptHealAndReturnOutcome { healPlatform with sha256 := sha256 } oneOfficer healClock
              (notaryWithRoot (merkleOfRecords sha256 anchoredThree).root) signedRequest
              (storeOf repeatedLast) ⟨none, []⟩ = (after, afterFiles, .ok outcome) ∧
          outcome.ok = true ∧ recordsOf after = repeatedLast ∧
          leafHashes sha256 (recordsOf after) ≠ leafHashes sha256 anchoredThree := by
  refine ⟨by decide, fun sha256 => ?_⟩
  obtain ⟨state, hstate, hroot⟩ := fetchAuthoritativeState_notaryWithRoot
    (root_merkleOfRecords_ne_empty sha256 anchoredThree)
  have hheals := healsTo_repeatedLast hstate hroot
  generalize hrun : attemptHealAndReturnOutcome { healPlatform with sha256 := sha256 } oneOfficer
    healClock (notaryWithRoot (merkleOfRecords sha256 anchoredThree).root) signedRequest
    (storeOf repeatedLast) ⟨none, []⟩ = run
  have hends := attemptHeal_ends { healPlatform with sha256 := sha256 } oneOfficer healClock
    (notaryWithRoot (merkleOfRecords sha256 anchoredThree).root) signedRequest
    (storeOf repeatedLast) ⟨none, []⟩
  rw [hrun] at hends
  cases hends with
  | recorded hrecorded => cases hrecorded
  | stopped _ hnone => exact absurd hheals (hnone state 4 "r1")
  | @healed _ k text _ hheals' =>
      cases hstate.symm.trans hheals'.fetched
      cases hheals.found.symm.trans hheals'.found
      have hsplit := truncateLedger_splitAt hheals.found healClock.updatedAt
        (quarantineName healClock text) (signedRequest.get "requestId")
        (initializeStore (storeOf repeatedLast)) ⟨none, []⟩ (storeInitialized_initializeStore _)
      have hafter := recordsOf_splitAt hsplit
      rw [recordsOf_storeOf] at hafter
      refine ⟨state, _, _, _, hstate, hroot, rfl, rfl, hafter, fun heq => ?_⟩
      rw [hafter] at heq
      cases congrArg List.length heq

end UniverEscrow.Admin
