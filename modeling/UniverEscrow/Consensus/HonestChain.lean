import UniverEscrow.Consensus.CatchUpHead

/-!
# Applying an honest chain

From an engine that stands at an index and a hash, the blocks of a well-formed chain that go on
from there are accepted one by one, and a block that names another hash is not.
-/

namespace UniverEscrow.Consensus

open UniverEscrow.Js UniverEscrow.Merkle UniverEscrow.Lib

variable (sha256 : Sha256)

/-- The block after the index `first` and the hash `g`: it carries the fold of its own entries
and a signature. -/
structure NextBlock (first : ℕ) (g block : JsValue) : Prop where
  indexed : block.get "index" = .num (.ofInt (first + 1 : ℕ))
  linked : previousHash block = g
  hashed : HashedBlock sha256 block
  signed : ∃ s, block.get "signature" = .str s ∧ s ≠ ""

/-- Blocks that go on from the index `first` and the hash `g`. -/
def ChainFrom : ℕ → JsValue → List JsValue → Prop
  | _, _, [] => True
  | first, g, block :: blocks =>
      NextBlock sha256 first g block ∧ ChainFrom (first + 1) (merkleHash block) blocks

/-- The engine is in a session, last applied the index `first` and holds the hash `g`. -/
def StandsAt (engine : EnclaveReconciliationEngine) (first : ℕ) (g : JsValue) : Prop :=
  ∃ state, engine.reconciliationState = some state ∧ state.isReconciling = true ∧
    engine.lastAppliedIndex state = .num (.ofInt first) ∧ engine.lastAppliedMerkleHash = g

def applyBlocks (engine : EnclaveReconciliationEngine) (blocks : List JsValue) :
    EnclaveReconciliationEngine :=
  blocks.foldl (fun e block => (e.applyCatchUpBlock sha256 block).2) engine

/-- Every block is accepted when submitted after the ones before it. -/
def AllApplied : EnclaveReconciliationEngine → List JsValue → Prop
  | _, [] => True
  | engine, block :: blocks =>
      (engine.applyCatchUpBlock sha256 block).1 = .ok () ∧
        AllApplied (engine.applyCatchUpBlock sha256 block).2 blocks

variable {sha256} {engine : EnclaveReconciliationEngine} {first : ℕ} {g : JsValue}
  {block : JsValue} {blocks : List JsValue}

theorem chainFrom_append {more : List JsValue} :
    ChainFrom sha256 first g (blocks ++ more) ↔
      ChainFrom sha256 first g blocks ∧
        ChainFrom sha256 (first + blocks.length) (HashChain.headFrom merkleHash g blocks) more := by
  induction blocks generalizing first g with
  | nil => simp [ChainFrom]
  | cons block blocks ih =>
      rw [List.cons_append, ChainFrom, ChainFrom, ih, and_assoc, HashChain.headFrom_cons,
        List.length_cons, Nat.add_right_comm, Nat.add_assoc]

theorem chainFrom_drop {k : ℕ} (h : ChainFrom sha256 first g blocks) (hk : k ≤ blocks.length) :
    ChainFrom sha256 (first + k) (HashChain.headFrom merkleHash g (blocks.take k))
      (blocks.drop k) := by
  rw [← List.take_append_drop k blocks, chainFrom_append, List.length_take, min_eq_left hk] at h
  exact h.2

theorem nextBlock_of_mem (h : ChainFrom sha256 first g blocks) (hmem : block ∈ blocks) :
    ∃ first' g', NextBlock sha256 first' g' block := by
  induction blocks generalizing first g with
  | nil => cases hmem
  | cons b blocks ih =>
      rcases List.mem_cons.1 hmem with rfl | hmem
      · exact ⟨first, g, h.1⟩
      · exact ih h.2 hmem

theorem addOne_ofInt (h : first < 2 ^ 53) :
    addOne (.num (.ofInt first)) = some (.num (.ofInt (first + 1 : ℕ))) := by
  rw [addOne, JsNumber.add_ofInt (abs_le.2 ⟨by omega, by omega⟩) (by norm_num)]
  push_cast
  rfl

/-- The next block is accepted exactly when it names the hash the engine holds. -/
theorem applied_iff {g' : JsValue} (hstands : StandsAt engine first g) (hfirst : first < 2 ^ 53)
    (hblock : NextBlock sha256 first g' block) :
    (engine.applyCatchUpBlock sha256 block).1 = .ok () ↔ g'.strictEq g = true := by
  obtain ⟨state, hstate, hactive, hlast, rfl⟩ := hstands
  constructor
  · intro hok
    obtain ⟨state', index, haccepts⟩ := EnclaveReconciliationEngine.exists_accepts_of_applied hok
    have hlinked := haccepts.linked
    rwa [show block.get "previousMerkleHash" = g' from hblock.linked] at hlinked
  · intro hlinked
    have haccepts : EnclaveReconciliationEngine.Accepts sha256 engine state
        (.num (.ofInt (first + 1 : ℕ))) block := by
      refine ⟨hstate, hactive, ?_, hblock.indexed, ?_, ?_, hblock.hashed, hblock.signed⟩
      · rw [hlast]
        exact addOne_ofInt hfirst
      · intro h
        exact JsNumber.ofInt_ne_nan (abs_le.2 ⟨by omega, by omega⟩) (IndexKey.num.inj h)
      · rwa [show block.get "previousMerkleHash" = g' from hblock.linked]
    rw [EnclaveReconciliationEngine.applyCatchUpBlock_of_accepts haccepts]

theorem standsAt_applied (hstands : StandsAt engine first g) (hfirst : first < 2 ^ 53)
    (hok : (engine.applyCatchUpBlock sha256 block).1 = .ok ()) :
    StandsAt (engine.applyCatchUpBlock sha256 block).2 (first + 1) (merkleHash block) := by
  obtain ⟨state, hstate, hactive, hlast, -⟩ := hstands
  obtain ⟨state', index, haccepts⟩ := EnclaveReconciliationEngine.exists_accepts_of_applied hok
  obtain rfl : state' = state := Option.some.inj (haccepts.active.symm.trans hstate)
  obtain rfl : index = .num (.ofInt (first + 1 : ℕ)) := by
    have hexpected := haccepts.expected
    rw [hlast, addOne_ofInt hfirst] at hexpected
    exact (Option.some.inj hexpected).symm
  rw [EnclaveReconciliationEngine.applyCatchUpBlock_of_accepts haccepts]
  refine ⟨_, rfl, hactive, lastAppliedIndex_recordBlock hlast ?_, rfl⟩
  rw [JsNumber.lt_ofInt (abs_le.2 ⟨by omega, by omega⟩) (abs_le.2 ⟨by omega, by omega⟩)]
  omega

/-- An engine that stands where a chain goes on takes all of it and stands at its end. -/
theorem allApplied_of_chainFrom (hstands : StandsAt engine first g) (htext : ∃ s, g = .str s)
    (hlength : first + blocks.length < 2 ^ 53) (hchain : ChainFrom sha256 first g blocks) :
    AllApplied sha256 engine blocks ∧
      StandsAt (applyBlocks sha256 engine blocks) (first + blocks.length)
        (HashChain.headFrom merkleHash g blocks) := by
  induction blocks generalizing engine first g with
  | nil => exact ⟨trivial, hstands⟩
  | cons block blocks ih =>
      rw [List.length_cons] at hlength
      obtain ⟨s, rfl⟩ := htext
      have hok : (engine.applyCatchUpBlock sha256 block).1 = .ok () :=
        (applied_iff hstands (by omega) hchain.1).2 (strictEq_str.2 rfl)
      obtain ⟨hash, -, hmerkle⟩ := hchain.1.hashed
      obtain ⟨hall, hend⟩ := ih (standsAt_applied hstands (by omega) hok) ⟨hash, hmerkle⟩ (by omega)
        hchain.2
      rw [Nat.add_assoc, Nat.add_comm 1] at hend
      exact ⟨⟨hok, hall⟩, hend⟩

theorem standsAt_begin (engine : EnclaveReconciliationEngine)
    (startedAt targetCommitIndex : JsNumber) (first : ℕ) :
    StandsAt (engine.beginReconciliation startedAt (.ofInt first) targetCommitIndex) first
      engine.lastAppliedMerkleHash :=
  ⟨_, rfl, rfl, rfl, rfl⟩

end UniverEscrow.Consensus
