import UniverEscrow.Lib.Except
import UniverEscrow.Lib.Run
import Mathlib.Data.List.Nodup
import Mathlib.Logic.Function.Basic

/-!
# Calls that read, settle and write back

A call reads the shared state, settles with a third party what it has read, and writes back.
Each of the three is atomic, but other calls go on in between.  Where every call writes what it
would have written had it read the present state, the calls that succeed are serial in the order of
their writes.
-/

namespace UniverEscrow.Lib.ReadModifyWrite

/-- What a call takes from the shared state, what it settles of that, and what it leaves. -/
structure Call (σ α β ε : Type) where
  read : σ → Except ε α
  settle : α → Except ε β
  write : β → σ → σ

variable {κ σ α β ε ρ : Type}

/-- The call with no other in between. -/
def Call.atomic (call : Call σ α β ε) (s : σ) : Except ε (σ × β) := do
  let a ← call.read s
  let b ← call.settle a
  return (call.write b s, b)

inductive Phase (α β ε : Type) where
  | start
  | asking (a : α)
  | writing (a : α) (b : β)
  | done (a : α) (b : β)
  | failed (error : ε)

/-- How many parts of the call are left. -/
def Phase.remaining : Phase α β ε → ℕ
  | .start => 3
  | .asking _ => 2
  | .writing _ _ => 1
  | .done _ _ => 0
  | .failed _ => 0

structure World (κ σ α β ε : Type) where
  shared : σ
  phase : κ → Phase α β ε

def World.initial (shared : σ) : World κ σ α β ε := ⟨shared, fun _ => .start⟩

/-- The next atomic part of a call. -/
def Call.next (call : Call σ α β ε) (shared : σ) : Phase α β ε → σ × Phase α β ε
  | .start =>
      match call.read shared with
      | .ok a => (shared, .asking a)
      | .error e => (shared, .failed e)
  | .asking a =>
      match call.settle a with
      | .ok b => (shared, .writing a b)
      | .error e => (shared, .failed e)
  | .writing a b => (call.write b shared, .done a b)
  | .done a b => (shared, .done a b)
  | .failed e => (shared, .failed e)

variable (calls : κ → Call σ α β ε)

/-- The calls of the log, each with its request, lead from one state to the other when they run
one after another. -/
inductive Replays (request : α → ρ) (s₀ : σ) : List (κ × ρ) → σ → Prop
  | nil : Replays request s₀ [] s₀
  | snoc {log : List (κ × ρ)} {s : σ} {k : κ} {a : α} {b : β} (before : Replays request s₀ log s)
      (read : (calls k).read s = .ok a) (settle : (calls k).settle a = .ok b) :
      Replays request s₀ (log ++ [(k, request a)]) ((calls k).write b s)

/-- Some order of the calls that are done leads to the same state with the same requests. -/
def Serial (request : α → ρ) (s₀ : σ) (w : World κ σ α β ε) : Prop :=
  ∃ log, Replays calls request s₀ log w.shared ∧ (log.map Prod.fst).Nodup ∧
    ∀ k r, (k, r) ∈ log ↔ ∃ a b, w.phase k = .done a b ∧ request a = r

/-- A call that writes would do the same had it read the present state. -/
def Valid (request : α → ρ) (w : World κ σ α β ε) (k : κ) : Prop :=
  ∀ a b, w.phase k = .writing a b → ∃ a' b', (calls k).read w.shared = .ok a' ∧
    request a' = request a ∧ (calls k).settle a' = .ok b' ∧
    (calls k).write b' w.shared = (calls k).write b w.shared

variable {calls} {request : α → ρ} {s₀ : σ} {w : World κ σ α β ε} {k : κ}

theorem serial_initial (calls : κ → Call σ α β ε) (request : α → ρ) (s₀ : σ) :
    Serial calls request s₀ (World.initial s₀) := by
  refine ⟨[], .nil, by simp, fun k r => ?_⟩
  simp [World.initial]

/-- Where the state stays and no call becomes done, the order stays. -/
theorem Serial.of_same {w' : World κ σ α β ε} (h : Serial calls request s₀ w)
    (hshared : w'.shared = w.shared)
    (hdone : ∀ k a b, w'.phase k = .done a b ↔ w.phase k = .done a b) :
    Serial calls request s₀ w' := by
  obtain ⟨log, hreplays, hnodup, hmem⟩ := h
  refine ⟨log, hshared ▸ hreplays, hnodup, fun k r => ?_⟩
  simp only [hmem, hdone]

/-- A call that writes validly goes to the end of the order. -/
theorem Serial.of_write {w' : World κ σ α β ε} {a : α} {b : β} (h : Serial calls request s₀ w)
    (hvalid : Valid calls request w k) (hphase : w.phase k = .writing a b)
    (hshared : w'.shared = (calls k).write b w.shared) (hself : w'.phase k = .done a b)
    (hother : ∀ j, j ≠ k → w'.phase j = w.phase j) : Serial calls request s₀ w' := by
  obtain ⟨log, hreplays, hnodup, hmem⟩ := h
  obtain ⟨a', b', hread, hrequest, hsettle, hwrite⟩ := hvalid a b hphase
  have hfresh : ∀ r, (k, r) ∉ log := by
    intro r hr
    obtain ⟨_, _, hdone, -⟩ := (hmem k r).1 hr
    simp [hphase] at hdone
  refine ⟨log ++ [(k, request a')], ?_, ?_, fun j r => ?_⟩
  · rw [hshared, ← hwrite]
    exact .snoc hreplays hread hsettle
  · rw [List.map_append, List.map_singleton, ← List.concat_eq_append]
    refine hnodup.concat fun hk => ?_
    obtain ⟨⟨_, r⟩, hr, rfl⟩ := List.mem_map.1 hk
    exact hfresh r hr
  · by_cases hj : j = k
    · subst hj
      simp [hfresh, hself, hrequest, eq_comm]
    · simp [hmem, hother j hj, hj]

/-- What every call of a replay preserves holds at its end. -/
theorem Replays.induct {Inv : List (κ × ρ) → σ → Prop} (hnil : Inv [] s₀)
    (hsnoc : ∀ log s k a b, Inv log s → (calls k).read s = .ok a → (calls k).settle a = .ok b →
      Inv (log ++ [(k, request a)]) ((calls k).write b s))
    {log : List (κ × ρ)} {s : σ} (h : Replays calls request s₀ log s) : Inv log s := by
  induction h with
  | nil => exact hnil
  | snoc _ hread hsettle ih => exact hsnoc _ _ _ _ _ ih hread hsettle

/-- Every call holds what it read in some state, and what it settled of that. -/
structure WellPhased (calls : κ → Call σ α β ε) (w : World κ σ α β ε) : Prop where
  asking : ∀ k a, w.phase k = .asking a → ∃ s, (calls k).read s = .ok a
  writing : ∀ k a b, w.phase k = .writing a b →
    (∃ s, (calls k).read s = .ok a) ∧ (calls k).settle a = .ok b

theorem wellPhased_initial (calls : κ → Call σ α β ε) (s₀ : σ) :
    WellPhased calls (World.initial s₀) where
  asking k a h := by simp [World.initial] at h
  writing k a b h := by simp [World.initial] at h

/-! ## What happens at most once -/

/-- A call that moves something closes the state to all calls that would. -/
structure Exclusive (calls : κ → Call σ α β ε) (moves : κ → α → Prop) (closed : σ → Prop) :
    Prop where
  closes : ∀ k a b s, moves k a → (calls k).settle a = .ok b → closed ((calls k).write b s)
  stays : ∀ k a b s, closed s → (calls k).read s = .ok a → (calls k).settle a = .ok b →
    closed ((calls k).write b s)
  refuses : ∀ k a a' s, closed s → moves k a → (calls k).read s ≠ .ok a'

/-- The call has settled what it moves. -/
def Moved (moves : κ → α → Prop) (w : World κ σ α β ε) (k : κ) : Prop :=
  ∃ a b, (w.phase k = .writing a b ∨ w.phase k = .done a b) ∧ moves k a

/-- A call moves something only while no other has yet to write what it moved, and in a state
that it could have read. -/
def Alone (calls : κ → Call σ α β ε) (moves : κ → α → Prop) (w : World κ σ α β ε) (k : κ) : Prop :=
  ∀ a, w.phase k = .asking a → moves k a →
    (∃ a', (calls k).read w.shared = .ok a') ∧
      ∀ j a' b', w.phase j = .writing a' b' → ¬ moves j a'

/-- At most one call has moved, and the state is closed once it has written. -/
structure MovedOnce (moves : κ → α → Prop) (closed : σ → Prop) (w : World κ σ α β ε) : Prop where
  unique : ∀ i j, Moved moves w i → Moved moves w j → i = j
  closed : ∀ k a b, w.phase k = .done a b → moves k a → closed w.shared

variable {moves : κ → α → Prop} {closed : σ → Prop}

theorem movedOnce_initial (moves : κ → α → Prop) (closed : σ → Prop) (s₀ : σ) :
    MovedOnce moves closed (World.initial s₀ : World κ σ α β ε) where
  unique i j hi := by
    obtain ⟨a, b, h | h, -⟩ := hi <;> simp [World.initial] at h
  closed k a b h := by simp [World.initial] at h

/-- The first to move is the only one that has. -/
theorem MovedOnce.not_moved (hexcl : Exclusive calls moves closed)
    (h : MovedOnce moves closed w) (halone : Alone calls moves w k) {a : α}
    (hphase : w.phase k = .asking a) (hmoves : moves k a) (j : κ) : ¬ Moved moves w j := by
  obtain ⟨⟨a', hread⟩, hnone⟩ := halone a hphase hmoves
  rintro ⟨c, d, hj | hj, hc⟩
  · exact hnone j c d hj hc
  · exact hexcl.refuses k a a' w.shared (h.closed j c d hj hc) hmoves hread

/-! ## Interleavings -/

variable [DecidableEq κ]

/-- One call goes on; an interleaving is the list of the calls that do. -/
def step (calls : κ → Call σ α β ε) (w : World κ σ α β ε) (k : κ) : World κ σ α β ε where
  shared := ((calls k).next w.shared (w.phase k)).1
  phase := Function.update w.phase k ((calls k).next w.shared (w.phase k)).2

theorem phase_step_of_ne {j : κ} (h : j ≠ k) : (step calls w k).phase j = w.phase j :=
  Function.update_of_ne h _ _

theorem phase_step_self :
    (step calls w k).phase k = ((calls k).next w.shared (w.phase k)).2 :=
  Function.update_self _ _ _

/-- What one step does: it writes, or it leaves the state and no call is done by it. -/
theorem step_cases (calls : κ → Call σ α β ε) (w : World κ σ α β ε) (k : κ) :
    (∃ a b, w.phase k = .writing a b ∧ (step calls w k).shared = (calls k).write b w.shared ∧
      (step calls w k).phase k = .done a b) ∨
    (∃ a b, w.phase k = .asking a ∧ (calls k).settle a = .ok b ∧
      (step calls w k).shared = w.shared ∧ (step calls w k).phase k = .writing a b) ∨
    ((step calls w k).shared = w.shared ∧ (∀ a b, (step calls w k).phase k ≠ .writing a b) ∧
      ∀ a b, (step calls w k).phase k = .done a b ↔ w.phase k = .done a b) := by
  rw [phase_step_self]
  simp only [step]
  cases hphase : w.phase k with
  | start =>
      right; right
      rw [Call.next]
      split <;> simp
  | asking a =>
      cases hsettle : (calls k).settle a with
      | ok b =>
          exact .inr (.inl ⟨a, b, rfl, hsettle, by simp [Call.next, hsettle],
            by simp [Call.next, hsettle]⟩)
      | error e => simp [Call.next, hsettle]
  | writing a b => exact .inl ⟨a, b, rfl, rfl, rfl⟩
  | done a b => simp [Call.next]
  | failed e => simp [Call.next]

theorem serial_step (h : Serial calls request s₀ w) (hvalid : Valid calls request w k) :
    Serial calls request s₀ (step calls w k) := by
  obtain ⟨a, b, hphase, hshared, hself⟩ | ⟨a, b, hphase, -, hshared, hself⟩ |
    ⟨hshared, -, hdone⟩ := step_cases calls w k
  · exact h.of_write hvalid hphase hshared hself fun j hj => phase_step_of_ne hj
  · refine h.of_same hshared fun j a' b' => ?_
    by_cases hj : j = k
    · simp [hj, hself, hphase]
    · rw [phase_step_of_ne hj]
  · refine h.of_same hshared fun j a' b' => ?_
    by_cases hj : j = k
    · rw [hj, hdone]
    · rw [phase_step_of_ne hj]

theorem remaining_next_le (call : Call σ α β ε) (shared : σ) (phase : Phase α β ε) :
    (call.next shared phase).2.remaining ≤ phase.remaining - 1 := by
  cases phase with
  | start => cases h : call.read shared <;> simp [Call.next, h, Phase.remaining]
  | asking a => cases h : call.settle a <;> simp [Call.next, h, Phase.remaining]
  | writing a b => simp [Call.next, Phase.remaining]
  | done a b => simp [Call.next, Phase.remaining]
  | failed e => simp [Call.next, Phase.remaining]

/-- A call that takes `n` steps in a row has `n` parts fewer left. -/
theorem remaining_run_replicate (calls : κ → Call σ α β ε) (w : World κ σ α β ε) (k : κ) (n : ℕ) :
    ((Run.run (step calls) w (List.replicate n k)).phase k).remaining ≤
      (w.phase k).remaining - n := by
  induction n generalizing w with
  | zero => exact Nat.le_refl _
  | succ n ih =>
      have hnext := remaining_next_le (calls k) w.shared (w.phase k)
      rw [← phase_step_self] at hnext
      have hrest := ih (step calls w k)
      rw [List.replicate_succ, Run.run_cons]
      omega

theorem wellPhased_step (h : WellPhased calls w) (k : κ) : WellPhased calls (step calls w k) where
  asking j a hj := by
    by_cases hjk : j = k
    · subst hjk
      rw [phase_step_self] at hj
      cases hphase : w.phase j with
      | start =>
          cases hread : (calls j).read w.shared with
          | ok a' =>
              simp only [hphase, Call.next, hread, Phase.asking.injEq] at hj
              exact ⟨w.shared, hj ▸ hread⟩
          | error e => simp [hphase, Call.next, hread] at hj
      | asking a' => cases hsettle : (calls j).settle a' <;> simp [hphase, Call.next, hsettle] at hj
      | writing a' b => simp [hphase, Call.next] at hj
      | done a' b => simp [hphase, Call.next] at hj
      | failed e => simp [hphase, Call.next] at hj
    · exact h.asking j a (by rwa [phase_step_of_ne hjk] at hj)
  writing j a b hj := by
    by_cases hjk : j = k
    · subst hjk
      obtain ⟨a', b', -, -, hself⟩ | ⟨a', b', hphase, hsettle, -, hself⟩ | ⟨-, hwriting, -⟩ :=
        step_cases calls w j
      · simp [hself] at hj
      · obtain ⟨rfl, rfl⟩ := Phase.writing.inj (hself.symm.trans hj)
        exact ⟨h.asking j a' hphase, hsettle⟩
      · exact absurd hj (hwriting a b)
    · exact h.writing j a b (by rwa [phase_step_of_ne hjk] at hj)

theorem moved_step_iff_of_ne {j : κ} (h : j ≠ k) :
    Moved moves (step calls w k) j ↔ Moved moves w j := by
  simp only [Moved, phase_step_of_ne h]

theorem movedOnce_write (hexcl : Exclusive calls moves closed) (hphased : WellPhased calls w)
    (h : MovedOnce moves closed w) (hvalid : Valid calls request w k) {a : α} {b : β}
    (hphase : w.phase k = .writing a b)
    (hshared : (step calls w k).shared = (calls k).write b w.shared)
    (hself : (step calls w k).phase k = .done a b) :
    MovedOnce moves closed (step calls w k) where
  unique i j hi hj := by
    have hiff : ∀ l, Moved moves (step calls w k) l ↔ Moved moves w l := by
      intro l
      by_cases hl : l = k
      · subst hl
        simp [Moved, hself, hphase]
      · exact moved_step_iff_of_ne hl
    exact h.unique i j ((hiff i).1 hi) ((hiff j).1 hj)
  closed j c d hj hc := by
    rw [hshared]
    by_cases hjk : j = k
    · subst hjk
      obtain ⟨rfl, rfl⟩ := Phase.done.inj (hself.symm.trans hj)
      exact hexcl.closes _ _ _ _ hc (hphased.writing _ _ _ hphase).2
    · rw [phase_step_of_ne hjk] at hj
      obtain ⟨a', b', hread, -, hsettle, hwrite⟩ := hvalid a b hphase
      rw [← hwrite]
      exact hexcl.stays _ _ _ _ (h.closed j c d hj hc) hread hsettle

theorem movedOnce_settle (hexcl : Exclusive calls moves closed)
    (h : MovedOnce moves closed w) (halone : Alone calls moves w k) {a : α} {b : β}
    (hphase : w.phase k = .asking a) (hshared : (step calls w k).shared = w.shared)
    (hself : (step calls w k).phase k = .writing a b) :
    MovedOnce moves closed (step calls w k) where
  unique i j hi hj := by
    have hmoved : ∀ l, Moved moves (step calls w k) l → l ≠ k → Moved moves w l :=
      fun l hl hne => (moved_step_iff_of_ne hne).1 hl
    have hk : Moved moves (step calls w k) k → moves k a := by
      rintro ⟨c, d, hc | hc, hmoves⟩
      · obtain ⟨rfl, -⟩ := Phase.writing.inj (hself.symm.trans hc)
        exact hmoves
      · simp [hself] at hc
    by_cases hik : i = k <;> by_cases hjk : j = k
    · rw [hik, hjk]
    · exact absurd (hmoved j hj hjk) (h.not_moved hexcl halone hphase (hk (hik ▸ hi)) j)
    · exact absurd (hmoved i hi hik) (h.not_moved hexcl halone hphase (hk (hjk ▸ hj)) i)
    · exact h.unique i j (hmoved i hi hik) (hmoved j hj hjk)
  closed j c d hj hc := by
    rw [hshared]
    by_cases hjk : j = k
    · subst hjk
      simp [hself] at hj
    · exact h.closed j c d (by rwa [phase_step_of_ne hjk] at hj) hc

theorem movedOnce_step (hexcl : Exclusive calls moves closed) (hphased : WellPhased calls w)
    (h : MovedOnce moves closed w) (hvalid : Valid calls request w k)
    (halone : Alone calls moves w k) : MovedOnce moves closed (step calls w k) := by
  obtain ⟨a, b, hphase, hshared, hself⟩ | ⟨a, b, hphase, -, hshared, hself⟩ |
    ⟨hshared, hwriting, hdone⟩ := step_cases calls w k
  · exact movedOnce_write hexcl hphased h hvalid hphase hshared hself
  · exact movedOnce_settle hexcl h halone hphase hshared hself
  · have hdone' : ∀ j c d, (step calls w k).phase j = .done c d ↔ w.phase j = .done c d := by
      intro j c d
      by_cases hjk : j = k
      · rw [hjk, hdone]
      · rw [phase_step_of_ne hjk]
    have hwriting' : ∀ j c d,
        (step calls w k).phase j = .writing c d → w.phase j = .writing c d := by
      intro j c d hj
      by_cases hjk : j = k
      · exact absurd (hjk ▸ hj) (hwriting c d)
      · rwa [phase_step_of_ne hjk] at hj
    have hmoved : ∀ l, Moved moves (step calls w k) l → Moved moves w l := by
      rintro l ⟨c, d, hl | hl, hc⟩
      · exact ⟨c, d, .inl (hwriting' l c d hl), hc⟩
      · exact ⟨c, d, .inr ((hdone' l c d).1 hl), hc⟩
    exact
      { unique := fun i j hi hj => h.unique i j (hmoved i hi) (hmoved j hj)
        closed := fun j c d hj hc => hshared ▸ h.closed j c d ((hdone' j c d).1 hj) hc }

end UniverEscrow.Lib.ReadModifyWrite
