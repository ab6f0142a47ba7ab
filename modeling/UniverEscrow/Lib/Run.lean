import Mathlib.Tactic.Common

/-!
# Runs of a step function

A system is a step function over its inputs; interleavings are lists of inputs.  An invariant
is carried through a run by what one step preserves, where each step may have to meet a
condition on the state it starts from.
-/

namespace UniverEscrow.Lib.Run

variable {σ ι : Type*} (step : σ → ι → σ)

def run (s : σ) (inputs : List ι) : σ := inputs.foldl step s

@[simp] theorem run_nil (s : σ) : run step s [] = s := rfl

@[simp] theorem run_cons (s : σ) (i : ι) (is : List ι) :
    run step s (i :: is) = run step (step s i) is := rfl

theorem run_append (s : σ) (is js : List ι) :
    run step s (is ++ js) = run step (run step s is) js :=
  List.foldl_append

/-- `P` holds in every state the run passes through, both ends included. -/
def Throughout (P : σ → Prop) : σ → List ι → Prop
  | s, [] => P s
  | s, i :: is => P s ∧ Throughout P (step s i) is

/-- Every step of the run meets `C` in the state it starts from. -/
def EachStep (C : σ → ι → Prop) : σ → List ι → Prop
  | _, [] => True
  | s, i :: is => C s i ∧ EachStep C (step s i) is

instance decidableEachStep (C : σ → ι → Prop) [∀ s i, Decidable (C s i)] :
    ∀ s is, Decidable (EachStep step C s is)
  | _, [] => inferInstanceAs (Decidable True)
  | s, i :: is =>
      have := decidableEachStep C (step s i) is
      inferInstanceAs (Decidable (C s i ∧ EachStep step C (step s i) is))

variable {step} {P : σ → Prop} {C : σ → ι → Prop} {s : σ} {is : List ι}

theorem Throughout.head (h : Throughout step P s is) : P s := by
  cases is with
  | nil => exact h
  | cons i is => exact h.1

theorem Throughout.run (h : Throughout step P s is) : P (run step s is) := by
  induction is generalizing s with
  | nil => exact h
  | cons i is ih => exact ih h.2

theorem Throughout.mono {Q : σ → Prop} (h : Throughout step P s is) (hPQ : ∀ s, P s → Q s) :
    Throughout step Q s is := by
  induction is generalizing s with
  | nil => exact hPQ s h
  | cons i is ih => exact ⟨hPQ s h.1, ih h.2⟩

theorem EachStep.and {D : σ → ι → Prop} (h : EachStep step C s is) (h' : EachStep step D s is) :
    EachStep step (fun s i => C s i ∧ D s i) s is := by
  induction is generalizing s with
  | nil => trivial
  | cons i is ih => exact ⟨⟨h.1, h'.1⟩, ih h.2 h'.2⟩

theorem run_of_step {Inv : σ → Prop} (hstep : ∀ s i, Inv s → Inv (step s i)) (hinit : Inv s) :
    Inv (Run.run step s is) := by
  induction is generalizing s with
  | nil => exact hinit
  | cons i is ih => exact ih (hstep s i hinit)

/-- The same where the inputs have to meet a condition of their own. -/
theorem run_of_forall {Inv : σ → Prop} {D : ι → Prop}
    (hstep : ∀ s i, Inv s → D i → Inv (step s i)) (hinit : Inv s) (hinputs : ∀ i ∈ is, D i) :
    Inv (Run.run step s is) := by
  induction is generalizing s with
  | nil => exact hinit
  | cons i is ih =>
      exact ih (hstep s i hinit (hinputs i List.mem_cons_self))
        fun j hj => hinputs j (List.mem_cons_of_mem i hj)

/-- What every conditional step preserves holds all along a run that meets the condition. -/
theorem throughout_of_step {Inv : σ → Prop} (hstep : ∀ s i, Inv s → C s i → Inv (step s i))
    (hinit : Inv s) (heach : EachStep step C s is) : Throughout step Inv s is := by
  induction is generalizing s with
  | nil => exact hinit
  | cons i is ih => exact ⟨hinit, ih (hstep s i hinit heach.1) heach.2⟩

/-- Where a step that meets `C` keeps the invariant and meets `D`, so do all steps of a run. -/
theorem eachStep_of_step {D : σ → ι → Prop} {Inv : σ → Prop}
    (hstep : ∀ s i, Inv s → C s i → Inv (step s i) ∧ D s i) (hinit : Inv s)
    (heach : EachStep step C s is) : EachStep step D s is := by
  induction is generalizing s with
  | nil => trivial
  | cons i is ih =>
      obtain ⟨hinv, hD⟩ := hstep s i hinit heach.1
      exact ⟨hD, ih hinv heach.2⟩

/-- Where an invariant turns the condition of a step into another one, runs do. -/
theorem eachStep_of_invariant {D : σ → ι → Prop} (Inv : σ → Prop)
    (hinv : ∀ s i, Inv s → Inv (step s i))
    (hCD : ∀ s i, Inv s → C s i → D s i) (hinit : Inv s) (heach : EachStep step C s is) :
    EachStep step D s is := by
  induction is generalizing s with
  | nil => trivial
  | cons i is ih => exact ⟨hCD s i hinit heach.1, ih (hinv s i hinit) heach.2⟩

/-- Where a step that meets `M` keeps the invariant, and a step from a `P`-state meets `M` and
leads to a `P`-state exactly under `C`, a run does so throughout exactly when all its steps
meet `C`. -/
theorem eachStep_and_throughout_iff {M : σ → ι → Prop} (Inv : σ → Prop)
    (hinv : ∀ s i, Inv s → M s i → Inv (step s i))
    (hstep : ∀ s i, Inv s → P s → (M s i ∧ P (step s i) ↔ C s i)) (hInv : Inv s) (hP : P s) :
    EachStep step M s is ∧ Throughout step P s is ↔ EachStep step C s is := by
  induction is generalizing s with
  | nil => exact ⟨fun _ => trivial, fun _ => ⟨trivial, hP⟩⟩
  | cons i is ih =>
      constructor
      · rintro ⟨⟨hM, hMs⟩, -, htail⟩
        have hP' := htail.head
        exact ⟨(hstep s i hInv hP).1 ⟨hM, hP'⟩, (ih (hinv s i hInv hM) hP').1 ⟨hMs, htail⟩⟩
      · rintro ⟨hC, hCs⟩
        obtain ⟨hM, hP'⟩ := (hstep s i hInv hP).2 hC
        obtain ⟨hMs, htail⟩ := (ih (hinv s i hInv hM) hP').2 hCs
        exact ⟨⟨hM, hMs⟩, hP, htail⟩

/-- Where a step under `C` meets `M`, leads to a `P`-state and keeps the invariant, a run of such
steps does. -/
theorem eachStep_and_throughout_of_step {M : σ → ι → Prop} {Inv : σ → Prop}
    (hstep : ∀ s i, Inv s → C s i → M s i ∧ P (step s i) ∧ Inv (step s i)) (hInv : Inv s)
    (hP : P s) (heach : EachStep step C s is) :
    EachStep step M s is ∧ Throughout step P s is := by
  induction is generalizing s with
  | nil => exact ⟨trivial, hP⟩
  | cons i is ih =>
      obtain ⟨hM, hP', hInv'⟩ := hstep s i hInv heach.1
      obtain ⟨hMs, hPs⟩ := ih hInv' hP' heach.2
      exact ⟨⟨hM, hMs⟩, hP, hPs⟩

/-- The converse, where each step also meets `H`. -/
theorem eachStep_of_throughout {M H : σ → ι → Prop} {Inv : σ → Prop}
    (hinv : ∀ s i, Inv s → C s i → Inv (step s i))
    (hstep : ∀ s i, Inv s → H s i → M s i → P (step s i) → C s i) (hInv : Inv s)
    (hH : EachStep step H s is) (hM : EachStep step M s is) (hP : Throughout step P s is) :
    EachStep step C s is := by
  induction is generalizing s with
  | nil => trivial
  | cons i is ih =>
      have hC := hstep s i hInv hH.1 hM.1 hP.2.head
      exact ⟨hC, ih (hinv s i hInv hC) hH.2 hM.2 hP.2⟩

theorem eachStep_append {js : List ι} :
    EachStep step C s (is ++ js) ↔
      EachStep step C s is ∧ EachStep step C (Run.run step s is) js := by
  induction is generalizing s with
  | nil => exact (and_iff_right trivial).symm
  | cons i is ih => rw [List.cons_append, EachStep, EachStep, ih, and_assoc, run_cons]

theorem eachStep_iff_forall {D : ι → Prop} :
    EachStep step (fun _ i => D i) s is ↔ ∀ i ∈ is, D i := by
  induction is generalizing s with
  | nil => simp [EachStep]
  | cons i is ih => rw [EachStep, ih, List.forall_mem_cons]

theorem eachStep_congr {D : σ → ι → Prop} (h : ∀ s i, C s i ↔ D s i) :
    EachStep step C s is ↔ EachStep step D s is := by
  induction is generalizing s with
  | nil => exact Iff.rfl
  | cons i is ih => rw [EachStep, EachStep, h s i, ih]

theorem eachStep_true : EachStep step (fun _ _ => True) s is := by
  induction is generalizing s with
  | nil => trivial
  | cons i is ih => exact ⟨trivial, ih⟩

/-- Where, among the states with the invariant, a step leads from `P` to `P` exactly under
`C`, a run keeps `P` exactly when all its steps meet `C`. -/
theorem throughout_iff_eachStep (Inv : σ → Prop) (hinv : ∀ s i, Inv s → Inv (step s i))
    (hstep : ∀ s i, Inv s → P s → (P (step s i) ↔ C s i)) (hInv : Inv s) (hP : P s) :
    Throughout step P s is ↔ EachStep step C s is := by
  have hiff : EachStep step (fun _ _ => True) s is ∧ Throughout step P s is ↔
      EachStep step C s is :=
    eachStep_and_throughout_iff Inv (fun s i h _ => hinv s i h)
      (fun s i h hs => (and_iff_right trivial).trans (hstep s i h hs)) hInv hP
  rw [← hiff]
  exact (and_iff_right eachStep_true).symm

/-! ## What comes before what -/

/-- No step meets `A` after one that meets `W`. -/
def NeverAfter (step : σ → ι → σ) (W A : σ → ι → Prop) : σ → List ι → Prop
  | _, [] => True
  | s, i :: is =>
      (W s i → EachStep step (fun s i => ¬A s i) (step s i) is) ∧
        NeverAfter step W A (step s i) is

/-- What only `W` can end holds wherever `A` comes before all of `W`. -/
theorem eachStep_of_neverAfter {W A D : σ → ι → Prop} {Inv : σ → Prop}
    (hkeep : ∀ s i, Inv s → ¬W s i → Inv (step s i)) (hinv : ∀ s i, Inv s → D s i)
    (hother : ∀ s i, ¬A s i → D s i) (hinit : Inv s) (h : NeverAfter step W A s is) :
    EachStep step D s is := by
  induction is generalizing s with
  | nil => trivial
  | cons i is ih =>
      refine ⟨hinv s i hinit, ?_⟩
      by_cases hW : W s i
      · exact eachStep_of_invariant (fun _ => True) (fun _ _ _ => trivial)
          (fun s i _ hA => hother s i hA) trivial (h.1 hW)
      · exact ih (hkeep s i hinit hW) h.2

end UniverEscrow.Lib.Run
