import UniverEscrow.Lib.Run

/-!
# Two runs on the same inputs

A system answers every input.  Where related states answer alike and stay related, two runs from
related states give the same answers: the answers do not depend on what the relation leaves open.
-/

namespace UniverEscrow.Lib.Noninterference

variable {σ ι ο : Type*} (step : σ → ι → σ × ο)

def next (s : σ) (i : ι) : σ := (step s i).1

/-- The answers of a run. -/
def answers : σ → List ι → List ο
  | _, [] => []
  | s, i :: is => (step s i).2 :: answers (next step s i) is

variable {step} {C : σ → ι → Prop} {s s' : σ} {is : List ι}

/-- One step from related states, carried through two runs whose steps meet the condition. -/
theorem answers_eq (R : σ → σ → Prop)
    (hstep : ∀ s s' i, R s s' → C s i → C s' i →
      R (next step s i) (next step s' i) ∧ (step s i).2 = (step s' i).2)
    (hR : R s s') (hC : Run.EachStep (next step) C s is) (hC' : Run.EachStep (next step) C s' is) :
    answers step s is = answers step s' is := by
  induction is generalizing s s' with
  | nil => rfl
  | cons i is ih =>
      obtain ⟨hnext, hanswer⟩ := hstep s s' i hR hC.1 hC'.1
      rw [answers, answers, hanswer, ih hnext hC.2 hC'.2]

theorem forall_answers {P : ο → Prop} (hstep : ∀ s i, C s i → P (step s i).2)
    (hC : Run.EachStep (next step) C s is) : ∀ o ∈ answers step s is, P o := by
  induction is generalizing s with
  | nil => exact fun o ho => absurd ho List.not_mem_nil
  | cons i is ih =>
      intro o ho
      obtain rfl | ho := List.mem_cons.1 ho
      · exact hstep s i hC.1
      · exact ih hC.2 o ho

end UniverEscrow.Lib.Noninterference
