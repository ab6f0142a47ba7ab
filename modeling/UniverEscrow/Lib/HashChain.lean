import Mathlib.Data.List.Induction
import Mathlib.Tactic.Common

/-!
# Hash chains

Links that name the hash of the link before them, and a digest folded over a list of texts.  The
fold has no length prefix: what tells lists of different lengths apart is that no text looks like
a pair of digests.
-/

namespace UniverEscrow.Lib.HashChain

/-! ## Links -/

section Links

variable {β γ : Type*} (prev hash : β → γ)

/-- The hash the next link has to name. -/
def headFrom (g : γ) (bs : List β) : γ := bs.foldl (fun _ b => hash b) g

def Linked : γ → List β → Prop
  | _, [] => True
  | g, b :: bs => prev b = g ∧ Linked (hash b) bs

@[simp] theorem headFrom_nil (g : γ) : headFrom hash g [] = g := rfl

@[simp] theorem headFrom_cons (g : γ) (b : β) (bs : List β) :
    headFrom hash g (b :: bs) = headFrom hash (hash b) bs := rfl

theorem headFrom_append (g : γ) (bs cs : List β) :
    headFrom hash g (bs ++ cs) = headFrom hash (headFrom hash g bs) cs :=
  List.foldl_append

@[simp] theorem headFrom_concat (g : γ) (bs : List β) (b : β) :
    headFrom hash g (bs ++ [b]) = hash b := by
  rw [headFrom_append, headFrom_cons, headFrom_nil]

variable {prev hash}

theorem linked_append {g : γ} {bs cs : List β} :
    Linked prev hash g (bs ++ cs) ↔
      Linked prev hash g bs ∧ Linked prev hash (headFrom hash g bs) cs := by
  induction bs generalizing g with
  | nil => simp [Linked]
  | cons b bs ih => simp [Linked, ih, and_assoc]

theorem linked_concat {g : γ} {bs : List β} {b : β} :
    Linked prev hash g (bs ++ [b]) ↔ Linked prev hash g bs ∧ prev b = headFrom hash g bs := by
  simp [linked_append, Linked]

end Links

/-! ## Folds -/

section Folds

variable {τ δ : Type*} (digest : τ → δ) (pair : δ → δ → τ) (empty : τ)

/-- The digest of the first text, paired with and digested again with that of each next one. -/
def foldDigests : List τ → δ
  | [] => digest empty
  | t :: ts => ts.foldl (fun current t => digest (pair current (digest t))) (digest t)

/-- What the loop digests once it holds `current`. -/
def laterInputs (current : δ) : List τ → List τ
  | [] => []
  | t :: ts =>
      t :: pair current (digest t) :: laterInputs (digest (pair current (digest t))) ts

/-- Everything the fold digests. -/
def foldInputs : List τ → List τ
  | [] => [empty]
  | t :: ts => t :: laterInputs digest pair (digest t) ts

variable {digest pair empty} {ts us : List τ} {t : τ}

theorem laterInputs_concat (current : δ) :
    laterInputs digest pair current (ts ++ [t]) =
      laterInputs digest pair current ts ++
        [t, pair (ts.foldl (fun c t => digest (pair c (digest t))) current) (digest t)] := by
  induction ts generalizing current with
  | nil => rfl
  | cons u us ih => simp [laterInputs, ih]

theorem foldDigests_concat (h : ts ≠ []) :
    foldDigests digest pair empty (ts ++ [t]) =
      digest (pair (foldDigests digest pair empty ts) (digest t)) := by
  cases ts with
  | nil => exact absurd rfl h
  | cons u us => simp [foldDigests]

theorem foldInputs_concat (h : ts ≠ []) :
    foldInputs digest pair empty (ts ++ [t]) =
      foldInputs digest pair empty ts ++
        [t, pair (foldDigests digest pair empty ts) (digest t)] := by
  cases ts with
  | nil => exact absurd rfl h
  | cons u us => simp [foldInputs, foldDigests, laterInputs_concat]

/-- What the fold digests last tells how the list ends. -/
theorem exists_last_input (digest : τ → δ) (pair : δ → δ → τ) (empty : τ) (ts : List τ) :
    ∃ x ∈ foldInputs digest pair empty ts, foldDigests digest pair empty ts = digest x ∧
      (ts = [] ∧ x = empty ∨ ts = [x] ∨
        ∃ init t, init ≠ [] ∧ ts = init ++ [t] ∧
          x = pair (foldDigests digest pair empty init) (digest t)) := by
  cases ts using List.reverseRecOn with
  | nil => exact ⟨empty, by simp [foldInputs], rfl, .inl ⟨rfl, rfl⟩⟩
  | append_singleton init t =>
      by_cases h : init = []
      · subst h
        exact ⟨t, by simp [foldInputs], rfl, .inr (.inl rfl)⟩
      · refine ⟨_, ?_, foldDigests_concat h, .inr (.inr ⟨init, t, h, rfl, rfl⟩)⟩
        simp [foldInputs_concat h]

/-- Where the digest does not collide on what the two folds digest, and no text is a pair of
digests or the text of the empty list, equal folds are folds of the same texts. -/
theorem foldDigests_inj
    (hpair : ∀ a b c d, pair a b = pair c d → a = c ∧ b = d)
    (hempty : ∀ a b, empty ≠ pair a b)
    (htexts : ∀ t ∈ ts ++ us, t ≠ empty ∧ ∀ a b, t ≠ pair a b)
    (hdigest : ∀ x ∈ foldInputs digest pair empty ts ++ foldInputs digest pair empty us,
      ∀ y ∈ foldInputs digest pair empty ts ++ foldInputs digest pair empty us,
        digest x = digest y → x = y)
    (h : foldDigests digest pair empty ts = foldDigests digest pair empty us) : ts = us := by
  induction ts using List.reverseRecOn generalizing us with
  | nil =>
      obtain ⟨y, hy, hfold, hus⟩ := exists_last_input digest pair empty us
      have hxy : empty = y := hdigest _ (by simp [foldInputs]) _ (by simp [hy]) (h.trans hfold)
      rcases hus with ⟨rfl, -⟩ | rfl | ⟨init, u, -, rfl, rfl⟩
      · rfl
      · exact absurd hxy.symm (htexts y (by simp)).1
      · exact absurd hxy (hempty _ _)
  | append_singleton ts t ih =>
      obtain ⟨x, hx, hfoldx, hts⟩ := exists_last_input digest pair empty (ts ++ [t])
      obtain ⟨y, hy, hfoldy, hus⟩ := exists_last_input digest pair empty us
      have hxy : x = y :=
        hdigest x (by simp [hx]) y (by simp [hy]) (hfoldx.symm.trans (h.trans hfoldy))
      rcases hts with ⟨hnil, -⟩ | hsingle | ⟨init, t', hinit, hts, hpairx⟩
      · simp at hnil
      · rcases hus with ⟨rfl, hempty'⟩ | hus | ⟨init', u, -, rfl, hpairy⟩
        · exact absurd (hxy.trans hempty') (htexts x (by simp [hsingle])).1
        · rw [hsingle, hus, hxy]
        · exact absurd (hxy.trans hpairy) ((htexts x (by simp [hsingle])).2 _ _)
      · obtain ⟨rfl, rfl⟩ : ts = init ∧ t = t' := by simpa using List.append_inj' hts rfl
        rcases hus with ⟨rfl, hempty'⟩ | rfl | ⟨init', u, hinit', rfl, hpairy⟩
        · exact absurd (hempty'.symm.trans (hxy.symm.trans hpairx)) (hempty _ _)
        · exact absurd (hxy.symm.trans hpairx) ((htexts y (by simp)).2 _ _)
        · obtain ⟨hfold, hdig⟩ := hpair _ _ _ _ (hpairx.symm.trans (hxy.trans hpairy))
          rw [foldInputs_concat hinit, foldInputs_concat hinit'] at hdigest
          have hlast : t = u := hdigest t (by simp) u (by simp) hdig
          have hrest : ts = init' := by
            apply ih _ _ hfold
            · intro v hv
              apply htexts v
              simp only [List.mem_append] at hv ⊢
              tauto
            · intro v hv w hw
              apply hdigest v _ w
              · simp only [List.mem_append] at hw ⊢
                tauto
              · simp only [List.mem_append] at hv ⊢
                tauto
          rw [hrest, hlast]

end Folds

end UniverEscrow.Lib.HashChain
