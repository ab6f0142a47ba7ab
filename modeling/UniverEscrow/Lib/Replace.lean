import Mathlib.Tactic.Common

/-!
# Replacing parts of a list

A pass over a list puts texts in the place of some of its parts.  What can be read in the result
was in the list, or shares elements with a text that was put in.
-/

namespace UniverEscrow.Lib.Replace

variable {α : Type*} (Before : Option α → Prop) (After : α → Prop)

/-- The second list is the first one with parts of it replaced by the texts.  A part starts where
`Before` holds of the element before it, and ends the list or stands before an `After`. -/
inductive Replaced : Option α → List α → List α → List (List α) → Prop
  | nil {previous : Option α} : Replaced previous [] [] []
  | keep {previous : Option α} {c : α} {cs out : List α} {texts : List (List α)}
      (rest : Replaced (some c) cs out texts) : Replaced previous (c :: cs) (c :: out) texts
  | last {previous : Option α} (part : List α) {text : List α} (start : Before previous) :
      Replaced previous part text [text]
  | part {previous : Option α} (part : List α) {text : List α} {c : α} {cs out : List α}
      {texts : List (List α)} (start : Before previous) (nonempty : text ≠ []) (stop : After c)
      (rest : Replaced (some c) cs out texts) :
      Replaced previous (part ++ c :: cs) (text ++ c :: out) (text :: texts)

/-- The word can be read off the text and what may stand around it. -/
def Overlaps (w text : List α) : Prop :=
  ∃ a m b c d, w = a ++ (m ++ b) ∧ text = c ++ (m ++ d) ∧ m ≠ [] ∧
    (a ≠ [] → c = [] ∧ Before a.getLast?) ∧ ∀ x ∈ b.head?, d = [] ∧ After x

/-- The word, from where it stands, runs into the text. -/
def RunsInto (previous : Option α) (w text : List α) : Prop :=
  ∃ a m b d, w = a ++ (m ++ b) ∧ text = m ++ d ∧ m ≠ [] ∧ Before (a.getLast?.or previous) ∧
    ∀ x ∈ b.head?, d = [] ∧ After x

variable {Before After} {previous : Option α} {c : α} {w text cs out : List α}
  {texts : List (List α)}

theorem RunsInto.cons (h : RunsInto Before After (some c) w text) :
    RunsInto Before After previous (c :: w) text := by
  obtain ⟨a, m, b, d, rfl, htext, hm, hbefore, hafter⟩ := h
  refine ⟨c :: a, m, b, d, rfl, htext, hm, ?_, hafter⟩
  have hlast : (c :: a).getLast?.or previous = a.getLast?.or (some c) := by
    rw [List.getLast?_cons]
    cases a.getLast? <;> rfl
  rwa [hlast]

theorem RunsInto.overlaps (h : RunsInto Before After previous w text) :
    Overlaps Before After w text := by
  obtain ⟨a, m, b, d, hw, htext, hm, hbefore, hafter⟩ := h
  refine ⟨a, m, b, [], d, hw, htext, hm, fun ha => ⟨rfl, ?_⟩, hafter⟩
  rw [List.getLast?_eq_some_getLast ha] at hbefore ⊢
  exact hbefore

theorem runsInto_of_prefix (hstart : Before previous) (hne : w ≠ []) (h : w <+: text) :
    RunsInto Before After previous w text := by
  obtain ⟨d, rfl⟩ := h
  exact ⟨[], w, [], d, by simp, rfl, hne, hstart, by simp⟩

theorem overlaps_of_infix (hne : w ≠ []) (h : w <:+: text) : Overlaps Before After w text := by
  obtain ⟨c, d, rfl⟩ := h
  exact ⟨[], w, [], c, d, by simp, by simp, hne, by simp, by simp⟩

/-- A word that holds neither end of the text can only be inside. -/
theorem Overlaps.ends (h : Overlaps Before After w text) :
    w <:+: text ∨ (∃ c ∈ text.head?, c ∈ w) ∨ ∃ c ∈ text.getLast?, c ∈ w := by
  obtain ⟨a, m, b, c, d, rfl, rfl, hm, hbefore, hafter⟩ := h
  by_cases ha : a = []
  · cases b with
    | nil =>
        subst ha
        exact .inl ⟨c, d, by simp⟩
    | cons x b =>
        obtain ⟨rfl, -⟩ := hafter x rfl
        refine .inr (.inr ⟨m.getLast hm, ?_, by simp⟩)
        rw [List.append_nil, List.getLast?_append, List.getLast?_eq_some_getLast hm]
        rfl
  · obtain ⟨rfl, -⟩ := hbefore ha
    obtain ⟨y, m, rfl⟩ := List.exists_cons_of_ne_nil hm
    exact .inr (.inl ⟨y, rfl, by simp⟩)

theorem Replaced.at_start (h : Replaced Before After previous cs out texts) (hw : w <+: out) :
    w <+: cs ∨ ∃ text ∈ texts, RunsInto Before After previous w text := by
  induction h generalizing w with
  | nil => exact .inl hw
  | @keep previous c cs out texts rest ih =>
      cases w with
      | nil => exact .inl List.nil_prefix
      | cons x w =>
          obtain ⟨rfl, htail⟩ := List.cons_prefix_cons.1 hw
          rcases ih htail with hkept | ⟨text, hmem, hruns⟩
          · exact .inl (List.cons_prefix_cons.2 ⟨rfl, hkept⟩)
          · exact .inr ⟨text, hmem, hruns.cons⟩
  | @last previous part text start =>
      by_cases hne : w = []
      · exact .inl (hne ▸ List.nil_prefix)
      · exact .inr ⟨text, List.mem_singleton_self text, runsInto_of_prefix start hne hw⟩
  | @part previous part text c cs out texts start nonempty stop rest ih =>
      by_cases hne : w = []
      · exact .inl (hne ▸ List.nil_prefix)
      refine .inr ⟨text, List.mem_cons_self, ?_⟩
      obtain ⟨tail, htail⟩ := hw
      rcases List.append_eq_append_iff.1 htail with ⟨d, rfl, -⟩ | ⟨b, rfl, hb⟩
      · exact runsInto_of_prefix start hne ⟨d, rfl⟩
      · refine ⟨[], text, b, [], rfl, by simp, nonempty, start, ?_⟩
        intro x hx
        obtain ⟨b, rfl⟩ := List.head?_eq_some_iff.1 hx
        obtain ⟨rfl, -⟩ := List.cons.inj hb
        exact ⟨rfl, stop⟩

theorem Replaced.inside_keep (rest : Replaced Before After (some c) cs out texts)
    (ih : w <:+: out → w <:+: cs ∨ ∃ text ∈ texts, Overlaps Before After w text)
    (hw : w <:+: c :: out) :
    w <:+: c :: cs ∨ ∃ text ∈ texts, Overlaps Before After w text := by
  rcases List.infix_cons_iff.1 hw with hstart | hread
  · have hkeep : Replaced Before After none (c :: cs) (c :: out) texts := .keep rest
    rcases hkeep.at_start hstart with hkept | ⟨text, hmem, hruns⟩
    · exact .inl hkept.isInfix
    · exact .inr ⟨text, hmem, hruns.overlaps⟩
  · exact (ih hread).imp_left List.infix_cons

/-- What can be read in the result of a pass was there before, or overlaps what was put in. -/
theorem Replaced.inside (h : Replaced Before After previous cs out texts) (hw : w <:+: out) :
    w <:+: cs ∨ ∃ text ∈ texts, Overlaps Before After w text := by
  induction h with
  | nil => exact .inl hw
  | @keep previous c cs out texts rest ih => exact rest.inside_keep ih hw
  | @last previous part text start =>
      by_cases hne : w = []
      · exact .inl (hne ▸ List.nil_infix)
      · exact .inr ⟨text, List.mem_singleton_self text, overlaps_of_infix hne hw⟩
  | @part previous part text c cs out texts start nonempty stop rest ih =>
      have hlater : c :: cs <:+: part ++ c :: cs := (List.suffix_append _ _).isInfix
      rcases List.infix_append_iff_ne_nil.1 hw with
        hinside | hafter | ⟨m, b, hm, hb, rfl, ⟨before, hbefore⟩, hrun⟩
      · by_cases hne : w = []
        · exact .inl (hne ▸ List.nil_infix)
        · exact .inr ⟨text, List.mem_cons_self, overlaps_of_infix hne hinside⟩
      · rcases rest.inside_keep ih hafter with hkept | ⟨text', hmem, hover⟩
        · exact .inl (hkept.trans hlater)
        · exact .inr ⟨text', List.mem_cons_of_mem _ hmem, hover⟩
      · refine .inr ⟨text, List.mem_cons_self, ?_⟩
        refine ⟨[], m, b, before, [], rfl, by simp [hbefore], hm, by simp, ?_⟩
        intro x hx
        obtain ⟨b, rfl⟩ := List.head?_eq_some_iff.1 hx
        obtain ⟨rfl, -⟩ := List.cons_prefix_cons.1 hrun
        exact ⟨rfl, stop⟩

end UniverEscrow.Lib.Replace
