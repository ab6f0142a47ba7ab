import UniverEscrow.Js.Value
import Mathlib.Data.List.Sort
import Mathlib.Order.Defs.LinearOrder

/-!
# The order of keys

Comparing strings by their UTF-16 code units is a linear order, so a sort of strings forgets the
order it was given them in.
-/

namespace UniverEscrow.Js

/-- Sorting by a linear order forgets the order of its input. -/
theorem insertionSort_eq_of_perm {α : Type*} (r : α → α → Prop) [DecidableRel r] [Std.Total r]
    [IsTrans α r] [Std.Antisymm r] {xs ys : List α} (h : xs.Perm ys) :
    xs.insertionSort r = ys.insertionSort r := by
  have hperm : (xs.insertionSort r).Perm (ys.insertionSort r) :=
    (List.perm_insertionSort r xs).trans (h.trans (List.perm_insertionSort r ys).symm)
  exact hperm.eq_of_pairwise' (List.pairwise_insertionSort r xs) (List.pairwise_insertionSort r ys)

namespace JsValue

theorem unitsLe_cons (a b : ℕ) (as bs : List ℕ) :
    unitsLe (a :: as) (b :: bs) = true ↔ a < b ∨ a = b ∧ unitsLe as bs = true := by
  simp [unitsLe]

theorem unitsLe_total (as bs : List ℕ) : unitsLe as bs = true ∨ unitsLe bs as = true := by
  induction as generalizing bs with
  | nil => simp [unitsLe]
  | cons a as ih =>
      cases bs with
      | nil => simp [unitsLe]
      | cons b bs =>
          rw [unitsLe_cons, unitsLe_cons]
          rcases lt_trichotomy a b with h | rfl | h
          · exact .inl (.inl h)
          · exact (ih bs).imp (fun h => .inr ⟨rfl, h⟩) (fun h => .inr ⟨rfl, h⟩)
          · exact .inr (.inl h)

theorem unitsLe_trans {as bs cs : List ℕ} (hab : unitsLe as bs = true)
    (hbc : unitsLe bs cs = true) : unitsLe as cs = true := by
  induction as generalizing bs cs with
  | nil => simp [unitsLe]
  | cons a as ih =>
      cases bs with
      | nil => simp [unitsLe] at hab
      | cons b bs =>
          cases cs with
          | nil => simp [unitsLe] at hbc
          | cons c cs =>
              rw [unitsLe_cons] at hab hbc ⊢
              rcases hab with hab | ⟨rfl, hab⟩
              · rcases hbc with hbc | ⟨rfl, -⟩
                · exact .inl (hab.trans hbc)
                · exact .inl hab
              · exact hbc.imp id fun ⟨heq, hbc⟩ => ⟨heq, ih hab hbc⟩

theorem unitsLe_antisymm {as bs : List ℕ} (hab : unitsLe as bs = true)
    (hba : unitsLe bs as = true) : as = bs := by
  induction as generalizing bs with
  | nil =>
      cases bs with
      | nil => rfl
      | cons b bs => simp [unitsLe] at hba
  | cons a as ih =>
      cases bs with
      | nil => simp [unitsLe] at hab
      | cons b bs =>
          rw [unitsLe_cons] at hab hba
          have hhead : a = b := by omega
          subst hhead
          rw [ih (by simpa using hab) (by simpa using hba)]

/-! ## A string is read off its code units -/

theorem not_surrogate (c : Char) : c.toNat < 0xd800 ∨ 0xdfff < c.toNat ∧ c.toNat < 0x110000 :=
  c.valid

theorem utf16Units_append_inj {c d : Char} {us vs : List ℕ}
    (h : utf16Units c ++ us = utf16Units d ++ vs) : c = d ∧ us = vs := by
  have hc := not_surrogate c
  have hd := not_surrogate d
  rw [← Char.toNat_inj]
  unfold utf16Units at h
  split_ifs at h with hc' hd' hd'
  · simpa using h
  · simp only [List.cons_append, List.nil_append, List.cons.injEq] at h
    omega
  · simp only [List.cons_append, List.nil_append, List.cons.injEq] at h
    omega
  · simp only [List.cons_append, List.nil_append, List.cons.injEq] at h
    exact ⟨by omega, h.2.2⟩

theorem utf16Units_ne_nil (c : Char) : utf16Units c ≠ [] := by
  unfold utf16Units
  split_ifs <;> simp

theorem flatMap_utf16Units_inj {cs ds : List Char}
    (h : cs.flatMap utf16Units = ds.flatMap utf16Units) : cs = ds := by
  induction cs generalizing ds with
  | nil =>
      cases ds with
      | nil => rfl
      | cons d ds => simp [utf16Units_ne_nil] at h
  | cons c cs ih =>
      cases ds with
      | nil => simp [utf16Units_ne_nil] at h
      | cons d ds =>
          rw [List.flatMap_cons, List.flatMap_cons] at h
          obtain ⟨rfl, hrest⟩ := utf16Units_append_inj h
          rw [ih hrest]

instance keyLe_total : Std.Total fun a b : String => keyLe a b = true where
  total _ _ := unitsLe_total _ _

instance keyLe_trans : IsTrans String fun a b => keyLe a b = true where
  trans _ _ _ := unitsLe_trans

instance keyLe_antisymm : Std.Antisymm fun a b : String => keyLe a b = true where
  antisymm _ _ hab hba := String.toList_inj.1 (flatMap_utf16Units_inj (unitsLe_antisymm hab hba))

end JsValue

end UniverEscrow.Js
