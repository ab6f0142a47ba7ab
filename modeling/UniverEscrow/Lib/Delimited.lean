import Mathlib.Data.List.Forall2

/-!
# Delimited lists

A list cut at a delimiter that one side does not contain has only that cut.  Values encoded so
that an encoding followed by a stop symbol determines the value can be joined by one stop symbol
and closed by another, and the joined text determines the list.
-/

namespace UniverEscrow.Lib

variable {α : Type*} {c : α}

/-- What comes before the first delimiter and what comes after it. -/
theorem eq_of_append_cons {xs ys xs' ys' : List α} (h : c ∉ xs) (h' : c ∉ xs')
    (heq : xs ++ c :: ys = xs' ++ c :: ys') : xs = xs' ∧ ys = ys' := by
  induction xs generalizing xs' with
  | nil =>
      cases xs' with
      | nil => exact ⟨rfl, (List.cons.inj heq).2⟩
      | cons x xs' => exact absurd (List.cons.inj heq).1 (List.ne_of_not_mem_cons h')
  | cons x xs ih =>
      cases xs' with
      | nil => exact absurd (List.cons.inj heq).1.symm (List.ne_of_not_mem_cons h)
      | cons x' xs' =>
          obtain ⟨hx, htail⟩ := List.cons.inj heq
          obtain ⟨hxs, hys⟩ :=
            ih (List.not_mem_of_not_mem_cons h) (List.not_mem_of_not_mem_cons h') htail
          exact ⟨by rw [hx, hxs], hys⟩

/-- The same for the last delimiter. -/
theorem eq_of_append_cons_last {xs ys xs' ys' : List α} (h : c ∉ ys) (h' : c ∉ ys')
    (heq : xs ++ c :: ys = xs' ++ c :: ys') : xs = xs' ∧ ys = ys' := by
  have hreverse := congrArg List.reverse heq
  simp only [List.reverse_append, List.reverse_cons, List.append_assoc, List.singleton_append]
    at hreverse
  obtain ⟨hys, hxs⟩ := eq_of_append_cons (by simpa using h) (by simpa using h') hreverse
  exact ⟨List.reverse_inj.1 hxs, List.reverse_inj.1 hys⟩

/-- Texts without the separator can be read off their join. -/
theorem intercalate_inj {c : Char} {xs ys : List String} (hxs : ∀ s ∈ xs, c ∉ s.toList)
    (hys : ∀ s ∈ ys, c ∉ s.toList) (hx : xs ≠ []) (hy : ys ≠ [])
    (h : String.intercalate (String.singleton c) xs = String.intercalate (String.singleton c) ys) :
    xs = ys := by
  have hsplit : ∀ zs : List String, (∀ s ∈ zs, c ∉ s.toList) → zs ≠ [] →
      (String.intercalate (String.singleton c) zs).toList.splitOn c = zs.map String.toList := by
    intro zs hzs hz
    rw [String.toList_intercalate, String.toList_singleton]
    refine List.splitOn_intercalate c ?_ (by simpa using hz)
    simpa using hzs
  have hlists : xs.map String.toList = ys.map String.toList := by
    rw [← hsplit xs hxs hx, ← hsplit ys hys hy, h]
  exact List.map_injective_iff.2 (fun _ _ => String.toList_inj.1) hlists

/-- A join is made of its separator and its texts. -/
theorem notMem_intercalate {c : Char} {sep : String} {xs : List String} (hsep : c ∉ sep.toList)
    (hxs : ∀ s ∈ xs, c ∉ s.toList) : c ∉ (String.intercalate sep xs).toList := by
  rw [String.toList_intercalate]
  induction xs with
  | nil => exact List.not_mem_nil
  | cons x xs ih =>
      have hx := hxs x List.mem_cons_self
      cases xs with
      | nil => simpa using hx
      | cons y ys =>
          rw [List.map_cons, List.map_cons, List.intercalate_cons_cons, ← List.map_cons,
            List.mem_append, List.mem_append, not_or, not_or]
          exact ⟨⟨hx, hsep⟩, ih fun s hs => hxs s (List.mem_cons_of_mem x hs)⟩

/-- Two cuts at delimiters that start with the same mark and have no other: they are one cut, or
one of them lies behind the other. -/
theorem cut_cases {t t' xs ys xs' ys' : List α} (h : c ∉ t) (h' : c ∉ t')
    (heq : xs ++ c :: (t ++ ys) = xs' ++ c :: (t' ++ ys')) :
    (xs = xs' ∧ t ++ ys = t' ++ ys') ∨
      (∃ u, xs' = xs ++ c :: (t ++ u) ∧ ys = u ++ c :: (t' ++ ys')) ∨
      ∃ u, xs = xs' ++ c :: (t' ++ u) ∧ ys' = u ++ c :: (t ++ ys) := by
  have hbehind {t zs as bs : List α} (h : c ∉ t) (hcut : t ++ as = zs ++ c :: bs) :
      ∃ u, zs = t ++ u ∧ as = u ++ c :: bs := by
    rcases List.append_eq_append_iff.1 hcut with ⟨u, hzs, has⟩ | ⟨u, ht, has⟩
    · exact ⟨u, hzs, has⟩
    · cases u with
      | nil => exact ⟨[], by simpa using ht.symm, by simpa using has.symm⟩
      | cons d u =>
          -- the mark would stand inside the delimiter
          rw [List.cons_append] at has
          rw [ht, (List.cons.inj has).1] at h
          exact absurd (List.mem_append_right zs List.mem_cons_self) h
  rcases List.append_eq_append_iff.1 heq with ⟨as, hxs, htail⟩ | ⟨as, hxs, htail⟩
  · cases as with
    | nil => exact .inl ⟨by simpa using hxs.symm, (List.cons.inj htail).2⟩
    | cons d as =>
        rw [List.cons_append] at htail
        obtain ⟨hd, htail⟩ := List.cons.inj htail
        obtain ⟨u, rfl, hys⟩ := hbehind h htail
        exact .inr (.inl ⟨u, by rw [hxs, hd], hys⟩)
  · cases as with
    | nil => exact .inl ⟨by simpa using hxs, (List.cons.inj htail).2.symm⟩
    | cons d as =>
        rw [List.cons_append] at htail
        obtain ⟨hd, htail⟩ := List.cons.inj htail
        obtain ⟨u, rfl, hys⟩ := hbehind h' htail
        exact .inr (.inr ⟨u, by rw [hxs, hd], hys⟩)

/-! ## Encodings that a stop symbol ends -/

/-- Nothing follows, or a stop symbol does. -/
def Stops (stops r : List α) : Prop := ∀ c ∈ r.head?, c ∈ stops

theorem stops_cons {stops : List α} (h : c ∈ stops) (r : List α) : Stops stops (c :: r) := by
  intro d hd
  cases hd
  exact h

theorem stops_nil (stops : List α) : Stops stops [] := by
  intro d hd
  cases hd

/-- Lists without stop symbols end at the first one. -/
theorem eq_of_append_stops {stops xs ys r s : List α} (hxs : ∀ x ∈ xs, x ∉ stops)
    (hys : ∀ y ∈ ys, y ∉ stops) (hr : Stops stops r) (hs : Stops stops s)
    (h : xs ++ r = ys ++ s) : xs = ys ∧ r = s := by
  induction xs generalizing ys with
  | nil =>
      cases ys with
      | nil => exact ⟨rfl, h⟩
      | cons y ys =>
          refine absurd (hr y ?_) (hys y List.mem_cons_self)
          rw [show r = y :: (ys ++ s) from h]
          rfl
  | cons x xs ih =>
      cases ys with
      | nil =>
          refine absurd (hs x ?_) (hxs x List.mem_cons_self)
          rw [show s = x :: (xs ++ r) from h.symm]
          rfl
      | cons y ys =>
          obtain ⟨hxy, htail⟩ := List.cons.inj h
          obtain ⟨hxs', hrs⟩ := ih (fun a ha => hxs a (List.mem_cons_of_mem x ha))
            (fun a ha => hys a (List.mem_cons_of_mem y ha)) htail
          exact ⟨by rw [hxy, hxs'], hrs⟩

theorem exists_of_mem_forall₂ {β γ : Type*} {R : β → γ → Prop} {xs : List β} {ys : List γ}
    (h : List.Forall₂ R xs ys) {x : β} (hx : x ∈ xs) : ∃ y ∈ ys, R x y := by
  induction h with
  | nil => cases hx
  | @cons x' y' xs ys hxy _ ih =>
      rcases List.mem_cons.1 hx with rfl | hx
      · exact ⟨y', List.mem_cons_self, hxy⟩
      · obtain ⟨y, hy, hxy⟩ := ih hx
        exact ⟨y, List.mem_cons_of_mem y' hy, hxy⟩

section Joined

variable {β : Type*} {stops : List α} {sep close : α} {enc : β → List α} {R : β → β → Prop}

theorem intercalate_map_cons (x : β) (xs : List β) :
    [sep].intercalate ((x :: xs).map enc) = enc x ++ xs.flatMap fun y => sep :: enc y := by
  induction xs generalizing x with
  | nil => simp
  | cons y ys ih =>
      rw [List.map_cons, List.map_cons, List.intercalate_cons_cons, ← List.map_cons, ih y]
      simp

variable (hsep : sep ∈ stops) (hclose : close ∈ stops) (hne : sep ≠ close)
include hsep hclose hne

theorem forall₂_of_flatMap {xs ys : List β} {r s : List α}
    (hcode : ∀ x ∈ xs, ∀ y ∈ ys, ∀ r s, Stops stops r → Stops stops s →
      enc x ++ r = enc y ++ s → R x y ∧ r = s)
    (h : (xs.flatMap fun x => sep :: enc x) ++ close :: r =
      (ys.flatMap fun y => sep :: enc y) ++ close :: s) : List.Forall₂ R xs ys ∧ r = s := by
  have hstops (zs : List β) (t : List α) :
      Stops stops ((zs.flatMap fun z => sep :: enc z) ++ close :: t) := by
    cases zs with
    | nil => exact stops_cons hclose t
    | cons z zs => exact stops_cons hsep _
  induction xs generalizing ys with
  | nil =>
      cases ys with
      | nil => exact ⟨.nil, (List.cons.inj h).2⟩
      | cons y ys => exact absurd (List.cons.inj h).1.symm hne
  | cons x xs ih =>
      cases ys with
      | nil => exact absurd (List.cons.inj h).1 hne
      | cons y ys =>
          simp only [List.flatMap_cons, List.cons_append, List.append_assoc] at h
          obtain ⟨hxy, htail⟩ := hcode x List.mem_cons_self y List.mem_cons_self _ _
            (hstops xs r) (hstops ys s) (List.cons.inj h).2
          obtain ⟨hrest, hrs⟩ := ih (fun a ha b hb =>
            hcode a (List.mem_cons_of_mem x ha) b (List.mem_cons_of_mem y hb)) htail
          exact ⟨.cons hxy hrest, hrs⟩

/-- A joined list, closed, determines its values and what follows it. -/
theorem forall₂_of_intercalate {xs ys : List β} {r s : List α}
    (hhead : ∀ x ∈ xs ++ ys, ∃ c cs, enc x = c :: cs ∧ c ∉ stops)
    (hcode : ∀ x ∈ xs, ∀ y ∈ ys, ∀ r s, Stops stops r → Stops stops s →
      enc x ++ r = enc y ++ s → R x y ∧ r = s)
    (h : [sep].intercalate (xs.map enc) ++ close :: r =
      [sep].intercalate (ys.map enc) ++ close :: s) : List.Forall₂ R xs ys ∧ r = s := by
  have hstart {x : β} {zs t u : List α} (hx : x ∈ xs ++ ys) :
      enc x ++ zs ++ t ≠ close :: u := by
    obtain ⟨c, cs, hc, hstop⟩ := hhead x hx
    rw [hc]
    intro heq
    rw [(List.cons.inj heq).1] at hstop
    exact hstop hclose
  cases xs with
  | nil =>
      cases ys with
      | nil => exact ⟨.nil, (List.cons.inj h).2⟩
      | cons y ys =>
          rw [intercalate_map_cons] at h
          exact absurd h.symm (hstart (by simp))
  | cons x xs =>
      cases ys with
      | nil =>
          rw [intercalate_map_cons] at h
          exact absurd h (hstart (by simp))
      | cons y ys =>
          -- a separator in front makes all values alike
          apply forall₂_of_flatMap hsep hclose hne hcode
          rw [intercalate_map_cons, intercalate_map_cons] at h
          simp only [List.flatMap_cons, List.cons_append, List.cons.injEq, true_and]
          exact h

end Joined

end UniverEscrow.Lib
