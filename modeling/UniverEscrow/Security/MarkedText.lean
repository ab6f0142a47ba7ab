import Mathlib
import UniverEscrow.Lib.Replace
import UniverEscrow.Security.EnclaveLogShield

/-!
# Markers in a text

What `redactString` does to a text: it replaces the markers and their values and copies the rest.
A text without a marker is copied, and a comma keeps what stands before it apart from what stands
after it.
-/

namespace UniverEscrow.Security

open UniverEscrow.Js UniverEscrow.Lib.Replace

/-! ## Characters -/

theorem isWordChar_iff {c : Char} : isWordChar c = true ↔
    48 ≤ c.toNat ∧ c.toNat ≤ 57 ∨ 65 ≤ c.toNat ∧ c.toNat ≤ 90 ∨ c.toNat = 95 ∨
      97 ≤ c.toNat ∧ c.toNat ≤ 122 := by
  have hunderscore : c = '_' ↔ c.toNat = 95 := by
    rw [← Char.toNat_inj]
    rfl
  simp only [isWordChar, Char.isAlphanum, Char.isAlpha, Char.isUpper, Char.isLower, Char.isDigit,
    Bool.or_eq_true, Bool.and_eq_true, decide_eq_true_eq, UInt32.le_iff_toNat_le, hunderscore,
    UInt32.reduceToNat, Char.reduceVal, Char.toNat_val, ge_iff_le]
  omega

theorem toNat_toLower (c : Char) :
    c.toLower.toNat = if 65 ≤ c.toNat ∧ c.toNat ≤ 90 then c.toNat + 32 else c.toNat := by
  have hupper : (c.val ≥ 'A'.val ∧ c.val ≤ 'Z'.val) ↔ 65 ≤ c.toNat ∧ c.toNat ≤ 90 := Iff.rfl
  unfold Char.toLower
  split_ifs with h hrange hrange
  · have hsum : (c.val + ('a'.val - 'A'.val)).toNat = c.toNat + 32 := by
      rw [UInt32.toNat_add]
      exact Nat.mod_eq_of_lt (by have := hrange.2; simp; omega)
    exact hsum
  · exact absurd (hupper.1 h) hrange
  · exact absurd (hupper.2 hrange) h
  · rfl

theorem isWordChar_of_toLower_eq {w c : Char} (hw : isWordChar w = true)
    (h : w.toLower = c.toLower) : isWordChar c = true := by
  have hcode := congrArg Char.toNat h
  rw [toNat_toLower, toNat_toLower] at hcode
  rw [isWordChar_iff] at hw ⊢
  split_ifs at hcode <;> omega

theorem isValueChar_of_isWordChar {c : Char} (h : isWordChar c = true) : isValueChar c = true := by
  have hcode := isWordChar_iff.1 h
  have hspace : isJsSpace c = false := by
    simp only [isJsSpace, List.mem_cons, List.not_mem_nil, or_false, Bool.or_eq_false_iff,
      Bool.and_eq_false_iff, decide_eq_false_iff_not]
    omega
  have hcomma : c ≠ ',' := by rintro rfl; revert h; decide
  have hsemi : c ≠ ';' := by rintro rfl; revert h; decide
  simp [isValueChar, hspace, hcomma, hsemi]

/-- What stops a marker: it belongs to no word, and is neither space nor sign. -/
structure StopsMarker (c : Char) : Prop where
  word : isWordChar c = false
  space : isJsSpace c = false
  sign : (c = ':' || c = '=') = false

/-- A word of a marker. -/
def IsMarkerWord (word : List Char) : Prop := word ≠ [] ∧ ∀ c ∈ word, isWordChar c = true

theorem isMarkerWord_of_mem {pattern : String × String} (h : pattern ∈ redactPatterns) :
    IsMarkerWord pattern.1.toList := by
  have hall : ∀ p ∈ redactPatterns,
      p.1.toList ≠ [] ∧ (p.1.toList.all fun c => isWordChar c) = true := by decide
  exact ⟨(hall pattern h).1, List.all_eq_true.1 (hall pattern h).2⟩

/-! ## Markers -/

/-- `\bword\b\s*[:=]` at the head of the text. -/
def startsMarker (word : List Char) (previous : Option Char) (cs : List Char) : Bool :=
  !previous.any isWordChar && startsWithIgnoreCase word cs &&
    !(cs.drop word.length).head?.any isWordChar &&
    ((cs.drop word.length).dropWhile isJsSpace).head?.any fun c => c = ':' || c = '='

/-- A marker starts somewhere in the text. -/
def hasMarker (word : List Char) : Option Char → List Char → Bool
  | _, [] => false
  | previous, c :: cs => startsMarker word previous (c :: cs) || hasMarker word (some c) cs

section Marker

variable {word : List Char} {previous : Option Char} {c b : Char} {x cs value after t : List Char}

theorem startsWithIgnoreCase_length (h : startsWithIgnoreCase word cs = true) :
    word.length ≤ cs.length := by
  induction word generalizing cs with
  | nil => exact Nat.zero_le _
  | cons w ws ih =>
      cases cs with
      | nil => cases h
      | cons c cs =>
          rw [startsWithIgnoreCase, Bool.and_eq_true] at h
          exact Nat.succ_le_succ (ih h.2)

theorem startsWithIgnoreCase_word (hword : ∀ w ∈ word, isWordChar w = true)
    (h : startsWithIgnoreCase word cs = true) : ∀ c ∈ cs.take word.length, isWordChar c = true := by
  induction word generalizing cs with
  | nil => simp
  | cons w ws ih =>
      cases cs with
      | nil => cases h
      | cons c cs =>
          rw [startsWithIgnoreCase, Bool.and_eq_true, decide_eq_true_iff] at h
          have hc := isWordChar_of_toLower_eq (hword w List.mem_cons_self) h.1
          have hcs := ih (fun d hd => hword d (List.mem_cons_of_mem _ hd)) h.2
          rw [List.length_cons, List.take_succ_cons]
          exact List.forall_mem_cons.2 ⟨hc, hcs⟩

theorem startsWithIgnoreCase_append (hword : ∀ w ∈ word, isWordChar w = true)
    (hb : isWordChar b = false) :
    startsWithIgnoreCase word (x ++ b :: t) = startsWithIgnoreCase word x := by
  induction word generalizing x with
  | nil => simp [startsWithIgnoreCase]
  | cons w ws ih =>
      cases x with
      | nil =>
          have hne : w.toLower ≠ b.toLower := by
            intro h
            rw [isWordChar_of_toLower_eq (hword w List.mem_cons_self) h] at hb
            cases hb
          simp [startsWithIgnoreCase, hne]
      | cons c x =>
          rw [List.cons_append, startsWithIgnoreCase, startsWithIgnoreCase,
            ih fun d hd => hword d (List.mem_cons_of_mem _ hd)]

/-- No word starts at a character that belongs to none. -/
theorem startsMarker_cons (hword : IsMarkerWord word) (hc : isWordChar c = false) :
    startsMarker word previous (c :: cs) = false := by
  obtain ⟨w, ws, rfl⟩ := List.exists_cons_of_ne_nil hword.1
  have hstart := startsWithIgnoreCase_append (x := []) (t := cs) hword.2 hc
  rw [List.nil_append, startsWithIgnoreCase] at hstart
  rw [startsMarker, hstart]
  simp

/-- A marker that starts before a character that stops markers is there whatever comes after. -/
theorem startsMarker_append (hword : IsMarkerWord word) (hb : StopsMarker b) :
    startsMarker word previous (x ++ b :: t) = startsMarker word previous (x ++ [b]) := by
  unfold startsMarker
  rw [startsWithIgnoreCase_append hword.2 hb.word, startsWithIgnoreCase_append hword.2 hb.word]
  cases hstart : startsWithIgnoreCase word x with
  | false => simp
  | true =>
      have hlength := startsWithIgnoreCase_length hstart
      rw [List.drop_append_of_le_length hlength, List.drop_append_of_le_length hlength]
      have hspace (s : List Char) : (x.drop word.length ++ b :: s).dropWhile isJsSpace =
          (x.drop word.length).dropWhile isJsSpace ++ b :: s := by
        rw [List.dropWhile_append, List.dropWhile_cons_of_neg (by simp [hb.space])]
        split_ifs with hempty
        · rw [List.isEmpty_iff.1 hempty, List.nil_append]
        · rfl
      rw [hspace, hspace]
      simp only [List.head?_append, List.head?_cons]

theorem hasMarker_append (hword : IsMarkerWord word) (hb : StopsMarker b) :
    hasMarker word previous (x ++ b :: t) =
      (hasMarker word previous (x ++ [b]) || hasMarker word (some b) t) := by
  induction x generalizing previous with
  | nil =>
      rw [List.nil_append, List.nil_append, hasMarker, hasMarker, hasMarker,
        startsMarker_cons hword hb.word, startsMarker_cons hword hb.word]
      simp
  | cons c x ih =>
      have hhead : startsMarker word previous (c :: (x ++ b :: t)) =
          startsMarker word previous (c :: x ++ [b]) := startsMarker_append (x := c :: x) hword hb
      rw [List.cons_append, List.cons_append, hasMarker, hasMarker, ih, hhead, List.cons_append,
        Bool.or_assoc]

theorem hasMarker_previous (h : previous.any isWordChar = false) :
    hasMarker word previous cs = hasMarker word none cs := by
  cases cs with
  | nil => rfl
  | cons c cs => rw [hasMarker, hasMarker, startsMarker, startsMarker, h, Option.any_none]

theorem hasMarker_cons (hword : IsMarkerWord word) (hc : isWordChar c = false) :
    hasMarker word previous (c :: cs) = hasMarker word none cs := by
  rw [hasMarker, startsMarker_cons hword hc, Bool.false_or, hasMarker_previous]
  exact hc

/-- What a match consists of. -/
theorem matchMarker_eq_some (h : matchMarker word previous cs = some (value, after)) :
    previous.any isWordChar = false ∧ startsWithIgnoreCase word cs = true ∧
      (cs.drop word.length).head?.any isWordChar = false ∧
      ∃ sign rest, (cs.drop word.length).dropWhile isJsSpace = sign :: rest ∧
        (sign = ':' ∨ sign = '=') ∧ value ≠ [] ∧
        value = (rest.dropWhile isJsSpace).takeWhile isValueChar ∧
        after = (rest.dropWhile isJsSpace).dropWhile isValueChar := by
  unfold matchMarker at h
  dsimp only at h
  split at h
  · cases h
  rename_i hhead
  rw [Bool.or_eq_true, not_or, Bool.not_eq_true, Bool.not_eq_true, Bool.not_eq_false'] at hhead
  split at h
  · cases h
  rename_i hword
  split at h
  · cases h
  rename_i sign rest hsign
  split at h
  · cases h
  rename_i hne
  split at h
  · cases h
  rename_i hvalue
  cases h
  refine ⟨hhead.1, hhead.2, Bool.eq_false_iff.2 hword, sign, rest, hsign, ?_, hvalue, rfl, rfl⟩
  by_contra hnone
  exact hne (not_or.1 hnone)

theorem matchMarker_eq_none (h : startsMarker word previous cs = false) :
    matchMarker word previous cs = none := by
  cases hmatch : matchMarker word previous cs with
  | none => rfl
  | some found =>
      obtain ⟨hbefore, hstart, hword, sign, rest, hrest, hsign, -⟩ := matchMarker_eq_some hmatch
      rw [startsMarker, hbefore, hstart, hword, hrest] at h
      rcases hsign with rfl | rfl
      · cases h
      · cases h

/-- A match is a part of the text without a comma, which ends where no value goes on. -/
theorem matchMarker_part (hword : IsMarkerWord word)
    (h : matchMarker word previous cs = some (value, after)) :
    ∃ part, part ≠ [] ∧ cs = part ++ after ∧ ',' ∉ part ∧
      ∀ c ∈ after.head?, isValueChar c = false := by
  obtain ⟨-, hstart, -, sign, rest, hrest, hsign, hne, hvalue, hafter⟩ := matchMarker_eq_some h
  have hspaces := List.takeWhile_append_dropWhile (p := isJsSpace) (l := cs.drop word.length)
  have hspaces' := List.takeWhile_append_dropWhile (p := isJsSpace) (l := rest)
  have hvalues := List.takeWhile_append_dropWhile (p := isValueChar) (l := rest.dropWhile isJsSpace)
  refine ⟨cs.take word.length ++ ((cs.drop word.length).takeWhile isJsSpace ++
    sign :: (rest.takeWhile isJsSpace ++ value)), by simp, ?_, ?_, ?_⟩
  · rw [hvalue, hafter, List.append_assoc, List.append_assoc, List.cons_append, List.append_assoc,
      hvalues, hspaces', ← hrest, hspaces, List.take_append_drop]
  · intro hcomma
    have hspace : isJsSpace ',' = false := by decide
    rcases List.mem_append.1 hcomma with hmem | hmem
    · have hletter := startsWithIgnoreCase_word hword.2 hstart _ hmem
      revert hletter
      decide
    rcases List.mem_append.1 hmem with hmem | hmem
    · rw [List.mem_takeWhile_imp hmem] at hspace
      cases hspace
    rcases List.mem_cons.1 hmem with rfl | hmem
    · simp at hsign
    rcases List.mem_append.1 hmem with hmem | hmem
    · rw [List.mem_takeWhile_imp hmem] at hspace
      cases hspace
    · rw [hvalue] at hmem
      have hletter := List.mem_takeWhile_imp hmem
      revert hletter
      decide
  · intro c hc
    rw [hafter] at hc
    have hhead := List.head?_dropWhile_not isValueChar (rest.dropWhile isJsSpace)
    rw [Option.mem_def.1 hc] at hhead
    simpa using hhead

/-! ## One pass -/

/-- The texts that `replaceMarkers` puts in. -/
def insertedTexts (replacement : (value : String) → String) (word : List Char) :
    (previous : Option Char) → (skip : ℕ) → List Char → List String
  | _, _, [] => []
  | _, skip + 1, c :: cs => insertedTexts replacement word (some c) skip cs
  | previous, 0, c :: cs =>
      match matchMarker word previous (c :: cs) with
      | none => insertedTexts replacement word (some c) 0 cs
      | some (value, after) =>
          replacement (String.ofList value) ::
            insertedTexts replacement word (some c) (cs.length - after.length) cs

variable (replacement : String → String)

theorem replaceMarkers_skip (skip : ℕ) (previous : Option Char) (cs : List Char) :
    ∃ p, replaceMarkers replacement word previous skip cs =
        replaceMarkers replacement word p 0 (cs.drop skip) ∧
      insertedTexts replacement word previous skip cs =
        insertedTexts replacement word p 0 (cs.drop skip) := by
  induction skip generalizing previous cs with
  | zero => exact ⟨previous, rfl, rfl⟩
  | succ skip ih =>
      cases cs with
      | nil => exact ⟨previous, rfl, rfl⟩
      | cons c cs => exact ih (some c) cs

theorem replaceMarkers_none (h : matchMarker word previous (c :: cs) = none) :
    replaceMarkers replacement word previous 0 (c :: cs) =
        c :: replaceMarkers replacement word (some c) 0 cs ∧
      insertedTexts replacement word previous 0 (c :: cs) =
        insertedTexts replacement word (some c) 0 cs := by
  rw [replaceMarkers, insertedTexts, h]
  exact ⟨rfl, rfl⟩

theorem replaceMarkers_some (hword : IsMarkerWord word)
    (h : matchMarker word previous cs = some (value, after)) :
    ∃ p, replaceMarkers replacement word previous 0 cs =
        (replacement (String.ofList value)).toList ++
          replaceMarkers replacement word p 0 after ∧
      insertedTexts replacement word previous 0 cs =
        replacement (String.ofList value) :: insertedTexts replacement word p 0 after := by
  obtain ⟨part, hne, hcs, -⟩ := matchMarker_part hword h
  obtain ⟨c, part, rfl⟩ := List.exists_cons_of_ne_nil hne
  subst hcs
  obtain ⟨p, htext, hinserted⟩ := @replaceMarkers_skip word replacement
    ((part ++ after).length - after.length) (some c) (part ++ after)
  have hdrop : (part ++ after).drop ((part ++ after).length - after.length) = after := by
    rw [List.length_append, Nat.add_sub_cancel, List.drop_left]
  rw [hdrop] at htext hinserted
  refine ⟨p, ?_, ?_⟩
  · rw [List.cons_append, replaceMarkers, ← List.cons_append, h]
    exact congrArg _ htext
  · rw [List.cons_append, insertedTexts, ← List.cons_append, h]
    exact congrArg _ hinserted

/-- What may stand before a marker, and what after its value. -/
def NoWordBefore (previous : Option Char) : Prop := previous.any isWordChar = false

def EndsValue (c : Char) : Prop := isValueChar c = false

/-- A pass replaces parts of the text by what is put in. -/
theorem replaced_replaceMarkers (hword : IsMarkerWord word) (hne : ∀ value, replacement value ≠ "")
    (n : ℕ) (previous : Option Char) (cs : List Char) (hn : cs.length ≤ n) :
    Replaced NoWordBefore EndsValue previous cs (replaceMarkers replacement word previous 0 cs)
      ((insertedTexts replacement word previous 0 cs).map String.toList) := by
  induction n generalizing previous cs with
  | zero =>
      rw [List.eq_nil_of_length_eq_zero (Nat.le_zero.1 hn)]
      exact .nil
  | succ n ih =>
      cases cs with
      | nil => exact .nil
      | cons c cs =>
          cases hmatch : matchMarker word previous (c :: cs) with
          | none =>
              obtain ⟨htext, hinserted⟩ := replaceMarkers_none replacement hmatch
              rw [htext, hinserted]
              exact .keep (ih _ _ (Nat.le_of_succ_le_succ hn))
          | some found =>
              obtain ⟨value, after⟩ := found
              obtain ⟨p, htext, hinserted⟩ := replaceMarkers_some replacement hword hmatch
              obtain ⟨hbefore, -⟩ := matchMarker_eq_some hmatch
              obtain ⟨part, hpart, hcs, -, hends⟩ := matchMarker_part hword hmatch
              rw [htext, hinserted, hcs]
              cases after with
              | nil =>
                  rw [List.append_nil, replaceMarkers, List.append_nil]
                  exact .last part hbefore
              | cons d after =>
                  have hend : isValueChar d = false := hends d rfl
                  have hnone : matchMarker word p (d :: after) = none := by
                    apply matchMarker_eq_none
                    apply startsMarker_cons hword
                    by_contra hletter
                    rw [Bool.not_eq_false] at hletter
                    rw [isValueChar_of_isWordChar hletter] at hend
                    cases hend
                  obtain ⟨htext', hinserted'⟩ := replaceMarkers_none replacement hnone
                  rw [htext', hinserted', List.map_cons]
                  refine .part part hbefore ?_ hend (ih _ _ ?_)
                  · rw [ne_eq, String.toList_eq_nil_iff]
                    exact hne _
                  · rw [hcs, List.length_append, List.length_cons] at hn
                    have hlength := List.length_pos_of_ne_nil hpart
                    omega

/-! ## What a pass copies -/

/-- A text without a marker is copied, up to its end. -/
theorem replaceMarkers_unmarked (hword : IsMarkerWord word) (hb : StopsMarker b)
    (h : hasMarker word previous (x ++ [b]) = false) (t : List Char) :
    ∃ p, replaceMarkers replacement word previous 0 (x ++ b :: t) =
      x ++ b :: replaceMarkers replacement word p 0 t := by
  induction x generalizing previous with
  | nil =>
      refine ⟨some b, ?_⟩
      have hnone : matchMarker word previous (b :: t) = none :=
        matchMarker_eq_none (startsMarker_cons hword hb.word)
      exact (replaceMarkers_none replacement hnone).1
  | cons c x ih =>
      rw [List.cons_append, hasMarker, Bool.or_eq_false_iff] at h
      have hhead : startsMarker word previous (c :: (x ++ b :: t)) = false :=
        (startsMarker_append (x := c :: x) hword hb).trans h.1
      obtain ⟨p, htext⟩ := ih h.2
      refine ⟨p, ?_⟩
      rw [List.cons_append, (replaceMarkers_none replacement (matchMarker_eq_none hhead)).1, htext]
      rfl

theorem exists_append_of_not_mem {part : List Char} (h : part ++ after = x ++ b :: t)
    (hb : b ∉ part) : ∃ x', x = part ++ x' ∧ after = x' ++ b :: t := by
  rcases List.append_eq_append_iff.1 h with hsplit | ⟨rest, rfl, hrest⟩
  · exact hsplit
  · cases rest with
    | nil => exact ⟨[], by simp, by simpa using hrest.symm⟩
    | cons d rest =>
        obtain ⟨rfl, -⟩ := List.cons.inj hrest
        exact absurd (by simp) hb

/-- No match runs over a comma. -/
theorem replaceMarkers_comma (hword : IsMarkerWord word) (n : ℕ) (previous : Option Char)
    (x t : List Char) (hn : x.length ≤ n) :
    ∃ y, replaceMarkers replacement word previous 0 (x ++ ',' :: t) =
      y ++ ',' :: replaceMarkers replacement word (some ',') 0 t := by
  have hcomma : isWordChar ',' = false := by decide
  induction n generalizing previous x with
  | zero =>
      rw [List.eq_nil_of_length_eq_zero (Nat.le_zero.1 hn)]
      have hnone : matchMarker word previous (',' :: t) = none :=
        matchMarker_eq_none (startsMarker_cons hword hcomma)
      exact ⟨[], (replaceMarkers_none replacement hnone).1⟩
  | succ n ih =>
      cases x with
      | nil => exact ih previous [] (Nat.zero_le n)
      | cons c x =>
          cases hmatch : matchMarker word previous (c :: (x ++ ',' :: t)) with
          | none =>
              obtain ⟨y, hy⟩ := ih (some c) x (Nat.le_of_succ_le_succ hn)
              refine ⟨c :: y, ?_⟩
              rw [List.cons_append, (replaceMarkers_none replacement hmatch).1, hy]
              rfl
          | some found =>
              obtain ⟨value, after⟩ := found
              obtain ⟨p, htext, -⟩ := replaceMarkers_some replacement hword hmatch
              obtain ⟨part, hpart, hcs, hnocomma, -⟩ := matchMarker_part hword hmatch
              obtain ⟨x', hx, rfl⟩ := exists_append_of_not_mem (x := c :: x) hcs.symm hnocomma
              have hlength : x'.length ≤ n := by
                have hparts := congrArg List.length hx
                have hpos := List.length_pos_of_ne_nil hpart
                rw [List.length_append] at hparts
                rw [List.length_cons] at hparts hn
                omega
              obtain ⟨y, hy⟩ := ih p x' hlength
              refine ⟨(replacement (String.ofList value)).toList ++ y, ?_⟩
              rw [List.cons_append, htext, hy, List.append_assoc]

/-- The piece starts the text, or an item of it. -/
def StartsItem (piece text : List Char) : Prop :=
  ∃ rest, text = piece ++ rest ∨ ∃ before, text = before ++ ',' :: (piece ++ rest)

theorem StartsItem.replaceMarkers (hword : IsMarkerWord word) (hb : StopsMarker b)
    (hmarker : hasMarker word none (x ++ [b]) = false) (h : StartsItem (x ++ [b]) t) :
    StartsItem (x ++ [b]) (replaceMarkers replacement word none 0 t) := by
  have hcomma : hasMarker word (some ',') (x ++ [b]) = false := by
    rwa [hasMarker_previous (by decide)]
  obtain ⟨rest, rfl | ⟨before, rfl⟩⟩ := h
  · rw [List.append_assoc, List.singleton_append]
    obtain ⟨p, htext⟩ := replaceMarkers_unmarked replacement hword hb hmarker rest
    exact ⟨_, .inl (by rw [htext, List.append_assoc, List.singleton_append])⟩
  · rw [List.append_assoc, List.singleton_append]
    obtain ⟨y, hy⟩ :=
      replaceMarkers_comma replacement hword before.length none before (x ++ b :: rest) le_rfl
    obtain ⟨p, htext⟩ := replaceMarkers_unmarked replacement hword hb hcomma rest
    exact ⟨_, .inr ⟨y, by rw [hy, htext, List.append_assoc, List.singleton_append]⟩⟩

end Marker

/-! ## All passes -/

section Passes

variable (platform : LogPlatform)

/-- What a pattern puts in the place of a marker with the value. -/
def patternText (pattern : String × String) (value : String) : String :=
  pattern.2 ++ "=[REDACTED_" ++ computeRedactedToken platform value ++ "]"

/-- The texts that `redactString` puts in, by the patterns still to come. -/
def insertedByPatterns : List (String × String) → String → List String
  | [], _ => []
  | pattern :: patterns, s =>
      insertedTexts (patternText platform pattern) pattern.1.toList none 0 s.toList ++
        insertedByPatterns patterns (redactPattern platform s pattern)

variable {platform} {b : Char} {w x : List Char}

theorem patternText_ne (pattern : String × String) (value : String) :
    patternText platform pattern value ≠ "" := by
  intro h
  have hempty := congrArg String.toList h
  simp [patternText] at hempty

/-- What can be read after the passes was there before, or overlaps what they put in. -/
theorem infix_redactPatterns {patterns : List (String × String)}
    (hpatterns : ∀ p ∈ patterns, p ∈ redactPatterns) {s : String}
    (h : w <:+: (patterns.foldl (redactPattern platform) s).toList) :
    w <:+: s.toList ∨ ∃ text ∈ insertedByPatterns platform patterns s,
      Overlaps NoWordBefore EndsValue w text.toList := by
  induction patterns generalizing s with
  | nil => exact .inl h
  | cons pattern patterns ih =>
      rcases ih (fun p hp => hpatterns p (List.mem_cons_of_mem _ hp)) h with
        hafter | ⟨text, hmem, hover⟩
      · have hword := isMarkerWord_of_mem (hpatterns pattern List.mem_cons_self)
        have hne : ∀ value, patternText platform pattern value ≠ "" := patternText_ne pattern
        have hpass := replaced_replaceMarkers _ hword hne s.toList.length none s.toList le_rfl
        have hresult : (redactPattern platform s pattern).toList =
            replaceMarkers (patternText platform pattern) pattern.1.toList none 0 s.toList :=
          String.toList_ofList
        rw [hresult] at hafter
        rcases hpass.inside hafter with hbefore | ⟨text, hmem, hover⟩
        · exact .inl hbefore
        · obtain ⟨inserted, hinserted, rfl⟩ := List.mem_map.1 hmem
          exact .inr ⟨inserted, List.mem_append_left _ hinserted, hover⟩
      · exact .inr ⟨text, List.mem_append_right _ hmem, hover⟩

/-- A piece without a marker, at the start of an item, is kept. -/
theorem startsItem_redactString (hb : StopsMarker b)
    (hmarker : ∀ pattern ∈ redactPatterns, hasMarker pattern.1.toList none (x ++ [b]) = false)
    {s : String} (h : StartsItem (x ++ [b]) s.toList) :
    StartsItem (x ++ [b]) (redactString platform s).toList := by
  unfold redactString
  refine List.foldlRecOn (motive := fun t : String => StartsItem (x ++ [b]) t.toList)
    redactPatterns (redactPattern platform) h ?_
  intro t ht pattern hmem
  have hresult : (redactPattern platform t pattern).toList =
      replaceMarkers (patternText platform pattern) pattern.1.toList none 0 t.toList :=
    String.toList_ofList
  rw [hresult]
  exact ht.replaceMarkers _ (isMarkerWord_of_mem hmem) hb (hmarker pattern hmem)

end Passes

end UniverEscrow.Security
