import UniverEscrow.Js.JsonParse
import UniverEscrow.Js.Rounding

/-!
# Reading what `JSON.stringify` writes

`JSON.parse` undoes `JSON.stringify`, but for what JSON has no text for: numbers that are not finite
become `null`, undefined items too, and undefined members go.
-/

namespace UniverEscrow.Js

open UniverEscrow.Lib

/-! ## Strings -/

theorem decodeUnits_cons {u : ℕ} (h : u < 0xd800 ∨ 0xdfff < u) (us : List ℕ) :
    decodeUnits (u :: us) = (decodeUnits us).map (Char.ofNat u :: ·) := by
  rw [decodeUnits.eq_def]
  exact if_pos h

theorem decodeUnits_pair {u v : ℕ} (hu : 0xd800 ≤ u ∧ u < 0xdc00) (hv : 0xdc00 ≤ v ∧ v ≤ 0xdfff)
    (us : List ℕ) :
    decodeUnits (u :: v :: us) = (decodeUnits us).map
      (Char.ofNat (0x10000 + (u - 0xd800) * 0x400 + (v - 0xdc00)) :: ·) := by
  have hhigh : ¬(u < 0xd800 ∨ 0xdfff < u) := by omega
  rw [decodeUnits.eq_def]
  exact (if_neg hhigh).trans (if_pos ⟨hu.2, hv⟩)

theorem decodeUnits_utf16Units (c : Char) (us : List ℕ) :
    decodeUnits (JsValue.utf16Units c ++ us) = (decodeUnits us).map (c :: ·) := by
  have hc := JsValue.not_surrogate c
  unfold JsValue.utf16Units
  split_ifs with hsmall
  · rw [List.singleton_append, decodeUnits_cons (by omega), Char.ofNat_toNat]
  · have hvalue : 0x10000 + (0xd800 + (c.toNat - 0x10000) / 0x400 - 0xd800) * 0x400 +
        (0xdc00 + (c.toNat - 0x10000) % 0x400 - 0xdc00) = c.toNat := by omega
    rw [List.cons_append, List.cons_append, List.nil_append,
      decodeUnits_pair (by omega) (by omega), hvalue, Char.ofNat_toNat]

theorem decodeUnits_flatMap (cs : List Char) :
    decodeUnits (cs.flatMap JsValue.utf16Units) = some cs := by
  induction cs with
  | nil => rfl
  | cons c cs ih => rw [List.flatMap_cons, decodeUnits_utf16Units, ih, Option.map_some]

theorem literalUnits_short {c : Char} {u : ℕ} (h : escapedUnit c = some u) (rest : List Char) :
    literalUnits ('\\' :: c :: rest) = (literalUnits rest).map fun p => (u :: p.1, p.2) := by
  rw [literalUnits.eq_def]
  split
  · rename_i heq
    cases heq
  · rename_i heq
    cases heq
  · rename_i heq
    cases heq
    cases h
  · rename_i heq
    cases heq
    rw [h]
    cases literalUnits rest <;> rfl
  · rename_i hne heq
    cases heq
    exact absurd rfl (hne c rest rfl)

theorem literalUnits_unicode {a b c d : Char} {u : ℕ} (h : readDigits 16 [a, b, c, d] = some u)
    (rest : List Char) :
    literalUnits ('\\' :: 'u' :: a :: b :: c :: d :: rest) =
      (literalUnits rest).map fun p => (u :: p.1, p.2) := by
  rw [literalUnits.eq_def]
  simp only [h]
  cases literalUnits rest <;> rfl

theorem literalUnits_plain {c : Char} (hquote : c ≠ '"') (hslash : c ≠ '\\')
    (hctrl : ¬c.toNat < 0x20) (rest : List Char) :
    literalUnits (c :: rest) =
      (literalUnits rest).map fun p => (JsValue.utf16Units c ++ p.1, p.2) := by
  rw [literalUnits.eq_def]
  split
  · rename_i heq
    cases heq
  · rename_i heq
    exact absurd (List.cons.inj heq).1 hquote
  · rename_i heq
    exact absurd (List.cons.inj heq).1 hslash
  · rename_i heq
    exact absurd (List.cons.inj heq).1 hslash
  · rename_i heq
    cases heq
    exact if_neg hctrl

/-- A control character is written with a short escape or with its four digits. -/
theorem escapeChar_ctrl (n : ℕ) (hn : n < 0x20) :
    (∃ e, escapeChar (Char.ofNat n) = ['\\', e] ∧ escapedUnit e = some n) ∨
      ∃ hi lo, escapeChar (Char.ofNat n) = ['\\', 'u', '0', '0', hi, lo] ∧
        readDigits 16 ['0', '0', hi, lo] = some n := by
  interval_cases n <;> first
    | exact .inl ⟨_, rfl, rfl⟩
    | exact .inr ⟨_, _, rfl, by decide⟩

theorem literalUnits_escapeChar (c : Char) (rest : List Char) :
    literalUnits (escapeChar c ++ rest) =
      (literalUnits rest).map fun p => (JsValue.utf16Units c ++ p.1, p.2) := by
  by_cases hquote : c = '"'
  · subst hquote
    exact literalUnits_short rfl rest
  by_cases hslash : c = '\\'
  · subst hslash
    exact literalUnits_short rfl rest
  by_cases hctrl : c.toNat < 0x20
  · have hunits : JsValue.utf16Units c = [c.toNat] := if_pos (by omega)
    rcases escapeChar_ctrl c.toNat hctrl with ⟨e, hchars, hunit⟩ | ⟨hi, lo, hchars, hunit⟩
    · rw [Char.ofNat_toNat] at hchars
      rw [hchars, hunits]
      exact literalUnits_short hunit rest
    · rw [Char.ofNat_toNat] at hchars
      rw [hchars, hunits]
      exact literalUnits_unicode hunit rest
  · have hchars : escapeChar c = [c] := by simp [escapeChar, hquote, hslash, hctrl]
    rw [hchars]
    exact literalUnits_plain hquote hslash hctrl rest

theorem literalUnits_flatMap (cs rest : List Char) :
    literalUnits (cs.flatMap escapeChar ++ '"' :: rest) =
      some (cs.flatMap JsValue.utf16Units, rest) := by
  induction cs with
  | nil => rfl
  | cons c cs ih =>
      rw [List.flatMap_cons, List.append_assoc, literalUnits_escapeChar, ih, Option.map_some,
        List.flatMap_cons]

/-- A literal is read back, up to its closing quote. -/
theorem readLiteral_quote (s : String) (rest : List Char) :
    ∃ body, (quote s).toList ++ rest = '"' :: body ∧ readLiteral body = some (s, rest) := by
  refine ⟨s.toList.flatMap escapeChar ++ '"' :: rest, by simp [quoteChars], ?_⟩
  rw [readLiteral, literalUnits_flatMap]
  simp only [decodeUnits_flatMap, Option.map_some, String.ofList_toList]

/-! ## Numbers -/

theorem head?_toDigits {n : ℕ} (hn : 0 < n) : (Nat.toDigits 10 n).head? ≠ some '0' := by
  intro hzero
  obtain ⟨ds, hds⟩ := List.head?_eq_some_iff.1 hzero
  have hvalue := digitsValue_toDigits n
  have hlow := length_toDigits_pred_le hn
  have hdigits := isDigitOf_toDigits n
  rw [hds] at hvalue hlow hdigits
  have hhigh := digitsValue_lt fun c hc => hdigits c (List.mem_cons_of_mem _ hc)
  have hlead : digitsValue 10 ['0'] = 0 := rfl
  rw [← List.singleton_append, digitsValue_append, hlead, zero_mul, zero_add] at hvalue
  rw [List.length_cons, Nat.add_sub_cancel] at hlow
  omega

/-- The first digit that is printed is no zero. -/
theorem head?_shortestDecimal {x : Binary64} (hx : 0 < x.val) :
    (shortestDecimal x).1.head? ≠ some '0' := by
  have hback := ofRat_shortestDecimal hx
  revert hback
  dsimp only [shortestDecimal]
  split_ifs
  · generalize Int.toNat _ = n
    intro hback
    apply head?_toDigits
    by_contra hzero
    have hreads : JsNumber.ofRat 0 = .fin ⟨0, isBinary64_zero⟩ := JsNumber.ofRat_val ⟨0, _⟩
    rw [digitsValue_toDigits, Nat.eq_zero_of_not_pos hzero, Nat.cast_zero, zero_mul, hreads]
      at hback
    rw [← JsNumber.fin.inj hback] at hx
    exact lt_irrefl _ hx
  · simp

theorem isJsonDecimal_plain {ip rest : List Char} (hip : ∀ c ∈ ip, isDigitOf 10 c = true)
    (hne : ip ≠ []) (hzero : ip = ['0'] ∨ ip.head? ≠ some '0')
    (hrest : ∀ c ∈ rest.head?, isDigitOf 10 c = false ∧ c ≠ '.') :
    isJsonDecimal (ip ++ rest) = true := by
  unfold isJsonDecimal
  rw [List.takeWhile_append_of_pos hip, List.dropWhile_append_of_pos hip]
  cases rest with
  | nil => simp [hne, hzero]
  | cons c rest =>
      obtain ⟨hc, hdot⟩ := hrest c rfl
      have hneg : ¬isDigitOf 10 c = true := by simp [hc]
      rw [List.takeWhile_cons_of_neg hneg, List.dropWhile_cons_of_neg hneg]
      simp [hne, hzero, hdot]

theorem isJsonDecimal_point {ip fp rest : List Char} (hip : ∀ c ∈ ip, isDigitOf 10 c = true)
    (hne : ip ≠ []) (hzero : ip = ['0'] ∨ ip.head? ≠ some '0')
    (hfp : ∀ c ∈ fp, isDigitOf 10 c = true) (hfne : fp ≠ []) :
    isJsonDecimal (ip ++ '.' :: (fp ++ rest)) = true := by
  have hpoint : ¬isDigitOf 10 '.' = true := by decide
  unfold isJsonDecimal
  rw [List.takeWhile_append_of_pos hip, List.dropWhile_append_of_pos hip,
    List.takeWhile_cons_of_neg hpoint, List.dropWhile_cons_of_neg hpoint]
  simp [hne, hzero, List.takeWhile_append_of_pos hfp, hfne]

theorem isJsonDecimal_finiteChars {x : Binary64} (hx : 0 < x.val) :
    isJsonDecimal (finiteChars x) = true := by
  have hdigits := isDigitOf_shortestDecimal x
  have hne := shortestDecimal_ne_nil x
  have hlead := head?_shortestDecimal hx
  have hexponent : ∀ c ∈ (exponentText ((shortestDecimal x).2 - 1)).head?,
      isDigitOf 10 c = false ∧ c ≠ '.' := by
    intro c hc
    cases hc
    decide
  unfold finiteChars
  generalize (shortestDecimal x).1 = digits at *
  generalize (shortestDecimal x).2 = n at *
  rcases layoutDecimal_forms hne n with ⟨-, htext⟩ | ⟨hpos, hn, htext⟩ | ⟨-, htext⟩ | ⟨hn, -⟩
  · have hall : ∀ c ∈ digits ++ List.replicate (n - digits.length).toNat '0',
        isDigitOf 10 c = true := by
      intro c hc
      exact (List.mem_append.1 hc).elim (hdigits c) (isDigitOf_replicate_zero _ c)
    have hhead : (digits ++ List.replicate (n - digits.length).toNat '0').head? ≠ some '0' := by
      cases digits with
      | nil => exact absurd rfl hne
      | cons d ds => exact hlead
    have hne' : digits ++ List.replicate (n - digits.length).toNat '0' ≠ [] := by simp [hne]
    rw [htext, ← List.append_nil (digits ++ _)]
    exact isJsonDecimal_plain hall hne' (.inr hhead) (by simp)
  · have hinit : digits.take n.toNat ≠ [] := by
      rw [← List.length_pos_iff, List.length_take]
      omega
    have hrest : digits.drop n.toNat ≠ [] := by
      rw [← List.length_pos_iff, List.length_drop]
      omega
    have hhead : (digits.take n.toNat).head? ≠ some '0' := by
      rw [List.head?_take, if_neg (by omega)]
      exact hlead
    rw [htext, ← List.append_nil (digits.drop n.toNat)]
    exact isJsonDecimal_point (fun c hc => hdigits c (List.mem_of_mem_take hc)) hinit (.inr hhead)
      (fun c hc => hdigits c (List.mem_of_mem_drop hc)) hrest
  · have hall : ∀ c ∈ List.replicate (-n).toNat '0' ++ digits, isDigitOf 10 c = true := by
      intro c hc
      exact (List.mem_append.1 hc).elim (isDigitOf_replicate_zero _ c) (hdigits c)
    have hzero : ∀ c ∈ ['0'], isDigitOf 10 c = true := List.all_eq_true.1 rfl
    have hne' : List.replicate (-n).toNat '0' ++ digits ≠ [] := by simp [hne]
    have hpoint : isJsonDecimal
        (['0'] ++ '.' :: (List.replicate (-n).toNat '0' ++ digits ++ [])) = true :=
      isJsonDecimal_point hzero (by decide) (.inl rfl) hall hne'
    rw [List.append_nil] at hpoint
    rw [htext]
    exact hpoint
  · rcases layoutDecimal_exponent hne hn with ⟨d, rfl, htext⟩ | ⟨d, ds, rfl, hds, htext⟩
    · rw [htext]
      exact isJsonDecimal_plain hdigits hne (.inr hlead) hexponent
    · have hd : ∀ c ∈ [d], isDigitOf 10 c = true := by
        intro c hc
        rw [List.mem_singleton.1 hc]
        exact hdigits d List.mem_cons_self
      have hpoint : isJsonDecimal ([d] ++ '.' :: (ds ++ exponentText (n - 1))) = true :=
        isJsonDecimal_point hd (by simp) (.inr hlead)
          (fun c hc => hdigits c (List.mem_cons_of_mem _ hc)) hds
      rw [htext]
      exact hpoint

theorem readJsonUnsigned_finiteChars {x : Binary64} (hx : 0 < x.val) :
    ∃ q, readJsonUnsigned (finiteChars x) = some q ∧ JsNumber.ofRat q = .fin x := by
  obtain ⟨q, hq, hval⟩ := Option.map_eq_some_iff.1 (ofRat_of_readUnsignedDecimal hx)
  exact ⟨q, by rw [readJsonUnsigned, if_pos (isJsonDecimal_finiteChars hx), hq], hval⟩

theorem readJsonNumber_of_ne {cs : List Char} (h : ∀ ds, cs ≠ '-' :: ds) :
    readJsonNumber cs = readJsonUnsigned cs := by
  unfold readJsonNumber
  split
  · exact absurd rfl (h _)
  · rfl

/-- A finite number is read back. -/
theorem readJsonNumber_toText {x : Binary64} :
    ∃ q, readJsonNumber (JsNumber.fin x).toText.toList = some q ∧ JsNumber.ofRat q = .fin x := by
  rcases toText_fin_cases x with ⟨hzero, htext⟩ | ⟨hpos, htext⟩ | ⟨hneg, htext⟩
  · refine ⟨0, by rw [htext]; decide +kernel, ?_⟩
    rw [← hzero, JsNumber.ofRat_val]
  · obtain ⟨q, hq, hval⟩ := readJsonUnsigned_finiteChars hpos
    refine ⟨q, ?_, hval⟩
    rw [htext, String.toList_ofList, readJsonNumber_of_ne (finiteChars_ne_minus hpos), hq]
  · obtain ⟨q, hq, hval⟩ := readJsonUnsigned_finiteChars hneg
    refine ⟨-q, ?_, ?_⟩
    · rw [htext, String.toList_ofList, readJsonNumber, hq, Option.map_some]
    · have hround := JsNumber.ofRat_eq_fin.1 hval
      have hflip : x.neg.val = -x.val := rfl
      rw [JsNumber.ofRat_eq_fin, roundToUlp_neg, hround, hflip, neg_neg]

/-! ## Values -/

/-- What a JavaScript value is: no object has a key twice, and members stand in the order in which
they are enumerated. -/
inductive InOrder : JsValue → Prop
  | undefined : InOrder .undefined
  | null : InOrder .null
  | bool (b : Bool) : InOrder (.bool b)
  | num (n : JsNumber) : InOrder (.num n)
  | str (s : String) : InOrder (.str s)
  | arr {items : List JsValue} (hitems : ∀ v ∈ items, InOrder v) : InOrder (.arr items)
  | obj {members : List (String × JsValue)} (hkeys : (members.map Prod.fst).Nodup)
      (horder : members.Pairwise fun a b => enumerates a.1 b.1 = true)
      (hmembers : ∀ m ∈ members, InOrder m.2) : InOrder (.obj members)

namespace JsValue

theorem itemJsons_eq (items : List JsValue) : itemJsons items = items.map stringify := by
  induction items with
  | nil => rfl
  | cons v vs ih => rw [itemJsons, ih, List.map_cons]

theorem itemsViaJson_eq (items : List JsValue) : itemsViaJson items = items.map viaJson := by
  induction items with
  | nil => rfl
  | cons v vs ih => rw [itemsViaJson, ih, List.map_cons]

/-- The members that have a text. -/
def definedMembers (members : List (String × JsValue)) : List (String × JsValue) :=
  members.filter fun m => !m.2.isUndefined

theorem memberJsons_eq (members : List (String × JsValue)) :
    memberJsons members =
      (definedMembers members).map fun m => quote m.1 ++ ":" ++ stringify m.2 := by
  induction members with
  | nil => rfl
  | cons m ms ih =>
      obtain ⟨k, v⟩ := m
      cases v <;> simp [memberJsons, definedMembers, isUndefined, ih]

theorem membersViaJson_eq (members : List (String × JsValue)) :
    membersViaJson members = (definedMembers members).map fun m => (m.1, viaJson m.2) := by
  induction members with
  | nil => rfl
  | cons m ms ih =>
      obtain ⟨k, v⟩ := m
      cases v <;> simp [membersViaJson, definedMembers, isUndefined, ih]

theorem toList_stringify_arr (items : List JsValue) :
    (stringify (.arr items)).toList =
      '[' :: ([','].intercalate (items.map fun v => v.stringify.toList) ++ [']']) := by
  simp [stringify, itemJsons_eq, String.toList_intercalate, Function.comp_def]

/-- The text of a member. -/
def memberText (m : String × JsValue) : List Char :=
  (quote m.1).toList ++ ':' :: m.2.stringify.toList

theorem toList_stringify_obj (members : List (String × JsValue)) :
    (stringify (.obj members)).toList =
      '\x7b' :: ([','].intercalate ((definedMembers members).map memberText) ++ ['\x7d']) := by
  have htext : memberText = fun m => (quote m.1).toList ++ ':' :: m.2.stringify.toList := rfl
  simp [stringify, memberJsons_eq, String.toList_intercalate, Function.comp_def, htext]

end JsValue

open JsValue

theorem skipSpace_cons {c : Char} (h : isJsonSpace c = false) (cs : List Char) :
    skipSpace (c :: cs) = c :: cs := by
  unfold skipSpace
  rw [List.dropWhile_cons_of_neg]
  simp [h]

/-- A number ends before the text. -/
def EndsNumber (rest : List Char) : Prop := ∀ c ∈ rest.head?, isNumberMark c = false

/-- The value is read back, whatever follows its text. -/
def ReadsBack (v : JsValue) : Prop :=
  ∀ {fuel : ℕ} {rest : List Char}, EndsNumber rest →
    2 * (v.stringify.toList ++ rest).length + 1 ≤ fuel →
      ∃ tree, parseValue fuel (v.stringify.toList ++ rest) = some (tree, rest) ∧
        tree.toValue = v.viaJson

/-- How a number starts. -/
theorem parseValue_number {fuel : ℕ} {c : Char} {cs : List Char}
    (hc : isDigitOf 10 c = true ∨ c = '-') :
    parseValue (fuel + 1) (c :: cs) =
      (readJsonNumber ((c :: cs).takeWhile isNumberMark)).map fun q =>
        (.num q, (c :: cs).dropWhile isNumberMark) := by
  have hne : ∀ d ∈ ['n', 't', 'f', '"', '[', '\x7b', ' ', '\t', '\n', '\r'], c ≠ d := by
    rintro d hd rfl
    have hall : ∀ d ∈ ['n', 't', 'f', '"', '[', '\x7b', ' ', '\t', '\n', '\r'],
        isDigitOf 10 d = false ∧ d ≠ '-' := List.all_iff_forall_prop.1 rfl
    rcases hc with hc | hc
    · rw [(hall c hd).1] at hc
      cases hc
    · exact (hall c hd).2 hc
  have hspace : isJsonSpace c = false := by
    simp only [List.mem_cons, List.not_mem_nil, or_false, forall_eq_or_imp, forall_eq] at hne
    simp [isJsonSpace, hne]
  rw [parseValue, skipSpace_cons hspace]
  split
  · rename_i heq
    exact absurd (List.cons.inj heq).1 (hne _ (by simp))
  · rename_i heq
    exact absurd (List.cons.inj heq).1 (hne _ (by simp))
  · rename_i heq
    exact absurd (List.cons.inj heq).1 (hne _ (by simp))
  · rename_i heq
    exact absurd (List.cons.inj heq).1 (hne _ (by simp))
  · rename_i heq
    exact absurd (List.cons.inj heq).1 (hne _ (by simp))
  · rename_i heq
    exact absurd (List.cons.inj heq).1 (hne _ (by simp))
  · rfl

theorem isNumberMark_of_mem {x : Binary64} {c : Char}
    (h : c ∈ (JsNumber.fin x).toText.toList) : isNumberMark c = true := by
  have hall : ∀ c ∈ ['.', 'e', '+', '-'], isNumberMark c = true := List.all_eq_true.1 rfl
  rcases mem_toText_fin h with hdigit | hmark
  · simp [isNumberMark, isDigitOf_ten_iff hdigit]
  · exact hall c hmark

theorem toText_head (x : Binary64) :
    ∃ c cs, (JsNumber.fin x).toText.toList = c :: cs ∧ (isDigitOf 10 c = true ∨ c = '-') := by
  obtain ⟨q, hq, -⟩ := readJsonNumber_toText (x := x)
  cases htext : (JsNumber.fin x).toText.toList with
  | nil =>
      rw [htext, readJsonNumber_nil] at hq
      cases hq
  | cons c cs =>
      refine ⟨c, cs, rfl, ?_⟩
      by_cases hminus : c = '-'
      · exact .inr hminus
      · have hne : ∀ ds, c :: cs ≠ '-' :: ds := fun ds h => hminus (List.cons.inj h).1
        rw [htext, readJsonNumber_of_ne hne, readJsonUnsigned] at hq
        split_ifs at hq with hdecimal
        by_contra hdigit
        rw [not_or] at hdigit
        rw [isJsonDecimal, List.takeWhile_cons_of_neg hdigit.1] at hdecimal
        simp at hdecimal

theorem readsBack_num (n : JsNumber) : ReadsBack (.num n) := by
  intro fuel rest hrest hfuel
  obtain ⟨fuel, rfl⟩ := Nat.exists_eq_succ_of_ne_zero (by omega : fuel ≠ 0)
  have hnull (hfinite : n.isFinite = false) : ∃ tree,
      parseValue (fuel + 1) ((stringify (.num n)).toList ++ rest) = some (tree, rest) ∧
        tree.toValue = viaJson (.num n) := by
    refine ⟨.null, ?_, ?_⟩
    · have htext : (stringify (.num n)).toList = ['n', 'u', 'l', 'l'] := by
        simp [stringify, numberJson, hfinite]
      rw [htext, parseValue]
      rfl
    · rw [viaJson, hfinite]
      rfl
  cases n with
  | fin x =>
      have htext : (stringify (.num (.fin x))).toList = (JsNumber.fin x).toText.toList := rfl
      obtain ⟨c, cs, hchars, hhead⟩ := toText_head x
      obtain ⟨q, hq, hval⟩ := readJsonNumber_toText (x := x)
      have hmarks : ∀ d ∈ c :: cs, isNumberMark d = true := by
        rw [← hchars]
        exact fun d hd => isNumberMark_of_mem hd
      have hend : rest.takeWhile isNumberMark = [] ∧ rest.dropWhile isNumberMark = rest := by
        cases rest with
        | nil => exact ⟨rfl, rfl⟩
        | cons d rest =>
            have hd := hrest d rfl
            exact ⟨List.takeWhile_cons_of_neg (by simp [hd]),
              List.dropWhile_cons_of_neg (by simp [hd])⟩
      refine ⟨.num q, ?_, ?_⟩
      · rw [htext, hchars, List.cons_append, parseValue_number hhead, ← List.cons_append,
          List.takeWhile_append_of_pos hmarks, List.dropWhile_append_of_pos hmarks, hend.1,
          hend.2, List.append_nil, ← hchars, hq, Option.map_some]
      · rw [JsonTree.toValue, hval]
        rfl
  | nan => exact hnull rfl
  | posInf => exact hnull rfl
  | negInf => exact hnull rfl

theorem readsBack_str (s : String) : ReadsBack (.str s) := by
  intro fuel rest _ hfuel
  obtain ⟨fuel, rfl⟩ := Nat.exists_eq_succ_of_ne_zero (by omega : fuel ≠ 0)
  obtain ⟨body, hbody, hread⟩ := readLiteral_quote s rest
  refine ⟨.str s, ?_, rfl⟩
  rw [stringify, hbody, parseValue, skipSpace_cons (by decide)]
  simp only [hread, Option.map_some]

/-! ## Items -/

theorem stringify_head (v : JsValue) :
    ∃ c cs, v.stringify.toList = c :: cs ∧ isJsonSpace c = false ∧ c ≠ ']' := by
  cases v with
  | undefined => exact ⟨'n', _, rfl, by decide, by decide⟩
  | null => exact ⟨'n', _, rfl, by decide, by decide⟩
  | bool b =>
      cases b with
      | true => exact ⟨'t', _, rfl, by decide, by decide⟩
      | false => exact ⟨'f', _, rfl, by decide, by decide⟩
  | num n =>
      cases n with
      | fin x =>
          obtain ⟨c, cs, hchars, hhead⟩ := toText_head x
          refine ⟨c, cs, hchars, ?_, ?_⟩
          · rw [← Bool.not_eq_true]
            intro hspace
            have hall : ∀ d ∈ [' ', '\t', '\n', '\r'], isDigitOf 10 d = false ∧ d ≠ '-' :=
              List.all_iff_forall_prop.1 rfl
            have hmem : c ∈ [' ', '\t', '\n', '\r'] := List.contains_iff_mem.1 hspace
            rcases hhead with hdigit | hminus
            · rw [(hall c hmem).1] at hdigit
              cases hdigit
            · exact (hall c hmem).2 hminus
          · rintro rfl
            exact absurd hhead (by decide)
      | nan => exact ⟨'n', _, rfl, by decide, by decide⟩
      | posInf => exact ⟨'n', _, rfl, by decide, by decide⟩
      | negInf => exact ⟨'n', _, rfl, by decide, by decide⟩
  | str s => exact ⟨'"', _, by rw [stringify, toList_quote, quoteChars], by decide, by decide⟩
  | arr items => exact ⟨'[', _, toList_stringify_arr items, by decide, by decide⟩
  | obj members => exact ⟨'\x7b', _, toList_stringify_obj members, by decide, by decide⟩

theorem endsNumber_cons {c : Char} (h : isNumberMark c = false) (cs : List Char) :
    EndsNumber (c :: cs) := by
  intro d hd
  cases hd
  exact h

theorem intercalate_step {α β : Type*} (sep : α) (f : β → List α) (v w : β) (ws : List β)
    (r : List α) : [sep].intercalate ((v :: w :: ws).map f) ++ r =
      f v ++ sep :: ([sep].intercalate ((w :: ws).map f) ++ r) := by
  simp [List.intercalate_cons_cons]

theorem parseItems_stringify {items : List JsValue} (hne : items ≠ [])
    (hitems : ∀ v ∈ items, ReadsBack v) {fuel : ℕ} {rest : List Char}
    (hfuel : 2 * ([','].intercalate (items.map fun v => v.stringify.toList) ++
      ']' :: rest).length + 2 ≤ fuel) :
    ∃ trees, parseItems fuel ([','].intercalate (items.map fun v => v.stringify.toList) ++
        ']' :: rest) = some (trees, rest) ∧ itemValues trees = itemsViaJson items := by
  have hclose : isJsonSpace ']' = false := by decide
  have hcomma : isJsonSpace ',' = false := by decide
  induction items generalizing fuel with
  | nil => exact absurd rfl hne
  | cons v vs ih =>
      obtain ⟨fuel, rfl⟩ := Nat.exists_eq_succ_of_ne_zero (by omega : fuel ≠ 0)
      cases vs with
      | nil =>
          simp only [List.map_cons, List.map_nil, List.intercalate_singleton] at hfuel ⊢
          have hend : EndsNumber (']' :: rest) := endsNumber_cons (by decide) rest
          obtain ⟨tree, hparse, hvalue⟩ := hitems v List.mem_cons_self hend
            (Nat.le_of_succ_le_succ (by omega))
          refine ⟨[tree], ?_, ?_⟩
          · rw [parseItems, hparse]
            simp only [skipSpace_cons hclose]
          · rw [itemValues, itemValues, itemsViaJson, itemsViaJson, hvalue]
      | cons w ws =>
          rw [intercalate_step] at hfuel ⊢
          generalize htail : [','].intercalate ((w :: ws).map fun v => v.stringify.toList) ++
            ']' :: rest = tail at hfuel ih ⊢
          have hend : EndsNumber (',' :: tail) := endsNumber_cons (by decide) tail
          obtain ⟨tree, hparse, hvalue⟩ := hitems v List.mem_cons_self hend
            (Nat.le_of_succ_le_succ (by omega))
          rw [List.length_append, List.length_cons] at hfuel
          have htailFuel : 2 * tail.length + 2 ≤ fuel := by omega
          obtain ⟨trees, hparses, hvalues⟩ := ih (List.cons_ne_nil w ws)
            (fun u hu => hitems u (List.mem_cons_of_mem v hu)) htailFuel
          refine ⟨tree :: trees, ?_, ?_⟩
          · rw [parseItems, hparse]
            simp only [skipSpace_cons hcomma, hparses, Option.map_some]
          · rw [itemValues, itemsViaJson, hvalue, hvalues]

theorem readsBack_arr {items : List JsValue} (hitems : ∀ v ∈ items, ReadsBack v) :
    ReadsBack (.arr items) := by
  intro fuel rest _ hfuel
  obtain ⟨fuel, rfl⟩ := Nat.exists_eq_succ_of_ne_zero (by omega : fuel ≠ 0)
  have hopen : isJsonSpace '[' = false := by decide
  rw [toList_stringify_arr, List.cons_append, List.append_assoc, List.singleton_append] at hfuel ⊢
  cases items with
  | nil =>
      refine ⟨.arr [], ?_, rfl⟩
      rw [parseValue, skipSpace_cons hopen]
      rfl
  | cons v vs =>
      rw [List.length_cons] at hfuel
      have hitemsFuel : 2 * ([','].intercalate ((v :: vs).map fun v => v.stringify.toList) ++
          ']' :: rest).length + 2 ≤ fuel := by omega
      obtain ⟨trees, hparses, hvalues⟩ :=
        parseItems_stringify (List.cons_ne_nil v vs) hitems hitemsFuel
      refine ⟨.arr trees, ?_, ?_⟩
      · obtain ⟨c, cs, hchars, hspace, hne⟩ := stringify_head v
        have hhead : ∃ cs', [','].intercalate ((v :: vs).map fun v => v.stringify.toList) ++
            ']' :: rest = c :: cs' := by
          rw [Lib.intercalate_map_cons, hchars]
          exact ⟨_, rfl⟩
        obtain ⟨cs', hcs'⟩ := hhead
        rw [hcs'] at hparses ⊢
        rw [parseValue, skipSpace_cons hopen]
        simp only [skipSpace_cons hspace]
        split
        · rename_i heq
          exact absurd (List.cons.inj heq).1 hne
        · rw [hparses, Option.map_some]
      · rw [JsonTree.toValue, hvalues, viaJson]

/-! ## Members -/

theorem parseMembers_step {fuel : ℕ} {m : String × JsValue} {stop : List Char} {tree : JsonTree}
    (hparse : parseValue fuel (m.2.stringify.toList ++ stop) = some (tree, stop)) :
    parseMembers (fuel + 1) (memberText m ++ stop) =
      match skipSpace stop with
      | '\x7d' :: rest => some ([(m.1, tree)], rest)
      | ',' :: rest => (parseMembers fuel rest).map fun p => ((m.1, tree) :: p.1, p.2)
      | _ => none := by
  obtain ⟨body, hbody, hread⟩ := readLiteral_quote m.1 (':' :: (m.2.stringify.toList ++ stop))
  have hquote : isJsonSpace '"' = false := by decide
  have hcolon : isJsonSpace ':' = false := by decide
  rw [memberText, List.append_assoc, List.cons_append, hbody, parseMembers,
    skipSpace_cons hquote]
  simp only [hread, skipSpace_cons hcolon, hparse]
  all_goals rfl

theorem parseMembers_stringify {members : List (String × JsValue)} (hne : members ≠ [])
    (hmembers : ∀ m ∈ members, ReadsBack m.2) {fuel : ℕ} {rest : List Char}
    (hfuel : 2 * ([','].intercalate (members.map memberText) ++ '\x7d' :: rest).length + 2 ≤
      fuel) :
    ∃ trees, parseMembers fuel ([','].intercalate (members.map memberText) ++ '\x7d' :: rest) =
        some (trees, rest) ∧ memberValues trees = members.map fun m => (m.1, viaJson m.2) := by
  have hclose : isJsonSpace '\x7d' = false := by decide
  have hcomma : isJsonSpace ',' = false := by decide
  have hlength (m : String × JsValue) (stop : List Char) :
      (m.2.stringify.toList ++ stop).length < (memberText m ++ stop).length := by
    simp only [memberText, List.length_append, List.length_cons]
    omega
  induction members generalizing fuel with
  | nil => exact absurd rfl hne
  | cons m ms ih =>
      obtain ⟨fuel, rfl⟩ := Nat.exists_eq_succ_of_ne_zero (by omega : fuel ≠ 0)
      cases ms with
      | nil =>
          simp only [List.map_cons, List.map_nil, List.intercalate_singleton] at hfuel ⊢
          have hend : EndsNumber ('\x7d' :: rest) := endsNumber_cons (by decide) rest
          have hshort := hlength m ('\x7d' :: rest)
          have hvalueFuel : 2 * (m.2.stringify.toList ++ '\x7d' :: rest).length + 1 ≤ fuel := by
            omega
          obtain ⟨tree, hparse, hvalue⟩ := hmembers m List.mem_cons_self hend hvalueFuel
          refine ⟨[(m.1, tree)], ?_, ?_⟩
          · rw [Nat.succ_eq_add_one, parseMembers_step hparse]
            simp only [skipSpace_cons hclose]
          · rw [memberValues, memberValues, hvalue]
      | cons m' ms =>
          rw [intercalate_step] at hfuel ⊢
          generalize htail : [','].intercalate ((m' :: ms).map memberText) ++ '\x7d' :: rest =
            tail at hfuel ih ⊢
          have hend : EndsNumber (',' :: tail) := endsNumber_cons (by decide) tail
          have hshort := hlength m (',' :: tail)
          have hvalueFuel : 2 * (m.2.stringify.toList ++ ',' :: tail).length + 1 ≤ fuel := by
            omega
          obtain ⟨tree, hparse, hvalue⟩ := hmembers m List.mem_cons_self hend hvalueFuel
          rw [List.length_append, List.length_cons] at hfuel
          have htailFuel : 2 * tail.length + 2 ≤ fuel := by omega
          obtain ⟨trees, hparses, hvalues⟩ := ih (List.cons_ne_nil m' ms)
            (fun u hu => hmembers u (List.mem_cons_of_mem m hu)) htailFuel
          refine ⟨(m.1, tree) :: trees, ?_, ?_⟩
          · rw [Nat.succ_eq_add_one, parseMembers_step hparse]
            simp only [skipSpace_cons hcomma, hparses, Option.map_some]
          · rw [memberValues, hvalue, hvalues, List.map_cons (l := m' :: ms)]

/-- Members that stand in order are set to themselves. -/
theorem setMembers_of_inOrder {members : List (String × JsValue)}
    (hkeys : (members.map Prod.fst).Nodup)
    (horder : members.Pairwise fun a b => enumerates a.1 b.1 = true) :
    setMembers members = members := by
  rw [setMembers, KeyedList.upsertAll_of_nodup (by simpa using hkeys), List.nil_append]
  exact horder.insertionSort_eq

theorem setMembers_membersViaJson {members : List (String × JsValue)}
    (hkeys : (members.map Prod.fst).Nodup)
    (horder : members.Pairwise fun a b => enumerates a.1 b.1 = true) :
    setMembers (membersViaJson members) = membersViaJson members := by
  have hsub : (definedMembers members).Sublist members := List.filter_sublist
  rw [membersViaJson_eq]
  apply setMembers_of_inOrder
  · rw [List.map_map]
    exact hkeys.sublist (hsub.map Prod.fst)
  · rw [List.pairwise_map]
    exact horder.sublist hsub

theorem readsBack_obj {members : List (String × JsValue)}
    (hkeys : (members.map Prod.fst).Nodup)
    (horder : members.Pairwise fun a b => enumerates a.1 b.1 = true)
    (hmembers : ∀ m ∈ members, ReadsBack m.2) : ReadsBack (.obj members) := by
  intro fuel rest _ hfuel
  obtain ⟨fuel, rfl⟩ := Nat.exists_eq_succ_of_ne_zero (by omega : fuel ≠ 0)
  have hopen : isJsonSpace '\x7b' = false := by decide
  have hquote : isJsonSpace '"' = false := by decide
  have hsame := setMembers_membersViaJson hkeys horder
  rw [toList_stringify_obj, List.cons_append, List.append_assoc, List.singleton_append] at hfuel ⊢
  rw [membersViaJson_eq] at hsame
  rw [viaJson, membersViaJson_eq]
  have hdefined : ∀ m ∈ definedMembers members, ReadsBack m.2 :=
    fun m hm => hmembers m (List.mem_of_mem_filter hm)
  generalize definedMembers members = ms at *
  cases ms with
  | nil =>
      refine ⟨.obj [], ?_, rfl⟩
      rw [parseValue, skipSpace_cons hopen]
      rfl
  | cons m ms =>
      rw [List.length_cons] at hfuel
      have hmembersFuel : 2 * ([','].intercalate ((m :: ms).map memberText) ++
          '\x7d' :: rest).length + 2 ≤ fuel := by omega
      obtain ⟨trees, hparses, hvalues⟩ :=
        parseMembers_stringify (List.cons_ne_nil m ms) hdefined hmembersFuel
      refine ⟨.obj trees, ?_, ?_⟩
      · have hhead : ∃ cs, [','].intercalate ((m :: ms).map memberText) ++ '\x7d' :: rest =
            '"' :: cs := by
          rw [Lib.intercalate_map_cons, memberText, toList_quote, quoteChars]
          exact ⟨_, rfl⟩
        obtain ⟨cs, hcs⟩ := hhead
        rw [hcs] at hparses ⊢
        rw [parseValue, skipSpace_cons hopen]
        simp only [skipSpace_cons hquote]
        split
        · rename_i heq
          exact absurd (List.cons.inj heq).1 (by decide)
        · rw [hparses, Option.map_some]
      · rw [JsonTree.toValue, hvalues, hsame]

theorem readsBack {v : JsValue} (h : InOrder v) : ReadsBack v := by
  induction h with
  | undefined =>
      intro fuel rest _ hfuel
      obtain ⟨fuel, rfl⟩ := Nat.exists_eq_succ_of_ne_zero (by omega : fuel ≠ 0)
      refine ⟨.null, ?_, rfl⟩
      rw [parseValue]
      rfl
  | null =>
      intro fuel rest _ hfuel
      obtain ⟨fuel, rfl⟩ := Nat.exists_eq_succ_of_ne_zero (by omega : fuel ≠ 0)
      refine ⟨.null, ?_, rfl⟩
      rw [parseValue]
      rfl
  | bool b =>
      intro fuel rest _ hfuel
      obtain ⟨fuel, rfl⟩ := Nat.exists_eq_succ_of_ne_zero (by omega : fuel ≠ 0)
      refine ⟨.bool b, ?_, rfl⟩
      rw [parseValue]
      cases b <;> rfl
  | num n => exact readsBack_num n
  | str s => exact readsBack_str s
  | arr hitems ih => exact readsBack_arr ih
  | obj hkeys horder hmembers ih => exact readsBack_obj hkeys horder ih

/-- `JSON.parse` undoes `JSON.stringify`, up to what JSON has no text for. -/
theorem parseJson_stringify {v : JsValue} (h : InOrder v) :
    parseJson v.stringify = some v.viaJson := by
  have hend : EndsNumber [] := by
    intro c hc
    cases hc
  have hfuel : 2 * (v.stringify.toList ++ []).length + 1 ≤ 2 * v.stringify.toList.length + 1 := by
    rw [List.append_nil]
  obtain ⟨tree, hparse, hvalue⟩ := readsBack h hend hfuel
  rw [List.append_nil] at hparse
  have hspace : skipSpace [] = [] := rfl
  rw [parseJson, parseJsonText, hparse]
  simp only [hspace, if_true, Option.map_some, hvalue]

end UniverEscrow.Js
