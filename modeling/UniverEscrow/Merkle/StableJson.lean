import UniverEscrow.Js.KeyOrder
import UniverEscrow.Js.NumberRoundTrip
import UniverEscrow.Lib.Delimited
import UniverEscrow.Merkle.Sha256

/-!
# Stable JSON is canonical

The text hashed for a JSON value is a code: a text followed by a comma, a closing bracket or
nothing determines the value, up to the order of its members, and what follows.  Sorting the
members forgets their order, so equal values have one text.
-/

namespace UniverEscrow.Merkle

open UniverEscrow.Js UniverEscrow.Lib

/-- What a JSON document can hold: finite numbers, nothing undefined and no key twice. -/
inductive IsJson : JsValue → Prop
  | null : IsJson .null
  | bool (b : Bool) : IsJson (.bool b)
  | num {n : JsNumber} (hfinite : n.isFinite = true) : IsJson (.num n)
  | str (s : String) : IsJson (.str s)
  | arr {items : List JsValue} (hitems : ∀ v ∈ items, IsJson v) : IsJson (.arr items)
  | obj {members : List (String × JsValue)} (hkeys : (members.map Prod.fst).Nodup)
      (hmembers : ∀ m ∈ members, IsJson m.2) : IsJson (.obj members)

structure Json where
  value : JsValue
  isJson : IsJson value

/-- Equal but for the order of members: objects have the same keys, and equal values under each. -/
inductive EqUpToKeyOrder : JsValue → JsValue → Prop
  | null : EqUpToKeyOrder .null .null
  | bool (b : Bool) : EqUpToKeyOrder (.bool b) (.bool b)
  | num (n : JsNumber) : EqUpToKeyOrder (.num n) (.num n)
  | str (s : String) : EqUpToKeyOrder (.str s) (.str s)
  | arr {items items' : List JsValue} (hlength : items.length = items'.length)
      (hitems : ∀ (i : ℕ) (v v' : JsValue), items[i]? = some v → items'[i]? = some v' →
        EqUpToKeyOrder v v') : EqUpToKeyOrder (.arr items) (.arr items')
  | obj {members members' : List (String × JsValue)}
      (hkeys : (members.map Prod.fst).Perm (members'.map Prod.fst))
      (hmembers : ∀ (k : String) (v v' : JsValue), (k, v) ∈ members → (k, v') ∈ members' →
        EqUpToKeyOrder v v') : EqUpToKeyOrder (.obj members) (.obj members')

theorem EqUpToKeyOrder.symm {v w : JsValue} (h : EqUpToKeyOrder v w) : EqUpToKeyOrder w v := by
  induction h with
  | null => exact .null
  | bool b => exact .bool b
  | num n => exact .num n
  | str s => exact .str s
  | arr hlength hitems ih => exact .arr hlength.symm fun i v v' hv hv' => ih i v' v hv' hv
  | obj hkeys hmembers ih => exact .obj hkeys.symm fun k v v' hv hv' => ih k v' v hv' hv

theorem EqUpToKeyOrder.trans {u v w : JsValue} (huv : EqUpToKeyOrder u v)
    (hvw : EqUpToKeyOrder v w) : EqUpToKeyOrder u w := by
  induction huv generalizing w with
  | null => exact hvw
  | bool b => exact hvw
  | num n => exact hvw
  | str s => exact hvw
  | @arr items items' hlength hitems ih =>
      cases hvw with
      | arr hlength' hitems' =>
          refine .arr (hlength.trans hlength') fun i v w hv hw => ?_
          have hi : i < items'.length := hlength ▸ (List.getElem?_eq_some_iff.1 hv).1
          have hmid := List.getElem?_eq_getElem hi
          exact ih i v _ hv hmid (hitems' i _ w hmid hw)
  | @obj members members' hkeys hmembers ih =>
      cases hvw with
      | obj hkeys' hmembers' =>
          refine .obj (hkeys.trans hkeys') fun k v w hv hw => ?_
          obtain ⟨⟨k', m⟩, hm, hk⟩ := List.mem_map.1 (hkeys.mem_iff.1 (List.mem_map_of_mem hv))
          obtain rfl : k' = k := hk
          exact ih k' v m hv hm (hmembers' k' m w hm hw)

/-- The string `sha256HexFromJsonStable` hashes. -/
def stableText (value : JsValue) : String := (stableStringify value).getD "undefined"

/-! ## The text of a value -/

def jsonChars (v : JsValue) : List Char := (stableText v).toList

def memberChars (m : String × JsValue) : List Char := (quote m.1).toList ++ ':' :: jsonChars m.2

theorem stableStringify_isSome {v : JsValue} (h : IsJson v) :
    stableStringify v = some (stableText v) := by
  cases h <;> rfl

theorem stableItems_eq {items : List JsValue} (h : ∀ v ∈ items, IsJson v) :
    stableItems items = items.map stableText := by
  induction items with
  | nil => rfl
  | cons v vs ih =>
      rw [stableItems, stableStringify_isSome (h v List.mem_cons_self), Option.getD_some,
        ih fun w hw => h w (List.mem_cons_of_mem v hw), List.map_cons]

theorem stableMembers_eq (members : List (String × JsValue)) :
    stableMembers members = members.map fun m => (m.1, quote m.1 ++ ":" ++ stableText m.2) := by
  induction members with
  | nil => rfl
  | cons m ms ih => rw [stableMembers, ih, List.map_cons, stableText]

/-- Sorting by key looks at the keys only. -/
theorem sortByKey_map {β γ : Type*} (f : String × β → γ) (members : List (String × β)) :
    JsValue.sortByKey (members.map fun m => (m.1, f m)) =
      (JsValue.sortByKey members).map fun m => (m.1, f m) := by
  symm
  exact List.map_insertionSort (fun a b : String × β => JsValue.keyLe a.1 b.1)
    (fun a b : String × γ => JsValue.keyLe a.1 b.1) _ members fun _ _ _ _ => Iff.rfl

theorem jsonChars_arr {items : List JsValue} (h : ∀ v ∈ items, IsJson v) :
    jsonChars (.arr items) = '[' :: ([','].intercalate (items.map jsonChars) ++ [']']) := by
  have hitems : (stableItems items).map String.toList = items.map jsonChars := by
    rw [stableItems_eq h, List.map_map]
    rfl
  rw [← hitems]
  simp [jsonChars, stableText, stableStringify, String.toList_intercalate]

theorem jsonChars_obj (members : List (String × JsValue)) :
    jsonChars (.obj members) = '\x7b' ::
      ([','].intercalate ((JsValue.sortByKey members).map memberChars) ++ ['\x7d']) := by
  have htexts : ((JsValue.sortByKey (stableMembers members)).map Prod.snd).map String.toList =
      (JsValue.sortByKey members).map memberChars := by
    rw [stableMembers_eq, sortByKey_map, List.map_map, List.map_map]
    apply List.map_congr_left
    intro m _
    simp [memberChars, jsonChars]
  rw [← htexts]
  simp [jsonChars, stableText, stableStringify, String.toList_intercalate]

/-! ## Equal values have one text -/

theorem mem_sortByKey {β : Type*} {members : List (String × β)} {m : String × β} :
    m ∈ JsValue.sortByKey members ↔ m ∈ members :=
  (List.perm_insertionSort _ members).mem_iff

theorem keys_sortByKey {β : Type*} (members : List (String × β)) :
    ((JsValue.sortByKey members).map Prod.fst).Perm (members.map Prod.fst) :=
  (List.perm_insertionSort _ members).map Prod.fst

theorem eq_of_mem_of_nodup {β : Type*} {members : List (String × β)} {k : String} {v w : β}
    (hkeys : (members.map Prod.fst).Nodup) (hv : (k, v) ∈ members) (hw : (k, w) ∈ members) :
    v = w :=
  congrArg Prod.snd (List.inj_on_of_nodup_map hkeys hv hw rfl)

/-- Members with different keys are sorted to one list. -/
theorem sortByKey_eq_of_perm {β : Type*} {members members' : List (String × β)}
    (hkeys : (members.map Prod.fst).Nodup) (h : members.Perm members') :
    JsValue.sortByKey members = JsValue.sortByKey members' := by
  have hperm : (JsValue.sortByKey members).Perm (JsValue.sortByKey members') :=
    (List.perm_insertionSort _ members).trans (h.trans (List.perm_insertionSort _ members').symm)
  have htotal : Std.Total fun a b : String × β => JsValue.keyLe a.1 b.1 = true :=
    ⟨fun a b => JsValue.unitsLe_total _ _⟩
  have htrans : IsTrans (String × β) fun a b => JsValue.keyLe a.1 b.1 = true :=
    ⟨fun _ _ _ => JsValue.unitsLe_trans⟩
  refine hperm.eq_of_pairwise ?_ (List.pairwise_insertionSort _ members)
    (List.pairwise_insertionSort _ members')
  intro a b ha hb hab hba
  have hkey : a.1 = b.1 := antisymm (r := fun a b : String => JsValue.keyLe a b = true) hab hba
  have hb' : b ∈ members := h.mem_iff.2 (mem_sortByKey.1 hb)
  exact List.inj_on_of_nodup_map hkeys (mem_sortByKey.1 ha) hb' hkey

/-- Members with the same keys and, under each, the same text. -/
theorem map_memberChars_perm {members members' : List (String × JsValue)}
    (hnodup : (members.map Prod.fst).Nodup) (hnodup' : (members'.map Prod.fst).Nodup)
    (hkeys : (members.map Prod.fst).Perm (members'.map Prod.fst))
    (htexts : ∀ k v v', (k, v) ∈ members → (k, v') ∈ members' → jsonChars v = jsonChars v') :
    (members.map fun m => (m.1, memberChars m)).Perm
      (members'.map fun m => (m.1, memberChars m)) := by
  have hnodup_text {ms : List (String × JsValue)} (h : (ms.map Prod.fst).Nodup) :
      (ms.map fun m => (m.1, memberChars m)).Nodup := by
    apply List.Nodup.of_map Prod.fst
    rw [List.map_map]
    exact h
  rw [List.perm_ext_iff_of_nodup (hnodup_text hnodup) (hnodup_text hnodup')]
  have hsub {ms ms' : List (String × JsValue)}
      (hkeys : (ms.map Prod.fst).Perm (ms'.map Prod.fst))
      (htexts : ∀ k v v', (k, v) ∈ ms → (k, v') ∈ ms' → jsonChars v = jsonChars v') {t}
      (ht : t ∈ ms.map fun m => (m.1, memberChars m)) :
      t ∈ ms'.map fun m => (m.1, memberChars m) := by
    obtain ⟨⟨k, v⟩, hm, rfl⟩ := List.mem_map.1 ht
    obtain ⟨⟨k', v'⟩, hm', hk⟩ := List.mem_map.1 (hkeys.mem_iff.1 (List.mem_map_of_mem hm))
    obtain rfl : k' = k := hk
    refine List.mem_map.2 ⟨(k', v'), hm', ?_⟩
    rw [memberChars, memberChars, htexts k' v v' hm hm']
  exact fun t => ⟨hsub hkeys htexts,
    hsub hkeys.symm fun k v v' hv hv' => (htexts k v' v hv' hv).symm⟩

theorem jsonChars_eq_of_eqUpToKeyOrder {v w : JsValue} (h : EqUpToKeyOrder v w)
    (hv : IsJson v) (hw : IsJson w) : jsonChars v = jsonChars w := by
  induction h with
  | null => rfl
  | bool b => rfl
  | num n => rfl
  | str s => rfl
  | @arr items items' hlength hitems ih =>
      cases hv with
      | arr hv =>
          cases hw with
          | arr hw =>
              have htexts : items.map jsonChars = items'.map jsonChars := by
                apply List.ext_getElem
                · rw [List.length_map, List.length_map, hlength]
                · intro i hi hi'
                  rw [List.length_map] at hi hi'
                  rw [List.getElem_map, List.getElem_map]
                  exact ih i _ _ (List.getElem?_eq_getElem hi) (List.getElem?_eq_getElem hi')
                    (hv _ (List.getElem_mem hi)) (hw _ (List.getElem_mem hi'))
              rw [jsonChars_arr hv, jsonChars_arr hw, htexts]
  | @obj members members' hkeys hmembers ih =>
      cases hv with
      | obj hnodup hv =>
          cases hw with
          | obj hnodup' hw =>
              have hperm := map_memberChars_perm hnodup hnodup' hkeys fun k v v' hm hm' =>
                ih k v v' hm hm' (hv _ hm) (hw _ hm')
              have hsorted := sortByKey_eq_of_perm (by rwa [List.map_map]) hperm
              rw [sortByKey_map, sortByKey_map] at hsorted
              have htexts := congrArg (List.map Prod.snd) hsorted
              rw [List.map_map, List.map_map] at htexts
              rw [jsonChars_obj, jsonChars_obj]
              exact congrArg (fun ts => '\x7b' :: ([','].intercalate ts ++ ['\x7d'])) htexts

/-! ## One text has one value -/

def jsonStops : List Char := [',', ']', '\x7d']

/-- Which constructor a text starts like. -/
def leadKind (c : Char) : ℕ :=
  if c = 'n' then 0
  else if c = 't' then 1
  else if c = 'f' then 2
  else if c = '"' then 3
  else if c = '[' then 4
  else if c = '\x7b' then 5
  else 6

def jsonKind : JsValue → ℕ
  | .undefined => 7
  | .null => 0
  | .bool b => if b then 1 else 2
  | .str _ => 3
  | .arr _ => 4
  | .obj _ => 5
  | .num _ => 6

theorem numberJson_of_isFinite {n : JsNumber} (h : n.isFinite = true) :
    jsonChars (.num n) = n.toText.toList := by
  simp [jsonChars, stableText, stableStringify, JsValue.numberJson, h]

theorem isNumberChar_of_mem {n : JsNumber} (h : n.isFinite = true) {c : Char}
    (hc : c ∈ n.toText.toList) : c ∉ jsonStops ∧ leadKind c = 6 := by
  cases n with
  | fin x =>
      have hdecide : ∀ c ∈ ['.', 'e', '+', '-'], c ∉ jsonStops ∧ leadKind c = 6 := by
        simp [jsonStops, leadKind]
      rcases mem_toText_fin hc with hdigit | hother
      · have hne {d : Char} (hd : d.isDigit = false) : c ≠ d := by
          rintro rfl
          rw [hd] at hdigit
          cases hdigit
        have hstops : ∀ d ∈ jsonStops, d.isDigit = false := by
          simp [jsonStops]
        refine ⟨fun hstop => hne (hstops c hstop) rfl, ?_⟩
        simp [leadKind, hne (d := 'n') rfl, hne (d := 't') rfl, hne (d := 'f') rfl,
          hne (d := '"') rfl, hne (d := '[') rfl, hne (d := '\x7b') rfl]
      · exact hdecide c hother
  | nan => cases h
  | posInf => cases h
  | negInf => cases h

/-- The first character of a text tells the constructor. -/
theorem jsonChars_head {v : JsValue} (h : IsJson v) :
    ∃ c cs, jsonChars v = c :: cs ∧ c ∉ jsonStops ∧ leadKind c = jsonKind v := by
  cases h with
  | null => exact ⟨'n', "ull".toList, rfl, by decide, rfl⟩
  | bool b =>
      cases b with
      | true => exact ⟨'t', "rue".toList, rfl, by decide, rfl⟩
      | false => exact ⟨'f', "alse".toList, rfl, by decide, rfl⟩
  | @num n hfinite =>
      cases htext : n.toText.toList with
      | nil => exact absurd htext (toText_ne_nil hfinite)
      | cons c cs =>
          obtain ⟨hstop, hkind⟩ := isNumberChar_of_mem hfinite (c := c) (by simp [htext])
          exact ⟨c, cs, (numberJson_of_isFinite hfinite).trans htext, hstop, hkind⟩
  | str s =>
      refine ⟨'"', s.toList.flatMap escapeChar ++ ['"'], ?_, by decide, rfl⟩
      simp [jsonChars, stableText, stableStringify, quoteChars]
  | arr hitems => exact ⟨'[', _, jsonChars_arr hitems, by decide, rfl⟩
  | obj hkeys hmembers => exact ⟨'\x7b', _, jsonChars_obj _, by decide, rfl⟩

theorem jsonKind_eq_of_append {v w : JsValue} (hv : IsJson v) (hw : IsJson w) {r s : List Char}
    (h : jsonChars v ++ r = jsonChars w ++ s) : jsonKind v = jsonKind w := by
  obtain ⟨c, cs, hc, -, hkind⟩ := jsonChars_head hv
  obtain ⟨d, ds, hd, -, hkind'⟩ := jsonChars_head hw
  rw [hc, hd] at h
  rw [← hkind, ← hkind', (List.cons.inj h).1]

/-- Members told apart in sorted order are told apart in any order. -/
theorem eqUpToKeyOrder_obj {members members' : List (String × JsValue)}
    (hnodup' : (members'.map Prod.fst).Nodup)
    (h : List.Forall₂ (fun m m' => m.1 = m'.1 ∧ EqUpToKeyOrder m.2 m'.2)
      (JsValue.sortByKey members) (JsValue.sortByKey members')) :
    EqUpToKeyOrder (.obj members) (.obj members') := by
  refine .obj ?_ ?_
  · have hkeys : (JsValue.sortByKey members).map Prod.fst =
        (JsValue.sortByKey members').map Prod.fst := by
      rw [← List.forall₂_eq_eq_eq, List.forall₂_map_left_iff, List.forall₂_map_right_iff]
      exact h.imp fun _ _ hm => hm.1
    exact (keys_sortByKey members).symm.trans (hkeys ▸ keys_sortByKey members')
  · intro k v v' hm hm'
    obtain ⟨⟨k', w⟩, hw, hk, hv⟩ := exists_of_mem_forall₂ h (mem_sortByKey.2 hm)
    obtain rfl : k = k' := hk
    rwa [eq_of_mem_of_nodup hnodup' hm' (mem_sortByKey.1 hw)]

/-- The value's text, where a stop symbol ends it, is that of no other value. -/
def TextDetermines (v : JsValue) : Prop :=
  ∀ {w : JsValue}, IsJson w → ∀ {r s : List Char}, Stops jsonStops r → Stops jsonStops s →
    jsonChars v ++ r = jsonChars w ++ s → EqUpToKeyOrder v w ∧ r = s

theorem textDetermines_num {n : JsNumber} (hfinite : n.isFinite = true) :
    TextDetermines (.num n) := by
  intro w hw r s hr hs h
  have hkind := jsonKind_eq_of_append (.num hfinite) hw h
  cases hw with
  | @num m hfinite' =>
      rw [numberJson_of_isFinite hfinite, numberJson_of_isFinite hfinite'] at h
      obtain ⟨htext, hrs⟩ := eq_of_append_stops (fun c hc => (isNumberChar_of_mem hfinite hc).1)
        (fun c hc => (isNumberChar_of_mem hfinite' hc).1) hr hs h
      obtain rfl := JsNumber.toText_inj hfinite hfinite' (String.toList_inj.1 htext)
      exact ⟨.num n, hrs⟩
  | bool b => cases b <;> cases hkind
  | _ => cases hkind

theorem textDetermines_arr {items : List JsValue} (hitems : ∀ v ∈ items, IsJson v)
    (ih : ∀ v ∈ items, TextDetermines v) : TextDetermines (.arr items) := by
  intro w hw r s _ _ h
  have hkind := jsonKind_eq_of_append (.arr hitems) hw h
  cases hw with
  | @arr items' hitems' =>
      rw [jsonChars_arr hitems, jsonChars_arr hitems'] at h
      simp only [List.cons_append, List.append_assoc, List.cons.injEq, true_and,
        List.nil_append] at h
      have hhead : ∀ v ∈ items ++ items', ∃ c cs, jsonChars v = c :: cs ∧ c ∉ jsonStops := by
        intro v hv
        obtain ⟨c, cs, hc, hstop, -⟩ := jsonChars_head
          ((List.mem_append.1 hv).elim (hitems v) (hitems' v))
        exact ⟨c, cs, hc, hstop⟩
      obtain ⟨hall, hrs⟩ := forall₂_of_intercalate (by decide) (by decide) (by decide) hhead
        (fun v hv w hw r s hr hs => ih v hv (hitems' w hw) hr hs) h
      refine ⟨.arr hall.length_eq fun i v v' hv hv' => ?_, hrs⟩
      obtain ⟨hi, rfl⟩ := List.getElem?_eq_some_iff.1 hv
      obtain ⟨hi', rfl⟩ := List.getElem?_eq_some_iff.1 hv'
      exact (List.forall₂_iff_get.1 hall).2 i hi hi'
  | bool b => cases b <;> cases hkind
  | _ => cases hkind

/-- The key, the colon and the value of a member. -/
theorem member_of_append {m m' : String × JsValue} (hvalue : TextDetermines m.2)
    (hjson : IsJson m'.2) {r s : List Char} (hr : Stops jsonStops r) (hs : Stops jsonStops s)
    (h : memberChars m ++ r = memberChars m' ++ s) :
    (m.1 = m'.1 ∧ EqUpToKeyOrder m.2 m'.2) ∧ r = s := by
  rw [memberChars, memberChars, List.append_assoc, List.append_assoc] at h
  obtain ⟨hkey, hrest⟩ := quote_append_inj h
  obtain ⟨heq, hrs⟩ := hvalue hjson hr hs (List.cons.inj hrest).2
  exact ⟨⟨hkey, heq⟩, hrs⟩

theorem textDetermines_obj {members : List (String × JsValue)}
    (hnodup : (members.map Prod.fst).Nodup) (hmembers : ∀ m ∈ members, IsJson m.2)
    (ih : ∀ m ∈ members, TextDetermines m.2) : TextDetermines (.obj members) := by
  intro w hw r s _ _ h
  have hkind := jsonKind_eq_of_append (.obj hnodup hmembers) hw h
  cases hw with
  | @obj members' hnodup' hmembers' =>
      rw [jsonChars_obj, jsonChars_obj] at h
      simp only [List.cons_append, List.append_assoc, List.cons.injEq, true_and,
        List.nil_append] at h
      have hhead : ∀ m ∈ JsValue.sortByKey members ++ JsValue.sortByKey members',
          ∃ c cs, memberChars m = c :: cs ∧ c ∉ jsonStops := by
        intro m _
        rw [memberChars, toList_quote, quoteChars]
        exact ⟨'"', _, rfl, by decide⟩
      obtain ⟨hall, hrs⟩ := forall₂_of_intercalate (by decide) (by decide) (by decide) hhead
        (fun m hm m' hm' r s hr hs => member_of_append (ih m (mem_sortByKey.1 hm))
          (hmembers' m' (mem_sortByKey.1 hm')) hr hs) h
      exact ⟨eqUpToKeyOrder_obj hnodup' hall, hrs⟩
  | bool b => cases b <;> cases hkind
  | _ => cases hkind

/-- A text that a stop symbol ends determines the value. -/
theorem textDetermines {v : JsValue} (hv : IsJson v) : TextDetermines v := by
  induction hv with
  | null =>
      intro w hw r s _ _ h
      have hkind := jsonKind_eq_of_append .null hw h
      cases hw with
      | null => exact ⟨.null, List.append_cancel_left h⟩
      | bool b => cases b <;> cases hkind
      | _ => cases hkind
  | bool b =>
      intro w hw r s _ _ h
      have hkind := jsonKind_eq_of_append (.bool b) hw h
      cases hw with
      | bool b' =>
          obtain rfl : b = b' := by revert hkind; cases b <;> cases b' <;> decide
          exact ⟨.bool b, List.append_cancel_left h⟩
      | _ => cases b <;> cases hkind
  | num hfinite => exact textDetermines_num hfinite
  | str t =>
      intro w hw r s _ _ h
      have hkind := jsonKind_eq_of_append (.str t) hw h
      cases hw with
      | str t' =>
          obtain ⟨rfl, hrs⟩ := quote_append_inj h
          exact ⟨.str t, hrs⟩
      | bool b => cases b <;> cases hkind
      | _ => cases hkind
  | arr hitems ih => exact textDetermines_arr hitems ih
  | obj hnodup hmembers ih => exact textDetermines_obj hnodup hmembers ih

theorem eqUpToKeyOrder_of_stableText_eq {v w : JsValue} (hv : IsJson v) (hw : IsJson w)
    (h : stableText v = stableText w) : EqUpToKeyOrder v w := by
  have hchars : jsonChars v ++ [] = jsonChars w ++ [] := by
    rw [jsonChars, jsonChars, h]
  exact (textDetermines hv hw (stops_nil _) (stops_nil _) hchars).1

theorem stableText_eq_of_eqUpToKeyOrder {v w : JsValue} (hv : IsJson v) (hw : IsJson w)
    (h : EqUpToKeyOrder v w) : stableText v = stableText w :=
  String.toList_inj.1 (jsonChars_eq_of_eqUpToKeyOrder h hv hw)

/-- Two JSON values are hashed as one string exactly when they are equal up to key order. -/
theorem stableText_eq_iff (v w : Json) :
    stableText v.value = stableText w.value ↔ EqUpToKeyOrder v.value w.value :=
  ⟨eqUpToKeyOrder_of_stableText_eq v.isJson w.isJson,
    stableText_eq_of_eqUpToKeyOrder v.isJson w.isJson⟩

/-- So a leaf hash or a fingerprint names the value, as far as SHA-256 tells texts apart. -/
theorem sha256HexFromJsonStable_eq_iff {sha256 : Sha256} {v w : Json}
    (hfree : CollisionFreeOn sha256 [stableText v.value, stableText w.value]) :
    sha256HexFromJsonStable sha256 v.value = sha256HexFromJsonStable sha256 w.value ↔
      EqUpToKeyOrder v.value w.value := by
  constructor
  · intro h
    exact eqUpToKeyOrder_of_stableText_eq v.isJson w.isJson
      (hfree _ (by simp) _ (by simp) h)
  · intro h
    exact congrArg (sha256Hex sha256) (stableText_eq_of_eqUpToKeyOrder v.isJson w.isJson h)

end UniverEscrow.Merkle
