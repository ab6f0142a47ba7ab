import UniverEscrow.Js.JsonRoundTrip

/-!
# What `JSON.parse` gives

A parsed value holds nothing undefined, and the members of its objects stand in enumeration order,
each under a key of its own.
-/

namespace UniverEscrow.Js

open UniverEscrow.Lib

/-! ## Members that are set -/

theorem enumerates_total (a b : String) : enumerates a b = true ∨ enumerates b a = true := by
  unfold enumerates
  cases arrayIndex? a with
  | none => cases arrayIndex? b <;> simp
  | some i =>
      cases arrayIndex? b with
      | none => simp
      | some j => simpa using Nat.le_total i j

theorem enumerates_trans {a b c : String} (hab : enumerates a b = true)
    (hbc : enumerates b c = true) : enumerates a c = true := by
  unfold enumerates at hab hbc ⊢
  cases ha : arrayIndex? a <;> cases hb : arrayIndex? b <;> cases hc : arrayIndex? c <;>
    simp only [ha, hb, hc, decide_eq_true_eq, Bool.false_eq_true] at hab hbc ⊢
  exact hab.trans hbc

instance enumeratesTotal :
    Std.Total fun a b : String × JsValue => enumerates a.1 b.1 = true where
  total _ _ := enumerates_total _ _

instance enumeratesTrans :
    IsTrans (String × JsValue) fun a b => enumerates a.1 b.1 = true where
  trans _ _ _ := enumerates_trans

section SetMembers
variable {members : List (String × JsValue)}

theorem pairwise_setMembers (members : List (String × JsValue)) :
    (setMembers members).Pairwise fun a b => enumerates a.1 b.1 = true :=
  List.pairwise_insertionSort _ _

theorem nodup_setMembers (members : List (String × JsValue)) :
    ((setMembers members).map Prod.fst).Nodup :=
  ((List.perm_insertionSort _ _).map Prod.fst).nodup_iff.2 (KeyedList.upsertAll_nodup members)

theorem mem_of_mem_setMembers {m : String × JsValue} (h : m ∈ setMembers members) :
    m ∈ members := by
  have hmem := (List.perm_insertionSort _ _).mem_iff.1 h
  have hlast := KeyedList.last_of_mem_upsertAll hmem
  exact List.mem_reverse.1 (List.mem_of_find?_eq_some hlast)

/-- Where no key comes twice, setting members only reorders them. -/
theorem setMembers_perm (h : (members.map Prod.fst).Nodup) : (setMembers members).Perm members := by
  rw [setMembers, KeyedList.upsertAll_of_nodup (by simpa using h), List.nil_append]
  exact List.perm_insertionSort _ _

end SetMembers

/-! ## Parsed values -/

inductive IsParsed : JsValue → Prop
  | null : IsParsed .null
  | bool (b : Bool) : IsParsed (.bool b)
  | num (n : JsNumber) : IsParsed (.num n)
  | str (s : String) : IsParsed (.str s)
  | arr {items : List JsValue} (hitems : ∀ v ∈ items, IsParsed v) : IsParsed (.arr items)
  | obj {members : List (String × JsValue)} (hkeys : (members.map Prod.fst).Nodup)
      (horder : members.Pairwise fun a b => enumerates a.1 b.1 = true)
      (hmembers : ∀ m ∈ members, IsParsed m.2) : IsParsed (.obj members)

theorem IsParsed.inOrder {v : JsValue} (h : IsParsed v) : InOrder v := by
  induction h with
  | null => exact .null
  | bool b => exact .bool b
  | num n => exact .num n
  | str s => exact .str s
  | arr hitems ih => exact .arr ih
  | obj hkeys horder hmembers ih => exact .obj hkeys horder ih

theorem IsParsed.isUndefined {v : JsValue} (h : IsParsed v) : v.isUndefined = false := by
  cases h <;> rfl

theorem isParsed_setMembers {members : List (String × JsValue)}
    (h : ∀ m ∈ members, IsParsed m.2) : IsParsed (.obj (setMembers members)) :=
  .obj (nodup_setMembers members) (pairwise_setMembers members)
    fun m hm => h m (mem_of_mem_setMembers hm)

mutual

theorem isParsed_toValue : ∀ tree : JsonTree, IsParsed tree.toValue
  | .null => .null
  | .bool b => .bool b
  | .num _ => .num _
  | .str s => .str s
  | .arr items => .arr (isParsed_itemValues items)
  | .obj members => isParsed_setMembers (isParsed_memberValues members)

theorem isParsed_itemValues : ∀ items : List JsonTree, ∀ v ∈ itemValues items, IsParsed v
  | [] => by
      intro v hv
      cases hv
  | t :: ts => by
      intro v hv
      rcases List.mem_cons.1 hv with rfl | hv
      · exact isParsed_toValue t
      · exact isParsed_itemValues ts v hv

theorem isParsed_memberValues :
    ∀ members : List (String × JsonTree), ∀ m ∈ memberValues members, IsParsed m.2
  | [] => by
      intro m hm
      cases hm
  | (k, t) :: ms => by
      intro m hm
      rcases List.mem_cons.1 hm with rfl | hm
      · exact isParsed_toValue t
      · exact isParsed_memberValues ms m hm

end

theorem isParsed_of_parseJson {text : String} {v : JsValue} (h : parseJson text = some v) :
    IsParsed v := by
  obtain ⟨tree, -, rfl⟩ := Option.map_eq_some_iff.1 h
  exact isParsed_toValue tree

/-! ## Equal texts -/

/-- Values with one text are the same up to what JSON has no text for. -/
theorem viaJson_eq_of_stringify_eq {v w : JsValue} (hv : InOrder v) (hw : InOrder w)
    (h : v.stringify = w.stringify) : v.viaJson = w.viaJson := by
  have hread := parseJson_stringify hv
  rw [h, parseJson_stringify hw] at hread
  exact (Option.some.inj hread).symm

end UniverEscrow.Js
