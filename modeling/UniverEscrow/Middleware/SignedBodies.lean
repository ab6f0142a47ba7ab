import UniverEscrow.Middleware.IntegrityMiddleware
import UniverEscrow.Lib.Except

/-!
# What the HMAC of a request covers

The text under the HMAC shows a body up to three things: integrity fields at any depth, members
under the key `__proto__`, and whether a `null` is one or a number without a JSON text.
-/

namespace UniverEscrow.Middleware

open UniverEscrow.Js UniverEscrow.Js.JsValue UniverEscrow.Merkle

mutual

/-- What the text shows. -/
def seen : JsValue → JsValue
  | .undefined => .null
  | .num n => if n.isFinite then .num n else .null
  | .arr items => .arr (seenItems items)
  | .obj members => .obj (seenMembers members)
  | v => v

def seenItems : List JsValue → List JsValue
  | [] => []
  | v :: vs => seen v :: seenItems vs

def seenMembers : List (String × JsValue) → List (String × JsValue)
  | [] => []
  | (key, v) :: ms => if Hidden key then seenMembers ms else (key, seen v) :: seenMembers ms

end

mutual

/-- What it does not show: every value that it shows is blanked. -/
def unseen : JsValue → JsValue
  | .num n => if n.isFinite then .null else .num n
  | .arr items => .arr (unseenItems items)
  | .obj members => .obj (unseenMembers members)
  | _ => .null

def unseenItems : List JsValue → List JsValue
  | [] => []
  | v :: vs => unseen v :: unseenItems vs

def unseenMembers : List (String × JsValue) → List (String × JsValue)
  | [] => []
  | (key, v) :: ms => (key, if Hidden key then v else unseen v) :: unseenMembers ms

end

theorem seenItems_eq (items : List JsValue) : seenItems items = items.map seen := by
  induction items with
  | nil => rfl
  | cons v vs ih => rw [seenItems, ih, List.map_cons]

theorem unseenItems_eq (items : List JsValue) : unseenItems items = items.map unseen := by
  induction items with
  | nil => rfl
  | cons v vs ih => rw [unseenItems, ih, List.map_cons]

theorem seenMembers_eq (members : List (String × JsValue)) :
    seenMembers members = (shownMembers members).map fun m => (m.1, seen m.2) := by
  unfold shownMembers
  induction members with
  | nil => rfl
  | cons m ms ih =>
      obtain ⟨key, v⟩ := m
      rw [seenMembers]
      by_cases hhidden : Hidden key
      · rw [if_pos hhidden, ih, List.filter_cons_of_neg (by simpa using hhidden)]
      · rw [if_neg hhidden, ih, List.filter_cons_of_pos (by simpa using hhidden), List.map_cons]

theorem unseenMembers_eq (members : List (String × JsValue)) :
    unseenMembers members =
      members.map fun m => (m.1, if Hidden m.1 then m.2 else unseen m.2) := by
  induction members with
  | nil => rfl
  | cons m ms ih => rw [unseenMembers, ih, List.map_cons]

/-! ## The text shows what is seen -/

theorem eqUpToKeyOrder_arr {items : List JsValue} {f g : JsValue → JsValue}
    (h : ∀ v ∈ items, EqUpToKeyOrder (f v) (g v)) :
    EqUpToKeyOrder (.arr (items.map f)) (.arr (items.map g)) := by
  refine .arr (by rw [List.length_map, List.length_map]) fun i v v' hv hv' => ?_
  rw [List.getElem?_map] at hv hv'
  obtain ⟨a, ha, rfl⟩ := Option.map_eq_some_iff.1 hv
  obtain ⟨b, hb, rfl⟩ := Option.map_eq_some_iff.1 hv'
  rw [ha] at hb
  rw [← Option.some.inj hb]
  exact h a (List.mem_of_getElem? ha)

/-- The value that the text denotes. -/
def signedValue (v : JsValue) : JsValue := (normalize (scrubIntegrityFields v)).viaJson

/-- The value of an object has the members that are shown, in some order. -/
theorem signedValue_obj {members : List (String × JsValue)} (hkeys : (members.map Prod.fst).Nodup)
    (hmembers : ∀ m ∈ members, IsParsed m.2) :
    ∃ members', signedValue (.obj members) = .obj members' ∧
      members'.Perm ((shownMembers members).map fun m => (m.1, signedValue m.2)) := by
  obtain ⟨members', hobj, hperm⟩ := normalize_scrub_obj hkeys
  have hdefined : definedMembers members' = members' := by
    rw [definedMembers, List.filter_eq_self]
    intro m hm
    obtain ⟨m', hm', rfl⟩ := List.mem_map.1 (hperm.mem_iff.1 hm)
    have hparsed := isParsed_normalize (isParsed_scrub (hmembers m' (mem_shownMembers.1 hm').1))
    simp [hparsed.isUndefined]
  refine ⟨members'.map fun m => (m.1, viaJson m.2), ?_, ?_⟩
  · rw [signedValue, hobj, viaJson, membersViaJson_eq, hdefined]
  · have hvalues := hperm.map fun m => (m.1, viaJson m.2)
    rwa [List.map_map] at hvalues

theorem seen_signedValue {v : JsValue} (h : IsParsed v) :
    EqUpToKeyOrder (seen v) (signedValue v) := by
  induction h with
  | null => exact .null
  | bool b => exact .bool b
  | num n =>
      have hsigned : signedValue (.num n) = if n.isFinite then .num n else .null := rfl
      rw [hsigned, seen]
      split_ifs
      · exact .num n
      · exact .null
  | str s => exact .str s
  | @arr items hitems ih =>
      have hvalue : signedValue (.arr items) = .arr (items.map signedValue) := by
        rw [signedValue, scrubIntegrityFields, scrubItems_eq, normalize, normalizeItems_eq, viaJson,
          itemsViaJson_eq, List.map_map, List.map_map]
        rfl
      rw [hvalue, seen, seenItems_eq]
      exact eqUpToKeyOrder_arr ih
  | @obj members hkeys horder hmembers ih =>
      obtain ⟨members', hobj, hperm⟩ := signedValue_obj hkeys hmembers
      rw [hobj, seen, seenMembers_eq]
      refine .obj ?_ ?_
      · have hfst := hperm.map Prod.fst
        rw [List.map_map] at hfst ⊢
        exact hfst.symm
      · intro k a b ha hb
        obtain ⟨⟨k', v⟩, hv, heq⟩ := List.mem_map.1 ha
        obtain ⟨⟨k'', v'⟩, hv', heq'⟩ := List.mem_map.1 (hperm.mem_iff.1 hb)
        cases heq
        cases heq'
        rw [eq_of_mem_of_nodup (nodup_shownMembers hkeys) hv' hv]
        exact ih _ (mem_shownMembers.1 hv).1

/-- Bodies under one text show the same. -/
theorem seen_of_stableSerialize_eq {v w : JsValue} (hv : IsParsed v) (hw : IsParsed w)
    (h : stableSerialize (scrubIntegrityFields v) = stableSerialize (scrubIntegrityFields w)) :
    EqUpToKeyOrder (seen v) (seen w) := by
  have hv' := isParsed_normalize (isParsed_scrub hv)
  have hw' := isParsed_normalize (isParsed_scrub hw)
  rw [stableSerialize_of_parsed hv', stableSerialize_of_parsed hw', Option.some.injEq] at h
  have hvalue : signedValue v = signedValue w :=
    viaJson_eq_of_stringify_eq hv'.inOrder hw'.inOrder h
  have hshown := seen_signedValue hv
  rw [hvalue] at hshown
  exact hshown.trans (seen_signedValue hw).symm

/-! ## What is seen and what is not make up the value -/

theorem keys_shownMembers (members : List (String × JsValue)) :
    (shownMembers members).map Prod.fst = (members.map Prod.fst).filter fun k => ¬Hidden k := by
  rw [shownMembers, List.filter_map]
  rfl

theorem mem_seenMembers {members : List (String × JsValue)} {k : String} {a : JsValue} :
    (k, a) ∈ seenMembers members ↔ ∃ v, (k, v) ∈ members ∧ ¬Hidden k ∧ seen v = a := by
  rw [seenMembers_eq, List.mem_map]
  constructor
  · rintro ⟨⟨k', v⟩, hm, heq⟩
    cases heq
    obtain ⟨hmem, hshown⟩ := mem_shownMembers.1 hm
    exact ⟨v, hmem, hshown, rfl⟩
  · rintro ⟨v, hmem, hshown, rfl⟩
    exact ⟨(k, v), mem_shownMembers.2 ⟨hmem, hshown⟩, rfl⟩

theorem mem_unseenMembers {members : List (String × JsValue)} {k : String} {a : JsValue} :
    (k, a) ∈ unseenMembers members ↔
      ∃ v, (k, v) ∈ members ∧ (if Hidden k then v else unseen v) = a := by
  rw [unseenMembers_eq, List.mem_map]
  constructor
  · rintro ⟨⟨k', v⟩, hm, heq⟩
    cases heq
    exact ⟨v, hm, rfl⟩
  · rintro ⟨v, hmem, rfl⟩
    exact ⟨(k, v), hmem, rfl⟩

theorem keys_unseenMembers (members : List (String × JsValue)) :
    (unseenMembers members).map Prod.fst = members.map Prod.fst := by
  rw [unseenMembers_eq, List.map_map]
  rfl

theorem seen_congr {v w : JsValue} (h : EqUpToKeyOrder v w) :
    EqUpToKeyOrder (seen v) (seen w) := by
  induction h with
  | null => exact .null
  | bool b => exact .bool b
  | num n =>
      rw [seen]
      split_ifs
      · exact .num n
      · exact .null
  | str s => exact .str s
  | arr hlength hitems ih =>
      rw [seen, seen, seenItems_eq, seenItems_eq]
      refine .arr (by rwa [List.length_map, List.length_map]) fun i a b ha hb => ?_
      rw [List.getElem?_map] at ha hb
      obtain ⟨v, hv, rfl⟩ := Option.map_eq_some_iff.1 ha
      obtain ⟨w, hw, rfl⟩ := Option.map_eq_some_iff.1 hb
      exact ih i v w hv hw
  | obj hkeys hmembers ih =>
      rw [seen, seen]
      refine .obj ?_ ?_
      · rw [seenMembers_eq, seenMembers_eq, List.map_map, List.map_map]
        have hshown := hkeys.filter fun k => ¬Hidden k
        rwa [← keys_shownMembers, ← keys_shownMembers] at hshown
      · intro k a b ha hb
        obtain ⟨v, hv, -, rfl⟩ := mem_seenMembers.1 ha
        obtain ⟨w, hw, -, rfl⟩ := mem_seenMembers.1 hb
        exact ih k v w hv hw

theorem unseen_congr {v w : JsValue} (h : EqUpToKeyOrder v w) :
    EqUpToKeyOrder (unseen v) (unseen w) := by
  induction h with
  | null => exact .null
  | bool b => exact .null
  | num n =>
      rw [unseen]
      split_ifs
      · exact .null
      · exact .num n
  | str s => exact .null
  | arr hlength hitems ih =>
      rw [unseen, unseen, unseenItems_eq, unseenItems_eq]
      refine .arr (by rwa [List.length_map, List.length_map]) fun i a b ha hb => ?_
      rw [List.getElem?_map] at ha hb
      obtain ⟨v, hv, rfl⟩ := Option.map_eq_some_iff.1 ha
      obtain ⟨w, hw, rfl⟩ := Option.map_eq_some_iff.1 hb
      exact ih i v w hv hw
  | obj hkeys hmembers ih =>
      rw [unseen, unseen]
      refine .obj ?_ ?_
      · rwa [keys_unseenMembers, keys_unseenMembers]
      · intro k a b ha hb
        obtain ⟨v, hv, rfl⟩ := mem_unseenMembers.1 ha
        obtain ⟨w, hw, rfl⟩ := mem_unseenMembers.1 hb
        split_ifs
        · exact hmembers k v w hv hw
        · exact ih k v w hv hw

/-- A number is seen, or what is not seen of it. -/
theorem number_cases (n : JsNumber) :
    seen (.num n) = .num n ∧ unseen (.num n) = .null ∨
      seen (.num n) = .null ∧ unseen (.num n) = .num n := by
  cases hfinite : n.isFinite with
  | true => exact .inl ⟨if_pos hfinite, if_pos hfinite⟩
  | false =>
      have hnot : ¬n.isFinite = true := Bool.eq_false_iff.1 hfinite
      exact .inr ⟨if_neg hnot, if_neg hnot⟩

/-- A number is told from every other value. -/
theorem num_of_seen_unseen {n : JsNumber} {w : JsValue} (hw : IsParsed w)
    (hseen : EqUpToKeyOrder (seen (.num n)) (seen w))
    (hunseen : EqUpToKeyOrder (unseen (.num n)) (unseen w)) : EqUpToKeyOrder (.num n) w := by
  rcases number_cases n with ⟨hshown, hblank⟩ | ⟨hblank, hkept⟩
  · rw [hshown] at hseen
    cases hw with
    | num m =>
        rcases number_cases m with ⟨hm, -⟩ | ⟨hm, -⟩
        · rwa [hm] at hseen
        · rw [hm] at hseen
          cases hseen
    | _ => cases hseen
  · rw [hkept] at hunseen
    cases hw with
    | num m =>
        rcases number_cases m with ⟨-, hm⟩ | ⟨-, hm⟩
        · rw [hm] at hunseen
          cases hunseen
        · rwa [hm] at hunseen
    | _ => cases hunseen

theorem to_num_of_seen_unseen {v : JsValue} {m : JsNumber} (hv : IsParsed v)
    (hseen : EqUpToKeyOrder (seen v) (seen (.num m)))
    (hunseen : EqUpToKeyOrder (unseen v) (unseen (.num m))) : EqUpToKeyOrder v (.num m) :=
  (num_of_seen_unseen hv hseen.symm hunseen.symm).symm

/-- What is seen and what is not, of a value and a parsed one, make them equal. -/
def Determined (v : JsValue) : Prop :=
  ∀ {w : JsValue}, IsParsed w → EqUpToKeyOrder (seen v) (seen w) →
    EqUpToKeyOrder (unseen v) (unseen w) → EqUpToKeyOrder v w

theorem determined_arr {items items' : List JsValue} (ih : ∀ v ∈ items, Determined v)
    (hitems' : ∀ v ∈ items', IsParsed v)
    (hseen : EqUpToKeyOrder (seen (.arr items)) (seen (.arr items')))
    (hunseen : EqUpToKeyOrder (unseen (.arr items)) (unseen (.arr items'))) :
    EqUpToKeyOrder (.arr items) (.arr items') := by
  rw [seen, seen, seenItems_eq, seenItems_eq] at hseen
  rw [unseen, unseen, unseenItems_eq, unseenItems_eq] at hunseen
  cases hseen with
  | arr hlength hshown =>
      cases hunseen with
      | arr _ hblank =>
          rw [List.length_map, List.length_map] at hlength
          refine .arr hlength fun i a b ha hb => ?_
          have hmap (f : JsValue → JsValue) :
              (items.map f)[i]? = some (f a) ∧ (items'.map f)[i]? = some (f b) := by
            rw [List.getElem?_map, List.getElem?_map, ha, hb]
            exact ⟨rfl, rfl⟩
          exact ih a (List.mem_of_getElem? ha) (hitems' b (List.mem_of_getElem? hb))
            (hshown i _ _ (hmap seen).1 (hmap seen).2)
            (hblank i _ _ (hmap unseen).1 (hmap unseen).2)

theorem determined_obj {members members' : List (String × JsValue)}
    (ih : ∀ m ∈ members, Determined m.2) (hmembers' : ∀ m ∈ members', IsParsed m.2)
    (hseen : EqUpToKeyOrder (seen (.obj members)) (seen (.obj members')))
    (hunseen : EqUpToKeyOrder (unseen (.obj members)) (unseen (.obj members'))) :
    EqUpToKeyOrder (.obj members) (.obj members') := by
  rw [seen, seen] at hseen
  rw [unseen, unseen] at hunseen
  cases hseen with
  | obj _ hshown =>
      cases hunseen with
      | obj hkeys hblank =>
          rw [keys_unseenMembers, keys_unseenMembers] at hkeys
          refine .obj hkeys fun k a b ha hb => ?_
          have hkept := hblank k _ _ (mem_unseenMembers.2 ⟨a, ha, rfl⟩)
            (mem_unseenMembers.2 ⟨b, hb, rfl⟩)
          by_cases hhidden : Hidden k
          · rwa [if_pos hhidden, if_pos hhidden] at hkept
          · rw [if_neg hhidden, if_neg hhidden] at hkept
            exact ih _ ha (hmembers' _ hb) (hshown k _ _ (mem_seenMembers.2 ⟨a, ha, hhidden, rfl⟩)
              (mem_seenMembers.2 ⟨b, hb, hhidden, rfl⟩)) hkept

theorem determined {v : JsValue} (hv : IsParsed v) : Determined v := by
  induction hv with
  | null =>
      intro w hw hseen hunseen
      cases hw with
      | null => exact .null
      | num m => exact to_num_of_seen_unseen .null hseen hunseen
      | _ => cases hseen
  | bool b =>
      intro w hw hseen hunseen
      cases hw with
      | bool b' => exact hseen
      | num m => exact to_num_of_seen_unseen (.bool b) hseen hunseen
      | _ => cases hseen
  | num n => exact num_of_seen_unseen
  | str s =>
      intro w hw hseen hunseen
      cases hw with
      | str s' => exact hseen
      | num m => exact to_num_of_seen_unseen (.str s) hseen hunseen
      | _ => cases hseen
  | @arr items hitems ih =>
      intro w hw hseen hunseen
      cases hw with
      | arr hitems' => exact determined_arr ih hitems' hseen hunseen
      | num m => exact to_num_of_seen_unseen (.arr hitems) hseen hunseen
      | _ => cases hseen
  | @obj members hkeys horder hmembers ih =>
      intro w hw hseen hunseen
      cases hw with
      | obj _ _ hmembers' => exact determined_obj ih hmembers' hseen hunseen
      | num m => exact to_num_of_seen_unseen (.obj hkeys horder hmembers) hseen hunseen
      | _ => cases hseen

/-! ## Two requests -/

/-- The body without its own integrity fields. -/
def signedBody : JsValue → JsValue
  | .obj members => .obj (members.filter fun m => m.1 ∉ integrityFields)
  | v => v

theorem isParsed_signedBody {v : JsValue} (h : IsParsed v) : IsParsed (signedBody v) := by
  cases h with
  | @obj members hkeys horder hmembers =>
      have hsub : (members.filter fun m => m.1 ∉ integrityFields).Sublist members :=
        List.filter_sublist
      exact .obj (hkeys.sublist (hsub.map Prod.fst)) (horder.sublist hsub)
        fun m hm => hmembers m (hsub.subset hm)
  | null => exact .null
  | bool b => exact .bool b
  | num n => exact .num n
  | str s => exact .str s
  | arr hitems => exact .arr hitems

theorem seen_signedBody (v : JsValue) : seen (signedBody v) = seen v := by
  cases v with
  | obj members =>
      rw [signedBody, seen, seen, seenMembers_eq, seenMembers_eq, shownMembers, shownMembers,
        List.filter_filter]
      congr 2
      apply List.filter_congr
      intro m _
      by_cases hfield : m.1 ∈ integrityFields <;> simp [Hidden, hfield]
  | _ => rfl

/-- Integrity fields are scrubbed anyway. -/
theorem scrub_signedBody (v : JsValue) :
    scrubIntegrityFields (signedBody v) = scrubIntegrityFields v := by
  cases v with
  | obj members =>
      rw [signedBody, scrubIntegrityFields, scrubIntegrityFields, assignMembers, assignMembers,
        filter_scrubMembers, filter_scrubMembers, shownMembers, shownMembers, List.filter_filter]
      congr 3
      apply List.filter_congr
      intro m _
      by_cases hfield : m.1 ∈ integrityFields <;> simp [Hidden, hfield]
  | _ => rfl

/-- What the middleware has checked of a request that it lets through. -/
theorem accepts_spec {platform : IntegrityPlatform} {req : IntegrityRequest}
    (h : validateRequestIntegrityHashMiddleware platform req = .ok .next) :
    ∃ masterKey signature payload,
      (platform.envMasterKey.filter fun key => jsTrim key ≠ "") = some masterKey ∧
      readRequestSignature req = some signature ∧
      stableSerialize (scrubIntegrityFields req.body) = some payload ∧
      bytesOfHex signature = bytesOfHex (platform.hmacSha256 masterKey payload).text := by
  unfold validateRequestIntegrityHashMiddleware at h
  split at h
  · cases h
  · rename_i masterKey hkey
    split at h
    · cases h
    · rename_i signature hsignature
      obtain ⟨expected, hexpected, h⟩ := bind_eq_ok.1 h
      simp only [computeRequestHmac, bind_eq_ok, orThrow_eq_ok] at hexpected
      obtain ⟨payload, hpayload, heq⟩ := hexpected
      cases heq
      refine ⟨masterKey, signature, payload, hkey, hsignature, hpayload, ?_⟩
      dsimp only at h
      split_ifs at h with hlength hbytes
      · cases h
      · cases h
      · exact not_not.1 hbytes

/-- Bodies let through with one signature have one text under it. -/
theorem sameText_of_accepts {platform : IntegrityPlatform} {a b : IntegrityRequest}
    (ha : validateRequestIntegrityHashMiddleware platform a = .ok .next)
    (hb : validateRequestIntegrityHashMiddleware platform b = .ok .next)
    (hsame : readRequestSignature a = readRequestSignature b)
    (hfree : ∀ key s t, stableSerialize (scrubIntegrityFields a.body) = some s →
      stableSerialize (scrubIntegrityFields b.body) = some t →
        platform.hmacSha256 key s = platform.hmacSha256 key t → s = t) :
    stableSerialize (scrubIntegrityFields a.body) =
      stableSerialize (scrubIntegrityFields b.body) := by
  obtain ⟨key, signature, s, hkey, hsignature, hs, hbytes⟩ := accepts_spec ha
  obtain ⟨key', signature', t, hkey', hsignature', ht, hbytes'⟩ := accepts_spec hb
  rw [hkey] at hkey'
  rw [hsame, hsignature'] at hsignature
  cases hkey'
  cases hsignature
  have hdigest := bytesOfHex_text_inj (hbytes.symm.trans hbytes')
  rw [hs, ht, hfree key s t hs ht hdigest]

/-- Two bodies that are let through with one signature are equal, but for the order of keys and
their own integrity fields, exactly if what the HMAC does not see of them is. -/
theorem sameSignature_iff {platform : IntegrityPlatform} {a b : IntegrityRequest}
    {textA textB : String} (hparseA : parseJson textA = some a.body)
    (hparseB : parseJson textB = some b.body)
    (ha : validateRequestIntegrityHashMiddleware platform a = .ok .next)
    (hb : validateRequestIntegrityHashMiddleware platform b = .ok .next)
    (hsame : readRequestSignature a = readRequestSignature b)
    (hfree : ∀ key s t, stableSerialize (scrubIntegrityFields a.body) = some s →
      stableSerialize (scrubIntegrityFields b.body) = some t →
        platform.hmacSha256 key s = platform.hmacSha256 key t → s = t) :
    EqUpToKeyOrder (signedBody a.body) (signedBody b.body) ↔
      EqUpToKeyOrder (unseen (signedBody a.body)) (unseen (signedBody b.body)) := by
  have hbodyA := isParsed_signedBody (isParsed_of_parseJson hparseA)
  have hbodyB := isParsed_signedBody (isParsed_of_parseJson hparseB)
  have htext := sameText_of_accepts ha hb hsame hfree
  rw [← scrub_signedBody a.body, ← scrub_signedBody b.body] at htext
  have hseen := seen_of_stableSerialize_eq hbodyA hbodyB htext
  exact ⟨unseen_congr, determined hbodyA hbodyB hseen⟩

/-! ### A sample -/

def paymentText : String := "\x7b\"amount\":5,\"note\":\"x\"\x7d"

/-- The same body with its keys in another order. -/
def reorderedText : String := "\x7b\"note\":\"x\",\"amount\":5\x7d"

/-- A body with one member more. -/
def prototypeText : String :=
  "\x7b\"amount\":5,\"note\":\"x\",\"__proto__\":\x7b\"admin\":true\x7d\x7d"

def paymentDigest : HexDigest :=
  ⟨"09b888d0283f185b735521c4a61dca8a610aa6f02174222e104bf68634ffe968", by decide +kernel⟩

def otherDigest : HexDigest :=
  ⟨"0000000000000000000000000000000000000000000000000000000000000000", by decide +kernel⟩

/-- HMAC-SHA256 under the key of the sample, on the text of the sample. -/
def paymentPlatform : IntegrityPlatform where
  hmacSha256 _ data := if data = paymentText then paymentDigest else otherDigest
  envMasterKey := some "request-key"

/-- A request with the signature of the sample. -/
def paymentRequest (text : String) : IntegrityRequest :=
  ⟨some paymentDigest.text, (parseJson text).getD .null⟩

def IntegrityReply.isNext : Except String IntegrityReply → Bool
  | .ok .next => true
  | _ => false

theorem next_of_isNext {reply : Except String IntegrityReply}
    (h : IntegrityReply.isNext reply = true) : reply = .ok .next := by
  cases reply with
  | error message => cases h
  | ok reply =>
      cases reply with
      | next => rfl
      | respond status error => cases h

/-- The texts are parsed, signed alike and let through. -/
theorem paymentRequest_accepted :
    ∀ text ∈ [paymentText, reorderedText, prototypeText],
      (parseJson text).isSome = true ∧
        stableSerialize (scrubIntegrityFields (paymentRequest text).body) = some paymentText ∧
        IntegrityReply.isNext (validateRequestIntegrityHashMiddleware paymentPlatform
          (paymentRequest text)) = true := by
  decide +kernel

theorem parse_paymentRequest {text : String}
    (h : text ∈ [paymentText, reorderedText, prototypeText]) :
    parseJson text = some (paymentRequest text).body := by
  obtain ⟨body, hbody⟩ := Option.isSome_iff_exists.1 (paymentRequest_accepted text h).1
  rw [paymentRequest, hbody, Option.getD_some]

theorem signature_paymentRequest (text : String) :
    readRequestSignature (paymentRequest text) = some paymentDigest.text := by
  have htrimmed : (some paymentDigest.text).bind trimmed? = some paymentDigest.text := by
    decide +kernel
  rw [readRequestSignature, paymentRequest]
  dsimp only
  rw [htrimmed]
  rfl

/-- No two texts of the sample collide: there is only one. -/
theorem paymentPlatform_free {textA textB : String}
    (hA : textA ∈ [paymentText, reorderedText, prototypeText])
    (hB : textB ∈ [paymentText, reorderedText, prototypeText]) (key s t : String)
    (hs : stableSerialize (scrubIntegrityFields (paymentRequest textA).body) = some s)
    (ht : stableSerialize (scrubIntegrityFields (paymentRequest textB).body) = some t)
    (_ : paymentPlatform.hmacSha256 key s = paymentPlatform.hmacSha256 key t) : s = t := by
  rw [(paymentRequest_accepted textA hA).2.1] at hs
  rw [(paymentRequest_accepted textB hB).2.1] at ht
  rw [← Option.some.inj hs, ← Option.some.inj ht]

theorem sameSignature_iff_reordered :
    EqUpToKeyOrder (signedBody (paymentRequest paymentText).body)
        (signedBody (paymentRequest reorderedText).body) ↔
      EqUpToKeyOrder (unseen (signedBody (paymentRequest paymentText).body))
        (unseen (signedBody (paymentRequest reorderedText).body)) :=
  sameSignature_iff (parse_paymentRequest (by simp)) (parse_paymentRequest (by simp))
    (next_of_isNext (paymentRequest_accepted _ (by simp)).2.2)
    (next_of_isNext (paymentRequest_accepted _ (by simp)).2.2)
    ((signature_paymentRequest _).trans (signature_paymentRequest _).symm)
    (paymentPlatform_free (by simp) (by simp))

def memberCount : JsValue → ℕ
  | .obj members => members.length
  | _ => 0

theorem memberCount_eq {v w : JsValue} (h : EqUpToKeyOrder v w) :
    memberCount v = memberCount w := by
  cases h with
  | obj hkeys _ =>
      have hlength := hkeys.length_eq
      rwa [List.length_map, List.length_map] at hlength
  | _ => rfl

/-- The signature of the one body lets the other through, with a member more. -/
theorem prototype_unsigned :
    (∀ text ∈ [paymentText, prototypeText],
      parseJson text = some (paymentRequest text).body ∧
        validateRequestIntegrityHashMiddleware paymentPlatform (paymentRequest text) =
          .ok .next) ∧
      readRequestSignature (paymentRequest paymentText) =
        readRequestSignature (paymentRequest prototypeText) ∧
      (∀ key s t, stableSerialize (scrubIntegrityFields (paymentRequest paymentText).body) =
          some s →
        stableSerialize (scrubIntegrityFields (paymentRequest prototypeText).body) = some t →
          paymentPlatform.hmacSha256 key s = paymentPlatform.hmacSha256 key t → s = t) ∧
      ¬EqUpToKeyOrder (signedBody (paymentRequest paymentText).body)
        (signedBody (paymentRequest prototypeText).body) := by
  refine ⟨?_, (signature_paymentRequest _).trans (signature_paymentRequest _).symm,
    paymentPlatform_free (by simp) (by simp), ?_⟩
  · intro text htext
    have hmem : text ∈ [paymentText, reorderedText, prototypeText] := by
      rcases List.mem_pair.1 htext with rfl | rfl <;> simp
    exact ⟨parse_paymentRequest hmem, next_of_isNext (paymentRequest_accepted text hmem).2.2⟩
  · intro heq
    have hcounts : memberCount (signedBody (paymentRequest paymentText).body) = 2 ∧
        memberCount (signedBody (paymentRequest prototypeText).body) = 3 := by
      decide +kernel
    have hsame := memberCount_eq heq
    rw [hcounts.1, hcounts.2] at hsame
    cases hsame

end UniverEscrow.Middleware
