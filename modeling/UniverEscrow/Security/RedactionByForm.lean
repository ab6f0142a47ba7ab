import UniverEscrow.Js.JsonRoundTrip
import UniverEscrow.Security.MarkedText

/-!
# Redaction by form

The shield redacts an object by its keys and a text by its markers.  What stands under a sensitive
key is hidden in the copy of the object, but stays readable in its JSON text, where a quote stands
between the key and the colon.
-/

namespace UniverEscrow.Security

open UniverEscrow.Js UniverEscrow.Lib.Replace

mutual

/-- The value as it is logged. -/
def toLog : JsValue → LogValue
  | .undefined => .primitive .undefined
  | .null => .primitive .null
  | .bool b => .primitive (.bool b)
  | .num n => .primitive (.num n)
  | .str s => .str s
  | .arr items => .arr (itemsToLog items)
  | .obj members => .obj (membersToLog members)

def itemsToLog : List JsValue → List LogValue
  | [] => []
  | v :: vs => toLog v :: itemsToLog vs

def membersToLog : List (String × JsValue) → List (String × LogValue)
  | [] => []
  | (key, v) :: rest => (key, toLog v) :: membersToLog rest

end

mutual

/-- The strings and the keys of a sanitised value. -/
def SafeValue.texts : SafeValue → List String
  | .primitive _ => []
  | .str s => [s]
  | .arr items => textsOfItems items
  | .obj proto members => textsOfProto proto ++ textsOfMembers members

def textsOfItems : List SafeValue → List String
  | [] => []
  | v :: vs => v.texts ++ textsOfItems vs

def textsOfProto : Option SafeValue → List String
  | none => []
  | some v => v.texts

def textsOfMembers : List (String × SafeValue) → List String
  | [] => []
  | (key, v) :: rest => key :: (v.texts ++ textsOfMembers rest)

end

/-- The word can be read in the sanitised value. -/
def SafeValue.Shows (safe : SafeValue) (w : List Char) : Prop := ∃ t ∈ safe.texts, w <:+: t.toList

instance (safe : SafeValue) (w : List Char) : Decidable (safe.Shows w) :=
  inferInstanceAs (Decidable (∃ t ∈ safe.texts, w <:+: t.toList))

/-- A text that sanitising puts in, as a whole string or as a part of one. -/
inductive PutIn where
  | whole (text : String)
  | part (text : String)
deriving DecidableEq

/-- The word may be read where the text was put in. -/
def PutIn.Shows (w : List Char) : PutIn → Prop
  | .whole text => w <:+: text.toList
  | .part text => Overlaps NoWordBefore EndsValue w text.toList

/-- What is put in for a member, given what is put in for its value. -/
def putInForMember (platform : LogPlatform) (key : String) (v : LogValue) (copied : List PutIn) :
    List PutIn :=
  if isLikelySensitiveKey platform key then
    match v with
    | .str s => [.whole (redactedText platform s)]
    | _ => [.whole "[REDACTED_NONSTRING]"]
  else if platform.toLowerCase key = "stack" && v.isString then [.whole "[STACK_REDACTED]"]
  else copied

mutual

/-- The texts that `sanitizeAny` puts in. -/
def putIn (platform : LogPlatform) : LogValue → List PutIn
  | .str s => (insertedByPatterns platform redactPatterns s).map .part
  | .buffer bytes =>
      [.whole ("[BUFFER_REDACTED_" ++ computeRedactedToken platform (hexOfBytes bytes) ++ "]")]
  | .arr items => putInForItems platform items
  | .obj members => putInForMembers platform members
  | .primitive _ => []

def putInForItems (platform : LogPlatform) : List LogValue → List PutIn
  | [] => []
  | v :: vs => putIn platform v ++ putInForItems platform vs

def putInForMembers (platform : LogPlatform) : List (String × LogValue) → List PutIn
  | [] => []
  | (key, v) :: rest =>
      putInForMember platform key v (putIn platform v) ++ putInForMembers platform rest

end

/-- The keys under which the value is stored. -/
def secretKeys : List String := ["commitment", "transactionId", "transaction_id", "signature"]

/-- The string is stored under one of the keys, below members with the keys of the list. -/
inductive StoredAt (v : String) : List String → JsValue → Prop
  | here {members : List (String × JsValue)} {key : String} (secret : key ∈ secretKeys)
      (mem : (key, JsValue.str v) ∈ members) : StoredAt v [] (.obj members)
  | item {items : List JsValue} {keys : List String} {w : JsValue} (mem : w ∈ items)
      (stored : StoredAt v keys w) : StoredAt v keys (.arr items)
  | member {members : List (String × JsValue)} {key : String} {keys : List String} {w : JsValue}
      (mem : (key, w) ∈ members) (stored : StoredAt v keys w) :
      StoredAt v (key :: keys) (.obj members)

/-- The string occurs in the value only as a whole string under one of the keys. -/
inductive NowhereElse (v : String) : JsValue → Prop
  | undefined : NowhereElse v .undefined
  | null : NowhereElse v .null
  | bool (b : Bool) : NowhereElse v (.bool b)
  | num (n : JsNumber) : NowhereElse v (.num n)
  | str {s : String} (absent : ¬v.toList <:+: s.toList) : NowhereElse v (.str s)
  | arr {items : List JsValue} (hitems : ∀ w ∈ items, NowhereElse v w) : NowhereElse v (.arr items)
  | obj {members : List (String × JsValue)} (hkeys : ∀ m ∈ members, ¬v.toList <:+: m.1.toList)
      (hvalues : ∀ m ∈ members, (m.1 ∈ secretKeys → m.2 ≠ .str v) → NowhereElse v m.2) :
      NowhereElse v (.obj members)

/-- `toLowerCase` lowers the letters of ASCII. -/
def LowersAscii (platform : LogPlatform) : Prop :=
  ∀ key : String, (∀ c ∈ key.toList, c.toNat < 128) → platform.toLowerCase key = key.toLower

/-- The text has no marker where JSON writes it. -/
def Unmarked (s : String) : Prop :=
  ∀ pattern ∈ redactPatterns, hasMarker pattern.1.toList none (quote s).toList = false

/-! ## Items of a text -/

section Items

variable {x m text : List Char}

theorem StartsItem.append (h : StartsItem x text) (r : List Char) : StartsItem x (text ++ r) := by
  obtain ⟨rest, rfl | ⟨before, rfl⟩⟩ := h
  · exact ⟨rest ++ r, .inl (List.append_assoc _ _ _)⟩
  · exact ⟨rest ++ r, .inr ⟨before, by simp⟩⟩

/-- A text that is put before the items belongs to the first one. -/
theorem StartsItem.prepend (h : StartsItem x text) (p : List Char) :
    StartsItem (p ++ x) (p ++ text) ∨ StartsItem x (p ++ text) := by
  obtain ⟨rest, rfl | ⟨before, rfl⟩⟩ := h
  · exact .inl ⟨rest, .inl (List.append_assoc _ _ _).symm⟩
  · exact .inr ⟨rest, .inr ⟨p ++ before, (List.append_assoc _ _ _).symm⟩⟩

theorem StartsItem.trans (h : StartsItem x m) (h' : StartsItem m text) : StartsItem x text := by
  obtain ⟨rest, rfl | ⟨before, rfl⟩⟩ := h'
  · exact h.append rest
  · obtain ⟨rest', rfl | ⟨before', rfl⟩⟩ := h
    · exact ⟨rest' ++ rest, .inr ⟨before, by simp⟩⟩
    · exact ⟨rest' ++ rest, .inr ⟨before ++ ',' :: before', by simp⟩⟩

theorem startsItem_intercalate {texts : List (List Char)} (h : m ∈ texts) :
    StartsItem m ([','].intercalate texts) := by
  induction texts with
  | nil => cases h
  | cons t texts ih =>
      cases texts with
      | nil =>
          obtain rfl := List.mem_singleton.1 h
          exact ⟨[], .inl (by simp)⟩
      | cons u texts =>
          rw [List.intercalate_cons_cons]
          rcases List.mem_cons.1 h with rfl | hmem
          · exact ⟨_, .inl (by rw [List.append_assoc])⟩
          · obtain ⟨rest, htext | ⟨before, htext⟩⟩ := ih hmem
            · exact ⟨rest, .inr ⟨t, by rw [htext]; simp⟩⟩
            · exact ⟨rest, .inr ⟨t ++ ',' :: before, by rw [htext]; simp⟩⟩

end Items

/-! ## The literal in the JSON text -/

section Literal

variable {v : String} {text : List Char}

/-- The literal of the string ends a piece of the text without a marker, at the start of an
item. -/
def Reaches (v : String) (text : List Char) : Prop :=
  ∃ x, StartsItem (x ++ (quote v).toList) text ∧
    ∀ pattern ∈ redactPatterns, hasMarker pattern.1.toList none (x ++ (quote v).toList) = false

/-- A prefix that makes no marker. -/
def MakesNoMarker (p : List Char) : Prop :=
  ∀ pattern ∈ redactPatterns, ∀ y, hasMarker pattern.1.toList none (p ++ y) =
    hasMarker pattern.1.toList none y

theorem Reaches.prepend {p : List Char} (h : Reaches v text) (hp : MakesNoMarker p) :
    Reaches v (p ++ text) := by
  obtain ⟨x, hitem, hmarker⟩ := h
  rcases hitem.prepend p with hfirst | hlater
  · refine ⟨p ++ x, by rwa [List.append_assoc], ?_⟩
    intro pattern hpattern
    rw [List.append_assoc, hp pattern hpattern, hmarker pattern hpattern]
  · exact ⟨x, hlater, hmarker⟩

theorem Reaches.append (h : Reaches v text) (r : List Char) : Reaches v (text ++ r) := by
  obtain ⟨x, hitem, hmarker⟩ := h
  exact ⟨x, hitem.append r, hmarker⟩

theorem Reaches.intercalate (h : Reaches v text) {texts : List (List Char)} (hmem : text ∈ texts) :
    Reaches v ([','].intercalate texts) := by
  obtain ⟨x, hitem, hmarker⟩ := h
  exact ⟨x, hitem.trans (startsItem_intercalate hmem), hmarker⟩

theorem makesNoMarker_singleton {c : Char} (hc : isWordChar c = false) : MakesNoMarker [c] := by
  intro pattern hpattern y
  exact hasMarker_cons (isMarkerWord_of_mem hpattern) hc

theorem stopsMarker_quote : StopsMarker '"' := ⟨by decide, by decide, by decide⟩

theorem makesNoMarker_key {key : String} (h : Unmarked key) :
    MakesNoMarker ((quote key).toList ++ [':']) := by
  intro pattern hpattern y
  have hword := isMarkerWord_of_mem hpattern
  have hkey := h pattern hpattern
  have hbody : (quote key).toList = '"' :: key.toList.flatMap escapeChar ++ ['"'] :=
    toList_quote key
  rw [hbody] at hkey
  have hcolon : isWordChar ':' = false := by decide
  rw [hbody, List.append_assoc, List.append_assoc, List.singleton_append,
    hasMarker_append hword stopsMarker_quote, hkey, Bool.false_or, List.singleton_append,
    hasMarker_cons hword hcolon]

theorem unmarked_of_mem_secretKeys {key : String} (h : key ∈ secretKeys) : Unmarked key := by
  have hall : ∀ key ∈ secretKeys, ∀ pattern ∈ redactPatterns,
      hasMarker pattern.1.toList none (quote key).toList = false := by decide +kernel
  exact hall key h

theorem reaches_literal (h : Unmarked v) : Reaches v (quote v).toList := by
  refine ⟨[], ?_, ?_⟩
  · refine ⟨[], .inl ?_⟩
    rw [List.nil_append, List.append_nil]
  · rw [List.nil_append]
    exact h

/-- A literal in the text of a member is there in the text of the object. -/
theorem reaches_obj {members : List (String × JsValue)} {key : String} {w : JsValue}
    (hmem : (key, w) ∈ members) (hw : w.isUndefined = false) (hkey : Unmarked key)
    (h : Reaches v w.stringify.toList) : Reaches v (JsValue.obj members).stringify.toList := by
  have hdefined : (key, w) ∈ JsValue.definedMembers members :=
    List.mem_filter.2 ⟨hmem, by simp [hw]⟩
  have htext : Reaches v (JsValue.memberText (key, w)) := by
    have hstart := h.prepend (makesNoMarker_key hkey)
    rwa [List.append_assoc, List.singleton_append] at hstart
  have hbrace : isWordChar '\x7b' = false := by decide
  rw [JsValue.toList_stringify_obj]
  exact ((htext.intercalate (List.mem_map_of_mem hdefined)).append _).prepend
    (makesNoMarker_singleton hbrace)

theorem reaches_stringify {keys : List String} {o : JsValue} (h : StoredAt v keys o)
    (hv : Unmarked v) (hkeys : ∀ key ∈ keys, Unmarked key) : Reaches v o.stringify.toList := by
  induction h with
  | @here members key secret mem =>
      have hliteral : Reaches v (JsValue.str v).stringify.toList := by
        rw [JsValue.stringify]
        exact reaches_literal hv
      exact reaches_obj mem rfl (unmarked_of_mem_secretKeys secret) hliteral
  | @item items keys w mem stored ih =>
      have hbracket : isWordChar '[' = false := by decide
      rw [JsValue.toList_stringify_arr]
      exact (((ih hkeys).intercalate (List.mem_map.2 ⟨w, mem, rfl⟩)).append _).prepend
        (makesNoMarker_singleton hbracket)
  | @member members key keys w mem stored ih =>
      have hw : w.isUndefined = false := by
        cases stored <;> rfl
      have hinside := ih fun k hk => hkeys k (List.mem_cons_of_mem _ hk)
      exact reaches_obj mem hw (hkeys key List.mem_cons_self) hinside

/-- What JSON writes for the string stays in the text. -/
theorem infix_redactString_of_reaches {platform : LogPlatform} {s : String}
    (h : Reaches v s.toList) :
    v.toList.flatMap escapeChar <:+: (redactString platform s).toList := by
  obtain ⟨x, hitem, hmarker⟩ := h
  have hbody : x ++ (quote v).toList = x ++ '"' :: v.toList.flatMap escapeChar ++ ['"'] := by
    rw [toList_quote, quoteChars, List.append_assoc, List.cons_append]
  rw [hbody] at hitem hmarker
  have hkept : StartsItem _ (redactString platform s).toList :=
    startsItem_redactString stopsMarker_quote hmarker hitem
  obtain ⟨rest, htext⟩ := hkept
  have hinside : v.toList.flatMap escapeChar <:+:
      x ++ '"' :: v.toList.flatMap escapeChar ++ ['"'] := ⟨x ++ ['"'], ['"'], by simp⟩
  rcases htext with htext | ⟨before, htext⟩
  · rw [htext]
    exact hinside.trans (List.prefix_append _ _).isInfix
  · rw [htext]
    exact hinside.trans ⟨before ++ [','], rest, by simp⟩

end Literal

/-! ## The copy of the object -/

section Copy

variable {platform : LogPlatform} {v t : String}

theorem itemsToLog_eq (items : List JsValue) : itemsToLog items = items.map toLog := by
  induction items with
  | nil => rfl
  | cons v vs ih => rw [itemsToLog, ih, List.map_cons]

theorem membersToLog_eq (members : List (String × JsValue)) :
    membersToLog members = members.map fun m => (m.1, toLog m.2) := by
  induction members with
  | nil => rfl
  | cons m ms ih =>
      obtain ⟨k, v⟩ := m
      rw [membersToLog, ih, List.map_cons]

/-- The texts of an item are texts of a value. -/
theorem mem_textsOfItems {items : List LogValue}
    (h : t ∈ textsOfItems (sanitizeItems platform items)) :
    ∃ w ∈ items, t ∈ (sanitizeAny platform w).texts := by
  induction items with
  | nil => simp [sanitizeItems, textsOfItems] at h
  | cons w ws ih =>
      rw [sanitizeItems, textsOfItems, List.mem_append] at h
      rcases h with h | h
      · exact ⟨w, List.mem_cons_self, h⟩
      · obtain ⟨u, hmem, hu⟩ := ih h
        exact ⟨u, List.mem_cons_of_mem _ hmem, hu⟩

theorem mem_textsOfMembers {members : List (String × SafeValue)} (h : t ∈ textsOfMembers members) :
    ∃ m ∈ members, t = m.1 ∨ t ∈ m.2.texts := by
  induction members with
  | nil => cases h
  | cons m ms ih =>
      obtain ⟨key, v⟩ := m
      rw [textsOfMembers, List.mem_cons, List.mem_append] at h
      rcases h with rfl | h | h
      · exact ⟨(t, v), List.mem_cons_self, .inl rfl⟩
      · exact ⟨(key, v), List.mem_cons_self, .inr h⟩
      · obtain ⟨m, hmem, hm⟩ := ih h
        exact ⟨m, List.mem_cons_of_mem _ hmem, hm⟩

/-- The texts of an object are those of its assignments. -/
theorem mem_texts_safeObject {assignments : List (String × SafeValue)}
    (h : t ∈ (safeObject assignments).texts) :
    ∃ m ∈ assignments, t = m.1 ∨ t ∈ m.2.texts := by
  rw [safeObject, SafeValue.texts, List.mem_append] at h
  rcases h with h | h
  · cases hproto : assignments.find? setsPrototype with
    | none =>
        rw [hproto] at h
        cases h
    | some m =>
        rw [hproto] at h
        exact ⟨m, List.mem_of_find?_eq_some hproto, .inr h⟩
  · obtain ⟨m, hmem, hm⟩ := mem_textsOfMembers h
    exact ⟨m, (List.mem_filter.1 hmem).1, hm⟩

theorem sanitizeMembers_eq (members : List (String × LogValue)) :
    sanitizeMembers platform members =
      members.map fun m => (m.1, memberValue platform m.1 m.2 (sanitizeAny platform m.2)) := by
  induction members with
  | nil => rfl
  | cons m ms ih =>
      obtain ⟨key, v⟩ := m
      rw [sanitizeMembers, ih, List.map_cons]

theorem mem_putInForItems {items : List LogValue} {w : LogValue} (h : w ∈ items) {p : PutIn}
    (hp : p ∈ putIn platform w) : p ∈ putInForItems platform items := by
  induction items with
  | nil => cases h
  | cons u us ih =>
      rw [putInForItems, List.mem_append]
      rcases List.mem_cons.1 h with rfl | h
      · exact .inl hp
      · exact .inr (ih h)

theorem mem_putInForMembers {members : List (String × LogValue)} {m : String × LogValue}
    (h : m ∈ members) {p : PutIn}
    (hp : p ∈ putInForMember platform m.1 m.2 (putIn platform m.2)) :
    p ∈ putInForMembers platform members := by
  induction members with
  | nil => cases h
  | cons u us ih =>
      obtain ⟨key, v⟩ := u
      rw [putInForMembers, List.mem_append]
      rcases List.mem_cons.1 h with rfl | h
      · exact .inl hp
      · exact .inr (ih h)

theorem isLikelySensitiveKey_of_mem (hlower : LowersAscii platform) {key : String}
    (h : key ∈ secretKeys) : isLikelySensitiveKey platform key = true := by
  have hascii : ∀ key ∈ secretKeys, (key.toList.all fun c => c.toNat < 128) = true := by decide
  have hall : ∀ key ∈ secretKeys, key.toLower.toList = "commitment".toList ∨
      key.toLower.toList = "transactionid".toList ∨ key.toLower.toList = "transaction_id".toList ∨
      key.toLower.toList = "signature".toList := by decide +kernel
  unfold isLikelySensitiveKey
  rw [hlower key (List.all_iff_forall_prop.1 (hascii key h))]
  rcases hall key h with hkey | hkey | hkey | hkey <;> simp [hkey]

/-- A member's copy shows the word only where the copy of its value does, or where a text was
put in. -/
theorem memberValue_shows {key : String} {w : LogValue} {copy : SafeValue} {copied : List PutIn}
    (h : t ∈ (memberValue platform key w copy).texts) :
    (.whole t ∈ putInForMember platform key w copied) ∨
      isLikelySensitiveKey platform key = false ∧ t ∈ copy.texts ∧
        putInForMember platform key w copied = copied := by
  unfold memberValue at h
  unfold putInForMember
  split_ifs at h ⊢ with hkey hstack
  · cases w with
    | str s =>
        obtain rfl := List.mem_singleton.1 h
        exact .inl List.mem_cons_self
    | primitive p =>
        obtain rfl := List.mem_singleton.1 h
        exact .inl List.mem_cons_self
    | buffer bytes =>
        obtain rfl := List.mem_singleton.1 h
        exact .inl List.mem_cons_self
    | arr items =>
        obtain rfl := List.mem_singleton.1 h
        exact .inl List.mem_cons_self
    | obj members =>
        obtain rfl := List.mem_singleton.1 h
        exact .inl List.mem_cons_self
  · obtain rfl := List.mem_singleton.1 h
    exact .inl List.mem_cons_self
  · exact .inr ⟨Bool.eq_false_iff.2 hkey, h, rfl⟩

theorem not_shows_primitive (p : Primitive) {w : List Char} :
    ¬(sanitizeAny platform (.primitive p)).Shows w := by
  rintro ⟨t, ht, -⟩
  cases ht

/-- The copy of the object hides the string. -/
theorem sanitizeAny_hides_secret (hlower : LowersAscii platform) {o : JsValue}
    (helse : NowhereElse v o)
    (hputIn : ∀ p ∈ putIn platform (toLog o), ¬p.Shows v.toList) :
    ¬(sanitizeAny platform (toLog o)).Shows v.toList := by
  induction helse with
  | undefined => exact not_shows_primitive _
  | null => exact not_shows_primitive _
  | bool b => exact not_shows_primitive _
  | num n => exact not_shows_primitive _
  | @str s absent =>
      rintro ⟨t, ht, hread⟩
      obtain rfl := List.mem_singleton.1 ht
      rcases infix_redactPatterns (fun p hp => hp) hread with hbefore | ⟨text, hmem, hover⟩
      · exact absent hbefore
      · exact hputIn (.part text) (List.mem_map_of_mem hmem) hover
  | @arr items hitems ih =>
      rintro ⟨t, ht, hread⟩
      rw [toLog, itemsToLog_eq] at ht hputIn
      obtain ⟨w, hmem, hw⟩ := mem_textsOfItems ht
      obtain ⟨item, hitem, rfl⟩ := List.mem_map.1 hmem
      refine ih item hitem (fun p hp => hputIn p ?_) ⟨t, hw, hread⟩
      exact mem_putInForItems (List.mem_map_of_mem hitem) hp
  | @obj members hkeys hvalues ih =>
      rintro ⟨t, ht, hread⟩
      rw [toLog, membersToLog_eq] at ht hputIn
      rw [sanitizeAny, sanitizeMembers_eq] at ht
      obtain ⟨m, hmem, hm⟩ := mem_texts_safeObject ht
      rw [List.map_map, List.mem_map] at hmem
      obtain ⟨member, hmember, rfl⟩ := hmem
      have hlogged : (member.1, toLog member.2) ∈ members.map fun m => (m.1, toLog m.2) :=
        List.mem_map_of_mem hmember
      rcases hm with rfl | hm
      · exact hkeys member hmember hread
      rcases memberValue_shows hm with hwhole | ⟨hkey, hcopy, hcopied⟩
      · exact hputIn _ (mem_putInForMembers hlogged hwhole) hread
      · have hopen : member.1 ∈ secretKeys → member.2 ≠ .str v := by
          intro hsecret
          rw [isLikelySensitiveKey_of_mem hlower hsecret] at hkey
          cases hkey
        refine ih member hmember hopen (fun p hp => hputIn p ?_) ⟨t, hcopy, hread⟩
        apply mem_putInForMembers hlogged
        rw [hcopied]
        exact hp

end Copy

/-! ## The two forms -/

/-- An order with a secret, and a marker in another string. -/
def sampleOrder : JsValue :=
  .obj [("order", .obj [("transactionId", .str "tx-12345678"),
    ("steps", .arr [.str "lock failed: Signature=ab, retry"])])]

theorem sampleOrder_stored : StoredAt "tx-12345678" ["order"] sampleOrder :=
  .member List.mem_cons_self (.here (by decide) List.mem_cons_self)

theorem sampleOrder_nowhereElse : NowhereElse "tx-12345678" sampleOrder := by
  have hsteps : NowhereElse "tx-12345678" (.arr [.str "lock failed: Signature=ab, retry"]) := by
    refine .arr ?_
    intro w hw
    obtain rfl := List.mem_singleton.1 hw
    exact .str (by decide +kernel)
  have horder : NowhereElse "tx-12345678" (.obj [("transactionId", .str "tx-12345678"),
      ("steps", .arr [.str "lock failed: Signature=ab, retry"])]) := by
    refine .obj (by decide +kernel) ?_
    intro m hm hopen
    rcases List.mem_cons.1 hm with rfl | hm
    · exact absurd rfl (hopen (by decide))
    · obtain rfl := List.mem_singleton.1 hm
      exact hsteps
  refine .obj (by decide +kernel) ?_
  intro m hm _
  obtain rfl := List.mem_singleton.1 hm
  exact horder

theorem sampleOrder_putIn : putIn sampleShield (toLog sampleOrder) =
    [.whole (redactedText sampleShield "tx-12345678"),
      .part ("signature=" ++ redactedText sampleShield "ab")] := by
  decide +kernel

/-- A commitment, and nothing else. -/
def sampleCommitment (v : String) : JsValue := .obj [("commitment", .str v)]

theorem sampleCommitment_stored (v : String) : StoredAt v [] (sampleCommitment v) :=
  .here (by decide) List.mem_cons_self

theorem sampleCommitment_nowhereElse {v : String} (h : ¬v.toList <:+: "commitment".toList) :
    NowhereElse v (sampleCommitment v) := by
  refine .obj ?_ ?_
  · intro m hm
    obtain rfl := List.mem_singleton.1 hm
    exact h
  · intro m hm hopen
    obtain rfl := List.mem_singleton.1 hm
    exact absurd rfl (hopen List.mem_cons_self)

end UniverEscrow.Security
