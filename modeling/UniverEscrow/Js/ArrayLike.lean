import UniverEscrow.Js.Value

/-!
# Array-like values

What a loop over `v[0]`, `v[1]`, … below `v.length` reads when `v` need not be an array, with
each element turned into its JSON text.
-/

namespace UniverEscrow.Js.JsValue

/-- `JSON.stringify(v)`; `undefined` has no text. -/
def jsonText? (v : JsValue) : Option String := if v.isUndefined then none else some v.stringify

/-- The JSON text of a string of one code unit: a lone surrogate is escaped. -/
def unitJson (u : ℕ) : String :=
  if 0xd800 ≤ u ∧ u < 0xe000 then "\"\\u" ++ String.ofList (Nat.toDigits 16 u) ++ "\""
  else quote (String.ofList [Char.ofNat u])

/-- The texts before the first missing one. -/
def definedPrefix : List (Option String) → List String
  | some text :: texts => text :: definedPrefix texts
  | _ => []

/-- The texts a loop reads from index `i` on while the index is below `bound`; `none` if it runs
into an element that is not there. -/
def readBelow (bound : JsNumber) : ℕ → List String → Option (List String)
  | i, [] => if (JsNumber.ofInt i).lt bound then none else some []
  | i, text :: texts =>
      if (JsNumber.ofInt i).lt bound then (readBelow bound (i + 1) texts).map (text :: ·)
      else some []

def elementTexts? (v : JsValue) (count : ℕ) : List String :=
  definedPrefix ((List.range count).map fun i => jsonText? (v.get (toString i)))

/-- The JSON texts of `v[0]`, …, `v[v.length - 1]`, where the first element is read whenever the
length is not the number zero; `none` if a read or a conversion throws. -/
def entryTexts? (v : JsValue) : Option (List String) :=
  match v with
  | .arr items => items.mapM jsonText?
  | .str s => some ((s.toList.flatMap utf16Units).map unitJson)
  | .obj members =>
      if (v.get "length").isNum (.ofInt 0) then some []
      else
        match elementTexts? v members.length with
        | [] => none
        | text :: texts => do
            let bound ← (v.get "length").toNumber
            let more ← readBelow bound 1 texts
            return text :: more
  | _ => none

theorem jsonText?_eq_some {v : JsValue} {text : String} :
    v.jsonText? = some text ↔ v ≠ .undefined ∧ v.stringify = text := by
  cases v <;> simp [jsonText?, isUndefined]

/-- A text the loop reads is that of a value or of a code unit. -/
def IsElementText (text : String) : Prop := (∃ v, jsonText? v = some text) ∨ ∃ u, unitJson u = text

theorem some_mem_of_mem_definedPrefix {texts : List (Option String)} {text : String}
    (h : text ∈ definedPrefix texts) : some text ∈ texts := by
  fun_induction definedPrefix texts with
  | case1 t ts ih =>
      rcases List.mem_cons.1 h with rfl | h
      · exact List.mem_cons_self
      · exact List.mem_cons_of_mem _ (ih h)
  | case2 => cases h

theorem subset_of_readBelow {bound : JsNumber} {i : ℕ} {texts read : List String}
    (h : readBelow bound i texts = some read) : read ⊆ texts := by
  fun_induction readBelow bound i texts generalizing read with
  | case1 i hlt => cases h
  | case2 i hlt =>
      cases h
      exact List.Subset.refl _
  | case3 i t ts hlt ih =>
      obtain ⟨more, hmore, rfl⟩ := Option.map_eq_some_iff.1 h
      exact List.cons_subset_cons t (ih hmore)
  | case4 i t ts hlt =>
      cases h
      exact List.nil_subset _

theorem mapM_eq_some_iff {α β : Type} {f : α → Option β} {xs : List α} {ys : List β} :
    xs.mapM f = some ys ↔ xs.map f = ys.map some := by
  induction xs generalizing ys with
  | nil => cases ys <;> simp
  | cons x xs ih =>
      simp only [List.mapM_cons, Option.bind_eq_bind, Option.bind_eq_some_iff, Option.pure_def,
        Option.some.injEq, List.map_cons, ih]
      constructor
      · rintro ⟨y, hy, ys, hys, rfl⟩
        rw [hy, hys, List.map_cons]
      · intro h
        cases ys with
        | nil => cases h
        | cons y ys =>
            rw [List.map_cons, List.cons.injEq] at h
            exact ⟨y, h.1, ys, h.2, rfl⟩

theorem isElementText_of_mem_elementTexts? (v : JsValue) (count : ℕ) {text : String}
    (h : text ∈ elementTexts? v count) : IsElementText text := by
  obtain ⟨i, -, hi⟩ := List.mem_map.1 (some_mem_of_mem_definedPrefix h)
  exact .inl ⟨_, hi⟩

theorem isElementText_of_mem {v : JsValue} {texts : List String} {text : String}
    (h : v.entryTexts? = some texts) (hmem : text ∈ texts) : IsElementText text := by
  cases v with
  | undefined => cases h
  | null => cases h
  | bool b => cases h
  | num n => cases h
  | str s =>
      cases h
      obtain ⟨u, -, rfl⟩ := List.mem_map.1 hmem
      exact .inr ⟨u, rfl⟩
  | arr items =>
      have hsome : some text ∈ items.map jsonText? := by
        rw [mapM_eq_some_iff.1 h]
        exact List.mem_map_of_mem hmem
      obtain ⟨item, -, hitem⟩ := List.mem_map.1 hsome
      exact .inl ⟨item, hitem⟩
  | obj members =>
      rw [entryTexts?] at h
      split_ifs at h
      · cases h
        cases hmem
      · cases hread : elementTexts? (.obj members) members.length with
        | nil =>
            rw [hread] at h
            cases h
        | cons first rest =>
            rw [hread] at h
            simp only [Option.bind_eq_bind, Option.bind_eq_some_iff, Option.pure_def,
              Option.some.injEq] at h
            obtain ⟨bound, -, more, hmore, rfl⟩ := h
            apply isElementText_of_mem_elementTexts? (.obj members) members.length
            rw [hread]
            exact List.cons_subset_cons first (subset_of_readBelow hmore) hmem

end UniverEscrow.Js.JsValue
