import UniverEscrow.Lib.PairTree

/-!
# Paths in a tree of pairs

A path climbs from a node to the root; each step names the side the node is on and its
sibling.  The path a tree itself provides reaches the root, and where `node` identifies none of
the pairs involved, a path that reaches the root is the one the tree provides.  An odd last
node is its own sibling, so either side fits it.
-/

namespace UniverEscrow.Lib.PairTree

variable {α : Type*} (node : α → α → α)

/-! ## Layers and their pairs -/

theorem map_layerPairs : ∀ layer : List α,
    (layerPairs layer).map (fun p => node p.1 p.2) = nextLayer node layer
  | [] => rfl
  | [_] => rfl
  | _ :: _ :: rest => by
      rw [layerPairs, List.map_cons, map_layerPairs rest, nextLayer]

theorem layerPairs_getElem? : ∀ (layer : List α) (p : ℕ),
    (layerPairs layer)[p]? = (layer[2 * p]?).map fun a => (a, (layer[2 * p + 1]?).getD a)
  | [], p => by simp [layerPairs]
  | [a], 0 => by simp [layerPairs]
  | [a], p + 1 => by
      rw [List.getElem?_eq_none (by simp [layerPairs]), List.getElem?_eq_none (by simp)]
      rfl
  | a :: b :: rest, 0 => by simp [layerPairs]
  | a :: b :: rest, p + 1 => by
      have ih := layerPairs_getElem? rest p
      rw [layerPairs, List.getElem?_cons_succ, ih, show 2 * (p + 1) = 2 * p + 1 + 1 by omega,
        List.getElem?_cons_succ, List.getElem?_cons_succ, List.getElem?_cons_succ,
        List.getElem?_cons_succ]

/-- Each layer is reduced to the next one, and the last one is the root alone. -/
inductive Tower (root : α) : List (List α) → Prop
  | root : Tower root [[root]]
  | layer {l : List α} {above : List (List α)} (hlen : 1 < l.length)
      (h : Tower root (nextLayer node l :: above)) : Tower root (l :: nextLayer node l :: above)

variable {node}

theorem Tower.drop {root : α} {layers : List (List α)} (h : Tower node root layers) {j : ℕ}
    (hj : j < layers.length) : Tower node root (layers.drop j) := by
  induction h generalizing j with
  | root =>
      have hj0 : j = 0 := by
        simp only [List.length_singleton] at hj
        omega
      subst hj0
      exact Tower.root
  | layer hlen h ih =>
      cases j with
      | zero => exact Tower.layer hlen h
      | succ j =>
          rw [List.drop_succ_cons]
          apply ih
          rw [List.length_cons] at hj
          omega

theorem Tower.length_pos {root : α} {layers : List (List α)} (h : Tower node root layers) :
    0 < layers.length := by
  cases h <;> simp

variable (node)

theorem buildLayers_succ {fuel : ℕ} {layer : List α} (h : 1 < layer.length) :
    buildLayers node (fuel + 1) layer = layer :: buildLayers node fuel (nextLayer node layer) := by
  rw [buildLayers, if_neg (Nat.not_le.2 h)]

theorem buildLayers_of_length_le_one {fuel : ℕ} {layer : List α} (h : layer.length ≤ 1) :
    buildLayers node fuel layer = [layer] := by
  cases fuel with
  | zero => rfl
  | succ fuel => rw [buildLayers, if_pos h]

theorem buildLayers_eq_cons (fuel : ℕ) (layer : List α) :
    ∃ above, buildLayers node fuel layer = layer :: above := by
  by_cases h : layer.length ≤ 1
  · exact ⟨[], buildLayers_of_length_le_one node h⟩
  · cases fuel with
    | zero => exact ⟨[], rfl⟩
    | succ fuel => exact ⟨_, buildLayers_succ node (Nat.not_le.1 h)⟩

theorem tower_buildLayers {fuel : ℕ} {layer : List α} {root : α}
    (hfuel : layer.length ≤ fuel + 1) (hne : layer ≠ [])
    (hroot : topLayer node fuel layer = [root]) :
    Tower node root (buildLayers node fuel layer) := by
  have hpos := List.length_pos_iff.2 hne
  by_cases h : layer.length ≤ 1
  · rw [topLayer_of_length_le_one node h] at hroot
    rw [buildLayers_of_length_le_one node h, hroot]
    exact Tower.root
  · have hlt : 1 < layer.length := Nat.not_le.1 h
    induction fuel generalizing layer with
    | zero => omega
    | succ fuel ih =>
        rw [topLayer_succ node hlt] at hroot
        rw [buildLayers_succ node hlt]
        have hlen : (nextLayer node layer).length = (layer.length + 1) / 2 :=
          length_nextLayer node layer
        have hne' : nextLayer node layer ≠ [] := List.length_pos_iff.1 (by omega)
        obtain ⟨above, habove⟩ := buildLayers_eq_cons node fuel (nextLayer node layer)
        rw [habove]
        apply Tower.layer hlt
        rw [← habove]
        by_cases hle : (nextLayer node layer).length ≤ 1
        · rw [topLayer_of_length_le_one node hle] at hroot
          rw [buildLayers_of_length_le_one node hle, hroot]
          exact Tower.root
        · exact ih (by omega) hne' hroot (by omega) hle (Nat.not_le.1 hle)

theorem flatMap_layerPairs_dropLast (fuel : ℕ) (layer : List α) :
    (buildLayers node fuel layer).dropLast.flatMap layerPairs = treePairs node fuel layer := by
  induction fuel generalizing layer with
  | zero => rfl
  | succ fuel ih =>
      by_cases h : layer.length ≤ 1
      · rw [buildLayers_of_length_le_one node h, treePairs, if_pos h]
        rfl
      · rw [buildLayers_succ node (Nat.not_le.1 h), treePairs, if_neg h, ← ih,
          List.dropLast_cons_of_ne_nil (buildLayers_ne_nil node fuel _), List.flatMap_cons]

/-! ## Climbing -/

/-- A node and its sibling, left one first. -/
def orient (right : Bool) (x sibling : α) : α × α := if right then (sibling, x) else (x, sibling)

def combine (right : Bool) (x sibling : α) : α :=
  node (orient right x sibling).1 (orient right x sibling).2

def climb : α → List (Bool × α) → α
  | x, [] => x
  | x, step :: path => climb (combine node step.1 x step.2) path

@[simp] theorem climb_nil (x : α) : climb node x [] = x := rfl

/-- The pairs a climb combines. -/
def climbPairs : α → List (Bool × α) → List (α × α)
  | _, [] => []
  | x, step :: path => orient step.1 x step.2 :: climbPairs (combine node step.1 x step.2) path

theorem climb_append (x : α) (path rest : List (Bool × α)) :
    climb node x (path ++ rest) = climb node (climb node x path) rest := by
  induction path generalizing x with
  | nil => rfl
  | cons step path ih => exact ih _

theorem climbPairs_append (x : α) (path rest : List (Bool × α)) :
    climbPairs node x (path ++ rest) =
      climbPairs node x path ++ climbPairs node (climb node x path) rest := by
  induction path generalizing x with
  | nil => rfl
  | cons step path ih => exact congrArg _ (ih _)

theorem orient_inj {right : Bool} {x y s t : α} (h : orient right x s = orient right y t) :
    x = y ∧ s = t := by
  cases right with
  | false => simpa [orient] using h
  | true => simpa [orient, and_comm] using h

/-! ## The path the tree provides -/

/-- The neighbour, or the node itself where there is none. -/
def siblingOf (default : α) (layer : List α) (i : ℕ) : α :=
  (layer[if i % 2 = 1 then i - 1 else i + 1]?).getD ((layer[i]?).getD default)

def siblings (default : α) : List (List α) → ℕ → List α
  | [], _ => []
  | [_], _ => []
  | layer :: above, i => siblingOf default layer i :: siblings default above (i / 2)

/-- The sides name the place `i` of the lowest layer; either one names an odd last node. -/
def Fits : List (List α) → ℕ → List Bool → Prop
  | [], _, _ => False
  | layer :: above, i, [] => above = [] ∧ i < layer.length
  | layer :: above, i, right :: sides =>
      i < layer.length ∧ (right = decide (i % 2 = 1) ∨ (i % 2 = 0 ∧ i + 1 = layer.length)) ∧
        Fits above (i / 2) sides

def parities : ℕ → ℕ → List Bool
  | 0, _ => []
  | k + 1, i => decide (i % 2 = 1) :: parities k (i / 2)

@[simp] theorem length_parities (k i : ℕ) : (parities k i).length = k := by
  induction k generalizing i with
  | zero => rfl
  | succ k ih => rw [parities, List.length_cons, ih]

@[simp] theorem length_siblings (default : α) :
    ∀ (layers : List (List α)) (i : ℕ), (siblings default layers i).length = layers.length - 1
  | [], _ => rfl
  | [_], _ => rfl
  | _ :: next :: above, i => by
      rw [siblings, List.length_cons, length_siblings default (next :: above)]
      · rfl
      · simp

theorem Fits.lt_length {layer : List α} {above : List (List α)} {i : ℕ} {sides : List Bool}
    (h : Fits (layer :: above) i sides) : i < layer.length := by
  cases sides with
  | nil => exact h.2
  | cons right sides => exact h.1

theorem fits_singleton {x : α} {i : ℕ} {sides : List Bool} (h : Fits [[x]] i sides) :
    i = 0 ∧ sides = [] := by
  have hi := h.lt_length
  rw [List.length_singleton, Nat.lt_one_iff] at hi
  cases sides with
  | nil => exact ⟨hi, rfl⟩
  | cons right sides => exact h.2.2.elim

theorem layerPairs_of_fits (default : α) {layer : List α} {i : ℕ} {right : Bool}
    (hi : i < layer.length)
    (hside : right = decide (i % 2 = 1) ∨ (i % 2 = 0 ∧ i + 1 = layer.length)) :
    (layerPairs layer)[i / 2]? =
      some (orient right (layer.get ⟨i, hi⟩) (siblingOf default layer i)) := by
  rw [layerPairs_getElem?]
  by_cases hodd : i % 2 = 1
  · have hright : right = true := by
      rcases hside with h | ⟨h, -⟩
      · rw [h, decide_eq_true hodd]
      · omega
    have hlow : 2 * (i / 2) = i - 1 := by omega
    have hlt : i - 1 < layer.length := by omega
    rw [hlow, show i - 1 + 1 = i by omega, List.getElem?_eq_getElem hlt,
      List.getElem?_eq_getElem hi]
    simp [orient, hright, siblingOf, hodd, hlt]
  · have hlow : 2 * (i / 2) = i := by omega
    rw [hlow, List.getElem?_eq_getElem hi]
    rcases hside with h | ⟨-, hlast⟩
    · have hright : right = false := by rw [h, decide_eq_false hodd]
      simp [orient, hright, siblingOf, hodd, hi]
    · have hnone : layer[i + 1]? = none := List.getElem?_eq_none (by omega)
      simp [orient, siblingOf, hodd, hi, hnone]

theorem nextLayer_getElem? {layer : List α} {p : ℕ} {pair : α × α}
    (h : (layerPairs layer)[p]? = some pair) :
    (nextLayer node layer)[p]? = some (node pair.1 pair.2) := by
  rw [← map_layerPairs, List.getElem?_map, h]
  rfl

variable {node} {root : α} {layers : List (List α)}

theorem Tower.fits_parities (h : Tower node root layers) {i : ℕ}
    (hi : i < (layers.headD []).length) : Fits layers i (parities (layers.length - 1) i) := by
  induction h generalizing i with
  | root => exact ⟨rfl, hi⟩
  | layer hlen h ih =>
      rw [List.headD_cons] at hi
      refine ⟨hi, .inl rfl, ih ?_⟩
      rw [List.headD_cons, length_nextLayer]
      omega

/-- Whatever the sides, they lead down from the root to some place of the lowest layer. -/
theorem Tower.exists_fits (h : Tower node root layers) (sides : List Bool)
    (hlen : sides.length = layers.length - 1) : ∃ i, Fits layers i sides := by
  induction h generalizing sides with
  | root =>
      have hnil : sides = [] := List.length_eq_zero_iff.1 hlen
      subst hnil
      exact ⟨0, rfl, by simp⟩
  | @layer l above hl h ih =>
      cases sides with
      | nil => simp at hlen
      | cons right sides =>
          obtain ⟨p, hp⟩ := ih sides (by simpa using hlen)
          have hlt := hp.lt_length
          rw [length_nextLayer] at hlt
          by_cases hright : right = true ∧ 2 * p + 1 < l.length
          · refine ⟨2 * p + 1, hright.2, .inl ?_, ?_⟩
            · rw [hright.1, decide_eq_true (by omega)]
            · rwa [show (2 * p + 1) / 2 = p by omega]
          · refine ⟨2 * p, by omega, ?_, ?_⟩
            · cases right with
              | false => exact .inl (decide_eq_false (by omega)).symm
              | true =>
                  refine .inr ⟨by omega, ?_⟩
                  have hlast : ¬ 2 * p + 1 < l.length := fun hlast => hright ⟨rfl, hlast⟩
                  omega
            · rwa [show 2 * p / 2 = p by omega]

/-- The tree's own path reaches the root. -/
theorem Tower.climb_siblings (h : Tower node root layers) (default : α) {i : ℕ}
    {sides : List Bool} (hfits : Fits layers i sides) {x : α}
    (hx : (layers.headD [])[i]? = some x) :
    climb node x (sides.zip (siblings default layers i)) = root := by
  induction h generalizing i sides x with
  | root =>
      obtain ⟨rfl, rfl⟩ := fits_singleton hfits
      simpa using hx.symm
  | @layer l above hlen h ih =>
      cases sides with
      | nil => cases hfits.1
      | cons right sides =>
          obtain ⟨hi, hside, hrest⟩ := hfits
          have hpair := layerPairs_of_fits default hi hside
          rw [List.headD_cons, List.getElem?_eq_getElem hi] at hx
          cases hx
          exact ih hrest (nextLayer_getElem? node hpair)

theorem forall_mem_siblings {P : α → Prop} (default : α) :
    ∀ {layers : List (List α)} {i : ℕ} {sides : List Bool}, Fits layers i sides →
      (∀ layer ∈ layers, ∀ x ∈ layer, P x) → ∀ s ∈ siblings default layers i, P s
  | [], _, _, hfits, _ => hfits.elim
  | [_], _, _, _, _ => by simp [siblings]
  | layer :: next :: above, i, [], hfits, _ => nomatch hfits.1
  | layer :: next :: above, i, right :: sides, hfits, hP => by
      have ih := forall_mem_siblings default hfits.2.2
        fun layer hlayer => hP layer (List.mem_cons_of_mem _ hlayer)
      have hhead := hP layer List.mem_cons_self
      have hi := hfits.1
      rw [siblings]
      · intro s hs
        rcases List.mem_cons.1 hs with rfl | hs
        · rw [siblingOf, List.getElem?_eq_getElem hi, Option.getD_some]
          cases hsib : layer[if i % 2 = 1 then i - 1 else i + 1]? with
          | none => exact hhead _ (List.getElem_mem hi)
          | some s => exact hhead _ (List.mem_of_getElem? hsib)
        · exact ih s hs
      · simp

/-- A path that reaches the root is the tree's own, unless one of its pairs shares its node with
another pair of the tree. -/
theorem Tower.of_climb_eq (h : Tower node root layers) (default : α) {path : List (Bool × α)}
    {i : ℕ} {x : α} (hfits : Fits layers i (path.map Prod.fst))
    (hinj : InjectiveOnPairs node (layers.dropLast.flatMap layerPairs) (climbPairs node x path))
    (hclimb : climb node x path = root) :
    (layers.headD [])[i]? = some x ∧ path.map Prod.snd = siblings default layers i := by
  induction h generalizing i path x with
  | root =>
      obtain ⟨rfl, hnil⟩ := fits_singleton hfits
      have hpath : path = [] := List.map_eq_nil_iff.1 hnil
      subst hpath
      simpa [siblings] using hclimb.symm
  | @layer l above hlen h ih =>
      cases path with
      | nil => cases hfits.1
      | cons step path =>
          obtain ⟨hi, hside, hrest⟩ := hfits
          rw [List.dropLast_cons_of_ne_nil (List.cons_ne_nil _ _), List.flatMap_cons] at hinj
          obtain ⟨hnext, htail⟩ := ih hrest
            (fun p hp q hq => hinj p (List.mem_append_right _ hp) q (List.mem_cons_of_mem _ hq))
            hclimb
          have hpair := layerPairs_of_fits default hi hside
          rw [List.headD_cons, nextLayer_getElem? node hpair, Option.some.injEq] at hnext
          have horient := hinj _ (List.mem_append_left _ (List.mem_of_getElem? hpair)) _
            List.mem_cons_self hnext
          obtain ⟨hxi, hsib⟩ := orient_inj horient
          constructor
          · rw [List.headD_cons, List.getElem?_eq_getElem hi]
            exact congrArg some hxi
          · rw [List.map_cons, htail, ← hsib]
            rfl

end UniverEscrow.Lib.PairTree
