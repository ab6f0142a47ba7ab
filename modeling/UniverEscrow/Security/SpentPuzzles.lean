import UniverEscrow.Js.Rounding
import UniverEscrow.Lib.Run
import UniverEscrow.Security.EnclaveClientPuzzleEngine

/-!
# Spent puzzles

A run is looked back on through the challenges it issued and the solutions it accepted.  A
challenge is in the map under its own client or it is gone, and the seed it was made of tells it
from every other one.
-/

namespace UniverEscrow.Security

open UniverEscrow.Js UniverEscrow.Merkle UniverEscrow.Lib

/-- The solution is one of this challenge. -/
def names (challenge : PuzzleChallenge) (solution : JsValue) : Bool :=
  PuzzleEngine.solutionKey solution = challenge.clientId &&
    PuzzleEngine.repeatsChallenge challenge solution

/-- The engine with the challenges it has given out and the solutions it has accepted, each with
the moment it was tried. -/
structure PuzzleHistory where
  engine : PuzzleEngine
  issued : List PuzzleChallenge := []
  accepted : List (PuzzleMoment × JsValue) := []

/-- The seed that the call draws if it makes a challenge. -/
def PuzzleCall.seeds : PuzzleCall → List String
  | .recordRequest _ _ => []
  | .getOrCreateChallenge moment _ => [moment.serverSeed]
  | .verifyPuzzleSolution _ _ => []

namespace PuzzleHistory

def start (env : PuzzleEnv) (nowMs : ℤ) : PuzzleHistory where
  engine := .new env nowMs

def step (platform : PuzzlePlatform) (history : PuzzleHistory) : PuzzleCall → PuzzleHistory
  | .recordRequest moment clientId =>
      { history with engine := (history.engine.recordRequest moment clientId).1 }
  | .getOrCreateChallenge moment clientId =>
      let (engine, challenge) := history.engine.getOrCreateChallenge platform moment clientId
      { history with engine := engine, issued := history.issued ++ [challenge] }
  | .verifyPuzzleSolution moment solution =>
      let (engine, valid) := history.engine.verifyPuzzleSolution platform moment solution
      { history with
        engine := engine
        accepted := if valid then history.accepted ++ [(moment, solution)] else history.accepted }

/-- An accepted solution names a challenge that was issued and had not expired, and its nonce
meets the mask. -/
def Earned (platform : PuzzlePlatform) (mask : JsNumber) (issued : List PuzzleChallenge)
    (accepted : PuzzleMoment × JsValue) : Prop :=
  ∃ challenge ∈ issued, names challenge accepted.2 = true ∧
    (JsNumber.ofInt (accepted.1.nowMs 1)).le challenge.expiresAtMs = true ∧
    (JsNumber.ofInt (accepted.1.nowMs 2)).le challenge.expiresAtMs = true ∧
    ∃ nonce, accepted.2.get "nonce" = .str nonce ∧
      PuzzleEngine.leadingBits (platform.sha256 (challenge.challengeHash ++ nonce)) &&&
        PuzzleEngine.toInt32 mask = 0

/-- Every accepted solution was earned, and none of a challenge that was spent before. -/
structure SpentOnce (platform : PuzzlePlatform) (mask : JsNumber) (history : PuzzleHistory) :
    Prop where
  once : ∀ challenge ∈ history.issued,
    history.accepted.countP (fun accepted => names challenge accepted.2) ≤ 1
  earned : ∀ accepted ∈ history.accepted, Earned platform mask history.issued accepted

end PuzzleHistory

/-! ## One challenge, one seed -/

/-- Where the keys of a list differ at most one of its elements has a given key. -/
theorem countP_le_one {α β : Type} {f : α → β} {p : α → Bool} {v : β} {xs : List α}
    (hnodup : (xs.map f).Nodup) (hp : ∀ x, p x = true → f x = v) : xs.countP p ≤ 1 := by
  induction xs with
  | nil => exact Nat.zero_le 1
  | cons x xs ih =>
      rw [List.map_cons, List.nodup_cons] at hnodup
      rw [List.countP_cons]
      split_ifs with hx
      · have hrest : xs.countP p = 0 := by
          rw [List.countP_eq_zero]
          intro y hy hpy
          exact hnodup.1 (List.mem_map.2 ⟨y, hy, (hp y hpy).trans (hp x hx).symm⟩)
        omega
      · exact ih hnodup.2

theorem seed_of_names {challenge : PuzzleChallenge} {solution : JsValue}
    (h : PuzzleEngine.repeatsChallenge challenge solution = true) :
    solution.get "serverSeed" = .str challenge.serverSeed := by
  simp only [PuzzleEngine.repeatsChallenge, Bool.and_eq_true] at h
  exact JsValue.isStr_iff.1 h.1.1.1.2

theorem expiresAt_of_names {challenge : PuzzleChallenge} {solution : JsValue}
    (h : PuzzleEngine.repeatsChallenge challenge solution = true) :
    solution.get "expiresAtMs" = .num challenge.expiresAtMs := by
  simp only [PuzzleEngine.repeatsChallenge, Bool.and_eq_true] at h
  have hnum := h.1.2
  cases hget : solution.get "expiresAtMs" with
  | num n =>
      rw [hget] at hnum
      simp only [JsValue.isNum, JsNumber.strictEq, Bool.and_eq_true, decide_eq_true_eq] at hnum
      rw [hnum.2]
  | undefined => rw [hget] at hnum; cases hnum
  | null => rw [hget] at hnum; cases hnum
  | bool b => rw [hget] at hnum; cases hnum
  | str s => rw [hget] at hnum; cases hnum
  | arr items => rw [hget] at hnum; cases hnum
  | obj members => rw [hget] at hnum; cases hnum

theorem hasExpired_eq {challenge : PuzzleChallenge} {solution : JsValue} {moment : PuzzleMoment}
    (hrepeats : PuzzleEngine.repeatsChallenge challenge solution = true) :
    PuzzleEngine.hasExpired moment challenge solution =
      (challenge.expiresAtMs.lt (.ofInt (moment.nowMs 1)) ||
        challenge.expiresAtMs.lt (.ofInt (moment.nowMs 2))) := by
  rw [PuzzleEngine.hasExpired, expiresAt_of_names hrepeats]

/-- A challenge that has not expired is still good at both readings of the clock. -/
theorem le_of_not_hasExpired {challenge : PuzzleChallenge} {solution : JsValue}
    {moment : PuzzleMoment} (hrepeats : PuzzleEngine.repeatsChallenge challenge solution = true)
    (hne : challenge.expiresAtMs ≠ .nan)
    (h : PuzzleEngine.hasExpired moment challenge solution = false) :
    (JsNumber.ofInt (moment.nowMs 1)).le challenge.expiresAtMs = true ∧
      (JsNumber.ofInt (moment.nowMs 2)).le challenge.expiresAtMs = true := by
  rw [hasExpired_eq hrepeats, Bool.or_eq_false_iff] at h
  exact ⟨JsNumber.le_of_not_lt (JsNumber.ofRat_ne_nan _) hne (Bool.eq_false_iff.1 h.1),
    JsNumber.le_of_not_lt (JsNumber.ofRat_ne_nan _) hne (Bool.eq_false_iff.1 h.2)⟩

theorem exists_nonce {solution : JsValue}
    (h : PuzzleEngine.isValidPuzzleSolution solution = true) :
    ∃ nonce, solution.get "nonce" = .str nonce := by
  simp only [PuzzleEngine.isValidPuzzleSolution, Bool.and_eq_true] at h
  obtain ⟨nonce, hnonce⟩ := Option.isSome_iff_exists.1 h.2
  exact ⟨nonce, JsValue.asString?_eq_some.1 hnonce⟩

namespace PuzzleHistory

/-- What the seeds drawn so far say about the challenges in the map and the solutions accepted. -/
structure Sound (platform : PuzzlePlatform) (mask : JsNumber) (used : List String)
    (history : PuzzleHistory) : Prop where
  masked : history.engine.difficultyMaskValue = mask
  lifetime : history.engine.challengeTtlMs.isFinite = true
  stored : ∀ client challenge,
    history.engine.activeChallenges.get? client = some challenge →
      challenge.clientId = client ∧ challenge ∈ history.issued ∧
        challenge.expiresAtMs ≠ .nan ∧ challenge.serverSeed ∈ used
  distinct : ∀ client client' challenge challenge',
    history.engine.activeChallenges.get? client = some challenge →
      history.engine.activeChallenges.get? client' = some challenge' →
        challenge.serverSeed = challenge'.serverSeed → client = client'
  unspent : ∀ client challenge,
    history.engine.activeChallenges.get? client = some challenge →
      ∀ accepted ∈ history.accepted, accepted.2.get "serverSeed" ≠ .str challenge.serverSeed
  drawn : ∀ accepted ∈ history.accepted, ∃ seed ∈ used, accepted.2.get "serverSeed" = .str seed
  seeds : (history.accepted.map fun accepted => accepted.2.get "serverSeed").Nodup
  earned : ∀ accepted ∈ history.accepted, Earned platform mask history.issued accepted

variable {platform : PuzzlePlatform} {mask : JsNumber} {used : List String}
  {history : PuzzleHistory}

theorem Earned.mono {issued more : List PuzzleChallenge} {accepted : PuzzleMoment × JsValue}
    (h : Earned platform mask issued accepted) :
    Earned platform mask (issued ++ more) accepted := by
  obtain ⟨challenge, hissued, hearned⟩ := h
  exact ⟨challenge, List.mem_append_left more hissued, hearned⟩

theorem Sound.spentOnce (h : Sound platform mask used history) :
    SpentOnce platform mask history where
  once := by
    intro challenge _
    apply countP_le_one h.seeds (v := .str challenge.serverSeed)
    intro accepted hnames
    simp only [names, Bool.and_eq_true] at hnames
    exact seed_of_names hnames.2
  earned := h.earned

/-- Challenges may be lost from the map. -/
theorem Sound.of_subset (h : Sound platform mask used history)
    {engine : PuzzleEngine}
    (hsub : ∀ client challenge, engine.activeChallenges.get? client = some challenge →
      history.engine.activeChallenges.get? client = some challenge)
    (hmask : engine.difficultyMaskValue = history.engine.difficultyMaskValue)
    (hlifetime : engine.challengeTtlMs = history.engine.challengeTtlMs) :
    Sound platform mask used { history with engine := engine } where
  masked := hmask.trans h.masked
  lifetime := by rw [hlifetime]; exact h.lifetime
  stored := fun client challenge hget => h.stored client challenge (hsub _ _ hget)
  distinct := fun client client' challenge challenge' hget hget' =>
    h.distinct client client' challenge challenge' (hsub _ _ hget) (hsub _ _ hget')
  unspent := fun client challenge hget => h.unspent client challenge (hsub _ _ hget)
  drawn := h.drawn
  seeds := h.seeds
  earned := h.earned

theorem Sound.drop (h : Sound platform mask used history) (client : String) :
    Sound platform mask used { history with engine := history.engine.dropChallenge client } := by
  apply h.of_subset
  · intro other challenge hget
    rw [PuzzleEngine.dropChallenge, OrderedMap.get?_erase] at hget
    split_ifs at hget
    exact hget
  · rfl
  · rfl

theorem createChallenge_expiresAt (h : Sound platform mask used history) (moment : PuzzleMoment)
    (client : String) :
    (history.engine.createChallenge platform moment client).expiresAtMs ≠ .nan := by
  have hfinite := h.lifetime
  change (JsNumber.ofInt (moment.nowMs 4)).add history.engine.challengeTtlMs ≠ .nan
  cases hlifetime : history.engine.challengeTtlMs with
  | fin lifetime =>
      cases hnow : JsNumber.ofInt (moment.nowMs 4) with
      | nan => exact absurd hnow (JsNumber.ofRat_ne_nan _)
      | posInf => exact JsNumber.noConfusion
      | negInf => exact JsNumber.noConfusion
      | fin now => exact JsNumber.ofRat_ne_nan _
  | nan => rw [hlifetime] at hfinite; cases hfinite
  | posInf => rw [hlifetime] at hfinite; cases hfinite
  | negInf => rw [hlifetime] at hfinite; cases hfinite

theorem Sound.drawn_append (h : Sound platform mask used history) (seeds : List String) :
    ∀ accepted ∈ history.accepted,
      ∃ seed ∈ used ++ seeds, accepted.2.get "serverSeed" = .str seed := by
  intro accepted haccepted
  obtain ⟨seed, hseed, hget⟩ := h.drawn accepted haccepted
  exact ⟨seed, List.mem_append_left _ hseed, hget⟩

/-- A client is given the challenge it has. -/
theorem Sound.reissue (h : Sound platform mask used history) (existing : PuzzleChallenge)
    (seeds : List String) :
    Sound platform mask (used ++ seeds)
      { history with issued := history.issued ++ [existing] } where
  masked := h.masked
  lifetime := h.lifetime
  stored := by
    intro client challenge hget
    obtain ⟨hclient, hissued, hne, hseed⟩ := h.stored client challenge hget
    exact ⟨hclient, List.mem_append_left _ hissued, hne, List.mem_append_left _ hseed⟩
  distinct := h.distinct
  unspent := h.unspent
  drawn := h.drawn_append seeds
  seeds := h.seeds
  earned := fun accepted haccepted => (h.earned accepted haccepted).mono

theorem Sound.seed_ne (h : Sound platform mask used history) {seed client : String}
    {challenge : PuzzleChallenge} (hfresh : seed ∉ used)
    (hget : history.engine.activeChallenges.get? client = some challenge) :
    challenge.serverSeed ≠ seed := by
  intro hsame
  have hused := (h.stored client challenge hget).2.2.2
  rw [hsame] at hused
  exact hfresh hused

/-- What is stored is the new challenge, or was stored before under another client. -/
theorem stored_or_created {challenges : OrderedMap String PuzzleChallenge}
    {client other : String} {created challenge : PuzzleChallenge}
    (hget : (challenges.set client created).get? other = some challenge) :
    other = client ∧ challenge = created ∨
      other ≠ client ∧ challenges.get? other = some challenge := by
  rw [OrderedMap.get?_set] at hget
  split_ifs at hget with hother
  · exact .inl ⟨hother, (Option.some.inj hget).symm⟩
  · exact .inr ⟨hother, hget⟩

/-- A challenge made of a seed that has not been drawn before is stored. -/
theorem Sound.store (h : Sound platform mask used history) {created : PuzzleChallenge}
    (hfresh : created.serverSeed ∉ used) (hne : created.expiresAtMs ≠ .nan) :
    Sound platform mask (used ++ [created.serverSeed])
      { history with
        engine := { history.engine with
          activeChallenges := history.engine.activeChallenges.set created.clientId created }
        issued := history.issued ++ [created] } where
  masked := h.masked
  lifetime := h.lifetime
  stored := by
    intro client challenge hget
    rcases stored_or_created hget with ⟨rfl, rfl⟩ | ⟨-, hget⟩
    · exact ⟨rfl, List.mem_append_right _ (List.mem_singleton_self _), hne,
        List.mem_append_right _ (List.mem_singleton_self _)⟩
    · obtain ⟨hclient, hissued, hne', hused⟩ := h.stored client challenge hget
      exact ⟨hclient, List.mem_append_left _ hissued, hne', List.mem_append_left _ hused⟩
  distinct := by
    intro client client' challenge challenge' hget hget' hsame
    rcases stored_or_created hget with ⟨rfl, rfl⟩ | ⟨-, hold⟩
    · rcases stored_or_created hget' with ⟨rfl, -⟩ | ⟨-, hold'⟩
      · rfl
      · exact absurd hsame.symm (h.seed_ne hfresh hold')
    · rcases stored_or_created hget' with ⟨rfl, rfl⟩ | ⟨-, hold'⟩
      · exact absurd hsame (h.seed_ne hfresh hold)
      · exact h.distinct _ _ _ _ hold hold' hsame
  unspent := by
    intro client challenge hget accepted haccepted
    rcases stored_or_created hget with ⟨rfl, rfl⟩ | ⟨-, hget⟩
    · obtain ⟨seed, hused, haccseed⟩ := h.drawn accepted haccepted
      rw [haccseed]
      intro hsame
      exact hfresh (JsValue.str.inj hsame ▸ hused)
    · exact h.unspent client challenge hget accepted haccepted
  drawn := h.drawn_append _
  seeds := h.seeds
  earned := fun accepted haccepted => (h.earned accepted haccepted).mono

/-- A client is given a challenge, made of a new seed if it is a new one. -/
theorem Sound.issue (h : Sound platform mask used history) {moment : PuzzleMoment}
    {clientId : String} (hfresh : moment.serverSeed ∉ used) :
    Sound platform mask (used ++ [moment.serverSeed])
      (history.step platform (.getOrCreateChallenge moment clientId)) := by
  unfold step
  dsimp only
  rcases history.engine.getOrCreateChallenge_cases platform moment clientId with
    ⟨existing, -, -, heq⟩ | ⟨-, heq⟩
  · rw [heq]
    exact h.reissue existing [moment.serverSeed]
  · have hseed : (history.engine.createChallenge platform moment
        (PuzzleEngine.normalizeClientId clientId)).serverSeed ∉ used := hfresh
    have hstored := h.store hseed (createChallenge_expiresAt h moment _)
    rw [PuzzleEngine.createChallenge_clientId, PuzzleEngine.createChallenge_serverSeed] at hstored
    rw [heq]
    exact hstored

/-- What the checks of the solution say of it. -/
theorem Sound.earned_of_held (h : Sound platform mask used history) {moment : PuzzleMoment}
    {solution : JsValue} {challenge : PuzzleChallenge}
    (hheld : history.engine.Held solution challenge)
    (hexpired : PuzzleEngine.hasExpired moment challenge solution = false)
    (hsolves : history.engine.solvesPuzzle platform challenge
      ((solution.get "nonce").asString?.getD "") = true) :
    Earned platform mask history.issued (moment, solution) := by
  obtain ⟨hclient, hissued, hne, -⟩ := h.stored _ _ hheld.stored
  have htime := le_of_not_hasExpired hheld.repeats hne hexpired
  obtain ⟨nonce, hnonce⟩ := exists_nonce hheld.valid
  refine ⟨challenge, hissued, ?_, htime.1, htime.2, nonce, hnonce, ?_⟩
  · rw [names, hheld.repeats, hclient, decide_eq_true rfl]
    rfl
  · rw [hnonce] at hsolves
    rw [← h.masked]
    exact of_decide_eq_true hsolves

/-- No other challenge has the seed of the one that is dropped. -/
theorem Sound.seed_ne_of_dropped (h : Sound platform mask used history) {solution : JsValue}
    {challenge other : PuzzleChallenge} {client : String}
    (hheld : history.engine.Held solution challenge)
    (hget : (history.engine.dropChallenge
      (PuzzleEngine.solutionKey solution)).activeChallenges.get? client = some other) :
    challenge.serverSeed ≠ other.serverSeed := by
  intro hsame
  rw [PuzzleEngine.dropChallenge, OrderedMap.get?_erase] at hget
  split_ifs at hget with hclient
  exact hclient (h.distinct _ _ _ _ hget hheld.stored hsame.symm)

/-- A solution is accepted: its challenge goes, and with it its seed. -/
theorem Sound.accept (h : Sound platform mask used history) {moment : PuzzleMoment}
    {solution : JsValue} {challenge : PuzzleChallenge}
    (hheld : history.engine.Held solution challenge)
    (hexpired : PuzzleEngine.hasExpired moment challenge solution = false)
    (hsolves : history.engine.solvesPuzzle platform challenge
      ((solution.get "nonce").asString?.getD "") = true) :
    Sound platform mask used
      { history with
        engine := history.engine.dropChallenge (PuzzleEngine.solutionKey solution)
        accepted := history.accepted ++ [(moment, solution)] } := by
  have hseed := seed_of_names hheld.repeats
  have hdrop := h.drop (PuzzleEngine.solutionKey solution)
  refine ⟨hdrop.masked, hdrop.lifetime, hdrop.stored, hdrop.distinct, ?_, ?_, ?_, ?_⟩
  · intro client other hget accepted haccepted
    rcases List.mem_append.1 haccepted with hold | hnew
    · exact hdrop.unspent client other hget accepted hold
    · rw [List.mem_singleton] at hnew
      subst hnew
      rw [hseed]
      intro hsame
      exact h.seed_ne_of_dropped hheld hget (JsValue.str.inj hsame)
  · intro accepted haccepted
    rcases List.mem_append.1 haccepted with hold | hnew
    · exact h.drawn accepted hold
    · rw [List.mem_singleton] at hnew
      subst hnew
      exact ⟨challenge.serverSeed, (h.stored _ _ hheld.stored).2.2.2, hseed⟩
  · rw [List.map_append, List.nodup_append]
    refine ⟨h.seeds, List.nodup_singleton _, ?_⟩
    intro seed hmem seed' hmem'
    obtain ⟨accepted, haccepted, rfl⟩ := List.mem_map.1 hmem
    rw [List.map_singleton, List.mem_singleton] at hmem'
    rw [hmem', hseed]
    exact h.unspent _ _ hheld.stored accepted haccepted
  · intro accepted haccepted
    rcases List.mem_append.1 haccepted with hold | hnew
    · exact h.earned accepted hold
    · rw [List.mem_singleton] at hnew
      subst hnew
      exact h.earned_of_held hheld hexpired hsolves

/-- What one call keeps, if the seed it draws is a new one. -/
theorem Sound.step (h : Sound platform mask used history) {call : PuzzleCall}
    (hfresh : ∀ seed ∈ call.seeds, seed ∉ used) :
    Sound platform mask (used ++ call.seeds) (history.step platform call) := by
  cases call with
  | recordRequest moment clientId =>
      rw [PuzzleCall.seeds, List.append_nil]
      apply h.of_subset
      · intro client challenge hget
        rw [PuzzleEngine.activeChallenges_recordRequest] at hget
        split_ifs at hget
        · cases hget
        · exact hget
      · exact (history.engine.config_recordRequest moment clientId).2.2
      · exact (history.engine.config_recordRequest moment clientId).2.1
  | getOrCreateChallenge moment clientId =>
      exact h.issue (hfresh moment.serverSeed (List.mem_singleton_self _))
  | verifyPuzzleSolution moment solution =>
      rw [PuzzleCall.seeds, List.append_nil]
      unfold PuzzleHistory.step
      dsimp only
      by_cases hheld : ∃ challenge, history.engine.Held solution challenge
      · obtain ⟨challenge, hheld⟩ := hheld
        rw [PuzzleEngine.verifyPuzzleSolution_of_held hheld]
        cases hexpired : PuzzleEngine.hasExpired moment challenge solution with
        | true => exact h.drop _
        | false =>
            cases hsolves : history.engine.solvesPuzzle platform challenge
                ((solution.get "nonce").asString?.getD "") with
            | true => exact h.accept hheld hexpired hsolves
            | false => exact h
      · rw [PuzzleEngine.verifyPuzzleSolution_of_not_held (not_exists.1 hheld)]
        exact h

theorem sound_start (env : PuzzleEnv) (nowMs : ℤ) :
    Sound platform (PuzzleEngine.new env nowMs).difficultyMaskValue [] (start env nowMs) where
  masked := rfl
  lifetime := by
    change (numberFromEnv notPositive 30000 env.ttlMs).isFinite = true
    unfold numberFromEnv
    dsimp only
    split_ifs with hrefused
    · rw [JsNumber.ofInt_eq_fin (n := 30000) (by norm_num)]
      rfl
    · rw [Bool.or_eq_true, not_or, Bool.not_eq_true', Bool.not_eq_false] at hrefused
      exact hrefused.1
  stored := fun _ _ hget => by cases hget
  distinct := fun _ _ _ _ hget => by cases hget
  unspent := fun _ _ hget => by cases hget
  drawn := fun _ haccepted => by cases haccepted
  seeds := List.nodup_nil
  earned := fun _ haccepted => by cases haccepted

theorem throughout_spentOnce (h : Sound platform mask used history) {calls : List PuzzleCall}
    (hseeds : (used ++ calls.flatMap PuzzleCall.seeds).Nodup) :
    Run.Throughout (step platform) (SpentOnce platform mask) history calls := by
  induction calls generalizing history used with
  | nil => exact h.spentOnce
  | cons call calls ih =>
      rw [List.flatMap_cons, ← List.append_assoc] at hseeds
      refine ⟨h.spentOnce, ih (h.step fun seed hseed hused => ?_) hseeds⟩
      have hboth := (List.nodup_append.1 hseeds).1
      exact (List.nodup_append.1 hboth).2.2 seed hused seed hseed rfl

/-- In every run whose seeds are pairwise distinct each challenge is spent at most once, and every
solution that is accepted was earned. -/
theorem spent_once (platform : PuzzlePlatform) (env : PuzzleEnv) (nowMs : ℤ)
    (calls : List PuzzleCall) (hseeds : (calls.flatMap PuzzleCall.seeds).Nodup) :
    Run.Throughout (step platform)
      (SpentOnce platform (PuzzleEngine.new env nowMs).difficultyMaskValue) (start env nowMs)
      calls :=
  throughout_spentOnce (sound_start env nowMs) hseeds

end PuzzleHistory

/-! ## A puzzle and its solution -/

def sampleSeed : String := "00112233445566778899aabbccddeeff"

/-- SHA-256 of the text of the challenge made for `c` at 1000, and of one that meets its mask. -/
def puzzleSha256 : Sha256 := fun text =>
  if text = sampleSeed ++ "c" ++ "1000" then
    ⟨"bd2601644a2ac1f5f13669407d58c70db841b111777a93844b6804bdddf96592", by decide +kernel⟩
  else ⟨"dd1200005e47cf06a94d4c63f2b73f7739a88f03f0f8b8f65a8f49541f8cad9e", by decide +kernel⟩

def puzzlePlatform : PuzzlePlatform where
  sha256 := puzzleSha256
  hexText := fun _ => "ffff"
  jsonParse := fun _ => none

def defaultEnv : PuzzleEnv := ⟨none, none, none, none⟩

def sampleMoment (nowMs : ℤ) : PuzzleMoment := ⟨fun _ => nowMs, sampleSeed⟩

deriving instance DecidableEq for PuzzleChallenge

/-- The challenge made for `c` at 1000. -/
def sampleChallenge : PuzzleChallenge where
  clientId := "c"
  serverSeed := sampleSeed
  timestampMs := 1000
  expiresAtMs := .ofInt 31000
  difficultyMask := "0x0000ffff"
  challengeHash := "bd2601644a2ac1f5f13669407d58c70db841b111777a93844b6804bdddf96592"

def sampleSolution : JsValue :=
  .obj [("clientId", "c"), ("serverSeed", sampleSeed), ("timestampMs", .num (.ofInt 1000)),
    ("expiresAtMs", .num (.ofInt 31000)), ("difficultyMask", "0x0000ffff"),
    ("challengeHash", "bd2601644a2ac1f5f13669407d58c70db841b111777a93844b6804bdddf96592"),
    ("nonce", "23095")]

/-- A client asks for a puzzle and hands in its solution twice. -/
def replayCalls : List PuzzleCall :=
  [.getOrCreateChallenge (sampleMoment 1000) "c",
    .verifyPuzzleSolution (sampleMoment 2000) sampleSolution,
    .verifyPuzzleSolution (sampleMoment 3000) sampleSolution]

open PuzzleHistory in
/-- The replayed solution is accepted once. -/
theorem spent_once_replay :
    Run.Throughout (step puzzlePlatform)
        (SpentOnce puzzlePlatform (PuzzleEngine.new defaultEnv 0).difficultyMaskValue)
        (start defaultEnv 0) replayCalls ∧
      (Run.run (step puzzlePlatform) (start defaultEnv 0) replayCalls).accepted.length = 1 :=
  ⟨spent_once puzzlePlatform defaultEnv 0 replayCalls (by decide), by decide +kernel⟩

end UniverEscrow.Security
