import UniverEscrow.Security.SpentPuzzles

/-!
# Honoured puzzles

A challenge lives for its lifetime, and the map it is kept in is cleared with every window.  A
window that ends first takes with it work that a client may already have done.
-/

namespace UniverEscrow.Security

open UniverEscrow.Js UniverEscrow.Merkle UniverEscrow.Lib

/-- The solution is exactly this challenge, with a nonce. -/
structure Carries (challenge : PuzzleChallenge) (nonce : String) (solution : JsValue) : Prop where
  clientId : solution.get "clientId" = .str challenge.clientId
  serverSeed : solution.get "serverSeed" = .str challenge.serverSeed
  timestampMs : solution.get "timestampMs" = .num (.ofInt challenge.timestampMs)
  expiresAtMs : solution.get "expiresAtMs" = .num challenge.expiresAtMs
  difficultyMask : solution.get "difficultyMask" = .str challenge.difficultyMask
  challengeHash : solution.get "challengeHash" = .str challenge.challengeHash
  nonce : solution.get "nonce" = .str nonce
  object : solution.isObject = true

/-- The clock has not reached the expiry of the challenge. -/
def before (nowMs : ℤ) (challenge : PuzzleChallenge) : Bool :=
  (JsNumber.ofInt nowMs).lt challenge.expiresAtMs

/-- Until it expires, every nonce that meets the mask is accepted. -/
def Honoured (platform : PuzzlePlatform) (engine : PuzzleEngine) (challenge : PuzzleChallenge) :
    Prop :=
  ∀ moment solution nonce, Carries challenge nonce solution →
    engine.solvesPuzzle platform challenge nonce = true →
    before (moment.nowMs 1) challenge = true → before (moment.nowMs 2) challenge = true →
      (engine.verifyPuzzleSolution platform moment solution).2 = true

/-- The engine with the challenges that it has given out, that no accepted solution has named
since, and whose expiry the clock has not reached at any call since. -/
structure PuzzleWork where
  engine : PuzzleEngine
  outstanding : List PuzzleChallenge := []

namespace PuzzleEngine

/-- Challenges are stored under their own clients. -/
def Keyed (engine : PuzzleEngine) : Prop :=
  ∀ client challenge, engine.activeChallenges.get? client = some challenge →
    challenge.clientId = client ∧ normalizeClientId client = client

variable {engine engine' : PuzzleEngine}

theorem Keyed.of_subset (h : engine.Keyed)
    (hsub : ∀ client challenge, engine'.activeChallenges.get? client = some challenge →
      engine.activeChallenges.get? client = some challenge) : engine'.Keyed :=
  fun client challenge hget => h client challenge (hsub client challenge hget)

theorem Keyed.call (h : engine.Keyed) (platform : PuzzlePlatform) (call : PuzzleCall) :
    (engine.call platform call).Keyed := by
  cases call with
  | recordRequest moment clientId =>
      apply h.of_subset
      intro client challenge hget
      change (engine.recordRequest moment clientId).1.activeChallenges.get? client = _ at hget
      rw [activeChallenges_recordRequest] at hget
      split_ifs at hget
      · cases hget
      · exact hget
  | getOrCreateChallenge moment clientId =>
      change (engine.getOrCreateChallenge platform moment clientId).1.Keyed
      rcases engine.getOrCreateChallenge_cases platform moment clientId with
        ⟨existing, -, -, heq⟩ | ⟨-, heq⟩
      · rw [heq]
        exact h
      · rw [heq]
        intro client challenge hget
        change (OrderedMap.set _ _ _).get? client = _ at hget
        rw [OrderedMap.get?_set] at hget
        split_ifs at hget with hclient
        · rw [← Option.some.inj hget, hclient, createChallenge_clientId]
          exact ⟨rfl, normalizeClientId_idem clientId⟩
        · exact h client challenge hget
  | verifyPuzzleSolution moment solution =>
      change (engine.verifyPuzzleSolution platform moment solution).1.Keyed
      by_cases hheld : ∃ challenge, engine.Held solution challenge
      · obtain ⟨challenge, hheld⟩ := hheld
        have hdrop : (engine.dropChallenge (solutionKey solution)).Keyed := by
          apply h.of_subset
          intro client other hget
          rw [dropChallenge, OrderedMap.get?_erase] at hget
          split_ifs at hget
          exact hget
        rw [verifyPuzzleSolution_of_held hheld]
        split_ifs
        · exact hdrop
        · exact hdrop
        · exact h
      · rw [verifyPuzzleSolution_of_not_held (not_exists.1 hheld)]
        exact h

end PuzzleEngine

namespace PuzzleWork

def start (env : PuzzleEnv) (nowMs : ℤ) : PuzzleWork where
  engine := .new env nowMs

def step (platform : PuzzlePlatform) (work : PuzzleWork) : PuzzleCall → PuzzleWork
  | .recordRequest moment clientId =>
      { engine := (work.engine.recordRequest moment clientId).1
        outstanding := work.outstanding.filter (before (moment.nowMs 0)) }
  | .getOrCreateChallenge moment clientId =>
      let (engine, challenge) := work.engine.getOrCreateChallenge platform moment clientId
      { engine := engine
        outstanding := (work.outstanding ++ [challenge]).filter fun challenge =>
          before (moment.nowMs 3) challenge && before (moment.nowMs 4) challenge }
  | .verifyPuzzleSolution moment solution =>
      let (engine, valid) := work.engine.verifyPuzzleSolution platform moment solution
      { engine := engine
        outstanding := work.outstanding.filter fun challenge =>
          !(valid && names challenge solution) && before (moment.nowMs 1) challenge &&
            before (moment.nowMs 2) challenge }

def AllHonoured (platform : PuzzlePlatform) (work : PuzzleWork) : Prop :=
  ∀ challenge ∈ work.outstanding, Honoured platform work.engine challenge

/-- A nonce meets the mask for the challenge. -/
def Solvable (platform : PuzzlePlatform) (work : PuzzleWork) (challenge : PuzzleChallenge) :
    Prop :=
  ∃ nonce, work.engine.solvesPuzzle platform challenge nonce = true

/-- No window ends while a challenge that can be solved is outstanding. -/
def SparesWork (platform : PuzzlePlatform) (work : PuzzleWork) : PuzzleCall → Prop
  | .recordRequest moment _ => work.engine.rollsOver moment = true →
      ∀ challenge ∈ work.outstanding, before (moment.nowMs 0) challenge = true →
        ¬work.Solvable platform challenge
  | _ => True

/-- Challenges are stored under their own clients; those outstanding are stored, or nobody can
solve them. -/
structure Tidy (platform : PuzzlePlatform) (work : PuzzleWork) : Prop where
  keyed : work.engine.Keyed
  stored : ∀ challenge ∈ work.outstanding,
    work.engine.activeChallenges.get? challenge.clientId = some challenge ∨
      ¬work.Solvable platform challenge

variable {platform : PuzzlePlatform} {work : PuzzleWork}

theorem strictEq_self {n : JsNumber} (h : n ≠ .nan) : n.strictEq n = true := by
  simp [JsNumber.strictEq, h]

theorem ne_nan_of_before {nowMs : ℤ} {challenge : PuzzleChallenge}
    (h : before nowMs challenge = true) : challenge.expiresAtMs ≠ .nan := by
  intro hnan
  rw [before, hnan] at h
  cases hnow : JsNumber.ofInt nowMs <;> rw [hnow] at h <;> cases h

theorem repeats_of_carries {challenge : PuzzleChallenge} {nonce : String} {solution : JsValue}
    (h : Carries challenge nonce solution) (hne : challenge.expiresAtMs ≠ .nan) :
    PuzzleEngine.isValidPuzzleSolution solution = true ∧
      PuzzleEngine.repeatsChallenge challenge solution = true := by
  constructor
  · simp [PuzzleEngine.isValidPuzzleSolution, h.object, h.clientId, h.serverSeed, h.timestampMs,
      h.expiresAtMs, h.difficultyMask, h.challengeHash, h.nonce, JsValue.asString?,
      JsValue.asNumber?]
  · have htimestamp : (JsNumber.ofInt challenge.timestampMs).strictEq
        (.ofInt challenge.timestampMs) = true := strictEq_self (JsNumber.ofRat_ne_nan _)
    simp [PuzzleEngine.repeatsChallenge, h.serverSeed, h.timestampMs, h.expiresAtMs,
      h.difficultyMask, h.challengeHash, JsValue.isStr, JsValue.asString?, JsValue.isNum,
      strictEq_self hne, htimestamp]

theorem not_lt_of_before {nowMs : ℤ} {challenge : PuzzleChallenge}
    (h : before nowMs challenge = true) : challenge.expiresAtMs.lt (.ofInt nowMs) = false := by
  rw [Bool.eq_false_iff]
  intro hlt
  have hself := JsNumber.lt_trans h hlt
  rw [JsNumber.lt_irrefl] at hself
  cases hself

/-- A challenge is honoured while it is stored under its client. -/
theorem honoured_of_stored {engine : PuzzleEngine} {challenge : PuzzleChallenge}
    (hkeyed : engine.Keyed)
    (hstored : engine.activeChallenges.get? challenge.clientId = some challenge) :
    Honoured platform engine challenge := by
  intro moment solution nonce hcarries hsolves hfirst hsecond
  have hkey : PuzzleEngine.solutionKey solution = challenge.clientId := by
    rw [PuzzleEngine.solutionKey, hcarries.clientId]
    exact (hkeyed _ _ hstored).2
  obtain ⟨hvalid, hrepeats⟩ := repeats_of_carries hcarries (ne_nan_of_before hfirst)
  have hheld : engine.Held solution challenge := ⟨hvalid, by rw [hkey, hstored], hrepeats⟩
  have hexpired : PuzzleEngine.hasExpired moment challenge solution = false := by
    rw [PuzzleEngine.hasExpired, hcarries.expiresAtMs, not_lt_of_before hfirst]
    exact not_lt_of_before hsecond
  rw [PuzzleEngine.verifyPuzzleSolution_of_held hheld, hexpired, hcarries.nonce]
  change (if engine.solvesPuzzle platform challenge nonce = true then _ else _ :
    PuzzleEngine × Bool).2 = true
  rw [if_pos hsolves]

theorem Tidy.allHonoured (h : Tidy platform work) : AllHonoured platform work := by
  intro challenge houtstanding
  rcases h.stored challenge houtstanding with hstored | hunsolvable
  · exact honoured_of_stored h.keyed hstored
  · intro moment solution nonce _ hsolves
    exact absurd ⟨nonce, hsolves⟩ hunsolvable

theorem solvable_congr {engine : PuzzleEngine} {outstanding : List PuzzleChallenge}
    {challenge : PuzzleChallenge}
    (hmask : engine.difficultyMaskValue = work.engine.difficultyMaskValue) :
    Solvable platform ⟨engine, outstanding⟩ challenge ↔ work.Solvable platform challenge := by
  unfold Solvable PuzzleEngine.solvesPuzzle
  rw [hmask]

/-- Outstanding challenges stay stored where those that go from the map are not outstanding. -/
theorem Tidy.of_stored (h : Tidy platform work) {engine : PuzzleEngine}
    {outstanding : List PuzzleChallenge} (hkeyed : engine.Keyed)
    (hmask : engine.difficultyMaskValue = work.engine.difficultyMaskValue)
    (hsub : outstanding ⊆ work.outstanding)
    (hstored : ∀ challenge ∈ outstanding,
      work.engine.activeChallenges.get? challenge.clientId = some challenge →
        engine.activeChallenges.get? challenge.clientId = some challenge) :
    Tidy platform ⟨engine, outstanding⟩ where
  keyed := hkeyed
  stored := by
    intro challenge houtstanding
    exact (h.stored challenge (hsub houtstanding)).imp (hstored challenge houtstanding)
      (mt (solvable_congr hmask).1)

theorem Tidy.recordRequest (h : Tidy platform work) {moment : PuzzleMoment} {clientId : String}
    (hspares : work.SparesWork platform (.recordRequest moment clientId)) :
    Tidy platform (work.step platform (.recordRequest moment clientId)) := by
  have hmask := (work.engine.config_recordRequest moment clientId).2.2
  refine ⟨h.keyed.call platform (.recordRequest moment clientId), ?_⟩
  intro challenge houtstanding
  obtain ⟨hold, hbefore⟩ := List.mem_filter.1 houtstanding
  change (work.engine.recordRequest moment clientId).1.activeChallenges.get? _ = _ ∨ _
  rw [PuzzleEngine.activeChallenges_recordRequest]
  split_ifs with hrolls
  · exact .inr (mt (solvable_congr hmask).1 (hspares hrolls challenge hold hbefore))
  · exact (h.stored challenge hold).imp id (mt (solvable_congr hmask).1)

theorem Tidy.getOrCreateChallenge (h : Tidy platform work) (moment : PuzzleMoment)
    (clientId : String) :
    Tidy platform (work.step platform (.getOrCreateChallenge moment clientId)) := by
  have hkeyed := h.keyed.call platform (.getOrCreateChallenge moment clientId)
  change (work.engine.getOrCreateChallenge platform moment clientId).1.Keyed at hkeyed
  unfold step
  dsimp only
  rcases work.engine.getOrCreateChallenge_cases platform moment clientId with
    ⟨existing, hexisting, -, heq⟩ | ⟨hgone, heq⟩
  · rw [heq]
    refine ⟨h.keyed, ?_⟩
    intro challenge houtstanding
    rcases List.mem_append.1 (List.mem_filter.1 houtstanding).1 with hold | hnew
    · exact h.stored challenge hold
    · rw [List.mem_singleton] at hnew
      subst hnew
      rw [(h.keyed _ _ hexisting).1]
      exact .inl hexisting
  · rw [heq] at hkeyed ⊢
    refine ⟨hkeyed, ?_⟩
    intro challenge houtstanding
    obtain ⟨hmem, hbefore⟩ := List.mem_filter.1 houtstanding
    rw [Bool.and_eq_true] at hbefore
    change (OrderedMap.set _ _ _).get? _ = _ ∨ _
    rcases List.mem_append.1 hmem with hold | hnew
    · refine (h.stored challenge hold).imp (fun hstored => ?_) (mt (solvable_congr rfl).1)
      rw [OrderedMap.get?_set, if_neg, hstored]
      -- the client's own challenge was replaced because it had expired
      intro hclient
      rw [hclient] at hstored
      have hexpired := hgone challenge hstored
      rw [before, hexpired] at hbefore
      exact Bool.false_ne_true hbefore.1
    · rw [List.mem_singleton] at hnew
      subst hnew
      rw [PuzzleEngine.createChallenge_clientId]
      exact .inl (OrderedMap.get?_set_self _ _ _)

/-- The challenge that a solution takes from the map was consumed, or had expired. -/
theorem get?_dropChallenge_of_outstanding {moment : PuzzleMoment} {solution : JsValue}
    {spent challenge : PuzzleChallenge} {valid : Bool} {outstanding : List PuzzleChallenge}
    (hheld : work.engine.Held solution spent)
    (hspent : PuzzleEngine.solutionKey solution = spent.clientId)
    (hreason : valid = true ∨ PuzzleEngine.hasExpired moment spent solution = true)
    (houtstanding : challenge ∈ outstanding.filter fun challenge =>
      !(valid && names challenge solution) && before (moment.nowMs 1) challenge &&
        before (moment.nowMs 2) challenge)
    (hstored : work.engine.activeChallenges.get? challenge.clientId = some challenge) :
    (work.engine.dropChallenge (PuzzleEngine.solutionKey solution)).activeChallenges.get?
      challenge.clientId = some challenge := by
  rw [PuzzleEngine.dropChallenge, OrderedMap.get?_erase, if_neg, hstored]
  intro hclient
  rw [hclient, hheld.stored] at hstored
  have hsame : spent = challenge := Option.some.inj hstored
  subst hsame
  have hkept := (List.mem_filter.1 houtstanding).2
  simp only [Bool.and_eq_true, Bool.not_eq_true'] at hkept
  rcases hreason with rfl | hexpired
  · rw [names, hheld.repeats, hspent, decide_eq_true rfl] at hkept
    exact Bool.false_ne_true hkept.1.1.symm
  · rw [hasExpired_eq hheld.repeats, not_lt_of_before hkept.1.2,
      not_lt_of_before hkept.2] at hexpired
    exact Bool.false_ne_true hexpired

theorem Tidy.verifyPuzzleSolution (h : Tidy platform work) (moment : PuzzleMoment)
    (solution : JsValue) :
    Tidy platform (work.step platform (.verifyPuzzleSolution moment solution)) := by
  have hkeyed := h.keyed.call platform (.verifyPuzzleSolution moment solution)
  change (work.engine.verifyPuzzleSolution platform moment solution).1.Keyed at hkeyed
  unfold step
  dsimp only
  by_cases hheld : ∃ challenge, work.engine.Held solution challenge
  · obtain ⟨spent, hheld⟩ := hheld
    have hspent := (h.keyed _ _ hheld.stored).1.symm
    rw [PuzzleEngine.verifyPuzzleSolution_of_held hheld] at hkeyed ⊢
    cases hexpired : PuzzleEngine.hasExpired moment spent solution with
    | true =>
        rw [hexpired] at hkeyed
        exact h.of_stored hkeyed rfl (List.filter_subset_self _) fun _ =>
          get?_dropChallenge_of_outstanding hheld hspent (.inr hexpired)
    | false =>
        rw [hexpired] at hkeyed
        cases hsolves : work.engine.solvesPuzzle platform spent
            ((solution.get "nonce").asString?.getD "") with
        | true =>
            rw [hsolves] at hkeyed
            exact h.of_stored hkeyed rfl (List.filter_subset_self _) fun _ =>
              get?_dropChallenge_of_outstanding hheld hspent (.inl rfl)
        | false =>
            exact h.of_stored h.keyed rfl (List.filter_subset_self _) fun _ _ hstored => hstored
  · rw [PuzzleEngine.verifyPuzzleSolution_of_not_held (not_exists.1 hheld)]
    exact h.of_stored h.keyed rfl (List.filter_subset_self _) fun _ _ hstored => hstored

theorem Tidy.step (h : Tidy platform work) {call : PuzzleCall}
    (hspares : work.SparesWork platform call) : Tidy platform (work.step platform call) := by
  cases call with
  | recordRequest moment clientId => exact h.recordRequest hspares
  | getOrCreateChallenge moment clientId => exact h.getOrCreateChallenge moment clientId
  | verifyPuzzleSolution moment solution => exact h.verifyPuzzleSolution moment solution

/-- The challenge and the nonce, handed back. -/
def solutionOf (challenge : PuzzleChallenge) (nonce : String) : JsValue :=
  .obj [("clientId", challenge.clientId), ("serverSeed", challenge.serverSeed),
    ("timestampMs", .num (.ofInt challenge.timestampMs)),
    ("expiresAtMs", .num challenge.expiresAtMs), ("difficultyMask", challenge.difficultyMask),
    ("challengeHash", challenge.challengeHash), ("nonce", nonce)]

theorem carries_solutionOf (challenge : PuzzleChallenge) (nonce : String) :
    Carries challenge nonce (solutionOf challenge nonce) :=
  ⟨rfl, rfl, rfl, rfl, rfl, rfl, rfl, rfl⟩

/-- A window that takes solvable work along leaves a challenge that is not honoured. -/
theorem sparesWork_of_allHonoured {call : PuzzleCall}
    (h : AllHonoured platform (work.step platform call)) : work.SparesWork platform call := by
  cases call with
  | getOrCreateChallenge moment clientId => trivial
  | verifyPuzzleSolution moment solution => trivial
  | recordRequest moment clientId =>
      intro hrolls challenge houtstanding hbefore hsolvable
      obtain ⟨nonce, hnonce⟩ := hsolvable
      have hmask := (work.engine.config_recordRequest moment clientId).2.2
      have hsolves : (work.engine.recordRequest moment clientId).1.solvesPuzzle platform challenge
          nonce = true := by
        unfold PuzzleEngine.solvesPuzzle at hnonce ⊢
        rwa [hmask]
      have haccepted := h challenge (List.mem_filter.2 ⟨houtstanding, hbefore⟩)
        ⟨fun _ => moment.nowMs 0, moment.serverSeed⟩ (solutionOf challenge nonce) nonce
        (carries_solutionOf challenge nonce) hsolves hbefore hbefore
      change ((work.engine.recordRequest moment clientId).1.verifyPuzzleSolution platform _ _).2 =
        true at haccepted
      rw [PuzzleEngine.verifyPuzzleSolution_of_not_held] at haccepted
      · cases haccepted
      · intro other hheld
        have hstored := hheld.stored
        rw [PuzzleEngine.activeChallenges_recordRequest, if_pos hrolls] at hstored
        cases hstored

theorem tidy_start (env : PuzzleEnv) (nowMs : ℤ) : Tidy platform (start env nowMs) where
  keyed := fun _ _ hget => by cases hget
  stored := fun _ houtstanding => by cases houtstanding

/-- In every run every challenge that is outstanding is honoured exactly as long as no window ends
while one that can be solved is. -/
theorem work_honoured_iff (platform : PuzzlePlatform) (env : PuzzleEnv) (nowMs : ℤ)
    (calls : List PuzzleCall) :
    Run.Throughout (step platform) (AllHonoured platform) (start env nowMs) calls ↔
      Run.EachStep (step platform) (SparesWork platform) (start env nowMs) calls := by
  constructor
  · intro hhonoured
    exact Run.eachStep_of_throughout (fun _ _ (_ : True) _ => trivial)
      (fun _ _ _ _ _ h => sparesWork_of_allHonoured h) trivial Run.eachStep_true
      Run.eachStep_true hhonoured
  · intro hspares
    exact (Run.throughout_of_step (fun _ _ h hspares => h.step hspares) (tidy_start env nowMs)
      hspares).mono fun _ h => h.allHonoured

/-- At 10000 another client's request begins a new window, and the challenge that is good until
31000 is refused a second later. -/
theorem work_not_honoured :
    ¬Run.Throughout (step puzzlePlatform) (AllHonoured puzzlePlatform) (start defaultEnv 0)
      [.getOrCreateChallenge (sampleMoment 1000) "c", .recordRequest (sampleMoment 10000) "d"] := by
  intro h
  have houtstanding : sampleChallenge ∈ (Run.run (step puzzlePlatform) (start defaultEnv 0)
      [.getOrCreateChallenge (sampleMoment 1000) "c",
        .recordRequest (sampleMoment 10000) "d"]).outstanding := by decide +kernel
  have haccepted := h.run sampleChallenge houtstanding (sampleMoment 11000) sampleSolution "23095"
    ⟨rfl, rfl, rfl, rfl, rfl, rfl, rfl, rfl⟩ (by decide +kernel) (by decide +kernel)
    (by decide +kernel)
  exact absurd haccepted (by decide +kernel)

end PuzzleWork

end UniverEscrow.Security
