import UniverEscrow.Js.Rounding
import UniverEscrow.Lib.Run
import UniverEscrow.Security.EnclaveClientPuzzleEngine

/-!
# The rate limit

A window is looked back on through the answers given in it.  The counters are Numbers, which
stop growing at `2 ^ 53`, so a limit from there on is never reached.
-/

namespace UniverEscrow.Security

open UniverEscrow.Js UniverEscrow.Merkle UniverEscrow.Lib

/-- The engine with the clients that asked in the current window, the last one last, and whether
each of them was told to solve a puzzle. -/
structure PuzzleWindow where
  engine : PuzzleEngine
  answers : List (String × Bool) := []

namespace PuzzleWindow

def start (env : PuzzleEnv) (nowMs : ℤ) : PuzzleWindow where
  engine := .new env nowMs

/-- Only a request that is counted gets an answer. -/
def step (platform : PuzzlePlatform) (window : PuzzleWindow) : PuzzleCall → PuzzleWindow
  | .recordRequest moment clientId =>
      let (engine, needsPuzzle) := window.engine.recordRequest moment clientId
      { engine := engine
        answers := (if window.engine.rollsOver moment then [] else window.answers) ++
          [(PuzzleEngine.normalizeClientId clientId, needsPuzzle)] }
  | call => { window with engine := window.engine.call platform call }

/-- How often the client was let through. -/
def passes (window : PuzzleWindow) (client : String) : ℕ :=
  window.answers.countP fun answer => answer.1 = client && !answer.2

def totalPasses (window : PuzzleWindow) : ℕ := window.answers.countP fun answer => !answer.2

/-- A client told once to solve a puzzle is told so from then on. -/
def Lasting (window : PuzzleWindow) : Prop :=
  window.answers.Pairwise fun earlier later =>
    earlier.1 = later.1 → earlier.2 = true → later.2 = true

end PuzzleWindow

/-- A count compared with a Number, without rounding the count. -/
def AtMost (n : ℕ) : JsNumber → Prop
  | .fin x => (n : ℚ) ≤ x.val
  | .posInf => True
  | _ => False

/-! ## Counters -/

/-- The Number a counter holds after `n` increments. -/
def counterValue (n : ℕ) : JsNumber := .ofInt (min n (2 ^ 53) : ℕ)

theorem counterValue_succ (n : ℕ) :
    (counterValue n).add (.ofInt 1) = counterValue (n + 1) := by
  unfold counterValue
  rw [JsNumber.add_one_ofInt (Nat.min_le_right _ _)]
  congr 2
  omega

theorem abs_counter_le (n : ℕ) : |((min n (2 ^ 53) : ℕ) : ℤ)| ≤ 2 ^ 53 := by
  rw [abs_of_nonneg (Int.natCast_nonneg _)]
  exact_mod_cast Nat.min_le_right n (2 ^ 53)

theorem counterValue_mono {m n : ℕ} (h : m ≤ n) : (counterValue m).le (counterValue n) = true := by
  apply JsNumber.le_ofInt (abs_counter_le m) (abs_counter_le n)
  exact_mod_cast min_le_min_right _ h

theorem lt_counterValue_mono {limit : JsNumber} {m n : ℕ}
    (h : limit.lt (counterValue m) = true) (hmn : m ≤ n) :
    limit.lt (counterValue n) = true := by
  rcases JsNumber.le_iff.1 (counterValue_mono hmn) with hlt | ⟨-, heq⟩
  · exact JsNumber.lt_trans h hlt
  · rwa [← heq]

/-- A limit below `2 ^ 53` that the counter does not exceed bounds the count. -/
theorem atMost_of_not_lt {limit : JsNumber} {n : ℕ} (hsmall : limit.lt (.ofInt (2 ^ 53)) = true)
    (hnonneg : limit.lt (.ofInt 0) = false) (h : limit.lt (counterValue n) = false) :
    AtMost n limit := by
  rcases Nat.lt_or_ge n (2 ^ 53) with hn | hn
  · have habs : |(n : ℤ)| ≤ 2 ^ 53 := by
      rw [abs_of_nonneg (Int.natCast_nonneg _)]
      exact_mod_cast hn.le
    rw [counterValue, Nat.min_eq_left hn.le, JsNumber.ofInt_eq_fin habs] at h
    cases limit with
    | nan => cases hsmall
    | posInf => trivial
    | negInf => rw [JsNumber.ofInt_zero] at hnonneg; cases hnonneg
    | fin x => simpa [AtMost, JsNumber.lt] using h
  · rw [counterValue, Nat.min_eq_right hn] at h
    have hcast : ((2 ^ 53 : ℕ) : ℤ) = 2 ^ 53 := by norm_num
    rw [hcast, hsmall] at h
    cases h

namespace PuzzleEngine

/-- The counters of an engine after a request, its window being the current one. -/
def count (engine : PuzzleEngine) (client : String) : PuzzleEngine :=
  { engine with
    totalRequestsThisWindow := engine.totalRequestsThisWindow.add (.ofInt 1)
    windowCounts := engine.windowCounts.set client
      (((engine.windowCounts.get? client).getD (.ofInt 0)).add (.ofInt 1)) }

def clientCount (engine : PuzzleEngine) (client : String) : JsNumber :=
  (engine.windowCounts.get? client).getD (.ofInt 0)

variable {engine : PuzzleEngine} {moment : PuzzleMoment} {clientId : String}

theorem recordRequest_eq :
    engine.recordRequest moment clientId =
      ((engine.advanceWindowIfNeeded (moment.nowMs 0)).count (normalizeClientId clientId),
        ((engine.advanceWindowIfNeeded (moment.nowMs 0)).count
          (normalizeClientId clientId)).isUnderPressure (normalizeClientId clientId)) := rfl

theorem clientCount_count (engine : PuzzleEngine) (client other : String) :
    (engine.count client).clientCount other =
      if other = client then (engine.clientCount client).add (.ofInt 1)
      else engine.clientCount other := by
  rw [clientCount, count, OrderedMap.get?_set]
  split_ifs <;> rfl

/-- What a window that rolls over leaves of the engine. -/
theorem advanceWindowIfNeeded_eq (engine : PuzzleEngine) (moment : PuzzleMoment) :
    engine.advanceWindowIfNeeded (moment.nowMs 0) =
      if engine.rollsOver moment then
        { engine with
          currentWindowStartMs := moment.nowMs 0, totalRequestsThisWindow := .ofInt 0,
          windowCounts := .empty, activeChallenges := .empty }
      else engine := by
  unfold advanceWindowIfNeeded rollsOver
  cases (JsNumber.ofInt (moment.nowMs 0 - engine.currentWindowStartMs)).lt engine.windowMs <;> rfl

end PuzzleEngine

namespace PuzzleWindow

/-- The client has asked too often, or all clients together have. -/
def Pressed (limit : JsNumber) (window : PuzzleWindow) (client : String) : Prop :=
  limit.lt (counterValue (window.answers.countP fun answer => answer.1 = client)) = true ∨
    (limit.mul (.ofInt 3)).lt (counterValue window.answers.length) = true

/-- The counters count the answers of the window, and the answers follow from the counters. -/
structure Counted (limit : JsNumber) (window : PuzzleWindow) : Prop where
  configured : window.engine.maxRequestsPerWindow = limit
  total : window.engine.totalRequestsThisWindow = counterValue window.answers.length
  client : ∀ client, window.engine.clientCount client =
    counterValue (window.answers.countP fun answer => answer.1 = client)
  passes : ∀ client, limit.lt (counterValue (window.passes client)) = false
  totalPasses : (limit.mul (.ofInt 3)).lt (counterValue window.totalPasses) = false
  pressed : ∀ client, (client, true) ∈ window.answers → window.Pressed limit client
  lasting : window.Lasting

variable {limit : JsNumber} {window : PuzzleWindow} {moment : PuzzleMoment} {client : String}

/-- A window nobody has asked in. -/
theorem counted_empty {engine : PuzzleEngine} (hlimit : engine.maxRequestsPerWindow = limit)
    (htotal : engine.totalRequestsThisWindow = .ofInt 0) (hcounts : engine.windowCounts = .empty)
    (hnonneg : limit.lt (.ofInt 0) = false)
    (hnonneg3 : (limit.mul (.ofInt 3)).lt (.ofInt 0) = false) :
    Counted limit { engine := engine } where
  configured := hlimit
  total := htotal
  client := by
    intro client
    rw [PuzzleEngine.clientCount, hcounts]
    rfl
  passes := fun _ => hnonneg
  totalPasses := hnonneg3
  pressed := by
    intro client h
    cases h
  lasting := List.Pairwise.nil

theorem Counted.roll (h : Counted limit window) (hnonneg : limit.lt (.ofInt 0) = false)
    (hnonneg3 : (limit.mul (.ofInt 3)).lt (.ofInt 0) = false) :
    Counted limit
      { engine := window.engine.advanceWindowIfNeeded (moment.nowMs 0)
        answers := if window.engine.rollsOver moment then [] else window.answers } := by
  rw [PuzzleEngine.advanceWindowIfNeeded_eq]
  split_ifs
  · exact counted_empty h.configured rfl rfl hnonneg hnonneg3
  · exact h

theorem Pressed.append {answers : List (String × Bool)} (h : window.Pressed limit client) :
    Pressed limit { window with answers := window.answers ++ answers } client := by
  refine h.imp (fun h => lt_counterValue_mono h ?_) (fun h => lt_counterValue_mono h ?_)
  · rw [List.countP_append]
    exact Nat.le_add_right _ _
  · rw [List.length_append]
    exact Nat.le_add_right _ _

theorem passes_le (window : PuzzleWindow) (client : String) :
    window.passes client ≤ window.answers.countP fun answer => answer.1 = client := by
  apply List.countP_mono_left
  intro answer _ h
  simp only [Bool.and_eq_true] at h
  exact h.1

theorem countP_append_singleton (p : String × Bool → Bool) (answers : List (String × Bool))
    (answer : String × Bool) :
    (answers ++ [answer]).countP p = answers.countP p + if p answer then 1 else 0 := by
  rw [List.countP_append, List.countP_singleton]

/-- The window after a request of the client that it counts and answers. -/
def answer (window : PuzzleWindow) (client : String) : PuzzleWindow where
  engine := window.engine.count client
  answers := window.answers ++ [(client, (window.engine.count client).isUnderPressure client)]

theorem Counted.clientCount_answer (h : Counted limit window) (client other : String) :
    (window.answer client).engine.clientCount other =
      counterValue ((window.answer client).answers.countP fun answer => answer.1 = other) := by
  rw [answer, PuzzleEngine.clientCount_count, countP_append_singleton]
  by_cases hother : other = client
  · subst hother
    simp [h.client, counterValue_succ]
  · simp [hother, h.client, Ne.symm hother]

theorem Counted.total_answer (h : Counted limit window) (client : String) :
    (window.answer client).engine.totalRequestsThisWindow =
      counterValue (window.answer client).answers.length := by
  rw [answer, List.length_append, List.length_singleton, ← counterValue_succ, ← h.total]
  rfl

/-- The answer follows from the counts that the request is in. -/
theorem Counted.isUnderPressure_iff (h : Counted limit window)
    (hclient : PuzzleEngine.normalizeClientId client = client) :
    (window.engine.count client).isUnderPressure client = true ↔
      (window.answer client).Pressed limit client := by
  have hasked : (window.engine.count client).isUnderPressure client =
      (limit.lt ((window.answer client).engine.clientCount client) ||
        (limit.mul (.ofInt 3)).lt (window.answer client).engine.totalRequestsThisWindow) := by
    rw [PuzzleEngine.isUnderPressure, hclient, ← h.configured]
    rfl
  rw [hasked, h.clientCount_answer, h.total_answer, Bool.or_eq_true, Pressed]

/-- A count that does not press is not exceeded by the passes in it. -/
theorem passes_of_not_pressed (h : ¬window.Pressed limit client) :
    limit.lt (counterValue (window.passes client)) = false ∧
      (limit.mul (.ofInt 3)).lt (counterValue window.totalPasses) = false := by
  rw [Pressed, not_or] at h
  rw [Bool.eq_false_iff, Bool.eq_false_iff]
  exact ⟨fun hlt => h.1 (lt_counterValue_mono hlt (passes_le window client)),
    fun hlt => h.2 (lt_counterValue_mono hlt List.countP_le_length)⟩

/-- A request that is not let through is no pass. -/
theorem passes_answer {other : String}
    (h : ¬(other = client ∧ (window.engine.count client).isUnderPressure client = false)) :
    (window.answer client).passes other = window.passes other := by
  rw [passes, answer, countP_append_singleton, if_neg]
  · rfl
  · intro hnew
    simp only [Bool.and_eq_true, decide_eq_true_eq, Bool.not_eq_true'] at hnew
    exact h ⟨hnew.1.symm, hnew.2⟩

theorem totalPasses_answer
    (h : (window.engine.count client).isUnderPressure client = true) :
    (window.answer client).totalPasses = window.totalPasses := by
  rw [totalPasses, answer, countP_append_singleton, h]
  rfl

/-- Who has been told to solve a puzzle is told so again. -/
theorem Counted.lasting_answer (h : Counted limit window)
    (hclient : PuzzleEngine.normalizeClientId client = client) :
    (window.answer client).Lasting := by
  refine List.pairwise_append.2 ⟨h.lasting, List.pairwise_singleton _ _, ?_⟩
  intro earlier hearlier later hlater hsame htold
  rw [List.mem_singleton] at hlater
  subst hlater
  have heq : earlier = (client, true) := Prod.ext hsame htold
  rw [heq] at hearlier
  exact (h.isUnderPressure_iff hclient).2 (h.pressed client hearlier).append

/-- Counting a request and answering it. -/
theorem Counted.count (h : Counted limit window)
    (hclient : PuzzleEngine.normalizeClientId client = client) :
    Counted limit (window.answer client) where
  configured := h.configured
  total := h.total_answer client
  client := h.clientCount_answer client
  passes := by
    intro other
    by_cases hnew : other = client ∧ (window.engine.count client).isUnderPressure client = false
    · have hnot := mt (h.isUnderPressure_iff hclient).2 (by rw [hnew.2]; exact Bool.false_ne_true)
      rw [hnew.1]
      exact (passes_of_not_pressed hnot).1
    · rw [passes_answer hnew]
      exact h.passes other
  totalPasses := by
    cases hpass : (window.engine.count client).isUnderPressure client with
    | false =>
        have hnot := mt (h.isUnderPressure_iff hclient).2 (by rw [hpass]; exact Bool.false_ne_true)
        exact (passes_of_not_pressed hnot).2
    | true =>
        rw [totalPasses_answer hpass]
        exact h.totalPasses
  pressed := by
    intro other hmem
    rcases List.mem_append.1 hmem with hold | hnew
    · exact (h.pressed other hold).append
    · rw [List.mem_singleton, Prod.mk.injEq] at hnew
      rw [hnew.1]
      exact (h.isUnderPressure_iff hclient).1 hnew.2.symm
  lasting := h.lasting_answer hclient

/-- Calls that count nothing leave the counters alone. -/
theorem Counted.of_challenges (h : Counted limit window)
    (challenges : OrderedMap String PuzzleChallenge) :
    Counted limit { window with
      engine := { window.engine with activeChallenges := challenges } } :=
  ⟨h.configured, h.total, h.client, h.passes, h.totalPasses, h.pressed, h.lasting⟩

variable {platform : PuzzlePlatform}

/-- A request within its window is counted in it. -/
theorem step_of_not_rollsOver {clientId : String} (h : window.engine.rollsOver moment = false) :
    window.step platform (.recordRequest moment clientId) =
      window.answer (PuzzleEngine.normalizeClientId clientId) := by
  have hadvance := window.engine.advanceWindowIfNeeded_eq moment
  rw [h, if_neg Bool.false_ne_true] at hadvance
  simp only [step, PuzzleEngine.recordRequest_eq, hadvance, h]
  rfl

theorem Counted.step (h : Counted limit window) (hnonneg : limit.lt (.ofInt 0) = false)
    (hnonneg3 : (limit.mul (.ofInt 3)).lt (.ofInt 0) = false) (call : PuzzleCall) :
    Counted limit (window.step platform call) := by
  cases call with
  | recordRequest moment clientId =>
      exact (h.roll hnonneg hnonneg3).count (PuzzleEngine.normalizeClientId_idem clientId)
  | getOrCreateChallenge moment clientId =>
      obtain ⟨challenges, heq⟩ :=
        window.engine.exists_getOrCreateChallenge platform moment clientId
      have hkept := h.of_challenges challenges
      rwa [← heq] at hkept
  | verifyPuzzleSolution moment solution =>
      obtain ⟨challenges, heq⟩ :=
        window.engine.exists_verifyPuzzleSolution platform moment solution
      have hkept := h.of_challenges challenges
      rwa [← heq] at hkept

end PuzzleWindow

/-- The constructor takes no limit of zero or less. -/
theorem limit_not_negative (env : PuzzleEnv) (nowMs : ℤ) :
    (PuzzleEngine.new env nowMs).maxRequestsPerWindow.lt (.ofInt 0) = false := by
  change (numberFromEnv notPositive 6 env.requestThreshold).lt (.ofInt 0) = false
  unfold numberFromEnv
  dsimp only
  split_ifs with hrefused
  · exact JsNumber.ofInt_lt_zero (by norm_num)
  · rw [Bool.or_eq_true, not_or] at hrefused
    rw [Bool.eq_false_iff]
    intro hlt
    exact hrefused.2 (JsNumber.le_iff.2 (.inl hlt))

open PuzzleWindow in
/-- In every window of every run a client is let through at most as often as the limit says and
all clients together three times as often, as long as the limit, and three times the limit, are
numbers a counter passes; and a client told to solve a puzzle is told so from then on. -/
theorem rate_limit (platform : PuzzlePlatform) (env : PuzzleEnv) (nowMs : ℤ)
    (calls : List PuzzleCall) :
    let limit := (PuzzleEngine.new env nowMs).maxRequestsPerWindow
    Run.Throughout (step platform)
      (fun window =>
        (limit.lt (.ofInt (2 ^ 53)) = true → ∀ client, AtMost (window.passes client) limit) ∧
        ((limit.mul (.ofInt 3)).lt (.ofInt (2 ^ 53)) = true →
          AtMost window.totalPasses (limit.mul (.ofInt 3))) ∧
        window.Lasting)
      (start env nowMs) calls := by
  intro limit
  have hnonneg : limit.lt (.ofInt 0) = false := limit_not_negative env nowMs
  have hnonneg3 : (limit.mul (.ofInt 3)).lt (.ofInt 0) = false :=
    JsNumber.mul_ofInt_lt_zero (by norm_num) (by norm_num) hnonneg
  have hcounted : Run.Throughout (step platform) (Counted limit) (start env nowMs) calls :=
    Run.throughout_of_step (fun _ call h _ => h.step hnonneg hnonneg3 call)
      (counted_empty rfl rfl rfl hnonneg hnonneg3) Run.eachStep_true
  apply hcounted.mono
  intro window h
  exact ⟨fun hsmall client => atMost_of_not_lt hsmall hnonneg (h.passes client),
    fun hsmall => atMost_of_not_lt hsmall hnonneg3 h.totalPasses, h.lasting⟩

/-! ## A limit that no counter passes -/

def saturatedEnv : PuzzleEnv where
  windowMs := none
  requestThreshold := some "9007199254740992"
  ttlMs := none
  difficultyMask := none

def saturatedCall : PuzzleCall := .recordRequest ⟨fun _ => 1000, "00"⟩ "c"

open PuzzleWindow in
theorem not_pressed_saturated (window : PuzzleWindow) (client : String) :
    ¬window.Pressed (.ofInt (2 ^ 53)) client := by
  have hmax (n : ℕ) : (counterValue n).le (.ofInt (2 ^ 53)) = true := by
    apply JsNumber.le_ofInt (abs_counter_le n) (by norm_num)
    exact_mod_cast Nat.min_le_right n (2 ^ 53)
  have hthree : (JsNumber.ofInt (2 ^ 53)).le ((JsNumber.ofInt (2 ^ 53)).mul (.ofInt 3)) = true := by
    decide +kernel
  intro hpressed
  rcases hpressed with hlt | hlt
  · exact JsNumber.not_le_of_lt hlt (hmax _)
  · exact JsNumber.not_le_of_lt hlt (JsNumber.le_trans (hmax _) hthree)

/-- A window of the saturated engine that began at 1000. -/
structure Saturated (window : PuzzleWindow) : Prop where
  counted : window.Counted (.ofInt (2 ^ 53))
  start : window.engine.currentWindowStartMs = 1000
  windowMs : window.engine.windowMs = .ofInt 10000

theorem saturated_start : Saturated (.start saturatedEnv 1000) := by
  refine ⟨PuzzleWindow.counted_empty ?_ rfl rfl ?_ ?_, rfl, ?_⟩
  · change numberFromEnv notPositive 6 (some "9007199254740992") = _
    decide +kernel
  · exact JsNumber.ofInt_lt_zero (by norm_num)
  · exact JsNumber.mul_ofInt_lt_zero (by norm_num) (by norm_num)
      (JsNumber.ofInt_lt_zero (by norm_num))
  · change numberFromEnv notPositive 10000 none = _
    decide +kernel

/-- A request of its first millisecond begins no new window. -/
theorem Saturated.step_eq {window : PuzzleWindow} (h : Saturated window)
    (platform : PuzzlePlatform) : window.step platform saturatedCall = window.answer "c" := by
  have hrolls : window.engine.rollsOver ⟨fun _ => 1000, "00"⟩ = false := by
    rw [PuzzleEngine.rollsOver, h.start, h.windowMs]
    decide +kernel
  have hname : PuzzleEngine.normalizeClientId "c" = "c" := by decide
  rw [saturatedCall, PuzzleWindow.step_of_not_rollsOver hrolls, hname]

/-- It is counted and let through. -/
theorem Saturated.step {window : PuzzleWindow} (h : Saturated window) (platform : PuzzlePlatform) :
    Saturated (window.step platform saturatedCall) ∧
      (window.step platform saturatedCall).answers = window.answers ++ [("c", false)] := by
  have hname : PuzzleEngine.normalizeClientId "c" = "c" := by decide
  have hcounted := h.counted.count hname
  have hpass : (window.engine.count "c").isUnderPressure "c" = false := by
    rw [Bool.eq_false_iff]
    intro htold
    exact not_pressed_saturated _ "c" ((h.counted.isUnderPressure_iff hname).1 htold)
  rw [h.step_eq platform]
  refine ⟨⟨hcounted, h.start, h.windowMs⟩, ?_⟩
  rw [PuzzleWindow.answer, hpass]

/-- However often the client asks within its first millisecond, it is let through. -/
theorem run_saturated (platform : PuzzlePlatform) (n : ℕ) :
    Saturated (Run.run (PuzzleWindow.step platform) (.start saturatedEnv 1000)
        (List.replicate n saturatedCall)) ∧
      (Run.run (PuzzleWindow.step platform) (.start saturatedEnv 1000)
        (List.replicate n saturatedCall)).answers = List.replicate n ("c", false) := by
  induction n with
  | zero => exact ⟨saturated_start, rfl⟩
  | succ n ih =>
      obtain ⟨hkept, hanswers⟩ := ih
      obtain ⟨hnext, hone⟩ := hkept.step platform
      rw [List.replicate_succ', Run.run_append, Run.run_cons, Run.run_nil]
      refine ⟨hnext, ?_⟩
      rw [hone, hanswers, List.replicate_succ']

open PuzzleWindow in
/-- At a threshold of `2 ^ 53` the client is let through once more than that. -/
theorem rate_limit_saturates :
    ¬∃ platform, AtMost
      ((Run.run (step platform) (start saturatedEnv 1000)
        (List.replicate (2 ^ 53 + 1) saturatedCall)).passes "c")
      (PuzzleEngine.new saturatedEnv 1000).maxRequestsPerWindow := by
  intro ⟨platform, hatMost⟩
  obtain ⟨-, hanswers⟩ := run_saturated platform (2 ^ 53 + 1)
  have hlimit : (PuzzleEngine.new saturatedEnv 1000).maxRequestsPerWindow =
      .fin ⟨((2 ^ 53 : ℤ) : ℚ), isBinary64_intCast (by norm_num)⟩ := by
    rw [← JsNumber.ofInt_eq_fin (n := 2 ^ 53) (by norm_num)]
    decide +kernel
  rw [hlimit, passes, hanswers, List.countP_replicate, if_pos (by decide)] at hatMost
  change ((2 ^ 53 + 1 : ℕ) : ℚ) ≤ ((2 ^ 53 : ℤ) : ℚ) at hatMost
  norm_num at hatMost

end UniverEscrow.Security
