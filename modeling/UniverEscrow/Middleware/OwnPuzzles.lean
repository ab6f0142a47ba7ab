import UniverEscrow.Lib.Run
import UniverEscrow.Middleware.AntiDosMiddleware
import UniverEscrow.Security.HonouredPuzzles

/-!
# Whose puzzle is spent

The requester is resolved from the request and the owner of a puzzle from the solution, and
nothing compares the two.
-/

namespace UniverEscrow.Middleware

open UniverEscrow.Js UniverEscrow.Merkle UniverEscrow.Security UniverEscrow.Lib

/-- Why the gate does what it does. -/
inductive Passage where
  | unpressed
  | spent (solution : JsValue)
  | challenged (challenge : PuzzleChallenge)

def Passage.effects : Passage → List Effect
  | .unpressed => [.next]
  | .spent _ => [.next]
  | .challenged challenge => [.respond (puzzleRequired challenge)]

/-- A client under pressure whose solution does not hold. -/
def challenge (platform : PuzzlePlatform) (moment : PuzzleMoment) (engine : PuzzleEngine)
    (clientId : String) : PuzzleEngine × Passage :=
  let (engine, challenge) := engine.getOrCreateChallenge platform moment clientId
  (engine, .challenged challenge)

def passage (platform : PuzzlePlatform) (moment : PuzzleMoment) (req : GateRequest)
    (engine : PuzzleEngine) : PuzzleEngine × Passage :=
  let clientId := resolveClientId req
  match engine.recordRequest moment clientId with
  | (engine, false) => (engine, .unpressed)
  | (engine, true) =>
      match parsePuzzleSolution platform req with
      | none => challenge platform moment engine clientId
      | some solution =>
          match engine.verifyPuzzleSolution platform moment solution with
          | (engine, true) => (engine, .spent solution)
          | (engine, false) => challenge platform moment engine clientId

/-- The gate does what its passage says. -/
theorem challengeGate_eq (platform : PuzzlePlatform) (moment : PuzzleMoment) (req : GateRequest)
    (engine : PuzzleEngine) :
    challengeGate platform moment req engine =
      ((passage platform moment req engine).1, (passage platform moment req engine).2.effects) := by
  unfold challengeGate passage trySolution challenge
  dsimp only
  obtain ⟨counted, pressed⟩ := engine.recordRequest moment (resolveClientId req)
  cases pressed with
  | false => rfl
  | true =>
      cases parsePuzzleSolution platform req with
      | none => rfl
      | some solution =>
          dsimp only
          obtain ⟨tried, valid⟩ := counted.verifyPuzzleSolution platform moment solution
          cases valid <;> rfl

/-- The client that the request is counted for. -/
def requester (req : GateRequest) : String := PuzzleEngine.normalizeClientId (resolveClientId req)

/-- The engine with the challenges the gate has sent, each with the client it was sent to. -/
structure GateRun where
  engine : PuzzleEngine
  issued : List (String × PuzzleChallenge) := []

/-- A request and the moment it is handled. -/
structure GateCall where
  moment : PuzzleMoment
  req : GateRequest

namespace GateRun

def start (env : PuzzleEnv) (nowMs : ℤ) : GateRun where
  engine := .new env nowMs

def after (platform : PuzzlePlatform) (run : GateRun) (call : GateCall) :
    PuzzleEngine × Passage :=
  passage platform call.moment call.req run.engine

def step (platform : PuzzlePlatform) (run : GateRun) (call : GateCall) : GateRun where
  engine := (run.after platform call).1
  issued := match (run.after platform call).2 with
    | .challenged challenge => run.issued ++ [(requester call.req, challenge)]
    | _ => run.issued

/-- The challenge has not expired at any reading of the clock before a new one could be made. -/
def unexpired (moment : PuzzleMoment) (challenge : PuzzleChallenge) : Bool :=
  !(challenge.expiresAtMs.lt (.ofInt (moment.nowMs 0)) ||
    challenge.expiresAtMs.lt (.ofInt (moment.nowMs 1)) ||
    challenge.expiresAtMs.lt (.ofInt (moment.nowMs 2)))

/-- What is spent was issued to the requester, and no outstanding challenge of another client is
touched. -/
structure OwnPuzzles (platform : PuzzlePlatform) (run : GateRun) (call : GateCall) : Prop where
  spent : ∀ solution, (run.after platform call).2 = .spent solution →
    ∃ challenge,
      run.engine.activeChallenges.get? (PuzzleEngine.solutionKey solution) = some challenge ∧
        (requester call.req, challenge) ∈ run.issued
  others : ∀ client challenge, client ≠ requester call.req →
    run.engine.activeChallenges.get? client = some challenge →
      unexpired call.moment challenge = true →
        (run.after platform call).1.activeChallenges.get? client = some challenge

/-- The solution would be accepted. -/
def Spendable (platform : PuzzlePlatform) (run : GateRun) (moment : PuzzleMoment)
    (solution : JsValue) : Prop :=
  ∃ challenge, run.engine.Held solution challenge ∧
    PuzzleEngine.hasExpired moment challenge solution = false ∧
    run.engine.solvesPuzzle platform challenge ((solution.get "nonce").asString?.getD "") = true

/-- No window ends while another client's challenge is outstanding, and every solution that would
be accepted names the requester. -/
structure KeepsToOwn (platform : PuzzlePlatform) (run : GateRun) (call : GateCall) : Prop where
  window : run.engine.rollsOver call.moment = true →
    ∀ client challenge, client ≠ requester call.req →
      run.engine.activeChallenges.get? client = some challenge →
        unexpired call.moment challenge = false
  solution : run.engine.rollsOver call.moment = false →
    (run.engine.recordRequest call.moment (resolveClientId call.req)).2 = true →
      ∀ solution, parsePuzzleSolution platform call.req = some solution →
        run.Spendable platform call.moment solution →
          PuzzleEngine.solutionKey solution = requester call.req

/-! ## What the engine's operations leave in the map -/

variable {platform : PuzzlePlatform} {moment : PuzzleMoment} {engine : PuzzleEngine}
  {client clientId : String} {kept : PuzzleChallenge}

theorem get?_recordRequest
    (h : (engine.recordRequest moment clientId).1.activeChallenges.get? client = some kept) :
    engine.activeChallenges.get? client = some kept := by
  rw [PuzzleEngine.activeChallenges_recordRequest] at h
  split_ifs at h
  · cases h
  · exact h

theorem get?_verifyPuzzleSolution {solution : JsValue}
    (h : (engine.verifyPuzzleSolution platform moment solution).1.activeChallenges.get? client =
      some kept) : engine.activeChallenges.get? client = some kept := by
  by_cases hheld : ∃ challenge, engine.Held solution challenge
  · obtain ⟨challenge, hheld⟩ := hheld
    have hdrop (h : (engine.dropChallenge (PuzzleEngine.solutionKey solution)).activeChallenges.get?
        client = some kept) : engine.activeChallenges.get? client = some kept := by
      rw [PuzzleEngine.dropChallenge, OrderedMap.get?_erase] at h
      split_ifs at h
      exact h
    rw [PuzzleEngine.verifyPuzzleSolution_of_held hheld] at h
    split_ifs at h
    · exact hdrop h
    · exact hdrop h
    · exact h
  · rwa [PuzzleEngine.verifyPuzzleSolution_of_not_held (not_exists.1 hheld)] at h

/-- A challenge for one client leaves those of the others. -/
theorem get?_challenge (hclient : client ≠ PuzzleEngine.normalizeClientId clientId) :
    (challenge platform moment engine clientId).1.activeChallenges.get? client =
      engine.activeChallenges.get? client := by
  unfold challenge
  dsimp only
  rcases engine.getOrCreateChallenge_cases platform moment clientId with
    ⟨existing, -, -, heq⟩ | ⟨-, heq⟩
  · rw [heq]
  · rw [heq]
    change (OrderedMap.set _ _ _).get? client = _
    rw [OrderedMap.get?_set, if_neg hclient]

/-! ## Where the stored challenges come from -/

/-- Challenges are stored under their own clients, to whom they were sent. -/
structure Traced (engine : PuzzleEngine) (issued : List (String × PuzzleChallenge)) : Prop where
  keyed : engine.Keyed
  stored : ∀ client challenge, engine.activeChallenges.get? client = some challenge →
    (client, challenge) ∈ issued
  named : ∀ client challenge, (client, challenge) ∈ issued → challenge.clientId = client

variable {issued : List (String × PuzzleChallenge)} {run : GateRun} {call : GateCall}

theorem Traced.recordRequest (h : Traced engine issued) :
    Traced (engine.recordRequest moment clientId).1 issued where
  keyed := h.keyed.of_subset fun _ _ => get?_recordRequest
  stored := fun client challenge hget => h.stored client challenge (get?_recordRequest hget)
  named := h.named

theorem Traced.verifyPuzzleSolution (h : Traced engine issued) {solution : JsValue} :
    Traced (engine.verifyPuzzleSolution platform moment solution).1 issued where
  keyed := h.keyed.of_subset fun _ _ => get?_verifyPuzzleSolution
  stored := fun client challenge hget => h.stored client challenge (get?_verifyPuzzleSolution hget)
  named := h.named

theorem Traced.challenge (h : Traced engine issued) (platform : PuzzlePlatform)
    (moment : PuzzleMoment) (clientId : String) :
    ∃ sent, (challenge platform moment engine clientId).2 = .challenged sent ∧
      Traced (challenge platform moment engine clientId).1
        (issued ++ [(PuzzleEngine.normalizeClientId clientId, sent)]) := by
  have hkeyed := h.keyed.call platform (.getOrCreateChallenge moment clientId)
  have hactive : (engine.getOrCreateChallenge platform moment clientId).1.activeChallenges.get?
      (PuzzleEngine.normalizeClientId clientId) =
        some (engine.getOrCreateChallenge platform moment clientId).2 :=
    PuzzleEngine.getOrCreateChallenge_active
  refine ⟨(engine.getOrCreateChallenge platform moment clientId).2, rfl, hkeyed, ?_, ?_⟩
  · intro client other hget
    by_cases hclient : client = PuzzleEngine.normalizeClientId clientId
    · subst hclient
      have hsame : other = (engine.getOrCreateChallenge platform moment clientId).2 :=
        Option.some.inj (hget.symm.trans hactive)
      rw [hsame]
      exact List.mem_append_right _ (List.mem_singleton_self _)
    · rw [get?_challenge hclient] at hget
      exact List.mem_append_left _ (h.stored client other hget)
  · intro client other hmem
    rcases List.mem_append.1 hmem with hold | hnew
    · exact h.named client other hold
    · rw [List.mem_singleton, Prod.mk.injEq] at hnew
      rw [hnew.1, hnew.2]
      exact (hkeyed _ _ hactive).1

/-! ## One request -/

/-- The engine once the request is counted. -/
def counted (run : GateRun) (call : GateCall) : PuzzleEngine :=
  (run.engine.recordRequest call.moment (resolveClientId call.req)).1

/-- The client is under pressure. -/
def Pressed (run : GateRun) (call : GateCall) : Prop :=
  (run.engine.recordRequest call.moment (resolveClientId call.req)).2 = true

/-- A request passes unpressed, or with its solution, or else it gets a challenge. -/
theorem after_cases (platform : PuzzlePlatform) (run : GateRun) (call : GateCall) :
    run.after platform call = (run.counted call, .unpressed) ∨
    (run.Pressed call ∧ ∃ solution, parsePuzzleSolution platform call.req = some solution ∧
      ((run.counted call).verifyPuzzleSolution platform call.moment solution).2 = true ∧
      run.after platform call =
        (((run.counted call).verifyPuzzleSolution platform call.moment solution).1,
          .spent solution)) ∨
    ∃ engine, (engine = run.counted call ∨
        ∃ solution, parsePuzzleSolution platform call.req = some solution ∧ run.Pressed call ∧
          engine = ((run.counted call).verifyPuzzleSolution platform call.moment solution).1) ∧
      run.after platform call =
        challenge platform call.moment engine (resolveClientId call.req) := by
  unfold after passage counted Pressed
  dsimp only
  cases hcounted : run.engine.recordRequest call.moment (resolveClientId call.req) with
  | mk counted pressed =>
      cases pressed with
      | false => exact .inl rfl
      | true =>
          cases hsolution : parsePuzzleSolution platform call.req with
          | none => exact .inr (.inr ⟨counted, .inl rfl, rfl⟩)
          | some solution =>
              dsimp only
              cases hverify : counted.verifyPuzzleSolution platform call.moment solution with
              | mk tried valid =>
                  cases valid with
                  | true =>
                      refine .inr (.inl ⟨rfl, solution, rfl, ?_⟩)
                      rw [hverify]
                      exact ⟨rfl, rfl⟩
                  | false =>
                      refine .inr (.inr ⟨tried, .inr ⟨solution, rfl, rfl, ?_⟩, rfl⟩)
                      rw [hverify]

theorem Traced.step (h : Traced run.engine run.issued) :
    Traced (run.step platform call).engine (run.step platform call).issued := by
  have hcounted : Traced (run.counted call) run.issued := h.recordRequest
  unfold GateRun.step
  rcases run.after_cases platform call with
    hfree | ⟨-, solution, -, -, hspent⟩ | ⟨engine, hengine, hchallenged⟩
  · rw [hfree]
    exact hcounted
  · rw [hspent]
    exact hcounted.verifyPuzzleSolution
  · rw [hchallenged]
    have htried : Traced engine run.issued := by
      rcases hengine with rfl | ⟨solution, -, -, rfl⟩
      · exact hcounted
      · exact hcounted.verifyPuzzleSolution
    obtain ⟨sent, hsent, htraced⟩ := htried.challenge platform call.moment
      (resolveClientId call.req)
    dsimp only
    rw [hsent]
    exact htraced

theorem activeChallenges_counted :
    (run.counted call).activeChallenges =
      if run.engine.rollsOver call.moment then .empty else run.engine.activeChallenges :=
  PuzzleEngine.activeChallenges_recordRequest

/-- Unless a window ends, counting a request changes nothing a solution is held against. -/
theorem held_counted {solution : JsValue} {held : PuzzleChallenge}
    (h : (run.counted call).Held solution held) :
    run.engine.rollsOver call.moment = false ∧ run.engine.Held solution held := by
  have hstored := h.stored
  rw [activeChallenges_counted] at hstored
  cases hrolls : run.engine.rollsOver call.moment with
  | true =>
      rw [if_pos hrolls] at hstored
      cases hstored
  | false => exact ⟨rfl, h.valid, get?_recordRequest h.stored, h.repeats⟩

theorem solvesPuzzle_counted (held : PuzzleChallenge) (nonce : String) :
    (run.counted call).solvesPuzzle platform held nonce =
      run.engine.solvesPuzzle platform held nonce := by
  unfold PuzzleEngine.solvesPuzzle
  rw [counted, (run.engine.config_recordRequest _ _).2.2]

/-- What is accepted could be spent before the request. -/
theorem spendable_of_accepted {solution : JsValue}
    (h : ((run.counted call).verifyPuzzleSolution platform call.moment solution).2 = true) :
    run.engine.rollsOver call.moment = false ∧
      run.Spendable platform call.moment solution := by
  by_cases hheld : ∃ held, (run.counted call).Held solution held
  · obtain ⟨held, hheld⟩ := hheld
    obtain ⟨hrolls, hbefore⟩ := held_counted hheld
    refine ⟨hrolls, held, hbefore, ?_⟩
    rw [PuzzleEngine.verifyPuzzleSolution_of_held hheld] at h
    split_ifs at h with hexpired hsolves
    exact ⟨Bool.eq_false_iff.2 hexpired, by rwa [solvesPuzzle_counted] at hsolves⟩
  · rw [PuzzleEngine.verifyPuzzleSolution_of_not_held (not_exists.1 hheld)] at h
    cases h

/-- Trying a solution leaves every unexpired challenge but the one it spends. -/
theorem get?_tried {solution : JsValue} {held : PuzzleChallenge}
    (hstored : engine.activeChallenges.get? client = some held)
    (hunexpired : unexpired moment held = true)
    (hspent : (engine.verifyPuzzleSolution platform moment solution).2 = true →
      PuzzleEngine.solutionKey solution ≠ client) :
    (engine.verifyPuzzleSolution platform moment solution).1.activeChallenges.get? client =
      some held := by
  by_cases hheld : ∃ challenge, engine.Held solution challenge
  · obtain ⟨tried, hheld⟩ := hheld
    have hdrop (hother : PuzzleEngine.solutionKey solution ≠ client) :
        (engine.dropChallenge (PuzzleEngine.solutionKey solution)).activeChallenges.get? client =
          some held := by
      rw [PuzzleEngine.dropChallenge, OrderedMap.get?_erase, if_neg hother.symm, hstored]
    rw [PuzzleEngine.verifyPuzzleSolution_of_held hheld] at hspent ⊢
    split_ifs at hspent ⊢ with hexpired hsolves
    · apply hdrop
      rintro rfl
      -- only an expired challenge is dropped unsolved
      have hsame : tried = held := Option.some.inj (hheld.stored.symm.trans hstored)
      subst hsame
      rw [hasExpired_eq hheld.repeats] at hexpired
      simp only [unexpired, Bool.not_eq_true', Bool.or_eq_false_iff] at hunexpired
      rw [hunexpired.1.2, hunexpired.2] at hexpired
      cases hexpired
    · exact hdrop (hspent rfl)
    · exact hstored
  · rwa [PuzzleEngine.verifyPuzzleSolution_of_not_held (not_exists.1 hheld)]

theorem after_of_accepted {solution : JsValue} (hpressed : run.Pressed call)
    (hsolution : parsePuzzleSolution platform call.req = some solution)
    (hvalid : ((run.counted call).verifyPuzzleSolution platform call.moment solution).2 = true) :
    (run.after platform call).2 = .spent solution := by
  unfold after passage
  unfold counted at hvalid
  unfold Pressed at hpressed
  dsimp only
  cases hcounted : run.engine.recordRequest call.moment (resolveClientId call.req) with
  | mk counted pressed =>
      rw [hcounted] at hpressed hvalid
      cases hpressed
      dsimp only at hvalid ⊢
      rw [hsolution]
      dsimp only
      cases hverify : counted.verifyPuzzleSolution platform call.moment solution with
      | mk tried valid =>
          rw [hverify] at hvalid
          cases hvalid
          rfl

/-- What can be spent is accepted, unless a window ends first. -/
theorem accepted_of_spendable {solution : JsValue}
    (hrolls : run.engine.rollsOver call.moment = false)
    (hspendable : run.Spendable platform call.moment solution) :
    ((run.counted call).verifyPuzzleSolution platform call.moment solution).2 = true := by
  obtain ⟨held, hheld, hexpired, hsolves⟩ := hspendable
  have hcounted : (run.counted call).Held solution held := by
    refine ⟨hheld.valid, ?_, hheld.repeats⟩
    rw [activeChallenges_counted, hrolls]
    exact hheld.stored
  rw [PuzzleEngine.verifyPuzzleSolution_of_held hcounted, hexpired, solvesPuzzle_counted, hsolves]
  rfl

/-- The challenges of others are those from before the request. -/
theorem get?_after (hclient : client ≠ requester call.req)
    (h : (run.after platform call).1.activeChallenges.get? client = some kept) :
    (run.counted call).activeChallenges.get? client = some kept := by
  rcases run.after_cases platform call with
    hfree | ⟨-, solution, -, -, hspent⟩ | ⟨engine, hengine, hchallenged⟩
  · rwa [hfree] at h
  · rw [hspent] at h
    exact get?_verifyPuzzleSolution h
  · rw [hchallenged, get?_challenge hclient] at h
    rcases hengine with rfl | ⟨solution, -, -, rfl⟩
    · exact h
    · exact get?_verifyPuzzleSolution h

theorem KeepsToOwn.spent (h : KeepsToOwn platform run call) {solution : JsValue}
    (hpressed : run.Pressed call)
    (hsolution : parsePuzzleSolution platform call.req = some solution)
    (hvalid : ((run.counted call).verifyPuzzleSolution platform call.moment solution).2 = true) :
    PuzzleEngine.solutionKey solution = requester call.req := by
  obtain ⟨hrolls, hspendable⟩ := spendable_of_accepted hvalid
  exact h.solution hrolls hpressed solution hsolution hspendable

theorem KeepsToOwn.ownPuzzles (h : KeepsToOwn platform run call)
    (htraced : Traced run.engine run.issued) : OwnPuzzles platform run call where
  spent := by
    intro solution hpassage
    rcases run.after_cases platform call with
      hfree | ⟨hpressed, tried, hsolution, hvalid, hspent⟩ | ⟨engine, -, hchallenged⟩
    · rw [hfree] at hpassage
      cases hpassage
    · rw [hspent] at hpassage
      cases hpassage
      obtain ⟨held, hheld, -⟩ := (spendable_of_accepted hvalid).2
      refine ⟨held, hheld.stored, ?_⟩
      rw [← h.spent hpressed hsolution hvalid]
      exact htraced.stored _ _ hheld.stored
    · rw [hchallenged] at hpassage
      cases hpassage
  others := by
    intro client held hclient hstored hunexpired
    have hcounted : (run.counted call).activeChallenges.get? client = some held := by
      rw [activeChallenges_counted]
      split_ifs with hrolls
      · have hexpired := h.window hrolls client held hclient hstored
        rw [hunexpired] at hexpired
        cases hexpired
      · exact hstored
    have htried {solution : JsValue} (hpressed : run.Pressed call)
        (hsolution : parsePuzzleSolution platform call.req = some solution) :
        ((run.counted call).verifyPuzzleSolution platform call.moment
          solution).1.activeChallenges.get? client = some held := by
      apply get?_tried hcounted hunexpired
      intro hvalid
      rw [h.spent hpressed hsolution hvalid]
      exact hclient.symm
    rcases run.after_cases platform call with
      hfree | ⟨hpressed, solution, hsolution, -, hspent⟩ | ⟨engine, hengine, hchallenged⟩
    · rw [hfree]
      exact hcounted
    · rw [hspent]
      exact htried hpressed hsolution
    · rw [hchallenged, get?_challenge hclient]
      rcases hengine with rfl | ⟨solution, hsolution, hpressed, rfl⟩
      · exact hcounted
      · exact htried hpressed hsolution

theorem OwnPuzzles.keepsToOwn (h : OwnPuzzles platform run call)
    (htraced : Traced run.engine run.issued) : KeepsToOwn platform run call where
  window := by
    intro hrolls client held hclient hstored
    rw [Bool.eq_false_iff]
    intro hunexpired
    have hafter := get?_after hclient (h.others client held hclient hstored hunexpired)
    rw [activeChallenges_counted, if_pos hrolls] at hafter
    cases hafter
  solution := by
    intro hrolls hpressed solution hsolution hspendable
    obtain ⟨held, hstored, hissued⟩ := h.spent solution
      (after_of_accepted hpressed hsolution (accepted_of_spendable hrolls hspendable))
    rw [← (htraced.keyed _ _ hstored).1]
    exact htraced.named _ _ hissued

theorem traced_start (env : PuzzleEnv) (nowMs : ℤ) :
    Traced (start env nowMs).engine (start env nowMs).issued where
  keyed := fun _ _ hget => by cases hget
  stored := fun _ _ hget => by cases hget
  named := fun _ _ hmem => by cases hmem

/-- In every run of requests through the gate each of them keeps to its own puzzles exactly as
long as no window ends under another client's outstanding challenge and every solution that would
be accepted names the requester. -/
theorem ownPuzzles_iff (platform : PuzzlePlatform) (env : PuzzleEnv) (nowMs : ℤ)
    (calls : List GateCall) :
    Run.EachStep (step platform) (OwnPuzzles platform) (start env nowMs) calls ↔
      Run.EachStep (step platform) (KeepsToOwn platform) (start env nowMs) calls := by
  have hstep (run : GateRun) (call : GateCall) (h : Traced run.engine run.issued) :
      Traced (run.step platform call).engine (run.step platform call).issued := h.step
  constructor
  · exact Run.eachStep_of_invariant (fun run => Traced run.engine run.issued) hstep
      (fun _ _ htraced hown => hown.keepsToOwn htraced) (traced_start env nowMs)
  · exact Run.eachStep_of_invariant (fun run => Traced run.engine run.issued) hstep
      (fun _ _ htraced hkeeps => hkeeps.ownPuzzles htraced) (traced_start env nowMs)

end GateRun

/-! ## A stranger's solution -/

/-- The text that a browser would send. -/
def solutionText : String :=
  "\x7b\"clientId\":\"c\",\"serverSeed\":\"00112233445566778899aabbccddeeff\"," ++
  "\"timestampMs\":1000,\"expiresAtMs\":31000,\"difficultyMask\":\"0x0000ffff\"," ++
  "\"challengeHash\":\"bd2601644a2ac1f5f13669407d58c70db841b111777a93844b6804bdddf96592\"," ++
  "\"nonce\":\"23095\"\x7d"

/-- `JSON.parse` on that text. -/
def gatePlatform : PuzzlePlatform :=
  { puzzlePlatform with
    jsonParse := fun text => if text = solutionText then some sampleSolution else none }

def strictEnv : PuzzleEnv := { defaultEnv with requestThreshold := some "1" }

def requestOf (client : String) (nowMs : ℤ) (solution : Option String) : GateCall where
  moment := sampleMoment nowMs
  req :=
    { clientIdHeader := some client
      puzzleSolutionHeader := solution
      ip := none
      body := .undefined }

/-- The second request of `c` is given a puzzle.  The second request of `d` passes with its
solution and leaves `c` without a challenge; and so does any request of `d` ten seconds after the
window began. -/
theorem ownPuzzles_violated :
    ¬Run.EachStep (GateRun.step gatePlatform) (GateRun.OwnPuzzles gatePlatform)
        (.start strictEnv 0)
        [requestOf "c" 1000 none, requestOf "c" 1000 none, requestOf "d" 2000 none,
          requestOf "d" 3000 (some solutionText)] ∧
      ¬Run.EachStep (GateRun.step gatePlatform) (GateRun.OwnPuzzles gatePlatform)
        (.start strictEnv 0)
        [requestOf "c" 1000 none, requestOf "c" 1000 none, requestOf "d" 10000 none] := by
  constructor
  · intro h
    have hkept := h.2.2.2.1.others "c" sampleChallenge (by decide +kernel) (by decide +kernel)
      (by decide +kernel)
    exact absurd hkept (by decide +kernel)
  · intro h
    have hkept := h.2.2.1.others "c" sampleChallenge (by decide +kernel) (by decide +kernel)
      (by decide +kernel)
    exact absurd hkept (by decide +kernel)

end UniverEscrow.Middleware
