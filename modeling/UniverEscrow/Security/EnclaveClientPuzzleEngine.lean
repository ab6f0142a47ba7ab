import UniverEscrow.Js.OrderedMap
import UniverEscrow.Merkle.Sha256
import Mathlib.Data.List.DropRight

/-!
# EnclaveClientPuzzleEngine

The engine counts the requests of a window and hands a client under pressure a puzzle.  The
hash, `JSON.parse` and the hexadecimal text of a Number are the platform's.
-/

namespace UniverEscrow.Security

open UniverEscrow.Js UniverEscrow.Merkle

structure PuzzlePlatform where
  sha256 : Sha256
  /-- `n.toString(16)`, whose text the language leaves open for fractions. -/
  hexText : JsNumber → String
  /-- `JSON.parse`; `none` where it throws. -/
  jsonParse : String → Option JsValue

/-- The clock readings of one request, and the seed of a challenge it creates. -/
structure PuzzleMoment where
  nowMs : ℕ → ℤ
  serverSeed : String

structure PuzzleChallenge where
  clientId : String
  serverSeed : String
  timestampMs : ℤ
  expiresAtMs : JsNumber
  difficultyMask : String
  challengeHash : String

structure PuzzleEngine where
  windowMs : JsNumber
  maxRequestsPerWindow : JsNumber
  challengeTtlMs : JsNumber
  difficultyMaskValue : JsNumber
  currentWindowStartMs : ℤ
  totalRequestsThisWindow : JsNumber
  windowCounts : OrderedMap String JsNumber
  activeChallenges : OrderedMap String PuzzleChallenge

/-- The environment variables of the engine. -/
structure PuzzleEnv where
  windowMs : Option String
  requestThreshold : Option String
  ttlMs : Option String
  difficultyMask : Option String

/-- `Number(text ?? fallback)`, or the fallback if the number is not finite or refused. -/
def numberFromEnv (refused : JsNumber → Bool) (fallback : ℤ) (text : Option String) : JsNumber :=
  let n := (text.map stringToNumber).getD (.ofInt fallback)
  if !n.isFinite || refused n then .ofInt fallback else n

def notPositive (n : JsNumber) : Bool := n.le (.ofInt 0)

def negative (n : JsNumber) : Bool := n.lt (.ofInt 0)

namespace PuzzleEngine

/-- The constructor, at the given time. -/
def new (env : PuzzleEnv) (nowMs : ℤ) : PuzzleEngine where
  windowMs := numberFromEnv notPositive 10000 env.windowMs
  maxRequestsPerWindow := numberFromEnv notPositive 6 env.requestThreshold
  challengeTtlMs := numberFromEnv notPositive 30000 env.ttlMs
  difficultyMaskValue := numberFromEnv negative 65535 env.difficultyMask
  currentWindowStartMs := nowMs
  totalRequestsThisWindow := .ofInt 0
  windowCounts := .empty
  activeChallenges := .empty

def normalizeClientId (clientId : String) : String :=
  let candidate := jsTrim clientId
  if candidate = "" then "anonymous" else candidate

theorem trimChars_trimChars (cs : List Char) : trimChars (trimChars cs) = trimChars cs := by
  have htrim (cs : List Char) : trimChars cs = (cs.dropWhile isJsSpace).rdropWhile isJsSpace := rfl
  have hstart : (trimChars cs).dropWhile isJsSpace = trimChars cs := by
    rw [htrim, List.dropWhile_eq_self_iff]
    intro hlength
    have hinit := List.rdropWhile_prefix isJsSpace (cs.dropWhile isJsSpace)
    rw [hinit.getElem hlength]
    exact List.dropWhile_get_zero_not isJsSpace cs (hlength.trans_le hinit.length_le)
  rw [htrim, hstart, htrim, List.rdropWhile_idempotent]

theorem jsTrim_jsTrim (s : String) : jsTrim (jsTrim s) = jsTrim s := by
  rw [jsTrim, jsTrim, String.toList_ofList, trimChars_trimChars]

theorem normalizeClientId_idem (clientId : String) :
    normalizeClientId (normalizeClientId clientId) = normalizeClientId clientId := by
  unfold normalizeClientId
  dsimp only
  by_cases hempty : jsTrim clientId = ""
  · rw [if_pos hempty]
    decide
  · rw [if_neg hempty, jsTrim_jsTrim, if_neg hempty]

/-! ## Counting -/

def advanceWindowIfNeeded (nowMs : ℤ) (engine : PuzzleEngine) : PuzzleEngine :=
  if (JsNumber.ofInt (nowMs - engine.currentWindowStartMs)).lt engine.windowMs then engine
  else
    { engine with currentWindowStartMs := nowMs, totalRequestsThisWindow := .ofInt 0,
                  windowCounts := .empty, activeChallenges := .empty }

def isUnderPressure (engine : PuzzleEngine) (clientId : String) : Bool :=
  let clientCount := (engine.windowCounts.get? (normalizeClientId clientId)).getD (.ofInt 0)
  let globalThreshold := engine.maxRequestsPerWindow.mul (.ofInt 3)
  engine.maxRequestsPerWindow.lt clientCount || globalThreshold.lt engine.totalRequestsThisWindow

/-- The engine after the request, and whether the client has to solve a puzzle. -/
def recordRequest (moment : PuzzleMoment) (engine : PuzzleEngine) (clientId : String) :
    PuzzleEngine × Bool :=
  let normalizedClientId := normalizeClientId clientId
  let engine := engine.advanceWindowIfNeeded (moment.nowMs 0)
  let currentCount := (engine.windowCounts.get? normalizedClientId).getD (.ofInt 0)
  let engine :=
    { engine with
      totalRequestsThisWindow := engine.totalRequestsThisWindow.add (.ofInt 1)
      windowCounts := engine.windowCounts.set normalizedClientId (currentCount.add (.ofInt 1)) }
  (engine, engine.isUnderPressure normalizedClientId)

/-! ## Challenges -/

/-- `text.padStart(8, '0')`. -/
def padStart8 (text : String) : String :=
  String.ofList (List.replicate (8 - JsValue.utf16Length text) '0') ++ text

def difficultyMaskHex (platform : PuzzlePlatform) (engine : PuzzleEngine) : String :=
  "0x" ++ padStart8 (platform.hexText engine.difficultyMaskValue)

def createChallenge (platform : PuzzlePlatform) (moment : PuzzleMoment) (engine : PuzzleEngine)
    (clientId : String) : PuzzleChallenge where
  clientId := clientId
  serverSeed := moment.serverSeed
  timestampMs := moment.nowMs 4
  expiresAtMs := (JsNumber.ofInt (moment.nowMs 4)).add engine.challengeTtlMs
  difficultyMask := engine.difficultyMaskHex platform
  challengeHash := sha256Hex platform.sha256
    (moment.serverSeed ++ clientId ++ (JsNumber.ofInt (moment.nowMs 4)).toText)

@[simp] theorem createChallenge_clientId (platform : PuzzlePlatform) (moment : PuzzleMoment)
    (engine : PuzzleEngine) (clientId : String) :
    (engine.createChallenge platform moment clientId).clientId = clientId := rfl

@[simp] theorem createChallenge_serverSeed (platform : PuzzlePlatform) (moment : PuzzleMoment)
    (engine : PuzzleEngine) (clientId : String) :
    (engine.createChallenge platform moment clientId).serverSeed = moment.serverSeed := rfl

/-- The challenge of the client that has not expired. -/
def currentChallenge? (moment : PuzzleMoment) (engine : PuzzleEngine)
    (normalizedClientId : String) : Option PuzzleChallenge :=
  (engine.activeChallenges.get? normalizedClientId).filter fun existing =>
    (JsNumber.ofInt (moment.nowMs 3)).lt existing.expiresAtMs

def getOrCreateChallenge (platform : PuzzlePlatform) (moment : PuzzleMoment)
    (engine : PuzzleEngine) (clientId : String) : PuzzleEngine × PuzzleChallenge :=
  let normalizedClientId := normalizeClientId clientId
  match engine.currentChallenge? moment normalizedClientId with
  | some existing => (engine, existing)
  | none =>
      let challenge := engine.createChallenge platform moment normalizedClientId
      ({ engine with
         activeChallenges := engine.activeChallenges.set normalizedClientId challenge },
        challenge)

/-! ## Solutions -/

/-- ToInt32, as the 32 bits it keeps. -/
def toInt32 : JsNumber → BitVec 32
  | .fin x => BitVec.ofInt 32 (if 0 ≤ x.val then ⌊x.val⌋ else ⌈x.val⌉)
  | _ => 0

def isValidPuzzleSolution (candidate : JsValue) : Bool :=
  candidate.isObject && (candidate.get "clientId").asString?.isSome &&
    (candidate.get "serverSeed").asString?.isSome &&
    (candidate.get "timestampMs").asNumber?.isSome &&
    (candidate.get "expiresAtMs").asNumber?.isSome &&
    (candidate.get "difficultyMask").asString?.isSome &&
    (candidate.get "challengeHash").asString?.isSome && (candidate.get "nonce").asString?.isSome

/-- The solution repeats the fields of the challenge. -/
def repeatsChallenge (challenge : PuzzleChallenge) (solution : JsValue) : Bool :=
  (solution.get "challengeHash").isStr challenge.challengeHash &&
    (solution.get "serverSeed").isStr challenge.serverSeed &&
    (solution.get "timestampMs").isNum (.ofInt challenge.timestampMs) &&
    (solution.get "expiresAtMs").isNum challenge.expiresAtMs &&
    (solution.get "difficultyMask").isStr challenge.difficultyMask

/-- `digest.readUInt32BE(0)`. -/
def leadingBits (digest : HexDigest) : BitVec 32 :=
  BitVec.ofNat 32 (digitsValue 16 (digest.text.toList.take 8))

def solvesPuzzle (platform : PuzzlePlatform) (engine : PuzzleEngine)
    (challenge : PuzzleChallenge) (nonce : String) : Bool :=
  leadingBits (platform.sha256 (challenge.challengeHash ++ nonce)) &&&
    toInt32 engine.difficultyMaskValue = 0

def dropChallenge (engine : PuzzleEngine) (normalizedClientId : String) : PuzzleEngine :=
  { engine with activeChallenges := engine.activeChallenges.erase normalizedClientId }

def hasExpired (moment : PuzzleMoment) (challenge : PuzzleChallenge) (solution : JsValue) : Bool :=
  challenge.expiresAtMs.lt (.ofInt (moment.nowMs 1)) ||
    match solution.get "expiresAtMs" with
    | .num expiresAtMs => expiresAtMs.lt (.ofInt (moment.nowMs 2))
    | _ => false

def verifyPuzzleSolution (platform : PuzzlePlatform) (moment : PuzzleMoment)
    (engine : PuzzleEngine) (solution : JsValue) : PuzzleEngine × Bool :=
  if !isValidPuzzleSolution solution then (engine, false)
  else
    let normalizedClientId :=
      normalizeClientId ((solution.get "clientId").asString?.getD "")
    match engine.activeChallenges.get? normalizedClientId with
    | none => (engine, false)
    | some challenge =>
        if !repeatsChallenge challenge solution then (engine, false)
        else if hasExpired moment challenge solution then
          (engine.dropChallenge normalizedClientId, false)
        else if engine.solvesPuzzle platform challenge
            ((solution.get "nonce").asString?.getD "") then
          (engine.dropChallenge normalizedClientId, true)
        else (engine, false)

end PuzzleEngine

/-- A call of the engine, at the moment it is made. -/
inductive PuzzleCall where
  | recordRequest (moment : PuzzleMoment) (clientId : String)
  | getOrCreateChallenge (moment : PuzzleMoment) (clientId : String)
  | verifyPuzzleSolution (moment : PuzzleMoment) (solution : JsValue)

namespace PuzzleEngine

/-- The engine after a call. -/
def call (platform : PuzzlePlatform) (engine : PuzzleEngine) : PuzzleCall → PuzzleEngine
  | .recordRequest moment clientId => (engine.recordRequest moment clientId).1
  | .getOrCreateChallenge moment clientId =>
      (engine.getOrCreateChallenge platform moment clientId).1
  | .verifyPuzzleSolution moment solution =>
      (engine.verifyPuzzleSolution platform moment solution).1

/-- Whether a request begins a new window. -/
def rollsOver (engine : PuzzleEngine) (moment : PuzzleMoment) : Bool :=
  !(JsNumber.ofInt (moment.nowMs 0 - engine.currentWindowStartMs)).lt engine.windowMs

variable {platform : PuzzlePlatform} {moment : PuzzleMoment} {engine engine' : PuzzleEngine}
  {solution : JsValue}

/-- The key the challenge of a solution is kept under. -/
def solutionKey (solution : JsValue) : String :=
  normalizeClientId ((solution.get "clientId").asString?.getD "")

/-- The solution is well formed and repeats the challenge stored under its client. -/
structure Held (engine : PuzzleEngine) (solution : JsValue) (challenge : PuzzleChallenge) :
    Prop where
  valid : isValidPuzzleSolution solution = true
  stored : engine.activeChallenges.get? (solutionKey solution) = some challenge
  repeats : repeatsChallenge challenge solution = true

/-- A solution that is held against a challenge takes it along when it has expired or is
solved. -/
theorem verifyPuzzleSolution_of_held {challenge : PuzzleChallenge}
    (h : engine.Held solution challenge) :
    engine.verifyPuzzleSolution platform moment solution =
      if hasExpired moment challenge solution then
        (engine.dropChallenge (solutionKey solution), false)
      else if engine.solvesPuzzle platform challenge
          ((solution.get "nonce").asString?.getD "") then
        (engine.dropChallenge (solutionKey solution), true)
      else (engine, false) := by
  have hstored := h.stored
  unfold solutionKey at hstored
  unfold verifyPuzzleSolution
  simp only [h.valid, hstored, h.repeats, Bool.not_true, Bool.false_eq_true, if_false]
  rfl

theorem verifyPuzzleSolution_of_not_held (h : ∀ challenge, ¬engine.Held solution challenge) :
    engine.verifyPuzzleSolution platform moment solution = (engine, false) := by
  unfold verifyPuzzleSolution
  dsimp only
  cases hvalid : isValidPuzzleSolution solution with
  | false => rfl
  | true =>
      cases hstored : engine.activeChallenges.get? (solutionKey solution) with
      | none =>
          unfold solutionKey at hstored
          rw [hstored]
          rfl
      | some challenge =>
          have hrepeats : repeatsChallenge challenge solution = false := by
            rw [Bool.eq_false_iff]
            exact fun hrepeats => h challenge ⟨hvalid, hstored, hrepeats⟩
          unfold solutionKey at hstored
          rw [hstored]
          simp only [hrepeats]
          rfl

/-- A solution that is accepted takes its challenge with it. -/
theorem verifyPuzzleSolution_true
    (h : engine.verifyPuzzleSolution platform moment solution = (engine', true)) :
    ∃ challenge, engine.activeChallenges.get? (solutionKey solution) = some challenge ∧
      repeatsChallenge challenge solution = true ∧
      engine.solvesPuzzle platform challenge
        ((solution.get "nonce").asString?.getD "") = true ∧
      engine' = engine.dropChallenge (solutionKey solution) := by
  unfold verifyPuzzleSolution at h
  split at h
  · cases h
  · dsimp only at h
    split at h
    · cases h
    · rename_i challenge hchallenge
      split at h
      · cases h
      · rename_i hrepeats
        split at h
        · cases h
        · split at h
          · rename_i hsolves
            cases h
            exact ⟨challenge, hchallenge, by simpa using hrepeats, hsolves, rfl⟩
          · cases h

/-- No solution is accepted while its client has no challenge. -/
theorem verifyPuzzleSolution_no_challenge
    (h : engine.activeChallenges.get? (solutionKey solution) = none) :
    engine.verifyPuzzleSolution platform moment solution = (engine, false) := by
  unfold solutionKey at h
  unfold verifyPuzzleSolution
  split
  · rfl
  · simp only [h]

/-- A solution is accepted once: the engine it leaves refuses it. -/
theorem verifyPuzzleSolution_once {later : PuzzleMoment}
    (h : engine.verifyPuzzleSolution platform moment solution = (engine', true)) :
    engine'.verifyPuzzleSolution platform later solution = (engine', false) := by
  obtain ⟨challenge, -, -, -, hengine⟩ := verifyPuzzleSolution_true h
  apply verifyPuzzleSolution_no_challenge
  rw [hengine, dropChallenge, OrderedMap.get?_erase, if_pos rfl]

/-- A window that rolls over takes all challenges along. -/
theorem activeChallenges_recordRequest {clientId : String} :
    (engine.recordRequest moment clientId).1.activeChallenges =
      if engine.rollsOver moment then .empty else engine.activeChallenges := by
  have hadvance : (engine.recordRequest moment clientId).1.activeChallenges =
      (engine.advanceWindowIfNeeded (moment.nowMs 0)).activeChallenges := rfl
  rw [hadvance]
  unfold advanceWindowIfNeeded rollsOver
  cases (JsNumber.ofInt (moment.nowMs 0 - engine.currentWindowStartMs)).lt engine.windowMs <;> rfl

/-- Counting a request changes nothing of what the constructor has read. -/
theorem config_recordRequest (engine : PuzzleEngine) (moment : PuzzleMoment) (clientId : String) :
    (engine.recordRequest moment clientId).1.windowMs = engine.windowMs ∧
      (engine.recordRequest moment clientId).1.challengeTtlMs = engine.challengeTtlMs ∧
      (engine.recordRequest moment clientId).1.difficultyMaskValue =
        engine.difficultyMaskValue := by
  have hadvance : (engine.advanceWindowIfNeeded (moment.nowMs 0)).windowMs = engine.windowMs ∧
      (engine.advanceWindowIfNeeded (moment.nowMs 0)).challengeTtlMs = engine.challengeTtlMs ∧
      (engine.advanceWindowIfNeeded (moment.nowMs 0)).difficultyMaskValue =
        engine.difficultyMaskValue := by
    unfold advanceWindowIfNeeded
    split_ifs
    · exact ⟨rfl, rfl, rfl⟩
    · exact ⟨rfl, rfl, rfl⟩
  exact hadvance

/-- The client is given its current challenge, or else a new one. -/
theorem getOrCreateChallenge_cases (platform : PuzzlePlatform) (moment : PuzzleMoment)
    (engine : PuzzleEngine) (clientId : String) :
    (∃ existing, engine.activeChallenges.get? (normalizeClientId clientId) = some existing ∧
      (JsNumber.ofInt (moment.nowMs 3)).lt existing.expiresAtMs = true ∧
      engine.getOrCreateChallenge platform moment clientId = (engine, existing)) ∨
    ((∀ existing, engine.activeChallenges.get? (normalizeClientId clientId) = some existing →
        (JsNumber.ofInt (moment.nowMs 3)).lt existing.expiresAtMs = false) ∧
      engine.getOrCreateChallenge platform moment clientId =
        ({ engine with
           activeChallenges := engine.activeChallenges.set (normalizeClientId clientId)
             (engine.createChallenge platform moment (normalizeClientId clientId)) },
          engine.createChallenge platform moment (normalizeClientId clientId))) := by
  unfold getOrCreateChallenge
  dsimp only
  cases hcurrent : engine.currentChallenge? moment (normalizeClientId clientId) with
  | some existing =>
      have h := Option.filter_eq_some_iff.1 hcurrent
      exact .inl ⟨existing, h.1, h.2, rfl⟩
  | none =>
      refine .inr ⟨fun existing hexisting => ?_, rfl⟩
      rw [Bool.eq_false_iff]
      exact Option.filter_eq_none_iff.1 hcurrent existing hexisting

/-- Handing out a challenge touches nothing but the challenges. -/
theorem exists_getOrCreateChallenge (platform : PuzzlePlatform) (moment : PuzzleMoment)
    (engine : PuzzleEngine) (clientId : String) :
    ∃ challenges, (engine.getOrCreateChallenge platform moment clientId).1 =
      { engine with activeChallenges := challenges } := by
  unfold getOrCreateChallenge
  dsimp only
  split
  · exact ⟨_, rfl⟩
  · exact ⟨_, rfl⟩

/-- So does trying a solution. -/
theorem exists_verifyPuzzleSolution (platform : PuzzlePlatform) (moment : PuzzleMoment)
    (engine : PuzzleEngine) (solution : JsValue) :
    ∃ challenges, (engine.verifyPuzzleSolution platform moment solution).1 =
      { engine with activeChallenges := challenges } := by
  unfold verifyPuzzleSolution
  split
  · exact ⟨_, rfl⟩
  · dsimp only
    split
    · exact ⟨_, rfl⟩
    · split_ifs <;> exact ⟨_, rfl⟩

/-- The challenge a client is given is the one its solution is held against. -/
theorem getOrCreateChallenge_active {clientId : String} :
    (engine.getOrCreateChallenge platform moment clientId).1.activeChallenges.get?
        (normalizeClientId clientId) =
      some (engine.getOrCreateChallenge platform moment clientId).2 := by
  unfold getOrCreateChallenge
  dsimp only
  cases hcurrent : engine.currentChallenge? moment (normalizeClientId clientId) with
  | none => exact OrderedMap.get?_set_self _ _ _
  | some existing => exact (Option.filter_eq_some_iff.1 hcurrent).1

end PuzzleEngine

end UniverEscrow.Security
