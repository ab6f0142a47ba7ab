import UniverEscrow.Router.EscrowRouter
import UniverEscrow.Security.EnclaveClientPuzzleEngine

/-!
# AntiDosMiddleware

`antiDosChallengeMiddleware` takes a configuration and gives the handler to mount.  The
bootstrapper calls it; the router mounts it as it is, so that Express calls it with the request
and drops the handler it gives back.
-/

namespace UniverEscrow.Middleware

open UniverEscrow.Js UniverEscrow.Merkle UniverEscrow.Security UniverEscrow.Router

structure AntiDosConfig where
  difficulty : ℤ
  challengeExpiryMs : ℤ
  maxTokensPerClient : ℤ

/-- What the gate reads of a request. -/
structure GateRequest where
  clientIdHeader : Option String
  puzzleSolutionHeader : Option String
  ip : Option String
  body : JsValue

/-- What a handler does to the request in its hands. -/
inductive Effect where
  | next
  | respond (response : Response)

abbrev Handler := PuzzleMoment → GateRequest → PuzzleEngine → PuzzleEngine × List Effect

/-! ## The handler -/

def isBlank (s : String) : Bool := jsTrim s = ""

/-- The first that is not empty. -/
def firstNonEmpty : List String → String
  | [] => ""
  | s :: rest => if s = "" then firstNonEmpty rest else s

def explicitClientId (req : GateRequest) : String :=
  firstNonEmpty [req.clientIdHeader.getD "", (req.body.get "tenantId").asString?.getD "",
    (req.body.get "nodeId").asString?.getD "", (req.body.get "leaderId").asString?.getD ""]

def resolveClientId (req : GateRequest) : String :=
  if !isBlank (explicitClientId req) then jsTrim (explicitClientId req)
  else match req.ip.filter fun ip => !isBlank ip with
    | some ip => ip
    | none => "anonymous"

def parsePuzzleSolution (platform : PuzzlePlatform) (req : GateRequest) : Option JsValue := do
  let raw ← match req.puzzleSolutionHeader with
    | some header => some header
    | none => (req.body.get "puzzleSolution").asString?
  let payload ← if raw = "" then none else platform.jsonParse raw
  if payload.isObject then some payload else none

def puzzleRequired (challenge : PuzzleChallenge) : Response :=
  ⟨429, .obj [("status", "RATE_LIMITED"), ("error", "PUZZLE_REQUIRED"),
    ("challenge", .obj [("clientId", challenge.clientId),
      ("serverSeed", challenge.serverSeed),
      ("timestampMs", .num (.ofInt challenge.timestampMs)),
      ("expiresAtMs", .num challenge.expiresAtMs),
      ("difficultyMask", challenge.difficultyMask),
      ("challengeHash", challenge.challengeHash)])]⟩

/-- The engine after the solution of the request has been tried, and whether it holds. -/
def trySolution (platform : PuzzlePlatform) (moment : PuzzleMoment) (req : GateRequest)
    (engine : PuzzleEngine) : PuzzleEngine × Bool :=
  match parsePuzzleSolution platform req with
  | none => (engine, false)
  | some solution => engine.verifyPuzzleSolution platform moment solution

def challengeGate (platform : PuzzlePlatform) : Handler := fun moment req engine =>
  let clientId := resolveClientId req
  match engine.recordRequest moment clientId with
  | (engine, false) => (engine, [.next])
  | (engine, true) =>
      match trySolution platform moment req engine with
      | (engine, true) => (engine, [.next])
      | (engine, false) =>
          let (engine, challenge) := engine.getOrCreateChallenge platform moment clientId
          (engine, [.respond (puzzleRequired challenge)])

/-! ## Mounting -/

/-- The first argument the factory is called with. -/
inductive FactoryArgument where
  | config (config : AntiDosConfig)
  | request (req : GateRequest)

/-- The factory never reads its argument. -/
def antiDosChallengeMiddleware (platform : PuzzlePlatform) (_ : FactoryArgument) : Handler :=
  challengeGate platform

/-- A function that is mounted on a route. -/
inductive Mounted where
  | handler (handler : Handler)
  | factory (make : FactoryArgument → Handler)

/-- Express calls the function with the request, the response and `next`, and drops its value. -/
def Mounted.call (mounted : Mounted) : Handler := fun moment req engine =>
  match mounted with
  | .handler run => run moment req engine
  | .factory make =>
      let _returned := make (.request req)
      (engine, [])

/-- The routes of the router that name the gate. -/
inductive GatedRoute where
  | lock
  | verifyStateTransition
  | appendEntry

def GatedRoute.gate (platform : PuzzlePlatform) : GatedRoute → Mounted
  | .lock => .factory (antiDosChallengeMiddleware platform)
  | .verifyStateTransition => .factory (antiDosChallengeMiddleware platform)
  | .appendEntry => .factory (antiDosChallengeMiddleware platform)

/-- `configureMiddleware` mounts what the factory makes. -/
def bootstrapGate (platform : PuzzlePlatform) (antiDosDifficulty : ℤ) : Mounted :=
  .handler (antiDosChallengeMiddleware platform (.config
    { difficulty := antiDosDifficulty, challengeExpiryMs := 30000, maxTokensPerClient := 100 }))

/-- The next handler is called once, or a 429 response with a challenge is sent. -/
def Answers (effects : List Effect) : Prop :=
  effects = [.next] ∨ ∃ challenge, effects = [.respond (puzzleRequired challenge)]

variable {platform : PuzzlePlatform} {moment : PuzzleMoment} {req : GateRequest}
  {engine : PuzzleEngine}

/-- The mounted factory does nothing. -/
theorem gate_call {route : GatedRoute} :
    (route.gate platform).call moment req engine = (engine, []) := by
  cases route <;> rfl

theorem not_answers_nil : ¬ Answers [] := by
  intro h
  cases h with
  | inl hnext => cases hnext
  | inr hchallenge =>
      obtain ⟨challenge, hchallenge⟩ := hchallenge
      cases hchallenge

/-- On every route of the router, in every state of the engine, every request is left without
an answer. -/
theorem router_gate_never_answers (platform : PuzzlePlatform) (route : GatedRoute)
    (moment : PuzzleMoment) (req : GateRequest) (engine : PuzzleEngine) :
    ¬ Answers ((route.gate platform).call moment req engine).2 := by
  rw [gate_call]
  exact not_answers_nil

def samplePuzzlePlatform : PuzzlePlatform where
  sha256 := sampleSha256
  hexText := fun _ => "ffff"
  jsonParse := fun _ => none

def sampleGateRequest : GateRequest where
  clientIdHeader := none
  puzzleSolutionHeader := none
  ip := some "10.0.0.1"
  body := .obj [("tenantId", "t1")]

/-- The first request to `/lock`, on a fresh engine, is left without an answer. -/
theorem lock_gate_silent :
    ¬ Answers ((GatedRoute.lock.gate samplePuzzlePlatform).call ⟨fun _ => 1000, "00"⟩
      sampleGateRequest (.new ⟨none, none, none, none⟩ 1000)).2 := by
  rw [gate_call]
  exact not_answers_nil

/-- The handler that the factory makes always answers. -/
theorem challengeGate_answers : Answers (challengeGate platform moment req engine).2 := by
  unfold challengeGate
  dsimp only
  split
  · exact .inl rfl
  · split
    · exact .inl rfl
    · exact .inr ⟨_, rfl⟩

/-! ## Whole routes -/

/-- A node and the puzzle engine of its process. -/
structure Site where
  node : Node
  puzzles : PuzzleEngine

/-- What an effect of the gate does: `next` runs the handlers behind it. -/
def passOn (rest : Node → Node × Response) (state : Site × List Response) :
    Effect → Site × List Response
  | .next =>
      let (node, response) := rest state.1.node
      ({ state.1 with node := node }, state.2 ++ [response])
  | .respond response => (state.1, state.2 ++ [response])

/-- The site after a request to a gated route, and the responses sent. -/
def dispatch (mounted : Mounted) (rest : Node → Node × Response) (moment : PuzzleMoment)
    (req : GateRequest) (site : Site) : Site × List Response :=
  let called := mounted.call moment req site.puzzles
  called.2.foldl (passOn rest) ({ site with puzzles := called.1 }, [])

variable {rest : Node → Node × Response} {site : Site}

/-- Whatever handlers stand behind the gate of the router, they are never reached: no request
is answered, and none changes anything. -/
theorem dispatch_router_gate {route : GatedRoute} :
    dispatch (route.gate platform) rest moment req site = (site, []) := by
  unfold dispatch
  rw [gate_call]
  rfl

/-- Behind the gate of the bootstrapper every request gets one response. -/
theorem dispatch_bootstrap_gate {difficulty : ℤ} :
    ∃ response, (dispatch (bootstrapGate platform difficulty) rest moment req site).2 =
      [response] := by
  have hcall : (bootstrapGate platform difficulty).call moment req site.puzzles =
      challengeGate platform moment req site.puzzles := rfl
  have hanswers : Answers (challengeGate platform moment req site.puzzles).2 :=
    challengeGate_answers
  unfold dispatch
  dsimp only
  rw [hcall]
  cases hanswers with
  | inl hnext =>
      rw [hnext]
      exact ⟨_, rfl⟩
  | inr hchallenge =>
      obtain ⟨challenge, hchallenge⟩ := hchallenge
      rw [hchallenge]
      exact ⟨_, rfl⟩

end UniverEscrow.Middleware
