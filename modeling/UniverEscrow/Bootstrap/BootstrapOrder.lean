import UniverEscrow.Cryptography.EnclaveSealingEngine
import UniverEscrow.Lib.Run
import UniverEscrow.Lib.Subsequence

/-!
# The order of the bootstrap

The public steps of the bootstrapper assign the state without testing it.  A call ends in the
error, if any, that what it calls throws; that error is part of the call here.  A run is any
sequence of the steps, of `failClosed`, of error events of a server and of `bootstrap()`.
-/

namespace UniverEscrow.Bootstrap

open List UniverEscrow.Cryptography UniverEscrow.Lib.Run UniverEscrow.Lib.Subsequence

inductive BootstrapState where
  | notStarted
  | attestationVerified
  | sealingInitialized
  | merkleRootBuilt
  | middlewareConfigured
  | listening
  | failedClosed
deriving DecidableEq

structure EnclaveIdentity where
  pcr0 : String
  mrsigner : String
  mrenclave : String
deriving DecidableEq

structure BootstrapConfig where
  enclaveIdentity : EnclaveIdentity
  cpuMasterSecret : String
deriving DecidableEq

structure ExpressApp where
  trustProxy : Bool
deriving DecidableEq

/-- The instance, with the key buffer, the sealing context and the servers of its process. -/
structure UnifiedBootstrapper where
  config : BootstrapConfig
  state : BootstrapState
  app : Option ExpressApp
  volatileKeyBuffer : Option String
  activeSealingContext : Option EnclaveSealingConfig
  servers : ℕ
deriving DecidableEq

/-- `new UnifiedBootstrapper(config)` in a fresh process. -/
def UnifiedBootstrapper.fresh (config : BootstrapConfig) : UnifiedBootstrapper :=
  ⟨config, .notStarted, none, some "", none, 0⟩

/-- What runs on the instance and may throw. -/
abbrev Bootstrapping := ExceptT String (StateM UnifiedBootstrapper)

/-- Throws the error of what the step called, if there is one. -/
def rethrow (fault : Option String) : Bootstrapping Unit :=
  match fault with
  | none => pure ()
  | some message => throw message

def setState (state : BootstrapState) : Bootstrapping Unit :=
  modify fun b => { b with state := state }

/-! ## The steps -/

def verifyAttestation (fault : Option String) : Bootstrapping EnclaveIdentity := do
  setState .attestationVerified
  rethrow fault
  return (← get).config.enclaveIdentity

/-- The call of `initializeSealing` that throws. -/
inductive SealingFault where
  | setKeyBuffer
  | deriveKeys
  | setSealingContext
deriving DecidableEq

/-- The error, where it is the given call that throws. -/
def SealingFault.at? (here : SealingFault) (fault : Option (SealingFault × String)) :
    Option String :=
  (fault.filter fun f => f.1 = here).map Prod.snd

def BootstrapConfig.sealingConfig (config : BootstrapConfig) : EnclaveSealingConfig :=
  ⟨config.cpuMasterSecret, config.enclaveIdentity.mrsigner, config.enclaveIdentity.mrenclave⟩

def initializeSealing (fault : Option (SealingFault × String)) : Bootstrapping Unit := do
  setState .sealingInitialized
  -- `set` zeroes the buffer before it fills it
  modify fun b => { b with volatileKeyBuffer := none }
  rethrow (SealingFault.setKeyBuffer.at? fault)
  modify fun b => { b with volatileKeyBuffer := some b.config.cpuMasterSecret }
  rethrow (SealingFault.deriveKeys.at? fault)
  rethrow (SealingFault.setSealingContext.at? fault)
  modify fun b => { b with activeSealingContext := some b.config.sealingConfig }

/-- `rootHash` is what the accumulator's `getRootHash` comes to. -/
def buildMerkleRoot (rootHash : Except String String) : Bootstrapping String := do
  setState .merkleRootBuilt
  match rootHash with
  | .error message => throw message
  | .ok root => return root

def configureMiddleware (fault : Option String) : Bootstrapping Unit := do
  setState .middlewareConfigured
  rethrow fault
  modify fun b => { b with app := some ⟨false⟩ }

def failClosed (b : UnifiedBootstrapper) : UnifiedBootstrapper :=
  match b.state with
  | .failedClosed => b
  | .notStarted => { b with state := .failedClosed }
  | _ =>
      { b with state := .failedClosed, volatileKeyBuffer := none,
               app := b.app.map fun _ => ⟨false⟩ }

/-- `fault` is what `app.listen` throws; an error of the server comes as an event of its own. -/
def listen (fault : Option String) : Bootstrapping Unit := do
  if (← get).app.isNone then throw "Middleware not configured"
  setState .listening
  match fault with
  | none => modify fun b => { b with servers := b.servers + 1 }
  | some message =>
      modify failClosed
      throw message

/-- What the calls of one `bootstrap()` come to. -/
structure BootstrapFaults where
  verifyAttestation : Option String
  initializeSealing : Option (SealingFault × String)
  rootHash : Except String String
  configureMiddleware : Option String
  listen : Option String

def bootstrap (faults : BootstrapFaults) : Bootstrapping Unit :=
  tryCatch
    (do
      discard (verifyAttestation faults.verifyAttestation)
      initializeSealing faults.initializeSealing
      discard (buildMerkleRoot faults.rootHash)
      configureMiddleware faults.configureMiddleware
      listen faults.listen)
    fun message => do
      modify failClosed
      throw message

/-! ## Runs -/

inductive Action where
  | verifyAttestation (fault : Option String)
  | initializeSealing (fault : Option (SealingFault × String))
  | buildMerkleRoot (rootHash : Except String String)
  | configureMiddleware (fault : Option String)
  | listen (fault : Option String)
  | failClosed
  | serverError

/-- The listener of a server's error event calls `failClosed`. -/
def Action.perform : Action → Bootstrapping Unit
  | .verifyAttestation fault => discard (Bootstrap.verifyAttestation fault)
  | .initializeSealing fault => Bootstrap.initializeSealing fault
  | .buildMerkleRoot rootHash => discard (Bootstrap.buildMerkleRoot rootHash)
  | .configureMiddleware fault => Bootstrap.configureMiddleware fault
  | .listen fault => Bootstrap.listen fault
  | .failClosed => modify Bootstrap.failClosed
  | .serverError => modify Bootstrap.failClosed

/-- The steps that precede `listen`. -/
inductive Stage where
  | attestation
  | sealing
  | merkleRoot
  | middleware
deriving DecidableEq

def Stage.inOrder : List Stage := [.attestation, .sealing, .merkleRoot, .middleware]

def Action.stage? : Action → Option Stage
  | .verifyAttestation _ => some .attestation
  | .initializeSealing _ => some .sealing
  | .buildMerkleRoot _ => some .merkleRoot
  | .configureMiddleware _ => some .middleware
  | _ => none

/-- The instance and the stages that have succeeded on it, in the order they did. -/
structure Observed where
  bootstrapper : UnifiedBootstrapper
  succeeded : List Stage

def Observed.fresh (config : BootstrapConfig) : Observed := ⟨.fresh config, []⟩

def step (o : Observed) (action : Action) : Observed :=
  match action.perform o.bootstrapper with
  | (.ok _, b) => ⟨b, o.succeeded ++ action.stage?.toList⟩
  | (.error _, b) => ⟨b, o.succeeded⟩

/-- The call meets an error of what it calls. -/
def Action.faulty : Action → Bool
  | .verifyAttestation fault => fault.isSome
  | .initializeSealing fault => fault.isSome
  | .buildMerkleRoot rootHash => !rootHash.isOk
  | .configureMiddleware fault => fault.isSome
  | .listen fault => fault.isSome
  | .failClosed => false
  | .serverError => false

/-- The actions up to the first one that fails, which `failClosed` follows. -/
def untilFailure : List Action → List Action
  | [] => []
  | action :: rest =>
      if action.faulty then [action, .failClosed] else action :: untilFailure rest

def BootstrapFaults.actions (faults : BootstrapFaults) : List Action :=
  untilFailure [.verifyAttestation faults.verifyAttestation,
    .initializeSealing faults.initializeSealing, .buildMerkleRoot faults.rootHash,
    .configureMiddleware faults.configureMiddleware, .listen faults.listen]

inductive Call where
  | action (action : Action)
  | bootstrap (faults : BootstrapFaults)

def Call.actions : Call → List Action
  | .action taken => [taken]
  | .bootstrap faults => faults.actions

/-- `bootstrap()` is the run of its actions. -/
theorem bootstrap_eq_run {faults : BootstrapFaults} {o : Observed} :
    (bootstrap faults o.bootstrapper).2 = (run step o faults.actions).bootstrapper := by
  obtain ⟨attestation, sealing, root, middleware, server⟩ := faults
  cases attestation with
  | some message => rfl
  | none =>
      cases sealing with
      | some fault => obtain ⟨call, message⟩ := fault; cases call <;> rfl
      | none =>
          cases root with
          | error message => rfl
          | ok rootHash =>
              cases middleware with
              | some message => rfl
              | none => cases server <;> rfl

/-! ## What a step does -/

variable {config : BootstrapConfig} {o : Observed} {action : Action} {b : UnifiedBootstrapper}

/-- The instance is listening only after the four stages have succeeded in their order. -/
def ListensInOrder (o : Observed) : Prop :=
  o.bootstrapper.state = .listening → Stage.inOrder <+ o.succeeded

/-- From the failed state the action leads to the failed state, and starts no server. -/
def StaysClosed (o : Observed) (action : Action) : Prop :=
  o.bootstrapper.state = .failedClosed →
    (step o action).bootstrapper.state = .failedClosed ∧
      (step o action).bootstrapper.servers = o.bootstrapper.servers

/-- No stage is called in the failed state, and a `listen` that starts a server is called in
another state, when the calls so far have come through all stages in order. -/
def CalledInOrder (o : Observed) : Action → Prop
  | .failClosed => True
  | .serverError => True
  | .listen fault =>
      o.bootstrapper.app = none ∨ fault.isSome ∨
        (o.bootstrapper.state ≠ .failedClosed ∧
          met Stage.inOrder o.succeeded = Stage.inOrder.length)
  | _ => o.bootstrapper.state ≠ .failedClosed

@[simp] theorem failClosed_state : (failClosed b).state = .failedClosed := by
  unfold failClosed
  split <;> first | assumption | rfl

@[simp] theorem failClosed_servers : (failClosed b).servers = b.servers := by
  unfold failClosed
  split <;> rfl

theorem step_failClosed : step o .failClosed = ⟨failClosed o.bootstrapper, o.succeeded⟩ := by
  show (⟨_, o.succeeded ++ []⟩ : Observed) = _
  rw [List.append_nil]

theorem step_stage (hstage : action.stage?.isSome) :
    (step o action).bootstrapper.state ≠ .failedClosed ∧
      (step o action).bootstrapper.state ≠ .listening := by
  cases action with
  | verifyAttestation fault => cases fault <;> exact ⟨nofun, nofun⟩
  | initializeSealing fault =>
      cases fault with
      | none => exact ⟨nofun, nofun⟩
      | some fault => obtain ⟨call, message⟩ := fault; cases call <;> exact ⟨nofun, nofun⟩
  | buildMerkleRoot rootHash => cases rootHash <;> exact ⟨nofun, nofun⟩
  | configureMiddleware fault => cases fault <;> exact ⟨nofun, nofun⟩
  | listen fault => cases hstage
  | failClosed => cases hstage
  | serverError => cases hstage

section Listen

variable {fault : Option String} {message : String} {app : ExpressApp}

theorem step_listen_no_app (happ : o.bootstrapper.app = none) : step o (.listen fault) = o := by
  obtain ⟨⟨config, state, app, buffer, context, servers⟩, succeeded⟩ := o
  obtain rfl : app = none := happ
  rfl

theorem step_listen_throws (happ : o.bootstrapper.app = some app) :
    step o (.listen (some message)) =
      ⟨failClosed { o.bootstrapper with state := .listening }, o.succeeded⟩ := by
  obtain ⟨⟨config, state, app', buffer, context, servers⟩, succeeded⟩ := o
  obtain rfl : app' = some app := happ
  rfl

theorem step_listen_starts (happ : o.bootstrapper.app = some app) :
    step o (.listen none) =
      ⟨{ o.bootstrapper with state := .listening, servers := o.bootstrapper.servers + 1 },
        o.succeeded⟩ := by
  obtain ⟨⟨config, state, app', buffer, context, servers⟩, succeeded⟩ := o
  obtain rfl : app' = some app := happ
  show (⟨_, succeeded ++ []⟩ : Observed) = _
  rw [List.append_nil]

end Listen

/-- One step: it stays closed and listens in order exactly if it is called in order. -/
theorem step_iff (hlistens : ListensInOrder o) :
    StaysClosed o action ∧ ListensInOrder (step o action) ↔ CalledInOrder o action := by
  have hstage (h : action.stage?.isSome) :
      StaysClosed o action ∧ ListensInOrder (step o action) ↔
        o.bootstrapper.state ≠ .failedClosed := by
    obtain ⟨hclosed, hlistening⟩ := step_stage (o := o) h
    constructor
    · intro ⟨hstays, _⟩ hstate
      exact hclosed (hstays hstate).1
    · intro hstate
      exact ⟨fun h => absurd h hstate, fun h => absurd h hlistening⟩
  have hclose : StaysClosed o .failClosed ∧ ListensInOrder (step o .failClosed) := by
    rw [StaysClosed, ListensInOrder, step_failClosed]
    exact ⟨fun _ => ⟨failClosed_state, failClosed_servers⟩, fun h => by simp at h⟩
  cases action with
  | verifyAttestation fault => exact hstage rfl
  | initializeSealing fault => exact hstage rfl
  | buildMerkleRoot rootHash => exact hstage rfl
  | configureMiddleware fault => exact hstage rfl
  | failClosed => exact iff_of_true hclose trivial
  | serverError => exact iff_of_true hclose trivial
  | listen fault =>
      cases happ : o.bootstrapper.app with
      | none =>
          apply iff_of_true
          · rw [StaysClosed, step_listen_no_app happ]
            exact ⟨fun h => ⟨h, rfl⟩, hlistens⟩
          · exact .inl happ
      | some app =>
          cases fault with
          | some message =>
              apply iff_of_true
              · rw [StaysClosed, ListensInOrder, step_listen_throws happ]
                exact ⟨fun _ => ⟨failClosed_state, failClosed_servers⟩, fun h => by simp at h⟩
              · exact .inr (.inl rfl)
          | none =>
              rw [StaysClosed, ListensInOrder, step_listen_starts happ, sublist_iff_met,
                CalledInOrder, happ]
              simp

/-! ## Runs -/

/-- A run stays closed and listens in order exactly if its actions are called in order. -/
theorem bootstrap_ordered_iff (config : BootstrapConfig) (calls : List Call) :
    EachStep step StaysClosed (.fresh config) (calls.flatMap Call.actions) ∧
        Throughout step ListensInOrder (.fresh config) (calls.flatMap Call.actions) ↔
      EachStep step CalledInOrder (.fresh config) (calls.flatMap Call.actions) :=
  eachStep_and_throughout_iff (fun _ => True) (fun _ _ _ _ => trivial)
    (fun _ _ _ hlistens => step_iff hlistens) trivial nofun

/-- `DEFAULT_CONFIG` without environment variables. -/
def defaultConfig : BootstrapConfig where
  enclaveIdentity :=
    { pcr0 := "0000000000000000000000000000000000000000000000000000000000000000000000"
      mrsigner := "AAAAAAAAAAAAAAAAAAAAAAAAAAAAAAAAAAAAAAAAAAA="
      mrenclave := "BBBBBBBBBBBBBBBBBBBBBBBBBBBBBBBBBBBBBBBBBBB=" }
  cpuMasterSecret := "default-dev-secret-do-not-use-in-prod"

/-- A bootstrap in which nothing throws. -/
def cleanBootstrap : BootstrapFaults := ⟨none, none, .ok "", none, none⟩

/-- An instance listens that was never attested, and a failed one starts a server. -/
theorem bootstrap_disordered :
    ¬ Throughout step ListensInOrder (.fresh defaultConfig)
        ([Call.action (.configureMiddleware none), .action (.listen none)].flatMap Call.actions) ∧
      ¬ EachStep step StaysClosed (.fresh defaultConfig)
        ([Call.action .failClosed, .bootstrap cleanBootstrap].flatMap Call.actions) := by
  constructor
  · intro h
    have hlistens := h.2.2 rfl
    revert hlistens
    decide
  · intro h
    have hstays := (h.2.1 rfl).1
    cases hstays

/-- On a fresh instance `bootstrap()` calls everything in order; it ends with the instance
listening, or throws with the instance closed. -/
theorem bootstrap_fresh (config : BootstrapConfig) (faults : BootstrapFaults) :
    EachStep step CalledInOrder (.fresh config) faults.actions ∧
      (bootstrap faults (.fresh config)).2.state =
        if (bootstrap faults (.fresh config)).1.isOk then .listening else .failedClosed := by
  obtain ⟨attestation, sealing, root, middleware, server⟩ := faults
  cases attestation with
  | some message => exact ⟨⟨nofun, trivial, trivial⟩, rfl⟩
  | none =>
      cases sealing with
      | some fault =>
          obtain ⟨call, message⟩ := fault
          cases call <;> exact ⟨⟨nofun, nofun, trivial, trivial⟩, rfl⟩
      | none =>
          cases root with
          | error message => exact ⟨⟨nofun, nofun, nofun, trivial, trivial⟩, rfl⟩
          | ok rootHash =>
              cases middleware with
              | some message => exact ⟨⟨nofun, nofun, nofun, nofun, trivial, trivial⟩, rfl⟩
              | none =>
                  cases server with
                  | some message =>
                      exact ⟨⟨nofun, nofun, nofun, nofun, .inr (.inl rfl), trivial, trivial⟩,
                        rfl⟩
                  | none =>
                      exact ⟨⟨nofun, nofun, nofun, nofun, .inr (.inr ⟨nofun, rfl⟩), trivial⟩,
                        rfl⟩

end UniverEscrow.Bootstrap
