import UniverEscrow.Lib.Run
import UniverEscrow.Router.EnclaveRoutes

/-!
# Who turns the readiness flag on

A session is a run of requests to the handlers that touch the boundary or wait behind it, with
the verdicts on the documents the requests have handed to verification.
-/

namespace UniverEscrow.Router

open UniverEscrow.Js UniverEscrow.Enclave UniverEscrow.Lib.Run

inductive EnclaveRequest where
  | attest (doc : JsValue)
  | joinCluster (body : JsValue)
  | registerPeer (body : JsValue)
  | lock (clock : RequestClock) (body : JsValue)
  | verifyZkProof (body : JsValue)

namespace EnclaveRequest

def handle (platform : Platform) (node : Node) : EnclaveRequest → Node × Response
  | .attest doc => Router.enclaveAttest platform doc node
  | .joinCluster body => Router.joinCluster platform body node
  | .registerPeer body => Router.registerPeer platform body node
  | .lock clock body => Router.lock platform clock body node
  | .verifyZkProof body => Router.verifyZkProof platform body node

/-- The document the request hands to verification. -/
def document : EnclaveRequest → Option JsValue
  | .attest doc => some doc
  | .joinCluster body => (joinGate body).toOption.map Prod.snd
  | .registerPeer body => (registerGate body).toOption.map fun checked => checked.2.2
  | _ => none

def isJoin : EnclaveRequest → Bool
  | .joinCluster _ => true
  | _ => false

end EnclaveRequest

structure EnclaveSession where
  node : Node
  /-- The verdicts on the documents verified so far. -/
  verdicts : List Bool

/-- Some document was accepted and none after it was rejected. -/
def Attested (verdicts : List Bool) : Prop :=
  ∃ earlier later, verdicts = earlier ++ true :: later ∧ ∀ verdict ∈ later, verdict = true

namespace EnclaveSession

/-- The initial state of the flag, with the test override unset. -/
def start (node : Node) : EnclaveSession := ⟨{ node with bridge := ⟨false, false⟩ }, []⟩

def step (platform : Platform) (session : EnclaveSession) (request : EnclaveRequest) :
    EnclaveSession where
  node := (request.handle platform session.node).1
  verdicts := session.verdicts ++
    (request.document.map (EnclaveBridge.acceptsDocument platform.rsa)).toList

def ReadyOnlyAttested (session : EnclaveSession) : Prop :=
  session.node.bridge.isEnclaveReady = true → Attested session.verdicts

/-- If the request turns readiness on, it carries an accepted document. -/
def TurnsOnByDocument (platform : Platform) (session : EnclaveSession)
    (request : EnclaveRequest) : Prop :=
  session.node.bridge.isEnclaveReady = false →
    (session.step platform request).node.bridge.isEnclaveReady = true →
    ∃ doc, request.document = some doc ∧ EnclaveBridge.acceptsDocument platform.rsa doc = true

/-- A document that reaches verification is complete, or finds the flag off and no handler that
raises it; a join request that stops before verification finds the flag on. -/
def keepsGate (session : EnclaveSession) (request : EnclaveRequest) : Bool :=
  match request.document with
  | some doc =>
      EnclaveBridge.completeDocument doc ||
        (!request.isJoin && !session.node.bridge.enclaveReady)
  | none => !request.isJoin || session.node.bridge.enclaveReady

end EnclaveSession

/-! ## Verdicts -/

theorem not_attested_nil : ¬ Attested [] := by
  rintro ⟨earlier, later, h, -⟩
  simp at h

theorem attested_append_singleton {verdicts : List Bool} {verdict : Bool} :
    Attested (verdicts ++ [verdict]) ↔ verdict = true := by
  constructor
  · rintro ⟨earlier, later, h, hlater⟩
    rcases List.eq_nil_or_concat later with rfl | ⟨later, last, rfl⟩
    · have hlast := List.append_inj_right' h rfl
      exact (List.cons.inj hlast).1
    · rw [List.concat_eq_append, ← List.cons_append, ← List.append_assoc] at h
      have hlast := List.append_inj_right' h rfl
      rw [(List.cons.inj hlast).1]
      exact hlater last (by simp)
  · rintro rfl
    exact ⟨verdicts, [], rfl, by simp⟩

/-! ## One request -/

namespace EnclaveSession

variable {platform : Platform} {session : EnclaveSession} {request : EnclaveRequest}

/-- The flag as verification finds it. -/
def raised (session : EnclaveSession) (request : EnclaveRequest) : EnclaveBridge :=
  if request.isJoin then session.node.bridge.setEnclaveReadyForTest true
  else session.node.bridge

theorem bridge_step :
    (session.step platform request).node.bridge =
      match request.document with
      | some doc => ((session.raised request).verifyEnclaveAttestation platform.rsa doc).2
      | none => session.raised request := by
  cases request with
  | attest doc => exact bridge_enclaveAttest doc
  | joinCluster body =>
      refine (bridge_joinCluster body).trans ?_
      simp only [EnclaveRequest.document]
      cases joinGate body <;> rfl
  | registerPeer body =>
      refine (bridge_registerPeer body).trans ?_
      simp only [EnclaveRequest.document]
      cases registerGate body <;> rfl
  | lock clock body => exact bridge_lock clock body
  | verifyZkProof body => exact bridge_verifyZkProof body

/-- The override stays unset, and an attested session is ready. -/
structure Invariant (session : EnclaveSession) : Prop where
  override : session.node.bridge.testReadyOverride = false
  ready : Attested session.verdicts → session.node.bridge.enclaveReady = true

theorem Invariant.isEnclaveReady (h : session.Invariant) :
    session.node.bridge.isEnclaveReady = session.node.bridge.enclaveReady := by
  rw [EnclaveBridge.isEnclaveReady, h.override, Bool.or_false]

theorem start_invariant (node : Node) : (start node).Invariant :=
  ⟨rfl, fun h => absurd h not_attested_nil⟩

theorem raised_enclaveReady :
    (session.raised request).enclaveReady =
      (request.isJoin || session.node.bridge.enclaveReady) := by
  unfold raised
  cases request.isJoin <;> rfl

theorem raised_testReadyOverride :
    (session.raised request).testReadyOverride = session.node.bridge.testReadyOverride := by
  unfold raised
  cases request.isJoin <;> rfl

/-- A complete document settles the flag. -/
theorem step_of_complete (platform : Platform) (session : EnclaveSession)
    {request : EnclaveRequest} {doc : JsValue} (hdoc : request.document = some doc)
    (hcomplete : EnclaveBridge.completeDocument doc = true) :
    (session.step platform request).node.bridge =
        { session.raised request with
          enclaveReady := EnclaveBridge.acceptsDocument platform.rsa doc } ∧
      (Attested (session.step platform request).verdicts ↔
        EnclaveBridge.acceptsDocument platform.rsa doc = true) := by
  constructor
  · rw [bridge_step, hdoc]
    simp only [EnclaveBridge.verifyEnclaveAttestation_of_complete hcomplete]
  · simp only [step, hdoc, Option.map_some, Option.toList_some]
    exact attested_append_singleton

/-- An incomplete document is rejected and leaves the flag as verification finds it. -/
theorem step_of_incomplete (platform : Platform) (session : EnclaveSession)
    {request : EnclaveRequest} {doc : JsValue} (hdoc : request.document = some doc)
    (hincomplete : EnclaveBridge.completeDocument doc = false) :
    (session.step platform request).node.bridge = session.raised request ∧
      ¬ Attested (session.step platform request).verdicts := by
  constructor
  · rw [bridge_step, hdoc]
    simp only [EnclaveBridge.verifyEnclaveAttestation_of_incomplete hincomplete]
  · simp only [step, hdoc, Option.map_some, Option.toList_some, attested_append_singleton,
      EnclaveBridge.acceptsDocument_of_incomplete hincomplete]
    exact Bool.false_ne_true

theorem step_of_none (platform : Platform) (session : EnclaveSession)
    {request : EnclaveRequest} (hdoc : request.document = none) :
    (session.step platform request).node.bridge = session.raised request ∧
      (session.step platform request).verdicts = session.verdicts := by
  constructor
  · rw [bridge_step, hdoc]
  · simp [step, hdoc]

theorem Invariant.step (h : session.Invariant) (platform : Platform) (request : EnclaveRequest) :
    (session.step platform request).Invariant := by
  rcases hdoc : request.document with - | doc
  · obtain ⟨hbridge, hverdicts⟩ := step_of_none platform session hdoc
    constructor
    · rw [hbridge, raised_testReadyOverride, h.override]
    · rw [hbridge, hverdicts, raised_enclaveReady, Bool.or_eq_true]
      exact fun hattested => .inr (h.ready hattested)
  · cases hcomplete : EnclaveBridge.completeDocument doc with
    | true =>
        obtain ⟨hbridge, hattested⟩ :=
          step_of_complete platform session hdoc hcomplete
        constructor
        · rw [hbridge]
          exact raised_testReadyOverride.trans h.override
        · rw [hbridge, hattested]
          exact id
    | false =>
        obtain ⟨hbridge, hattested⟩ :=
          step_of_incomplete platform session hdoc hcomplete
        constructor
        · rw [hbridge, raised_testReadyOverride, h.override]
        · exact fun habsurd => absurd habsurd hattested

/-- A request keeps an attested gate exactly if it meets the condition. -/
theorem readyOnlyAttested_step (h : session.Invariant) (hready : session.ReadyOnlyAttested) :
    (session.step platform request).ReadyOnlyAttested ↔ session.keepsGate request = true := by
  have hafter := (h.step platform request).isEnclaveReady
  unfold ReadyOnlyAttested at hready ⊢
  rw [h.isEnclaveReady] at hready
  rw [hafter]
  unfold keepsGate
  rcases hdoc : request.document with - | doc
  · obtain ⟨hbridge, hverdicts⟩ := step_of_none platform session hdoc
    have hattested : Attested session.verdicts ↔ session.node.bridge.enclaveReady = true :=
      ⟨h.ready, hready⟩
    rw [hbridge, hverdicts, raised_enclaveReady, hattested]
    cases request.isJoin <;> simp
  · cases hcomplete : EnclaveBridge.completeDocument doc with
    | true =>
        obtain ⟨hbridge, hattested⟩ :=
          step_of_complete platform session hdoc hcomplete
        rw [hbridge, hattested]
        simp [hcomplete]
    | false =>
        obtain ⟨hbridge, hattested⟩ :=
          step_of_incomplete platform session hdoc hcomplete
        rw [hbridge, raised_enclaveReady]
        cases request.isJoin <;> simp [hattested, hcomplete]

/-- Where the gate is kept, only an accepted document turns readiness on. -/
theorem turnsOnByDocument_of_keepsGate (h : session.Invariant)
    (hgate : session.keepsGate request = true) : session.TurnsOnByDocument platform request := by
  intro hoff hon
  rw [h.isEnclaveReady] at hoff
  rw [(h.step platform request).isEnclaveReady] at hon
  unfold keepsGate at hgate
  rcases hdoc : request.document with - | doc
  · rw [(step_of_none platform session hdoc).1, raised_enclaveReady, hoff, Bool.or_false] at hon
    simp [hdoc, hon, hoff] at hgate
  · cases hcomplete : EnclaveBridge.completeDocument doc with
    | true =>
        rw [(step_of_complete platform session hdoc hcomplete).1] at hon
        exact ⟨doc, rfl, hon⟩
    | false =>
        rw [(step_of_incomplete platform session hdoc hcomplete).1, raised_enclaveReady, hoff,
          Bool.or_false] at hon
        simp [hdoc, hcomplete, hon] at hgate

end EnclaveSession

/-! ## Runs of requests -/

/-- From the initial state, readiness rests on an accepted document in every state, and only a
request with one turns it on, exactly in the runs whose requests keep the gate. -/
theorem readiness_attested_iff (platform : Platform) (node : Node)
    (requests : List EnclaveRequest) :
    (Throughout (EnclaveSession.step platform) EnclaveSession.ReadyOnlyAttested (.start node)
          requests ∧
        EachStep (EnclaveSession.step platform) (EnclaveSession.TurnsOnByDocument platform)
          (.start node) requests) ↔
      EachStep (EnclaveSession.step platform)
        (fun session request => session.keepsGate request = true) (.start node) requests := by
  have hstart : (EnclaveSession.start node).ReadyOnlyAttested := by
    intro h
    cases h
  have hthroughout : Throughout (EnclaveSession.step platform) EnclaveSession.ReadyOnlyAttested
        (.start node) requests ↔
      EachStep (EnclaveSession.step platform)
        (fun session request => session.keepsGate request = true) (.start node) requests :=
    throughout_iff_eachStep EnclaveSession.Invariant
      (fun session request h => h.step platform request)
      (fun session request h hready => EnclaveSession.readyOnlyAttested_step h hready)
      (EnclaveSession.start_invariant node) hstart
  rw [hthroughout]
  constructor
  · exact fun h => h.1
  · intro hgate
    exact ⟨hgate, eachStep_of_invariant EnclaveSession.Invariant
      (fun session request h => h.step platform request)
      (fun session request h hkeeps => EnclaveSession.turnsOnByDocument_of_keepsGate h hkeeps)
      (EnclaveSession.start_invariant node) hgate⟩

/-! ## A join request without a document -/

def emptyJoin : EnclaveRequest := .joinCluster (.obj [])

/-- On any node in its initial state an empty join request is refused and turns readiness on. -/
theorem empty_join_turns_on :
    emptyJoin.document = none ∧
      ∀ (platform : Platform) (node : Node),
        (emptyJoin.handle platform (EnclaveSession.start node).node).2.code = 400 ∧
          ((EnclaveSession.start node).step platform emptyJoin).node.bridge.isEnclaveReady =
            true ∧
          ¬ Attested ((EnclaveSession.start node).step platform emptyJoin).verdicts ∧
          ¬ Throughout (EnclaveSession.step platform) EnclaveSession.ReadyOnlyAttested
            (.start node) [emptyJoin] := by
  refine ⟨rfl, fun platform node => ⟨rfl, rfl, not_attested_nil, ?_⟩⟩
  rintro ⟨-, hready⟩
  exact not_attested_nil (hready rfl)

end UniverEscrow.Router
