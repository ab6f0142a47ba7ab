import UniverEscrow.Lib.Run
import UniverEscrow.Router.AppendEntry
import UniverEscrow.Router.EnclaveRoutes

/-!
# Admitting peers

Both admission routes verify the peer's document with the routine that keeps the local node's
readiness, and only one of them compares all measurements with the baseline.
-/

namespace UniverEscrow.Router

open UniverEscrow.Js UniverEscrow.Enclave UniverEscrow.Consensus UniverEscrow.Lib.Run

/-! ## Documents -/

/-- The signature over `pcr0:pcr1` verifies. -/
def SignatureVerified (rsa : RsaVerify) (doc : JsValue) : Prop :=
  ∃ signature, doc.get "signature" = .str signature ∧
    EnclaveBridge.signatureAccepted? rsa doc signature = some true

/-- What the structural check accepts. -/
structure Authentic (rsa : RsaVerify) (doc : JsValue) : Prop where
  complete : EnclaveBridge.completeDocument doc = true
  signed : SignatureVerified rsa doc
  pcr0 : doc.get "pcr0" = .str EnclaveBridge.expectedPcr0

/-- Both measurements are the baseline's and the signature over them verifies. -/
structure Measured (rsa : RsaVerify) (doc : JsValue) : Prop where
  pcr0 : doc.get "pcr0" = .str EnclaveBridge.expectedPcr0
  pcr1 : doc.get "pcr1" = .str expectedPcr1
  signed : SignatureVerified rsa doc

theorem acceptsDocument_of_signature {rsa : RsaVerify} {doc : JsValue} {signature : String}
    (hcomplete : EnclaveBridge.completeDocument doc = true)
    (hsignature : doc.get "signature" = .str signature) :
    EnclaveBridge.acceptsDocument rsa doc =
      ((EnclaveBridge.signatureAccepted? rsa doc signature).getD false &&
        (doc.get "pcr0").isStr EnclaveBridge.expectedPcr0) := by
  simp only [EnclaveBridge.completeDocument, Bool.and_eq_true, hsignature, JsValue.asString?_str,
    Option.any_some, decide_eq_true_eq] at hcomplete
  obtain ⟨⟨⟨hobject, hpcr0⟩, hpcr1⟩, hempty⟩ := hcomplete
  simp [EnclaveBridge.acceptsDocument, EnclaveBridge.verifyEnclaveAttestation, hobject, hpcr0,
    hpcr1, hsignature, hempty]

theorem acceptsDocument_iff {rsa : RsaVerify} {doc : JsValue} :
    EnclaveBridge.acceptsDocument rsa doc = true ↔ Authentic rsa doc := by
  constructor
  · intro haccepted
    cases hcomplete : EnclaveBridge.completeDocument doc with
    | false =>
        rw [EnclaveBridge.acceptsDocument_of_incomplete hcomplete] at haccepted
        cases haccepted
    | true =>
        have hparts := hcomplete
        simp only [EnclaveBridge.completeDocument, Bool.and_eq_true, Option.any_eq_true,
          JsValue.asString?_eq_some] at hparts
        obtain ⟨-, signature, hsignature, -⟩ := hparts
        rw [acceptsDocument_of_signature hcomplete hsignature, Bool.and_eq_true,
          JsValue.isStr_iff] at haccepted
        refine ⟨hcomplete, ⟨signature, hsignature, ?_⟩, haccepted.2⟩
        cases hsigned : EnclaveBridge.signatureAccepted? rsa doc signature with
        | none => simp [hsigned] at haccepted
        | some accepted => simpa [hsigned] using haccepted.1
  · rintro ⟨hcomplete, ⟨signature, hsignature, hsigned⟩, hpcr0⟩
    rw [acceptsDocument_of_signature hcomplete hsignature, hsigned, Bool.and_eq_true]
    exact ⟨rfl, JsValue.isStr_iff.2 hpcr0⟩

theorem measured_iff {rsa : RsaVerify} {doc : JsValue} (h : Authentic rsa doc) :
    Measured rsa doc ↔ doc.get "pcr1" = .str expectedPcr1 :=
  ⟨Measured.pcr1, fun hpcr1 => ⟨h.pcr0, hpcr1, h.signed⟩⟩

theorem matchesBaseline_iff {doc : JsValue} :
    matchesBaseline doc = true ↔
      doc.get "pcr0" = .str EnclaveBridge.expectedPcr0 ∧ doc.get "pcr1" = .str expectedPcr1 := by
  rw [matchesBaseline, Bool.and_eq_true, JsValue.isStr_iff, JsValue.isStr_iff]

/-! ## Readiness while peers register -/

/-- Verifying the document leaves readiness as it is: it stops before the signature check, or its
verdict is what the flag says already. -/
def LeavesReadiness (rsa : RsaVerify) (doc : JsValue) (bridge : EnclaveBridge) : Prop :=
  bridge.testReadyOverride = true ∨ EnclaveBridge.completeDocument doc = false ∨
    (Authentic rsa doc ↔ bridge.enclaveReady = true)

theorem isEnclaveReady_verifyEnclaveAttestation_iff (rsa : RsaVerify) (doc : JsValue)
    (bridge : EnclaveBridge) :
    (bridge.verifyEnclaveAttestation rsa doc).2.isEnclaveReady = bridge.isEnclaveReady ↔
      LeavesReadiness rsa doc bridge := by
  rw [EnclaveBridge.verifyEnclaveAttestation_eq, LeavesReadiness, ← acceptsDocument_iff]
  obtain ⟨enclaveReady, testReadyOverride⟩ := bridge
  cases EnclaveBridge.completeDocument doc with
  | false => simp
  | true =>
      cases testReadyOverride with
      | true => simp [EnclaveBridge.isEnclaveReady]
      | false =>
          simp only [EnclaveBridge.isEnclaveReady, if_true, Bool.or_false, Bool.false_eq_true,
            Bool.true_eq_false, false_or]
          exact Bool.eq_iff_iff

/-- Registering a peer, by the service or by the handler, leaves the local node's readiness alone
exactly when verifying the document does. -/
theorem registerPeer_readiness_iff (platform : Platform) :
    (∀ (nodeId : NodeId) (endpoint : String) (doc : JsValue) (cluster : EnclaveClusterService)
        (bridge : EnclaveBridge),
      ((cluster.registerPeer platform.rsa nodeId endpoint doc bridge).2.2.isEnclaveReady =
          bridge.isEnclaveReady ↔ LeavesReadiness platform.rsa doc bridge)) ∧
      ∀ (body : JsValue) (node : Node),
        ((registerPeer platform body node).1.bridge.isEnclaveReady =
            node.bridge.isEnclaveReady ↔
          ∀ checked, registerGate body = .ok checked →
            LeavesReadiness platform.rsa checked.2.2 node.bridge) := by
  constructor
  · intro nodeId endpoint doc cluster bridge
    rw [EnclaveClusterService.bridge_registerPeer]
    exact isEnclaveReady_verifyEnclaveAttestation_iff ..
  · intro body node
    rw [bridge_registerPeer]
    cases registerGate body with
    | error response => exact iff_of_true rfl fun checked h => by cases h
    | ok checked =>
        refine (isEnclaveReady_verifyEnclaveAttestation_iff ..).trans ?_
        constructor
        · intro h checked' hchecked
          cases hchecked
          exact h
        · intro h
          exact h checked rfl

/-! ### A sample -/

/-- A document with everything the signature check needs, unsigned and with another `pcr0`. -/
def foreignRegistration : JsValue :=
  .obj [("nodeId", "peer"), ("endpoint", "vsock://peer"), ("attestation", .obj
    [("pcr0", "other"), ("pcr1", "boot-runtime-param"), ("signature", "0a")])]

/-- One rejected peer turns an attested node off. -/
theorem rejected_peer_turns_node_off :
    openNode.bridge.isEnclaveReady = true ∧
      (registerPeer appendPlatform foreignRegistration openNode).2.code = 403 ∧
      (registerPeer appendPlatform foreignRegistration openNode).1.bridge.isEnclaveReady =
        false := by
  decide +kernel

/-! ## The measurement gate -/

inductive AdmissionRequest where
  | joinCluster (body : JsValue)
  | registerPeer (body : JsValue)

namespace AdmissionRequest

def handle (platform : Platform) (node : Node) : AdmissionRequest → Node × Response
  | .joinCluster body => Router.joinCluster platform body node
  | .registerPeer body => Router.registerPeer platform body node

/-- The peer a request with all its members is about. -/
def submission : AdmissionRequest → Option (NodeId × String × JsValue)
  | .joinCluster body => (joinGate body).toOption.map fun checked =>
      (checked.1, "vsock://internal/" ++ checked.1, checked.2)
  | .registerPeer body => (registerGate body).toOption

/-- The checks of the route pass on the document. -/
def admits (platform : Platform) (doc : JsValue) : AdmissionRequest → Bool
  | .joinCluster _ =>
      EnclaveBridge.acceptsDocument platform.rsa doc && matchesBaseline doc
  | .registerPeer _ => EnclaveBridge.acceptsDocument platform.rsa doc

/-- A registration whose document passes the structural check has the baseline's `pcr1`. -/
def Gated (platform : Platform) : AdmissionRequest → Prop
  | .joinCluster _ => True
  | .registerPeer body => ∀ nodeId endpoint doc, registerGate body = .ok (nodeId, endpoint, doc) →
      Authentic platform.rsa doc → doc.get "pcr1" = .str expectedPcr1

end AdmissionRequest

/-- What an admission puts in the table. -/
def admittedPeer (nodeId : NodeId) (endpoint : String) : ClusterPeer := ⟨nodeId, endpoint, true⟩

theorem fst_verifyEnclaveAttestation (rsa : RsaVerify) (doc : JsValue) (bridge : EnclaveBridge) :
    (bridge.verifyEnclaveAttestation rsa doc).1 = EnclaveBridge.acceptsDocument rsa doc := by
  rw [EnclaveBridge.verifyEnclaveAttestation_eq]

section Handlers

variable {platform : Platform} {node : Node} {body doc : JsValue} {nodeId : NodeId}
  {endpoint : String}

theorem clusterRegisterPeer_eq (rsa : RsaVerify) (cluster : EnclaveClusterService)
    (bridge : EnclaveBridge) :
    cluster.registerPeer rsa nodeId endpoint doc bridge =
      (EnclaveBridge.acceptsDocument rsa doc,
        if EnclaveBridge.acceptsDocument rsa doc
          then ⟨cluster.peers.set nodeId (admittedPeer nodeId endpoint)⟩ else cluster,
        (bridge.verifyEnclaveAttestation rsa doc).2) := by
  rw [EnclaveClusterService.registerPeer, ← fst_verifyEnclaveAttestation rsa doc bridge]
  dsimp only
  cases (bridge.verifyEnclaveAttestation rsa doc).1 <;> rfl

theorem registerPeer_of_gate (platform : Platform) (node : Node)
    (hgate : registerGate body = .ok (nodeId, endpoint, doc)) :
    (registerPeer platform body node).1.cluster =
        (if EnclaveBridge.acceptsDocument platform.rsa doc
          then ⟨node.cluster.peers.set nodeId (admittedPeer nodeId endpoint)⟩
          else node.cluster) ∧
      (registerPeer platform body node).2.code =
        if EnclaveBridge.acceptsDocument platform.rsa doc then 200 else 403 := by
  simp only [registerPeer, hgate, clusterRegisterPeer_eq]
  cases EnclaveBridge.acceptsDocument platform.rsa doc <;> exact ⟨rfl, rfl⟩

theorem admitPeer_eq :
    (admitPeer platform nodeId doc node).1.cluster =
        (if EnclaveBridge.acceptsDocument platform.rsa doc
          then ⟨node.cluster.peers.set nodeId
            (admittedPeer nodeId ("vsock://internal/" ++ nodeId))⟩
          else node.cluster) ∧
      (admitPeer platform nodeId doc node).2.code =
        if EnclaveBridge.acceptsDocument platform.rsa doc then 200 else 403 := by
  simp only [admitPeer, clusterRegisterPeer_eq]
  cases EnclaveBridge.acceptsDocument platform.rsa doc <;> exact ⟨rfl, rfl⟩

theorem joinCluster_of_gate (platform : Platform) (node : Node)
    (hgate : joinGate body = .ok (nodeId, doc)) :
    (joinCluster platform body node).1.cluster =
        (if EnclaveBridge.acceptsDocument platform.rsa doc && matchesBaseline doc
          then ⟨node.cluster.peers.set nodeId
            (admittedPeer nodeId ("vsock://internal/" ++ nodeId))⟩
          else node.cluster) ∧
      (joinCluster platform body node).2.code =
        if EnclaveBridge.acceptsDocument platform.rsa doc && matchesBaseline doc
          then 200 else 403 := by
  simp only [joinCluster, hgate, fst_verifyEnclaveAttestation]
  cases haccepted : EnclaveBridge.acceptsDocument platform.rsa doc with
  | false => exact ⟨rfl, rfl⟩
  | true =>
      cases matchesBaseline doc with
      | false => exact ⟨rfl, rfl⟩
      | true =>
          simp only [Bool.not_true, Bool.false_eq_true, if_false, admitPeer_eq, haccepted,
            Bool.and_self, if_true, and_self]

end Handlers

theorem code_of_joinGate {body : JsValue} {response : Response}
    (h : joinGate body = .error response) : response.code ≠ 200 := by
  simp only [joinGate, bind_eq_error, answerUnless_eq_error, answerUnless_eq_ok,
    orAnswer_eq_error, orAnswer_eq_ok, exists_const] at h
  rcases h with ⟨-, rfl⟩ | ⟨-, ⟨-, rfl⟩ | ⟨nodeId, -, ⟨-, rfl⟩ | ⟨-, h⟩⟩⟩
  · decide
  · decide
  · decide
  · cases h

theorem code_of_registerGate {body : JsValue} {response : Response}
    (h : registerGate body = .error response) : response.code ≠ 200 := by
  simp only [registerGate, bind_eq_error, answerUnless_eq_error, answerUnless_eq_ok,
    orAnswer_eq_error, orAnswer_eq_ok, exists_const] at h
  rcases h with ⟨-, rfl⟩ | ⟨-, ⟨-, rfl⟩ | ⟨nodeId, -, ⟨-, rfl⟩ | ⟨endpoint, -, h⟩⟩⟩
  · decide
  · decide
  · decide
  · cases h

namespace AdmissionRequest

variable {platform : Platform} {node : Node} {request : AdmissionRequest} {nodeId : NodeId}
  {endpoint : String} {doc : JsValue}

/-- A request without all its members is answered with an error and changes no peer. -/
theorem handle_of_none (platform : Platform) (node : Node) (h : request.submission = none) :
    (request.handle platform node).1.cluster = node.cluster ∧
      (request.handle platform node).2.code ≠ 200 := by
  cases request with
  | joinCluster body =>
      cases hgate : joinGate body with
      | ok checked => simp [submission, hgate, Except.toOption] at h
      | error response =>
          rw [handle, Router.joinCluster, hgate]
          exact ⟨rfl, code_of_joinGate hgate⟩
  | registerPeer body =>
      cases hgate : registerGate body with
      | ok checked => simp [submission, hgate, Except.toOption] at h
      | error response =>
          rw [handle, Router.registerPeer, hgate]
          exact ⟨rfl, code_of_registerGate hgate⟩

/-- Any other request is answered with success, and its peer is added, exactly if the checks of
its route pass. -/
theorem handle_of_some (platform : Platform) (node : Node)
    (h : request.submission = some (nodeId, endpoint, doc)) :
    (request.handle platform node).1.cluster =
        (if request.admits platform doc
          then ⟨node.cluster.peers.set nodeId (admittedPeer nodeId endpoint)⟩
          else node.cluster) ∧
      ((request.handle platform node).2.code = 200 ↔ request.admits platform doc = true) := by
  have hcode : ∀ admitted : Bool, (if admitted then 200 else 403) = 200 ↔ admitted = true := by
    decide
  cases request with
  | joinCluster body =>
      cases hgate : joinGate body with
      | error response => simp [submission, hgate, Except.toOption] at h
      | ok checked =>
          simp only [submission, hgate, Except.toOption, Option.map_some, Option.some.injEq,
            Prod.mk.injEq] at h
          obtain ⟨rfl, rfl, rfl⟩ := h
          obtain ⟨hcluster, hanswer⟩ := joinCluster_of_gate platform node hgate
          exact ⟨hcluster, hanswer ▸ hcode _⟩
  | registerPeer body =>
      cases hgate : registerGate body with
      | error response => simp [submission, hgate, Except.toOption] at h
      | ok checked =>
          simp only [submission, hgate, Except.toOption, Option.some.injEq] at h
          subst h
          obtain ⟨hcluster, hanswer⟩ := registerPeer_of_gate platform node hgate
          exact ⟨hcluster, hanswer ▸ hcode _⟩

end AdmissionRequest

/-! ## Runs of admissions -/

/-- The node with the document each peer was last admitted with. -/
structure AdmissionSession where
  node : Node
  documents : OrderedMap NodeId JsValue

namespace AdmissionSession

/-- A node whose peer table is empty. -/
def start (node : Node) : AdmissionSession :=
  ⟨{ node with cluster := EnclaveClusterService.clearClusterTopology }, .empty⟩

/-- A request answered with success admits its peer with its document. -/
def step (platform : Platform) (session : AdmissionSession) (request : AdmissionRequest) :
    AdmissionSession where
  node := (request.handle platform session.node).1
  documents :=
    if (request.handle platform session.node).2.code = 200 then
      match request.submission with
      | some (nodeId, _, doc) => session.documents.set nodeId doc
      | none => session.documents
    else session.documents

/-- Every peer was admitted with a measured document. -/
def AllMeasured (platform : Platform) (session : AdmissionSession) : Prop :=
  ∀ peer ∈ session.node.cluster.getAttestedPeers, ∃ doc,
    session.documents.get? peer.nodeId = some doc ∧ Measured platform.rsa doc

/-- The table lists a peer under its own id. -/
def KeyedById (session : AdmissionSession) : Prop :=
  ∀ nodeId peer, session.node.cluster.peers.get? nodeId = some peer → peer.nodeId = nodeId

variable {platform : Platform} {session : AdmissionSession} {request : AdmissionRequest}

theorem mem_getAttestedPeers {cluster : EnclaveClusterService} {peer : ClusterPeer} :
    peer ∈ cluster.getAttestedPeers ↔ ∃ nodeId, cluster.peers.get? nodeId = some peer := by
  simp [EnclaveClusterService.getAttestedPeers, OrderedMap.values, ← OrderedMap.mem_entries_iff]

/-- What a request changes: nothing, or it admits its peer with its document. -/
theorem step_cases (platform : Platform) (session : AdmissionSession)
    (request : AdmissionRequest) :
    ((session.step platform request).node.cluster = session.node.cluster ∧
        (session.step platform request).documents = session.documents ∧
        ∀ nodeId endpoint doc, request.submission = some (nodeId, endpoint, doc) →
          request.admits platform doc = false) ∨
      ∃ nodeId endpoint doc, request.submission = some (nodeId, endpoint, doc) ∧
        request.admits platform doc = true ∧
        (session.step platform request).node.cluster =
          ⟨session.node.cluster.peers.set nodeId (admittedPeer nodeId endpoint)⟩ ∧
        (session.step platform request).documents = session.documents.set nodeId doc := by
  cases hsubmission : request.submission with
  | none =>
      obtain ⟨hcluster, hcode⟩ := AdmissionRequest.handle_of_none platform session.node hsubmission
      exact .inl ⟨hcluster, if_neg hcode, fun _ _ _ h => by cases h⟩
  | some submission =>
      obtain ⟨nodeId, endpoint, doc⟩ := submission
      obtain ⟨hcluster, hcode⟩ := AdmissionRequest.handle_of_some platform session.node hsubmission
      cases hadmits : request.admits platform doc with
      | false =>
          rw [hadmits] at hcluster hcode
          refine .inl ⟨hcluster, if_neg fun h => Bool.false_ne_true (hcode.1 h), ?_⟩
          intro _ _ _ h
          cases h
          exact hadmits
      | true =>
          rw [hadmits] at hcluster hcode
          refine .inr ⟨nodeId, endpoint, doc, rfl, hadmits, hcluster, ?_⟩
          simp only [step, if_pos (hcode.2 rfl), hsubmission]

theorem keyedById_start (node : Node) : KeyedById (start node) := by
  intro nodeId peer h
  cases h

theorem KeyedById.step (h : KeyedById session) (platform : Platform)
    (request : AdmissionRequest) : KeyedById (session.step platform request) := by
  rcases step_cases platform session request with
    ⟨hcluster, -, -⟩ | ⟨nodeId, endpoint, doc, -, -, hcluster, -⟩
  · intro nodeId peer hpeer
    rw [hcluster] at hpeer
    exact h nodeId peer hpeer
  · intro nodeId' peer hpeer
    rw [hcluster, OrderedMap.get?_set] at hpeer
    split_ifs at hpeer with heq
    · rw [← Option.some.inj hpeer, heq]
      rfl
    · exact h nodeId' peer hpeer

theorem allMeasured_iff (hkeyed : KeyedById session) :
    AllMeasured platform session ↔
      ∀ nodeId peer, session.node.cluster.peers.get? nodeId = some peer →
        ∃ doc, session.documents.get? nodeId = some doc ∧ Measured platform.rsa doc := by
  constructor
  · intro h nodeId peer hpeer
    have := h peer (mem_getAttestedPeers.2 ⟨nodeId, hpeer⟩)
    rwa [hkeyed nodeId peer hpeer] at this
  · intro h peer hmem
    obtain ⟨nodeId, hpeer⟩ := mem_getAttestedPeers.1 hmem
    rw [hkeyed nodeId peer hpeer]
    exact h nodeId peer hpeer

/-- An admitted document is measured exactly if the request is gated. -/
theorem measured_iff_gated {nodeId : NodeId} {endpoint : String} {doc : JsValue}
    (hsubmission : request.submission = some (nodeId, endpoint, doc))
    (hadmits : request.admits platform doc = true) :
    Measured platform.rsa doc ↔ request.Gated platform := by
  cases request with
  | joinCluster body =>
      rw [AdmissionRequest.admits, Bool.and_eq_true, acceptsDocument_iff,
        matchesBaseline_iff] at hadmits
      exact iff_of_true ((measured_iff hadmits.1).2 hadmits.2.2) trivial
  | registerPeer body =>
      rw [AdmissionRequest.admits, acceptsDocument_iff] at hadmits
      rw [measured_iff hadmits, AdmissionRequest.Gated]
      cases hgate : registerGate body with
      | error response => simp [AdmissionRequest.submission, hgate, Except.toOption] at hsubmission
      | ok checked =>
          simp only [AdmissionRequest.submission, hgate, Except.toOption,
            Option.some.injEq] at hsubmission
          subst hsubmission
          constructor
          · intro hpcr1 _ _ _ h _
            cases h
            exact hpcr1
          · intro h
            exact h _ _ _ rfl hadmits

/-- A request that admits nobody is gated. -/
theorem gated_of_not_admits
    (hnot : ∀ nodeId endpoint doc, request.submission = some (nodeId, endpoint, doc) →
      request.admits platform doc = false) : request.Gated platform := by
  cases request with
  | joinCluster body => trivial
  | registerPeer body =>
      intro nodeId endpoint doc hgate hauthentic
      have hfalse := hnot nodeId endpoint doc (by
        simp [AdmissionRequest.submission, hgate, Except.toOption])
      rw [AdmissionRequest.admits, acceptsDocument_iff.2 hauthentic] at hfalse
      cases hfalse

theorem allMeasured_step_iff (hkeyed : KeyedById session) (h : AllMeasured platform session) :
    AllMeasured platform (session.step platform request) ↔ request.Gated platform := by
  rw [allMeasured_iff hkeyed] at h
  rw [allMeasured_iff (hkeyed.step platform request)]
  rcases step_cases platform session request with
    ⟨hcluster, hdocuments, hnot⟩ |
    ⟨nodeId, endpoint, doc, hsubmission, hadmits, hcluster, hdocuments⟩
  · rw [hcluster, hdocuments]
    exact iff_of_true h (gated_of_not_admits hnot)
  · rw [hcluster, hdocuments, ← measured_iff_gated hsubmission hadmits]
    constructor
    · intro hall
      obtain ⟨doc', hdoc', hmeasured⟩ := hall nodeId _ (OrderedMap.get?_set_self ..)
      rw [OrderedMap.get?_set_self] at hdoc'
      exact Option.some.inj hdoc' ▸ hmeasured
    · intro hmeasured nodeId' peer hpeer
      rw [OrderedMap.get?_set] at hpeer ⊢
      split_ifs at hpeer ⊢ with heq
      · exact ⟨doc, rfl, hmeasured⟩
      · exact h nodeId' peer hpeer

end AdmissionSession

/-- The two routes answer alike to requests that differ in the route alone. -/
def RoutesAgree (platform : Platform) (doc : JsValue) : Prop :=
  ∀ (node node' : Node) (join registration : JsValue),
    (joinGate join).toOption.map Prod.snd = some doc →
    (registerGate registration).toOption.map (fun checked => checked.2.2) = some doc →
    ((joinCluster platform join node).2.code = 200 ↔
      (registerPeer platform registration node').2.code = 200)

theorem routesAgree_iff (platform : Platform) (doc : JsValue) :
    RoutesAgree platform doc ↔
      (Authentic platform.rsa doc → doc.get "pcr1" = .str expectedPcr1) := by
  constructor
  · intro hagree hauthentic
    have hobject : doc.isObject = true := by
      have hcomplete := hauthentic.complete
      simp only [EnclaveBridge.completeDocument, Bool.and_eq_true] at hcomplete
      exact hcomplete.1.1.1
    have hjoin : joinGate (.obj [("nodeId", "peer"), ("attestationDocument", doc)]) =
        .ok ("peer", doc) := by
      cases doc <;> first | rfl | cases hobject
    have hregister : registerGate (.obj [("nodeId", "peer"), ("endpoint", "vsock://peer"),
        ("attestation", doc)]) = .ok ("peer", "vsock://peer", doc) := by
      cases doc <;> first | rfl | cases hobject
    have hanswers := hagree openNode openNode _ _
      (by rw [hjoin]; rfl) (by rw [hregister]; rfl)
    rw [(joinCluster_of_gate _ _ hjoin).2, (registerPeer_of_gate _ _ hregister).2,
      acceptsDocument_iff.2 hauthentic] at hanswers
    have hbaseline : matchesBaseline doc = true := by
      cases hmatches : matchesBaseline doc with
      | true => rfl
      | false => simp [hmatches] at hanswers
    exact (matchesBaseline_iff.1 hbaseline).2
  · intro hgated node node' join registration hjoin hregistration
    cases hjoinGate : joinGate join with
    | error response => simp [hjoinGate, Except.toOption] at hjoin
    | ok joined =>
        cases hregisterGate : registerGate registration with
        | error response => simp [hregisterGate, Except.toOption] at hregistration
        | ok registered =>
            obtain ⟨nodeId, doc'⟩ := joined
            obtain ⟨nodeId', endpoint, doc''⟩ := registered
            simp only [hjoinGate, Except.toOption, Option.map_some, Option.some.injEq] at hjoin
            simp only [hregisterGate, Except.toOption, Option.map_some,
              Option.some.injEq] at hregistration
            subst hjoin
            subst hregistration
            rw [(joinCluster_of_gate _ _ hjoinGate).2, (registerPeer_of_gate _ _ hregisterGate).2]
            cases haccepted : EnclaveBridge.acceptsDocument platform.rsa doc'' with
            | false => rfl
            | true =>
                have hauthentic := acceptsDocument_iff.1 haccepted
                rw [matchesBaseline_iff.2 ⟨hauthentic.pcr0, hgated hauthentic⟩]
                rfl

/-- Along a run of admissions every peer is admitted on measured documents, and the two routes
answer alike to a document, exactly where the documents that pass the structural check of
`register-peer` have the baseline's `pcr1`. -/
theorem measurement_gate_iff (platform : Platform) :
    (∀ (node : Node) (requests : List AdmissionRequest),
      (Throughout (AdmissionSession.step platform) (AdmissionSession.AllMeasured platform)
          (.start node) requests ↔
        ∀ request ∈ requests, request.Gated platform)) ∧
      ∀ doc : JsValue, RoutesAgree platform doc ↔
        (Authentic platform.rsa doc → doc.get "pcr1" = .str expectedPcr1) := by
  refine ⟨fun node requests => ?_, routesAgree_iff platform⟩
  have hempty : AdmissionSession.AllMeasured platform (.start node) := by
    intro peer hmem
    cases hmem
  rw [throughout_iff_eachStep AdmissionSession.KeyedById
    (fun session request h => h.step platform request)
    (fun session request hkeyed h => AdmissionSession.allMeasured_step_iff hkeyed h)
    (AdmissionSession.keyedById_start node) hempty]
  exact eachStep_iff_forall

/-! ### A sample -/

/-- One key has signed the measurements of a debug build. -/
def debugPlatform : Platform :=
  { appendPlatform with
    rsa := fun publicKey data signature => some (publicKey = "key" &&
      data = EnclaveBridge.expectedPcr0 ++ ":debug" && signature = "0a") }

def debugDocument : JsValue :=
  .obj [("pcr0", EnclaveBridge.expectedPcr0), ("pcr1", "debug"), ("signature", "0a"),
    ("hsmPublicKey", "key")]

def debugRegistration : AdmissionRequest :=
  .registerPeer (.obj [("nodeId", "peer"), ("endpoint", "vsock://peer"),
    ("attestation", debugDocument)])

def debugJoin : AdmissionRequest :=
  .joinCluster (.obj [("nodeId", "peer"), ("attestationDocument", debugDocument)])

/-- The document the join route turns down for its measurements is admitted by the other one. -/
theorem debug_build_admitted :
    (debugJoin.handle debugPlatform openNode).2.code = 403 ∧
      (debugRegistration.handle debugPlatform openNode).2.code = 200 ∧
      ¬ Throughout (AdmissionSession.step debugPlatform)
        (AdmissionSession.AllMeasured debugPlatform) (.start openNode) [debugRegistration] := by
  have hanswers : (debugJoin.handle debugPlatform openNode).2.code = 403 ∧
      (debugRegistration.handle debugPlatform openNode).2.code = 200 := by
    decide +kernel
  refine ⟨hanswers.1, hanswers.2, ?_⟩
  intro h
  let last := AdmissionSession.step debugPlatform (.start openNode) debugRegistration
  have hpeers : last.node.cluster.getAttestedPeers.map ClusterPeer.nodeId = ["peer"] := by
    decide +kernel
  have hpcr1 : (last.documents.get? "peer").all fun doc => (doc.get "pcr1").isStr "debug" := by
    decide +kernel
  obtain ⟨peer, hpeer, hid⟩ := List.mem_map.1 (hpeers ▸ List.mem_singleton.2 rfl)
  obtain ⟨doc, hdoc, hmeasured⟩ := h.run peer hpeer
  change last.documents.get? peer.nodeId = some doc at hdoc
  rw [hid] at hdoc
  rw [hdoc, Option.all_some, JsValue.isStr_iff, hmeasured.pcr1] at hpcr1
  exact absurd (JsValue.str.inj hpcr1) (by decide)

end UniverEscrow.Router
