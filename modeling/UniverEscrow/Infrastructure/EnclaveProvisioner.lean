import UniverEscrow.Router.PeerAdmission

/-!
# Provisioned guests

A guest is given an attestation document that a fresh key has signed and that carries this key.  It
names neither the guest nor a key that the verifier knows, so it admits whoever presents it, and its
measurements alone decide.
-/

namespace UniverEscrow.Infrastructure

open UniverEscrow.Js UniverEscrow.Enclave UniverEscrow.Consensus UniverEscrow.Router
open UniverEscrow.Lib UniverEscrow.Lib.Run

/-! ## The factory -/

structure KeyPair where
  publicKey : String
  privateKey : String

/-- `rsaSha256HexSignature`. -/
abbrev RsaSign := (data privateKeyPem : String) → String

structure AttestationInputs where
  nodeId : String
  pcr0 : String
  pcr1 : String

structure AttestationDocument where
  pcr0 : String
  pcr1 : String
  signature : String
  hsmPublicKey : String

namespace AttestationFactory

def canonicalManifest (pcr0 pcr1 : String) : String := pcr0 ++ ":" ++ pcr1

/-- The document, signed with a key pair of its own, and the node id. -/
def createAttestationDocument (sign : RsaSign) (keys : KeyPair) (inputs : AttestationInputs) :
    AttestationDocument × String :=
  ({ pcr0 := inputs.pcr0
     pcr1 := inputs.pcr1
     signature := sign (canonicalManifest inputs.pcr0 inputs.pcr1) keys.privateKey
     hsmPublicKey := keys.publicKey }, inputs.nodeId)

end AttestationFactory

def AttestationDocument.toJson (doc : AttestationDocument) : JsValue :=
  .obj [("pcr0", doc.pcr0), ("pcr1", doc.pcr1), ("signature", doc.signature),
    ("hsmPublicKey", doc.hsmPublicKey)]

/-! ## The provisioner -/

structure ProvisioningProfile where
  nodeId : String
  listenPort : JsNumber
  vsockEndpoint : String
  pcr0 : String
  pcr1 : String
  memoryMbLimit : JsNumber

structure ProvisionedGuest where
  profile : ProvisioningProfile
  attestation : AttestationDocument

structure ProvisioningInputs where
  nodeId : String
  listenPort : JsNumber
  pcr0 : String
  pcr1 : String
  memoryMbLimit : Option JsNumber := none

namespace EnclaveProvisioner

def provisionEphemeralConfidentialNode (sign : RsaSign) (keys : KeyPair)
    (inputs : ProvisioningInputs) : ProvisionedGuest where
  profile := {
    nodeId := inputs.nodeId
    listenPort := inputs.listenPort
    vsockEndpoint := "vsock://localhost:" ++ inputs.listenPort.toText
    pcr0 := inputs.pcr0
    pcr1 := inputs.pcr1
    memoryMbLimit := (inputs.memoryMbLimit.filter (·.isFinite)).getD (.ofInt 256) }
  attestation := (AttestationFactory.createAttestationDocument sign keys
    ⟨inputs.nodeId, inputs.pcr0, inputs.pcr1⟩).1

/-- A guest whose measurements are wrong. -/
def provisionInvalidGuest (sign : RsaSign) (keys : KeyPair) (nodeId : String)
    (listenPort : JsNumber) : ProvisionedGuest :=
  provisionEphemeralConfidentialNode sign keys {
    nodeId := nodeId
    listenPort := listenPort
    pcr0 := "0000000000000000000000000000000000000000000000000000000000000000"
    pcr1 := "invalid-config" }

end EnclaveProvisioner

/-! ## What the verifier makes of it -/

/-- Signatures with the private key verify with the public one. -/
structure SignsFor (rsa : RsaVerify) (sign : RsaSign) (keys : KeyPair) : Prop where
  verifies : ∀ data, rsa keys.publicKey data (sign data keys.privateKey) = some true
  signature : ∀ data, sign data keys.privateKey ≠ ""
  publicKey : (jsTrim keys.publicKey).toList ≠ []

/-- What a guest presents. -/
def guestDocument (sign : RsaSign) (keys : KeyPair) (inputs : ProvisioningInputs) : JsValue :=
  (EnclaveProvisioner.provisionEphemeralConfidentialNode sign keys inputs).attestation.toJson

section Documents

variable {rsa : RsaVerify} {sign : RsaSign} {keys : KeyPair} {inputs : ProvisioningInputs}

theorem truthy_str {s : String} : (JsValue.str s).truthy = true ↔ s ≠ "" := by
  rw [JsValue.truthy, decide_eq_true_eq]

theorem get_pcr0 : (guestDocument sign keys inputs).get "pcr0" = .str inputs.pcr0 := rfl

theorem get_pcr1 : (guestDocument sign keys inputs).get "pcr1" = .str inputs.pcr1 := rfl

theorem get_signature : (guestDocument sign keys inputs).get "signature" =
    .str (sign (AttestationFactory.canonicalManifest inputs.pcr0 inputs.pcr1) keys.privateKey) :=
  rfl

theorem get_hsmPublicKey :
    (guestDocument sign keys inputs).get "hsmPublicKey" = .str keys.publicKey := rfl

theorem signatureVerified_guest (hsigns : SignsFor rsa sign keys) (inputs : ProvisioningInputs) :
    SignatureVerified rsa (guestDocument sign keys inputs) := by
  have hpublic : keys.publicKey ≠ "" := by
    intro hempty
    have htrim := hsigns.publicKey
    rw [hempty] at htrim
    exact htrim rfl
  have hpem : (JsValue.str keys.publicKey).truthy = true := truthy_str.2 hpublic
  have hlength : (jsTrim keys.publicKey).toList.length > 0 :=
    List.length_pos_of_ne_nil hsigns.publicKey
  refine ⟨_, get_signature, ?_⟩
  simp only [EnclaveBridge.signatureAccepted?, get_pcr0, get_pcr1, get_hsmPublicKey,
    JsValue.toText, JsValue.asString?_str, Option.bind_eq_bind, Option.bind_some, if_pos hpem,
    if_pos hlength]
  exact hsigns.verifies _

/-- The document of a guest is authentic exactly if it has the `pcr0` of the build and some
`pcr1`. -/
theorem authentic_guest_iff (hsigns : SignsFor rsa sign keys) :
    Authentic rsa (guestDocument sign keys inputs) ↔
      inputs.pcr0 = EnclaveBridge.expectedPcr0 ∧ inputs.pcr1 ≠ "" := by
  constructor
  · intro h
    have hcomplete := h.complete
    simp only [EnclaveBridge.completeDocument, Bool.and_eq_true, get_pcr1] at hcomplete
    refine ⟨JsValue.str.inj (get_pcr0.symm.trans h.pcr0), ?_⟩
    exact truthy_str.1 hcomplete.1.2
  · rintro ⟨hpcr0, hpcr1⟩
    refine ⟨?_, signatureVerified_guest hsigns inputs, get_pcr0.trans (congrArg JsValue.str hpcr0)⟩
    have hbuild : inputs.pcr0 ≠ "" := by
      rw [hpcr0]
      decide
    simp only [EnclaveBridge.completeDocument, Bool.and_eq_true, get_pcr0, get_pcr1, get_signature]
    exact ⟨⟨⟨rfl, truthy_str.2 hbuild⟩, truthy_str.2 hpcr1⟩, decide_eq_true (hsigns.signature _)⟩

theorem matchesBaseline_guest : matchesBaseline (guestDocument sign keys inputs) = true ↔
    inputs.pcr0 = EnclaveBridge.expectedPcr0 ∧ inputs.pcr1 = expectedPcr1 := by
  rw [matchesBaseline_iff, get_pcr0, get_pcr1, JsValue.str.injEq, JsValue.str.injEq]

end Documents

/-! ## Guests that ask to be admitted -/

/-- The routes that admit a peer. -/
inductive AdmissionRoute where
  | joinCluster
  | registerPeer (endpoint : String)

/-- A guest that asks under some id, on one of the routes. -/
structure GuestRequest where
  route : AdmissionRoute
  presentedId : String
  keys : KeyPair
  inputs : ProvisioningInputs

namespace GuestRequest

def request (sign : RsaSign) (guest : GuestRequest) : AdmissionRequest :=
  match guest.route with
  | .joinCluster => .joinCluster (.obj [("nodeId", guest.presentedId),
      ("attestationDocument", guestDocument sign guest.keys guest.inputs)])
  | .registerPeer endpoint => .registerPeer (.obj [("nodeId", guest.presentedId),
      ("endpoint", endpoint), ("attestation", guestDocument sign guest.keys guest.inputs)])

def endpoint (guest : GuestRequest) : String :=
  match guest.route with
  | .joinCluster => "vsock://internal/" ++ guest.presentedId
  | .registerPeer endpoint => endpoint

/-- No member is empty. -/
def complete (guest : GuestRequest) : Bool :=
  match guest.route with
  | .joinCluster => guest.presentedId ≠ ""
  | .registerPeer endpoint => guest.presentedId ≠ "" && endpoint ≠ ""

/-- The measurements are those that the route asks for. -/
def measured (guest : GuestRequest) : Bool :=
  guest.inputs.pcr0 = EnclaveBridge.expectedPcr0 &&
    match guest.route with
    | .joinCluster => guest.inputs.pcr1 = expectedPcr1
    | .registerPeer _ => guest.inputs.pcr1 ≠ ""

variable {platform : Platform} {sign : RsaSign} {guest : GuestRequest} {node : Node}

section Gates

variable {presentedId endpoint : String} {doc : JsValue}

theorem joinGate_guest (hid : presentedId ≠ "") (hdoc : doc.truthy = true) :
    joinGate (.obj [("nodeId", presentedId), ("attestationDocument", doc)]) =
      .ok (presentedId, doc) := by
  simp only [joinGate, bind_eq_ok, answerUnless_eq_ok, orAnswer_eq_ok]
  exact ⟨(), truthy_str.2 hid, presentedId, rfl, (), hdoc, rfl⟩

theorem registerGate_guest (hid : presentedId ≠ "") (hendpoint : endpoint ≠ "")
    (hdoc : doc.truthy = true) :
    registerGate (.obj [("nodeId", presentedId), ("endpoint", endpoint), ("attestation", doc)]) =
      .ok (presentedId, endpoint, doc) := by
  simp only [registerGate, bind_eq_ok, answerUnless_eq_ok, orAnswer_eq_ok, Bool.and_eq_true]
  exact ⟨(), ⟨⟨truthy_str.2 hid, truthy_str.2 hendpoint⟩, hdoc⟩, presentedId, rfl, endpoint, rfl,
    rfl⟩

theorem registerGate_guest_of_empty (h : ¬(presentedId ≠ "" ∧ endpoint ≠ "")) :
    registerGate (.obj [("nodeId", presentedId), ("endpoint", endpoint), ("attestation", doc)]) =
      .error (failed 400 "Missing registration matrices.") := by
  have hmissing : ((JsValue.str presentedId).truthy && (JsValue.str endpoint).truthy) = false := by
    rw [Bool.eq_false_iff, ne_eq, Bool.and_eq_true, truthy_str, truthy_str]
    exact h
  unfold registerGate
  change (answerUnless ((JsValue.str presentedId).truthy && (JsValue.str endpoint).truthy &&
    doc.truthy) _ >>= _) = _
  rw [hmissing]
  rfl

end Gates

theorem submission_request : (guest.request sign).submission =
    if guest.complete then
      some (guest.presentedId, guest.endpoint, guestDocument sign guest.keys guest.inputs)
    else none := by
  obtain ⟨route, presentedId, keys, inputs⟩ := guest
  cases route with
  | joinCluster =>
      rw [complete, request, AdmissionRequest.submission]
      by_cases hid : presentedId = ""
      · subst hid
        rfl
      · rw [joinGate_guest hid rfl, if_pos (decide_eq_true hid)]
        rfl
  | registerPeer endpoint =>
      rw [complete, request, AdmissionRequest.submission]
      by_cases hmembers : presentedId ≠ "" ∧ endpoint ≠ ""
      · rw [registerGate_guest hmembers.1 hmembers.2 rfl, if_pos (by simpa using hmembers)]
        rfl
      · rw [registerGate_guest_of_empty hmembers, if_neg (by simpa using hmembers)]
        rfl

theorem admits_request (hsigns : SignsFor platform.rsa sign guest.keys) :
    (guest.request sign).admits platform (guestDocument sign guest.keys guest.inputs) =
      guest.measured := by
  have haccepts := acceptsDocument_iff.trans (@authentic_guest_iff _ _ _ guest.inputs hsigns)
  obtain ⟨route, presentedId, keys, inputs⟩ := guest
  rw [Bool.eq_iff_iff]
  cases route with
  | joinCluster =>
      rw [request, AdmissionRequest.admits, Bool.and_eq_true, haccepts, matchesBaseline_guest,
        measured]
      simp only [Bool.and_eq_true, decide_eq_true_eq]
      constructor
      · exact fun h => h.2
      · intro h
        refine ⟨⟨h.1, ?_⟩, h⟩
        rw [h.2]
        decide
  | registerPeer endpoint =>
      rw [request, AdmissionRequest.admits, haccepts, measured]
      simp

/-- A guest is admitted under the id that it presents, or it is refused and changes no peer. -/
theorem handle_guest (hsigns : SignsFor platform.rsa sign guest.keys) :
    ((guest.request sign).handle platform node).1.cluster =
        (if guest.complete && guest.measured then
          ⟨node.cluster.peers.set guest.presentedId
            (admittedPeer guest.presentedId guest.endpoint)⟩
        else node.cluster) ∧
      (((guest.request sign).handle platform node).2.code = 200 ↔
        (guest.complete && guest.measured) = true) := by
  have hsubmission : (guest.request sign).submission = _ := submission_request
  cases hcomplete : guest.complete with
  | false =>
      rw [hcomplete] at hsubmission
      obtain ⟨hcluster, hcode⟩ := AdmissionRequest.handle_of_none platform node hsubmission
      exact ⟨hcluster, fun h => absurd h hcode, fun h => by cases h⟩
  | true =>
      rw [hcomplete] at hsubmission
      obtain ⟨hcluster, hcode⟩ := AdmissionRequest.handle_of_some platform node hsubmission
      rw [admits_request hsigns] at hcluster hcode
      exact ⟨hcluster, hcode⟩

/-! ## Runs of guests -/

/-- The node after the guests have asked, one after the other. -/
def admitAll (platform : Platform) (sign : RsaSign) (node : Node) (guests : List GuestRequest) :
    Node :=
  run (fun node guest => ((guest.request sign).handle platform node).1) node guests

/-- A guest adds its id, if it is admitted. -/
theorem isSome_handle_guest (hsigns : SignsFor platform.rsa sign guest.keys) (id : NodeId) :
    ((((guest.request sign).handle platform node).1.cluster.peers.get? id).isSome = true) ↔
      (node.cluster.peers.get? id).isSome = true ∨
        guest.presentedId = id ∧ guest.complete = true ∧ guest.measured = true := by
  rw [(handle_guest hsigns).1]
  cases hadmitted : guest.complete && guest.measured with
  | false =>
      rw [Bool.and_eq_false_iff] at hadmitted
      have hrefused : ¬(guest.complete = true ∧ guest.measured = true) := by
        rintro ⟨hcomplete, hmeasured⟩
        simp [hcomplete, hmeasured] at hadmitted
      simp [hrefused]
  | true =>
      rw [Bool.and_eq_true] at hadmitted
      rw [if_pos rfl, OrderedMap.get?_set]
      by_cases hid : id = guest.presentedId
      · simp [hid, hadmitted]
      · rw [if_neg hid]
        simp [Ne.symm hid]

/-- In every sequence of guests, whoever they were provisioned for and whichever keys they have, the
peers are those that were there and the ids that some guest with the right measurements has
presented. -/
theorem admitAll_peers_iff {guests : List GuestRequest}
    (hsigns : ∀ guest ∈ guests, SignsFor platform.rsa sign guest.keys) (id : NodeId) :
    ((admitAll platform sign node guests).cluster.peers.get? id).isSome = true ↔
      (node.cluster.peers.get? id).isSome = true ∨ ∃ guest ∈ guests,
        guest.presentedId = id ∧ guest.complete = true ∧ guest.measured = true := by
  induction guests generalizing node with
  | nil => simp [admitAll]
  | cons guest guests ih =>
      obtain ⟨hguest, hguests⟩ := List.forall_mem_cons.1 hsigns
      rw [admitAll, run_cons, ← admitAll, ih hguests, isSome_handle_guest hguest, or_assoc]
      simp only [List.mem_cons, exists_eq_or_imp]

/-! ### A sample -/

def guestSign : RsaSign := fun data privateKeyPem => privateKeyPem ++ data

/-- The keys of one pair belong together. -/
def guestPlatform : Platform :=
  { appendPlatform with
    rsa := fun publicKey data signature =>
      some (publicKey = "public" && signature = "private" ++ data) }

/-- A guest of the build that asks under the name of another one. -/
def baselineGuest : GuestRequest where
  route := .joinCluster
  presentedId := "other"
  keys := ⟨"public", "private"⟩
  inputs := {
    nodeId := "guest"
    listenPort := .ofInt 5000
    pcr0 := EnclaveBridge.expectedPcr0
    pcr1 := expectedPcr1 }

theorem signsFor_baselineGuest : SignsFor guestPlatform.rsa guestSign baselineGuest.keys where
  verifies data := by simp [guestPlatform, guestSign, baselineGuest]
  signature data := by
    rw [guestSign, ne_eq, String.append_eq_empty_iff]
    exact fun h => absurd h.1 (by decide)
  publicKey := by decide

theorem admitAll_peers_iff_sample :
    ((admitAll guestPlatform guestSign openNode [baselineGuest]).cluster.peers.get?
      "other").isSome = true := by
  rw [admitAll_peers_iff (by simpa using signsFor_baselineGuest)]
  exact .inr ⟨baselineGuest, List.mem_singleton.2 rfl, rfl, rfl, rfl⟩

end GuestRequest

end UniverEscrow.Infrastructure
