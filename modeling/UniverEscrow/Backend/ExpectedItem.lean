import UniverEscrow.Backend.HandshakeLifecycle
import UniverEscrow.Js.JsonRoundTrip

/-!
# The item that a photo is compared with

The metadata of a handshake lives in the column that every verdict and every failed payout
overwrites with a reason of its own, so the item is known until the first of these.
-/

namespace UniverEscrow.Backend

open UniverEscrow.Js UniverEscrow.Merkle UniverEscrow.Lib

/-- The item that metadata names. -/
def namedItem (metadata : JsValue) : Option JsValue :=
  (["expectedItem", "itemDescription", "provider_ref"].map metadata.get).find? JsValue.truthy

/-- The handshake, and the text of the item that the model is asked for. -/
def askedItem (jsonParse : JsonParse) (request : VerifyAssetRequest) (handshakes : Handshakes) :
    Reply (PayoutHandshake × String) := do
  replyUnless request.hasImage 400 "image_REQUIRED"
  let tenantId ← resolvedTenant request.tenantId
  let handshake ← orReply 404 "HANDSHAKE_NOT_FOUND" (handshakes.get? request.id)
  replyUnless (handshake.tenantId = tenantId) 403 "HANDSHAKE_TENANT_MISMATCH"
  let item ← thrownAs (fun _ => 500) (textOrThrow (expectedItem jsonParse handshake))
  return (handshake, item)

/-- A verification asks for that item. -/
theorem assetVerification_eq (jsonParse : JsonParse) (request : VerifyAssetRequest)
    (handshakes : Handshakes) :
    assetVerification jsonParse request handshakes = do
      let (handshake, item) ← askedItem jsonParse request handshakes
      let verification ← thrownAs (fun _ => 500) (assetResult (request.model item))
      return (handshake, verification) := by
  simp only [assetVerification, askedItem, bind_assoc, pure_bind]

theorem askedItem_eq_ok {jsonParse : JsonParse} {request : VerifyAssetRequest}
    {handshakes : Handshakes} {handshake : PayoutHandshake} {item : String}
    (h : askedItem jsonParse request handshakes = .ok (handshake, item)) :
    handshakes.get? request.id = some handshake ∧
      (expectedItem jsonParse handshake).toText = some item := by
  simp only [askedItem, bind_eq_ok, replyUnless_eq_ok, orReply_eq_ok, thrownAs_eq_ok,
    textOrThrow_eq_ok] at h
  obtain ⟨-, -, -, -, row, hfound, -, -, text, htext, heq⟩ := h
  cases heq
  exact ⟨hfound, htext⟩

/-! ## What a call does to the column -/

/-- The call stores a verdict or a payout of the handshake, and so overwrites the column. -/
def WritesReason (platform : HandshakePlatform) (id : String) (handshakes : Handshakes) :
    HandshakeCall → Prop
  | .verifyAndRelease _ _ => False
  | .processUniversalHandshake handshakeId _ =>
      handshakeId = id ∧ ∃ row, preflight handshakeId handshakes = .ok row
  | .verifyAndProcess request =>
      request.handshakeId = id ∧ ∃ found, proofVerification request handshakes = .ok found
  | .verifyAsset request =>
      request.id = id ∧
        ∃ found, assetVerification platform.jsonParse request handshakes = .ok found

/-- The call asks the model for the item of the handshake. -/
def AsksItem (platform : HandshakePlatform) (id : String) (handshakes : Handshakes) :
    HandshakeCall → Prop
  | .verifyAsset request =>
      request.id = id ∧ ∃ found, askedItem platform.jsonParse request handshakes = .ok found
  | _ => False

/-- Where the call asks the model, it is for the item that the metadata names. -/
def AsksNamedItem (platform : HandshakePlatform) (id : String) (metadata : JsValue)
    (handshakes : Handshakes) : HandshakeCall → Prop
  | .verifyAsset request =>
      request.id = id → ∀ handshake item,
        askedItem platform.jsonParse request handshakes = .ok (handshake, item) →
          (namedItem metadata).bind JsValue.toText = some item
  | _ => True

/-- The column of the handshake. -/
def reasonColumn (id : String) (handshakes : Handshakes) : Option (Option String) :=
  (handshakes.get? id).map PayoutHandshake.failureReason

theorem reasonColumn_set (id id' : String) (row : PayoutHandshake) (handshakes : Handshakes) :
    reasonColumn id (handshakes.set id' row) =
      if id = id' then some row.failureReason else reasonColumn id handshakes := by
  unfold reasonColumn
  rw [OrderedMap.get?_set]
  split_ifs <;> rfl

section Frame
variable {platform : HandshakePlatform} {id : String} {handshakes : Handshakes}

theorem reasonColumn_set_of_eq {id' : String} {row row' : PayoutHandshake}
    (hrow : handshakes.get? id' = some row) (hreason : row'.failureReason = row.failureReason) :
    reasonColumn id (handshakes.set id' row') = reasonColumn id handshakes := by
  rw [reasonColumn_set]
  split_ifs with hid
  · rw [hid, reasonColumn, hrow, hreason, Option.map_some]
  · rfl

theorem reasonColumn_process {handshakeId : String} {call : ProcessCall}
    (h : ¬WritesReason platform id handshakes (.processUniversalHandshake handshakeId call)) :
    reasonColumn id (processUniversalHandshake handshakeId call handshakes).1 =
      reasonColumn id handshakes := by
  have hprocesses := processes handshakeId call handshakes
  have hother {row : PayoutHandshake} (hpayable : Payable handshakeId handshakes row) :
      id ≠ handshakeId :=
    fun hid => h ⟨hid.symm, row, preflight_eq_ok.2 hpayable⟩
  generalize processUniversalHandshake handshakeId call handshakes = result at hprocesses ⊢
  cases hprocesses with
  | refused _ => rfl
  | released payable _ _ => rw [reasonColumn_set, if_neg (hother payable)]
  | failed payable => rw [reasonColumn_set, if_neg (hother payable)]

theorem reasonColumn_verifyAndProcess {request : VerifyProofRequest}
    (h : ¬WritesReason platform id handshakes (.verifyAndProcess request)) :
    reasonColumn id (verifyAndProcess request handshakes).1 = reasonColumn id handshakes := by
  rw [verifyAndProcess]
  cases hproof : proofVerification request handshakes with
  | error e => rfl
  | ok found =>
      obtain ⟨handshake, verification⟩ := found
      have hother : id ≠ request.handshakeId := fun hid => h ⟨hid.symm, _, hproof⟩
      have hstored : reasonColumn id
          (handshakes.set request.handshakeId (verifiedProof verification handshake)) =
            reasonColumn id handshakes := by
        rw [reasonColumn_set, if_neg hother]
      cases hproves : verification.proves with
      | false => simpa [hproves] using hstored
      | true =>
          simp only [hproves, ↓reduceIte]
          have hprocess : ¬WritesReason platform id
              (handshakes.set request.handshakeId (verifiedProof verification handshake))
              (.processUniversalHandshake request.handshakeId request.process) :=
            fun hwrites => hother hwrites.1.symm
          exact (reasonColumn_process hprocess).trans hstored

theorem reasonColumn_verifyAsset {request : VerifyAssetRequest}
    (h : ¬WritesReason platform id handshakes (.verifyAsset request)) :
    reasonColumn id (verifyAsset platform.jsonParse request handshakes).1 =
      reasonColumn id handshakes := by
  rw [verifyAsset]
  cases hasset : assetVerification platform.jsonParse request handshakes with
  | error e => rfl
  | ok found =>
      have hother : id ≠ request.id := fun hid => h ⟨hid.symm, _, hasset⟩
      obtain ⟨handshake, verification⟩ := found
      dsimp only
      rw [reasonColumn_set, if_neg hother]

/-- Any other call leaves the column. -/
theorem reasonColumn_of_not_writes {call : HandshakeCall}
    (h : ¬WritesReason platform id handshakes call) :
    reasonColumn id (afterHandshakeCall platform handshakes call) =
      reasonColumn id handshakes := by
  cases call with
  | verifyAndRelease nowMs input =>
      rw [afterHandshakeCall]
      cases hrelease : verifyAndRelease platform.sha256 nowMs input handshakes with
      | error message => rfl
      | ok result =>
          obtain ⟨after, row⟩ := result
          obtain ⟨request, before, -, hreleasable, hrow, hafter⟩ :=
            verifyAndRelease_eq_ok.1 hrelease
          rw [← hafter]
          exact reasonColumn_set_of_eq hreleasable.found (by rw [← hrow, releasedByOtp])
  | processUniversalHandshake handshakeId call => exact reasonColumn_process h
  | verifyAndProcess request => exact reasonColumn_verifyAndProcess h
  | verifyAsset request => exact reasonColumn_verifyAsset h

end Frame

/-! ## What `createHandshake` stores -/

theorem inOrder_get {v : JsValue} (h : InOrder v) (key : String) : InOrder (v.get key) := by
  cases h with
  | @obj members _ _ hmembers =>
      rw [JsValue.get]
      cases hfind : members.find? fun m => m.1 = key with
      | none => exact .undefined
      | some m => exact hmembers m (List.mem_of_find?_eq_some hfind)
  | arr _ =>
      rw [JsValue.get]
      split_ifs
      · exact .num _
      · exact .undefined
  | str s =>
      rw [JsValue.get]
      split_ifs
      · exact .num _
      · exact .undefined
  | _ => exact .undefined

theorem handshakeData_metadata {body : JsValue} {escrow_address : String} {data : HandshakeData}
    (hbody : InOrder body) (h : handshakeData body escrow_address = .ok data) :
    InOrder data.handshakeMetadata ∧ isRecord data.handshakeMetadata = true := by
  simp only [handshakeData, bind_eq_ok] at h
  obtain ⟨route, -, h⟩ := h
  split_ifs at h
  · simp only [openApiData, bind_eq_ok, replyUnless_eq_ok] at h
    obtain ⟨-, -, -, hrecord, _, -, _, -, _, -, heq⟩ := h
    cases heq
    exact ⟨inOrder_get hbody _, hrecord⟩
  · simp only [taskTextData, bind_eq_ok] at h
    obtain ⟨-, -, -, -, -, -, cents, -, h⟩ := h
    have hmetadata : InOrder (.obj
        [("provider_ref", body.get "provider_ref"), ("escrow_address", .str escrow_address)]) := by
      have hkeys : ["provider_ref", "escrow_address"].Nodup := by decide
      have horder : enumerates "provider_ref" "escrow_address" = true := by decide
      refine .obj hkeys (List.pairwise_pair.2 horder) ?_
      intro m hm
      rcases List.mem_pair.1 hm with rfl | rfl
      · exact inOrder_get hbody _
      · exact .str _
    split_ifs at h
    · cases h
      exact ⟨hmetadata, rfl⟩
    · cases h
      exact ⟨hmetadata, rfl⟩

/-- The row is in the table, with the text of its metadata in the column. -/
theorem reasonColumn_createHandshake {errors : CreateErrors} {tenantExists : String → Bool}
    {nextId : ℕ} {escrowUuid uuid : String} {tenantId : Option String} {body : JsValue}
    {before after : Handshakes} {opened : OpenedHandshake} (hbody : InOrder body)
    (hcreate : HandshakeController.createHandshake errors tenantExists nextId escrowUuid uuid
      tenantId body before = .ok (after, opened)) :
    InOrder opened.metadata ∧ isRecord opened.metadata = true ∧
      reasonColumn opened.created.handshakeId after =
        some (some opened.metadata.stringify) := by
  simp only [HandshakeController.createHandshake, bind_eq_ok, mapError_eq_ok] at hcreate
  obtain ⟨tenant, -, data, hdata, ⟨handshakes, row⟩, hstored, heq⟩ := hcreate
  obtain ⟨row', hrow, handshakes', hcreated, heq'⟩ := hstored
  cases heq'
  cases heq
  obtain ⟨horder, hrecord⟩ := handshakeData_metadata hbody hdata
  have hreason : row.failureReason = some data.handshakeMetadata.stringify := by
    simp only [openedRow, bind_eq_ok] at hrow
    obtain ⟨_, -, _, -, _, -, _, -, heq⟩ := hrow
    cases heq
    rfl
  have hset : before.set row.handshakeId row = handshakes := by
    simp only [Handshakes.create, bind_eq_ok] at hcreated
    obtain ⟨-, -, -, -, -, -, -, -, -, -, heq⟩ := hcreated
    exact Except.ok.inj heq
  refine ⟨horder, hrecord, ?_⟩
  rw [← hset, openedHandshake, reasonColumn_set, if_pos rfl, hreason]

/-! ## The item -/

/-- The metadata names an item that its JSON text names too. -/
def NamesItem (metadata : JsValue) : Prop :=
  ∃ item kept, namedItem metadata = some item ∧ namedItem metadata.viaJson = some kept ∧
    item.toText = kept.toText

theorem expectedItem_of_named {jsonParse : JsonParse} {handshake : PayoutHandshake}
    {item : JsValue}
    (h : namedItem (storedMetadata jsonParse handshake.failureReason) = some item) :
    expectedItem jsonParse handshake = item := by
  unfold expectedItem
  generalize storedMetadata jsonParse handshake.failureReason = metadata at h
  simp only [namedItem, List.map_cons, List.map_nil, List.find?_cons, List.find?_nil] at h
  unfold orElseFalsy
  cases hfirst : (metadata.get "expectedItem").truthy with
  | true => simpa [hfirst] using h
  | false =>
      cases hsecond : (metadata.get "itemDescription").truthy with
      | true => simpa [hfirst, hsecond] using h
      | false =>
          cases hthird : (metadata.get "provider_ref").truthy with
          | true => simpa [hfirst, hsecond, hthird] using h
          | false => simp [hfirst, hsecond, hthird] at h

theorem storedMetadata_stringify {metadata : JsValue} (horder : InOrder metadata)
    (hrecord : isRecord metadata = true) :
    storedMetadata parseJson (some metadata.stringify) = metadata.viaJson := by
  cases metadata with
  | obj members =>
      have hne : (JsValue.obj members).stringify ≠ "" := by
        intro hempty
        have hchars := JsValue.toList_stringify_obj members
        rw [hempty] at hchars
        cases hchars
      unfold storedMetadata
      split
      · rename_i heq
        cases heq
      · rename_i heq
        exact absurd (Option.some.inj heq) hne
      · rename_i text _ heq
        rw [← Option.some.inj heq, parseJson_stringify horder]
        rfl
  | _ => cases hrecord

/-- Hashing, and the JSON parser. -/
def parsingPlatform (sha256 : Sha256) : HandshakePlatform := ⟨sha256, parseJson⟩

theorem asksNamedItem_of_column {sha256 : Sha256} {id : String} {metadata : JsValue}
    {handshakes : Handshakes} {call : HandshakeCall} (horder : InOrder metadata)
    (hrecord : isRecord metadata = true) (hnames : NamesItem metadata)
    (hcolumn : reasonColumn id handshakes = some (some metadata.stringify)) :
    AsksNamedItem (parsingPlatform sha256) id metadata handshakes call := by
  obtain ⟨item, kept, hitem, hkept, htext⟩ := hnames
  cases call with
  | verifyAsset request =>
      intro hid handshake text hasked
      obtain ⟨hfound, hasks⟩ := askedItem_eq_ok hasked
      rw [hid] at hfound
      rw [reasonColumn, hfound, Option.map_some, Option.some.injEq] at hcolumn
      rw [← storedMetadata_stringify horder hrecord, ← hcolumn] at hkept
      rw [show (parsingPlatform sha256).jsonParse = parseJson from rfl,
        expectedItem_of_named hkept] at hasks
      rw [hitem, Option.bind_some, htext, hasks]
  | _ => trivial

theorem asksNamedItem_of_not_asks {platform : HandshakePlatform} {id : String}
    {metadata : JsValue} {handshakes : Handshakes} {call : HandshakeCall}
    (h : ¬AsksItem platform id handshakes call) :
    AsksNamedItem platform id metadata handshakes call := by
  cases call with
  | verifyAsset request =>
      intro hid handshake text hasked
      exact absurd ⟨hid, _, hasked⟩ h
  | _ => trivial

/-- From its creation on, as long as nothing has overwritten the column, a photo of the handshake
is compared with the item that the metadata names. -/
theorem asks_namedItem {sha256 : Sha256} {errors : CreateErrors}
    {tenantExists : String → Bool} {nextId : ℕ} {escrowUuid uuid : String}
    {tenantId : Option String} {body : JsValue} {before after : Handshakes}
    {opened : OpenedHandshake} (hbody : InOrder body)
    (hcreate : HandshakeController.createHandshake errors tenantExists nextId escrowUuid uuid
      tenantId body before = .ok (after, opened))
    (hnames : NamesItem opened.metadata) {calls : List HandshakeCall}
    (hcalls : Run.NeverAfter (afterHandshakeCall (parsingPlatform sha256))
      (WritesReason (parsingPlatform sha256) opened.created.handshakeId)
      (AsksItem (parsingPlatform sha256) opened.created.handshakeId) after calls) :
    Run.EachStep (afterHandshakeCall (parsingPlatform sha256))
      (AsksNamedItem (parsingPlatform sha256) opened.created.handshakeId opened.metadata)
      after calls := by
  obtain ⟨horder, hrecord, hcolumn⟩ := reasonColumn_createHandshake hbody hcreate
  have hkeep : ∀ handshakes call,
      reasonColumn opened.created.handshakeId handshakes = some (some opened.metadata.stringify) →
        ¬WritesReason (parsingPlatform sha256) opened.created.handshakeId handshakes call →
          reasonColumn opened.created.handshakeId
            (afterHandshakeCall (parsingPlatform sha256) handshakes call) =
              some (some opened.metadata.stringify) := by
    intro handshakes call hkept hwrites
    rw [reasonColumn_of_not_writes hwrites, hkept]
  exact Run.eachStep_of_neverAfter hkeep
    (fun _ _ hkept => asksNamedItem_of_column horder hrecord hnames hkept)
    (fun _ _ hasks => asksNamedItem_of_not_asks hasks) hcolumn hcalls

/-! ### A sample -/

/-- A request in the form of the OpenAPI schema, for a blue bicycle. -/
def bicycleBody : JsValue := .obj [("route", .str "MPESA"), ("amountKESCents", .str "125000"),
  ("amountUSDCents", .str "0"), ("exchangeRateKESPerUSDC", .str "0"),
  ("handshakeMetadata", .obj [("expectedItem", .str "Blue bicycle")])]

theorem inOrder_bicycleBody : InOrder bicycleBody := by
  refine .obj (by decide +kernel) (by decide +kernel) ?_
  intro m hm
  simp only [List.mem_cons, List.not_mem_nil, or_false] at hm
  rcases hm with rfl | rfl | rfl | rfl | rfl
  · exact .str _
  · exact .str _
  · exact .str _
  · exact .str _
  · refine .obj (by decide +kernel) (by decide +kernel) ?_
    intro m hm
    rw [List.mem_singleton.1 hm]
    exact .str _

def bicycleHandshake : Reply (Handshakes × OpenedHandshake) :=
  HandshakeController.createHandshake sampleErrors (fun _ => true) 1 "e-1" "u-1"
    (some "tenant-a") bicycleBody OrderedMap.empty

/-- A photo that the model takes for something else. -/
def scooterPhoto : VerifyAssetRequest where
  id := "hs_u-1"
  hasImage := true
  tenantId := some "tenant-a"
  model := fun _ => .text (some (.obj [("isMatch", .bool false), ("confidence", .num (.ofInt 1)),
    ("extractedDetails", .str "A red scooter"), ("issueDetected", .bool false)]))

/-- What the model is asked for after calls. -/
def askedAfter (handshakes : Handshakes) (calls : List HandshakeCall) : Option String :=
  ((askedItem parseJson scooterPhoto (Run.run (afterHandshakeCall
    (parsingPlatform passwordSha256)) handshakes calls)).toOption).map Prod.snd

/-- The identifier and the item of the sample, in the metadata and in its text, and what the first
and a second photo are compared with. -/
theorem bicycleHandshake_asks :
    (bicycleHandshake.toOption.map fun p => (p.2.created.handshakeId,
      (namedItem p.2.metadata).bind JsValue.toText,
      (namedItem p.2.metadata.viaJson).bind JsValue.toText, askedAfter p.1 [],
      askedAfter p.1 [.verifyAsset scooterPhoto])) =
    some ("hs_u-1", some "Blue bicycle", some "Blue bicycle", some "Blue bicycle",
      some "the expected item described by the handshake") := by
  decide +kernel

theorem bicycleHandshake_created :
    ∃ after opened, bicycleHandshake = .ok (after, opened) ∧
      opened.created.handshakeId = "hs_u-1" ∧ NamesItem opened.metadata ∧
      (namedItem opened.metadata).bind JsValue.toText = some "Blue bicycle" ∧
      askedAfter after [.verifyAsset scooterPhoto] =
        some "the expected item described by the handshake" := by
  obtain ⟨p, hp, heq⟩ := Option.map_eq_some_iff.1 bicycleHandshake_asks
  simp only [Prod.mk.injEq] at heq
  obtain ⟨hid, hnamed, hkept, -, hasked⟩ := heq
  have hcreate : bicycleHandshake = .ok p := by
    cases hresult : bicycleHandshake with
    | error e =>
        rw [hresult] at hp
        cases hp
    | ok q =>
        rw [hresult] at hp
        rw [← Option.some.inj hp]
  obtain ⟨item, hitem, htext⟩ := Option.bind_eq_some_iff.1 hnamed
  obtain ⟨kept, hkept, htext'⟩ := Option.bind_eq_some_iff.1 hkept
  exact ⟨p.1, p.2, hcreate, hid, ⟨item, kept, hitem, hkept, htext.trans htext'.symm⟩, hnamed,
    hasked⟩

/-- The first photo is compared with the bicycle. -/
theorem asks_namedItem_bicycle :
    ∃ after opened, bicycleHandshake = .ok (after, opened) ∧
      Run.EachStep (afterHandshakeCall (parsingPlatform passwordSha256))
        (AsksNamedItem (parsingPlatform passwordSha256) opened.created.handshakeId
          opened.metadata) after [.verifyAsset scooterPhoto] := by
  obtain ⟨after, opened, hcreate, -, hnames, -⟩ := bicycleHandshake_created
  exact ⟨after, opened, hcreate,
    asks_namedItem inOrder_bicycleBody hcreate hnames ⟨fun _ => trivial, trivial⟩⟩

/-- The second one, after a first verdict, is compared with no item of the handshake. -/
theorem bicycle_forgotten :
    ∃ after opened, bicycleHandshake = .ok (after, opened) ∧ NamesItem opened.metadata ∧
      ¬Run.EachStep (afterHandshakeCall (parsingPlatform passwordSha256))
        (AsksNamedItem (parsingPlatform passwordSha256) opened.created.handshakeId
          opened.metadata) after [.verifyAsset scooterPhoto, .verifyAsset scooterPhoto] := by
  obtain ⟨after, opened, hcreate, hid, hnames, hnamed, hasked⟩ := bicycleHandshake_created
  refine ⟨after, opened, hcreate, hnames, ?_⟩
  rintro ⟨-, hsecond, -⟩
  obtain ⟨found, hfound, htext⟩ := Option.map_eq_some_iff.1 hasked
  have hask : askedItem parseJson scooterPhoto (Run.run (afterHandshakeCall
      (parsingPlatform passwordSha256)) after [.verifyAsset scooterPhoto]) = .ok found := by
    generalize askedItem parseJson scooterPhoto _ = result at hfound
    cases result with
    | error e => cases hfound
    | ok q => rw [← Option.some.inj hfound]
  have hsame := hsecond hid.symm found.1 found.2 hask
  rw [hnamed, htext] at hsame
  exact absurd (Option.some.inj hsame) (by decide)

end UniverEscrow.Backend
