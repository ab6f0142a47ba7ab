import UniverEscrow.Ledger.NotaryAnchorService
import UniverEscrow.Lib.Run
import UniverEscrow.Merkle.LedgerMerkle

/-!
# What the notary service holds

The service keeps the latest state in memory and in a cache file.  Responses of broadcasts and
fetches overwrite both in the order they arrive; the first fetch after a start overwrites memory
with the file.  The system around it is the notary, which numbers the states it issues upwards,
and the responses on their way.
-/

namespace UniverEscrow.Ledger

open UniverEscrow.Js UniverEscrow.Merkle UniverEscrow.Lib.Run

/-- The sequence number of a state that passed the checks, which is an integer. -/
def NotaryAuthoritativeState.number (s : NotaryAuthoritativeState) : ℚ :=
  match s.sequenceNumber with
  | .fin x => x.val
  | _ => 0

/-- The file: absent, not to be read as JSON, or with its JSON value. -/
inductive CacheFile where
  | missing
  | unreadable
  | json (parsed : JsValue)

/-- How a write of the file ends; `persistCache` swallows the errors. -/
inductive CacheWrite where
  | written
  | failed
  | torn
deriving DecidableEq

structure NotaryAnchorService where
  latestInMemory : Option NotaryAuthoritativeState
  cacheLoaded : Bool
  cacheFile : CacheFile

/-- What a response that arrives is written with. -/
structure CacheMoment where
  write : CacheWrite
  updatedAt : String

/-! ## JSON -/

def NotaryWitnessSignature.toJs (w : NotaryWitnessSignature) : JsValue :=
  .obj [("witnessId", w.witnessId), ("signature", w.signature)]

def NotaryAuthoritativeState.signaturesJs (s : NotaryAuthoritativeState) : JsValue :=
  .arr (s.witnessSignatures.map NotaryWitnessSignature.toJs)

/-- The members in the order the network adapter sets them. -/
def NotaryAuthoritativeState.members (s : NotaryAuthoritativeState) : List (String × JsValue) :=
  [("root", .str s.root), ("sequenceNumber", .num s.sequenceNumber),
    ("anchoringTimestamp", .str s.anchoringTimestamp), ("witnessSignatures", s.signaturesJs)]

/-- The members in the order `broadcastRootAnchor` sets them. -/
def NotaryAuthoritativeState.broadcastMembers (s : NotaryAuthoritativeState) :
    List (String × JsValue) :=
  [("sequenceNumber", .num s.sequenceNumber), ("anchoringTimestamp", .str s.anchoringTimestamp),
    ("witnessSignatures", s.signaturesJs), ("root", .str s.root)]

/-! ## The service -/

/-- A broadcast response is checked like a state. -/
def postAnchor (reply : NotaryReply) : Option NotaryAuthoritativeState :=
  getAuthoritativeState reply

namespace NotaryAnchorService

/-- A process that starts with the given file. -/
def start (cacheFile : CacheFile) : NotaryAnchorService := ⟨none, false, cacheFile⟩

def persistCache (sha256 : Sha256) (moment : CacheMoment) (members : List (String × JsValue))
    (service : NotaryAnchorService) : NotaryAnchorService :=
  match moment.write with
  | .written =>
      { service with
        cacheFile := .json (.obj (members ++
          [("_cacheFingerprint", .str (sha256Hex sha256 (JsValue.stringify (.obj members)))),
            ("updatedAt", .str moment.updatedAt)])) }
  | .failed => service
  | .torn => { service with cacheFile := .unreadable }

/-- The file is checked like a state. -/
def readCache : CacheFile → Option NotaryAuthoritativeState
  | .json parsed => getAuthoritativeState (.body parsed)
  | _ => none

/-- `broadcastRootAnchor`, when the response arrives. -/
def broadcastArrives (sha256 : Sha256) (moment : CacheMoment) (reply : NotaryReply)
    (service : NotaryAnchorService) : NotaryAnchorService :=
  match postAnchor reply with
  | none => service
  | some resp =>
      persistCache sha256 moment resp.broadcastMembers { service with latestInMemory := some resp }

/-- `fetchAuthoritativeState`, when the response of an attempt arrives. -/
def fetchArrives (sha256 : Sha256) (moment : CacheMoment) (reply : NotaryReply)
    (service : NotaryAnchorService) : NotaryAnchorService :=
  match getAuthoritativeState reply with
  | none => service
  | some s => persistCache sha256 moment s.members { service with latestInMemory := some s }

/-- What `fetchAuthoritativeState` and `getLatestCachedAuthoritativeState` begin with. -/
def loadCacheIfNeeded (service : NotaryAnchorService) : NotaryAnchorService :=
  if service.cacheLoaded then service
  else { service with cacheLoaded := true, latestInMemory := readCache service.cacheFile }

end NotaryAnchorService

/-! ## The notary and the responses on their way -/

inductive NotaryEndpoint where
  | anchor
  | state

structure NotaryResponse where
  endpoint : NotaryEndpoint
  reply : NotaryReply

/-- The state the notary issued last, the service, the responses on their way to it, and the
numbers last held in memory and in the file. -/
structure NotarySystem where
  issued : Option NotaryAuthoritativeState
  service : NotaryAnchorService
  inFlight : List NotaryResponse
  lastInMemory : Option ℚ
  lastInFile : Option ℚ

/-- The service starts for the first time, and no state has been issued. -/
def NotarySystem.first : NotarySystem := ⟨none, .start .missing, [], none, none⟩

inductive NotaryEvent where
  /-- A broadcast reaches the notary, which issues a state for it. -/
  | anchor (s : NotaryAuthoritativeState)
  /-- A fetch reaches the notary. -/
  | state
  | arrives (index : ℕ) (moment : CacheMoment)
  /-- The attempt ends without its response. -/
  | lost (index : ℕ)
  | loadCache
  | restart

/-- The notary issues integer numbers, each higher than the last. -/
def NotarySystem.Issues (sys : NotarySystem) (s : NotaryAuthoritativeState) : Prop :=
  s.sequenceNumber.isInteger = true ∧ ∀ last ∈ sys.issued, last.number < s.number

instance (sys : NotarySystem) (s : NotaryAuthoritativeState) : Decidable (sys.Issues s) :=
  inferInstanceAs (Decidable (_ ∧ ∀ last ∈ sys.issued, _))

def NotaryAuthoritativeState.reply (s : NotaryAuthoritativeState) : NotaryReply :=
  .body (.obj s.members)

namespace NotarySystem

variable (sha256 : Sha256)

/-- The response arrives at the service. -/
def arrive (moment : CacheMoment) (service : NotaryAnchorService) (response : NotaryResponse) :
    NotaryAnchorService :=
  match response.endpoint with
  | .anchor => service.broadcastArrives sha256 moment response.reply
  | .state => service.fetchArrives sha256 moment response.reply

/-- The system after the event, but for the record of the numbers held. -/
def event (sys : NotarySystem) : NotaryEvent → NotarySystem
  | .anchor s =>
      if sys.Issues s then
        { sys with issued := some s, inFlight := sys.inFlight ++ [⟨.anchor, s.reply⟩] }
      else sys
  | .state =>
      { sys with
        inFlight := sys.inFlight ++
          [⟨.state, (sys.issued.map NotaryAuthoritativeState.reply).getD .failed⟩] }
  | .arrives index moment =>
      match sys.inFlight[index]? with
      | none => sys
      | some response =>
          { sys with inFlight := sys.inFlight.eraseIdx index,
                     service := arrive sha256 moment sys.service response }
  | .lost index => { sys with inFlight := sys.inFlight.eraseIdx index }
  | .loadCache => { sys with service := sys.service.loadCacheIfNeeded }
  -- the requests of the old process end with it
  | .restart => { sys with service := .start sys.service.cacheFile, inFlight := [] }

/-- The number in memory. -/
def memoryNumber (sys : NotarySystem) : Option ℚ :=
  sys.service.latestInMemory.map NotaryAuthoritativeState.number

/-- The number in the cache file. -/
def fileNumber (sys : NotarySystem) : Option ℚ :=
  (NotaryAnchorService.readCache sys.service.cacheFile).map NotaryAuthoritativeState.number

def step (sys : NotarySystem) (e : NotaryEvent) : NotarySystem :=
  let after := sys.event sha256 e
  { after with lastInMemory := after.memoryNumber.or sys.lastInMemory,
               lastInFile := after.fileNumber.or sys.lastInFile }

end NotarySystem

/-! ## Reading back what was written -/

section Checks

variable {s : NotaryAuthoritativeState} {reply : NotaryReply}

/-- The state passes the checks. -/
def NotaryAuthoritativeState.Checked (s : NotaryAuthoritativeState) : Prop :=
  s.root ≠ "" ∧ s.sequenceNumber.isInteger = true ∧ s.anchoringTimestamp ≠ ""

theorem mapM_ofJs?_toJs (signatures : List NotaryWitnessSignature) :
    (signatures.map NotaryWitnessSignature.toJs).mapM NotaryWitnessSignature.ofJs? =
      some signatures := by
  induction signatures with
  | nil => rfl
  | cons w ws ih =>
      rw [List.map_cons, List.mapM_cons, ih]
      rfl

theorem getAuthoritativeState_obj {members : List (String × JsValue)} (hs : s.Checked)
    (hroot : (JsValue.obj members).get "root" = .str s.root)
    (hnumber : (JsValue.obj members).get "sequenceNumber" = .num s.sequenceNumber)
    (htime : (JsValue.obj members).get "anchoringTimestamp" = .str s.anchoringTimestamp)
    (hsignatures : (JsValue.obj members).get "witnessSignatures" = s.signaturesJs) :
    getAuthoritativeState (.body (.obj members)) = some s := by
  obtain ⟨hroot', hinteger, htime'⟩ := hs
  simp only [getAuthoritativeState, hroot, hnumber, htime, hsignatures,
    NotaryAuthoritativeState.signaturesJs, mapM_ofJs?_toJs]
  simp [JsValue.isObject, hroot', hinteger, htime']

theorem checked_of_getAuthoritativeState (h : getAuthoritativeState reply = some s) :
    s.Checked := by
  cases reply with
  | failed => cases h
  | body parsed =>
      unfold getAuthoritativeState at h
      dsimp only at h
      split at h
      · rename_i root number time signatures _ _ _ _
        split at h
        · rename_i hchecks
          simp only [Bool.and_eq_true, decide_eq_true_eq] at hchecks
          obtain ⟨witnessSignatures, -, hs⟩ := Option.bind_eq_some_iff.1 h
          cases hs
          exact ⟨hchecks.1.1.2, hchecks.1.2, hchecks.2⟩
        · cases h
      · cases h

variable {sha256 : Sha256} {moment : CacheMoment} {members : List (String × JsValue)}
  {service : NotaryAnchorService}

/-- A state that was taken over is read back from the file it was written to. -/
theorem readCache_persistCache (hs : s.Checked)
    (hmembers : members = s.members ∨ members = s.broadcastMembers)
    (hwrite : moment.write = .written) :
    NotaryAnchorService.readCache
        (service.persistCache sha256 moment members).cacheFile = some s := by
  simp only [NotaryAnchorService.persistCache, hwrite, NotaryAnchorService.readCache]
  cases hmembers with
  | inl h => subst h; exact getAuthoritativeState_obj hs rfl rfl rfl rfl
  | inr h => subst h; exact getAuthoritativeState_obj hs rfl rfl rfl rfl

theorem persistCache_latestInMemory :
    (service.persistCache sha256 moment members).latestInMemory = service.latestInMemory := by
  unfold NotaryAnchorService.persistCache
  split <;> rfl

/-- The file holds what is written, what it held, or nothing. -/
theorem readCache_persistCache_cases (hs : s.Checked)
    (hmembers : members = s.members ∨ members = s.broadcastMembers) :
    NotaryAnchorService.readCache (service.persistCache sha256 moment members).cacheFile =
        some s ∨
      NotaryAnchorService.readCache (service.persistCache sha256 moment members).cacheFile =
        NotaryAnchorService.readCache service.cacheFile ∨
      NotaryAnchorService.readCache (service.persistCache sha256 moment members).cacheFile =
        none := by
  cases hwrite : moment.write with
  | written => exact .inl (readCache_persistCache hs hmembers hwrite)
  | failed =>
      unfold NotaryAnchorService.persistCache
      rw [hwrite]
      exact .inr (.inl rfl)
  | torn =>
      unfold NotaryAnchorService.persistCache
      rw [hwrite]
      exact .inr (.inr rfl)

end Checks

/-! ## One event -/

namespace NotarySystem

variable {sha256 : Sha256} {sys : NotarySystem} {e : NotaryEvent} {n : ℚ}

/-- The number that the event puts into memory. -/
def taken (sys : NotarySystem) : NotaryEvent → Option ℚ
  | .arrives index _ =>
      (sys.inFlight[index]?.bind fun response => getAuthoritativeState response.reply).map
        NotaryAuthoritativeState.number
  | .loadCache => if sys.service.cacheLoaded then none else sys.fileNumber
  | _ => none

/-- A number in memory or in the file after the event is not below the last one there. -/
def NeverDecreases (sha256 : Sha256) (sys : NotarySystem) (e : NotaryEvent) : Prop :=
  (∀ n ∈ (sys.step sha256 e).memoryNumber, ∀ m ∈ sys.lastInMemory, m ≤ n) ∧
    ∀ n ∈ (sys.step sha256 e).fileNumber, ∀ m ∈ sys.lastInFile, m ≤ n

/-- A response that arrives, or a file that is loaded, is not older than what memory held last. -/
def TakesNoOlder (sys : NotarySystem) (e : NotaryEvent) : Prop :=
  ∀ n ∈ sys.taken e, ∀ m ∈ sys.lastInMemory, m ≤ n

/-- The record is what is held, and what was in the file had been in memory. -/
structure Recorded (sys : NotarySystem) : Prop where
  memory : ∀ n ∈ sys.memoryNumber, sys.lastInMemory = some n
  file : ∀ n ∈ sys.fileNumber, sys.lastInFile = some n
  fileLe : ∀ f ∈ sys.lastInFile, ∃ m ∈ sys.lastInMemory, f ≤ m

theorem arrive_none {moment : CacheMoment} {service : NotaryAnchorService}
    {response : NotaryResponse} (h : getAuthoritativeState response.reply = none) :
    arrive sha256 moment service response = service := by
  obtain ⟨endpoint, reply⟩ := response
  cases endpoint with
  | anchor => simp only [arrive, NotaryAnchorService.broadcastArrives, postAnchor, h]
  | state => simp only [arrive, NotaryAnchorService.fetchArrives, h]

theorem arrive_some {moment : CacheMoment} {service : NotaryAnchorService}
    {response : NotaryResponse} {s : NotaryAuthoritativeState}
    (h : getAuthoritativeState response.reply = some s) :
    ∃ members, (members = s.members ∨ members = s.broadcastMembers) ∧
      arrive sha256 moment service response =
        { service with latestInMemory := some s }.persistCache sha256 moment members := by
  obtain ⟨endpoint, reply⟩ := response
  cases endpoint with
  | anchor =>
      exact ⟨_, .inr rfl, by
        simp only [arrive, NotaryAnchorService.broadcastArrives, postAnchor, h]⟩
  | state => exact ⟨_, .inl rfl, by simp only [arrive, NotaryAnchorService.fetchArrives, h]⟩

/-- A state that is taken is in memory; the file has it too, or was not written, or was cut. -/
def Takes (sha256 : Sha256) (sys : NotarySystem) (e : NotaryEvent) : Prop :=
  ∃ n, sys.taken e = some n ∧ (sys.event sha256 e).memoryNumber = some n ∧
    ((sys.event sha256 e).fileNumber = some n ∨
      (sys.event sha256 e).fileNumber = sys.fileNumber ∨
      (sys.event sha256 e).fileNumber = none)

/-- Any other event leaves the file alone, and memory too unless it is lost. -/
def TakesNothing (sha256 : Sha256) (sys : NotarySystem) (e : NotaryEvent) : Prop :=
  sys.taken e = none ∧ (sys.event sha256 e).fileNumber = sys.fileNumber ∧
    ((sys.event sha256 e).memoryNumber = none ∨
      (sys.event sha256 e).memoryNumber = sys.memoryNumber)

theorem loadCache_cases :
    Takes sha256 sys .loadCache ∨ TakesNothing sha256 sys .loadCache := by
  unfold Takes TakesNothing event taken
  dsimp only
  cases hloaded : sys.service.cacheLoaded with
  | true =>
      rw [if_pos rfl]
      refine .inr ⟨rfl, ?_, .inr ?_⟩
      all_goals simp [memoryNumber, fileNumber, NotaryAnchorService.loadCacheIfNeeded, hloaded]
  | false =>
      have hmemory : ({ sys with service := sys.service.loadCacheIfNeeded } :
          NotarySystem).memoryNumber = sys.fileNumber := by
        simp [memoryNumber, fileNumber, NotaryAnchorService.loadCacheIfNeeded, hloaded]
      have hfile : ({ sys with service := sys.service.loadCacheIfNeeded } :
          NotarySystem).fileNumber = sys.fileNumber := by
        simp [fileNumber, NotaryAnchorService.loadCacheIfNeeded, hloaded]
      rw [hmemory, hfile, if_neg Bool.false_ne_true]
      cases sys.fileNumber with
      | none => exact .inr ⟨rfl, rfl, .inl rfl⟩
      | some n => exact .inl ⟨n, rfl, rfl, .inl rfl⟩

theorem takes_response {index : ℕ} {moment : CacheMoment} {response : NotaryResponse}
    {s : NotaryAuthoritativeState} (hresponse : sys.inFlight[index]? = some response)
    (haccepted : getAuthoritativeState response.reply = some s) :
    Takes sha256 sys (.arrives index moment) := by
  obtain ⟨members, hmembers, harrive⟩ :=
    @arrive_some sha256 moment sys.service response s haccepted
  have hmemory : (arrive sha256 moment sys.service response).latestInMemory = some s := by
    rw [harrive, persistCache_latestInMemory]
  have hfile := @readCache_persistCache_cases s sha256 moment members
    { sys.service with latestInMemory := some s }
    (checked_of_getAuthoritativeState haccepted) hmembers
  rw [← harrive] at hfile
  unfold Takes event taken
  dsimp only
  rw [hresponse]
  dsimp only [Option.bind]
  rw [haccepted]
  refine ⟨s.number, rfl, ?_, ?_⟩
  · simp only [memoryNumber, hmemory, Option.map_some]
  · unfold fileNumber
    dsimp only
    cases hfile with
    | inl h => exact .inl (by rw [h]; rfl)
    | inr hfile =>
        cases hfile with
        | inl h => exact .inr (.inl (by rw [h]))
        | inr h => exact .inr (.inr (by rw [h]; rfl))

theorem arrives_cases {index : ℕ} {moment : CacheMoment} :
    Takes sha256 sys (.arrives index moment) ∨ TakesNothing sha256 sys (.arrives index moment) := by
  cases hresponse : sys.inFlight[index]? with
  | none =>
      right
      unfold TakesNothing event taken
      dsimp only
      rw [hresponse]
      exact ⟨rfl, rfl, .inr rfl⟩
  | some response =>
      cases haccepted : getAuthoritativeState response.reply with
      | some s => exact .inl (takes_response hresponse haccepted)
      | none =>
          right
          unfold TakesNothing event taken
          dsimp only
          rw [hresponse]
          dsimp only [Option.bind]
          rw [haccepted, arrive_none haccepted]
          exact ⟨rfl, rfl, .inr rfl⟩

/-- What the event does to memory and to the file. -/
theorem event_cases : Takes sha256 sys e ∨ TakesNothing sha256 sys e := by
  cases e with
  | anchor s =>
      refine .inr ⟨rfl, ?_, .inr ?_⟩
      all_goals
        unfold event
        dsimp only
        split <;> rfl
  | state => exact .inr ⟨rfl, rfl, .inr rfl⟩
  | lost index => exact .inr ⟨rfl, rfl, .inr rfl⟩
  | restart => exact .inr ⟨rfl, rfl, .inl rfl⟩
  | loadCache => exact loadCache_cases
  | arrives index moment => exact arrives_cases

theorem step_memoryNumber : (sys.step sha256 e).memoryNumber = (sys.event sha256 e).memoryNumber :=
  rfl

theorem step_fileNumber : (sys.step sha256 e).fileNumber = (sys.event sha256 e).fileNumber := rfl

theorem step_lastInMemory :
    (sys.step sha256 e).lastInMemory = (sys.event sha256 e).memoryNumber.or sys.lastInMemory :=
  rfl

theorem step_lastInFile :
    (sys.step sha256 e).lastInFile = (sys.event sha256 e).fileNumber.or sys.lastInFile := rfl

/-- A number in the file is the one in memory, or was in the file before. -/
theorem event_fileNumber (h : (sys.event sha256 e).fileNumber = some n) :
    (sys.event sha256 e).memoryNumber = some n ∨ sys.fileNumber = some n := by
  cases @event_cases sha256 sys e with
  | inl htaken =>
      obtain ⟨m, -, hmemory, hfile⟩ := htaken
      cases hfile with
      | inl hwritten => exact .inl (hmemory.trans (hwritten.symm.trans h))
      | inr hfile =>
          cases hfile with
          | inl hsame => exact .inr (hsame.symm.trans h)
          | inr htorn => rw [htorn] at h; cases h
  | inr hkept => exact .inr (hkept.2.1.symm.trans h)

/-- One event keeps the numbers from decreasing exactly if it takes no older one. -/
theorem neverDecreases_iff (hrec : Recorded sys) :
    NeverDecreases sha256 sys e ↔ TakesNoOlder sys e := by
  constructor
  · intro h n htaken
    apply h.1 n
    cases @event_cases sha256 sys e with
    | inl hcases =>
        obtain ⟨k, hk, hmemory, -⟩ := hcases
        rw [step_memoryNumber, hmemory, ← hk]
        exact htaken
    | inr hkept =>
        rw [hkept.1] at htaken
        cases htaken
  · intro h
    have hmemory (n : ℚ) (hn : (sys.event sha256 e).memoryNumber = some n) (m : ℚ)
        (hm : m ∈ sys.lastInMemory) : m ≤ n := by
      cases @event_cases sha256 sys e with
      | inl hcases =>
          obtain ⟨k, hk, hk', -⟩ := hcases
          obtain rfl : k = n := Option.some.inj (hk'.symm.trans hn)
          exact h k hk m hm
      | inr hkept =>
          cases hkept.2.2 with
          | inl hnone => rw [hnone] at hn; cases hn
          | inr hsame =>
              have hlast := hrec.memory n (hsame ▸ hn)
              exact (Option.some.inj (hm.symm.trans hlast)).le
    refine ⟨hmemory, ?_⟩
    intro n hn f hf
    cases event_fileNumber hn with
    | inl hmem =>
        obtain ⟨m, hm, hle⟩ := hrec.fileLe f hf
        exact hle.trans (hmemory n hmem m hm)
    | inr hfile => exact (Option.some.inj (hf.symm.trans (hrec.file n hfile))).le

theorem recorded_step (hrec : Recorded sys) (h : NeverDecreases sha256 sys e) :
    Recorded (sys.step sha256 e) := by
  constructor
  · intro n hn
    rw [step_lastInMemory, ← step_memoryNumber, Option.mem_def.1 hn]
    rfl
  · intro n hn
    rw [step_lastInFile, ← step_fileNumber, Option.mem_def.1 hn]
    rfl
  · -- the number last in the file is at most the one that was last in memory, or is in it now
    have hold (f m : ℚ) (hm : m ∈ sys.lastInMemory) (hle : f ≤ m) :
        ∃ m ∈ (sys.step sha256 e).lastInMemory, f ≤ m := by
      rw [step_lastInMemory]
      cases hmemory : (sys.event sha256 e).memoryNumber with
      | none => exact ⟨m, hm, hle⟩
      | some n => exact ⟨n, rfl, hle.trans (h.1 n hmemory m hm)⟩
    intro f hf
    rw [step_lastInFile] at hf
    cases hfile : (sys.event sha256 e).fileNumber with
    | none =>
        rw [hfile] at hf
        obtain ⟨m, hm, hle⟩ := hrec.fileLe f hf
        exact hold f m hm hle
    | some n =>
        rw [hfile] at hf
        cases hf
        cases event_fileNumber hfile with
        | inl hmem =>
            rw [step_lastInMemory, hmem]
            exact ⟨f, rfl, le_rfl⟩
        | inr hsame =>
            obtain ⟨m, hm, hle⟩ := hrec.fileLe f (hrec.file f hsame)
            exact hold f m hm hle

theorem recorded_first : Recorded first := by
  constructor <;> exact nofun

/-! ## Runs -/

/-- In a run from the first start, the numbers in memory and in the file never decrease exactly
if no response that arrives, and no file that is loaded, is older than what memory held last. -/
theorem notary_never_decreases_iff (sha256 : Sha256) (events : List NotaryEvent) :
    EachStep (step sha256) (NeverDecreases sha256) first events ↔
      EachStep (step sha256) TakesNoOlder first events := by
  constructor
  · exact eachStep_of_step
      (fun sys e hrec h => ⟨recorded_step hrec h, (neverDecreases_iff hrec).1 h⟩) recorded_first
  · apply eachStep_of_step _ recorded_first
    intro sys e hrec h
    have hnever : NeverDecreases sha256 sys e := (neverDecreases_iff hrec).2 h
    exact ⟨recorded_step hrec hnever, hnever⟩

theorem abs_firstNumber_le : |(1 : ℤ)| ≤ 2 ^ 53 := by norm_num

theorem abs_secondNumber_le : |(2 : ℤ)| ≤ 2 ^ 53 := by norm_num

/-- A state with the given number. -/
def sampleNotaryState (number : Binary64) : NotaryAuthoritativeState where
  root := "r"
  sequenceNumber := .fin number
  anchoringTimestamp := "2024-01-01T00:00:00.000Z"
  witnessSignatures := []

def sampleCacheMoment : CacheMoment := ⟨.written, "2024-01-01T00:00:00.000Z"⟩

/-- A broadcast and a fetch are answered with state 1, a second broadcast with state 2; the answer
of the fetch arrives last. -/
def reorderedEvents : List NotaryEvent :=
  [.anchor (sampleNotaryState (.ofInt 1 abs_firstNumber_le)), .loadCache, .state,
    .anchor (sampleNotaryState (.ofInt 2 abs_secondNumber_le)), .arrives 0 sampleCacheMoment,
    .arrives 1 sampleCacheMoment, .arrives 0 sampleCacheMoment]

/-- After the late answer memory holds 1 again, where it held 2. -/
theorem notary_goes_back :
    ¬ EachStep (step sampleSha256) (NeverDecreases sampleSha256) first reorderedEvents := by
  intro h
  have hlate := h.2.2.2.2.2.2.1.1 1 (by decide +kernel) 2 (by decide +kernel)
  norm_num at hlate

/-! ## Responses in order -/

/-- The oldest response arrives, and the file is written. -/
def InOrder : NotaryEvent → Prop
  | .arrives index moment => index = 0 ∧ moment.write = .written
  | _ => True

/-- The first response is not newer than the second. -/
def NoNewer (a b : NotaryResponse) : Prop :=
  ∀ s ∈ getAuthoritativeState a.reply, ∀ t ∈ getAuthoritativeState b.reply, s.number ≤ t.number

/-- The responses on their way stand in the order of their numbers, between what memory held
last and what was issued last; the file holds what memory held last. -/
structure Ordered (sys : NotarySystem) : Prop where
  flight : sys.inFlight.Pairwise NoNewer
  above : ∀ r ∈ sys.inFlight, ∀ s ∈ getAuthoritativeState r.reply,
    ∀ m ∈ sys.lastInMemory, m ≤ s.number
  issued : ∀ r ∈ sys.inFlight, ∀ s ∈ getAuthoritativeState r.reply,
    ∃ t ∈ sys.issued, s.number ≤ t.number
  lastIssued : ∀ m ∈ sys.lastInMemory, ∃ t ∈ sys.issued, m ≤ t.number
  file : sys.fileNumber = sys.lastInMemory

theorem eq_of_getAuthoritativeState_reply {s t : NotaryAuthoritativeState}
    (h : getAuthoritativeState s.reply = some t) : t = s := by
  simp only [NotaryAuthoritativeState.reply, NotaryAuthoritativeState.members,
    getAuthoritativeState] at h
  split at h
  · rename_i hroot hnumber htime hsignatures
    cases hroot
    cases hnumber
    cases htime
    cases hsignatures
    split at h
    · obtain ⟨signatures, hread, ht⟩ := Option.bind_eq_some_iff.1 h
      rw [mapM_ofJs?_toJs] at hread
      cases hread
      cases ht
      rfl
    · cases h
  · cases h

theorem ordered_first : Ordered first := by
  constructor
  · exact .nil
  · exact nofun
  · exact nofun
  · exact nofun
  · rfl

/-- A response that joins the others, no older than any of them. -/
theorem Ordered.push {issued : Option NotaryAuthoritativeState} {response : NotaryResponse}
    (h : Ordered sys)
    (hissued : ∀ t ∈ sys.issued, ∃ u ∈ issued, t.number ≤ u.number)
    (hresponse : ∀ s ∈ getAuthoritativeState response.reply, s ∈ issued)
    (hnewer : ∀ s ∈ getAuthoritativeState response.reply, ∀ t ∈ sys.issued,
      t.number ≤ s.number) :
    Ordered { sys with issued := issued, inFlight := sys.inFlight ++ [response] } := by
  constructor
  · refine List.pairwise_append.2 ⟨h.flight, List.pairwise_singleton _ _, ?_⟩
    intro a ha b hb s hs t ht
    obtain rfl := List.mem_singleton.1 hb
    obtain ⟨u, hu, hle⟩ := h.issued a ha s hs
    exact hle.trans (hnewer t ht u hu)
  · intro r hr s hs m hm
    cases List.mem_append.1 hr with
    | inl hold => exact h.above r hold s hs m hm
    | inr hnew =>
        obtain rfl := List.mem_singleton.1 hnew
        obtain ⟨u, hu, hle⟩ := h.lastIssued m hm
        exact hle.trans (hnewer s hs u hu)
  · intro r hr s hs
    cases List.mem_append.1 hr with
    | inl hold =>
        obtain ⟨t, ht, hle⟩ := h.issued r hold s hs
        obtain ⟨u, hu, hle'⟩ := hissued t ht
        exact ⟨u, hu, hle.trans hle'⟩
    | inr hnew =>
        obtain rfl := List.mem_singleton.1 hnew
        exact ⟨s, hresponse s hs, le_rfl⟩
  · intro m hm
    obtain ⟨t, ht, hle⟩ := h.lastIssued m hm
    obtain ⟨u, hu, hle'⟩ := hissued t ht
    exact ⟨u, hu, hle.trans hle'⟩
  · exact h.file

/-- The record changes nothing where memory keeps what it held last. -/
theorem Ordered.record (h : Ordered (sys.event sha256 e))
    (hlast : (sys.event sha256 e).lastInMemory = sys.lastInMemory)
    (hmemory : (sys.event sha256 e).memoryNumber.or sys.lastInMemory = sys.lastInMemory) :
    Ordered (sys.step sha256 e) := by
  have hsame : (sys.step sha256 e).lastInMemory = (sys.event sha256 e).lastInMemory := by
    rw [step_lastInMemory, hmemory, hlast]
  constructor
  · exact h.flight
  · intro r hr s hs m hm
    exact h.above r hr s hs m (hsame ▸ hm)
  · exact h.issued
  · intro m hm
    exact h.lastIssued m (hsame ▸ hm)
  · rw [hsame]
    exact h.file

theorem memoryNumber_or_last (hrec : Recorded sys) :
    sys.memoryNumber.or sys.lastInMemory = sys.lastInMemory := by
  cases hmemory : sys.memoryNumber with
  | none => rfl
  | some n => exact (hrec.memory n hmemory).symm

/-- An event that changes nothing keeps the order. -/
theorem Ordered.unchanged (h : Ordered sys) (hrec : Recorded sys)
    (hevent : sys.event sha256 e = sys) : Ordered (sys.step sha256 e) := by
  apply Ordered.record
  · exact hevent.symm ▸ h
  · rw [hevent]
  · rw [hevent]
    exact memoryNumber_or_last hrec

/-- Responses that get lost, or are refused, keep the order of the others. -/
theorem Ordered.thin {flight : List NotaryResponse} (h : Ordered sys)
    (hsub : flight.Sublist sys.inFlight) : Ordered { sys with inFlight := flight } where
  flight := h.flight.sublist hsub
  above r hr := h.above r (hsub.subset hr)
  issued r hr := h.issued r (hsub.subset hr)
  lastIssued := h.lastIssued
  file := h.file

theorem ordered_anchor {s : NotaryAuthoritativeState} (h : Ordered sys) (hrec : Recorded sys) :
    Ordered (sys.step sha256 (.anchor s)) := by
  by_cases hissues : sys.Issues s
  · have hevent : sys.event sha256 (.anchor s) =
        { sys with issued := some s, inFlight := sys.inFlight ++ [⟨.anchor, s.reply⟩] } :=
      if_pos hissues
    have hordered : Ordered (sys.event sha256 (.anchor s)) := by
      rw [hevent]
      apply h.push
      · exact fun t ht => ⟨s, rfl, (hissues.2 t ht).le⟩
      · intro t ht
        rw [eq_of_getAuthoritativeState_reply ht]
        rfl
      · intro t ht u hu
        rw [eq_of_getAuthoritativeState_reply ht]
        exact (hissues.2 u hu).le
    apply hordered.record
    · rw [hevent]
    · rw [hevent]
      exact (memoryNumber_or_last hrec :)
  · exact h.unchanged hrec (if_neg hissues)

/-- A request for the state is answered with the one issued last. -/
theorem ordered_state (h : Ordered sys) (hrec : Recorded sys) :
    Ordered (sys.step sha256 .state) := by
  have hread (s : NotaryAuthoritativeState)
      (hs : s ∈ getAuthoritativeState
        ((sys.issued.map NotaryAuthoritativeState.reply).getD .failed)) : sys.issued = some s := by
    cases hissued : sys.issued with
    | none =>
        rw [hissued] at hs
        cases hs
    | some t =>
        rw [hissued] at hs
        rw [eq_of_getAuthoritativeState_reply hs]
  have hordered : Ordered (sys.event sha256 .state) := by
    apply h.push
    · exact fun t ht => ⟨t, ht, le_rfl⟩
    · exact hread
    · intro s hs t ht
      rw [Option.some.inj ((hread s hs).symm.trans ht)]
  exact hordered.record rfl (memoryNumber_or_last hrec :)

/-- The oldest response arrives and is taken over. -/
theorem ordered_taken {moment : CacheMoment} {response : NotaryResponse}
    {rest : List NotaryResponse} {s : NotaryAuthoritativeState} (h : Ordered sys)
    (hflight : sys.inFlight = response :: rest)
    (hs : getAuthoritativeState response.reply = some s) (hwrite : moment.write = .written) :
    Ordered (sys.step sha256 (.arrives 0 moment)) := by
  obtain ⟨members, hmembers, harrive⟩ :=
    @arrive_some sha256 moment sys.service response s hs
  have hevent : sys.event sha256 (.arrives 0 moment) =
      { sys with inFlight := rest, service := arrive sha256 moment sys.service response } := by
    simp only [event, hflight, List.getElem?_cons_zero, List.eraseIdx_cons_zero]
  have hmemory : (sys.event sha256 (.arrives 0 moment)).memoryNumber = some s.number := by
    rw [hevent, memoryNumber, harrive, persistCache_latestInMemory]
    rfl
  have hfile : (sys.event sha256 (.arrives 0 moment)).fileNumber = some s.number := by
    rw [hevent, fileNumber, harrive,
      readCache_persistCache (checked_of_getAuthoritativeState hs) hmembers hwrite]
    rfl
  have hlast : (sys.step sha256 (.arrives 0 moment)).lastInMemory = some s.number := by
    rw [step_lastInMemory, hmemory]
    rfl
  have hrest : (sys.step sha256 (.arrives 0 moment)).inFlight = rest := by
    show (sys.event sha256 (.arrives 0 moment)).inFlight = rest
    rw [hevent]
  have hissued : (sys.step sha256 (.arrives 0 moment)).issued = sys.issued := by
    show (sys.event sha256 (.arrives 0 moment)).issued = sys.issued
    rw [hevent]
  have hpairs := h.flight
  rw [hflight, List.pairwise_cons] at hpairs
  have hmem (r : NotaryResponse) (hr : r ∈ rest) : r ∈ sys.inFlight := by
    rw [hflight]
    exact List.mem_cons_of_mem _ hr
  constructor
  · rw [hrest]
    exact hpairs.2
  · rw [hrest, hlast]
    intro r hr t ht m hm
    cases hm
    exact hpairs.1 r hr s hs t ht
  · rw [hrest, hissued]
    exact fun r hr => h.issued r (hmem r hr)
  · rw [hlast, hissued]
    intro m hm
    cases hm
    exact h.issued response (by rw [hflight]; exact List.mem_cons_self) s hs
  · rw [step_fileNumber, hfile, hlast]

/-- The oldest response arrives, and is taken over or refused. -/
theorem ordered_arrives {moment : CacheMoment} (h : Ordered sys) (hrec : Recorded sys)
    (hwrite : moment.write = .written) : Ordered (sys.step sha256 (.arrives 0 moment)) := by
  cases hflight : sys.inFlight with
  | nil =>
      apply h.unchanged hrec
      simp only [event, hflight, List.getElem?_nil]
  | cons response rest =>
      cases hs : getAuthoritativeState response.reply with
      | some s => exact ordered_taken h hflight hs hwrite
      | none =>
          have hevent : sys.event sha256 (.arrives 0 moment) = { sys with inFlight := rest } := by
            simp only [event, hflight, List.getElem?_cons_zero, List.eraseIdx_cons_zero,
              arrive_none hs]
          have hsub : rest.Sublist sys.inFlight := hflight ▸ List.sublist_cons_self response rest
          have hordered : Ordered (sys.event sha256 (.arrives 0 moment)) := by
            rw [hevent]
            exact h.thin hsub
          apply hordered.record
          · rw [hevent]
          · rw [hevent]
            exact (memoryNumber_or_last hrec :)

/-- What is loaded from the file is what memory held last. -/
theorem ordered_loadCache (h : Ordered sys) (hrec : Recorded sys) :
    Ordered (sys.step sha256 .loadCache) := by
  have hfile : (sys.event sha256 .loadCache).fileNumber = sys.fileNumber := by
    unfold event fileNumber NotaryAnchorService.loadCacheIfNeeded
    dsimp only
    split <;> rfl
  have hordered : Ordered (sys.event sha256 .loadCache) :=
    ⟨h.flight, h.above, h.issued, h.lastIssued, hfile.trans h.file⟩
  apply hordered.record rfl
  cases @event_cases sha256 sys .loadCache with
  | inl htaken =>
      obtain ⟨n, hn, hmemory, -⟩ := htaken
      have hloaded : sys.fileNumber = some n := by
        unfold taken at hn
        dsimp only at hn
        split at hn
        · cases hn
        · exact hn
      rw [hmemory, ← h.file, hloaded]
      rfl
  | inr hkept =>
      cases hkept.2.2 with
      | inl hnone =>
          rw [hnone]
          rfl
      | inr hsame =>
          rw [hsame]
          exact memoryNumber_or_last hrec

theorem ordered_step (h : Ordered sys) (hrec : Recorded sys) (hin : InOrder e) :
    Ordered (sys.step sha256 e) := by
  cases e with
  | anchor s => exact ordered_anchor h hrec
  | state => exact ordered_state h hrec
  | arrives index moment =>
      obtain ⟨rfl, hwrite⟩ := hin
      exact ordered_arrives h hrec hwrite
  | lost index =>
      have hordered : Ordered (sys.event sha256 (.lost index)) :=
        h.thin (List.eraseIdx_sublist sys.inFlight index)
      exact hordered.record rfl (memoryNumber_or_last hrec :)
  | loadCache => exact ordered_loadCache h hrec
  | restart =>
      have hordered : Ordered (sys.event sha256 .restart) :=
        ⟨.nil, nofun, nofun, h.lastIssued, h.file⟩
      exact hordered.record rfl rfl

theorem takesNoOlder_of_ordered (h : Ordered sys) (hin : InOrder e) : TakesNoOlder sys e := by
  intro n hn m hm
  cases e with
  | anchor s => cases hn
  | state => cases hn
  | lost index => cases hn
  | restart => cases hn
  | loadCache =>
      unfold taken at hn
      dsimp only at hn
      split at hn
      · cases hn
      · rw [h.file] at hn
        exact (Option.some.inj (hm.symm.trans hn)).le
  | arrives index moment =>
      obtain ⟨response, hs⟩ := Option.map_eq_some_iff.1 hn
      obtain ⟨hs, rfl⟩ := hs
      obtain ⟨r, hr, hs⟩ := Option.bind_eq_some_iff.1 hs
      exact h.above r (List.mem_of_getElem? hr) response hs m hm

/-- Where responses arrive in the order they were sent and every write of the file goes
through, the numbers never decrease. -/
theorem notary_in_order (sha256 : Sha256) (events : List NotaryEvent)
    (hin : ∀ e ∈ events, InOrder e) :
    EachStep (step sha256) (NeverDecreases sha256) first events := by
  have hstep (sys : NotarySystem) (e : NotaryEvent) (hsys : Recorded sys ∧ Ordered sys)
      (he : InOrder e) : (Recorded (sys.step sha256 e) ∧ Ordered (sys.step sha256 e)) ∧
        NeverDecreases sha256 sys e := by
    obtain ⟨hrec, hord⟩ := hsys
    have hnever : NeverDecreases sha256 sys e :=
      (neverDecreases_iff hrec).2 (takesNoOlder_of_ordered hord he)
    exact ⟨⟨recorded_step hrec hnever, ordered_step hord hrec he⟩, hnever⟩
  exact eachStep_of_step hstep ⟨recorded_first, ordered_first⟩ (eachStep_iff_forall.2 hin)

end NotarySystem

end UniverEscrow.Ledger
