import UniverEscrow.Router.AppendEntry

/-!
# Terms of append-entry requests

The handler turns down a term below the engine's current one.  Nothing on its path moves the
current term, and the log stores an entry under the current term, not under the request's.
-/

namespace UniverEscrow.Router

open UniverEscrow.Js UniverEscrow.Ledger UniverEscrow.Consensus UniverEscrow.Lib.Run

structure AppendRequest where
  clock : RequestClock
  body : JsValue

def AppendRequest.term? (request : AppendRequest) : Option JsNumber :=
  (request.body.get "term").asNumber?

def staleTerm (currentTerm : JsNumber) : Response :=
  ⟨400, .obj [("status", "FAILED"), ("term", .num currentTerm),
    ("error", "Stale term validation parameters.")]⟩

/-- The node, the terms of the requests answered with success, and those of the requests whose
entry went into the log, in its order. -/
structure TermHistory where
  node : Node
  committed : List JsNumber
  appended : List JsNumber

namespace TermHistory

variable (platform : Platform)

/-- The node with its engine as a new process has it. -/
def start (node : Node) : TermHistory := ⟨{ node with raft := node.raft.resetEngine }, [], []⟩

def answer (history : TermHistory) (request : AppendRequest) : Node × Response :=
  appendEntry platform request.clock request.body history.node

def appends (history : TermHistory) (request : AppendRequest) : Bool :=
  history.node.raft.log.length < (history.answer platform request).1.raft.log.length

def step (history : TermHistory) (request : AppendRequest) : TermHistory where
  node := (history.answer platform request).1
  committed := history.committed ++
    if (history.answer platform request).2.code = 200 then request.term?.toList else []
  appended := history.appended ++
    if history.appends platform request then request.term?.toList else []

/-- A term below a committed one is rejected as stale, and neither log nor ledger changes. -/
def Fenced (history : TermHistory) (request : AppendRequest) : Prop :=
  ∀ term, request.term? = some term → (∃ t ∈ history.committed, term.lt t = true) →
    (history.answer platform request).2 = staleTerm history.node.raft.currentTerm ∧
      (history.answer platform request).1.raft.log = history.node.raft.log ∧
      (history.answer platform request).1.auditor.store = history.node.auditor.store

/-- Each entry is stored under the term of its request, and terms never decrease. -/
structure TermsKept (history : TermHistory) : Prop where
  stored : history.node.raft.log.map RaftLogEntry.term = history.appended
  nondecreasing : (history.node.raft.log.map RaftLogEntry.term).Pairwise fun a b => a.le b = true

/-- A request with an entry carries the current term or one below it. -/
def StaysInTerm (history : TermHistory) (request : AppendRequest) : Prop :=
  ∀ term, request.term? = some term → (request.body.get "entry").truthy = true →
    logFull history.node.raft = false →
      term.lt history.node.raft.currentTerm = true ∨ term = history.node.raft.currentTerm

/-- What no request changes, and what the log then holds. -/
structure Invariant (history : TermHistory) : Prop where
  unfrozen : history.node.auditor.isFrozen = false
  ready : history.node.bridge.isEnclaveReady = true
  currentTerm : history.node.raft.currentTerm = .ofInt 0
  terms : ∀ entry ∈ history.node.raft.log, entry.term = history.node.raft.currentTerm
  committed : history.committed ⊆ history.appended

variable {platform} {history : TermHistory} {request : AppendRequest}

/-! ## One request -/

theorem appendAndCommit_log (clock : RequestClock) (term : JsNumber) (entry bft : JsValue)
    (node : Node) :
    (appendAndCommit platform clock term entry bft node).1.raft.log =
        (if logFull node.raft then node.raft.log
          else node.raft.log ++ [node.raft.newEntry entry]) ∧
      (appendAndCommit platform clock term entry bft node).1.raft.currentTerm =
        node.raft.currentTerm ∧
      (appendAndCommit platform clock term entry bft node).1.bridge = node.bridge ∧
      (appendAndCommit platform clock term entry bft node).1.auditor.frozen =
        node.auditor.frozen := by
  unfold appendAndCommit
  cases hspace : logFull node.raft with
  | true => exact ⟨rfl, rfl, rfl, rfl⟩
  | false =>
      simp only [Bool.false_eq_true, if_false]
      split
      · exact ⟨rfl, rfl, rfl, rfl⟩
      · split
        · rename_i hsave
          rw [Node.saveRecord] at hsave
          obtain ⟨rfl, -⟩ := Prod.mk.inj hsave
          exact ⟨rfl, rfl, rfl, rfl⟩
        · rename_i hsave
          rw [Node.saveRecord] at hsave
          obtain ⟨rfl, -⟩ := Prod.mk.inj hsave
          exact ⟨rfl, rfl, rfl, rfl⟩

/-- The request is answered in front of the append, or finds the log full, or is appended. -/
theorem answer_cases (platform : Platform) (history : TermHistory) (request : AppendRequest) :
    (∃ response, appendEntryGate request.body history.node = .error response ∧
      history.answer platform request = (history.node, response)) ∨
    (∃ term, request.term? = some term ∧ (request.body.get "entry").truthy = true ∧
      term.lt history.node.raft.currentTerm = false ∧
      appendEntryGate request.body history.node = .ok (term, request.body.get "entry") ∧
      history.answer platform request = appendAndCommit platform request.clock term
        (request.body.get "entry") (request.body.get "bft") history.node) := by
  unfold answer appendEntry
  cases hgate : appendEntryGate request.body history.node with
  | error response => exact .inl ⟨response, rfl, rfl⟩
  | ok gated =>
      obtain ⟨term, entry⟩ := gated
      obtain ⟨hterm, -, -, hcurrent, htruthy, rfl⟩ := appendEntryGate_eq_ok.1 hgate
      exact .inr ⟨term, JsValue.asNumber?_eq_some.2 hterm, htruthy, hcurrent, rfl, rfl⟩

theorem step_of_refused {response : Response}
    (hanswer : history.answer platform request = (history.node, response))
    (hcode : response.code ≠ 200) : history.step platform request = history := by
  have happends : history.appends platform request = false := by
    simp [appends, hanswer]
  simp [step, happends, hanswer, hcode]

theorem step_of_appended {term : JsNumber} (hterm : request.term? = some term)
    (hlog : (history.answer platform request).1.raft.log =
      history.node.raft.log ++ [history.node.raft.newEntry (request.body.get "entry")]) :
    (history.step platform request).appended = history.appended ++ [term] ∧
      (history.step platform request).committed ⊆ history.committed ++ [term] := by
  have happends : history.appends platform request = true := by
    simp [appends, hlog]
  refine ⟨by simp [step, happends, hterm], ?_⟩
  simp only [step, hterm]
  split_ifs
  · exact List.Subset.refl _
  · rw [List.append_nil]
    exact List.subset_append_left _ _

/-- At an open node a request changes nothing and stays in the term, or its entry is appended
under the current term. -/
theorem step_cases (h : history.Invariant) (platform : Platform) (request : AppendRequest) :
    (history.step platform request = history ∧ history.StaysInTerm request) ∨
    (∃ term, request.term? = some term ∧ (request.body.get "entry").truthy = true ∧
      logFull history.node.raft = false ∧ term.lt history.node.raft.currentTerm = false ∧
      (history.step platform request).node.raft.log =
        history.node.raft.log ++ [history.node.raft.newEntry (request.body.get "entry")] ∧
      (history.step platform request).node.raft.currentTerm = history.node.raft.currentTerm ∧
      (history.step platform request).node.bridge = history.node.bridge ∧
      (history.step platform request).node.auditor.frozen = history.node.auditor.frozen) := by
  obtain ⟨response, hgate, hanswer⟩ | ⟨term, hterm, htruthy, hcurrent, -, hanswer⟩ :=
    answer_cases platform history request
  · refine .inl ⟨step_of_refused hanswer (code_of_appendEntryGate hgate), ?_⟩
    intro term hterm htruthy _
    by_contra hnot
    rw [not_or, Bool.not_eq_true] at hnot
    have hok : appendEntryGate request.body history.node = .ok (term, request.body.get "entry") :=
      appendEntryGate_eq_ok.2 ⟨JsValue.asNumber?_eq_some.1 hterm, h.unfrozen, h.ready, hnot.1,
        htruthy, rfl⟩
    rw [hgate] at hok
    cases hok
  · have hkept := @appendAndCommit_log platform request.clock term (request.body.get "entry")
      (request.body.get "bft") history.node
    rw [← hanswer] at hkept
    obtain ⟨hlog, hterms, hbridge, hfrozen⟩ := hkept
    cases hspace : logFull history.node.raft with
    | true =>
        have hrefused : history.answer platform request =
            (history.node, failed 500 (platform.errorText (.save .platformError))) := by
          rw [hanswer, appendAndCommit, if_pos hspace]
        refine .inl ⟨step_of_refused hrefused (by simp [failed]), ?_⟩
        · intro _ _ _ hfree
          rw [hspace] at hfree
          cases hfree
    | false =>
        rw [hspace] at hlog
        exact .inr ⟨term, hterm, htruthy, rfl, hcurrent, hlog, hterms, hbridge, hfrozen⟩

theorem start_invariant {node : Node} (hfrozen : node.auditor.isFrozen = false)
    (hready : node.bridge.isEnclaveReady = true) : (start node).Invariant where
  unfrozen := hfrozen
  ready := hready
  currentTerm := rfl
  terms := by simp [start, EnclaveRaftEngine.resetEngine]
  committed := List.Subset.refl _

theorem Invariant.step (h : history.Invariant) (platform : Platform) (request : AppendRequest) :
    (history.step platform request).Invariant := by
  obtain ⟨heq, -⟩ | ⟨term, hterm, -, -, -, hlog, hcurrent, hbridge, hfrozen⟩ :=
    step_cases h platform request
  · rw [heq]
    exact h
  · obtain ⟨happended, hcommitted⟩ := step_of_appended hterm hlog
    refine ⟨hfrozen.trans h.unfrozen, ?_, hcurrent.trans h.currentTerm, ?_, ?_⟩
    · rw [hbridge]
      exact h.ready
    · intro entry hentry
      rw [hlog] at hentry
      rw [hcurrent]
      rcases List.mem_append.1 hentry with hentry | hentry
      · exact h.terms entry hentry
      · rw [List.mem_singleton.1 hentry]
        rfl
    · rw [happended]
      refine List.Subset.trans hcommitted
        (List.append_subset.2 ⟨?_, List.subset_append_right _ _⟩)
      exact List.Subset.trans h.committed (List.subset_append_left _ _)

theorem gate_of_stale (h : history.Invariant) {term : JsNumber}
    (hterm : request.term? = some term)
    (hstale : term.lt history.node.raft.currentTerm = true) :
    appendEntryGate request.body history.node =
      .error (staleTerm history.node.raft.currentTerm) := by
  unfold AppendRequest.term? at hterm
  simp [appendEntryGate, orAnswer, answerUnless, hterm, h.unfrozen, h.ready, hstale, bind,
    Except.bind, staleTerm]

/-- While every entry is stored under its request's term, committed terms are the current one,
so that lower terms are stale. -/
theorem Invariant.fenced (h : history.Invariant) (hkept : history.TermsKept)
    (platform : Platform) (request : AppendRequest) : history.Fenced platform request := by
  rintro term hterm ⟨t, ht, hlt⟩
  have hcurrent : t = history.node.raft.currentTerm := by
    have hmem := h.committed ht
    rw [← hkept.stored] at hmem
    obtain ⟨entry, hentry, rfl⟩ := List.mem_map.1 hmem
    exact h.terms entry hentry
  subst hcurrent
  have hanswer : history.answer platform request =
      (history.node, staleTerm history.node.raft.currentTerm) := by
    rw [answer, appendEntry, gate_of_stale h hterm hlt]
  rw [hanswer]
  exact ⟨rfl, rfl, rfl⟩

theorem le_currentTerm (h : history.Invariant) :
    history.node.raft.currentTerm.le history.node.raft.currentTerm = true := by
  rw [h.currentTerm]
  decide +kernel

theorem nondecreasing_of_terms (h : history.Invariant) :
    (history.node.raft.log.map RaftLogEntry.term).Pairwise fun a b => a.le b = true := by
  rw [List.pairwise_map]
  refine List.pairwise_of_forall_mem_list fun a ha b hb => ?_
  rw [h.terms a ha, h.terms b hb]
  exact le_currentTerm h

/-- A request keeps the terms exactly if it stays in the current one. -/
theorem fenced_and_termsKept_iff (h : history.Invariant) (hkept : history.TermsKept)
    (platform : Platform) (request : AppendRequest) :
    history.Fenced platform request ∧ (history.step platform request).TermsKept ↔
      history.StaysInTerm request := by
  obtain ⟨heq, hstays⟩ | ⟨term, hterm, htruthy, hspace, hcurrent, hlog, -⟩ :=
    step_cases h platform request
  · rw [heq]
    exact iff_of_true ⟨h.fenced hkept platform request, hkept⟩ hstays
  · obtain ⟨happended, -⟩ := step_of_appended hterm hlog
    have hstored : (history.step platform request).node.raft.log.map RaftLogEntry.term =
        history.appended ++ [history.node.raft.currentTerm] := by
      rw [hlog, List.map_append, hkept.stored]
      rfl
    constructor
    · rintro ⟨-, hnext⟩ term' hterm' _ _
      cases hterm.symm.trans hterm'
      have hlast := hstored.symm.trans (hnext.stored.trans happended)
      rw [List.append_right_inj, List.singleton_inj] at hlast
      exact .inr hlast.symm
    · intro hstays
      refine ⟨h.fenced hkept platform request, ?_, ?_⟩
      · rcases hstays term hterm htruthy hspace with hlt | heq
        · rw [hcurrent] at hlt
          cases hlt
        · rw [hstored, happended, heq]
      · exact nondecreasing_of_terms (h.step platform request)

/-- At an open node every term below a committed one is rejected as stale, and the log keeps the
requests' terms in order, exactly if no request appends an entry with a term other than the
engine's current one, which no request moves. -/
theorem leader_fencing_iff (platform : Platform) (node : Node) (requests : List AppendRequest)
    (hfrozen : node.auditor.isFrozen = false) (hready : node.bridge.isEnclaveReady = true) :
    EachStep (step platform) (Fenced platform) (start node) requests ∧
        Throughout (step platform) TermsKept (start node) requests ↔
      EachStep (step platform) StaysInTerm (start node) requests :=
  eachStep_and_throughout_iff Invariant (fun _ request h _ => h.step platform request)
    (fun _ request h hkept => fenced_and_termsKept_iff h hkept platform request)
    (start_invariant hfrozen hready) ⟨rfl, .nil⟩

/-! ## A deposed leader -/

/-- An append by the one node of a cluster of one. -/
def leaderRequest (term index : ℤ) : AppendRequest where
  clock := appendClock
  body := .obj [("term", .num (.ofInt term)),
    ("entry", .obj [("transactionId", "tx_1"), ("escrowRecordLeafHash", "PENDING"),
      ("signature", "sig"), ("status", "LOCKED"), ("validAfterMs", .num (.ofInt 0)),
      ("validUntilMs", .num (.ofInt 1)), ("timestamp", "2026-01-01T00:00:00.000Z")]),
    ("bft", .obj [("clusterSize", .num (.ofInt 1)),
      ("payload", .obj [("clusterSize", .num (.ofInt 1)), ("f", .num (.ofInt 0)),
        ("threshold", .num (.ofInt 1)), ("uniqueNodeIds", .arr ["node_1"]),
        ("shares", .arr [.obj [("nodeId", "node_1"), ("consensusTerm", .num (.ofInt term)),
          ("index", .num (.ofInt index))]])])])]

theorem leader_fencing_iff_deposed :
    EachStep (step appendPlatform) (Fenced appendPlatform) (start openNode)
          [leaderRequest 5 1, leaderRequest 3 2] ∧
        Throughout (step appendPlatform) TermsKept (start openNode)
          [leaderRequest 5 1, leaderRequest 3 2] ↔
      EachStep (step appendPlatform) StaysInTerm (start openNode)
        [leaderRequest 5 1, leaderRequest 3 2] :=
  leader_fencing_iff appendPlatform openNode [leaderRequest 5 1, leaderRequest 3 2] rfl rfl

/-- After a commit under term 5 a request with term 3 is committed too, and both entries are
stored under term 0. -/
theorem deposed_leader_commits :
    (run (step appendPlatform) (start openNode)
        [leaderRequest 5 1, leaderRequest 3 2]).committed = [.ofInt 5, .ofInt 3] ∧
      (run (step appendPlatform) (start openNode)
        [leaderRequest 5 1, leaderRequest 3 2]).node.raft.log.map RaftLogEntry.term =
        [.ofInt 0, .ofInt 0] := by
  decide +kernel

end TermHistory

end UniverEscrow.Router
