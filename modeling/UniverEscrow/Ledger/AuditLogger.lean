import UniverEscrow.Js.JsonRoundTrip
import UniverEscrow.Lib.Delimited
import UniverEscrow.Lib.LineFile
import UniverEscrow.Lib.Run
import UniverEscrow.Ledger.DatabaseService

/-!
# The audit log

Every event becomes one line of JSON with a digest of its time, tenant, action and status.  The
lines read back as they were logged; the digest says nothing about the other members.
-/

namespace UniverEscrow.Ledger

open UniverEscrow.Js UniverEscrow.Js.JsValue UniverEscrow.Merkle UniverEscrow.Lib

inductive AuditAction where
  | lock
  | release
deriving DecidableEq

def AuditAction.text : AuditAction → String
  | .lock => "LOCK"
  | .release => "RELEASE"

theorem AuditAction.text_inj {a b : AuditAction} (h : a.text = b.text) : a = b := by
  cases a <;> cases b <;> first | rfl | exact absurd h (by decide)

inductive AuditStatus where
  | success
  | failed
deriving DecidableEq

def AuditStatus.text : AuditStatus → String
  | .success => "SUCCESS"
  | .failed => "FAILED"

theorem AuditStatus.text_inj {a b : AuditStatus} (h : a.text = b.text) : a = b := by
  cases a <;> cases b <;> first | rfl | exact absurd h (by decide)

/-- What the callers pass: a missing member is `undefined`, and a value they did not make
themselves comes out of a parsed body. -/
structure AuditPayload where
  tenantId : String
  action : AuditAction
  status : AuditStatus
  error : JsValue
  transactionId : JsValue
  inOrder : InOrder error ∧ InOrder transactionId

/-- A payload and the time at which it is logged, which `toISOString` writes without a bar. -/
structure AuditEvent where
  timestamp : String
  payload : AuditPayload
  plain : '|' ∉ timestamp.toList

namespace AuditEvent

def hashInput (event : AuditEvent) : String :=
  event.timestamp ++ "|" ++ event.payload.tenantId ++ "|" ++ event.payload.action.text ++ "|" ++
    event.payload.status.text

def integritySignature (sha256 : Sha256) (event : AuditEvent) : String :=
  sha256Hex sha256 event.hashInput

/-- The members of an event under a digest. -/
def recordWith (integritySignature : String) (event : AuditEvent) : JsValue :=
  .obj [("ts", event.timestamp), ("tenantId", event.payload.tenantId),
    ("action", event.payload.action.text), ("status", event.payload.status.text),
    ("error", event.payload.error), ("transactionId", event.payload.transactionId),
    ("integritySignature", integritySignature)]

def canonicalRecord (sha256 : Sha256) (event : AuditEvent) : JsValue :=
  event.recordWith (event.integritySignature sha256)

/-- The line of an event, without its end. -/
def line (sha256 : Sha256) (event : AuditEvent) : List Char :=
  (event.canonicalRecord sha256).stringify.toList

end AuditEvent

/-- The call appends synchronously, so the calls of the handlers do not interleave inside it. -/
def logEvent (sha256 : Sha256) (log : List Char) (event : AuditEvent) : List Char :=
  LineFile.appendLine '\n' log (event.line sha256)

/-! ## JSON texts have no control characters -/

theorem toNat_digitChar_ge {n : ℕ} (h : n < 16) : 0x20 ≤ (Nat.digitChar n).toNat := by
  interval_cases n <;> decide

theorem toNat_of_mem_escapeChar {c d : Char} (h : d ∈ escapeChar c) : 0x20 ≤ d.toNat := by
  rw [escapeChar] at h
  split_ifs at h with hquote hslash hctrl
  · simp only [List.mem_cons, List.not_mem_nil, or_false] at h
    rcases h with rfl | rfl <;> decide
  · simp only [List.mem_cons, List.not_mem_nil, or_false, or_self] at h
    subst h
    decide
  · split at h
    all_goals
      simp only [List.mem_cons, List.not_mem_nil, or_false] at h
    · rcases h with rfl | rfl <;> decide
    · rcases h with rfl | rfl <;> decide
    · rcases h with rfl | rfl <;> decide
    · rcases h with rfl | rfl <;> decide
    · rcases h with rfl | rfl <;> decide
    · rcases h with rfl | rfl | rfl | rfl | rfl | rfl
      · decide
      · decide
      · decide
      · decide
      · exact toNat_digitChar_ge (by omega)
      · exact toNat_digitChar_ge (by omega)
  · rw [List.mem_singleton.1 h]
    exact not_lt.1 hctrl

section Control

variable {c : Char}

theorem control_notMem_of_printable (hc : c.toNat < 0x20) {s : String}
    (h : (s.toList.all fun d => 0x20 ≤ d.toNat) = true) : c ∉ s.toList := by
  intro hmem
  exact absurd (of_decide_eq_true (List.all_eq_true.1 h c hmem)) (not_le.2 hc)

theorem control_notMem_quote (hc : c.toNat < 0x20) (s : String) : c ∉ (quote s).toList := by
  rw [toList_quote, quoteChars, List.mem_cons, List.mem_append, List.mem_singleton]
  have hquote : c ≠ '"' := by
    rintro rfl
    exact absurd hc (by decide)
  rintro (h | h | h)
  · exact hquote h
  · obtain ⟨d, -, hd⟩ := List.mem_flatMap.1 h
    exact absurd (toNat_of_mem_escapeChar hd) (not_le.2 hc)
  · exact hquote h

theorem control_notMem_numberJson (hc : c.toNat < 0x20) (n : JsNumber) :
    c ∉ (numberJson n).toList := by
  rw [numberJson]
  split_ifs
  · have hdigit : c.isDigit = false := by
      rw [Char.isDigit, Bool.and_eq_false_iff]
      refine .inl (decide_eq_false fun h => ?_)
      have hlow : 48 ≤ c.toNat := h
      omega
    refine notMem_toText hdigit (fun h => ?_) n
    exact control_notMem_of_printable hc (by decide) h
  · exact control_notMem_of_printable hc (by decide)

/-- A member is left out or written behind its key. -/
theorem memberJsons_cons (k : String) (v : JsValue) (ms : List (String × JsValue)) :
    memberJsons ((k, v) :: ms) = memberJsons ms ∨
      memberJsons ((k, v) :: ms) = (quote k ++ ":" ++ stringify v) :: memberJsons ms := by
  cases v with
  | undefined => exact .inl rfl
  | _ => exact .inr rfl

mutual

theorem control_notMem_stringify (hc : c.toNat < 0x20) : ∀ v : JsValue, c ∉ v.stringify.toList
  | .undefined => control_notMem_of_printable hc (by decide)
  | .null => control_notMem_of_printable hc (by decide)
  | .bool true => control_notMem_of_printable hc (by decide)
  | .bool false => control_notMem_of_printable hc (by decide)
  | .num n => control_notMem_numberJson hc n
  | .str s => control_notMem_quote hc s
  | .arr items => by
      rw [stringify, String.toList_append, String.toList_append, List.mem_append, List.mem_append,
        not_or, not_or]
      exact ⟨⟨control_notMem_of_printable hc (by decide),
        notMem_intercalate (control_notMem_of_printable hc (by decide))
          (control_notMem_itemJsons hc items)⟩, control_notMem_of_printable hc (by decide)⟩
  | .obj members => by
      rw [stringify, String.toList_append, String.toList_append, List.mem_append, List.mem_append,
        not_or, not_or]
      exact ⟨⟨control_notMem_of_printable hc (by decide),
        notMem_intercalate (control_notMem_of_printable hc (by decide))
          (control_notMem_memberJsons hc members)⟩, control_notMem_of_printable hc (by decide)⟩

theorem control_notMem_itemJsons (hc : c.toNat < 0x20) :
    ∀ items : List JsValue, ∀ s ∈ itemJsons items, c ∉ s.toList
  | [] => by
      intro s hs
      cases hs
  | v :: vs => by
      intro s hs
      rcases List.mem_cons.1 hs with rfl | hs
      · exact control_notMem_stringify hc v
      · exact control_notMem_itemJsons hc vs s hs

theorem control_notMem_memberJsons (hc : c.toNat < 0x20) :
    ∀ members : List (String × JsValue), ∀ s ∈ memberJsons members, c ∉ s.toList
  | [] => by
      intro s hs
      cases hs
  | (k, v) :: ms => by
      intro s hs
      rcases memberJsons_cons k v ms with hjsons | hjsons
      · rw [hjsons] at hs
        exact control_notMem_memberJsons hc ms s hs
      · rw [hjsons] at hs
        rcases List.mem_cons.1 hs with rfl | hs
        · rw [String.toList_append, String.toList_append, List.mem_append, List.mem_append, not_or,
            not_or]
          exact ⟨⟨control_notMem_quote hc k, control_notMem_of_printable hc (by decide)⟩,
            control_notMem_stringify hc v⟩
        · exact control_notMem_memberJsons hc ms s hs

end

end Control

/-! ## Reading the log back -/

namespace AuditEvent

theorem inOrder_canonicalRecord (sha256 : Sha256) (event : AuditEvent) :
    InOrder (event.canonicalRecord sha256) := by
  have hkeys : ["ts", "tenantId", "action", "status", "error", "transactionId",
      "integritySignature"].Pairwise fun a b => enumerates a b = true := by decide
  unfold canonicalRecord recordWith
  refine .obj (by simp) (List.Pairwise.of_map Prod.fst (fun _ _ h => h) hkeys) ?_
  · intro m hm
    simp only [List.mem_cons, List.not_mem_nil, or_false] at hm
    rcases hm with rfl | rfl | rfl | rfl | rfl | rfl | rfl
    · exact .str _
    · exact .str _
    · exact .str _
    · exact .str _
    · exact event.payload.inOrder.1
    · exact event.payload.inOrder.2
    · exact .str _

theorem newline_notMem_line (sha256 : Sha256) (event : AuditEvent) : '\n' ∉ event.line sha256 :=
  control_notMem_stringify (by decide) _

theorem parse_line (sha256 : Sha256) (event : AuditEvent) :
    parseJson (String.ofList (event.line sha256)) =
      some (event.canonicalRecord sha256).viaJson := by
  rw [line, String.ofList_toList]
  exact parseJson_stringify (event.inOrder_canonicalRecord sha256)

end AuditEvent

theorem run_logEvent (sha256 : Sha256) (log : List Char) (events : List AuditEvent) :
    Run.run (logEvent sha256) log events =
      log ++ LineFile.written '\n' (events.map (AuditEvent.line sha256)) := by
  rw [← LineFile.foldl_appendLine, List.foldl_map]
  rfl

/-- After any events, and also where the process stops in the middle of a last line, the whole
lines of the log are the records of the events in their order. -/
theorem log_reads_back (sha256 : Sha256) (events : List AuditEvent) (last : AuditEvent) (n : ℕ) :
    (LineFile.lines '\n' (Run.run (logEvent sha256) [] events ++ (last.line sha256).take n)).map
        (fun line => parseJson (String.ofList line)) =
      events.map fun event => some (event.canonicalRecord sha256).viaJson := by
  have hlines : ∀ line ∈ events.map (AuditEvent.line sha256), '\n' ∉ line := by
    intro line hline
    obtain ⟨event, -, rfl⟩ := List.mem_map.1 hline
    exact event.newline_notMem_line sha256
  have htail : '\n' ∉ (last.line sha256).take n :=
    fun h => last.newline_notMem_line sha256 (List.mem_of_mem_take h)
  have hread : LineFile.lines '\n' (Run.run (logEvent sha256) [] events ++
      (last.line sha256).take n) = events.map (AuditEvent.line sha256) := by
    rw [run_logEvent, List.nil_append, LineFile.lines_written_append hlines htail]
  rw [hread, List.map_map, Function.comp_def]
  simp only [AuditEvent.parse_line]

/-! ## What the digest of a line covers -/

namespace AuditEvent

theorem bar_notMem_action (action : AuditAction) : '|' ∉ action.text.toList := by
  cases action <;> decide

theorem bar_notMem_status (status : AuditStatus) : '|' ∉ status.text.toList := by
  cases status <;> decide

/-- The time ends at the first bar, the action and the status start behind the last two. -/
theorem hashInput_inj {e e' : AuditEvent} (h : e.hashInput = e'.hashInput) :
    e.timestamp = e'.timestamp ∧ e.payload.tenantId = e'.payload.tenantId ∧
      e.payload.action = e'.payload.action ∧ e.payload.status = e'.payload.status := by
  have hbar : "|".toList = ['|'] := by simp
  have hlist := congrArg String.toList h
  unfold hashInput at hlist
  simp only [String.toList_append, hbar, List.append_assoc, List.singleton_append] at hlist
  obtain ⟨htime, hrest⟩ := eq_of_append_cons e.plain e'.plain hlist
  have hsplit : (e.payload.tenantId.toList ++ '|' :: e.payload.action.text.toList) ++
      '|' :: e.payload.status.text.toList =
      (e'.payload.tenantId.toList ++ '|' :: e'.payload.action.text.toList) ++
        '|' :: e'.payload.status.text.toList := by
    simpa using hrest
  obtain ⟨hfront, hstatus⟩ :=
    eq_of_append_cons_last (bar_notMem_status _) (bar_notMem_status _) hsplit
  obtain ⟨htenant, haction⟩ :=
    eq_of_append_cons_last (bar_notMem_action _) (bar_notMem_action _) hfront
  exact ⟨String.toList_inj.1 htime, String.toList_inj.1 htenant,
    AuditAction.text_inj (String.toList_inj.1 haction),
    AuditStatus.text_inj (String.toList_inj.1 hstatus)⟩

/-- What a reader of the log can recompute of a line. -/
def verifiesLine (sha256 : Sha256) (entry : JsValue) : Bool :=
  match (entry.get "ts").asString?, (entry.get "tenantId").asString?,
    (entry.get "action").asString?, (entry.get "status").asString? with
  | some ts, some tenantId, some action, some status =>
      (entry.get "integritySignature").isStr
        (sha256Hex sha256 (ts ++ "|" ++ tenantId ++ "|" ++ action ++ "|" ++ status))
  | _, _, _, _ => false

theorem get_recordWith_viaJson (signature : String) (event : AuditEvent) (key : String) {s : String}
    (h : (event.recordWith signature).get key = .str s) :
    (event.recordWith signature).viaJson.get key = .str s :=
  get_viaJson ⟨_, rfl⟩ h (by simp)

theorem verifiesLine_recordWith (sha256 : Sha256) (signature : String) (event : AuditEvent) :
    verifiesLine sha256 (event.recordWith signature).viaJson = true ↔
      signature = event.integritySignature sha256 := by
  have hts := event.get_recordWith_viaJson signature "ts" rfl
  have htenant := event.get_recordWith_viaJson signature "tenantId" rfl
  have haction := event.get_recordWith_viaJson signature "action" rfl
  have hstatus := event.get_recordWith_viaJson signature "status" rfl
  have hsignature := event.get_recordWith_viaJson signature "integritySignature" rfl
  rw [verifiesLine, hts, htenant, haction, hstatus, hsignature]
  simp only [asString?_str]
  rw [isStr_iff, JsValue.str.injEq]
  rfl

/-- A line under the digest of another event verifies exactly where the two agree in time, tenant,
action and status.  The error and the transaction may have been rewritten. -/
theorem verifiesLine_of_signed_iff (sha256 : Sha256) (signed event : AuditEvent)
    (hfree : CollisionFreeOn sha256 [signed.hashInput, event.hashInput]) :
    verifiesLine sha256 (event.recordWith (signed.integritySignature sha256)).viaJson = true ↔
      signed.timestamp = event.timestamp ∧ signed.payload.tenantId = event.payload.tenantId ∧
        signed.payload.action = event.payload.action ∧
        signed.payload.status = event.payload.status := by
  rw [verifiesLine_recordWith]
  constructor
  · intro h
    exact hashInput_inj (hfree _ List.mem_cons_self _ (List.mem_cons_of_mem _ List.mem_cons_self) h)
  · rintro ⟨htime, htenant, haction, hstatus⟩
    unfold integritySignature hashInput
    rw [htime, htenant, haction, hstatus]

/-- A refused lock, under two error texts. -/
def sampleEvent (error : String) : AuditEvent where
  timestamp := "2026-01-01T00:00:00.000Z"
  payload := ⟨"tenant", .lock, .failed, error, .undefined, .str error, .undefined⟩
  plain := by decide

/-- The digest of both. -/
def sampleSha256 : Sha256 := fun _ =>
  ⟨"da03df72d639f36b37ae34dbcb49fdf549da0e0d72eba7594997d964505a9648", by rfl⟩

theorem verifiesLine_of_signed_iff_sample :
    verifiesLine sampleSha256 ((sampleEvent "rewritten").recordWith
        ((sampleEvent "refused").integritySignature sampleSha256)).viaJson = true ↔
      (sampleEvent "refused").timestamp = (sampleEvent "rewritten").timestamp ∧
        (sampleEvent "refused").payload.tenantId = (sampleEvent "rewritten").payload.tenantId ∧
        (sampleEvent "refused").payload.action = (sampleEvent "rewritten").payload.action ∧
        (sampleEvent "refused").payload.status = (sampleEvent "rewritten").payload.status := by
  apply verifiesLine_of_signed_iff
  have hsame : (sampleEvent "rewritten").hashInput = (sampleEvent "refused").hashInput := rfl
  intro a ha b hb _
  simp only [hsame, List.mem_cons, List.not_mem_nil, or_false, or_self] at ha hb
  rw [ha, hb]

end AuditEvent

end UniverEscrow.Ledger
