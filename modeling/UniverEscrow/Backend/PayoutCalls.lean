import UniverEscrow.Backend.PayoutRouter
import UniverEscrow.Lib.Run
import Mathlib.Logic.Function.Basic

/-!
# Payout calls and their statements

The router checks the status, executes the rail and updates the row in separate statements; a
release by password does the same in a transaction whose statements others come between.  An
interleaving is a list of the calls that go on.
-/

namespace UniverEscrow.Backend

open UniverEscrow.Js UniverEscrow.Merkle UniverEscrow.Lib

/-- A call on one handshake; an input that fails its validation reaches no statement. -/
inductive PayoutCall where
  | processUniversalHandshake (call : ProcessCall)
  | verifyAndRelease (nowMs : ℤ) (request : ReleaseRequest)

/-- Where a call stands between its statements.  `executed` says that its rail has completed. -/
inductive PayoutPhase where
  | start
  | checked (handshake : PayoutHandshake)
  | paid (handshake : PayoutHandshake)
  | caught (executed : Bool) (message : String)
  | marking (executed : Bool) (message : String)
  | matched (handshake : PayoutHandshake)
  | keyFree (handshake : PayoutHandshake)
  | released (executed : Bool)
  | existing (executed : Bool) (result : ProcessResult)
  | threw (executed : Bool) (message : String)

/-- `executeRouteRelease` has completed in the call. -/
def PayoutPhase.executed : PayoutPhase → Bool
  | .paid _ => true
  | .caught executed _ | .marking executed _ | .released executed | .existing executed _
  | .threw executed _ => executed
  | .start | .checked _ | .matched _ | .keyFree _ => false

/-- The call reports a fresh release. -/
def PayoutPhase.succeeded : PayoutPhase → Bool
  | .released _ => true
  | _ => false

/-- The next statement of a call. -/
def PayoutCall.next (handshakeId : String) (table : Handshakes) :
    PayoutCall → PayoutPhase → Handshakes × PayoutPhase
  | .processUniversalHandshake _, .start =>
      match preflight handshakeId table with
      | .ok handshake => (table, .checked handshake)
      | .error message => (table, .threw false message)
  | .processUniversalHandshake call, .checked handshake =>
      match executeRouteRelease call.rail handshake with
      | .ok _ => (table, .paid handshake)
      | .error message => (table, .caught false message)
  | .processUniversalHandshake call, .paid handshake =>
      match releaseByRail (releaseTxId handshake call.txMs) handshakeId call.releasedMs table with
      | .ok (table, _) => (table, .released true)
      | .error message => (table, .caught true message)
  | .processUniversalHandshake _, .caught executed message =>
      match if isUniqueRace message then releasedRecord handshakeId table else none with
      | some result => (table, .existing executed result)
      | none => (table, .marking executed message)
  | .processUniversalHandshake _, .marking executed message =>
      (markFailed handshakeId table, .threw executed message)
  | .verifyAndRelease _ request, .start =>
      match checkOtp request table with
      | .ok handshake => (table, .matched handshake)
      | .error message => (table, .threw false (verifyAndReleaseError message))
  | .verifyAndRelease _ request, .matched handshake =>
      match checkKey request table with
      | .ok _ => (table, .keyFree handshake)
      | .error message => (table, .threw false (verifyAndReleaseError message))
  | .verifyAndRelease nowMs request, .keyFree handshake =>
      match releaseByOtp request handshake nowMs table with
      | .ok (table, _) => (table, .released false)
      | .error message => (table, .threw false (verifyAndReleaseError message))
  | _, phase => (table, phase)

structure PayoutWorld (κ : Type) where
  table : Handshakes
  phase : κ → PayoutPhase

def PayoutWorld.initial {κ : Type} (table : Handshakes) : PayoutWorld κ := ⟨table, fun _ => .start⟩

variable {κ : Type} {handshakeId : String} {calls : κ → PayoutCall} {w : PayoutWorld κ} {k : κ}

/-- All calls are on the handshake. -/
def OnHandshake (handshakeId : String) (calls : κ → PayoutCall) : Prop :=
  ∀ k nowMs request, calls k = .verifyAndRelease nowMs request → request.handshakeId = handshakeId

/-! ## Storing in time -/

def IsReleased (handshakeId : String) (table : Handshakes) : Prop :=
  ∃ row, table.get? handshakeId = some row ∧ row.status = .released

/-- The call has executed the rail and not stored it. -/
def PayoutPhase.holdsPayout (phase : PayoutPhase) : Bool := phase.executed && !phase.succeeded

/-- A rail completes only before the handshake is released and while no other call holds a
payout; a release and a mark are stored only before the handshake is released. -/
def StoresInTime (handshakeId : String) (calls : κ → PayoutCall) (w : PayoutWorld κ) (k : κ) :
    Prop :=
  match calls k, w.phase k with
  | .processUniversalHandshake call, .checked handshake =>
      executeRouteRelease call.rail handshake = .ok () →
        ¬ IsReleased handshakeId w.table ∧ ∀ j, (w.phase j).holdsPayout = false
  | .processUniversalHandshake call, .paid handshake =>
      w.table.takenElsewhere handshakeId PayoutHandshake.processedReleaseTxId
          (releaseTxId handshake call.txMs) = false →
        ¬ IsReleased handshakeId w.table
  | .processUniversalHandshake _, .marking _ _ => ¬ IsReleased handshakeId w.table
  | .verifyAndRelease _ request, .keyFree _ =>
      w.table.takenElsewhere handshakeId PayoutHandshake.releaseIdempotencyKey
          request.idempotencyKey = false →
        ¬ IsReleased handshakeId w.table
  | _, _ => True

/-! ## One call after another -/

def IsLocked (handshakeId : String) (table : Handshakes) : Prop :=
  ∃ row, table.get? handshakeId = some row ∧ row.status = .locked

theorem IsLocked.not_isReleased {table : Handshakes} (h : IsLocked handshakeId table) :
    ¬ IsReleased handshakeId table := by
  obtain ⟨row, hrow, hlocked⟩ := h
  rintro ⟨row', hrow', hreleased⟩
  rw [hrow, Option.some.injEq] at hrow'
  rw [hrow', hreleased] at hlocked
  cases hlocked

theorem not_isLocked_set {table : Handshakes} {row : PayoutHandshake} (h : row.status ≠ .locked) :
    ¬ IsLocked handshakeId (table.set handshakeId row) := by
  rintro ⟨row', hrow', hlocked⟩
  rw [OrderedMap.get?_set_self, Option.some.injEq] at hrow'
  exact h (hrow' ▸ hlocked)

theorem not_isLocked_markFailed (handshakeId : String) (table : Handshakes) :
    ¬ IsLocked handshakeId (markFailed handshakeId table) := by
  rw [markFailed, Handshakes.updateMany]
  cases hrow : table.get? handshakeId with
  | some row => exact not_isLocked_set (by simp [markedFailed])
  | none =>
      rintro ⟨row', hrow', -⟩
      rw [hrow] at hrow'
      cases hrow'

/-- What a call has seen of the handshake is still so, and what it has executed shows. -/
def UpToDate (handshakeId : String) (table : Handshakes) : PayoutCall → PayoutPhase → Prop
  | _, .start => True
  | .processUniversalHandshake _, .checked _ | .processUniversalHandshake _, .paid _
  | .processUniversalHandshake _, .caught _ _ | .processUniversalHandshake _, .marking _ _ =>
      IsLocked handshakeId table
  | .verifyAndRelease _ _, .matched _ | .verifyAndRelease _ _, .keyFree _ =>
      ¬ IsReleased handshakeId table
  | _, .released executed | _, .existing executed _ | _, .threw executed _ =>
      executed = true → ¬ IsLocked handshakeId table
  | _, _ => False

/-- How many statements are left at most. -/
def PayoutPhase.left : PayoutPhase → ℕ
  | .start => 5
  | .checked _ => 4
  | .paid _ => 3
  | .caught _ _ | .matched _ => 2
  | .marking _ _ | .keyFree _ => 1
  | .released _ | .existing _ _ | .threw _ _ => 0

/-- What the next statement of an undisturbed call leaves. -/
structure Advanced (handshakeId : String) (table : Handshakes) (call : PayoutCall)
    (phase : PayoutPhase) (result : Handshakes × PayoutPhase) : Prop where
  upToDate : UpToDate handshakeId result.1 call result.2
  locked : IsLocked handshakeId result.1 → IsLocked handshakeId table
  left : result.2.left ≤ phase.left - 1

/-- A call that throws before its rail leaves the table, and has nothing to show. -/
theorem advanced_threw (handshakeId : String) (table : Handshakes) (call : PayoutCall)
    (phase : PayoutPhase) (message : String) :
    Advanced handshakeId table call phase (table, .threw false message) where
  upToDate := by
    cases call with
    | processUniversalHandshake call => exact fun h => absurd h Bool.false_ne_true
    | verifyAndRelease nowMs request => exact fun h => absurd h Bool.false_ne_true
  locked := id
  left := Nat.zero_le _

theorem advanced_process (handshakeId : String) (call : ProcessCall) (table : Handshakes)
    (phase : PayoutPhase)
    (h : UpToDate handshakeId table (.processUniversalHandshake call) phase) :
    Advanced handshakeId table (.processUniversalHandshake call) phase
      ((PayoutCall.processUniversalHandshake call).next handshakeId table phase) := by
  cases phase with
  | start =>
      cases hpre : preflight handshakeId table with
      | ok handshake =>
          have hpayable := preflight_eq_ok.1 hpre
          simp only [PayoutCall.next, hpre]
          exact ⟨⟨handshake, hpayable.found, hpayable.locked⟩, id, le_rfl⟩
      | error message =>
          simp only [PayoutCall.next, hpre]
          exact advanced_threw _ _ _ _ _
  | checked handshake =>
      cases hrail : executeRouteRelease call.rail handshake with
      | ok u =>
          simp only [PayoutCall.next, hrail]
          exact ⟨h, id, le_rfl⟩
      | error message =>
          simp only [PayoutCall.next, hrail]
          exact ⟨h, id, Nat.le_succ 2⟩
  | paid handshake =>
      cases hwrite : releaseByRail (releaseTxId handshake call.txMs) handshakeId call.releasedMs
          table with
      | ok written =>
          obtain ⟨after, row⟩ := written
          obtain ⟨-, before, -, hrow, hafter⟩ := updateUnique_eq_ok.1 hwrite
          have hnot : ¬ IsLocked handshakeId after := by
            rw [← hafter, ← hrow]
            exact not_isLocked_set (by simp [releasedByRail])
          simp only [PayoutCall.next, hwrite]
          exact ⟨fun _ => hnot, fun hlocked => absurd hlocked hnot, Nat.zero_le _⟩
      | error message =>
          simp only [PayoutCall.next, hwrite]
          exact ⟨h, id, le_rfl⟩
  | caught executed message =>
      have hnone : (if isUniqueRace message then releasedRecord handshakeId table else none) =
          none := by
        obtain ⟨row, hrow, hlocked⟩ := h
        simp [releasedRecord, hrow, hlocked]
      simp only [PayoutCall.next, hnone]
      exact ⟨h, id, le_rfl⟩
  | marking executed message =>
      have hnot := not_isLocked_markFailed handshakeId table
      exact ⟨fun _ => hnot, fun hlocked => absurd hlocked hnot, Nat.zero_le _⟩
  | matched handshake => exact h.elim
  | keyFree handshake => exact h.elim
  | released executed => exact ⟨h, id, Nat.zero_le _⟩
  | existing executed result => exact ⟨h, id, Nat.zero_le _⟩
  | threw executed message => exact ⟨h, id, Nat.zero_le _⟩

theorem advanced_verify {handshakeId : String} {nowMs : ℤ} {request : ReleaseRequest}
    (hid : request.handshakeId = handshakeId) (table : Handshakes) (phase : PayoutPhase)
    (h : UpToDate handshakeId table (.verifyAndRelease nowMs request) phase) :
    Advanced handshakeId table (.verifyAndRelease nowMs request) phase
      ((PayoutCall.verifyAndRelease nowMs request).next handshakeId table phase) := by
  cases phase with
  | start =>
      cases hotp : checkOtp request table with
      | ok handshake =>
          obtain ⟨hfound, -, hopen⟩ := checkOtp_eq_ok.1 hotp
          simp only [PayoutCall.next, hotp]
          refine ⟨?_, id, Nat.le_add_left 2 2⟩
          rintro ⟨row, hrow, hreleased⟩
          rw [← hid, hfound, Option.some.injEq] at hrow
          exact hopen (hrow ▸ hreleased)
      | error message =>
          simp only [PayoutCall.next, hotp]
          exact advanced_threw _ _ _ _ _
  | matched handshake =>
      cases hkey : checkKey request table with
      | ok u =>
          simp only [PayoutCall.next, hkey]
          exact ⟨h, id, le_rfl⟩
      | error message =>
          simp only [PayoutCall.next, hkey]
          exact advanced_threw _ _ _ _ _
  | keyFree handshake =>
      cases hwrite : releaseByOtp request handshake nowMs table with
      | ok written =>
          obtain ⟨after, row⟩ := written
          obtain ⟨-, before, -, hrow, hafter⟩ := updateUnique_eq_ok.1 hwrite
          have hnot : ¬ IsLocked handshakeId after := by
            rw [← hafter, ← hrow, hid]
            exact not_isLocked_set (by simp [releasedByOtp])
          simp only [PayoutCall.next, hwrite]
          exact ⟨fun h => (by cases h), fun hlocked => absurd hlocked hnot, Nat.zero_le _⟩
      | error message =>
          simp only [PayoutCall.next, hwrite]
          exact advanced_threw _ _ _ _ _
  | checked handshake => exact h.elim
  | paid handshake => exact h.elim
  | caught executed message => exact h.elim
  | marking executed message => exact h.elim
  | released executed => exact ⟨h, id, Nat.zero_le _⟩
  | existing executed result => exact ⟨h, id, Nat.zero_le _⟩
  | threw executed message => exact ⟨h, id, Nat.zero_le _⟩

/-- One call is under way; what the others have executed shows. -/
structure OneUnderWay (handshakeId : String) (calls : κ → PayoutCall) (w : PayoutWorld κ) (k : κ) :
    Prop where
  own : UpToDate handshakeId w.table (calls k) (w.phase k)
  others : ∀ j, j ≠ k → (w.phase j).executed = true → ¬ IsLocked handshakeId w.table

theorem OneUnderWay.storesInTime (h : OneUnderWay handshakeId calls w k) :
    StoresInTime handshakeId calls w k := by
  have hown := h.own
  unfold StoresInTime
  split
  · rename_i hcall hphase
    rw [hcall, hphase] at hown
    refine fun _ => ⟨hown.not_isReleased, fun j => ?_⟩
    by_cases hj : j = k
    · rw [hj, hphase]
      rfl
    · rw [PayoutPhase.holdsPayout, Bool.eq_false_iff.2 fun hexec => h.others j hj hexec hown]
      rfl
  · rename_i hcall hphase
    rw [hcall, hphase] at hown
    exact fun _ => hown.not_isReleased
  · rename_i hcall hphase
    rw [hcall, hphase] at hown
    exact hown.not_isReleased
  · rename_i hcall hphase
    rw [hcall, hphase] at hown
    exact fun _ => hown
  · trivial

theorem OneUnderWay.advanced (hon : OnHandshake handshakeId calls)
    (h : OneUnderWay handshakeId calls w k) :
    Advanced handshakeId w.table (calls k) (w.phase k)
      ((calls k).next handshakeId w.table (w.phase k)) := by
  have hown := h.own
  cases hcall : calls k with
  | processUniversalHandshake call =>
      rw [hcall] at hown
      exact advanced_process handshakeId call w.table (w.phase k) hown
  | verifyAndRelease nowMs request =>
      rw [hcall] at hown
      exact advanced_verify (hon k nowMs request hcall) w.table (w.phase k) hown

/-- No call is under way, and what they have executed shows. -/
structure NoneUnderWay (handshakeId : String) (w : PayoutWorld κ) : Prop where
  ended : ∀ k, w.phase k = .start ∨ (w.phase k).left = 0
  executed : ∀ k, (w.phase k).executed = true → ¬ IsLocked handshakeId w.table

theorem NoneUnderWay.oneUnderWay (h : NoneUnderWay handshakeId w) (k : κ) :
    OneUnderWay handshakeId calls w k where
  own := by
    have hended := h.ended k
    have hexecuted := h.executed k
    cases hphase : w.phase k with
    | start => cases calls k <;> trivial
    | released executed =>
        rw [hphase] at hexecuted
        cases calls k <;> exact hexecuted
    | existing executed result =>
        rw [hphase] at hexecuted
        cases calls k <;> exact hexecuted
    | threw executed message =>
        rw [hphase] at hexecuted
        cases calls k <;> exact hexecuted
    | _ => simp [hphase, PayoutPhase.left] at hended
  others j _ hj := h.executed j hj

theorem OneUnderWay.noneUnderWay (h : OneUnderWay handshakeId calls w k)
    (hleft : (w.phase k).left = 0)
    (hothers : ∀ j, j ≠ k → w.phase j = .start ∨ (w.phase j).left = 0) :
    NoneUnderWay handshakeId w where
  ended j := by
    by_cases hj : j = k
    · exact .inr (hj ▸ hleft)
    · exact hothers j hj
  executed j hexec := by
    by_cases hj : j = k
    · subst hj
      have hown := h.own
      cases hphase : w.phase j with
      | released executed =>
          rw [hphase] at hown hexec
          cases hcall : calls j <;> exact (hcall ▸ hown) hexec
      | existing executed result =>
          rw [hphase] at hown hexec
          cases hcall : calls j <;> exact (hcall ▸ hown) hexec
      | threw executed message =>
          rw [hphase] at hown hexec
          cases hcall : calls j <;> exact (hcall ▸ hown) hexec
      | _ => simp [hphase, PayoutPhase.left] at hleft
    · exact h.others j hj hexec

section
variable [DecidableEq κ]

/-- One call goes on; an interleaving is the list of the calls that do. -/
def payoutStep (handshakeId : String) (calls : κ → PayoutCall) (w : PayoutWorld κ) (k : κ) :
    PayoutWorld κ where
  table := ((calls k).next handshakeId w.table (w.phase k)).1
  phase := Function.update w.phase k ((calls k).next handshakeId w.table (w.phase k)).2

theorem OneUnderWay.next (hon : OnHandshake handshakeId calls)
    (h : OneUnderWay handshakeId calls w k) :
    OneUnderWay handshakeId calls (payoutStep handshakeId calls w k) k where
  own := by
    have hadvanced := (h.advanced hon).upToDate
    simpa only [payoutStep, Function.update_self] using hadvanced
  others j hj hexec hlocked := by
    simp only [payoutStep, Function.update_of_ne hj] at hexec
    exact h.others j hj hexec ((h.advanced hon).locked hlocked)

theorem OneUnderWay.replicate (hon : OnHandshake handshakeId calls)
    (h : OneUnderWay handshakeId calls w k) (n : ℕ) :
    Run.EachStep (payoutStep handshakeId calls) (StoresInTime handshakeId calls) w
        (List.replicate n k) ∧
      OneUnderWay handshakeId calls
        (Run.run (payoutStep handshakeId calls) w (List.replicate n k)) k ∧
      ((Run.run (payoutStep handshakeId calls) w (List.replicate n k)).phase k).left ≤
        (w.phase k).left - n := by
  induction n generalizing w with
  | zero => exact ⟨trivial, h, le_rfl⟩
  | succ n ih =>
      obtain ⟨heach, hone, hleft⟩ := ih (h.next hon)
      have hstep := (h.advanced hon).left
      simp only [payoutStep, Function.update_self] at hleft
      refine ⟨⟨h.storesInTime, heach⟩, hone, ?_⟩
      rw [List.replicate_succ, Run.run_cons]
      simp only [payoutStep] at hleft ⊢
      omega

theorem phase_replicate_of_ne {j : κ} (hj : j ≠ k) (n : ℕ) :
    (Run.run (payoutStep handshakeId calls) w (List.replicate n k)).phase j = w.phase j := by
  induction n generalizing w with
  | zero => rfl
  | succ n ih =>
      rw [List.replicate_succ, Run.run_cons, ih]
      exact Function.update_of_ne hj _ _

/-- Calls one after another store in time. -/
theorem storesInTime_one_after_another (hon : OnHandshake handshakeId calls) (table : Handshakes)
    (order : List κ) :
    Run.EachStep (payoutStep handshakeId calls) (StoresInTime handshakeId calls)
      (PayoutWorld.initial table) (order.flatMap (List.replicate 5)) := by
  have hall : ∀ w : PayoutWorld κ, NoneUnderWay handshakeId w →
      Run.EachStep (payoutStep handshakeId calls) (StoresInTime handshakeId calls) w
        (order.flatMap (List.replicate 5)) := by
    induction order with
    | nil => exact fun _ _ => trivial
    | cons k order ih =>
        intro w hnone
        obtain ⟨heach, hone, hleft⟩ := (hnone.oneUnderWay k).replicate hon 5
        have hzero : ((Run.run (payoutStep handshakeId calls) w
            (List.replicate 5 k)).phase k).left = 0 := by
          obtain hstart | hended := hnone.ended k
          · rw [hstart] at hleft
            exact Nat.le_zero.1 hleft
          · omega
        refine Run.eachStep_append.2 ⟨heach, ih _ (hone.noneUnderWay hzero fun j hj => ?_)⟩
        rw [phase_replicate_of_ne hj]
        exact hnone.ended j
  exact hall _ ⟨fun _ => .inl rfl, fun _ hexec => (by cases hexec)⟩

/-! ## A whole call -/

/-- A call with no other in between. -/
def payoutAlone (handshakeId : String) (table : Handshakes) : PayoutCall → Handshakes
  | .processUniversalHandshake call => (processUniversalHandshake handshakeId call table).1
  | .verifyAndRelease nowMs request =>
      match releaseTransaction request nowMs table with
      | .ok (table, _) => table
      | .error _ => table

/-- The statements of a call in a row. -/
def PayoutCall.statements (handshakeId : String) (call : PayoutCall) :
    ℕ → Handshakes × PayoutPhase → Handshakes × PayoutPhase
  | 0, s => s
  | n + 1, s => call.statements handshakeId n (call.next handshakeId s.1 s.2)

theorem run_replicate (handshakeId : String) (calls : κ → PayoutCall) (w : PayoutWorld κ) (k : κ)
    (n : ℕ) : (Run.run (payoutStep handshakeId calls) w (List.replicate n k)).table =
      ((calls k).statements handshakeId n (w.table, w.phase k)).1 := by
  induction n generalizing w with
  | zero => rfl
  | succ n ih =>
      rw [List.replicate_succ, Run.run_cons, ih, PayoutCall.statements]
      simp only [payoutStep, Function.update_self]

theorem statements_process (handshakeId : String) (call : ProcessCall) (table : Handshakes) :
    ((PayoutCall.processUniversalHandshake call).statements handshakeId 5 (table, .start)).1 =
      (processUniversalHandshake handshakeId call table).1 := by
  rw [processUniversalHandshake]
  cases hpre : preflight handshakeId table with
  | error message => simp [PayoutCall.statements, PayoutCall.next, hpre]
  | ok handshake =>
      cases hrail : executeRouteRelease call.rail handshake with
      | error message =>
          cases hrace : if isUniqueRace message then releasedRecord handshakeId table else none <;>
            simp [PayoutCall.statements, PayoutCall.next, hpre, hrail, recoverRelease, hrace, bind,
              Except.bind]
      | ok u =>
          cases hwrite : releaseByRail (releaseTxId handshake call.txMs) handshakeId
              call.releasedMs table with
          | error message =>
              cases hrace : if isUniqueRace message then releasedRecord handshakeId table
                else none <;>
                simp [PayoutCall.statements, PayoutCall.next, hpre, hrail, hwrite, recoverRelease,
                  hrace, bind, Except.bind]
          | ok written =>
              simp [PayoutCall.statements, PayoutCall.next, hpre, hrail, hwrite, bind, Except.bind]

theorem statements_verify (handshakeId : String) (nowMs : ℤ) (request : ReleaseRequest)
    (table : Handshakes) :
    ((PayoutCall.verifyAndRelease nowMs request).statements handshakeId 5 (table, .start)).1 =
      payoutAlone handshakeId table (.verifyAndRelease nowMs request) := by
  rw [payoutAlone, releaseTransaction]
  cases hotp : checkOtp request table with
  | error message => simp [PayoutCall.statements, PayoutCall.next, hotp, bind, Except.bind]
  | ok handshake =>
      cases hkey : checkKey request table with
      | error message =>
          simp [PayoutCall.statements, PayoutCall.next, hotp, hkey, bind, Except.bind]
      | ok u =>
          cases hwrite : releaseByOtp request handshake nowMs table with
          | error message =>
              simp [PayoutCall.statements, PayoutCall.next, hotp, hkey, hwrite, bind, Except.bind]
          | ok written =>
              simp [PayoutCall.statements, PayoutCall.next, hotp, hkey, hwrite, bind, Except.bind]

/-- Five statements in a row are the whole call. -/
theorem run_uninterrupted (hstart : w.phase k = .start) :
    (Run.run (payoutStep handshakeId calls) w (List.replicate 5 k)).table =
      payoutAlone handshakeId w.table (calls k) := by
  rw [run_replicate, hstart]
  cases calls k with
  | processUniversalHandshake call => exact statements_process handshakeId call w.table
  | verifyAndRelease nowMs request => exact statements_verify handshakeId nowMs request w.table

end

end UniverEscrow.Backend
