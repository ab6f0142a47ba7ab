import UniverEscrow.Backend.HandshakeLifecycle
import UniverEscrow.Backend.PayoutCalls

/-!
# Overlapping payouts

Each attempt of the router has a token of its own, so no unique column stops the second one: what
one call has checked, another has changed when it pays, stores or marks.
-/

namespace UniverEscrow.Backend

open UniverEscrow.Js UniverEscrow.Merkle UniverEscrow.Lib

variable {κ : Type} {handshakeId : String} {calls : κ → PayoutCall} {w : PayoutWorld κ} {k : κ}

/-- The rail completes for at most one call, and at most one call reports a fresh release. -/
structure PaidOnce (w : PayoutWorld κ) : Prop where
  executed : ∀ i j, (w.phase i).executed = true → (w.phase j).executed = true → i = j
  succeeded : ∀ i j, (w.phase i).succeeded = true → (w.phase j).succeeded = true → i = j

/-! ## One step -/

/-- What a step that stores in time does to the table and to the phase of its call. -/
inductive PayoutEffect (handshakeId : String) (w : PayoutWorld κ) (k : κ) :
    Handshakes × PayoutPhase → Prop
  | passes {phase : PayoutPhase} (executed : phase.executed = (w.phase k).executed)
      (succeeded : phase.succeeded = (w.phase k).succeeded) :
      PayoutEffect handshakeId w k (w.table, phase)
  | pays {phase : PayoutPhase} (unreleased : ¬ IsReleased handshakeId w.table)
      (alone : ∀ j, (w.phase j).holdsPayout = false)
      (succeeded : phase.succeeded = (w.phase k).succeeded) :
      PayoutEffect handshakeId w k (w.table, phase)
  | stores {phase : PayoutPhase} {row : PayoutHandshake}
      (unreleased : ¬ IsReleased handshakeId w.table) (status : row.status = .released)
      (executed : phase.executed = (w.phase k).executed) :
      PayoutEffect handshakeId w k (w.table.set handshakeId row, phase)
  | marks {phase : PayoutPhase} (unreleased : ¬ IsReleased handshakeId w.table)
      (executed : phase.executed = (w.phase k).executed)
      (succeeded : phase.succeeded = (w.phase k).succeeded) :
      PayoutEffect handshakeId w k (markFailed handshakeId w.table, phase)

/-- A step that changes neither the table nor a flag. -/
theorem PayoutEffect.of_flags {phase phase' : PayoutPhase} (hphase : w.phase k = phase)
    (executed : phase'.executed = phase.executed) (succeeded : phase'.succeeded = phase.succeeded) :
    PayoutEffect handshakeId w k (w.table, phase') :=
  .passes (hphase ▸ executed) (hphase ▸ succeeded)

theorem effect_process {call : ProcessCall} (hcall : calls k = .processUniversalHandshake call)
    (hintime : StoresInTime handshakeId calls w k) :
    PayoutEffect handshakeId w k ((calls k).next handshakeId w.table (w.phase k)) := by
  rw [StoresInTime, hcall] at hintime
  rw [hcall]
  cases hphase : w.phase k with
  | start =>
      cases hpre : preflight handshakeId w.table with
      | ok handshake =>
          simp only [PayoutCall.next, hpre]
          exact .of_flags hphase rfl rfl
      | error message =>
          simp only [PayoutCall.next, hpre]
          exact .of_flags hphase rfl rfl
  | checked handshake =>
      rw [hphase] at hintime
      cases hrail : executeRouteRelease call.rail handshake with
      | ok u =>
          simp only [PayoutCall.next, hrail]
          obtain ⟨hunreleased, halone⟩ := hintime hrail
          exact .pays hunreleased halone (by rw [hphase]; rfl)
      | error message =>
          simp only [PayoutCall.next, hrail]
          exact .of_flags hphase rfl rfl
  | paid handshake =>
      rw [hphase] at hintime
      cases hwrite : releaseByRail (releaseTxId handshake call.txMs) handshakeId call.releasedMs
          w.table with
      | ok written =>
          obtain ⟨table, row⟩ := written
          obtain ⟨hfresh, before, -, hrow, htable⟩ := updateUnique_eq_ok.1 hwrite
          simp only [PayoutCall.next, hwrite, ← htable]
          exact .stores (hintime hfresh) (hrow ▸ rfl) (by rw [hphase]; rfl)
      | error message =>
          simp only [PayoutCall.next, hwrite]
          exact .of_flags hphase rfl rfl
  | caught executed message =>
      simp only [PayoutCall.next]
      split
      · exact .of_flags hphase rfl rfl
      · exact .of_flags hphase rfl rfl
  | marking executed message =>
      rw [hphase] at hintime
      simp only [PayoutCall.next]
      exact .marks hintime (by rw [hphase]; rfl) (by rw [hphase]; rfl)
  | matched handshake => exact .of_flags hphase rfl rfl
  | keyFree handshake => exact .of_flags hphase rfl rfl
  | released executed => exact .of_flags hphase rfl rfl
  | existing executed result => exact .of_flags hphase rfl rfl
  | threw executed message => exact .of_flags hphase rfl rfl

theorem effect_verify {nowMs : ℤ} {request : ReleaseRequest}
    (hcall : calls k = .verifyAndRelease nowMs request) (hid : request.handshakeId = handshakeId)
    (hintime : StoresInTime handshakeId calls w k) :
    PayoutEffect handshakeId w k ((calls k).next handshakeId w.table (w.phase k)) := by
  rw [StoresInTime, hcall] at hintime
  rw [hcall]
  cases hphase : w.phase k with
  | start =>
      cases hotp : checkOtp request w.table with
      | ok handshake =>
          simp only [PayoutCall.next, hotp]
          exact .of_flags hphase rfl rfl
      | error message =>
          simp only [PayoutCall.next, hotp]
          exact .of_flags hphase rfl rfl
  | matched handshake =>
      cases hkey : checkKey request w.table with
      | ok u =>
          simp only [PayoutCall.next, hkey]
          exact .of_flags hphase rfl rfl
      | error message =>
          simp only [PayoutCall.next, hkey]
          exact .of_flags hphase rfl rfl
  | keyFree handshake =>
      rw [hphase] at hintime
      cases hwrite : releaseByOtp request handshake nowMs w.table with
      | ok written =>
          obtain ⟨table, row⟩ := written
          obtain ⟨hfresh, before, -, hrow, htable⟩ := updateUnique_eq_ok.1 hwrite
          simp only [PayoutCall.next, hwrite, ← htable]
          rw [hid] at hfresh ⊢
          exact .stores (hintime hfresh) (hrow ▸ rfl) (by rw [hphase]; rfl)
      | error message =>
          simp only [PayoutCall.next, hwrite]
          exact .of_flags hphase rfl rfl
  | checked handshake => exact .of_flags hphase rfl rfl
  | paid handshake => exact .of_flags hphase rfl rfl
  | caught executed message => exact .of_flags hphase rfl rfl
  | marking executed message => exact .of_flags hphase rfl rfl
  | released executed => exact .of_flags hphase rfl rfl
  | existing executed result => exact .of_flags hphase rfl rfl
  | threw executed message => exact .of_flags hphase rfl rfl

theorem effect_of_storesInTime (hon : OnHandshake handshakeId calls)
    (hintime : StoresInTime handshakeId calls w k) :
    PayoutEffect handshakeId w k ((calls k).next handshakeId w.table (w.phase k)) := by
  cases hcall : calls k with
  | processUniversalHandshake call => exact hcall ▸ effect_process hcall hintime
  | verifyAndRelease nowMs request =>
      exact hcall ▸ effect_verify hcall (hon k nowMs request hcall) hintime

/-! ## Every step -/

/-- A call that has reported a fresh release has left the handshake released. -/
structure PayoutInvariant (handshakeId : String) (w : PayoutWorld κ) : Prop where
  once : PaidOnce w
  stored : ∀ k, (w.phase k).succeeded = true → IsReleased handshakeId w.table

theorem payoutInvariant_initial (handshakeId : String) (table : Handshakes) :
    PayoutInvariant handshakeId (PayoutWorld.initial table : PayoutWorld κ) where
  once := ⟨fun _ _ h => (by cases h), fun _ _ h => (by cases h)⟩
  stored _ h := by cases h

/-- Before the handshake is released no call has reported a fresh release. -/
theorem PayoutInvariant.not_succeeded (h : PayoutInvariant handshakeId w)
    (hunreleased : ¬ IsReleased handshakeId w.table) (i : κ) : (w.phase i).succeeded = false := by
  rw [← Bool.not_eq_true]
  exact fun hi => hunreleased (h.stored i hi)

section
variable [DecidableEq κ]

/-- A released handshake does not become a failed one. -/
def KeepsReleased (handshakeId : String) (calls : κ → PayoutCall) (w : PayoutWorld κ) (k : κ) :
    Prop :=
  IsReleased handshakeId w.table →
    ∀ row, (payoutStep handshakeId calls w k).table.get? handshakeId = some row →
      row.status ≠ .failed

/-- The phase of one call is replaced by one that agrees with it on a flag. -/
theorem flag_update {flag : PayoutPhase → Bool} {phase : PayoutPhase}
    (h : flag phase = flag (w.phase k)) (i : κ) :
    flag (Function.update w.phase k phase i) = flag (w.phase i) := by
  by_cases hi : i = k
  · rw [hi, Function.update_self, h]
  · rw [Function.update_of_ne hi]

theorem payoutInvariant_effect (h : PayoutInvariant handshakeId w)
    {result : Handshakes × PayoutPhase} (heffect : PayoutEffect handshakeId w k result) :
    PayoutInvariant handshakeId ⟨result.1, Function.update w.phase k result.2⟩ := by
  cases heffect with
  | passes executed succeeded =>
      refine ⟨⟨fun i j hi hj => ?_, fun i j hi hj => ?_⟩, fun i hi => ?_⟩
      · rw [flag_update executed] at hi hj
        exact h.once.executed i j hi hj
      · rw [flag_update succeeded] at hi hj
        exact h.once.succeeded i j hi hj
      · rw [flag_update succeeded] at hi
        exact h.stored i hi
  | @pays phase unreleased alone succeeded =>
      have hself : ∀ i, (Function.update w.phase k phase i).executed = true → i = k := by
        intro i hi
        by_contra hne
        rw [Function.update_of_ne hne] at hi
        have hholds := alone i
        rw [PayoutPhase.holdsPayout, hi, h.not_succeeded unreleased i] at hholds
        cases hholds
      refine ⟨⟨fun i j hi hj => (hself i hi).trans (hself j hj).symm, fun i j hi _ => ?_⟩,
        fun i hi => ?_⟩
      · rw [flag_update succeeded, h.not_succeeded unreleased i] at hi
        cases hi
      · rw [flag_update succeeded] at hi
        exact h.stored i hi
  | @stores phase row unreleased status executed =>
      have hself : ∀ i, (Function.update w.phase k phase i).succeeded = true → i = k := by
        intro i hi
        by_contra hne
        rw [Function.update_of_ne hne, h.not_succeeded unreleased i] at hi
        cases hi
      refine ⟨⟨fun i j hi hj => ?_, fun i j hi hj => (hself i hi).trans (hself j hj).symm⟩,
        fun _ _ => ⟨_, OrderedMap.get?_set_self _ _ _, status⟩⟩
      rw [flag_update executed] at hi hj
      exact h.once.executed i j hi hj
  | marks unreleased executed succeeded =>
      refine ⟨⟨fun i j hi hj => ?_, fun i j hi _ => ?_⟩, fun i hi => ?_⟩
      · rw [flag_update executed] at hi hj
        exact h.once.executed i j hi hj
      · rw [flag_update succeeded, h.not_succeeded unreleased i] at hi
        cases hi
      · rw [flag_update succeeded, h.not_succeeded unreleased i] at hi
        cases hi

theorem payoutInvariant_step (hon : OnHandshake handshakeId calls)
    (h : PayoutInvariant handshakeId w) (hintime : StoresInTime handshakeId calls w k) :
    PayoutInvariant handshakeId (payoutStep handshakeId calls w k) :=
  payoutInvariant_effect h (effect_of_storesInTime hon hintime)

theorem keepsReleased_of_storesInTime (hon : OnHandshake handshakeId calls)
    (hintime : StoresInTime handshakeId calls w k) : KeepsReleased handshakeId calls w k := by
  intro hreleased row hrow
  have heffect := effect_of_storesInTime hon hintime
  simp only [payoutStep] at hrow
  have hsame : ∀ row, w.table.get? handshakeId = some row → row.status ≠ .failed := by
    obtain ⟨before, hbefore, hstatus⟩ := hreleased
    intro row hrow
    rw [hbefore] at hrow
    rw [← Option.some.inj hrow, hstatus]
    decide
  generalize (calls k).next handshakeId w.table (w.phase k) = result at heffect hrow
  cases heffect with
  | passes _ _ => exact hsame row hrow
  | pays _ _ _ => exact hsame row hrow
  | stores unreleased _ _ => exact absurd hreleased unreleased
  | marks unreleased _ _ => exact absurd hreleased unreleased

/-- In an overlap in which every rail completes and every release and mark is stored before the
handshake is released, it is paid out and released at most once, and no released handshake
becomes a failed one. -/
theorem overlapping_payouts_paid_once (handshakeId : String) (calls : κ → PayoutCall)
    (hon : OnHandshake handshakeId calls) (table : Handshakes) (schedule : List κ)
    (hintime : Run.EachStep (payoutStep handshakeId calls) (StoresInTime handshakeId calls)
      (PayoutWorld.initial table) schedule) :
    Run.Throughout (payoutStep handshakeId calls) PaidOnce (PayoutWorld.initial table) schedule ∧
      Run.EachStep (payoutStep handshakeId calls) (KeepsReleased handshakeId calls)
        (PayoutWorld.initial table) schedule := by
  have hinit : PayoutInvariant handshakeId (PayoutWorld.initial table : PayoutWorld κ) :=
    payoutInvariant_initial handshakeId table
  constructor
  · have hthroughout := Run.throughout_of_step
      (fun w k h hk => payoutInvariant_step hon h hk) hinit hintime
    exact hthroughout.mono fun w h => h.once
  · exact Run.eachStep_of_step
      (fun w k h hk => ⟨payoutInvariant_step hon h hk, keepsReleased_of_storesInTime hon hk⟩)
      hinit hintime

end

/-! ### A sample -/

/-- The sample's handshake with a stored confidence of 1. -/
def payoutTable : Handshakes :=
  sampleHandshakes.updateMany "hs_u-1" fun row => { row with aiConfidence := binaryOne }

/-- Two calls of the router, a second apart. -/
def twoProcesses (second : Bool) : PayoutCall :=
  .processUniversalHandshake { sampleProcess with
    txMs := if second then 1767225661000 else 1767225660000 }

/-- A call of the router whose rail does not answer, and a release by password. -/
def processAndOtp : Bool → PayoutCall
  | false => .processUniversalHandshake { sampleProcess with rail := .error "MPESA_HTTP_504" }
  | true => .verifyAndRelease 1767225600000
      { handshakeId := "hs_u-1"
        idempotencyKey := "key-1"
        userOtpHash := sha256Hex passwordSha256 "123456"
        podPhotoUrl := "https://proof.example/1.jpg"
        podGpsCiphertext := "null" }

def overlappedPayouts (calls : Bool → PayoutCall) (schedule : List Bool) : PayoutWorld Bool :=
  Run.run (payoutStep "hs_u-1" calls) (PayoutWorld.initial payoutTable) schedule

theorem onHandshake_twoProcesses : OnHandshake "hs_u-1" twoProcesses := by
  intro k nowMs request h
  cases h

/-- One call and then the other. -/
theorem overlapping_payouts_paid_once_sample :
    Run.Throughout (payoutStep "hs_u-1" twoProcesses) PaidOnce (PayoutWorld.initial payoutTable)
        ([false, true].flatMap (List.replicate 5)) ∧
      Run.EachStep (payoutStep "hs_u-1" twoProcesses) (KeepsReleased "hs_u-1" twoProcesses)
        (PayoutWorld.initial payoutTable) ([false, true].flatMap (List.replicate 5)) :=
  overlapping_payouts_paid_once "hs_u-1" twoProcesses onHandshake_twoProcesses payoutTable
    ([false, true].flatMap (List.replicate 5))
    (storesInTime_one_after_another onHandshake_twoProcesses payoutTable [false, true])

/-- Two calls of the router that both check before either stores both pay, and one whose rail fails
marks what a password has released in between. -/
theorem overlapping_payouts_pay_twice :
    ((overlappedPayouts twoProcesses [false, true, false, true]).phase false).executed = true ∧
      ((overlappedPayouts twoProcesses [false, true, false, true]).phase true).executed = true ∧
      ¬ Run.Throughout (payoutStep "hs_u-1" twoProcesses) PaidOnce
        (PayoutWorld.initial payoutTable) [false, true, false, true] ∧
      ((overlappedPayouts processAndOtp [false, true, true, true]).table.get? "hs_u-1").map
        PayoutHandshake.status = some .released ∧
      ((overlappedPayouts processAndOtp [false, true, true, true, false, false, false]).table.get?
        "hs_u-1").map PayoutHandshake.status = some .failed ∧
      ¬ Run.EachStep (payoutStep "hs_u-1" processAndOtp) (KeepsReleased "hs_u-1" processAndOtp)
        (PayoutWorld.initial payoutTable) [false, true, true, true, false, false, false] := by
  have hfirst : ((overlappedPayouts twoProcesses [false, true, false, true]).phase
      false).executed = true := by decide +kernel
  have hsecond : ((overlappedPayouts twoProcesses [false, true, false, true]).phase
      true).executed = true := by decide +kernel
  have hreleased : ((overlappedPayouts processAndOtp [false, true, true, true]).table.get?
      "hs_u-1").map PayoutHandshake.status = some .released := by decide +kernel
  have hbefore : ((overlappedPayouts processAndOtp [false, true, true, true, false,
      false]).table.get? "hs_u-1").map PayoutHandshake.status = some .released := by decide +kernel
  have hfailed : ((overlappedPayouts processAndOtp [false, true, true, true, false, false,
      false]).table.get? "hs_u-1").map PayoutHandshake.status = some .failed := by decide +kernel
  refine ⟨hfirst, hsecond, fun h => ?_, hreleased, hfailed, fun h => ?_⟩
  · exact absurd (h.run.executed false true hfirst hsecond) (by decide)
  · obtain ⟨-, -, -, -, -, -, hmark, -⟩ := h
    obtain ⟨before, hfound, hstatus⟩ := Option.map_eq_some_iff.1 hbefore
    obtain ⟨after, hafter, hstatus'⟩ := Option.map_eq_some_iff.1 hfailed
    exact hmark ⟨before, hfound, hstatus⟩ after hafter hstatus'

end UniverEscrow.Backend
