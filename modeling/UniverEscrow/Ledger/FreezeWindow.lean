import UniverEscrow.Ledger.LedgerAuditor
import UniverEscrow.Lib.Run

/-!
# Lifting a freeze

`unfreezeIfClean` clears the flag, awaits an audit and tests the flag again.  Timer audits,
unfreeze calls, freezes, write requests and changes of the files interleave at the awaits.
-/

namespace UniverEscrow.Ledger

open UniverEscrow.Js UniverEscrow.Merkle UniverEscrow.Lib.Run

def AuditPc.isDone : AuditPc → Bool
  | .done _ => true
  | _ => false

/-- The audit has ended by calling `freeze`. -/
def AuditPc.froze : AuditPc → Bool
  | .done froze => froze
  | _ => false

inductive AuditTask where
  /-- An audit of the timer. -/
  | audit (pc : AuditPc)
  /-- An `unfreezeIfClean` call inside its audit. -/
  | unfreezeAudit (pc : AuditPc)
  /-- An `unfreezeIfClean` call whose audit has ended, before it tests the flag. -/
  | unfreezeCheck
  | unfreezeReturned (ok : Bool)

structure FreezeSystem where
  auditor : Auditor
  tasks : List AuditTask
  /-- `freeze` has been called and no `unfreezeIfClean` call has completed its audit without
  freezing since. -/
  suspect : Bool

inductive FreezeEvent where
  | freeze (reason : String)
  | startAudit
  | startUnfreeze
  | resume (task : ℕ) (reply : NotaryReply) (now : IsoTime)
  /-- The data files change under the auditor. -/
  | changeFiles (store : Store)
  /-- A write request tests `isFrozen()`. -/
  | write

namespace FreezeSystem

def start (store : Store) : FreezeSystem where
  auditor := { store := store, frozen := false, marker := none }
  tasks := []
  suspect := false

/-- `if (!this.frozen) return true`, or clear the flag and run the audit to its first await. -/
def startUnfreeze (sys : FreezeSystem) : FreezeSystem :=
  if sys.auditor.frozen then
    let (auditor, pc) := Ledger.startAudit { sys.auditor with frozen := false }
    { sys with auditor := auditor, tasks := sys.tasks ++ [.unfreezeAudit pc] }
  else { sys with tasks := sys.tasks ++ [.unfreezeReturned true] }

variable (sha256 : Sha256)

def resume (sys : FreezeSystem) (task : ℕ) (reply : NotaryReply) (now : IsoTime) :
    FreezeSystem :=
  match sys.tasks[task]? with
  | some (.audit pc) =>
      if pc.isDone then sys
      else
        let (auditor, next) := resumeAudit sha256 now reply sys.auditor pc
        { auditor := auditor
          tasks := sys.tasks.set task (.audit next)
          suspect := sys.suspect || next.froze }
  | some (.unfreezeAudit pc) =>
      let (auditor, next) := resumeAudit sha256 now reply sys.auditor pc
      if next.isDone then
        { auditor := auditor, tasks := sys.tasks.set task .unfreezeCheck, suspect := next.froze }
      else
        { sys with auditor := auditor, tasks := sys.tasks.set task (.unfreezeAudit next) }
  | some .unfreezeCheck =>
      if sys.auditor.frozen then
        { sys with tasks := sys.tasks.set task (.unfreezeReturned false) }
      else
        { sys with
          auditor := { sys.auditor with marker := none }
          tasks := sys.tasks.set task (.unfreezeReturned true) }
  | _ => sys

def step (sys : FreezeSystem) : FreezeEvent → FreezeSystem
  | .freeze reason => { sys with auditor := sys.auditor.freeze reason, suspect := true }
  | .startAudit =>
      let (auditor, pc) := Ledger.startAudit sys.auditor
      { sys with auditor := auditor, tasks := sys.tasks ++ [.audit pc] }
  | .startUnfreeze => sys.startUnfreeze
  | .resume task reply now => sys.resume sha256 task reply now
  | .changeFiles store => { sys with auditor := { sys.auditor with store := store } }
  | .write => sys

/-- A write request that finds the flag clear comes after a clean audit. -/
def WriteIsSafe (sys : FreezeSystem) : FreezeEvent → Prop
  | .write => sys.auditor.isFrozen = false → sys.suspect = false
  | _ => True

/-- No write request tests the flag while it is clear and an `unfreezeIfClean` call is inside
its audit. -/
def WriteOutsideWindow (sys : FreezeSystem) : FreezeEvent → Prop
  | .write => sys.auditor.isFrozen = true ∨ ∀ pc, .unfreezeAudit pc ∉ sys.tasks
  | _ => True

/-! ## What a step does to the flag -/

theorem startAudit_spec (auditor : Auditor) :
    (Ledger.startAudit auditor).1.frozen = auditor.frozen ∧
      (auditor.frozen = false → (Ledger.startAudit auditor).2.isDone = false) := by
  unfold Ledger.startAudit
  split_ifs with h
  · exact ⟨rfl, fun hclear => by rw [h] at hclear; cases hclear⟩
  · split <;> exact ⟨rfl, fun _ => rfl⟩

/-- A step of an audit either ends it by freezing or leaves the flag alone. -/
theorem resumeAudit_spec (sha256 : Sha256) (now : IsoTime) (reply : NotaryReply)
    (auditor : Auditor) {pc : AuditPc} (hpc : pc.isDone = false) :
    ((resumeAudit sha256 now reply auditor pc).2 = .done true ∧
      (resumeAudit sha256 now reply auditor pc).1.frozen = true) ∨
    ((resumeAudit sha256 now reply auditor pc).2.froze = false ∧
      (resumeAudit sha256 now reply auditor pc).1.frozen = auditor.frozen) := by
  cases pc with
  | awaitNotary checkpoint attempt =>
      rw [resumeAudit_awaitNotary]
      cases getAuthoritativeState reply with
      | none =>
          by_cases hmore : attempt < maxAttempts
          · exact .inr (by simp [hmore, AuditPc.froze])
          · exact .inl (by simp [hmore])
      | some remote =>
          simp only [resumeWithRemote]
          split_ifs
          · exact .inl ⟨rfl, Auditor.frozen_freeze _ _⟩
          · split
            · exact .inr ⟨rfl, rfl⟩
            · exact .inl ⟨rfl, Auditor.frozen_freeze _ _⟩
            · exact .inl ⟨rfl, Auditor.frozen_freeze _ _⟩
  | awaitInit checkpoint => exact .inr ⟨rfl, rfl⟩
  | awaitRecords checkpoint records =>
      cases hsettle : ledgerMismatch? sha256 checkpoint records with
      | none => exact .inr (by simp [resumeAudit, hsettle, Auditor.settle, AuditPc.froze])
      | some reason => exact .inl (by simp [resumeAudit, hsettle, Auditor.settle])
  | establishInit => exact .inr ⟨rfl, rfl⟩
  | establishRecords records => exact .inr ⟨rfl, rfl⟩
  | done froze => cases hpc

/-! ## The flag is clear under suspicion only inside an audit -/

structure Invariant (sys : FreezeSystem) : Prop where
  covered : sys.auditor.frozen = false → sys.suspect = true →
    ∃ (i : ℕ) (pc : AuditPc), sys.tasks[i]? = some (.unfreezeAudit pc)
  running : ∀ pc, .unfreezeAudit pc ∈ sys.tasks → pc.isDone = false

variable {sha256} {sys : FreezeSystem}

theorem Invariant.getElem?_append (h : sys.Invariant) (hclear : sys.auditor.frozen = false)
    (hsuspect : sys.suspect = true) (task : AuditTask) :
    ∃ (i : ℕ) (pc : AuditPc), (sys.tasks ++ [task])[i]? = some (.unfreezeAudit pc) := by
  obtain ⟨i, pc, hi⟩ := h.covered hclear hsuspect
  exact ⟨i, pc, by rw [List.getElem?_append_left (List.getElem?_eq_some_iff.1 hi).1, hi]⟩

/-- A task that is no unfreeze audit may change without uncovering anything. -/
theorem Invariant.getElem?_set (h : sys.Invariant) (hclear : sys.auditor.frozen = false)
    (hsuspect : sys.suspect = true) {task : ℕ} {old : AuditTask}
    (htask : sys.tasks[task]? = some old) (hold : ∀ pc, old ≠ .unfreezeAudit pc)
    (new : AuditTask) :
    ∃ (i : ℕ) (pc : AuditPc), (sys.tasks.set task new)[i]? = some (.unfreezeAudit pc) := by
  obtain ⟨i, pc, hi⟩ := h.covered hclear hsuspect
  refine ⟨i, pc, ?_⟩
  rw [List.getElem?_set_ne, hi]
  rintro rfl
  exact hold pc (Option.some.inj (htask.symm.trans hi))

theorem Invariant.running_set (h : sys.Invariant) {task : ℕ} {new : AuditTask}
    (hnew : ∀ pc, new = .unfreezeAudit pc → pc.isDone = false) :
    ∀ pc, .unfreezeAudit pc ∈ sys.tasks.set task new → pc.isDone = false := by
  intro pc hmem
  rcases List.mem_or_eq_of_mem_set hmem with hmem | heq
  · exact h.running pc hmem
  · exact hnew pc heq.symm

theorem Invariant.running_append (h : sys.Invariant) {task : AuditTask}
    (hnew : ∀ pc, task = .unfreezeAudit pc → pc.isDone = false) :
    ∀ pc, .unfreezeAudit pc ∈ sys.tasks ++ [task] → pc.isDone = false := by
  intro pc hmem
  rcases List.mem_append.1 hmem with hmem | hmem
  · exact h.running pc hmem
  · exact hnew pc (List.mem_singleton.1 hmem).symm

theorem Invariant.startUnfreeze (h : sys.Invariant) : sys.startUnfreeze.Invariant := by
  unfold FreezeSystem.startUnfreeze
  by_cases hfrozen : sys.auditor.frozen = true
  · rw [if_pos hfrozen]
    obtain ⟨hflag, hdone⟩ := startAudit_spec { sys.auditor with frozen := false }
    refine ⟨fun _ _ => ⟨sys.tasks.length, _, List.getElem?_concat_length⟩, ?_⟩
    apply h.running_append
    rintro pc heq
    cases heq
    exact hdone rfl
  · rw [if_neg hfrozen]
    exact ⟨fun hclear hsuspect => h.getElem?_append hclear hsuspect _,
      h.running_append (by simp)⟩

theorem Invariant.resume (h : sys.Invariant) (task : ℕ) (reply : NotaryReply) (now : IsoTime) :
    (sys.resume sha256 task reply now).Invariant := by
  unfold FreezeSystem.resume
  split
  · rename_i pc htask
    by_cases hdone : pc.isDone = true
    · rwa [if_pos hdone]
    · rw [if_neg hdone]
      refine ⟨fun hclear hsuspect => ?_, h.running_set (by simp)⟩
      rcases resumeAudit_spec sha256 now reply sys.auditor (Bool.not_eq_true _ ▸ hdone) with
        ⟨-, hfrozen⟩ | ⟨hfroze, hflag⟩
      · rw [hfrozen] at hclear
        cases hclear
      · rw [hflag] at hclear
        simp only [hfroze, Bool.or_false] at hsuspect
        exact h.getElem?_set hclear hsuspect htask (by simp) _
  · rename_i pc htask
    have hpc := h.running pc (List.mem_of_getElem? htask)
    have hspec := resumeAudit_spec sha256 now reply sys.auditor hpc
    dsimp only
    split_ifs with hdone
    · refine ⟨fun hclear hsuspect => ?_, h.running_set (by simp)⟩
      -- an audit that ends by freezing leaves the flag set, any other one clears the suspicion
      rcases hspec with ⟨-, hfrozen⟩ | ⟨hfroze, -⟩
      · rw [hfrozen] at hclear
        cases hclear
      · rw [hfroze] at hsuspect
        cases hsuspect
    · refine ⟨fun _ _ => ⟨task, _, List.getElem?_set_self (List.getElem?_eq_some_iff.1 htask).1⟩,
        h.running_set ?_⟩
      · rintro pc' heq
        cases heq
        exact Bool.not_eq_true _ ▸ hdone
  · rename_i htask
    split_ifs with hfrozen
    · exact ⟨fun hclear hsuspect => h.getElem?_set hclear hsuspect htask (by simp) _,
        h.running_set (by simp)⟩
    · exact ⟨fun hclear hsuspect => h.getElem?_set hclear hsuspect htask (by simp) _,
        h.running_set (by simp)⟩
  · exact h

theorem Invariant.step (h : sys.Invariant) (event : FreezeEvent) :
    (sys.step sha256 event).Invariant := by
  cases event with
  | freeze reason =>
      refine ⟨fun hclear _ => ?_, h.running⟩
      rw [show (sys.step sha256 (.freeze reason)).auditor = sys.auditor.freeze reason from rfl,
        Auditor.frozen_freeze] at hclear
      cases hclear
  | startAudit =>
      obtain ⟨hflag, -⟩ := startAudit_spec sys.auditor
      exact ⟨fun hclear hsuspect => h.getElem?_append (hflag ▸ hclear) hsuspect _,
        h.running_append (by simp)⟩
  | startUnfreeze => exact h.startUnfreeze
  | resume task reply now => exact h.resume task reply now
  | changeFiles store => exact ⟨h.covered, h.running⟩
  | write => exact h

end FreezeSystem

/-- Along every run in which no write request tests the cleared flag while an
`unfreezeIfClean` call is inside its audit, no write request finds the flag clear before a
clean audit of such a call. -/
theorem writes_follow_clean_audit (sha256 : Sha256) (store : Store) (events : List FreezeEvent)
    (h : EachStep (FreezeSystem.step sha256) FreezeSystem.WriteOutsideWindow (.start store) events) :
    EachStep (FreezeSystem.step sha256) FreezeSystem.WriteIsSafe (.start store) events := by
  refine eachStep_of_invariant FreezeSystem.Invariant
    (fun _ event hinv => hinv.step event) ?_ ⟨fun _ hsuspect => ?_, ?_⟩ h
  · intro sys event hinv houtside
    cases event with
    | write =>
        intro hclear
        by_contra hsuspect
        obtain ⟨i, pc, hi⟩ := hinv.covered hclear (Bool.not_eq_false _ ▸ hsuspect)
        rcases houtside with hfrozen | hnone
        · rw [hclear] at hfrozen
          cases hfrozen
        · exact hnone pc (List.mem_of_getElem? hi)
    | _ => trivial
  · cases hsuspect
  · intro pc hmem
    cases hmem

def writeAfterUnfreeze : List FreezeEvent :=
  [.freeze "Unable to read ledger store from disk", .startUnfreeze, .resume 0 .failed sampleTime,
    .resume 0 .failed sampleTime, .resume 0 .failed sampleTime, .write]

theorem writes_follow_clean_audit_unfreeze :
    EachStep (FreezeSystem.step fun _ => emptyRoot) FreezeSystem.WriteIsSafe
      (.start { ledger := some (.json (.arr [])), checkpoint := none, storeInitialized := true })
      writeAfterUnfreeze := by
  refine writes_follow_clean_audit (fun _ => emptyRoot) _ writeAfterUnfreeze
    ⟨trivial, trivial, trivial, trivial, trivial, .inr ?_, trivial⟩
  intro pc hmem
  change AuditTask.unfreezeAudit pc ∈ [AuditTask.unfreezeReturned true] at hmem
  simp at hmem

def earlyWrite : List FreezeEvent :=
  [.freeze "Ledger store file is corrupted or not an array", .startUnfreeze, .write]

/-- The write of `earlyWrite` passes the gate, whatever the files hold. -/
theorem earlyWrite_admitted :
    ¬ ∃ (sha256 : Sha256) (store : Store),
      EachStep (FreezeSystem.step sha256) FreezeSystem.WriteIsSafe (.start store) earlyWrite := by
  rintro ⟨sha256, store, -, -, hwrite, -⟩
  obtain ⟨hflag, -⟩ := FreezeSystem.startAudit_spec
    { store := store, frozen := false,
      marker := some "Ledger store file is corrupted or not an array" }
  have hsafe := hwrite hflag
  cases hsafe

end UniverEscrow.Ledger
