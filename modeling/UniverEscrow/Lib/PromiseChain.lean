import Mathlib.Algebra.GroupWithZero.Nat
import Mathlib.Data.List.Basic
import Mathlib.Tactic.Common

/-!
# Chains of promises

A queue kept as a chain of promises: every call hangs its callback on the promise that stands
at the end of the chain and puts its own in its place, so that the callback starts once the
call before it has settled, however that ended.  A link is a call and how far its callback has
come; a callback may hold data between its start and its end.
-/

namespace UniverEscrow.Lib.PromiseChain

inductive Phase (ρ ω : Type*) where
  | waiting
  | running (data : ρ)
  | settled (outcome : ω)

structure Link (κ ρ ω : Type*) where
  call : κ
  phase : Phase ρ ω

variable {κ ρ ω : Type*}

def Link.Waiting (link : Link κ ρ ω) : Prop := link.phase = .waiting

def Link.outcome? (link : Link κ ρ ω) : Option (κ × ω) :=
  match link.phase with
  | .settled outcome => some (link.call, outcome)
  | _ => none

/-- Both handlers of the promise in the chain fulfil it. -/
def Link.settled (link : Link κ ρ ω) : Bool := link.outcome?.isSome

/-- What is still to be done for the call: to start its callback and to end it. -/
def Link.work (link : Link κ ρ ω) : ℕ :=
  match link.phase with
  | .waiting => 2
  | .running _ => 1
  | .settled _ => 0

def enter (call : κ) (links : List (Link κ ρ ω)) : List (Link κ ρ ω) := links ++ [⟨call, .waiting⟩]

/-- The call of link `i` if its callback can start: it has not, and the link before has settled. -/
def startable? (links : List (Link κ ρ ω)) (i : ℕ) : Option κ :=
  match links[i]? with
  | some ⟨call, .waiting⟩ => if (links.take i).getLast?.all Link.settled then some call else none
  | _ => none

/-- The call of link `i` and what its callback holds, if it has started and not ended. -/
def running? (links : List (Link κ ρ ω)) (i : ℕ) : Option (κ × ρ) :=
  match links[i]? with
  | some ⟨call, .running data⟩ => some (call, data)
  | _ => none

/-- The settled calls in the order of the chain. -/
def outcomes (links : List (Link κ ρ ω)) : List (κ × ω) := links.filterMap Link.outcome?

def work (links : List (Link κ ρ ω)) : ℕ := (links.map Link.work).sum

/-- A callback that has started finds every call before it settled. -/
def InOrder (links : List (Link κ ρ ω)) : Prop :=
  links.Pairwise fun earlier later => earlier.settled = true ∨ later.Waiting

/-- All calls before a link have settled and all after it wait: it is its turn. -/
structure Turn (before after : List (Link κ ρ ω)) : Prop where
  settled : ∀ l ∈ before, l.settled = true
  waiting : ∀ l ∈ after, l.Waiting

variable {links before after : List (Link κ ρ ω)} {link : Link κ ρ ω} {call : κ} {i : ℕ}

theorem Link.Waiting.outcome?_eq_none (h : link.Waiting) : link.outcome? = none := by
  unfold Link.outcome?
  rw [h]

theorem Link.Waiting.settled_eq_false (h : link.Waiting) : link.settled = false := by
  rw [Link.settled, h.outcome?_eq_none, Option.isSome_none]

theorem outcomes_eq_nil (h : ∀ l ∈ links, l.Waiting) : outcomes links = [] :=
  List.filterMap_eq_nil_iff.2 fun l hl => (h l hl).outcome?_eq_none

theorem exists_eq_append_cons (h : links[i]? = some link) :
    ∃ before after, links = before ++ link :: after ∧ before.length = i := by
  obtain ⟨hi, rfl⟩ := List.getElem?_eq_some_iff.1 h
  refine ⟨links.take i, links.drop (i + 1), ?_, List.length_take_of_le (Nat.le_of_lt hi)⟩
  rw [← List.drop_eq_getElem_cons hi, List.take_append_drop]

theorem set_append_cons (new : Link κ ρ ω) :
    (before ++ link :: after).set before.length new = before ++ new :: after := by
  simp

/-! ## The order of the chain -/

theorem inOrder_nil : InOrder ([] : List (Link κ ρ ω)) := .nil

theorem InOrder.enter (h : InOrder links) (call : κ) : InOrder (enter call links) := by
  refine List.pairwise_append.2 ⟨h, List.pairwise_singleton _ _, ?_⟩
  intro earlier _ later hlater
  rw [List.mem_singleton.1 hlater]
  exact .inr rfl

theorem Turn.inOrder (h : Turn before after) (link : Link κ ρ ω) :
    InOrder (before ++ link :: after) := by
  refine List.pairwise_append.2 ⟨?_, ?_, ?_⟩
  · exact List.pairwise_iff_forall_sublist.2 fun hsub =>
      .inl (h.settled _ (hsub.subset (by simp)))
  · refine List.pairwise_cons.2 ⟨fun later hlater => .inr (h.waiting later hlater), ?_⟩
    exact List.pairwise_iff_forall_sublist.2 fun hsub =>
      .inr (h.waiting _ (hsub.subset (by simp)))
  · intro earlier hearlier later _
    exact .inl (h.settled earlier hearlier)

/-- The turn is that of a link which has started, or whose predecessor has settled. -/
theorem InOrder.turn (h : InOrder (before ++ link :: after)) (hsettled : link.settled = false)
    (hturn : link.Waiting → before.getLast?.all Link.settled = true) :
    Turn before after := by
  obtain ⟨hbefore, hrest, hacross⟩ := List.pairwise_append.1 h
  have hafter : ∀ l ∈ after, l.Waiting := by
    intro l hl
    rcases (List.pairwise_cons.1 hrest).1 l hl with hearly | hwait
    · rw [hsettled] at hearly
      cases hearly
    · exact hwait
  refine ⟨fun l hl => ?_, hafter⟩
  rcases hacross l hl link List.mem_cons_self with hdone | hwait
  · exact hdone
  -- the link before a startable one has settled, and so has every link before that
  · have hlast := hturn hwait
    rcases List.eq_nil_or_concat before with rfl | ⟨earlier, last, rfl⟩
    · cases hl
    · rw [List.concat_eq_append, List.getLast?_append, List.getLast?_singleton] at hlast
      have hdone : last.settled = true := by simpa using hlast
      rw [List.concat_eq_append] at hl hbefore
      rcases List.mem_append.1 hl with hl | hl
      · rcases (List.pairwise_append.1 hbefore).2.2 l hl last (by simp) with hok | hwaiting
        · exact hok
        · rw [hwaiting.settled_eq_false] at hdone
          cases hdone
      · rw [List.mem_singleton.1 hl]
        exact hdone

theorem InOrder.turn_of_startable (h : InOrder links) (hstart : startable? links i = some call) :
    ∃ before after, links = before ++ ⟨call, .waiting⟩ :: after ∧ before.length = i ∧
      Turn before after := by
  unfold startable? at hstart
  split at hstart
  · rename_i found hfound
    split_ifs at hstart with hlast
    cases hstart
    obtain ⟨before, after, rfl, rfl⟩ := exists_eq_append_cons hfound
    rw [List.take_left] at hlast
    exact ⟨before, after, rfl, rfl, h.turn rfl fun _ => hlast⟩
  · cases hstart

theorem InOrder.turn_of_running {data : ρ} (h : InOrder links)
    (hrunning : running? links i = some (call, data)) :
    ∃ before after, links = before ++ ⟨call, .running data⟩ :: after ∧ before.length = i ∧
      Turn before after := by
  unfold running? at hrunning
  split at hrunning
  · rename_i found held hfound
    cases hrunning
    obtain ⟨before, after, rfl, rfl⟩ := exists_eq_append_cons hfound
    exact ⟨before, after, rfl, rfl, h.turn rfl fun hwait => by cases hwait⟩
  · cases hrunning

theorem Turn.outcomes (h : Turn before after) (link : Link κ ρ ω) :
    outcomes (before ++ link :: after) = outcomes before ++ link.outcome?.toList := by
  have hafter := outcomes_eq_nil h.waiting
  unfold PromiseChain.outcomes at hafter ⊢
  rw [List.filterMap_append, List.filterMap_cons, hafter]
  cases link.outcome? <;> rfl

/-- A chain that has not settled has a link whose turn it is. -/
theorem exists_turn (h : InOrder links) (hopen : ∃ l ∈ links, l.settled = false) :
    ∃ i, (startable? links i).isSome ∨ (running? links i).isSome := by
  obtain ⟨before, link, after, rfl, hbefore, hlink⟩ :
      ∃ before link after, links = before ++ link :: after ∧
        (∀ l ∈ before, l.settled = true) ∧ link.settled = false := by
    clear h
    induction links with
    | nil => obtain ⟨l, hl, -⟩ := hopen; cases hl
    | cons first rest ih =>
        cases hfirst : first.settled with
        | false => exact ⟨[], first, rest, rfl, by simp, hfirst⟩
        | true =>
            have hrest : ∃ l ∈ rest, l.settled = false := by
              obtain ⟨l, hl, hopen⟩ := hopen
              rcases List.mem_cons.1 hl with rfl | hl
              · rw [hfirst] at hopen
                cases hopen
              · exact ⟨l, hl, hopen⟩
            obtain ⟨before, link, after, rfl, hbefore, hlink⟩ := ih hrest
            refine ⟨first :: before, link, after, rfl, ?_, hlink⟩
            simpa [hfirst] using hbefore
  refine ⟨before.length, ?_⟩
  obtain ⟨call, phase⟩ := link
  cases phase with
  | waiting =>
      left
      have hlast : before.getLast?.all Link.settled = true := by
        cases hb : before.getLast? with
        | none => rfl
        | some last => exact hbefore last (List.mem_of_getLast? hb)
      simp [startable?, hlast]
  | running data =>
      right
      simp [running?]
  | settled outcome => cases hlink

/-- Starting or ending a callback changes what is to be done for its own link alone. -/
theorem work_append_cons (before : List (Link κ ρ ω)) (link : Link κ ρ ω)
    (after : List (Link κ ρ ω)) :
    work (before ++ link :: after) = work before + link.work + work after := by
  simp only [work, List.map_append, List.map_cons, List.sum_append, List.sum_cons]
  omega

theorem work_enter (call : κ) (links : List (Link κ ρ ω)) :
    work (enter call links) = work links + 2 :=
  work_append_cons links ⟨call, .waiting⟩ []

end UniverEscrow.Lib.PromiseChain
