import UniverEscrow.Lib.Run
import Mathlib.Logic.Function.Basic
import Mathlib.Order.Basic

/-!
# A cache of one expiring answer

Callers share what was kept of the last answer of a service.  A caller that finds it usable takes
it; otherwise it asks, and its answer arrives later, so callers overlap and answers arrive in any
order.  What is taken stems from an answer that has arrived, and so a rule for one answer is a rule
for every run.
-/

namespace UniverEscrow.Lib.ExpiringCache

open UniverEscrow.Lib.Run

variable {ι τ α ε : Type*}

/-- An answer, with the moments at which its caller asked and at which it arrived. -/
structure Answered (τ α : Type*) where
  asked : τ
  arrived : τ
  answer : α

/-- What is kept of an answer, and until when that is taken. -/
structure Policy (τ α ε : Type*) where
  keep : Answered τ α → Option ε
  usable : ε → τ → Bool

/-- What is kept and of which answer, the callers that wait since when, and the last reading of the
clock. -/
structure Cache (ι τ α ε : Type*) where
  held : Option (Answered τ α × ε)
  waiting : ι → Option τ
  clock : τ

def Cache.new (clock : τ) : Cache ι τ α ε := ⟨none, fun _ => none, clock⟩

/-- What the callers share. -/
def Cache.current? (cache : Cache ι τ α ε) : Option ε := cache.held.map Prod.snd

inductive Event (ι τ α : Type*) where
  | ask (caller : ι) (now : τ)
  | arrive (caller : ι) (now : τ) (answer : α)

def Event.now : Event ι τ α → τ
  | .ask _ now => now
  | .arrive _ now _ => now

/-- What an event takes from the cache. -/
def taken? (policy : Policy τ α ε) (cache : Cache ι τ α ε) :
    Event ι τ α → Option (Answered τ α × ε)
  | .ask _ now => cache.held.filter fun kept => policy.usable kept.2 now
  | .arrive _ _ _ => none

variable [DecidableEq ι]

def ask (policy : Policy τ α ε) (cache : Cache ι τ α ε) (caller : ι) (now : τ) : Cache ι τ α ε :=
  match taken? policy cache (.ask caller now) with
  | some _ => { cache with clock := now }
  | none =>
      { cache with waiting := Function.update cache.waiting caller (some now), clock := now }

def arrive (policy : Policy τ α ε) (cache : Cache ι τ α ε) (caller : ι) (now : τ) (answer : α) :
    Cache ι τ α ε :=
  match cache.waiting caller with
  | none => { cache with clock := now }
  | some asked =>
      { held := ((policy.keep ⟨asked, now, answer⟩).map (⟨asked, now, answer⟩, ·)).or cache.held
        waiting := Function.update cache.waiting caller none
        clock := now }

def step (policy : Policy τ α ε) (cache : Cache ι τ α ε) : Event ι τ α → Cache ι τ α ε
  | .ask caller now => ask policy cache caller now
  | .arrive caller now answer => arrive policy cache caller now answer

/-! ## A call that nothing disturbs -/

/-- What a call takes from what is kept, or keeps of its answer. -/
def fetch (policy : Policy τ α ε) (current? : Option ε) (a : Answered τ α) : Option ε :=
  (current?.filter (policy.usable · a.asked)).or (policy.keep a)

section Calls

variable {policy : Policy τ α ε} {cache : Cache ι τ α ε} {caller : ι} {a : Answered τ α}

omit [DecidableEq ι] in
theorem taken?_ask (caller : ι) (now : τ) : (taken? policy cache (.ask caller now)).map Prod.snd =
    cache.current?.filter (policy.usable · now) := by
  unfold taken? Cache.current?
  cases cache.held with
  | none => rfl
  | some kept =>
      simp only [Option.map_some, Option.filter_some]
      cases policy.usable kept.2 now <;> rfl

theorem current?_ask (now : τ) : (ask policy cache caller now).current? = cache.current? := by
  rw [ask]
  cases taken? policy cache (.ask caller now) <;> rfl

theorem current?_arrive_of_waiting {asked now : τ} {answer : α}
    (h : cache.waiting caller = some asked) :
    (arrive policy cache caller now answer).current? =
      (policy.keep ⟨asked, now, answer⟩).or cache.current? := by
  rw [arrive, h, Cache.current?, Cache.current?]
  dsimp only
  rw [Option.map_or, Option.map_map]
  cases policy.keep ⟨asked, now, answer⟩ <;> rfl

/-- What a caller leaves is what it has fetched, if anything. -/
theorem current?_call (hwaiting : cache.waiting caller = none) :
    (run (step policy) cache
      [.ask caller a.asked, .arrive caller a.arrived a.answer]).current? =
      (fetch policy cache.current? a).or cache.current? := by
  rw [fetch, Option.or_assoc, ← taken?_ask caller, run_cons, run_cons, run_nil, step, step]
  cases htaken : taken? policy cache (.ask caller a.asked) with
  | some kept =>
      obtain ⟨hheld, -⟩ := Option.filter_eq_some_iff.1 htaken
      have hasked : (ask policy cache caller a.asked).waiting caller = none := by
        rw [ask, htaken]
        exact hwaiting
      rw [arrive, hasked]
      refine (current?_ask a.asked).trans ?_
      rw [Cache.current?, hheld]
      rfl
  | none =>
      have hasked : (ask policy cache caller a.asked).waiting caller = some a.asked := by
        rw [ask, htaken]
        exact Function.update_self ..
      rw [current?_arrive_of_waiting hasked, current?_ask]
      rfl

end Calls

/-! ## What is taken has arrived -/

section Order

variable [Preorder τ] {policy : Policy τ α ε} {contract : Answered τ α → Prop}

/-- The clock does not go back, and an answer that is waited for keeps the contract. -/
structure Fair (contract : Answered τ α → Prop) (cache : Cache ι τ α ε) (event : Event ι τ α) :
    Prop where
  clock : cache.clock ≤ event.now
  answer : ∀ caller now answer asked, event = .arrive caller now answer →
    cache.waiting caller = some asked → contract ⟨asked, now, answer⟩

/-- Callers have asked, and what is kept is of an answer that has arrived under the contract, all
in the past. -/
structure Sourced (policy : Policy τ α ε) (contract : Answered τ α → Prop)
    (cache : Cache ι τ α ε) : Prop where
  waiting : ∀ caller asked, cache.waiting caller = some asked → asked ≤ cache.clock
  held : ∀ a entry, cache.held = some (a, entry) → policy.keep a = some entry ∧ contract a ∧
    a.asked ≤ a.arrived ∧ a.arrived ≤ cache.clock

omit [DecidableEq ι] in
theorem sourced_new (policy : Policy τ α ε) (contract : Answered τ α → Prop) (clock : τ) :
    Sourced policy contract (Cache.new clock : Cache ι τ α ε) := by
  constructor
  · intro caller asked h
    cases h
  · intro a entry h
    cases h

omit [DecidableEq ι] in
theorem Sourced.later {cache : Cache ι τ α ε} {now : τ} (h : Sourced policy contract cache)
    (hnow : cache.clock ≤ now) : Sourced policy contract { cache with clock := now } where
  waiting caller asked hwaiting := (h.waiting caller asked hwaiting).trans hnow
  held a entry ha := by
    obtain ⟨hkeep, hcontract, hasked, harrived⟩ := h.held a entry ha
    exact ⟨hkeep, hcontract, hasked, harrived.trans hnow⟩

theorem Sourced.step {cache : Cache ι τ α ε} {event : Event ι τ α}
    (h : Sourced policy contract cache) (hfair : Fair contract cache event) :
    Sourced policy contract (step policy cache event) := by
  have hlater := h.later hfair.clock
  cases event with
  | ask caller now =>
      rw [ExpiringCache.step, ask]
      cases taken? policy cache (.ask caller now) with
      | some kept => exact hlater
      | none =>
          dsimp only
          refine ⟨fun other asked hwaiting => ?_, hlater.held⟩
          dsimp only at hwaiting
          by_cases hother : other = caller
          · rw [hother, Function.update_self, Option.some.injEq] at hwaiting
            exact le_of_eq hwaiting.symm
          · rw [Function.update_of_ne hother] at hwaiting
            exact hlater.waiting other asked hwaiting
  | arrive caller now answer =>
      rw [ExpiringCache.step, arrive]
      cases hcaller : cache.waiting caller with
      | none => exact hlater
      | some asked =>
          dsimp only
          refine ⟨fun other since hwaiting => ?_, fun a entry ha => ?_⟩
          · dsimp only at hwaiting
            by_cases hother : other = caller
            · rw [hother, Function.update_self] at hwaiting
              cases hwaiting
            · rw [Function.update_of_ne hother] at hwaiting
              exact hlater.waiting other since hwaiting
          · dsimp only at ha
            cases hkeep : policy.keep ⟨asked, now, answer⟩ with
            | none =>
                rw [hkeep] at ha
                exact hlater.held a entry ha
            | some kept =>
                rw [hkeep] at ha
                cases ha
                exact ⟨hkeep, hfair.answer caller now answer asked rfl hcaller,
                  hlater.waiting caller asked hcaller, le_rfl⟩

/-- What holds of every answer under the contract as long as what is kept of it is usable holds
whenever it is taken. -/
theorem eachStep_taken {P : Answered τ α → τ → Prop} {start : τ} {events : List (Event ι τ α)}
    (hP : ∀ a entry now, policy.keep a = some entry → contract a → a.asked ≤ a.arrived →
      a.arrived ≤ now → policy.usable entry now = true → P a now)
    (hfair : EachStep (step policy) (Fair contract) (Cache.new start) events) :
    EachStep (step policy) (fun cache event => ∀ a entry,
      taken? policy cache event = some (a, entry) → P a event.now) (Cache.new start) events := by
  refine eachStep_of_step (fun cache event h hstep => ⟨h.step hstep, fun a entry htaken => ?_⟩)
    (sourced_new policy contract start) hfair
  cases event with
  | arrive caller now answer => cases htaken
  | ask caller now =>
      obtain ⟨hheld, husable⟩ := Option.filter_eq_some_iff.1 htaken
      obtain ⟨hkeep, hcontract, hasked, harrived⟩ := h.held a entry hheld
      exact hP a entry now hkeep hcontract hasked (harrived.trans hstep.clock) husable

/-- Nothing is kept and one caller waits. -/
def Cache.waitingFor (caller : ι) (asked : τ) : Cache ι τ α ε :=
  ⟨none, Function.update (fun _ => none) caller (some asked), asked⟩

omit [Preorder τ] in
theorem waiting_waitingFor (caller : ι) (asked : τ) :
    (Cache.waitingFor caller asked : Cache ι τ α ε).waiting caller = some asked := by
  simp only [Cache.waitingFor, Function.update_self]

/-- A caller that asks, its answer, and the next caller. -/
def askTwice (caller : ι) (a : Answered τ α) (now : τ) : List (Event ι τ α) :=
  [.ask caller a.asked, .arrive caller a.arrived a.answer, .ask caller now]

/-- Every usable answer under the contract is taken in some run. -/
theorem exists_taken {P : Answered τ α → τ → Prop} (caller : ι) {a : Answered τ α} {entry : ε}
    {now : τ} (hkeep : policy.keep a = some entry) (hcontract : contract a)
    (hasked : a.asked ≤ a.arrived) (harrived : a.arrived ≤ now)
    (husable : policy.usable entry now = true) :
    EachStep (step policy) (Fair contract) (Cache.new a.asked) (askTwice caller a now) ∧
      (EachStep (step policy) (fun cache event => ∀ a entry,
        taken? policy cache event = some (a, entry) → P a event.now) (Cache.new a.asked)
          (askTwice caller a now) → P a now) := by
  have hasking : step policy (Cache.new a.asked) (.ask caller a.asked) =
      (Cache.waitingFor caller a.asked : Cache ι τ α ε) := rfl
  have hwaiting := waiting_waitingFor (α := α) (ε := ε) caller a.asked
  have harriving : arrive policy (Cache.waitingFor caller a.asked) caller a.arrived a.answer =
      ⟨some (a, entry), Function.update (Cache.waitingFor (α := α) (ε := ε) caller
        a.asked).waiting caller none, a.arrived⟩ := by
    have hkept : policy.keep ⟨a.asked, a.arrived, a.answer⟩ = some entry := hkeep
    rw [arrive, hwaiting]
    dsimp only
    rw [hkept]
    rfl
  refine ⟨⟨⟨le_rfl, ?_⟩, ?_⟩, fun h => ?_⟩
  · intro other now answer asked hevent
    cases hevent
  · rw [hasking]
    refine ⟨⟨hasked, ?_⟩, ⟨?_, ?_⟩, trivial⟩
    · intro other now answer asked hevent hasked
      cases hevent
      rw [hwaiting, Option.some.injEq] at hasked
      rw [← hasked]
      exact hcontract
    · rw [step, harriving]
      exact harrived
    · intro other now answer asked hevent
      cases hevent
  · have hlast := h.2.2.1 a entry
    rw [hasking, step, harriving] at hlast
    refine hlast ?_
    rw [taken?, Option.filter_eq_some_iff]
    exact ⟨rfl, husable⟩

/-- A rule holds of all answers that are taken, in every run from any time on, exactly if it holds
of every answer under the contract as long as what is kept of it is usable. -/
theorem taken_iff [Nonempty ι] {P : Answered τ α → τ → Prop} :
    (∀ start (events : List (Event ι τ α)),
      EachStep (step policy) (Fair contract) (Cache.new start) events →
      EachStep (step policy) (fun cache event => ∀ a entry,
        taken? policy cache event = some (a, entry) → P a event.now) (Cache.new start) events) ↔
      ∀ a entry now, policy.keep a = some entry → contract a → a.asked ≤ a.arrived →
        a.arrived ≤ now → policy.usable entry now = true → P a now := by
  constructor
  · intro h a entry now hkeep hcontract hasked harrived husable
    obtain ⟨hfair, htaken⟩ := exists_taken (Classical.arbitrary ι) hkeep hcontract hasked
      harrived husable
    exact htaken (h a.asked _ hfair)
  · exact fun hP start events => eachStep_taken hP

end Order

end UniverEscrow.Lib.ExpiringCache
