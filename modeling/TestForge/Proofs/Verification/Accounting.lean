import TestForge.Proofs.Verification.Repairs

/-!
# The accounts of a phase

A phase is written down event by event: its attempts with their answers, and the repairs that are
tried with what comes of them. One repair is made between two attempts, the last attempt decides the
outcome, and the counting stays within 32 bits.
-/

namespace TestForge

/-- An attempt, behind a number of others, or a repair that is tried and says if it was made. -/
inductive PhaseEvent where
  | attempt (before : Nat) (answer : Except ToolFailure (Option TestCounts))
  | repair (failure : ToolFailure) (made : Except RepairError Bool)

namespace PhaseEvent

/-- The number of attempts behind an attempt. -/
def number? : PhaseEvent → Option Nat
  | attempt before _ => some before
  | repair _ _ => none

/-- Attempts that failed, each with the repair that was made for its failure. -/
def rounds : Nat → List ToolFailure → List PhaseEvent
  | _, [] => []
  | before, failure :: rest =>
    attempt before (.error failure) :: repair failure (.ok true) :: rounds (before + 1) rest

theorem filterMap_rounds (before : Nat) (failures : List ToolFailure) :
    (rounds before failures).filterMap number? = List.range' before failures.length := by
  induction failures generalizing before with
  | nil => rfl
  | cons failure rest ih =>
      simp only [rounds, List.filterMap_cons, number?, ih, List.length_cons, List.range'_succ]

end PhaseEvent

namespace Verification

open PhaseEvent

variable {σ : Type} {v : Verification σ} {phase : Phase} {recorder : Option AttemptRecorder}

/-! ## Events -/

/-- Runs a phase and writes its events down. -/
def tracePhase (v : Verification σ) (phase : Phase) (recorder : Option AttemptRecorder)
    (state : RetryState) (w : World σ) : List PhaseEvent × PhaseOutcome × World σ :=
  match v.attempt phase w with
  | (.ok counts, w) =>
    ([.attempt state.attempt (.ok counts)], .succeeded state.attempt counts, w)
  | (.error failure, w) =>
    let w := keepRecord recorder phase state.attempt failure w
    let attempted := PhaseEvent.attempt state.attempt (.error failure)
    if h : state.isLast then ([attempted], .exhausted state.attempt failure, w)
    else
      match v.rules.repair phase v.artifact failure w.files with
      | .ok (some files) =>
        have : state.maxRetries - state.next.attempt < state.maxRetries - state.attempt := by
          simp only [RetryState.isLast, ge_iff_le, decide_eq_true_eq, Nat.not_le] at h
          simp only [RetryState.next]
          omega
        match v.tracePhase phase recorder state.next { w with files := files } with
        | (events, result) => (attempted :: .repair failure (.ok true) :: events, result)
      | .ok none =>
        ([attempted, .repair failure (.ok false)], .exhausted state.attempt failure, w)
      | .error e =>
        ([attempted, .repair failure (.error e)], .exhausted state.attempt failure, w)
  termination_by state.maxRetries - state.attempt

/-- Writing down changes nothing. -/
theorem tracePhase_snd (v : Verification σ) (phase : Phase) (recorder : Option AttemptRecorder)
    (state : RetryState) (w : World σ) :
    (v.tracePhase phase recorder state w).2 = v.runPhase phase recorder state w := by
  fun_induction v.tracePhase phase recorder state w with
  | case1 state w counts w' ha => rw [runPhase]; simp [ha]
  | case2 state w failure w' ha _ _ hl => rw [runPhase]; simp [ha, hl]; rfl
  | case3 state w failure w' ha kept _ hl files hr _ events result ht ih =>
      rw [ht] at ih
      rw [runPhase]
      simp only [kept] at hr
      simp only [ha, hl, hr]
      exact ih
  | case4 state w failure w' ha kept _ hl hr =>
      rw [runPhase]
      simp only [kept] at hr
      simp only [ha, hl, hr]
      rfl
  | case5 state w failure w' ha kept _ hl e hr =>
      rw [runPhase]
      simp only [kept] at hr
      simp only [ha, hl, hr]
      rfl

/-! ## Accounts -/

def outcomeOf (retries : Nat) : Except ToolFailure (Option TestCounts) → PhaseOutcome
  | .ok counts => .succeeded retries counts
  | .error failure => .exhausted retries failure

/-- What follows the attempt that ends a phase: a repair that is not made, and this only if its
failure leaves an attempt for it. -/
inductive Aftermath (isLast : Prop) :
    Except ToolFailure (Option TestCounts) → List PhaseEvent → Prop
  | succeeded (counts : Option TestCounts) : Aftermath isLast (.ok counts) []
  | usedUp (failure : ToolFailure) (h : isLast) : Aftermath isLast (.error failure) []
  | unrepaired (failure : ToolFailure) {made : Except RepairError Bool} (h : ¬isLast)
      (hm : made ≠ .ok true) : Aftermath isLast (.error failure) [.repair failure made]

/-- The accounts of a phase from a state of the retries on: the failures that were repaired, the
answer to the last attempt, and what followed it. -/
structure Accounts (state : RetryState) (events : List PhaseEvent) (outcome : PhaseOutcome)
    (repaired : List ToolFailure) (answer : Except ToolFailure (Option TestCounts))
    (after : List PhaseEvent) : Prop where
  events : events = rounds state.attempt repaired ++
    .attempt (state.attempt + repaired.length) answer :: after
  within : state.attempt + repaired.length < state.maxRetries
  outcome : outcome = outcomeOf (state.attempt + repaired.length) answer
  aftermath : Aftermath (state.attempt + repaired.length + 1 = state.maxRetries) answer after

variable {state : RetryState} {outcome : PhaseOutcome} {repaired : List ToolFailure}
  {answer : Except ToolFailure (Option TestCounts)} {events after : List PhaseEvent}

/-- A repair that is made puts one round in front of what follows. -/
theorem Accounts.round (failure : ToolFailure)
    (h : Accounts state.next events outcome repaired answer after) :
    Accounts state (.attempt state.attempt (.error failure) :: .repair failure (.ok true) :: events)
      outcome (failure :: repaired) answer after := by
  have hnumber : state.next.attempt + repaired.length =
      state.attempt + (failure :: repaired).length := by
    simp only [RetryState.next, List.length_cons]
    omega
  obtain ⟨hevents, hwithin, houtcome, haftermath⟩ := h
  rw [hnumber] at hevents hwithin houtcome haftermath
  exact ⟨by rw [hevents]; rfl, hwithin, houtcome, haftermath⟩

/-- The attempt that ends a phase, accounted for by itself. -/
theorem Accounts.last (hs : state.attempt < state.maxRetries)
    (h : Aftermath (state.attempt + 1 = state.maxRetries) answer after) :
    Accounts state (.attempt state.attempt answer :: after) (outcomeOf state.attempt answer) []
      answer after :=
  ⟨rfl, hs, rfl, h⟩

theorem accounts_tracePhase (v : Verification σ) (phase : Phase)
    (recorder : Option AttemptRecorder) {state : RetryState} (w : World σ)
    (hs : state.attempt < state.maxRetries) :
    ∃ repaired answer after, Accounts state (v.tracePhase phase recorder state w).1
      (v.tracePhase phase recorder state w).2.1 repaired answer after := by
  fun_induction v.tracePhase phase recorder state w with
  | case1 state w counts w' ha => exact ⟨[], _, _, .last hs (.succeeded counts)⟩
  | case2 state w failure w' ha _ _ hl =>
      exact ⟨[], _, _, .last hs (.usedUp failure ((RetryState.isLast_iff hs).1 hl))⟩
  | case3 state w failure w' ha kept _ hl files hr _ events result ht ih =>
      have hlast := mt (RetryState.isLast_iff hs).2 hl
      have hnext : state.next.attempt < state.next.maxRetries := by
        simp only [RetryState.next]
        omega
      obtain ⟨repaired, answer, after, h⟩ := ih hnext
      rw [ht] at h
      exact ⟨failure :: repaired, answer, after, h.round failure⟩
  | case4 state w failure w' ha kept _ hl hr =>
      have hlast := mt (RetryState.isLast_iff hs).2 hl
      exact ⟨[], _, _, .last hs (.unrepaired failure hlast nofun)⟩
  | case5 state w failure w' ha kept _ hl e hr =>
      have hlast := mt (RetryState.isLast_iff hs).2 hl
      exact ⟨[], _, _, .last hs (.unrepaired failure hlast nofun)⟩

/-- The attempts of a phase are numbered one by one. -/
theorem Accounts.filterMap (h : Accounts state events outcome repaired answer after) :
    events.filterMap number? = List.range' state.attempt (repaired.length + 1) := by
  have hafter : after.filterMap number? = [] := by
    cases h.aftermath with
    | succeeded counts => rfl
    | usedUp failure _ => rfl
    | unrepaired failure _ _ => rfl
  simp only [h.events, List.filterMap_append, filterMap_rounds, List.filterMap_cons, number?,
    hafter, List.range'_1_concat]

theorem Accounts.after_eq_nil_iff (h : Accounts state events outcome repaired answer after) :
    after = [] ↔ state.attempt + repaired.length + 1 = state.maxRetries ∨
      ∃ counts, answer = .ok counts := by
  cases h.aftermath with
  | succeeded counts => exact iff_of_true rfl (.inr ⟨counts, rfl⟩)
  | usedUp failure hl => exact iff_of_true rfl (.inl hl)
  | unrepaired failure hl _ => simp [hl]

/-- A phase that fails with attempts left has come to a repair that was not made. -/
theorem Accounts.stopped_iff (h : Accounts state events outcome repaired answer after) :
    ((∃ failure, answer = .error failure) ∧
        state.attempt + repaired.length + 1 < state.maxRetries) ↔
      ∃ failure made, answer = .error failure ∧ after = [.repair failure made] ∧
        (made = .ok false ∨ ∃ e, made = .error e) := by
  have hw := h.within
  cases h.aftermath with
  | succeeded counts => simp
  | usedUp failure hl => simp [hl]
  | @unrepaired failure made hl hm =>
      refine iff_of_true ⟨⟨failure, rfl⟩, by omega⟩ ⟨failure, made, rfl, rfl, ?_⟩
      cases made with
      | error e => exact .inr ⟨e, rfl⟩
      | ok b =>
          cases b with
          | false => exact .inl rfl
          | true => exact absurd rfl hm

theorem Accounts.retries (h : Accounts state events outcome repaired answer after) :
    outcome.retries = state.attempt + repaired.length := by
  rw [h.outcome]
  cases answer with
  | ok counts => rfl
  | error failure => rfl

/-- A phase makes at least one attempt and at most those allowed, which are numbered within 32 bits.
Between two attempts it makes one repair, for the failure it has just seen; after the last one that
is allowed it tries none; and its outcome is the last answer. -/
theorem phase_accounting (v : Verification σ) (phase : Phase) (recorder : Option AttemptRecorder)
    (maxRetries : UInt32) (w : World σ) :
    let t := v.tracePhase phase recorder (.start maxRetries) w
    let n := (t.1.filterMap number?).length
    let limit := max 1 maxRetries.toNat
    t.2 = v.runPhase phase recorder (.start maxRetries) w ∧ 1 ≤ n ∧ n ≤ limit ∧
      (∃ (repaired : List ToolFailure) (answer : Except ToolFailure (Option TestCounts))
        (after : List PhaseEvent),
        t.1 = rounds 0 repaired ++ .attempt (n - 1) answer :: after ∧ repaired.length = n - 1 ∧
        t.2.1 = outcomeOf (n - 1) answer ∧
        (after = [] ↔ n = limit ∨ ∃ counts, answer = .ok counts) ∧
        ((∃ failure, answer = .error failure) ∧ n < limit ↔
          ∃ failure made, answer = .error failure ∧ after = [.repair failure made] ∧
            (made = .ok false ∨ ∃ e, made = .error e))) ∧
      t.1.filterMap number? = List.range n ∧ t.2.1.retries + 1 = n ∧ n < UInt32.size := by
  intro t n limit
  obtain ⟨repaired, answer, after, h⟩ :=
    accounts_tracePhase v phase recorder w (RetryState.start_lt maxRetries)
  have hnumbers : t.1.filterMap number? = List.range' 0 (repaired.length + 1) := h.filterMap
  have hn : n = repaired.length + 1 := by
    simp only [n, hnumbers, List.length_range']
  have hlimit : (RetryState.start maxRetries).maxRetries = limit := Nat.max_comm _ _
  have hsize : limit < UInt32.size := by
    have := maxRetries.toNat_lt
    simp only [limit, UInt32.size]
    omega
  have hstart : (RetryState.start maxRetries).attempt + repaired.length = n - 1 := by
    simp only [hn, RetryState.start]
    omega
  have hwithin := h.within
  have hnil := h.after_eq_nil_iff
  have hstopped := h.stopped_iff
  rw [hstart, hlimit] at hwithin
  rw [hstart, hlimit, Nat.sub_add_cancel (by omega)] at hnil hstopped
  refine ⟨tracePhase_snd v phase recorder _ w, by omega, by omega,
    ⟨repaired, answer, after, ?_, by omega, ?_, hnil, hstopped⟩, ?_, ?_, by omega⟩
  · rw [← hstart]
    exact h.events
  · rw [← hstart]
    exact h.outcome
  · rw [hnumbers, ← hn, List.range_eq_range']
  · rw [h.retries, hstart]
    omega

end Verification

end TestForge
