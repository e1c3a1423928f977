import TestForge.Proofs.FileSystem.Growth
import TestForge.Proofs.Report.Steps
import TestForge.Verification.Loop

/-!
# How a phase goes

A phase is a run of attempts: it ends with the first that succeeds, with the last that is allowed,
or with one whose failure no repair answers. All that is known of a whole verification follows from
one induction on such runs.
-/

namespace TestForge

/-! ## Rules that can be reached -/

/-- The standard rules with some switched on or off. -/
inductive RepairRules.Reachable : RepairRules → Prop
  | standard : Reachable .standard
  | setEnabled {rules : RepairRules} (h : Reachable rules) (name : String) (enabled : Bool) :
      Reachable (rules.setEnabled name enabled).2

/-- No rule ever repairs a failed test. -/
theorem RepairRules.Reachable.testRules {rules : RepairRules} (h : rules.Reachable) :
    rules.testRules = [] := by
  induction h with
  | standard => rfl
  | setEnabled _ name enabled ih => simp [RepairRules.setEnabled, switch, ih]

theorem RepairRules.switch_eq_map (name : String) (enabled : Bool) (rules : List RepairRule) :
    switch name enabled rules = rules.map fun r =>
      { r with enabled := if r.name = name then enabled else r.enabled } :=
  List.map_congr_left fun r _ => by split <;> rfl

/-- Switching rules on and off changes nothing else about them. -/
theorem RepairRules.Reachable.compileRules {rules : RepairRules} (h : rules.Reachable) :
    ∃ unit string : Bool, rules.compileRules = [{ RepairRule.unitForLong with enabled := unit },
      { RepairRule.stringForBoolean with enabled := string }] := by
  induction h with
  | standard => exact ⟨true, true, rfl⟩
  | setEnabled _ name enabled ih =>
      obtain ⟨unit, string, hrules⟩ := ih
      refine ⟨if RepairRule.unitForLong.name = name then enabled else unit,
        if RepairRule.stringForBoolean.name = name then enabled else string, ?_⟩
      simp only [RepairRules.setEnabled, switch_eq_map, hrules, List.map_cons, List.map_nil]

theorem RepairRules.Reachable.repair_test {rules : RepairRules} (h : rules.Reachable)
    (path : String) (failure : ToolFailure) (fs : FileSystem) :
    rules.repair .test path failure fs = .ok none := by
  simp [repair, matching, ofPhase, h.testRules]

/-- A repair is made where a rule applies to a text that can be read, and what the rules make of it
can be written. -/
theorem RepairRules.repair_some_iff {rules : RepairRules} {phase : Phase} {path : String}
    {failure : ToolFailure} {old new : FileSystem} :
    rules.repair phase path failure old = .ok (some new) ↔
      ∃ artifact text, old.readText path = .ok artifact ∧
        rules.pass? phase failure.diagnosticText artifact = some text ∧
        old.writeText path text = .ok new := by
  constructor
  · intro h
    unfold repair at h
    simp only at h
    split at h
    · cases h
    · split at h
      · cases h
      · rename_i artifact hread
        split at h
        · cases h
        · rename_i text hpass
          split at h
          · cases h
          · rename_i written hw
            cases h
            exact ⟨artifact, text, hread, hpass, hw⟩
  · rintro ⟨artifact, text, hread, hpass, hw⟩
    have hmatching : (rules.matching phase failure.diagnosticText).isEmpty = false := by
      cases hm : rules.matching phase failure.diagnosticText with
      | nil => simp [pass?, hm] at hpass
      | cons rule rest => rfl
    unfold repair
    simp only [hmatching, hread, hpass, hw, Bool.false_eq_true, ↓reduceIte]

/-! ## States of the retries -/

theorem RetryState.start_lt (maxRetries : UInt32) :
    (start maxRetries).attempt < (start maxRetries).maxRetries := by
  simp only [start]
  omega

theorem RetryState.isLast_iff {s : RetryState} (hs : s.attempt < s.maxRetries) :
    s.isLast = true ↔ s.attempt + 1 = s.maxRetries := by
  simp only [isLast, ge_iff_le, decide_eq_true_eq]
  omega

namespace Verification

variable {σ : Type} {v : Verification σ} {phase : Phase} {recorder : Option AttemptRecorder}

/-! ## Runs of attempts -/

/-- The attempts of a phase from a state of the retries on, with its outcome and the world left. -/
inductive PhaseRun (v : Verification σ) (phase : Phase) (recorder : Option AttemptRecorder) :
    RetryState → World σ → PhaseOutcome → World σ → Prop
  | succeeds {state w counts w'} (ha : v.attempt phase w = (.ok counts, w')) :
      PhaseRun v phase recorder state w (.succeeded state.attempt counts) w'
  | usedUp {state w failure w'} (ha : v.attempt phase w = (.error failure, w'))
      (hl : state.isLast = true) :
      PhaseRun v phase recorder state w (.exhausted state.attempt failure)
        (keepRecord recorder phase state.attempt failure w')
  | unrepaired {state w failure w'} (ha : v.attempt phase w = (.error failure, w'))
      (hl : state.isLast = false)
      (hr : ∀ files, v.rules.repair phase v.artifact failure
        (keepRecord recorder phase state.attempt failure w').files ≠ .ok (some files)) :
      PhaseRun v phase recorder state w (.exhausted state.attempt failure)
        (keepRecord recorder phase state.attempt failure w')
  | repaired {state w failure w' files outcome w''}
      (ha : v.attempt phase w = (.error failure, w')) (hl : state.isLast = false)
      (hr : v.rules.repair phase v.artifact failure
        (keepRecord recorder phase state.attempt failure w').files = .ok (some files))
      (next : PhaseRun v phase recorder state.next
        { keepRecord recorder phase state.attempt failure w' with files := files } outcome w'') :
      PhaseRun v phase recorder state w outcome w''

theorem phaseRun_runPhase (v : Verification σ) (phase : Phase) (recorder : Option AttemptRecorder)
    (state : RetryState) (w : World σ) :
    PhaseRun v phase recorder state w (v.runPhase phase recorder state w).1
      (v.runPhase phase recorder state w).2 := by
  fun_induction v.runPhase phase recorder state w with
  | case1 state w counts w' ha => exact .succeeds ha
  | case2 state w failure w' ha _ hl => exact .usedUp ha hl
  | case3 state w failure w' ha _ hl files hr _ ih =>
      exact .repaired ha (Bool.eq_false_iff.2 hl) hr ih
  | case4 state w failure w' ha kept hl hr =>
      refine .unrepaired ha (Bool.eq_false_iff.2 hl) fun files hf => ?_
      simp only [kept] at hr
      simp [hr] at hf
  | case5 state w failure w' ha kept hl e hr =>
      refine .unrepaired ha (Bool.eq_false_iff.2 hl) fun files hf => ?_
      simp only [kept] at hr
      simp [hr] at hf

/-- A run is what running gives: the world and the state of the retries decide all of it. -/
theorem PhaseRun.eq {state : RetryState} {w w' : World σ} {outcome : PhaseOutcome}
    (h : PhaseRun v phase recorder state w outcome w') :
    v.runPhase phase recorder state w = (outcome, w') := by
  induction h with
  | succeeds ha => rw [runPhase]; simp [ha]
  | usedUp ha hl => rw [runPhase]; simp [ha, hl]
  | unrepaired ha hl hr =>
      rw [runPhase]
      simp only [ha, hl, Bool.false_eq_true, ↓reduceDIte]
      split
      · rename_i files hf
        exact (hr files hf).elim
      · rfl
      · rfl
  | repaired ha hl hr _ ih => rw [runPhase]; simp [ha, hl, hr, ih]

/-- A test is run once, whatever the number of attempts. -/
theorem PhaseRun.test_once {state : RetryState} {w w' : World σ} {outcome : PhaseOutcome}
    (hr : v.rules.Reachable) (h : PhaseRun v .test recorder state w outcome w') :
    (∃ counts, v.attempt .test w = (.ok counts, w') ∧
      outcome = .succeeded state.attempt counts) ∨
    ∃ failure w₁, v.attempt .test w = (.error failure, w₁) ∧
      outcome = .exhausted state.attempt failure ∧
      w' = keepRecord recorder .test state.attempt failure w₁ := by
  cases h with
  | succeeds ha => exact Or.inl ⟨_, ha, rfl⟩
  | usedUp ha _ => exact Or.inr ⟨_, _, ha, rfl, rfl⟩
  | unrepaired ha _ _ => exact Or.inr ⟨_, _, ha, rfl, rfl⟩
  | repaired ha _ hf _ => simp [hr.repair_test] at hf

/-! ## Both phases -/

/-- The step of a phase once it is over. -/
def finishedStep (phase : Phase) (maxRetries : UInt32) (ordinal : Nat) : PhaseOutcome → Step
  | .succeeded retries counts =>
    ⟨ordinal, phase.stepName, .completed, startMessage phase maxRetries,
      some (successResult retries counts), none⟩
  | .exhausted retries failure =>
    ⟨ordinal, phase.stepName, .failed,
      startMessage phase maxRetries ++ (" - failed after " ++ toString (retries + 1) ++ " attempt(s)"),
      none, some failure.message⟩

@[simp] theorem finishedStep_name (phase : Phase) (maxRetries : UInt32) (ordinal : Nat)
    (outcome : PhaseOutcome) :
    (finishedStep phase maxRetries ordinal outcome).name = phase.stepName := by
  cases outcome <;> rfl

theorem report_begin (log : StepLog) (phase : Phase) (maxRetries : UInt32)
    (outcome : PhaseOutcome) :
    report (log.begin phase.stepName (startMessage phase maxRetries)).2 outcome =
      ⟨log.steps ++ [finishedStep phase maxRetries (log.count + 1) outcome]⟩ := by
  cases outcome with
  | succeeded retries counts =>
      simp [report, StepLog.begin, StepLog.complete, StepLog.changeOpen_concat, StepStatus.isOpen,
        finishedStep]
  | exhausted retries failure =>
      simp [report, StepLog.begin, StepLog.note, StepLog.fail, StepLog.changeOpen_concat,
        StepStatus.isOpen, finishedStep]

/-- What a verification does: the test phase is entered only after a successful compilation. -/
inductive VerificationRun (v : Verification σ) (maxRetries : UInt32)
    (recorder : Option AttemptRecorder) (w : World σ) : StepLog → World σ → Prop
  | notCompiled {retries failure w'}
      (hc : PhaseRun v .compile recorder (.start maxRetries) w (.exhausted retries failure) w') :
      VerificationRun v maxRetries recorder w
        ⟨[finishedStep .compile maxRetries 1 (.exhausted retries failure)]⟩ w'
  | tested {retries counts w₁ outcome w'}
      (hc : PhaseRun v .compile recorder (.start maxRetries) w (.succeeded retries counts) w₁)
      (ht : PhaseRun v .test recorder (.start maxRetries) w₁ outcome w') :
      VerificationRun v maxRetries recorder w
        ⟨[finishedStep .compile maxRetries 1 (.succeeded retries counts),
          finishedStep .test maxRetries 2 outcome]⟩ w'

theorem verificationRun_runPhases (v : Verification σ) (maxRetries : UInt32)
    (recorder : Option AttemptRecorder) (w : World σ) :
    VerificationRun v maxRetries recorder w
      (v.runPhases maxRetries recorder [.compile, .test] .empty w).1
      (v.runPhases maxRetries recorder [.compile, .test] .empty w).2 := by
  have hc := phaseRun_runPhase v .compile recorder (.start maxRetries) w
  rcases hrc : v.runPhase .compile recorder (.start maxRetries) w with ⟨outcome, w₁⟩
  rw [hrc] at hc
  cases outcome with
  | exhausted retries failure =>
      simp only [runPhases, hrc, report_begin]
      exact .notCompiled hc
  | succeeded retries counts =>
      have ht := phaseRun_runPhase v .test recorder (.start maxRetries) w₁
      rcases hrt : v.runPhase .test recorder (.start maxRetries) w₁ with ⟨outcome, w'⟩
      rw [hrt] at ht
      cases outcome with
      | succeeded retries' counts' =>
          simp only [runPhases, hrc, hrt, report_begin]
          exact .tested hc ht
      | exhausted retries' failure =>
          simp only [runPhases, hrc, hrt, report_begin]
          exact .tested hc ht

theorem verify_eq (v : Verification σ) (maxRetries : UInt32) (recordAttempts : Bool)
    (w : World σ) :
    v.verify maxRetries recordAttempts w =
      v.runPhases maxRetries (v.openRecorder recordAttempts w).1 [.compile, .test] .empty
        (v.openRecorder recordAttempts w).2 :=
  rfl

/-- Opening a recorder reads the clock and touches nothing else. -/
theorem openRecorder_world (v : Verification σ) (recordAttempts : Bool) (w : World σ) :
    (v.openRecorder recordAttempts w).2.files = w.files ∧
      (v.openRecorder recordAttempts w).2.tools = w.tools := by
  unfold openRecorder
  split <;> exact ⟨rfl, rfl⟩

theorem verificationRun_verify (v : Verification σ) (maxRetries : UInt32) (recordAttempts : Bool)
    (w : World σ) :
    VerificationRun v maxRetries (v.openRecorder recordAttempts w).1
      (v.openRecorder recordAttempts w).2 (v.verify maxRetries recordAttempts w).1
      (v.verify maxRetries recordAttempts w).2 :=
  verificationRun_runPhases v maxRetries _ _

theorem VerificationRun.unique {maxRetries : UInt32} {w w₁ w₂ : World σ} {log₁ log₂ : StepLog}
    (h : VerificationRun v maxRetries recorder w log₁ w₁)
    (k : VerificationRun v maxRetries recorder w log₂ w₂) : log₁ = log₂ ∧ w₁ = w₂ := by
  cases h with
  | notCompiled hc =>
      cases k with
      | notCompiled kc =>
          have hsame := hc.eq.symm.trans kc.eq
          cases hsame
          exact ⟨rfl, rfl⟩
      | tested kc kt =>
          have hsame := hc.eq.symm.trans kc.eq
          cases hsame
  | tested hc ht =>
      cases k with
      | notCompiled kc =>
          have hsame := hc.eq.symm.trans kc.eq
          cases hsame
      | tested kc kt =>
          have hsame := hc.eq.symm.trans kc.eq
          cases hsame
          have hsame := ht.eq.symm.trans kt.eq
          cases hsame
          exact ⟨rfl, rfl⟩

/-! ## Files -/

/-- A record leaves the directories that could be created for it, and itself if it could be
written. -/
theorem record_keeps {P : FileSystem → Prop} {r : AttemptRecorder} {attempt : Nat}
    {failure : ToolFailure} {fs : FileSystem}
    (h : P (fs.createDirectories (r.attemptDirectory phase attempt)).2)
    (hwrite : ∀ {made written : FileSystem},
      (fs.createDirectories (r.attemptDirectory phase attempt)).2 = made → P made →
      made.writeText (r.diagnosticsPath phase attempt) failure.diagnosticText = .ok written →
      P written) : P (r.record phase attempt failure fs) := by
  unfold AttemptRecorder.record
  split
  · rename_i made hm
    rwa [hm] at h
  · rename_i made hm
    rw [hm] at h
    split
    · rename_i written hw
      exact hwrite (by rw [hm]) h hw
    · exact h

theorem grows_record (r : AttemptRecorder) (phase : Phase) (attempt : Nat) (failure : ToolFailure)
    (fs : FileSystem) : fs.Grows (r.record phase attempt failure fs) :=
  record_keeps (fs.grows_createDirectories _) fun _ h hw =>
    h.trans (FileSystem.grows_writeBytes hw)

theorem grows_keepRecord (recorder : Option AttemptRecorder) (phase : Phase) (attempt : Nat)
    (failure : ToolFailure) (w : World σ) :
    w.files.Grows (keepRecord recorder phase attempt failure w).files := by
  cases recorder with
  | none => exact .refl _
  | some r => simpa only [keepRecord] using grows_record r phase attempt failure w.files

/-- A repair that was made has written its artifact. -/
theorem exists_write_of_repair {rules : RepairRules} {path : String} {failure : ToolFailure}
    {old new : FileSystem} (h : rules.repair phase path failure old = .ok (some new)) :
    ∃ text, old.writeText path text = .ok new := by
  obtain ⟨-, text, -, -, hw⟩ := RepairRules.repair_some_iff.1 h
  exact ⟨text, hw⟩

theorem grows_repair {rules : RepairRules} {path : String} {failure : ToolFailure}
    {old new : FileSystem} (h : rules.repair phase path failure old = .ok (some new)) :
    old.Grows new := by
  obtain ⟨text, hw⟩ := exists_write_of_repair h
  exact FileSystem.grows_writeBytes hw

theorem attempt_files (hr : v.tools.ReadOnly) {w w' : World σ}
    {answer : Except ToolFailure (Option TestCounts)} (ha : v.attempt phase w = (answer, w')) :
    w'.files = w.files := by
  have hw : w' = (v.attempt phase w).2 := by rw [ha]
  rw [hw]
  cases phase with
  | compile => exact hr.compile _ _ _ _
  | test => exact hr.run _ _ _ _

/-- Over a toolchain that only reads, a phase takes nothing away from the files. -/
theorem PhaseRun.grows {state : RetryState} {w w' : World σ} {outcome : PhaseOutcome}
    (hr : v.tools.ReadOnly) (h : PhaseRun v phase recorder state w outcome w') :
    w.files.Grows w'.files := by
  induction h with
  | succeeds ha =>
      rw [← attempt_files hr ha]
      exact .refl _
  | usedUp ha _ =>
      rw [← attempt_files hr ha]
      exact grows_keepRecord _ _ _ _ _
  | unrepaired ha _ _ =>
      rw [← attempt_files hr ha]
      exact grows_keepRecord _ _ _ _ _
  | repaired ha _ hf _ ih =>
      rw [← attempt_files hr ha]
      exact ((grows_keepRecord _ _ _ _ _).trans (grows_repair hf)).trans ih

theorem VerificationRun.grows {maxRetries : UInt32} {w w' : World σ} {log : StepLog}
    (hr : v.tools.ReadOnly) (h : VerificationRun v maxRetries recorder w log w') :
    w.files.Grows w'.files := by
  cases h with
  | notCompiled hc => exact hc.grows hr
  | tested hc ht => exact (hc.grows hr).trans (ht.grows hr)

end Verification

end TestForge
