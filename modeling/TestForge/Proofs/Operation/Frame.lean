import TestForge.Proofs.FileSystem.Changes
import TestForge.Proofs.Operation.LeftBehind
import TestForge.Proofs.Operation.Soundness
import TestForge.Proofs.Operation.Untouched
import TestForge.Proofs.Verification.RecordPlaces

/-!
# What operations write

An operation writes the tests that it is called for and the records of failed attempts, and removes
nothing. A validation writes its test only to repair it, which needs a compilation that failed for a
reason some rule answers, with another compilation after it.
-/

namespace TestForge

open Toolchain

/-! ## Reasons to write -/

/-- A compilation or a run failed. -/
def Toolchain.Answer.Failed : Answer → Prop
  | .compile result => ∃ failure, result = .error failure
  | .run result => ∃ failure, result = .error failure
  | .coverage _ => False

/-- An attempt failed. -/
def AttemptFailed (calls : List Event) : Prop :=
  ∃ e ∈ calls, e.answer.Failed

/-- Some compilation before the last failed with a diagnostic that triggers an enabled rule. -/
def RepairRules.Answered (rules : RepairRules) (calls : List Event) : Prop :=
  ∃ e later failure result, [e, later].Sublist calls ∧ e.answer = .compile (.error failure) ∧
    later.answer = .compile result ∧
    ∃ rule ∈ rules.compileRules, rule.enabled = true ∧ rule.triggers failure.diagnosticText = true

theorem AttemptFailed.mono {calls more : List Event} (h : AttemptFailed calls)
    (hs : calls.Sublist more) : AttemptFailed more := by
  obtain ⟨e, he, hf⟩ := h
  exact ⟨e, hs.subset he, hf⟩

theorem RepairRules.Answered.mono {rules : RepairRules} {calls more : List Event}
    (h : rules.Answered calls) (hs : calls.Sublist more) : rules.Answered more := by
  obtain ⟨e, later, failure, result, hsub, hrest⟩ := h
  exact ⟨e, later, failure, result, hsub.trans hs, hrest⟩

/-- The place of a test. -/
def AtTest (fs : FileSystem) (root target : String) (place : Location) : Prop :=
  place = fs.destination (Path.join root target)

/-- A place for the record of a failed attempt. -/
structure AtRecord (recordAttempts : Bool) (fs : FileSystem) (root : String) (calls : List Event)
    (place : Location) : Prop where
  recording : recordAttempts = true
  failed : AttemptFailed calls
  below : fs.Below (Path.join (Path.join root ".testsmith") "validation") place

theorem AtRecord.mono {recordAttempts : Bool} {fs : FileSystem} {root : String}
    {calls more : List Event} {place : Location}
    (h : AtRecord recordAttempts fs root calls place) (hs : calls.Sublist more) :
    AtRecord recordAttempts fs root more place :=
  ⟨h.recording, h.failed.mono hs, h.below⟩

/-! ## Repairs and records -/

/-- A repair that was made has written its artifact, for a rule that the diagnostic triggers. -/
theorem RepairRules.repair_changes {rules : RepairRules} {path : String} {failure : ToolFailure}
    {old new : FileSystem} (hl : old.Linkless)
    (h : rules.repair .compile path failure old = .ok (some new)) :
    old.ChangesOnly new (fun place => place = old.destination path) ∧
      ∃ rule ∈ rules.compileRules, rule.enabled = true ∧
        rule.triggers failure.diagnosticText = true := by
  obtain ⟨artifact, text, -, hpass, hw⟩ := RepairRules.repair_some_iff.1 h
  refine ⟨FileSystem.changesOnly_writeText hl hw, ?_⟩
  have hmatching : rules.matching .compile failure.diagnosticText ≠ [] := by
    intro hm
    simp [RepairRules.pass?, hm] at hpass
  obtain ⟨rule, hr⟩ := List.exists_mem_of_ne_nil _ hmatching
  obtain ⟨hmem, happlies⟩ := List.mem_filter.1 hr
  exact ⟨rule, hmem, Bool.and_eq_true_iff.1 happlies⟩

theorem AttemptRecorder.record_changes (r : AttemptRecorder) (phase : Phase) (attempt : Nat)
    (failure : ToolFailure) {fs : FileSystem} (hl : fs.Linkless) :
    fs.ChangesOnly (r.record phase attempt failure fs)
      fun place => place = fs.destination (r.diagnosticsPath phase attempt) := by
  have hgrows := fs.grows_createDirectories (r.attemptDirectory phase attempt)
  have hsame := fs.sameFiles_createDirectories (r.attemptDirectory phase attempt)
  refine Verification.record_keeps (P := fun new => fs.ChangesOnly new
    fun place => place = fs.destination (r.diagnosticsPath phase attempt))
    (hsame.changesOnly hgrows _) fun hm hmade hw => ?_
  subst hm
  have hwritten := FileSystem.changesOnly_writeText (hgrows.linkless hl) hw
  rw [hgrows.destination] at hwritten
  exact hmade.trans hwritten

/-! ## Verifications -/

namespace Verification

variable {σ : Type} {v : Verification σ} {recorder : Option AttemptRecorder} {base : FileSystem}
  {recordAttempts : Bool}

/-- What a verification writes. -/
def Writes (v : Verification σ) (recordAttempts : Bool) (fs : FileSystem) (calls : List Event)
    (place : Location) : Prop :=
  (AtTest fs v.root v.target place ∧ v.rules.Answered calls) ∨
    AtRecord recordAttempts fs v.root calls place

theorem Writes.mono {calls more : List Event} {place : Location}
    (h : v.Writes recordAttempts base calls place) (hs : calls.Sublist more) :
    v.Writes recordAttempts base more place := by
  cases h with
  | inl h => exact Or.inl ⟨h.1, h.2.mono hs⟩
  | inr h => exact Or.inr (h.mono hs)

/-- A recorder that is there only if attempts are recorded, and that records below the directory
for records. -/
def Keeps (v : Verification σ) (recordAttempts : Bool) (fs : FileSystem)
    (recorder : Option AttemptRecorder) : Prop :=
  ∀ r, recorder = some r → recordAttempts = true ∧ ∀ phase attempt,
    fs.Below (Path.join (Path.join v.root ".testsmith") "validation")
      (fs.destination (r.diagnosticsPath phase attempt))

theorem keeps_openRecorder (v : Verification σ) (recordAttempts : Bool) (fs : FileSystem)
    (w : World σ) : v.Keeps recordAttempts fs (v.openRecorder recordAttempts w).1 := by
  intro r hr
  cases recordAttempts with
  | false => cases hr
  | true =>
      obtain rfl := Option.some.inj hr
      exact ⟨rfl, fun phase attempt =>
        AttemptRecorder.below_diagnosticsPath fs v.root v.target _ phase attempt⟩

theorem keepRecord_changes (hk : v.Keeps recordAttempts base recorder) (hl : base.Linkless)
    {τ : Type} {w : World τ} (hg : base.Grows w.files) (phase : Phase) (attempt : Nat)
    (failure : ToolFailure) {calls : List Event} (hf : AttemptFailed calls) :
    w.files.ChangesOnly (keepRecord recorder phase attempt failure w).files
      (AtRecord recordAttempts base v.root calls) := by
  cases recorder with
  | none => exact .refl _ _
  | some r =>
      obtain ⟨hrec, hbelow⟩ := hk r rfl
      simp only [keepRecord]
      refine (r.record_changes phase attempt failure (hg.linkless hl)).mono fun place hp => ?_
      rw [hp, hg.destination]
      exact ⟨hrec, hf, hbelow phase attempt⟩

/-- All that a failed attempt leaves behind is its record. -/
theorem failed_changes (hro : v.tools.ReadOnly) (hk : v.Keeps recordAttempts base recorder)
    (hl : base.Linkless) {phase : Phase} {w w' : World (List Event × σ)} {failure : ToolFailure}
    (ha : v.logged.attempt phase w = (.error failure, w')) (hg : base.Grows w.files)
    (attempt : Nat) {e : Event} (he : e.answer.Failed) :
    w.files.ChangesOnly (keepRecord recorder phase attempt failure w').files
      (AtRecord recordAttempts base v.root [e]) := by
  have hfiles := attempt_files (v := v.logged) hro.logged ha
  have hrec := keepRecord_changes hk hl (hfiles ▸ hg) phase attempt failure
    ⟨e, List.mem_singleton_self e, he⟩
  rwa [hfiles] at hrec

/-- The call of a compilation that failed. -/
def notCompiled (v : Verification σ) (files : FileSystem) (failure : ToolFailure) : Event :=
  ⟨v.root, v.target, files, .compile (.error failure)⟩

theorem notCompiled_changes (hro : v.tools.ReadOnly) (hk : v.Keeps recordAttempts base recorder)
    (hl : base.Linkless) (state : RetryState) {w w' : World (List Event × σ)}
    {failure : ToolFailure} (ha : v.logged.attempt .compile w = (.error failure, w'))
    (hg : base.Grows w.files) :
    (keepRecord recorder .compile state.attempt failure w').calls =
        w.calls ++ [v.notCompiled w.files failure] ∧
      w.files.ChangesOnly (keepRecord recorder .compile state.attempt failure w').files
        (AtRecord recordAttempts base v.root [v.notCompiled w.files failure]) := by
  refine ⟨?_, failed_changes hro hk hl ha hg state.attempt ⟨failure, rfl⟩⟩
  rw [keepRecord_calls, attempt_compile_error ha]
  rfl

/-- Every phase of compilations calls the compiler, and writes for its failures only. -/
theorem PhaseRun.compile_writes (hro : v.tools.ReadOnly)
    (hk : v.Keeps recordAttempts base recorder) (hl : base.Linkless) {state : RetryState}
    {w w' : World (List Event × σ)} {outcome : PhaseOutcome}
    (h : PhaseRun v.logged .compile recorder state w outcome w') (hg : base.Grows w.files) :
    ∃ first result calls, first.answer = .compile result ∧
      w'.calls = w.calls ++ first :: calls ∧
      w.files.ChangesOnly w'.files (v.Writes recordAttempts base (first :: calls)) := by
  -- By induction on the attempts. What follows a repair starts with a compilation, so that the one
  -- which was repaired is before the last.
  induction h with
  | succeeds ha =>
      obtain ⟨-, output, hc⟩ := attempt_compile_ok ha
      rw [attempt_files (v := v.logged) hro.logged ha]
      exact ⟨_, _, [], rfl, hc, .refl _ _⟩
  | @usedUp state w failure w' ha _ =>
      obtain ⟨hc, hrec⟩ := notCompiled_changes hro hk hl state ha hg
      exact ⟨_, _, [], rfl, hc, hrec.mono fun _ => Or.inr⟩
  | @unrepaired state w failure w' ha _ _ =>
      obtain ⟨hc, hrec⟩ := notCompiled_changes hro hk hl state ha hg
      exact ⟨_, _, [], rfl, hc, hrec.mono fun _ => Or.inr⟩
  | @repaired state w failure w' files outcome w'' ha _ hr _ ih =>
      obtain ⟨hc, hrec⟩ := notCompiled_changes hro hk hl state ha hg
      have hkept := hg.trans hrec.grows
      obtain ⟨hrep, hrule⟩ := RepairRules.repair_changes (hkept.linkless hl) hr
      obtain ⟨second, result, calls, hsecond, hcalls, hrest⟩ := ih (hkept.trans hrep.grows)
      have hpair : [v.notCompiled w.files failure, second].Sublist
          (v.notCompiled w.files failure :: second :: calls) :=
        ((List.nil_sublist calls).cons_cons second).cons_cons _
      refine ⟨v.notCompiled w.files failure, _, second :: calls, rfl, ?_, ?_⟩
      · rw [hcalls]
        change (keepRecord recorder .compile state.attempt failure w').calls ++ _ = _
        rw [hc, List.append_assoc]
        rfl
      · refine (hrec.mono ?_).trans ((hrep.mono ?_).trans (hrest.mono ?_))
        · intro place hp
          exact Or.inr (hp.mono (List.singleton_sublist.2 List.mem_cons_self))
        · intro place hp
          rw [hkept.destination] at hp
          exact Or.inl ⟨hp, _, second, failure, result, hpair, rfl, hsecond, hrule⟩
        · intro place hp
          exact hp.mono (List.sublist_cons_self _ _)

/-- The test phase writes nothing but the record of its failure. -/
theorem PhaseRun.test_writes (hro : v.tools.ReadOnly) (hr : v.rules.Reachable)
    (hk : v.Keeps recordAttempts base recorder) (hl : base.Linkless) {state : RetryState}
    {w w' : World (List Event × σ)} {outcome : PhaseOutcome}
    (h : PhaseRun v.logged .test recorder state w outcome w') (hg : base.Grows w.files) :
    ∃ calls, w'.calls = w.calls ++ calls ∧
      w.files.ChangesOnly w'.files (v.Writes recordAttempts base calls) := by
  rcases h.test_once (v := v.logged) hr with ⟨counts, ha, -⟩ | ⟨failure, w₁, ha, -, rfl⟩
  · obtain ⟨ran, -, hc⟩ := attempt_test_ok ha
    rw [attempt_files (v := v.logged) hro.logged ha]
    exact ⟨_, hc, .refl _ _⟩
  · have hrec := failed_changes hro hk hl ha hg state.attempt
      (e := ⟨v.root, v.target, w.files, .run (.error failure)⟩) ⟨failure, rfl⟩
    exact ⟨_, by rw [keepRecord_calls, attempt_test_error ha], hrec.mono fun _ => Or.inr⟩

/-- A verification writes its test to repair it, and the records of failed attempts. -/
theorem verify_writes (hro : v.tools.ReadOnly) (hr : v.rules.Reachable) (hl : base.Linkless)
    (maxRetries : UInt32) (recordAttempts : Bool) {w : World (List Event × σ)}
    (hg : base.Grows w.files) :
    ∃ calls, (v.logged.verify maxRetries recordAttempts w).2.calls = w.calls ++ calls ∧
      w.files.ChangesOnly (v.logged.verify maxRetries recordAttempts w).2.files
        (v.Writes recordAttempts base calls) := by
  have hk : v.Keeps recordAttempts base (v.logged.openRecorder recordAttempts w).1 :=
    keeps_openRecorder v.logged recordAttempts base w
  obtain ⟨hfiles, htools⟩ := v.logged.openRecorder_world recordAttempts w
  have hcalls : (v.logged.openRecorder recordAttempts w).2.calls = w.calls :=
    congrArg Prod.fst htools
  have hrun := verificationRun_verify v.logged maxRetries recordAttempts w
  generalize v.logged.verify maxRetries recordAttempts w = verified at hrun ⊢
  obtain ⟨log, w'⟩ := verified
  rw [← hfiles] at hg ⊢
  rw [← hcalls]
  cases hrun with
  | notCompiled hc =>
      obtain ⟨first, result, calls, -, hw, hchanges⟩ := hc.compile_writes hro hk hl hg
      exact ⟨_, hw, hchanges⟩
  | @tested retries counts w₁ outcome _ hc ht =>
      obtain ⟨first, result, calls, -, hw, hchanges⟩ := hc.compile_writes hro hk hl hg
      obtain ⟨more, hw', hchanges'⟩ := ht.test_writes hro hr hk hl (hg.trans hchanges.grows)
      refine ⟨first :: calls ++ more, by rw [hw', hw, List.append_assoc], ?_⟩
      refine (hchanges.mono fun place hp => ?_).trans (hchanges'.mono fun place hp => ?_)
      · exact hp.mono (List.sublist_append_left _ _)
      · exact hp.mono (List.sublist_append_right _ _)

end Verification

/-! ## Operations -/

/-- Writing an artifact touches the place of the test, or nothing. -/
theorem writeArtifact_changes {root target artifact : String} {old new : FileSystem}
    {result : Except OperationFailure Unit} (hl : old.Linkless)
    (h : writeArtifact root target artifact old = (result, new)) :
    old.ChangesOnly new (AtTest old root target) := by
  have hnew : new = (writeArtifact root target artifact old).2 := by rw [h]
  rw [hnew]
  have hsame := sameFiles_makeRoom (Path.join root target) old
  refine writeArtifact_keeps (P := fun files => old.ChangesOnly files (AtTest old root target))
    (hsame.changesOnly (grows_makeRoom _ old) _) ?_
  intro made written hgrows hmade hw
  have hwritten := FileSystem.changesOnly_writeText (hgrows.linkless hl) hw
  rw [hgrows.destination] at hwritten
  exact hmade.trans hwritten

namespace Dispatcher

variable {σ : Type} {d : Dispatcher σ} {base : FileSystem}

theorem generateAs_writes (hro : d.tools.ReadOnly) (hr : d.rules.Reachable) (hl : base.Linkless)
    (op : Operation) (r : GenerateRequest) (intent : TestIntent) {w : World (List Event × σ)}
    (hg : base.Grows w.files) :
    ∃ calls, (d.logged.generateAs op r intent w).2.calls = w.calls ++ calls ∧
      w.files.ChangesOnly (d.logged.generateAs op r intent w).2.files fun place =>
        AtTest base r.projectRoot r.target place ∨
          AtRecord d.recordAttempts base r.projectRoot calls place := by
  have hgen := generation_runGeneration d.logged op r intent w
  unfold generateAs
  generalize d.logged.runGeneration op r intent w = generated at hgen ⊢
  obtain ⟨log, failure, w'⟩ := generated
  have hartifact {artifact : String} {result : Except OperationFailure Unit} {files : FileSystem}
      (hw : writeArtifact r.projectRoot r.target artifact w.files = (result, files)) :
      w.files.ChangesOnly files (AtTest base r.projectRoot r.target) := by
    have hc := writeArtifact_changes (hg.linkless hl) hw
    unfold AtTest at hc
    rwa [hg.destination] at hc
  cases hgen with
  | rejected hc => exact ⟨[], (List.append_nil _).symm, .refl _ _⟩
  | unreadable hc hx => exact ⟨[], (List.append_nil _).symm, .refl _ _⟩
  | unwritten hc hx hw =>
      exact ⟨[], (List.append_nil _).symm, (hartifact hw).mono fun _ => Or.inl⟩
  | unverified hc hx hw hv =>
      exact ⟨[], (List.append_nil _).symm, (hartifact hw).mono fun _ => Or.inl⟩
  | @verified x files verification _ hc hx hw hv hy =>
      have hwritten := hartifact hw
      obtain ⟨calls, hcalls, hchanges⟩ := Verification.verify_writes
        (v := d.verification r.projectRoot r.target) hro hr hl r.maxRetries d.recordAttempts
        (w := { w with files := files }) (hg.trans hwritten.grows)
      rw [logged_verification] at hy
      change Verification.verify _ r.maxRetries d.recordAttempts _ = _ at hy
      rw [hy] at hcalls hchanges
      refine ⟨calls, hcalls, (hwritten.mono fun _ => Or.inl).trans (hchanges.mono ?_)⟩
      intro place hp
      exact hp.imp_left And.left

theorem runItems_writes (hro : d.tools.ReadOnly) (hr : d.rules.Reachable) (hl : base.Linkless)
    (r : BatchRequest) (paths : List String) (tally : BatchTally) {w : World (List Event × σ)}
    (hg : base.Grows w.files) :
    ∃ calls, (d.logged.runItems r paths tally w).2.2.calls = w.calls ++ calls ∧
      w.files.ChangesOnly (d.logged.runItems r paths tally w).2.2.files fun place =>
        (∃ item ∈ (d.logged.runItems r paths tally w).1,
          AtTest base r.projectRoot item.report.testPath place) ∨
        AtRecord d.recordAttempts base r.projectRoot calls place := by
  induction paths generalizing tally w with
  | nil => exact ⟨[], (List.append_nil _).symm, .refl _ _⟩
  | cons path rest ih =>
      obtain ⟨calls, hcalls, hchanges⟩ := generateAs_writes hro hr hl .generateBatchTests
        (r.item path) .unit hg
      have hpath := (d.logged.generateAs_paths .generateBatchTests (r.item path) .unit w).2
      unfold runItems
      generalize d.logged.generateAs .generateBatchTests (r.item path) .unit w = generated at *
      obtain ⟨report, w'⟩ := generated
      simp only at hcalls hchanges hpath ⊢
      rw [← hpath] at hchanges
      split
      · obtain ⟨more, hmore, hrest⟩ := ih (tally.complete report.success) (hg.trans hchanges.grows)
        refine ⟨calls ++ more, by rw [hmore, hcalls, List.append_assoc], ?_⟩
        refine (hchanges.mono fun place hp => ?_).trans (hrest.mono fun place hp => ?_)
        · cases hp with
          | inl ht => exact Or.inl ⟨.ofReport report, List.mem_cons_self, ht⟩
          | inr hrec => exact Or.inr (hrec.mono (List.sublist_append_left _ _))
        · cases hp with
          | inl ht =>
              obtain ⟨item, hi, ht⟩ := ht
              exact Or.inl ⟨item, List.mem_cons_of_mem _ hi, ht⟩
          | inr hrec => exact Or.inr (hrec.mono (List.sublist_append_right _ _))
      · refine ⟨calls, hcalls, hchanges.mono fun place hp => ?_⟩
        exact hp.imp_left fun ht => ⟨.ofReport report, List.mem_cons_self, ht⟩

theorem generateBatch_writes (hro : d.tools.ReadOnly) (hr : d.rules.Reachable) (hl : base.Linkless)
    (r : BatchRequest) {w : World (List Event × σ)} (hg : base.Grows w.files) :
    ∃ calls, (d.logged.generateBatch r w).2.calls = w.calls ++ calls ∧
      w.files.ChangesOnly (d.logged.generateBatch r w).2.files fun place =>
        (∃ item ∈ (d.logged.generateBatch r w).1.items,
          AtTest base r.projectRoot item.report.testPath place) ∨
        AtRecord d.recordAttempts base r.projectRoot calls place := by
  unfold generateBatch
  split
  · exact ⟨[], (List.append_nil _).symm, .refl _ _⟩
  · exact runItems_writes hro hr hl r _ _ hg

theorem verifyExisting_writes (hro : d.tools.ReadOnly) (hr : d.rules.Reachable)
    (hl : base.Linkless) (r : ValidateRequest) {w : World (List Event × σ)}
    (hg : base.Grows w.files) :
    ∃ calls, (d.logged.verifyExisting r w).2.calls = w.calls ++ calls ∧
      w.files.ChangesOnly (d.logged.verifyExisting r w).2.files
        ((d.verification r.projectRoot r.testPath).Writes d.recordAttempts base calls) := by
  obtain ⟨calls, hcalls, hchanges⟩ := Verification.verify_writes
    (v := d.verification r.projectRoot r.testPath) hro hr hl r.maxRetries d.logged.recordAttempts hg
  rw [← logged_verification] at hcalls hchanges
  unfold verifyExisting
  generalize (d.logged.verification r.projectRoot r.testPath).verify r.maxRetries
    d.logged.recordAttempts w = verified at hcalls hchanges ⊢
  obtain ⟨log, w'⟩ := verified
  simp only at hcalls hchanges ⊢
  split
  · obtain ⟨result, hw⟩ := d.runCoverage_calls r.projectRoot r.testPath w'
    have hfiles := d.logged.runCoverage_files hro.logged r.projectRoot r.testPath w'
    refine ⟨calls ++ [_], by rw [hw, hcalls, List.append_assoc], ?_⟩
    rw [hfiles]
    exact hchanges.mono fun place hp => hp.mono (List.sublist_append_left _ _)
  · exact ⟨calls, hcalls, hchanges⟩

theorem validate_writes (hro : d.tools.ReadOnly) (hr : d.rules.Reachable) (hl : base.Linkless)
    (r : ValidateRequest) {w : World (List Event × σ)} (hg : base.Grows w.files) :
    ∃ calls, (d.logged.validate r w).2.calls = w.calls ++ calls ∧
      w.files.ChangesOnly (d.logged.validate r w).2.files
        ((d.verification r.projectRoot r.testPath).Writes d.recordAttempts base calls) := by
  unfold validate
  split
  · exact ⟨[], (List.append_nil _).symm, .refl _ _⟩
  · simp only
    split
    · exact ⟨[], (List.append_nil _).symm, .refl _ _⟩
    · exact verifyExisting_writes hro hr hl r hg

/-! ## Calls -/

def Request.root : Request → String
  | .analyze r => r.projectRoot
  | .generate r _ => r.projectRoot
  | .batch r => r.projectRoot
  | .validate r => r.projectRoot

/-- The tests that a request is about; those of a batch are the tests of the items that it has
reached. -/
def testPaths (d : Dispatcher σ) (w : World σ) : Request → List String
  | .analyze _ => []
  | .generate r _ => [r.target]
  | .batch r => (d.generateBatch r w).1.items.map (·.report.testPath)
  | .validate r => [r.testPath]

/-- Why a request has come to write at a place: a test of the request stands there, which a
validation writes only if a rule answers the failure of a compilation before the last, or it is a
place for records. -/
inductive Written (d : Dispatcher σ) (w : World σ) (request : Request) (calls : List Event)
    (place : Location) : Prop
  | test {target} (ht : target ∈ d.testPaths w request)
      (hp : AtTest w.files request.root target place)
      (hv : ∀ r, request = .validate r → d.rules.Answered calls) :
      Written d w request calls place
  | record (h : AtRecord d.recordAttempts w.files request.root calls place) :
      Written d w request calls place

theorem perform_writes (hro : d.tools.ReadOnly) (hr : d.rules.Reachable) (request : Request)
    {w : World σ} (hl : w.files.Linkless) :
    w.files.ChangesOnly (d.logged.perform request w.logging).2.files
      (d.Written w request (d.logged.perform request w.logging).2.calls) := by
  have hg : w.files.Grows w.logging.files := .refl _
  cases request with
  | analyze r => exact .refl _ _
  | generate r intent =>
      obtain ⟨calls, hcalls, hchanges⟩ := generateAs_writes hro hr hl (intentOperation intent) r
        intent hg
      rw [show calls = _ from hcalls.symm] at hchanges
      refine hchanges.mono fun place hp => ?_
      cases hp with
      | inl ht => exact .test List.mem_cons_self ht nofun
      | inr hrec => exact .record hrec
  | batch r =>
      obtain ⟨calls, hcalls, hchanges⟩ := generateBatch_writes hro hr hl r hg
      rw [show calls = _ from hcalls.symm] at hchanges
      have hitems : (d.generateBatch r w).1 = (d.logged.generateBatch r w.logging).1 :=
        congrArg Prod.fst (d.generateBatch_logged w.logging r)
      refine hchanges.mono fun place hp => ?_
      cases hp with
      | inl ht =>
          obtain ⟨item, hi, ht⟩ := ht
          rw [← hitems] at hi
          exact .test (List.mem_map_of_mem hi) ht nofun
      | inr hrec => exact .record hrec
  | validate r =>
      obtain ⟨calls, hcalls, hchanges⟩ := validate_writes hro hr hl r hg
      rw [show calls = _ from hcalls.symm] at hchanges
      refine hchanges.mono fun place hp => ?_
      cases hp with
      | inl ht => exact .test List.mem_cons_self ht.1 fun _ _ => ht.2
      | inr hrec => exact .record hrec

/-- What a call leaves of the files that it finds, if there are no links and the toolchain only
reads. No file is removed; each that is new or differs is a test of the request or a record below
`.testsmith/validation`, and the latter are only written for attempts that failed, if attempts are
recorded. A validation rewrites its test only if a compilation before the last has failed with a
diagnostic that triggers an enabled rule. -/
theorem call_frame (d : Dispatcher σ) (hro : d.tools.ReadOnly) (hr : d.rules.Reachable)
    (name : String) (arguments : Json) (w : World σ) (hl : w.files.Linkless) :
    (∀ place, w.files.content? place ≠ none →
      (d.call name arguments w).2.files.content? place ≠ none) ∧
    ∀ place, (d.call name arguments w).2.files.content? place ≠ w.files.content? place →
      ∃ op request, Operation.ofName? name = some op ∧
        Request.decode op arguments = .ok request ∧
        d.Written w request (d.callCalls name arguments w) place := by
  have hfiles : (d.call name arguments w).2.files =
      (d.logged.call name arguments w.logging).2.files :=
    congrArg (fun run => run.2.files) (d.call_logged w.logging name arguments)
  rw [hfiles]
  unfold callCalls call
  split
  · exact ⟨fun place hc => hc, fun place hd => absurd rfl hd⟩
  · rename_i op hn
    split
    · exact ⟨fun place hc => hc, fun place hd => absurd rfl hd⟩
    · rename_i request hq
      have hchanges := perform_writes hro hr request hl
      exact ⟨fun place hc => hchanges.grows.content?_ne_none hc,
        fun place hd => ⟨op, request, hn, hq, hchanges.named place hd⟩⟩

/-! ## The service of a test that is generated -/

/-- Arguments for the test that compiles at the second try. -/
def secondTryArguments : Json :=
  .obj [("project_root", .str "/p"), ("service_path", .str "OrderTest.kt")]

/-- The service is left as it is. -/
theorem call_frame_secondTry :
    secondTry.tools.ReadOnly ∧ secondTry.rules.Reachable ∧ World.secondTry.files.Linkless ∧
      (secondTry.call "generate_unit_test" secondTryArguments .secondTry).2.files.content?
        ["p", "OrderTest.kt"] = World.secondTry.files.content? ["p", "OrderTest.kt"] := by
  have hro : secondTry.tools.ReadOnly :=
    ⟨fun _ _ _ _ => rfl, fun _ _ _ _ => rfl, fun _ _ _ _ => rfl⟩
  have hl : World.secondTry.files.Linkless := World.linkless_oneTest
  refine ⟨hro, .standard, hl, ?_⟩
  by_contra hd
  have hframe := call_frame secondTry hro .standard "generate_unit_test" secondTryArguments
    .secondTry hl
  obtain ⟨op, request, hn, hq, hwritten⟩ := hframe.2 _ hd
  cases hn
  cases hq
  have htarget : World.secondTry.files.destination
      (Path.join "/p" GenerateRequest.secondTry.target) = ["p", "OrderTestTest.kt"] := by
    decide
  have hrecords : World.secondTry.files.destination
      (Path.join (Path.join "/p" ".testsmith") "validation") =
        ["p", ".testsmith", "validation"] := by
    decide
  cases hwritten with
  | test ht hp _ =>
      rw [List.mem_singleton.1 ht] at hp
      have hsame : ["p", "OrderTest.kt"] = ["p", "OrderTestTest.kt"] := hp.trans htarget
      exact absurd hsame (by decide)
  | record h =>
      obtain ⟨name, names, hb⟩ := h.below
      have hbelow : ["p", "OrderTest.kt"] = ["p", ".testsmith", "validation"] ++ name :: names :=
        hb.trans (congrArg (· ++ name :: names) hrecords)
      simp at hbelow

end Dispatcher

end TestForge
