import TestForge.Proofs.FileSystem.Files
import TestForge.Proofs.Verification.Phases

/-!
# Repairs in turn

A phase is a stretch of failed attempts that were each repaired, and one last attempt that was not.
Each repair rewrites the text of the artifact for the failure it answers. Over a toolchain that only
reads, nothing else touches that text, if no record of a failed attempt is written in its place.
-/

namespace TestForge

def PhaseOutcome.retries : PhaseOutcome → Nat
  | .succeeded retries _ => retries
  | .exhausted retries _ => retries

/-! ## Rewriting -/

/-- The text after one repair for each of the failures, if each of them has one. -/
def RepairRules.rewrites? (rules : RepairRules) (phase : Phase) (failures : List ToolFailure)
    (text : String) : Option String :=
  failures.foldlM (fun text failure => rules.pass? phase failure.diagnosticText text) text

theorem RepairRules.rewrites?_cons {rules : RepairRules} {phase : Phase} {failure : ToolFailure}
    {text text' : String} (h : rules.pass? phase failure.diagnosticText text = some text')
    (failures : List ToolFailure) :
    rules.rewrites? phase (failure :: failures) text = rules.rewrites? phase failures text' := by
  simp [rewrites?, h]

/-- A repair that was made has rewritten the text, as the failure demands. -/
theorem RepairRules.repair_text {rules : RepairRules} {phase : Phase} {path text : String}
    {failure : ToolFailure} {old new : FileSystem}
    (h : rules.repair phase path failure old = .ok (some new)) (ht : old.readText path = .ok text) :
    ∃ text', rules.pass? phase failure.diagnosticText text = some text' ∧
      new.readText path = .ok text' := by
  obtain ⟨artifact, text', hread, hpass, hw⟩ := repair_some_iff.1 h
  obtain rfl := Except.ok.inj (ht.symm.trans hread)
  exact ⟨text', hpass, FileSystem.readText_writeText hw⟩

/-! ## Records elsewhere -/

/-- However the tree grows, no record goes where the path leads. -/
def AttemptRecorder.ApartFrom (r : AttemptRecorder) (fs : FileSystem) (path : String) : Prop :=
  ∀ later, fs.Grows later → ∀ phase attempt, later.Apart path (r.diagnosticsPath phase attempt)

theorem readBytes_record {r : AttemptRecorder} {base fs : FileSystem} {path : String}
    {content : ByteArray} (ha : r.ApartFrom base path) (hg : base.Grows fs) (phase : Phase)
    (attempt : Nat) (failure : ToolFailure) (hr : fs.readBytes path = .ok content) :
    (r.record phase attempt failure fs).readBytes path = .ok content := by
  have hsame := fs.sameFiles_createDirectories (r.attemptDirectory phase attempt)
  have hgrow := fs.grows_createDirectories (r.attemptDirectory phase attempt)
  refine Verification.record_keeps (P := fun new => new.readBytes path = .ok content) (hsame.readBytes hgrow hr)
    fun hm hread hw => ?_
  subst hm
  exact FileSystem.readBytes_writeBytes_apart hw (ha _ (hg.trans hgrow) phase attempt) hread

namespace Verification

variable {σ : Type} {v : Verification σ} {phase : Phase} {recorder : Option AttemptRecorder}

theorem readText_keepRecord {base : FileSystem} {w : World σ} {path text : String}
    (ha : ∀ r, recorder = some r → r.ApartFrom base path) (hg : base.Grows w.files) (phase : Phase)
    (attempt : Nat) (failure : ToolFailure) (hr : w.files.readText path = .ok text) :
    (keepRecord recorder phase attempt failure w).files.readText path = .ok text := by
  cases recorder with
  | none => simpa only [keepRecord] using hr
  | some r =>
      obtain ⟨content, hb, hc⟩ := FileSystem.readText_ok_iff.1 hr
      simp only [keepRecord]
      exact FileSystem.readText_ok_iff.2
        ⟨content, readBytes_record (ha r rfl) hg phase attempt failure hb, hc⟩

/-! ## Attempts of a phase -/

/-- Attempts that failed, one for each of the failures, each of them answered by a repair. -/
inductive Repaired (v : Verification σ) (phase : Phase) (recorder : Option AttemptRecorder) :
    RetryState → World σ → List ToolFailure → RetryState → World σ → Prop
  | none {state w} : Repaired v phase recorder state w [] state w
  | repair {state w failure w' files failures last w''}
      (ha : v.attempt phase w = (.error failure, w')) (hl : state.isLast = false)
      (hr : v.rules.repair phase v.artifact failure
        (keepRecord recorder phase state.attempt failure w').files = .ok (some files))
      (next : Repaired v phase recorder state.next
        { keepRecord recorder phase state.attempt failure w' with files := files }
        failures last w'') :
      Repaired v phase recorder state w (failure :: failures) last w''

/-- The attempt that ends a phase: it succeeds, or its failure is not repaired. -/
inductive LastAttempt (v : Verification σ) (phase : Phase) (recorder : Option AttemptRecorder)
    (state : RetryState) (w : World σ) : PhaseOutcome → World σ → Prop
  | succeeds {counts w'} (ha : v.attempt phase w = (.ok counts, w')) :
      LastAttempt v phase recorder state w (.succeeded state.attempt counts) w'
  | fails {failure w'} (ha : v.attempt phase w = (.error failure, w'))
      (hr : state.isLast = true ∨ ∀ files, v.rules.repair phase v.artifact failure
        (keepRecord recorder phase state.attempt failure w').files ≠ .ok (some files)) :
      LastAttempt v phase recorder state w (.exhausted state.attempt failure)
        (keepRecord recorder phase state.attempt failure w')

/-- A phase with repairs for some failures in turn, and for no more than these. -/
def PhaseRepairs (v : Verification σ) (phase : Phase) (recorder : Option AttemptRecorder)
    (state : RetryState) (w : World σ) (failures : List ToolFailure) (outcome : PhaseOutcome)
    (w' : World σ) : Prop :=
  ∃ last wl, Repaired v phase recorder state w failures last wl ∧
    LastAttempt v phase recorder last wl outcome w'

theorem PhaseRun.repairs {state : RetryState} {w w' : World σ} {outcome : PhaseOutcome}
    (h : PhaseRun v phase recorder state w outcome w') :
    ∃ failures, PhaseRepairs v phase recorder state w failures outcome w' := by
  induction h with
  | succeeds ha => exact ⟨[], _, _, .none, .succeeds ha⟩
  | usedUp ha hl => exact ⟨[], _, _, .none, .fails ha (Or.inl hl)⟩
  | unrepaired ha _ hr => exact ⟨[], _, _, .none, .fails ha (Or.inr hr)⟩
  | repaired ha hl hr _ ih =>
      obtain ⟨failures, last, wl, hrep, hlast⟩ := ih
      exact ⟨_ :: failures, last, wl, .repair ha hl hr hrep, hlast⟩

theorem LastAttempt.run {state : RetryState} {w w' : World σ} {outcome : PhaseOutcome}
    (h : LastAttempt v phase recorder state w outcome w') :
    PhaseRun v phase recorder state w outcome w' := by
  cases h with
  | succeeds ha => exact .succeeds ha
  | fails ha hr =>
      cases hl : state.isLast with
      | true => exact .usedUp ha hl
      | false => exact .unrepaired ha hl (hr.resolve_left (by simp [hl]))

/-- The repairs of a phase and its last attempt are all there is to it. -/
theorem PhaseRepairs.run {state : RetryState} {w w' : World σ} {failures : List ToolFailure}
    {outcome : PhaseOutcome} (h : PhaseRepairs v phase recorder state w failures outcome w') :
    PhaseRun v phase recorder state w outcome w' := by
  obtain ⟨last, wl, hrep, hlast⟩ := h
  induction hrep with
  | none => exact hlast.run
  | repair ha hl hr _ ih => exact .repaired ha hl hr (ih hlast)

/-- Every repair is one more attempt. -/
theorem Repaired.attempt {state last : RetryState} {w wl : World σ} {failures : List ToolFailure}
    (h : Repaired v phase recorder state w failures last wl) :
    last.attempt = state.attempt + failures.length := by
  induction h with
  | none => rfl
  | repair _ _ _ _ ih =>
      simp only [ih, RetryState.next, List.length_cons]
      omega

theorem LastAttempt.retries {state : RetryState} {w w' : World σ} {outcome : PhaseOutcome}
    (h : LastAttempt v phase recorder state w outcome w') : outcome.retries = state.attempt := by
  cases h <;> rfl

/-! ## The text through a phase -/

/-- What a phase keeps track of: the tree has grown, and the artifact has a text. -/
structure Holds (v : Verification σ) (base : FileSystem) (w : World σ) (text : String) : Prop where
  grows : base.Grows w.files
  text : w.files.readText v.artifact = .ok text

variable {base : FileSystem} {text : String}

theorem Holds.attempt (hro : v.tools.ReadOnly) {w w' : World σ}
    {answer : Except ToolFailure (Option TestCounts)} (h : Holds v base w text)
    (ha : v.attempt phase w = (answer, w')) : Holds v base w' text := by
  have hf := attempt_files hro ha
  exact ⟨hf ▸ h.grows, hf ▸ h.text⟩

theorem Holds.keepRecord {w : World σ} (h : Holds v base w text)
    (ha : ∀ r, recorder = some r → r.ApartFrom base v.artifact) (phase : Phase) (attempt : Nat)
    (failure : ToolFailure) :
    Holds v base (Verification.keepRecord recorder phase attempt failure w) text :=
  ⟨h.grows.trans (grows_keepRecord recorder phase attempt failure w),
    readText_keepRecord ha h.grows phase attempt failure h.text⟩

theorem Repaired.holds (hro : v.tools.ReadOnly)
    (hapart : ∀ r, recorder = some r → r.ApartFrom base v.artifact) {state last : RetryState}
    {w wl : World σ} {failures : List ToolFailure}
    (h : Repaired v phase recorder state w failures last wl) (hw : Holds v base w text) :
    ∃ final, v.rules.rewrites? phase failures text = some final ∧ Holds v base wl final := by
  induction h generalizing text with
  | none => exact ⟨text, rfl, hw⟩
  | @repair state w failure w' files failures last w'' ha _ hr _ ih =>
      have hk := (hw.attempt hro ha).keepRecord hapart phase state.attempt failure
      obtain ⟨text', hp, ht⟩ := RepairRules.repair_text hr hk.text
      obtain ⟨final, hf, hl⟩ := ih ⟨hk.grows.trans (grows_repair hr), ht⟩
      exact ⟨final, (RepairRules.rewrites?_cons hp failures).trans hf, hl⟩

theorem LastAttempt.holds (hro : v.tools.ReadOnly)
    (hapart : ∀ r, recorder = some r → r.ApartFrom base v.artifact) {state : RetryState}
    {w w' : World σ} {outcome : PhaseOutcome}
    (h : LastAttempt v phase recorder state w outcome w') (hw : Holds v base w text) :
    Holds v base w' text := by
  cases h with
  | succeeds ha => exact hw.attempt hro ha
  | fails ha _ => exact (hw.attempt hro ha).keepRecord hapart phase state.attempt _

/-! ## The text through a verification -/

/-- The compile phase of a verification: the failures that were repaired, what it came to, and the
world and the text of the artifact at its end. -/
structure RepairTrace (σ : Type) where
  failures : List ToolFailure
  outcome : PhaseOutcome
  world : World σ
  text : String

/-- What becomes of the text that a verification finds: it is rewritten once for each failure that
is repaired, the retries that are reported are these, and the test phase leaves it as it is. -/
structure Rewrites (v : Verification σ) (maxRetries : UInt32) (recordAttempts : Bool) (w : World σ)
    (text : String) (log : StepLog) (left : World σ) (t : RepairTrace σ) : Prop where
  repairs : PhaseRepairs v .compile (v.openRecorder recordAttempts w).1 (.start maxRetries)
    (v.openRecorder recordAttempts w).2 t.failures t.outcome t.world
  rewritten : v.rules.rewrites? .compile t.failures text = some t.text
  retries : t.outcome.retries = t.failures.length
  told : log.steps.head? = some (finishedStep .compile maxRetries 1 t.outcome)
  compiled : t.world.files.readText v.artifact = .ok t.text
  tested : left.files = t.world.files ∨ ∃ failure, left.files =
    (keepRecord (v.openRecorder recordAttempts w).1 .test 0 failure t.world).files
  left : left.files.readText v.artifact = .ok t.text

theorem keepRecord_files {phase : Phase} {attempt : Nat} {failure : ToolFailure} {w w' : World σ}
    (h : w'.files = w.files) :
    (keepRecord recorder phase attempt failure w').files =
      (keepRecord recorder phase attempt failure w).files := by
  cases recorder with
  | none => simpa only [keepRecord] using h
  | some r => simp only [keepRecord, h]

theorem PhaseRun.compile_text (hro : v.tools.ReadOnly)
    (hapart : ∀ r, recorder = some r → r.ApartFrom base v.artifact) {maxRetries : UInt32}
    {w w' : World σ} {outcome : PhaseOutcome}
    (h : PhaseRun v .compile recorder (.start maxRetries) w outcome w') (hw : Holds v base w text) :
    ∃ failures final,
      PhaseRepairs v .compile recorder (.start maxRetries) w failures outcome w' ∧
      v.rules.rewrites? .compile failures text = some final ∧
      outcome.retries = failures.length ∧ Holds v base w' final := by
  obtain ⟨failures, last, wl, hrep, hlast⟩ := h.repairs
  obtain ⟨final, hf, hl⟩ := hrep.holds hro hapart hw
  refine ⟨failures, final, ⟨last, wl, hrep, hlast⟩, hf, ?_, hlast.holds hro hapart hl⟩
  rw [hlast.retries, hrep.attempt]
  exact Nat.zero_add _

/-- The test phase leaves all files alone but for the record of a failure. -/
theorem PhaseRun.test_files (hro : v.tools.ReadOnly) (hr : v.rules.Reachable) {maxRetries : UInt32}
    {w w' : World σ} {outcome : PhaseOutcome}
    (h : PhaseRun v .test recorder (.start maxRetries) w outcome w') :
    w'.files = w.files ∨
      ∃ failure, w'.files = (Verification.keepRecord recorder .test 0 failure w).files := by
  rcases h.test_once hr with ⟨counts, ha, -⟩ | ⟨failure, w₁, ha, -, rfl⟩
  · exact Or.inl (attempt_files hro ha)
  · exact Or.inr ⟨failure, keepRecord_files (attempt_files hro ha)⟩

/-- A recorder that is opened keeps its records apart, if all recorders for the test would. -/
theorem openRecorder_apart {recordAttempts : Bool} (w : World σ)
    (h : recordAttempts = true → ∀ seconds,
      (AttemptRecorder.start v.root v.target seconds).ApartFrom base v.artifact) :
    ∀ r, (v.openRecorder recordAttempts w).1 = some r → r.ApartFrom base v.artifact := by
  intro r hr
  cases hrec : recordAttempts with
  | false => simp [openRecorder, hrec] at hr
  | true =>
      simp only [openRecorder, hrec, ↓reduceIte, Option.some.injEq] at hr
      rw [← hr]
      exact h hrec _

/-- A verification rewrites the text that it finds, and does so only in its compile phase. -/
theorem verify_rewrites (hro : v.tools.ReadOnly) (hr : v.rules.Reachable) {recordAttempts : Bool}
    (hapart : recordAttempts = true → ∀ seconds,
      (AttemptRecorder.start v.root v.target seconds).ApartFrom base v.artifact)
    (maxRetries : UInt32) {w : World σ} (hw : Holds v base w text) :
    ∃ t, Rewrites v maxRetries recordAttempts w text (v.verify maxRetries recordAttempts w).1
      (v.verify maxRetries recordAttempts w).2 t := by
  have hopened := openRecorder_apart w hapart
  have hw' : Holds v base (v.openRecorder recordAttempts w).2 text := by
    have hf := (v.openRecorder_world recordAttempts w).1
    exact ⟨hf ▸ hw.grows, hf ▸ hw.text⟩
  have hrun := verificationRun_verify v maxRetries recordAttempts w
  rcases hy : v.verify maxRetries recordAttempts w with ⟨log, left⟩
  rw [hy] at hrun
  cases hrun with
  | notCompiled hc =>
      obtain ⟨failures, final, hrep, hf, hretries, hl⟩ := hc.compile_text hro hopened hw'
      exact ⟨⟨failures, _, _, final⟩,
        { repairs := hrep
          rewritten := hf
          retries := hretries
          told := rfl
          compiled := hl.text
          tested := Or.inl rfl
          left := hl.text }⟩
  | tested hc ht =>
      obtain ⟨failures, final, hrep, hf, hretries, hl⟩ := hc.compile_text hro hopened hw'
      have htested := ht.test_files hro hr
      have hleft : left.files.readText v.artifact = .ok final := by
        rcases htested with he | ⟨failure, he⟩
        · rw [he]
          exact hl.text
        · rw [he]
          exact (hl.keepRecord hopened .test 0 failure).text
      exact ⟨⟨failures, _, _, final⟩,
        { repairs := hrep
          rewritten := hf
          retries := hretries
          told := rfl
          compiled := hl.text
          tested := htested
          left := hleft }⟩

end Verification

end TestForge
