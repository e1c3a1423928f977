import TestForge.Operation.Call
import TestForge.Proofs.Verification.Phases

/-!
# Logging changes nothing

An operation uses the state of its toolchain only by handing it on. So a map between two toolchains
that respects their calls carries every operation of the one to the same operation of the other,
and a log that is kept beside the state leaves reports, files and clock as they are.
-/

namespace TestForge

variable {σ τ : Type}

def World.map (f : σ → τ) (w : World σ) : World τ :=
  ⟨w.files, w.clock, f w.tools⟩

@[simp] theorem World.map_files (f : σ → τ) (w : World σ) : (w.map f).files = w.files := rfl

@[simp] theorem World.map_tools (f : σ → τ) (w : World σ) : (w.map f).tools = f w.tools := rfl

/-- Each call of one toolchain is that of the other, up to the map of their states. -/
structure Toolchain.Maps (f : σ → τ) (a : Toolchain σ) (b : Toolchain τ) : Prop where
  compile : ∀ root target fs s, b.compile root target fs (f s) =
    ((a.compile root target fs s).1, (a.compile root target fs s).2.1,
      f (a.compile root target fs s).2.2)
  run : ∀ root target fs s, b.run root target fs (f s) =
    ((a.run root target fs s).1, (a.run root target fs s).2.1, f (a.run root target fs s).2.2)
  coverage : ∀ root target fs s, b.coverage root target fs (f s) =
    ((a.coverage root target fs s).1, (a.coverage root target fs s).2.1,
      f (a.coverage root target fs s).2.2)

theorem Toolchain.logged_maps (tools : Toolchain σ) : tools.logged.Maps Prod.snd tools :=
  ⟨fun _ _ _ _ => rfl, fun _ _ _ _ => rfl, fun _ _ _ _ => rfl⟩

theorem Toolchain.ReadOnly.logged {tools : Toolchain σ} (h : tools.ReadOnly) :
    tools.logged.ReadOnly :=
  ⟨fun root target fs s => h.compile root target fs s.2,
    fun root target fs s => h.run root target fs s.2,
    fun root target fs s => h.coverage root target fs s.2⟩

/-! ## Verifications -/

namespace Verification

def withTools (v : Verification σ) (tools : Toolchain τ) : Verification τ :=
  ⟨tools, v.rules, v.root, v.target⟩

variable {f : σ → τ} {v : Verification σ} {b : Toolchain τ}

theorem attempt_map (h : v.tools.Maps f b) (phase : Phase) (w : World σ) :
    (v.withTools b).attempt phase (w.map f) =
      ((v.attempt phase w).1, (v.attempt phase w).2.map f) := by
  cases phase with
  | compile => simp [attempt, withTools, World.map, h.compile]
  | test => simp [attempt, withTools, World.map, h.run]

theorem keepRecord_map (f : σ → τ) (recorder : Option AttemptRecorder) (phase : Phase)
    (attempt : Nat) (failure : ToolFailure) (w : World σ) :
    keepRecord recorder phase attempt failure (w.map f) =
      (keepRecord recorder phase attempt failure w).map f := by
  cases recorder <;> simp only [keepRecord, World.map]

theorem PhaseRun.map (h : v.tools.Maps f b) {phase : Phase} {recorder : Option AttemptRecorder}
    {state : RetryState} {w w' : World σ} {outcome : PhaseOutcome}
    (hp : PhaseRun v phase recorder state w outcome w') :
    PhaseRun (v.withTools b) phase recorder state (w.map f) outcome (w'.map f) := by
  induction hp with
  | succeeds ha =>
      exact .succeeds (by rw [attempt_map h, ha])
  | usedUp ha hl =>
      rw [← keepRecord_map]
      exact .usedUp (by rw [attempt_map h, ha]) hl
  | unrepaired ha hl hr =>
      rw [← keepRecord_map]
      refine .unrepaired (by rw [attempt_map h, ha]) hl ?_
      rw [keepRecord_map]
      exact hr
  | @repaired state w failure w' files outcome w'' ha hl hr _ ih =>
      have ha' : (v.withTools b).attempt phase (w.map f) = (.error failure, w'.map f) := by
        rw [attempt_map h, ha]
      have hr' : (v.withTools b).rules.repair phase (v.withTools b).artifact failure
          (keepRecord recorder phase state.attempt failure (w'.map f)).files = .ok (some files) := by
        rw [keepRecord_map]
        exact hr
      refine .repaired ha' hl hr' ?_
      rw [keepRecord_map]
      exact ih

theorem runPhase_map (h : v.tools.Maps f b) (phase : Phase) (recorder : Option AttemptRecorder)
    (state : RetryState) (w : World σ) :
    (v.withTools b).runPhase phase recorder state (w.map f) =
      ((v.runPhase phase recorder state w).1, (v.runPhase phase recorder state w).2.map f) :=
  ((phaseRun_runPhase v phase recorder state w).map h).eq

theorem runPhases_map (h : v.tools.Maps f b) (maxRetries : UInt32)
    (recorder : Option AttemptRecorder) (phases : List Phase) (log : StepLog) (w : World σ) :
    (v.withTools b).runPhases maxRetries recorder phases log (w.map f) =
      ((v.runPhases maxRetries recorder phases log w).1,
        (v.runPhases maxRetries recorder phases log w).2.map f) := by
  induction phases generalizing log w with
  | nil => rfl
  | cons phase rest ih =>
      simp only [runPhases, runPhase_map h]
      rcases v.runPhase phase recorder (.start maxRetries) w with ⟨outcome, w'⟩
      cases outcome with
      | succeeded retries counts => exact ih _ _
      | exhausted retries failure => rfl

theorem openRecorder_map (f : σ → τ) (v : Verification σ) (b : Toolchain τ) (recordAttempts : Bool)
    (w : World σ) :
    (v.withTools b).openRecorder recordAttempts (w.map f) =
      ((v.openRecorder recordAttempts w).1, (v.openRecorder recordAttempts w).2.map f) := by
  cases recordAttempts <;> rfl

theorem verify_map (h : v.tools.Maps f b) (maxRetries : UInt32) (recordAttempts : Bool)
    (w : World σ) :
    (v.withTools b).verify maxRetries recordAttempts (w.map f) =
      ((v.verify maxRetries recordAttempts w).1,
        (v.verify maxRetries recordAttempts w).2.map f) := by
  simp only [verify_eq, openRecorder_map, runPhases_map h]

end Verification

/-! ## Operations -/

namespace Dispatcher

def withTools (d : Dispatcher σ) (tools : Toolchain τ) : Dispatcher τ :=
  { tools := tools
    hasEntrypoint := d.hasEntrypoint
    rules := d.rules
    defaultPackage := d.defaultPackage
    recordAttempts := d.recordAttempts }

variable {f : σ → τ} {d : Dispatcher σ} {b : Toolchain τ}

@[simp] theorem withTools_tools : (d.withTools b).tools = b := rfl

@[simp] theorem withTools_recordAttempts : (d.withTools b).recordAttempts = d.recordAttempts := rfl

@[simp] theorem withTools_defaultPackage : (d.withTools b).defaultPackage = d.defaultPackage := rfl

theorem withTools_style (root : String) (fs : FileSystem) :
    (d.withTools b).style root fs = d.style root fs := by
  simp only [style, withTools]

theorem withTools_verification (root target : String) :
    (d.withTools b).verification root target = (d.verification root target).withTools b := by
  simp only [verification, withTools, Verification.withTools]

theorem verify_map (h : d.tools.Maps f b) (root target : String) (maxRetries : UInt32)
    (recordAttempts : Bool) (w : World σ) :
    ((d.withTools b).verification root target).verify maxRetries recordAttempts (w.map f) =
      (((d.verification root target).verify maxRetries recordAttempts w).1,
        ((d.verification root target).verify maxRetries recordAttempts w).2.map f) := by
  rw [withTools_verification]
  exact Verification.verify_map h maxRetries recordAttempts w

theorem verifyWritten_map (h : d.tools.Maps f b) (r : GenerateRequest) (log : StepLog)
    (w : World σ) :
    (d.withTools b).verifyWritten r log (w.map f) =
      ((d.verifyWritten r log w).1, (d.verifyWritten r log w).2.1,
        (d.verifyWritten r log w).2.2.map f) := by
  unfold verifyWritten
  split
  · simp only [withTools_recordAttempts, verify_map h]
  · rfl

theorem writeTest_map (h : d.tools.Maps f b) (r : GenerateRequest) (intent : TestIntent)
    (x : Extraction) (log : StepLog) (w : World σ) :
    (d.withTools b).writeTest r intent x log (w.map f) =
      ((d.writeTest r intent x log w).1, (d.writeTest r intent x log w).2.1,
        (d.writeTest r intent x log w).2.2.map f) := by
  unfold writeTest
  simp only [withTools_style, World.map_files]
  split
  · rfl
  · rename_i files _
    exact verifyWritten_map h r _ { w with files := files }

theorem runGeneration_map (h : d.tools.Maps f b) (op : Operation) (r : GenerateRequest)
    (intent : TestIntent) (w : World σ) :
    (d.withTools b).runGeneration op r intent (w.map f) =
      ((d.runGeneration op r intent w).1, (d.runGeneration op r intent w).2.1,
        (d.runGeneration op r intent w).2.2.map f) := by
  simp only [runGeneration, World.map_files, withTools_defaultPackage]
  split
  · rfl
  · split
    · rfl
    · exact writeTest_map h r intent _ _ w

theorem generateAs_map (h : d.tools.Maps f b) (op : Operation) (r : GenerateRequest)
    (intent : TestIntent) (w : World σ) :
    (d.withTools b).generateAs op r intent (w.map f) =
      ((d.generateAs op r intent w).1, (d.generateAs op r intent w).2.map f) := by
  simp only [generateAs, runGeneration_map h]

theorem runItems_map (h : d.tools.Maps f b) (r : BatchRequest) (paths : List String)
    (tally : BatchTally) (w : World σ) :
    (d.withTools b).runItems r paths tally (w.map f) =
      ((d.runItems r paths tally w).1, (d.runItems r paths tally w).2.1,
        (d.runItems r paths tally w).2.2.map f) := by
  induction paths generalizing tally w with
  | nil => rfl
  | cons path rest ih =>
      simp only [runItems, generateAs_map h, ih]
      split <;> rfl

theorem generateBatch_map (h : d.tools.Maps f b) (r : BatchRequest) (w : World σ) :
    (d.withTools b).generateBatch r (w.map f) =
      ((d.generateBatch r w).1, (d.generateBatch r w).2.map f) := by
  simp only [generateBatch, runItems_map h]
  split <;> rfl

theorem runCoverage_map (h : d.tools.Maps f b) (root target : String) (w : World σ) :
    (d.withTools b).runCoverage root target (w.map f) =
      ((d.runCoverage root target w).1, (d.runCoverage root target w).2.map f) := by
  simp only [runCoverage, withTools_tools, World.map_files, World.map_tools, h.coverage]
  rcases d.tools.coverage root target w.files w.tools with ⟨result, files, tools⟩
  cases result <;> rfl

theorem verifyExisting_map (h : d.tools.Maps f b) (r : ValidateRequest) (w : World σ) :
    (d.withTools b).verifyExisting r (w.map f) =
      ((d.verifyExisting r w).1, (d.verifyExisting r w).2.map f) := by
  simp only [verifyExisting, withTools_recordAttempts, verify_map h, runCoverage_map h]
  split <;> rfl

theorem validate_map (h : d.tools.Maps f b) (r : ValidateRequest) (w : World σ) :
    (d.withTools b).validate r (w.map f) = ((d.validate r w).1, (d.validate r w).2.map f) := by
  simp only [validate, World.map_files, verifyExisting_map h]
  split
  · rfl
  · split <;> rfl

theorem perform_map (h : d.tools.Maps f b) (request : Request) (w : World σ) :
    (d.withTools b).perform request (w.map f) =
      ((d.perform request w).1, (d.perform request w).2.map f) := by
  cases request with
  | analyze r => rfl
  | generate r intent => simp only [perform, generate, generateAs_map h]
  | batch r => simp only [perform, generateBatch_map h]
  | validate r => simp only [perform, validate_map h]

theorem call_map (h : d.tools.Maps f b) (name : String) (arguments : Json) (w : World σ) :
    (d.withTools b).call name arguments (w.map f) =
      ((d.call name arguments w).1, (d.call name arguments w).2.map f) := by
  unfold call
  split
  · rfl
  · split
    · rfl
    · simp only [perform_map h]

/-! ## The log -/

/-- The dispatcher over the toolchain that logs its calls. -/
def logged (d : Dispatcher σ) : Dispatcher (List Toolchain.Event × σ) :=
  d.withTools d.tools.logged

end Dispatcher

/-- The world at the start of a log. -/
def World.logging (w : World σ) : World (List Toolchain.Event × σ) :=
  w.map fun s => ([], s)

/-- The calls logged so far, oldest first. -/
def World.calls (w : World (List Toolchain.Event × σ)) : List Toolchain.Event :=
  w.tools.1

namespace Dispatcher

/-- The calls that a generation makes of the toolchain. -/
def generateCalls (d : Dispatcher σ) (r : GenerateRequest) (intent : TestIntent) (w : World σ) :
    List Toolchain.Event :=
  (d.logged.generate r intent w.logging).2.calls

/-- The calls that a batch makes. -/
def batchCalls (d : Dispatcher σ) (r : BatchRequest) (w : World σ) : List Toolchain.Event :=
  (d.logged.generateBatch r w.logging).2.calls

/-- The calls that a validation makes. -/
def validateCalls (d : Dispatcher σ) (r : ValidateRequest) (w : World σ) : List Toolchain.Event :=
  (d.logged.validate r w.logging).2.calls

/-- The calls of the toolchain that an operation called by name makes. -/
def callCalls (d : Dispatcher σ) (name : String) (arguments : Json) (w : World σ) :
    List Toolchain.Event :=
  (d.logged.call name arguments w.logging).2.calls

variable (d : Dispatcher σ) (w : World (List Toolchain.Event × σ))

/-- Without its log, a logged generation is the generation. -/
theorem generateAs_logged (op : Operation) (r : GenerateRequest) (intent : TestIntent) :
    d.generateAs op r intent (w.map Prod.snd) =
      ((d.logged.generateAs op r intent w).1, (d.logged.generateAs op r intent w).2.map Prod.snd) :=
  generateAs_map (d := d.logged) d.tools.logged_maps op r intent w

theorem generateBatch_logged (r : BatchRequest) :
    d.generateBatch r (w.map Prod.snd) =
      ((d.logged.generateBatch r w).1, (d.logged.generateBatch r w).2.map Prod.snd) :=
  generateBatch_map (d := d.logged) d.tools.logged_maps r w

theorem validate_logged (r : ValidateRequest) :
    d.validate r (w.map Prod.snd) =
      ((d.logged.validate r w).1, (d.logged.validate r w).2.map Prod.snd) :=
  validate_map (d := d.logged) d.tools.logged_maps r w

theorem call_logged (name : String) (arguments : Json) :
    d.call name arguments (w.map Prod.snd) =
      ((d.logged.call name arguments w).1, (d.logged.call name arguments w).2.map Prod.snd) :=
  call_map (d := d.logged) d.tools.logged_maps name arguments w

end Dispatcher

end TestForge
