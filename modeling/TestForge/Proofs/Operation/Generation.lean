import TestForge.Operation.Generation
import TestForge.Proofs.Verification.Phases

/-!
# How a generation goes

A generation is stopped by its arguments, by the service source or by the file of the test; else the
test stands where it belongs, two steps are completed, and what may follow is its verification.
-/

namespace TestForge

/-! ## Reading the service -/

theorem extract_ok {fs : FileSystem} {root servicePath source : String}
    (h : fs.readText (Path.join root servicePath) = .ok source) (defaultPackage : String)
    (symbols : Option SymbolTree) :
    extract fs defaultPackage root servicePath symbols =
      .ok (Extraction.ofText defaultPackage servicePath symbols source) := by
  unfold extract
  generalize Path.join root servicePath = path at *
  simp only
  rw [h]

theorem extract_error {fs : FileSystem} {root servicePath : String} {e : FileError}
    (h : fs.readText (Path.join root servicePath) = .error e) (defaultPackage : String)
    (symbols : Option SymbolTree) :
    extract fs defaultPackage root servicePath symbols =
      .error ⟨Path.join root servicePath, e⟩ := by
  unfold extract
  generalize Path.join root servicePath = path at *
  simp only
  rw [h]

theorem projectRoot_ne_empty {r : GenerateRequest} (hc : r.check = .ok ()) :
    r.projectRoot ≠ "" := by
  intro he
  simp [GenerateRequest.check, requirePath, he, bind, Except.bind] at hc

/-- What was extracted was read. -/
theorem readText_of_extract {fs : FileSystem} {defaultPackage root servicePath : String}
    {symbols : Option SymbolTree} {x : Extraction}
    (h : extract fs defaultPackage root servicePath symbols = .ok x) :
    ∃ source, fs.readText (Path.join root servicePath) = .ok source ∧
      ∀ later : FileSystem, later.readText (Path.join root servicePath) = .ok source →
        extract later defaultPackage root servicePath symbols = .ok x := by
  cases hr : fs.readText (Path.join root servicePath) with
  | error e =>
      rw [extract_error hr] at h
      cases h
  | ok source =>
      rw [extract_ok hr] at h
      exact ⟨source, rfl, fun later hlater => by rw [extract_ok hlater, ← h]⟩

/-! ## Writing -/

/-- Room is made by creating the directories above a path, if there are any. -/
theorem makeRoom_keeps {P : FileSystem → Prop} {path : String} {fs : FileSystem} (h : P fs)
    (hup : ∀ up, Path.parent? path = some up → P (fs.createDirectories up).2) :
    P (makeRoom path fs).2 := by
  unfold makeRoom
  split
  · exact h
  · rename_i up hparent
    have hmade := hup up hparent
    split
    · rename_i made hm
      rwa [hm] at hmade
    · rename_i made hm
      rwa [hm] at hmade

theorem grows_makeRoom (path : String) (fs : FileSystem) : fs.Grows (makeRoom path fs).2 :=
  makeRoom_keeps (.refl fs) fun up _ => fs.grows_createDirectories up

theorem target_of_path {r : GenerateRequest} {path : String} (h : r.testPath = some path)
    (hp : path ≠ "") : r.target = path := by
  have hempty : path.isEmpty = false := by simpa using hp
  simp only [GenerateRequest.target, h, hempty, Bool.false_eq_true, ↓reduceIte]

section

variable {root target artifact : String} {fs made written : FileSystem}

/-- What writing an artifact comes to: there is no room for it, it cannot be written, or it is. -/
inductive ArtifactCase (root target artifact : String) (fs : FileSystem) :
    Except OperationFailure Unit → FileSystem → Prop
  | cramped {failure : OperationFailure} {made : FileSystem}
      (hm : makeRoom (Path.join root target) fs = (.error failure, made)) :
      ArtifactCase root target artifact fs (.error failure) made
  | refused {e : FileError} {made : FileSystem}
      (hm : makeRoom (Path.join root target) fs = (.ok (), made))
      (hw : made.writeText (Path.join root target) artifact = .error e) :
      ArtifactCase root target artifact fs (.error (.unwritableTest (Path.join root target) e)) made
  | written {made new : FileSystem} (hm : makeRoom (Path.join root target) fs = (.ok (), made))
      (hw : made.writeText (Path.join root target) artifact = .ok new) :
      ArtifactCase root target artifact fs (.ok ()) new

theorem artifactCase {result : Except OperationFailure Unit} {new : FileSystem}
    (h : writeArtifact root target artifact fs = (result, new)) :
    ArtifactCase root target artifact fs result new := by
  unfold writeArtifact at h
  simp only at h
  split at h
  · rename_i hm
    cases h
    exact .cramped hm
  · rename_i hm
    split at h
    · rename_i hw
      cases h
      exact .refused hm hw
    · rename_i hw
      cases h
      exact .written hm hw

theorem writeArtifact_of_cramped {failure : OperationFailure}
    (hm : makeRoom (Path.join root target) fs = (.error failure, made)) :
    writeArtifact root target artifact fs = (.error failure, made) := by
  unfold writeArtifact
  simp only [hm]

theorem writeArtifact_of_refused {e : FileError}
    (hm : makeRoom (Path.join root target) fs = (.ok (), made))
    (hw : made.writeText (Path.join root target) artifact = .error e) :
    writeArtifact root target artifact fs =
      (.error (.unwritableTest (Path.join root target) e), made) := by
  unfold writeArtifact
  simp only [hm, hw]

theorem writeArtifact_of_written (hm : makeRoom (Path.join root target) fs = (.ok (), made))
    (hw : made.writeText (Path.join root target) artifact = .ok written) :
    writeArtifact root target artifact fs = (.ok (), written) := by
  unfold writeArtifact
  simp only [hm, hw]

theorem makeRoom_of_created {path up : String} (hp : Path.parent? path = some up)
    (hm : fs.createDirectories up = (.ok (), made)) : makeRoom path fs = (.ok (), made) := by
  unfold makeRoom
  rw [hp]
  simp only [hm]

theorem makeRoom_of_uncreatable {path up : String} {e : FileError}
    (hp : Path.parent? path = some up) (hm : fs.createDirectories up = (.error e, made)) :
    makeRoom path fs = (.error (.uncreatable up e), made) := by
  unfold makeRoom
  rw [hp]
  simp only [hm]

theorem writeArtifact_of_writes {up : String} (hp : Path.parent? (Path.join root target) = some up)
    (hm : fs.createDirectories up = (.ok (), made))
    (hw : made.writeText (Path.join root target) artifact = .ok written) :
    writeArtifact root target artifact fs = (.ok (), written) :=
  writeArtifact_of_written (makeRoom_of_created hp hm) hw

/-- What making room keeps and writing after it keeps, writing an artifact keeps. -/
theorem writeArtifact_keeps {P : FileSystem → Prop}
    (hroom : P (makeRoom (Path.join root target) fs).2)
    (hwrite : ∀ {made new : FileSystem}, fs.Grows made → P made →
      made.writeText (Path.join root target) artifact = .ok new → P new) :
    P (writeArtifact root target artifact fs).2 := by
  have hgrows := grows_makeRoom (Path.join root target) fs
  rcases h : writeArtifact root target artifact fs with ⟨result, files⟩
  cases artifactCase h with
  | cramped hm => rwa [hm] at hroom
  | refused hm hw => rwa [hm] at hroom
  | written hm hw =>
      rw [hm] at hroom hgrows
      exact hwrite hgrows hroom hw

/-- A written artifact is what its path holds, and nothing was taken away for it. -/
theorem writeArtifact_ok {u : Unit} (h : writeArtifact root target artifact fs = (.ok u, written)) :
    fs.Grows written ∧ written.readBytes (Path.join root target) = .ok artifact.toUTF8 := by
  have hgrows := grows_makeRoom (Path.join root target) fs
  cases artifactCase h with
  | written hm hw =>
      rw [hm] at hgrows
      exact ⟨hgrows.trans (FileSystem.grows_writeBytes hw), FileSystem.readBytes_writeBytes hw⟩

end

namespace Dispatcher

variable {σ : Type} {d : Dispatcher σ} {op : Operation} {r : GenerateRequest} {intent : TestIntent}
  {w : World σ}

/-! ## Steps -/

def analyzedStep (x : Extraction) : Step :=
  ⟨1, "analyze_service", .completed, "Analyzing service structure", some (analysisResult x), none⟩

def unreadableStep (e : UnreadableService) : Step :=
  ⟨1, "analyze_service", .failed, "Analyzing service structure", none, some e.chain.message⟩

def writtenStep (result : Json) : Step :=
  ⟨2, "generate_test_code", .completed, "Generating test code", some result, none⟩

def unwrittenStep (failure : OperationFailure) : Step :=
  ⟨2, "generate_test_code", .failed, "Generating test code", none, some failure.chain.message⟩

/-- The test that is rendered for a request. -/
def artifactOf (d : Dispatcher σ) (r : GenerateRequest) (intent : TestIntent) (x : Extraction)
    (w : World σ) : String :=
  x.model.render (d.style r.projectRoot w.files) intent

/-- The log up to a test that was written. -/
def writtenLog (d : Dispatcher σ) (r : GenerateRequest) (intent : TestIntent) (x : Extraction)
    (w : World σ) : StepLog :=
  ⟨[analyzedStep x, writtenStep (artifactResult r.target (d.artifactOf r intent x w) x.model
    (d.style r.projectRoot w.files))]⟩

/-! ## Ways to go -/

/-- What a generation can come to. -/
inductive Generation (d : Dispatcher σ) (op : Operation) (r : GenerateRequest)
    (intent : TestIntent) (w : World σ) : Generated σ → Prop
  | rejected {fault} (hc : r.check = .error fault) :
      Generation d op r intent w (.empty, some (.invalid op fault), w)
  | unreadable {e} (hc : r.check = .ok ())
      (hx : extract w.files d.defaultPackage r.projectRoot r.servicePath r.symbols = .error e) :
      Generation d op r intent w (⟨[unreadableStep e]⟩, some (.unreadableService e), w)
  | unwritten {x failure files} (hc : r.check = .ok ())
      (hx : extract w.files d.defaultPackage r.projectRoot r.servicePath r.symbols = .ok x)
      (hw : writeArtifact r.projectRoot r.target (d.artifactOf r intent x w) w.files =
        (.error failure, files)) :
      Generation d op r intent w (⟨[analyzedStep x, unwrittenStep failure]⟩, some failure,
        { w with files := files })
  | unverified {x files} (hc : r.check = .ok ())
      (hx : extract w.files d.defaultPackage r.projectRoot r.servicePath r.symbols = .ok x)
      (hw : writeArtifact r.projectRoot r.target (d.artifactOf r intent x w) w.files =
        (.ok (), files)) (hv : r.validate = false) :
      Generation d op r intent w (d.writtenLog r intent x w, none, { w with files := files })
  | verified {x files verification w'} (hc : r.check = .ok ())
      (hx : extract w.files d.defaultPackage r.projectRoot r.servicePath r.symbols = .ok x)
      (hw : writeArtifact r.projectRoot r.target (d.artifactOf r intent x w) w.files =
        (.ok (), files)) (hv : r.validate = true)
      (hy : (d.verification r.projectRoot r.target).verify r.maxRetries d.recordAttempts
        { w with files := files } = (verification, w')) :
      Generation d op r intent w ((d.writtenLog r intent x w).absorb verification, none, w')

theorem generation_runGeneration (d : Dispatcher σ) (op : Operation) (r : GenerateRequest)
    (intent : TestIntent) (w : World σ) :
    Generation d op r intent w (d.runGeneration op r intent w) := by
  unfold runGeneration
  split
  · rename_i fault hc
    exact .rejected hc
  · rename_i hc
    simp only
    split
    · rename_i e hx
      exact .unreadable hc hx
    · rename_i x hx
      unfold writeTest
      simp only
      split
      · rename_i failure files hw
        exact .unwritten hc hx hw
      · rename_i files hw
        unfold verifyWritten
        split
        · rename_i hv
          exact .verified hc hx hw hv rfl
        · rename_i hv
          exact .unverified hc hx hw (Bool.eq_false_iff.2 hv)

theorem runGeneration_of_extract {x : Extraction} (hc : r.check = .ok ())
    (hx : extract w.files d.defaultPackage r.projectRoot r.servicePath r.symbols = .ok x) :
    d.runGeneration op r intent w = d.writeTest r intent x ⟨[analyzedStep x]⟩ w := by
  unfold runGeneration
  rw [hc]
  simp only
  rw [hx]
  rfl

/-- What a generation can come to is what it comes to. -/
theorem Generation.eq {generated : Generated σ} (h : Generation d op r intent w generated) :
    d.runGeneration op r intent w = generated := by
  cases h with
  | rejected hc =>
      unfold runGeneration
      rw [hc]
  | unreadable hc hx =>
      unfold runGeneration
      rw [hc]
      simp only
      rw [hx]
      rfl
  | unwritten hc hx hw =>
      rw [runGeneration_of_extract hc hx]
      unfold writeTest
      unfold artifactOf at hw
      simp only
      rw [hw]
      rfl
  | unverified hc hx hw hv =>
      rw [runGeneration_of_extract hc hx]
      unfold writeTest
      unfold artifactOf at hw
      simp only
      rw [hw]
      simp only [verifyWritten, hv, Bool.false_eq_true, ↓reduceIte]
      rfl
  | verified hc hx hw hv hy =>
      rw [runGeneration_of_extract hc hx]
      unfold writeTest
      unfold artifactOf at hw
      simp only
      rw [hw]
      simp only [verifyWritten, hv, ↓reduceIte]
      rw [hy]
      rfl

/-- What follows once the service is read and the test is not to be verified. -/
theorem runGeneration_of_written {op : Operation} {x : Extraction}
    {result : Except OperationFailure Unit} {files : FileSystem} (hc : r.check = .ok ())
    (hx : extract w.files d.defaultPackage r.projectRoot r.servicePath r.symbols = .ok x)
    (hw : writeArtifact r.projectRoot r.target (d.artifactOf r intent x w) w.files =
      (result, files)) (hv : r.validate = false) :
    d.runGeneration op r intent w = match result with
      | .error failure =>
        (⟨[analyzedStep x, unwrittenStep failure]⟩, some failure, { w with files := files })
      | .ok () => (d.writtenLog r intent x w, none, { w with files := files }) := by
  cases result with
  | error failure => exact (Generation.unwritten hc hx hw).eq
  | ok _ => exact (Generation.unverified hc hx hw hv).eq

theorem generate_written {x : Extraction} {files : FileSystem} (hc : r.check = .ok ())
    (hx : extract w.files d.defaultPackage r.projectRoot r.servicePath r.symbols = .ok x)
    (hw : writeArtifact r.projectRoot r.target (d.artifactOf r intent x w) w.files =
      (.ok (), files)) (hv : r.validate = false) :
    (d.generate r intent w).1.failure = none ∧
      (d.generate r intent w).1.steps = d.writtenLog r intent x w ∧
      (d.generate r intent w).2 = { w with files := files } := by
  simp only [generate, generateAs, runGeneration_of_written hc hx hw hv]
  exact ⟨rfl, trivial, trivial⟩

end Dispatcher

end TestForge
