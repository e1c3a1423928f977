import TestForge.Proofs.Operation.ExactRecords
import TestForge.Proofs.Operation.Keeping

/-!
# Records that go unnoticed

A verification records its failed attempts and nothing else, if nobody changes what it creates for
its records, and reports the same whether it records or not, if nobody comes across it. A path that
leads through these directories, or a toolchain that looks into them, can tell, and one that takes them
away can lose records.
-/

namespace TestForge

open FileSystem Toolchain

namespace Verification

variable {σ : Type}

/-- If the toolchain leaves the site alone, a verification in a new session records exactly the
diagnostic text of each failed attempt, and without records nothing comes to the site. If the toolchain
also overlooks what lies there, the verification reports the same whether it records or not. -/
theorem verify_records_exactly (v : Verification σ) (hr : v.rules.Reachable) {maxRetries : UInt32}
    {w : World σ} {x : Site} (hs : x.IsSiteOf (v.session maxRetries w.clock))
    (hcan : (v.session maxRetries w.clock).Recordable w.files) (hc : v.Clear x w.files)
    (hl : v.LeavesAlone x) :
    x.HoldsExactly (v.verify maxRetries true w).2.files
        (fun phase => failedTextsOf phase (v.verifyCalls maxRetries true w)) ∧
      (failedTextsOf .test (v.verifyCalls maxRetries true w)).length ≤ 1 ∧
      (v.verify maxRetries false w).2.files.Vacant x.top ∧
      (v.Overlooks x → (v.verify maxRetries true w).1 = (v.verify maxRetries false w).1) := by
  have hopened : v.logged.openRecorder true w.logging =
      (some (v.session maxRetries w.clock).recorder,
        { w.logging with clock := w.clock.read.2 }) := rfl
  have hon := verificationRun_verify v.logged maxRetries true w.logging
  rw [hopened] at hon
  have hoff := verificationRun_verify v maxRetries false w
  have hready := hc.ready hs hcan
  have hstart : OnSite v x (v.session maxRetries w.clock)
      { w.logging with clock := w.clock.read.2 } := by
    refine ⟨hc.clearBut, ⟨⟨fun p i text ht => ?_, fun place e hp hg => ?_, fun _ => hc.vacant⟩,
      fun p i _ hg => ?_, fun p => Nat.zero_le _⟩⟩
    · cases ht
    · cases (hc.vacant place hp).symm.trans hg
    · cases (hc.vacant _ (hs.top_recordAt p i)).symm.trans hg
  have hend := hon.onSite hs hl hready rfl hstart rfl
  have hlogged := v.verify_logged maxRetries true w
  refine ⟨?_, hon.length_failedTexts_le hr rfl, (hoff.clear hl hc).vacant, fun ho => ?_⟩
  · rw [hlogged]
    exact hend.kept.records
  · have hbeside : Alongside v x (v.session maxRetries w.clock) w
        { w.logging with clock := w.clock.read.2 } := ⟨rfl, hc, .refl w.files x.top, hstart⟩
    obtain ⟨u', hrun, -⟩ := hon.alongside hs ho hready rfl hbeside rfl
    rw [hlogged]
    exact (hrun.unique hoff).1

end Verification

/-! ## Two attempts at the only test -/

/-- A session of the only test, with two attempts for each phase. -/
def Session.twoAttempts (target : String) : Session :=
  ⟨"/p", target, 0, 2⟩

/-- Compiles on some conditions, always passes, and may leave other files behind. -/
def Toolchain.picky (compiles : Nat → FileSystem → Bool) (leaves : Nat → FileSystem → FileSystem) :
    Toolchain Nat where
  compile _ _ fs n :=
    (if compiles n fs then .ok ⟨true, "", ""⟩ else .error (.diagnostics "Unit but Long"),
      leaves n fs, n + 1)
  run _ _ fs n := (.ok ⟨2, 0⟩, leaves n fs, n + 1)
  coverage _ _ fs n := (.ok ⟨"coverage.xml"⟩, leaves n fs, n + 1)

/-- The verification of a test with the standard rules over such a toolchain. -/
def Verification.picky (compiles : Nat → FileSystem → Bool)
    (leaves : Nat → FileSystem → FileSystem) (target : String) : Verification Nat :=
  ⟨.picky compiles leaves, .standard, "/p", target⟩

/-- Only the first compilation fails. -/
def Toolchain.afterFirst (n : Nat) (_ : FileSystem) : Bool :=
  n != 0

/-- The test in the project, and the records beside it. -/
def Site.oneTest (target : String) : Site :=
  ⟨"/p", ["p"], (Session.twoAttempts target).way, ["p", ".testsmith"]⟩

/-- The world before the first verification. -/
def World.fresh : World Nat :=
  .untried World.oneTest.files fun _ => 0

theorem Session.recordable_twoAttempts {target : String}
    (ht : Layout.testClass target = "OrderTest") :
    (twoAttempts target).Recordable World.fresh.files := by
  have hnames : ∀ phase ∈ [Phase.compile, .test], ∀ attempt < 2,
      (attemptName phase attempt).utf8ByteSize ≤ maxNameBytes := by
    decide
  refine .of_free World.rooted_oneTest fun phase attempt ha => ?_
  refine free_of_nothing (fun _ => World.get?_oneTest)
    (checkPath_orderTest (s := twoAttempts target) rfl ht (show 0 < 2 by decide) phase ha)
    fun piece hm => ?_
  have hway : (twoAttempts target).way = [".testsmith", "validation", timestamp 0, "OrderTest"] := by
    rw [way, twoAttempts, ht]
    change [".testsmith", "validation", timestamp 0] ++ (pieces "OrderTest").filter counts = _
    decide
  have hshort : ∀ piece ∈ [".testsmith", "validation", timestamp 0, "OrderTest"],
      piece.utf8ByteSize ≤ maxNameBytes := by
    decide
  rw [attemptWay, hway, List.mem_append, List.mem_singleton] at hm
  rcases hm with hm | rfl
  · exact hshort piece hm
  · exact hnames phase (by cases phase <;> decide) attempt ha

theorem World.vacant_fresh : fresh.files.Vacant ["p", ".testsmith"] :=
  fun _ => World.get?_oneTest

theorem Site.isSiteOf_oneTest (target : String) :
    (oneTest target).IsSiteOf (Session.twoAttempts target) :=
  isSiteOf_root (Session.twoAttempts target) (show "/p" ≠ "" by decide) ["p"]

namespace Verification

variable {compiles : Nat → FileSystem → Bool} {leaves : Nat → FileSystem → FileSystem}

theorem clear_fresh :
    (picky compiles leaves "OrderTest.kt").Clear (.oneTest "OrderTest.kt") World.fresh.files where
  vacant := World.vacant_fresh
  arrives := World.rooted_oneTest.resolve
  directory := World.rooted_oneTest.directory
  artifact := by
    have hstart : ¬["p", ".testsmith"] <+:
        World.oneTest.files.start (Path.join "/p" "OrderTest.kt") := by
      decide
    exact leadsPast_of_passesBy World.rooted_oneTest.linkless hstart Dispatcher.beside_oneTest.passes

/-- A toolchain that only counts its calls overlooks everything. -/
theorem overlooks_afterFirst (target : String) (x : Site) :
    (picky afterFirst leavesAll target).Overlooks x where
  compile _ b _ hc hk := ⟨rfl, rfl, hk, .refl b x.top, hc⟩
  run _ b _ hc hk := ⟨rfl, rfl, hk, .refl b x.top, hc⟩

theorem verify_records_exactly_afterFirst :
    let v := picky afterFirst leavesAll "OrderTest.kt"
    let w := World.fresh
    let x := Site.oneTest "OrderTest.kt"
    v.rules.Reachable ∧ x.IsSiteOf (v.session 2 w.clock) ∧
      (v.session 2 w.clock).Recordable w.files ∧ v.Clear x w.files ∧ v.LeavesAlone x ∧
      v.Overlooks x ∧
      x.HoldsExactly (v.verify 2 true w).2.files
        (fun phase => failedTextsOf phase (v.verifyCalls 2 true w)) ∧
      (failedTextsOf .test (v.verifyCalls 2 true w)).length ≤ 1 ∧
      (v.verify 2 false w).2.files.Vacant x.top ∧
      (v.verify 2 true w).1 = (v.verify 2 false w).1 := by
  have hsite : (Site.oneTest "OrderTest.kt").IsSiteOf
      ((picky afterFirst leavesAll "OrderTest.kt").session 2 World.fresh.clock) :=
    Site.isSiteOf_oneTest "OrderTest.kt"
  have hcan : ((picky afterFirst leavesAll "OrderTest.kt").session 2
      World.fresh.clock).Recordable World.fresh.files :=
    Session.recordable_twoAttempts (show Layout.testClass "OrderTest.kt" = "OrderTest" by decide)
  have hlooks := overlooks_afterFirst "OrderTest.kt" (.oneTest "OrderTest.kt")
  obtain ⟨hheld, honce, hvacant, hsame⟩ := verify_records_exactly
    (picky afterFirst leavesAll "OrderTest.kt") .standard hsite hcan clear_fresh hlooks.leavesAlone
  exact ⟨.standard, hsite, hcan, clear_fresh, hlooks.leavesAlone, hlooks, hheld, honce, hvacant,
    hsame hlooks⟩

end Verification

/-! ## Records that are noticed -/

/-- Compilation needs a directory of records. -/
def Toolchain.withRecords (_ : Nat) (fs : FileSystem) : Bool :=
  fs.get? ["p", ".testsmith"] == some .directory

/-- No compilation succeeds. -/
def Toolchain.never (_ : Nat) (_ : FileSystem) : Bool :=
  false

/-- The failure that all compilations have, if they fail. -/
def unitForLong : ToolFailure :=
  .diagnostics "Unit but Long"

/-- What the record of an attempt adds to the files of the test: directories, and one file. -/
theorem exists_recorded {target : String} (ht : Layout.testClass target = "OrderTest")
    {attempt : Nat} (ha : attempt < 2) : ∃ made y,
      World.fresh.files.DirectoriesOnly made (["p", ".testsmith"] <+: ·) ∧
      made.workingDirectory = World.fresh.files.workingDirectory ∧
      made.get? ["p", ".testsmith"] = some .directory ∧
      (Session.twoAttempts target).recorder.record .compile attempt unitForLong World.fresh.files =
        made.put (Session.recordAt (Site.oneTest target).session .compile attempt)
          (.file unitForLong.diagnosticText.toUTF8 y) := by
  have hrooted : Rooted World.fresh.files (Session.twoAttempts target).root ["p"] :=
    World.rooted_oneTest
  have hfree : (Session.twoAttempts target).Free World.fresh.files ["p"] .compile attempt :=
    (Session.recordable_twoAttempts ht).free hrooted ha
  have hsite := Site.isSiteOf_oneTest target
  obtain ⟨made, y, honly, hvia, hgrows, hrecord⟩ := hsite.exists_record hrooted.resolve
    hrooted.directory (hfree.ready hrooted.linkless) unitForLong
  exact ⟨made, y, honly.mono fun via hv => hsite.within_attempt hv, hgrows.workingDirectory,
    hvia _ (passes_head ["p"] ".testsmith" _), hrecord⟩

/-- After a record there is a directory of records, and nothing else has changed. -/
theorem recorded_fresh {target : String} (ht : Layout.testClass target = "OrderTest") :
    World.fresh.files.SameElsewhere
        ((Session.twoAttempts target).recorder.record .compile 0 unitForLong World.fresh.files)
        ["p", ".testsmith"] ∧
      ((Session.twoAttempts target).recorder.record .compile 0 unitForLong
        World.fresh.files).get? ["p", ".testsmith"] = some .directory := by
  obtain ⟨made, y, honly, hdirectory, hmade, hrecord⟩ := exists_recorded ht (show 0 < 2 by decide)
  have hne := Session.recordAt_ne_nil (Site.oneTest target).session .compile 0
  rw [hrecord]
  refine ⟨(honly.sameElsewhere hdirectory fun _ hv => hv).trans
    (sameElsewhere_put ((Site.isSiteOf_oneTest target).top_recordAt .compile 0) hne _), ?_⟩
  rw [get?_put _ _ _ _ hne, if_neg, hmade]
  intro he
  have hlast := congrArg List.getLast? he
  simp [Session.recordAt] at hlast

/-- A text that can be read is repaired. -/
theorem exists_repair {path text : String} {fs : FileSystem} (hs : endsInSlash path = false)
    (hr : fs.readText path = .ok text) : ∃ new,
      RepairRules.standard.repair .compile path unitForLong fs = .ok (some new) := by
  have hmatching : RepairRules.standard.matching .compile unitForLong.diagnosticText =
      [RepairRule.unitForLong] := by
    decide
  have hwrite (text : String) : ∃ new, fs.writeText path text = .ok new := by
    unfold readText at hr
    split at hr
    · cases hr
    · rename_i content hread
      obtain ⟨x, hstatus⟩ := readBytes_ok_iff.1 hread
      obtain ⟨place, hplace, hfile⟩ := status_ok_iff.1 hstatus
      refine ⟨fs.put place (.file text.toUTF8 x), ?_⟩
      unfold writeText writeBytes
      rw [writePlace_ok_iff.2 ⟨hs, hplace⟩]
      simp only [hfile]
  have hpass : RepairRules.standard.pass? .compile unitForLong.diagnosticText text =
      some (RepairRule.unitForLong.amend text) := by
    unfold RepairRules.pass?
    rw [hmatching]
    rfl
  obtain ⟨new, hnew⟩ := hwrite (RepairRule.unitForLong.amend text)
  exact ⟨new, RepairRules.repair_some_iff.2 ⟨text, _, hr, hpass, hnew⟩⟩

namespace Verification

variable {σ : Type} {v : Verification σ} {w w₁ w₂ w₃ : World σ} {failure : ToolFailure}
  {files : FileSystem}

theorem verify_session (v : Verification σ) (maxRetries : UInt32) (w : World σ) :
    v.verify maxRetries true w =
      v.runPhases maxRetries (some (v.session maxRetries w.clock).recorder) [.compile, .test] .empty
        { w with clock := w.clock.read.2 } :=
  rfl

/-- The run of a compilation that fails, is recorded and repaired, and then goes on. -/
theorem phaseRun_recorded {r : AttemptRecorder} {outcome : PhaseOutcome}
    (ha : v.attempt .compile w = (.error failure, w₁))
    (hr : v.rules.repair .compile v.artifact failure (r.record .compile 0 failure w₁.files) =
      .ok (some files))
    (next : PhaseRun v .compile (some r) (RetryState.start 2).next { w₁ with files := files }
      outcome w₂) :
    PhaseRun v .compile (some r) (.start 2) w outcome w₂ := by
  have hkept : keepRecord (some r) .compile 0 failure w₁ =
      { w₁ with files := r.record .compile 0 failure w₁.files } := by
    rw [keepRecord]
  have hrepair : v.rules.repair .compile v.artifact failure
      (keepRecord (some r) .compile 0 failure w₁).files = .ok (some files) := by
    simpa only [hkept] using hr
  have hrest : PhaseRun v .compile (some r) (RetryState.start 2).next
      { keepRecord (some r) .compile 0 failure w₁ with files := files } outcome w₂ := by
    simpa only [hkept] using next
  exact .repaired ha rfl hrepair hrest

theorem length_steps_of_repaired {counts : Option TestCounts}
    (ha : v.attempt .compile { w with clock := w.clock.read.2 } = (.error failure, w₁))
    (hr : v.rules.repair .compile v.artifact failure
      ((v.session 2 w.clock).recorder.record .compile 0 failure w₁.files) = .ok (some files))
    (hb : v.attempt .compile { w₁ with files := files } = (.ok none, w₂))
    (ht : v.attempt .test w₂ = (.ok counts, w₃)) :
    (v.verify 2 true w).1.steps.length = 2 := by
  have hrun : VerificationRun v 2 (some (v.session 2 w.clock).recorder)
      { w with clock := w.clock.read.2 } _ w₃ :=
    .tested (phaseRun_recorded ha hr (.succeeds hb)) (.succeeds ht)
  rw [verify_session, ((verificationRun_runPhases v 2 _ _).unique hrun).1]
  rfl

theorem world_of_used_up
    (ha : v.attempt .compile { w with clock := w.clock.read.2 } = (.error failure, w₁))
    (hr : v.rules.repair .compile v.artifact failure
      ((v.session 2 w.clock).recorder.record .compile 0 failure w₁.files) = .ok (some files))
    (hb : v.attempt .compile { w₁ with files := files } = (.error failure, w₂)) :
    (v.verify 2 true w).2 = { w₂ with
      files := (v.session 2 w.clock).recorder.record .compile 1 failure w₂.files } := by
  have hrun : VerificationRun v 2 (some (v.session 2 w.clock).recorder)
      { w with clock := w.clock.read.2 } _ _ :=
    .notCompiled (phaseRun_recorded ha hr (.usedUp hb rfl))
  have hkept : keepRecord (some (v.session 2 w.clock).recorder) .compile 1 failure w₂ = { w₂ with
      files := (v.session 2 w.clock).recorder.record .compile 1 failure w₂.files } := by
    rw [keepRecord]
  rw [verify_session, ((verificationRun_runPhases v 2 _ _).unique hrun).2]
  exact hkept

theorem length_steps_of_exhausted {retries : Nat} {w' : World σ}
    (hc : PhaseRun v .compile none (.start 2) w (.exhausted retries failure) w') :
    (v.verify 2 false w).1.steps.length = 1 := by
  have hrun : VerificationRun v 2 none w _ w' := .notCompiled hc
  rw [((verificationRun_verify v 2 false w).unique hrun).1]
  rfl

end Verification

/-- A path that leads through the directory of records can be read if there is one, and only then. -/
theorem readText_through {fs : FileSystem}
    (hs : World.fresh.files.SameElsewhere fs ["p", ".testsmith"]) :
    (fs.get? ["p", ".testsmith"] = some .directory →
      fs.readText (Path.join "/p" ".testsmith/../OrderTest.kt") = .ok "class OrderTest") ∧
    (fs.get? ["p", ".testsmith"] = none →
      fs.readText (Path.join "/p" ".testsmith/../OrderTest.kt") = .error .notFound) := by
  have hproject : fs.get? ["p"] = some .directory := hs.get? ["p"] (by decide)
  have htest : fs.get? ["p", "OrderTest.kt"] = some (.file "class OrderTest".toUTF8 false) :=
    hs.get? ["p", "OrderTest.kt"] (by decide)
  have hpath : checkPath (Path.join "/p" ".testsmith/../OrderTest.kt") = .ok () := by
    decide
  have hstart : fs.start (Path.join "/p" ".testsmith/../OrderTest.kt") = [] :=
    if_pos (by decide)
  have hpieces : pieces (Path.join "/p" ".testsmith/../OrderTest.kt") =
      ["", "p", ".testsmith", "..", "OrderTest.kt"] := by
    decide
  have hshort : ∀ name ∈ ["p", ".testsmith", "OrderTest.kt"], ¬255 < name.utf8ByteSize := by
    decide
  have hresolve : fs.resolve (Path.join "/p" ".testsmith/../OrderTest.kt") true =
      fs.walk true maxLinks [] ["", "p", ".testsmith", "..", "OrderTest.kt"] := by
    simp only [resolve, hpath, hstart, hpieces]
  constructor
  · intro hd
    have hwalk : fs.walk true maxLinks [] ["", "p", ".testsmith", "..", "OrderTest.kt"] =
        .ok ["p", "OrderTest.kt"] := by
      simp [walk, requireDirectory, maxNameBytes, hproject, htest, hd, get?_nil, hshort]
    exact readText_of_readBytes (readBytes_ok_iff.2
      ⟨false, status_ok_iff.2 ⟨_, hresolve.trans hwalk, htest⟩⟩)
  · intro hn
    have hwalk : fs.walk true maxLinks [] ["", "p", ".testsmith", "..", "OrderTest.kt"] =
        .error .notFound := by
      simp [walk, requireDirectory, maxNameBytes, hproject, hn, get?_nil, hshort]
    simp only [readText, readBytes, status, hresolve, hwalk]

namespace Verification

section

variable {target : String} {w : World Nat}

theorem attempt_compile_failed (h : compiles w.tools w.files = false) :
    (picky compiles leaves target).attempt .compile w =
      (.error unitForLong, ⟨leaves w.tools w.files, w.clock, w.tools + 1⟩) := by
  simp only [attempt, picky, Toolchain.picky, h]
  rfl

theorem attempt_compile_passed (h : compiles w.tools w.files = true) :
    (picky compiles leaves target).attempt .compile w =
      (.ok none, ⟨leaves w.tools w.files, w.clock, w.tools + 1⟩) := by
  simp only [attempt, picky, Toolchain.picky, h]
  rfl

theorem attempt_test_passed :
    (picky compiles leaves target).attempt .test w =
      (.ok (some ⟨2, 0⟩), ⟨leaves w.tools w.files, w.clock, w.tools + 1⟩) :=
  rfl

end

/-- An artifact that cannot be read is not repaired. -/
theorem unrepaired_of_unreadable {rules : RepairRules} {phase : Phase} {path : String}
    {failure : ToolFailure} {fs : FileSystem} {e : FileError} (h : fs.readText path = .error e) :
    ∀ files, rules.repair phase path failure fs ≠ .ok (some files) := by
  intro files hr
  obtain ⟨artifact, text, hread, -⟩ := RepairRules.repair_some_iff.1 hr
  rw [h] at hread
  cases hread

/-- Attempts can be recorded in a session whose directory is new, and the artifact is not there. -/
structure RecordsAfresh (v : Verification σ) (x : Site) (maxRetries : UInt32) (w : World σ) :
    Prop where
  reachable : v.rules.Reachable
  site : x.IsSiteOf (v.session maxRetries w.clock)
  recordable : (v.session maxRetries w.clock).Recordable w.files
  vacant : w.files.Vacant x.session
  artifact : ¬x.session <+: w.files.destination v.artifact

theorem recordsAfresh_fresh {target : String} (ht : Layout.testClass target = "OrderTest")
    (ho : ¬["p", ".testsmith"] <+: World.fresh.files.destination (Path.join "/p" target)) :
    (picky compiles leaves target).RecordsAfresh (.oneTest target) 2 World.fresh where
  reachable := .standard
  site := Site.isSiteOf_oneTest target
  recordable := Session.recordable_twoAttempts ht
  vacant place hp :=
    World.vacant_fresh place ((Site.isSiteOf_oneTest target).top_session.trans hp)
  artifact h := ho ((Site.isSiteOf_oneTest target).top_session.trans h)

/-- The path of a test can lead through the directory of records. Only if there is one, the test is
repaired. -/
theorem differs_by_path :
    ((picky afterFirst leavesAll ".testsmith/../OrderTest.kt").verify 2 true World.fresh).1 ≠
      ((picky afterFirst leavesAll ".testsmith/../OrderTest.kt").verify 2 false World.fresh).1 := by
  have hon : ((picky afterFirst leavesAll ".testsmith/../OrderTest.kt").verify 2 true
      World.fresh).1.steps.length = 2 := by
    obtain ⟨hsame, hdirectory⟩ := recorded_fresh (show
      Layout.testClass ".testsmith/../OrderTest.kt" = "OrderTest" by decide)
    obtain ⟨new, hrepair⟩ := exists_repair (by decide) ((readText_through hsame).1 hdirectory)
    have hfirst : (picky afterFirst leavesAll ".testsmith/../OrderTest.kt").attempt .compile
        { World.fresh with clock := World.fresh.clock.read.2 } =
          (.error unitForLong, ⟨World.fresh.files, World.fresh.clock.read.2, 1⟩) :=
      attempt_compile_failed rfl
    exact length_steps_of_repaired hfirst hrepair (attempt_compile_passed rfl) attempt_test_passed
  have hoff : ((picky afterFirst leavesAll ".testsmith/../OrderTest.kt").verify 2 false
      World.fresh).1.steps.length = 1 := by
    have hunread : World.fresh.files.readText
        (picky afterFirst leavesAll ".testsmith/../OrderTest.kt").artifact = .error .notFound :=
      (readText_through (.refl _ _)).2 (World.vacant_fresh _ (List.prefix_refl _))
    have hcompile : PhaseRun (picky afterFirst leavesAll ".testsmith/../OrderTest.kt") .compile none
        (.start 2) World.fresh (.exhausted 0 unitForLong) _ :=
      .unrepaired (attempt_compile_failed rfl) rfl (unrepaired_of_unreadable hunread)
    exact length_steps_of_exhausted hcompile
  intro he
  rw [he, hoff] at hon
  cases hon

/-- A toolchain can see that there are records. -/
theorem differs_by_toolchain :
    ((picky withRecords leavesAll "OrderTest.kt").verify 2 true World.fresh).1 ≠
      ((picky withRecords leavesAll "OrderTest.kt").verify 2 false World.fresh).1 := by
  have hread : World.fresh.files.readText (picky withRecords leavesAll "OrderTest.kt").artifact =
      .ok "class OrderTest" :=
    World.readText_oneTest
  have hclear : (picky withRecords leavesAll "OrderTest.kt").Clear (.oneTest "OrderTest.kt")
      World.fresh.files :=
    clear_fresh
  have hunseen {files : FileSystem} (hv : files.Vacant ["p", ".testsmith"]) (n : Nat) :
      withRecords n files = false := by
    rw [withRecords, hv _ (List.prefix_refl _)]
    rfl
  have hon : ((picky withRecords leavesAll "OrderTest.kt").verify 2 true
      World.fresh).1.steps.length = 2 := by
    obtain ⟨hsame, hdirectory⟩ :=
      recorded_fresh (show Layout.testClass "OrderTest.kt" = "OrderTest" by decide)
    obtain ⟨new, hrepair⟩ := exists_repair (by decide) ((hsame.readText hclear.artifact).trans hread)
    have hseen (n : Nat) : withRecords n new = true := by
      rw [withRecords, (grows_repair hrepair).directory _ hdirectory]
      rfl
    have hfirst : (picky withRecords leavesAll "OrderTest.kt").attempt .compile
        { World.fresh with clock := World.fresh.clock.read.2 } =
          (.error unitForLong, ⟨World.fresh.files, World.fresh.clock.read.2, 1⟩) :=
      attempt_compile_failed (hunseen World.vacant_fresh 0)
    exact length_steps_of_repaired hfirst hrepair (attempt_compile_passed (hseen 1))
      attempt_test_passed
  have hoff : ((picky withRecords leavesAll "OrderTest.kt").verify 2 false
      World.fresh).1.steps.length = 1 := by
    obtain ⟨new, hrepair⟩ := exists_repair (by decide) hread
    have hvacant : new.Vacant ["p", ".testsmith"] :=
      World.vacant_fresh.sameBelow (sameBelow_repair hclear.artifact hrepair)
    have hcompile : PhaseRun (picky withRecords leavesAll "OrderTest.kt") .compile none (.start 2)
        World.fresh (.exhausted 1 unitForLong) _ :=
      .repaired (attempt_compile_failed (hunseen World.vacant_fresh 0)) rfl hrepair
        (.usedUp (attempt_compile_failed (hunseen hvacant 1)) rfl)
    exact length_steps_of_exhausted hcompile
  intro he
  rw [he, hoff] at hon
  cases hon

/-- The record of the second attempt alone is no record of the first. -/
theorem content?_second {target : String} (ht : Layout.testClass target = "OrderTest") :
    ((Session.twoAttempts target).recorder.record .compile 1 unitForLong
      World.fresh.files).content? (Session.recordAt (Site.oneTest target).session .compile 0) =
        none := by
  obtain ⟨made, y, honly, -, -, hrecord⟩ := exists_recorded ht (show 1 < 2 by decide)
  have hother : Session.recordAt (Site.oneTest target).session .compile 1 ≠
      Session.recordAt (Site.oneTest target).session .compile 0 :=
    fun he => absurd (Session.recordAt_injective he).2 (by decide)
  have hfresh : World.fresh.files.get?
      (Session.recordAt (Site.oneTest target).session .compile 0) = none :=
    World.vacant_fresh _ ((Site.isSiteOf_oneTest target).top_recordAt .compile 0)
  unfold content?
  rw [hrecord, get?_put _ _ _ _ (Session.recordAt_ne_nil _ _ _), if_neg hother]
  rcases honly (Session.recordAt (Site.oneTest target).session .compile 0) with h | ⟨-, h, -⟩
  · rw [h, hfresh]
  · rw [h]

/-- A toolchain can take records away. -/
theorem lost_by_restoring :
    ¬(Site.oneTest "OrderTest.kt").HoldsExactly
      ((picky never Dispatcher.restoring "OrderTest.kt").verify 2 true World.fresh).2.files
      (fun phase => failedTextsOf phase
        ((picky never Dispatcher.restoring "OrderTest.kt").verifyCalls 2 true World.fresh)) := by
  have hclear : (picky never Dispatcher.restoring "OrderTest.kt").Clear (.oneTest "OrderTest.kt")
      World.fresh.files :=
    clear_fresh
  obtain ⟨hsame, -⟩ :=
    recorded_fresh (show Layout.testClass "OrderTest.kt" = "OrderTest" by decide)
  obtain ⟨new, hrepair⟩ := exists_repair (by decide)
    ((hsame.readText hclear.artifact).trans World.readText_oneTest)
  let first : Event := ⟨"/p", "OrderTest.kt", World.fresh.files, .compile (.error unitForLong)⟩
  let second : Event := ⟨"/p", "OrderTest.kt", new, .compile (.error unitForLong)⟩
  have hfirst : (picky never Dispatcher.restoring "OrderTest.kt").logged.attempt .compile
      { World.fresh.logging with clock := World.fresh.clock.read.2 } =
        (.error unitForLong, ⟨World.fresh.files, World.fresh.clock.read.2, [first], 1⟩) :=
    rfl
  have hsecond : (picky never Dispatcher.restoring "OrderTest.kt").logged.attempt .compile
      ⟨new, World.fresh.clock.read.2, [first], 1⟩ =
        (.error unitForLong, ⟨World.fresh.files, World.fresh.clock.read.2, [first, second], 2⟩) :=
    rfl
  have hsession : (picky never Dispatcher.restoring "OrderTest.kt").logged.session 2
      World.fresh.logging.clock = .twoAttempts "OrderTest.kt" := rfl
  have hworld := world_of_used_up hfirst hrepair hsecond
  rw [hsession] at hworld
  intro hheld
  rw [verify_logged, verifyCalls, hworld] at hheld
  have hkept := hheld.kept .compile 0 unitForLong.diagnosticText rfl
  simp only [World.map] at hkept
  rw [content?_second (show Layout.testClass "OrderTest.kt" = "OrderTest" by decide)] at hkept
  cases hkept

/-- Not all goes unnoticed that could be recorded: the report can differ with the records, through
the path of the artifact as through the toolchain, and records can be lost. -/
theorem records_noticed :
    ((picky afterFirst leavesAll ".testsmith/../OrderTest.kt").RecordsAfresh
        (.oneTest ".testsmith/../OrderTest.kt") 2 World.fresh ∧
      ((picky afterFirst leavesAll ".testsmith/../OrderTest.kt").verify 2 true World.fresh).1 ≠
        ((picky afterFirst leavesAll ".testsmith/../OrderTest.kt").verify 2 false World.fresh).1) ∧
    ((picky withRecords leavesAll "OrderTest.kt").RecordsAfresh (.oneTest "OrderTest.kt") 2
        World.fresh ∧
      ((picky withRecords leavesAll "OrderTest.kt").verify 2 true World.fresh).1 ≠
        ((picky withRecords leavesAll "OrderTest.kt").verify 2 false World.fresh).1) ∧
    (picky never Dispatcher.restoring "OrderTest.kt").RecordsAfresh (.oneTest "OrderTest.kt") 2
        World.fresh ∧
      ¬(Site.oneTest "OrderTest.kt").HoldsExactly
        ((picky never Dispatcher.restoring "OrderTest.kt").verify 2 true World.fresh).2.files
        (fun phase => failedTextsOf phase
          ((picky never Dispatcher.restoring "OrderTest.kt").verifyCalls 2 true World.fresh)) :=
  ⟨⟨recordsAfresh_fresh (by decide) (by decide), differs_by_path⟩,
    ⟨recordsAfresh_fresh (by decide) (by decide), differs_by_toolchain⟩,
    recordsAfresh_fresh (by decide) (by decide), lost_by_restoring⟩

end Verification

end TestForge
