import TestForge.Proofs.Framework.MarkerScan
import TestForge.Proofs.Operation.Artifacts
import TestForge.Proofs.Operation.Frame
import TestForge.Proofs.Operation.LeftBehind

/-!
# Generating a test once more

A generation that is repeated finds the service as it was, the directories that it has created and
the test that it has written. So it renders the same test, unless what it has written tells the scan
for a framework something else, and it changes nothing.
-/

namespace TestForge

open FileSystem

/-! ## Writing once more -/

/-- Where room was made, no more is needed. -/
theorem makeRoom_later {path : String} {fs made later : FileSystem} (hl : fs.Linkless)
    (h : makeRoom path fs = (.ok (), made)) (hg : made.Grows later) :
    makeRoom path later = (.ok (), later) := by
  have hgrows := grows_makeRoom path fs
  rw [h] at hgrows
  have hlater := (hgrows.trans hg).linkless hl
  unfold makeRoom at h ⊢
  cases hup : Path.parent? path with
  | none => rfl
  | some directory =>
      have hclean := Path.clean_parent? hup
      have hagain : later.createDirectories directory = (.ok (), later) := by
        unfold createDirectories
        by_cases hd : directory = ""
        · subst hd
          rw [lineage_eq, createLineage_empty]
        · have hmade : fs.createDirectories directory = (.ok (), made) := by
            simp only [hup] at h
            split at h
            · cases h
            · rename_i new hc
              rw [hc]
              cases h
              rfl
          obtain ⟨place, hr, hdir⟩ := isDirectory_iff.1
            (isDirectory_of_createDirectories hd hclean hmade)
          have hthere : later.isDirectory directory = true :=
            isDirectory_iff.2 ⟨place, hg.resolve hr, hg.directory place hdir⟩
          rw [lineage_eq, createLineage_of_isDirectory hlater hd hclean hthere]
      simp only [hagain]

/-- The failures that one and the same write can have when it is tried again: a file that stands in
the way of a directory may be met on another way. -/
inductive FailsAgain : OperationFailure → OperationFailure → Prop
  | same (failure : OperationFailure) : FailsAgain failure failure
  | file (directory : String) :
      FailsAgain (.uncreatable directory .exists) (.uncreatable directory .notDirectory)

theorem makeRoom_error_again {path : String} {fs made : FileSystem} {failure : OperationFailure}
    (hl : fs.Linkless) (h : makeRoom path fs = (.error failure, made)) :
    ∃ failure', makeRoom path made = (.error failure', made) ∧ FailsAgain failure failure' := by
  unfold makeRoom at h ⊢
  cases hup : Path.parent? path with
  | none =>
      simp only [hup] at h
      cases h
  | some directory =>
      obtain ⟨hfiles, hresult⟩ := repeats_createDirectories hl (Path.clean_parent? hup)
      simp only [hup] at h ⊢
      rcases hfirst : fs.createDirectories directory with ⟨first, new⟩
      rw [hfirst] at h hfiles hresult
      cases first with
      | ok _ => cases h
      | error e =>
          cases h
          rcases hagain : made.createDirectories directory with ⟨again, new⟩
          rw [hagain] at hfiles hresult
          obtain rfl : new = made := hfiles
          cases hresult with
          | same => exact ⟨_, rfl, .same _⟩
          | file => exact ⟨_, rfl, .file directory⟩

theorem writeText_error {fs : FileSystem} {path text : String} {e : FileError}
    (h : fs.writeText path text = .error e) (other : String) :
    fs.writeText path other = .error e := by
  unfold writeText writeBytes at h ⊢
  split at h
  · rename_i hp
    simpa only [hp] using h
  · rename_i place hp
    split at h
    · cases h
    · rename_i entry hfile hg
      cases entry with
      | file content x => exact (hfile content x rfl).elim
      | directory => simpa only [hp, hg] using h
      | link target => simpa only [hp, hg] using h
    · cases h

/-- A write that failed fails again, whatever is to be written, and changes nothing. -/
theorem writeArtifact_error_again {root target artifact : String} {fs files : FileSystem}
    {failure : OperationFailure} (hl : fs.Linkless)
    (h : writeArtifact root target artifact fs = (.error failure, files)) (other : String) :
    ∃ failure', writeArtifact root target other files = (.error failure', files) ∧
      FailsAgain failure failure' := by
  cases artifactCase h with
  | cramped hm =>
      obtain ⟨failure', hagain, hfails⟩ := makeRoom_error_again hl hm
      exact ⟨failure', writeArtifact_of_cramped hagain, hfails⟩
  | refused hm hw =>
      exact ⟨_, writeArtifact_of_refused (makeRoom_later hl hm (.refl _)) (writeText_error hw other),
        .same _⟩

theorem writeText_again {fs written : FileSystem} {path text : String}
    (h : fs.writeText path text = .ok written) (other : String) :
    ∃ again, written.writeText path other = .ok again ∧
      (other = text → ∀ place, again.get? place = written.get? place) := by
  have hgrows := grows_writeBytes h
  have hslash : endsInSlash path = false := by
    unfold writeText writeBytes at h
    split at h
    · cases h
    · rename_i place hp
      exact (writePlace_ok_iff.1 hp).1
  obtain ⟨place, x, hr, rfl, hold⟩ := writeBytes_ok h
  have hne := ne_nil_of_writable hold
  have hfile : (fs.put place (.file text.toUTF8 x)).get? place = some (.file text.toUTF8 x) := by
    rw [get?_put _ _ _ _ hne, if_pos rfl]
  have hplace := writePlace_ok_iff.2 ⟨hslash, hgrows.resolve hr⟩
  have hagain : (fs.put place (.file text.toUTF8 x)).writeText path other =
      .ok ((fs.put place (.file text.toUTF8 x)).put place (.file other.toUTF8 x)) := by
    simp only [writeText, writeBytes, hplace, hfile]
  refine ⟨_, hagain, ?_⟩
  rintro rfl elsewhere
  rw [get?_put _ _ _ _ hne]
  split
  · rename_i he
    rw [← he, hfile]
  · rfl

/-- A write that went well goes well again, and with the same text it changes nothing. -/
theorem writeArtifact_ok_again {root target artifact : String} {fs files : FileSystem}
    (hl : fs.Linkless) (h : writeArtifact root target artifact fs = (.ok (), files))
    (other : String) :
    ∃ again, writeArtifact root target other files = (.ok (), again) ∧
      (other = artifact → ∀ place, again.get? place = files.get? place) := by
  cases artifactCase h with
  | written hm hw =>
      obtain ⟨again, hagain, hsame⟩ := writeText_again hw other
      exact ⟨again, writeArtifact_of_written (makeRoom_later hl hm (grows_writeBytes hw)) hagain,
        hsame⟩

/-! ## The service and the test -/

/-- A test is not written where its service is read. -/
theorem apart_testPath {fs : FileSystem} {root service : String}
    (hn : Path.IsName (Layout.lastPiece service.toList)) :
    fs.destination (Path.join root service) ≠
      fs.destination (Path.join root (Layout.testPath service)) := by
  have hlast : Layout.lastPiece (Path.join root (Layout.testPath service)).toList =
      Layout.testFileName (Layout.lastPiece service.toList) := by
    rw [lastPiece_join, Layout.testPath, String.toList_ofList, Layout.lastPiece_testPathChars]
  intro he
  have hservice := fs.getLast?_destination (Path.join root service)
    (by rwa [lastPiece_join])
  have htest := fs.getLast?_destination (Path.join root (Layout.testPath service))
    (by rw [hlast]; exact Layout.isName_testFileName _)
  rw [he, htest, hlast, lastPiece_join, Option.some.injEq] at hservice
  exact Layout.testFileName_ne _ (String.ofList_injective hservice)

namespace Dispatcher

variable {σ : Type} {d : Dispatcher σ} {r : GenerateRequest} {intent : TestIntent} {w : World σ}

/-- A request for a test where the layout puts it, which is not to be verified. -/
structure Plain (r : GenerateRequest) : Prop where
  testPath : r.testPath = none
  unverified : r.validate = false

theorem target_of_plain (h : Plain r) : r.target = Layout.testPath r.servicePath := by
  rw [GenerateRequest.target, h.testPath]

/-! ## The scan for a framework -/

/-- The marker stands neither in the file that the test replaces nor in the test. -/
structure Unmarked (d : Dispatcher σ) (marker : String) (r : GenerateRequest) (intent : TestIntent)
    (w : World σ) : Prop where
  replaced : ∀ content,
    w.files.content? (w.files.destination (Path.join r.projectRoot r.target)) = some content →
    MarkerScan.holdsMarker marker content = false
  rendered : ∀ x,
    extract w.files d.defaultPackage r.projectRoot r.servicePath r.symbols = .ok x →
    Text.occursIn marker.toList (d.artifactOf r intent x w).toList = false

/-- A test without the marker, in place of a file without it, does not change what a scan finds. -/
theorem hasEntrypoint_written {marker root target artifact : String} {fs files : FileSystem}
    (ht : fs.IsTree) (hl : fs.Linkless)
    (hold : ∀ content, fs.content? (fs.destination (Path.join root target)) = some content →
      MarkerScan.holdsMarker marker content = false)
    (hnew : Text.occursIn marker.toList artifact.toList = false)
    (hroot : fs.exists? root = true)
    (h : writeArtifact root target artifact fs = (.ok (), files)) :
    MarkerScan.hasEntrypoint files root marker = MarkerScan.hasEntrypoint fs root marker := by
  have hchanges := writeArtifact_changes hl h
  have hgrows := hchanges.grows
  have hartifact : files.content? (fs.destination (Path.join root target)) =
      some artifact.toUTF8 := by
    obtain ⟨x, hs⟩ := readBytes_ok_iff.1 (writeArtifact_ok h).2
    obtain ⟨place, hr, hf⟩ := status_ok_iff.1 hs
    have hplace := (hgrows.linkless hl).resolve hr
    rw [hgrows.destination] at hplace
    rw [hplace]
    exact content?_eq_some_iff.2 ⟨x, hf⟩
  have htree := isTree_writeArtifact ht hl root target artifact
  rw [h] at htree
  refine MarkerScan.hasEntrypoint_congr ht htree hl hgrows hroot fun place content hh => ?_
  by_cases hp : place = fs.destination (Path.join root target)
  · have hneither : content ≠ artifact.toUTF8 := by
      rintro rfl
      simp only [MarkerScan.holdsMarker, fromUTF8?_toUTF8, hnew] at hh
      cases hh
    rw [hp, hartifact]
    refine ⟨fun hc => ?_, fun hc => absurd (Option.some.inj hc).symm hneither⟩
    rw [hold content hc] at hh
    cases hh
  · have hsame : files.content? place = fs.content? place :=
      Classical.byContradiction fun hd => hp (hchanges.named place hd)
    rw [hsame]

/-! ## Generations -/

/-- What a repeated report says: the same as the first, but for the cause of a directory that could
not be created because of a file. -/
inductive ReportsAgain : GenerationReport → GenerationReport → Prop
  | same (report : GenerationReport) : ReportsAgain report report
  | file (report : GenerationReport) (directory : String)
      (h : report.failure = some (OperationFailure.uncreatable directory .exists).chain) :
      ReportsAgain report { report with
        failure := some (OperationFailure.uncreatable directory .notDirectory).chain }

/-- A service can only be read below a root that is there, unless its path is absolute. -/
theorem exists_root (hc : r.check = .ok ()) (hl : w.files.Linkless)
    (hroot : Path.isAbsolute r.servicePath.toList = true → w.files.exists? r.projectRoot = true)
    {source : String}
    (hr : w.files.readText (Path.join r.projectRoot r.servicePath) = .ok source) :
    w.files.exists? r.projectRoot = true := by
  cases ha : Path.isAbsolute r.servicePath.toList with
  | true => exact hroot ha
  | false =>
      have hne := projectRoot_ne_empty hc
      obtain ⟨up, hup, hdir⟩ := isDirectory_iff.1 (isDirectory_of_readText hl hne ha hr)
      have hstatus := status_ok_iff.2 ⟨up, hup, hdir⟩
      simp only [FileSystem.exists?, hstatus]

/-- A generation that is repeated on the tree it leaves changes nothing and reports the same, if the
marker of the framework stands neither in the test nor in the file that it replaces, and if the root
is there or the service lies below it. Only the cause is told in another way if a directory cannot
be created because of a file. -/
theorem generate_again (d : Dispatcher σ) {marker : String}
    (hd : ∀ fs root, d.hasEntrypoint fs root = MarkerScan.hasEntrypoint fs root marker)
    (r : GenerateRequest) (intent : TestIntent) (w : World σ) (hp : Plain r)
    (ht : w.files.IsTree) (hl : w.files.Linkless)
    (hroot : Path.isAbsolute r.servicePath.toList = true → w.files.exists? r.projectRoot = true)
    (hm : Unmarked d marker r intent w) :
    let first := d.generate r intent w
    let again := d.generate r intent first.2
    (∀ place, again.2.files.get? place = first.2.files.get? place) ∧
      ReportsAgain first.1 again.1 := by
  have hgen := generation_runGeneration d (intentOperation intent) r intent w
  simp only [generate, generateAs]
  generalize hrun : d.runGeneration (intentOperation intent) r intent w = generated at hgen ⊢
  cases hgen with
  | rejected _ =>
      simp only [hrun]
      exact ⟨fun _ => trivial, .same _⟩
  | unreadable _ _ =>
      simp only [hrun]
      exact ⟨fun _ => trivial, .same _⟩
  | @unwritten x failure files hc hx hw =>
      obtain ⟨source, hr, hlater⟩ := readText_of_extract hx
      have hread : files.readText (Path.join r.projectRoot r.servicePath) = .ok source :=
        (writeArtifact_error hw).readText (writeArtifact_changes hl hw).grows hr
      obtain ⟨failure', hagain, hfails⟩ := writeArtifact_error_again hl hw
        (d.artifactOf r intent x { w with files := files })
      simp only [runGeneration_of_written (w := { w with files := files }) hc (hlater files hread)
        hagain hp.unverified]
      refine ⟨fun _ => trivial, ?_⟩
      cases hfails with
      | same => exact .same _
      | file directory => exact .file _ directory rfl
  | @unverified x files hc hx hw hv =>
      obtain ⟨source, hr, hlater⟩ := readText_of_extract hx
      have hname : Path.IsName (Layout.lastPiece r.servicePath.toList) := by
        obtain ⟨content, hb, -⟩ := readText_ok_iff.1 hr
        rw [← lastPiece_join r.projectRoot]
        exact ht.isName_of_readBytes hl hb
      have hread : files.readText (Path.join r.projectRoot r.servicePath) = .ok source := by
        refine (writeArtifact_changes hl hw).readText hl ?_ hr
        unfold AtTest
        rw [target_of_plain hp]
        exact apart_testPath hname
      have hstyle : d.style r.projectRoot files = d.style r.projectRoot w.files := by
        have hscan := hasEntrypoint_written ht hl hm.replaced (hm.rendered x hx)
          (exists_root hc hl hroot hr) hw
        simp only [style, hd, hscan]
      have hartifact : d.artifactOf r intent x { w with files := files } =
          d.artifactOf r intent x w := by
        simp only [artifactOf, hstyle]
      obtain ⟨again, hagain, hsame⟩ := writeArtifact_ok_again hl hw
        (d.artifactOf r intent x { w with files := files })
      simp only [runGeneration_of_written (w := { w with files := files }) hc (hlater files hread)
        hagain hv]
      refine ⟨hsame hartifact, ?_⟩
      have hlog : d.writtenLog r intent x { w with files := files } = d.writtenLog r intent x w := by
        simp only [writtenLog, hartifact, hstyle]
      rw [hlog]
      exact .same _
  | verified _ _ _ hv _ => simp [hp.unverified] at hv

end Dispatcher

/-! ## A marker that stands in no test -/

/-- Reads the marker of a framework below the root. -/
def Dispatcher.scanning (marker : String) : Dispatcher Unit :=
  { Dispatcher.steady with hasEntrypoint := fun fs root => MarkerScan.hasEntrypoint fs root marker }

/-- A marker that is longer than the tests of a model. -/
def ServiceModel.longMarker (model : ServiceModel) : String :=
  model.render .isolatedMock .unit ++ model.render .frameworkIntegrated .unit ++ "!"

theorem Text.length_le_of_occursIn {needle s : List Char} (h : Text.occursIn needle s = true) :
    needle.length ≤ s.length := by
  induction s with
  | nil => simpa [Text.occursIn] using h
  | cons c s ih =>
      simp only [Text.occursIn, Bool.or_eq_true, List.isPrefixOf_iff_prefix] at h
      rcases h with h | h
      · exact h.length_le
      · exact Nat.le_succ_of_le (ih h)

theorem Text.occursIn_self (s : List Char) : Text.occursIn s s = true := by
  cases s with
  | nil => rfl
  | cons c s => simp [Text.occursIn]

theorem ServiceModel.notOccurs_longMarker (model : ServiceModel) (style : TemplateStyle) :
    Text.occursIn model.longMarker.toList (model.render style .unit).toList = false := by
  rw [Bool.eq_false_iff]
  intro h
  have hle := Text.length_le_of_occursIn h
  simp only [longMarker, String.toList_append, List.length_append] at hle
  have hbang : "!".toList.length = 1 := by decide
  cases style with
  | frameworkIntegrated => omega
  | isolatedMock => omega

def GenerateRequest.unverified : GenerateRequest :=
  ⟨"/p", "OrderTest.kt", none, none, false, 3⟩

def Dispatcher.modelOneTest : ServiceModel :=
  (Extraction.ofText "com.example" "OrderTest.kt" none "class OrderTest").model

theorem Dispatcher.generate_again_oneTest :
    let d := scanning modelOneTest.longMarker
    let first := d.generate .unverified .unit .oneTest
    let again := d.generate .unverified .unit first.2
    Plain .unverified ∧ World.oneTest.files.IsTree ∧ World.oneTest.files.Linkless ∧
      Unmarked d modelOneTest.longMarker .unverified .unit .oneTest ∧ first.1.failure = none ∧
      (∀ place, again.2.files.get? place = first.2.files.get? place) ∧
      ReportsAgain first.1 again.1 := by
  generalize hmarker : modelOneTest.longMarker = marker
  have ht : World.oneTest.files.IsTree := isTree_of_entries (by decide) (by decide)
  have hl := World.linkless_oneTest
  have hx := extract_ok World.readText_oneTest "com.example" none
  have htarget : GenerateRequest.unverified.target = "OrderTestTest.kt" := by decide
  have hunmarked : Unmarked (scanning marker) marker .unverified
      .unit .oneTest := by
    refine ⟨fun content hcontent => ?_, fun x hx' => ?_⟩
    · have hnone : World.oneTest.files.content? (World.oneTest.files.destination
          (Path.join GenerateRequest.unverified.projectRoot
            GenerateRequest.unverified.target)) = none := by
        decide
      rw [hnone] at hcontent
      cases hcontent
    · cases hx.symm.trans hx'
      rw [← hmarker]
      exact ServiceModel.notOccurs_longMarker _ _
  have hw := World.writeArtifact_oneTest (artifactOf (scanning marker) .unverified
    .unit (Extraction.ofText "com.example" "OrderTest.kt" none "class OrderTest") .oneTest)
  rw [← htarget] at hw
  have hc : GenerateRequest.unverified.check = .ok () := by decide
  have hwritten := (generate_written hc hx hw rfl).1
  have hplain : Plain GenerateRequest.unverified := ⟨rfl, rfl⟩
  have hagain := generate_again (scanning marker) (fun _ _ => rfl) .unverified
    .unit .oneTest hplain ht hl (fun ha => absurd ha (by decide)) hunmarked
  exact ⟨hplain, ht, hl, hunmarked, hwritten, hagain⟩

/-! ## A file in the way -/

/-- The directory `n` of a test is missing, and a file stands where it has a directory `f`. -/
def World.blocked : World Unit :=
  ⟨⟨[(["a"], .directory), (["a", "main"], .directory), (["a", "main", "n"], .directory),
    (["a", "main", "f"], .directory), (["a", "main", "f", "x"], .directory),
    (["a", "main", "f", "x", "F.kt"], .file "class F".toUTF8 false), (["a", "test"], .directory),
    (["a", "test", "f"], .file "".toUTF8 false)], []⟩, .still 0, ()⟩

def GenerateRequest.blocked : GenerateRequest :=
  ⟨"/", "a/main/n/../f/x/F.kt", none, none, false, 1⟩

namespace World

theorem linkless_blocked : blocked.files.Linkless :=
  linkless_of_entries (by decide) (by decide)

theorem isTree_blocked : blocked.files.IsTree :=
  isTree_of_entries (by decide) (by decide)

theorem readText_blocked :
    blocked.files.readText (Path.join "/" "a/main/n/../f/x/F.kt") = .ok "class F" := by
  refine readText_of_readBytes (readBytes_ok_iff.2 ⟨false, status_ok_iff.2
    ⟨["a", "main", "f", "x", "F.kt"], ?_, by decide⟩⟩)
  rw [linkless_blocked.resolve_eq]
  decide

/-- What the first generation leaves. -/
def blockedLater : FileSystem :=
  blocked.files.put ["a", "test", "n"] .directory

theorem linkless_blockedLater : blockedLater.Linkless :=
  linkless_of_entries (by decide) (by decide)

theorem lineage_blocked :
    lineage "/a/test/n/../f/x".length "/a/test/n/../f/x" =
      "/a/test/n/../f/x" :: "/a/test/n/../f" :: "/a/test/n/.." :: "/a/test/n" ::
        ["/a/test", "/a", "/"] := by
  decide

theorem createDirectories_blocked :
    blocked.files.createDirectories "/a/test/n/../f/x" = (.error .exists, blockedLater) := by
  have hl := linkless_blocked
  have hl' := linkless_blockedLater
  have hmissing {path : String} (hc : Path.Clean path)
      (h : ((checkPath path).bind fun _ => blocked.files.descend (blocked.files.start path)
        (pieces path)) = .error .notFound) :
      blocked.files.createDirectory path = .error .notFound :=
    createDirectory_of_resolve_error hl hc ((hl.resolve_eq path true).trans h)
  have hfirst : blocked.files.createLineage ("/a/test/n" :: ["/a/test", "/a", "/"]) =
      (.ok (), blockedLater) := by
    have hr : blocked.files.resolve "/a/test/n" true = .ok ["a", "test", "n"] :=
      (hl.resolve_eq _ true).trans (by decide)
    have hclean : Path.Clean "/a/test/n" := by decide
    rw [createLineage_of_tried (by decide) (createDirectory_ne_notFound hclean (hl.resolve_any hr _))]
    exact ensureDirectory_of_missing hclean (hl.resolve_any hr) (by decide)
  have hsecond : blocked.files.createLineage
      ("/a/test/n/.." :: "/a/test/n" :: ["/a/test", "/a", "/"]) = (.ok (), blockedLater) := by
    have hr : blockedLater.resolve "/a/test/n/.." true = .ok ["a", "test"] :=
      (hl'.resolve_eq _ true).trans (by decide)
    rw [createLineage_of_above_ok (by decide)
      (hmissing (by decide) (by decide)) hfirst]
    exact ensureDirectory_of_directory (by decide) (hl'.resolve_any hr) (by decide)
  have hthird : blocked.files.createLineage
      ("/a/test/n/../f" :: "/a/test/n/.." :: "/a/test/n" :: ["/a/test", "/a", "/"]) =
        (.error .exists, blockedLater) := by
    have hr : blockedLater.resolve "/a/test/n/../f" true = .ok ["a", "test", "f"] :=
      (hl'.resolve_eq _ true).trans (by decide)
    have hg : blockedLater.get? ["a", "test", "f"] = some (.file "".toUTF8 false) := by
      decide
    rw [createLineage_of_above_ok (by decide)
      (hmissing (by decide) (by decide)) hsecond]
    exact ensureDirectory_of_file (by decide) (hl'.resolve_any hr) hg
  rw [createDirectories, lineage_blocked]
  exact createLineage_of_above_error (by decide)
    (hmissing (by decide) (by decide)) hthird

theorem createDirectories_blockedLater :
    blockedLater.createDirectories "/a/test/n/../f/x" = (.error .notDirectory, blockedLater) := by
  have hl := linkless_blockedLater
  have hr : blockedLater.resolve "/a/test/n/../f/x" true = .error .notDirectory := by
    rw [hl.resolve_eq]
    decide
  rw [createDirectories, lineage_blocked, createLineage_of_error (by decide)
    (createDirectory_of_resolve_error hl (by decide) hr) (by decide),
    isDirectory_eq_false hr]
  rfl

end World

/-- A test that has no room. -/
theorem writeArtifact_uncreatable {root target directory : String} {e : FileError}
    {old new : FileSystem} (hp : Path.parent? (Path.join root target) = some directory)
    (h : old.createDirectories directory = (.error e, new)) (artifact : String) :
    writeArtifact root target artifact old = (.error (.uncreatable directory e), new) :=
  writeArtifact_of_cramped (makeRoom_of_uncreatable hp h)

namespace Dispatcher

theorem generate_uncreatable {σ : Type} {d : Dispatcher σ} {r : GenerateRequest} {w : World σ}
    {source directory : String} {e : FileError} {files : FileSystem} (hc : r.check = .ok ())
    (hr : w.files.readText (Path.join r.projectRoot r.servicePath) = .ok source)
    (hv : r.validate = false)
    (hup : Path.parent? (Path.join r.projectRoot r.target) = some directory)
    (hd : w.files.createDirectories directory = (.error e, files)) (intent : TestIntent) :
    (d.generate r intent w).1.failure = some (OperationFailure.uncreatable directory e).chain ∧
      (d.generate r intent w).2 = { w with files := files } := by
  have hx := extract_ok hr d.defaultPackage r.symbols
  have hw := writeArtifact_uncreatable hup hd (d.artifactOf r intent
    (Extraction.ofText d.defaultPackage r.servicePath r.symbols source) w)
  simp only [generate, generateAs, runGeneration_of_written hc hx hw hv]
  exact ⟨rfl, trivial⟩

/-- A generation that reports something else when it is repeated, though the marker of the
framework stands neither in the test nor in a file that it replaces. -/
structure DiffersAgain {σ : Type} (d : Dispatcher σ) (marker : String) (r : GenerateRequest)
    (intent : TestIntent) (w : World σ) : Prop where
  scans : ∀ fs root, d.hasEntrypoint fs root = MarkerScan.hasEntrypoint fs root marker
  plain : Plain r
  tree : w.files.IsTree
  linkless : w.files.Linkless
  unmarked : Unmarked d marker r intent w
  differs : (d.generate r intent (d.generate r intent w).2).1 ≠ (d.generate r intent w).1

def modelBlocked : ServiceModel :=
  (Extraction.ofText "com.example" "a/main/n/../f/x/F.kt" none "class F").model

/-- The first generation meets a file that exists, and the second finds that it is no directory. -/
theorem differsAgain_blocked :
    DiffersAgain (scanning modelBlocked.longMarker) modelBlocked.longMarker .blocked .unit
      .blocked := by
  have hc : GenerateRequest.blocked.check = .ok () := by decide
  have hup : Path.parent? (Path.join GenerateRequest.blocked.projectRoot
      GenerateRequest.blocked.target) = some "/a/test/n/../f/x" := by
    decide
  have hunmarked : Unmarked (scanning modelBlocked.longMarker) modelBlocked.longMarker .blocked .unit
      .blocked := by
    refine ⟨fun content hcontent => ?_, fun x hx => ?_⟩
    · have hnone : World.blocked.files.content? (World.blocked.files.destination
          (Path.join GenerateRequest.blocked.projectRoot GenerateRequest.blocked.target)) =
            none := by
        decide
      rw [hnone] at hcontent
      cases hcontent
    · cases (extract_ok World.readText_blocked "com.example" none).symm.trans hx
      exact ServiceModel.notOccurs_longMarker _ _
  have hlater : World.blockedLater.readText (Path.join "/" "a/main/n/../f/x/F.kt") =
      .ok "class F" := by
    have hsame := World.blocked.files.sameFiles_createDirectories "/a/test/n/../f/x"
    have hgrows := World.blocked.files.grows_createDirectories "/a/test/n/../f/x"
    rw [World.createDirectories_blocked] at hsame hgrows
    exact hsame.readText hgrows World.readText_blocked
  obtain ⟨hfailure, hworld⟩ := generate_uncreatable hc World.readText_blocked rfl hup
    World.createDirectories_blocked (d := scanning modelBlocked.longMarker) .unit
  obtain ⟨hfailure', -⟩ := generate_uncreatable
    (w := { World.blocked with files := World.blockedLater }) hc hlater rfl hup
    World.createDirectories_blockedLater (d := scanning modelBlocked.longMarker) .unit
  refine ⟨fun _ _ => rfl, ⟨rfl, rfl⟩, World.isTree_blocked, World.linkless_blocked, hunmarked, ?_⟩
  intro he
  rw [hworld] at he
  have hsame := congrArg GenerationReport.failure he
  rw [hfailure', hfailure] at hsame
  exact absurd hsame (by decide)

end Dispatcher

/-! ## A root that comes into being -/

/-- The root is named by way of the directory of the test, which is missing. -/
def World.moved (marker : String) : World Unit :=
  ⟨⟨[(["main"], .directory), (["main", "F.kt"], .file "class F".toUTF8 false),
    (["src"], .directory), (["src", "A.kt"], .file marker.toUTF8 false)], []⟩, .still 0, ()⟩

def GenerateRequest.moved : GenerateRequest :=
  ⟨"/test/../src", "/main/F.kt", none, none, false, 1⟩

namespace World

theorem linkless_moved (marker : String) : (moved marker).files.Linkless :=
  linkless_of_entries (by simp [moved]) (by simp [moved, Entry.isLink])

theorem isTree_moved (marker : String) : (moved marker).files.IsTree :=
  isTree_of_entries (by simp [moved]) (by simp [moved, FileSystem.get?, FileSystem.find?])

theorem readText_moved (marker : String) :
    (moved marker).files.readText (Path.join "/test/../src" "/main/F.kt") = .ok "class F" := by
  refine readText_of_readBytes (readBytes_ok_iff.2 ⟨false, status_ok_iff.2
    ⟨["main", "F.kt"], ?_, rfl⟩⟩)
  rw [(linkless_moved marker).resolve_eq]
  rfl

/-- What the first generation leaves. -/
def movedLater (marker artifact : String) : FileSystem :=
  ((moved marker).files.put ["test"] .directory).put ["test", "FTest.kt"]
    (.file artifact.toUTF8 false)

theorem linkless_movedLater (marker artifact : String) : (movedLater marker artifact).Linkless :=
  linkless_of_entries (by simp [movedLater, moved, put, setEntry])
    (by simp [movedLater, moved, put, setEntry, Entry.isLink])

theorem hasEntrypoint_moved (marker : String) :
    MarkerScan.hasEntrypoint (moved marker).files "/test/../src" marker = false := by
  rw [Bool.eq_false_iff]
  intro h
  obtain ⟨place, hr, -⟩ :=
    (MarkerScan.hasEntrypoint_iff (isTree_moved marker) (linkless_moved marker)).1 h
  have hnowhere : (moved marker).files.resolve "/test/../src" true = .error .notFound := by
    rw [(linkless_moved marker).resolve_eq]
    rfl
  rw [hnowhere] at hr
  cases hr

theorem hasEntrypoint_movedLater (marker artifact : String)
    (h : (movedLater marker artifact).IsTree) :
    MarkerScan.hasEntrypoint (movedLater marker artifact) "/test/../src" marker = true := by
  have hl := linkless_movedLater marker artifact
  refine (MarkerScan.hasEntrypoint_iff h hl).2 ⟨["src"], ?_, Or.inr ⟨rfl, ["A.kt"],
    marker.toUTF8, ⟨by decide, rfl, by decide, by decide, ?_⟩, rfl⟩⟩
  · rw [hl.resolve_eq]
    rfl
  · simp only [MarkerScan.holdsMarker, fromUTF8?_toUTF8]
    exact Text.occursIn_self _

theorem writeArtifact_moved (marker artifact : String) :
    writeArtifact "/test/../src" "/test/FTest.kt" artifact (moved marker).files =
      (.ok (), movedLater marker artifact) := by
  have hl := linkless_moved marker
  have hmade : (moved marker).files.createDirectories "/test" =
      (.ok (), (moved marker).files.put ["test"] .directory) := by
    have hlineage : lineage "/test".length "/test" = "/test" :: ["/"] := by decide
    have hnew : (moved marker).files.createDirectory "/test" =
        .ok ((moved marker).files.put ["test"] .directory) := by
      rw [createDirectory_eq hl (by decide), hl.resolve_eq]
      rfl
    rw [createDirectories, hlineage, createLineage_of_ok (by decide) hnew]
  have hwritten : ((moved marker).files.put ["test"] .directory).writeText "/test/FTest.kt"
      artifact = .ok (movedLater marker artifact) := by
    have hplace : ((moved marker).files.put ["test"] .directory).writePlace "/test/FTest.kt" =
        .ok ["test", "FTest.kt"] := by
      have hmoved : ((moved marker).files.put ["test"] .directory).Linkless :=
        linkless_of_entries (by simp [moved, put, setEntry])
          (by simp [moved, put, setEntry, Entry.isLink])
      rw [writePlace_ok_iff, hmoved.resolve_eq]
      exact ⟨by decide, rfl⟩
    have hnone : ((moved marker).files.put ["test"] .directory).get? ["test", "FTest.kt"] =
        none := rfl
    unfold writeText writeBytes
    rw [hplace]
    simp only [hnone]
    rfl
  have hpath : Path.join "/test/../src" "/test/FTest.kt" = "/test/FTest.kt" := by decide
  have hup : Path.parent? "/test/FTest.kt" = some "/test" := by decide
  rw [← hpath] at hup hwritten
  exact writeArtifact_of_writes hup hmade hwritten

end World

namespace Dispatcher

/-- The log of a written test tells its style. -/
theorem style_of_writtenLog {σ : Type} {d : Dispatcher σ} {r : GenerateRequest}
    {intent : TestIntent} {x : Extraction} {w later : World σ}
    (h : d.writtenLog r intent x later = d.writtenLog r intent x w) :
    d.style r.projectRoot later.files = d.style r.projectRoot w.files := by
  simp only [writtenLog, writtenStep, artifactResult, StepLog.mk.injEq, List.cons.injEq,
    Step.mk.injEq, Option.some.injEq, Json.obj.injEq, Prod.mk.injEq, Json.bool.injEq,
    decide_eq_decide, true_and, and_true] at h
  obtain ⟨-, hstyle⟩ := h
  cases hw : d.style r.projectRoot w.files with
  | frameworkIntegrated => exact hstyle.2 hw
  | isolatedMock =>
      cases hl : d.style r.projectRoot later.files with
      | frameworkIntegrated => exact absurd (hw.symm.trans (hstyle.1 hl)) (by decide)
      | isolatedMock => rfl

/-- A test in another style is another report. -/
theorem generate_differs_of_style {σ : Type} {d : Dispatcher σ} {r : GenerateRequest}
    {intent : TestIntent} {w : World σ} {x : Extraction} {files : FileSystem}
    (hl : w.files.Linkless) (hc : r.check = .ok ())
    (hx : extract w.files d.defaultPackage r.projectRoot r.servicePath r.symbols = .ok x)
    (hw : writeArtifact r.projectRoot r.target (d.artifactOf r intent x w) w.files =
      (.ok (), files))
    (hx' : extract files d.defaultPackage r.projectRoot r.servicePath r.symbols = .ok x)
    (hv : r.validate = false)
    (hstyle : d.style r.projectRoot files ≠ d.style r.projectRoot w.files) :
    (d.generate r intent (d.generate r intent w).2).1 ≠ (d.generate r intent w).1 := by
  obtain ⟨-, hlog, hworld⟩ := generate_written hc hx hw hv
  rw [hworld]
  intro he
  have hsame := congrArg GenerationReport.steps he
  obtain ⟨again, hw', -⟩ := writeArtifact_ok_again hl hw
    (d.artifactOf r intent x { w with files := files })
  rw [hlog, (generate_written (w := { w with files := files }) hc hx' hw' hv).2.1] at hsame
  exact hstyle (style_of_writtenLog hsame)

def modelMoved : ServiceModel :=
  (Extraction.ofText "com.example" "/main/F.kt" none "class F").model

/-- The root leads nowhere before the test is written, and to the marker of the framework then. -/
theorem differsAgain_moved :
    DiffersAgain (scanning modelMoved.longMarker) modelMoved.longMarker .moved .unit
      (.moved modelMoved.longMarker) := by
  generalize hmarker : modelMoved.longMarker = marker
  have hl := World.linkless_moved marker
  have ht := World.isTree_moved marker
  have hc : GenerateRequest.moved.check = .ok () := by decide
  have hx := extract_ok (World.readText_moved marker) "com.example" none
  have hplain : Plain GenerateRequest.moved := ⟨rfl, rfl⟩
  have htarget : GenerateRequest.moved.target = "/test/FTest.kt" := by decide
  have hunmarked : Unmarked (scanning marker) marker .moved .unit (.moved marker) := by
    refine ⟨fun content hcontent => ?_, fun x hx' => ?_⟩
    · have hnone : (World.moved marker).files.content? ((World.moved marker).files.destination
          (Path.join GenerateRequest.moved.projectRoot GenerateRequest.moved.target)) = none := rfl
      rw [hnone] at hcontent
      cases hcontent
    · cases hx.symm.trans hx'
      rw [← hmarker]
      exact ServiceModel.notOccurs_longMarker _ _
  refine ⟨fun _ _ => rfl, hplain, ht, hl, hunmarked, fun he => ?_⟩
  have hw := World.writeArtifact_moved marker (artifactOf (scanning marker) .moved .unit
    (Extraction.ofText "com.example" "/main/F.kt" none "class F") (.moved marker))
  rw [← htarget] at hw
  have hname : Path.IsName (Layout.lastPiece "/main/F.kt".toList) := by
    constructor <;> decide
  have hread := (writeArtifact_changes hl hw).readText hl (by
    unfold AtTest
    rw [htarget]
    exact apart_testPath hname) (World.readText_moved marker)
  have htree := isTree_writeArtifact ht hl "/test/../src" GenerateRequest.moved.target
    (artifactOf (scanning marker) .moved .unit
      (Extraction.ofText "com.example" "/main/F.kt" none "class F") (.moved marker))
  rw [hw] at htree
  refine generate_differs_of_style hl hc hx hw (extract_ok hread "com.example" none) rfl ?_ he
  have hthere := World.hasEntrypoint_movedLater marker _ htree
  have hnowhere := World.hasEntrypoint_moved marker
  change TemplateStyle.forFramework (MarkerScan.hasEntrypoint _ "/test/../src" marker) ≠
    .forFramework (MarkerScan.hasEntrypoint _ "/test/../src" marker)
  rw [hthere, hnowhere]
  decide

/-- Each of the exceptions of a repeated generation is needed: another cause can be told although
the root is there, and another test rendered if the root is not there. -/
theorem generate_differs_again :
    (DiffersAgain (scanning modelBlocked.longMarker) modelBlocked.longMarker .blocked .unit
        .blocked ∧
      World.blocked.files.exists? GenerateRequest.blocked.projectRoot = true) ∧
    DiffersAgain (scanning modelMoved.longMarker) modelMoved.longMarker .moved .unit
      (.moved modelMoved.longMarker) := by
  refine ⟨⟨differsAgain_blocked, ?_⟩, differsAgain_moved⟩
  have hroot : World.blocked.files.resolve "/" true = .ok [] := by
    rw [World.linkless_blocked.resolve_eq]
    rfl
  change World.blocked.files.exists? "/" = true
  simp only [FileSystem.exists?, FileSystem.status, hroot]
  rfl

end Dispatcher

end TestForge
