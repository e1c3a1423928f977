import TestForge.Proofs.FileSystem.Lineage
import TestForge.Proofs.FileSystem.Trees
import TestForge.Proofs.Layout.Sources
import TestForge.Proofs.Operation.BatchFold
import TestForge.Proofs.Operation.Frame

/-!
# Where the items of a batch write

An item that is not verified writes its test or nothing. The tests of main sources are apart from
each other and from the sources, so that no item undoes what another has done.
-/

namespace TestForge

/-! ## Places of main sources -/

namespace Layout

theorem MainSource.place {service : String} (h : MainSource service) (fs : FileSystem)
    (root : String) :
    fs.destination (Path.join root service) =
      fs.destination root ++ FileSystem.pieces service :=
  fs.destination_join_names root h.names

theorem MainSource.testPlace {service : String} (h : MainSource service) (fs : FileSystem)
    (root : String) :
    fs.destination (Path.join root (testPath service)) =
      fs.destination root ++ FileSystem.pieces (testPath service) :=
  fs.destination_join_names root h.names_testPath

theorem MainSource.testPlace_inj {service other : String} (h : MainSource service)
    (ho : MainSource other) {fs : FileSystem} {root : String}
    (he : fs.destination (Path.join root (testPath service)) =
      fs.destination (Path.join root (testPath other))) : service = other := by
  rw [h.testPlace, ho.testPlace] at he
  exact h.testPath_injective ho (FileSystem.pieces_injective (List.append_cancel_left he))

theorem MainSource.testPlace_ne {service other : String} (h : MainSource service)
    (ho : MainSource other) (fs : FileSystem) (root : String) :
    fs.destination (Path.join root (testPath service)) ≠ fs.destination (Path.join root other) := by
  intro he
  rw [h.testPlace, ho.place] at he
  exact h.testPath_ne ho (FileSystem.pieces_injective (List.append_cancel_left he))

end Layout

namespace Dispatcher

variable {σ : Type} {d : Dispatcher σ}

/-! ## One item -/

theorem generateAs_changes {op : Operation} {r : GenerateRequest} {intent : TestIntent}
    {w : World σ} (hv : r.validate = false) (hl : w.files.Linkless) :
    w.files.ChangesOnly (d.generateAs op r intent w).2.files
      (AtTest w.files r.projectRoot r.target) := by
  have hgen := generation_runGeneration d op r intent w
  unfold generateAs
  generalize d.runGeneration op r intent w = generated at hgen ⊢
  cases hgen with
  | rejected _ => exact .refl _ _
  | unreadable _ _ => exact .refl _ _
  | unwritten _ _ hw => exact writeArtifact_changes hl hw
  | unverified _ _ hw _ => exact writeArtifact_changes hl hw
  | verified _ _ _ hv' _ => simp [hv] at hv'

/-- What is reported of a test that was written and not verified. -/
def writtenReport (d : Dispatcher σ) (r : GenerateRequest) (intent : TestIntent) (x : Extraction)
    (w : World σ) : GenerationReport :=
  ⟨r.servicePath, r.target, d.writtenLog r intent x w, none⟩

theorem generateAs_written {op : Operation} {r : GenerateRequest} {intent : TestIntent}
    {w : World σ} (hv : r.validate = false) (hs : (d.generateAs op r intent w).1.success = true) :
    ∃ x, extract w.files d.defaultPackage r.projectRoot r.servicePath r.symbols = .ok x ∧
      (d.generateAs op r intent w).1 = d.writtenReport r intent x w ∧
      (d.generateAs op r intent w).2.files.readText (Path.join r.projectRoot r.target) =
        .ok (d.artifactOf r intent x w) := by
  have hgen := generation_runGeneration d op r intent w
  unfold generateAs at hs ⊢
  generalize d.runGeneration op r intent w = generated at hgen hs ⊢
  cases hgen with
  | rejected _ => simp [GenerationReport.success] at hs
  | unreadable _ _ => simp [GenerationReport.success] at hs
  | unwritten _ _ _ => simp [GenerationReport.success] at hs
  | @unverified x files _ hx hw _ =>
      exact ⟨x, hx, rfl, FileSystem.readText_of_readBytes (writeArtifact_ok hw).2⟩
  | verified _ _ _ hv' _ => simp [hv] at hv'

/-! ## All items -/

variable {r : BatchRequest} {paths : List String} {tally : BatchTally} {w : World σ}

/-- A place of one of some tests. -/
def AtTests (fs : FileSystem) (root : String) (paths : List String) (place : Location) : Prop :=
  ∃ path ∈ paths, AtTest fs root (Layout.testPath path) place

theorem runItems_changes (hv : r.validate = false) (hl : w.files.Linkless) :
    w.files.ChangesOnly (d.runItems r paths tally w).2.2.files
      (AtTests w.files r.projectRoot paths) := by
  induction paths generalizing tally w with
  | nil => exact .refl _ _
  | cons path rest ih =>
      obtain ⟨item, -, hstep⟩ := d.runItems_cons r path w
      have hone : w.files.ChangesOnly (d.generate (r.item path) .unit w).2.files
          (AtTests w.files r.projectRoot (path :: rest)) :=
        (generateAs_changes hv hl).mono fun place hp => ⟨path, List.mem_cons_self, hp⟩
      simp only [hstep]
      split
      · refine hone.trans ((ih (hone.grows.linkless hl)).mono fun place hp => ?_)
        obtain ⟨other, ho, hp⟩ := hp
        unfold AtTest at hp
        rw [hone.grows.destination] at hp
        exact ⟨other, List.mem_cons_of_mem path ho, hp⟩
      · exact hone

/-- What holds of an item whose test was written, of the world in front of it and of the files that
are left in the end. -/
structure ItemWritten (d : Dispatcher σ) (r : BatchRequest) (before : World σ) (item : BatchItem)
    (after : FileSystem) (x : Extraction) : Prop where
  extracted : extract before.files d.defaultPackage r.projectRoot item.servicePath none = .ok x
  reported : item.report = d.writtenReport (r.item item.servicePath) .unit x before
  left : after.readText (Path.join r.projectRoot (Layout.testPath item.servicePath)) =
    .ok (d.artifactOf (r.item item.servicePath) .unit x before)

theorem itemWritten_generate {path : String} {item : BatchItem} (hv : r.validate = false)
    (hi : ItemOf (d.generate (r.item path) .unit w) item) (hs : item.status = .success) :
    ∃ x, ItemWritten d r w item (d.generate (r.item path) .unit w).2.files x := by
  obtain ⟨x, hx, hreport, hleft⟩ := generateAs_written (d := d) (r := r.item path) hv (hi.status.1 hs)
  have hpath : item.servicePath = path := hi.servicePath
  have hsame : item.report = (d.generate (r.item path) .unit w).1 := by
    rcases hi.report with he | ⟨fault, hf, -⟩
    · exact he
    · rw [show (d.generate (r.item path) .unit w).1.failure = none from
        congrArg (·.failure) hreport] at hf
      cases hf
  subst hpath
  exact ⟨x, hx, hsame.trans hreport, hleft⟩

theorem ItemWritten.later {before : World σ} {item : BatchItem} {old new : FileSystem}
    {x : Extraction} (h : ItemWritten d r before item old x) (hl : old.Linkless)
    (hc : old.ChangesOnly new (AtTests old r.projectRoot paths))
    (hi : Layout.MainSource item.servicePath) (hp : ∀ path ∈ paths, Layout.MainSource path)
    (hn : item.servicePath ∉ paths) : ItemWritten d r before item new x := by
  refine ⟨h.extracted, h.reported, hc.readText hl ?_ h.left⟩
  rintro ⟨path, hm, hplace⟩
  exact hn (hi.testPlace_inj (hp path hm) hplace ▸ hm)

/-- Every item that succeeds leaves its test, if no two are for one service. -/
theorem runItems_written (hv : r.validate = false) (hl : w.files.Linkless)
    (hp : ∀ path ∈ paths, Layout.MainSource path) (hn : paths.Nodup) (i : Nat) (item : BatchItem)
    (hi : (d.runItems r paths tally w).1[i]? = some item) (hs : item.status = .success) :
    ∃ x, ItemWritten d r (worldAfter ((d.generateEach r paths w).take i) w) item
      (d.runItems r paths tally w).2.2.files x := by
  -- by induction on the services; those that come later have other tests than the first
  induction paths generalizing tally w i with
  | nil => simp [runItems] at hi
  | cons path rest ih =>
      obtain ⟨first, hfirst, hstep⟩ := d.runItems_cons r path w
      obtain ⟨hnotin, hrest⟩ := List.nodup_cons.1 hn
      have hnext : (d.generate (r.item path) .unit w).2.files.Linkless :=
        (generateAs_changes hv hl).grows.linkless hl
      have hpath : first.servicePath = path := hfirst.servicePath
      have hlater := fun other ho => hp other (List.mem_cons_of_mem path ho)
      simp only [hstep] at hi ⊢
      split at hi
      · rename_i hgo
        rw [if_pos hgo]
        cases i with
        | zero =>
            cases hi
            obtain ⟨x, hx⟩ := itemWritten_generate hv hfirst hs
            exact ⟨x, hx.later hnext (runItems_changes hv hnext)
              (hpath ▸ hp path List.mem_cons_self) hlater (hpath ▸ hnotin)⟩
        | succ i =>
            simp only [generateEach, List.take_succ_cons, worldAfter_cons]
            exact ih hnext hlater hrest i hi
      · rename_i hgo
        rw [if_neg hgo]
        cases i with
        | zero =>
            cases hi
            exact itemWritten_generate hv hfirst hs
        | succ i => simp at hi

/-! ## Whole batches -/

/-- Distinct main sources have distinct tests, and no test is one of the sources. So the items of a
batch that are not verified undo nothing of each other: the sources keep their content, and each
test whose item succeeds is left as that item has rendered it. -/
theorem batch_apart (d : Dispatcher σ) (r : BatchRequest) (w : World σ)
    (hsources : ∀ path ∈ r.servicePaths, Layout.MainSource path) :
    (∀ path ∈ r.servicePaths, ∀ other ∈ r.servicePaths,
      Layout.testPath path = Layout.testPath other → path = other) ∧
    (∀ path ∈ r.servicePaths, ∀ other ∈ r.servicePaths, Layout.testPath path ≠ other) ∧
    (r.validate = false → r.servicePaths.Nodup → w.files.Linkless →
      let runs := d.generateEach r r.servicePaths w
      let report := (d.generateBatch r w).1
      let after := (d.generateBatch r w).2.files
      (∀ path ∈ r.servicePaths,
        after.content? (w.files.destination (Path.join r.projectRoot path)) =
          w.files.content? (w.files.destination (Path.join r.projectRoot path)) ∧
        ∀ content, w.files.readBytes (Path.join r.projectRoot path) = .ok content →
          after.readBytes (Path.join r.projectRoot path) = .ok content) ∧
      ∀ i item, report.items[i]? = some item → item.status = .success →
        ∃ x, ItemWritten d r (worldAfter (runs.take i) w) item after x) := by
  refine ⟨fun path hp other ho => (hsources path hp).testPath_injective (hsources other ho),
    fun path hp other ho => (hsources path hp).testPath_ne (hsources other ho), ?_⟩
  intro hv hn hl
  simp only [generateBatch]
  split
  · exact ⟨fun path hp => ⟨rfl, fun content hr => hr⟩, fun i item hi => by simp [rejectedBatch] at hi⟩
  · have hchanges : w.files.ChangesOnly
        (d.runItems r r.servicePaths (.start r.servicePaths.length) w).2.2.files
        (AtTests w.files r.projectRoot r.servicePaths) := runItems_changes hv hl
    refine ⟨fun path hp => ?_, fun i item hi hs => runItems_written hv hl hsources hn i item hi hs⟩
    have happart : ¬AtTests w.files r.projectRoot r.servicePaths
        (w.files.destination (Path.join r.projectRoot path)) := by
      rintro ⟨other, ho, hplace⟩
      exact (hsources other ho).testPlace_ne (hsources path hp) w.files r.projectRoot hplace.symm
    refine ⟨Classical.byContradiction fun hd => happart (hchanges.named _ hd), fun content hr => ?_⟩
    exact hchanges.readBytes hl happart hr

end Dispatcher

/-! ## A project with two services -/

def World.twoMains : World Unit :=
  ⟨⟨[(["a"], .directory), (["a", "main"], .directory),
    (["a", "main", "F.kt"], .file "class F".toUTF8 false),
    (["a", "main", "G.kt"], .file "class G".toUTF8 false), (["a", "test"], .directory)], []⟩,
    .still 0, ()⟩

def BatchRequest.twoMains : BatchRequest :=
  ⟨"/", ["a/main/F.kt", "a/main/G.kt"], false, 1, true⟩

namespace World

open FileSystem

theorem linkless_twoMains : twoMains.files.Linkless :=
  linkless_of_entries (by decide) (by decide)

theorem resolve_twoMains (path : String) :
    twoMains.files.resolve path true =
      (checkPath path).bind fun _ => twoMains.files.descend (twoMains.files.start path)
        (pieces path) :=
  linkless_twoMains.resolve_eq path true

theorem readText_twoMains :
    twoMains.files.readText (Path.join "/" "a/main/F.kt") = .ok "class F" := by
  refine readText_of_readBytes (readBytes_ok_iff.2 ⟨false, status_ok_iff.2
    ⟨["a", "main", "F.kt"], ?_, by decide⟩⟩)
  rw [resolve_twoMains]
  decide

theorem writeArtifact_twoMains (artifact : String) :
    writeArtifact "/" "a/test/FTest.kt" artifact twoMains.files =
      (.ok (), twoMains.files.put ["a", "test", "FTest.kt"] (.file artifact.toUTF8 false)) := by
  have hpath : Path.join "/" "a/test/FTest.kt" = "/a/test/FTest.kt" := by decide
  have hup : Path.parent? "/a/test/FTest.kt" = some "/a/test" := by decide
  have hdirectory : twoMains.files.isDirectory "/a/test" = true := by
    refine isDirectory_iff.2 ⟨["a", "test"], ?_, by decide⟩
    rw [resolve_twoMains]
    decide
  have hthere : twoMains.files.createDirectories "/a/test" = (.ok (), twoMains.files) := by
    rw [createDirectories, lineage_eq, createLineage_of_isDirectory linkless_twoMains (by decide)
      (by decide) hdirectory]
  have hplace : twoMains.files.writePlace "/a/test/FTest.kt" = .ok ["a", "test", "FTest.kt"] := by
    rw [writePlace_ok_iff, resolve_twoMains]
    exact ⟨by decide, by decide⟩
  have hnone : twoMains.files.get? ["a", "test", "FTest.kt"] = none := by decide
  unfold writeArtifact makeRoom
  simp only [hpath, hup, hthere, writeText, writeBytes, hplace, hnone]

end World

namespace Dispatcher

/-- The first service has its test when the batch is over. -/
theorem batch_apart_twoMains :
    (∀ path ∈ BatchRequest.twoMains.servicePaths, Layout.MainSource path) ∧
      BatchRequest.twoMains.validate = false ∧ BatchRequest.twoMains.servicePaths.Nodup ∧
      World.twoMains.files.Linkless ∧
      ∃ item x, item.servicePath = "a/main/F.kt" ∧ item.status = .success ∧
        ItemWritten steady .twoMains .twoMains item
          (steady.generateBatch .twoMains .twoMains).2.files x := by
  have hsources : ∀ path ∈ BatchRequest.twoMains.servicePaths, Layout.MainSource path := by
    decide
  have hnodup : BatchRequest.twoMains.servicePaths.Nodup := by decide
  have hapart := ((batch_apart steady .twoMains .twoMains hsources).2.2 rfl hnodup
    World.linkless_twoMains).2
  have hc : (BatchRequest.twoMains.item "a/main/F.kt").check = .ok () := by decide
  have hx := extract_ok World.readText_twoMains "com.example" none
  have hw := World.writeArtifact_twoMains (steady.artifactOf (BatchRequest.twoMains.item
    "a/main/F.kt") .unit (Extraction.ofText "com.example" "a/main/F.kt" none "class F") .twoMains)
  have htarget : (BatchRequest.twoMains.item "a/main/F.kt").target = "a/test/FTest.kt" := by
    decide
  rw [← htarget] at hw
  obtain ⟨hfailure, hsteps, -⟩ := generate_written hc hx hw rfl
  obtain ⟨item, hitem, hstep⟩ := steady.runItems_cons .twoMains "a/main/F.kt" .twoMains
  have hstatus : item.status = .success := by
    rw [hitem.status, GenerationReport.success, hfailure, hsteps]
    rfl
  have hfirst : (steady.generateBatch .twoMains .twoMains).1.items[0]? = some item := by
    have hcheck : BatchRequest.twoMains.check = .ok () := by decide
    simp only [generateBatch, hcheck]
    change (steady.runItems .twoMains ["a/main/F.kt", "a/main/G.kt"] _ .twoMains).1[0]? = some item
    rw [hstep]
    simp [BatchRequest.twoMains]
  obtain ⟨x, hwritten⟩ := hapart 0 item hfirst hstatus
  exact ⟨hsources, rfl, hnodup, World.linkless_twoMains, item, x, hitem.servicePath, hstatus,
    hwritten⟩

end Dispatcher

end TestForge
