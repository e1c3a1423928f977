import TestForge.Proofs.Layout.Ways
import TestForge.Proofs.Operation.Artifacts
import TestForge.Proofs.Operation.BatchPlaces

/-!
# The order of a batch

What the generation of a test changes is on the way to that test, behind the directory `test`. There
no other generation reads, and it writes nothing but directories that are missing. So the tests of
main sources can be generated in any order, each as if it were the only one.
-/

namespace TestForge

open FileSystem

/-! ## Generations that are not verified -/

namespace Dispatcher

variable {σ : Type} {d : Dispatcher σ} {op : Operation} {intent : TestIntent}

/-- The framework is found or not, whatever lies in the tree. -/
def FixedDetector (d : Dispatcher σ) : Prop :=
  ∀ fs fs' root, d.hasEntrypoint fs root = d.hasEntrypoint fs' root

/-- The report of a generation that ended with a log and what stopped it. -/
def reportOf (r : GenerateRequest) (log : StepLog) (failure : Option OperationFailure) :
    GenerationReport :=
  ⟨r.servicePath, r.target, log, failure.map (·.chain)⟩

/-- A generation below a root, which is not verified. -/
theorem generateAs_eq (d : Dispatcher σ) (op : Operation) (r : GenerateRequest)
    (intent : TestIntent) {w : World σ} {up file : String} {base : Location} {dirs : List String}
    (hv : r.validate = false) (hr : Rooted w.files r.projectRoot base)
    (h : Target r.projectRoot r.target up dirs file) :
    ∃ made, w.files.MadeOn made base dirs ∧
      d.generateAs op r intent w = match r.check with
        | .error fault => (reportOf r .empty (some (.invalid op fault)), w)
        | .ok () =>
          match extract w.files d.defaultPackage r.projectRoot r.servicePath r.symbols with
          | .error e => (reportOf r ⟨[unreadableStep e]⟩ (some (.unreadableService e)), w)
          | .ok x =>
            match written w.files r.projectRoot r.target up base dirs file with
            | .error failure =>
              (reportOf r ⟨[analyzedStep x, unwrittenStep failure]⟩ (some failure),
                { w with files := made })
            | .ok () =>
              (reportOf r (d.writtenLog r intent x w) none,
                World.mk (made.put (base ++ (dirs ++ [file]))
                  (.file (d.artifactOf r intent x w).toUTF8
                    (w.files.executableAt (base ++ (dirs ++ [file]))))) w.clock w.tools) := by
  cases hc : r.check with
  | error fault =>
      refine ⟨w.files, .refl _ _ _, ?_⟩
      simp only [generateAs, runGeneration, hc]
      rfl
  | ok _ =>
      cases hx : extract w.files d.defaultPackage r.projectRoot r.servicePath r.symbols with
      | error e =>
          refine ⟨w.files, .refl _ _ _, ?_⟩
          simp only [generateAs, runGeneration, hc, hx]
          rfl
      | ok x =>
          obtain ⟨made, hmade, hw⟩ := writeArtifact_eq hr h (d.artifactOf r intent x w)
          refine ⟨made, hmade, ?_⟩
          simp only
          cases hwritten : written w.files r.projectRoot r.target up base dirs file with
          | error failure =>
              rw [hwritten] at hw
              simp only [generateAs, runGeneration_of_written hc hx hw hv]
              rfl
          | ok _ =>
              rw [hwritten] at hw
              simp only [generateAs, runGeneration_of_written hc hx hw hv]
              rfl

/-! ## What other generations leave -/

/-- Where the test of a main source lies below a root. -/
def testPlace (base : Location) (service : String) : Location :=
  base ++ pieces (Layout.testPath service)

/-- A place behind the directory `test` on the way to a test. -/
def OnWay (base : Location) (service : String) (place : Location) : Prop :=
  ∃ way rest, rest ≠ [] ∧ pieces (Layout.testPath service) = way ++ rest ∧ "test" ∈ way.tail ∧
    place = base ++ way

/-- What the generation for one service alone leaves. -/
def alone (d : Dispatcher σ) (r : BatchRequest) (w : World σ) (service : String) : FileSystem :=
  (d.generateAs .generateBatchTests (r.item service) .unit w).2.files

/-- A world after the generations for some services: each test is as its generation alone leaves
it, and nothing else differs but directories on the ways to the tests. -/
structure After (d : Dispatcher σ) (r : BatchRequest) (w : World σ) (base : Location)
    (services : List String) (later : World σ) : Prop where
  world : later = { w with files := later.files }
  tree : later.files.IsTree
  grows : w.files.Grows later.files
  directories : ∀ place, later.files.get? place = some .directory →
    w.files.get? place = some .directory ∨
      w.files.get? place = none ∧ ∃ s ∈ services, OnWay base s place
  tests : ∀ s ∈ services, ∀ content x,
    later.files.get? (testPlace base s) = some (.file content x) ↔
      (d.alone r w s).get? (testPlace base s) = some (.file content x)
  others : ∀ place, (∀ s ∈ services, place ≠ testPlace base s) → ∀ content x,
    later.files.get? place = some (.file content x) ↔
      w.files.get? place = some (.file content x)

/-- Services whose generations can be told apart by their places. -/
structure Apart (services : List String) : Prop where
  sources : ∀ s ∈ services, Layout.MainSource s
  unnested : ∀ s ∈ services, ∀ t ∈ services,
    ¬(Layout.testPath s).toList ++ ['/'] <+: (Layout.testPath t).toList

section

variable {r : BatchRequest} {w later : World σ} {base : Location} {all services : List String}
  {s : String}

theorem After.start (ht : w.files.IsTree) : After d r w base [] w where
  world := rfl
  tree := ht
  grows := .refl _
  directories _ hd := Or.inl hd
  tests _ hs := absurd hs List.not_mem_nil
  others _ _ _ _ := Iff.rfl

/-- Where the files are the same, nothing can have come but a directory on the way to a test. -/
theorem After.get?_cases (h : After d r w base services later) (hl : w.files.Linkless)
    {place : Location} (hf : ∀ content x, later.files.get? place = some (.file content x) ↔
      w.files.get? place = some (.file content x)) :
    later.files.get? place = w.files.get? place ∨
      w.files.get? place = none ∧ later.files.get? place = some .directory ∧
        ∃ s ∈ services, OnWay base s place := by
  cases hg : later.files.get? place with
  | none => exact Or.inl (h.grows.eq_none hg).symm
  | some entry =>
      cases entry with
      | file content x => exact Or.inl ((hf content x).1 hg).symm
      | directory =>
          rcases h.directories place hg with ho | ⟨ho, hs⟩
          · exact Or.inl ho.symm
          · exact Or.inr ⟨ho, rfl, hs⟩
      | link target => exact absurd hg (h.grows.linkless hl place target)

/-- Sources are read as before. -/
theorem After.source (h : After d r w base services later) (hl : w.files.Linkless)
    (ha : Apart all) (hsub : services ⊆ all) (hs : s ∈ all) {front : List String}
    (hp : front <+: pieces s) :
    later.files.get? (base ++ front) = w.files.get? (base ++ front) := by
  have hoff {t : String} (ht : t ∈ services) (hway : front <+: pieces (Layout.testPath t))
      (hm : "test" ∈ front.tail) : False :=
    (ha.sources t (hsub ht)).off_way (ha.sources s hs) hway hm hp
  have hsame := h.get?_cases hl (h.others (base ++ front) fun t ht he => by
    have hfront := List.append_cancel_left he
    refine hoff ht (hfront ▸ List.prefix_refl _) (hfront ▸ ?_)
    exact (ha.sources t (hsub ht)).test_mem)
  rcases hsame with hsame | ⟨-, -, t, ht, way, rest, -, hpieces, hm, he⟩
  · exact hsame
  · obtain rfl := List.append_cancel_left he
    exact (hoff ht ⟨rest, hpieces.symm⟩ hm).elim

theorem testPlace_injective (ha : Apart all) {t : String} (hs : s ∈ all) (ht : t ∈ all)
    (he : testPlace base s = testPlace base t) : s = t :=
  (ha.sources s hs).testPath_injective (ha.sources t ht)
    (pieces_injective (List.append_cancel_left he))

/-- No test is on the way to a test. -/
theorem Apart.not_onWay (ha : Apart all) {t : String} (hs : s ∈ all) (ht : t ∈ all) :
    ¬OnWay base t (testPlace base s) := by
  rintro ⟨way, rest, hne, hpieces, -, he⟩
  obtain rfl := List.append_cancel_left he
  obtain rfl := (ha.sources s hs).eq_of_onWay (ha.sources t ht) (ha.unnested s hs t ht)
    ⟨rest, hpieces.symm⟩
  exact hne (List.append_right_eq_self.1 hpieces.symm)

/-- The way to a test is as it was, but for directories that have come. -/
theorem After.way (h : After d r w base services later) (hl : w.files.Linkless)
    (ha : Apart all) (hsub : services ⊆ all) (hs : s ∈ all) {front rest : List String}
    (hp : pieces (Layout.testPath s) = front ++ rest) (hne : rest ≠ []) :
    later.files.get? (base ++ front) = w.files.get? (base ++ front) ∨
      w.files.get? (base ++ front) = none ∧
        later.files.get? (base ++ front) = some .directory := by
  have hcases := h.get?_cases hl (h.others (base ++ front) fun t ht he => by
    have hfront := List.append_cancel_left he
    subst hfront
    obtain rfl := (ha.sources t (hsub ht)).eq_of_onWay (ha.sources s hs)
      (ha.unnested t (hsub ht) s hs) ⟨rest, hp.symm⟩
    exact hne (List.append_right_eq_self.1 hp.symm))
  exact hcases.imp_right fun ⟨ho, hn, _⟩ => ⟨ho, hn⟩

/-- Where a test goes, there is what was there, or the test as its generation alone leaves it. -/
theorem After.test (h : After d r w base services later) (hl : w.files.Linkless)
    (ha : Apart all) (hsub : services ⊆ all) (hs : s ∈ all)
    (hspot : w.files.SameButText (d.alone r w s) (testPlace base s)) :
    w.files.SameButText later.files (testPlace base s) := by
  have hsame (hf : ∀ content x, later.files.get? (testPlace base s) = some (.file content x) ↔
      w.files.get? (testPlace base s) = some (.file content x)) :
      w.files.SameButText later.files (testPlace base s) := by
    rcases h.get?_cases hl hf with hsame | ⟨-, -, t, ht, hway⟩
    · exact Or.inl hsame
    · exact (ha.not_onWay hs (hsub ht) hway).elim
  by_cases hm : s ∈ services
  · have htests := h.tests s hm
    rcases hspot with halone | ⟨⟨content, halone⟩, hold⟩
    · exact hsame fun content x => by rw [htests, halone]
    · exact Or.inr ⟨⟨content, (htests _ _).2 halone⟩, hold⟩
  · exact hsame (h.others _ fun t ht he => hm (testPlace_injective ha hs (hsub ht) he ▸ ht))

/-- One more generation that has changed nothing but the way to its test, and the test. -/
theorem After.extend (h : After d r w base services later) (ha : Apart all)
    (hsub : services ⊆ all) (hs : s ∈ all) {files : FileSystem} (ht : files.IsTree)
    (hg : later.files.Grows files)
    (hchanged : ∀ place, files.get? place = later.files.get? place ∨
      (later.files.get? place = none ∧ files.get? place = some .directory ∧ OnWay base s place) ∨
      place = testPlace base s ∧ ∃ content x, files.get? place = some (.file content x))
    (htest : ∀ content x, files.get? (testPlace base s) = some (.file content x) ↔
      (d.alone r w s).get? (testPlace base s) = some (.file content x)) :
    After d r w base (services ++ [s]) { later with files := files } := by
  have hfile {place : Location} (hp : place ≠ testPlace base s) (content : ByteArray) (x : Bool) :
      files.get? place = some (.file content x) ↔
        later.files.get? place = some (.file content x) := by
    rcases hchanged place with hsame | ⟨ho, hn, -⟩ | ⟨he, -⟩
    · rw [hsame]
    · rw [ho, hn]
      simp
    · exact absurd he hp
  refine ⟨by rw [h.world], ht, h.grows.trans hg, fun place hd => ?_, fun t hm => ?_,
    fun place hp content x => ?_⟩
  · rcases hchanged place with hsame | ⟨ho, -, hway⟩ | ⟨-, content, x, hf⟩
    · rw [hsame] at hd
      exact (h.directories place hd).imp_right fun ⟨ho, t, hm, hway⟩ =>
        ⟨ho, t, List.mem_append_left _ hm, hway⟩
    · exact Or.inr ⟨h.grows.eq_none ho, s, by simp, hway⟩
    · rw [hf] at hd
      cases hd
  · by_cases he : t = s
    · subst he
      exact htest
    · have hmem : t ∈ services := by simpa [he] using hm
      intro content x
      rw [hfile (fun hp => he (testPlace_injective ha (hsub hmem) hs hp))]
      exact h.tests t hmem content x
  · rw [hfile (hp s (by simp))]
    exact h.others place (fun t hm => hp t (List.mem_append_left _ hm)) content x

/-- What lies above a source that was read is a directory. -/
theorem directory_of_readText {fs : FileSystem} {root source : String} (hr : Rooted fs root base)
    (hs : ∀ piece ∈ Text.splitAtChar '/' s.toList, Path.IsName piece)
    (hread : fs.readText (Path.join root s) = .ok source) {front : List String}
    (hp : front <+: (pieces s).dropLast) : fs.get? (base ++ front) = some .directory := by
  obtain ⟨content, hbytes, -⟩ := readText_ok_iff.1 hread
  obtain ⟨x, hstatus⟩ := readBytes_ok_iff.1 hbytes
  obtain ⟨place, hplace, hfile⟩ := status_ok_iff.1 hstatus
  have hdestination := hr.linkless.resolve hplace
  rw [destination_join_names fs root hs, hr.linkless.resolve hr.resolve] at hdestination
  obtain ⟨rest, hrest⟩ := hp
  obtain ⟨last, hlast⟩ : ∃ last, pieces s = front ++ (rest ++ [last]) := by
    refine ⟨(pieces s).getLast (pieces_ne_nil s), ?_⟩
    rw [← List.append_assoc, hrest, List.dropLast_concat_getLast]
  rw [← hdestination, hlast, ← List.append_assoc] at hfile
  refine hr.tree.directory (List.append_ne_nil_of_right_ne_nil rest (List.cons_ne_nil last [])) ?_
  rw [hfile]
  simp

theorem extract_congr {old new : FileSystem} {defaultPackage root servicePath : String}
    {symbols : Option SymbolTree}
    (h : new.readText (Path.join root servicePath) = old.readText (Path.join root servicePath)) :
    extract new defaultPackage root servicePath symbols =
      extract old defaultPackage root servicePath symbols := by
  cases hr : old.readText (Path.join root servicePath) with
  | error e => rw [extract_error hr, extract_error (h.trans hr)]
  | ok source => rw [extract_ok hr, extract_ok (h.trans hr)]

theorem isTree_generateAs {q : GenerateRequest} (hv : q.validate = false) (ht : w.files.IsTree)
    (hl : w.files.Linkless) : (d.generateAs op q intent w).2.files.IsTree := by
  have hgen := generation_runGeneration d op q intent w
  unfold generateAs
  generalize d.runGeneration op q intent w = generated at hgen
  cases hgen with
  | rejected _ => exact ht
  | unreadable _ _ => exact ht
  | @unwritten x failure files _ _ hw =>
      have htree := isTree_writeArtifact ht hl q.projectRoot q.target (d.artifactOf q intent x w)
      rwa [hw] at htree
  | @unverified x files _ _ hw _ =>
      have htree := isTree_writeArtifact ht hl q.projectRoot q.target (d.artifactOf q intent x w)
      rwa [hw] at htree
  | verified _ _ _ hv' _ => simp [hv] at hv'

theorem After.rooted {root : String} (hr : Rooted w.files root base)
    (h : After d r w base services later) : Rooted later.files root base :=
  ⟨hr.nonempty, h.tree, h.grows.linkless hr.linkless, h.grows.resolve hr.resolve,
    h.grows.directory base hr.directory⟩

/-- Where the test of a main source goes. -/
theorem exists_testTarget {root : String} (hb : root ≠ "") (hs : Layout.MainSource s) :
    ∃ up dirs file, Target root (Layout.testPath s) up dirs file := by
  obtain ⟨front, back, source, test, hways⟩ := hs.ways
  have hpieces : pieces (Layout.testPath s) = front ++ "test" :: back ++ [test] := by
    rw [hways.test]
    simp
  obtain ⟨up, h⟩ := exists_target hb hs.names_testPath hpieces (by simp)
  exact ⟨up, _, _, h⟩

/-- The generation of a test alone leaves in its place what was there, or its own. -/
theorem alone_test (hv : r.validate = false) (hr : Rooted w.files r.projectRoot base)
    (hs : Layout.MainSource s) : w.files.SameButText (d.alone r w s) (testPlace base s) := by
  obtain ⟨up, dirs, file, ht⟩ := exists_testTarget hr.nonempty hs
  obtain ⟨made, hmade, heq⟩ := d.generateAs_eq .generateBatchTests (r.item s) .unit hv hr ht
  unfold alone testPlace
  rw [heq, ht.pieces]
  split
  · exact Or.inl rfl
  · split
    · exact Or.inl rfl
    · split
      · exact Or.inl (hmade.get?_concat file)
      · rename_i hwritten
        exact Or.inr ⟨⟨_, (get?_put _ _ _ _ (by simp)).trans (if_pos rfl)⟩,
          of_written hr.linkless hwritten⟩

/-- The directories that are made for a test lie behind `test`, if its source is there. -/
theorem onWay_of_made {fs made : FileSystem} {root source file : String} {dirs : List String}
    (hr : Rooted fs root base) (hs : Layout.MainSource s)
    (hread : fs.readText (Path.join root s) = .ok source)
    (hp : pieces (Layout.testPath s) = dirs ++ [file]) (hm : fs.MadeOn made base dirs)
    (place : Location) :
    made.get? place = fs.get? place ∨
      fs.get? place = none ∧ made.get? place = some .directory ∧ OnWay base s place := by
  refine (hm place).imp_right ?_
  rintro ⟨hold, hnew, front, -, ⟨rest, hrest⟩, rfl⟩
  have hpieces : pieces (Layout.testPath s) = front ++ (rest ++ [file]) := by
    rw [hp, ← hrest, List.append_assoc]
  have htest : "test" ∈ front.tail := hs.below_test ⟨_, hpieces.symm⟩ fun hsource => by
    rw [directory_of_readText hr hs.names hread hsource] at hold
    cases hold
  exact ⟨hold, hnew, front, _, by simp, hpieces, htest, rfl⟩

/-- A generation that goes as it goes in the world before. -/
structure Alike (d : Dispatcher σ) (r : BatchRequest) (w later : World σ) (base : Location)
    (s up : String) (dirs : List String) (file : String) : Prop where
  extracted : extract later.files d.defaultPackage (r.item s).projectRoot
    (r.item s).servicePath (r.item s).symbols = extract w.files d.defaultPackage
      (r.item s).projectRoot (r.item s).servicePath (r.item s).symbols
  written : written later.files (r.item s).projectRoot (r.item s).target up base dirs file =
    written w.files (r.item s).projectRoot (r.item s).target up base dirs file
  rendered : ∀ x, d.artifactOf (r.item s) .unit x later = d.artifactOf (r.item s) .unit x w
  logged : ∀ x, d.writtenLog (r.item s) .unit x later = d.writtenLog (r.item s) .unit x w

theorem After.alike {up file : String} {dirs : List String} (h : After d r w base services later)
    (hd : d.FixedDetector) (hv : r.validate = false) (hr : Rooted w.files r.projectRoot base)
    (ha : Apart all) (hsub : services ⊆ all) (hs : s ∈ all)
    (ht : Target r.projectRoot (Layout.testPath s) up dirs file) :
    Alike d r w later base s up dirs file := by
  have hsource := ha.sources s hs
  have hplace : testPlace base s = base ++ (dirs ++ [file]) := by rw [testPlace, ht.pieces]
  have hspot := h.test hr.linkless ha hsub hs (alone_test hv hr hsource)
  have hstyle : d.style r.projectRoot later.files = d.style r.projectRoot w.files := by
    rw [style, style, hd later.files w.files]
  have hartifact (x : Extraction) :
      d.artifactOf (r.item s) .unit x later = d.artifactOf (r.item s) .unit x w :=
    congrArg (x.model.render · .unit) hstyle
  refine ⟨?_, ?_, hartifact, fun x => ?_⟩
  · exact extract_congr (readText_congr hr.linkless h.grows hr.resolve hr.nonempty hsource.names
      fun front hp => h.source hr.linkless ha hsub hs hp)
  · refine written_congr (fun front _ hp => ?_) (hplace ▸ hspot)
    obtain ⟨rest, hrest⟩ := hp
    have hpieces : pieces (Layout.testPath s) = front ++ (rest ++ [file]) := by
      rw [ht.pieces, ← hrest, List.append_assoc]
    exact h.way hr.linkless ha hsub hs hpieces (by simp)
  · unfold writtenLog
    rw [hartifact]
    exact congrArg (fun style => StepLog.mk [analyzedStep x, writtenStep (artifactResult
      (Layout.testPath s) (d.artifactOf (r.item s) .unit x w) x.model style)]) hstyle

/-- A generation that writes nothing when it is alone finds its test as it would then. -/
theorem After.unwritten (h : After d r w base services later) (ha : Apart all)
    (hsub : services ⊆ all) (hs : s ∈ all)
    (hsame : (d.alone r w s).get? (testPlace base s) = w.files.get? (testPlace base s))
    (content : ByteArray) (x : Bool) :
    later.files.get? (testPlace base s) = some (.file content x) ↔
      (d.alone r w s).get? (testPlace base s) = some (.file content x) := by
  by_cases hm : s ∈ services
  · exact h.tests s hm content x
  · rw [hsame]
    exact h.others _ (fun t ht he => hm (testPlace_injective ha hs (hsub ht) he ▸ ht)) content x

/-- A generation after others goes as it goes alone: neither writes its test, or both write the same
text. -/
theorem After.together {up file : String} {dirs : List String}
    (h : After d r w base services later) (hd : d.FixedDetector) (hv : r.validate = false)
    (hr : Rooted w.files r.projectRoot base) (ha : Apart all) (hsub : services ⊆ all) (hs : s ∈ all)
    (ht : Target r.projectRoot (Layout.testPath s) up dirs file) :
    ∃ report made made', w.files.MadeOn made base dirs ∧ later.files.MadeOn made' base dirs ∧
      (∀ place, made'.get? place = later.files.get? place ∨ later.files.get? place = none ∧
        made'.get? place = some .directory ∧ OnWay base s place) ∧
      (d.generateAs .generateBatchTests (r.item s) .unit w = (report, { w with files := made }) ∧
          d.generateAs .generateBatchTests (r.item s) .unit later =
            (report, { later with files := made' }) ∨
        ∃ content : ByteArray,
          d.generateAs .generateBatchTests (r.item s) .unit w =
            (report, World.mk (made.put (testPlace base s)
              (.file content (w.files.executableAt (testPlace base s)))) w.clock w.tools) ∧
          d.generateAs .generateBatchTests (r.item s) .unit later =
            (report, World.mk (made'.put (testPlace base s)
              (.file content (later.files.executableAt (testPlace base s))))
                later.clock later.tools)) := by
  have hrl := After.rooted hr h
  have hplace : testPlace base s = base ++ (dirs ++ [file]) := by rw [testPlace, ht.pieces]
  have halike := h.alike hd hv hr ha hsub hs ht
  obtain ⟨made, hmade, heq⟩ := d.generateAs_eq .generateBatchTests (r.item s) .unit hv hr ht
  obtain ⟨made', hmade', heq'⟩ := d.generateAs_eq .generateBatchTests (r.item s) .unit hv hrl ht
  rw [halike.extracted, halike.written] at heq'
  -- the two runs part nowhere, so one case analysis serves both
  cases hc : (r.item s).check with
  | error fault =>
      simp only [hc] at heq heq'
      exact ⟨_, _, _, .refl _ _ _, .refl _ _ _, fun _ => Or.inl rfl, Or.inl ⟨heq, heq'⟩⟩
  | ok _ =>
      cases hx : extract w.files d.defaultPackage (r.item s).projectRoot (r.item s).servicePath
          (r.item s).symbols with
      | error e =>
          simp only [hc, hx] at heq heq'
          exact ⟨_, _, _, .refl _ _ _, .refl _ _ _, fun _ => Or.inl rfl, Or.inl ⟨heq, heq'⟩⟩
      | ok x =>
          obtain ⟨source, hread, -⟩ := readText_of_extract (halike.extracted.trans hx)
          have hway := onWay_of_made hrl (ha.sources s hs) hread ht.pieces hmade'
          cases hw : TestForge.written w.files (r.item s).projectRoot (r.item s).target up base dirs
              file with
          | error failure =>
              simp only [hc, hx, hw] at heq heq'
              exact ⟨_, made, made', hmade, hmade', hway, Or.inl ⟨heq, heq'⟩⟩
          | ok _ =>
              simp only [hc, hx, hw, halike.logged, halike.rendered, ← hplace] at heq heq'
              exact ⟨_, made, made', hmade, hmade', hway, Or.inr ⟨_, heq, heq'⟩⟩

/-- A generation reports what it reports alone, and leaves what it leaves alone. -/
theorem After.step (h : After d r w base services later) (hd : d.FixedDetector)
    (hv : r.validate = false) (hr : Rooted w.files r.projectRoot base) (ha : Apart all)
    (hsub : services ⊆ all) (hs : s ∈ all) :
    (d.generateAs .generateBatchTests (r.item s) .unit later).1 =
        (d.generateAs .generateBatchTests (r.item s) .unit w).1 ∧
      After d r w base (services ++ [s])
        (d.generateAs .generateBatchTests (r.item s) .unit later).2 := by
  have hsource := ha.sources s hs
  have hrl := After.rooted hr h
  obtain ⟨up, dirs, file, ht⟩ := exists_testTarget hr.nonempty hsource
  have hplace : testPlace base s = base ++ (dirs ++ [file]) := by rw [testPlace, ht.pieces]
  have hspot := h.test hr.linkless ha hsub hs (alone_test hv hr hsource)
  have htree : (d.generateAs .generateBatchTests (r.item s) .unit later).2.files.IsTree :=
    isTree_generateAs hv hrl.tree hrl.linkless
  have hgrows : later.files.Grows
      (d.generateAs .generateBatchTests (r.item s) .unit later).2.files :=
    (generateAs_changes hv hrl.linkless).grows
  have halone : d.alone r w s =
    (d.generateAs .generateBatchTests (r.item s) .unit w).2.files := rfl
  obtain ⟨report, made, made', hmade, hmade', hway, hboth⟩ :=
    h.together hd hv hr ha hsub hs ht
  rcases hboth with ⟨heq, heq'⟩ | ⟨content, heq, heq'⟩
  · rw [heq] at halone
    rw [heq'] at htree hgrows ⊢
    rw [heq]
    have hsame := hmade.get?_concat file
    have hsame' := hmade'.get?_concat file
    rw [← hplace] at hsame hsame'
    refine ⟨rfl, h.extend ha hsub hs htree hgrows
      (fun place => (hway place).imp_right Or.inl) fun content x => ?_⟩
    rw [hsame']
    exact h.unwritten ha hsub hs (by rw [halone, hsame]) content x
  · rw [heq] at halone
    rw [heq'] at htree hgrows ⊢
    rw [heq]
    have hne : testPlace base s ≠ [] := by simp [hplace]
    refine ⟨rfl, h.extend ha hsub hs htree hgrows (fun place => ?_) fun content' x => ?_⟩
    · rw [get?_put _ _ _ _ hne]
      split
      · rename_i he
        exact Or.inr (Or.inr ⟨he.symm, _, _, rfl⟩)
      · exact (hway place).imp_right Or.inl
    · rw [halone, get?_put _ _ _ _ hne, get?_put _ _ _ _ hne, hspot.executableAt, if_pos rfl,
        if_pos rfl]

/-! ## Whole batches -/

/-- The item of a service whose generation is the only one. -/
def aloneItem (d : Dispatcher σ) (r : BatchRequest) (w : World σ) (service : String) : BatchItem :=
  .ofReport (d.generateAs .generateBatchTests (r.item service) .unit w).1

/-- A batch goes as its items go alone, if each of them does after those before it. -/
theorem runItems_alone (Before : List String → World σ → Prop) (hgo : r.continueOnError = true)
    (hstep : ∀ services later s, services ⊆ all → s ∈ all → Before services later →
      (d.generateAs .generateBatchTests (r.item s) .unit later).1 =
          (d.generateAs .generateBatchTests (r.item s) .unit w).1 ∧
        Before (services ++ [s]) (d.generateAs .generateBatchTests (r.item s) .unit later).2)
    {order : List String} (ho : order ⊆ all) (hs : services ⊆ all) (h : Before services later)
    (tally : BatchTally) :
    (d.runItems r order tally later).1 = order.map (d.aloneItem r w) ∧
      Before (services ++ order) (d.runItems r order tally later).2.2 := by
  induction order generalizing services later tally with
  | nil => exact ⟨rfl, by simpa [runItems] using h⟩
  | cons s order ih =>
      have hmem : s ∈ all := ho List.mem_cons_self
      obtain ⟨hreport, hnext⟩ := hstep services later s hs hmem h
      rcases hrun : d.generateAs .generateBatchTests (r.item s) .unit later with ⟨report, next⟩
      rw [hrun] at hreport hnext
      simp only at hreport
      have hsub : services ++ [s] ⊆ all :=
        List.append_subset.2 ⟨hs, List.cons_subset.2 ⟨hmem, List.nil_subset _⟩⟩
      obtain ⟨hitems, hlast⟩ := ih (List.subset_of_cons_subset ho) hsub hnext
        (tally.complete report.success)
      simp only [runItems, hrun, hgo, Bool.or_true, ↓reduceIte]
      refine ⟨?_, by simpa using hlast⟩
      rw [hitems, List.map_cons, aloneItem, ← hreport]

theorem After.sameFiles {others : List String} {later' : World σ}
    (h : After d r w base services later) (k : After d r w base others later')
    (hm : ∀ s, s ∈ services ↔ s ∈ others) : later.files.SameFiles later'.files := by
  intro place content x
  by_cases hp : ∃ s ∈ services, place = testPlace base s
  · obtain ⟨s, hs, rfl⟩ := hp
    rw [h.tests s hs, k.tests s ((hm s).1 hs)]
  · have hn : ∀ s ∈ services, place ≠ testPlace base s := fun s hs he => hp ⟨s, hs, he⟩
    rw [h.others place hn, k.others place fun s hs => hn s ((hm s).2 hs)]

/-- Without a root nothing is read, and so nothing is written. -/
theorem generateAs_unrooted {q : GenerateRequest} (ht : w.files.IsTree) (hl : w.files.Linkless)
    (hs : Path.isAbsolute q.servicePath.toList = false)
    (hn : ¬∃ base, Rooted w.files q.projectRoot base) :
    (d.generateAs op q intent w).2 = w := by
  have hread {x : Extraction} (hc : q.check = .ok ())
      (hx : extract w.files d.defaultPackage q.projectRoot q.servicePath q.symbols = .ok x) :
      False := by
    have hne := projectRoot_ne_empty hc
    obtain ⟨source, hread, -⟩ := readText_of_extract hx
    obtain ⟨base, hbase, hdir⟩ := isDirectory_iff.1 (isDirectory_of_readText hl hne hs hread)
    exact hn ⟨base, hne, ht, hl, hbase, hdir⟩
  have hgen := generation_runGeneration d op q intent w
  unfold generateAs
  generalize d.runGeneration op q intent w = generated at hgen
  cases hgen with
  | rejected _ => rfl
  | unreadable _ _ => rfl
  | unwritten hc hx _ => exact (hread hc hx).elim
  | unverified hc hx _ _ => exact (hread hc hx).elim
  | verified hc hx _ _ _ => exact (hread hc hx).elim

/-- The items of a batch in any order are those of the services alone, and the files that are left
do not depend on the order. -/
theorem runItems_order (hd : d.FixedDetector) (hv : r.validate = false)
    (hgo : r.continueOnError = true) (ht : w.files.IsTree) (hl : w.files.Linkless)
    (ha : Apart all) {order other : List String} (ho : order ⊆ all) (ho' : other ⊆ all)
    (hm : ∀ s, s ∈ order ↔ s ∈ other) (tally tally' : BatchTally) :
    (d.runItems r order tally w).1 = order.map (d.aloneItem r w) ∧
      (d.runItems r other tally' w).1 = other.map (d.aloneItem r w) ∧
      (d.runItems r order tally w).2.2.files.SameFiles
        (d.runItems r other tally' w).2.2.files := by
  by_cases hrooted : ∃ base, Rooted w.files r.projectRoot base
  · obtain ⟨base, hr⟩ := hrooted
    have hrun {order : List String} (ho : order ⊆ all) (tally : BatchTally) :=
      runItems_alone (After d r w base) hgo (fun services later s hsub hs h =>
        After.step h hd hv hr ha hsub hs) ho (List.nil_subset all) (After.start ht) tally
    obtain ⟨hitems, hafter⟩ := hrun ho tally
    obtain ⟨hitems', hafter'⟩ := hrun ho' tally'
    rw [List.nil_append] at hafter hafter'
    exact ⟨hitems, hitems', hafter.sameFiles hafter' hm⟩
  · have hrun {order : List String} (ho : order ⊆ all) (tally : BatchTally) :=
      runItems_alone (d := d) (w := w) (fun _ later => later = w) hgo
        (fun services later s _ hs h => by
          subst h
          exact ⟨rfl, generateAs_unrooted ht hl (isAbsolute_of_names (ha.sources s hs).names) hrooted⟩)
        ho (List.nil_subset all) rfl tally
    obtain ⟨hitems, hafter⟩ := hrun ho tally
    obtain ⟨hitems', hafter'⟩ := hrun ho' tally'
    rw [hafter, hafter']
    exact ⟨hitems, hitems', .refl _⟩

/-- The order of a batch that is not verified and goes on after failures does not matter, if no
path of a test is that of a directory above another test: each service has the same item, the report
is the same but for the order of the items, and the same files are left. -/
theorem generateBatch_order (d : Dispatcher σ) (hd : d.FixedDetector) (r : BatchRequest)
    (w : World σ) (hv : r.validate = false) (hgo : r.continueOnError = true)
    (ht : w.files.IsTree) (hl : w.files.Linkless) (ha : Apart r.servicePaths)
    {order : List String} (ho : order.Perm r.servicePaths) :
    let first := d.generateBatch r w
    let other := d.generateBatch { r with servicePaths := order } w
    (∀ i j : Nat, order[j]? = r.servicePaths[i]? → other.1.items[j]? = first.1.items[i]?) ∧
      other.1 = { first.1 with items := other.1.items } ∧
      first.2.files.SameFiles other.2.files := by
  have hcheck : BatchRequest.check { r with servicePaths := order } = r.check := by
    have he : order.isEmpty = r.servicePaths.isEmpty := by
      rw [Bool.eq_iff_iff, List.isEmpty_iff, List.isEmpty_iff]
      exact ⟨fun h => List.nil_perm.1 (h ▸ ho), fun h => List.perm_nil.1 (h ▸ ho)⟩
    simp only [BatchRequest.check, requireSome, he]
  simp only [generateBatch, hcheck]
  cases hc : r.check with
  | error fault =>
      simp only [rejectedBatch, ho.length_eq]
      exact ⟨fun _ _ _ => rfl, trivial, .refl _⟩
  | ok _ =>
      simp only [runItems_servicePaths, ho.length_eq]
      obtain ⟨hitems, hitems', hfiles⟩ := runItems_order hd hv hgo ht hl ha
        (List.Subset.refl r.servicePaths) ho.subset (fun s => ho.mem_iff.symm)
        (.start r.servicePaths.length) (.start r.servicePaths.length)
      have htally := d.runItems_tally r r.servicePaths (.start r.servicePaths.length) w
      have htally' := d.runItems_tally r order (.start r.servicePaths.length) w
      have hcount (p : BatchItem → Bool) :=
        (ho.map (d.aloneItem r w)).countP_eq p
      rw [hitems] at htally
      rw [hitems', hcount, hcount] at htally'
      refine ⟨fun i j hij => ?_, ?_, hfiles⟩
      · simp only [batchReport, hitems, hitems', List.getElem?_map, hij]
      · simp only [batchReport, htally, htally']

def twoMainsReversed : BatchRequest :=
  { BatchRequest.twoMains with servicePaths := ["a/main/G.kt", "a/main/F.kt"] }

/-- Two services the other way round. -/
theorem generateBatch_order_twoMains :
    steady.FixedDetector ∧ World.twoMains.files.IsTree ∧ World.twoMains.files.Linkless ∧
      Apart BatchRequest.twoMains.servicePaths ∧
      (steady.generateBatch twoMainsReversed .twoMains).1.items[0]? =
        (steady.generateBatch .twoMains .twoMains).1.items[1]? ∧
      (steady.generateBatch twoMainsReversed .twoMains).1.items[1]? =
        (steady.generateBatch .twoMains .twoMains).1.items[0]? ∧
      (steady.generateBatch .twoMains .twoMains).2.files.SameFiles
        (steady.generateBatch twoMainsReversed .twoMains).2.files := by
  have hd : steady.FixedDetector := fun _ _ _ => rfl
  have ht : World.twoMains.files.IsTree :=
    isTree_of_entries (by decide) (by decide)
  have hl := World.linkless_twoMains
  have ha : Apart BatchRequest.twoMains.servicePaths := ⟨by decide, by decide⟩
  have hswap : ["a/main/G.kt", "a/main/F.kt"].Perm BatchRequest.twoMains.servicePaths :=
    List.Perm.swap "a/main/F.kt" "a/main/G.kt" []
  obtain ⟨hitems, -, hfiles⟩ :=
    steady.generateBatch_order hd .twoMains .twoMains rfl rfl ht hl ha hswap
  exact ⟨hd, ht, hl, ha, hitems 1 0 rfl, hitems 0 1 rfl, hfiles⟩

end

end Dispatcher

end TestForge
