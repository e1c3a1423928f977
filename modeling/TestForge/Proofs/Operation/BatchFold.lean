import TestForge.Proofs.Operation.Calls

/-!
# A batch as a fold of generations

A batch is what single generations of unit tests are, one after the other, up to the first that
fails unless the batch is to go on. What it counts is what its items show.
-/

namespace TestForge

/-! ## Names of operations -/

/-- The same report, but for the operation that a rejection of its arguments names. -/
def GenerationReport.Renames (old new : Operation) (a b : GenerationReport) : Prop :=
  b = a ∨ ∃ fault, a.failure = some (OperationFailure.invalid old fault).chain ∧
    b = { a with failure := some (OperationFailure.invalid new fault).chain }

theorem GenerationReport.Renames.success {old new : Operation} {a b : GenerationReport}
    (h : Renames old new a b) : b.success = a.success := by
  rcases h with rfl | ⟨fault, ha, rfl⟩
  · rfl
  · simp [GenerationReport.success, ha]

namespace Dispatcher

variable {σ : Type} {d : Dispatcher σ} {r : BatchRequest}

/-- The name of an operation shows in nothing but the rejection of its arguments. -/
theorem generateAs_renames (d : Dispatcher σ) (old new : Operation) (r : GenerateRequest)
    (intent : TestIntent) (w : World σ) :
    (d.generateAs old r intent w).1.Renames old new (d.generateAs new r intent w).1 ∧
      (d.generateAs new r intent w).2 = (d.generateAs old r intent w).2 := by
  cases hc : r.check with
  | error fault =>
      simp only [generateAs, runGeneration, hc, and_true]
      exact Or.inr ⟨fault, rfl, rfl⟩
  | ok _ =>
      simp only [generateAs, runGeneration, hc, and_true]
      exact Or.inl rfl

/-! ## One generation after the other -/

/-- Unit generations of services in order: each report with the world that it leaves. -/
def generateEach (d : Dispatcher σ) (r : BatchRequest) :
    List String → World σ → List (GenerationReport × World σ)
  | [], _ => []
  | servicePath :: rest, w =>
    d.generate (r.item servicePath) .unit w ::
      d.generateEach r rest (d.generate (r.item servicePath) .unit w).2

theorem length_generateEach (d : Dispatcher σ) (r : BatchRequest) (paths : List String)
    (w : World σ) : (d.generateEach r paths w).length = paths.length := by
  induction paths generalizing w with
  | nil => rfl
  | cons path rest ih => simp [generateEach, ih]

theorem servicePath_generateEach (d : Dispatcher σ) (r : BatchRequest) (paths : List String)
    (w : World σ) : (d.generateEach r paths w).map (fun run => run.1.servicePath) = paths := by
  induction paths generalizing w with
  | nil => rfl
  | cons path rest ih =>
      simp only [generateEach, List.map_cons, ih, List.cons.injEq, and_true]
      rfl

/-- The world after some generations. -/
def worldAfter (runs : List (GenerationReport × World σ)) (w : World σ) : World σ :=
  (runs.getLast?.map Prod.snd).getD w

theorem worldAfter_cons (run : GenerationReport × World σ)
    (runs : List (GenerationReport × World σ)) (w : World σ) :
    worldAfter (run :: runs) w = worldAfter runs run.2 := by
  cases h : runs.getLast? <;> simp [worldAfter, List.getLast?_cons, h]

/-- How many services are reached: up to the first that fails, or all if the batch is to go on. -/
def reached (continueOnError : Bool) (runs : List (GenerationReport × World σ)) : Nat :=
  if continueOnError then runs.length
  else min (runs.findIdx (fun run => !run.1.success) + 1) runs.length

theorem reached_cons (continueOnError : Bool) (run : GenerationReport × World σ)
    (runs : List (GenerationReport × World σ)) :
    reached continueOnError (run :: runs) =
      if run.1.success || continueOnError then reached continueOnError runs + 1 else 1 := by
  cases continueOnError with
  | true => simp [reached]
  | false =>
      cases hs : run.1.success with
      | true => simp [reached, List.findIdx_cons, hs]
      | false => simp [reached, List.findIdx_cons, hs]

theorem reached_le (continueOnError : Bool) (runs : List (GenerationReport × World σ)) :
    reached continueOnError runs ≤ runs.length := by
  unfold reached
  split
  · exact Nat.le_refl _
  · exact Nat.min_le_right _ _

/-! ## Items -/

/-- What a batch shows of a generation. -/
structure ItemOf (run : GenerationReport × World σ) (item : BatchItem) : Prop where
  servicePath : item.servicePath = run.1.servicePath
  status : item.status = .success ↔ run.1.success = true
  report : run.1.Renames .generateUnitTest .generateBatchTests item.report
  error : item.error = item.report.error?

theorem itemOf_ofReport {run : GenerationReport × World σ} {report : GenerationReport}
    (h : run.1.Renames .generateUnitTest .generateBatchTests report) :
    ItemOf run (BatchItem.ofReport report) where
  servicePath := by rcases h with rfl | ⟨fault, -, rfl⟩ <;> rfl
  status := by
    rw [← h.success]
    simp [BatchItem.ofReport]
  report := h
  error := rfl

theorem ItemOf.complete {run : GenerationReport × World σ} {item : BatchItem}
    (h : ItemOf run item) (tally : BatchTally) :
    tally.complete run.1.success =
      { total := tally.total
        succeeded := tally.succeeded + if item.status = .success then 1 else 0
        failed := tally.failed + if item.status = .failed then 1 else 0 } := by
  cases hs : run.1.success with
  | true =>
      have hi : item.status = .success := h.status.2 hs
      simp [BatchTally.complete, hi]
  | false =>
      have hn : item.status ≠ .success := fun hi => by simp [h.status.1 hi] at hs
      have hi : item.status = .failed := by
        cases hst : item.status with
        | success => exact absurd hst hn
        | failed => rfl
      simp [BatchTally.complete, hi]

/-- One step of a batch: an item for one generation, then the rest if the batch goes on. -/
theorem runItems_cons (d : Dispatcher σ) (r : BatchRequest) (path : String) (w : World σ) :
    ∃ item, ItemOf (d.generate (r.item path) .unit w) item ∧ ∀ paths tally,
      d.runItems r (path :: paths) tally w =
        let run := d.generate (r.item path) .unit w
        let counted := tally.complete run.1.success
        if run.1.success || r.continueOnError then
          (item :: (d.runItems r paths counted run.2).1, (d.runItems r paths counted run.2).2)
        else ([item], counted, run.2) := by
  obtain ⟨hren, hworld⟩ := d.generateAs_renames .generateUnitTest .generateBatchTests
    (r.item path) .unit w
  rcases hg : d.generateAs .generateBatchTests (r.item path) .unit w with ⟨report, w'⟩
  rw [hg] at hren hworld
  refine ⟨.ofReport report, itemOf_ofReport hren, fun paths tally => ?_⟩
  simp only at hren hworld
  simp only [runItems, hg, hren.success, hworld]
  rfl

/-! ## The fold -/

theorem runItems_fold (d : Dispatcher σ) (r : BatchRequest) (paths : List String)
    (tally : BatchTally) (w : World σ) :
    let runs := d.generateEach r paths w
    let seen := runs.take (reached r.continueOnError runs)
    List.Forall₂ ItemOf seen (d.runItems r paths tally w).1 ∧
      (d.runItems r paths tally w).2.2 = worldAfter seen w := by
  induction paths generalizing tally w with
  | nil => exact ⟨by simp [runItems, generateEach], by simp [runItems, generateEach, worldAfter]⟩
  | cons path rest ih =>
      obtain ⟨item, hitem, hstep⟩ := d.runItems_cons r path w
      simp only [hstep, generateEach, reached_cons]
      split
      · obtain ⟨hf, hlast⟩ := ih (tally.complete (d.generate (r.item path) .unit w).1.success)
          (d.generate (r.item path) .unit w).2
        rw [List.take_succ_cons]
        exact ⟨.cons hitem hf, by rw [worldAfter_cons]; exact hlast⟩
      · exact ⟨.cons hitem .nil, rfl⟩

/-- What comes after the services that are reached does not matter. -/
theorem runItems_later (d : Dispatcher σ) (r : BatchRequest) (paths later : List String)
    (tally : BatchTally) (w : World σ)
    (h : reached r.continueOnError (d.generateEach r paths w) + later.length = paths.length) :
    d.runItems r (paths.take (reached r.continueOnError (d.generateEach r paths w)) ++ later)
      tally w = d.runItems r paths tally w := by
  induction paths generalizing tally w with
  | nil =>
      have hl : later = [] := by simpa [generateEach, reached] using h
      simp [hl]
  | cons path rest ih =>
      obtain ⟨item, -, hstep⟩ := d.runItems_cons r path w
      simp only [generateEach, reached_cons] at h ⊢
      split at h
      · rename_i hgo
        have hrest : reached r.continueOnError
            (d.generateEach r rest (d.generate (r.item path) .unit w).2) + later.length =
              rest.length := by
          simp only [List.length_cons] at h
          omega
        simp only [hgo, ↓reduceIte, List.take_succ_cons, List.cons_append, hstep, ih _ _ hrest]
      · rename_i hgo
        simp [hgo, hstep]

theorem runItems_servicePaths (d : Dispatcher σ) (r : BatchRequest) (others paths : List String)
    (tally : BatchTally) (w : World σ) :
    d.runItems { r with servicePaths := others } paths tally w = d.runItems r paths tally w := by
  induction paths generalizing tally w with
  | nil => rfl
  | cons path rest ih =>
      simp only [runItems, ih]
      rfl

/-! ## Counting -/

/-- The tally counts what the items show. -/
theorem runItems_tally (d : Dispatcher σ) (r : BatchRequest) (paths : List String)
    (tally : BatchTally) (w : World σ) :
    (d.runItems r paths tally w).2.1 =
      { total := tally.total
        succeeded := tally.succeeded +
          (d.runItems r paths tally w).1.countP (fun item => item.status = .success)
        failed := tally.failed +
          (d.runItems r paths tally w).1.countP (fun item => item.status = .failed) } := by
  induction paths generalizing tally w with
  | nil => rfl
  | cons path rest ih =>
      obtain ⟨item, hitem, hstep⟩ := d.runItems_cons r path w
      simp only [hstep, hitem.complete]
      split
      · simp only [ih, List.countP_cons, decide_eq_true_eq, BatchTally.mk.injEq, true_and]
        omega
      · simp [List.countP_cons]

theorem countP_status (items : List BatchItem) :
    items.countP (fun item => item.status = .success) +
      items.countP (fun item => item.status = .failed) = items.length := by
  induction items with
  | nil => rfl
  | cons item rest ih =>
      cases hs : item.status with
      | success => simp [hs, ← ih, Nat.add_right_comm]
      | failed => simp [hs, ← ih, Nat.add_assoc]

theorem servicePath_items {runs : List (GenerationReport × World σ)} {items : List BatchItem}
    (h : List.Forall₂ ItemOf runs items) :
    items.map (·.servicePath) = runs.map fun run => run.1.servicePath := by
  induction h with
  | nil => rfl
  | cons hi _ ih => simp only [List.map_cons, hi.servicePath, ih]

theorem countP_success {runs : List (GenerationReport × World σ)} {items : List BatchItem}
    (h : List.Forall₂ ItemOf runs items) :
    items.countP (fun item => item.status = .success) = runs.countP fun run => run.1.success := by
  induction h with
  | nil => rfl
  | cons hi _ ih => simp only [List.countP_cons, ih, decide_eq_true_eq, hi.status]

/-- No item has failed if all of them succeeded. -/
theorem countP_failed_eq_zero {runs : List (GenerationReport × World σ)} {items : List BatchItem}
    (h : List.Forall₂ ItemOf runs items) :
    items.countP (fun item => item.status = .failed) = 0 ↔
      ∀ run ∈ runs, run.1.success = true := by
  have hcount := countP_status items
  rw [countP_success h, ← h.length_eq] at hcount
  rw [← List.countP_eq_length]
  omega

/-! ## Whole batches -/

theorem check_servicePaths {r : BatchRequest} (hc : r.check = .ok ()) {others : List String}
    (h : others.length = r.servicePaths.length) :
    BatchRequest.check { r with servicePaths := others } = .ok () := by
  have he : others.isEmpty = r.servicePaths.isEmpty := by
    cases others <;> cases hp : r.servicePaths <;> simp_all
  rw [← hc]
  simp only [BatchRequest.check, requireSome, he]

/-- Other services may stand in place of those that are not reached. -/
theorem generateBatch_later (d : Dispatcher σ) (r : BatchRequest) (hc : r.check = .ok ())
    (w : World σ) (later : List String) :
    let k := reached r.continueOnError (d.generateEach r r.servicePaths w)
    k + later.length = r.servicePaths.length →
      d.generateBatch { r with servicePaths := r.servicePaths.take k ++ later } w =
        d.generateBatch r w := by
  intro k h
  have hlen : (r.servicePaths.take k ++ later).length = r.servicePaths.length := by
    rw [List.length_append, List.length_take]
    omega
  simp only [generateBatch, check_servicePaths hc hlen, hc, runItems_servicePaths, hlen]
  rw [d.runItems_later r r.servicePaths later _ w h]

theorem batchReport_success {tally : BatchTally} {items : List BatchItem} :
    (batchReport tally items).success = true ↔ tally.failed = 0 ∧ tally.skipped = 0 := by
  simp [batchReport]

/-- A batch that is accepted is the fold of its generations: its items are those of the services
that are reached, nothing after them matters, the counts are those of its items, and it succeeds
if all services are reached and none failed. -/
theorem generateBatch_fold (d : Dispatcher σ) (r : BatchRequest) (hc : r.check = .ok ())
    (w : World σ) :
    let n := r.servicePaths.length
    let runs := d.generateEach r r.servicePaths w
    let k := reached r.continueOnError runs
    let report := (d.generateBatch r w).1
    List.Forall₂ ItemOf (runs.take k) report.items ∧
      report.items.map (·.servicePath) = r.servicePaths.take k ∧
      (d.generateBatch r w).2 = worldAfter (runs.take k) w ∧
      (∀ later : List String, k + later.length = n →
        d.generateBatch { r with servicePaths := r.servicePaths.take k ++ later } w =
          d.generateBatch r w) ∧
      report.total = n ∧ report.succeeded + report.failed = k ∧ k ≤ n ∧
      report.succeeded = report.items.countP (fun item => item.status = .success) ∧
      report.failed = report.items.countP (fun item => item.status = .failed) ∧
      (report.success = true ↔ k = n ∧ ∀ run ∈ runs, run.1.success = true) := by
  intro n runs k report
  have hn : runs.length = n := d.length_generateEach r r.servicePaths w
  have hk : k ≤ n := hn ▸ reached_le r.continueOnError runs
  have hfold := d.runItems_fold r r.servicePaths (.start n) w
  have htally := d.runItems_tally r r.servicePaths (.start n) w
  rcases hrun : d.runItems r r.servicePaths (.start n) w with ⟨items, tally, w'⟩
  rw [hrun] at hfold htally
  have hitems : List.Forall₂ ItemOf (runs.take k) items := hfold.1
  have hworld : w' = worldAfter (runs.take k) w := hfold.2
  have hbatch : d.generateBatch r w = (batchReport tally items, w') := by
    simp only [generateBatch, hc, hrun, n]
  have hreport : report = batchReport tally items := congrArg Prod.fst hbatch
  have hlen : items.length = k := by
    rw [← hitems.length_eq, List.length_take, hn, Nat.min_eq_left hk]
  have hpaths : items.map (·.servicePath) = r.servicePaths.take k := by
    rw [servicePath_items hitems, List.map_take, servicePath_generateEach]
  have hcount := countP_status items
  have hfailed : k = n → (items.countP (fun item => item.status = .failed) = 0 ↔
      ∀ run ∈ runs, run.1.success = true) := by
    intro hkn
    have hz := countP_failed_eq_zero hitems
    rwa [hkn, ← hn, List.take_length] at hz
  simp only at htally
  rw [hreport, hbatch]
  refine ⟨hitems, hpaths, hworld, ?_, ?_, ?_, hk, ?_, ?_, ?_⟩
  · intro later hl
    rw [← hbatch]
    exact d.generateBatch_later r hc w later hl
  · simp [batchReport, htally, BatchTally.start]
  · simp only [batchReport, htally, BatchTally.start]
    omega
  · simp [batchReport, htally, BatchTally.start]
  · simp [batchReport, htally, BatchTally.start]
  · simp only [batchReport_success, htally, BatchTally.start, BatchTally.skipped]
    constructor
    · rintro ⟨hf, hs⟩
      have hkn : k = n := by omega
      exact ⟨hkn, (hfailed hkn).1 (by omega)⟩
    · rintro ⟨hkn, hall⟩
      have hf := (hfailed hkn).2 hall
      omega

end Dispatcher

/-! ## A test as a service -/

/-- The project with the test of its service. -/
def World.tested (test : String) : World Unit :=
  { oneTest with
    files := oneTest.files.put ["p", "OrderTestTest.kt"] (.file test.toUTF8 false) }

theorem World.grows_tested (test : String) : oneTest.files.Grows (tested test).files :=
  FileSystem.grows_put_new (by decide) (by simp)

theorem World.get?_tested (test : String) (place : Location) :
    (tested test).files.get? place = if ["p", "OrderTestTest.kt"] = place
      then some (.file test.toUTF8 false) else oneTest.files.get? place :=
  FileSystem.get?_put _ _ _ _ (List.cons_ne_nil _ _)

theorem World.readText_tested (test : String) :
    (tested test).files.readText (Path.join "/p" "OrderTestTest.kt") = .ok test := by
  have hresolve := (grows_tested test).resolve resolve_test_oneTest
  have hfile := (get?_tested test ["p", "OrderTestTest.kt"]).trans (if_pos rfl)
  exact FileSystem.readText_of_readBytes
    (FileSystem.readBytes_ok_iff.2 ⟨false, FileSystem.status_ok_iff.2 ⟨_, hresolve, hfile⟩⟩)

namespace Dispatcher

/-- The service that is there, the test that is written for it, and two that are not there. -/
def testAsService : BatchRequest :=
  ⟨"/p", ["OrderTest.kt", "OrderTestTest.kt", "Cart.kt", "Item.kt"], true, 3, false⟩

/-- A service that can be read gets its test, if the name of the test is new in the project. -/
theorem generate_grown {w : World Unit} {service test source : String}
    (hg : World.oneTest.files.Grows w.files) (hc : (testAsService.item service).check = .ok ())
    (htarget : (testAsService.item service).target = test)
    (hread : w.files.readText (Path.join "/p" service) = .ok source) (hp : World.PlainName test)
    (hn : w.files.get? ["p", test] = none) :
    ∃ artifact : String, (steady.generate (testAsService.item service) .unit w).1.success = true ∧
      (steady.generate (testAsService.item service) .unit w).2 =
        { w with files := w.files.put ["p", test] (.file artifact.toUTF8 false) } := by
  have hx := extract_ok hread steady.defaultPackage none
  have hw := World.writeArtifact_grown hg hp hn
    (steady.artifactOf (testAsService.item service) .unit
      (Extraction.ofText steady.defaultPackage service none source) w)
  subst htarget
  obtain ⟨log, hy, -, hlog⟩ := Verification.verify_steady
    (steady.verification "/p" (testAsService.item service).target) rfl 3
    { w with files := w.files.put ["p", (testAsService.item service).target] (.file _ false) }
  have hgen : steady.runGeneration .generateUnitTest (testAsService.item service) .unit w = _ :=
    (Generation.verified hc hx hw rfl hy).eq
  refine ⟨_, ?_, congrArg (fun generated => generated.2.2) hgen⟩
  simp only [generate, generateAs, intentOperation, hgen, GenerationReport.success,
    StepLog.hasFailure_absorb, hlog]
  rfl

theorem generate_missing {d : Dispatcher σ} {r : GenerateRequest} {intent : TestIntent}
    {w : World σ} {e : FileError} (hc : r.check = .ok ())
    (hread : w.files.readText (Path.join r.projectRoot r.servicePath) = .error e) :
    (d.generate r intent w).1.success = false := by
  have hgen : d.runGeneration (intentOperation intent) r intent w = _ :=
    (Generation.unreadable hc (extract_error hread _ _)).eq
  simp only [generate, generateAs, hgen]
  rfl

/-- Of the services the first three are reached. The second is there because the first has got its
test. -/
theorem reached_testAsService :
    let runs := steady.generateEach testAsService testAsService.servicePaths .oneTest
    reached testAsService.continueOnError runs = 3 ∧
      (runs.take 3).countP (fun run => run.1.success) = 2 := by
  obtain ⟨test, hfirst, hworld⟩ := generate_grown (w := .oneTest) (.refl _) (by decide) (by decide)
    World.readText_oneTest World.plainName_test rfl
  have hfree : (World.tested test).files.get? ["p", "OrderTestTestTest.kt"] = none := by
    rw [World.get?_tested, if_neg (by decide)]
    rfl
  obtain ⟨next, hsecond, hworld'⟩ := generate_grown (World.grows_tested test) (by decide)
    (show _ = "OrderTestTestTest.kt" by decide) (World.readText_tested test) (by decide) hfree
  have hgrown := (World.grows_tested test).trans
    (FileSystem.grows_put_new (e := .file next.toUTF8 false) hfree (by simp))
  have hnone : ((World.tested test).files.put ["p", "OrderTestTestTest.kt"]
      (.file next.toUTF8 false)).get? ["p", "Cart.kt"] = none := by
    rw [FileSystem.get?_put _ _ _ _ (List.cons_ne_nil _ _), if_neg (by decide), World.get?_tested]
    rfl
  have hthird : (steady.generate (testAsService.item "Cart.kt") .unit { World.tested test with
      files := (World.tested test).files.put ["p", "OrderTestTestTest.kt"]
        (.file next.toUTF8 false) }).1.success = false :=
    generate_missing (by decide) (World.readText_missing hgrown (by decide) hnone)
  have hpaths : testAsService.servicePaths =
      ["OrderTest.kt", "OrderTestTest.kt", "Cart.kt", "Item.kt"] := rfl
  have hstop : testAsService.continueOnError = false := rfl
  have hnext : (steady.generate (testAsService.item "OrderTest.kt") .unit .oneTest).2 = .tested test :=
    hworld
  simp only [hpaths, hstop, generateEach, hnext, hworld', reached_cons, hfirst, hsecond, hthird,
    List.take_succ_cons, List.take_zero, List.countP_cons, List.countP_nil]
  exact ⟨rfl, rfl⟩

theorem generateBatch_fold_testAsService :
    testAsService.check = .ok () ∧
      (steady.generateBatch testAsService .oneTest).1.items.map (·.servicePath) =
        ["OrderTest.kt", "OrderTestTest.kt", "Cart.kt"] ∧
      (steady.generateBatch testAsService .oneTest).1.total = 4 ∧
      (steady.generateBatch testAsService .oneTest).1.succeeded = 2 ∧
      (steady.generateBatch testAsService .oneTest).1.failed = 1 ∧
      (steady.generateBatch testAsService .oneTest).1.success = false := by
  have hc : testAsService.check = .ok () := by decide
  obtain ⟨hreached, htwo⟩ := reached_testAsService
  have hfold := generateBatch_fold .steady testAsService hc .oneTest
  simp only [hreached] at hfold
  obtain ⟨hitems, hpaths, -, -, htotal, hsum, -, hsucceeded, -, hsuccess⟩ := hfold
  rw [countP_success hitems, htwo] at hsucceeded
  have hfailed : (steady.generateBatch testAsService .oneTest).1.failed = 1 := by omega
  refine ⟨hc, hpaths, htotal, hsucceeded, hfailed, Bool.eq_false_iff.2 fun hs => ?_⟩
  exact absurd (hsuccess.1 hs).1 (by decide)

end Dispatcher

end TestForge
