import TestForge.Proofs.FileSystem.Files
import TestForge.Proofs.Operation.Shape

/-!
# Errors leave the project untouched

What stops an operation stops it before it has written a file or called the toolchain. All that an
operation can leave behind in spite of an error are new directories.
-/

namespace TestForge

/-! ## Writing -/

theorem sameFiles_makeRoom (path : String) (fs : FileSystem) :
    fs.SameFiles (makeRoom path fs).2 :=
  makeRoom_keeps (.refl fs) fun up _ => fs.sameFiles_createDirectories up

/-- An artifact that cannot be written changes no file. -/
theorem writeArtifact_error {root target artifact : String} {old new : FileSystem}
    {stop : OperationFailure} (h : writeArtifact root target artifact old = (.error stop, new)) :
    old.SameFiles new := by
  have hsame := sameFiles_makeRoom (Path.join root target) old
  cases artifactCase h with
  | cramped hm => rwa [hm] at hsame
  | refused hm hw => rwa [hm] at hsame

/-- No regular file and nothing of the toolchain has changed. -/
structure World.Untouched {σ : Type} (old new : World σ) : Prop where
  files : old.files.SameFiles new.files
  tools : new.tools = old.tools

theorem World.Untouched.refl {σ : Type} (w : World σ) : w.Untouched w :=
  ⟨.refl _, rfl⟩

namespace Dispatcher

variable {σ : Type} {d : Dispatcher σ}

/-! ## Operations that stop -/

theorem Generation.untouched {op : Operation} {r : GenerateRequest} {intent : TestIntent}
    {w w' : World σ} {log : StepLog} {stop : OperationFailure}
    (h : Generation d op r intent w (log, some stop, w')) : w.Untouched w' := by
  cases h with
  | rejected _ => exact .refl w
  | unreadable _ _ => exact .refl w
  | unwritten _ _ hw => exact ⟨writeArtifact_error hw, rfl⟩

theorem generateAs_untouched {op : Operation} {r : GenerateRequest} {intent : TestIntent}
    {w : World σ} (h : (d.generateAs op r intent w).1.failure ≠ none) :
    w.Untouched (d.generateAs op r intent w).2 := by
  have hg := generation_runGeneration d op r intent w
  rcases hrun : d.runGeneration op r intent w with ⟨log, failure, w'⟩
  simp only [generateAs, hrun] at h ⊢
  rw [hrun] at hg
  cases failure with
  | none => exact absurd rfl h
  | some stop => exact hg.untouched

theorem generateBatch_untouched {r : BatchRequest} {fault : ArgumentFault}
    (hc : r.check = .error fault) (w : World σ) : w.Untouched (d.generateBatch r w).2 := by
  simp only [generateBatch, hc]
  exact .refl w

theorem validate_untouched {r : ValidateRequest} {w : World σ}
    (h : (d.validate r w).1.failure ≠ none) : w.Untouched (d.validate r w).2 := by
  unfold validate at h ⊢
  split at h
  · exact .refl w
  · simp only at h ⊢
    split at h
    · exact .refl w
    · exact absurd (d.verifyExisting_failure r w) h

end Dispatcher

/-! ## Calls that come to nothing -/

/-- The results of calls that come to nothing, or are only there to look: rejections, reports with
an error, batches whose arguments fail their checks, and all analyses. -/
inductive Declined (name : String) (arguments : Json) : Except Rejection Report → Prop
  | rejected (rejection : Rejection) : Declined name arguments (.error rejection)
  | stopped {report : Report} {message : Json} (h : report.toJson.get? "error" = some message) :
      Declined name arguments (.ok report)
  | batch {r : BatchRequest} {fault : ArgumentFault} (result : Except Rejection Report)
      (hn : Operation.ofName? name = some .generateBatchTests)
      (hd : BatchRequest.decode arguments = .ok r) (hc : r.check = .error fault) :
      Declined name arguments result
  | analysis (result : Except Rejection Report)
      (hn : Operation.ofName? name = some .analyzeService) : Declined name arguments result

namespace Dispatcher

variable {σ : Type} (d : Dispatcher σ)

/-! ## Calls -/

/-- A report that shows an error was stopped. -/
theorem failure_ne_none {failure : Option CauseChain} {shown : Option Json} {message : Json}
    (hs : shown = failure.map fun chain => .str chain.message) (h : shown = some message) :
    failure ≠ none := by
  rintro rfl
  simp [hs] at h

theorem perform_untouched {request : Request} {w : World σ} {message : Json}
    (h : (d.perform request w).1.toJson.get? "error" = some message) :
    w.Untouched (d.perform request w).2 := by
  cases request with
  | analyze r => exact .refl w
  | generate r intent =>
      exact generateAs_untouched (failure_ne_none (d.generate r intent w).1.get?_error h)
  | batch r => exact absurd (h.symm.trans (d.generateBatch r w).1.get?_error) (by simp)
  | validate r => exact validate_untouched (failure_ne_none (d.validate r w).1.get?_error h)

theorem decode_analyze {arguments : Json} {request : Request}
    (h : Request.decode .analyzeService arguments = .ok request) :
    ∃ r, request = .analyze r := by
  cases hd : AnalyzeRequest.decode arguments with
  | error e => simp [Request.decode, hd, Except.map] at h
  | ok r =>
      simp only [Request.decode, hd, Except.map, Except.ok.injEq] at h
      exact ⟨r, h.symm⟩

theorem call_untouched {name : String} {arguments : Json} {w : World σ}
    (h : Declined name arguments (d.call name arguments w).1) :
    w.Untouched (d.call name arguments w).2 := by
  unfold call at h ⊢
  cases hn : Operation.ofName? name with
  | none => exact .refl w
  | some op =>
      simp only [hn] at h ⊢
      cases hq : Request.decode op arguments with
      | error e => exact .refl w
      | ok request =>
          simp only [hq] at h ⊢
          cases h with
          | stopped he => exact d.perform_untouched he
          | batch _ hop hd hc =>
              rw [hn, Option.some.injEq] at hop
              subst hop
              simp only [Request.decode, hd, Except.map, Except.ok.injEq] at hq
              subst hq
              exact generateBatch_untouched hc w
          | analysis _ hop =>
              rw [hn, Option.some.injEq] at hop
              subst hop
              obtain ⟨r, rfl⟩ := decode_analyze hq
              exact .refl w

/-- A call that is rejected, that reports an error or that only looks leaves every regular file as it
was and does not call the toolchain. -/
theorem declined_untouched {name : String} {arguments : Json} {w : World σ}
    (h : Declined name arguments (d.call name arguments w).1) :
    w.files.SameFiles (d.call name arguments w).2.files ∧ d.callCalls name arguments w = [] := by
  refine ⟨(d.call_untouched h).files, ?_⟩
  have he := congrArg Prod.fst (d.call_logged w.logging name arguments)
  rw [show w.logging.map Prod.snd = w from rfl] at he
  rw [he] at h
  have ht := (d.logged.call_untouched h).tools
  exact congrArg Prod.fst ht

end Dispatcher

/-! ## A service that is not there -/

def GenerateRequest.missingService : GenerateRequest :=
  ⟨"/p", "Order.kt", none, none, true, 3⟩

theorem Dispatcher.failure_missingService :
    (Dispatcher.steady.generate .missingService .unit .oneTest).1.failure =
      some (OperationFailure.unreadableService ⟨Path.join "/p" "Order.kt", .notFound⟩).chain := by
  have hc : GenerateRequest.missingService.check = .ok () := by decide
  have hr := World.resolve_oneTest (show World.PlainName "Order.kt" by decide)
  have hg : World.oneTest.files.get? ["p", "Order.kt"] = none := by decide
  have hread : World.oneTest.files.readText (Path.join "/p" "Order.kt") = .error .notFound := by
    simp only [FileSystem.readText, FileSystem.readBytes, FileSystem.status, hr, hg]
  have hx : extract World.oneTest.files Dispatcher.steady.defaultPackage
      GenerateRequest.missingService.projectRoot GenerateRequest.missingService.servicePath
      GenerateRequest.missingService.symbols = .error ⟨Path.join "/p" "Order.kt", .notFound⟩ :=
    extract_error hread _ _
  simp only [generate, generateAs, runGeneration, hc, hx]
  rfl

theorem Dispatcher.declined_untouched_missingService :
    Declined "generate_unit_test" GenerateRequest.missingService.toJson
        (Dispatcher.steady.call "generate_unit_test" GenerateRequest.missingService.toJson
          .oneTest).1 ∧
      World.oneTest.files.SameFiles (Dispatcher.steady.call "generate_unit_test"
        GenerateRequest.missingService.toJson .oneTest).2.files ∧
      Dispatcher.steady.callCalls "generate_unit_test" GenerateRequest.missingService.toJson
        .oneTest = [] := by
  have hd : Dispatcher.Request.decode .generateUnitTest GenerateRequest.missingService.toJson =
    .ok (.generate .missingService .unit) := by rfl
  have hn : Operation.ofName? "generate_unit_test" = some .generateUnitTest := by decide
  have hs : Declined "generate_unit_test" GenerateRequest.missingService.toJson
      (Dispatcher.steady.call "generate_unit_test" GenerateRequest.missingService.toJson
        .oneTest).1 := by
    have he := (Dispatcher.steady.generate .missingService .unit .oneTest).1.get?_error
    rw [failure_missingService] at he
    simp only [call, hn, hd]
    exact .stopped he
  exact ⟨hs, declined_untouched .steady hs⟩

end TestForge
