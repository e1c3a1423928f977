import TestForge.Proofs.Operation.Recording
import TestForge.Proofs.Operation.Untouched

/-!
# Records of a run of operations

Whatever operations a project sees one after the other, the diagnostics of each failed attempt are
kept, each in a file of its own, if no two sessions share a directory and nothing but records is
written among the records. Sessions are as many as the clock has been read.
-/

namespace TestForge

open FileSystem Toolchain

namespace Dispatcher

variable {σ : Type}

/-! ## Sequences of requests -/

/-- The tests that a request writes or verifies, each with the root of its project. -/
def Request.tests : Request → List (String × String)
  | .analyze _ => []
  | .generate r _ => [(r.projectRoot, r.target)]
  | .batch r => r.servicePaths.map fun path => (r.projectRoot, (r.item path).target)
  | .validate r => [(r.projectRoot, r.testPath)]

/-- Carries out requests one after the other. -/
def performAll (d : Dispatcher σ) : List Request → World σ → World σ
  | [], w => w
  | request :: rest, w => d.performAll rest (d.perform request w).2

/-! ## Sessions -/

/-- The session of an operation on a test. The clock is read for it, and for nothing else. -/
def sessionsOf (root target : String) (maxRetries : UInt32) (before after : World σ) :
    List Session :=
  if after.clock.taken = before.clock.taken then []
  else [⟨root, target, before.clock.readings before.clock.taken, max maxRetries.toNat 1⟩]

/-- The sessions of a generation. -/
def generateSessions (d : Dispatcher σ) (op : Operation) (r : GenerateRequest)
    (intent : TestIntent) (w : World σ) : List Session :=
  sessionsOf r.projectRoot r.target r.maxRetries w (d.generateAs op r intent w).2

/-- The sessions of the items of a batch, as far as the batch comes. -/
def itemSessions (d : Dispatcher σ) (r : BatchRequest) : List String → World σ → List Session
  | [], _ => []
  | path :: rest, w =>
    match d.generateAs .generateBatchTests (r.item path) .unit w with
    | (report, after) =>
      d.generateSessions .generateBatchTests (r.item path) .unit w ++
        if report.success || r.continueOnError then d.itemSessions r rest after else []

/-- The sessions that a request opens. -/
def requestSessions (d : Dispatcher σ) (request : Request) (w : World σ) : List Session :=
  match request with
  | .analyze _ => []
  | .generate r intent => d.generateSessions (intentOperation intent) r intent w
  | .batch r =>
    match r.check with
    | .ok () => d.itemSessions r r.servicePaths w
    | .error _ => []
  | .validate r => sessionsOf r.projectRoot r.testPath r.maxRetries w (d.validate r w).2

/-- The sessions that a sequence of requests opens, in the order in which they are opened. -/
def sessions (d : Dispatcher σ) : List Request → World σ → List Session
  | [], _ => []
  | request :: rest, w => d.requestSessions request w ++ d.sessions rest (d.perform request w).2

/-! ## Without the log -/

section

variable {τ : Type} {f : σ → τ} {d : Dispatcher σ} {b : Toolchain τ}

theorem performAll_map (h : d.tools.Maps f b) (requests : List Request) (w : World σ) :
    (d.withTools b).performAll requests (w.map f) = (d.performAll requests w).map f := by
  induction requests generalizing w with
  | nil => rfl
  | cons request rest ih =>
      rw [performAll, performAll, perform_map h]
      exact ih _

theorem generateSessions_map (h : d.tools.Maps f b) (op : Operation) (r : GenerateRequest)
    (intent : TestIntent) (w : World σ) :
    (d.withTools b).generateSessions op r intent (w.map f) = d.generateSessions op r intent w := by
  rw [generateSessions, generateAs_map h]
  rfl

theorem itemSessions_map (h : d.tools.Maps f b) (r : BatchRequest) (paths : List String)
    (w : World σ) :
    (d.withTools b).itemSessions r paths (w.map f) = d.itemSessions r paths w := by
  induction paths generalizing w with
  | nil => rfl
  | cons path rest ih => simp only [itemSessions, generateAs_map h, generateSessions_map h, ih]

theorem requestSessions_map (h : d.tools.Maps f b) (request : Request) (w : World σ) :
    (d.withTools b).requestSessions request (w.map f) = d.requestSessions request w := by
  cases request with
  | analyze r => rfl
  | generate r intent => exact generateSessions_map h _ r intent w
  | batch r => simp only [requestSessions, itemSessions_map h]
  | validate r =>
      simp only [requestSessions, validate_map h]
      rfl

theorem sessions_map (h : d.tools.Maps f b) (requests : List Request) (w : World σ) :
    (d.withTools b).sessions requests (w.map f) = d.sessions requests w := by
  induction requests generalizing w with
  | nil => rfl
  | cons request rest ih => simp only [sessions, requestSessions_map h, perform_map h, ih]

end

/-! ## What an operation records -/

/-- A test of a project whose path passes the project's records by. -/
structure Beside (fs : FileSystem) (base : Location) (test : String × String) : Prop where
  rooted : Rooted fs test.1 base
  passes : fs.PassesBy (Path.join test.1 test.2) (base ++ [".testsmith"])

section

variable {d : Dispatcher σ} {base : Location} {all : List Session} {old : FileSystem}
  {w w₁ w' : World (List Event × σ)}

theorem sessionsOf_eq_nil {τ : Type} {root target : String} {maxRetries : UInt32}
    {before after : World τ} (h : after.clock = before.clock) :
    sessionsOf root target maxRetries before after = [] := by
  rw [sessionsOf, h, if_pos rfl]

/-- A verification records what fails in the session that the clock shows. -/
theorem verification_recorded (hs : d.tools.Spares base) (hrec : d.recordAttempts = true)
    {root target : String} (ht : Beside old base (root, target)) {maxRetries : UInt32}
    (hw : Recording base all old w.files)
    (hall : ∀ s ∈ sessionsOf root target maxRetries w
      ((d.logged.verification root target).verify maxRetries d.logged.recordAttempts w).2, s ∈ all) :
    Recorded base all old (IsRecord base (sessionsOf root target maxRetries w
        ((d.logged.verification root target).verify maxRetries d.logged.recordAttempts w).2)) w
      ((d.logged.verification root target).verify maxRetries d.logged.recordAttempts w).2 := by
  have hlogged : d.logged.recordAttempts = true := hrec
  rw [logged_verification, hlogged] at hall ⊢
  have hclock := Verification.verify_clock (d.verification root target).logged maxRetries true w
  have hsession : sessionsOf root target maxRetries w
      ((d.verification root target).logged.verify maxRetries true w).2 =
        [(d.verification root target).session maxRetries w.clock] := by
    rw [sessionsOf, hclock]
    exact if_neg (Nat.succ_ne_self _)
  rw [hsession] at hall ⊢
  exact Verification.verify_recorded
    ⟨hall _ (List.mem_singleton_self _), rfl, hs, ht.rooted, ht.passes⟩ hw

theorem generateAs_recorded (hs : d.tools.Spares base) (hrec : d.recordAttempts = true)
    {op : Operation} {r : GenerateRequest} {intent : TestIntent}
    (ht : Beside old base (r.projectRoot, r.target)) (hw : Recording base all old w.files)
    (hall : ∀ s ∈ d.logged.generateSessions op r intent w, s ∈ all) :
    Recorded base all old (IsRecord base (d.logged.generateSessions op r intent w)) w
      (d.logged.generateAs op r intent w).2 := by
  have hgen := generation_runGeneration d.logged op r intent w
  unfold generateSessions generateAs at hall ⊢
  generalize d.logged.runGeneration op r intent w = generated at hgen hall ⊢
  obtain ⟨log, failure, w'⟩ := generated
  have hrooted := hw.rooted r.projectRoot ht.rooted
  have hartifact {artifact : String} {result : Except OperationFailure Unit} {files : FileSystem}
      (h : writeArtifact r.projectRoot r.target artifact w.files = (result, files)) :
      Spared base w.files files := by
    have hspared : Spared base w.files (writeArtifact r.projectRoot r.target artifact w.files).2 :=
      spared_writeArtifact hrooted (ht.passes.congr hw.workingDirectory)
    rwa [h] at hspared
  cases hgen with
  | rejected hc =>
      exact recorded_of_still hw (.refl base w.files) rfl
  | unreadable hc hx =>
      exact recorded_of_still hw (.refl base w.files) rfl
  | unwritten hc hx h => exact recorded_of_files hw (hartifact h)
  | unverified hc hx h hv =>
      exact recorded_of_files hw (hartifact h)
  | @verified x files verification _ hc hx h hv hy =>
      have hwritten : Recorded base all old (fun _ => False) w { w with files := files } :=
        recorded_of_files hw (hartifact h)
      have hverified : Recorded base all old _ { w with files := files }
          ((d.logged.verification r.projectRoot r.target).verify r.maxRetries
            d.logged.recordAttempts { w with files := files }).2 :=
        verification_recorded hs hrec ht hwritten.recording (by rw [hy]; exact hall)
      rw [hy] at hverified
      refine (hwritten.trans hverified fun _ => False.elim).mono ?_
      rintro place (hfalse | hp)
      · exact hfalse.elim
      · exact hp

/-- The items of a batch record what fails, each in a session of its own. -/
theorem runItems_recorded (hs : d.tools.Spares base) (hrec : d.recordAttempts = true)
    {r : BatchRequest} {paths : List String} {tally : BatchTally}
    (ht : ∀ path ∈ paths, Beside old base (r.projectRoot, (r.item path).target))
    (hw : Recording base all old w.files) (hall : ∀ s ∈ d.logged.itemSessions r paths w, s ∈ all)
    (hd : ((d.logged.itemSessions r paths w).map (·.place base)).Nodup) :
    Recorded base all old (IsRecord base (d.logged.itemSessions r paths w)) w
      (d.logged.runItems r paths tally w).2.2 := by
  induction paths generalizing tally w with
  | nil => exact recorded_of_still hw (.refl base w.files) rfl
  | cons path rest ih =>
      have hfirst : (∀ s ∈ d.logged.generateSessions .generateBatchTests (r.item path) .unit w,
          s ∈ all) →
          Recorded base all old
            (IsRecord base (d.logged.generateSessions .generateBatchTests (r.item path) .unit w)) w
            (d.logged.generateAs .generateBatchTests (r.item path) .unit w).2 :=
        generateAs_recorded hs hrec (ht path List.mem_cons_self) hw
      unfold itemSessions at hall hd ⊢
      unfold runItems
      have hsession := hfirst fun s hm => hall s (List.mem_append_left _ hm)
      generalize d.logged.generateAs .generateBatchTests (r.item path) .unit w = generated at *
      obtain ⟨report, after⟩ := generated
      simp only at hall hd hsession ⊢
      split
      · rename_i hgo
        rw [if_pos hgo] at hall hd
        refine hsession.append (ih (fun p hp => ht p (List.mem_cons_of_mem path hp))
          hsession.recording (fun s hm => hall s (List.mem_append_right _ hm)) ?_) hd
        rw [List.map_append] at hd
        exact (List.nodup_append.1 hd).2.1
      · rw [List.append_nil]
        exact hsession

theorem files_runCoverage {τ : Type} (d : Dispatcher τ) (root target : String) (w : World τ) :
    (d.runCoverage root target w).2.files =
      (d.tools.coverage root target w.files w.tools).2.1 := by
  unfold runCoverage
  rcases d.tools.coverage root target w.files w.tools with ⟨result, files, tools⟩
  cases result <;> rfl

theorem clock_runCoverage {τ : Type} (d : Dispatcher τ) (root target : String) (w : World τ) :
    (d.runCoverage root target w).2.clock = w.clock := by
  unfold runCoverage
  rcases d.tools.coverage root target w.files w.tools with ⟨result, files, tools⟩
  cases result <;> rfl

theorem clock_verifyExisting {τ : Type} (d : Dispatcher τ) (r : ValidateRequest) (w : World τ) :
    (d.verifyExisting r w).2.clock = ((d.verification r.projectRoot r.testPath).verify r.maxRetries
      d.recordAttempts w).2.clock := by
  unfold verifyExisting
  generalize (d.verification r.projectRoot r.testPath).verify r.maxRetries d.recordAttempts w =
    verified
  obtain ⟨steps, w₁⟩ := verified
  simp only
  split
  · exact clock_runCoverage d r.projectRoot r.testPath w₁
  · rfl

theorem coverage_recorded (hs : d.tools.Spares base) {mine : Location → Prop}
    {root target : String} (hr : Rooted old root base) (hw : Recording base all old w.files) :
    Recorded base all old mine w (d.logged.runCoverage root target w).2 := by
  obtain ⟨result, hcalls⟩ := d.runCoverage_calls root target w
  have hspared := hs.coverage root target w.files w.tools.2 (hw.rooted root hr)
  have hfiles := files_runCoverage d.logged root target w
  exact recorded_of_spared hw (hfiles ▸ hspared) hcalls rfl

theorem verifyExisting_recorded (hs : d.tools.Spares base) (hrec : d.recordAttempts = true)
    {r : ValidateRequest} (ht : Beside old base (r.projectRoot, r.testPath))
    (hw : Recording base all old w.files)
    (hall : ∀ s ∈ sessionsOf r.projectRoot r.testPath r.maxRetries w
      (d.logged.verifyExisting r w).2, s ∈ all) :
    Recorded base all old (IsRecord base
        (sessionsOf r.projectRoot r.testPath r.maxRetries w (d.logged.verifyExisting r w).2)) w
      (d.logged.verifyExisting r w).2 := by
  have hclock := clock_verifyExisting d.logged r w
  have hsame : sessionsOf r.projectRoot r.testPath r.maxRetries w (d.logged.verifyExisting r w).2 =
      sessionsOf r.projectRoot r.testPath r.maxRetries w
        ((d.logged.verification r.projectRoot r.testPath).verify r.maxRetries
          d.logged.recordAttempts w).2 := by
    rw [sessionsOf, hclock]
    rfl
  rw [hsame] at hall ⊢
  have hverified := verification_recorded hs hrec ht hw hall
  generalize sessionsOf r.projectRoot r.testPath r.maxRetries w
    ((d.logged.verification r.projectRoot r.testPath).verify r.maxRetries
      d.logged.recordAttempts w).2 = mine at hverified
  unfold verifyExisting
  generalize (d.logged.verification r.projectRoot r.testPath).verify r.maxRetries
    d.logged.recordAttempts w = verified at hverified ⊢
  obtain ⟨steps, w₁⟩ := verified
  simp only at hverified ⊢
  split
  · have hcovered : Recorded base all old (fun _ => False) w₁
        (d.logged.runCoverage r.projectRoot r.testPath w₁).2 :=
      coverage_recorded hs ht.rooted hverified.recording
    refine (hverified.trans hcovered fun _ _ => id).mono ?_
    rintro place (hp | hfalse)
    · exact hp
    · exact hfalse.elim
  · exact hverified

theorem validate_recorded (hs : d.tools.Spares base) (hrec : d.recordAttempts = true)
    {r : ValidateRequest} (ht : Beside old base (r.projectRoot, r.testPath))
    (hw : Recording base all old w.files)
    (hall : ∀ s ∈ sessionsOf r.projectRoot r.testPath r.maxRetries w (d.logged.validate r w).2,
      s ∈ all) :
    Recorded base all old (IsRecord base
        (sessionsOf r.projectRoot r.testPath r.maxRetries w (d.logged.validate r w).2)) w
      (d.logged.validate r w).2 := by
  unfold validate at hall ⊢
  split
  · exact recorded_of_still hw (.refl base w.files) rfl
  · rename_i hc
    rw [hc] at hall
    simp only at hall ⊢
    split
    · exact recorded_of_still hw (.refl base w.files) rfl
    · rename_i entry hstatus
      rw [hstatus] at hall
      exact verifyExisting_recorded hs hrec ht hw hall

/-- A request records what fails, in the sessions that it opens. -/
theorem perform_recorded (hs : d.tools.Spares base) (hrec : d.recordAttempts = true)
    {request : Request} (ht : ∀ test ∈ request.tests, Beside old base test)
    (hw : Recording base all old w.files)
    (hall : ∀ s ∈ d.logged.requestSessions request w, s ∈ all)
    (hd : ((d.logged.requestSessions request w).map (·.place base)).Nodup) :
    Recorded base all old (IsRecord base (d.logged.requestSessions request w)) w
      (d.logged.perform request w).2 := by
  cases request with
  | analyze r => exact recorded_of_still hw (.refl base w.files) rfl
  | generate r intent =>
      exact generateAs_recorded hs hrec (ht _ (List.mem_singleton_self _)) hw hall
  | batch r =>
      change Recorded base all old (IsRecord base (d.logged.requestSessions (.batch r) w)) w
        (d.logged.generateBatch r w).2
      unfold requestSessions at hall hd ⊢
      unfold generateBatch
      cases hc : r.check with
      | error fault =>
          exact recorded_of_still hw (.refl base w.files) rfl
      | ok _ =>
          simp only [hc] at hall hd ⊢
          exact runItems_recorded hs hrec
            (fun path hp => ht _ (List.mem_map.2 ⟨path, hp, rfl⟩)) hw hall hd
  | validate r => exact validate_recorded hs hrec (ht _ (List.mem_singleton_self _)) hw hall

theorem performAll_recorded (hs : d.tools.Spares base) (hrec : d.recordAttempts = true)
    {requests : List Request}
    (ht : ∀ request ∈ requests, ∀ test ∈ request.tests, Beside old base test)
    (hw : Recording base all old w.files) (hall : ∀ s ∈ d.logged.sessions requests w, s ∈ all)
    (hd : ((d.logged.sessions requests w).map (·.place base)).Nodup) :
    Recorded base all old (IsRecord base (d.logged.sessions requests w)) w
      (d.logged.performAll requests w) := by
  induction requests generalizing w with
  | nil => exact recorded_of_still hw (.refl base w.files) rfl
  | cons request rest ih =>
      unfold sessions at hall hd ⊢
      unfold performAll
      have hparts := hd
      rw [List.map_append] at hparts
      have hfirst := perform_recorded hs hrec (ht request List.mem_cons_self) hw
        (fun s hm => hall s (List.mem_append_left _ hm)) (List.nodup_append.1 hparts).1
      exact hfirst.append (ih (fun q hq => ht q (List.mem_cons_of_mem request hq))
        hfirst.recording (fun s hm => hall s (List.mem_append_right _ hm))
        (List.nodup_append.1 hparts).2.1) hd

end

end Dispatcher

end TestForge
