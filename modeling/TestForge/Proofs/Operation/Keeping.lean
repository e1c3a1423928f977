import Mathlib.Data.List.Infix
import TestForge.Proofs.Operation.LeftBehind
import TestForge.Proofs.Operation.Records

/-!
# No record is lost

After any sequence of requests for a project each failed attempt still has a record of its own, if
no two verifications had a directory in common and nothing else is written among the records.
-/

namespace TestForge

open FileSystem Toolchain

namespace Dispatcher

variable {σ : Type} {d : Dispatcher σ}

/-! ## Sessions and their projects -/

theorem root_of_mem_sessionsOf {root target : String} {maxRetries : UInt32} {before after : World σ}
    {s : Session} (h : s ∈ sessionsOf root target maxRetries before after) : s.root = root := by
  unfold sessionsOf at h
  split at h
  · cases h
  · rw [List.mem_singleton.1 h]

theorem root_of_mem_itemSessions {r : BatchRequest} {paths : List String} {w : World σ}
    {s : Session} (h : s ∈ d.itemSessions r paths w) : paths ≠ [] ∧ s.root = r.projectRoot := by
  induction paths generalizing w with
  | nil => cases h
  | cons path rest ih =>
      refine ⟨List.cons_ne_nil path rest, ?_⟩
      unfold itemSessions at h
      generalize d.generateAs .generateBatchTests (r.item path) .unit w = generated at h
      obtain ⟨report, after⟩ := generated
      rcases List.mem_append.1 h with hfirst | hrest
      · exact root_of_mem_sessionsOf hfirst
      · split at hrest
        · exact (ih hrest).2
        · cases hrest

/-- A session is opened for one of the tests of a request. -/
theorem exists_test_of_mem_requestSessions {request : Request} {w : World σ} {s : Session}
    (h : s ∈ d.requestSessions request w) : ∃ test ∈ request.tests, s.root = test.1 := by
  cases request with
  | analyze r => cases h
  | generate r intent => exact ⟨_, List.mem_singleton_self _, root_of_mem_sessionsOf h⟩
  | batch r =>
      unfold requestSessions at h
      cases hc : r.check with
      | error fault =>
          simp only [hc] at h
          cases h
      | ok _ =>
          simp only [hc] at h
          obtain ⟨hne, hroot⟩ := root_of_mem_itemSessions h
          obtain ⟨path, rest, hpaths⟩ := List.exists_cons_of_ne_nil hne
          exact ⟨_, List.mem_map_of_mem (hpaths ▸ List.mem_cons_self), hroot⟩
  | validate r => exact ⟨_, List.mem_singleton_self _, root_of_mem_sessionsOf h⟩

theorem exists_test_of_mem_sessions {requests : List Request} {w : World σ} {s : Session}
    (h : s ∈ d.sessions requests w) :
    ∃ request ∈ requests, ∃ test ∈ request.tests, s.root = test.1 := by
  induction requests generalizing w with
  | nil => cases h
  | cons request rest ih =>
      rcases List.mem_append.1 h with hfirst | hrest
      · exact ⟨request, List.mem_cons_self, exists_test_of_mem_requestSessions hfirst⟩
      · obtain ⟨other, hm, hother⟩ := ih hrest
        exact ⟨other, List.mem_cons_of_mem request hm, hother⟩

/-! ## Records at the end -/

/-- The calls of the toolchain in a sequence of requests, oldest first. -/
def callsOfAll (d : Dispatcher σ) (requests : List Request) (w : World σ) : List Event :=
  (d.logged.performAll requests w.logging).calls

theorem files_performAll (d : Dispatcher σ) (requests : List Request) (w : World σ) :
    (d.performAll requests w).files = (d.logged.performAll requests w.logging).files :=
  congrArg World.files (performAll_map (d := d.logged) d.tools.logged_maps requests w.logging)

theorem sessions_logged (d : Dispatcher σ) (requests : List Request) (w : World σ) :
    d.logged.sessions requests w.logging = d.sessions requests w :=
  (sessions_map (d := d.logged) d.tools.logged_maps requests w.logging).symm

/-- Attempts are recorded, and at the start of a sequence of requests all its records could be
written. -/
structure CanRecord (d : Dispatcher σ) (requests : List Request) (w : World σ) : Prop where
  recording : d.recordAttempts = true
  writable : ∀ s ∈ d.sessions requests w, s.Recordable w.files

/-- At the end of a sequence of requests each failed attempt has a file of its own among the records
of the project, which holds the diagnostic text of that attempt. -/
def KeepsRecords (d : Dispatcher σ) (base : Location) (requests : List Request) (w : World σ) :
    Prop :=
  ∃ places : List Location, places.Nodup ∧
    List.Forall₂ (Kept (d.performAll requests w).files base)
      (failedTexts (d.callsOfAll requests w)) places

theorem forall₂_of_records {base : Location} {sessions : List Session} {mine : Location → Prop}
    {texts : List String} {fs : FileSystem} {records : List (String × Location)}
    (h : Records base sessions mine texts fs records) :
    List.Forall₂ (Kept fs base) texts (records.map Prod.snd) := by
  rw [← h.texts, List.forall₂_map_left_iff, List.forall₂_map_right_iff, List.forall₂_same]
  exact h.kept

/-- Nothing is lost of what is recorded in the course of any requests for a project, if the sessions
of their verifications have different directories. -/
theorem records_kept (d : Dispatcher σ) {base : Location} (hs : d.tools.Spares base)
    {requests : List Request} {w : World σ} (hcan : d.CanRecord requests w)
    (htests : ∀ request ∈ requests, ∀ test ∈ request.tests, Beside w.files base test)
    (hdistinct : ((d.sessions requests w).map (·.place base)).Nodup) :
    d.KeepsRecords base requests w := by
  have hstart : Recording base (d.sessions requests w) w.files w.logging.files := by
    refine ⟨fun _ h => h, rfl, fun s hm phase attempt ha => ?_⟩
    obtain ⟨request, hr, test, ht, hroot⟩ := exists_test_of_mem_sessions hm
    have hrooted := (htests request hr test ht).rooted
    rw [← hroot] at hrooted
    exact (hcan.writable s hm).free hrooted ha
  have hall : ∀ s ∈ d.logged.sessions requests w.logging, s ∈ d.sessions requests w := by
    rw [sessions_logged]
    exact fun _ h => h
  rw [← sessions_logged] at hdistinct
  obtain ⟨calls, records, hcalls, hrecords⟩ :=
    (performAll_recorded hs hcan.recording htests hstart hall hdistinct).log
  refine ⟨records.map Prod.snd, hrecords.distinct, ?_⟩
  have hlog : d.callsOfAll requests w = calls := hcalls
  rw [files_performAll, hlog]
  exact forall₂_of_records hrecords

end Dispatcher

/-! ## One failed compilation -/

namespace Verification

variable {σ : Type} {v : Verification σ} {w : World σ}

/-- A compilation that fails and is not to be repeated leaves its record, and that is all. -/
theorem verify_failing {failure : ToolFailure} {files : FileSystem} {s : σ}
    (hc : v.tools.compile v.root v.target w.files w.tools = (.error failure, files, s)) :
    (v.verify 1 true w).2 = ⟨(v.session 1 w.clock).recorder.record .compile 0 failure files,
      w.clock.read.2, s⟩ := by
  have ha : v.attempt .compile { w with clock := w.clock.read.2 } =
      (.error failure, ⟨files, w.clock.read.2, s⟩) := by
    simp [attempt, hc, Except.map]
  have hrun : v.runPhase .compile (some (v.session 1 w.clock).recorder) (.start 1)
      { w with clock := w.clock.read.2 } = _ :=
    (PhaseRun.usedUp ha rfl).eq
  rw [verify_eq]
  change (v.runPhases 1 (some (v.session 1 w.clock).recorder) [.compile, .test] .empty
    { w with clock := w.clock.read.2 }).2 = _
  rw [runPhases]
  simp only [hrun]
  simp only [keepRecord, RetryState.start]

end Verification

/-! ## Compilations that fail -/

/-- Nothing compiles, each time for another reason, and a call may leave other files behind. -/
def Toolchain.failing (leaves : Nat → FileSystem → FileSystem) : Toolchain Nat where
  compile _ _ fs n := (.error (.diagnostics (toString n)), leaves n fs, n + 1)
  run _ _ fs n := (.error (.diagnostics (toString n)), leaves n fs, n + 1)
  coverage _ _ fs n := (.error (.diagnostics (toString n)), leaves n fs, n + 1)

/-- Leaves the files as they are. -/
def Toolchain.leavesAll (_ : Nat) (fs : FileSystem) : FileSystem :=
  fs

theorem Toolchain.readOnly_failing : (failing leavesAll).ReadOnly :=
  ⟨fun _ _ _ _ => rfl, fun _ _ _ _ => rfl, fun _ _ _ _ => rfl⟩

/-- A session of the only test, with one attempt for each phase. -/
def Session.oneTest (seconds : Nat) : Session :=
  ⟨"/p", "OrderTest.kt", seconds, 1⟩

/-- The record of a session's first compilation. -/
def Session.compiled (s : Session) (output : String) (fs : FileSystem) : FileSystem :=
  s.recorder.record .compile 0 (.diagnostics output) fs

/-- A world in which nothing has been called and no time been read. -/
def World.untried (files : FileSystem) (readings : Nat → Nat) : World Nat :=
  ⟨files, ⟨readings, 0⟩, 0⟩

namespace Dispatcher

/-- A request to validate that gives up after one failed compilation. -/
def singleTry : ValidateRequest :=
  ⟨"/p", "OrderTest.kt", 1, false⟩

def failing (leaves : Nat → FileSystem → FileSystem) : Dispatcher Nat :=
  ⟨.failing leaves, fun _ _ => false, .standard, "com.example", true⟩

section

variable {σ : Type} {d : Dispatcher σ} {w : World σ} {leaves : Nat → FileSystem → FileSystem}
  {files : FileSystem} {readings : Nat → Nat} {entry : Entry}

theorem validate_singleTry (hrec : d.recordAttempts = true)
    (hs : w.files.status (Path.join "/p" "OrderTest.kt") = .ok entry) :
    (d.validate singleTry w).2 = ((d.verification "/p" "OrderTest.kt").verify 1 true w).2 := by
  have hcheck : singleTry.check = .ok () := by decide
  have hstatus : w.files.status (Path.join singleTry.projectRoot singleTry.testPath) = .ok entry :=
    hs
  have hverify : d.validate singleTry w = d.verifyExisting singleTry w := by
    unfold validate
    rw [hcheck]
    simp only [hstatus]
  rw [hverify, verifyExisting, hrec]
  have hargs : (d.verification singleTry.projectRoot singleTry.testPath).verify singleTry.maxRetries
      true w = (d.verification "/p" "OrderTest.kt").verify 1 true w := rfl
  rw [hargs]
  obtain ⟨steps, after⟩ := (d.verification "/p" "OrderTest.kt").verify 1 true w
  rfl

/-- A validation makes its one call and records it. -/
theorem perform_singleTry {calls : List Event} {taken n : Nat}
    (hs : files.status (Path.join "/p" "OrderTest.kt") = .ok entry) :
    ((failing leaves).logged.perform (.validate singleTry)
        ⟨files, ⟨readings, taken⟩, (calls, n)⟩).2 =
      ⟨(Session.oneTest (readings taken)).compiled (toString n) (leaves n files),
        ⟨readings, taken + 1⟩, (calls ++ [⟨"/p", "OrderTest.kt", files,
          .compile (.error (.diagnostics (toString n)))⟩], n + 1)⟩ :=
  (validate_singleTry (d := (failing leaves).logged) rfl hs).trans
    (Verification.verify_failing
      (v := (failing leaves).logged.verification "/p" "OrderTest.kt") rfl)

/-- What two validations leave behind. -/
theorem performAll_twice (leaves : Nat → FileSystem → FileSystem) (readings : Nat → Nat)
    (files : FileSystem) {first : FileSystem} {entry entry' : Entry}
    (hfirst : (Session.oneTest (readings 0)).compiled "0" (leaves 0 files) = first)
    (hs : files.status (Path.join "/p" "OrderTest.kt") = .ok entry)
    (hs' : first.status (Path.join "/p" "OrderTest.kt") = .ok entry') :
    ((failing leaves).performAll [.validate singleTry, .validate singleTry]
        (.untried files readings)).files =
      (Session.oneTest (readings 1)).compiled "1" (leaves 1 first) ∧
    failedTexts ((failing leaves).callsOfAll [.validate singleTry, .validate singleTry]
        (.untried files readings)) =
      ["Compilation failed\n" ++ "0", "Compilation failed\n" ++ "1"] := by
  have hstart : (World.untried files readings).logging = ⟨files, ⟨readings, 0⟩, ([], 0)⟩ := rfl
  have hzero : toString 0 = "0" := by decide
  have hone : toString (0 + 1) = "1" := by decide
  rw [files_performAll, callsOfAll, hstart, performAll, performAll, performAll,
    perform_singleTry hs, hzero, hfirst, perform_singleTry hs', hone]
  simp only [Nat.zero_add, World.calls, List.nil_append, true_and]
  rfl

/-- A text that no file holds is not kept. -/
theorem not_keepsRecords {base : Location} {requests : List Request} (text : String)
    (hm : text ∈ failedTexts (d.callsOfAll requests w))
    (hlost : ∀ place, base ++ [".testsmith"] <+: place →
      (d.performAll requests w).files.content? place ≠ some text.toUTF8) :
    ¬d.KeepsRecords base requests w := by
  rintro ⟨places, -, hkept⟩
  obtain ⟨i, hi, rfl⟩ := List.mem_iff_getElem.1 hm
  obtain ⟨hlength, hget⟩ := List.forall₂_iff_get.1 hkept
  have hk := hget i hi (hlength ▸ hi)
  exact hlost _ ((List.prefix_append _ ["validation"]).trans (by simpa using hk.below)) hk.content

end

end Dispatcher

/-! ## Two validations of the only test -/

theorem World.rooted_oneTest : Rooted oneTest.files "/p" ["p"] where
  nonempty := by decide
  tree := isTree_of_entries (by decide) (by decide)
  linkless := World.linkless_oneTest
  resolve := World.resolve_root_oneTest true
  directory := by decide

/-- Nothing has been recorded yet. -/
theorem World.get?_oneTest {place : Location} (h : ["p", ".testsmith"] <+: place) :
    oneTest.files.get? place = none := by
  obtain ⟨names, rfl⟩ := h
  simp [oneTest, get?, find?]

theorem World.content?_oneTest {place : Location} (h : ["p", ".testsmith"] <+: place) :
    oneTest.files.content? place = none := by
  unfold content?
  rw [get?_oneTest h]

theorem status_of_grows {old new : FileSystem} {path : String} {content : ByteArray} {x : Bool}
    (hg : old.Grows new) (hs : old.status path = .ok (.file content x)) :
    ∃ entry, new.status path = .ok entry := by
  obtain ⟨content', hread⟩ := hg.readBytes (readBytes_ok_iff.2 ⟨x, hs⟩)
  obtain ⟨x', hs'⟩ := readBytes_ok_iff.1 hread
  exact ⟨_, hs'⟩

namespace Session

theorem attemptDirectory_oneTest (seconds : Nat) (phase : Phase) :
    (oneTest seconds).recorder.attemptDirectory phase 0 =
      "/p" ++ ("/" ++ ".testsmith") ++ ("/" ++ "validation") ++ ("/" ++ timestamp seconds) ++
        ("/" ++ "OrderTest") ++ ("/" ++ (phase.label ++ "_attempt_1")) := by
  have hclass : Layout.testClass "OrderTest.kt" = "OrderTest" := by decide
  have hname : phase.label ++ "_attempt_" ++ toString (0 + 1) = phase.label ++ "_attempt_1" := by
    cases phase <;> decide
  have htime : (timestamp seconds).toList.getLast? = some 'Z' := by
    rw [timestamp]
    exact getLast?_append_toList _ rfl
  have hlast {base name : String} {c : Char} (h : name.toList.getLast? = some c) :
      (base ++ ("/" ++ name)).toList.getLast? = some c :=
    getLast?_append_toList _ (getLast?_append_toList _ h)
  have htop : Path.join "/p" ".testsmith" = "/p" ++ ("/" ++ ".testsmith") :=
    join_eq_slash (c := 'p') (by decide) (by decide) (by decide)
  have hvalidation {base : String} :
      Path.join (base ++ ("/" ++ ".testsmith")) "validation" =
        base ++ ("/" ++ ".testsmith") ++ ("/" ++ "validation") :=
    join_eq_slash (hlast (c := 'h') (by decide)) (by decide) (by decide)
  have hsession {base : String} :
      Path.join (base ++ ("/" ++ "validation")) (timestamp seconds) =
        base ++ ("/" ++ "validation") ++ ("/" ++ timestamp seconds) :=
    join_eq_slash (hlast (c := 'n') (by decide)) (by decide)
      (isAbsolute_of_notMem (notMem_timestamp seconds))
  have htest {base : String} : Path.join (base ++ ("/" ++ timestamp seconds)) "OrderTest" =
      base ++ ("/" ++ timestamp seconds) ++ ("/" ++ "OrderTest") :=
    join_eq_slash (hlast htime) (by decide) (by decide)
  have hattempt {base : String} :
      Path.join (base ++ ("/" ++ "OrderTest")) (phase.label ++ "_attempt_1") =
        base ++ ("/" ++ "OrderTest") ++ ("/" ++ (phase.label ++ "_attempt_1")) :=
    join_eq_slash (hlast (c := 't') (by decide)) (by decide) (by cases phase <;> decide)
  rw [recorder, oneTest, AttemptRecorder.start, AttemptRecorder.attemptDirectory]
  simp only [hclass, hname, htop, hvalidation, hsession, htest, hattempt]

theorem diagnosticsPath_oneTest (seconds : Nat) (phase : Phase) :
    (oneTest seconds).recorder.diagnosticsPath phase 0 =
      (oneTest seconds).recorder.attemptDirectory phase 0 ++ ("/" ++ "diagnostics.txt") := by
  have hlast : ((oneTest seconds).recorder.attemptDirectory phase 0).toList.getLast? =
      some '1' := by
    rw [attemptDirectory_oneTest]
    exact getLast?_append_toList _ (getLast?_append_toList _ (getLast?_append_toList _ rfl))
  rw [AttemptRecorder.diagnosticsPath, join_eq_slash hlast (by decide) rfl]

theorem checkPath_orderTest {s : Session} (hroot : s.root = "/p")
    (hclass : Layout.testClass s.target = "OrderTest") (hs : s.seconds < 2) (phase : Phase)
    {attempt : Nat} (ha : attempt < 2) :
    checkPath (s.recorder.diagnosticsPath phase attempt) = .ok () := by
  have htimes : ∀ seconds < 2, Fits 16 (timestamp seconds) := by decide
  have hnames : ∀ phase ∈ [Phase.compile, .test], ∀ attempt < 2,
      Fits 17 (attemptName phase attempt) := by
    decide
  have hphase : phase ∈ [Phase.compile, .test] := by cases phase <;> decide
  have htop : Fits 24 (Path.join (Path.join s.root ".testsmith") "validation") := by
    rw [hroot]
    decide
  have hclass' : Fits 9 (Layout.testClass s.target) := by
    rw [hclass]
    decide
  have hfits := (((htop.join (htimes _ hs)).join hclass').join (hnames phase hphase attempt ha)).join
    (show Fits 15 "diagnostics.txt" by decide)
  exact hfits.checkPath (by decide) (join_ne_empty (join_ne_empty sessionDirectory_ne_empty
    (isAbsolute_of_notMem (AttemptRecorder.notMem_attemptName phase attempt))) rfl)

theorem checkPath_oneTest {seconds : Nat} (hs : seconds < 2) (phase : Phase) :
    checkPath ((oneTest seconds).recorder.diagnosticsPath phase 0) = .ok () :=
  checkPath_orderTest (s := oneTest seconds) rfl
    (show Layout.testClass "OrderTest.kt" = "OrderTest" by decide) hs phase (by decide)

theorem free_oneTest {seconds attempt : Nat} (hs : seconds < 2) (ha : attempt < 1) (phase : Phase) :
    (oneTest seconds).Free World.oneTest.files ["p"] phase attempt := by
  have hnames : ∀ seconds < 2, ∀ phase ∈ [Phase.compile, .test],
      ∀ piece ∈ (oneTest seconds).attemptWay phase 0, piece.utf8ByteSize ≤ maxNameBytes := by
    decide
  have hp : phase ∈ [Phase.compile, .test] := by cases phase <;> decide
  obtain rfl : attempt = 0 := by omega
  exact free_of_nothing (fun _ => World.get?_oneTest) (checkPath_oneTest hs phase)
    (hnames seconds hs phase hp)

theorem recordable_oneTest {seconds : Nat} (hs : seconds < 2) :
    (oneTest seconds).Recordable World.oneTest.files :=
  .of_free World.rooted_oneTest fun phase _ ha => free_oneTest hs ha phase

/-- Two sessions of the test, in the same second or in one after the other. -/
theorem recording_oneTest : Recording ["p"] [oneTest 0, oneTest 1] World.oneTest.files
    World.oneTest.files := by
  refine ⟨fun _ h => h, rfl, fun s hm phase attempt ha => ?_⟩
  rcases List.mem_pair.1 hm with rfl | rfl
  · exact free_oneTest (by decide) ha phase
  · exact free_oneTest (by decide) ha phase

theorem recording_compiled : Recording ["p"] [oneTest 0, oneTest 1] World.oneTest.files
    ((oneTest 0).compiled "0" World.oneTest.files) :=
  (recording_oneTest.record (s := oneTest 0) (by simp) World.rooted_oneTest
    (show 0 < 1 by decide) .compile (.diagnostics "0")).1

/-- After a record of a session the other files are what they were. -/
theorem content?_compiled {s : Session} {fs : FileSystem} (place : Location) (output : String)
    (hm : s ∈ [oneTest 0, oneTest 1]) (h : Recording ["p"] [oneTest 0, oneTest 1]
      World.oneTest.files fs) :
    (s.compiled output fs).content? place =
      if s.recordPlace ["p"] .compile 0 = place
        then some ("Compilation failed\n" ++ output).toUTF8 else fs.content? place := by
  have hroot : s.root = "/p" ∧ s.attempts = 1 := by
    rcases List.mem_pair.1 hm with rfl | rfl
    · exact ⟨rfl, rfl⟩
    · exact ⟨rfl, rfl⟩
  exact content?_record (hroot.1 ▸ h.rooted "/p" World.rooted_oneTest)
    (h.free s hm .compile 0 (by omega)) (.diagnostics output) place

end Session

namespace Dispatcher

section

variable {leaves : Nat → FileSystem → FileSystem} {files : FileSystem} {readings : Nat → Nat}
  {entry : Entry}

/-- A validation opens one session. -/
theorem requestSessions_singleTry {calls : List Event} {taken n : Nat}
    (hs : files.status (Path.join "/p" "OrderTest.kt") = .ok entry) :
    (failing leaves).logged.requestSessions (.validate singleTry)
      ⟨files, ⟨readings, taken⟩, (calls, n)⟩ = [.oneTest (readings taken)] := by
  have hclock : ((failing leaves).logged.validate singleTry
      ⟨files, ⟨readings, taken⟩, (calls, n)⟩).2.clock = ⟨readings, taken + 1⟩ :=
    congrArg World.clock (perform_singleTry hs)
  rw [requestSessions, sessionsOf, hclock, if_neg (Nat.succ_ne_self taken)]
  rfl

theorem sessions_twice (leaves : Nat → FileSystem → FileSystem) (readings : Nat → Nat)
    (files : FileSystem) {first : FileSystem} {entry entry' : Entry}
    (hfirst : (Session.oneTest (readings 0)).compiled "0" (leaves 0 files) = first)
    (hs : files.status (Path.join "/p" "OrderTest.kt") = .ok entry)
    (hs' : first.status (Path.join "/p" "OrderTest.kt") = .ok entry') :
    (failing leaves).sessions [.validate singleTry, .validate singleTry] (.untried files readings) =
      [.oneTest (readings 0), .oneTest (readings 1)] := by
  have hstart : (World.untried files readings).logging = ⟨files, ⟨readings, 0⟩, ([], 0)⟩ := rfl
  have hzero : toString 0 = "0" := by decide
  rw [← sessions_logged, hstart, sessions, sessions, sessions, requestSessions_singleTry hs,
    perform_singleTry hs, hzero, hfirst, requestSessions_singleTry hs']
  rfl

/-- Whatever is left behind, two validations of the test can record what they should. -/
theorem canRecord_twice (times : List Nat)
    (hsessions : (failing leaves).sessions [.validate singleTry, .validate singleTry]
      (.untried World.oneTest.files readings) = times.map .oneTest) (ht : ∀ n ∈ times, n < 2) :
    (failing leaves).CanRecord [.validate singleTry, .validate singleTry]
      (.untried World.oneTest.files readings) := by
  refine ⟨rfl, fun s hm => ?_⟩
  rw [hsessions, List.mem_map] at hm
  obtain ⟨n, hn, rfl⟩ := hm
  exact Session.recordable_oneTest (ht n hn)

end

/-- After a first record the test is still what it was. -/
theorem readBytes_compiled :
    ((Session.oneTest 0).compiled "0" World.oneTest.files).readBytes
      (Path.join "/p" "OrderTest.kt") = .ok "class OrderTest".toUTF8 := by
  have hrecorded := Session.content?_compiled ["p", "OrderTest.kt"] "0"
    (s := .oneTest 0) (by simp) Session.recording_oneTest
  have hne : (Session.oneTest 0).recordPlace ["p"] .compile 0 ≠ ["p", "OrderTest.kt"] := by
    intro he
    have hbelow := (Session.oneTest 0).top_recordPlace ["p"] .compile 0
    rw [he] at hbelow
    exact absurd hbelow (by decide)
  rw [if_neg hne] at hrecorded
  obtain ⟨x, hget⟩ := content?_eq_some_iff.1 (hrecorded.trans (by decide :
    World.oneTest.files.content? ["p", "OrderTest.kt"] = some "class OrderTest".toUTF8))
  have hgrows := Verification.grows_record (Session.oneTest 0).recorder .compile 0
    (.diagnostics "0") World.oneTest.files
  have hresolve := hgrows.resolve
    (World.resolve_oneTest (show World.PlainName "OrderTest.kt" by decide))
  exact readBytes_ok_iff.2 ⟨x, status_ok_iff.2 ⟨_, hresolve, hget⟩⟩

theorem status_compiled : ∃ entry, ((Session.oneTest 0).compiled "0" World.oneTest.files).status
    (Path.join "/p" "OrderTest.kt") = .ok entry := by
  obtain ⟨x, hs⟩ := readBytes_ok_iff.1 readBytes_compiled
  exact ⟨_, hs⟩

theorem beside_oneTest : Beside World.oneTest.files ["p"] ("/p", "OrderTest.kt") := by
  refine ⟨World.rooted_oneTest, fun via hpass => ?_⟩
  have hstart : World.oneTest.files.start (Path.join "/p" "OrderTest.kt") = [] := by decide
  have hpieces : pieces (Path.join "/p" "OrderTest.kt") = ["", "p", "OrderTest.kt"] := by
    decide
  obtain ⟨front, -, hp, rfl⟩ := hpass
  rw [hstart]
  rw [hpieces] at hp
  have hall : ∀ front ∈ ["", "p", "OrderTest.kt"].inits,
      ¬["p"] ++ [".testsmith"] <+: front.foldl step [] := by
    decide
  exact hall front ((List.mem_inits _ _).2 hp)

theorem records_kept_twice :
    let d := failing leavesAll
    let requests : List Request := [.validate singleTry, .validate singleTry]
    let w := World.untried World.oneTest.files id
    d.tools.Spares ["p"] ∧ d.CanRecord requests w ∧
      (∀ request ∈ requests, ∀ test ∈ request.tests, Beside w.files ["p"] test) ∧
      ((d.sessions requests w).map (·.place ["p"])).Nodup ∧ d.KeepsRecords ["p"] requests w := by
  have hspares := readOnly_failing.spares ["p"]
  obtain ⟨entry, hs⟩ := status_compiled
  have hsessions := sessions_twice leavesAll id World.oneTest.files rfl World.status_oneTest hs
  have hcan : (failing leavesAll).CanRecord [.validate singleTry, .validate singleTry]
      (.untried World.oneTest.files id) :=
    canRecord_twice [0, 1] hsessions (by decide)
  have htests : ∀ request ∈ [Request.validate singleTry, .validate singleTry],
      ∀ test ∈ request.tests, Beside World.oneTest.files ["p"] test := by
    intro request hr test ht
    rcases List.mem_pair.1 hr with rfl | rfl
    · rw [List.mem_singleton.1 ht]
      exact beside_oneTest
    · rw [List.mem_singleton.1 ht]
      exact beside_oneTest
  have hdistinct : (((failing leavesAll).sessions [.validate singleTry, .validate singleTry]
      (.untried World.oneTest.files id)).map (·.place ["p"])).Nodup := by
    rw [hsessions]
    decide
  exact ⟨hspares, hcan, htests, hdistinct, records_kept _ hspares hcan htests hdistinct⟩

/-! ## Records that are lost -/

/-- Attempts are recorded in the course of time, and yet not all of their records are kept. -/
def Loses {σ : Type} (d : Dispatcher σ) (base : Location) (requests : List Request) (w : World σ) :
    Prop :=
  w.clock.Monotone ∧ d.CanRecord requests w ∧ ¬d.KeepsRecords base requests w

/-- Puts the files back to what they were, except in the first call. -/
def restoring : Nat → FileSystem → FileSystem
  | 0, fs => fs
  | _ + 1, _ => World.oneTest.files

theorem diagnosticText_ne : ("Compilation failed\n" ++ "1").toUTF8 ≠
    ("Compilation failed\n" ++ "0").toUTF8 :=
  fun h => absurd (toUTF8_injective h) (by decide)

/-- Of two verifications in one second the later writes over what the earlier has recorded. -/
theorem lost_in_same_second :
    let requests : List Request := [.validate singleTry, .validate singleTry]
    let w := World.untried World.oneTest.files fun _ => 0
    (failing leavesAll).CanRecord requests w ∧
      ¬(failing leavesAll).KeepsRecords ["p"] requests w := by
  obtain ⟨entry, hs⟩ := status_compiled
  have hfirst : (Session.oneTest 0).compiled "0" (leavesAll 0 World.oneTest.files) =
      (Session.oneTest 0).compiled "0" World.oneTest.files := by
    rw [leavesAll]
  have hsessions := sessions_twice leavesAll (fun _ => 0) World.oneTest.files hfirst
    World.status_oneTest hs
  obtain ⟨hfiles, htexts⟩ := performAll_twice leavesAll (fun _ => 0) World.oneTest.files hfirst
    World.status_oneTest hs
  refine ⟨canRecord_twice [0, 0] hsessions (by decide), not_keepsRecords
    ("Compilation failed\n" ++ "0") (by rw [htexts]; exact List.mem_cons_self) ?_⟩
  intro place hbelow
  rw [leavesAll] at hfiles
  rw [hfiles, Session.content?_compiled place "1" (by simp) Session.recording_compiled]
  split
  · exact fun h => diagnosticText_ne (Option.some.inj h)
  · rename_i hne
    rw [Session.content?_compiled place "0" (by simp) Session.recording_oneTest, if_neg hne,
      World.content?_oneTest hbelow]
    exact (Option.some_ne_none _).symm

/-- What a toolchain takes away is lost. -/
theorem lost_by_toolchain :
    let requests : List Request := [.validate singleTry, .validate singleTry]
    let w := World.untried World.oneTest.files id
    (failing restoring).CanRecord requests w ∧
      ¬(failing restoring).KeepsRecords ["p"] requests w := by
  obtain ⟨entry, hs⟩ := status_compiled
  have hsessions := sessions_twice restoring id World.oneTest.files rfl World.status_oneTest hs
  obtain ⟨hfiles, htexts⟩ := performAll_twice restoring id World.oneTest.files rfl
    World.status_oneTest hs
  refine ⟨canRecord_twice [0, 1] hsessions (by decide), not_keepsRecords
    ("Compilation failed\n" ++ "0") (by rw [htexts]; exact List.mem_cons_self) ?_⟩
  intro place hbelow
  simp only [restoring] at hfiles
  rw [hfiles, Session.content?_compiled place "1" (by simp) Session.recording_oneTest]
  split
  · exact fun h => diagnosticText_ne (Option.some.inj h)
  · rw [World.content?_oneTest hbelow]
    exact (Option.some_ne_none _).symm

/-- The path of the first record, which is absolute and so stands for itself below the root. -/
def recordPath : String :=
  (Session.oneTest 0).recorder.diagnosticsPath .compile 0

theorem join_recordPath : Path.join "/p" recordPath = recordPath := by
  have hunder := Session.under_diagnosticsPath (s := .oneTest 0) World.rooted_oneTest.nonempty
    .compile 0
  exact join_absolute "/p" (hunder.absolute.trans rfl)

/-- A request to write a test where the first record is kept. -/
def overRecord : GenerateRequest :=
  ⟨"/p", "OrderTest.kt", none, some recordPath, false, 1⟩

/-- A test that is written there takes the place of the record. -/
theorem writeArtifact_overRecord (artifact : String) :
    ∃ written, writeArtifact "/p" recordPath artifact
        ((Session.oneTest 0).compiled "0" World.oneTest.files) = (.ok (), written) ∧
      ∀ place, written.content? place =
        if (Session.oneTest 0).recordPlace ["p"] .compile 0 = place then some artifact.toUTF8
        else ((Session.oneTest 0).compiled "0" World.oneTest.files).content? place := by
  have hrecording := Session.recording_compiled
  have hfree := hrecording.free (.oneTest 0) (by simp) .compile 0 (show 0 < 1 by decide)
  generalize (Session.oneTest 0).compiled "0" World.oneTest.files = first at hrecording hfree ⊢
  obtain ⟨made, x, honly, hmade, hwritten⟩ :=
    hfree.writes (hrecording.rooted "/p" World.rooted_oneTest)
  have hne := (Session.under_attemptDirectory (s := .oneTest 0) World.rooted_oneTest.nonempty
    .compile 0).2
  have hparent : Path.parent? recordPath =
      some ((Session.oneTest 0).recorder.attemptDirectory .compile 0) := by
    rw [recordPath, Session.diagnosticsPath_oneTest]
    exact parent?_slash hne (Session.clean_attemptDirectory .compile 0) (by decide) (by decide)
  refine ⟨_, writeArtifact_of_writes ?_ hmade ?_,
    Session.content?_put_recordPlace honly artifact.toUTF8 x⟩
  · rw [join_recordPath, hparent]
  · rw [join_recordPath]
    exact hwritten artifact

/-- A generation over the first record, after the validation that has made it. -/
theorem generate_overRecord {w : World (List Event × Nat)}
    (hw : w.files = (Session.oneTest 0).compiled "0" World.oneTest.files) :
    ∃ written, ((failing leavesAll).logged.generate overRecord .unit w).2 =
        { w with files := written } ∧
      ∀ place, ["p", ".testsmith"] <+: place →
        written.content? place ≠ some ("Compilation failed\n" ++ "0").toUTF8 := by
  have hc : overRecord.check = .ok () := by decide
  have hne := (Session.under_attemptDirectory (s := .oneTest 0) World.rooted_oneTest.nonempty
    .compile 0).2
  have ht : overRecord.target = recordPath := target_of_path rfl (Session.join_ne_empty hne rfl)
  have hx := extract_ok (readText_of_readBytes readBytes_compiled) "com.example" none
  rw [← hw] at hx
  obtain ⟨written, hwrite, hcontent⟩ := writeArtifact_overRecord
    ((failing leavesAll).logged.artifactOf overRecord .unit
      (Extraction.ofText "com.example" "OrderTest.kt" none "class OrderTest") w)
  rw [← hw, ← ht] at hwrite
  refine ⟨written, (generate_written (d := (failing leavesAll).logged) hc hx hwrite rfl).2.2, ?_⟩
  intro place hbelow
  rw [hcontent]
  split
  · intro h
    have hne : (Extraction.ofText "com.example" "OrderTest.kt" none "class OrderTest").model.render
        .isolatedMock .unit ≠ "Compilation failed\n" ++ "0" := by
      decide +kernel
    exact hne (toUTF8_injective (Option.some.inj h))
  · rename_i hne
    rw [Session.content?_compiled place "0" (by simp) Session.recording_oneTest, if_neg hne,
      World.content?_oneTest hbelow]
    exact (Option.some_ne_none _).symm

/-- What a test is written over is lost. -/
theorem lost_by_generation :
    let requests : List Request := [.validate singleTry, .generate overRecord .unit]
    let w := World.untried World.oneTest.files id
    (failing leavesAll).CanRecord requests w ∧
      ¬(failing leavesAll).KeepsRecords ["p"] requests w := by
  have hstart : (World.untried World.oneTest.files id).logging =
      ⟨World.oneTest.files, ⟨id, 0⟩, ([], 0)⟩ := rfl
  have hzero : toString 0 = "0" := by decide
  generalize hafter : ((failing leavesAll).logged.perform (.validate singleTry)
    ⟨World.oneTest.files, ⟨id, 0⟩, ([], 0)⟩).2 = after
  have hfirst := hafter.symm
  rw [perform_singleTry World.status_oneTest, hzero] at hfirst
  simp only [leavesAll, id_eq] at hfirst
  obtain ⟨written, hgenerate, hlost⟩ := generate_overRecord (w := after) (by rw [hfirst])
  have hlast : ((failing leavesAll).logged.perform (.generate overRecord .unit) after).2 =
      { after with files := written } := hgenerate
  have hsessions : (failing leavesAll).sessions [.validate singleTry, .generate overRecord .unit]
      (.untried World.oneTest.files id) = [.oneTest 0] := by
    have hclock : ((failing leavesAll).logged.generateAs (intentOperation .unit) overRecord .unit
        after).2.clock = after.clock := by
      have hsame := congrArg World.clock hgenerate
      exact hsame
    have hnone : (failing leavesAll).logged.requestSessions (.generate overRecord .unit) after =
        [] :=
      sessionsOf_eq_nil hclock
    rw [← sessions_logged, hstart, sessions, sessions, sessions, hafter, hnone,
      requestSessions_singleTry World.status_oneTest]
    rfl
  refine ⟨⟨rfl, fun s hm => ?_⟩, not_keepsRecords ("Compilation failed\n" ++ "0") ?_ ?_⟩
  · rw [hsessions, List.mem_singleton] at hm
    rw [hm]
    exact Session.recordable_oneTest (by decide)
  · rw [callsOfAll, hstart, performAll, performAll, performAll, hafter, hlast, hfirst]
    exact List.mem_cons_self
  · rw [files_performAll, hstart, performAll, performAll, performAll, hafter, hlast]
    exact hlost

/-- The directory of the second second is a link to that of the first. -/
def linked : FileSystem :=
  ⟨[(["p"], .directory), (["p", "OrderTest.kt"], .file "class OrderTest".toUTF8 false),
    (["p", ".testsmith"], .directory), (["p", ".testsmith", "validation"], .directory),
    (["p", ".testsmith", "validation", "19700101T000000Z"], .directory),
    (["p", ".testsmith", "validation", "19700101T000000Z", "OrderTest"], .directory),
    (["p", ".testsmith", "validation", "19700101T000000Z", "OrderTest", "compile_attempt_1"],
      .directory),
    (["p", ".testsmith", "validation", "19700101T000000Z", "OrderTest", "test_attempt_1"],
      .directory),
    (["p", ".testsmith", "validation", "19700101T000001Z"], .link "19700101T000000Z")], []⟩

/-- Where attempts of either second are recorded. -/
def linkedPlace (phase : Phase) : Location :=
  ["p", ".testsmith", "validation", "19700101T000000Z", "OrderTest", phase.label ++ "_attempt_1"]

theorem pieces_oneTest (seconds : Nat) (phase : Phase) :
    pieces ((Session.oneTest seconds).recorder.attemptDirectory phase 0) =
      ["", "p", ".testsmith", "validation", timestamp seconds, "OrderTest",
        phase.label ++ "_attempt_1"] := by
  have hroot : pieces "/p" = ["", "p"] := by decide
  have hname : '/' ∉ (phase.label ++ "_attempt_1").toList := by cases phase <;> decide
  simp only [Session.attemptDirectory_oneTest, pieces_slash, hroot, pieces_name hname,
    pieces_name (notMem_timestamp seconds), pieces_name (show '/' ∉ ".testsmith".toList by decide),
    pieces_name (show '/' ∉ "validation".toList by decide),
    pieces_name (show '/' ∉ "OrderTest".toList by decide)]
  rfl

theorem get?_linkedPlace (phase : Phase) : linked.get? (linkedPlace phase) = some .directory ∧
    linked.get? (linkedPlace phase ++ ["diagnostics.txt"]) = none := by
  cases phase <;> decide

theorem walk_linked {seconds : Nat} (hs : seconds < 2) (phase : Phase) (follow : Bool) :
    let directory := pieces ((Session.oneTest seconds).recorder.attemptDirectory phase 0)
    linked.walk follow maxLinks [] directory = .ok (linkedPlace phase) ∧
      linked.walk follow maxLinks [] (directory ++ ["diagnostics.txt"]) =
        .ok (linkedPlace phase ++ ["diagnostics.txt"]) := by
  have htimes : timestamp 0 = "19700101T000000Z" ∧ timestamp 1 = "19700101T000001Z" := by
    decide
  have hsize : ∀ name ∈ ["p", ".testsmith", "validation", "19700101T000000Z", "19700101T000001Z",
      "OrderTest", "diagnostics.txt"], ¬255 < name.utf8ByteSize := by
    decide
  have hlink : linked.get? ["p", ".testsmith", "validation", "19700101T000001Z"] =
        some (.link "19700101T000000Z") ∧
      pieces "19700101T000000Z" = ["19700101T000000Z"] ∧
      linkStart ["p", ".testsmith", "validation"] "19700101T000000Z" =
        ["p", ".testsmith", "validation"] := by
    decide
  have hdirs : ∀ names ∈ (linkedPlace phase).inits, linked.get? names = some .directory := by
    cases phase <;> decide
  have hnone := (get?_linkedPlace phase).2
  have hname : phase.label ++ "_attempt_1" ≠ "" ∧ phase.label ++ "_attempt_1" ≠ "." ∧
      phase.label ++ "_attempt_1" ≠ ".." ∧ ¬255 < (phase.label ++ "_attempt_1").utf8ByteSize := by
    cases phase <;> decide
  simp only [pieces_oneTest]
  simp only [linkedPlace] at hdirs hnone ⊢
  generalize phase.label ++ "_attempt_1" = name at *
  simp only [List.forall_mem_cons] at hsize
  simp only [List.inits, List.map_cons, List.map_nil, List.forall_mem_cons, List.cons_append,
    List.nil_append] at hdirs hnone
  obtain rfl | rfl : seconds = 0 ∨ seconds = 1 := by omega
  · simp [walk, hsize, requireDirectory, maxNameBytes, htimes, hdirs, hnone, hname]
  · simp [walk, hsize, requireDirectory, maxNameBytes, maxLinks, htimes, hdirs, hnone, hname, hlink]

/-- Attempts of both seconds find their directory there, and their record in it. -/
theorem resolve_linked {seconds : Nat} (hs : seconds < 2) (phase : Phase) :
    (∀ follow, linked.resolve ((Session.oneTest seconds).recorder.attemptDirectory phase 0) follow =
        .ok (linkedPlace phase)) ∧
      linked.resolve ((Session.oneTest seconds).recorder.diagnosticsPath phase 0) true =
        .ok (linkedPlace phase ++ ["diagnostics.txt"]) := by
  have hk := Session.checkPath_oneTest hs phase
  rw [Session.diagnosticsPath_oneTest] at hk ⊢
  have hne : (Session.oneTest seconds).recorder.attemptDirectory phase 0 ≠ "" :=
    (Session.under_attemptDirectory (s := .oneTest seconds)
      World.rooted_oneTest.nonempty phase 0).2
  have hstart : linked.start ((Session.oneTest seconds).recorder.attemptDirectory phase 0) = [] :=
    ite_self []
  have hdiagnostics : pieces "diagnostics.txt" = ["diagnostics.txt"] := by decide
  refine ⟨fun follow => ?_, ?_⟩
  · simp only [resolve, checkPath_prefix hk hne, hstart, (walk_linked hs phase follow).1]
  · simp only [resolve, hk, start_append _ hne, hstart, pieces_slash, hdiagnostics,
      (walk_linked hs phase true).2]

/-- Whatever has been added since, the directories are there and a free record is written. -/
theorem writes_linked {fs : FileSystem} (hg : linked.Grows fs) {seconds : Nat} (hs : seconds < 2)
    (phase : Phase) (hfree : fs.get? (linkedPlace phase ++ ["diagnostics.txt"]) ≠ some .directory) :
    fs.createDirectories ((Session.oneTest seconds).recorder.attemptDirectory phase 0) =
        (.ok (), fs) ∧
      ∀ text, ∃ x, fs.writeText ((Session.oneTest seconds).recorder.diagnosticsPath phase 0) text =
        .ok (fs.put (linkedPlace phase ++ ["diagnostics.txt"]) (.file text.toUTF8 x)) := by
  obtain ⟨hdirectory, hrecord⟩ := resolve_linked hs phase
  have hthere := hg.directory _ (get?_linkedPlace phase).1
  have hne := (Session.under_attemptDirectory (s := .oneTest seconds)
    World.rooted_oneTest.nonempty phase 0).2
  have hclean := Session.clean_attemptDirectory (s := .oneTest seconds) phase 0
  constructor
  · have hcreate : fs.createDirectory
        ((Session.oneTest seconds).recorder.attemptDirectory phase 0) = .error .exists := by
      unfold createDirectory
      simp only [dropSlashes_clean hclean, hg.resolve (hdirectory false), hthere]
    rw [createDirectories, lineage_eq, createLineage_of_error hne hcreate (by simp),
      if_pos (isDirectory_iff.2 ⟨_, hg.resolve (hdirectory true), hthere⟩)]
  · intro text
    have hplace : fs.writePlace ((Session.oneTest seconds).recorder.diagnosticsPath phase 0) =
        .ok (linkedPlace phase ++ ["diagnostics.txt"]) := by
      rw [writePlace, Session.endsInSlash_diagnosticsPath, if_neg Bool.false_ne_true]
      exact hg.resolve hrecord
    have hlinks : ∀ target, fs.get? (linkedPlace phase ++ ["diagnostics.txt"]) ≠
        some (.link target) := by
      intro target hlink
      have hnone := (get?_linkedPlace phase).2
      rw [(hg.link _ _).2 hlink] at hnone
      cases hnone
    unfold writeText writeBytes
    simp only [hplace]
    cases hget : fs.get? (linkedPlace phase ++ ["diagnostics.txt"]) with
    | none => exact ⟨false, rfl⟩
    | some entry =>
        cases entry with
        | file content x => exact ⟨x, rfl⟩
        | directory => exact absurd hget hfree
        | link target => exact absurd hget (hlinks target)

theorem compiled_linked {fs : FileSystem} (hg : linked.Grows fs) {seconds : Nat} (hs : seconds < 2)
    (hfree : fs.get? (linkedPlace .compile ++ ["diagnostics.txt"]) ≠ some .directory)
    (output : String) :
    ∃ x, (Session.oneTest seconds).compiled output fs =
      fs.put (linkedPlace .compile ++ ["diagnostics.txt"])
        (.file (ToolFailure.diagnostics output).diagnosticText.toUTF8 x) := by
  obtain ⟨hmade, hwrites⟩ := writes_linked hg hs .compile hfree
  obtain ⟨x, hwritten⟩ := hwrites (ToolFailure.diagnostics output).diagnosticText
  exact ⟨x, Session.record_of_writes hmade hwritten⟩

theorem recordable_linked {seconds : Nat} (hs : seconds < 2) :
    (Session.oneTest seconds).Recordable linked := by
  intro phase attempt ha
  obtain rfl : attempt = 0 := Nat.lt_one_iff.1 ha
  have hfree : linked.get? (linkedPlace phase ++ ["diagnostics.txt"]) ≠ some .directory := by
    rw [(get?_linkedPlace phase).2]
    exact (Option.some_ne_none _).symm
  obtain ⟨hmade, hwrites⟩ := writes_linked (.refl linked) hs phase hfree
  obtain ⟨x, hwritten⟩ := hwrites ""
  exact ⟨_, _, hmade, hwritten⟩

theorem status_linked : linked.status (Path.join "/p" "OrderTest.kt") =
    .ok (.file "class OrderTest".toUTF8 false) := by
  have hpieces : pieces (Path.join "/p" "OrderTest.kt") = ["", "p", "OrderTest.kt"] := by
    decide
  have hstart : linked.start (Path.join "/p" "OrderTest.kt") = [] := ite_self []
  have hk : checkPath (Path.join "/p" "OrderTest.kt") = .ok () := by decide
  have hget : linked.get? ["p"] = some .directory ∧ linked.get? ["p", "OrderTest.kt"] =
      some (.file "class OrderTest".toUTF8 false) := by
    decide
  have hsize : ¬255 < "p".utf8ByteSize ∧ ¬255 < "OrderTest.kt".utf8ByteSize := by decide
  refine status_ok_iff.2 ⟨["p", "OrderTest.kt"], ?_, hget.2⟩
  simp [resolve, hk, hstart, hpieces, walk, requireDirectory, maxNameBytes, hsize, hget, get?_nil]

theorem content?_linked {place : Location} (h : ["p", ".testsmith"] <+: place) :
    linked.content? place = none := by
  cases hc : linked.content? place with
  | none => rfl
  | some content =>
      obtain ⟨x, hget⟩ := content?_eq_some_iff.1 hc
      have hne : place ≠ [] := by
        rintro rfl
        exact absurd h (by decide)
      have hm := (get?_eq_some_iff (by decide) hne).1 hget
      simp only [linked, List.mem_cons, Prod.mk.injEq, reduceCtorEq, and_false, false_or, or_false,
        List.not_mem_nil] at hm
      rw [hm.1] at h
      exact absurd h (by decide)

/-- What is recorded through a link to the directory of another session is written over there. -/
theorem lost_by_link :
    let requests : List Request := [.validate singleTry, .validate singleTry]
    let w := World.untried linked id
    (failing leavesAll).CanRecord requests w ∧
      ¬(failing leavesAll).KeepsRecords ["p"] requests w := by
  have hgrows : linked.Grows ((Session.oneTest 0).compiled "0" linked) :=
    Verification.grows_record _ _ _ _ _
  obtain ⟨x, hfirst⟩ := compiled_linked (.refl linked) (show 0 < 2 by decide) (by
    rw [(get?_linkedPlace .compile).2]
    exact (Option.some_ne_none _).symm) "0"
  rw [hfirst] at hgrows
  obtain ⟨y, hsecond⟩ := compiled_linked hgrows (show 1 < 2 by decide) (by
    rw [get?_put _ _ _ _ (by simp), if_pos rfl]
    simp) "1"
  obtain ⟨entry, hs⟩ := status_of_grows hgrows status_linked
  have hleft : (Session.oneTest (id 0)).compiled "0" (leavesAll 0 linked) =
      linked.put (linkedPlace .compile ++ ["diagnostics.txt"])
        (.file (ToolFailure.diagnostics "0").diagnosticText.toUTF8 x) := by
    rw [leavesAll]
    exact hfirst
  have hsessions := sessions_twice leavesAll id linked hleft status_linked hs
  obtain ⟨hfiles, htexts⟩ := performAll_twice leavesAll id linked hleft status_linked hs
  refine ⟨⟨rfl, fun s hm => ?_⟩, not_keepsRecords (ToolFailure.diagnostics "0").diagnosticText
    (by rw [htexts]; exact List.mem_cons_self) ?_⟩
  · rw [hsessions] at hm
    rcases List.mem_pair.1 hm with rfl | rfl
    · exact recordable_linked (by decide)
    · exact recordable_linked (by decide)
  · intro place hbelow
    rw [leavesAll] at hfiles
    rw [hfiles, id_eq, hsecond]
    unfold content?
    rw [get?_put _ _ _ _ (by simp), get?_put _ _ _ _ (by simp)]
    by_cases hp : linkedPlace .compile ++ ["diagnostics.txt"] = place
    · rw [if_pos hp]
      exact fun h => diagnosticText_ne (Option.some.inj h)
    · rw [if_neg hp, if_neg hp]
      exact ne_of_eq_of_ne (content?_linked hbelow) (Option.some_ne_none _).symm

/-- Each of these loses a record: a second verification in one second, a toolchain that takes it
away, a test in its place, and a link between the directories of two sessions. -/
theorem records_lost :
    Loses (failing leavesAll) ["p"] [.validate singleTry, .validate singleTry]
        (.untried World.oneTest.files fun _ => 0) ∧
      Loses (failing restoring) ["p"] [.validate singleTry, .validate singleTry]
        (.untried World.oneTest.files id) ∧
      Loses (failing leavesAll) ["p"] [.validate singleTry, .generate overRecord .unit]
        (.untried World.oneTest.files id) ∧
      Loses (failing leavesAll) ["p"] [.validate singleTry, .validate singleTry]
        (.untried linked id) :=
  ⟨⟨fun _ _ _ => Nat.le_refl 0, lost_in_same_second⟩, ⟨fun _ _ h => h, lost_by_toolchain⟩,
    ⟨fun _ _ h => h, lost_by_generation⟩, ⟨fun _ _ h => h, lost_by_link⟩⟩

end Dispatcher

end TestForge
