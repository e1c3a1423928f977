import TestForge.Proofs.FileSystem.Changes
import TestForge.Proofs.Operation.Calls
import TestForge.Proofs.Operation.Sparing
import TestForge.Proofs.Verification.Sessions

/-!
# What a verification records

Each attempt that fails writes its diagnostic text to a place of its own. What has been written
stays, as attempts of one session have different places and nothing else is written among records.
-/

namespace TestForge

open FileSystem Toolchain

/-! ## Failed attempts -/

/-- The diagnostic text of an attempt that failed. -/
def Toolchain.Answer.diagnostic? : Answer → Option String
  | .compile (.error failure) => some failure.diagnosticText
  | .run (.error failure) => some failure.diagnosticText
  | _ => none

/-- The diagnostic texts of all attempts that failed, oldest first. -/
def failedTexts (calls : List Event) : List String :=
  calls.filterMap fun e => e.answer.diagnostic?

@[simp] theorem failedTexts_append (calls more : List Event) :
    failedTexts (calls ++ more) = failedTexts calls ++ failedTexts more :=
  List.filterMap_append

/-- A text is what a file `diagnostics.txt` in the directory of records holds, and it alone. -/
structure Kept (fs : FileSystem) (base : Location) (text : String) (place : Location) : Prop where
  below : base ++ [".testsmith", "validation"] <+: place
  name : place.getLast? = some "diagnostics.txt"
  content : fs.content? place = some text.toUTF8

/-! ## Records of sessions -/

/-- A place for the record of an attempt in one of the sessions. -/
def IsRecord (base : Location) (sessions : List Session) (place : Location) : Prop :=
  ∃ s ∈ sessions, ∃ phase attempt, attempt < s.attempts ∧ place = s.recordPlace base phase attempt

theorem IsRecord.mono {base : Location} {sessions more : List Session} {place : Location}
    (h : IsRecord base sessions place) (hs : ∀ s ∈ sessions, s ∈ more) :
    IsRecord base more place := by
  obtain ⟨s, hm, hrest⟩ := h
  exact ⟨s, hs s hm, hrest⟩

theorem Session.below_recordPlace (s : Session) (base : Location) (phase : Phase) (attempt : Nat) :
    base ++ [".testsmith", "validation"] <+: s.recordPlace base phase attempt := by
  obtain ⟨names, hplace⟩ := s.exists_place base
  rw [recordPlace, hplace, List.append_assoc]
  exact List.prefix_append _ _

theorem Session.top_recordPlace (s : Session) (base : Location) (phase : Phase) (attempt : Nat) :
    base ++ [".testsmith"] <+: s.recordPlace base phase attempt := by
  refine List.IsPrefix.trans ?_ (s.below_recordPlace base phase attempt)
  simp

theorem Session.Free.spared {base : Location} {old new : FileSystem} {s : Session} {phase : Phase}
    {attempt : Nat} (h : s.Free old base phase attempt) (hs : Spared base old new) :
    s.Free new base phase attempt where
  path := h.path
  way := by
    refine ⟨h.way.short, fun via hv content x hg => ?_⟩
    rw [hs.same via (onWay_of_passes hv).below] at hg
    exact h.way.free via hv content x hg
  place := by
    rw [hs.same _ (s.top_recordPlace base phase attempt)]
    exact h.place

/-- The files of a project in which all attempts of the sessions can be recorded. -/
structure Recording (base : Location) (sessions : List Session) (old fs : FileSystem) : Prop where
  rooted : ∀ root, Rooted old root base → Rooted fs root base
  workingDirectory : fs.workingDirectory = old.workingDirectory
  free : ∀ s ∈ sessions, ∀ phase attempt, attempt < s.attempts → s.Free fs base phase attempt

section

variable {σ : Type} {base : Location} {sessions : List Session} {old fs new : FileSystem}

theorem Recording.spared (h : Recording base sessions old fs) (hs : Spared base fs new) :
    Recording base sessions old new where
  rooted root hr := hs.rooted root (h.rooted root hr)
  workingDirectory := hs.workingDirectory.trans h.workingDirectory
  free s hm phase attempt ha := (h.free s hm phase attempt ha).spared hs

/-- A record takes nothing away from the records to come, and leaves the others as they are. -/
theorem Recording.record (h : Recording base sessions old fs) {s : Session} (hm : s ∈ sessions)
    (hr : Rooted old s.root base) {attempt : Nat} (ha : attempt < s.attempts) (phase : Phase)
    (failure : ToolFailure) :
    Recording base sessions old (s.recorder.record phase attempt failure fs) ∧
      Kept (s.recorder.record phase attempt failure fs) base failure.diagnosticText
        (s.recordPlace base phase attempt) ∧
      ∀ place, IsRecord base sessions place → place ≠ s.recordPlace base phase attempt →
        (s.recorder.record phase attempt failure fs).content? place = fs.content? place := by
  have hrooted := h.rooted s.root hr
  have hgrows := Verification.grows_record s.recorder phase attempt failure fs
  have htree := Session.isTree_record hrooted.tree hrooted.linkless s.recorder phase attempt failure
  obtain ⟨made, x, honly, heq⟩ := Session.record_eq hrooted (h.free s hm phase attempt ha) failure
  have hne : s.recordPlace base phase attempt ≠ [] := by simp [Session.recordPlace]
  have hget (place : Location) : (s.recorder.record phase attempt failure fs).get? place =
      if s.recordPlace base phase attempt = place
        then some (.file failure.diagnosticText.toUTF8 x) else made.get? place := by
    rw [heq, get?_put _ _ _ _ hne]
  have hother {t : Session} {phase' : Phase} {attempt' : Nat} :=
    Session.get?_recordPlace honly t phase' attempt'
  refine ⟨⟨fun root hroot => ?_, hgrows.workingDirectory.trans h.workingDirectory,
    fun t ht phase' attempt' ha' => ?_⟩, ⟨s.below_recordPlace base phase attempt, ?_, ?_⟩, ?_⟩
  · exact rooted_of_grows (h.rooted root hroot) hgrows htree
  · have hfree := h.free t ht phase' attempt' ha'
    refine ⟨hfree.path, ⟨hfree.way.short, fun via hv content y hg => ?_⟩, fun hg => ?_⟩
    · have hvia := (Session.onWay_of_passes hv).ne_recordPlace s phase attempt
      rw [hget, if_neg hvia.symm] at hg
      exact hfree.way.free via hv content y (honly.file hg)
    · rw [hget] at hg
      split at hg
      · cases hg
      · rw [hother] at hg
        exact hfree.place hg
  · simp [Session.recordPlace]
  · exact content?_eq_some_iff.2 ⟨x, by rw [hget, if_pos rfl]⟩
  · rintro place ⟨t, -, phase', attempt', -, he⟩ hplace
    unfold content?
    rw [hget, if_neg hplace.symm, he, hother]

/-! ## Stretches of a run -/

/-- Each text has been recorded, at a place of its own among those given. -/
structure Records (base : Location) (sessions : List Session) (mine : Location → Prop)
    (texts : List String) (fs : FileSystem) (records : List (String × Location)) : Prop where
  texts : records.map Prod.fst = texts
  distinct : (records.map Prod.snd).Nodup
  kept : ∀ r ∈ records, Kept fs base r.1 r.2
  mine : ∀ r ∈ records, mine r.2
  record : ∀ r ∈ records, IsRecord base sessions r.2

theorem records_singleton {text : String} {place : Location} (hk : Kept fs base text place)
    (hr : IsRecord base sessions place) :
    Records base sessions (fun other => other = place) [text] fs [(text, place)] where
  texts := rfl
  distinct := by simp
  kept := by simpa using hk
  mine := by simp
  record := by simpa using hr

/-- Over a stretch of a run, all attempts that failed have been recorded at places among those
given, and all other records are as they were. -/
structure Recorded (base : Location) (sessions : List Session) (old : FileSystem)
    (mine : Location → Prop) (w w' : World (List Event × σ)) : Prop where
  recording : Recording base sessions old w'.files
  log : ∃ calls records, w'.calls = w.calls ++ calls ∧
    Records base sessions mine (failedTexts calls) w'.files records
  frame : ∀ place, IsRecord base sessions place → ¬mine place →
    w'.files.content? place = w.files.content? place

variable {mine more : Location → Prop} {w w₁ w' : World (List Event × σ)}

theorem Recorded.mono (h : Recorded base sessions old mine w w')
    (hm : ∀ place, mine place → more place) : Recorded base sessions old more w w' := by
  obtain ⟨calls, records, hcalls, hrecords⟩ := h.log
  exact ⟨h.recording, ⟨calls, records, hcalls,
    { hrecords with mine := fun r hr => hm r.2 (hrecords.mine r hr) }⟩,
    fun place hp hn => h.frame place hp fun hmine => hn (hm place hmine)⟩

/-- What was recorded on a stretch is kept on the next, which records elsewhere. -/
theorem Recorded.trans (h : Recorded base sessions old mine w w₁)
    (k : Recorded base sessions old more w₁ w') (hd : ∀ place, mine place → ¬more place) :
    Recorded base sessions old (fun place => mine place ∨ more place) w w' := by
  obtain ⟨calls, records, hcalls, hrecords⟩ := h.log
  obtain ⟨calls', records', hcalls', hrecords'⟩ := k.log
  have hstill : ∀ r ∈ records, Kept w'.files base r.1 r.2 := by
    intro r hr
    have hkept := hrecords.kept r hr
    have hsame := k.frame r.2 (hrecords.record r hr) (hd r.2 (hrecords.mine r hr))
    exact ⟨hkept.below, hkept.name, hsame.trans hkept.content⟩
  refine ⟨k.recording, ⟨calls ++ calls', records ++ records', ?_, ?_⟩, ?_⟩
  · rw [hcalls', hcalls, List.append_assoc]
  · refine ⟨by simp [hrecords.texts, hrecords'.texts], ?_, fun r hr => ?_, fun r hr => ?_,
      fun r hr => ?_⟩
    · rw [List.map_append]
      refine List.nodup_append.2 ⟨hrecords.distinct, hrecords'.distinct, fun place hp other ho => ?_⟩
      obtain ⟨r, hr, rfl⟩ := List.mem_map.1 hp
      obtain ⟨r', hr', rfl⟩ := List.mem_map.1 ho
      exact fun he => hd r.2 (hrecords.mine r hr) (he ▸ hrecords'.mine r' hr')
    · exact (List.mem_append.1 hr).elim (hstill r) (hrecords'.kept r)
    · exact (List.mem_append.1 hr).imp (hrecords.mine r) (hrecords'.mine r)
    · exact (List.mem_append.1 hr).elim (hrecords.record r) (hrecords'.record r)
  · intro place hp hn
    exact (k.frame place hp fun hm => hn (Or.inr hm)).trans
      (h.frame place hp fun hm => hn (Or.inl hm))

/-- Sessions in different directories have no record in common. -/
theorem Recorded.append {a b : List Session}
    (h : Recorded base sessions old (IsRecord base a) w w₁)
    (k : Recorded base sessions old (IsRecord base b) w₁ w')
    (hd : ((a ++ b).map (·.place base)).Nodup) :
    Recorded base sessions old (IsRecord base (a ++ b)) w w' := by
  rw [List.map_append] at hd
  refine (h.trans k ?_).mono ?_
  · rintro place ⟨s, hs, phase, attempt, -, hp⟩ ⟨t, ht, phase', attempt', -, hp'⟩
    have hplace := (Session.recordPlace_injective (hp.symm.trans hp')).1
    exact (List.nodup_append.1 hd).2.2 _ (List.mem_map_of_mem hs) _ (List.mem_map_of_mem ht) hplace
  · rintro place (hp | hp)
    · exact hp.mono fun s hs => List.mem_append_left b hs
    · exact hp.mono fun s hs => List.mem_append_right a hs

/-- A stretch without failed attempts that leaves the records alone. -/
theorem recorded_of_spared (h : Recording base sessions old w.files)
    (hs : Spared base w.files w'.files) {calls : List Event} (hc : w'.calls = w.calls ++ calls)
    (hf : failedTexts calls = []) : Recorded base sessions old mine w w' := by
  refine ⟨h.spared hs, ⟨calls, [], hc, ⟨hf.symm, List.nodup_nil, ?_, ?_, ?_⟩⟩, ?_⟩
  · simp
  · simp
  · simp
  · rintro place ⟨s, -, phase, attempt, -, he⟩ -
    exact hs.same.content? (he ▸ s.top_recordPlace base phase attempt)

/-- A stretch without any call that leaves the records alone. -/
theorem recorded_of_still (h : Recording base sessions old w.files)
    (hs : Spared base w.files w'.files) (hc : w'.calls = w.calls) :
    Recorded base sessions old mine w w' :=
  recorded_of_spared h hs (by rw [hc, List.append_nil]) (by simp [failedTexts])

theorem recorded_of_files (h : Recording base sessions old w.files)
    (hs : Spared base w.files new) :
    Recorded base sessions old mine w { w with files := new } :=
  recorded_of_still h hs rfl

end

/-! ## Attempts -/

namespace Verification

variable {σ : Type} {v : Verification σ} {phase : Phase} {base : Location}
  {sessions : List Session} {old : FileSystem} {w w' : World (List Event × σ)}

theorem attempt_calls_ok {counts : Option TestCounts}
    (ha : v.logged.attempt phase w = (.ok counts, w')) :
    ∃ e, w'.calls = w.calls ++ [e] ∧ e.answer.diagnostic? = none := by
  obtain ⟨call, hcase, hcalls⟩ := attemptCase ha
  exact ⟨_, hcalls, by cases hcase <;> rfl⟩

theorem attempt_calls_error {failure : ToolFailure}
    (ha : v.logged.attempt phase w = (.error failure, w')) :
    ∃ e, w'.calls = w.calls ++ [e] ∧ e.answer.diagnostic? = some failure.diagnosticText := by
  obtain ⟨call, hcase, hcalls⟩ := attemptCase ha
  exact ⟨_, hcalls, by cases hcase <;> rfl⟩

theorem attempt_spared (hs : v.tools.Spares base) (hr : Rooted w.files v.root base)
    {answer : Except ToolFailure (Option TestCounts)}
    (ha : v.logged.attempt phase w = (answer, w')) : Spared base w.files w'.files := by
  have hw : w' = (v.logged.attempt phase w).2 := by rw [ha]
  rw [hw]
  cases phase with
  | compile => exact hs.compile v.root v.target w.files w.tools.2 hr
  | test => exact hs.run v.root v.target w.files w.tools.2 hr

/-- A session of the verification, with the attempts that each phase may make. -/
structure Opened (v : Verification σ) (base : Location) (sessions : List Session)
    (old : FileSystem) (s : Session) : Prop where
  mem : s ∈ sessions
  root : s.root = v.root
  spares : v.tools.Spares base
  rooted : Rooted old v.root base
  passes : old.PassesBy v.artifact (base ++ [".testsmith"])

variable {s : Session}

/-- An attempt that failed is recorded. -/
theorem attempt_recorded (ho : Opened v base sessions old s)
    (hw : Recording base sessions old w.files) {failure : ToolFailure} {attempt : Nat}
    (ha : v.logged.attempt phase w = (.error failure, w')) (hn : attempt < s.attempts) :
    Recorded base sessions old (fun place => place = s.recordPlace base phase attempt) w
      (keepRecord (some s.recorder) phase attempt failure w') := by
  have hspared := attempt_spared ho.spares (hw.rooted v.root ho.rooted) ha
  obtain ⟨e, hcalls, hdiagnostic⟩ := attempt_calls_error ha
  have hrooted : Rooted old s.root base := by
    rw [ho.root]
    exact ho.rooted
  obtain ⟨hrecording, hkept, hframe⟩ := (hw.spared hspared).record ho.mem hrooted hn phase failure
  have hfiles : (keepRecord (some s.recorder) phase attempt failure w').files =
      s.recorder.record phase attempt failure w'.files := by rw [keepRecord]
  rw [← hfiles] at hrecording hkept hframe
  have hmine : IsRecord base sessions (s.recordPlace base phase attempt) :=
    ⟨s, ho.mem, phase, attempt, hn, rfl⟩
  have htexts : failedTexts [e] = [failure.diagnosticText] := by simp [failedTexts, hdiagnostic]
  have hrecords := records_singleton hkept hmine
  rw [← htexts] at hrecords
  refine ⟨hrecording, ⟨[e], _, ?_, hrecords⟩, fun place hp hne => ?_⟩
  · rw [keepRecord_calls, hcalls]
  · obtain ⟨t, -, phase', attempt', -, he⟩ := id hp
    exact (hframe _ hp hne).trans
      (hspared.same.content? (he ▸ t.top_recordPlace base phase' attempt'))

/-- Each failed attempt of a phase is recorded, under its number. -/
theorem PhaseRun.recorded (ho : Opened v base sessions old s) {state : RetryState}
    {outcome : PhaseOutcome}
    (h : PhaseRun v.logged phase (some s.recorder) state w outcome w')
    (hm : state.maxRetries = s.attempts) (hn : state.attempt < state.maxRetries)
    (hw : Recording base sessions old w.files) :
    Recorded base sessions old (fun place => ∃ attempt, state.attempt ≤ attempt ∧
      attempt < s.attempts ∧ place = s.recordPlace base phase attempt) w w' := by
  -- By induction on the attempts: those to come have higher numbers than the one that is recorded.
  induction h with
  | succeeds ha =>
      obtain ⟨e, hcalls, hdiagnostic⟩ := attempt_calls_ok ha
      exact recorded_of_spared hw (attempt_spared ho.spares (hw.rooted v.root ho.rooted) ha) hcalls
        (by simp [failedTexts, hdiagnostic])
  | @usedUp state w failure w' ha _ =>
      exact (attempt_recorded ho hw ha (hm ▸ hn)).mono fun place hp =>
        ⟨state.attempt, Nat.le_refl _, hm ▸ hn, hp⟩
  | @unrepaired state w failure w' ha _ _ =>
      exact (attempt_recorded ho hw ha (hm ▸ hn)).mono fun place hp =>
        ⟨state.attempt, Nat.le_refl _, hm ▸ hn, hp⟩
  | @repaired state w failure w' files outcome w'' ha hl hr _ ih =>
      have hfailed := attempt_recorded ho hw ha (hm ▸ hn)
      have hrooted := hfailed.recording.rooted v.root ho.rooted
      have hspared := spared_repair hrooted (ho.passes.congr hfailed.recording.workingDirectory) hr
      have hnext : state.next.attempt < state.next.maxRetries := by
        simp only [RetryState.isLast, decide_eq_false_iff_not, Nat.not_le] at hl
        simpa [RetryState.next] using hl
      have hrest := ih hm hnext (hfailed.recording.spared hspared)
      have hidle : Recorded base sessions old (fun _ => False)
          (keepRecord (some s.recorder) phase state.attempt failure w')
          { keepRecord (some s.recorder) phase state.attempt failure w' with files := files } :=
        recorded_of_files hfailed.recording hspared
      refine ((hfailed.trans hidle fun _ _ => id).trans hrest ?_).mono ?_
      · rintro place (hp | hfalse) ⟨attempt, hle, -, he⟩
        · have hsame := (Session.recordPlace_injective (hp.symm.trans he)).2.2
          rw [← hsame] at hle
          exact Nat.not_succ_le_self _ hle
        · exact hfalse
      · rintro place ((hp | hfalse) | ⟨attempt, hle, hrest⟩)
        · exact ⟨state.attempt, Nat.le_refl _, hm ▸ hn, hp⟩
        · exact hfalse.elim
        · exact ⟨attempt, Nat.le_of_succ_le hle, hrest⟩

/-! ## Verifications -/

theorem attempt_clock {τ : Type} (u : Verification τ) (phase : Phase) (w : World τ) :
    (u.attempt phase w).2.clock = w.clock := by
  cases phase <;> rfl

theorem keepRecord_clock {τ : Type} (recorder : Option AttemptRecorder) (phase : Phase)
    (attempt : Nat) (failure : ToolFailure) (w : World τ) :
    (keepRecord recorder phase attempt failure w).clock = w.clock := by
  cases recorder <;> simp only [keepRecord]

theorem PhaseRun.clock {τ : Type} {u : Verification τ} {recorder : Option AttemptRecorder}
    {state : RetryState} {w w' : World τ} {outcome : PhaseOutcome}
    (h : PhaseRun u phase recorder state w outcome w') : w'.clock = w.clock := by
  have hattempt {w w' : World τ} {answer : Except ToolFailure (Option TestCounts)}
      (ha : u.attempt phase w = (answer, w')) : w'.clock = w.clock := by
    have hclock := attempt_clock u phase w
    rwa [ha] at hclock
  induction h with
  | succeeds ha => exact hattempt ha
  | usedUp ha _ => exact (keepRecord_clock _ _ _ _ _).trans (hattempt ha)
  | unrepaired ha _ _ => exact (keepRecord_clock _ _ _ _ _).trans (hattempt ha)
  | repaired ha _ _ _ ih => exact ih.trans ((keepRecord_clock _ _ _ _ _).trans (hattempt ha))

/-- The clock is read once for a verification that records, and for no other. -/
theorem verify_clock {τ : Type} (u : Verification τ) (maxRetries : UInt32) (recordAttempts : Bool)
    (w : World τ) : (u.verify maxRetries recordAttempts w).2.clock =
      (u.openRecorder recordAttempts w).2.clock := by
  have hrun := verificationRun_verify u maxRetries recordAttempts w
  generalize u.verify maxRetries recordAttempts w = verified at hrun ⊢
  obtain ⟨log, w'⟩ := verified
  cases hrun with
  | notCompiled hc => exact hc.clock
  | tested hc ht => exact ht.clock.trans hc.clock

/-- The session that a verification opens. -/
def session {τ : Type} (u : Verification τ) (maxRetries : UInt32) (clock : Clock) : Session :=
  ⟨u.root, u.target, clock.readings clock.taken, max maxRetries.toNat 1⟩

/-- A verification records its failed attempts in its session. -/
theorem verify_recorded {maxRetries : UInt32}
    (ho : Opened v base sessions old (v.session maxRetries w.clock))
    (hw : Recording base sessions old w.files) :
    Recorded base sessions old (IsRecord base [v.session maxRetries w.clock]) w
      (v.logged.verify maxRetries true w).2 := by
  have hopened : v.logged.openRecorder true w =
      (some (v.session maxRetries w.clock).recorder, { w with clock := w.clock.read.2 }) := rfl
  have hrun := verificationRun_verify v.logged maxRetries true w
  rw [hopened] at hrun
  generalize v.logged.verify maxRetries true w = verified at hrun ⊢
  obtain ⟨log, w'⟩ := verified
  have hread : Recorded base sessions old (fun _ => False) w { w with clock := w.clock.read.2 } :=
    recorded_of_still hw (.refl base w.files) rfl
  have hstart : (RetryState.start maxRetries).attempt < (RetryState.start maxRetries).maxRetries := by
    simp only [RetryState.start]
    omega
  have hmine {phase : Phase} {place : Location} (h : ∃ attempt,
      (RetryState.start maxRetries).attempt ≤ attempt ∧
      attempt < (v.session maxRetries w.clock).attempts ∧
      place = (v.session maxRetries w.clock).recordPlace base phase attempt) :
      IsRecord base [v.session maxRetries w.clock] place := by
    obtain ⟨attempt, -, hlt, hp⟩ := h
    exact ⟨_, List.mem_singleton_self _, phase, attempt, hlt, hp⟩
  cases hrun with
  | notCompiled hc =>
      have hcompile := hc.recorded ho rfl hstart hread.recording
      refine (hread.trans hcompile fun _ => False.elim).mono ?_
      rintro place (hfalse | hp)
      · exact hfalse.elim
      · exact hmine hp
  | tested hc ht =>
      have hcompile := hc.recorded ho rfl hstart hread.recording
      have htest := ht.recorded ho rfl hstart hcompile.recording
      refine ((hread.trans hcompile fun _ => False.elim).trans htest ?_).mono ?_
      · rintro place (hfalse | ⟨attempt, -, -, hp⟩) ⟨attempt', -, -, hp'⟩
        · exact hfalse
        · exact absurd (Session.recordPlace_injective (hp.symm.trans hp')).2.1 (by decide)
      · rintro place ((hfalse | hp) | hp)
        · exact hfalse.elim
        · exact hmine hp
        · exact hmine hp

end Verification

end TestForge
