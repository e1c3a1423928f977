import TestForge.Proofs.FileSystem.Trails
import TestForge.Proofs.FileSystem.Writing
import TestForge.Proofs.Verification.RecordPlaces

/-!
# Sessions of records

A verification that records its failed attempts has a directory for its session, and in it one for
each attempt. Records of different attempts have different places, and so have those of sessions
in different directories; and no record ever has the place of a directory on the way to another.
-/

namespace TestForge

open FileSystem Text

/-! ## Names of attempts -/

/-- The name of the directory for an attempt. -/
def attemptName (phase : Phase) (attempt : Nat) : String :=
  phase.label ++ "_attempt_" ++ toString (attempt + 1)

theorem mem_attemptName (phase : Phase) (attempt : Nat) :
    '_' ∈ (attemptName phase attempt).toList := by
  simp [attemptName]

/-- No attempt has the name of a time. -/
theorem attemptName_ne_timestamp (phase : Phase) (attempt seconds : Nat) :
    attemptName phase attempt ≠ timestamp seconds := by
  intro h
  have hm := mem_timestamp seconds
  rw [← h] at hm
  have hdigits := notMem_toDigits (attempt + 1) (show 'Z'.isDigit = false by decide)
  have hlabel : 'Z' ∉ phase.label.toList := by cases phase <;> decide
  have hword : 'Z' ∉ "_attempt_".toList := by decide
  simp only [attemptName, String.toList_append, List.mem_append, hlabel, hword, false_or] at hm
  exact hdigits (by simpa using hm)

theorem attemptName_ne_diagnostics (phase : Phase) (attempt : Nat) :
    attemptName phase attempt ≠ "diagnostics.txt" := by
  intro h
  have hm := mem_attemptName phase attempt
  rw [h] at hm
  exact absurd hm (by decide)

theorem timestamp_ne_diagnostics (seconds : Nat) : timestamp seconds ≠ "diagnostics.txt" := by
  intro h
  have hm := mem_timestamp seconds
  rw [h] at hm
  exact absurd hm (by decide)

theorem attemptName_injective {phase phase' : Phase} {attempt attempt' : Nat}
    (h : attemptName phase attempt = attemptName phase' attempt') :
    phase = phase' ∧ attempt = attempt' := by
  have hnumber {s : String} (h : s ++ "_attempt_" ++ toString (attempt + 1) =
      s ++ "_attempt_" ++ toString (attempt' + 1)) : attempt = attempt' := by
    have hdigits := (String.append_right_inj _).1 h
    have hvalue := congrArg (fun s => Nat.ofDigitChars 10 s.toList 0) hdigits
    simpa [Nat.toString_eq_ofList_toDigits] using hvalue
  cases phase <;> cases phase'
  · exact ⟨rfl, hnumber h⟩
  · have hlist := congrArg (fun s => s.toList.head?) h
    simp [attemptName, Phase.label] at hlist
  · have hlist := congrArg (fun s => s.toList.head?) h
    simp [attemptName, Phase.label] at hlist
  · exact ⟨rfl, hnumber h⟩

/-! ## Sessions -/

/-- A verification that records: where it runs, when it started, and how many attempts each of its
phases has. -/
structure Session where
  root : String
  target : String
  seconds : Nat
  attempts : Nat

namespace Session

variable (s : Session)

def recorder : AttemptRecorder :=
  .start s.root s.target s.seconds

/-- The way from the root to the directory of a session, which a class of two dots leads up. -/
def way : List String :=
  [".testsmith", "validation", timestamp s.seconds] ++
    (pieces (Layout.testClass s.target)).filter counts

/-- Where the directory of a session is, below the place of its root. -/
def place (base : Location) : Location :=
  s.way.foldl step base

def attemptWay (phase : Phase) (attempt : Nat) : List String :=
  s.way ++ [attemptName phase attempt]

/-- Where the record of an attempt goes. -/
def recordPlace (base : Location) (phase : Phase) (attempt : Nat) : Location :=
  s.place base ++ [attemptName phase attempt, "diagnostics.txt"]

/-- The records of all attempts that a session can make can be written. -/
def Recordable (fs : FileSystem) : Prop :=
  ∀ phase attempt, attempt < s.attempts → ∃ made written,
    fs.createDirectories (s.recorder.attemptDirectory phase attempt) = (.ok (), made) ∧
      made.writeText (s.recorder.diagnosticsPath phase attempt) "" = .ok written

variable {s} {base : Location}

/-! ## Places -/

theorem recordPlace_injective {t : Session} {phase phase' : Phase} {attempt attempt' : Nat}
    (h : s.recordPlace base phase attempt = t.recordPlace base phase' attempt') :
    s.place base = t.place base ∧ phase = phase' ∧ attempt = attempt' := by
  obtain ⟨hplace, hnames⟩ := List.append_inj' h rfl
  exact ⟨hplace, attemptName_injective (List.cons.inj hnames).1⟩

theorem isName_of_mem {name : String} {c : Char} (hm : c ∈ name.toList) (hc : c ≠ '.') :
    Path.IsName name.toList := by
  refine ⟨List.ne_nil_of_mem hm, ?_, ?_⟩
  · intro h
    rw [h] at hm
    exact hc (by simpa using hm)
  · intro h
    rw [h] at hm
    exact hc (by simpa using hm)

theorem isName_attemptName (phase : Phase) (attempt : Nat) :
    Path.IsName (attemptName phase attempt).toList :=
  isName_of_mem (mem_attemptName phase attempt) (by decide)

theorem isName_timestamp (seconds : Nat) : Path.IsName (timestamp seconds).toList :=
  isName_of_mem (mem_timestamp seconds) (by decide)

theorem pieces_testClass (target : String) :
    pieces (Layout.testClass target) = [Layout.testClass target] :=
  pieces_name (by simpa [Layout.testClass] using Path.notMem_stem target.toList)

theorem foldl_time (base : Location) (seconds : Nat) :
    [".testsmith", "validation", timestamp seconds].foldl step base =
      base ++ [".testsmith", "validation", timestamp seconds] :=
  foldl_step_names base (by
    have htime := isName_timestamp seconds
    simpa using ⟨by decide, by decide, htime⟩)

theorem step_below (here : Location) (name piece : String) :
    step (here ++ [name]) piece = here ∨ step (here ++ [name]) piece = here ++ [name] ∨
      step (here ++ [name]) piece = here ++ [name, piece] := by
  unfold step
  split
  · exact Or.inr (Or.inl rfl)
  · split
    · exact Or.inl List.dropLast_concat
    · exact Or.inr (Or.inr (by simp))

theorem class_cases (here : Location) (name target : String) :
    let place := ((pieces (Layout.testClass target)).filter counts).foldl step (here ++ [name])
    place = here ∨ place = here ++ [name] ∨ ∃ piece, place = here ++ [name, piece] := by
  rw [foldl_step_filter, pieces_testClass]
  exact (step_below here name _).imp_right (Or.imp_right fun h => ⟨_, h⟩)

/-- All sessions are kept at the directory for records, or below it. -/
theorem exists_place (s : Session) (base : Location) :
    ∃ names, s.place base = base ++ [".testsmith", "validation"] ++ names := by
  rw [place, way, List.foldl_append, foldl_time]
  rcases class_cases (base ++ [".testsmith", "validation"]) (timestamp s.seconds) s.target with
    h | h | ⟨piece, h⟩
  · exact ⟨[], by simpa using h⟩
  · exact ⟨[timestamp s.seconds], by simpa using h⟩
  · exact ⟨[timestamp s.seconds, piece], by simpa using h⟩

/-- The places on the way to an attempt: those of four directories at most, and its own. -/
inductive OnWay (base : Location) (seconds : Nat) (phase : Phase) (attempt : Nat) : Location → Prop
  | top : OnWay base seconds phase attempt (base ++ [".testsmith"])
  | validation : OnWay base seconds phase attempt (base ++ [".testsmith", "validation"])
  | time : OnWay base seconds phase attempt
      (base ++ [".testsmith", "validation", timestamp seconds])
  | session (name : String) : OnWay base seconds phase attempt
      (base ++ [".testsmith", "validation", timestamp seconds, name])
  | attempt (names : List String) : OnWay base seconds phase attempt
      (base ++ [".testsmith", "validation"] ++ names ++ [attemptName phase attempt])

theorem onWay_of_time {phase : Phase} {attempt seconds : Nat} {via : Location}
    (h : Passes base [".testsmith", "validation", timestamp seconds] via) :
    OnWay base seconds phase attempt via := by
  obtain ⟨front, hne, hp, rfl⟩ := h
  have hnames : ∀ name ∈ front, Path.IsName name.toList := by
    have htime := isName_timestamp seconds
    have hall : ∀ name ∈ [".testsmith", "validation", timestamp seconds],
        Path.IsName name.toList := by
      simpa using ⟨by decide, by decide, htime⟩
    exact fun name hm => hall name (hp.subset hm)
  rw [foldl_step_names base hnames]
  rcases front with _ | ⟨top, _ | ⟨validation, _ | ⟨time, rest⟩⟩⟩
  · exact absurd rfl hne
  · obtain ⟨rfl, -⟩ := List.cons_prefix_cons.1 hp
    exact .top
  · obtain ⟨rfl, hq⟩ := List.cons_prefix_cons.1 hp
    obtain ⟨rfl, -⟩ := List.cons_prefix_cons.1 hq
    exact .validation
  · obtain ⟨rfl, hq⟩ := List.cons_prefix_cons.1 hp
    obtain ⟨rfl, hr⟩ := List.cons_prefix_cons.1 hq
    obtain ⟨rfl, ht⟩ := List.cons_prefix_cons.1 hr
    rw [List.prefix_nil.1 ht]
    exact .time

theorem onWay_of_passes {phase : Phase} {attempt : Nat} {via : Location}
    (h : Passes base (s.attemptWay phase attempt) via) : OnWay base s.seconds phase attempt via := by
  rcases passes_append h with h | h
  · rcases passes_append h with h | h
    · exact onWay_of_time h
    · -- the class is one piece, or leads nowhere and is left out
      rw [foldl_time, pieces_testClass, List.filter_cons] at h
      split at h
      · obtain rfl := passes_singleton h
        rcases step_below (base ++ [".testsmith", "validation"]) (timestamp s.seconds)
          (Layout.testClass s.target) with hstep | hstep | hstep
        · simp only [List.append_assoc, List.cons_append, List.nil_append] at hstep
          rw [hstep]
          exact .validation
        · simp only [List.append_assoc, List.cons_append, List.nil_append] at hstep
          rw [hstep]
          exact .time
        · simp only [List.append_assoc, List.cons_append, List.nil_append] at hstep
          rw [hstep]
          exact .session _
      · obtain ⟨front, hne, hp, -⟩ := h
        exact absurd (List.prefix_nil.1 hp) hne
  · obtain ⟨names, hplace⟩ := s.exists_place base
    obtain rfl := passes_singleton h
    rw [show s.way.foldl step base = s.place base from rfl, hplace,
      step_isName _ (isName_attemptName phase attempt)]
    exact .attempt names

theorem OnWay.below {phase : Phase} {attempt seconds : Nat} {via : Location}
    (h : OnWay base seconds phase attempt via) : base ++ [".testsmith"] <+: via := by
  cases h <;> simp

/-- No record has the place of a directory on the way to an attempt. -/
theorem OnWay.ne_recordPlace {phase : Phase} {attempt seconds : Nat} {via : Location}
    (h : OnWay base seconds phase attempt via) (t : Session) (phase' : Phase) (attempt' : Nat) :
    via ≠ t.recordPlace base phase' attempt' := by
  intro he
  have hlast : via.getLast? = some "diagnostics.txt" := by
    rw [he, recordPlace]
    simp
  cases h with
  | top => simp at hlast
  | validation => simp at hlast
  | time =>
      have htime : timestamp seconds = "diagnostics.txt" := by simpa using hlast
      exact timestamp_ne_diagnostics seconds htime
  | session name =>
      have hends : base ++ [".testsmith", "validation"] ++ [timestamp seconds, name] =
          t.place base ++ [attemptName phase' attempt', "diagnostics.txt"] := by
        simpa [recordPlace] using he
      have hnames := List.append_inj_right' hends (by simp)
      exact attemptName_ne_timestamp phase' attempt' seconds (List.cons.inj hnames).1.symm
  | attempt names =>
      rw [List.getLast?_concat, Option.some.injEq] at hlast
      exact attemptName_ne_diagnostics phase attempt hlast

/-! ## Directories and files -/

theorem join_ne_empty {base s : String} (hb : base ≠ "")
    (hs : Path.isAbsolute s.toList = false) : Path.join base s ≠ "" := by
  obtain ⟨rest, hrest⟩ := exists_join hb hs
  intro he
  rw [hrest] at he
  exact hb (String.append_eq_empty_iff.1 he).1

/-- A piece more below a root. -/
theorem under_join_piece {root path name : String} {names : List String}
    (h : Under root path names) (hp : path ≠ "") (hn : '/' ∉ name.toList) :
    Under root (Path.join path name) (names ++ (pieces name).filter counts) ∧
      Path.join path name ≠ "" :=
  ⟨h.join hp (isAbsolute_of_notMem hn), join_ne_empty hp (isAbsolute_of_notMem hn)⟩

theorem under_join_name {root path name : String} {names : List String}
    (h : Under root path names) (hp : path ≠ "") (hn : '/' ∉ name.toList)
    (hname : Path.IsName name.toList) :
    Under root (Path.join path name) (names ++ [name]) ∧ Path.join path name ≠ "" := by
  have hjoined := under_join_piece h hp hn
  rwa [pieces_name hn, List.filter_cons_of_pos (counts_of_isName hname), List.filter_nil] at hjoined

theorem under_sessionDirectory (hr : s.root ≠ "") :
    Under s.root s.recorder.sessionDirectory s.way := by
  obtain ⟨htop, hne⟩ := under_join_name (Under.refl hr) hr
    (show '/' ∉ ".testsmith".toList by decide) (by decide)
  obtain ⟨hvalidation, hne⟩ := under_join_name htop hne
    (show '/' ∉ "validation".toList by decide) (by decide)
  obtain ⟨htime, hne⟩ := under_join_name hvalidation hne (notMem_timestamp s.seconds)
    (isName_timestamp s.seconds)
  exact (under_join_piece htime hne
    (by simpa [Layout.testClass] using Path.notMem_stem s.target.toList)).1

theorem sessionDirectory_ne_empty : s.recorder.sessionDirectory ≠ "" := by
  have htop : Path.join s.root ".testsmith" ≠ "" := by
    by_cases hr : s.root = ""
    · rw [hr]
      decide
    · exact join_ne_empty hr rfl
  have htime : '/' ∉ (timestamp s.seconds).toList := notMem_timestamp s.seconds
  have hclass : '/' ∉ (Layout.testClass s.target).toList := by
    simpa [Layout.testClass] using Path.notMem_stem s.target.toList
  exact join_ne_empty (join_ne_empty (join_ne_empty htop rfl) (isAbsolute_of_notMem htime))
    (isAbsolute_of_notMem hclass)

section

variable {up : String} {names : List String}

/-- Wherever its way begins, an attempt is one name below its session. -/
theorem under_attempt (h : Under up s.recorder.sessionDirectory names) (phase : Phase)
    (attempt : Nat) :
    Under up (s.recorder.attemptDirectory phase attempt) (names ++ [attemptName phase attempt]) ∧
      s.recorder.attemptDirectory phase attempt ≠ "" :=
  under_join_name h sessionDirectory_ne_empty (AttemptRecorder.notMem_attemptName phase attempt)
    (isName_attemptName phase attempt)

theorem under_diagnostics (h : Under up s.recorder.sessionDirectory names) (phase : Phase)
    (attempt : Nat) :
    Under up (s.recorder.diagnosticsPath phase attempt)
      (names ++ [attemptName phase attempt] ++ ["diagnostics.txt"]) := by
  obtain ⟨hunder, hne⟩ := under_attempt h phase attempt
  exact (under_join_name hunder hne (by decide) (by decide)).1

end

theorem under_attemptDirectory (hr : s.root ≠ "") (phase : Phase) (attempt : Nat) :
    Under s.root (s.recorder.attemptDirectory phase attempt) (s.attemptWay phase attempt) ∧
      s.recorder.attemptDirectory phase attempt ≠ "" :=
  under_attempt (under_sessionDirectory hr) phase attempt

theorem clean_attemptDirectory (phase : Phase) (attempt : Nat) :
    Path.Clean (s.recorder.attemptDirectory phase attempt) := by
  have hslash : '/' ∉ (attemptName phase attempt).toList :=
    AttemptRecorder.notMem_attemptName phase attempt
  refine clean_join (s := attemptName phase attempt) fun piece hm => ?_
  rw [splitAtChar_eq_singleton hslash, List.mem_singleton] at hm
  exact hm ▸ isName_attemptName phase attempt

theorem under_diagnosticsPath (hr : s.root ≠ "") (phase : Phase) (attempt : Nat) :
    Under s.root (s.recorder.diagnosticsPath phase attempt)
      (s.attemptWay phase attempt ++ ["diagnostics.txt"]) :=
  under_diagnostics (under_sessionDirectory hr) phase attempt

theorem clean_diagnosticsPath (phase : Phase) (attempt : Nat) :
    Path.Clean (s.recorder.diagnosticsPath phase attempt) :=
  clean_join (s := "diagnostics.txt") (by decide)

theorem checkPath_attemptDirectory {phase : Phase} {attempt : Nat}
    (hk : checkPath (s.recorder.diagnosticsPath phase attempt) = .ok ()) :
    checkPath (s.recorder.attemptDirectory phase attempt) = .ok () := by
  have hne : s.recorder.attemptDirectory phase attempt ≠ "" :=
    join_ne_empty sessionDirectory_ne_empty
      (isAbsolute_of_notMem (AttemptRecorder.notMem_attemptName phase attempt))
  have habsolute : Path.isAbsolute "diagnostics.txt".toList = false := rfl
  obtain ⟨rest, hrest⟩ := exists_join hne habsolute
  rw [AttemptRecorder.diagnosticsPath, hrest] at hk
  exact checkPath_prefix hk hne

section

variable {fs : FileSystem} {phase : Phase} {attempt : Nat}

section

variable {up : String} {here : Location} {names : List String}

/-- Where the record of an attempt goes in the directory of its session. -/
def recordAt (session : Location) (phase : Phase) (attempt : Nat) : Location :=
  session ++ [attemptName phase attempt, "diagnostics.txt"]

theorem recordAt_eq (here : Location) (names : List String) (phase : Phase) (attempt : Nat) :
    recordAt (names.foldl step here) phase attempt =
      (names ++ [attemptName phase attempt]).foldl step here ++ ["diagnostics.txt"] := by
  rw [List.foldl_append, List.foldl_cons, List.foldl_nil,
    step_isName _ (isName_attemptName phase attempt), List.append_assoc]
  rfl

theorem recordAt_ne_nil (session : Location) (phase : Phase) (attempt : Nat) :
    recordAt session phase attempt ≠ [] := by
  simp [recordAt]

theorem recordAt_injective {session : Location} {phase phase' : Phase} {attempt attempt' : Nat}
    (h : recordAt session phase attempt = recordAt session phase' attempt') :
    phase = phase' ∧ attempt = attempt' :=
  attemptName_injective (List.cons.inj (List.append_cancel_left h)).1

/-- In the directory of an attempt, its record has its place. -/
theorem resolve_diagnosticsPath (hu : Under up s.recorder.sessionDirectory names)
    (hr : fs.resolve up true = .ok here)
    (hk : checkPath (s.recorder.diagnosticsPath phase attempt) = .ok ())
    (hl : fs.Unlinked here (names ++ [attemptName phase attempt]))
    (hplace : ∀ target,
      fs.get? (recordAt (names.foldl step here) phase attempt) ≠ some (.link target))
    (hthere : fs.descend here (names ++ [attemptName phase attempt]) =
      .ok ((names ++ [attemptName phase attempt]).foldl step here)) :
    fs.resolve (s.recorder.diagnosticsPath phase attempt) true =
      fs.descend ((names ++ [attemptName phase attempt]).foldl step here) ["diagnostics.txt"] := by
  have hway : fs.Unlinked here (names ++ [attemptName phase attempt] ++ ["diagnostics.txt"]) := by
    refine hl.concat fun target => ?_
    rw [List.foldl_append, List.foldl_cons, List.foldl_nil, step_isName _ (by decide),
      ← recordAt_eq]
    exact hplace target
  rw [(under_diagnostics hu phase attempt).resolve_unlinked (clean_diagnosticsPath phase attempt) hk
    hr (by simp) hway, descend_append, hthere, Except.bind]

theorem endsInSlash_diagnosticsPath :
    endsInSlash (s.recorder.diagnosticsPath phase attempt) = false := by
  refine endsInSlash_of_isName ?_
  rw [AttemptRecorder.diagnosticsPath, lastPiece_join]
  decide

/-- What can be recorded finds the way from a directory to its attempt open, and its place free; and
its path can be looked up. -/
structure Ready (s : Session) (fs : FileSystem) (here : Location) (names : List String)
    (phase : Phase) (attempt : Nat) : Prop where
  path : checkPath (s.recorder.diagnosticsPath phase attempt) = .ok ()
  way : fs.Open here (names ++ [attemptName phase attempt])
  unlinked : fs.Unlinked here (names ++ [attemptName phase attempt])
  place : ∀ e, fs.get? (recordAt (names.foldl step here) phase attempt) = some e →
    ∃ content x, e = .file content x
  apart : ∀ via, Passes here (names ++ [attemptName phase attempt]) via →
    via ≠ recordAt (names.foldl step here) phase attempt

/-- The directories of an attempt are created, and its record can be written. -/
theorem Ready.writes (h : s.Ready fs here names phase attempt)
    (hu : Under up s.recorder.sessionDirectory names) (hr : fs.resolve up true = .ok here)
    (hd : fs.get? here = some .directory) :
    ∃ made x, fs.DirectoriesOnly made (Passes here (names ++ [attemptName phase attempt])) ∧
      (∀ via, Passes here (names ++ [attemptName phase attempt]) via →
        made.get? via = some .directory) ∧
      fs.createDirectories (s.recorder.attemptDirectory phase attempt) = (.ok (), made) ∧
      ∀ text, made.writeText (s.recorder.diagnosticsPath phase attempt) text =
        .ok (made.put (recordAt (names.foldl step here) phase attempt) (.file text.toUTF8 x)) := by
  obtain ⟨hunder, hne⟩ := under_attempt hu phase attempt
  obtain ⟨made, hmade, honly, hthere, hdir⟩ := createLineage_open hr hd hunder (by simp)
    (clean_attemptDirectory phase attempt) (checkPath_attemptDirectory h.path) h.unlinked h.way _
    (Nat.le_refl _)
  have hgrows := fs.grows_createDirectories (s.recorder.attemptDirectory phase attempt)
  rw [createDirectories, hmade] at hgrows
  have hplace : made.get? (recordAt (names.foldl step here) phase attempt) =
      fs.get? (recordAt (names.foldl step here) phase attempt) := by
    rcases honly (recordAt (names.foldl step here) phase attempt) with hsame | ⟨-, -, hpasses⟩
    · exact hsame
    · exact absurd rfl (h.apart _ hpasses)
  have hway := resolve_diagnosticsPath hu (hgrows.resolve hr) h.path (hgrows.unlinked h.unlinked)
    (fun target hg => by
      obtain ⟨content, x, he⟩ := h.place _ (hplace ▸ hg)
      cases he) hthere
  have hfree : made.writable ((names ++ [attemptName phase attempt]).foldl step here)
      "diagnostics.txt" = .ok () := by
    unfold writable
    rw [if_neg (by decide), ← recordAt_eq, hplace]
    cases hg : fs.get? (recordAt (names.foldl step here) phase attempt) with
    | none => rfl
    | some e =>
        obtain ⟨content, x, rfl⟩ := h.place e hg
        rfl
  refine ⟨made, made.executableAt (recordAt (names.foldl step here) phase attempt), honly,
    (open_of_descend hthere hdir).2, hmade, fun text => ?_⟩
  have hwritten := writeText_eq endsInSlash_diagnosticsPath hdir (by decide) hway text
  rwa [hfree, ← recordAt_eq] at hwritten

/-- Where a record can be written, nothing stands in its way. -/
theorem ready_of_writes {made written : FileSystem} {text : String}
    (hu : Under up s.recorder.sessionDirectory names) (hr : fs.resolve up true = .ok here)
    (hl : fs.Unlinked here (names ++ [attemptName phase attempt]))
    (hplace : ∀ target,
      fs.get? (recordAt (names.foldl step here) phase attempt) ≠ some (.link target))
    (hmade : fs.createDirectories (s.recorder.attemptDirectory phase attempt) = (.ok (), made))
    (hwritten : made.writeText (s.recorder.diagnosticsPath phase attempt) text = .ok written) :
    s.Ready fs here names phase attempt := by
  obtain ⟨hunder, hne⟩ := under_attempt hu phase attempt
  have hgrows := fs.grows_createDirectories (s.recorder.attemptDirectory phase attempt)
  rw [hmade] at hgrows
  obtain ⟨place, x, hresolve, -, hold⟩ := writeBytes_ok hwritten
  have hk := checkPath_of_resolve hresolve
  have hclean := clean_attemptDirectory (s := s) phase attempt
  obtain ⟨hthere, hdir⟩ := descend_of_isDirectory (hgrows.resolve hr) hunder (by simp) hclean
    (checkPath_attemptDirectory hk) (hgrows.unlinked hl)
    (isDirectory_of_createDirectories hne hclean hmade)
  obtain ⟨hopen, hvia⟩ := open_of_descend hthere hdir
  rw [resolve_diagnosticsPath hu (hgrows.resolve hr) hk (hgrows.unlinked hl)
    (fun target hg => hplace target ((hgrows.link _ _).2 hg)) hthere, descend_name hdir (by decide),
    if_neg (by decide), ← recordAt_eq] at hresolve
  obtain rfl := Except.ok.inj hresolve
  have hfile (hg : made.get? (recordAt (names.foldl step here) phase attempt) = some .directory) :
      False := by
    rw [hg] at hold
    rcases hold with hold | ⟨content, hold⟩
    · cases hold
    · cases hold
  refine ⟨hk, ⟨hopen.short, fun via hv content x hg => ?_⟩, hl, fun e hg => ?_, fun via hv he => ?_⟩
  · obtain ⟨content', x', hg'⟩ := hgrows.file via content x hg
    exact hopen.free via hv content' x' hg'
  · cases e with
    | file content x => exact ⟨content, x, rfl⟩
    | directory => exact (hfile (hgrows.directory _ hg)).elim
    | link target => exact absurd hg (hplace target)
  · exact hfile (he ▸ hvia via hv)

end

/-- The directories on the way to a record are no record's place. -/
theorem get?_recordPlace {old new : FileSystem}
    (h : old.DirectoriesOnly new (Passes base (s.attemptWay phase attempt))) (t : Session)
    (phase' : Phase) (attempt' : Nat) :
    new.get? (t.recordPlace base phase' attempt') =
      old.get? (t.recordPlace base phase' attempt') := by
  rcases h (t.recordPlace base phase' attempt') with hsame | ⟨-, -, hpasses⟩
  · exact hsame
  · exact absurd rfl ((onWay_of_passes hpasses).ne_recordPlace t phase' attempt')

/-- What can be recorded finds its way open and its place free, and its path can be looked up. -/
structure Free (s : Session) (fs : FileSystem) (base : Location) (phase : Phase) (attempt : Nat) :
    Prop where
  path : checkPath (s.recorder.diagnosticsPath phase attempt) = .ok ()
  way : fs.Open base (s.attemptWay phase attempt)
  place : fs.get? (s.recordPlace base phase attempt) ≠ some .directory

theorem isTree_record (ht : fs.IsTree) (hl : fs.Linkless) (r : AttemptRecorder) (phase : Phase)
    (attempt : Nat) (failure : ToolFailure) : (r.record phase attempt failure fs).IsTree :=
  Verification.record_keeps (ht.createDirectories hl _) fun hm hmade hw =>
    hmade.writeBytes ((hm ▸ fs.grows_createDirectories _ : fs.Grows _).linkless hl) hw

theorem record_of_writes {r : AttemptRecorder} {failure : ToolFailure} {made written : FileSystem}
    (hm : fs.createDirectories (r.attemptDirectory phase attempt) = (.ok (), made))
    (hw : made.writeText (r.diagnosticsPath phase attempt) failure.diagnosticText = .ok written) :
    r.record phase attempt failure fs = written := by
  unfold AttemptRecorder.record
  rw [hm]
  simp only [hw]

theorem Free.ready (hl : fs.Linkless) (h : s.Free fs base phase attempt) :
    s.Ready fs base s.way phase attempt where
  path := h.path
  way := h.way
  unlinked := hl.unlinked base _
  place e hg := by
    cases e with
    | file content x => exact ⟨content, x, rfl⟩
    | directory => exact absurd hg h.place
    | link target => exact absurd hg (hl _ target)
  apart via hv := (onWay_of_passes hv).ne_recordPlace s phase attempt

/-- On an open way the directories of an attempt are created, and its record can be written. -/
theorem Free.writes (hr : Rooted fs s.root base) (h : s.Free fs base phase attempt) :
    ∃ made x, fs.DirectoriesOnly made (Passes base (s.attemptWay phase attempt)) ∧
      fs.createDirectories (s.recorder.attemptDirectory phase attempt) = (.ok (), made) ∧
      ∀ text, made.writeText (s.recorder.diagnosticsPath phase attempt) text =
        .ok (made.put (s.recordPlace base phase attempt) (.file text.toUTF8 x)) := by
  obtain ⟨made, x, honly, -, hmade, hwritten⟩ :=
    (h.ready hr.linkless).writes (under_sessionDirectory hr.nonempty) hr.resolve hr.directory
  exact ⟨made, x, honly, hmade, hwritten⟩

/-- A record is written, with the directories on its way to it. -/
theorem record_eq (hr : Rooted fs s.root base) (h : s.Free fs base phase attempt)
    (failure : ToolFailure) :
    ∃ made x, fs.DirectoriesOnly made (Passes base (s.attemptWay phase attempt)) ∧
      s.recorder.record phase attempt failure fs =
        made.put (s.recordPlace base phase attempt) (.file failure.diagnosticText.toUTF8 x) := by
  obtain ⟨made, x, honly, hmade, hwritten⟩ := h.writes hr
  exact ⟨made, x, honly, record_of_writes hmade (hwritten _)⟩

/-- What is written where a record goes changes no other file. -/
theorem content?_put_recordPlace {old made : FileSystem}
    (h : old.DirectoriesOnly made (Passes base (s.attemptWay phase attempt))) (content : ByteArray)
    (x : Bool) (place : Location) :
    (made.put (s.recordPlace base phase attempt) (.file content x)).content? place =
      if s.recordPlace base phase attempt = place then some content else old.content? place :=
  h.content?_put (by simp [recordPlace]) content x place

/-- The only file that a record changes is the one at its place. -/
theorem content?_record (hr : Rooted fs s.root base) (h : s.Free fs base phase attempt)
    (failure : ToolFailure) (place : Location) :
    (s.recorder.record phase attempt failure fs).content? place =
      if s.recordPlace base phase attempt = place then some failure.diagnosticText.toUTF8
      else fs.content? place := by
  obtain ⟨made, x, honly, heq⟩ := record_eq hr h failure
  rw [heq, content?_put_recordPlace honly]

theorem Recordable.of_free (hr : Rooted fs s.root base)
    (h : ∀ phase attempt, attempt < s.attempts → s.Free fs base phase attempt) :
    s.Recordable fs := by
  intro phase attempt ha
  obtain ⟨made, x, -, hmade, hwritten⟩ := (h phase attempt ha).writes hr
  exact ⟨made, _, hmade, hwritten ""⟩

/-- Where there are no records yet, all can be written whose paths are short enough. -/
theorem free_of_nothing (h : ∀ place, base ++ [".testsmith"] <+: place → fs.get? place = none)
    (hk : checkPath (s.recorder.diagnosticsPath phase attempt) = .ok ())
    (hs : ∀ piece ∈ s.attemptWay phase attempt, piece.utf8ByteSize ≤ maxNameBytes) :
    s.Free fs base phase attempt where
  path := hk
  way := by
    refine ⟨hs, fun via hv content x hg => ?_⟩
    rw [h via (onWay_of_passes hv).below] at hg
    cases hg
  place := by
    obtain ⟨names, hplace⟩ := s.exists_place base
    rw [h _ ⟨["validation"] ++ names ++ [attemptName phase attempt, "diagnostics.txt"], by
      simp [recordPlace, hplace]⟩]
    simp

theorem Recordable.free (hr : Rooted fs s.root base) (h : s.Recordable fs)
    (ha : attempt < s.attempts) : s.Free fs base phase attempt := by
  obtain ⟨made, written, hmade, hwritten⟩ := h phase attempt ha
  have hready := ready_of_writes (under_sessionDirectory hr.nonempty) hr.resolve
    (hr.linkless.unlinked base _) (hr.linkless _) hmade hwritten
  refine ⟨hready.path, hready.way, fun hg => ?_⟩
  obtain ⟨content, x, he⟩ := hready.place _ hg
  cases he

end

end Session

end TestForge
