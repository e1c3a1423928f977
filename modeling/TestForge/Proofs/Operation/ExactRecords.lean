import TestForge.Proofs.FileSystem.Elsewhere
import TestForge.Proofs.Operation.Recording

/-!
# Recording has no say

A verification that records creates directories for its records. If neither the toolchain nor the path
of the artifact changes what is there, the records are exactly the diagnostic texts of the attempts
that failed. If the toolchain does not look there either, a verification that does not record, run
beside it on files that are the same elsewhere, gives the same report.
-/

namespace TestForge

open FileSystem Toolchain

/-! ## Failed attempts by phase -/

/-- The phase that a call belongs to. -/
def Toolchain.Answer.phase? : Answer → Option Phase
  | .compile _ => some .compile
  | .run _ => some .test
  | .coverage _ => none

/-- The diagnostic texts of the attempts of a phase that failed, oldest first. -/
def failedTextsOf (phase : Phase) (calls : List Event) : List String :=
  failedTexts (calls.filter fun e => e.answer.phase? = some phase)

theorem failedTextsOf_append (phase : Phase) (calls more : List Event) :
    failedTextsOf phase (calls ++ more) = failedTextsOf phase calls ++ failedTextsOf phase more := by
  simp [failedTextsOf]

namespace Verification

variable {σ : Type} {v : Verification σ} {phase : Phase} {w w' : World (List Event × σ)}

theorem failedTextsOf_attempt_ok {counts : Option TestCounts}
    (ha : v.logged.attempt phase w = (.ok counts, w')) (other : Phase) :
    failedTextsOf other w'.calls = failedTextsOf other w.calls := by
  obtain ⟨e, hcalls, hdiagnostic⟩ := attempt_calls_ok ha
  have hnone : failedTextsOf other [e] = [] := by
    simp [failedTextsOf, failedTexts, hdiagnostic]
  rw [hcalls, failedTextsOf_append, hnone, List.append_nil]

theorem failedTextsOf_attempt_error {failure : ToolFailure}
    (ha : v.logged.attempt phase w = (.error failure, w')) (other : Phase) :
    failedTextsOf other w'.calls =
      failedTextsOf other w.calls ++ if other = phase then [failure.diagnosticText] else [] := by
  obtain ⟨call, hcase, hcalls⟩ := attemptCase ha
  rw [hcalls, failedTextsOf_append]
  cases hcase <;> cases other <;> rfl

theorem failedTextsOf_keepRecord {failure : ToolFailure}
    (ha : v.logged.attempt phase w = (.error failure, w')) (recorder : Option AttemptRecorder)
    (attempt : Nat) (other : Phase) :
    failedTextsOf other (keepRecord recorder phase attempt failure w').calls =
      failedTextsOf other w.calls ++ if other = phase then [failure.diagnosticText] else [] := by
  rw [keepRecord_calls, failedTextsOf_attempt_error ha]

end Verification

/-! ## The site of a session -/

/-- Where the directories of a session are to be created: a path to a directory, the place of that
directory, the names that lead on from there to the directory of the session, and the first place
where a directory is to be created. -/
structure Site where
  up : String
  here : Location
  names : List String
  top : Location

namespace Site

/-- The place of the directory of the session. -/
def session (x : Site) : Location :=
  x.names.foldl step x.here

/-- The names lead to the directory of a session, and over places at the top of the site or below. -/
structure IsSiteOf (x : Site) (s : Session) : Prop where
  under : Under x.up s.recorder.sessionDirectory x.names
  nonempty : x.names ≠ []
  within : ∀ via, Passes x.here x.names via → x.top <+: via

/-- The records in a session are the texts of each phase, each in the directory for an attempt of its
number, and nothing else is at the site but directories, and those only with records. -/
structure HoldsExactly (x : Site) (fs : FileSystem) (texts : Phase → List String) : Prop where
  kept : ∀ phase i text, (texts phase)[i]? = some text →
    fs.content? (Session.recordAt x.session phase i) = some text.toUTF8
  only : ∀ place e, x.top <+: place → fs.get? place = some e → e = .directory ∨
    ∃ phase i text y, (texts phase)[i]? = some text ∧
      place = Session.recordAt x.session phase i ∧ e = .file text.toUTF8 y
  quiet : (∀ phase, texts phase = []) → fs.Vacant x.top

/-- In a project without records, the site of all sessions begins at the root. -/
theorem isSiteOf_root (s : Session) (hr : s.root ≠ "") (base : Location) :
    IsSiteOf ⟨s.root, base, s.way, base ++ [".testsmith"]⟩ s where
  under := Session.under_sessionDirectory hr
  nonempty := List.cons_ne_nil _ _
  within via hv := by
    have hway : Passes base (s.attemptWay .compile 0) via := hv.concat _
    exact (Session.onWay_of_passes hway).below

variable {x : Site} {s : Session} {a b fs : FileSystem} {texts : Phase → List String}
  {phase : Phase} {attempt : Nat}

theorem IsSiteOf.top_session (h : x.IsSiteOf s) : x.top <+: x.session :=
  h.within _ ⟨x.names, h.nonempty, List.prefix_refl _, rfl⟩

theorem IsSiteOf.top_recordAt (h : x.IsSiteOf s) (phase : Phase) (attempt : Nat) :
    x.top <+: Session.recordAt x.session phase attempt :=
  h.top_session.trans (List.prefix_append _ _)

/-- What is on the way to an attempt is on the way to the session, or is the attempt's directory. -/
theorem passes_attempt {via : Location}
    (h : Passes x.here (x.names ++ [attemptName phase attempt]) via) :
    Passes x.here x.names via ∨ via = x.session ++ [attemptName phase attempt] := by
  rcases passes_append h with h | h
  · exact Or.inl h
  · rw [passes_singleton h, step_isName _ (Session.isName_attemptName phase attempt)]
    exact Or.inr rfl

theorem IsSiteOf.within_attempt (h : x.IsSiteOf s) {via : Location}
    (hv : Passes x.here (x.names ++ [attemptName phase attempt]) via) : x.top <+: via := by
  rcases passes_attempt hv with hv | rfl
  · exact h.within via hv
  · exact h.top_session.trans (List.prefix_append _ _)

/-- No directory on the way to an attempt has the place of a record. -/
theorem ne_recordAt {attempts : Nat} (hinit : ∀ phase attempt, attempt < attempts →
      s.Ready fs x.here x.names phase attempt) {phase' : Phase} {attempt' : Nat}
    (ha : attempt' < attempts) {via : Location}
    (hv : Passes x.here (x.names ++ [attemptName phase attempt]) via) :
    via ≠ Session.recordAt x.session phase' attempt' := by
  rcases passes_attempt hv with hv | rfl
  · exact (hinit phase' attempt' ha).apart via (hv.concat _)
  · intro he
    have hnames := List.append_cancel_left he
    simp at hnames

/-! ## One record more -/

/-- Texts with one more in a phase. -/
def oneMore (texts : Phase → List String) (phase : Phase) (text : String) (other : Phase) :
    List String :=
  texts other ++ if other = phase then [text] else []

theorem getElem?_oneMore {phase other : Phase} {text found : String} {i : Nat} :
    (oneMore texts phase text other)[i]? = some found ↔
      (texts other)[i]? = some found ∨
        other = phase ∧ i = (texts phase).length ∧ found = text := by
  unfold oneMore
  by_cases hp : other = phase
  · subst hp
    rw [if_pos rfl, List.getElem?_append]
    split
    · rename_i hi
      constructor
      · exact Or.inl
      · rintro (h | ⟨-, rfl, -⟩)
        · exact h
        · exact absurd hi (Nat.lt_irrefl _)
    · rename_i hi
      rw [List.getElem?_eq_none (Nat.le_of_not_lt hi), List.getElem?_singleton]
      constructor
      · intro h
        split at h
        · rename_i hzero
          cases h
          exact Or.inr ⟨rfl, by omega, rfl⟩
        · cases h
      · rintro (h | ⟨-, rfl, rfl⟩)
        · cases h
        · simp
  · simp [hp]

theorem HoldsExactly.sameBelow (h : x.HoldsExactly a texts) (k : a.SameBelow b x.top)
    (hs : x.IsSiteOf s) : x.HoldsExactly b texts where
  kept phase i text ht := (k.content? (hs.top_recordAt phase i)).trans (h.kept phase i text ht)
  only place e hp hg := h.only place e hp (k place hp ▸ hg)
  quiet hq place hp := (k place hp).trans (h.quiet hq place hp)

/-- Whatever has been recorded, the next attempt can be. -/
theorem HoldsExactly.ready {old : FileSystem} (h : x.HoldsExactly fs texts) (hs : x.IsSiteOf s)
    (hinit : ∀ phase attempt, attempt < s.attempts → s.Ready old x.here x.names phase attempt)
    (hbound : ∀ phase, (texts phase).length ≤ s.attempts) (ha : attempt < s.attempts)
    (hfree : fs.get? (Session.recordAt x.session phase attempt) ≠ some .directory) :
    s.Ready fs x.here x.names phase attempt := by
  have hfirst := hinit phase attempt ha
  have hway {via : Location} (hv : Passes x.here (x.names ++ [attemptName phase attempt]) via)
      {e : Entry} (hg : fs.get? via = some e) : e = .directory := by
    rcases h.only via e (hs.within_attempt hv) hg with hdir | ⟨p, i, text, y, ht, hvia, -⟩
    · exact hdir
    · have hlt := (List.getElem?_eq_some_iff.1 ht).1
      exact absurd hvia (ne_recordAt hinit (Nat.lt_of_lt_of_le hlt (hbound p)) hv)
  refine ⟨hfirst.path, ⟨hfirst.way.short, fun via hv content y hg => ?_⟩, fun via hv target hg => ?_,
    fun e hg => ?_, hfirst.apart⟩
  · cases hway hv hg
  · cases hway hv hg
  · rcases h.only _ e (hs.top_recordAt phase attempt) hg with rfl | ⟨p, i, text, y, -, -, rfl⟩
    · exact absurd hg hfree
    · exact ⟨_, y, rfl⟩

/-- A record on the site: directories come on its way, and its text to its place. -/
theorem IsSiteOf.exists_record (hs : x.IsSiteOf s) (hr : fs.resolve x.up true = .ok x.here)
    (hd : fs.get? x.here = some .directory) (hready : s.Ready fs x.here x.names phase attempt)
    (failure : ToolFailure) :
    ∃ made y, fs.DirectoriesOnly made (Passes x.here (x.names ++ [attemptName phase attempt])) ∧
      (∀ via, Passes x.here (x.names ++ [attemptName phase attempt]) via →
        made.get? via = some .directory) ∧
      fs.Grows made ∧ s.recorder.record phase attempt failure fs =
        made.put (Session.recordAt x.session phase attempt)
          (.file failure.diagnosticText.toUTF8 y) := by
  obtain ⟨made, y, honly, hvia, hmade, hwritten⟩ := hready.writes hs.under hr hd
  have hgrows := fs.grows_createDirectories (s.recorder.attemptDirectory phase attempt)
  rw [hmade] at hgrows
  exact ⟨made, y, honly, hvia, hgrows, Session.record_of_writes hmade (hwritten _)⟩

/-- A file at the next place of a phase, behind new directories, is one text more. -/
theorem HoldsExactly.put {named : Location → Prop} (h : x.HoldsExactly a texts)
    (honly : a.DirectoriesOnly b named) (phase : Phase) (text : String) (y : Bool) :
    x.HoldsExactly (b.put (Session.recordAt x.session phase (texts phase).length)
      (.file text.toUTF8 y)) (oneMore texts phase text) where
  kept p i found ht := by
    rw [honly.content?_put (Session.recordAt_ne_nil _ _ _)]
    rcases getElem?_oneMore.1 ht with ht | ⟨rfl, rfl, rfl⟩
    · rw [if_neg]
      · exact h.kept p i found ht
      · intro he
        obtain ⟨rfl, rfl⟩ := Session.recordAt_injective he
        rw [List.getElem?_eq_none (Nat.le_refl _)] at ht
        cases ht
    · rw [if_pos rfl]
  only place e hp hg := by
    rw [get?_put _ _ _ _ (Session.recordAt_ne_nil _ _ _)] at hg
    split at hg
    · rename_i he
      cases hg
      exact Or.inr ⟨phase, _, _, y, getElem?_oneMore.2 (Or.inr ⟨rfl, rfl, rfl⟩), he.symm, rfl⟩
    · rcases honly place with hsame | ⟨-, hdir, -⟩
      · refine (h.only place e hp (hsame ▸ hg)).imp_right ?_
        rintro ⟨p, i, found, y', ht, hrest⟩
        exact ⟨p, i, found, y', getElem?_oneMore.2 (Or.inl ht), hrest⟩
      · rw [hdir] at hg
        cases hg
        exact Or.inl rfl
  quiet hq := by
    have hsome := hq phase
    simp [oneMore] at hsome

/-! ## Records in the course of a session -/

/-- What a session has recorded so far, and that it can go on. -/
structure Keeps (x : Site) (s : Session) (fs : FileSystem) (texts : Phase → List String) : Prop where
  records : x.HoldsExactly fs texts
  free : ∀ phase attempt, attempt < s.attempts →
    fs.get? (Session.recordAt x.session phase attempt) ≠ some .directory
  bounded : ∀ phase, (texts phase).length ≤ s.attempts

theorem Keeps.sameBelow (h : x.Keeps s a texts) (k : a.SameBelow b x.top) (hs : x.IsSiteOf s) :
    x.Keeps s b texts where
  records := h.records.sameBelow k hs
  free phase attempt ha hg := h.free phase attempt ha ((k _ (hs.top_recordAt phase attempt)) ▸ hg)
  bounded := h.bounded

/-- A failure more is recorded behind those before it. -/
theorem Keeps.record {old : FileSystem} (h : x.Keeps s fs texts) (hs : x.IsSiteOf s)
    (hinit : ∀ phase attempt, attempt < s.attempts → s.Ready old x.here x.names phase attempt)
    (hr : fs.resolve x.up true = .ok x.here) (hd : fs.get? x.here = some .directory)
    (hn : (texts phase).length < s.attempts) (failure : ToolFailure) :
    x.Keeps s (s.recorder.record phase (texts phase).length failure fs)
        (oneMore texts phase failure.diagnosticText) ∧
      fs.SameElsewhere (s.recorder.record phase (texts phase).length failure fs) x.top := by
  have hready := h.records.ready hs hinit h.bounded hn (h.free phase _ hn)
  have hne := Session.recordAt_ne_nil x.session phase (texts phase).length
  obtain ⟨made, y, honly, -, hgrows, hrecord⟩ := hs.exists_record hr hd hready failure
  rw [hrecord]
  refine ⟨⟨h.records.put honly phase _ y, fun p i hi hg => ?_, fun p => ?_⟩, ?_⟩
  · rw [get?_put _ _ _ _ hne] at hg
    split at hg
    · cases hg
    · rcases honly (Session.recordAt x.session p i) with hsame | ⟨-, -, hpasses⟩
      · exact h.free p i hi (hsame ▸ hg)
      · exact ne_recordAt hinit hi hpasses rfl
  · rw [oneMore, List.length_append]
    split
    · rename_i hp
      subst hp
      exact hn
    · exact h.bounded p
  · exact (honly.sameElsewhere hgrows.workingDirectory fun via hv => hs.within_attempt hv).trans
      (sameElsewhere_put (hs.top_recordAt _ _) hne _)

end Site

/-! ## Repairs on both sides -/

/-- A repair that is made on one side is made on the other. -/
theorem repair_elsewhere {rules : RepairRules} {phase : Phase} {path : String}
    {failure : ToolFailure} {a b new : FileSystem} {top : Location} (h : a.SameElsewhere b top)
    (hp : a.LeadsPast path top) (hr : rules.repair phase path failure a = .ok (some new)) :
    ∃ other, rules.repair phase path failure b = .ok (some other) ∧ new.SameElsewhere other top ∧
      b.SameBelow other top := by
  obtain ⟨artifact, text, hread, hpass, hw⟩ := RepairRules.repair_some_iff.1 hr
  obtain ⟨other, hother, hsame, hbelow⟩ := h.writeText hp hw
  exact ⟨other, RepairRules.repair_some_iff.2
    ⟨artifact, text, (h.readText hp).trans hread, hpass, hother⟩, hsame, hbelow⟩

/-- A repair leaves all alone that the path of the artifact leads past. -/
theorem sameBelow_repair {rules : RepairRules} {phase : Phase} {path : String}
    {failure : ToolFailure} {fs new : FileSystem} {top : Location} (hp : fs.LeadsPast path top)
    (hr : rules.repair phase path failure fs = .ok (some new)) : fs.SameBelow new top := by
  obtain ⟨other, hother, -, hbelow⟩ := repair_elsewhere (.refl fs top) hp hr
  rw [hr] at hother
  cases hother
  exact hbelow

namespace Verification

variable {σ : Type}

/-! ## What the site must be to others -/

/-- Nothing is at the site yet, its way begins at a directory, and the path of the artifact does not
come across it. -/
structure Clear (v : Verification σ) (x : Site) (fs : FileSystem) : Prop where
  vacant : fs.Vacant x.top
  arrives : fs.resolve x.up true = .ok x.here
  directory : fs.get? x.here = some .directory
  artifact : fs.LeadsPast v.artifact x.top

/-- Two calls that are the same, whatever is at the site on one of the sides: they leave alone what is
there, and clear what was clear. -/
structure Overlooked {α : Type} (v : Verification σ) (x : Site) (b : FileSystem)
    (first second : Except ToolFailure α × FileSystem × σ) : Prop where
  answer : second.1 = first.1
  tools : second.2.2 = first.2.2
  elsewhere : first.2.1.SameElsewhere second.2.1 x.top
  below : b.SameBelow second.2.1 x.top
  clear : v.Clear x first.2.1

/-- The toolchain overlooks the site: nothing there is looked at, changed or put in the way. -/
structure Overlooks (v : Verification σ) (x : Site) : Prop where
  compile : ∀ a b s, v.Clear x a → a.SameElsewhere b x.top →
    v.Overlooked x b (v.tools.compile v.root v.target a s) (v.tools.compile v.root v.target b s)
  run : ∀ a b s, v.Clear x a → a.SameElsewhere b x.top →
    v.Overlooked x b (v.tools.run v.root v.target a s) (v.tools.run v.root v.target b s)

/-- Clear but for what lies at the site. -/
def ClearBut (v : Verification σ) (x : Site) (b : FileSystem) : Prop :=
  ∃ a, v.Clear x a ∧ a.SameElsewhere b x.top

/-- What becomes of files leaves alone what lies at the site, and is as clear as they were. -/
structure LeftAlone (v : Verification σ) (x : Site) (old new : FileSystem) : Prop where
  below : old.SameBelow new x.top
  clear : v.ClearBut x new

/-- The toolchain leaves the site alone, whatever lies there, and puts nothing in the way. It may look
at what lies there. -/
structure LeavesAlone (v : Verification σ) (x : Site) : Prop where
  compile : ∀ fs s, v.ClearBut x fs →
    v.LeftAlone x fs (v.tools.compile v.root v.target fs s).2.1
  run : ∀ fs s, v.ClearBut x fs → v.LeftAlone x fs (v.tools.run v.root v.target fs s).2.1

variable {v : Verification σ} {x : Site} {s : Session} {old : FileSystem} {phase : Phase}
  {u u' : World σ} {w w' : World (List Event × σ)}

/-- A toolchain that overlooks the site leaves it alone. -/
theorem Overlooks.leavesAlone (h : v.Overlooks x) : v.LeavesAlone x where
  compile fs s hclear := by
    obtain ⟨a, ha, hsame⟩ := hclear
    have hcall := h.compile a fs s ha hsame
    exact ⟨hcall.below, _, hcall.clear, hcall.elsewhere⟩
  run fs s hclear := by
    obtain ⟨a, ha, hsame⟩ := hclear
    have hcall := h.run a fs s ha hsame
    exact ⟨hcall.below, _, hcall.clear, hcall.elsewhere⟩

theorem LeavesAlone.attempt (h : v.LeavesAlone x) (hc : v.ClearBut x u.files)
    {answer : Except ToolFailure (Option TestCounts)} (ha : v.attempt phase u = (answer, u')) :
    v.LeftAlone x u.files u'.files := by
  have hu : u' = (v.attempt phase u).2 := by rw [ha]
  rw [hu]
  cases phase with
  | compile => exact h.compile u.files u.tools hc
  | test => exact h.run u.files u.tools hc

/-- A log of the calls is kept in no file. -/
theorem LeavesAlone.attempt_logged (h : v.LeavesAlone x) (hc : v.ClearBut x w.files)
    {answer : Except ToolFailure (Option TestCounts)}
    (ha : v.logged.attempt phase w = (answer, w')) : v.LeftAlone x w.files w'.files := by
  have hunlogged := attempt_map (v := v.logged) v.tools.logged_maps phase w
  rw [ha] at hunlogged
  change v.LeftAlone x (w.map Prod.snd).files (w'.map Prod.snd).files
  exact h.attempt hc hunlogged

/-! ## Sites that are clear -/

/-- A repair leaves the site clear: the artifact that it has written is there. -/
theorem Clear.repair {failure : ToolFailure} {a new : FileSystem} (h : v.Clear x a)
    (hr : v.rules.repair phase v.artifact failure a = .ok (some new)) : v.Clear x new := by
  have hvacant := h.vacant.sameBelow (sameBelow_repair h.artifact hr)
  obtain ⟨text, hw⟩ := exists_write_of_repair hr
  have hgrows := grows_writeBytes hw
  obtain ⟨y, hthere⟩ := readBytes_ok_iff.1 (readBytes_writeBytes hw)
  obtain ⟨place, hplace, hfile⟩ := status_ok_iff.1 hthere
  exact ⟨hvacant, hgrows.resolve h.arrives, hgrows.directory _ h.directory,
    hvacant.leadsPast hplace hfile⟩

theorem Clear.clearBut {fs : FileSystem} (h : v.Clear x fs) : v.ClearBut x fs :=
  ⟨fs, h, .refl fs x.top⟩

theorem ClearBut.congr {a b : FileSystem} (h : v.ClearBut x a) (k : a.SameElsewhere b x.top) :
    v.ClearBut x b := by
  obtain ⟨clear, hclear, hsame⟩ := h
  exact ⟨clear, hclear, hsame.trans k⟩

/-- Whatever is at the site, its way begins where it did. -/
theorem ClearBut.arrives {fs : FileSystem} (h : v.ClearBut x fs) :
    fs.resolve x.up true = .ok x.here ∧ fs.get? x.here = some .directory := by
  obtain ⟨a, ha, hsame⟩ := h
  have hpast := ha.vacant.leadsPast ha.arrives ha.directory
  exact ⟨(hpast.unmoved fs hsame).trans ha.arrives,
    (hsame.get? _ (hpast.outside _ ha.arrives)).trans ha.directory⟩

theorem ClearBut.artifact {fs : FileSystem} (h : v.ClearBut x fs) :
    fs.LeadsPast v.artifact x.top := by
  obtain ⟨a, ha, hsame⟩ := h
  exact ha.artifact.congr hsame

theorem ClearBut.clear {fs : FileSystem} (h : v.ClearBut x fs) (hv : fs.Vacant x.top) :
    v.Clear x fs :=
  ⟨hv, h.arrives.1, h.arrives.2, h.artifact⟩

theorem ClearBut.repair {failure : ToolFailure} {fs new : FileSystem} (h : v.ClearBut x fs)
    (hr : v.rules.repair phase v.artifact failure fs = .ok (some new)) :
    v.LeftAlone x fs new := by
  have hbelow := sameBelow_repair h.artifact hr
  obtain ⟨a, ha, hsame⟩ := h
  obtain ⟨other, hother, helsewhere, -⟩ := repair_elsewhere hsame.symm (ha.artifact.congr hsame) hr
  exact ⟨hbelow, other, ha.repair hother, helsewhere.symm⟩

/-! ## Runs without records -/

theorem LeftAlone.vacant {a b : FileSystem} (h : v.LeftAlone x a b) (hc : v.Clear x a) :
    v.Clear x b :=
  h.clear.clear (hc.vacant.sameBelow h.below)

/-- Without records a phase leaves the site as clear as it was. -/
theorem PhaseRun.clear {state : RetryState} {outcome : PhaseOutcome}
    (hp : PhaseRun v phase none state u outcome u') (hl : v.LeavesAlone x) (h : v.Clear x u.files) :
    v.Clear x u'.files := by
  induction hp with
  | succeeds ha => exact (hl.attempt h.clearBut ha).vacant h
  | usedUp ha _ => exact (hl.attempt h.clearBut ha).vacant h
  | unrepaired ha _ _ => exact (hl.attempt h.clearBut ha).vacant h
  | repaired ha _ hr _ ih =>
      have hkept := (hl.attempt h.clearBut ha).vacant h
      exact ih (hkept.repair hr)

theorem VerificationRun.clear {maxRetries : UInt32} {log : StepLog}
    (hv : VerificationRun v maxRetries none u log u') (hl : v.LeavesAlone x)
    (h : v.Clear x u.files) : v.Clear x u'.files := by
  cases hv with
  | notCompiled hc => exact hc.clear hl h
  | tested hc ht => exact ht.clear hl (hc.clear hl h)

/-! ## Runs with records -/

/-- In a run of which the calls are logged, the failed attempts so far are recorded. -/
structure OnSite (v : Verification σ) (x : Site) (s : Session) (w : World (List Event × σ)) :
    Prop where
  clear : v.ClearBut x w.files
  kept : x.Keeps s w.files fun phase => failedTextsOf phase w.calls

theorem OnSite.succeeds (h : OnSite v x s w) (hs : x.IsSiteOf s) (hl : v.LeavesAlone x)
    {counts : Option TestCounts} (ha : v.logged.attempt phase w = (.ok counts, w')) :
    OnSite v x s w' := by
  have halone := hl.attempt_logged h.clear ha
  refine ⟨halone.clear, ?_⟩
  simp only [failedTextsOf_attempt_ok ha]
  exact h.kept.sameBelow halone.below hs

/-- An attempt that fails is recorded, and the record is at the site. -/
theorem OnSite.fails (h : OnSite v x s w) (hs : x.IsSiteOf s) (hl : v.LeavesAlone x)
    (hinit : ∀ phase attempt, attempt < s.attempts → s.Ready old x.here x.names phase attempt)
    {failure : ToolFailure} (ha : v.logged.attempt phase w = (.error failure, w')) {attempt : Nat}
    (ht : (failedTextsOf phase w.calls).length = attempt) (hn : attempt < s.attempts) :
    OnSite v x s (keepRecord (some s.recorder) phase attempt failure w') ∧
      w'.files.SameElsewhere (keepRecord (some s.recorder) phase attempt failure w').files
        x.top := by
  subst ht
  have halone := hl.attempt_logged h.clear ha
  obtain ⟨harrives, hdirectory⟩ := halone.clear.arrives
  obtain ⟨hkept, helsewhere⟩ :=
    (h.kept.sameBelow halone.below hs).record hs hinit harrives hdirectory hn failure
  have htexts : (fun p => failedTextsOf p (keepRecord (some s.recorder) phase
      (failedTextsOf phase w.calls).length failure w').calls) =
        Site.oneMore (fun p => failedTextsOf p w.calls) phase failure.diagnosticText :=
    funext fun p => failedTextsOf_keepRecord ha _ _ p
  have hclear := halone.clear.congr helsewhere
  rw [keepRecord] at htexts ⊢
  refine ⟨⟨?_, ?_⟩, ?_⟩
  · simpa only using hclear
  · simpa only [htexts] using hkept
  · simpa only using helsewhere

theorem OnSite.repaired (h : OnSite v x s w) (hs : x.IsSiteOf s) {failure : ToolFailure}
    {files : FileSystem}
    (hr : v.rules.repair phase v.artifact failure w.files = .ok (some files)) :
    OnSite v x s { w with files := files } := by
  have halone := h.clear.repair hr
  exact ⟨halone.clear, h.kept.sameBelow halone.below hs⟩

/-- The failed attempts of a phase are no attempts of another. -/
theorem PhaseRun.failedTextsOf_other {recorder : Option AttemptRecorder} {state : RetryState}
    {outcome : PhaseOutcome} (hp : PhaseRun v.logged phase recorder state w outcome w')
    {other : Phase} (ho : other ≠ phase) :
    failedTextsOf other w'.calls = failedTextsOf other w.calls := by
  induction hp with
  | succeeds ha => exact failedTextsOf_attempt_ok ha other
  | usedUp ha _ => rw [failedTextsOf_keepRecord ha, if_neg ho, List.append_nil]
  | unrepaired ha _ _ => rw [failedTextsOf_keepRecord ha, if_neg ho, List.append_nil]
  | @repaired state w failure w' _ _ _ ha _ _ _ ih =>
      have hcalls := failedTextsOf_keepRecord ha recorder state.attempt other
      rw [if_neg ho, List.append_nil] at hcalls
      exact ih.trans hcalls

/-- A failed attempt that is repaired is followed by the attempt of the next number. -/
theorem length_failedTextsOf_next {state : RetryState} {failure : ToolFailure}
    (ha : v.logged.attempt phase w = (.error failure, w')) (recorder : Option AttemptRecorder)
    (ht : (failedTextsOf phase w.calls).length = state.attempt) (files : FileSystem) :
    (failedTextsOf phase (World.calls { keepRecord recorder phase state.attempt failure w' with
      files := files })).length = state.next.attempt := by
  have hcalls : World.calls { keepRecord recorder phase state.attempt failure w' with
      files := files } = (keepRecord recorder phase state.attempt failure w').calls := rfl
  rw [hcalls, failedTextsOf_keepRecord ha, if_pos rfl, List.length_append, ht]
  rfl

theorem next_lt_of_not_last {state : RetryState} (hl : state.isLast = false) :
    state.next.attempt < state.next.maxRetries := by
  simp only [RetryState.isLast, decide_eq_false_iff_not, Nat.not_le] at hl
  simpa [RetryState.next] using hl

/-- A phase with records records its failed attempts. -/
theorem PhaseRun.onSite {state : RetryState} {outcome : PhaseOutcome}
    (hp : PhaseRun v.logged phase (some s.recorder) state w outcome w') (hs : x.IsSiteOf s)
    (hl : v.LeavesAlone x)
    (hinit : ∀ phase attempt, attempt < s.attempts → s.Ready old x.here x.names phase attempt)
    (hm : state.maxRetries = s.attempts) (hn : state.attempt < state.maxRetries)
    (h : OnSite v x s w) (ht : (failedTextsOf phase w.calls).length = state.attempt) :
    OnSite v x s w' := by
  -- By induction on the attempts: those behind have a record each, under their numbers.
  induction hp with
  | succeeds ha => exact h.succeeds hs hl ha
  | usedUp ha _ => exact (h.fails hs hl hinit ha ht (hm ▸ hn)).1
  | unrepaired ha _ _ => exact (h.fails hs hl hinit ha ht (hm ▸ hn)).1
  | repaired ha hlast hr _ ih =>
      have hkept := (h.fails hs hl hinit ha ht (hm ▸ hn)).1
      exact ih hm (next_lt_of_not_last hlast) (hkept.repaired hs hr)
        (length_failedTextsOf_next ha (some s.recorder) ht _)

/-- At most one test run of a phase fails, as no failed test is repaired. -/
theorem PhaseRun.length_failedTexts_le {state : RetryState} {outcome : PhaseOutcome}
    (hr : v.rules.Reachable) (h : PhaseRun v.logged .test (some s.recorder) state w outcome w') :
    (failedTextsOf .test w'.calls).length ≤ (failedTextsOf .test w.calls).length + 1 := by
  rcases PhaseRun.test_once (v := v.logged) hr h with ⟨counts, ha, -⟩ | ⟨failure, w₁, ha, -, rfl⟩
  · rw [failedTextsOf_attempt_ok ha]
    exact Nat.le_succ _
  · rw [keepRecord_calls, failedTextsOf_attempt_error ha, if_pos rfl, List.length_append]
    exact Nat.le_refl _

theorem VerificationRun.length_failedTexts_le {maxRetries : UInt32} {log : StepLog}
    (hr : v.rules.Reachable)
    (hv : VerificationRun v.logged maxRetries (some s.recorder) w log w') (hfirst : w.calls = []) :
    (failedTextsOf .test w'.calls).length ≤ 1 := by
  have hnone : failedTextsOf .test w.calls = [] := by rw [hfirst]; rfl
  cases hv with
  | notCompiled hc =>
      rw [hc.failedTextsOf_other (by decide), hnone]
      exact Nat.zero_le 1
  | tested hc ht =>
      have hlength := ht.length_failedTexts_le hr
      rwa [hc.failedTextsOf_other (by decide), hnone] at hlength

theorem VerificationRun.onSite {maxRetries : UInt32} {log : StepLog}
    (hv : VerificationRun v.logged maxRetries (some s.recorder) w log w') (hs : x.IsSiteOf s)
    (hl : v.LeavesAlone x)
    (hinit : ∀ phase attempt, attempt < s.attempts → s.Ready old x.here x.names phase attempt)
    (hm : s.attempts = max maxRetries.toNat 1) (h : OnSite v x s w) (hfirst : w.calls = []) :
    OnSite v x s w' := by
  have hstart := RetryState.start_lt maxRetries
  have hnone (phase : Phase) : (failedTextsOf phase w.calls).length =
      (RetryState.start maxRetries).attempt := by rw [hfirst]; rfl
  cases hv with
  | notCompiled hc => exact hc.onSite hs hl hinit hm.symm hstart h (hnone _)
  | tested hc ht =>
      have hmid := hc.onSite hs hl hinit hm.symm hstart h (hnone _)
      refine ht.onSite hs hl hinit hm.symm hstart hmid ?_
      rw [hc.failedTextsOf_other (by decide), hnone]

/-! ## Both runs -/

/-- A run without records beside one with records, of which the calls are logged. -/
structure Alongside (v : Verification σ) (x : Site) (s : Session) (u : World σ)
    (w : World (List Event × σ)) : Prop where
  tools : u.tools = w.tools.2
  clear : v.Clear x u.files
  elsewhere : u.files.SameElsewhere w.files x.top
  onSite : OnSite v x s w

/-- A call on both sides. -/
theorem Alongside.call (h : Alongside v x s u w) (ho : v.Overlooks x)
    {answer : Except ToolFailure (Option TestCounts)}
    (ha : v.logged.attempt phase w = (answer, w')) :
    ∃ u', v.attempt phase u = (answer, u') ∧ u'.tools = w'.tools.2 ∧ v.Clear x u'.files ∧
      u'.files.SameElsewhere w'.files x.top := by
  obtain ⟨rfl, rfl⟩ := Prod.mk.inj ha.symm
  obtain ⟨files, clock, tools⟩ := u
  obtain rfl : tools = w.tools.2 := h.tools
  cases phase with
  | compile =>
      have hcall := ho.compile files w.files w.tools.2 h.clear h.elsewhere
      exact ⟨_, Prod.ext (congrArg (Except.map fun _ => none) hcall.answer.symm) rfl,
        hcall.tools.symm, hcall.clear, hcall.elsewhere⟩
  | test =>
      have hcall := ho.run files w.files w.tools.2 h.clear h.elsewhere
      exact ⟨_, Prod.ext (congrArg (Except.map some) hcall.answer.symm) rfl,
        hcall.tools.symm, hcall.clear, hcall.elsewhere⟩

/-- An attempt that succeeds, on both sides. -/
theorem Alongside.succeeds (h : Alongside v x s u w) (hs : x.IsSiteOf s) (ho : v.Overlooks x)
    {counts : Option TestCounts} (ha : v.logged.attempt phase w = (.ok counts, w')) :
    ∃ u', v.attempt phase u = (.ok counts, u') ∧ Alongside v x s u' w' := by
  obtain ⟨u', hu, htools, hclear, hsame⟩ := h.call ho ha
  exact ⟨u', hu, htools, hclear, hsame, h.onSite.succeeds hs ho.leavesAlone ha⟩

/-- An attempt that fails, on both sides: on one of them it is recorded. -/
theorem Alongside.fails (h : Alongside v x s u w) (hs : x.IsSiteOf s) (ho : v.Overlooks x)
    (hinit : ∀ phase attempt, attempt < s.attempts → s.Ready old x.here x.names phase attempt)
    {failure : ToolFailure} (ha : v.logged.attempt phase w = (.error failure, w')) {attempt : Nat}
    (ht : (failedTextsOf phase w.calls).length = attempt) (hn : attempt < s.attempts) :
    ∃ u', v.attempt phase u = (.error failure, u') ∧
      Alongside v x s u' (keepRecord (some s.recorder) phase attempt failure w') := by
  obtain ⟨u', hu, htools, hclear, hsame⟩ := h.call ho ha
  obtain ⟨honsite, helsewhere⟩ := h.onSite.fails hs ho.leavesAlone hinit ha ht hn
  exact ⟨u', hu, htools, hclear, hsame.trans helsewhere, honsite⟩

/-- A repair, on both sides. -/
theorem Alongside.repaired (h : Alongside v x s u w) (hs : x.IsSiteOf s) {failure : ToolFailure}
    {files : FileSystem}
    (hr : v.rules.repair phase v.artifact failure w.files = .ok (some files)) :
    ∃ other, v.rules.repair phase v.artifact failure u.files = .ok (some other) ∧
      Alongside v x s { u with files := other } { w with files := files } := by
  obtain ⟨other, hother, hsame, -⟩ :=
    repair_elsewhere h.elsewhere.symm (h.clear.artifact.congr h.elsewhere) hr
  exact ⟨other, hother, h.tools, h.clear.repair hother, hsame.symm, h.onSite.repaired hs hr⟩

/-- A repair that is not made on one side is not made on the other. -/
theorem Alongside.unrepaired (h : Alongside v x s u w) {failure : ToolFailure}
    (hr : ∀ files, v.rules.repair phase v.artifact failure w.files ≠ .ok (some files)) :
    ∀ files, v.rules.repair phase v.artifact failure u.files ≠ .ok (some files) := by
  intro files hf
  obtain ⟨other, hother, -⟩ := repair_elsewhere h.elsewhere h.clear.artifact hf
  exact hr other hother

/-- A phase with records goes as it goes without them. -/
theorem PhaseRun.alongside {state : RetryState} {outcome : PhaseOutcome}
    (hp : PhaseRun v.logged phase (some s.recorder) state w outcome w') (hs : x.IsSiteOf s)
    (ho : v.Overlooks x)
    (hinit : ∀ phase attempt, attempt < s.attempts → s.Ready old x.here x.names phase attempt)
    (hm : state.maxRetries = s.attempts) (hn : state.attempt < state.maxRetries)
    (h : Alongside v x s u w) (ht : (failedTextsOf phase w.calls).length = state.attempt) :
    ∃ u', PhaseRun v phase none state u outcome u' ∧ Alongside v x s u' w' := by
  induction hp generalizing u with
  | succeeds ha =>
      obtain ⟨u', hu, hboth⟩ := h.succeeds hs ho ha
      exact ⟨u', .succeeds hu, hboth⟩
  | usedUp ha hl =>
      obtain ⟨u', hu, hboth⟩ := h.fails hs ho hinit ha ht (hm ▸ hn)
      exact ⟨u', .usedUp hu hl, hboth⟩
  | unrepaired ha hl hr =>
      obtain ⟨u', hu, hboth⟩ := h.fails hs ho hinit ha ht (hm ▸ hn)
      exact ⟨u', .unrepaired hu hl (hboth.unrepaired hr), hboth⟩
  | repaired ha hl hr _ ih =>
      obtain ⟨u', hu, hboth⟩ := h.fails hs ho hinit ha ht (hm ▸ hn)
      obtain ⟨other, hother, hnext⟩ := hboth.repaired hs hr
      obtain ⟨u'', hrun, hend⟩ := ih hm (next_lt_of_not_last hl) hnext
        (length_failedTextsOf_next ha (some s.recorder) ht _)
      exact ⟨u'', .repaired hu hl hother hrun, hend⟩

theorem VerificationRun.alongside {maxRetries : UInt32} {log : StepLog}
    (hv : VerificationRun v.logged maxRetries (some s.recorder) w log w') (hs : x.IsSiteOf s)
    (ho : v.Overlooks x)
    (hinit : ∀ phase attempt, attempt < s.attempts → s.Ready old x.here x.names phase attempt)
    (hm : s.attempts = max maxRetries.toNat 1) (h : Alongside v x s u w) (hfirst : w.calls = []) :
    ∃ u', VerificationRun v maxRetries none u log u' ∧ Alongside v x s u' w' := by
  have hstart := RetryState.start_lt maxRetries
  have hnone (phase : Phase) : (failedTextsOf phase w.calls).length =
      (RetryState.start maxRetries).attempt := by rw [hfirst]; rfl
  cases hv with
  | notCompiled hc =>
      obtain ⟨u', hu, hend⟩ := hc.alongside hs ho hinit hm.symm hstart h (hnone _)
      exact ⟨u', .notCompiled hu, hend⟩
  | tested hc ht =>
      obtain ⟨u₁, hu₁, hmid⟩ := hc.alongside hs ho hinit hm.symm hstart h (hnone _)
      obtain ⟨u', hu, hend⟩ := ht.alongside hs ho hinit hm.symm hstart hmid
        (by rw [hc.failedTextsOf_other (by decide), hnone])
      exact ⟨u', .tested hu₁ hu, hend⟩

/-! ## Whole verifications -/

/-- Where nothing is at the site yet, all is ready for what can be recorded. -/
theorem Clear.ready {fs : FileSystem} (h : v.Clear x fs) (hs : x.IsSiteOf s)
    (hcan : s.Recordable fs) (phase : Phase) (attempt : Nat) (ha : attempt < s.attempts) :
    s.Ready fs x.here x.names phase attempt := by
  obtain ⟨made, written, hmade, hwritten⟩ := hcan phase attempt ha
  refine Session.ready_of_writes hs.under h.arrives (fun via hv target hg => ?_)
    (fun target hg => ?_) hmade hwritten
  · simp [h.vacant via (hs.within_attempt hv)] at hg
  · rw [← Site.session, h.vacant _ (hs.top_recordAt phase attempt)] at hg
    cases hg

/-- The calls of the toolchain in a verification, oldest first. -/
def verifyCalls (v : Verification σ) (maxRetries : UInt32) (recordAttempts : Bool) (w : World σ) :
    List Event :=
  (v.logged.verify maxRetries recordAttempts w.logging).2.calls

theorem verify_logged (v : Verification σ) (maxRetries : UInt32) (recordAttempts : Bool)
    (w : World σ) :
    v.verify maxRetries recordAttempts w =
      ((v.logged.verify maxRetries recordAttempts w.logging).1,
        (v.logged.verify maxRetries recordAttempts w.logging).2.map Prod.snd) :=
  verify_map (v := v.logged) v.tools.logged_maps maxRetries recordAttempts w.logging

end Verification

end TestForge
