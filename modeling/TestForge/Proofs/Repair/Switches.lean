import TestForge.Proofs.FileSystem.Files
import TestForge.Proofs.FileSystem.Trees
import TestForge.Proofs.Repair.Passes

/-!
# Switches of rules and what they do to a repair

Rules are switched by name, one call after the other, and the last call for a name counts. A repair
makes the rewrites of the rules that are on and whose phrase the diagnostic has, or it changes
nothing: it fails where the artifact cannot be read or written, and has nothing to do where no rule
applies.
-/

namespace TestForge

/-! ## Switching -/

namespace RepairRules

/-- The rules after calls that switch the rules of a name on or off. -/
def afterSwitches (rules : RepairRules) (calls : List (String × Bool)) : RepairRules :=
  calls.foldl (fun rules call => (rules.setEnabled call.1 call.2).2) rules

/-- The standard rules after such calls. -/
def switched (calls : List (String × Bool)) : RepairRules :=
  standard.afterSwitches calls

theorem switched_concat (calls : List (String × Bool)) (name : String) (enabled : Bool) :
    switched (calls ++ [(name, enabled)]) = ((switched calls).setEnabled name enabled).2 := by
  rw [switched, afterSwitches, List.foldl_append]
  rfl

/-- The rules that can be reached are those after some calls. -/
theorem reachable_iff_switched {rules : RepairRules} :
    rules.Reachable ↔ ∃ calls, rules = switched calls := by
  constructor
  · intro h
    induction h with
    | standard => exact ⟨[], rfl⟩
    | setEnabled _ name enabled ih =>
        obtain ⟨calls, rfl⟩ := ih
        exact ⟨calls ++ [(name, enabled)], (switched_concat calls name enabled).symm⟩
  · rintro ⟨calls, rfl⟩
    induction calls using List.reverseRecOn with
    | nil => exact .standard
    | append_singleton calls call ih =>
        rw [switched_concat]
        exact ih.setEnabled call.1 call.2

/-- To leave out the rules of a list is to switch off one name after the other. -/
theorem without_eq_switched (disabled : List String) :
    without disabled = switched (disabled.map fun name => (name, false)) := by
  rw [switched, afterSwitches, List.foldl_map]
  rfl

theorem eq_of_ofPhase {rules rules' : RepairRules}
    (h : ∀ phase, rules.ofPhase phase = rules'.ofPhase phase) : rules = rules' := by
  obtain ⟨compile, test⟩ := rules
  have hcompile := h .compile
  have htest := h .test
  simp only [ofPhase] at hcompile htest
  rw [hcompile, htest]

variable {rules : RepairRules} {name : String} {enabled : Bool}

/-! ### One call -/

theorem setEnabled_fst_iff : (rules.setEnabled name enabled).1 = true ↔
    ∃ phase, ∃ r ∈ rules.ofPhase phase, r.name = name := by
  simp only [setEnabled, names, List.contains_iff_mem, List.mem_map, List.mem_append]
  constructor
  · rintro ⟨r, hcompile | htest, hr⟩
    · exact ⟨.compile, r, hcompile, hr⟩
    · exact ⟨.test, r, htest, hr⟩
  · rintro ⟨phase, r, hmem, hr⟩
    cases phase with
    | compile => exact ⟨r, Or.inl hmem, hr⟩
    | test => exact ⟨r, Or.inr hmem, hr⟩

theorem ofPhase_setEnabled (rules : RepairRules) (name : String) (enabled : Bool) (phase : Phase) :
    (rules.setEnabled name enabled).2.ofPhase phase = (rules.ofPhase phase).map fun r =>
      { r with enabled := if r.name = name then enabled else r.enabled } := by
  cases phase <;> simp only [setEnabled, ofPhase, switch_eq_map]

/-- A call that finds no rule changes nothing. -/
theorem setEnabled_snd_of_not (h : (rules.setEnabled name enabled).1 = false) :
    (rules.setEnabled name enabled).2 = rules := by
  refine eq_of_ofPhase fun phase => ?_
  rw [ofPhase_setEnabled]
  refine (List.map_congr_left fun r hr => ?_).trans (List.map_id _)
  have hne : r.name ≠ name := by
    intro hname
    rw [setEnabled_fst_iff.2 ⟨phase, r, hr, hname⟩] at h
    cases h
  rw [if_neg hne, id]

/-! ### The last call counts -/

/-- What the last of the calls for a name says, or what was so before if there is none. -/
def lastSwitch (name : String) (before : Bool) (calls : List (String × Bool)) : Bool :=
  calls.foldl (fun on call => if name = call.1 then call.2 else on) before

/-- The last call for a name says on or off. -/
def LastCall (calls : List (String × Bool)) (name : String) (on : Bool) : Prop :=
  ∃ earlier later, calls = earlier ++ (name, on) :: later ∧ ∀ call ∈ later, call.1 ≠ name

theorem lastCall_cons {call : String × Bool} {calls : List (String × Bool)} {on : Bool} :
    LastCall (call :: calls) name on ↔
      (call = (name, on) ∧ ∀ call ∈ calls, call.1 ≠ name) ∨ LastCall calls name on := by
  constructor
  · rintro ⟨earlier, later, hsplit, hlater⟩
    rcases List.cons_eq_append_iff.1 hsplit with ⟨-, hhead⟩ | ⟨earlier, -, hrest⟩
    · obtain ⟨rfl, rfl⟩ := List.cons.inj hhead
      exact Or.inl ⟨rfl, hlater⟩
    · exact Or.inr ⟨earlier, later, hrest, hlater⟩
  · rintro (⟨rfl, hnone⟩ | ⟨earlier, later, rfl, hlater⟩)
    · exact ⟨[], calls, rfl, hnone⟩
    · exact ⟨call :: earlier, later, rfl, hlater⟩

theorem lastSwitch_iff {before : Bool} {calls : List (String × Bool)} :
    lastSwitch name before calls = true ↔
      (before = true ∧ ∀ call ∈ calls, call.1 ≠ name) ∨ LastCall calls name true := by
  induction calls generalizing before with
  | nil => simp [lastSwitch, LastCall]
  | cons call calls ih =>
      have hstep : lastSwitch name before (call :: calls) =
          lastSwitch name (if name = call.1 then call.2 else before) calls := rfl
      rw [hstep, ih, lastCall_cons, List.forall_mem_cons]
      by_cases hname : name = call.1
      · have hcall : call = (name, true) ↔ call.2 = true := by
          rw [hname, Prod.ext_iff]
          exact and_iff_right rfl
        have hnot : ¬(before = true ∧ call.1 ≠ name ∧ ∀ call ∈ calls, call.1 ≠ name) :=
          fun h => h.2.1 hname.symm
        rw [if_pos hname, hcall, or_iff_right hnot]
      · have hcall : call ≠ (name, true) := fun he => hname (by rw [he])
        have hnot : ¬(call = (name, true) ∧ ∀ call ∈ calls, call.1 ≠ name) := fun h => hcall h.1
        rw [if_neg hname, or_iff_right hnot, and_iff_right (Ne.symm hname)]

/-- Calls change nothing of the rules but whether they are on, and of that the last call decides. -/
theorem ofPhase_afterSwitches (rules : RepairRules) (calls : List (String × Bool)) (phase : Phase) :
    (rules.afterSwitches calls).ofPhase phase = (rules.ofPhase phase).map fun r =>
      { r with enabled := lastSwitch r.name r.enabled calls } := by
  induction calls generalizing rules with
  | nil => exact (List.map_id _).symm
  | cons call calls ih =>
      have hstep : rules.afterSwitches (call :: calls) =
          (rules.setEnabled call.1 call.2).2.afterSwitches calls := rfl
      rw [hstep, ih, ofPhase_setEnabled, List.map_map]
      rfl

theorem ofPhase_switched (calls : List (String × Bool)) (phase : Phase) :
    (switched calls).ofPhase phase = (standard.ofPhase phase).map fun r =>
      { r with enabled := lastSwitch r.name true calls } := by
  have hon : ∀ r ∈ standard.ofPhase phase, r.enabled = true := by
    cases phase <;> decide
  rw [switched, ofPhase_afterSwitches]
  exact List.map_congr_left fun r hr => by rw [hon r hr]

/-- A rule is on if the last call for its name switched it on, or if there was none. -/
theorem enabled_switched_iff {calls : List (String × Bool)} {phase : Phase} {r : RepairRule}
    (h : r ∈ (switched calls).ofPhase phase) : r.enabled = true ↔
      (∀ call ∈ calls, call.1 ≠ r.name) ∨ LastCall calls r.name true := by
  rw [ofPhase_switched] at h
  obtain ⟨original, -, rfl⟩ := List.mem_map.1 h
  rw [lastSwitch_iff, and_iff_right rfl]

/-! ### Switching off the names of a list -/

variable {disabled disabled' : List String}

theorem lastSwitch_off_iff :
    lastSwitch name true (disabled.map fun name => (name, false)) = true ↔ name ∉ disabled := by
  rw [lastSwitch_iff, and_iff_right rfl, or_iff_left ?_, List.forall_mem_map]
  · exact ⟨fun hall hm => hall name hm rfl, fun hnot other hm he => hnot (he ▸ hm)⟩
  · rintro ⟨earlier, later, hsplit, -⟩
    have hmem : (name, true) ∈ disabled.map fun name => (name, false) := by
      rw [hsplit]
      exact List.mem_append_right _ List.mem_cons_self
    obtain ⟨other, -, hother⟩ := List.mem_map.1 hmem
    cases hother

theorem ofPhase_without (disabled : List String) (phase : Phase) :
    (without disabled).ofPhase phase = (standard.ofPhase phase).map fun r =>
      { r with enabled := lastSwitch r.name true (disabled.map fun name => (name, false)) } := by
  rw [without_eq_switched, ofPhase_switched]

theorem enabled_without_iff {phase : Phase} {r : RepairRule}
    (h : r ∈ (without disabled).ofPhase phase) : r.enabled = true ↔ r.name ∉ disabled := by
  rw [ofPhase_without] at h
  obtain ⟨original, -, rfl⟩ := List.mem_map.1 h
  exact lastSwitch_off_iff

/-- Names that are switched off make a set, in which names of no rule count for nothing. -/
theorem without_congr
    (h : ∀ phase, ∀ r ∈ standard.ofPhase phase, r.name ∈ disabled ↔ r.name ∈ disabled') :
    without disabled = without disabled' := by
  refine eq_of_ofPhase fun phase => ?_
  rw [ofPhase_without, ofPhase_without]
  refine List.map_congr_left fun r hr => ?_
  have hsame := lastSwitch_off_iff.trans
    ((not_congr (h phase r hr)).trans lastSwitch_off_iff.symm)
  rw [Bool.eq_iff_iff.2 hsame]

/-! ### What calls mean -/

/-- What the calls made so far have done to the rules, and what the next one answers. -/
structure SwitchedBy (rules : RepairRules) (calls : List (String × Bool)) : Prop where
  found (name : String) (enabled : Bool) : (rules.setEnabled name enabled).1 = true ↔
    ∃ phase, ∃ r ∈ rules.ofPhase phase, r.name = name
  unknown (name : String) (enabled : Bool) : (rules.setEnabled name enabled).1 = false →
    (rules.setEnabled name enabled).2 = rules
  standard (phase : Phase) :
    ((rules.ofPhase phase).map fun r => { r with enabled := true }) =
      RepairRules.standard.ofPhase phase
  on (phase : Phase) : ∀ r ∈ rules.ofPhase phase, r.enabled = true ↔
    (∀ call ∈ calls, call.1 ≠ r.name) ∨ LastCall calls r.name true

theorem switchedBy (calls : List (String × Bool)) : (switched calls).SwitchedBy calls where
  found _ _ := setEnabled_fst_iff
  unknown _ _ := setEnabled_snd_of_not
  standard phase := by
    have hon : ∀ r ∈ RepairRules.standard.ofPhase phase, { r with enabled := true } = r := by
      cases phase <;> decide
    rw [ofPhase_switched, List.map_map]
    exact (List.map_congr_left hon).trans (List.map_id _)
  on _ _ hr := enabled_switched_iff hr

/-- The names of a list are switched off, whatever their order and however often they are named. -/
structure SwitchesOff (disabled : List String) : Prop where
  calls : without disabled = switched (disabled.map fun name => (name, false))
  on (phase : Phase) : ∀ r ∈ (without disabled).ofPhase phase, r.enabled = true ↔ r.name ∉ disabled
  set (disabled' : List String) :
    (∀ phase, ∀ r ∈ standard.ofPhase phase, r.name ∈ disabled ↔ r.name ∈ disabled') →
      without disabled = without disabled'

theorem switchesOff (disabled : List String) : SwitchesOff disabled where
  calls := without_eq_switched disabled
  on _ _ hr := enabled_without_iff hr
  set _ h := without_congr h

end RepairRules

/-! ## Repairing -/

/-- Access to the texts of files. What is written is read again, and a write that fails has changed
nothing. -/
structure TextStore (δ : Type) where
  read : δ → String → Except FileError String
  write : String → String → δ → Except FileError Unit × δ
  read_written : ∀ {path text : String} {disk : δ}, (write path text disk).1 = .ok () →
    read (write path text disk).2 path = .ok text
  failed_kept : ∀ {path text : String} {disk : δ} {e : FileError},
    (write path text disk).1 = .error e → (write path text disk).2 = disk

/-- A tree of files, of which some must not be written. -/
def FileSystem.store (locked : String → Bool) : TextStore FileSystem where
  read := FileSystem.readText
  write path text fs :=
    if locked path then (.error .permissionDenied, fs)
    else
      match fs.writeText path text with
      | .ok written => (.ok (), written)
      | .error e => (.error e, fs)
  read_written {path text fs} h := by
    split at h
    · cases h
    · rename_i hfree
      rw [if_neg hfree]
      split at h
      · rename_i written hw
        exact readText_writeText hw
      · cases h
  failed_kept {path text fs e} h := by
    split
    · rfl
    · rename_i hfree
      rw [if_neg hfree] at h
      split at h
      · cases h
      · rfl

namespace RepairRules

variable {δ : Type}

/-- The text after the rewrites of all rules that apply to a diagnostic, in the order of their
list. -/
def rewritten (rules : RepairRules) (phase : Phase) (diagnostic artifact : String) : String :=
  (rules.matching phase diagnostic).foldl (fun text r => r.amend text) artifact

/-- Repairs the artifact at a path wherever texts are kept: whether a rewrite was made or why it
could not be, and what is on the disk then. -/
def repairIn (rules : RepairRules) (store : TextStore δ) (phase : Phase) (path : String)
    (failure : ToolFailure) (disk : δ) : Except RepairError Bool × δ :=
  let diagnostic := failure.diagnosticText
  if (rules.matching phase diagnostic).isEmpty then (.ok false, disk)
  else
    match store.read disk path with
    | .error e => (.error (.unreadable path e), disk)
    | .ok artifact =>
      match rules.pass? phase diagnostic artifact with
      | none => (.ok false, disk)
      | some text =>
        match store.write path text disk with
        | (.error e, left) => (.error (.unwritable path e), left)
        | (.ok (), left) => (.ok true, left)

/-- The answer of a repair, and the files it leaves. -/
def answerIn (fs : FileSystem) : Except RepairError (Option FileSystem) →
    Except RepairError Bool × FileSystem
  | .ok (some written) => (.ok true, written)
  | .ok none => (.ok false, fs)
  | .error e => (.error e, fs)

theorem answerIn_repair (rules : RepairRules) (phase : Phase) (path : String)
    (failure : ToolFailure) (fs : FileSystem) :
    answerIn fs (rules.repair phase path failure fs) =
      rules.repairIn (FileSystem.store fun _ => false) phase path failure fs := by
  simp only [repair, repairIn, FileSystem.store, Bool.false_eq_true, ↓reduceIte]
  split
  · rfl
  · cases fs.readText path with
    | error e => rfl
    | ok artifact =>
        simp only
        cases rules.pass? phase failure.diagnosticText artifact with
        | none => rfl
        | some text =>
            simp only
            cases fs.writeText path text <;> rfl

/-- How a repair can go: no rule applies, the artifact cannot be read, it cannot be written, or it
is rewritten. -/
inductive RepairCase (rules : RepairRules) (store : TextStore δ) (phase : Phase) (path : String)
    (failure : ToolFailure) (disk : δ) : Except RepairError Bool → δ → Prop
  | noRule (hm : rules.matching phase failure.diagnosticText = []) :
      RepairCase rules store phase path failure disk (.ok false) disk
  | unreadable {e} (hm : rules.matching phase failure.diagnosticText ≠ [])
      (hr : store.read disk path = .error e) :
      RepairCase rules store phase path failure disk (.error (.unreadable path e)) disk
  | unwritable {artifact e} (hm : rules.matching phase failure.diagnosticText ≠ [])
      (hr : store.read disk path = .ok artifact)
      (hw : (store.write path (rules.rewritten phase failure.diagnosticText artifact) disk).1 =
        .error e) :
      RepairCase rules store phase path failure disk (.error (.unwritable path e)) disk
  | repaired {artifact left} (hm : rules.matching phase failure.diagnosticText ≠ [])
      (hr : store.read disk path = .ok artifact)
      (hw : store.write path (rules.rewritten phase failure.diagnosticText artifact) disk =
        (.ok (), left)) :
      RepairCase rules store phase path failure disk (.ok true) left

theorem pass?_of_matching {rules : RepairRules} {phase : Phase} {diagnostic : String}
    (h : rules.matching phase diagnostic ≠ []) (artifact : String) :
    rules.pass? phase diagnostic artifact = some (rules.rewritten phase diagnostic artifact) :=
  pass?_eq_some_iff.2 ⟨h, rfl⟩

theorem repairCase (rules : RepairRules) (store : TextStore δ) (phase : Phase) (path : String)
    (failure : ToolFailure) (disk : δ) : RepairCase rules store phase path failure disk
      (rules.repairIn store phase path failure disk).1
      (rules.repairIn store phase path failure disk).2 := by
  simp only [repairIn]
  split
  · rename_i hm
    exact .noRule (List.isEmpty_iff.1 hm)
  · rename_i hm
    have hne : rules.matching phase failure.diagnosticText ≠ [] := fun he => hm (by rw [he]; rfl)
    cases hr : store.read disk path with
    | error e => exact .unreadable hne hr
    | ok artifact =>
        simp only [pass?_of_matching hne]
        rcases hw : store.write path (rules.rewritten phase failure.diagnosticText artifact) disk
          with ⟨e | _, left⟩
        · have hfailed : (store.write path
              (rules.rewritten phase failure.diagnosticText artifact) disk).1 = .error e := by
            rw [hw]
          have hkept := store.failed_kept hfailed
          rw [hw] at hkept
          simp only at hkept ⊢
          rw [hkept]
          exact .unwritable hne hr hfailed
        · exact .repaired hne hr hw

/-- What a repair answers and leaves on the disk. -/
structure RepairMeans (rules : RepairRules) (store : TextStore δ) (phase : Phase) (path : String)
    (failure : ToolFailure) (disk : δ) (answer : Except RepairError Bool) (left : δ) : Prop where
  repaired : answer = .ok true ↔ rules.matching phase failure.diagnosticText ≠ [] ∧
    ∃ artifact, store.read disk path = .ok artifact ∧
      (store.write path (rules.rewritten phase failure.diagnosticText artifact) disk).1 = .ok ()
  rewritten : answer = .ok true → ∃ artifact, store.read disk path = .ok artifact ∧
    store.read left path = .ok (rules.rewritten phase failure.diagnosticText artifact)
  nothing : answer = .ok false ↔ rules.matching phase failure.diagnosticText = []
  untouched : answer ≠ .ok true → left = disk
  failed : (∃ e, answer = .error e) ↔ rules.matching phase failure.diagnosticText ≠ [] ∧
    ∀ artifact, store.read disk path = .ok artifact →
      (store.write path (rules.rewritten phase failure.diagnosticText artifact) disk).1 ≠ .ok ()

theorem RepairCase.means {rules : RepairRules} {store : TextStore δ} {phase : Phase} {path : String}
    {failure : ToolFailure} {disk left : δ} {answer : Except RepairError Bool}
    (h : RepairCase rules store phase path failure disk answer left) :
    RepairMeans rules store phase path failure disk answer left := by
  cases h with
  | noRule hm => constructor <;> simp [hm]
  | unreadable hm hr => constructor <;> simp [hm, hr]
  | unwritable hm hr hw => constructor <;> simp [hm, hr, hw]
  | repaired hm hr hw =>
      have hread := store.read_written (by rw [hw] : (store.write path _ disk).1 = .ok ())
      rw [hw] at hread
      constructor <;> simp [hm, hr, hw, hread]

/-! ### The rules a repair applies -/

/-- The rules of a phase that are on and whose phrase a diagnostic has, in the order of their
list. -/
structure Applied (rules : RepairRules) (phase : Phase) (diagnostic : String)
    (applied : List RepairRule) : Prop where
  order : applied.Sublist (rules.ofPhase phase)
  mem_iff (r : RepairRule) : r ∈ applied ↔
    r ∈ rules.ofPhase phase ∧ r.enabled = true ∧ r.phrase.toList <:+: diagnostic.toList

theorem applied_matching (rules : RepairRules) (phase : Phase) (diagnostic : String) :
    rules.Applied phase diagnostic (rules.matching phase diagnostic) where
  order := List.filter_sublist
  mem_iff r := by
    rw [matching, List.mem_filter, RepairRule.applies, Bool.and_eq_true, RepairRule.triggers,
      Text.occursIn_iff]

/-! ## After any calls -/

/-- The rules that can be reached are those that calls lead to. The last call for a rule's name decides
whether the rule is on, names that are switched off make a set, and a repair makes the rewrites of
exactly the rules that are on and that the diagnostic calls for, in their order, or it leaves the disk
as it was. -/
theorem switched_repair (calls : List (String × Bool)) (store : TextStore δ) (phase : Phase)
    (path : String) (failure : ToolFailure) (disk : δ) :
    (∀ rules : RepairRules, rules.Reachable ↔ ∃ made, rules = switched made) ∧
      (switched calls).SwitchedBy calls ∧ (∀ disabled, SwitchesOff disabled) ∧
      (switched calls).Applied phase failure.diagnosticText
        ((switched calls).matching phase failure.diagnosticText) ∧
      RepairMeans (switched calls) store phase path failure disk
        ((switched calls).repairIn store phase path failure disk).1
        ((switched calls).repairIn store phase path failure disk).2 ∧
      ∀ fs, answerIn fs ((switched calls).repair phase path failure fs) =
        (switched calls).repairIn (FileSystem.store fun _ => false) phase path failure fs :=
  ⟨fun _ => reachable_iff_switched, switchedBy calls, switchesOff, applied_matching _ _ _,
    (repairCase _ _ _ _ _ _).means, answerIn_repair _ _ _ _⟩

end RepairRules

/-! ### An artifact that both rules could rewrite -/

namespace FileSystem

def oneArtifact : FileSystem :=
  ⟨[(["OrderTest.kt"], .file "returns Unit, \"Y\"".toUTF8 false)], []⟩

theorem resolve_oneArtifact : oneArtifact.resolve "OrderTest.kt" true = .ok ["OrderTest.kt"] := by
  have hl : oneArtifact.Linkless := linkless_of_entries (by decide) (by decide)
  rw [hl.resolve_eq]
  decide

theorem get?_oneArtifact :
    oneArtifact.get? ["OrderTest.kt"] = some (.file "returns Unit, \"Y\"".toUTF8 false) :=
  rfl

theorem readText_oneArtifact : oneArtifact.readText "OrderTest.kt" = .ok "returns Unit, \"Y\"" :=
  readText_of_readBytes (readBytes_ok_iff.2
    ⟨false, status_ok_iff.2 ⟨_, resolve_oneArtifact, get?_oneArtifact⟩⟩)

theorem writeText_oneArtifact (text : String) : oneArtifact.writeText "OrderTest.kt" text =
    .ok (oneArtifact.put ["OrderTest.kt"] (.file text.toUTF8 false)) := by
  have hslash : endsInSlash "OrderTest.kt" = false := by decide
  simp only [writeText, writeBytes, writePlace, hslash, Bool.false_eq_true, ↓reduceIte,
    resolve_oneArtifact, get?_oneArtifact]

end FileSystem

namespace RepairRules

/-- One rule is switched off, the other off and on again. -/
def oneArtifactCalls : List (String × Bool) :=
  [("string_for_boolean", false), ("unit_for_long", false), ("unit_for_long", true)]

/-- A compiler that complains of both. -/
def oneArtifactFailure : ToolFailure :=
  .diagnostics "Unit but Long, String but Boolean"

/-- Only the rule that is on again rewrites the artifact; it fails where the artifact must not be
written. -/
theorem switched_repair_oneArtifact :
    (∃ left, (switched oneArtifactCalls).repairIn (FileSystem.store fun _ => false) .compile
        "OrderTest.kt" oneArtifactFailure .oneArtifact = (.ok true, left) ∧
      left.readText "OrderTest.kt" = .ok "returns 1L, \"Y\"") ∧
    ∃ e, (switched oneArtifactCalls).repairIn (FileSystem.store fun _ => true) .compile
      "OrderTest.kt" oneArtifactFailure .oneArtifact = (.error e, .oneArtifact) := by
  have hm :
      (switched oneArtifactCalls).matching .compile oneArtifactFailure.diagnosticText ≠ [] := by
    decide
  have hread := FileSystem.readText_oneArtifact
  obtain ⟨-, -, -, -, hfree, -⟩ := switched_repair oneArtifactCalls
    (FileSystem.store fun _ => false) .compile "OrderTest.kt" oneArtifactFailure .oneArtifact
  obtain ⟨-, -, -, -, hlocked, -⟩ := switched_repair oneArtifactCalls
    (FileSystem.store fun _ => true) .compile "OrderTest.kt" oneArtifactFailure .oneArtifact
  constructor
  · have hdone := hfree.repaired.2 ⟨hm, _, hread, by
      simp [FileSystem.store, FileSystem.writeText_oneArtifact]⟩
    obtain ⟨artifact, hbefore, hafter⟩ := hfree.rewritten hdone
    obtain rfl := Except.ok.inj (hread.symm.trans hbefore)
    have htext : (switched oneArtifactCalls).rewritten .compile oneArtifactFailure.diagnosticText
        "returns Unit, \"Y\"" = "returns 1L, \"Y\"" := by
      decide +kernel
    rw [htext] at hafter
    exact ⟨_, Prod.ext hdone rfl, hafter⟩
  · obtain ⟨e, he⟩ := hlocked.failed.2 ⟨hm, fun artifact _ => by simp [FileSystem.store]⟩
    have hkept := hlocked.untouched (by rw [he]; nofun)
    exact ⟨e, Prod.ext he hkept⟩

end RepairRules

end TestForge
