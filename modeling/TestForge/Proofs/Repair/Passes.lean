import TestForge.Proofs.Text.Replacing
import TestForge.Proofs.Verification.Phases

/-!
# Repair passes converge

One pass takes out of an artifact all that its rules replace, so a second pass finds nothing to do,
and the rules can be tried in either order. Only where the texts of both rules meet, in
`returns Uni"Y"`, does one rule make work for the other.
-/

namespace TestForge

open Text

/-! ## The replacements of each rule -/

namespace RepairRule

def amendUnits (s : List Char) : List Char :=
  replaceEvery "returns Unit".toList "returns 1L".toList s

def amendYes (s : List Char) : List Char :=
  replaceEvery "\"Y\"".toList "true".toList s

def amendNo (s : List Char) : List Char :=
  replaceEvery "\"N\"".toList "false".toList s

theorem toList_amend_unitForLong (text : String) :
    (unitForLong.amend text).toList = amendUnits text.toList :=
  String.toList_ofList

theorem toList_amend_stringForBoolean (text : String) :
    (stringForBoolean.amend text).toList = amendNo (amendYes text.toList) :=
  String.toList_ofList

/-! ### What is left of the texts that are replaced -/

variable {s : List Char}

theorem notMem_amendUnits (s : List Char) : ¬"returns Unit".toList <:+: amendUnits s :=
  not_infix_replaceEvery_self (by decide) (by decide) (by decide)

theorem notMem_amendYes (s : List Char) : ¬"\"Y\"".toList <:+: amendYes s :=
  not_infix_replaceEvery_self (by decide) (by decide) (by decide)

theorem notMem_amendNo (s : List Char) : ¬"\"N\"".toList <:+: amendNo s :=
  not_infix_replaceEvery_self (by decide) (by decide) (by decide)

theorem yes_amendNo (h : ¬"\"Y\"".toList <:+: s) : ¬"\"Y\"".toList <:+: amendNo s :=
  not_infix_replaceEvery_of_apart (by decide) (by decide) (by decide) h

theorem units_amendNo (h : ¬"returns Unit".toList <:+: s) :
    ¬"returns Unit".toList <:+: amendNo s :=
  not_infix_replaceEvery_of_apart (by decide) (by decide) (by decide) h

theorem seam_amendUnits (h : ¬"returns Uni\"Y\"".toList <:+: s) :
    ¬"returns Uni\"Y\"".toList <:+: amendUnits s :=
  not_infix_replaceEvery_of_apart (by decide) (by decide) (by decide) h

/-- The one way in which `true` can complete a `returns Unit`. -/
theorem leads_units_true : leads "returns Unit".toList "true".toList = ["returns Uni".toList] := by
  decide

theorem forall_leads_units_true (h : ¬"returns Uni\"Y\"".toList <:+: s) :
    ∀ front ∈ leads "returns Unit".toList "true".toList, ¬front ++ "\"Y\"".toList <:+: s := by
  rw [leads_units_true, List.forall_mem_singleton]
  exact h

theorem units_amendYes (hseam : ¬"returns Uni\"Y\"".toList <:+: s)
    (h : ¬"returns Unit".toList <:+: s) : ¬"returns Unit".toList <:+: amendYes s :=
  not_infix_replaceEvery_of_not (by decide) (by decide) h (forall_leads_units_true hseam)

/-! ### The order of the rules -/

theorem amendUnits_amendYes (h : ¬"returns Uni\"Y\"".toList <:+: s) :
    amendUnits (amendYes s) = amendYes (amendUnits s) := by
  refine replaceEvery_comm (by decide) (by decide) (by decide) (by decide) (by decide) (by decide)
    (forall_leads_units_true h) ?_
  have hleads : leads "\"Y\"".toList "returns 1L".toList = [] := by decide
  rw [hleads]
  exact List.forall_mem_nil _

theorem amendUnits_amendNo (s : List Char) :
    amendUnits (amendNo s) = amendNo (amendUnits s) := by
  have hleads : leads "returns Unit".toList "false".toList = [] := by decide
  have hleads' : leads "\"N\"".toList "returns 1L".toList = [] := by decide
  refine replaceEvery_comm (by decide) (by decide) (by decide) (by decide) (by decide) (by decide)
    ?_ ?_
  · rw [hleads]
    exact List.forall_mem_nil _
  · rw [hleads']
    exact List.forall_mem_nil _

/-- The rules make the same of a text in either order. -/
theorem amend_comm {text : String} (h : ¬"returns Uni\"Y\"".toList <:+: text.toList) :
    unitForLong.amend (stringForBoolean.amend text) =
      stringForBoolean.amend (unitForLong.amend text) := by
  rw [← String.toList_inj, toList_amend_unitForLong, toList_amend_stringForBoolean,
    toList_amend_stringForBoolean, toList_amend_unitForLong, amendUnits_amendNo,
    amendUnits_amendYes h]

/-! ### Texts with nothing to replace -/

/-- A text has nothing that a rule replaces. -/
def Spares (r : RepairRule) (text : String) : Prop :=
  ∀ replacement ∈ r.replacements, ¬replacement.1.toList <:+: text.toList

theorem amendChars_eq_self {replacements : List (String × String)}
    (h : ∀ replacement ∈ replacements, ¬replacement.1.toList <:+: s) :
    amendChars replacements s = s := by
  induction replacements with
  | nil => rfl
  | cons replacement replacements ih =>
      obtain ⟨old, new⟩ := replacement
      obtain ⟨hfirst, hrest⟩ := List.forall_mem_cons.1 h
      calc
        amendChars ((old, new) :: replacements) s =
            amendChars replacements (replaceEvery old.toList new.toList s) := rfl
        _ = amendChars replacements s := by rw [replaceEvery_eq_self hfirst]
        _ = s := ih hrest

theorem Spares.amend_eq {r : RepairRule} {text : String} (h : r.Spares text) :
    r.amend text = text := by
  rw [amend, amendChars_eq_self h, String.ofList_toList]

theorem spares_unitForLong_iff {text : String} :
    unitForLong.Spares text ↔ ¬"returns Unit".toList <:+: text.toList := by
  rw [Spares, unitForLong, List.forall_mem_singleton]

theorem spares_stringForBoolean_iff {text : String} :
    stringForBoolean.Spares text ↔
      ¬"\"Y\"".toList <:+: text.toList ∧ ¬"\"N\"".toList <:+: text.toList := by
  rw [Spares, stringForBoolean, List.forall_mem_cons, List.forall_mem_singleton]

theorem spares_stringForBoolean (text : String) :
    stringForBoolean.Spares (stringForBoolean.amend text) := by
  rw [spares_stringForBoolean_iff, toList_amend_stringForBoolean]
  exact ⟨yes_amendNo (notMem_amendYes _), notMem_amendNo _⟩

end RepairRule

/-! ## Passes -/

namespace RepairRules

open RepairRule

variable {rules : RepairRules} {phase : Phase} {diagnostic artifact text : String}

/-- Rules that apply are enabled, so they are the standard ones. -/
theorem Reachable.matching_cases (h : rules.Reachable) (diagnostic : String) :
    rules.matching .compile diagnostic = [] ∨
      rules.matching .compile diagnostic = [unitForLong] ∨
      rules.matching .compile diagnostic = [stringForBoolean] ∨
      rules.matching .compile diagnostic = [unitForLong, stringForBoolean] := by
  obtain ⟨unit, string, hrules⟩ := h.compileRules
  have hfilter (r : RepairRule) (hr : r.enabled = true) (enabled : Bool) (rest : List RepairRule) :
      ({ r with enabled := enabled } :: rest).filter (fun r => r.applies diagnostic) =
          rest.filter (fun r => r.applies diagnostic) ∨
        ({ r with enabled := enabled } :: rest).filter (fun r => r.applies diagnostic) =
          r :: rest.filter (fun r => r.applies diagnostic) := by
    cases enabled with
    | false => exact .inl (List.filter_cons_of_neg (by simp [applies]))
    | true =>
        have hsame : { r with enabled := true } = r := by rw [← hr]
        rw [hsame]
        by_cases happlies : r.applies diagnostic = true
        · exact .inr (List.filter_cons_of_pos happlies)
        · exact .inl (List.filter_cons_of_neg happlies)
  rw [matching, ofPhase, hrules]
  rcases hfilter unitForLong rfl unit [{ stringForBoolean with enabled := string }] with hu | hu
  · rcases hfilter stringForBoolean rfl string [] with hs | hs
    · exact .inl (hu.trans hs)
    · exact .inr (.inr (.inl (hu.trans hs)))
  · rcases hfilter stringForBoolean rfl string [] with hs | hs
    · exact .inr (.inl (hu.trans (congrArg (unitForLong :: ·) hs)))
    · exact .inr (.inr (.inr (hu.trans (congrArg (unitForLong :: ·) hs))))

theorem pass?_eq_some_iff : rules.pass? phase diagnostic artifact = some text ↔
    rules.matching phase diagnostic ≠ [] ∧
      (rules.matching phase diagnostic).foldl (fun text r => r.amend text) artifact = text := by
  unfold pass?
  cases rules.matching phase diagnostic with
  | nil => simp
  | cons r rest => simp

theorem foldl_amend_of_spares {rs : List RepairRule} (h : ∀ r ∈ rs, r.Spares text) :
    rs.foldl (fun text r => r.amend text) text = text := by
  induction rs with
  | nil => rfl
  | cons r rs ih =>
      obtain ⟨hr, hrs⟩ := List.forall_mem_cons.1 h
      rw [List.foldl_cons, hr.amend_eq, ih hrs]

/-- A pass leaves nothing for its rules to do, in whatever order they are tried. -/
theorem Reachable.spares_matching (h : rules.Reachable)
    (hseam : ¬"returns Uni\"Y\"".toList <:+: artifact.toList) (diagnostic : String) :
    (∀ r ∈ rules.matching .compile diagnostic,
      r.Spares ((rules.matching .compile diagnostic).foldl (fun text r => r.amend text) artifact)) ∧
    (rules.matching .compile diagnostic).reverse.foldl (fun text r => r.amend text) artifact =
      (rules.matching .compile diagnostic).foldl (fun text r => r.amend text) artifact := by
  have hunits (text : String) :
      ¬"returns Unit".toList <:+: (unitForLong.amend text).toList := by
    rw [toList_amend_unitForLong]
    exact notMem_amendUnits _
  rcases h.matching_cases diagnostic with hm | hm | hm | hm
  · rw [hm]
    exact ⟨List.forall_mem_nil _, rfl⟩
  · rw [hm, List.forall_mem_singleton]
    exact ⟨spares_unitForLong_iff.2 (hunits artifact), rfl⟩
  · rw [hm, List.forall_mem_singleton]
    exact ⟨spares_stringForBoolean artifact, rfl⟩
  · rw [hm]
    refine ⟨List.forall_mem_cons.2 ⟨spares_unitForLong_iff.2 ?_, List.forall_mem_singleton.2
      (spares_stringForBoolean _)⟩, amend_comm hseam⟩
    have hamended := hunits artifact
    rw [toList_amend_unitForLong] at hamended
    rw [List.foldl_cons, List.foldl_cons, List.foldl_nil, toList_amend_stringForBoolean,
      toList_amend_unitForLong]
    exact units_amendNo (units_amendYes (seam_amendUnits hseam) hamended)

/-- Without a place at which both rules meet, a pass has nothing left to do for a second one, and
the order of its rules makes no difference. Nothing remains of what a matching rule replaces. -/
theorem pass_converges (hr : rules.Reachable)
    (hseam : ¬"returns Uni\"Y\"".toList <:+: artifact.toList)
    (hp : rules.pass? .compile diagnostic artifact = some text) :
    rules.pass? .compile diagnostic text = some text ∧
    (rules.matching .compile diagnostic).reverse.foldl (fun text r => r.amend text) artifact =
      text ∧
    ∀ r ∈ rules.matching .compile diagnostic,
      (r.name = "unit_for_long" → ¬"returns Unit".toList <:+: text.toList) ∧
      (r.name = "string_for_boolean" →
        ¬"\"Y\"".toList <:+: text.toList ∧ ¬"\"N\"".toList <:+: text.toList) := by
  obtain ⟨hne, rfl⟩ := pass?_eq_some_iff.1 hp
  obtain ⟨hspares, hreverse⟩ := hr.spares_matching hseam diagnostic
  refine ⟨pass?_eq_some_iff.2 ⟨hne, foldl_amend_of_spares hspares⟩, hreverse, fun r hmem => ?_⟩
  have hnone := hspares r hmem
  have hstandard : r = unitForLong ∨ r = stringForBoolean := by
    rcases hr.matching_cases diagnostic with hm | hm | hm | hm <;> rw [hm] at hmem <;>
      simp only [List.mem_cons, List.not_mem_nil, or_false] at hmem
    · exact .inl hmem
    · exact .inr hmem
    · exact hmem
  rcases hstandard with rfl | rfl
  · exact ⟨fun _ => spares_unitForLong_iff.1 hnone, fun hname => absurd hname (by decide)⟩
  · exact ⟨fun hname => absurd hname (by decide), fun _ => spares_stringForBoolean_iff.1 hnone⟩

/-- What a compiler says that both rules look for. -/
def bothPhrases : String :=
  "Unit but Long, String but Boolean"

/-- Flags that overlap, and the beginning of a stub in front of a whole one. -/
def overlapping : String :=
  "returns returns Unit \"Y\"Y\" \"N\""

theorem pass_converges_overlapping :
    RepairRules.standard.Reachable ∧ ¬"returns Uni\"Y\"".toList <:+: overlapping.toList ∧
      standard.pass? .compile bothPhrases overlapping = some "returns returns 1L trueY\" false" ∧
      standard.pass? .compile bothPhrases "returns returns 1L trueY\" false" =
        some "returns returns 1L trueY\" false" := by
  have hseam : ¬"returns Uni\"Y\"".toList <:+: overlapping.toList := by decide
  have hp : standard.pass? .compile bothPhrases overlapping =
      some "returns returns 1L trueY\" false" := by decide +kernel
  exact ⟨.standard, hseam, hp, (pass_converges .standard hseam hp).1⟩

/-- Where the rules meet, the text that one puts in makes work for the other. -/
example :
    standard.pass? .compile bothPhrases "returns Uni\"Y\"" = some "returns Unitrue" ∧
      standard.pass? .compile bothPhrases "returns Unitrue" = some "returns 1Lrue" := by
  decide +kernel

end RepairRules

end TestForge
