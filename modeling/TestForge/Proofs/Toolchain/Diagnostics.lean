import TestForge.Proofs.Text.Occurrences
import TestForge.Proofs.Verification.Phases
import TestForge.Toolchain.Output

/-!
# What the rules see of a compiler's output

A compile call that fails gives its output to the repair rules behind a line of its own. No phrase
of a rule has a line feed or occurs in that line, so a rule sees its phrase if and only if it is in
one of the two streams.
-/

namespace TestForge

open Text

/-! ## Phrases -/

/-- A text that no line break and no header of a failed compile call hides or makes up. -/
structure Phrase (phrase : String) : Prop where
  nonempty : phrase.toList ≠ []
  line : '\n' ∉ phrase.toList
  diagnostics : ¬phrase.toList <:+: "Compilation failed".toList
  exit : ¬phrase.toList <:+: " exited with status failure".toList
  apart : ∀ back ∈ phrase.toList.tails,
    back <+: " exited with status failure".toList → back = []

theorem phrase_unitForLong : Phrase RepairRule.unitForLong.phrase :=
  ⟨by decide, by decide, by decide, by decide, by decide⟩

theorem phrase_stringForBoolean : Phrase RepairRule.stringForBoolean.phrase :=
  ⟨by decide, by decide, by decide, by decide, by decide⟩

theorem RepairRules.Reachable.phrase {rules : RepairRules} (h : rules.Reachable) :
    ∀ r ∈ rules.compileRules, Phrase r.phrase := by
  obtain ⟨a, b, hrules⟩ := h.compileRules
  rw [hrules]
  exact List.forall_mem_cons.2 ⟨phrase_unitForLong, List.forall_mem_singleton.2
    phrase_stringForBoolean⟩

variable {phrase : String}

theorem Phrase.infix_combined (h : Phrase phrase) (o : ToolOutput) :
    phrase.toList <:+: o.combined.toList ↔
      phrase.toList <:+: o.stdout.toList ∨ phrase.toList <:+: o.stderr.toList := by
  have hempty {s : String} (hs : s.isEmpty = true) : ¬phrase.toList <:+: s.toList := by
    rw [String.isEmpty_iff] at hs
    rw [hs, String.toList_empty, List.infix_nil]
    exact h.nonempty
  unfold ToolOutput.combined
  split
  · rename_i herr
    exact (or_iff_left (hempty herr)).symm
  · split
    · rename_i hout
      exact (or_iff_right (hempty hout)).symm
    · have hfeed : "\n".toList = ['\n'] := rfl
      rw [String.toList_append, String.toList_append, List.append_assoc, hfeed,
        List.singleton_append, infix_append_cons h.line h.nonempty]

theorem ToolFailure.diagnosticText_diagnostics (output : String) :
    (ToolFailure.diagnostics output).diagnosticText = "Compilation failed\n" ++ output :=
  rfl

theorem ToolOutput.diagnosticText_exitFailure (o : ToolOutput) (command : String) :
    (o.exitFailure command).diagnosticText =
      command ++ " exited with status " ++ "failure" ++ "\n" ++ o.combined :=
  rfl

theorem Phrase.infix_diagnostics (h : Phrase phrase) (o : ToolOutput) :
    phrase.toList <:+: (ToolFailure.diagnostics o.combined).diagnosticText.toList ↔
      phrase.toList <:+: o.stdout.toList ∨ phrase.toList <:+: o.stderr.toList := by
  have hheader : "Compilation failed\n".toList = "Compilation failed".toList ++ ['\n'] := by decide
  rw [ToolFailure.diagnosticText_diagnostics, String.toList_append, hheader, List.append_assoc,
    List.singleton_append, infix_append_cons h.line h.nonempty, or_iff_right h.diagnostics,
    h.infix_combined]

theorem Phrase.infix_exitFailure (h : Phrase phrase) {command : String}
    (hc : ¬phrase.toList <:+: command.toList) (o : ToolOutput) :
    phrase.toList <:+: (o.exitFailure command).diagnosticText.toList ↔
      phrase.toList <:+: o.stdout.toList ∨ phrase.toList <:+: o.stderr.toList := by
  have hheader : " exited with status ".toList ++ "failure".toList =
      " exited with status failure".toList := by decide
  have hfeed : "\n".toList = ['\n'] := rfl
  simp only [ToolOutput.diagnosticText_exitFailure, String.toList_append]
  rw [List.append_assoc command.toList, hheader, hfeed, List.append_assoc (command.toList ++ _),
    List.singleton_append, infix_append_cons h.line h.nonempty, infix_append_of_apart h.apart,
    or_iff_right (not_or.2 ⟨hc, h.exit⟩), h.infix_combined]

/-! ## Compile calls -/

namespace ToolOutput

theorem showsError_iff {stream : String} :
    showsError stream = true ↔ "error:".toList <:+: stream.toList :=
  occursIn_iff

/-- What a compile call comes to: an error that is shown counts more than the exit. -/
theorem asCompile_cases (command : String) (o : ToolOutput) :
    (("error:".toList <:+: o.stdout.toList ∨ "error:".toList <:+: o.stderr.toList) ∧
      o.asCompile command = .error (.diagnostics o.combined)) ∨
    (¬("error:".toList <:+: o.stdout.toList ∨ "error:".toList <:+: o.stderr.toList) ∧
      (o.succeeded = false ∧ o.asCompile command = .error (o.exitFailure command) ∨
        o.succeeded = true ∧ o.asCompile command = .ok o)) := by
  have hshown : "error:".toList <:+: o.stdout.toList ∨ "error:".toList <:+: o.stderr.toList ↔
      (showsError o.stderr || showsError o.stdout) = true := by
    rw [← showsError_iff, ← showsError_iff, or_comm, Bool.or_eq_true]
  rw [hshown, asCompile]
  by_cases h : (showsError o.stderr || showsError o.stdout) = true
  · exact .inl ⟨h, if_pos h⟩
  · rw [if_neg h]
    cases hs : o.succeeded with
    | true => exact .inr ⟨h, .inr ⟨rfl, rfl⟩⟩
    | false => exact .inr ⟨h, .inl ⟨rfl, rfl⟩⟩

/-- A compile call succeeds, with its output as it is, if the tool exits well and shows no error. If
it fails, a rule applies to what is reported if and only if it is enabled and its phrase is in one
of the streams. -/
theorem compile_diagnostics_kept {rules : RepairRules} (hr : rules.Reachable) {command : String}
    (hc : ∀ r ∈ rules.compileRules, ¬r.phrase.toList <:+: command.toList) (o : ToolOutput) :
    ((∃ output, o.asCompile command = .ok output) ↔ o.succeeded = true ∧
      ¬"error:".toList <:+: o.stdout.toList ∧ ¬"error:".toList <:+: o.stderr.toList) ∧
    (∀ output, o.asCompile command = .ok output → output = o) ∧
    ∀ failure, o.asCompile command = .error failure → ∀ r ∈ rules.compileRules,
      (r.applies failure.diagnosticText = true ↔ r.enabled = true ∧
        (r.phrase.toList <:+: o.stdout.toList ∨ r.phrase.toList <:+: o.stderr.toList)) := by
  have happlies {failure : ToolFailure} {r : RepairRule}
      (h : r.phrase.toList <:+: failure.diagnosticText.toList ↔
        r.phrase.toList <:+: o.stdout.toList ∨ r.phrase.toList <:+: o.stderr.toList) :
      r.applies failure.diagnosticText = true ↔ r.enabled = true ∧
        (r.phrase.toList <:+: o.stdout.toList ∨ r.phrase.toList <:+: o.stderr.toList) := by
    rw [RepairRule.applies, Bool.and_eq_true, RepairRule.triggers, occursIn_iff, h]
  rw [← not_or]
  rcases asCompile_cases command o with
    ⟨hshown, ho⟩ | ⟨hshown, ⟨hs, ho⟩ | ⟨hs, ho⟩⟩
  · refine ⟨iff_of_false ?_ fun h => h.2 hshown, ?_, ?_⟩
    · rw [ho]
      rintro ⟨output, h⟩
      cases h
    · rw [ho]
      exact nofun
    · rw [ho]
      rintro failure ⟨⟩ r hmem
      exact happlies ((hr.phrase r hmem).infix_diagnostics o)
  · refine ⟨iff_of_false ?_ fun h => ?_, ?_, ?_⟩
    · rw [ho]
      rintro ⟨output, h⟩
      cases h
    · rw [hs] at h
      cases h.1
    · rw [ho]
      exact nofun
    · rw [ho]
      rintro failure ⟨⟩ r hmem
      exact happlies ((hr.phrase r hmem).infix_exitFailure (hc r hmem) o)
  · refine ⟨iff_of_true ⟨o, ho⟩ ⟨hs, hshown⟩, ?_, ?_⟩
    · rw [ho]
      rintro output ⟨⟩
      rfl
    · rw [ho]
      exact nofun

/-- A compiler that exits badly, with a phrase in each stream. -/
def twoPhrases : ToolOutput :=
  ⟨false, "w: Unit but Long", "e: String but Boolean"⟩

/-- Of two phrases the one counts whose rule is enabled. -/
theorem compile_diagnostics_kept_twoPhrases :
    (RepairRules.without ["unit_for_long"]).Reachable ∧
      (∀ r ∈ (RepairRules.without ["unit_for_long"]).compileRules,
        ¬r.phrase.toList <:+: "gradle".toList) ∧
      ∃ failure, twoPhrases.asCompile "gradle" = .error failure ∧
        ∀ r ∈ (RepairRules.without ["unit_for_long"]).compileRules,
          (r.applies failure.diagnosticText = true ↔ r.enabled = true) := by
  have hr : (RepairRules.without ["unit_for_long"]).Reachable :=
    .setEnabled .standard "unit_for_long" false
  have hc : ∀ r ∈ (RepairRules.without ["unit_for_long"]).compileRules,
      ¬r.phrase.toList <:+: "gradle".toList := by decide
  have hphrase : ∀ r ∈ (RepairRules.without ["unit_for_long"]).compileRules,
      r.phrase.toList <:+: twoPhrases.stdout.toList ∨
        r.phrase.toList <:+: twoPhrases.stderr.toList := by decide
  have hfailure : twoPhrases.asCompile "gradle" = .error (twoPhrases.exitFailure "gradle") := by
    decide
  obtain ⟨-, -, happlies⟩ := compile_diagnostics_kept hr hc twoPhrases
  exact ⟨hr, hc, _, hfailure, fun r hmem =>
    (happlies _ hfailure r hmem).trans (and_iff_left (hphrase r hmem))⟩

end ToolOutput

end TestForge
