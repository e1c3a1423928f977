import TestForge.Proofs.FileSystem.Linkless
import TestForge.Proofs.Verification.Repairs

/-!
# Where records go

All records of failed attempts lie below `.testsmith`, whatever the test is called: the name of its
class is one piece of a path, and there are names above it that do not lead up again.
-/

namespace TestForge

open Text

/-! ## Pieces of record paths -/

theorem Path.notMem_components {s piece : List Char} (h : piece ∈ components s) : '/' ∉ piece := by
  unfold components at h
  cases hs : splitAtChar '/' s with
  | nil => exact absurd hs (splitAtChar_ne_nil '/' s)
  | cons first rest =>
      have hall : ∀ p ∈ first :: rest, '/' ∉ p := fun p hp => notMem_of_mem_splitAtChar (hs ▸ hp)
      simp only [hs, List.mem_append, List.mem_filter] at h
      rcases h with h | h
      · split at h
        · simp at h
        · exact hall piece (List.mem_singleton.1 h ▸ List.mem_cons_self)
      · exact hall piece (List.mem_cons_of_mem _ h.1)

theorem Path.prefix_splitName (name : List Char) : (splitName name).1 <+: name := by
  unfold splitName
  split
  · rename_i before extension hc
    split
    · exact List.prefix_refl name
    · rw [eq_append_of_cutAfterLast? hc]
      exact (List.dropLast_prefix before).trans (List.prefix_append before extension)
  · exact List.prefix_refl name

theorem Path.notMem_stem (s : List Char) : '/' ∉ stem s := by
  unfold stem
  split
  · rename_i name hf
    unfold fileName? at hf
    split at hf
    · rename_i last hlast
      split at hf
      · cases hf
      · rw [Option.some.injEq] at hf
        subst hf
        intro hm
        exact notMem_components (List.mem_of_getLast? hlast) ((prefix_splitName last).subset hm)
    · cases hf
  · simp

theorem notMem_toDigits (n : Nat) {c : Char} (hc : c.isDigit = false) : c ∉ Nat.toDigits 10 n := by
  intro hm
  simp [Nat.isDigit_of_mem_toDigits (by decide) (by decide) hm] at hc

theorem notMem_padded (width n : Nat) : '/' ∉ (padded width n).toList := by
  simp only [padded, String.toList_ofList, List.mem_append, List.mem_replicate, not_or]
  exact ⟨by simp, notMem_toDigits n (by decide)⟩

theorem notMem_timestamp (seconds : Nat) : '/' ∉ (timestamp seconds).toList := by
  simp only [timestamp, String.toList_append, List.mem_append, notMem_padded]
  decide

theorem mem_timestamp (seconds : Nat) : 'Z' ∈ (timestamp seconds).toList := by
  simp [timestamp]

/-! ## Where they lead -/

namespace AttemptRecorder

theorem notMem_attemptName (phase : Phase) (attempt : Nat) :
    '/' ∉ (phase.label ++ "_attempt_" ++ toString (attempt + 1)).toList := by
  have hdigits := notMem_toDigits (attempt + 1) (show '/'.isDigit = false by decide)
  have hlabel : '/' ∉ phase.label.toList := by cases phase <;> decide
  have hword : '/' ∉ "_attempt_".toList := by decide
  simp only [String.toList_append, List.mem_append, hlabel, hword]
  simpa using hdigits

/-- All records of a verification lead below `.testsmith/validation`. -/
theorem below_diagnosticsPath (fs : FileSystem) (root target : String) (seconds : Nat)
    (phase : Phase) (attempt : Nat) :
    fs.Below (Path.join (Path.join root ".testsmith") "validation")
      (fs.destination ((start root target seconds).diagnosticsPath phase attempt)) := by
  have htime := fs.destination_join_name (Path.join (Path.join root ".testsmith") "validation")
    (notMem_timestamp seconds)
  rw [FileSystem.step_name _ (mem_timestamp seconds) (by decide)] at htime
  have hclass := fs.destination_join_name
    (Path.join (Path.join (Path.join root ".testsmith") "validation") (timestamp seconds))
    (show '/' ∉ (Layout.testClass target).toList by
      simpa [Layout.testClass] using Path.notMem_stem _)
  have hattempt := fs.destination_join_name (start root target seconds).sessionDirectory
    (notMem_attemptName phase attempt)
  rw [FileSystem.step_name _ (c := '_') (by simp) (by decide)] at hattempt
  have hfile := fs.destination_join_name
    ((start root target seconds).attemptDirectory phase attempt)
    (show '/' ∉ "diagnostics.txt".toList by decide)
  rw [FileSystem.step_name _ (c := 'd') (by decide) (by decide)] at hfile
  -- a class name of two dots leads up once, from the time to the directory above it
  have hup := FileSystem.dropLast_prefix_step
    (fs.destination (Path.join (Path.join (Path.join root ".testsmith") "validation")
      (timestamp seconds))) (Layout.testClass target)
  rw [← hclass, htime, List.dropLast_concat] at hup
  obtain ⟨names, hnames⟩ := hup
  have hrecord : fs.destination ((start root target seconds).diagnosticsPath phase attempt) =
      fs.destination (Path.join (Path.join root ".testsmith") "validation") ++
        (names ++ [phase.label ++ "_attempt_" ++ toString (attempt + 1), "diagnostics.txt"]) := by
    rw [diagnosticsPath, hfile, attemptDirectory, hattempt, ← List.append_assoc, hnames,
      List.append_assoc]
    rfl
  cases names with
  | nil => exact ⟨_, _, hrecord⟩
  | cons name names => exact ⟨name, _, hrecord⟩

theorem prefix_diagnosticsPath (fs : FileSystem) (root target : String) (seconds : Nat)
    (phase : Phase) (attempt : Nat) :
    fs.destination (Path.join root ".testsmith") <+:
      fs.destination ((start root target seconds).diagnosticsPath phase attempt) := by
  have hvalidation := fs.destination_join_name (Path.join root ".testsmith")
    (show '/' ∉ "validation".toList by decide)
  rw [FileSystem.step_name _ (c := 'v') (by decide) (by decide)] at hvalidation
  obtain ⟨name, names, hrecord⟩ := below_diagnosticsPath fs root target seconds phase attempt
  rw [hrecord, hvalidation, List.append_assoc]
  exact List.prefix_append _ _

/-- A test that does not lie below `.testsmith` is apart from all records, if there are no links. -/
theorem apartFrom_of_linkless {fs : FileSystem} (hl : fs.Linkless) {root target : String}
    (h : ¬fs.destination (Path.join root ".testsmith") <+: fs.destination (Path.join root target))
    (seconds : Nat) : (start root target seconds).ApartFrom fs (Path.join root target) := by
  intro later hg phase attempt place hp hq
  have hll := hg.linkless hl
  have ht := hll.resolve hp
  have hd := hll.resolve hq
  rw [hg.destination] at ht hd
  have hp := prefix_diagnosticsPath fs root target seconds phase attempt
  rw [hd, ← ht] at hp
  exact h hp

end AttemptRecorder

end TestForge
