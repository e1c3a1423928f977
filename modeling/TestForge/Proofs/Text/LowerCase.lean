import TestForge.Text.LowerCase

/-!
# Characters and their lower case

Only a letter has another character as its lower case, so no line feed comes about.
-/

namespace TestForge.Text

theorem eq_of_toLower {c d : Char} (h : c.toLower = d) (hd : d.toNat < 97) : c = d := by
  unfold Char.toLower at h
  split at h
  · rename_i hupper
    have hlow : 65 ≤ c.val.toNat := UInt32.le_iff_toNat_le.1 hupper.1
    have hhigh : c.val.toNat ≤ 90 := UInt32.le_iff_toNat_le.1 hupper.2
    have hv : (c.val + 32).toNat = d.toNat := congrArg (fun d => d.val.toNat) h
    rw [UInt32.toNat_add] at hv
    simp only [UInt32.reduceToNat] at hv
    omega
  · exact h

/-- The runs of the table lead to codes beyond the line feed. -/
theorem lowerCode_ne_feed {n : Nat} {runs : List (Nat × Nat × Nat × Int)} (hn : n ≠ 10)
    (hruns : ∀ run ∈ runs, 10 < (run.1 : Int) + run.2.2.2) : lowerCode n runs ≠ 10 := by
  induction runs with
  | nil => exact hn
  | cons run runs ih =>
      obtain ⟨lo, hi, step, shift⟩ := run
      obtain ⟨hrun, hlater⟩ := List.forall_mem_cons.1 hruns
      unfold lowerCode
      split
      · rename_i hin
        simp only [Bool.and_eq_true, decide_eq_true_eq] at hin hrun
        omega
      · exact ih hlater

theorem lowerRuns_beyond_feed : ∀ run ∈ lowerRuns, 10 < (run.1 : Int) + run.2.2.2 := by
  decide +kernel

theorem eq_of_ofNat_feed {n : Nat} (h : Char.ofNat n = '\n') : n = 10 := by
  unfold Char.ofNat at h
  by_cases hv : n.isValidChar
  · rw [dif_pos hv] at h
    exact congrArg Char.toNat h
  · rw [dif_neg hv] at h
    cases h

theorem eq_feed_of_mem_lowerCase {c : Char} (h : '\n' ∈ lowerCase c) : c = '\n' := by
  unfold lowerCase at h
  split at h
  · exact eq_of_toLower (List.mem_singleton.1 h).symm (by decide)
  · rename_i hascii
    split at h
    · have hnone : '\n' ∉ ['i', Char.ofNat 0x307] := by decide
      exact absurd h hnone
    · have hne : c.toNat ≠ 10 := by omega
      have hcode := eq_of_ofNat_feed (List.mem_singleton.1 h).symm
      exact absurd hcode (lowerCode_ne_feed hne lowerRuns_beyond_feed)

/-- A lower case is one character, or it begins with an `i`. -/
theorem lowerCase_cases (c : Char) :
    (lowerCase c).length = 1 ∨ (lowerCase c).head? = some 'i' := by
  unfold lowerCase
  split
  · exact .inl rfl
  · split
    · exact .inr rfl
    · exact .inl rfl

end TestForge.Text
