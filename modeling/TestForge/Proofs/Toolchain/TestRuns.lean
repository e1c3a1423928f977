import Mathlib.Algebra.Group.Nat.Defs
import TestForge.Proofs.Text.LowerCase
import TestForge.Proofs.Text.Words
import TestForge.Toolchain.Output

/-!
# When a test run fails

Only the first count of failed tests is looked at: a numeral, taken whole, that the word follows in
any letter case, and none before it. It has to be written in ASCII digits and fit in 32 bits.
-/

namespace TestForge

open Text

/-! ## Counts in a text -/

/-- A whole numeral in a text, with the word behind it in any letter case. -/
structure Counted (word s before numeral rest : List Char) : Prop where
  text : s = before ++ (numeral ++ rest)
  nonempty : numeral ≠ []
  digits : ∀ c ∈ numeral, isDecimalDigit c = true
  whole : ∀ c, before.getLast? = some c → isDecimalDigit c = false
  followed : beginsWithWord word rest = true

theorem eq_blank_of_sameLetter {c : Char} (h : sameLetter ' ' c = true) : c = ' ' := by
  simp only [sameLetter, Char.reduceBEq, Bool.false_and, Bool.or_false, beq_iff_eq] at h
  exact eq_of_toLower h (by decide)

variable {w s before numeral rest : List Char}

/-- A word that begins with a blank begins where no digit stands. -/
theorem not_isDecimalDigit_of_begins (h : beginsWithWord (' ' :: w) rest = true) :
    ∀ c, rest.head? = some c → isDecimalDigit c = false := by
  intro c hc
  cases rest with
  | nil => cases hc
  | cons d rest =>
      cases hc
      rw [beginsWithWord, Bool.and_eq_true] at h
      rw [eq_blank_of_sameLetter h.1]
      rfl

theorem countHere?_eq_some_iff :
    countHere? (' ' :: w) s = some numeral ↔
      ∃ rest, Counted (' ' :: w) s [] numeral rest := by
  unfold countHere?
  constructor
  · intro h
    simp only at h
    split at h
    · rename_i hc
      cases h
      simp only [Bool.and_eq_true, Bool.not_eq_true', List.isEmpty_eq_false_iff] at hc
      exact ⟨_, List.takeWhile_append_dropWhile.symm, hc.1, fun _ => List.mem_takeWhile_imp,
        nofun, hc.2⟩
    · cases h
  · rintro ⟨rest, h⟩
    obtain ⟨ht, hd⟩ := span_name h.digits (not_isDecimalDigit_of_begins h.followed)
    have hs := h.text
    rw [List.nil_append] at hs
    have hn : numeral.isEmpty = false := List.isEmpty_eq_false_iff.2 h.nonempty
    simp [hs, ht, hd, hn, h.followed]

/-- Where no count begins, the counts are those further on. -/
theorem counted_cons_iff {c : Char} (hnone : countHere? (' ' :: w) (c :: s) = none) :
    Counted (' ' :: w) (c :: s) before numeral rest ↔
      ∃ later, before = c :: later ∧ Counted (' ' :: w) s later numeral rest := by
  constructor
  · intro h
    cases before with
    | nil =>
        rw [countHere?_eq_some_iff.2 ⟨rest, h⟩] at hnone
        cases hnone
    | cons d later =>
        obtain ⟨rfl, hs⟩ := List.cons_eq_cons.1 h.text
        refine ⟨later, rfl, hs, h.nonempty, h.digits, fun e he => h.whole e ?_, h.followed⟩
        rw [List.getLast?_cons, he]
        rfl
  · rintro ⟨later, rfl, h⟩
    refine ⟨by rw [h.text]; rfl, h.nonempty, h.digits, fun d hd => ?_, h.followed⟩
    cases hl : later.getLast? with
    | some e =>
        rw [List.getLast?_cons, hl] at hd
        cases hd
        exact h.whole _ hl
    | none =>
        -- If the numeral began one character earlier, a count would begin there.
        rw [List.getLast?_eq_none_iff] at hl
        subst hl
        cases hd
        by_contra hdigit
        have hlonger : Counted (' ' :: w) (c :: s) [] (c :: numeral) rest :=
          ⟨by rw [h.text]; rfl, List.cons_ne_nil _ _,
            List.forall_mem_cons.2 ⟨by simpa using hdigit, h.digits⟩, nofun, h.followed⟩
        rw [countHere?_eq_some_iff.2 ⟨rest, hlonger⟩] at hnone
        cases hnone

/-- The first count of a text. -/
def FirstCounted (word s before numeral rest : List Char) : Prop :=
  Counted word s before numeral rest ∧
    ∀ before' numeral' rest', Counted word s before' numeral' rest' →
      before.length ≤ before'.length

theorem not_counted_of_none (h : numeralBefore? (' ' :: w) s = none) :
    ¬Counted (' ' :: w) s before numeral rest := by
  induction s generalizing before with
  | nil =>
      intro hc
      have hs := hc.text
      simp [hc.nonempty] at hs
  | cons c s ih =>
      unfold numeralBefore? at h
      split at h
      · cases h
      · rename_i hnone
        intro hc
        obtain ⟨later, -, hl⟩ := (counted_cons_iff hnone).1 hc
        exact ih h hl

theorem firstCounted_of_some (h : numeralBefore? (' ' :: w) s = some numeral) :
    ∃ before rest, FirstCounted (' ' :: w) s before numeral rest := by
  induction s with
  | nil => cases h
  | cons c s ih =>
      unfold numeralBefore? at h
      split at h
      · rename_i hhere
        cases h
        obtain ⟨rest, hc⟩ := countHere?_eq_some_iff.1 hhere
        exact ⟨[], rest, hc, fun _ _ _ _ => Nat.zero_le _⟩
      · rename_i hnone
        obtain ⟨later, rest, hc, hfirst⟩ := ih h
        refine ⟨c :: later, rest, (counted_cons_iff hnone).2 ⟨later, rfl, hc⟩, ?_⟩
        intro before' numeral' rest' hc'
        obtain ⟨later', rfl, hl'⟩ := (counted_cons_iff hnone).1 hc'
        exact Nat.succ_le_succ (hfirst _ _ _ hl')

theorem FirstCounted.unique {before' numeral' rest' : List Char}
    (h : FirstCounted (' ' :: w) s before numeral rest)
    (h' : FirstCounted (' ' :: w) s before' numeral' rest') : numeral = numeral' := by
  have hlength : before.length = before'.length :=
    Nat.le_antisymm (h.2 _ _ _ h'.1) (h'.2 _ _ _ h.1)
  have hs : before ++ (numeral ++ rest) = before' ++ (numeral' ++ rest') :=
    h.1.text.symm.trans h'.1.text
  have hrest := (List.append_inj hs hlength).2
  have ht := (span_name h.1.digits (not_isDecimalDigit_of_begins h.1.followed)).1
  have ht' := (span_name h'.1.digits (not_isDecimalDigit_of_begins h'.1.followed)).1
  rw [← ht, ← ht', hrest]

theorem numeralBefore?_eq_some_iff :
    numeralBefore? (' ' :: w) s = some numeral ↔
      ∃ before rest, FirstCounted (' ' :: w) s before numeral rest := by
  refine ⟨firstCounted_of_some, ?_⟩
  rintro ⟨before, rest, h⟩
  cases hn : numeralBefore? (' ' :: w) s with
  | none => exact absurd h.1 (not_counted_of_none hn)
  | some numeral' =>
      obtain ⟨before', rest', h'⟩ := firstCounted_of_some hn
      rw [h'.unique h]

/-! ## Failed tests -/

/-- The first numeral of a text that the word follows is one of ASCII digits, and its value is below
`2 ^ 32`. -/
def FirstCount (word text : List Char) (n : Nat) : Prop :=
  ∃ before numeral rest, FirstCounted word text before numeral rest ∧
    (∀ c ∈ numeral, c.isDigit = true) ∧ digitsValue 0 numeral = n ∧ n < 2 ^ 32

theorem numeralBelow?_eq_some_iff {bound n : Nat} (hn : numeral ≠ []) :
    numeralBelow? bound numeral = some n ↔
      (∀ c ∈ numeral, c.isDigit = true) ∧ digitsValue 0 numeral = n ∧ n < bound := by
  have he : numeral.isEmpty = false := List.isEmpty_eq_false_iff.2 hn
  unfold numeralBelow?
  by_cases hd : ∀ c ∈ numeral, c.isDigit = true
  · have hall : numeral.all Char.isDigit = true := List.all_eq_true.2 hd
    simp only [he, hall, Bool.not_true, Bool.or_self, Bool.false_eq_true, ↓reduceIte]
    split
    · rename_i hlt
      rw [Option.some.injEq]
      exact ⟨fun h => ⟨hd, h, h ▸ hlt⟩, fun h => h.2.1⟩
    · rename_i hge
      refine ⟨nofun, fun h => ?_⟩
      rw [h.2.1] at hge
      exact absurd h.2.2 hge
  · have hall : numeral.all Char.isDigit = false := Bool.eq_false_iff.2 (mt List.all_eq_true.1 hd)
    simp only [he, hall, Bool.not_false, Bool.or_true, ↓reduceIte]
    exact ⟨nofun, fun h => absurd h.1 hd⟩

theorem firstCount_iff {n : Nat} :
    FirstCount (' ' :: w) s n ↔
      (numeralBefore? (' ' :: w) s).bind (numeralBelow? (2 ^ 32)) = some n := by
  rw [Option.bind_eq_some_iff]
  constructor
  · rintro ⟨before, numeral, rest, hfirst, hvalue⟩
    exact ⟨numeral, numeralBefore?_eq_some_iff.2 ⟨before, rest, hfirst⟩,
      (numeralBelow?_eq_some_iff hfirst.1.nonempty).2 hvalue⟩
  · rintro ⟨numeral, hnumeral, hvalue⟩
    obtain ⟨before, rest, hfirst⟩ := numeralBefore?_eq_some_iff.1 hnumeral
    exact ⟨before, numeral, rest, hfirst,
      (numeralBelow?_eq_some_iff hfirst.1.nonempty).1 hvalue⟩

theorem countOf_failed_iff {text : String} {n : Nat} :
    countOf " failed" text = n ∧ 0 < n ↔ FirstCount " failed".toList text.toList n ∧ 0 < n := by
  have hword : " failed".toList = ' ' :: "failed".toList := rfl
  rw [hword, firstCount_iff, ← hword]
  unfold countOf
  cases (numeralBefore? " failed".toList text.toList).bind (numeralBelow? (Nat.pow 2 32)) with
  | none =>
      simp only [Option.getD_none, reduceCtorEq, false_and, iff_false, not_and, Nat.not_lt]
      rintro rfl
      exact Nat.le_refl 0
  | some m => rw [Option.getD_some, Option.some.injEq]

namespace ToolOutput

theorem asTestRun_of_failed {command : String} {o : ToolOutput}
    (h : 0 < countOf " failed" o.stdout) :
    o.asTestRun command = .error (.testsFailed (countOf " failed" o.stdout) o.combined) :=
  if_pos h

theorem asTestRun_of_not_failed {command : String} {o : ToolOutput}
    (h : ¬0 < countOf " failed" o.stdout) :
    o.asTestRun command =
      if o.succeeded then .ok (.ofOutput o.stdout) else .error (o.exitFailure command) := by
  have hrun : o.asTestRun command =
      if !o.succeeded then .error (o.exitFailure command) else .ok (.ofOutput o.stdout) := if_neg h
  rw [hrun]
  cases o.succeeded <;> rfl

/-- A test run fails if the tool does not exit well or the first count of failed tests is one. No
other count is looked at, and of a first count that is no number below `2 ^ 32` nothing is left. -/
theorem test_run_fails_iff (command : String) (o : ToolOutput) :
    (∀ n, o.asTestRun command = .error (.testsFailed n o.combined) ↔
      FirstCount " failed".toList o.stdout.toList n ∧ 0 < n) ∧
    ((∃ failure, o.asTestRun command = .error failure) ↔
      o.succeeded = false ∨ ∃ n, FirstCount " failed".toList o.stdout.toList n ∧ 0 < n) := by
  simp only [← countOf_failed_iff]
  by_cases hfailed : 0 < countOf " failed" o.stdout
  · have hrun : o.asTestRun command = .error (.testsFailed _ o.combined) :=
      asTestRun_of_failed hfailed
    refine ⟨fun n => ?_, iff_of_true ⟨_, hrun⟩ (.inr ⟨_, rfl, hfailed⟩)⟩
    rw [hrun, Except.error.injEq, ToolFailure.testsFailed.injEq]
    exact ⟨fun h => ⟨h.1, h.1 ▸ hfailed⟩, fun h => ⟨h.1, rfl⟩⟩
  · have hnone (n : Nat) : ¬(countOf " failed" o.stdout = n ∧ 0 < n) := by
      rintro ⟨rfl, h⟩
      exact hfailed h
    rw [asTestRun_of_not_failed hfailed]
    cases hs : o.succeeded with
    | true =>
        refine ⟨fun n => iff_of_false nofun (hnone n), iff_of_false ?_ ?_⟩
        · rintro ⟨failure, h⟩
          cases h
        · rintro (h | ⟨n, h⟩)
          · cases h
          · exact hnone n h
    | false => exact ⟨fun n => iff_of_false nofun (hnone n), iff_of_true ⟨_, rfl⟩ (.inl rfl)⟩

/-- A module without failures hides the failures of the next, and too many failures are none. -/
theorem failed_tests_unnoticed :
    (Counted " failed".toList "0 failed\n3 failed".toList "0 failed\n".toList ['3']
        " failed".toList ∧ 0 < digitsValue 0 ['3'] ∧
      asTestRun "gradle" ⟨true, "0 failed\n3 failed", ""⟩ = .ok ⟨0, 0⟩) ∧
    Counted " failed".toList "4294967296 failed".toList [] "4294967296".toList
        " failed".toList ∧ 0 < digitsValue 0 "4294967296".toList ∧
      asTestRun "gradle" ⟨true, "4294967296 failed", ""⟩ = .ok ⟨0, 0⟩ := by
  have hlast : "0 failed\n".toList.getLast? = some '\n' := by decide
  have hsecond : Counted " failed".toList "0 failed\n3 failed".toList "0 failed\n".toList ['3']
      " failed".toList := by
    refine ⟨by decide, by decide, List.all_eq_true.1 (by decide), ?_, by decide⟩
    intro c hc
    rw [hlast] at hc
    cases hc
    decide
  have hlarge : Counted " failed".toList "4294967296 failed".toList [] "4294967296".toList
      " failed".toList := by
    refine ⟨by decide, by decide, List.all_eq_true.1 (by decide), ?_, by decide⟩
    intro c hc
    cases hc
  exact ⟨⟨hsecond, by decide, by decide⟩, hlarge, by decide, by decide⟩

end ToolOutput

end TestForge
