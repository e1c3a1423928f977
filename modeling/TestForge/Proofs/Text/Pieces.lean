import Mathlib.Logic.Function.Basic
import TestForge.Text.Search

/-!
# Pieces of paths

Texts that are joined at a slash fall into the pieces of both, no piece has a slash in it, and the
pieces make up the text. The last slash is the one behind which no other follows.
-/

namespace TestForge.Text

/-! ## Splitting -/

theorem splitAtChar_ne_nil (sep : Char) (s : List Char) : splitAtChar sep s ≠ [] := by
  cases s with
  | nil => simp [splitAtChar]
  | cons c s =>
      simp only [splitAtChar]
      split
      · simp
      · split <;> simp

theorem splitAtChar_append (sep : Char) (s t : List Char) :
    splitAtChar sep (s ++ sep :: t) = splitAtChar sep s ++ splitAtChar sep t := by
  have hsep : ∀ t, splitAtChar sep (sep :: t) = [] :: splitAtChar sep t := by
    intro t
    simp only [splitAtChar]
    cases ht : splitAtChar sep t with
    | nil => exact absurd ht (splitAtChar_ne_nil sep t)
    | cons piece pieces => simp
  induction s with
  | nil => rw [List.nil_append, hsep]; rfl
  | cons c s ih =>
      simp only [List.cons_append, splitAtChar, ih]
      cases hs : splitAtChar sep s with
      | nil => exact absurd hs (splitAtChar_ne_nil sep s)
      | cons piece pieces =>
          simp only [List.cons_append]
          split <;> rfl

theorem splitAtChar_eq_singleton {sep : Char} {s : List Char} (h : sep ∉ s) :
    splitAtChar sep s = [s] := by
  induction s with
  | nil => rfl
  | cons c s ih =>
      simp only [List.mem_cons, not_or] at h
      simp [splitAtChar, ih h.2, Ne.symm h.1]

theorem notMem_of_mem_splitAtChar {sep : Char} {s piece : List Char}
    (h : piece ∈ splitAtChar sep s) : sep ∉ piece := by
  induction s generalizing piece with
  | nil =>
      simp only [splitAtChar, List.mem_singleton] at h
      simp [h]
  | cons c s ih =>
      simp only [splitAtChar] at h
      cases hs : splitAtChar sep s with
      | nil => exact absurd hs (splitAtChar_ne_nil sep s)
      | cons first rest =>
          simp only [hs] at h ih
          split at h
          · rcases List.mem_cons.1 h with rfl | h
            · simp
            · exact ih h
          · rename_i hc
            rcases List.mem_cons.1 h with rfl | h
            · simpa [Ne.symm hc] using ih List.mem_cons_self
            · exact ih (List.mem_cons_of_mem _ h)

/-! ## Joining -/

theorem joinWith_append (sep : List Char) {front back : List (List Char)} (hf : front ≠ [])
    (hb : back ≠ []) :
    joinWith sep (front ++ back) = joinWith sep front ++ sep ++ joinWith sep back := by
  induction front with
  | nil => exact absurd rfl hf
  | cons piece front ih =>
      cases front with
      | nil =>
          cases back with
          | nil => exact absurd rfl hb
          | cons next back => rfl
      | cons next front =>
          have hrest := ih (List.cons_ne_nil next front)
          simp only [List.cons_append, joinWith] at hrest ⊢
          rw [hrest]
          simp only [List.append_assoc]

/-- Pieces that are joined again are the text. -/
theorem joinWith_splitAtChar (sep : Char) (s : List Char) :
    joinWith [sep] (splitAtChar sep s) = s := by
  induction s with
  | nil => rfl
  | cons c s ih =>
      simp only [splitAtChar]
      cases hs : splitAtChar sep s with
      | nil => exact absurd hs (splitAtChar_ne_nil sep s)
      | cons piece pieces =>
          rw [hs] at ih
          simp only
          split
          · rename_i hc
            simp only [joinWith, ih, hc]
            rfl
          · cases pieces with
            | nil => simpa [joinWith] using ih
            | cons next pieces => simpa [joinWith] using ih

/-- Text that is joined from pieces falls into these pieces. -/
theorem splitAtChar_joinWith {sep : Char} {pieces : List (List Char)} (hne : pieces ≠ [])
    (h : ∀ piece ∈ pieces, sep ∉ piece) : splitAtChar sep (joinWith [sep] pieces) = pieces := by
  induction pieces with
  | nil => exact absurd rfl hne
  | cons piece pieces ih =>
      have hpiece := splitAtChar_eq_singleton (h piece List.mem_cons_self)
      cases pieces with
      | nil => exact hpiece
      | cons next pieces =>
          have hrest := ih (List.cons_ne_nil _ _) fun p hp => h p (List.mem_cons_of_mem _ hp)
          rw [joinWith, List.append_assoc, List.singleton_append, splitAtChar_append, hpiece, hrest]
          · rfl
          · exact List.cons_ne_nil _ _

theorem splitAtChar_injective (sep : Char) : Function.Injective (splitAtChar sep) :=
  Function.LeftInverse.injective (joinWith_splitAtChar sep)

/-- A text between two separators is a piece that is neither the first nor the last. -/
theorem infix_iff_splitAtChar {sep : Char} {name s : List Char} (h : sep ∉ name) :
    sep :: name ++ [sep] <:+: s ↔
      ∃ front back, front ≠ [] ∧ back ≠ [] ∧ splitAtChar sep s = front ++ name :: back := by
  constructor
  · rintro ⟨a, b, rfl⟩
    refine ⟨splitAtChar sep a, splitAtChar sep b, splitAtChar_ne_nil sep a,
      splitAtChar_ne_nil sep b, ?_⟩
    have hs : a ++ (sep :: name ++ [sep]) ++ b = a ++ sep :: (name ++ sep :: b) := by simp
    rw [hs, splitAtChar_append, splitAtChar_append, splitAtChar_eq_singleton h]
    rfl
  · rintro ⟨front, back, hf, hb, hs⟩
    refine ⟨joinWith [sep] front, joinWith [sep] back, ?_⟩
    have hback : joinWith [sep] (name :: back) = name ++ [sep] ++ joinWith [sep] back :=
      joinWith_append [sep] (List.cons_ne_nil name []) hb
    rw [← joinWith_splitAtChar sep s, hs, joinWith_append [sep] hf (List.cons_ne_nil name back),
      hback]
    simp

/-! ## The last occurrence -/

theorem cutAfterLast?_eq_none {stop : Char} {s : List Char} (h : stop ∉ s) :
    cutAfterLast? stop s = none := by
  induction s with
  | nil => rfl
  | cons c s ih =>
      simp only [List.mem_cons, not_or] at h
      simp [cutAfterLast?, ih h.2, Ne.symm h.1]

theorem cutAfterLast?_append (before : List Char) {stop : Char} {rest : List Char}
    (h : stop ∉ rest) :
    cutAfterLast? stop (before ++ stop :: rest) = some (before ++ [stop], rest) := by
  induction before with
  | nil => simp [cutAfterLast?, cutAfterLast?_eq_none h]
  | cons c before ih => simp [cutAfterLast?, ih]

theorem eq_append_of_cutAfterLast? {stop : Char} {s before rest : List Char}
    (h : cutAfterLast? stop s = some (before, rest)) : s = before ++ rest := by
  induction s generalizing before with
  | nil => simp [cutAfterLast?] at h
  | cons c s ih =>
      simp only [cutAfterLast?] at h
      split at h
      · rename_i b r hr
        cases h
        rw [ih hr]
        rfl
      · split at h
        · cases h
          rfl
        · cases h

end TestForge.Text
