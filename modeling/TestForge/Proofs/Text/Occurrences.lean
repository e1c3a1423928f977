import Mathlib.Data.List.Infix
import TestForge.Text.Search

/-!
# Where a text occurs

An occurrence in two texts one behind the other lies in one of them or reaches over the seam. None
does if no end of the text that is looked for begins the second text, and so none reaches over a
character that the text does not have.
-/

namespace TestForge.Text

variable {needle s t : List Char}

theorem occursIn_iff : occursIn needle s = true ↔ needle <:+: s := by
  induction s with
  | nil => simp [occursIn]
  | cons c s ih =>
      rw [occursIn, Bool.or_eq_true, List.isPrefixOf_iff_prefix, ih, List.infix_cons_iff]

/-- An occurrence that cannot reach over the seam lies on one side of it. -/
theorem infix_append_of_apart (h : ∀ back ∈ needle.tails, back <+: t → back = []) :
    needle <:+: s ++ t ↔ needle <:+: s ∨ needle <:+: t := by
  constructor
  · intro hi
    rcases List.infix_append_iff.1 hi with hs | ht | ⟨front, back, rfl, hfront, hback⟩
    · exact .inl hs
    · exact .inr ht
    · have hnil := h back ((List.mem_tails _ _).2 (List.suffix_append front back)) hback
      rw [hnil, List.append_nil]
      exact .inl hfront.isInfix
  · rintro (hs | ht)
    · exact hs.trans (List.prefix_append s t).isInfix
    · exact ht.trans (List.suffix_append s t).isInfix

/-- A character that a text does not have keeps what stands before it apart from the rest. -/
theorem infix_append_cons {c : Char} (h : c ∉ needle) (hne : needle ≠ []) :
    needle <:+: s ++ c :: t ↔ needle <:+: s ∨ needle <:+: t := by
  have hapart : ∀ back ∈ needle.tails, back <+: c :: t → back = [] := by
    intro back hsuffix hprefix
    cases back with
    | nil => rfl
    | cons d back =>
        rw [(List.cons_prefix_cons.1 hprefix).1] at hsuffix
        exact absurd (((List.mem_tails _ _).1 hsuffix).subset List.mem_cons_self) h
  rw [infix_append_of_apart hapart, List.infix_cons_iff]
  refine or_congr_right (or_iff_right fun hprefix => ?_)
  exact hne (hapart needle ((List.mem_tails _ _).2 (List.suffix_refl needle)) hprefix)

end TestForge.Text
