import TestForge.Proofs.Text.Blank

/-!
# Text without white space around it

What trimming leaves of a text is either nothing or begins and ends in a character that is not white
space. Such an end is handed on to every suffix of the text.
-/

namespace TestForge.Text

/-- Text that ends in a character that is not white space. -/
def EndsTight (s : List Char) : Prop :=
  ∃ c, s.getLast? = some c ∧ isBlank c = false

/-- Text that is not empty and has no white space in front or behind. -/
structure Tight (s : List Char) : Prop where
  starts : ∃ c, s.head? = some c ∧ isBlank c = false
  ends : EndsTight s

variable {s t : List Char}

/-- A word has no white space anywhere. -/
theorem tight_word (hne : s ≠ []) (h : ∀ c ∈ s, isWordChar c = true) : Tight s where
  starts := by
    obtain ⟨c, rest, rfl⟩ := List.exists_cons_of_ne_nil hne
    exact ⟨c, rfl, isBlank_of_isWordChar (h c List.mem_cons_self)⟩
  ends := ⟨s.getLast hne, List.getLast?_eq_some_getLast hne,
    isBlank_of_isWordChar (h _ (List.getLast_mem hne))⟩

/-! ## Trimming -/

theorem isBlank_of_getLast?_trimEnd {c : Char} (h : (trimEnd s).getLast? = some c) :
    isBlank c = false := by
  rw [trimEnd, List.getLast?_reverse] at h
  have hhead := List.head?_dropWhile_not isBlank s.reverse
  rw [h] at hhead
  exact hhead

theorem tight_trimEnd_cons {c : Char} (hc : isBlank c = false) (s : List Char) :
    Tight (trimEnd (c :: s)) where
  starts := ⟨c, by rw [trimEnd_cons hc, List.head?_cons], hc⟩
  ends := by
    have hne : trimEnd (c :: s) ≠ [] := by
      rw [trimEnd_cons hc]
      exact List.cons_ne_nil _ _
    have hlast := List.getLast?_eq_some_getLast hne
    exact ⟨_, hlast, isBlank_of_getLast?_trimEnd hlast⟩

theorem tight_trim_of_trimStart (h : trimStart s ≠ []) : Tight (trim s) := by
  have hhead := List.head?_dropWhile_not isBlank s
  rw [trim]
  rw [trimStart] at h ⊢
  obtain ⟨c, rest, hs⟩ := List.exists_cons_of_ne_nil h
  rw [hs] at hhead ⊢
  exact tight_trimEnd_cons hhead rest

/-- What trimming leaves is tight, if it leaves anything. -/
theorem tight_trim (h : trim s ≠ []) : Tight (trim s) := by
  refine tight_trim_of_trimStart fun hnil => h ?_
  rw [trim, hnil]
  rfl

/-- A tight text is still tight if it is cut where white space stands and trimmed there. -/
theorem Tight.trimEnd_of_prefix {c : Char} (h : Tight (s ++ c :: t)) (hc : isBlank c = true) :
    Tight (trimEnd s) := by
  obtain ⟨d, hd, hblank⟩ := h.starts
  cases s with
  | nil =>
      rw [List.nil_append, List.head?_cons, Option.some.injEq] at hd
      rw [← hd, hc] at hblank
      cases hblank
  | cons e s =>
      rw [List.cons_append, List.head?_cons, Option.some.injEq] at hd
      rw [hd]
      exact tight_trimEnd_cons hblank s

/-! ## Ends of texts -/

theorem EndsTight.of_suffix (h : EndsTight s) (hst : t <:+ s) (hne : t ≠ []) : EndsTight t := by
  obtain ⟨c, hc, hblank⟩ := h
  obtain ⟨front, rfl⟩ := hst
  rw [List.getLast?_append, List.getLast?_eq_some_getLast hne, Option.some_or] at hc
  exact ⟨c, (List.getLast?_eq_some_getLast hne).trans hc, hblank⟩

theorem EndsTight.trimStart_ne_nil (h : EndsTight s) : trimStart s ≠ [] := by
  obtain ⟨c, hc, hblank⟩ := h
  intro hnil
  have hall := List.dropWhile_eq_nil_iff.1 hnil c (List.mem_of_getLast? hc)
  rw [hblank] at hall
  cases hall

theorem EndsTight.trimStart (h : EndsTight s) : EndsTight (trimStart s) :=
  h.of_suffix (List.dropWhile_suffix isBlank) h.trimStart_ne_nil

theorem EndsTight.tight_trim (h : EndsTight s) : Tight (trim s) :=
  tight_trim_of_trimStart h.trimStart_ne_nil

end TestForge.Text
