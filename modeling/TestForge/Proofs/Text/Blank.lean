import TestForge.Proofs.Text.Words

/-!
# Laws of trimming and of lines
-/

namespace TestForge.Text

/-! ## Trimming -/

@[simp] theorem trimStart_cons_blank {c : Char} (hc : isBlank c = true) (s : List Char) :
    trimStart (c :: s) = trimStart s := by
  simp [trimStart, hc]

@[simp] theorem trimStart_cons {c : Char} (hc : isBlank c = false) (s : List Char) :
    trimStart (c :: s) = c :: s := by
  simp [trimStart, hc]

/-- White space in front ends where the text ends, if something else follows. -/
theorem trimStart_append (s : List Char) {t : List Char} (h : t.head?.any isBlank = false) :
    trimStart (s ++ t) = trimStart s ++ t := by
  rw [trimStart, List.dropWhile_append]
  split
  · rename_i he
    rw [List.isEmpty_iff] at he
    rw [trimStart, he, List.nil_append]
    cases t with
    | nil => rfl
    | cons c t => exact trimStart_cons (by simpa using h) t
  · rfl

theorem trimEnd_append_cons {c : Char} (hc : isBlank c = false) (s t : List Char) :
    trimEnd (s ++ c :: t) = s ++ c :: trimEnd t := by
  have hr : (s ++ c :: t).reverse = t.reverse ++ c :: s.reverse := by simp
  rw [trimEnd, hr, List.dropWhile_append]
  cases hd : t.reverse.dropWhile isBlank with
  | nil => simp [trimEnd, hd, hc]
  | cons d rest => simp [trimEnd, hd]

theorem trimEnd_cons {c : Char} (hc : isBlank c = false) (s : List Char) :
    trimEnd (c :: s) = c :: trimEnd s :=
  trimEnd_append_cons hc [] s

theorem trim_cons_blank {c : Char} (hc : isBlank c = true) (s : List Char) :
    trim (c :: s) = trim s := by
  rw [trim, trimStart_cons_blank hc, trim]

theorem trimEnd_concat_blank {c : Char} (hc : isBlank c = true) (s : List Char) :
    trimEnd (s ++ [c]) = trimEnd s := by
  simp [trimEnd, hc]

theorem trim_concat_blank {c : Char} (hc : isBlank c = true) (s : List Char) :
    trim (s ++ [c]) = trim s := by
  rw [trim, trimStart, List.dropWhile_append]
  cases hd : s.dropWhile isBlank with
  | nil => simp [trim, trimStart, hd, hc]
  | cons d rest =>
      simp only [List.isEmpty_cons, Bool.false_eq_true, ↓reduceIte, trimEnd_concat_blank hc]
      rw [trim, trimStart, hd]

theorem prefix_trimEnd (s : List Char) : trimEnd s <+: s := by
  have h := List.reverse_prefix.2 (List.dropWhile_suffix isBlank (l := s.reverse))
  rwa [List.reverse_reverse] at h

theorem trimEnd_length (s : List Char) : (trimEnd s).length ≤ s.length :=
  (prefix_trimEnd s).length_le

theorem trimStart_of_trim {s : List Char} (h : trim s = s) : trimStart s = s := by
  have hs : trimStart s <:+ s := List.dropWhile_suffix isBlank
  have hl := congrArg List.length h
  rw [trim] at hl
  have hle := trimEnd_length (trimStart s)
  exact hs.eq_of_length (Nat.le_antisymm hs.length_le (by omega))

theorem isBlank_of_trim_cons {c : Char} {s : List Char} (h : trim (c :: s) = c :: s) :
    isBlank c = false := by
  have hs := trimStart_of_trim h
  cases hc : isBlank c with
  | false => rfl
  | true =>
      have hle := (List.dropWhile_suffix isBlank (l := s)).length_le
      rw [trimStart_cons_blank hc] at hs
      rw [← trimStart, hs, List.length_cons] at hle
      omega

theorem trimEnd_of_trim {s : List Char} (h : trim s = s) : trimEnd s = s := by
  have hs := trimStart_of_trim h
  rwa [trim, hs] at h

/-- Where a trimmed text stands at the end, there is nothing to trim. -/
theorem trimEnd_append_of_trim {s : List Char} (h : trim s = s) (hne : s ≠ [])
    (front : List Char) : trimEnd (front ++ s) = front ++ s := by
  have ht := trimEnd_of_trim h
  obtain ⟨init, last, hl⟩ := s.eq_nil_or_concat.resolve_left hne
  have hlast : isBlank last = false := by
    cases hb : isBlank last with
    | false => rfl
    | true =>
        have hlen := trimEnd_length init
        rw [hl, List.concat_eq_append, trimEnd_concat_blank hb] at ht
        have := congrArg List.length ht
        simp at this
        omega
  rw [hl, List.concat_eq_append, ← List.append_assoc]
  exact trimEnd_append_cons hlast (front ++ init) []

theorem trim_word {s : List Char} (h : ∀ c ∈ s, isWordChar c = true) : trim s = s := by
  have hb : ∀ c ∈ s, isBlank c = false := fun c hc => isBlank_of_isWordChar (h c hc)
  have hw : ∀ s : List Char, (∀ c ∈ s, isBlank c = false) → s.dropWhile isBlank = s := by
    intro s hs
    cases s with
    | nil => rfl
    | cons c s => simp [hs c (by simp)]
  rw [trim, trimStart, hw s hb, trimEnd, hw s.reverse fun c hc => hb c (by simpa using hc),
    List.reverse_reverse]

/-! ## White space between words -/

/-- White space that may be left out. -/
structure Gap where
  text : List Char
  blank : isAllBlank text = true

/-- White space that keeps words apart. -/
structure Separator extends Gap where
  ne : text ≠ []

def Gap.empty : Gap :=
  ⟨[], rfl⟩

def Separator.space : Separator :=
  ⟨⟨[' '], rfl⟩, List.cons_ne_nil ' ' []⟩

@[simp] theorem trimStart_gap (g : Gap) (s : List Char) :
    trimStart (g.text ++ s) = trimStart s := by
  have hb : ∀ c ∈ g.text, isBlank c = true := List.all_eq_true.1 g.blank
  rw [trimStart, List.dropWhile_append_of_pos hb, trimStart]

/-- A gap and what follows it begin with white space, or with what follows it. -/
theorem Gap.head?_append (g : Gap) (s : List Char) {c : Char}
    (h : (g.text ++ s).head? = some c) : isBlank c = true ∨ s.head? = some c := by
  cases hg : g.text with
  | nil =>
      rw [hg] at h
      exact Or.inr h
  | cons d rest =>
      have hb : ∀ c ∈ g.text, isBlank c = true := List.all_eq_true.1 g.blank
      rw [hg] at h hb
      cases h
      exact Or.inl (hb c List.mem_cons_self)

theorem Separator.head?_append (g : Separator) (s : List Char) :
    ∃ c, (g.text ++ s).head? = some c ∧ isBlank c = true := by
  obtain ⟨c, rest, hg⟩ := List.exists_cons_of_ne_nil g.ne
  have hb : ∀ c ∈ g.text, isBlank c = true := List.all_eq_true.1 g.blank
  rw [hg] at hb ⊢
  exact ⟨c, rfl, hb c List.mem_cons_self⟩

/-! ## Lines -/

theorem cutLines_append_feed {l : List Char} (h : '\n' ∉ l) (s : List Char) :
    cutLines (l ++ '\n' :: s) = (l, (cutLines s).1 :: (cutLines s).2) := by
  induction l with
  | nil => simp [cutLines]
  | cons c l ih =>
      simp only [List.mem_cons, not_or] at h
      simp [cutLines, ih h.2, Ne.symm h.1]

theorem lines_append_feed {l : List Char} (h : '\n' ∉ l) (s : List Char) :
    lines (l ++ '\n' :: s) = dropReturn l :: lines s := by
  simp only [lines, cutLines_append_feed h, List.dropLast_cons_cons, List.map_cons,
    List.getLast?_cons_cons]
  split <;> rfl

theorem cutLines_first (s : List Char) :
    (cutLines s).1 = s ∨ ∃ rest, s = (cutLines s).1 ++ '\n' :: rest := by
  induction s with
  | nil => exact Or.inl rfl
  | cons c s ih =>
      by_cases hc : c = '\n'
      · exact Or.inr ⟨s, by simp [cutLines, hc]⟩
      · rcases ih with h | ⟨rest, h⟩
        · exact Or.inl (by simp [cutLines, hc, h])
        · refine Or.inr ⟨rest, ?_⟩
          simp only [cutLines, hc, ↓reduceIte, List.cons_append, List.cons.injEq, true_and]
          exact h

variable {keyword : List Char}

theorem endsNoWord_cutLines {s : List Char} (h : endsNoWord keyword s = true) :
    ∀ line ∈ (cutLines s).1 :: (cutLines s).2, endsNoWord keyword line = true := by
  induction s with
  | nil => simp [cutLines, endsNoWord]
  | cons c s ih =>
      have hs := ih (endsNoWord_of_suffix (s := [c]) h)
      intro line hl
      rcases List.mem_cons.1 hl with rfl | hl
      · rcases cutLines_first (c :: s) with hf | ⟨rest, hf⟩
        · rwa [hf]
        · rw [hf] at h
          exact endsNoWord_before (by decide) h
      · by_cases hc : c = '\n'
        · simp only [cutLines, hc, ↓reduceIte] at hl
          exact hs line hl
        · simp only [cutLines, hc, ↓reduceIte] at hl
          exact hs line (List.mem_cons_of_mem _ hl)

theorem endsNoWord_dropReturn {line : List Char} (h : endsNoWord keyword line = true) :
    endsNoWord keyword (dropReturn line) = true := by
  unfold dropReturn
  split
  · rename_i hr
    obtain ⟨front, rfl⟩ := List.getLast?_eq_some_iff.1 hr
    rw [List.dropLast_concat]
    exact endsNoWord_before (by decide) h
  · exact h

/-- What holds of all words of a text holds of the words of its lines. -/
theorem endsNoWord_lines {s : List Char} (h : endsNoWord keyword s = true) :
    ∀ line ∈ lines s, endsNoWord keyword line = true := by
  have hall := endsNoWord_cutLines h
  have hended : ∀ line ∈ ((cutLines s).1 :: (cutLines s).2).dropLast.map dropReturn,
      endsNoWord keyword line = true := by
    intro line hl
    obtain ⟨l, hm, rfl⟩ := List.mem_map.1 hl
    exact endsNoWord_dropReturn (hall l (List.dropLast_subset _ hm))
  intro line hl
  simp only [lines] at hl
  split at hl
  · exact hended line hl
  · rename_i last _ hlast
    rcases List.mem_append.1 hl with hl | hl
    · exact hended line hl
    · rw [List.mem_singleton.1 hl]
      exact hall last (List.mem_of_getLast? hlast)
  · exact hended line hl

end TestForge.Text
