import Mathlib.Data.List.TakeWhile
import TestForge.Text.Blank
import TestForge.Text.Search
import TestForge.Text.WordChar

/-!
# Keywords and the words of a text

A search for a keyword passes over a text if no word of the text ends in that keyword. The property
survives joining texts at a character that belongs to no word.
-/

namespace TestForge.Text

/-! ## Beginnings -/

theorem after?_append (p r : List Char) : after? p (p ++ r) = some r := by
  induction p with
  | nil => simp [after?]
  | cons c p ih => simpa [after?] using ih

theorem after?_eq_some_iff {p s r : List Char} : after? p s = some r ↔ s = p ++ r :=
  ⟨eq_append_of_after?, fun h => h ▸ after?_append p r⟩

theorem span_name {isPart : Char → Bool} {name rest : List Char}
    (hn : ∀ c ∈ name, isPart c = true) (hr : ∀ c, rest.head? = some c → isPart c = false) :
    (name ++ rest).takeWhile isPart = name ∧ (name ++ rest).dropWhile isPart = rest := by
  have ht : rest.takeWhile isPart = [] ∧ rest.dropWhile isPart = rest := by
    cases rest with
    | nil => exact ⟨rfl, rfl⟩
    | cons c rest => simp [hr c rfl]
  rw [List.takeWhile_append_of_pos hn, List.dropWhile_append_of_pos hn, ht.1, ht.2]
  simp

theorem eq_append_of_cutAt? {needle s before rest : List Char}
    (h : cutAt? needle s = some (before, rest)) : s = before ++ needle ++ rest := by
  induction s generalizing before with
  | nil =>
      cases needle with
      | nil => simp_all [cutAt?]
      | cons c cs => simp [cutAt?] at h
  | cons c cs ih =>
      simp only [cutAt?] at h
      split at h
      · rename_i rest' ha
        cases h
        exact eq_append_of_after? ha
      · obtain ⟨⟨b, r⟩, hb, he⟩ := Option.map_eq_some_iff.1 h
        cases he
        rw [ih hb]
        rfl

/-- What is cut off in front ends before any occurrence does. -/
theorem length_le_of_cutAt? {needle s before rest a b : List Char}
    (h : cutAt? needle s = some (before, rest)) (hs : s = a ++ needle ++ b) :
    before.length ≤ a.length := by
  induction s generalizing before a with
  | nil =>
      cases needle with
      | nil =>
          cases h
          exact Nat.zero_le _
      | cons c cs => simp [cutAt?] at h
  | cons c cs ih =>
      simp only [cutAt?] at h
      split at h
      · cases h
        exact Nat.zero_le _
      · rename_i hn
        obtain ⟨⟨front, r⟩, hf, he⟩ := Option.map_eq_some_iff.1 h
        cases he
        cases a with
        | nil =>
            rw [hs, List.nil_append, after?_append] at hn
            cases hn
        | cons a' a =>
            have hcs : cs = a ++ needle ++ b := by
              have he := congrArg List.tail hs
              simpa using he
            exact Nat.succ_le_succ (ih hf hcs)

theorem cutAt?_ne_none {needle s : List Char} (h : needle <:+: s) : cutAt? needle s ≠ none := by
  induction s with
  | nil =>
      obtain rfl := List.infix_nil.1 h
      exact Option.some_ne_none _
  | cons c s ih =>
      simp only [cutAt?]
      split
      · exact Option.some_ne_none _
      · rename_i hn
        rcases List.infix_cons_iff.1 h with ⟨rest, hp⟩ | hi
        · rw [← hp, after?_append] at hn
          cases hn
        · simpa using ih hi

/-! ## White space and words -/

def blankCodes : List Nat :=
  [0x09, 0x0A, 0x0B, 0x0C, 0x0D, 0x20, 0x85, 0xA0, 0x1680, 0x2000, 0x2001, 0x2002, 0x2003, 0x2004,
    0x2005, 0x2006, 0x2007, 0x2008, 0x2009, 0x200A, 0x2028, 0x2029, 0x202F, 0x205F, 0x3000]

theorem mem_blankCodes {c : Char} (h : isBlank c = true) : c.toNat ∈ blankCodes := by
  simp only [isBlank, Bool.or_eq_true, Bool.and_eq_true, beq_iff_eq, decide_eq_true_eq] at h
  simp only [blankCodes, List.mem_cons, List.not_mem_nil, or_false]
  omega

/-- White space belongs to no word. -/
theorem isWordChar_of_isBlank {c : Char} (h : isBlank c = true) : isWordChar c = false := by
  have hascii : ∀ n ∈ blankCodes, n < 128 → isAsciiWord (Char.ofNat n) = false := by decide
  have hranges : ∀ n ∈ blankCodes, inRanges n wordRanges = false := by decide +kernel
  have hm := mem_blankCodes h
  unfold isWordChar
  split
  · rename_i hlt
    have hc := hascii c.toNat hm hlt
    rwa [Char.ofNat_toNat] at hc
  · exact hranges c.toNat hm

theorem isBlank_of_isWordChar {c : Char} (h : isWordChar c = true) : isBlank c = false := by
  cases hb : isBlank c with
  | false => rfl
  | true => simp [isWordChar_of_isBlank hb] at h

theorem ne_of_isWordChar {c stop : Char} (hc : isWordChar c = true)
    (hs : isWordChar stop = false) : c ≠ stop := by
  rintro rfl
  rw [hc] at hs
  cases hs

/-! ## Keywords that end no word -/

/-- A word that can be searched for. -/
structure Keyword (word : List Char) : Prop where
  ne : word ≠ []
  wordChars : ∀ c ∈ word, isWordChar c = true

def startsInWord (s : List Char) : Bool :=
  s.head?.any isWordChar

/-- No word of a text ends in the keyword: where the keyword occurs, the word goes on. -/
def endsNoWord (keyword : List Char) : List Char → Bool
  | [] => true
  | c :: cs => (after? keyword (c :: cs)).all startsInWord && endsNoWord keyword cs

variable {keyword : List Char}

/-- A single word need not end in the keyword. -/
theorem endsNoWord_of_word {s : List Char} (hw : ∀ c ∈ s, isWordChar c = true)
    (he : ¬keyword <:+ s) : endsNoWord keyword s = true := by
  induction s with
  | nil => rfl
  | cons c s ih =>
      have hs := ih (fun d hd => hw d (List.mem_cons_of_mem _ hd))
        (fun h => he (h.trans (List.suffix_cons c s)))
      simp only [endsNoWord, hs, Bool.and_true]
      cases ha : after? keyword (c :: s) with
      | none => rfl
      | some rest =>
          have hsplit := eq_append_of_after? ha
          cases rest with
          | nil =>
              rw [List.append_nil] at hsplit
              exact absurd (hsplit ▸ List.suffix_refl _) he
          | cons d rest =>
              have hd := hw d (by simp [hsplit])
              simpa [startsInWord] using hd

theorem startsInWord_of_endsNoWord {s rest : List Char} (h : endsNoWord keyword s = true)
    (hk : Keyword keyword) (ha : after? keyword s = some rest) : startsInWord rest = true := by
  cases s with
  | nil =>
      have hn := eq_append_of_after? ha
      have hne := hk.ne
      simp_all
  | cons c cs =>
      simp only [endsNoWord, ha, Option.all_some, Bool.and_eq_true] at h
      exact h.1

theorem endsNoWord_of_suffix {s t : List Char} (h : endsNoWord keyword (s ++ t) = true) :
    endsNoWord keyword t = true := by
  induction s with
  | nil => exact h
  | cons c s ih =>
      simp only [List.cons_append, endsNoWord, Bool.and_eq_true] at h
      exact ih h.2

/-- An occurrence cannot reach over a character that belongs to no word. -/
theorem startsInWord_of_append {s t rest : List Char} {c : Char} (hk : Keyword keyword)
    (hs : endsNoWord keyword s = true) (hc : isWordChar c = false)
    (ha : after? keyword (s ++ c :: t) = some rest) : startsInWord rest = true := by
  rcases List.append_eq_append_iff.1 (eq_append_of_after? ha) with ⟨m, hm, hr⟩ | ⟨m, hm, hr⟩
  · cases m with
    | nil =>
        have hend : after? keyword s = some [] := by
          rw [after?_eq_some_iff]
          simpa using hm.symm
        have hw := startsInWord_of_endsNoWord hs hk hend
        simp [startsInWord] at hw
    | cons d m =>
        simp only [List.cons_append, List.cons.injEq] at hr
        have hd := hk.wordChars c (by simp [hm, hr.1])
        simp [hc] at hd
  · have hw := startsInWord_of_endsNoWord hs hk (after?_eq_some_iff.2 hm)
    subst hr
    cases m with
    | nil => simp [startsInWord] at hw
    | cons d m => simpa [startsInWord] using hw

/-- Texts are joined at a character that belongs to no word. -/
theorem endsNoWord_append {s t : List Char} {c : Char} (hk : Keyword keyword)
    (hc : isWordChar c = false) (hs : endsNoWord keyword s = true)
    (ht : endsNoWord keyword t = true) : endsNoWord keyword (s ++ c :: t) = true := by
  have hall : ∀ s, endsNoWord keyword s = true →
      (after? keyword (s ++ c :: t)).all startsInWord = true := by
    intro s hs
    cases ha : after? keyword (s ++ c :: t) with
    | none => rfl
    | some rest => simpa using startsInWord_of_append hk hs hc ha
  induction s with
  | nil => simpa [endsNoWord, ht] using hall [] rfl
  | cons d s ih =>
      have hd := hall (d :: s) hs
      simp only [endsNoWord, Bool.and_eq_true] at hs
      simp only [List.cons_append, endsNoWord, Bool.and_eq_true]
      exact ⟨hd, ih hs.2⟩

/-- Text without words. -/
theorem endsNoWord_of_noWord {s : List Char} (hk : Keyword keyword)
    (hs : s.any isWordChar = false) : endsNoWord keyword s = true := by
  induction s with
  | nil => rfl
  | cons c s ih =>
      rw [List.any_cons, Bool.or_eq_false_iff] at hs
      exact endsNoWord_append (s := []) hk hs.1 rfl (ih hs.2)

/-- What stands before a character that belongs to no word. -/
theorem endsNoWord_before {s t : List Char} {c : Char} (hc : isWordChar c = false)
    (h : endsNoWord keyword (s ++ c :: t) = true) : endsNoWord keyword s = true := by
  induction s with
  | nil => rfl
  | cons d s ih =>
      simp only [List.cons_append, endsNoWord, Bool.and_eq_true] at h ⊢
      refine ⟨?_, ih h.2⟩
      cases ha : after? keyword (d :: s) with
      | none => rfl
      | some rest =>
          have hr : after? keyword (d :: (s ++ c :: t)) = some (rest ++ c :: t) := by
            rw [after?_eq_some_iff, ← List.append_assoc, ← eq_append_of_after? ha]
            rfl
          have hw := h.1
          simp only [hr, Option.all_some] at hw ⊢
          cases rest with
          | nil => simp [startsInWord, hc] at hw
          | cons e rest => simpa [startsInWord] using hw

theorem endsNoWord_trimEnd {s : List Char} (h : endsNoWord keyword s = true) :
    endsNoWord keyword (trimEnd s) = true := by
  have hs : s = trimEnd s ++ (s.reverse.takeWhile isBlank).reverse := by
    rw [trimEnd, ← List.reverse_append, List.takeWhile_append_dropWhile, List.reverse_reverse]
  cases hb : (s.reverse.takeWhile isBlank).reverse with
  | nil =>
      rw [hb, List.append_nil] at hs
      rwa [← hs]
  | cons c rest =>
      have hc : c ∈ s.reverse.takeWhile isBlank := by
        rw [← List.mem_reverse, hb]
        simp
      rw [hs, hb] at h
      exact endsNoWord_before (isWordChar_of_isBlank (List.mem_takeWhile_imp hc)) h

theorem endsNoWord_trim {s : List Char} (h : endsNoWord keyword s = true) :
    endsNoWord keyword (trim s) = true := by
  apply endsNoWord_trimEnd
  have hs : s = s.takeWhile isBlank ++ trimStart s := List.takeWhile_append_dropWhile.symm
  rw [hs] at h
  exact endsNoWord_of_suffix h

end TestForge.Text
