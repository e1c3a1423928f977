import TestForge.Text.Blank

/-!
# Nested brackets

Parameter lists and types nest in `<>`, `()` and `[]`. The `>` of an arrow `->` is no bracket, so
each scan carries the character before the current one.
-/

namespace TestForge.Text

/-- How a character changes the depth of nesting, given the character before it. -/
def nesting (before : Option Char) (c : Char) : Int :=
  if c = '<' ∨ c = '(' ∨ c = '[' then 1
  else if c = '>' ∧ before = some '-' then 0
  else if c = '>' ∨ c = ')' ∨ c = ']' then -1
  else 0

/-! ## Splitting a list at its commas -/

/-- The piece up to the first comma outside all brackets, and the pieces after it. -/
def cutTopLevel (before : Option Char) (depth : Int) : List Char → List Char × List (List Char)
  | [] => ([], [])
  | c :: cs =>
    if c = ',' ∧ depth ≤ 0 then
      let (piece, later) := cutTopLevel (some c) depth cs
      ([], piece :: later)
    else
      let (piece, later) := cutTopLevel (some c) (depth + nesting before c) cs
      (c :: piece, later)

/-- The non-blank pieces between the commas that stand outside all brackets. -/
def splitTopLevel (s : List Char) : List (List Char) :=
  let (piece, later) := cutTopLevel none 0 s
  (piece :: later).filter fun p => !isAllBlank p

/-! ## The bracket that closes -/

/--
Cuts the text after an opening bracket at the bracket that closes it: what stands inside, and what
follows. `depth` counts further brackets of the kind that are open.
-/
def cutAtClose? (opening closing : Char) (depth : Nat) (before : Char) :
    List Char → Option (List Char × List Char)
  | [] => none
  | c :: cs =>
    if c = opening then
      (cutAtClose? opening closing (depth + 1) c cs).map fun (inside, rest) => (c :: inside, rest)
    else if c = closing ∧ ¬(closing = '>' ∧ before = '-') then
      match depth with
      | 0 => some ([], cs)
      | d + 1 => (cutAtClose? opening closing d c cs).map fun (inside, rest) => (c :: inside, rest)
    else
      (cutAtClose? opening closing depth c cs).map fun (inside, rest) => (c :: inside, rest)

/-- The group a text begins with: what its brackets hold, and what follows the closing one. -/
def group? (opening closing : Char) : List Char → Option (List Char × List Char)
  | [] => none
  | c :: cs => if c = opening then cutAtClose? opening closing 0 c cs else none

theorem cutAtClose?_length {opening closing : Char} {depth : Nat} {before : Char}
    {s inside rest : List Char}
    (h : cutAtClose? opening closing depth before s = some (inside, rest)) :
    rest.length < s.length := by
  induction s generalizing depth before inside with
  | nil => simp [cutAtClose?] at h
  | cons c cs ih =>
    simp only [cutAtClose?] at h
    split at h
    · obtain ⟨⟨i, r⟩, hr, he⟩ := Option.map_eq_some_iff.1 h
      cases he
      exact Nat.lt_succ_of_lt (ih hr)
    · split at h
      · split at h
        · cases h
          simp
        · obtain ⟨⟨i, r⟩, hr, he⟩ := Option.map_eq_some_iff.1 h
          cases he
          exact Nat.lt_succ_of_lt (ih hr)
      · obtain ⟨⟨i, r⟩, hr, he⟩ := Option.map_eq_some_iff.1 h
        cases he
        exact Nat.lt_succ_of_lt (ih hr)

theorem group?_length {opening closing : Char} {s inside rest : List Char}
    (h : group? opening closing s = some (inside, rest)) : rest.length < s.length := by
  cases s with
  | nil => simp [group?] at h
  | cons c cs =>
    simp only [group?] at h
    split at h
    · exact Nat.lt_succ_of_lt (cutAtClose?_length h)
    · simp at h

end TestForge.Text
