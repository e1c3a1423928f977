/-!
# Searching and replacing text

Plain substring operations on lists of characters, each scanning from the left.
-/

namespace TestForge.Text

/-! ## Finding -/

/-- The rest of a text after a given beginning. -/
def after? : List Char → List Char → Option (List Char)
  | [], s => some s
  | _ :: _, [] => none
  | p :: ps, c :: cs => if p = c then after? ps cs else none

theorem eq_append_of_after? {p s r : List Char} (h : after? p s = some r) : s = p ++ r := by
  fun_induction after? p s with
  | case1 => simp_all
  | case2 => simp at h
  | case3 p ps cs ih => simp [ih h]
  | case4 => simp at h

theorem after?_length {p s r : List Char} (h : after? p s = some r) : r.length ≤ s.length := by
  simp [eq_append_of_after? h]

def occursIn (needle : List Char) : List Char → Bool
  | [] => needle.isEmpty
  | c :: cs => needle.isPrefixOf (c :: cs) || occursIn needle cs

/-- The text before and after the first occurrence. -/
def cutAt? (needle : List Char) : List Char → Option (List Char × List Char)
  | [] => if needle.isEmpty then some ([], []) else none
  | c :: cs =>
    match after? needle (c :: cs) with
    | some rest => some ([], rest)
    | none => (cutAt? needle cs).map fun (before, rest) => (c :: before, rest)

/-- The text before the first occurrence of a character, or all of it. -/
def upTo (stop : Char) (s : List Char) : List Char :=
  s.takeWhile (· ≠ stop)

/-- The text before and after the first occurrence of a character. -/
def cutAtChar? (stop : Char) : List Char → Option (List Char × List Char)
  | [] => none
  | c :: cs =>
    if c = stop then some ([], cs)
    else (cutAtChar? stop cs).map fun (before, rest) => (c :: before, rest)

theorem cutAtChar?_length {stop : Char} {s before rest : List Char}
    (h : cutAtChar? stop s = some (before, rest)) : rest.length < s.length := by
  induction s generalizing before with
  | nil => simp [cutAtChar?] at h
  | cons c cs ih =>
    simp only [cutAtChar?] at h
    split at h
    · cases h
      simp
    · obtain ⟨⟨b, r⟩, hr, he⟩ := Option.map_eq_some_iff.1 h
      cases he
      exact Nat.lt_succ_of_lt (ih hr)

/-- The text up to and including the last occurrence of a character, and the text after it. -/
def cutAfterLast? (stop : Char) : List Char → Option (List Char × List Char)
  | [] => none
  | c :: cs =>
    match cutAfterLast? stop cs with
    | some (before, rest) => some (c :: before, rest)
    | none => if c = stop then some ([c], cs) else none

/-! ## Replacing -/

/-- Replaces every occurrence of the text `o :: os`, from the left and without overlap. -/
def replaceAll (o : Char) (os new : List Char) : List Char → List Char
  | [] => []
  | c :: cs =>
    if c = o then
      match h : after? os cs with
      | some rest =>
        have : rest.length ≤ cs.length := after?_length h
        new ++ replaceAll o os new rest
      | none => c :: replaceAll o os new cs
    else c :: replaceAll o os new cs
  termination_by s => s.length

/-- Replaces every occurrence of a text; the empty text is left alone. -/
def replaceEvery (old new : List Char) (s : List Char) : List Char :=
  match old with
  | [] => s
  | o :: os => replaceAll o os new s

/-- Replaces the first occurrence only. -/
def replaceFirst (old new s : List Char) : List Char :=
  match cutAt? old s with
  | some (before, rest) => before ++ new ++ rest
  | none => s

/-- The pieces between the occurrences of a character. -/
def splitAtChar (sep : Char) : List Char → List (List Char)
  | [] => [[]]
  | c :: cs =>
    match splitAtChar sep cs with
    | [] => [[c]]
    | piece :: pieces => if c = sep then [] :: piece :: pieces else (c :: piece) :: pieces

/-- The pieces with a separator between any two. -/
def joinWith (sep : List Char) : List (List Char) → List Char
  | [] => []
  | [s] => s
  | s :: rest => s ++ sep ++ joinWith sep rest

end TestForge.Text
