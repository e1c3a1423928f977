import TestForge.Shell.CharSet

/-!
# Regular expressions

Expressions over the characters of a line, in the basic and in the extended notation. Of several
matches the leftmost counts, and of those at one place the longest.
-/

namespace TestForge.Shell

inductive Expression where
  | empty
  | one (set : CharSet)
  | lineStart
  | lineEnd
  | sequence (first second : Expression)
  | either (first second : Expression)
  | many (body : Expression)
  deriving DecidableEq

namespace Expression

/-! ## Matching -/

/-- What can be reached from texts in so many steps. -/
def reached (step : List Char → List (List Char)) : Nat → List (List Char) → List (List Char)
  | 0, texts => texts
  | n + 1, texts => texts ++ reached step n (texts.flatMap step).eraseDups

/-- What may remain of a text after a match at its start, within a line of a given length. -/
def rests (length : Nat) : Expression → List Char → List (List Char)
  | .empty, s => [s]
  | .one set, s =>
    match s with
    | c :: cs => if set.contains c then [cs] else []
    | [] => []
  | .lineStart, s => if s.length = length then [s] else []
  | .lineEnd, s => if s.isEmpty then [s] else []
  | .sequence first second, s => ((first.rests length s).flatMap (second.rests length)).eraseDups
  | .either first second, s => first.rests length s ++ second.rests length s
  | .many body, s =>
    reached (fun t => (body.rests length t).filter fun r => r.length < t.length) s.length [s]

/-- The shortest of several texts. -/
def shortest? : List (List Char) → Option (List Char)
  | [] => none
  | s :: rest =>
    match shortest? rest with
    | some t => some (if t.length < s.length then t else s)
    | none => some s

/-- The text before, in and after the first match in the rest of a line. -/
def cutIn? (length : Nat) (e : Expression) (s : List Char) :
    Option (List Char × List Char × List Char) :=
  match shortest? (e.rests length s) with
  | some rest => some ([], s.take (s.length - rest.length), rest)
  | none =>
    match s with
    | [] => none
    | c :: cs => (e.cutIn? length cs).map fun (before, found, rest) => (c :: before, found, rest)

def cut? (e : Expression) (line : List Char) : Option (List Char × List Char × List Char) :=
  e.cutIn? line.length line

def isIn (e : Expression) (line : List Char) : Bool :=
  (e.cut? line).isSome

/-! ## Reading -/

inductive Sign where
  | set (value : CharSet)
  | lineStart
  | lineEnd
  | opening
  | closing
  | bar
  | star
  | plus
  | optional
  deriving DecidableEq

/-- The characters that are signs in one notation as they are and in the other behind a backslash. -/
def bracketSign? : Char → Option Sign
  | '(' => some .opening
  | ')' => some .closing
  | '|' => some .bar
  | '+' => some .plus
  | '?' => some .optional
  | _ => none

/-- Whether an expression or a branch of one begins behind a sign. -/
def begins : Option Sign → Bool
  | none | some .opening | some .bar => true
  | _ => false

/-- The signs of an expression, with the one before. -/
def signs (extended : Bool) : Nat → Option Sign → List Char → List Sign
  | 0, _, _ => []
  | _ + 1, _, [] => []
  | fuel + 1, before, c :: cs =>
    let put (s : Sign) (rest : List Char) := s :: signs extended fuel (some s) rest
    if c = '\\' then
      match cs with
      | e :: rest =>
        if e = 'n' then put (.set (.only '\n')) rest
        else put ((if extended then none else bracketSign? e).getD (.set (.only e))) rest
      | [] => put (.set (.only c)) cs
    else if c = '.' then put (.set .any) cs
    else if c = '[' then
      match CharSet.afterBracket? cs with
      | some (set, rest) => put (.set set) rest
      | none => put (.set (.only c)) cs
    else if c = '*' && !begins before then put .star cs
    else if c = '^' && (extended || begins before) then put .lineStart cs
    else if c = '$' && (extended || cs.isEmpty || cs.head? = some '\\') then put .lineEnd cs
    else put ((if extended then bracketSign? c else none).getD (.set (.only c))) cs

/-- An expression with the signs of repetition behind it. -/
def repeated (e : Expression) : List Sign → Expression × List Sign
  | .star :: rest => repeated (.many e) rest
  | .plus :: rest => repeated (.sequence e (.many e)) rest
  | .optional :: rest => repeated (.either e .empty) rest
  | rest => (e, rest)

mutual

/-- Branches with bars between them. -/
def branches : Nat → List Sign → Expression × List Sign
  | 0, ss => (.empty, ss)
  | fuel + 1, ss =>
    match branch fuel ss with
    | (e, .bar :: rest) => let (f, rest) := branches fuel rest; (.either e f, rest)
    | (e, rest) => (e, rest)

def branch : Nat → List Sign → Expression × List Sign
  | 0, ss => (.empty, ss)
  | fuel + 1, ss =>
    let next (e : Expression) (rest : List Sign) :=
      let (e, rest) := repeated e rest
      let (f, rest) := branch fuel rest
      (Expression.sequence e f, rest)
    match ss with
    | .set value :: rest => next (.one value) rest
    | .lineStart :: rest => next .lineStart rest
    | .lineEnd :: rest => next .lineEnd rest
    | .opening :: rest => let (e, rest) := branches fuel rest; next e (rest.drop 1)
    | .star :: rest | .plus :: rest | .optional :: rest => branch fuel rest
    | .closing :: _ | .bar :: _ | [] => (.empty, ss)

end

/-- The expression a text spells. -/
def ofText (extended : Bool) (s : List Char) : Expression :=
  let ss := signs extended (s.length + 1) none s
  (branches (2 * ss.length + 2) ss).1

end Expression

end TestForge.Shell
