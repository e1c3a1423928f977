/-!
# Sets of characters

The sets that patterns and expressions spell in brackets: characters, ranges and named classes, or all
characters but those.
-/

namespace TestForge.Shell

/-- A set of characters as ranges, or all others. -/
structure CharSet where
  ranges : List (Char × Char)
  complement : Bool
  deriving DecidableEq

namespace CharSet

def any : CharSet := ⟨[], true⟩

def only (c : Char) : CharSet := ⟨[(c, c)], false⟩

def contains (s : CharSet) (c : Char) : Bool :=
  s.ranges.any (fun r => r.1.toNat ≤ c.toNat && c.toNat ≤ r.2.toNat) != s.complement

/-! ## Reading -/

/-- The members of a named class of ASCII characters. -/
def classRanges : String → List (Char × Char)
  | "alpha" => [('A', 'Z'), ('a', 'z')]
  | "digit" => [('0', '9')]
  | "alnum" => [('0', '9'), ('A', 'Z'), ('a', 'z')]
  | "upper" => [('A', 'Z')]
  | "lower" => [('a', 'z')]
  | "space" => [('\t', '\r'), (' ', ' ')]
  | "blank" => [('\t', '\t'), (' ', ' ')]
  | "punct" => [('!', '/'), (':', '@'), ('[', '\x60'), ('\x7b', '~')]
  | _ => []

/-- The class named at the start of a text behind its opening mark. -/
def class? (s : List Char) : Option (List (Char × Char) × List Char) :=
  match s.span Char.isAlpha with
  | (name, ':' :: ']' :: rest) => some (classRanges (String.ofList name), rest)
  | _ => none

/-- The members of a set up to the bracket that closes it. -/
def members : Nat → List Char → Option (List (Char × Char) × List Char)
  | 0, _ => none
  | _ + 1, [] => none
  | _ + 1, ']' :: rest => some ([], rest)
  | fuel + 1, c :: cs =>
    let more (found : List (Char × Char)) (rest : List Char) :=
      (members fuel rest).map fun (rs, after) => (found ++ rs, after)
    match (if c = '[' && cs.head? = some ':' then class? (cs.drop 1) else none) with
    | some (ranges, rest) => more ranges rest
    | none =>
      match cs with
      | '-' :: ']' :: rest => some ([(c, c), ('-', '-')], rest)
      | '-' :: b :: rest => more [(c, b)] rest
      | _ => more [(c, c)] cs

/-- A set after its opening bracket. A closing bracket in front is a member. -/
def afterBracket? (s : List Char) : Option (CharSet × List Char) :=
  let complement := s.head? = some '!' || s.head? = some '^'
  let s := if complement then s.drop 1 else s
  match s with
  | ']' :: rest =>
    (members s.length rest).map fun (rs, after) => (⟨(']', ']') :: rs, complement⟩, after)
  | _ => (members (s.length + 1) s).map fun (rs, after) => (⟨rs, complement⟩, after)

end CharSet

end TestForge.Shell
