import TestForge.FileSystem.Operations
import TestForge.Shell.CharSet

/-!
# File name patterns

A pattern matches a whole text: a star stands for any characters, a question mark for one, and a set in
brackets for one of its members. Quoted characters stand for themselves.
-/

namespace TestForge.Shell

/-- Characters, each with the mark of a quoted one. -/
abbrev MarkedText := List (Char × Bool)

def unmarked (s : MarkedText) : String :=
  String.ofList (s.map (·.1))

structure PatternItem where
  set : CharSet
  repeats : Bool
  deriving DecidableEq

/-! ## Reading -/

def patternItems : Nat → MarkedText → List PatternItem
  | 0, _ => []
  | _ + 1, [] => []
  | fuel + 1, (c, quoted) :: cs =>
    if quoted then ⟨.only c, false⟩ :: patternItems fuel cs
    else if c = '*' then ⟨.any, true⟩ :: patternItems fuel cs
    else if c = '?' then ⟨.any, false⟩ :: patternItems fuel cs
    else if c = '[' then
      match CharSet.afterBracket? (cs.map (·.1)) with
      | some (set, after) => ⟨set, false⟩ :: patternItems fuel (cs.drop (cs.length - after.length))
      | none => ⟨.only c, false⟩ :: patternItems fuel cs
    else ⟨.only c, false⟩ :: patternItems fuel cs

/-! ## Matching -/

def itemsMatch : List PatternItem → List Char → Bool
  | [], s => s.isEmpty
  | item :: items, s =>
    if item.repeats then
      itemsMatch items s ||
        match s with
        | c :: cs => item.set.contains c && itemsMatch (item :: items) cs
        | [] => false
    else
      match s with
      | c :: cs => item.set.contains c && itemsMatch items cs
      | [] => false
  termination_by items s => (items.length + s.length)

def patternMatches (pattern : MarkedText) (s : String) : Bool :=
  itemsMatch (patternItems pattern.length pattern) s.toList

/-! ## Names of files -/

/-- Whether a pattern is more than the text it spells. -/
def isPattern (s : MarkedText) : Bool :=
  s.any fun (c, quoted) => !quoted && (c = '*' || c = '?' || c = '[')

/-- The names in a directory, in their order. -/
def namesIn (fs : FileSystem) (directory : String) : List String :=
  match fs.canonical directory with
  | .error _ => []
  | .ok place =>
    ((fs.below place).filterMap fun (names, _) =>
      match names with
      | [name] => some name
      | _ => none).mergeSort fun a b => !decide (b < a)

/-- The names a pattern stands for; a dot in front must be spelled. -/
def namesMatching (fs : FileSystem) (directory : String) (pattern : MarkedText) : List String :=
  let spelled := pattern.head?.any fun (c, _) => c = '.'
  (namesIn fs directory).filter fun name =>
    (spelled || name.toList.head? ≠ some '.') && patternMatches pattern name

/-- The pieces of a marked path between its slashes. -/
def markedPieces : MarkedText → List MarkedText
  | [] => [[]]
  | (c, quoted) :: cs =>
    match markedPieces cs with
    | [] => [[(c, quoted)]]
    | piece :: pieces =>
      if c = '/' then [] :: piece :: pieces else ((c, quoted) :: piece) :: pieces

/-- The paths of files that pieces of a pattern stand for, behind a path that is spelled. -/
def pathsMatching (fs : FileSystem) (before : String) : List MarkedText → List String
  | [] => []
  | [piece] =>
    if isPattern piece then
      (namesMatching fs (if before.isEmpty then "." else before) piece).map (before ++ ·)
    else
      let path := before ++ unmarked piece
      if fs.exists? path then [path] else []
  | piece :: next :: rest =>
    if isPattern piece then
      (namesMatching fs (if before.isEmpty then "." else before) piece).flatMap fun name =>
        pathsMatching fs (before ++ name ++ "/") (next :: rest)
    else pathsMatching fs (before ++ unmarked piece ++ "/") (next :: rest)

/-- The paths a field stands for; one that no file matches stands for itself. -/
def expandField (fs : FileSystem) (field : MarkedText) : List String :=
  if isPattern field then
    let paths := pathsMatching fs "" (markedPieces field)
    if paths.isEmpty then [unmarked field] else paths
  else [unmarked field]

end TestForge.Shell
