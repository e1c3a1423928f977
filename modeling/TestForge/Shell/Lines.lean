import TestForge.Shell.Arithmetic
import TestForge.Shell.Expression
import TestForge.Shell.Invocation

/-!
# Utilities on lines

Choosing, counting, ordering and editing the lines of files or of the standard input.
-/

namespace TestForge.Shell

open TestForge.Text

/-! ## Lines -/

/-- The lines of some bytes, without their ends. -/
def splitLines (bytes : List UInt8) : List (List UInt8) :=
  let pieces := bytes.splitOn 10
  if pieces.getLast? = some [] then pieces.dropLast else pieces

def endLine (bytes : List UInt8) : List UInt8 :=
  bytes ++ [10]

/-- A piece per line with the newline kept. -/
def keepEnds (bytes : List UInt8) : List (List UInt8) :=
  let pieces := bytes.splitOn 10
  let whole := pieces.dropLast.map endLine
  match pieces.getLast? with
  | some [] | none => whole
  | some rest => whole ++ [rest]

def lineText (line : List UInt8) : List Char :=
  (ofBytes ⟨line.toArray⟩).toList

/-! ## The first and the last -/

/-- Only the first or last bytes or lines. -/
structure Portion where
  count : Nat
  ofLines : Bool

def countText (s : List Char) : Nat :=
  (String.ofList s).toNat?.getD 0

/-- The portion the options name, and the operands. -/
def portion (p : Portion) : List String → Portion × List String
  | "-c" :: n :: rest => portion ⟨countText n.toList, false⟩ rest
  | "-n" :: n :: rest => portion ⟨countText n.toList, true⟩ rest
  | arg :: rest =>
    match arg.toList with
    | '-' :: 'c' :: n => portion ⟨countText n, false⟩ rest
    | '-' :: 'n' :: n => portion ⟨countText n, true⟩ rest
    | '-' :: d :: n => if d.isDigit then portion ⟨countText (d :: n), true⟩ rest else portion p rest
    | _ => (p, arg :: rest)
  | [] => (p, [])

def headOf : Utility := fun call =>
  let (p, paths) := portion ⟨10, true⟩ call.arguments
  if paths = [zeroDevice] then call.answer (List.replicate p.count 0)
  else
    let (bytes, errors) := gatherAll "head" call paths
    let bytes := if p.ofLines then ((keepEnds bytes).take p.count).flatten else bytes.take p.count
    ⟨if errors.isEmpty then 0 else 1, bytes, errors, call.files⟩

def tailOf : Utility := fun call =>
  let (p, paths) := portion ⟨10, true⟩ call.arguments
  let (bytes, errors) := gatherAll "tail" call paths
  let last {α : Type} (xs : List α) := xs.drop (xs.length - p.count)
  let bytes := if p.ofLines then (last (keepEnds bytes)).flatten else last bytes
  ⟨if errors.isEmpty then 0 else 1, bytes, errors, call.files⟩

/-! ## Counting -/

def padLeft (width : Nat) (bytes : List UInt8) : List UInt8 :=
  List.replicate (width - bytes.length) 32 ++ bytes

/-- How many lines, words and bytes there are, in this order. -/
def wordCount : Utility := fun call =>
  let (options, paths) := letters call.arguments
  let (bytes, errors) := gatherAll "wc" call paths
  let blank (b : UInt8) := b = 32 || (9 ≤ b && b ≤ 13)
  let words := ((bytes.splitBy fun a b => blank a == blank b).filter
    fun run => !(run.any blank)).length
  let wanted (c : Char) := options.isEmpty || options.contains c
  let numbers :=
    (if wanted 'l' then [bytes.count 10] else []) ++ (if wanted 'w' then [words] else []) ++
      (if wanted 'c' then [bytes.length] else [])
  let width :=
    if numbers.length = 1 then 0
    else if paths.isEmpty then 7
    else (toString bytes.length).length
  let fields := numbers.map fun n => padLeft width (textBytes (toString n))
  let line := List.intercalate [32] fields ++
    (match paths with | [path] => textBytes (" " ++ path) | _ => [])
  ⟨if errors.isEmpty then 0 else 1, endLine line, errors, call.files⟩

/-! ## Choosing -/

/-- Whether a line is wanted, by the options and the pattern of a search. -/
def lineWanted (options : List Char) (pattern : List Char) (line : List UInt8) : Bool :=
  let fold (s : List Char) := if options.contains 'i' then s.map Char.toLower else s
  let text := fold (lineText line)
  let pattern := fold pattern
  let found :=
    if options.contains 'F' then occursIn pattern text
    else
      let e := Expression.ofText (options.contains 'E') pattern
      if options.contains 'x' then
        (Expression.sequence .lineStart (.sequence e .lineEnd)).isIn text
      else e.isIn text
  found != options.contains 'v'

/-- What a search shows of one file: its wanted lines, their count or the name, and whether there are
any. -/
def searched (options : List Char) (pattern : List Char) (name : Option String)
    (bytes : List UInt8) : List UInt8 × Bool :=
  let lines := (splitLines bytes).mapIdx fun i line => (i + 1, line)
  let found := lines.filter fun (_, line) => lineWanted options pattern line
  let label := (name.map (· ++ ":")).getD ""
  let shown :=
    if options.contains 'q' then []
    else if options.contains 'l' then
      if found.isEmpty then [] else textBytes (name.getD "(standard input)" ++ "\n")
    else if options.contains 'c' then textBytes (label ++ toString found.length ++ "\n")
    else found.flatMap fun (n, line) =>
      textBytes (label ++ if options.contains 'n' then toString n ++ ":" else "") ++ endLine line
  (shown, !found.isEmpty)

/-- The named files, or the standard input, with complaints about those that cannot be read. -/
def filesToSearch (call : Invocation) (paths : List String) :
    List (String × List UInt8) × List UInt8 :=
  if paths.isEmpty then ([("(standard input)", call.input)], [])
  else
    (paths.filterMap fun path =>
      match fileBytes call.files path with
      | .ok bytes => some (path, bytes)
      | .error _ => none, (gather "grep" call paths).2)

/-- Only the lines that a pattern matches; the status tells whether there are any. -/
def grep : Utility := fun call =>
  let (options, operands) := letters call.arguments
  match operands with
  | [] => call.complain 2 "Usage: grep [OPTION]... PATTERNS [FILE]..."
  | pattern :: paths =>
    let (files, errors) := filesToSearch call paths
    let named := (paths.length > 1 || options.contains 'l') && !options.contains 'h'
    let parts := files.map fun (path, bytes) =>
      searched options pattern.toList (if named then some path else none) bytes
    let status := if parts.any (·.2) then 0 else if errors.isEmpty then 1 else 2
    ⟨status, parts.flatMap (·.1), if options.contains 's' then [] else errors, call.files⟩

/-! ## Ordering -/

/-- The number at the start of a line. -/
def leadingNumber (line : List UInt8) : Int :=
  let s := (lineText line).dropWhile (· == ' ')
  match s with
  | '-' :: rest => -numberOf (String.ofList (rest.takeWhile Char.isDigit))
  | _ => numberOf (String.ofList (s.takeWhile Char.isDigit))

/-- Whether one line may stand before another. -/
def inOrder (byNumber : Bool) (a b : List UInt8) : Bool :=
  if byNumber && leadingNumber a != leadingNumber b then leadingNumber a < leadingNumber b
  else !decide (b < a)

def sort : Utility := fun call =>
  let (options, paths) := letters call.arguments
  let (bytes, errors) := gatherAll "sort" call paths
  let lines := (splitLines bytes).mergeSort (inOrder (options.contains 'n'))
  let lines := if options.contains 'u' then lines.eraseDups else lines
  let lines := if options.contains 'r' then lines.reverse else lines
  ⟨if errors.isEmpty then 0 else 2, lines.flatMap endLine, errors, call.files⟩

/-! ## Editing -/

/-- Which lines a command of an edit is about. -/
inductive LineAddress where
  | all
  | number (n : Nat)
  | last
  | between (first last : Nat)
  | pattern (e : Expression)
  deriving DecidableEq

inductive EditAction where
  | substitute (e : Expression) (replacement : List Char) (everywhere : Bool)
  | delete
  | print
  deriving DecidableEq

structure Edit where
  address : LineAddress
  action : EditAction
  deriving DecidableEq

/-- The text up to a mark that no backslash precedes, with the backslash taken off such marks. -/
def upToMark (mark : Char) : List Char → Option (List Char × List Char)
  | [] => none
  | '\\' :: c :: rest =>
    (upToMark mark rest).map fun (s, after) =>
      (if c = mark then c :: s else '\\' :: c :: s, after)
  | c :: rest =>
    if c = mark then some ([], rest)
    else (upToMark mark rest).map fun (s, after) => (c :: s, after)

def addressOf (extended : Bool) (s : List Char) : Option (LineAddress × List Char) :=
  match s with
  | '/' :: rest =>
    (upToMark '/' rest).map fun (e, after) => (.pattern (Expression.ofText extended e), after)
  | '$' :: rest => some (.last, rest)
  | _ =>
    match s.span Char.isDigit with
    | ([], _) => some (.all, s)
    | (n, ',' :: rest) =>
      some (.between (countText n) (countText (rest.takeWhile Char.isDigit)),
        rest.dropWhile Char.isDigit)
    | (n, rest) => some (.number (countText n), rest)

/-- The commands of an edit, with a semicolon or a new line between any two. -/
def edits (extended : Bool) : Nat → List Char → Option (List Edit)
  | 0, _ => none
  | fuel + 1, s =>
    match s.dropWhile fun c => c == ' ' || c == ';' || c == '\n' with
    | [] => some []
    | s =>
      match addressOf extended s with
      | none => none
      | some (address, s) =>
        match s.dropWhile (· == ' ') with
        | 'd' :: rest => (edits extended fuel rest).map (⟨address, .delete⟩ :: ·)
        | 'p' :: rest => (edits extended fuel rest).map (⟨address, .print⟩ :: ·)
        | 's' :: mark :: rest =>
          match upToMark mark rest with
          | none => none
          | some (e, rest) =>
            match upToMark mark rest with
            | none => none
            | some (replacement, rest) =>
              let everywhere := rest.head? = some 'g'
              (edits extended fuel (if everywhere then rest.drop 1 else rest)).map
                (⟨address, .substitute (Expression.ofText extended e) replacement everywhere⟩ :: ·)
        | _ => none

def isAddressed (address : LineAddress) (number count : Nat) (line : List Char) : Bool :=
  match address with
  | .all => true
  | .number n => number = n
  | .last => number = count
  | .between first last => first ≤ number && number ≤ max first last
  | .pattern e => e.isIn line

/-- What takes the place of a match, in which an ampersand stands for it. -/
def replacementFor (found : List Char) : List Char → List Char
  | [] => []
  | '\\' :: 'n' :: rest => '\n' :: replacementFor found rest
  | '\\' :: c :: rest => c :: replacementFor found rest
  | '&' :: rest => found ++ replacementFor found rest
  | c :: rest => c :: replacementFor found rest

/-- The line with the first match replaced, or so many matches. -/
def substituted (e : Expression) (replacement : List Char) (length : Nat) :
    Nat → List Char → List Char
  | 0, s => s
  | fuel + 1, s =>
    match e.cutIn? length s with
    | none => s
    | some (before, found, rest) =>
      let text := before ++ replacementFor found replacement
      if found.isEmpty then
        match rest with
        | [] => text
        | c :: cs => text ++ c :: substituted e replacement length fuel cs
      else text ++ substituted e replacement length fuel rest

/-- A line after the commands, with copies printed on the way; nothing if it is deleted. -/
def editLine (number count : Nat) (line : List Char) :
    List Edit → List (List Char) × Option (List Char)
  | [] => ([], some line)
  | edit :: rest =>
    if !isAddressed edit.address number count line then editLine number count line rest
    else
      match edit.action with
      | .delete => ([], none)
      | .print =>
        let (copies, last) := editLine number count line rest
        (line :: copies, last)
      | .substitute e replacement everywhere =>
        let times := if everywhere then line.length + 1 else 1
        editLine number count (substituted e replacement line.length times line) rest

/-- The lines after an edit. A last line that has no end is left without one. -/
def edited (commands : List Edit) (silent : Bool) (bytes : List UInt8) : List UInt8 :=
  let lines := splitLines bytes
  let out := (lines.mapIdx fun i line =>
    let (copies, last) := editLine (i + 1) lines.length (lineText line) commands
    (copies ++ if silent then [] else last.toList).flatMap fun s =>
      endLine (textBytes (String.ofList s))).flatten
  if bytes.getLast? = some 10 || bytes.isEmpty then out else out.dropLast

/-- What the arguments of an edit say. -/
structure EditCall where
  script : Option String
  inPlace : Bool
  silent : Bool
  extended : Bool
  paths : List String

def editCall (c : EditCall) : List String → EditCall
  | [] => c
  | "-e" :: s :: rest =>
    editCall { c with script := some ((c.script.map (· ++ "\n")).getD "" ++ s) } rest
  | "-i" :: rest => editCall { c with inPlace := true } rest
  | "-n" :: rest => editCall { c with silent := true } rest
  | "-E" :: rest | "-r" :: rest => editCall { c with extended := true } rest
  | s :: rest =>
    if c.script.isNone then editCall { c with script := some s } rest
    else editCall { c with paths := c.paths ++ [s] } rest

def sed : Utility := fun call =>
  let c := editCall ⟨none, false, false, false, []⟩ call.arguments
  let script := (c.script.getD "").toList
  match edits c.extended (script.length + 1) script with
  | none => call.complain 1 "sed: -e expression #1, char 1: unknown command"
  | some commands =>
    if c.inPlace then
      eachPath (fun p => "sed: can't read " ++ p)
        (fun fs path => do
          let bytes ← fs.readBytes path
          fs.writeBytes path ⟨(edited commands c.silent bytes.toList).toArray⟩) call c.paths
    else
      let (bytes, errors) := gatherAll "sed" call c.paths
      ⟨if errors.isEmpty then 0 else 2, edited commands c.silent bytes, errors, call.files⟩

end TestForge.Shell
