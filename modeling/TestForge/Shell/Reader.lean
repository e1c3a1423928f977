import TestForge.Shell.Syntax
import TestForge.Text.Search

/-!
# Reading shell scripts

Tokens first, with quoting undone and expansions marked, then commands. Nested scripts of command
substitutions are kept as text until they run.
-/

namespace TestForge.Shell

open TestForge.Text

/-! ## Characters -/

def isNameStart (c : Char) : Bool :=
  c.isAlpha || c == '_'

def isNameChar (c : Char) : Bool :=
  c.isAlphanum || c == '_'

def isName (s : String) : Bool :=
  match s.toList with
  | c :: cs => isNameStart c && cs.all isNameChar
  | [] => false

def isMeta (c : Char) : Bool :=
  [' ', '\t', '\n', ';', '&', '|', '<', '>', '(', ')'].contains c

/-- Parameters named by one character that is no letter. -/
def isSpecial (c : Char) : Bool :=
  c.isDigit || ['@', '*', '#', '?', '$', '!', '-'].contains c

/-! ## Expansions -/

/-- The text up to the bracket that closes one that is open, with `depth` more open. -/
def upToClose (opening closing : Char) : Nat → List Char → Option (List Char × List Char)
  | _, [] => none
  | depth, c :: cs =>
    if c = closing then
      match depth with
      | 0 => some ([], cs)
      | d + 1 => (upToClose opening closing d cs).map fun (s, rest) => (c :: s, rest)
    else
      let depth := if c = opening then depth + 1 else depth
      (upToClose opening closing depth cs).map fun (s, rest) => (c :: s, rest)

def modifierOf (s : List Char) : Modifier :=
  match s with
  | ':' :: '-' :: text => .fallback (String.ofList text) true
  | '-' :: text => .fallback (String.ofList text) false
  | ':' :: '=' :: text => .initial (String.ofList text) true
  | '=' :: text => .initial (String.ofList text) false
  | ':' :: '+' :: text => .instead (String.ofList text) true
  | '+' :: text => .instead (String.ofList text) false
  | ':' :: '?' :: text => .required (String.ofList text) true
  | '?' :: text => .required (String.ofList text) false
  | '#' :: '#' :: pattern => .without (String.ofList pattern) true true
  | '#' :: pattern => .without (String.ofList pattern) true false
  | '%' :: '%' :: pattern => .without (String.ofList pattern) false true
  | '%' :: pattern => .without (String.ofList pattern) false false
  | _ => .none

/-- The name a braced parameter begins with, and the rest. -/
def parameterName (s : List Char) : List Char × List Char :=
  match s with
  | [] => ([], [])
  | c :: cs =>
    if isNameStart c then (s.takeWhile isNameChar, s.dropWhile isNameChar)
    else if c.isDigit then (s.takeWhile Char.isDigit, s.dropWhile Char.isDigit)
    else ([c], cs)

/-- The parameter between braces. -/
def braced (quoted : Bool) (s : List Char) : Part :=
  match s with
  | '#' :: c :: cs => .parameter (String.ofList (c :: cs)) .length quoted
  | _ =>
    let (name, rest) := parameterName s
    .parameter (String.ofList name) (modifierOf rest) quoted

/-- What a dollar sign introduces, from the text after it; nothing if brackets do not close. -/
def expansion (quoted : Bool) (s : List Char) : Option (Part × List Char) :=
  match s with
  | '(' :: '(' :: rest =>
    (cutAt? [')', ')'] rest).map fun (inside, after) =>
      (.arithmetic (String.ofList inside) quoted, after)
  | '(' :: rest =>
    (upToClose '(' ')' 0 rest).map fun (inside, after) =>
      (.substitution (String.ofList inside) quoted, after)
  | '\x7b' :: rest =>
    (upToClose '\x7b' '\x7d' 0 rest).map fun (inside, after) => (braced quoted inside, after)
  | c :: rest =>
    if isNameStart c then
      some (.parameter (String.ofList (s.takeWhile isNameChar)) .none quoted,
        s.dropWhile isNameChar)
    else if isSpecial c then some (.parameter (String.ofList [c]) .none quoted, rest)
    else some (.literal "$" quoted, s)
  | [] => some (.literal "$" quoted, [])

/-! ## Words -/

/-- The parts of a quoted text, and what follows it: up to the closing double quote, or up to the end
of a text in which such quotes are characters as others. -/
def quotedParts (toEnd : Bool) : Nat → List Char → Option (List Part × List Char)
  | 0, _ => none
  | _ + 1, [] => if toEnd then some ([], []) else none
  | fuel + 1, c :: cs =>
    let more (p : Part) (rest : List Char) :=
      (quotedParts toEnd fuel rest).map fun (ps, after) => (p :: ps, after)
    if c = '"' && !toEnd then some ([], cs)
    else if c = '\\' then
      match cs with
      | '\n' :: rest => quotedParts toEnd fuel rest
      | e :: rest =>
        if e = '$' || e = '\x60' || (e = '"' && !toEnd) || e = '\\' then
          more (.literal (String.ofList [e]) true) rest
        else more (.literal "\\" true) cs
      | [] => if toEnd then some ([.literal "\\" true], []) else none
    else if c = '$' then
      match expansion true cs with
      | some (p, rest) => more p rest
      | none => none
    else if c = '\x60' then
      match cutAtChar? '\x60' cs with
      | some (inside, rest) => more (.substitution (String.ofList inside) true) rest
      | none => none
    else more (.literal (String.ofList [c]) true) cs

/-- The parts of a word, and what follows it. -/
def wordParts : Nat → List Char → Option (List Part × List Char)
  | 0, _ => none
  | _ + 1, [] => some ([], [])
  | fuel + 1, c :: cs =>
    let more (ps : List Part) (rest : List Char) :=
      (wordParts fuel rest).map fun (qs, after) => (ps ++ qs, after)
    if isMeta c then some ([], c :: cs)
    else if c = '\\' then
      match cs with
      | '\n' :: rest => wordParts fuel rest
      | e :: rest => more [.literal (String.ofList [e]) true] rest
      | [] => some ([.literal "\\" true], [])
    else if c = '\'' then
      match cutAtChar? '\'' cs with
      | some (inside, rest) => more [.literal (String.ofList inside) true] rest
      | none => none
    else if c = '"' then
      match quotedParts false fuel cs with
      | some (ps, rest) => more (.literal "" true :: ps) rest
      | none => none
    else if c = '$' then
      match expansion false cs with
      | some (p, rest) => more [p] rest
      | none => none
    else if c = '\x60' then
      match cutAtChar? '\x60' cs with
      | some (inside, rest) => more [.substitution (String.ofList inside) false] rest
      | none => none
    else more [.literal (String.ofList [c]) false] cs

/-- Joins neighbouring literals of one kind. -/
def mergeParts : List Part → List Part
  | .literal a qa :: rest =>
    match mergeParts rest with
    | .literal b qb :: more =>
      if qa = qb then .literal (a ++ b) qa :: more else .literal a qa :: .literal b qb :: more
    | others => .literal a qa :: others
  | p :: rest => p :: mergeParts rest
  | [] => []

/-! ## Tokens -/

def redirectionSign : List Char → Option (Direction × List Char)
  | '>' :: '>' :: rest => some (.append, rest)
  | '>' :: '&' :: rest => some (.duplicate, rest)
  | '<' :: '&' :: rest => some (.duplicate, rest)
  | '>' :: '|' :: rest => some (.write, rest)
  | '>' :: rest => some (.write, rest)
  | '<' :: rest => some (.read, rest)
  | _ => none

/-- A redirection with the number of the descriptor in front, if it is given. -/
def redirectionAt (s : List Char) : Option (Token × List Char) :=
  let number := s.takeWhile Char.isDigit
  let rest := s.dropWhile Char.isDigit
  match redirectionSign rest with
  | none => none
  | some (direction, after) =>
    let standard := if rest.head? = some '<' then 0 else 1
    let descriptor := if number.isEmpty then standard else (String.ofList number).toNat?.getD standard
    some (.redirection descriptor direction, after)

def operators : List String :=
  ["&&", "||", ";;", ";", "&", "|", "(", ")"]

def operatorAt (s : List Char) : Option (Token × List Char) :=
  operators.findSome? fun op => (after? op.toList s).map fun rest => (.operator op, rest)

/-- Whether a word has a quoted part. -/
def isQuoted (w : Word) : Bool :=
  w.any fun
    | .literal _ quoted => quoted
    | _ => false

def literalText (w : Word) : String :=
  String.join (w.map fun
    | .literal text _ => text
    | _ => "")

/-- The lines up to the one that ends an embedded text, and what follows that. -/
def embeddedLines (ending : List Char) (dropTabs : Bool) : List (List Char) →
    List Char × List (List Char)
  | [] => ([], [])
  | line :: rest =>
    let line := if dropTabs then line.dropWhile (· == '\t') else line
    if line = ending then ([], rest)
    else
      let (text, after) := embeddedLines ending dropTabs rest
      (line ++ '\n' :: text, after)

/-- A text embedded behind the current line: its parts, and the script without it. -/
def embeddedText (dropTabs : Bool) (ending : Word) (s : List Char) :
    Option (Word × List Char) :=
  let (line, below) := (cutAtChar? '\n' s).getD (s, [])
  let (text, after) :=
    embeddedLines (literalText ending).toList dropTabs (splitAtChar '\n' below)
  let script := line ++ '\n' :: joinWith ['\n'] after
  if isQuoted ending then some ([.literal (String.ofList text) true], script)
  else (quotedParts true (text.length + 1) text).map fun (ps, _) => (ps, script)

/-- The mark of an embedded text, with the word that will end it. -/
def embeddedAt (fuel : Nat) (s : List Char) : Option (Word × List Char) :=
  match s with
  | '<' :: '<' :: rest =>
    let dropTabs := rest.head? = some '-'
    let rest := (if dropTabs then rest.drop 1 else rest).dropWhile (· == ' ')
    match wordParts fuel rest with
    | some (ending, rest) => embeddedText dropTabs ending rest
    | none => none
  | _ => none

def tokens : Nat → List Char → Option (List Token)
  | 0, _ => none
  | _ + 1, [] => some []
  | fuel + 1, c :: cs =>
    if c = ' ' || c = '\t' || c = '\r' then tokens fuel cs
    else if c = '\\' && cs.head? = some '\n' then tokens fuel (cs.drop 1)
    else if c = '#' then tokens fuel (cs.dropWhile (· ≠ '\n'))
    else if c = '\n' then (tokens fuel cs).map (.newline :: ·)
    else if c = '<' && cs.head? = some '<' then
      match embeddedAt (fuel + 1) (c :: cs) with
      | some (w, rest) =>
        (tokens fuel rest).map fun ts => .redirection 0 .text :: .word (mergeParts w) :: ts
      | none => none
    else
      match redirectionAt (c :: cs) with
      | some (t, rest) => (tokens fuel rest).map (t :: ·)
      | none =>
        match operatorAt (c :: cs) with
        | some (t, rest) => (tokens fuel rest).map (t :: ·)
        | none =>
          match wordParts (fuel + 1) (c :: cs) with
          | some (ps, rest) => (tokens fuel rest).map (.word (mergeParts ps) :: ·)
          | none => none

/-! ## Commands -/

abbrev Parsed (α : Type) := Option (α × List Token)

/-- The reserved word a token is, if it is one. -/
def keyword? : Token → Option String
  | .word [.literal text false] => some text
  | _ => none

def skipNewlines : List Token → List Token
  | .newline :: rest => skipNewlines rest
  | ts => ts

def expect (text : String) : List Token → Option (List Token)
  | t :: rest => if keyword? t = some text then some rest else none
  | [] => none

/-- Words that end a list of commands where a command could begin. -/
def closers : List String :=
  ["then", "elif", "else", "fi", "do", "done", "esac", "\x7d"]

def endsList : List Token → Bool
  | [] => true
  | .operator op :: _ => op == ")" || op == ";;"
  | t :: _ => (keyword? t).any closers.contains

/-- An assignment: a name, an equals sign and the rest of the word. -/
def assignment? : Word → Option (String × Word)
  | .literal text false :: parts =>
    match cutAtChar? '=' text.toList with
    | some (name, value) =>
      if isName (String.ofList name) then
        some (String.ofList name,
          (if value.isEmpty then [] else [.literal (String.ofList value) false]) ++ parts)
      else none
    | none => none
  | _ => none

/-- Assignments, words and redirections up to the next operator. -/
def simpleParts : List (String × Word) → List Word → List Redirection → List Token →
    (List (String × Word) × List Word × List Redirection) × List Token
  | as, ws, rs, .redirection d dir :: .word w :: rest =>
    simpleParts as ws (rs ++ [⟨d, dir, w⟩]) rest
  | as, ws, rs, .word w :: rest =>
    match (if ws.isEmpty then assignment? w else none) with
    | some a => simpleParts (as ++ [a]) ws rs rest
    | none => simpleParts as (ws ++ [w]) rs rest
  | as, ws, rs, ts => ((as, ws, rs), ts)

def redirectionsAfter : List Redirection → List Token → List Redirection × List Token
  | rs, .redirection d dir :: .word w :: rest => redirectionsAfter (rs ++ [⟨d, dir, w⟩]) rest
  | rs, ts => (rs, ts)

def withRedirections (c : Command) (rs : List Redirection) : Command :=
  if rs.isEmpty then c else .redirected c rs

/-- The words of a pattern list up to the parenthesis that ends it. -/
def patterns : List Token → Parsed (List Word)
  | .operator "(" :: rest => patterns rest
  | .word w :: .operator "|" :: rest => (patterns rest).map fun (ws, ts) => (w :: ws, ts)
  | .word w :: .operator ")" :: rest => some ([w], rest)
  | _ => none

def leadingWords : List Token → List Word × List Token
  | .word w :: rest => let (ws, ts) := leadingWords rest; (w :: ws, ts)
  | ts => ([], ts)

def skipSeparator : List Token → List Token
  | .operator ";" :: rest => rest
  | .operator "&" :: rest => rest
  | .newline :: rest => rest
  | ts => ts

mutual

/-- Commands up to a closing word, a closing parenthesis or the end. -/
def commandList : Nat → List Token → Parsed (List Command)
  | 0, _ => none
  | fuel + 1, ts =>
    let ts := skipNewlines ts
    if endsList ts then some ([], ts)
    else
      match andOr fuel ts with
      | none => none
      | some (c, rest) =>
        match rest with
        | .operator ";" :: more =>
          (commandList fuel more).map fun (cs, ts) => (c :: cs, ts)
        | .operator "&" :: more =>
          (commandList fuel more).map fun (cs, ts) => (c :: cs, ts)
        | .newline :: more => (commandList fuel more).map fun (cs, ts) => (c :: cs, ts)
        | _ => if endsList rest then some ([c], rest) else none

def andOr : Nat → List Token → Parsed Command
  | 0, _ => none
  | fuel + 1, ts =>
    match pipeline fuel ts with
    | none => none
    | some (c, rest) => andOrRest fuel c rest

def andOrRest : Nat → Command → List Token → Parsed Command
  | 0, _, _ => none
  | fuel + 1, c, ts =>
    match ts with
    | .operator "&&" :: rest =>
      match pipeline fuel (skipNewlines rest) with
      | none => none
      | some (d, rest) => andOrRest fuel (.both c d) rest
    | .operator "||" :: rest =>
      match pipeline fuel (skipNewlines rest) with
      | none => none
      | some (d, rest) => andOrRest fuel (.either c d) rest
    | _ => some (c, ts)

def pipeline : Nat → List Token → Parsed Command
  | 0, _ => none
  | fuel + 1, ts =>
    match expect "!" ts with
    | some rest => (pipeline fuel rest).map fun (c, ts) => (.negated c, ts)
    | none =>
      match command fuel ts with
      | none => none
      | some (c, .operator "|" :: rest) =>
        match pipeline fuel (skipNewlines rest) with
        | some (.pipeline parts, rest) => some (.pipeline (c :: parts), rest)
        | some (d, rest) => some (.pipeline [c, d], rest)
        | none => none
      | some (c, rest) => some (c, rest)

/-- One command with its redirections. -/
def command : Nat → List Token → Parsed Command
  | 0, _ => none
  | fuel + 1, .word [.literal name false] :: .operator "(" :: .operator ")" :: rest =>
    (command fuel (skipNewlines rest)).map fun (c, rest) => (.definition name c, rest)
  | fuel + 1, ts =>
    match compound fuel ts with
    | some (c, rest) =>
      let (rs, rest) := redirectionsAfter [] rest
      some (withRedirections c rs, rest)
    | none =>
      let ((as, ws, rs), rest) := simpleParts [] [] [] ts
      if as.isEmpty && ws.isEmpty && rs.isEmpty then none
      else some (withRedirections (.simple as ws) rs, rest)

def compound : Nat → List Token → Parsed Command
  | 0, _ => none
  | fuel + 1, ts =>
    match ts with
    | .operator "(" :: rest =>
      match commandList fuel rest with
      | some (body, .operator ")" :: rest) => some (.subshell body, rest)
      | _ => none
    | t :: rest =>
      match keyword? t with
      | some "\x7b" =>
        match commandList fuel rest with
        | some (body, rest) => (expect "\x7d" rest).map fun rest => (.group body, rest)
        | none => none
      | some "if" => conditional fuel rest
      | some "while" => loopOf fuel true rest
      | some "until" => loopOf fuel false rest
      | some "for" => forLoop fuel rest
      | some "case" =>
        match rest with
        | .word w :: rest =>
          match expect "in" (skipNewlines rest) with
          | some rest => (arms fuel rest).map fun (as, rest) => (.cases w as, rest)
          | none => none
        | _ => none
      | _ => none
    | [] => none

/-- A condition and its branches, after the word that introduces it. -/
def conditional : Nat → List Token → Parsed Command
  | 0, _ => none
  | fuel + 1, ts =>
    match commandList fuel ts with
    | none => none
    | some (condition, rest) =>
      match expect "then" rest with
      | none => none
      | some rest =>
        match commandList fuel rest with
        | none => none
        | some (yes, rest) =>
          match rest with
          | [] => none
          | t :: more =>
            match keyword? t with
            | some "fi" => some (.choice condition yes [], more)
            | some "elif" =>
              (conditional fuel more).map fun (c, rest) => (.choice condition yes [c], rest)
            | some "else" =>
              match commandList fuel more with
              | none => none
              | some (no, rest) =>
                (expect "fi" rest).map fun rest => (.choice condition yes no, rest)
            | _ => none

def loopOf : Nat → Bool → List Token → Parsed Command
  | 0, _, _ => none
  | fuel + 1, wanted, ts =>
    match commandList fuel ts with
    | none => none
    | some (condition, rest) =>
      (body fuel rest).map fun (cs, rest) => (.loop wanted condition cs, rest)

def forLoop : Nat → List Token → Parsed Command
  | 0, _ => none
  | fuel + 1, ts =>
    match ts with
    | .word [.literal name false] :: rest =>
      match expect "in" rest with
      | some rest =>
        let (ws, rest) := leadingWords rest
        (body fuel (skipSeparator rest)).map fun (cs, rest) => (.each name ws cs, rest)
      | none =>
        (body fuel (skipSeparator rest)).map fun (cs, rest) =>
          (.each name [[.parameter "@" .none true]] cs, rest)
    | _ => none

/-- The body of a loop between its words. -/
def body : Nat → List Token → Parsed (List Command)
  | 0, _ => none
  | fuel + 1, ts =>
    match expect "do" (skipNewlines ts) with
    | none => none
    | some rest =>
      match commandList fuel rest with
      | none => none
      | some (cs, rest) => (expect "done" rest).map fun rest => (cs, rest)

/-- The arms of a choice up to its last word. -/
def arms : Nat → List Token → Parsed (List (List Word × List Command))
  | 0, _ => none
  | fuel + 1, ts =>
    let ts := skipNewlines ts
    match expect "esac" ts with
    | some rest => some ([], rest)
    | none =>
      match patterns ts with
      | none => none
      | some (ws, rest) =>
        match commandList fuel rest with
        | none => none
        | some (cs, .operator ";;" :: rest) =>
          (arms fuel rest).map fun (as, rest) => ((ws, cs) :: as, rest)
        | some (cs, rest) => (expect "esac" rest).map fun rest => ([(ws, cs)], rest)

end

/-- The commands of a script, if it is well formed. -/
def parse? (script : String) : Option (List Command) :=
  let s := script.toList
  match tokens (s.length + 1) s with
  | none => none
  | some ts =>
    match commandList (8 * ts.length + 8) ts with
    | some (cs, []) => some cs
    | _ => none

end TestForge.Shell
