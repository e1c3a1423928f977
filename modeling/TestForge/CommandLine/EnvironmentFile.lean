import TestForge.FileSystem.Operations
import TestForge.Text.Blank
import TestForge.Text.DecimalDigit
import TestForge.Text.WordChar

/-!
# Environment files

Lines of the form `NAME=value`, with quotes, escapes and the values of other variables. A variable
that is set already keeps its value, and a malformed line ends the reading.
-/

namespace TestForge.EnvironmentFile

open TestForge.Text

abbrev Environment := List (String × String)

/-! ## Logical lines -/

/-- Where the end of a physical line leaves the reader. -/
inductive LineState where
  | complete
  | escape
  | space
  | strong (escaped : Bool)
  | weak (escaped : Bool)
  deriving DecidableEq

/-- The state behind a character; nothing if a comment begins there. -/
def LineState.next (s : LineState) (c : Char) : Option LineState :=
  let opened : LineState :=
    if c = '\\' then .escape else if c = '"' then .weak false else if c = '\'' then .strong false
    else .complete
  match s with
  | .space => if c = '#' then none else some opened
  | .escape => some .complete
  | .complete => some (if isBlank c && c ≠ '\n' && c ≠ '\r' then .space else opened)
  | .weak true => some (.weak false)
  | .weak false =>
    some (if c = '\\' then .weak true else if c = '"' then .complete else .weak false)
  | .strong true => some (.strong false)
  | .strong false =>
    some (if c = '\\' then .strong true else if c = '\'' then .complete else .strong false)

/-- Reads a physical line: the text before a comment, and the state at its end unless one begins. -/
def scanLine (s : LineState) : List Char → List Char × Option LineState
  | [] => ([], some s)
  | c :: cs =>
    match s.next c with
    | none => ([], none)
    | some s =>
      let (text, ended) := scanLine s cs
      (c :: text, ended)

/-- The physical lines of a text, each with its end. -/
def physicalLines (s : List Char) : List (List Char) :=
  let (first, later) := cutLines s
  let all := first :: later
  let ended := all.dropLast.map (· ++ ['\n'])
  match all.getLast? with
  | some (c :: cs) => ended ++ [c :: cs]
  | _ => ended

def dropLineEnd (s : List Char) : List Char :=
  if s.getLast? = some '\n' then dropReturn s.dropLast else s

/-- Joins physical lines while a quote is open; nothing in place of a line that never ends. -/
def logicalLines (before : List Char) (s : LineState) : List (List Char) → List (Option (List Char))
  | [] => if s = .complete then [] else [none]
  | line :: rest =>
    let whole := before ++ line
    if (trimStart whole).head? = some '#' then logicalLines [] .complete rest
    else
      match scanLine s line with
      | (text, none) => some (before ++ text) :: logicalLines [] .complete rest
      | (_, some .complete) => some (dropLineEnd whole) :: logicalLines [] .complete rest
      | (_, some s) => logicalLines whole s rest

/-! ## Values -/

/-- How a value is read on: which quote is open, and whether the name of a variable is under way. -/
inductive ValueState where
  | bare
  | weak
  | strong
  deriving DecidableEq

inductive NameState where
  | none
  | open
  | braced
  deriving DecidableEq

structure Reading where
  state : ValueState
  escaped : Bool
  naming : NameState
  name : List Char
  output : List Char

/-- What a name stands for: a variable of the environment, or one of the lines before. -/
def valueOf (env known : Environment) (name : List Char) : List Char :=
  let name := String.ofList name
  (((env.lookup name).or (known.lookup name)).getD "").toList

def escaped? (c : Char) : Option Char :=
  if ['\\', '\'', '"', '$', ' '].contains c then some c else if c = 'n' then some '\n' else none

/-- Whether a value may end here, with nothing or a comment behind blanks. -/
def endsValue (s : List Char) : Bool :=
  let rest := s.dropWhile fun c => c == ' ' || c == '\t'
  rest.isEmpty || rest.head? == some '#'

/-- Characters of the name of a variable. -/
def isNamePart (c : Char) : Bool :=
  c.isAlphanum || (c.toNat ≥ 128 && isWordChar c)

/-- Reads a value to its end. -/
def readValue (env known : Environment) (r : Reading) : List Char → Option (List Char)
  | [] =>
    if r.naming = .braced || r.state ≠ .bare then none
    else some (r.output ++ valueOf env known r.name)
  | c :: cs =>
    let put (r : Reading) (c : Char) := { r with output := r.output ++ [c] }
    if r.escaped then
      match escaped? c with
      | some e => readValue env known { put r e with escaped := false } cs
      | none => none
    else if r.state = .strong then
      if c = '\'' then readValue env known { r with state := .bare } cs
      else readValue env known (put r c) cs
    else
      match r.naming with
      | .open =>
        if isNamePart c then readValue env known { r with name := r.name ++ [c] } cs
        else if c = '\x7b' && r.name.isEmpty then readValue env known { r with naming := .braced } cs
        else
          let r := { r with output := r.output ++ valueOf env known r.name, name := [] }
          if c = '$' then readValue env known r cs
          else readValue env known { put r c with naming := .none } cs
      | .braced =>
        if c = '\x7d' then
          readValue env known
            { r with naming := .none, output := r.output ++ valueOf env known r.name, name := [] } cs
        else readValue env known { r with name := r.name ++ [c] } cs
      | .none =>
        if c = '$' then readValue env known { r with naming := .open } cs
        else if c = '\\' then readValue env known { r with escaped := true } cs
        else if r.state = .weak then
          if c = '"' then readValue env known { r with state := .bare } cs
          else readValue env known (put r c) cs
        else if c = '\'' then readValue env known { r with state := .strong } cs
        else if c = '"' then readValue env known { r with state := .weak } cs
        else if c = ' ' || c = '\t' then
          if endsValue cs then some r.output else none
        else readValue env known (put r c) cs

def value? (env known : Environment) (s : List Char) : Option (List Char) :=
  if s.isEmpty || s.head? = some '#' then some []
  else readValue env known ⟨.bare, false, .none, [], []⟩ s

/-! ## Assignments -/

def isNameStart (c : Char) : Bool :=
  c.isAlpha || c == '_'

def isNameChar (c : Char) : Bool :=
  c.isAlphanum || c == '_' || c == '.'

/-- A name and what follows it behind white space. -/
def name? (s : List Char) : Option (List Char × List Char) :=
  if s.head?.any isNameStart then
    some (s.takeWhile isNameChar, trimStart (s.dropWhile isNameChar))
  else none

/-- The name of an assignment and its value, which is still to be read. `export` may stand in
front. -/
def assignment? (s : List Char) : Option (List Char × List Char) :=
  match name? s with
  | none => none
  | some (name, '=' :: rest) => some (name, trimStart rest)
  | some (name, rest) =>
    if name = "export".toList then
      match name? rest with
      | some (name, '=' :: rest) => some (name, trimStart rest)
      | _ => none
    else none

/-- Adds what the lines assign, until one is malformed. -/
def addLines (env known : Environment) : List (Option (List Char)) → Environment
  | [] => env
  | none :: _ => env
  | some line :: rest =>
    let s := trimStart (trimEnd line)
    if s.isEmpty || s.head? = some '#' then addLines env known rest
    else
      match assignment? s with
      | none => env
      | some (name, s) =>
        match value? env known s with
        | none => env
        | some value =>
          let entry := (String.ofList name, String.ofList value)
          let env := if (env.lookup entry.1).isSome then env else env ++ [entry]
          addLines env (entry :: known) rest

def dropMark (s : List Char) : List Char :=
  if s.head? = some (Char.ofNat 0xFEFF) then s.drop 1 else s

/-- The environment with what a text assigns. -/
def load (env : Environment) (text : String) : Environment :=
  addLines env [] (logicalLines [] .complete (physicalLines (dropMark text.toList)))

def fileName : String := ".env"

/-- The environment with what the file of the working directory assigns, if it is there. -/
def loadFrom (fs : FileSystem) (env : Environment) : Environment :=
  match fs.readText fileName with
  | .ok text => load env text
  | .error _ => env

end TestForge.EnvironmentFile
