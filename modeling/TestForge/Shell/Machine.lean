import TestForge.Shell.Reader
import TestForge.Shell.Utility

/-!
# The state of a running script

What a script has at hand between two commands: files, variables and arguments, the text it still
can read, and where what it prints goes.
-/

namespace TestForge.Shell

/-- Where printed bytes go. -/
inductive Sink where
  | buffer (index : Nat)
  | file (place : Location)
  | nowhere
  deriving DecidableEq

/-- What happens after a command. -/
inductive Flow where
  | onward
  /-- The shell ends. -/
  | exit
  /-- A signal ends the script. -/
  | killed
  /-- The function that is under way ends. -/
  | return
  /-- The loop outside so many others ends. -/
  | leave (inner : Nat)
  /-- The loop outside so many others goes on with its next round. -/
  | next (inner : Nat)
  /-- The script does not end in time. -/
  | endless
  deriving DecidableEq

structure Machine where
  files : FileSystem
  bindings : List (String × String)
  /-- The variables that programs see. -/
  exported : List String
  functions : List (String × Command)
  name : String
  arguments : List String
  status : Nat
  input : List UInt8
  buffers : List (List UInt8)
  out : Sink
  err : Sink
  flow : Flow
  stopsOnFailure : Bool
  /-- What runs when the script ends. -/
  onExit : String
  /-- Whether `echo` reads escapes. -/
  escapes : Bool
  /-- How many seconds the script has left. -/
  seconds : Nat

namespace Machine

/-! ## Printing -/

def write (m : Machine) (sink : Sink) (bytes : List UInt8) : Machine :=
  match sink with
  | .buffer i => { m with buffers := m.buffers.modify i (· ++ bytes) }
  | .nowhere => m
  | .file place =>
    match m.files.get? place with
    | some (.file content executable) =>
      { m with files := m.files.put place (.file (content ++ ⟨bytes.toArray⟩) executable) }
    | _ => m

def print (m : Machine) (bytes : List UInt8) : Machine :=
  m.write m.out bytes

def complain (m : Machine) (status : Nat) (message : String) : Machine :=
  { m.write m.err (textBytes (m.name ++ ": " ++ message ++ "\n")) with status := status }

def withOutcome (m : Machine) (o : Outcome) : Machine :=
  let m := (m.write m.out o.output)
  { m.write m.err o.errors with status := o.status }

/-- The answer of a utility, with the files it leaves. -/
def use (m : Machine) (u : Utility) (arguments : List String) : Machine :=
  let o := u ⟨arguments, m.input, m.files⟩
  { m with files := o.files }.withOutcome o

def done (m : Machine) (status : Nat) : Machine :=
  { m with status := status }

/-- Full seconds that a text like `90`, `2m` or `1h` stands for. -/
def secondsOf (text : String) : Nat :=
  let n := (numberOf (String.ofList (text.toList.takeWhile Char.isDigit))).toNat
  match text.toList.getLast? with
  | some 'm' => 60 * n
  | some 'h' => 3600 * n
  | some 'd' => 86400 * n
  | _ => n

/-- Lets time pass. A script that has none left does not end. -/
def sleep (m : Machine) (arguments : List String) : Machine :=
  let slept := arguments.foldl (fun total text => total + secondsOf text) 0
  if slept < m.seconds then { m with seconds := m.seconds - slept, status := 0 }
  else { m with flow := .endless }

/-! ## Variables -/

def set (m : Machine) (name value : String) : Machine :=
  { m with bindings := (name, value) :: m.bindings.filter fun v => v.1 ≠ name }

def unset (m : Machine) (name : String) : Machine :=
  { m with bindings := m.bindings.filter fun v => v.1 ≠ name }

/-- The value an assignment gives to a name. -/
def assign (m : Machine) (text : String) : Machine :=
  match Text.cutAtChar? '=' text.toList with
  | some (name, value) => m.set (String.ofList name) (String.ofList value)
  | none => m

/-- Lets programs see a variable, with the value an assignment gives it. -/
def expose (m : Machine) (text : String) : Machine :=
  let m := m.assign text
  { m with exported := String.ofList (Text.upTo '=' text.toList) :: m.exported }

/-- Gives some names back the values they had before. -/
def restore (m before : Machine) (names : List String) : Machine :=
  { m with
    bindings :=
      before.bindings.filter (fun v => names.contains v.1) ++
        m.bindings.filter (fun v => !names.contains v.1)
    exported := before.exported }

def workingDirectoryName (m : Machine) : String :=
  "/" ++ "/".intercalate m.files.workingDirectory

/-- The number by which a script calls itself. -/
def processNumber : String := "4242"

def value? (m : Machine) (name : String) : Option String :=
  match name with
  | "@" | "*" =>
    if m.arguments.isEmpty then none else some (" ".intercalate m.arguments)
  | "#" => some (toString m.arguments.length)
  | "?" => some (toString m.status)
  | "$" => some processNumber
  | "0" => some m.name
  | "-" | "!" => some ""
  | _ =>
    if name.all Char.isDigit then m.arguments[(name.toNat?.getD 1) - 1]?
    else
      match m.bindings.lookup name with
      | some value => some value
      | none => if name = "PWD" then some m.workingDirectoryName else none

/-- The value of a name, unless it counts as none. -/
def present? (m : Machine) (name : String) (orEmpty : Bool) : Option String :=
  (m.value? name).filter fun value => !(orEmpty && value.isEmpty)

/-- The variables that programs see, with their values. -/
def environment (m : Machine) : List (String × String) :=
  m.exported.eraseDups.filterMap fun name => (m.value? name).map fun value => (name, value)

/-- What a shell started by the script begins with. -/
def forProgram (m : Machine) : Machine :=
  { m with
    bindings := m.bindings.filter fun v => m.exported.contains v.1
    functions := []
    stopsOnFailure := false
    onExit := "" }

/-- Characters that separate the fields of an expansion and the words of a line. -/
def separators (m : Machine) : List Char :=
  ((m.value? "IFS").getD " \t\n").toList

/-- The line that is read next, without its end. -/
def takeLine (m : Machine) : Option String × Machine :=
  if m.input.isEmpty then (none, m)
  else
    let line := m.input.takeWhile (· ≠ 10)
    (some (Text.ofBytes ⟨line.toArray⟩), { m with input := m.input.drop (line.length + 1) })

/-! ## Subshells -/

/-- After a part that ran on its own: what it did to files and buffers stays. -/
def rejoin (outer inner : Machine) : Machine :=
  { outer with
    files := { inner.files with workingDirectory := outer.files.workingDirectory }
    buffers := inner.buffers.take outer.buffers.length
    status := inner.status
    seconds := inner.seconds
    flow :=
      match inner.flow with
      | .killed => .killed
      | .endless => .endless
      | _ => outer.flow }

/-- A part whose output is caught in a buffer of its own. -/
def capturing (m : Machine) : Machine :=
  { m with buffers := m.buffers ++ [[]], out := .buffer m.buffers.length }

def captured (outer inner : Machine) : List UInt8 :=
  (inner.buffers[outer.buffers.length]?).getD []

end Machine

/-! ## Fields -/

/-- Expanded text, which is split at blanks unless it is quoted. -/
inductive Piece where
  | text (value : String) (quoted : Bool)
  /-- The border between two arguments. -/
  | border
  deriving DecidableEq

def isFieldBlank (c : Char) : Bool :=
  c == ' ' || c == '\t' || c == '\n'

/-- Splits unquoted characters, with a field under way. A separator that is no blank ends a field even
where there is none. -/
def splitChars (separators : List Char) :
    Option MarkedText → List Char → List MarkedText × Option MarkedText
  | field, [] => ([], field)
  | field, c :: cs =>
    if separators.contains c then
      let (done, last) := splitChars separators none cs
      ((if isFieldBlank c then field.toList else [field.getD []]) ++ done, last)
    else splitChars separators (some (field.getD [] ++ [(c, false)])) cs

/-- The fields of an expanded word, with a field under way. -/
def splitPieces (separators : List Char) : Option MarkedText → List Piece → List MarkedText
  | field, [] => field.toList
  | field, .border :: rest => field.toList ++ splitPieces separators none rest
  | field, .text value true :: rest =>
    splitPieces separators (some (field.getD [] ++ value.toList.map (·, true))) rest
  | field, .text value false :: rest =>
    let (done, last) := splitChars separators field value.toList
    done ++ splitPieces separators last rest

/-- The words between blanks. -/
def blankWords (s : List Char) : List String :=
  let (words, last) := splitChars [' ', '\t', '\n'] none s
  (words ++ last.toList).map unmarked

/-- Characters of an expanded word, each with the mark of a quoted one. -/
def markedChars : List Piece → MarkedText
  | [] => []
  | .border :: rest => (' ', true) :: markedChars rest
  | .text value quoted :: rest => value.toList.map (·, quoted) ++ markedChars rest

def plainText (pieces : List Piece) : String :=
  unmarked (markedChars pieces)

/-- The arguments an expanded word makes: its fields, and the paths of files they stand for. -/
def Machine.argumentsOf (m : Machine) (pieces : List Piece) : List String :=
  (splitPieces m.separators none pieces).flatMap (expandField m.files)

/-! ## Parameters -/

/-- Drops what a pattern matches at the start of a text, at most or at least. -/
def dropAtStart (pattern : MarkedText) (longest : Bool) (s : List Char) : List Char :=
  let lengths := (List.range (s.length + 1)).filter fun n =>
    patternMatches pattern (String.ofList (s.take n))
  match (if longest then lengths.getLast? else lengths.head?) with
  | some n => s.drop n
  | none => s

def dropAtEnd (pattern : MarkedText) (longest : Bool) (s : List Char) : List Char :=
  let lengths := (List.range (s.length + 1)).filter fun n =>
    patternMatches pattern (String.ofList (s.drop n))
  match (if longest then lengths.head? else lengths.getLast?) with
  | some n => s.take n
  | none => s

/-- The parts of a text behind a modifier. -/
def modifierWord (text : String) (quoted : Bool) : Word :=
  let s := text.toList ++ ['"']
  let requoted : Part → Part
    | .literal t _ => .literal t quoted
    | .parameter n f _ => .parameter n f quoted
    | .substitution t _ => .substitution t quoted
    | .arithmetic t _ => .arithmetic t quoted
  match quotedParts false (s.length + 1) s with
  | some (ps, _) => ps.map requoted
  | none => [.literal text quoted]

end TestForge.Shell
