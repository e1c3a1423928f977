import TestForge.FileSystem.Operations
import TestForge.Shell.Escape
import TestForge.Text.Utf8

/-!
# Calling a utility

A utility reads arguments, standard input and files, and answers with output, errors, a status and the
files it leaves.
-/

namespace TestForge.Shell

structure Invocation where
  arguments : List String
  input : List UInt8
  files : FileSystem

structure Outcome where
  status : Nat
  output : List UInt8
  errors : List UInt8
  files : FileSystem

abbrev Utility := Invocation → Outcome

namespace Invocation

def answer (call : Invocation) (output : List UInt8) : Outcome :=
  ⟨0, output, [], call.files⟩

def quiet (call : Invocation) (status : Nat) : Outcome :=
  ⟨status, [], [], call.files⟩

def complain (call : Invocation) (status : Nat) (message : String) : Outcome :=
  ⟨status, [], textBytes (message ++ "\n"), call.files⟩

end Invocation

/-! ## Reading -/

def nullDevice : String := "/dev/null"

def zeroDevice : String := "/dev/zero"

def fileBytes (fs : FileSystem) (path : String) : Except FileError (List UInt8) :=
  if path = nullDevice then .ok []
  else
    match fs.readBytes path with
    | .ok bytes => .ok bytes.toList
    | .error e => .error e

/-- The named files one after the other, or the standard input, with complaints. -/
def gather (name : String) (call : Invocation) :
    List String → List UInt8 × List UInt8
  | [] => ([], [])
  | path :: rest =>
    let (bytes, errors) := gather name call rest
    if path = "-" then (call.input ++ bytes, errors)
    else
      match fileBytes call.files path with
      | .ok content => (content ++ bytes, errors)
      | .error e =>
        (bytes, textBytes (name ++ ": " ++ path ++ ": " ++ e.text ++ "\n") ++ errors)

def gatherAll (name : String) (call : Invocation) (paths : List String) :
    List UInt8 × List UInt8 :=
  gather name call (if paths.isEmpty then ["-"] else paths)

/-! ## Options -/

def isOption (s : String) : Bool :=
  match s.toList with
  | '-' :: _ :: _ => true
  | _ => false

/-- The letters of the options in front, and the operands. -/
def letters : List String → List Char × List String
  | "--" :: rest => ([], rest)
  | arg :: rest =>
    if isOption arg then
      let (cs, operands) := letters rest
      (arg.toList.drop 1 ++ cs, operands)
    else ([], arg :: rest)
  | [] => ([], [])

/-! ## Several paths -/

/-- Does something with each path and goes on after a failure. -/
def eachPath (describe : String → String) (act : FileSystem → String → Except FileError FileSystem)
    (call : Invocation) : List String → Outcome
  | [] => call.quiet 0
  | path :: rest =>
    match act call.files path with
    | .ok files => eachPath describe act { call with files := files } rest
    | .error e =>
      let later := eachPath describe act call rest
      { later with
        status := 1
        errors := textBytes (describe path ++ ": " ++ e.text ++ "\n") ++ later.errors }

end TestForge.Shell
