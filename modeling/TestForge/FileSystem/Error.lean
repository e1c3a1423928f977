/-!
# Errors of file operations
-/

namespace TestForge

inductive FileError where
  | notFound
  | permissionDenied
  | exists
  | notDirectory
  | isDirectory
  | nameTooLong
  | tooManyLinks
  /-- A file that is executed and is no program. -/
  | notProgram
  /-- A text file that is not UTF-8. -/
  | notText
  /-- A path with a NUL character in it. -/
  | nulInPath
  /-- A program argument with a NUL character in it. -/
  | nulInArgument
  /-- No directory above a path can be created. -/
  | noTree
  deriving DecidableEq

namespace FileError

def text : FileError → String
  | .notFound => "No such file or directory"
  | .permissionDenied => "Permission denied"
  | .exists => "File exists"
  | .notDirectory => "Not a directory"
  | .isDirectory => "Is a directory"
  | .nameTooLong => "File name too long"
  | .tooManyLinks => "Too many levels of symbolic links"
  | .notProgram => "Exec format error"
  | .notText => "stream did not contain valid UTF-8"
  | .nulInPath => "file name contained an unexpected NUL byte"
  | .nulInArgument => "nul byte found in provided data"
  | .noTree => "failed to create whole tree"

/-- The number the operating system gives an error of its own. -/
def number? : FileError → Option Nat
  | .notFound => some 2
  | .notProgram => some 8
  | .permissionDenied => some 13
  | .exists => some 17
  | .notDirectory => some 20
  | .isDirectory => some 21
  | .nameTooLong => some 36
  | .tooManyLinks => some 40
  | .notText | .nulInPath | .nulInArgument | .noTree => none

def message (e : FileError) : String :=
  match e.number? with
  | some n => e.text ++ " (os error " ++ toString n ++ ")"
  | none => e.text

end FileError

end TestForge
