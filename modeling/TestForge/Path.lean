import TestForge.Text.Search

/-!
# Path names

Path names are text: joining, the name of the last component with its stem and extension, and the
directory above. Empty components and `.` behind the first do not count.
-/

namespace TestForge.Path

open TestForge.Text

/-! ## Components -/

def isAbsolute (s : List Char) : Bool :=
  s.head? == some '/'

def countsAsComponent (piece : List Char) : Bool :=
  !piece.isEmpty && piece != ['.']

/-- The components below the root or the start; a `.` counts only in front of a relative name. -/
def components (s : List Char) : List (List Char) :=
  match splitAtChar '/' s with
  | [] => []
  | first :: rest =>
    (if first.isEmpty then [] else [first]) ++ rest.filter countsAsComponent

/-! ## The last component -/

/-- The last component, unless it is `.` or `..`. -/
def fileName? (s : List Char) : Option (List Char) :=
  match (components s).getLast? with
  | some name => if name = ['.'] ∨ name = ['.', '.'] then none else some name
  | none => none

/-- A file name split at its last dot; a dot in front splits nothing. -/
def splitName (name : List Char) : List Char × Option (List Char) :=
  match cutAfterLast? '.' name with
  | some (before, extension) =>
    if before.length ≤ 1 then (name, none) else (before.dropLast, some extension)
  | none => (name, none)

/-- The last component without its extension, or nothing. -/
def stem (s : List Char) : List Char :=
  match fileName? s with
  | some name => (splitName name).1
  | none => []

def extension? (s : List Char) : Option (List Char) :=
  (fileName? s).bind fun name => (splitName name).2

/-! ## Joining and going up -/

def joinChars (base s : List Char) : List Char :=
  if isAbsolute s then s
  else if base.isEmpty then s
  else if base.getLast? = some '/' then base ++ s
  else base ++ '/' :: s

/-- A path below another; an absolute one stands for itself. -/
def join (base s : String) : String :=
  String.ofList (joinChars base.toList s.toList)

/-- Drops what names no component from the end of a path that is held in reverse. -/
def dropTrailing : List Char → List Char
  | [] => []
  | ['/'] => ['/']
  | '/' :: rest => dropTrailing rest
  | '.' :: '/' :: rest => dropTrailing ('/' :: rest)
  | c :: rest => c :: rest

/-- The path without its last component; the root and the empty path have none. -/
def parent? (s : String) : Option String :=
  if (components s.toList).isEmpty then none
  else
    let directory := (dropTrailing s.toList.reverse).dropWhile (· ≠ '/')
    some (String.ofList (dropTrailing directory).reverse)

end TestForge.Path
