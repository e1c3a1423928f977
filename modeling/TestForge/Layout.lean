import TestForge.Path
import TestForge.Text.WordChar

/-!
# Where tests belong

The Gradle layout keeps tests beside the main sources: `app/src/main/kotlin/Foo.kt` is tested by
`app/src/test/kotlin/FooTest.kt`, in the module named by the first path segment.
-/

namespace TestForge.Layout

open TestForge.Text

/-- The directory part of a path with its slash, and the file name. -/
def splitDirectory (s : List Char) : List Char × List Char :=
  (cutAfterLast? '/' s).getD ([], s)

/-- A file name with `Test` before its last dot, or at its end if no dot stands behind its first
character. -/
def testFileName (file : List Char) : List Char :=
  match cutAfterLast? '.' file with
  | some (before, extension) =>
    if before.length ≤ 1 then file ++ "Test".toList
    else before.dropLast ++ "Test".toList ++ '.' :: extension
  | none => file ++ "Test".toList

def testPathChars (service : List Char) : List Char :=
  let (directory, file) :=
    splitDirectory (replaceFirst "/main/".toList "/test/".toList service)
  directory ++ testFileName file

/-- The path of the test that belongs to a service source. -/
def testPath (service : String) : String :=
  String.ofList (testPathChars service.toList)

/-- Characters of a module name in a path. -/
def isModuleChar (c : Char) : Bool :=
  isWordChar c || c == '-'

/-- The first segment of a path, or a default if it does not read as a module name. -/
def moduleOf (default target : String) : String :=
  let s := target.toList
  let name := s.takeWhile isModuleChar
  if !name.isEmpty && (s.dropWhile isModuleChar).head? == some '/' then String.ofList name
  else default

/-- The name of the class a test file declares. -/
def testClass (target : String) : String :=
  String.ofList (Path.stem target.toList)

end TestForge.Layout
