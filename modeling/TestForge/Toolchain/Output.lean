import TestForge.Text.DecimalDigit
import TestForge.Text.Search
import TestForge.Toolchain.Failure

/-!
# What a finished tool says

A compiler error counts as one even if the tool exits well, and any failed test is a failure.
-/

namespace TestForge

open TestForge.Text

structure ToolOutput where
  succeeded : Bool
  stdout : String
  stderr : String
  deriving DecidableEq

structure TestCounts where
  passed : Nat
  failed : Nat
  deriving DecidableEq

structure CoverageReport where
  reportPath : String
  deriving DecidableEq

/-- Both streams, on lines of their own if neither is empty. -/
def ToolOutput.combined (o : ToolOutput) : String :=
  if o.stderr.isEmpty then o.stdout
  else if o.stdout.isEmpty then o.stderr
  else o.stdout ++ "\n" ++ o.stderr

/-! ## Counting tests -/

/-- Whether two characters are the same letter. The long s is an s. -/
def sameLetter (letter c : Char) : Bool :=
  c.toLower == letter || (letter == 's' && c.toNat == 0x17F)

/-- Whether a text begins with a word in any letter case. -/
def beginsWithWord : List Char → List Char → Bool
  | [], _ => true
  | _ :: _, [] => false
  | w :: ws, c :: cs => sameLetter w c && beginsWithWord ws cs

/-- The numeral at the start of a text, if the word follows it. -/
def countHere? (word : List Char) (s : List Char) : Option (List Char) :=
  let numeral := s.takeWhile isDecimalDigit
  if !numeral.isEmpty && beginsWithWord word (s.dropWhile isDecimalDigit) then some numeral
  else none

/-- The first numeral that the word follows. -/
def numeralBefore? (word : List Char) : List Char → Option (List Char)
  | [] => none
  | c :: cs =>
    match countHere? word (c :: cs) with
    | some numeral => some numeral
    | none => numeralBefore? word cs

/-- The first number before the word; zero if there is none or it is not below `2 ^ 32`. -/
def countOf (word : String) (text : String) : Nat :=
  ((numeralBefore? word.toList text.toList).bind (numeralBelow? (Nat.pow 2 32))).getD 0

def TestCounts.ofOutput (stdout : String) : TestCounts :=
  ⟨countOf " passed" stdout, countOf " failed" stdout⟩

/-! ## Classifying -/

/-- What a build tool prints before a compiler error. -/
def errorMark : String := "error:"

def showsError (stream : String) : Bool :=
  occursIn errorMark.toList stream.toList

def ToolOutput.exitFailure (command : String) (o : ToolOutput) : ToolFailure :=
  .nonZeroExit command "failure" o.combined

/-- The result of a compile call. -/
def ToolOutput.asCompile (command : String) (o : ToolOutput) : Except ToolFailure ToolOutput :=
  if showsError o.stderr || showsError o.stdout then .error (.diagnostics o.combined)
  else if !o.succeeded then .error (o.exitFailure command)
  else .ok o

/-- The result of a test run. -/
def ToolOutput.asTestRun (command : String) (o : ToolOutput) : Except ToolFailure TestCounts :=
  let counts := TestCounts.ofOutput o.stdout
  if counts.failed > 0 then .error (.testsFailed counts.failed o.combined)
  else if !o.succeeded then .error (o.exitFailure command)
  else .ok counts

end TestForge
