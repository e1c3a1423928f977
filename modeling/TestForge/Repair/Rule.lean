import TestForge.Text.Search

/-!
# Repair rules

A rule has a phrase to look for in a diagnostic and replacements to make in the artifact. All
enabled rules whose phrase occurs apply in one pass, in the order of their list.
-/

namespace TestForge

open TestForge.Text

/-- The part of a verification an attempt belongs to. -/
inductive Phase where
  | compile
  | test
  deriving DecidableEq

namespace Phase

def label : Phase → String
  | .compile => "compile"
  | .test => "test"

/-- The name of the step that reports the phase. -/
def stepName : Phase → String
  | .compile => "compile_validation"
  | .test => "test_execution"

end Phase

structure RepairRule where
  name : String
  enabled : Bool
  /-- What a diagnostic must contain. -/
  phrase : String
  /-- Texts and what takes their place, one after the other. -/
  replacements : List (String × String)
  deriving DecidableEq

namespace RepairRule

def triggers (r : RepairRule) (diagnostic : String) : Bool :=
  occursIn r.phrase.toList diagnostic.toList

def applies (r : RepairRule) (diagnostic : String) : Bool :=
  r.enabled && r.triggers diagnostic

def amendChars (replacements : List (String × String)) (s : List Char) : List Char :=
  replacements.foldl (fun s (old, new) => replaceEvery old.toList new.toList s) s

def amend (r : RepairRule) (artifact : String) : String :=
  String.ofList (amendChars r.replacements artifact.toList)

/-- A stubbed `Unit` answer where a number is expected. -/
def unitForLong : RepairRule :=
  ⟨"unit_for_long", true, "Unit but Long", [("returns Unit", "returns 1L")]⟩

/-- A flag literal where a `Boolean` is expected. -/
def stringForBoolean : RepairRule :=
  ⟨"string_for_boolean", true, "String but Boolean", [("\"Y\"", "true"), ("\"N\"", "false")]⟩

end RepairRule

/-! ## The rules of both phases -/

structure RepairRules where
  compileRules : List RepairRule
  testRules : List RepairRule
  deriving DecidableEq

namespace RepairRules

/-- All rules, enabled. Failures of tests are never repaired. -/
def standard : RepairRules :=
  ⟨[.unitForLong, .stringForBoolean], []⟩

def ofPhase (rules : RepairRules) : Phase → List RepairRule
  | .compile => rules.compileRules
  | .test => rules.testRules

def names (rules : RepairRules) : List String :=
  (rules.compileRules ++ rules.testRules).map (·.name)

def switch (name : String) (enabled : Bool) (rules : List RepairRule) : List RepairRule :=
  rules.map fun r => if r.name = name then { r with enabled := enabled } else r

/-- Whether a rule of this name exists, and the rules with it switched on or off. -/
def setEnabled (rules : RepairRules) (name : String) (enabled : Bool) : Bool × RepairRules :=
  (rules.names.contains name,
    ⟨switch name enabled rules.compileRules, switch name enabled rules.testRules⟩)

/-- The standard rules without those named. Unknown names do nothing. -/
def without (disabled : List String) : RepairRules :=
  disabled.foldl (fun rules name => (rules.setEnabled name false).2) standard

/-- The rules that apply to a diagnostic. -/
def matching (rules : RepairRules) (phase : Phase) (diagnostic : String) : List RepairRule :=
  (rules.ofPhase phase).filter fun r => r.applies diagnostic

/-- One pass over an artifact; nothing if no rule applies. -/
def pass? (rules : RepairRules) (phase : Phase) (diagnostic artifact : String) : Option String :=
  match rules.matching phase diagnostic with
  | [] => none
  | r :: rest => some ((r :: rest).foldl (fun text r => r.amend text) artifact)

end RepairRules

end TestForge
