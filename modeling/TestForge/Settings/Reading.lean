import TestForge.Settings.Model
import TestForge.Text.Blank
import TestForge.Yaml.Reading

/-!
# Settings in YAML

What a document leaves out keeps its default, and names it does not know are passed over.
-/

namespace TestForge

open TestForge.Yaml

/-! ## Sections -/

def secondsLimit : Nat := Nat.pow 2 64

def ToolchainSettings.fieldNames : List String :=
  ["gradle_command", "java_home", "excluded_tasks", "timeout_secs", "default_module"]

def ToolchainSettings.ofNode? (anchors : List (Nat × Node)) (n : Node) :
    Option ToolchainSettings :=
  match n.fields? anchors fieldNames with
  | none => none
  | some fields =>
    let base : ToolchainSettings := {}
    let text (name default : String) := Node.field? fields name default (·.text? anchors)
    match text "gradle_command" base.gradleCommand,
      Node.field? fields "java_home" base.javaHome (·.optionalText? anchors),
      Node.field? fields "excluded_tasks" base.excludedTasks
        (·.list? anchors (·.text? anchors)),
      Node.field? fields "timeout_secs" base.timeoutSeconds (·.count? anchors secondsLimit),
      text "default_module" base.defaultModule with
    | some command, some home, some tasks, some seconds, some default =>
      some ⟨command, home, tasks, seconds, default⟩
    | _, _, _, _, _ => none

def GenerationSettings.fieldNames : List String :=
  ["framework_marker", "default_package", "record_attempts", "disabled_repair_rules"]

def GenerationSettings.ofNode? (anchors : List (Nat × Node)) (n : Node) :
    Option GenerationSettings :=
  match n.fields? anchors fieldNames with
  | none => none
  | some fields =>
    let base : GenerationSettings := {}
    let text (name default : String) := Node.field? fields name default (·.text? anchors)
    match text "framework_marker" base.frameworkMarker,
      text "default_package" base.defaultPackage,
      Node.field? fields "record_attempts" base.recordAttempts (·.flag? anchors),
      Node.field? fields "disabled_repair_rules" base.disabledRepairRules
        (·.list? anchors (·.text? anchors)) with
    | some marker, some package, some record, some disabled =>
      some ⟨marker, package, record, disabled⟩
    | _, _, _, _ => none

/-! ## Documents -/

def Settings.fieldNames : List String :=
  ["toolchain", "generation", "standards_dir"]

def Settings.ofNode? (anchors : List (Nat × Node)) (n : Node) : Option Settings :=
  match n.fields? anchors fieldNames with
  | none => none
  | some fields =>
    match Node.field? fields "toolchain" {} (ToolchainSettings.ofNode? anchors),
      Node.field? fields "generation" {} (GenerationSettings.ofNode? anchors),
      Node.field? fields "standards_dir" ({} : Settings).standardsDirectory
        (·.text? anchors) with
    | some toolchain, some generation, some directory => some ⟨toolchain, generation, directory⟩
    | _, _, _ => none

/-- The settings a text holds; a blank one holds the defaults. -/
def Settings.read? (text : String) : Option Settings :=
  if Text.isAllBlank text.toList then some {}
  else
    match Document.read? text with
    | none => none
    | some ⟨none, _⟩ => some {}
    | some ⟨some root, anchors⟩ => Settings.ofNode? anchors root

end TestForge
