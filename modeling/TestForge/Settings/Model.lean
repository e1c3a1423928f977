/-!
# Settings

How the build tool is called, what generated tests look like, and where the standards lie.
-/

namespace TestForge

structure ToolchainSettings where
  /-- The build tool; with a slash in it, a path below the project root. -/
  gradleCommand : String := "./gradlew"
  /-- Exported as `JAVA_HOME` to every call when given. -/
  javaHome : Option String := none
  /-- Tasks left out of compile and test runs. -/
  excludedTasks : List String :=
    ["kaptKotlin", "kaptGenerateStubsKotlin", "kaptTestKotlin", "kaptGenerateStubsTestKotlin"]
  timeoutSeconds : Nat := 600
  /-- The module of a target whose path names none. -/
  defaultModule : String := "app"
  deriving DecidableEq

structure GenerationSettings where
  /-- The source text that marks an entry point of the framework. -/
  frameworkMarker : String := "@SpringBootApplication"
  /-- The package of a service whose path names none. -/
  defaultPackage : String := "com.example"
  /-- Whether the output of failed attempts is kept. -/
  recordAttempts : Bool := true
  disabledRepairRules : List String := []
  deriving DecidableEq

structure Settings where
  toolchain : ToolchainSettings := {}
  generation : GenerationSettings := {}
  standardsDirectory : String := "standards"
  deriving DecidableEq

end TestForge
