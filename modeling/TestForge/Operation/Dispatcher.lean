import TestForge.Verification.Loop

/-!
# What the operations have at hand
-/

namespace TestForge

/-- Tells from the files below a root whether the project has a framework entrypoint. -/
abbrev Detector := FileSystem → String → Bool

structure Dispatcher (σ : Type) where
  tools : Toolchain σ
  hasEntrypoint : Detector
  rules : RepairRules
  /-- The package of services whose path shows none. -/
  defaultPackage : String
  /-- Whether the diagnostics of failed attempts are kept. -/
  recordAttempts : Bool

/-- The verification of a test with the tools at hand. -/
def Dispatcher.verification {σ : Type} (d : Dispatcher σ) (root target : String) : Verification σ :=
  ⟨d.tools, d.rules, root, target⟩

end TestForge
