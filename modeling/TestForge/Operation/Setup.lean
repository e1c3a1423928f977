import TestForge.Framework.MarkerScan
import TestForge.Operation.Dispatcher
import TestForge.Settings.Model

/-!
# A dispatcher by settings
-/

namespace TestForge

/-- The dispatcher that settings describe, over a toolchain. -/
def Settings.dispatcher {σ : Type} (s : Settings) (tools : Toolchain σ) : Dispatcher σ :=
  { tools := tools
    hasEntrypoint := fun fs root => MarkerScan.hasEntrypoint fs root s.generation.frameworkMarker
    rules := RepairRules.without s.generation.disabledRepairRules
    defaultPackage := s.generation.defaultPackage
    recordAttempts := s.generation.recordAttempts }

end TestForge
