/-!
# Messages and their causes
-/

namespace TestForge

/-- A message and the messages of its causes, outermost first. -/
structure CauseChain where
  message : String
  causes : List String
  deriving DecidableEq

namespace CauseChain

def root (message : String) : CauseChain :=
  ⟨message, []⟩

/-- Puts a message around a cause. -/
def wrap (context : String) (c : CauseChain) : CauseChain :=
  ⟨context, c.message :: c.causes⟩

/-- One message per line. -/
def text (c : CauseChain) : String :=
  "\n".intercalate (c.message :: c.causes)

end CauseChain

end TestForge
