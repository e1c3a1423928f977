import TestForge.CauseChain
import TestForge.FileSystem.Operations
import TestForge.Service.Outline

/-!
# Extracting a model from a project

The source is read even if a symbol overview is given, since the overview carries no imports.
-/

namespace TestForge

/-- Where a model came from. -/
inductive ModelSource where
  | symbolTree
  | sourcePatterns
  deriving DecidableEq

structure Extraction where
  model : ServiceModel
  source : ModelSource

/-- The service source cannot be read. -/
structure UnreadableService where
  path : String
  cause : FileError
  deriving DecidableEq

def UnreadableService.chain (e : UnreadableService) : CauseChain :=
  (CauseChain.root e.cause.message).wrap ("Failed to read service file " ++ e.path)

/-- The model of a source text, by overview if there is one. -/
def Extraction.ofText (defaultPackage servicePath : String) (symbols : Option SymbolTree)
    (source : String) : Extraction :=
  match symbols with
  | some tree => ⟨ServiceModel.ofSymbols defaultPackage tree servicePath source, .symbolTree⟩
  | none => ⟨ServiceModel.ofSource source, .sourcePatterns⟩

def extract (fs : FileSystem) (defaultPackage root servicePath : String)
    (symbols : Option SymbolTree) : Except UnreadableService Extraction :=
  let path := Path.join root servicePath
  match fs.readText path with
  | .error e => .error ⟨path, e⟩
  | .ok source => .ok (Extraction.ofText defaultPackage servicePath symbols source)

end TestForge
