import TestForge.Path
import TestForge.Service.SourcePatterns
import TestForge.Service.SymbolTree

/-!
# Reading a model from a symbol overview

Members and signatures come from the overview, the package from the path of the source, and the
imports from its text, which the overview does not carry.
-/

namespace TestForge

open TestForge.Text

/-! ## The package a path names -/

/-- The text up to the last slash of its first line, if anything stands before that slash. -/
def directoriesOf? (s : List Char) : Option (List Char) :=
  match cutAfterLast? '/' (upTo '\n' s) with
  | some (before, _) => if before.length ≤ 1 then none else some before.dropLast
  | none => none

/-- The directories that follow the first `kotlin/` that has any. -/
def packageDirectories? : List Char → Option (List Char)
  | [] => none
  | c :: cs =>
    match (after? "kotlin/".toList (c :: cs)).bind directoriesOf? with
    | some directories => some directories
    | none => packageDirectories? cs

/-- The package whose directories a source path shows. -/
def packageOfPath? (path : String) : Option String :=
  (packageDirectories? path.toList).map fun directories =>
    String.ofList (directories.map fun c => if c = '/' then '.' else c)

/-! ## Members -/

def SymbolNode.method? (node : SymbolNode) : Option Method :=
  match node.meaning with
  | .method =>
    let detail := node.detailText.toList
    some ⟨node.name, Signature.returnType detail,
      some (Signature.parameters Signature.parameterName detail),
      node.name.toList.head? = some '_'⟩
  | _ => none

def SymbolNode.dependencies (node : SymbolNode) : List Dependency :=
  match node.meaning with
  | .constructor => Signature.dependencies node.detailText.toList
  | _ => []

/-- The name the overview gives, or the stem of the source path if it gives none. -/
def SymbolTree.className (tree : SymbolTree) (servicePath : String) : String :=
  match tree.name with
  | some name => if isAllBlank name.toList then String.ofList (Path.stem servicePath.toList) else name
  | none => String.ofList (Path.stem servicePath.toList)

/-- The model that an overview and the source it describes give. -/
def ServiceModel.ofSymbols (defaultPackage : String) (tree : SymbolTree) (servicePath : String)
    (source : String) : ServiceModel :=
  let paths := SourcePatterns.imports source.toList
  { packageName := (packageOfPath? servicePath).getD defaultPackage
    className := tree.className servicePath
    imports := paths
    dependencies := resolveImports paths (tree.children.flatMap SymbolNode.dependencies)
    methods := tree.children.filterMap SymbolNode.method? }

end TestForge
