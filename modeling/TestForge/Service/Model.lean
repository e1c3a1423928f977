import TestForge.Text.LowerCase

/-!
# The model of a service class

What test synthesis knows about a class: package, name, imports, the collaborators its constructor
takes, and its methods. All lists are in source order.
-/

namespace TestForge

structure Parameter where
  name : String
  typeName : String
  deriving DecidableEq

/-- A collaborator that the constructor takes, with the import its type comes from. -/
structure Dependency where
  name : String
  typeName : String
  importPath : Option String
  deriving DecidableEq

structure Method where
  name : String
  returnType : String
  parameters : Option (List Parameter)
  isPrivate : Bool
  deriving DecidableEq

structure ServiceModel where
  packageName : String
  className : String
  imports : List String
  dependencies : List Dependency
  methods : List Method
  deriving DecidableEq

/-! ## Imports of collaborators -/

/-- Whether an import names a type: it ends in a dot and the type. -/
def importNames (typeName path : String) : Bool :=
  ('.' :: typeName.toList).isSuffixOf path.toList

/-- The first import that names the type of the dependency. -/
def Dependency.resolve (imports : List String) (d : Dependency) : Dependency :=
  { d with importPath := imports.find? (importNames d.typeName) }

def resolveImports (imports : List String) (dependencies : List Dependency) : List Dependency :=
  dependencies.map (Dependency.resolve imports)

namespace ServiceModel

/-! ## Views for synthesis -/

/-- The methods that get test cases. -/
def testableMethods (model : ServiceModel) : List Method :=
  model.methods.filter fun m => !m.isPrivate

/-- A success and an error case for each testable method. -/
def caseCount (model : ServiceModel) : Nat :=
  2 * model.testableMethods.length

/-- The class name with its first character in lower case. -/
def instanceName (model : ServiceModel) : String :=
  match model.className.toList with
  | [] => ""
  | c :: cs => String.ofList (Text.lowerCase c ++ cs)

/-- The resolved imports of the dependencies, one entry per dependency that has one. -/
def importPaths (model : ServiceModel) : List String :=
  model.dependencies.filterMap (·.importPath)

end ServiceModel

end TestForge
