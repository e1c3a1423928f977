import TestForge.Service.Model
import TestForge.Json.Decode

/-!
# Service models as JSON

The names of members are those of the model's fields, except that a type is called `type`.
-/

namespace TestForge

open Json

/-- A text, or null. -/
def Json.optStr (s : Option String) : Json :=
  (s.map Json.str).getD .null

/-- A member that is left out when there is no value. -/
def Json.optMember (name : String) (value : Option Json) : List (String × Json) :=
  match value with
  | some j => [(name, j)]
  | none => []

namespace Parameter

def toJson (p : Parameter) : Json :=
  .obj [("name", .str p.name), ("type", .str p.typeName)]

def shape : Shape :=
  ⟨"Parameter", [need "name" text, need "type" text]⟩

def decode (j : Json) : Decoded Parameter := do
  let m ← shape.members j
  return ⟨← field text "name" m, ← field text "type" m⟩

end Parameter

namespace Dependency

def toJson (d : Dependency) : Json :=
  .obj [("name", .str d.name), ("type", .str d.typeName), ("importPath", optStr d.importPath)]

def shape : Shape :=
  ⟨"Dependency", [need "name" text, need "type" text, mayHave "importPath" (nullable text)]⟩

def decode (j : Json) : Decoded Dependency := do
  let m ← shape.members j
  return ⟨← field text "name" m, ← field text "type" m,
    ← fieldOr (nullable text) "importPath" none m⟩

end Dependency

namespace Method

def toJson (f : Method) : Json :=
  .obj ([("name", .str f.name), ("returnType", .str f.returnType)] ++
    optMember "parameters" (f.parameters.map fun ps => .arr (ps.map Parameter.toJson)) ++
    [("isPrivate", .bool f.isPrivate)])

def parameterList : Json → Decoded (Option (List Parameter)) :=
  nullable (listOf Parameter.decode)

def shape : Shape :=
  ⟨"Method", [need "name" text, need "returnType" text, mayHave "parameters" parameterList,
    need "isPrivate" boolean]⟩

def decode (j : Json) : Decoded Method := do
  let m ← shape.members j
  return ⟨← field text "name" m, ← field text "returnType" m,
    ← fieldOr parameterList "parameters" none m, ← field boolean "isPrivate" m⟩

end Method

namespace ServiceModel

def toJson (model : ServiceModel) : Json :=
  .obj [("packageName", .str model.packageName), ("className", .str model.className),
    ("imports", strs model.imports),
    ("dependencies", .arr (model.dependencies.map Dependency.toJson)),
    ("methods", .arr (model.methods.map Method.toJson))]

def shape : Shape :=
  ⟨"ServiceModel", [need "packageName" text, need "className" text, need "imports" (listOf text),
    need "dependencies" (listOf Dependency.decode), need "methods" (listOf Method.decode)]⟩

def decode (j : Json) : Decoded ServiceModel := do
  let m ← shape.members j
  return {
    packageName := ← field text "packageName" m
    className := ← field text "className" m
    imports := ← field (listOf text) "imports" m
    dependencies := ← field (listOf Dependency.decode) "dependencies" m
    methods := ← field (listOf Method.decode) "methods" m }

end ServiceModel

end TestForge
