import TestForge.Service.Encoding

/-!
# What an analysis shows of a model
-/

namespace TestForge

/-- How many imports an analysis shows. -/
def shownImports : Nat := 10

/-- The model with its list of imports cut short. -/
def ServiceModel.summary (model : ServiceModel) : ServiceModel :=
  { model with imports := model.imports.take shownImports }

def ServiceModel.summaryJson (model : ServiceModel) : Json :=
  let m := model.summary
  .obj [("className", .str m.className), ("packageName", .str m.packageName),
    ("methods", .arr (m.methods.map Method.toJson)),
    ("dependencies", .arr (m.dependencies.map Dependency.toJson)), ("imports", Json.strs m.imports)]

end TestForge
