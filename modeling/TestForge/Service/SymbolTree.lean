import TestForge.Json.Value

/-!
# Symbol overviews

What an external analysis reports about a class: its name and its members, each with a kind and a
signature. The overview is read leniently: a field that is absent or of the wrong type counts as
absent, members that are no objects are dropped, and all else is ignored.
-/

namespace TestForge

/-- A kind as it was sent: a number, a word, or something else. -/
inductive KindTag where
  | code (value : Int)
  | name (value : String)
  | unrecognized (value : Json)

inductive SymbolKind where
  | method
  | constructor
  | other
  deriving DecidableEq

structure SymbolNode where
  kind : Option KindTag
  name : String
  detail : Option String

structure SymbolTree where
  name : Option String
  children : List SymbolNode

namespace KindTag

/-- Numbers of 64 bits with a sign are codes. -/
def ofNumber : JsonNumber → KindTag
  | .int n => if n < Int.ofNat (Nat.pow 2 63) then .code n else .unrecognized (.num (.int n))
  | .float bits => .unrecognized (.num (.float bits))

def ofJson? : Json → Option KindTag
  | .null => none
  | .num n => some (ofNumber n)
  | .str s => some (.name s)
  | j => some (.unrecognized j)

def toJson : KindTag → Json
  | .code n => .num (.int n)
  | .name s => .str s
  | .unrecognized j => j

/-- Codes 6 and 9 are those of the language server protocol. -/
def meaning : KindTag → SymbolKind
  | .code n => if n = 6 then .method else if n = 9 then .constructor else .other
  | .name s =>
    if s = "method" ∨ s = "function" then .method
    else if s = "constructor" then .constructor
    else .other
  | .unrecognized _ => .other

end KindTag

namespace SymbolNode

def ofJson? (j : Json) : Option SymbolNode :=
  j.members?.map fun members =>
    { kind := (Json.lookup "kind" members).bind KindTag.ofJson?
      name := ((Json.lookup "name" members).bind Json.str?).getD ""
      detail := (Json.lookup "detail" members).bind Json.str? }

def meaning (node : SymbolNode) : SymbolKind :=
  match node.kind with
  | some tag => tag.meaning
  | none => .other

def detailText (node : SymbolNode) : String :=
  node.detail.getD ""

def toJson (node : SymbolNode) : Json :=
  .obj [("kind", (node.kind.map KindTag.toJson).getD .null), ("name", .str node.name),
    ("detail", (node.detail.map Json.str).getD .null)]

end SymbolNode

namespace SymbolTree

def empty : SymbolTree :=
  ⟨none, []⟩

def ofJson (j : Json) : SymbolTree :=
  match j.members? with
  | none => empty
  | some members =>
    { name := (Json.lookup "name" members).bind Json.str?
      children :=
        (((Json.lookup "children" members).bind Json.items?).getD []).filterMap SymbolNode.ofJson? }

def toJson (tree : SymbolTree) : Json :=
  .obj [("name", (tree.name.map Json.str).getD .null),
    ("children", .arr (tree.children.map SymbolNode.toJson))]

end SymbolTree

end TestForge
