import TestForge.Proofs.Service.Patterns
import TestForge.Proofs.Text.Brackets

/-!
# Class declarations and their source text

A class is described by its parts, each of them well-formed by construction, and printed in the
plainest way: package, imports, primary constructor, functions with empty bodies. The model of the
class is what is to be read from that text.
-/

namespace TestForge

open Text SourcePatterns

/-! ## Parts -/

/-- A name: one word that ends in no keyword that source text is searched for. -/
structure Identifier where
  text : List Char
  ne : text ≠ []
  word : ∀ c ∈ text, isWordChar c = true
  ends : ∀ keyword ∈ sourceKeywords, ¬keyword <:+ text

theorem Identifier.quiet (n : Identifier) : Quiet n.text :=
  fun keyword hk => endsNoWord_of_word n.word (n.ends keyword hk)

/-- Names with dots between them. -/
structure DottedName where
  first : Identifier
  rest : List Identifier

namespace DottedName

def text (n : DottedName) : List Char :=
  n.first.text ++ n.rest.flatMap fun name => '.' :: name.text

theorem ne (n : DottedName) : n.text ≠ [] :=
  List.append_ne_nil_of_left_ne_nil n.first.ne _

theorem dotted (n : DottedName) : ∀ c ∈ n.text, isDottedChar c = true := by
  have hword : ∀ name : Identifier, ∀ c ∈ name.text, isDottedChar c = true := by
    intro name c hc
    simp [isDottedChar, name.word c hc]
  intro c hc
  rcases List.mem_append.1 hc with hc | hc
  · exact hword n.first c hc
  · obtain ⟨name, -, hc⟩ := List.mem_flatMap.1 hc
    rcases List.mem_cons.1 hc with rfl | hc
    · decide
    · exact hword name c hc

theorem quiet (n : DottedName) : Quiet n.text := by
  intro keyword hk
  obtain ⟨first, rest⟩ := n
  unfold text
  induction rest generalizing first with
  | nil => simpa using first.quiet keyword hk
  | cons name rest ih =>
      simp only [List.flatMap_cons, List.cons_append]
      exact endsNoWord_append (keyword_sourceKeywords hk) (by decide) (first.quiet keyword hk)
        (ih name)

end DottedName

/-- A type: properly nested, with commas only inside brackets. -/
structure TypeText where
  text : List Char
  ne : text ≠ []
  trimmed : trim text = text
  plain : ∀ c ∈ text, c ≠ '=' ∧ c ≠ '\x7b' ∧ c ≠ '\n'
  quiet : Quiet text
  entry : ListEntry text

/-- The expression behind the equals sign of a default. -/
structure DefaultText where
  text : List Char
  quiet : Quiet text
  entry : ListEntry text

structure ParameterDeclaration where
  name : Identifier
  type : TypeText
  default : Option DefaultText

inductive BindingKind where
  | val
  | var
  deriving DecidableEq

/-- What makes a constructor parameter a property. -/
structure Binding where
  isPrivate : Bool
  kind : BindingKind

structure ConstructorParameter where
  /-- A parameter without a binding is no property. -/
  binding : Option Binding
  declaration : ParameterDeclaration

structure FunctionDeclaration where
  name : Identifier
  parameters : List ParameterDeclaration
  returnType : TypeText

structure ClassDeclaration where
  package : DottedName
  imports : List DottedName
  imports_nodup : (imports.map DottedName.text).Nodup
  name : Identifier
  parameters : List ConstructorParameter
  functions : List FunctionDeclaration

/-! ## Source text -/

def defaultSource : Option DefaultText → List Char
  | some value => ' ' :: '=' :: ' ' :: value.text
  | none => []

/-- `name: type`, and ` = value` if there is a default. -/
def ParameterDeclaration.source (p : ParameterDeclaration) : List Char :=
  p.name.text ++ ':' :: ' ' :: (p.type.text ++ defaultSource p.default)

def BindingKind.keyword : BindingKind → List Char
  | .val => valKeyword
  | .var => varKeyword

/-- `val` or `var`, with or without `private` in front. -/
def Binding.source (b : Binding) : List Char :=
  if b.isPrivate then privateKeyword ++ ' ' :: b.kind.keyword else b.kind.keyword

def ConstructorParameter.source (p : ConstructorParameter) : List Char :=
  match p.binding with
  | some b => b.source ++ ' ' :: p.declaration.source
  | none => p.declaration.source

def listSource (entries : List (List Char)) : List Char :=
  joinWith [',', ' '] entries

/-- The braces of a function without statements, on two lines. -/
def emptyBody : List Char :=
  ['\x7b', '\n', ' ', ' ', ' ', ' ', '\x7d']

/-- The text of a function behind the parenthesis that opens its parameters. -/
def FunctionDeclaration.afterOpen (f : FunctionDeclaration) : List Char :=
  listSource (f.parameters.map ParameterDeclaration.source) ++
    ')' :: ':' :: ' ' :: (f.returnType.text ++ ' ' :: emptyBody)

/-- `fun name(parameters): type` and an empty body. -/
def FunctionDeclaration.source (f : FunctionDeclaration) : List Char :=
  funKeyword ++ ' ' :: (f.name.text ++ '(' :: f.afterOpen)

/-- Functions on lines of their own, indented by four. -/
def functionLines (functions : List FunctionDeclaration) : List Char :=
  functions.flatMap fun f => ' ' :: ' ' :: ' ' :: ' ' :: (f.source ++ ['\n'])

theorem functionLines_cons (f : FunctionDeclaration) (functions : List FunctionDeclaration) :
    functionLines (f :: functions) = [' ', ' ', ' '] ++ ' ' :: (funKeyword ++ ' ' ::
      (f.name.text ++ '(' :: (f.afterOpen ++ '\n' :: functionLines functions))) := by
  simp [functionLines, FunctionDeclaration.source]

def importLine (path : DottedName) : List Char :=
  importKeyword ++ ' ' :: path.text

def importLines (paths : List DottedName) : List Char :=
  paths.flatMap fun path => importLine path ++ ['\n']

theorem importLines_cons (path : DottedName) (paths : List DottedName) :
    importLines (path :: paths) =
      importKeyword ++ ' ' :: (path.text ++ '\n' :: importLines paths) := by
  simp [importLines, importLine]

namespace ClassDeclaration

def packageLine (d : ClassDeclaration) : List Char :=
  packageKeyword ++ ' ' :: d.package.text

/-- The line of the class behind the parenthesis that opens its parameters. -/
def afterOpen (d : ClassDeclaration) : List Char :=
  listSource (d.parameters.map ConstructorParameter.source) ++ [')', ' ', '\x7b']

/-- From the end of the class name to the end of the text. -/
def afterName (d : ClassDeclaration) (ending : List Char) : List Char :=
  '(' :: (d.afterOpen ++ '\n' :: (functionLines d.functions ++ '\x7d' :: ending))

def classText (d : ClassDeclaration) (ending : List Char) : List Char :=
  classKeyword ++ ' ' :: (d.name.text ++ d.afterName ending)

/-- The package and the imports, with a blank line between them. -/
def front (d : ClassDeclaration) : List Char :=
  d.packageLine ++ '\n' :: '\n' :: importLines d.imports

/-- The whole text: a blank line stands before the class. -/
def source (d : ClassDeclaration) (ending : List Char) : List Char :=
  d.front ++ '\n' :: d.classText ending

end ClassDeclaration

/-! ## The model -/

def ParameterDeclaration.model (p : ParameterDeclaration) : Parameter :=
  ⟨String.ofList p.name.text, String.ofList p.type.text⟩

/-- Only properties are collaborators. -/
def ConstructorParameter.dependency? (p : ConstructorParameter) : Option Dependency :=
  p.binding.map fun _ =>
    ⟨String.ofList p.declaration.name.text, String.ofList p.declaration.type.text, none⟩

def FunctionDeclaration.model (f : FunctionDeclaration) : Method :=
  ⟨String.ofList f.name.text, String.ofList f.returnType.text,
    some (f.parameters.map ParameterDeclaration.model), false⟩

def ClassDeclaration.importPaths (d : ClassDeclaration) : List String :=
  d.imports.map fun path => String.ofList path.text

def ClassDeclaration.model (d : ClassDeclaration) : ServiceModel :=
  { packageName := String.ofList d.package.text
    className := String.ofList d.name.text
    imports := d.importPaths
    dependencies := resolveImports d.importPaths
      (d.parameters.filterMap ConstructorParameter.dependency?)
    methods := d.functions.map FunctionDeclaration.model }

end TestForge
