import TestForge.Service.Model
import TestForge.Text.Brackets
import TestForge.Text.Search

/-!
# Signatures

Parameter lists and return types, read from the text between and after the parentheses of a
function or constructor. Nothing here fails: what is missing falls back to a default.
-/

namespace TestForge.Signature

open TestForge.Text

/-! ## Defaults -/

def anyType : String := "Any"

def unitType : String := "Unit"

def parameterName : String := "param"

def dependencyName : String := "dependency"

/-! ## Parameters -/

/-- A type without the default value behind it. -/
def typeText (s : List Char) : List Char :=
  trim (upTo '=' s)

/-- The text, or a default if it is empty. -/
def orElse (default : String) (s : List Char) : String :=
  if s.isEmpty then default else String.ofList s

/-- One parameter: a name, a colon and a type. -/
def parameter (default : String) (s : List Char) : Parameter :=
  match cutAtChar? ':' s with
  | some (name, type) => ⟨orElse default (trim name), orElse anyType (typeText type)⟩
  | none => ⟨orElse default (trim s), anyType⟩

/-- The parameters of a list without its parentheses. -/
def parametersOf (default : String) (s : List Char) : List Parameter :=
  (splitTopLevel s).map (parameter default)

/-- The text from the first opening parenthesis on, cut at the parenthesis that closes it. -/
def firstGroup? (s : List Char) : Option (List Char × List Char) :=
  group? '(' ')' (s.dropWhile (· ≠ '('))

/-- The parameters of the first parenthesised group of a text. -/
def parameters (default : String) (s : List Char) : List Parameter :=
  match firstGroup? s with
  | some (inside, _) => parametersOf default inside
  | none => []

/-! ## Return types -/

/-- The text of a type up to a brace, an equals sign or a line feed outside brackets. -/
def typeEnd (depth : Int) : List Char → List Char
  | [] => []
  | c :: cs =>
    if c = '<' ∨ c = '(' ∨ c = '[' then c :: typeEnd (depth + 1) cs
    else if c = '>' ∨ c = ')' ∨ c = ']' then c :: typeEnd (depth - 1) cs
    else if (c = '\x7b' ∨ c = '=' ∨ c = '\n') ∧ depth ≤ 0 then []
    else c :: typeEnd depth cs

/-- A type without the constraints behind it. -/
def withoutConstraints (s : List Char) : List Char :=
  match cutAt? " where ".toList s with
  | some (type, _) => trimEnd type
  | none => s

/-- The type declared after a parameter list, if there is one. -/
def declaredType? (afterParameters : List Char) : Option String :=
  match trimStart afterParameters with
  | ':' :: rest =>
    let type := withoutConstraints (trim (typeEnd 0 rest))
    if type.isEmpty then none else some (String.ofList type)
  | _ => none

/-- The return type of a signature such as `(id: Long): Order`. Text without a parenthesis is a
return type itself. -/
def returnType (detail : List Char) : String :=
  let s := trim detail
  if s.isEmpty then unitType
  else if !s.contains '(' then String.ofList s
  else
    match firstGroup? s with
    | some (_, rest) => (declaredType? rest).getD unitType
    | none => unitType

/-! ## Constructor parameters -/

def visibilities : List (List Char) :=
  ["private".toList, "protected".toList, "internal".toList, "public".toList]

/-- The rest of a text after one of several words and the white space that has to follow it. -/
def afterWord? (words : List (List Char)) (s : List Char) : Option (List Char) :=
  (words.findSome? fun w => after? w s).bind fun rest =>
    match rest with
    | c :: _ => if isBlank c then some (trimStart rest) else none
    | [] => none

def bindingWords : List (List Char) :=
  ["val".toList, "var".toList]

/-- The text after a binding keyword, with or without a visibility in front. -/
def afterBinding? (s : List Char) : Option (List Char) :=
  match afterWord? visibilities s with
  | some rest => afterWord? bindingWords rest
  | none => afterWord? bindingWords s

/-- A constructor parameter's name without visibility and binding keyword. -/
def bareName (name : String) : String :=
  let s := trim name.toList
  String.ofList (trim ((afterBinding? s).getD s))

/-- The collaborators that the first parenthesised group of a constructor's signature lists. -/
def dependencies (detail : List Char) : List Dependency :=
  (parameters dependencyName detail).map fun p => ⟨bareName p.name, p.typeName, none⟩

end TestForge.Signature
