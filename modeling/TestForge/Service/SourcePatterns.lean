import TestForge.Service.Signature
import TestForge.Text.WordChar

/-!
# Reading a model from source text

Best-effort patterns over Kotlin source. Each pattern is searched from the left; a part that is not
found stays empty. Visibility is not looked at, so every method counts as public.
-/

namespace TestForge.SourcePatterns

open TestForge.Text

/-! ## A keyword and the name after it -/

/-- A non-empty run of name characters after white space. -/
def nameAfterBlank? (isPart : Char → Bool) (s : List Char) : Option (List Char × List Char) :=
  match s with
  | c :: _ =>
    let rest := trimStart s
    let name := rest.takeWhile isPart
    if isBlank c && !name.isEmpty then some (name, rest.dropWhile isPart) else none
  | [] => none

/-- The first name that stands after a keyword and white space, and the text after the name. -/
def named? (keyword : List Char) (isPart : Char → Bool) : List Char → Option (List Char × List Char)
  | [] => none
  | c :: cs =>
    match (after? keyword (c :: cs)).bind (nameAfterBlank? isPart) with
    | some found => some found
    | none => named? keyword isPart cs

def packageName (code : List Char) : String :=
  match named? "package".toList isDottedChar code with
  | some (name, _) => String.ofList name
  | none => ""

/-! ## Imports -/

def importOf? (line : List Char) : Option String :=
  (named? "import".toList isDottedChar line).map fun found => String.ofList found.1

/-- The entries of a list without those that occurred before. -/
def distinct (seen : List String) : List String → List String
  | [] => []
  | s :: rest => if s ∈ seen then distinct seen rest else s :: distinct (s :: seen) rest

/-- One import per line, each name once, in order of first occurrence. -/
def imports (code : List Char) : List String :=
  distinct [] ((lines code).filterMap importOf?)

/-! ## The primary constructor -/

/-- What may stand between a class name and its constructor's parameters. -/
inductive HeaderItem where
  | decorator
  | keyword
  deriving DecidableEq

def headerWords : List (List Char) :=
  Signature.visibilities ++ ["constructor".toList]

/-- Whether a word ends here. -/
def wordEnds (rest : List Char) : Bool :=
  match rest with
  | c :: _ => !isWordChar c
  | [] => true

def headerWord? (s : List Char) : Option (List Char) :=
  headerWords.findSome? fun w => (after? w s).filter wordEnds

/-- A dotted name without the dots that end it. -/
def dottedName (s : List Char) : List Char :=
  ((s.takeWhile isDottedChar).reverse.dropWhile (· == '.')).reverse

/-- An item of the header and the text after it. -/
def headerItem? (s : List Char) : Option (HeaderItem × List Char) :=
  match s with
  | '@' :: rest =>
    let name := dottedName rest
    if name.isEmpty then none else some (.decorator, rest.drop name.length)
  | _ => (headerWord? s).map fun rest => (.keyword, rest)

/-- The text after the arguments an annotation may have; none if they do not close. -/
def afterArguments? (item : HeaderItem) (s : List Char) : Option (List Char) :=
  if item = .decorator ∧ s.head? = some '(' then
    (group? '(' ')' s).map fun found => trimStart found.2
  else some s

theorem trimStart_length (s : List Char) : (trimStart s).length ≤ s.length :=
  (List.dropWhile_suffix isBlank).length_le

theorem headerWord?_length {s rest : List Char} (h : headerWord? s = some rest) :
    rest.length < s.length := by
  obtain ⟨w, hw, hf⟩ := List.exists_of_findSome?_eq_some h
  have ha := (Option.filter_eq_some_iff.1 hf).1
  have hn : ∀ w ∈ headerWords, 0 < w.length := by decide
  have := hn w hw
  rw [eq_append_of_after? ha, List.length_append]
  omega

theorem headerItem?_length {s rest : List Char} {item : HeaderItem}
    (h : headerItem? s = some (item, rest)) : rest.length < s.length := by
  simp only [headerItem?] at h
  split at h
  · split at h
    · simp at h
    · cases h
      simp only [List.length_drop, List.length_cons]
      omega
  · obtain ⟨r, hr, he⟩ := Option.map_eq_some_iff.1 h
    cases he
    exact headerWord?_length hr

theorem afterArguments?_length {item : HeaderItem} {s rest : List Char}
    (h : afterArguments? item s = some rest) : rest.length ≤ s.length := by
  simp only [afterArguments?] at h
  split at h
  · obtain ⟨⟨inside, r⟩, hr, he⟩ := Option.map_eq_some_iff.1 h
    cases he
    exact Nat.le_trans (trimStart_length r) (Nat.le_of_lt (group?_length hr))
  · cases h
    exact Nat.le_refl _

/-- The text after all header items; none if the arguments of one do not close. -/
def afterHeader? (s : List Char) : Option (List Char) :=
  match h : headerItem? s with
  | none => some s
  | some (item, rest) =>
    match ha : afterArguments? item (trimStart rest) with
    | none => none
    | some next =>
      have : next.length < s.length :=
        Nat.lt_of_le_of_lt (Nat.le_trans (afterArguments?_length ha) (trimStart_length rest))
          (headerItem?_length h)
      afterHeader? next
  termination_by s.length

/-- The text after the type parameters a class may have; none if they do not close. -/
def afterTypeParameters? (s : List Char) : Option (List Char) :=
  if s.head? = some '<' then (group? '<' '>' s).map fun found => trimStart found.2 else some s

/-- The parameter list of the primary constructor, from the text after the class name. -/
def constructorList? (afterName : List Char) : Option (List Char) :=
  match afterTypeParameters? (trimStart afterName) with
  | none => none
  | some s =>
    match afterHeader? s with
    | none => none
    | some rest => (group? '(' ')' rest).map (·.1)

/-- A property at the start of a text: its name and the text after the colon. -/
def propertyHere? (s : List Char) : Option (List Char × List Char) :=
  match (Signature.bindingWords.findSome? fun w => after? w s).bind (nameAfterBlank? isWordChar) with
  | none => none
  | some (name, rest) =>
    match trimStart rest with
    | ':' :: type => if type.isEmpty then none else some (name, type)
    | _ => none

/-- The first property at the start of a text or after white space in it. -/
def property? (atStart : Bool) : List Char → Option (List Char × List Char)
  | [] => none
  | c :: cs =>
    match if atStart then propertyHere? (c :: cs) else none with
    | some found => some found
    | none => property? (isBlank c) cs

/-- The collaborator a constructor parameter declares, if it is a property. -/
def dependency? (part : List Char) : Option Dependency :=
  match property? true (trim part) with
  | none => none
  | some (name, type) =>
    let type := Signature.typeText type
    if type.isEmpty then none else some ⟨String.ofList name, String.ofList type, none⟩

def constructorDependencies (afterName : List Char) : List Dependency :=
  match constructorList? afterName with
  | none => []
  | some list => (splitTopLevel list).filterMap dependency?

/-! ## Functions -/

/-- The text after a type-parameter list, up to its first closing bracket. -/
def afterBounds (s : List Char) : List Char :=
  match s with
  | '<' :: rest =>
    match cutAtChar? '>' rest with
    | some (_, after) => trimStart after
    | none => s
  | _ => s

/-- The name of a function and the text after the parenthesis that opens its parameters, from the
text after the keyword. -/
def functionHead? (afterKeyword : List Char) : Option (List Char × List Char) :=
  match afterKeyword with
  | [] => none
  | c :: _ =>
    let s := afterBounds (trimStart afterKeyword)
    let name := s.takeWhile isWordChar
    if !isBlank c || name.isEmpty then none
    else
      match trimStart (s.dropWhile isWordChar) with
      | '(' :: rest => some (name, rest)
      | _ => none

/-- The function whose keyword stands here, if the keyword does not end a longer word. -/
def functionHere? (before : Option Char) (s : List Char) : Option (List Char × List Char) :=
  if before.any isWordChar then none else (after? "fun".toList s).bind functionHead?

theorem afterBounds_length (s : List Char) : (afterBounds s).length ≤ s.length := by
  unfold afterBounds
  split
  · split
    · rename_i h
      have := cutAtChar?_length h
      have := trimStart_length (by assumption)
      simp only [List.length_cons]
      omega
    · exact Nat.le_refl _
  · exact Nat.le_refl _

theorem functionHead?_length {s name rest : List Char}
    (h : functionHead? s = some (name, rest)) : rest.length < s.length := by
  cases s with
  | nil => simp [functionHead?] at h
  | cons c cs =>
    simp only [functionHead?] at h
    split at h
    · simp at h
    · split at h
      · rename_i r hr
        cases h
        have h1 := trimStart_length (List.dropWhile isWordChar (afterBounds (trimStart (c :: cs))))
        have h2 := (List.dropWhile_suffix isWordChar
          (l := afterBounds (trimStart (c :: cs)))).length_le
        have h3 := afterBounds_length (trimStart (c :: cs))
        have h4 := trimStart_length (c :: cs)
        rw [hr] at h1
        simp only [List.length_cons] at h1 h4 ⊢
        omega
      · simp at h

theorem functionHere?_length {before : Option Char} {s name rest : List Char}
    (h : functionHere? before s = some (name, rest)) : rest.length < s.length := by
  unfold functionHere? at h
  split at h
  · simp at h
  · obtain ⟨r, hr, hh⟩ := Option.bind_eq_some_iff.1 h
    exact Nat.lt_of_lt_of_le (functionHead?_length hh) (after?_length hr)

/-- Every function head of a text: its name and the text after its opening parenthesis. The search
goes on behind that parenthesis. -/
def functionHeads (before : Option Char) (s : List Char) : List (List Char × List Char) :=
  match h : functionHere? before s with
  | some (name, rest) =>
    have := functionHere?_length h
    (name, rest) :: functionHeads (some '(') rest
  | none =>
    match s with
    | [] => []
    | c :: cs => functionHeads (some c) cs
  termination_by s.length

/-- The method of a function head, if its parameters close and a return type is declared. -/
def method? (name afterOpen : List Char) : Option Method :=
  match cutAtClose? '(' ')' 0 '(' afterOpen with
  | none => none
  | some (inside, rest) =>
    (Signature.declaredType? rest).map fun type =>
      ⟨String.ofList name, type, some (Signature.parametersOf Signature.parameterName inside), false⟩

def methods (code : List Char) : List Method :=
  (functionHeads none code).filterMap fun (name, rest) => method? name rest

end TestForge.SourcePatterns

namespace TestForge

/-- The model that patterns find in source text. -/
def ServiceModel.ofSource (source : String) : ServiceModel :=
  let code := source.toList
  let paths := SourcePatterns.imports code
  let class? := SourcePatterns.named? "class".toList Text.isWordChar code
  let className := match class? with
    | some (name, _) => String.ofList name
    | none => ""
  let dependencies := match class? with
    | some (_, afterName) => SourcePatterns.constructorDependencies afterName
    | none => []
  ⟨SourcePatterns.packageName code, className, paths, resolveImports paths dependencies,
    SourcePatterns.methods code⟩

end TestForge
