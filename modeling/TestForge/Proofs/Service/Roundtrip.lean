import TestForge.Proofs.Service.PrintedText

/-!
# Patterns undo printing

The model that patterns find in the source text of a class declaration is the model of that
declaration.
-/

namespace TestForge

open Text SourcePatterns

/-! ## Collaborators -/

theorem dependency?_cons_blank (s : List Char) : dependency? (' ' :: s) = dependency? s := by
  simp only [dependency?, trim_cons_blank (show isBlank ' ' = true by decide)]

/-- A property is found at its keyword, also behind `private`. -/
theorem property?_binding (b : Binding) (n : Identifier) {type : List Char} (ht : type ≠ []) :
    property? true (b.source ++ ' ' :: (n.text ++ ':' :: type)) = some (n.text, type) := by
  have hcolon : isWordChar ':' = false ∧ isBlank ':' = false := by decide
  have hblank : ∀ c ∈ n.text, isBlank c = false := fun c hc => isBlank_of_isWordChar (n.word c hc)
  have hname := nameAfterBlank?_name n.ne hblank n.word (head?_cons_stop hcolon.1 type)
  have hne : type.isEmpty = false := by simpa using ht
  have hhere : propertyHere? (b.kind.keyword ++ ' ' :: (n.text ++ ':' :: type)) =
      some (n.text, type) := by
    have hword : (Signature.bindingWords.findSome? fun w =>
        after? w (b.kind.keyword ++ ' ' :: (n.text ++ ':' :: type))) =
          some (' ' :: (n.text ++ ':' :: type)) := by
      cases b.kind <;> rfl
    simp only [propertyHere?, hword, Option.bind_some, hname, trimStart_cons hcolon.2, hne]
    rfl
  have hkind : property? true (b.kind.keyword ++ ' ' :: (n.text ++ ':' :: type)) =
      some (n.text, type) := by
    cases hk : b.kind with
    | val =>
        rw [hk] at hhere
        exact property?_here hhere
    | var =>
        rw [hk] at hhere
        exact property?_here hhere
  unfold Binding.source
  split
  · have hprivate : ∀ w ∈ Signature.bindingWords, endsNoWord w privateKeyword = true :=
      fun w hw => endsNoWord_private (bindingWords_subset hw)
    rw [List.append_assoc, List.cons_append, property?_append hprivate]
    exact hkind
  · exact hkind

theorem dependency?_source (p : ConstructorParameter) :
    dependency? p.source = p.dependency? := by
  unfold ConstructorParameter.source ConstructorParameter.dependency?
  cases p.binding with
  | none =>
      have hq : ∀ w ∈ Signature.bindingWords, endsNoWord w (trim p.declaration.source) = true := by
        intro w hw
        exact endsNoWord_trim (endsNoWord_parameter (bindingWords_subset hw) p.declaration)
      simp only [dependency?, property?_eq_none hq, Option.map_none]
  | some b =>
      obtain ⟨rest, hrest, ht⟩ := p.declaration.type.trimEnd_append
        (b.source ++ ' ' :: (p.declaration.name.text ++ [':', ' ']))
        (defaultOrEnd_source p.declaration.default)
      have htrim : trim (b.source ++ ' ' :: p.declaration.source) =
          b.source ++ ' ' :: (p.declaration.name.text ++ ':' :: ' ' ::
            (p.declaration.type.text ++ rest)) := by
        have hstart : trimStart (b.source ++ ' ' :: p.declaration.source) =
            b.source ++ ' ' :: p.declaration.source := by
          obtain ⟨isPrivate, kind⟩ := b
          cases isPrivate <;> cases kind <;> rfl
        rw [trim, hstart]
        simpa [ParameterDeclaration.source] using ht
      have hne : p.declaration.type.text.isEmpty = false := by simpa using p.declaration.type.ne
      simp only [dependency?, htrim, property?_binding b p.declaration.name (List.cons_ne_nil _ _),
        p.declaration.type.typeText hrest, hne]
      rfl

theorem afterHeader?_paren (s : List Char) : afterHeader? ('(' :: s) = some ('(' :: s) := by
  have hn : headerItem? ('(' :: s) = none := rfl
  rw [afterHeader?]
  split
  · rfl
  · rename_i hi
    rw [hn] at hi
    cases hi

theorem constructorDependencies_afterName (d : ClassDeclaration) (ending : List Char) :
    constructorDependencies (d.afterName ending) =
      d.parameters.filterMap ConstructorParameter.dependency? := by
  have hentries : ∀ e ∈ d.parameters.map ConstructorParameter.source,
      ListEntry e ∧ isAllBlank e = false :=
    List.forall_mem_map.2 fun p _ =>
      ⟨listEntry_constructorParameter p, isAllBlank_constructorParameter p⟩
  have hparen : isBlank '(' = false := by decide
  have hlist : constructorList? (d.afterName ending) =
      some (listSource (d.parameters.map ConstructorParameter.source)) := by
    have hnested := nested_joinWith fun e he => (hentries e he).1
    simp only [constructorList?, ClassDeclaration.afterName, ClassDeclaration.afterOpen,
      List.append_assoc, List.cons_append, trimStart_cons hparen, afterTypeParameters?,
      List.head?_cons, Option.some.injEq, Char.reduceEq, ↓reduceIte, afterHeader?_paren, group?,
      listSource, cutAtClose?_nested hnested, Option.map_some]
  simp only [constructorDependencies, hlist]
  rw [filterMap_splitTopLevel dependency?_cons_blank hentries, List.filterMap_map]
  exact congrArg (fun f => d.parameters.filterMap f) (funext dependency?_source)

/-! ## Methods -/

theorem method?_afterOpen (f : FunctionDeclaration) (t : List Char) :
    method? f.name.text (f.afterOpen ++ t) = some f.model := by
  have hnested : Nested (listSource (f.parameters.map ParameterDeclaration.source)) :=
    nested_joinWith (List.forall_mem_map.2 fun p _ => listEntry_parameter p)
  have htype := f.returnType.declaredType? (emptyBody.tail ++ t)
  have hopen : f.afterOpen ++ t =
      listSource (f.parameters.map ParameterDeclaration.source) ++ ')' :: ':' :: ' ' ::
        (f.returnType.text ++ ' ' :: '\x7b' :: (emptyBody.tail ++ t)) := by
    simp [FunctionDeclaration.afterOpen, emptyBody]
  simp only [method?, hopen, cutAtClose?_nested hnested, htype, Option.map_some,
    parametersOf_listSource]
  rfl

/-- Each function is found where it is printed, and none in its parameters or its type. -/
theorem functionHeads_functionLines (functions : List FunctionDeclaration) {tail : List Char}
    (ht : endsNoWord funKeyword tail = true) (before : Option Char) :
    (functionHeads before (functionLines functions ++ tail)).filterMap
      (fun (name, rest) => method? name rest) = functions.map FunctionDeclaration.model := by
  induction functions generalizing before with
  | nil =>
      rw [functionLines, List.flatMap_nil, List.nil_append, functionHeads_eq_nil ht]
      rfl
  | cons f functions ih =>
      have hindent : endsNoWord funKeyword [' ', ' ', ' '] = true :=
        endsNoWord_of_noWord keyword_fun (by decide)
      have hopen := endsNoWord_afterOpen fun_mem f
      have hsource : functionLines (f :: functions) ++ tail = [' ', ' ', ' '] ++ ' ' ::
          (funKeyword ++ ' ' :: (f.name.text ++ '(' :: (f.afterOpen ++
            '\n' :: (functionLines functions ++ tail)))) := by
        simp [functionLines_cons]
      rw [hsource, functionHeads_append hindent (by decide),
        functionHeads_here (by decide) f.name.ne f.name.word, List.filterMap_cons,
        functionHeads_append hopen (by decide), ih]
      simp only [method?_afterOpen, List.map_cons]

/-! ## Imports -/

theorem DottedName.not_blank (n : DottedName) : ∀ c ∈ n.text, isBlank c = false := by
  intro c hc
  have hd := n.dotted c hc
  simp only [isDottedChar, Bool.or_eq_true, beq_iff_eq] at hd
  rcases hd with rfl | hw
  · decide
  · exact isBlank_of_isWordChar hw

/-- A keyword and a dotted name make up one line. -/
theorem lines_dotted {word : List Char} (hk : Keyword word) (n : DottedName) (s : List Char) :
    lines (word ++ ' ' :: (n.text ++ '\n' :: s)) = (word ++ ' ' :: n.text) :: lines s := by
  have hfeed : ∀ c ∈ word ++ ' ' :: n.text, c ≠ '\n' ∧ c ≠ '\r' := by
    intro c hc
    have hb : c = ' ' ∨ isBlank c = false := by
      simp only [List.mem_append, List.mem_cons] at hc
      rcases hc with hc | rfl | hc
      · exact Or.inr (isBlank_of_isWordChar (hk.wordChars c hc))
      · exact Or.inl rfl
      · exact Or.inr (n.not_blank c hc)
    constructor
    · rintro rfl
      simp [show isBlank '\n' = true by decide] at hb
    · rintro rfl
      simp [show isBlank '\r' = true by decide] at hb
  have hsplit : word ++ ' ' :: (n.text ++ '\n' :: s) = (word ++ ' ' :: n.text) ++ '\n' :: s := by
    simp
  have hreturn : dropReturn (word ++ ' ' :: n.text) = word ++ ' ' :: n.text := by
    unfold dropReturn
    split
    · rename_i hlast
      exact absurd rfl (hfeed '\r' (List.mem_of_getLast? hlast)).2
    · rfl
  rw [hsplit, lines_append_feed (fun hm => (hfeed '\n' hm).1 rfl), hreturn]

theorem importOf?_importLine (path : DottedName) :
    importOf? (importLine path) = some (String.ofList path.text) := by
  have hk := keyword_sourceKeywords import_mem
  have hn := named?_here hk path.ne path.not_blank path.dotted
    (show ∀ c, [].head? = some c → isDottedChar c = false by simp)
  rw [List.append_nil] at hn
  simp only [importOf?_eq, importLine, hn, Option.map_some]

theorem importOf?_eq_none {line : List Char} (h : endsNoWord importKeyword line = true) :
    importOf? line = none := by
  have hk := keyword_sourceKeywords import_mem
  simp only [importOf?_eq, named?_eq_none hk h, Option.map_none]

theorem filterMap_importOf?_lines {s : List Char} (h : endsNoWord importKeyword s = true) :
    (lines s).filterMap importOf? = [] := by
  rw [List.filterMap_eq_nil_iff]
  exact fun line hl => importOf?_eq_none (endsNoWord_lines h line hl)

theorem filterMap_importOf?_importLines (paths : List DottedName) {s : List Char}
    (h : endsNoWord importKeyword s = true) :
    (lines (importLines paths ++ s)).filterMap importOf? =
      paths.map fun path => String.ofList path.text := by
  induction paths with
  | nil => exact filterMap_importOf?_lines h
  | cons path paths ih =>
      have himport := importOf?_importLine path
      rw [importLine] at himport
      simp only [importLines_cons, List.append_assoc, List.cons_append]
      rw [lines_dotted (keyword_sourceKeywords import_mem), List.filterMap_cons, himport, ih]
      rfl

theorem distinct_eq_self {seen names : List String} (h : names.Nodup)
    (hs : ∀ name ∈ names, name ∉ seen) : distinct seen names = names := by
  induction names generalizing seen with
  | nil => rfl
  | cons name names ih =>
      obtain ⟨hn, hd⟩ := List.nodup_cons.1 h
      have hseen : name ∉ seen := hs name (by simp)
      have hrest : ∀ other ∈ names, other ∉ name :: seen := by
        intro other ho hm
        rcases List.mem_cons.1 hm with rfl | hm
        · exact hn ho
        · exact hs other (List.mem_cons_of_mem _ ho) hm
      simp only [distinct, hseen, ↓reduceIte, ih hd hrest]

theorem ClassDeclaration.nodup_importPaths (d : ClassDeclaration) : d.importPaths.Nodup := by
  have hmap : d.importPaths = (d.imports.map DottedName.text).map String.ofList := by
    simp [importPaths]
  rw [hmap]
  exact List.Pairwise.map String.ofList (fun _ _ hab he => hab (String.ofList_injective he))
    d.imports_nodup

/-! ## Whole classes -/

namespace ClassDeclaration

theorem packageName_source (d : ClassDeclaration) (ending : List Char) :
    packageName (d.source ending) = String.ofList d.package.text := by
  have hk := keyword_sourceKeywords package_mem
  have hsource : d.source ending = packageKeyword ++ ' ' :: (d.package.text ++
      '\n' :: '\n' :: (importLines d.imports ++ '\n' :: d.classText ending)) := by
    simp [source, front, packageLine]
  rw [packageName_eq, hsource, named?_here hk d.package.ne d.package.not_blank d.package.dotted
    (head?_cons_stop (by decide) _)]

theorem lines_source (d : ClassDeclaration) (ending : List Char) :
    lines (d.source ending) =
      d.packageLine :: [] :: lines (importLines d.imports ++ '\n' :: d.classText ending) := by
  have hempty : ∀ s, lines ('\n' :: s) = [] :: lines s := fun s =>
    lines_append_feed (l := []) (by simp) s
  simp only [source, front, packageLine, List.append_assoc, List.cons_append]
  rw [lines_dotted (keyword_sourceKeywords package_mem), hempty]

theorem imports_source (d : ClassDeclaration) (feeds : Nat) :
    SourcePatterns.imports (d.source (List.replicate feeds '\n')) = d.importPaths := by
  have hk := keyword_sourceKeywords import_mem
  have hpackage := endsNoWord_packageLine import_mem (by decide) d
  have hempty : endsNoWord importKeyword [] = true := rfl
  have hclass : endsNoWord importKeyword ('\n' :: d.classText (List.replicate feeds '\n')) =
      true := by
    have hline := d.endsNoWord_classLine import_mem (by decide) (by decide)
    have hfunctions := endsNoWord_functionLines import_mem (by decide) d.functions
      (endsNoWord_ending hk feeds)
    have hall := endsNoWord_append hk (show isWordChar '\n' = false by decide) hline hfunctions
    refine endsNoWord_cons hk (by decide) ?_
    simpa [classText, afterName] using hall
  simp only [SourcePatterns.imports, lines_source, List.filterMap_cons, importOf?_eq_none hpackage,
    importOf?_eq_none hempty, filterMap_importOf?_importLines d.imports hclass]
  exact distinct_eq_self d.nodup_importPaths (by simp)

theorem named?_class_source (d : ClassDeclaration) (ending : List Char) :
    named? classKeyword isWordChar (d.source ending) =
      some (d.name.text, d.afterName ending) := by
  have hk := keyword_sourceKeywords class_mem
  have hfront := endsNoWord_front class_mem (by decide) (by decide) d
  have hblank : ∀ c ∈ d.name.text, isBlank c = false :=
    fun c hc => isBlank_of_isWordChar (d.name.word c hc)
  rw [source, named?_append hk hfront (by decide), classText]
  exact named?_here hk d.name.ne hblank d.name.word (head?_cons_stop (by decide) _)

theorem methods_source (d : ClassDeclaration) (feeds : Nat) :
    methods (d.source (List.replicate feeds '\n')) = d.functions.map FunctionDeclaration.model := by
  have hfront := endsNoWord_front fun_mem (by decide) (by decide) d
  have hline := d.endsNoWord_classLine fun_mem (by decide) (by decide)
  have hhead := endsNoWord_append keyword_fun (show isWordChar '\n' = false by decide) hfront hline
  have hsource : d.source (List.replicate feeds '\n') =
      (d.front ++ '\n' :: (classKeyword ++ ' ' :: (d.name.text ++ '(' :: d.afterOpen))) ++
        '\n' :: (functionLines d.functions ++ '\x7d' :: List.replicate feeds '\n') := by
    simp [source, classText, afterName]
  rw [methods, hsource, functionHeads_append hhead (by decide)]
  exact functionHeads_functionLines d.functions (endsNoWord_ending keyword_fun feeds) _

/-- Patterns find in the text of a class what was printed, whatever number of line feeds ends it. -/
theorem ofSource_source (d : ClassDeclaration) (feeds : Nat) :
    ServiceModel.ofSource (String.ofList (d.source (List.replicate feeds '\n'))) = d.model := by
  have hclass : named? "class".toList isWordChar (d.source (List.replicate feeds '\n')) =
      some (d.name.text, d.afterName (List.replicate feeds '\n')) :=
    d.named?_class_source _
  simp only [ServiceModel.ofSource, String.toList_ofList, packageName_source, imports_source,
    hclass, methods_source, constructorDependencies_afterName]
  rfl

end ClassDeclaration

/-! ## A class in full -/

/-- A literal name. -/
def Identifier.ofString (text : String)
    (h : text.toList ≠ [] ∧ text.toList.all isWordChar = true ∧
      ∀ keyword ∈ sourceKeywords, ¬keyword <:+ text.toList := by decide +kernel) : Identifier :=
  ⟨text.toList, h.1, List.all_eq_true.1 h.2.1, h.2.2⟩

/-- A literal type. -/
def TypeText.ofString (text : String)
    (h : text.toList ≠ [] ∧ trim text.toList = text.toList ∧
      (text.toList.any fun c => c = '=' ∨ c = '\x7b' ∨ c = '\n') = false ∧ Quiet text.toList ∧
      ListEntry text.toList := by decide +kernel) : TypeText :=
  ⟨text.toList, h.1, h.2.1, by simpa using h.2.2.1, h.2.2.2.1, h.2.2.2.2⟩

namespace ClassDeclaration

/-- One property, one parameter that is none, a default with a comma and a type with an arrow. -/
def timer : ClassDeclaration :=
  { package := ⟨.ofString "shop", [.ofString "time"]⟩
    imports := [⟨.ofString "java", [.ofString "Clock"]⟩]
    imports_nodup := by decide +kernel
    name := .ofString "Timer"
    parameters :=
      [⟨some ⟨true, .val⟩, .ofString "clock", .ofString "Clock", none⟩,
        ⟨none, .ofString "limit", .ofString "Int",
          some ⟨"max(1, 2)".toList, by decide +kernel, by decide +kernel⟩⟩]
    functions :=
      [⟨.ofString "start",
        [⟨.ofString "steps", .ofString "Map<String, (Int) -> Step?>", none⟩], .ofString "Unit"⟩] }

theorem ofSource_timer :
    ServiceModel.ofSource ("package shop.time\n\nimport java.Clock\n\n" ++
        "class Timer(private val clock: Clock, limit: Int = max(1, 2)) \x7b\n" ++
        "    fun start(steps: Map<String, (Int) -> Step?>): Unit \x7b\n    \x7d\n\x7d\n") =
      { packageName := "shop.time"
        className := "Timer"
        imports := ["java.Clock"]
        dependencies := [⟨"clock", "Clock", some "java.Clock"⟩]
        methods := [⟨"start", "Unit", some [⟨"steps", "Map<String, (Int) -> Step?>"⟩], false⟩] } := by
  have htext : "package shop.time\n\nimport java.Clock\n\n" ++
      "class Timer(private val clock: Clock, limit: Int = max(1, 2)) \x7b\n" ++
      "    fun start(steps: Map<String, (Int) -> Step?>): Unit \x7b\n    \x7d\n\x7d\n" =
      String.ofList (timer.source (List.replicate 1 '\n')) := by
    decide +kernel
  rw [htext, ofSource_source timer 1]
  decide

end ClassDeclaration

end TestForge
