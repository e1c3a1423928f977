import Mathlib.Data.List.Basic
import TestForge.Proofs.Service.Roundtrip
import TestForge.Proofs.Text.Pieces
import TestForge.Service.Outline

/-!
# Overviews tell what patterns find

A class can be read from its source text alone, or from an overview of its members with the path and
the imports of that text. Both ways lead to the same model, although signatures are read by other
rules than whole files, and the package is read from a path.
-/

namespace TestForge

open Text SourcePatterns

/-! ## Signatures -/

/-- The first group of a text is what its first parenthesis and the one that closes it hold. -/
theorem firstGroup?_behind {front s : List Char} (hf : '(' ∉ front) (h : Nested s)
    (rest : List Char) :
    Signature.firstGroup? (front ++ '(' :: (s ++ ')' :: rest)) = some (s, rest) := by
  have hskip : ∀ c ∈ front, decide (c ≠ '(') = true := by
    intro c hc
    have hne : c ≠ '(' := fun he => hf (he ▸ hc)
    simpa using hne
  rw [Signature.firstGroup?, List.dropWhile_append_of_pos hskip]
  simp [group?, cutAtClose?_nested h]

theorem firstGroup?_list {s : List Char} (h : Nested s) (rest : List Char) :
    Signature.firstGroup? ('(' :: (s ++ ')' :: rest)) = some (s, rest) :=
  firstGroup?_behind List.not_mem_nil h rest

/-- A declared type that ends with the signature. -/
theorem TypeText.declaredType?_end (t : TypeText) :
    Signature.declaredType? (':' :: ' ' :: t.text) = some (String.ofList t.text) := by
  have hb : isBlank ' ' = true := by decide
  have hc : isBlank ':' = false := by decide
  obtain ⟨depth, -, he⟩ := typeEnd_scan t.entry t.plain (Int.le_refl 0)
  have htype : Signature.typeEnd 0 (' ' :: t.text) = ' ' :: t.text := by
    have hend := he []
    simp only [List.append_nil, Signature.typeEnd] at hend
    simp [Signature.typeEnd, hend]
  have hne : t.text.isEmpty = false := by simpa using t.ne
  simp only [Signature.declaredType?, trimStart_cons hc, htype, trim_cons_blank hb, t.trimmed,
    t.withoutConstraints, hne]
  rfl

/-- `(parameters): type` -/
def FunctionDeclaration.signature (f : FunctionDeclaration) : List Char :=
  '(' :: (listSource (f.parameters.map ParameterDeclaration.source) ++
    ')' :: ':' :: ' ' :: f.returnType.text)

/-- `(parameters)` -/
def ClassDeclaration.signature (d : ClassDeclaration) : List Char :=
  '(' :: (listSource (d.parameters.map ConstructorParameter.source) ++ [')'])

theorem FunctionDeclaration.nested_parameters (f : FunctionDeclaration) :
    Nested (listSource (f.parameters.map ParameterDeclaration.source)) :=
  nested_joinWith (List.forall_mem_map.2 fun p _ => listEntry_parameter p)

theorem FunctionDeclaration.parameters_signature (f : FunctionDeclaration) (default : String) :
    Signature.parameters default f.signature = f.parameters.map ParameterDeclaration.model := by
  simp only [Signature.parameters, signature, firstGroup?_list f.nested_parameters,
    parametersOf_listSource]

theorem FunctionDeclaration.returnType_signature (f : FunctionDeclaration) :
    Signature.returnType f.signature = String.ofList f.returnType.text := by
  have htrim : trim f.signature = f.signature := by
    have hend := trimEnd_append_of_trim f.returnType.trimmed f.returnType.ne
      ('(' :: (listSource (f.parameters.map ParameterDeclaration.source) ++ [')', ':', ' ']))
    rw [trim, signature, trimStart_cons (by decide)]
    simpa using hend
  have hgroup := firstGroup?_list f.nested_parameters (':' :: ' ' :: f.returnType.text)
  rw [Signature.returnType, htrim]
  simp [signature, hgroup, f.returnType.declaredType?_end]

/-! ## Collaborators -/

theorem afterBinding?_binding (b : Binding) (n : Identifier) :
    Signature.afterBinding? (b.source ++ ' ' :: n.text) = some n.text := by
  have hname : trimStart n.text = n.text := trimStart_of_trim (trim_word n.word)
  have hkind : Signature.afterWord? Signature.bindingWords (b.kind.keyword ++ ' ' :: n.text) =
      some n.text := by
    have hword : (Signature.bindingWords.findSome? fun w =>
        after? w (b.kind.keyword ++ ' ' :: n.text)) = some (' ' :: n.text) := by
      cases b.kind <;> rfl
    simp only [Signature.afterWord?, hword, Option.bind_some, show isBlank ' ' = true by decide,
      ↓reduceIte, trimStart_cons_blank, hname]
  unfold Binding.source
  split
  · have hrest : Signature.afterWord? Signature.visibilities
        (privateKeyword ++ ' ' :: b.kind.keyword ++ ' ' :: n.text) =
          some (b.kind.keyword ++ ' ' :: n.text) := by
      cases b.kind <;> rfl
    simp only [Signature.afterBinding?, hrest, hkind]
  · have hnone : Signature.afterWord? Signature.visibilities
        (b.kind.keyword ++ ' ' :: n.text) = none := by
      cases b.kind <;> rfl
    simp only [Signature.afterBinding?, hnone, hkind]

/-- A name is left when visibility and binding are gone. -/
theorem trim_binding (b : Binding) (n : Identifier) :
    trim (b.source ++ ' ' :: n.text) = b.source ++ ' ' :: n.text := by
  have hstart : trimStart (b.source ++ ' ' :: n.text) = b.source ++ ' ' :: n.text := by
    obtain ⟨isPrivate, kind⟩ := b
    cases isPrivate <;> cases kind <;> rfl
  have hend := trimEnd_append_of_trim (trim_word n.word) n.ne (b.source ++ [' '])
  rw [trim, hstart]
  simpa using hend

theorem bareName_binding (b : Binding) (n : Identifier) :
    Signature.bareName (String.ofList (b.source ++ ' ' :: n.text)) = String.ofList n.text := by
  simp only [Signature.bareName, String.toList_ofList, trim_binding, afterBinding?_binding,
    Option.getD_some, trim_word n.word]

/-- A property as it stands in a signature: the words before the name are still part of it. -/
theorem ConstructorParameter.parameter_source {p : ConstructorParameter} {b : Binding}
    (hb : p.binding = some b) (default : String) :
    Signature.parameter default p.source =
      ⟨String.ofList (b.source ++ ' ' :: p.declaration.name.text),
        String.ofList p.declaration.type.text⟩ := by
  have hcolon : ':' ∉ b.source ++ ' ' :: p.declaration.name.text := by
    have hn : ':' ∉ p.declaration.name.text := p.declaration.name.notMem (by decide)
    obtain ⟨isPrivate, kind⟩ := b
    have hs : ':' ∉ Binding.source ⟨isPrivate, kind⟩ := by
      cases isPrivate <;> cases kind <;> decide
    simpa [hn] using hs
  have hsource : p.source = (b.source ++ ' ' :: p.declaration.name.text) ++
      ':' :: ' ' :: (p.declaration.type.text ++ defaultSource p.declaration.default) := by
    simp [source, hb, ParameterDeclaration.source]
  have ht : p.declaration.type.text.isEmpty = false := by simpa using p.declaration.type.ne
  rw [hsource]
  simp only [Signature.parameter, cutAtChar?_append hcolon, trim_binding,
    p.declaration.type.typeText (defaultOrEnd_source p.declaration.default), Signature.orElse, ht]
  simp

theorem ClassDeclaration.dependencies_signature (d : ClassDeclaration)
    (hb : ∀ p ∈ d.parameters, p.binding.isSome = true) :
    Signature.dependencies d.signature = d.parameters.filterMap ConstructorParameter.dependency? := by
  have hentries : ∀ e ∈ d.parameters.map ConstructorParameter.source,
      ListEntry e ∧ isAllBlank e = false :=
    List.forall_mem_map.2 fun p _ =>
      ⟨listEntry_constructorParameter p, isAllBlank_constructorParameter p⟩
  have hnested : Nested (listSource (d.parameters.map ConstructorParameter.source)) :=
    nested_joinWith fun e he => (hentries e he).1
  simp only [Signature.dependencies, Signature.parameters, signature, firstGroup?_list hnested,
    Signature.parametersOf, map_splitTopLevel (parameter_cons_blank _) hentries, List.map_map]
  refine (List.filterMap_eq_map_iff_forall_eq_some.2 fun p hp => ?_).symm
  obtain ⟨b, hpb⟩ := Option.isSome_iff_exists.1 (hb p hp)
  simp only [ConstructorParameter.dependency?, hpb, Option.map_some, Function.comp_apply,
    ConstructorParameter.parameter_source hpb, bareName_binding]

/-! ## Packages and paths -/

/-- The directories of a package. -/
def DottedName.directories (n : DottedName) : List Char :=
  n.text.map fun c => if c = '.' then '/' else c

/-- No name has a slash in it, so the slashes between directories are the dots of the package. -/
theorem DottedName.package_directories (n : DottedName) :
    (n.directories.map fun c => if c = '/' then '.' else c) = n.text := by
  have hslash : isDottedChar '/' = false := by decide
  have hback : ∀ c ∈ n.text,
      ((fun c => if c = '/' then '.' else c) ∘ fun c => if c = '.' then '/' else c) c = id c := by
    intro c hc
    have hne : c ≠ '/' := by
      rintro rfl
      simp [n.dotted _ hc] at hslash
    by_cases hd : c = '.' <;> simp [hd, hne]
  rw [directories, List.map_map, List.map_congr_left hback, List.map_id]

theorem DottedName.notMem_directories (n : DottedName) : '\n' ∉ n.directories := by
  intro hm
  obtain ⟨c, hc, he⟩ := List.mem_map.1 hm
  have hfeed : isDottedChar '\n' = false := by decide
  split at he
  · cases he
  · subst he
    simp [n.dotted _ hc] at hfeed

/-- Where the source of the class stands below a source root. -/
def ClassDeclaration.path (d : ClassDeclaration) (root : List Char) : List Char :=
  root ++ ("kotlin/".toList ++ (d.package.directories ++ '/' :: (d.name.text ++ ".kt".toList)))

theorem directoriesOf?_path {directories file : List Char} (hd : directories ≠ [])
    (hf : '/' ∉ file) (hn : '\n' ∉ directories ++ '/' :: file) :
    directoriesOf? (directories ++ '/' :: file) = some directories := by
  have hlen : ¬(directories ++ ['/']).length ≤ 1 := by
    have := List.length_pos_iff.2 hd
    simp only [List.length_append, List.length_singleton]
    omega
  simp only [directoriesOf?, upTo_eq_self hn, cutAfterLast?_append directories hf, hlen,
    ↓reduceIte, List.dropLast_concat]

/-- The first `kotlin/` is the one behind the root, if none begins in the root. -/
theorem packageDirectories?_append {root rest directories : List Char}
    (hroot : occursIn "kotlin/".toList (root ++ "kotlin".toList) = false)
    (hrest : directoriesOf? rest = some directories) :
    packageDirectories? (root ++ ("kotlin/".toList ++ rest)) = some directories := by
  induction root with
  | nil =>
      have hs : "kotlin/".toList ++ rest = 'k' :: ("otlin/".toList ++ rest) := rfl
      rw [List.nil_append, hs, packageDirectories?, ← hs, after?_append, Option.bind_some, hrest]
  | cons c root ih =>
      simp only [List.cons_append, occursIn, Bool.or_eq_false_iff] at hroot
      have ha : after? "kotlin/".toList (c :: (root ++ ("kotlin/".toList ++ rest))) = none := by
        rw [Option.eq_none_iff_forall_ne_some]
        intro r hr
        -- an occurrence that begins in the root ends before the slash behind it
        have hp : "kotlin/".toList <+: c :: (root ++ "kotlin".toList) :=
          List.prefix_of_prefix_length_le ⟨r, (eq_append_of_after? hr).symm⟩
            ⟨'/' :: rest, by simp⟩ (by simp)
        exact Bool.false_ne_true (hroot.1.symm.trans (List.isPrefixOf_iff_prefix.2 hp))
      simp only [List.cons_append, packageDirectories?, ha, Option.bind_none]
      exact ih hroot.2

theorem ClassDeclaration.packageOfPath?_path (d : ClassDeclaration) {root : List Char}
    (hroot : occursIn "kotlin/".toList (root ++ "kotlin".toList) = false) :
    packageOfPath? (String.ofList (d.path root)) = some (String.ofList d.package.text) := by
  have hfile : '/' ∉ d.name.text ++ ".kt".toList := by
    have hn : '/' ∉ d.name.text := d.name.notMem (by decide)
    simpa using hn
  have hline : '\n' ∉ d.package.directories ++ '/' :: (d.name.text ++ ".kt".toList) := by
    have hn : '\n' ∉ d.name.text := d.name.notMem (by decide)
    simpa [d.package.notMem_directories] using hn
  have hne : d.package.directories ≠ [] := by
    simpa [DottedName.directories] using d.package.ne
  have hd := packageDirectories?_append hroot (directoriesOf?_path hne hfile hline)
  simp only [packageOfPath?, String.toList_ofList, path, hd, Option.map_some,
    d.package.package_directories]

/-! ## Nodes -/

def methodTags : List Json :=
  [.num (.int 6), .str "method", .str "function"]

def constructorTags : List Json :=
  [.num (.int 9), .str "constructor"]

theorem meaning_methodTags {tag : Json} (h : tag ∈ methodTags) :
    ∃ kind, KindTag.ofJson? tag = some kind ∧ kind.meaning = .method := by
  simp only [methodTags, List.mem_cons, List.not_mem_nil, or_false] at h
  rcases h with rfl | rfl | rfl
  · exact ⟨.code 6, rfl, rfl⟩
  · exact ⟨.name "method", rfl, rfl⟩
  · exact ⟨.name "function", rfl, rfl⟩

theorem meaning_constructorTags {tag : Json} (h : tag ∈ constructorTags) :
    ∃ kind, KindTag.ofJson? tag = some kind ∧ kind.meaning = .constructor := by
  simp only [constructorTags, List.mem_cons, List.not_mem_nil, or_false] at h
  rcases h with rfl | rfl
  · exact ⟨.code 9, rfl, rfl⟩
  · exact ⟨.name "constructor", rfl, rfl⟩

/-- A node that tells of a function, whatever else it tells. -/
structure FunctionDeclaration.Node (f : FunctionDeclaration) (j : Json) : Prop where
  kind : ∃ tag ∈ methodTags, j.get? "kind" = some tag
  name : j.get? "name" = some (.str (String.ofList f.name.text))
  detail : j.get? "detail" = some (.str (String.ofList f.signature))

/-- A node that tells of the constructor. -/
structure ClassDeclaration.ConstructorNode (d : ClassDeclaration) (j : Json) : Prop where
  kind : ∃ tag ∈ constructorTags, j.get? "kind" = some tag
  detail : j.get? "detail" = some (.str (String.ofList d.signature))

/-- An overview of the class: its name, its constructor and its functions in order. -/
structure ClassDeclaration.Overview (d : ClassDeclaration) (j : Json) : Prop where
  name : j.get? "name" = some (.str (String.ofList d.name.text))
  children : ∃ first rest, j.get? "children" = some (.arr (first :: rest)) ∧
    d.ConstructorNode first ∧ List.Forall₂ FunctionDeclaration.Node d.functions rest

theorem Json.eq_obj_of_get? {j value : Json} {name : String} (h : j.get? name = some value) :
    ∃ members, j = .obj members := by
  cases j <;> simp_all [Json.get?, Json.members?]

/-- A function is read from its node; a name that starts with no underscore is public. -/
theorem FunctionDeclaration.Node.read {f : FunctionDeclaration} {j : Json} (h : f.Node j)
    (hu : f.name.text.head? ≠ some '_') :
    ∃ node, SymbolNode.ofJson? j = some node ∧ node.method? = some f.model ∧
      node.dependencies = [] := by
  obtain ⟨tag, ht, hk⟩ := h.kind
  obtain ⟨kind, hkind, hm⟩ := meaning_methodTags ht
  have hn := h.name
  have hd := h.detail
  obtain ⟨members, rfl⟩ := Json.eq_obj_of_get? hn
  simp only [Json.get?, Json.members?, Option.bind_some] at hk hn hd
  refine ⟨⟨some kind, String.ofList f.name.text, some (String.ofList f.signature)⟩, ?_, ?_, ?_⟩
  · simp only [SymbolNode.ofJson?, Json.members?, Option.map_some, hk, hn, hd, Option.bind_some,
      hkind, Json.str?, Option.getD_some]
  · simp [SymbolNode.method?, SymbolNode.meaning, hm, SymbolNode.detailText,
      f.returnType_signature, f.parameters_signature, FunctionDeclaration.model, hu]
  · simp only [SymbolNode.dependencies, SymbolNode.meaning, hm]

theorem ClassDeclaration.ConstructorNode.read {d : ClassDeclaration} {j : Json}
    (h : d.ConstructorNode j) (hb : ∀ p ∈ d.parameters, p.binding.isSome = true) :
    ∃ node, SymbolNode.ofJson? j = some node ∧ node.method? = none ∧
      node.dependencies = d.parameters.filterMap ConstructorParameter.dependency? := by
  obtain ⟨tag, ht, hk⟩ := h.kind
  obtain ⟨kind, hkind, hm⟩ := meaning_constructorTags ht
  have hd := h.detail
  obtain ⟨members, rfl⟩ := Json.eq_obj_of_get? hd
  simp only [Json.get?, Json.members?, Option.bind_some] at hk hd
  refine ⟨⟨some kind, ((Json.lookup "name" members).bind Json.str?).getD "",
    some (String.ofList d.signature)⟩, ?_, ?_, ?_⟩
  · simp only [SymbolNode.ofJson?, Json.members?, Option.map_some, hk, hd, Option.bind_some,
      hkind, Json.str?]
  · simp only [SymbolNode.method?, SymbolNode.meaning, hm]
  · simp only [SymbolNode.dependencies, SymbolNode.meaning, hm, SymbolNode.detailText,
      Option.getD_some, String.toList_ofList, d.dependencies_signature hb]

/-- Nodes that tell of functions give these as methods, and no collaborators. -/
theorem read_functionNodes {functions : List FunctionDeclaration} {nodes : List Json}
    (h : List.Forall₂ FunctionDeclaration.Node functions nodes)
    (hu : ∀ f ∈ functions, f.name.text.head? ≠ some '_') :
    (nodes.filterMap SymbolNode.ofJson?).filterMap SymbolNode.method? =
        functions.map FunctionDeclaration.model ∧
      (nodes.filterMap SymbolNode.ofJson?).flatMap SymbolNode.dependencies = [] := by
  induction h with
  | nil => exact ⟨rfl, rfl⟩
  | @cons f j functions nodes hf _ ih =>
      obtain ⟨node, hj, hm, hd⟩ := hf.read (hu f (by simp))
      obtain ⟨ihm, ihd⟩ := ih fun g hg => hu g (List.mem_cons_of_mem _ hg)
      rw [List.filterMap_cons_some hj, List.filterMap_cons_some hm, List.flatMap_cons, ihm, hd, ihd]
      exact ⟨rfl, rfl⟩

/-! ## Both ways -/

namespace ClassDeclaration

/-- A class with properties only, and with public names for its functions, is the same whether it is
read from an overview, the path and the imports, or from its source text alone. -/
theorem ofSymbols_eq_ofSource (d : ClassDeclaration)
    (hb : ∀ p ∈ d.parameters, p.binding.isSome = true)
    (hu : ∀ f ∈ d.functions, f.name.text.head? ≠ some '_') {overview : Json}
    (ho : d.Overview overview) {root : List Char}
    (hroot : occursIn "kotlin/".toList (root ++ "kotlin".toList) = false) (defaultPackage : String)
    (feeds : Nat) :
    ServiceModel.ofSymbols defaultPackage (SymbolTree.ofJson overview) (String.ofList (d.path root))
        (String.ofList (d.source (List.replicate feeds '\n'))) =
      ServiceModel.ofSource (String.ofList (d.source (List.replicate feeds '\n'))) := by
  have hn := ho.name
  obtain ⟨first, rest, hc, hfirst, hrest⟩ := ho.children
  obtain ⟨members, rfl⟩ := Json.eq_obj_of_get? hn
  simp only [Json.get?, Json.members?, Option.bind_some] at hn hc
  obtain ⟨node, hj, hm, hd⟩ := hfirst.read hb
  obtain ⟨hmethods, hdependencies⟩ := read_functionNodes hrest hu
  have htree : SymbolTree.ofJson (.obj members) =
      ⟨some (String.ofList d.name.text), node :: rest.filterMap SymbolNode.ofJson?⟩ := by
    simp only [SymbolTree.ofJson, Json.members?, hn, hc, Option.bind_some, Json.str?, Json.items?,
      Option.getD_some, List.filterMap_cons_some hj]
  have hname : isAllBlank d.name.text = false := by
    obtain ⟨c, hc⟩ := List.exists_mem_of_ne_nil _ d.name.ne
    rw [isAllBlank, List.all_eq_false]
    exact ⟨c, hc, by simp [isBlank_of_isWordChar (d.name.word c hc)]⟩
  have hclass : named? "class".toList isWordChar (d.source (List.replicate feeds '\n')) =
      some (d.name.text, d.afterName (List.replicate feeds '\n')) :=
    d.named?_class_source _
  simp only [ServiceModel.ofSymbols, ServiceModel.ofSource, String.toList_ofList, htree,
    SymbolTree.className, hname, d.packageOfPath?_path hroot, Option.getD_some, imports_source,
    packageName_source, hclass, methods_source, constructorDependencies_afterName,
    List.flatMap_cons, hd, hdependencies, List.filterMap_cons_none hm, hmethods]
  simp

/-- Two properties, one of them with a default that has a comma. -/
def stopwatch : ClassDeclaration :=
  { timer with
    parameters :=
      [⟨some ⟨true, .val⟩, .ofString "ticker", .ofString "Ticker", none⟩,
        ⟨some ⟨false, .var⟩, .ofString "bound", .ofString "Long",
          some ⟨"max(30, 60)".toList, by decide +kernel, by decide +kernel⟩⟩] }

def stopwatchOverview : Json :=
  .obj [("name", .str "Timer"), ("children", .arr
    [.obj [("kind", .num (.int 9)),
        ("detail", .str "(private val ticker: Ticker, var bound: Long = max(30, 60))")],
      .obj [("kind", .str "function"), ("name", .str "start"),
        ("detail", .str "(steps: Map<String, (Int) -> Step?>): Unit")]])]

theorem overview_stopwatch : stopwatch.Overview stopwatchOverview where
  name := by rfl
  children := by
    refine ⟨_, _, rfl, ⟨⟨.num (.int 9), ?_, rfl⟩, by rfl⟩, .cons ?_ .nil⟩
    · simp [constructorTags]
    · exact ⟨⟨.str "function", by simp [methodTags], rfl⟩, by rfl, by rfl⟩

theorem ofSymbols_stopwatch :
    stopwatch.Overview stopwatchOverview ∧
      ServiceModel.ofSymbols "com.example" (SymbolTree.ofJson stopwatchOverview)
          "app/src/main/kotlin/shop/time/Timer.kt"
          (String.ofList (stopwatch.source (List.replicate 1 '\n'))) =
        ServiceModel.ofSource (String.ofList (stopwatch.source (List.replicate 1 '\n'))) := by
  have hpath : "app/src/main/kotlin/shop/time/Timer.kt" =
      String.ofList (stopwatch.path "app/src/main/".toList) := by decide
  rw [hpath]
  exact ⟨overview_stopwatch, ofSymbols_eq_ofSource stopwatch (by decide) (by decide)
    overview_stopwatch (by decide) "com.example" 1⟩

end ClassDeclaration

end TestForge
