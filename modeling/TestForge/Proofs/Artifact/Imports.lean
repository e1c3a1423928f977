import TestForge.Proofs.Artifact.Lines
import TestForge.Proofs.Service.Headers
import TestForge.Service.Outline

/-!
# Imports from the source to the artifact

The lines of a source show names behind the word `import`. A model has these names, each once and in
the order of the source; a collaborator has the first of them that ends in its type; and an artifact
imports what its collaborators have, again each once and in order.
-/

namespace TestForge

open Text SourcePatterns

/-! ## First uses -/

/-- The entries of a list, each once, in the order in which they occur first. -/
structure FirstUses (all kept : List String) : Prop where
  mem_iff : ∀ s, s ∈ kept ↔ s ∈ all
  nodup : kept.Nodup
  ordered : kept.Pairwise fun a b => all.idxOf a < all.idxOf b

namespace SourcePatterns

/-- Entries other than the first one of a list have the place behind the one they have in its
rest. -/
theorem pairwise_idxOf_cons {t : String} {all kept : List String} (ht : t ∉ kept)
    (h : kept.Pairwise fun a b => all.idxOf a < all.idxOf b) :
    kept.Pairwise fun a b => (t :: all).idxOf a < (t :: all).idxOf b := by
  refine h.imp_of_mem fun {a b} ha hb hlt => ?_
  rw [List.idxOf_cons_ne all fun he : t = a => ht (he ▸ ha),
    List.idxOf_cons_ne all fun he : t = b => ht (he ▸ hb)]
  exact Nat.succ_lt_succ hlt

theorem pairwise_distinct (seen all : List String) :
    (distinct seen all).Pairwise fun a b => all.idxOf a < all.idxOf b := by
  induction all generalizing seen with
  | nil => exact .nil
  | cons t all ih =>
      simp only [distinct]
      split
      · rename_i ht
        exact pairwise_idxOf_cons (fun hm => (mem_distinct_iff.1 hm).2 ht) (ih seen)
      · have hnot : t ∉ distinct (t :: seen) all :=
          fun hm => (mem_distinct_iff.1 hm).2 List.mem_cons_self
        refine List.pairwise_cons.2 ⟨fun s hs => ?_, pairwise_idxOf_cons hnot (ih _)⟩
        rw [List.idxOf_cons_self, List.idxOf_cons_ne all fun he : t = s => hnot (he ▸ hs)]
        exact Nat.succ_pos _

theorem firstUses_distinct (all : List String) : FirstUses all (distinct [] all) where
  mem_iff s := by simp [mem_distinct_iff]
  nodup := (pairwise_distinct [] all).imp fun hlt he => by simp [he] at hlt
  ordered := pairwise_distinct [] all

/-! ## Names behind a keyword -/

/-- A text begins with a keyword, white space and a name that is as long as it can be. -/
def NameBehind (keyword : List Char) (isPart : Char → Bool) (s name : List Char) : Prop :=
  ∃ (gap : Separator) (rest : List Char), s = keyword ++ (gap.text ++ (name ++ rest)) ∧
    name ≠ [] ∧ (∀ c ∈ name, isPart c = true) ∧ ∀ c, rest.head? = some c → isPart c = false

/-- The first place of a text that shows a name behind a keyword shows this one. -/
def FirstNamed (keyword : List Char) (isPart : Char → Bool) (s name : List Char) : Prop :=
  ∃ front behind, s = front ++ behind ∧ NameBehind keyword isPart behind name ∧
    ∀ earlier later other, s = earlier ++ later → earlier.length < front.length →
      ¬NameBehind keyword isPart later other

variable {keyword s name : List Char} {isPart : Char → Bool}

theorem NameBehind.ne_nil (h : NameBehind keyword isPart s name) : s ≠ [] := by
  obtain ⟨gap, rest, rfl, hne, -⟩ := h
  simp [hne]

theorem nameBehind_iff (hpart : ∀ c, isBlank c = true → isPart c = false) :
    NameBehind keyword isPart s name ↔
      ∃ rest, (after? keyword s).bind (nameAfterBlank? isPart) = some (name, rest) := by
  constructor
  · rintro ⟨gap, rest, rfl, h⟩
    refine ⟨rest, ?_⟩
    rw [after?_append, Option.bind_some]
    exact (nameAfterBlank?_eq_some_iff hpart).2 ⟨gap, rfl, h⟩
  · rintro ⟨rest, h⟩
    obtain ⟨behind, hafter, hname⟩ := Option.bind_eq_some_iff.1 h
    obtain ⟨gap, rfl, h⟩ := (nameAfterBlank?_eq_some_iff hpart).1 hname
    exact ⟨gap, rest, eq_append_of_after? hafter, h⟩

theorem firstNamed_here {other : List Char} (h : NameBehind keyword isPart s other) :
    FirstNamed keyword isPart s name ↔ NameBehind keyword isPart s name := by
  constructor
  · rintro ⟨front, behind, rfl, hname, hfirst⟩
    cases front with
    | nil => exact hname
    | cons d front => exact absurd h (hfirst [] _ _ rfl (Nat.succ_pos _))
  · intro hname
    refine ⟨[], s, rfl, hname, fun earlier later other _ hlt => ?_⟩
    cases hlt

theorem firstNamed_cons {c : Char} (h : ∀ other, ¬NameBehind keyword isPart (c :: s) other) :
    FirstNamed keyword isPart (c :: s) name ↔ FirstNamed keyword isPart s name := by
  constructor
  · rintro ⟨front, behind, hs, hname, hfirst⟩
    cases front with
    | nil =>
        rw [List.nil_append] at hs
        exact absurd (hs ▸ hname) (h name)
    | cons d front =>
        obtain ⟨rfl, rfl⟩ := List.cons.inj hs
        refine ⟨front, behind, rfl, hname, fun earlier later other hs hlt => ?_⟩
        exact hfirst (c :: earlier) later other (congrArg (c :: ·) hs) (Nat.succ_lt_succ hlt)
  · rintro ⟨front, behind, rfl, hname, hfirst⟩
    refine ⟨c :: front, behind, rfl, hname, fun earlier later other hs hlt => ?_⟩
    cases earlier with
    | nil =>
        rw [List.nil_append] at hs
        exact hs ▸ h other
    | cons d earlier =>
        exact hfirst earlier later other (List.cons.inj hs).2 (Nat.lt_of_succ_lt_succ hlt)

/-- A search finds the name at the first place that shows one. -/
theorem named?_eq_some_iff (hpart : ∀ c, isBlank c = true → isPart c = false) :
    (∃ rest, named? keyword isPart s = some (name, rest)) ↔ FirstNamed keyword isPart s name := by
  induction s with
  | nil =>
      constructor
      · rintro ⟨rest, h⟩
        cases h
      · rintro ⟨front, behind, hs, hname, -⟩
        exact absurd (List.append_eq_nil_iff.1 hs.symm).2 hname.ne_nil
  | cons c s ih =>
      simp only [named?]
      split
      · rename_i found hfound
        have hhere : NameBehind keyword isPart (c :: s) found.1 :=
          (nameBehind_iff hpart).2 ⟨found.2, hfound⟩
        rw [firstNamed_here hhere, nameBehind_iff hpart, hfound]
      · rename_i hnone
        have hnot (other : List Char) : ¬NameBehind keyword isPart (c :: s) other := by
          rw [nameBehind_iff hpart, hnone]
          rintro ⟨rest, h⟩
          cases h
        rw [ih, firstNamed_cons hnot]

/-- A line shows this name behind the word `import` before it shows any other. -/
def ShowsImport (line : List Char) (name : String) : Prop :=
  FirstNamed importKeyword isDottedChar line name.toList

theorem importOf?_eq_some_iff {line : List Char} {name : String} :
    importOf? line = some name ↔ ShowsImport line name := by
  rw [ShowsImport, ← named?_eq_some_iff fun c => isDottedChar_of_isBlank, importOf?_eq]
  constructor
  · intro h
    obtain ⟨⟨found, rest⟩, hfound, rfl⟩ := Option.map_eq_some_iff.1 h
    rw [String.toList_ofList]
    exact ⟨rest, hfound⟩
  · rintro ⟨rest, h⟩
    rw [h, Option.map_some, String.ofList_toList]

end SourcePatterns

/-! ## Imports of collaborators -/

/-- A path ends in a dot and a type. -/
def EndsInType (typeName path : String) : Prop :=
  '.' :: typeName.toList <:+ path.toList

/-- The first import that ends in a dot and the type; none if there is no such import. -/
def FirstImport (imports : List String) (typeName : String) : Option String → Prop
  | some path => EndsInType typeName path ∧ ∃ earlier later, imports = earlier ++ path :: later ∧
      ∀ other ∈ earlier, ¬EndsInType typeName other
  | none => ∀ path ∈ imports, ¬EndsInType typeName path

theorem importNames_iff {typeName path : String} :
    importNames typeName path = true ↔ EndsInType typeName path :=
  List.isSuffixOf_iff_suffix

theorem firstImport_find? (imports : List String) (typeName : String) :
    FirstImport imports typeName (imports.find? (importNames typeName)) := by
  cases hfind : imports.find? (importNames typeName) with
  | none =>
      intro path hpath hends
      exact List.find?_eq_none.1 hfind path hpath (importNames_iff.2 hends)
  | some path =>
      obtain ⟨hnames, earlier, later, hsplit, hnone⟩ := List.find?_eq_some_iff_append.1 hfind
      refine ⟨importNames_iff.1 hnames, earlier, later, hsplit, fun other hother hends => ?_⟩
      have hnot := hnone other hother
      rw [importNames_iff.2 hends] at hnot
      cases hnot

theorem resolveImports_resolveImports (imports : List String) (dependencies : List Dependency) :
    resolveImports imports (resolveImports imports dependencies) =
      resolveImports imports dependencies := by
  unfold resolveImports
  rw [List.map_map]
  rfl

/-! ## Imports of a model -/

/-- What becomes of the imports of a source in its model and in the artifacts of that model. -/
structure ServiceModel.CarriesImports (source : String) (model : ServiceModel) : Prop where
  shown : FirstUses ((Text.lines source.toList).filterMap importOf?) model.imports
  resolved : ∀ d ∈ model.dependencies, FirstImport model.imports d.typeName d.importPath
  rendered : ∀ style intent, ∃ paths rest,
    model.render style intent = unlines (model.packageLines ++
      (paths.map (fun path => "import " ++ path) ++ (harnessLines ++ rest))) ∧
    FirstUses (model.dependencies.filterMap (·.importPath)) paths ∧
    ∀ path ∈ paths, path ∈ model.imports
  settled : resolveImports model.imports model.dependencies = model.dependencies

theorem ServiceModel.render_imports (model : ServiceModel) (style : TemplateStyle)
    (intent : TestIntent) : ∃ rest, model.render style intent = unlines (model.packageLines ++
      ((distinct [] model.importPaths).map (fun path => "import " ++ path) ++
        (harnessLines ++ rest))) := by
  rw [model.render_eq_unlines]
  unfold ServiceModel.lines openingLines headingLines importLines
  simp only [List.append_assoc]
  exact ⟨_, rfl⟩

theorem ServiceModel.carriesImports_of_resolved {source : String} {model : ServiceModel}
    {declared : List Dependency} (hi : model.imports = SourcePatterns.imports source.toList)
    (hd : model.dependencies = resolveImports model.imports declared) :
    model.CarriesImports source := by
  have hresolved : ∀ d ∈ model.dependencies,
      FirstImport model.imports d.typeName d.importPath := by
    intro d hm
    rw [hd] at hm
    obtain ⟨e, -, rfl⟩ := List.mem_map.1 hm
    exact firstImport_find? model.imports e.typeName
  refine ⟨?_, hresolved, fun style intent => ?_, ?_⟩
  · rw [hi]
    exact firstUses_distinct _
  · obtain ⟨rest, hrender⟩ := model.render_imports style intent
    refine ⟨_, rest, hrender, firstUses_distinct _, fun path hpath => ?_⟩
    obtain ⟨d, hm, hp⟩ := List.mem_filterMap.1 (mem_distinct_iff.1 hpath).1
    have hfirst := hresolved d hm
    rw [hp] at hfirst
    obtain ⟨-, earlier, later, hsplit, -⟩ := hfirst
    rw [hsplit]
    exact List.mem_append_right _ List.mem_cons_self
  · rw [hd, resolveImports_resolveImports]

/-- The names that the lines of a source show behind the word `import` are the imports of its model,
each once and in order, whether the model is read from the source alone or with an overview. Each
collaborator has the first of them that ends in a dot and its type, and resolving the collaborators
again changes nothing. Behind its package an artifact imports what its collaborators have, each path
once and in the order of first use, and nothing else before the imports of every test. -/
theorem ServiceModel.imports_carried (defaultPackage servicePath source : String)
    (tree : SymbolTree) :
    (∀ line name, importOf? line = some name ↔ ShowsImport line name) ∧
    (ServiceModel.ofSource source).CarriesImports source ∧
    (ServiceModel.ofSymbols defaultPackage tree servicePath source).CarriesImports source :=
  ⟨fun _ _ => importOf?_eq_some_iff, carriesImports_of_resolved rfl rfl,
    carriesImports_of_resolved rfl rfl⟩

/-- An import that stands twice, and two that end in the type of two collaborators. -/
example :
    let model := ServiceModel.ofSource
      "import a.Jar\nimport b.Jar\nimport a.Jar\nclass Shop(val x: Jar, val y: Jar, val n: Int)"
    model.imports = ["a.Jar", "b.Jar"] ∧ model.dependencies =
      [⟨"x", "Jar", some "a.Jar"⟩, ⟨"y", "Jar", some "a.Jar"⟩, ⟨"n", "Int", none⟩] := by
  decide +kernel

end TestForge
