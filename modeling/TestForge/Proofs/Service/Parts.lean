import TestForge.Proofs.Service.Headers
import TestForge.Proofs.Text.Tight
import TestForge.Service.Outline

/-!
# The parts of a model are never blank

However malformed a source or an overview is, what is read from it as a name or a type is text
without white space around it. Where nothing of the sort can be read, a default stands in or the
part is left out.
-/

namespace TestForge

open Text SourcePatterns

/-! ## What a part must be -/

structure Parameter.Clean (p : Parameter) : Prop where
  name : Tight p.name.toList
  noColon : ':' ∉ p.name.toList
  type : Tight p.typeName.toList
  noDefault : '=' ∉ p.typeName.toList

structure Dependency.Clean (d : Dependency) : Prop where
  name : Tight d.name.toList
  type : Tight d.typeName.toList
  noDefault : '=' ∉ d.typeName.toList

structure Method.Clean (m : Method) : Prop where
  returnType : Tight m.returnType.toList
  parameters : ∀ ps, m.parameters = some ps → ∀ p ∈ ps, p.Clean

structure ServiceModel.Clean (model : ServiceModel) : Prop where
  dependencies : ∀ d ∈ model.dependencies, d.Clean
  methods : ∀ m ∈ model.methods, m.Clean

/-! ## Parameters -/

theorem notMem_of_cutAtChar? {stop : Char} {s before rest : List Char}
    (h : cutAtChar? stop s = some (before, rest)) : stop ∉ before := by
  induction s generalizing before with
  | nil => cases h
  | cons c s ih =>
      simp only [cutAtChar?] at h
      split at h
      · cases h
        exact List.not_mem_nil
      · rename_i hc
        obtain ⟨⟨b, r⟩, hb, he⟩ := Option.map_eq_some_iff.1 h
        cases he
        rw [List.mem_cons, not_or]
        exact ⟨Ne.symm hc, ih hb⟩

theorem notMem_of_cutAtChar?_eq_none {stop : Char} {s : List Char}
    (h : cutAtChar? stop s = none) : stop ∉ s := by
  intro hm
  obtain ⟨front, back, rfl, hfront⟩ := List.eq_append_cons_of_mem hm
  rw [cutAtChar?_append hfront] at h
  cases h

theorem mem_of_mem_trim {c : Char} {s : List Char} (h : c ∈ trim s) : c ∈ s :=
  (List.dropWhile_suffix isBlank).subset ((prefix_trimEnd _).subset h)

namespace Signature

variable {s : List Char} {default : String}

/-- What stands in for a part that is empty has to be what the part would be. -/
theorem orElse_of (P : List Char → Prop) (hd : P default.toList) (hs : s ≠ [] → P s) :
    P (orElse default s).toList := by
  unfold orElse
  split
  · exact hd
  · rename_i hne
    rw [String.toList_ofList]
    exact hs fun hnil => hne (List.isEmpty_iff.2 hnil)

theorem noDefault_typeText (s : List Char) : '=' ∉ typeText s := by
  intro hm
  have hkept := List.mem_takeWhile_imp (mem_of_mem_trim hm)
  simp at hkept

theorem clean_anyType : Tight anyType.toList ∧ '=' ∉ anyType.toList :=
  ⟨tight_word (by decide) (List.all_eq_true.1 (by decide)), by decide⟩

theorem clean_type (s : List Char) :
    Tight (orElse anyType (typeText s)).toList ∧ '=' ∉ (orElse anyType (typeText s)).toList :=
  orElse_of (fun type => Tight type ∧ '=' ∉ type) clean_anyType
    fun hne => ⟨tight_trim hne, noDefault_typeText s⟩

theorem clean_name (hd : Tight default.toList ∧ ':' ∉ default.toList) (hs : ':' ∉ s) :
    Tight (orElse default (trim s)).toList ∧ ':' ∉ (orElse default (trim s)).toList :=
  orElse_of (fun name => Tight name ∧ ':' ∉ name) hd
    fun hne => ⟨tight_trim hne, fun hm => hs (mem_of_mem_trim hm)⟩

theorem clean_parameter (hd : Tight default.toList ∧ ':' ∉ default.toList) (s : List Char) :
    (parameter default s).Clean := by
  unfold parameter
  split
  · rename_i name type hcut
    have hname := clean_name hd (notMem_of_cutAtChar? hcut)
    have htype := clean_type type
    exact ⟨hname.1, hname.2, htype.1, htype.2⟩
  · rename_i hcut
    have hname := clean_name hd (notMem_of_cutAtChar?_eq_none hcut)
    exact ⟨hname.1, hname.2, clean_anyType.1, clean_anyType.2⟩

theorem clean_parametersOf (hd : Tight default.toList ∧ ':' ∉ default.toList) (s : List Char) :
    ∀ p ∈ parametersOf default s, p.Clean := by
  intro p hp
  obtain ⟨piece, -, rfl⟩ := List.mem_map.1 hp
  exact clean_parameter hd piece

theorem clean_parameters (hd : Tight default.toList ∧ ':' ∉ default.toList) (s : List Char) :
    ∀ p ∈ parameters default s, p.Clean := by
  unfold parameters
  split
  · exact clean_parametersOf hd _
  · exact List.forall_mem_nil _

theorem clean_parameterName : Tight parameterName.toList ∧ ':' ∉ parameterName.toList :=
  ⟨tight_word (by decide) (List.all_eq_true.1 (by decide)), by decide⟩

theorem clean_dependencyName : Tight dependencyName.toList ∧ ':' ∉ dependencyName.toList :=
  ⟨tight_word (by decide) (List.all_eq_true.1 (by decide)), by decide⟩

/-! ## Return types -/

theorem tight_unitType : Tight unitType.toList :=
  tight_word (by decide) (List.all_eq_true.1 (by decide))

/-- A type is cut where white space stands, so something is left in front. -/
theorem tight_withoutConstraints (h : Tight s) : Tight (withoutConstraints s) := by
  unfold withoutConstraints
  split
  · rename_i type rest hcut
    have hwhere : " where ".toList = ' ' :: "where ".toList := by decide
    rw [eq_append_of_cutAt? hcut, hwhere, List.append_assoc, List.cons_append] at h
    exact h.trimEnd_of_prefix (by decide)
  · exact h

theorem tight_declaredType? {afterParameters : List Char} {type : String}
    (h : declaredType? afterParameters = some type) : Tight type.toList := by
  unfold declaredType? at h
  split at h
  · rename_i rest _
    simp only at h
    split at h
    · cases h
    · rename_i hne
      cases h
      rw [String.toList_ofList]
      refine tight_withoutConstraints (tight_trim fun hnil => hne ?_)
      rw [hnil]
      rfl
  · cases h

theorem tight_returnType (detail : List Char) : Tight (returnType detail).toList := by
  unfold returnType
  simp only
  split
  · exact tight_unitType
  · rename_i hne
    split
    · rw [String.toList_ofList]
      exact tight_trim fun hnil => hne (List.isEmpty_iff.2 hnil)
    · split
      · rename_i rest _
        cases htype : declaredType? rest with
        | none => exact tight_unitType
        | some type => exact tight_declaredType? htype
      · exact tight_unitType

/-! ## Names of collaborators -/

/-- A word is taken off only with white space behind it, so the end of the text stays. -/
theorem endsTight_afterWord? {words : List (List Char)} {rest : List Char} (hs : EndsTight s)
    (h : afterWord? words s = some rest) : EndsTight rest := by
  obtain ⟨behind, hwords, hrest⟩ := Option.bind_eq_some_iff.1 h
  obtain ⟨word, -, hafter⟩ := List.exists_of_findSome?_eq_some hwords
  have hsuffix : behind <:+ s := ⟨word, (eq_append_of_after? hafter).symm⟩
  cases behind with
  | nil => cases hrest
  | cons c behind =>
      simp only at hrest
      split at hrest
      · cases hrest
        exact (hs.of_suffix hsuffix (List.cons_ne_nil _ _)).trimStart
      · cases hrest

theorem endsTight_afterBinding? {rest : List Char} (hs : EndsTight s)
    (h : afterBinding? s = some rest) : EndsTight rest := by
  unfold afterBinding? at h
  split at h
  · rename_i behind hvisible
    exact endsTight_afterWord? (endsTight_afterWord? hs hvisible) h
  · exact endsTight_afterWord? hs h

theorem tight_bareName {name : String} (h : Tight name.toList) : Tight (bareName name).toList := by
  unfold bareName
  simp only [String.toList_ofList]
  have hends : EndsTight (trim name.toList) := h.ends.tight_trim.ends
  cases hafter : afterBinding? (trim name.toList) with
  | none => exact hends.tight_trim
  | some rest => exact (endsTight_afterBinding? hends hafter).tight_trim

theorem clean_dependencies (detail : List Char) : ∀ d ∈ dependencies detail, d.Clean := by
  intro d hd
  obtain ⟨p, hp, rfl⟩ := List.mem_map.1 hd
  have hclean := clean_parameters clean_dependencyName detail p hp
  exact ⟨tight_bareName hclean.name, hclean.type, hclean.noDefault⟩

end Signature

/-! ## What patterns find -/

namespace SourcePatterns

variable {s name type : List Char}

theorem tight_propertyHere? (h : propertyHere? s = some (name, type)) : Tight name := by
  unfold propertyHere? at h
  split at h
  · cases h
  · rename_i found rest hfound
    obtain ⟨behind, -, hname⟩ := Option.bind_eq_some_iff.1 hfound
    obtain ⟨-, -, hne, hword, -⟩ :=
      (nameAfterBlank?_eq_some_iff fun c => isWordChar_of_isBlank).1 hname
    split at h
    · split at h
      · cases h
      · cases h
        exact tight_word hne hword
    · cases h

theorem tight_property? {atStart : Bool} (h : property? atStart s = some (name, type)) :
    Tight name := by
  induction s generalizing atStart with
  | nil => cases h
  | cons c s ih =>
      simp only [property?] at h
      split at h
      · rename_i found hhere
        cases h
        split at hhere
        · exact tight_propertyHere? hhere
        · cases hhere
      · exact ih h

theorem clean_dependency? {part : List Char} {d : Dependency} (h : dependency? part = some d) :
    d.Clean := by
  unfold dependency? at h
  split at h
  · cases h
  · rename_i name type hproperty
    simp only at h
    split at h
    · cases h
    · rename_i hne
      cases h
      refine ⟨?_, ?_, ?_⟩
      · rw [String.toList_ofList]
        exact tight_property? hproperty
      · rw [String.toList_ofList]
        exact tight_trim fun hnil => hne (List.isEmpty_iff.2 hnil)
      · rw [String.toList_ofList]
        exact Signature.noDefault_typeText type

theorem clean_constructorDependencies (afterName : List Char) :
    ∀ d ∈ constructorDependencies afterName, d.Clean := by
  unfold constructorDependencies
  split
  · exact List.forall_mem_nil _
  · intro d hd
    obtain ⟨part, -, hpart⟩ := List.mem_filterMap.1 hd
    exact clean_dependency? hpart

theorem clean_methods (code : List Char) : ∀ m ∈ methods code, m.Clean := by
  intro m hm
  obtain ⟨⟨name, rest⟩, -, hmethod⟩ := List.mem_filterMap.1 hm
  simp only [method?] at hmethod
  split at hmethod
  · cases hmethod
  · rename_i inside behind _
    obtain ⟨type, htype, rfl⟩ := Option.map_eq_some_iff.1 hmethod
    refine ⟨Signature.tight_declaredType? htype, fun ps hps => ?_⟩
    cases hps
    exact Signature.clean_parametersOf Signature.clean_parameterName inside

end SourcePatterns

/-! ## What an overview tells -/

theorem SymbolNode.clean_method? {node : SymbolNode} {m : Method} (h : node.method? = some m) :
    m.Clean := by
  unfold SymbolNode.method? at h
  split at h
  · cases h
    refine ⟨Signature.tight_returnType _, fun ps hps => ?_⟩
    cases hps
    exact Signature.clean_parameters Signature.clean_parameterName _
  · cases h

theorem SymbolNode.clean_dependencies (node : SymbolNode) : ∀ d ∈ node.dependencies, d.Clean := by
  unfold SymbolNode.dependencies
  split
  · exact Signature.clean_dependencies _
  · exact List.forall_mem_nil _

/-! ## Models -/

theorem clean_resolveImports {imports : List String} {dependencies : List Dependency}
    (h : ∀ d ∈ dependencies, d.Clean) : ∀ d ∈ resolveImports imports dependencies, d.Clean := by
  intro d hd
  obtain ⟨declared, hdeclared, rfl⟩ := List.mem_map.1 hd
  have hclean := h declared hdeclared
  exact ⟨hclean.name, hclean.type, hclean.noDefault⟩

/-- Whatever source, overview and path a model is read from, the names and types of its
collaborators and parameters and the return types of its methods are neither empty nor have white
space around them. No type holds a default value, and no parameter's name holds a colon. -/
theorem ServiceModel.clean_parts (defaultPackage servicePath source : String) (tree : SymbolTree) :
    (ServiceModel.ofSource source).Clean ∧
    (ServiceModel.ofSymbols defaultPackage tree servicePath source).Clean := by
  constructor
  · refine ⟨clean_resolveImports ?_, clean_methods _⟩
    split
    · exact clean_constructorDependencies _
    · exact List.forall_mem_nil _
  · refine ⟨clean_resolveImports ?_, fun m hm => ?_⟩
    · intro d hd
      obtain ⟨node, -, hnode⟩ := List.mem_flatMap.1 hd
      exact node.clean_dependencies d hnode
    · obtain ⟨node, -, hnode⟩ := List.mem_filterMap.1 hm
      exact SymbolNode.clean_method? hnode

/-- A list with holes in it: defaults stand in for a name and two types, and the keyword of a
collaborator without a name is its name. -/
example :
    Signature.parameters Signature.parameterName "(: String, justName, other:)".toList =
        [⟨"param", "String"⟩, ⟨"justName", "Any"⟩, ⟨"other", "Any"⟩] ∧
      Signature.dependencies "(private val : = 1, \u00a0val\t)".toList =
        [⟨"private val", "Any", none⟩, ⟨"val", "Any", none⟩] := by
  decide

end TestForge
