import TestForge.Proofs.Service.Signature

/-!
# The words and the nesting of printed text

No word of a printed part ends in a keyword but the keywords that are printed on purpose, and every
entry of a printed list is properly nested, so that the list falls into its entries again.
-/

namespace TestForge

open Text SourcePatterns

/-! ## Keywords -/

variable {keyword : List Char}

theorem endsNoWord_cons {c : Char} {s : List Char} (hk : Keyword keyword)
    (hc : isWordChar c = false) (hs : endsNoWord keyword s = true) :
    endsNoWord keyword (c :: s) = true :=
  endsNoWord_append (s := []) hk hc rfl hs

theorem endsNoWord_default (h : keyword ∈ sourceKeywords) (value : Option DefaultText)
    (t : TypeText) :
    endsNoWord keyword (t.text ++ defaultSource value) = true := by
  have hk := keyword_sourceKeywords h
  cases value with
  | none => simpa [defaultSource] using t.quiet keyword h
  | some value =>
      exact endsNoWord_append hk (by decide) (t.quiet keyword h)
        (endsNoWord_cons hk (by decide) (endsNoWord_cons hk (by decide) (value.quiet keyword h)))

theorem endsNoWord_parameter (h : keyword ∈ sourceKeywords) (p : ParameterDeclaration) :
    endsNoWord keyword p.source = true := by
  have hk := keyword_sourceKeywords h
  exact endsNoWord_append hk (by decide) (p.name.quiet keyword h)
    (endsNoWord_cons hk (by decide) (endsNoWord_default h p.default p.type))

theorem endsNoWord_list (hk : Keyword keyword) {entries : List (List Char)}
    (h : ∀ e ∈ entries, endsNoWord keyword e = true) :
    endsNoWord keyword (listSource entries) = true := by
  unfold listSource
  induction entries with
  | nil => rfl
  | cons e rest ih =>
      have he := h e (by simp)
      have hrest := ih fun e hm => h e (List.mem_cons_of_mem _ hm)
      cases rest with
      | nil => exact he
      | cons e' rest =>
          simp only [joinWith, List.append_assoc, List.cons_append, List.nil_append] at hrest ⊢
          exact endsNoWord_append hk (by decide) he (endsNoWord_cons hk (by decide) hrest)

theorem endsNoWord_binding (h : keyword ∈ sourceKeywords) (hb : keyword ∉ Signature.bindingWords)
    (b : Binding) : endsNoWord keyword b.source = true := by
  have hk := keyword_sourceKeywords h
  have hm : b.kind.keyword ∈ Signature.bindingWords := by
    cases b.kind <;> simp [bindingWords_eq, BindingKind.keyword]
  have hkind : endsNoWord keyword b.kind.keyword = true :=
    endsNoWord_keyword h (bindingWords_subset hm) fun he => hb (he ▸ hm)
  unfold Binding.source
  split
  · exact endsNoWord_append hk (by decide) (endsNoWord_private h) hkind
  · exact hkind

theorem endsNoWord_constructorParameter (h : keyword ∈ sourceKeywords)
    (hb : keyword ∉ Signature.bindingWords) (p : ConstructorParameter) :
    endsNoWord keyword p.source = true := by
  unfold ConstructorParameter.source
  split
  · exact endsNoWord_append (keyword_sourceKeywords h) (by decide) (endsNoWord_binding h hb _)
      (endsNoWord_parameter h p.declaration)
  · exact endsNoWord_parameter h p.declaration

/-! ## Lines -/

theorem endsNoWord_afterOpen (h : keyword ∈ sourceKeywords) (f : FunctionDeclaration) :
    endsNoWord keyword f.afterOpen = true := by
  have hk := keyword_sourceKeywords h
  have hlist := endsNoWord_list hk (List.forall_mem_map.2 fun p (_ : p ∈ f.parameters) =>
    endsNoWord_parameter h p)
  have hbody : endsNoWord keyword emptyBody = true := endsNoWord_of_noWord hk (by decide)
  have htype := endsNoWord_append hk (show isWordChar ' ' = false by decide)
    (f.returnType.quiet keyword h) hbody
  exact endsNoWord_append hk (by decide) hlist
    (endsNoWord_cons hk (by decide) (endsNoWord_cons hk (by decide) htype))

theorem endsNoWord_functionLines (h : keyword ∈ sourceKeywords)
    (hf : keyword ≠ funKeyword) (functions : List FunctionDeclaration)
    {tail : List Char} (ht : endsNoWord keyword tail = true) :
    endsNoWord keyword (functionLines functions ++ tail) = true := by
  have hk := keyword_sourceKeywords h
  induction functions with
  | nil => exact ht
  | cons f functions ih =>
      have hindent : endsNoWord keyword [' ', ' ', ' '] = true :=
        endsNoWord_of_noWord hk (by decide)
      have hkeyword := endsNoWord_keyword h fun_mem hf
      have hopen := endsNoWord_append hk (show isWordChar '\n' = false by decide)
        (endsNoWord_afterOpen h f) ih
      have hname := endsNoWord_append hk (show isWordChar '(' = false by decide)
        (f.name.quiet keyword h) hopen
      have hline := endsNoWord_append hk (show isWordChar ' ' = false by decide)
        hindent (endsNoWord_append hk (show isWordChar ' ' = false by decide) hkeyword hname)
      simpa [functionLines_cons] using hline

theorem endsNoWord_importLines (h : keyword ∈ sourceKeywords)
    (hi : keyword ≠ importKeyword) (paths : List DottedName) :
    endsNoWord keyword (importLines paths) = true := by
  have hk := keyword_sourceKeywords h
  induction paths with
  | nil => rfl
  | cons path paths ih =>
      rw [importLines_cons]
      exact endsNoWord_append hk (by decide) (endsNoWord_keyword h import_mem hi)
        (endsNoWord_append hk (by decide) (path.quiet keyword h) ih)

theorem endsNoWord_ending (hk : Keyword keyword) (feeds : Nat) :
    endsNoWord keyword ('\x7d' :: List.replicate feeds '\n') = true := by
  refine endsNoWord_cons hk (by decide) (endsNoWord_of_noWord hk ?_)
  rw [List.any_replicate]
  simp [show isWordChar '\n' = false by decide]

namespace ClassDeclaration

theorem endsNoWord_packageLine (h : keyword ∈ sourceKeywords)
    (hp : keyword ≠ packageKeyword) (d : ClassDeclaration) :
    endsNoWord keyword d.packageLine = true :=
  endsNoWord_append (keyword_sourceKeywords h) (by decide) (endsNoWord_keyword h package_mem hp)
    (d.package.quiet keyword h)

theorem endsNoWord_front (h : keyword ∈ sourceKeywords) (hp : keyword ≠ packageKeyword)
    (hi : keyword ≠ importKeyword) (d : ClassDeclaration) : endsNoWord keyword d.front = true := by
  have hk := keyword_sourceKeywords h
  exact endsNoWord_append hk (by decide) (endsNoWord_packageLine h hp d)
    (endsNoWord_cons hk (by decide) (endsNoWord_importLines h hi d.imports))

theorem endsNoWord_afterOpen (h : keyword ∈ sourceKeywords)
    (hb : keyword ∉ Signature.bindingWords) (d : ClassDeclaration) :
    endsNoWord keyword d.afterOpen = true := by
  have hk := keyword_sourceKeywords h
  have hlist := endsNoWord_list hk (List.forall_mem_map.2 fun p (_ : p ∈ d.parameters) =>
    endsNoWord_constructorParameter h hb p)
  exact endsNoWord_append hk (by decide) hlist (endsNoWord_of_noWord hk (by decide))

/-- The line of the class. -/
theorem endsNoWord_classLine (h : keyword ∈ sourceKeywords)
    (hc : keyword ≠ classKeyword) (hb : keyword ∉ Signature.bindingWords) (d : ClassDeclaration) :
    endsNoWord keyword (classKeyword ++ ' ' :: (d.name.text ++ '(' :: d.afterOpen)) = true := by
  have hk := keyword_sourceKeywords h
  exact endsNoWord_append hk (by decide) (endsNoWord_keyword h class_mem hc)
    (endsNoWord_append hk (by decide) (d.name.quiet keyword h) (d.endsNoWord_afterOpen h hb))

end ClassDeclaration

/-! ## Nesting -/

theorem plain_of_isWordChar {c : Char} (h : isWordChar c = true) : Plain c := by
  have hnone : ['<', '(', '[', '>', ')', ']', ','].any isWordChar = false := by decide
  intro hm
  have hc := List.any_eq_false.1 hnone c hm
  exact hc h

theorem listEntry_parameter (p : ParameterDeclaration) : ListEntry p.source := by
  have hname : ListEntry p.name.text :=
    ListEntry.of_plain fun c hc => plain_of_isWordChar (p.name.word c hc)
  have hdefault : ListEntry (defaultSource p.default) := by
    cases p.default with
    | none => rfl
    | some value => exact ((value.entry.cons (by decide)).cons (by decide)).cons (by decide)
  exact hname.append (((p.type.entry.append hdefault).cons (by decide)).cons (by decide))

theorem listEntry_constructorParameter (p : ConstructorParameter) : ListEntry p.source := by
  unfold ConstructorParameter.source
  split
  · rename_i b _
    have hb : ListEntry b.source := by
      obtain ⟨isPrivate, kind⟩ := b
      cases isPrivate <;> cases kind <;> decide
    exact hb.append ((listEntry_parameter p.declaration).cons (by decide))
  · exact listEntry_parameter p.declaration

theorem isAllBlank_append {s t : List Char} (h : isAllBlank s = false) :
    isAllBlank (s ++ t) = false := by
  rw [isAllBlank] at h
  rw [isAllBlank, List.all_append, h, Bool.false_and]

theorem isAllBlank_parameter (p : ParameterDeclaration) : isAllBlank p.source = false := by
  obtain ⟨c, hc⟩ := List.exists_mem_of_ne_nil _ p.name.ne
  exact isAllBlank_append (by
    rw [isAllBlank, List.all_eq_false]
    exact ⟨c, hc, by simp [isBlank_of_isWordChar (p.name.word c hc)]⟩)

theorem isAllBlank_constructorParameter (p : ConstructorParameter) :
    isAllBlank p.source = false := by
  unfold ConstructorParameter.source
  split
  · rename_i b _
    refine isAllBlank_append ?_
    obtain ⟨isPrivate, kind⟩ := b
    cases isPrivate <;> cases kind <;> decide
  · exact isAllBlank_parameter p.declaration

/-- The entries of a printed list, each but the first behind a space. -/
theorem splitTopLevel_listSource {entries : List (List Char)}
    (h : ∀ e ∈ entries, ListEntry e ∧ isAllBlank e = false) :
    splitTopLevel (listSource entries) =
      entries.take 1 ++ (entries.drop 1).map (' ' :: ·) := by
  cases entries with
  | nil => rfl
  | cons e rest =>
      rw [listSource, joinWith_comma_blank]
      refine splitTopLevel_joinWith_comma fun piece hm => ?_
      rcases List.mem_cons.1 hm with rfl | hm
      · exact h piece (by simp)
      · obtain ⟨e', he', rfl⟩ := List.mem_map.1 hm
        obtain ⟨hseg, hblank⟩ := h e' (List.mem_cons_of_mem _ he')
        rw [isAllBlank] at hblank
        exact ⟨hseg.cons (by decide), by rw [isAllBlank, List.all_cons, hblank, Bool.and_false]⟩

/-! ## Entries -/

theorem map_splitTopLevel {α : Type} {f : List Char → α} {entries : List (List Char)}
    (hf : ∀ s, f (' ' :: s) = f s) (h : ∀ e ∈ entries, ListEntry e ∧ isAllBlank e = false) :
    (splitTopLevel (listSource entries)).map f = entries.map f := by
  have hskip : f ∘ (' ' :: ·) = f := funext hf
  rw [splitTopLevel_listSource h, List.map_append, List.map_map, hskip, ← List.map_append,
    List.take_append_drop]

theorem filterMap_splitTopLevel {α : Type} {f : List Char → Option α} {entries : List (List Char)}
    (hf : ∀ s, f (' ' :: s) = f s) (h : ∀ e ∈ entries, ListEntry e ∧ isAllBlank e = false) :
    (splitTopLevel (listSource entries)).filterMap f = entries.filterMap f := by
  have hskip : f ∘ (' ' :: ·) = f := funext hf
  rw [splitTopLevel_listSource h, List.filterMap_append, List.filterMap_map, hskip,
    ← List.filterMap_append, List.take_append_drop]

theorem parametersOf_listSource (parameters : List ParameterDeclaration) (default : String) :
    Signature.parametersOf default (listSource (parameters.map ParameterDeclaration.source)) =
      parameters.map ParameterDeclaration.model := by
  rw [Signature.parametersOf, map_splitTopLevel (parameter_cons_blank default), List.map_map]
  · exact List.map_congr_left fun p _ => p.parameter_source default
  · exact List.forall_mem_map.2 fun p _ => ⟨listEntry_parameter p, isAllBlank_parameter p⟩

end TestForge
