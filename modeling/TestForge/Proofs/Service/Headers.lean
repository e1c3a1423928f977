import TestForge.Proofs.Service.Roundtrip

/-!
# Headers of constructors

Between the name of a class and the parameters of its constructor stand type parameters, annotations
and words, and the collaborators are read from the parameters alone. Only their imports are looked
up in the whole text, in which a header may have words that read as an import.
-/

namespace TestForge

open Text SourcePatterns

/-! ## Parts of a header -/

def constructorKeyword : List Char := "constructor".toList

/-- The name of an annotation: words with dots, of which the last character belongs to a word. -/
structure AnnotationName where
  front : List Char
  dotted : ∀ c ∈ front, isDottedChar c = true
  last : Char
  word : isWordChar last = true

def AnnotationName.text (n : AnnotationName) : List Char :=
  n.front ++ [n.last]

/-- The arguments of an annotation, and the white space in front of their parentheses. -/
structure Arguments where
  gap : Gap
  inside : List Char
  enclosed : Enclosed '(' ')' inside

def Arguments.text (a : Arguments) : List Char :=
  a.gap.text ++ '(' :: (a.inside ++ [')'])

inductive HeaderPart where
  | word (text : List Char) (known : text ∈ headerWords)
  | decorator (name : AnnotationName) (arguments : Option Arguments)

def HeaderPart.text : HeaderPart → List Char
  | .word text _ => text
  | .decorator name none => '@' :: name.text
  | .decorator name (some arguments) => '@' :: (name.text ++ arguments.text)

structure TypeParameters where
  inside : List Char
  enclosed : Enclosed '<' '>' inside

def TypeParameters.text (p : TypeParameters) : List Char :=
  '<' :: (p.inside ++ ['>'])

/-- What stands between the name of a class and the parameters of its constructor. -/
structure ConstructorHeader where
  typeParameters : Option TypeParameters
  lead : Gap
  parts : List (HeaderPart × Separator)
  /-- The white space behind the last word. -/
  trail : Gap

namespace ConstructorHeader

def partsText (parts : List (HeaderPart × Separator)) : List Char :=
  parts.flatMap fun p => p.1.text ++ p.2.text

/-- The parts with white space between them, and `constructor` at the end. -/
def itemsText (h : ConstructorHeader) : List Char :=
  partsText h.parts ++ (constructorKeyword ++ h.trail.text)

def text (h : ConstructorHeader) : List Char :=
  (match h.typeParameters with
    | some p => p.text
    | none => []) ++ (h.lead.text ++ h.itemsText)

end ConstructorHeader

/-! ## One item -/

theorem dottedName_append (n : AnnotationName) {rest : List Char}
    (hr : ∀ c, rest.head? = some c → isDottedChar c = false) :
    dottedName (n.text ++ rest) = n.text := by
  have hlast : isDottedChar n.last = true := by simp [isDottedChar, n.word]
  have hdotted : ∀ c ∈ n.text, isDottedChar c = true := by
    intro c hc
    rcases List.mem_append.1 hc with hc | hc
    · exact n.dotted c hc
    · rwa [List.mem_singleton.1 hc]
  have hdot : (n.last == '.') = false := by
    rw [beq_eq_false_iff_ne]
    intro he
    have hw := n.word
    rw [he] at hw
    revert hw
    decide
  rw [dottedName, (span_name hdotted hr).1]
  simp [AnnotationName.text, hdot]

/-- No word of a header begins another one. -/
theorem headerWords_apart {w w' s s' : List Char} (hw : w ∈ headerWords) (hw' : w' ∈ headerWords)
    (h : w ++ s = w' ++ s') : w = w' := by
  have hall : ∀ w ∈ headerWords, ∀ w' ∈ headerWords, w <+: w' → w = w' := by decide
  rcases List.prefix_or_prefix_of_prefix ⟨s, h⟩ ⟨s', rfl⟩ with hp | hp
  · exact hall w hw w' hw' hp
  · exact (hall w' hw' w hw hp).symm

theorem headerWord?_append {w rest : List Char} (h : w ∈ headerWords)
    (hr : wordEnds rest = true) : headerWord? (w ++ rest) = some rest := by
  have hhere : (after? w (w ++ rest)).filter wordEnds = some rest := by
    rw [after?_append, Option.filter_some, if_pos hr]
  cases hf : headerWord? (w ++ rest) with
  | none =>
      rw [List.findSome?_eq_none_iff.1 hf w h] at hhere
      cases hhere
  | some r =>
      obtain ⟨w', hw', hr'⟩ := List.exists_of_findSome?_eq_some hf
      have hsplit := eq_append_of_after? (Option.filter_eq_some_iff.1 hr').1
      obtain rfl := headerWords_apart h hw' hsplit
      rw [List.append_cancel_left hsplit]

theorem headerItem?_word {w rest : List Char} (h : w ∈ headerWords)
    (hr : wordEnds rest = true) : headerItem? (w ++ rest) = some (.keyword, rest) := by
  have hat : ∀ w ∈ headerWords, w ≠ [] ∧ '@' ∉ w := by decide
  unfold headerItem?
  split
  · rename_i rest' he
    obtain ⟨c, cs, rfl⟩ := List.exists_cons_of_ne_nil (hat w h).1
    exact absurd (by simp [(List.cons.inj he).1]) (hat _ h).2
  · rw [headerWord?_append h hr]
    rfl

theorem headerItem?_decorator (n : AnnotationName) {rest : List Char}
    (hr : ∀ c, rest.head? = some c → isDottedChar c = false) :
    headerItem? ('@' :: (n.text ++ rest)) = some (.decorator, rest) := by
  have hne : n.text.isEmpty = false := by simp [AnnotationName.text]
  simp [headerItem?, dottedName_append n hr, hne]

/-- The loop goes on behind an item and the arguments it may have. -/
theorem afterHeader?_of_item {s rest next : List Char} {item : HeaderItem}
    (h : headerItem? s = some (item, rest))
    (ha : afterArguments? item (trimStart rest) = some next) :
    afterHeader? s = afterHeader? next := by
  rw [afterHeader?]
  split
  · rename_i hn
    rw [h] at hn
    cases hn
  · rename_i item' rest' hs
    rw [h] at hs
    cases hs
    split
    · rename_i hn
      rw [ha] at hn
      cases hn
    · rename_i next' hn
      rw [ha] at hn
      cases hn
      rfl

theorem wordEnds_gap (g : Gap) {s : List Char} (h : wordEnds s = true) :
    wordEnds (g.text ++ s) = true := by
  cases hs : g.text ++ s with
  | nil => rfl
  | cons c rest =>
      rcases g.head?_append s (c := c) (by rw [hs]; rfl) with hb | hc
      · simp [wordEnds, isWordChar_of_isBlank hb]
      · cases s with
        | nil => cases hc
        | cons d s =>
            cases hc
            exact h

theorem wordEnds_separator (g : Separator) (s : List Char) : wordEnds (g.text ++ s) = true := by
  obtain ⟨c, hc, hb⟩ := g.head?_append s
  cases hs : g.text ++ s with
  | nil => rfl
  | cons d rest =>
      rw [hs] at hc
      cases hc
      simp [wordEnds, isWordChar_of_isBlank hb]

/-! ## All items -/

/-- Text that begins with neither white space nor arguments. -/
def startsItem (s : List Char) : Bool :=
  s.head?.any fun c => !isBlank c && c != '('

theorem startsItem_word {w : List Char} (h : w ∈ headerWords) (s : List Char) :
    startsItem (w ++ s) = true := by
  have hall : ∀ w ∈ headerWords, startsItem w = true := by decide
  have hw := hall w h
  cases w with
  | nil => cases hw
  | cons c w => exact hw

theorem startsItem_part (p : HeaderPart) (s : List Char) : startsItem (p.text ++ s) = true := by
  have hat : (!isBlank '@' && '@' != '(') = true := by decide
  cases p with
  | word w h => exact startsItem_word h s
  | decorator name arguments => cases arguments <;> exact hat

theorem startsItem_items (parts : List (HeaderPart × Separator)) (s : List Char) :
    startsItem (ConstructorHeader.partsText parts ++ (constructorKeyword ++ s)) = true := by
  cases parts with
  | nil => exact startsItem_word (by decide) s
  | cons p parts =>
      simp only [ConstructorHeader.partsText, List.flatMap_cons, List.append_assoc]
      exact startsItem_part p.1 _

theorem trimStart_of_startsItem {s : List Char} (h : startsItem s = true) : trimStart s = s := by
  cases s with
  | nil => rfl
  | cons c s =>
      simp only [startsItem, List.head?_cons, Option.any_some, Bool.and_eq_true,
        Bool.not_eq_true'] at h
      exact trimStart_cons h.1 s

theorem afterArguments?_of_startsItem {s : List Char} (h : startsItem s = true)
    (item : HeaderItem) : afterArguments? item s = some s := by
  refine if_neg fun hp => ?_
  simp [startsItem, hp.2] at h

theorem isDottedChar_of_isBlank {c : Char} (h : isBlank c = true) : isDottedChar c = false := by
  have hdot : c ≠ '.' := by
    rintro rfl
    revert h
    decide
  simp [isDottedChar, hdot, isWordChar_of_isBlank h]

/-- A part of the header is passed with its arguments. -/
theorem afterHeader?_part (p : HeaderPart) (g : Separator) {s : List Char}
    (h : startsItem s = true) : afterHeader? (p.text ++ (g.text ++ s)) = afterHeader? s := by
  have hs : trimStart (g.text ++ s) = s := by rw [trimStart_gap, trimStart_of_startsItem h]
  have hsep : ∀ c, (g.text ++ s).head? = some c → isDottedChar c = false := by
    intro c hc
    obtain ⟨d, hd, hb⟩ := g.head?_append s
    rw [hd] at hc
    cases hc
    exact isDottedChar_of_isBlank hb
  cases p with
  | word w known =>
      exact afterHeader?_of_item (headerItem?_word known (wordEnds_separator g s))
        (by rw [hs, afterArguments?_of_startsItem h])
  | decorator name arguments =>
      cases arguments with
      | none =>
          exact afterHeader?_of_item (headerItem?_decorator name hsep)
            (by rw [hs, afterArguments?_of_startsItem h])
      | some a =>
          have hgap : ∀ c,
              (a.gap.text ++ '(' :: (a.inside ++ ')' :: (g.text ++ s))).head? = some c →
              isDottedChar c = false := by
            intro c hc
            rcases a.gap.head?_append _ hc with hb | hp
            · exact isDottedChar_of_isBlank hb
            · cases hp
              decide
          have htext : HeaderPart.text (.decorator name (some a)) ++ (g.text ++ s) =
              '@' :: (name.text ++ (a.gap.text ++ '(' :: (a.inside ++ ')' :: (g.text ++ s)))) := by
            simp [HeaderPart.text, Arguments.text]
          rw [htext]
          refine afterHeader?_of_item (headerItem?_decorator name hgap) ?_
          rw [trimStart_gap, trimStart_cons (by decide), afterArguments?, if_pos ⟨rfl, rfl⟩,
            a.enclosed.group? (by decide), Option.map_some, hs]

/-- The loop over the items ends at the parenthesis behind them. -/
theorem ConstructorHeader.afterHeader?_items (h : ConstructorHeader) (s : List Char) :
    afterHeader? (h.itemsText ++ '(' :: s) = some ('(' :: s) := by
  obtain ⟨typeParameters, lead, parts, trail⟩ := h
  simp only [itemsText, List.append_assoc]
  induction parts with
  | nil =>
      have hends : wordEnds (trail.text ++ '(' :: s) = true := wordEnds_gap trail (by rfl)
      have hparen : trimStart (trail.text ++ '(' :: s) = '(' :: s := by
        rw [trimStart_gap, trimStart_cons (by decide)]
      refine (afterHeader?_of_item (headerItem?_word (by decide) hends) ?_).trans
        (afterHeader?_paren s)
      rw [hparen]
      rfl
  | cons p parts ih =>
      have hnext := startsItem_items parts (trail.text ++ '(' :: s)
      simp only [partsText, List.flatMap_cons, List.append_assoc] at hnext ih ⊢
      rw [afterHeader?_part p.1 p.2 hnext]
      exact ih

/-! ## The parameters behind a header -/

/-- A list in parentheses and what follows it. -/
def parenthesised (list tail : List Char) : List Char :=
  '(' :: (list ++ ')' :: tail)

theorem afterTypeParameters?_of_startsItem {s : List Char} (h : startsItem s = true)
    (hs : s.head? ≠ some '<') : afterTypeParameters? (trimStart s) = some s := by
  rw [trimStart_of_startsItem h]
  exact if_neg hs

theorem ConstructorHeader.head?_items (h : ConstructorHeader) (s : List Char) :
    startsItem (h.itemsText ++ s) = true ∧ (h.itemsText ++ s).head? ≠ some '<' := by
  have hword : ∀ w ∈ headerWords, w ≠ [] ∧ w.head? ≠ some '<' := by decide
  have hhead (w : List Char) (hw : w ∈ headerWords) (s : List Char) :
      (w ++ s).head? ≠ some '<' := by
    obtain ⟨c, cs, rfl⟩ := List.exists_cons_of_ne_nil (hword w hw).1
    exact (hword _ hw).2
  obtain ⟨typeParameters, lead, parts, trail⟩ := h
  simp only [itemsText, List.append_assoc]
  refine ⟨startsItem_items parts _, ?_⟩
  cases parts with
  | nil => exact hhead constructorKeyword (by decide) _
  | cons p parts =>
      simp only [partsText, List.flatMap_cons, List.append_assoc]
      cases p.1 with
      | word w known => exact hhead w known _
      | decorator name arguments => cases arguments <;> simp [HeaderPart.text]

theorem ConstructorHeader.afterTypeParameters?_text (h : ConstructorHeader) (s : List Char) :
    afterTypeParameters? (trimStart (h.text ++ s)) = some (h.itemsText ++ s) := by
  obtain ⟨hstart, hhead⟩ := h.head?_items s
  unfold text
  split
  · rename_i p _
    have hgroup := p.enclosed.group? (by decide) (h.lead.text ++ (h.itemsText ++ s))
    simp only [TypeParameters.text, List.append_assoc, List.cons_append, List.nil_append]
    rw [trimStart_cons (by decide), afterTypeParameters?, List.head?_cons, if_pos rfl, hgroup,
      Option.map_some, trimStart_gap, trimStart_of_startsItem hstart]
  · rw [List.nil_append, List.append_assoc, trimStart_gap]
    exact afterTypeParameters?_of_startsItem hstart hhead

theorem constructorList?_parenthesised {list : List Char} (h : Enclosed '(' ')' list)
    (tail : List Char) : constructorList? (parenthesised list tail) = some list := by
  have hgroup := h.group? (by decide) tail
  have htypes : afterTypeParameters? (trimStart ('(' :: (list ++ ')' :: tail))) =
      some ('(' :: (list ++ ')' :: tail)) := by
    rw [trimStart_cons (by decide)]
    rfl
  simp only [constructorList?, parenthesised, htypes, afterHeader?_paren, hgroup, Option.map_some]

theorem ConstructorHeader.constructorList?_text (h : ConstructorHeader) {list : List Char}
    (hl : Enclosed '(' ')' list) (tail : List Char) :
    constructorList? (h.text ++ parenthesised list tail) = some list := by
  have hgroup := hl.group? (by decide) tail
  simp only [constructorList?, h.afterTypeParameters?_text, parenthesised, h.afterHeader?_items,
    hgroup, Option.map_some]

theorem constructorDependencies_of_list {s list : List Char} (h : constructorList? s = some list) :
    constructorDependencies s = (splitTopLevel list).filterMap dependency? := by
  simp only [constructorDependencies, h]

/-! ## Whole classes -/

/-- The first class that a text declares, up to the end of its name. -/
structure ClassStart where
  front : List Char
  first : named? classKeyword isWordChar (front ++ classKeyword) = none
  gap : Separator
  name : List Char
  ne : name ≠ []
  word : ∀ c ∈ name, isWordChar c = true

def ClassStart.text (c : ClassStart) : List Char :=
  c.front ++ (classKeyword ++ (c.gap.text ++ c.name))

theorem nameAfterBlank?_separator {isPart : Char → Bool} {name rest : List Char} (g : Separator)
    (hne : name ≠ []) (hb : ∀ c ∈ name, isBlank c = false) (hn : ∀ c ∈ name, isPart c = true)
    (hr : ∀ c, rest.head? = some c → isPart c = false) :
    nameAfterBlank? isPart (g.text ++ (name ++ rest)) = some (name, rest) := by
  obtain ⟨c, hc, hblank⟩ := g.head?_append (name ++ rest)
  obtain ⟨ht, hd⟩ := span_name hn hr
  have hs : trimStart (g.text ++ (name ++ rest)) = name ++ rest := by
    rw [trimStart_gap]
    obtain ⟨d, ds, rfl⟩ := List.exists_cons_of_ne_nil hne
    exact trimStart_cons (hb d List.mem_cons_self) _
  have he : name.isEmpty = false := by simpa using hne
  cases hg : g.text ++ (name ++ rest) with
  | nil =>
      rw [hg] at hc
      cases hc
  | cons d ds =>
      rw [hg] at hs hc
      cases hc
      simp only [nameAfterBlank?, hs, ht, hd, he, hblank]
      rfl

/-- A name is found behind white space if and only if it stands there. -/
theorem nameAfterBlank?_eq_some_iff {isPart : Char → Bool} {s name rest : List Char}
    (hpart : ∀ c, isBlank c = true → isPart c = false) :
    nameAfterBlank? isPart s = some (name, rest) ↔
      ∃ gap : Separator, s = gap.text ++ (name ++ rest) ∧ name ≠ [] ∧
        (∀ c ∈ name, isPart c = true) ∧ ∀ c, rest.head? = some c → isPart c = false := by
  constructor
  · intro h
    cases s with
    | nil => cases h
    | cons c s =>
        simp only [nameAfterBlank?] at h
        split at h
        · rename_i hfound
          rw [Bool.and_eq_true] at hfound
          cases h
          have hblank : (c :: s).takeWhile isBlank ≠ [] := by simp [hfound.1]
          refine ⟨⟨⟨(c :: s).takeWhile isBlank, List.all_takeWhile⟩, hblank⟩, ?_, ?_, ?_, ?_⟩
          · rw [List.takeWhile_append_dropWhile]
            exact (List.takeWhile_append_dropWhile).symm
          · simpa using hfound.2
          · exact fun d hd => List.mem_takeWhile_imp hd
          · intro d hd
            have hhead := List.head?_dropWhile_not isPart (trimStart (c :: s))
            rw [hd] at hhead
            exact hhead
        · cases h
  · rintro ⟨gap, rfl, hne, hn, hr⟩
    have hb : ∀ c ∈ name, isBlank c = false := by
      intro c hc
      cases hblank : isBlank c with
      | false => rfl
      | true => rw [← hn c hc, hpart c hblank]
    exact nameAfterBlank?_separator gap hne hb hn hr

/-- No name stands behind a keyword, however the text goes on behind a character that is not white
space. -/
theorem nameAfterBlank?_eq_none_append {isPart : Char → Bool} {r : List Char} {last : Char}
    (hb : isBlank last = false) (h : nameAfterBlank? isPart (r ++ [last]) = none) (s : List Char) :
    nameAfterBlank? isPart (r ++ last :: s) = none := by
  have htrim : trimStart (r ++ last :: s) = trimStart (r ++ [last]) ++ s := by
    simp only [trimStart, List.dropWhile_append]
    split <;> simp [hb]
  have hne : trimStart (r ++ [last]) ≠ [] := by
    intro he
    have hall := List.dropWhile_eq_nil_iff.1 he last (by simp)
    rw [hb] at hall
    cases hall
  obtain ⟨d, ds, hd⟩ := List.exists_cons_of_ne_nil hne
  cases r with
  | nil => simp [nameAfterBlank?, hb]
  | cons c r =>
      rw [List.cons_append] at h hd htrim ⊢
      simp only [nameAfterBlank?, htrim, hd, List.cons_append, List.takeWhile_cons] at h ⊢
      cases hp : isPart d with
      | false => simp
      | true =>
          simp only [hp, ↓reduceIte, List.isEmpty_cons, Bool.not_false, Bool.and_true,
            ite_eq_right_iff, reduceCtorEq, imp_false, Bool.not_eq_true] at h ⊢
          exact h

/-- What begins in front of a keyword ends in front of the last character of that keyword. -/
theorem after?_front {keyword init front rest : List Char} {last d : Char}
    (hl : keyword = init ++ [last]) (s : List Char)
    (h : after? keyword (d :: (front ++ (keyword ++ s))) = some rest) :
    ∃ r, rest = r ++ last :: s ∧ after? keyword (d :: (front ++ keyword)) = some (r ++ [last]) := by
  have hsplit := eq_append_of_after? h
  have hp : keyword <+: d :: (front ++ init) :=
    List.prefix_of_prefix_length_le ⟨rest, hsplit.symm⟩ ⟨last :: s, by simp [hl]⟩
      (by simp [hl])
  obtain ⟨r, hr⟩ := hp
  have hwhole (s : List Char) : d :: (front ++ (keyword ++ s)) = keyword ++ (r ++ last :: s) := by
    rw [← List.append_assoc keyword, hr, hl]
    simp
  refine ⟨r, List.append_cancel_left (hsplit.symm.trans (hwhole s)), ?_⟩
  rw [after?_eq_some_iff, ← hwhole [], List.append_nil]

/-- A search passes over a front in which nothing is found, whatever follows the keyword behind. -/
theorem named?_of_front {keyword : List Char} {isPart : Char → Bool} (hk : Keyword keyword)
    {front : List Char} (h : named? keyword isPart (front ++ keyword) = none) (s : List Char) :
    named? keyword isPart (front ++ (keyword ++ s)) = named? keyword isPart (keyword ++ s) := by
  obtain ⟨init, last, hl⟩ := keyword.eq_nil_or_concat.resolve_left hk.ne
  rw [List.concat_eq_append] at hl
  have hlast : isBlank last = false := isBlank_of_isWordChar (hk.wordChars last (by simp [hl]))
  induction front with
  | nil => rfl
  | cons d front ih =>
      simp only [List.cons_append, named?] at h ⊢
      split at h
      · cases h
      · rename_i hhere
        have hnone : (after? keyword (d :: (front ++ (keyword ++ s)))).bind
            (nameAfterBlank? isPart) = none := by
          rw [Option.bind_eq_none_iff]
          intro rest ha
          obtain ⟨r, rfl, hr⟩ := after?_front hl s ha
          exact nameAfterBlank?_eq_none_append hlast (Option.bind_eq_none_iff.1 hhere _ hr) s
        simp only [hnone]
        exact ih h

theorem ClassStart.named?_text (c : ClassStart) {rest : List Char} (hr : wordEnds rest = true) :
    named? classKeyword isWordChar (c.text ++ rest) = some (c.name, rest) := by
  have hk := keyword_sourceKeywords class_mem
  have hblank : ∀ d ∈ c.name, isBlank d = false := fun d hd => isBlank_of_isWordChar (c.word d hd)
  have hstop : ∀ d, rest.head? = some d → isWordChar d = false := by
    intro d hd
    cases rest with
    | nil => cases hd
    | cons e rest =>
        cases hd
        simpa [wordEnds] using hr
  have hname := nameAfterBlank?_separator c.gap c.ne hblank c.word hstop
  have htext : c.text ++ rest =
      c.front ++ (classKeyword ++ (c.gap.text ++ (c.name ++ rest))) := by
    simp [text]
  rw [htext, named?_of_front hk c.first]
  obtain ⟨k, ks, hkw⟩ := List.exists_cons_of_ne_nil hk.ne
  have hhere : (after? classKeyword (classKeyword ++ (c.gap.text ++ (c.name ++ rest)))).bind
      (nameAfterBlank? isWordChar) = some (c.name, rest) := by
    rw [after?_append, Option.bind_some, hname]
  rw [hkw] at hhere ⊢
  simp only [List.cons_append] at hhere ⊢
  simp only [named?, hhere]

/-- The collaborators of a class are read from the text behind its name, their imports from the
whole text. -/
theorem ClassStart.dependencies_ofSource (c : ClassStart) {rest : List Char}
    (hr : wordEnds rest = true) :
    (ServiceModel.ofSource (String.ofList (c.text ++ rest))).dependencies =
      resolveImports (imports (c.text ++ rest)) (constructorDependencies rest) := by
  have hnamed : named? "class".toList isWordChar (c.text ++ rest) = some (c.name, rest) :=
    c.named?_text hr
  simp only [ServiceModel.ofSource, String.toList_ofList, hnamed]

/-! ## Headers and dependencies -/

/-- A dependency as it is declared. -/
def Dependency.declared (d : Dependency) : Dependency :=
  { d with importPath := none }

theorem map_declared_resolveImports (imports : List String) (dependencies : List Dependency) :
    (resolveImports imports dependencies).map Dependency.declared =
      dependencies.map Dependency.declared := by
  rw [resolveImports, List.map_map]
  exact List.map_congr_left fun d _ => rfl

/-- The model of a class by what stands behind its name. -/
def ClassStart.model (c : ClassStart) (rest : List Char) : ServiceModel :=
  ServiceModel.ofSource (String.ofList (c.text ++ rest))

/-- A header leads to the parameter list behind it, and its class has the dependencies of the class
without it, but for the imports of the whole text that they are looked up in. -/
theorem dependencies_header (c : ClassStart) (h : ConstructorHeader) {list : List Char}
    (hw : wordEnds h.text = true) (hl : Enclosed '(' ')' list) (tail : List Char) :
    afterHeader? (h.itemsText ++ parenthesised list tail) = some (parenthesised list tail) ∧
    constructorList? (h.text ++ parenthesised list tail) = some list ∧
    constructorDependencies (h.text ++ parenthesised list tail) =
      constructorDependencies (parenthesised list tail) ∧
    (c.model (h.text ++ parenthesised list tail)).dependencies.map Dependency.declared =
      (c.model (parenthesised list tail)).dependencies.map Dependency.declared ∧
    ((c.model (h.text ++ parenthesised list tail)).imports =
        (c.model (parenthesised list tail)).imports →
      (c.model (h.text ++ parenthesised list tail)).dependencies =
        (c.model (parenthesised list tail)).dependencies) := by
  have hlist := h.constructorList?_text hl tail
  have hsame : constructorDependencies (h.text ++ parenthesised list tail) =
      constructorDependencies (parenthesised list tail) := by
    rw [constructorDependencies_of_list hlist,
      constructorDependencies_of_list (constructorList?_parenthesised hl tail)]
  have hends : wordEnds (h.text ++ parenthesised list tail) = true := by
    cases ht : h.text with
    | nil => rfl
    | cons d rest =>
        rw [ht] at hw
        exact hw
  have hwith := c.dependencies_ofSource hends
  have hparen : wordEnds (parenthesised list tail) = true := rfl
  have hwithout := c.dependencies_ofSource hparen
  rw [hsame] at hwith
  refine ⟨h.afterHeader?_items _, hlist, hsame, ?_, fun himports => ?_⟩
  · rw [ClassStart.model, ClassStart.model, hwith, hwithout, map_declared_resolveImports,
      map_declared_resolveImports]
  · simp only [ClassStart.model, ServiceModel.ofSource, String.toList_ofList] at himports
    rw [ClassStart.model, ClassStart.model, hwith, hwithout, himports]

/-- `class Service` -/
def ClassStart.service : ClassStart :=
  { front := []
    first := by decide +kernel
    gap := Separator.space
    name := "Service".toList
    ne := by decide
    word := List.all_eq_true.1 (by decide) }

/-- `<T : (Int) -> List<T>> @javax.Inject ((1)) private constructor`, with an arrow in the type
parameters and parentheses in the arguments. -/
def ConstructorHeader.injected : ConstructorHeader :=
  { typeParameters := some ⟨"T : (Int) -> List<T>".toList, by decide⟩
    lead := Separator.space.toGap
    parts :=
      [(.decorator ⟨"javax.Injec".toList, List.all_eq_true.1 (by decide), 't', by decide⟩
          (some ⟨Separator.space.toGap, "(1)".toList, by decide⟩), Separator.space),
        (.word "private".toList (by decide), Separator.space)]
    trail := Gap.empty }

theorem dependencies_header_injected :
    wordEnds ConstructorHeader.injected.text = true ∧
    Enclosed '(' ')' "val items: List<Item>, size: Int = (2)".toList ∧
    (ClassStart.service.model (ConstructorHeader.injected.text ++
        parenthesised "val items: List<Item>, size: Int = (2)".toList
          " : Store".toList)).dependencies =
      [⟨"items", "List<Item>", none⟩] := by
  have hw : wordEnds ConstructorHeader.injected.text = true := by decide
  have hl : Enclosed '(' ')' "val items: List<Item>, size: Int = (2)".toList := by decide
  obtain ⟨-, -, -, -, hsame⟩ :=
    dependencies_header .service .injected hw hl " : Store".toList
  have himports : (ClassStart.service.model (ConstructorHeader.injected.text ++
      parenthesised "val items: List<Item>, size: Int = (2)".toList " : Store".toList)).imports =
        (ClassStart.service.model (parenthesised
          "val items: List<Item>, size: Int = (2)".toList " : Store".toList)).imports := by
    decide +kernel
  have hdirect : (ClassStart.service.model (parenthesised
      "val items: List<Item>, size: Int = (2)".toList " : Store".toList)).dependencies =
        [⟨"items", "List<Item>", none⟩] := by
    decide +kernel
  exact ⟨hw, hl, (hsame himports).trans hdirect⟩

/-- `@Deprecated("import shop.Repo") constructor` -/
def ConstructorHeader.deprecated : ConstructorHeader :=
  { typeParameters := none
    lead := Separator.space.toGap
    parts :=
      [(.decorator ⟨"Deprecate".toList, List.all_eq_true.1 (by decide), 'd', by decide⟩
          (some ⟨Gap.empty, "\"import shop.Repo\"".toList, by decide⟩),
        Separator.space)]
    trail := Gap.empty }

/-- A header can hold the words of an import, and the import of a dependency is then found in it. -/
theorem import_in_header :
    ¬∀ (c : ClassStart) (h : ConstructorHeader) (list tail : List Char),
      wordEnds h.text = true → Enclosed '(' ')' list →
        (c.model (h.text ++ parenthesised list tail)).dependencies =
          (c.model (parenthesised list tail)).dependencies := by
  intro hall
  have hsame := hall .service .deprecated "val repo: Repo".toList [] (by decide) (by decide)
  have hwith : (ClassStart.service.model (ConstructorHeader.deprecated.text ++
      parenthesised "val repo: Repo".toList [])).dependencies =
        [⟨"repo", "Repo", some "shop.Repo"⟩] := by decide +kernel
  have hwithout : (ClassStart.service.model
      (parenthesised "val repo: Repo".toList [])).dependencies = [⟨"repo", "Repo", none⟩] := by
    decide +kernel
  rw [hwith, hwithout] at hsame
  revert hsame
  decide

end TestForge
