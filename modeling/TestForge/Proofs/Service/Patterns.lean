import TestForge.Proofs.Text.Blank
import TestForge.Service.SourcePatterns

/-!
# Where patterns match

A search passes over text in which its keyword ends no word, and stops at the keyword itself.
-/

namespace TestForge.SourcePatterns

open Text

/-! ## Keywords -/

def packageKeyword : List Char := "package".toList

def importKeyword : List Char := "import".toList

def classKeyword : List Char := "class".toList

def funKeyword : List Char := "fun".toList

def valKeyword : List Char := "val".toList

def varKeyword : List Char := "var".toList

def whereKeyword : List Char := "where".toList

def privateKeyword : List Char := "private".toList

/-- The keywords that source text is searched for. -/
def sourceKeywords : List (List Char) :=
  [packageKeyword, importKeyword, classKeyword, funKeyword, valKeyword, varKeyword, whereKeyword]

/-- No word of the text ends in a keyword. -/
def Quiet (s : List Char) : Prop :=
  ∀ keyword ∈ sourceKeywords, endsNoWord keyword s = true

instance (s : List Char) : Decidable (Quiet s) :=
  inferInstanceAs (Decidable (∀ keyword ∈ sourceKeywords, _))

theorem keyword_sourceKeywords {keyword : List Char} (h : keyword ∈ sourceKeywords) :
    Keyword keyword := by
  have hall : ∀ w ∈ sourceKeywords, w ≠ [] ∧ w.all isWordChar = true := by decide
  exact ⟨(hall keyword h).1, List.all_eq_true.1 (hall keyword h).2⟩

theorem package_mem : packageKeyword ∈ sourceKeywords := by simp [sourceKeywords]

theorem import_mem : importKeyword ∈ sourceKeywords := by simp [sourceKeywords]

theorem class_mem : classKeyword ∈ sourceKeywords := by simp [sourceKeywords]

theorem fun_mem : funKeyword ∈ sourceKeywords := by simp [sourceKeywords]

theorem bindingWords_eq : Signature.bindingWords = [valKeyword, varKeyword] := rfl

theorem bindingWords_subset {keyword : List Char} (h : keyword ∈ Signature.bindingWords) :
    keyword ∈ sourceKeywords := by
  simp only [bindingWords_eq, List.mem_cons, List.not_mem_nil, or_false] at h
  rcases h with rfl | rfl <;> simp [sourceKeywords]

/-- No keyword ends another one. -/
theorem endsNoWord_keyword {keyword other : List Char} (h : keyword ∈ sourceKeywords)
    (ho : other ∈ sourceKeywords) (hne : keyword ≠ other) : endsNoWord keyword other = true := by
  have hall : ∀ keyword ∈ sourceKeywords, ∀ other ∈ sourceKeywords, keyword ≠ other →
      endsNoWord keyword other = true := by decide
  exact hall keyword h other ho hne

theorem endsNoWord_private {keyword : List Char} (h : keyword ∈ sourceKeywords) :
    endsNoWord keyword privateKeyword = true := by
  have hall : ∀ keyword ∈ sourceKeywords, endsNoWord keyword privateKeyword = true := by decide
  exact hall keyword h

/-! ## Names -/

/-- A text that starts with a character that is no part of a name. -/
theorem head?_cons_stop {isPart : Char → Bool} {c : Char} (hc : isPart c = false) (s : List Char) :
    ∀ d, (c :: s).head? = some d → isPart d = false := by
  intro d hd
  rw [List.head?_cons, Option.some.injEq] at hd
  rwa [← hd]

theorem nameAfterBlank?_eq_none {isPart : Char → Bool} {s : List Char}
    (h : startsInWord s = true) : nameAfterBlank? isPart s = none := by
  cases s with
  | nil => rfl
  | cons c s =>
      have hc : isBlank c = false := isBlank_of_isWordChar (by simpa [startsInWord] using h)
      simp [nameAfterBlank?, hc]

theorem nameAfterBlank?_name {isPart : Char → Bool} {name rest : List Char} (hne : name ≠ [])
    (hb : ∀ c ∈ name, isBlank c = false) (hn : ∀ c ∈ name, isPart c = true)
    (hr : ∀ c, rest.head? = some c → isPart c = false) :
    nameAfterBlank? isPart (' ' :: (name ++ rest)) = some (name, rest) := by
  have hs : trimStart (' ' :: (name ++ rest)) = name ++ rest := by
    rw [trimStart_cons_blank (by decide)]
    cases name with
    | nil => exact absurd rfl hne
    | cons c name => exact trimStart_cons (hb c (by simp)) _
  obtain ⟨ht, hd⟩ := span_name hn hr
  have he : name.isEmpty = false := by simpa using hne
  simp only [nameAfterBlank?, hs, ht, hd, he]
  rfl

variable {keyword : List Char} {isPart : Char → Bool}

theorem named?_append {s : List Char} {c : Char} (hk : Keyword keyword)
    (hs : endsNoWord keyword s = true) (hc : isWordChar c = false) (t : List Char) :
    named? keyword isPart (s ++ c :: t) = named? keyword isPart t := by
  have hnone : ∀ s, endsNoWord keyword s = true →
      (after? keyword (s ++ c :: t)).bind (nameAfterBlank? isPart) = none := by
    intro s hs
    rw [Option.bind_eq_none_iff]
    exact fun rest ha => nameAfterBlank?_eq_none (startsInWord_of_append hk hs hc ha)
  induction s with
  | nil =>
      have hn := hnone [] rfl
      simp only [List.nil_append] at hn ⊢
      simp only [named?, hn]
  | cons d s ih =>
      have hn := hnone (d :: s) hs
      simp only [List.cons_append] at hn ⊢
      simp only [named?, hn]
      exact ih (endsNoWord_of_suffix (s := [d]) hs)

theorem named?_eq_none {s : List Char} (hk : Keyword keyword)
    (hs : endsNoWord keyword s = true) : named? keyword isPart s = none := by
  induction s with
  | nil => rfl
  | cons c s ih =>
      have hn : (after? keyword (c :: s)).bind (nameAfterBlank? isPart) = none := by
        rw [Option.bind_eq_none_iff]
        exact fun rest ha => nameAfterBlank?_eq_none (startsInWord_of_endsNoWord hs hk ha)
      simp only [named?, hn]
      exact ih (endsNoWord_of_suffix (s := [c]) hs)

theorem named?_here {name rest : List Char} (hk : Keyword keyword) (hne : name ≠ [])
    (hb : ∀ c ∈ name, isBlank c = false) (hn : ∀ c ∈ name, isPart c = true)
    (hr : ∀ c, rest.head? = some c → isPart c = false) :
    named? keyword isPart (keyword ++ ' ' :: (name ++ rest)) = some (name, rest) := by
  have hf : (after? keyword (keyword ++ ' ' :: (name ++ rest))).bind (nameAfterBlank? isPart) =
      some (name, rest) := by
    rw [after?_append, Option.bind_some, nameAfterBlank?_name hne hb hn hr]
  cases hkw : keyword with
  | nil => exact absurd hkw hk.ne
  | cons k ks =>
      rw [hkw] at hf
      simp only [List.cons_append] at hf ⊢
      simp only [named?, hf]

theorem packageName_eq (code : List Char) :
    packageName code =
      match named? packageKeyword isDottedChar code with
      | some (name, _) => String.ofList name
      | none => "" :=
  rfl

theorem importOf?_eq (line : List Char) :
    importOf? line = (named? importKeyword isDottedChar line).map fun found =>
      String.ofList found.1 :=
  rfl

/-! ## Properties -/

theorem propertyHere?_eq_none {s : List Char}
    (h : ∀ keyword ∈ Signature.bindingWords, ∀ rest, after? keyword s = some rest →
      startsInWord rest = true) : propertyHere? s = none := by
  have hn : (Signature.bindingWords.findSome? fun w => after? w s).bind
      (nameAfterBlank? isWordChar) = none := by
    rw [Option.bind_eq_none_iff]
    intro rest hf
    obtain ⟨w, hw, ha⟩ := List.exists_of_findSome?_eq_some hf
    exact nameAfterBlank?_eq_none (h w hw rest ha)
  simp only [propertyHere?, hn]

theorem property?_eq_none {s : List Char}
    (h : ∀ keyword ∈ Signature.bindingWords, endsNoWord keyword s = true) (atStart : Bool) :
    property? atStart s = none := by
  induction s generalizing atStart with
  | nil => rfl
  | cons c s ih =>
      have hn : propertyHere? (c :: s) = none := propertyHere?_eq_none fun w hw rest ha =>
        startsInWord_of_endsNoWord (h w hw) (keyword_sourceKeywords (bindingWords_subset hw)) ha
      have hs := ih (fun w hw => endsNoWord_of_suffix (s := [c]) (h w hw)) (isBlank c)
      cases atStart <;> simp [property?, hn, hs]

theorem property?_append {s : List Char}
    (h : ∀ keyword ∈ Signature.bindingWords, endsNoWord keyword s = true) (atStart : Bool)
    (t : List Char) : property? atStart (s ++ ' ' :: t) = property? true t := by
  have hnone : ∀ s, (∀ keyword ∈ Signature.bindingWords, endsNoWord keyword s = true) →
      propertyHere? (s ++ ' ' :: t) = none := by
    intro s h
    exact propertyHere?_eq_none fun w hw rest ha =>
      startsInWord_of_append (keyword_sourceKeywords (bindingWords_subset hw)) (h w hw) (by decide)
        ha
  induction s generalizing atStart with
  | nil =>
      have hn := hnone [] fun _ _ => rfl
      simp only [List.nil_append] at hn ⊢
      have hb : isBlank ' ' = true := by decide
      cases atStart <;> simp [property?, hn, hb]
  | cons c s ih =>
      have hn := hnone (c :: s) h
      have hs := ih (fun w hw => endsNoWord_of_suffix (s := [c]) (h w hw)) (isBlank c)
      simp only [List.cons_append] at hn ⊢
      cases atStart <;> simp [property?, hn, hs]

theorem property?_here {s : List Char} {found : List Char × List Char}
    (h : propertyHere? s = some found) : property? true s = some found := by
  cases s with
  | nil =>
      have hn : propertyHere? [] = none := rfl
      rw [hn] at h
      cases h
  | cons c s => simp [property?, h]

/-! ## Functions -/

theorem functionHere?_eq (before : Option Char) (s : List Char) :
    functionHere? before s =
      if before.any isWordChar then none else (after? funKeyword s).bind functionHead? :=
  rfl

theorem functionHere?_eq_none {before : Option Char} {s : List Char}
    (h : ∀ rest, after? funKeyword s = some rest → startsInWord rest = true) :
    functionHere? before s = none := by
  rw [functionHere?_eq]
  split
  · rfl
  · rw [Option.bind_eq_none_iff]
    intro rest ha
    have hw := h rest ha
    cases rest with
    | nil => rfl
    | cons c rest =>
        have hc : isBlank c = false := isBlank_of_isWordChar (by simpa [startsInWord] using hw)
        simp [functionHead?, hc]

theorem keyword_fun : Keyword funKeyword :=
  keyword_sourceKeywords fun_mem

theorem functionHeads_of_none {before : Option Char} {c : Char} {s : List Char}
    (h : functionHere? before (c :: s) = none) :
    functionHeads before (c :: s) = functionHeads (some c) s := by
  rw [functionHeads]
  split
  · rename_i hf
    rw [h] at hf
    cases hf
  · rfl

theorem functionHeads_eq_nil {s : List Char} (h : endsNoWord funKeyword s = true)
    (before : Option Char) : functionHeads before s = [] := by
  induction s generalizing before with
  | nil =>
      rw [functionHeads]
      have hn : functionHere? before [] = none := functionHere?_eq_none fun rest ha =>
        startsInWord_of_endsNoWord (s := []) rfl keyword_fun ha
      split
      · rename_i hf
        rw [hn] at hf
        cases hf
      · rfl
  | cons c s ih =>
      have hn : functionHere? before (c :: s) = none := functionHere?_eq_none fun rest ha =>
        startsInWord_of_endsNoWord h keyword_fun ha
      rw [functionHeads_of_none hn]
      exact ih (endsNoWord_of_suffix (s := [c]) h) (some c)

theorem functionHeads_append {s : List Char} {c : Char} (h : endsNoWord funKeyword s = true)
    (hc : isWordChar c = false) (before : Option Char) (t : List Char) :
    functionHeads before (s ++ c :: t) = functionHeads (some c) t := by
  induction s generalizing before with
  | nil =>
      exact functionHeads_of_none (functionHere?_eq_none fun rest ha =>
        startsInWord_of_append (s := []) keyword_fun rfl hc ha)
  | cons d s ih =>
      have hn : functionHere? before (d :: (s ++ c :: t)) = none := functionHere?_eq_none
        fun rest ha => startsInWord_of_append (s := d :: s) keyword_fun h hc ha
      rw [List.cons_append, functionHeads_of_none hn]
      exact ih (endsNoWord_of_suffix (s := [d]) h) (some d)

/-- The head of a function without type parameters. -/
theorem functionHeads_here {before : Option Char} {name : List Char}
    (hb : before.any isWordChar = false) (hne : name ≠ [])
    (hn : ∀ c ∈ name, isWordChar c = true) (t : List Char) :
    functionHeads before (funKeyword ++ ' ' :: (name ++ '(' :: t)) =
      (name, t) :: functionHeads (some '(') t := by
  have hs : trimStart (' ' :: (name ++ '(' :: t)) = name ++ '(' :: t := by
    rw [trimStart_cons_blank (by decide)]
    cases name with
    | nil => exact absurd rfl hne
    | cons c name => exact trimStart_cons (isBlank_of_isWordChar (hn c (by simp))) _
  have hbounds : afterBounds (name ++ '(' :: t) = name ++ '(' :: t := by
    cases name with
    | nil => exact absurd rfl hne
    | cons c name =>
        have hc : c ≠ '<' := by
          rintro rfl
          have hw := hn '<' (by simp)
          revert hw
          decide
        simp only [List.cons_append, afterBounds]
        split
        · rename_i heq
          exact absurd (List.cons.inj heq).1 hc
        · rfl
  have hparen : isWordChar '(' = false ∧ isBlank '(' = false ∧ isBlank ' ' = true := by decide
  obtain ⟨ht, hd⟩ := span_name hn (head?_cons_stop hparen.1 t)
  have he : name.isEmpty = false := by simpa using hne
  have hhere : functionHere? before (funKeyword ++ ' ' :: (name ++ '(' :: t)) =
      some (name, t) := by
    simp only [functionHere?_eq, hb, Bool.false_eq_true, ↓reduceIte, after?_append,
      Option.bind_some, functionHead?, hs, hbounds, ht, hd, hparen.2.2, he, Bool.not_true, Bool.or_self,
      trimStart_cons hparen.2.1]
  rw [functionHeads]
  split
  · rename_i hf
    rw [hhere] at hf
    cases hf
    rfl
  · rename_i hf
    rw [hhere] at hf
    cases hf

end TestForge.SourcePatterns
