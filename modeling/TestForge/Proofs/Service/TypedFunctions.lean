import TestForge.Proofs.Service.ReturnTypes

/-!
# Functions with type parameters

The type parameters of a function are skipped up to the first bracket that closes. A function is
therefore found if its type parameters hold no such bracket and white space stands in front of them;
every other function with type parameters is passed over, whatever it declares. Of the functions that
are found those are read whose type begins on the line of the colon.
-/

namespace TestForge

open Text SourcePatterns

/-! ## Types that begin -/

/-- A type begins in front of anything that could end it. -/
def startsType (s : List Char) : Bool :=
  (s.dropWhile fun c => isBlank c && !endsType c).head?.any fun c => !endsType c

theorem withoutConstraints_cons {c : Char} (hc : isBlank c = false) (s : List Char) :
    (Signature.withoutConstraints (c :: s)).isEmpty = false := by
  unfold Signature.withoutConstraints
  split
  · rename_i before rest hcut
    have hs := eq_append_of_cutAt? hcut
    cases before with
    | nil =>
        cases hs
        revert hc
        decide
    | cons d before =>
        cases hs
        rw [trimEnd_cons hc]
        rfl
  · rfl

theorem countedStep_of_isBlank {c : Char} (h : isBlank c = true) : countedStep c = 0 := by
  have hbrackets : (['<', '(', '[', '>', ')', ']'].all fun b => !isBlank b) = true := by decide
  have hc : c ∉ ['<', '(', '[', '>', ')', ']'] := by
    intro hm
    have hb := List.all_eq_true.1 hbrackets c hm
    rw [h] at hb
    cases hb
  simp only [List.mem_cons, List.not_mem_nil, or_false, not_or] at hc
  simp [countedStep, hc]

theorem countedDepth_of_blank {s : List Char} (h : ∀ c ∈ s, isBlank c = true) :
    countedDepth s = 0 := by
  induction s with
  | nil => rfl
  | cons c s ih =>
      have hs := ih fun d hd => h d (List.mem_cons_of_mem c hd)
      rw [countedDepth, countedStep_of_isBlank (h c List.mem_cons_self), hs]
      rfl

/-- A text with anything in it goes on behind white space with a character that is none, or that
could end a type. -/
theorem exists_of_not_blank {s : List Char} (h : isAllBlank s = false) :
    ∃ front c rest, s = front ++ c :: rest ∧
      (∀ d ∈ front, isBlank d = true ∧ endsType d = false) ∧
      (isBlank c = false ∨ endsType c = true) ∧ startsType s = !endsType c := by
  have hs := List.takeWhile_append_dropWhile (p := fun c => isBlank c && !endsType c) (l := s)
  have hfront : ∀ d ∈ s.takeWhile (fun c => isBlank c && !endsType c),
      isBlank d = true ∧ endsType d = false := by
    intro d hd
    have hp := List.mem_takeWhile_imp hd
    simpa using hp
  have hstop := List.head?_dropWhile_not (fun c => isBlank c && !endsType c) s
  cases hd : s.dropWhile (fun c => isBlank c && !endsType c) with
  | nil =>
      have hall : isAllBlank s = true := by
        rw [List.dropWhile_eq_nil_iff] at hd
        refine List.all_eq_true.2 fun c hc => ?_
        have hp := hd c hc
        simp only [Bool.and_eq_true] at hp
        exact hp.1
      rw [hall] at h
      cases h
  | cons c rest =>
      rw [hd] at hs hstop
      refine ⟨_, c, rest, hs.symm, hfront, ?_, ?_⟩
      · simpa [or_iff_not_imp_left] using hstop
      · rw [startsType, hd]
        rfl

/-- A type is declared if it begins in front of anything that could end it, whatever follows. -/
theorem declaredType?_isSome {s : List Char} (h : isAllBlank s = false) (g : Gap)
    (t : List Char) :
    (Signature.declaredType? (g.text ++ ':' :: (s ++ t))).isSome = startsType s := by
  obtain ⟨front, c, rest, hs, hfront, hc, hstarts⟩ := exists_of_not_blank h
  have hcolon : isBlank ':' = false := by decide
  have hdepth := countedDepth_of_blank fun d hd => (hfront d hd).1
  have hend : Signature.typeEnd 0 (s ++ t) = front ++ Signature.typeEnd 0 (c :: (rest ++ t)) := by
    rw [hs, List.append_assoc, typeEnd_append, hdepth, Int.zero_add, List.cons_append]
    rintro front' d rest' rfl hd
    rw [(hfront d (by simp)).2] at hd
    cases hd
  simp only [Signature.declaredType?, trimStart_gap, trimStart_cons hcolon, hend, typeEnd_cons,
    hstarts]
  cases hends : endsType c with
  | true =>
      have htrim : trim front = [] := by
        rw [trim, trimStart, List.dropWhile_eq_nil_iff.2 fun d hd => (hfront d hd).1]
        rfl
      have hnone : Signature.withoutConstraints [] = [] := by decide
      simp [htrim, hnone]
  | false =>
      have hblank : isBlank c = false := hc.resolve_right (by simp [hends])
      have htrim (u : List Char) : trim (front ++ c :: u) = c :: trimEnd u := by
        rw [trim, trimStart, List.dropWhile_append_of_pos fun d hd => (hfront d hd).1]
        exact (congrArg trimEnd (trimStart_cons hblank u)).trans (trimEnd_cons hblank u)
      simp [htrim, withoutConstraints_cons hblank]

/-! ## The text of a function -/

/-- A closing parenthesis has a colon behind it, as the parameters of a function do. -/
def closesBeforeColon : List Char → Bool
  | [] => false
  | c :: cs => c == ')' && (trimStart cs).head? == some ':' || closesBeforeColon cs

theorem head?_of_closesBeforeColon {s t : List Char}
    (h : closesBeforeColon (s ++ ')' :: t) = false) : (trimStart t).head? ≠ some ':' := by
  induction s with
  | nil =>
      rw [List.nil_append, closesBeforeColon, Bool.or_eq_false_iff] at h
      simpa using h.1
  | cons c s ih =>
      rw [List.cons_append, closesBeforeColon, Bool.or_eq_false_iff] at h
      exact ih h.2

/-- Type parameters in angle brackets. -/
structure BoundList where
  inside : List Char
  nested : Nested inside
  undeclared : closesBeforeColon inside = false
  gap : Gap

def BoundList.text (b : BoundList) : List Char :=
  '<' :: (b.inside ++ '>' :: b.gap.text)

theorem declaredType?_eq_none {s : List Char} (h : (trimStart s).head? ≠ some ':') :
    Signature.declaredType? s = none := by
  unfold Signature.declaredType?
  split
  · rename_i he
    rw [he] at h
    exact absurd rfl h
  · rfl

/-- What opens behind a bracket inside type parameters closes inside them, and has no type. -/
theorem BoundList.method?_inside (b : BoundList) {front back : List Char}
    (hb : b.inside = front ++ '>' :: back) {found : List Char × List Char}
    (hf : openBehindName? (trimStart back) = some found) (t : List Char) :
    method? found.1 (found.2 ++ '>' :: t) = none := by
  obtain ⟨name, hopen⟩ := exists_of_openBehindName? hf
  obtain ⟨start, hstart⟩ : ∃ start, b.inside = start ++ '(' :: found.2 := by
    obtain ⟨blanks, hblanks⟩ := List.dropWhile_suffix isBlank (l := back)
    refine ⟨front ++ '>' :: (blanks ++ name), ?_⟩
    rw [hb, ← hblanks, List.append_assoc, List.cons_append, List.append_assoc, ← hopen]
    rfl
  have hnested := b.nested
  have hcolon := b.undeclared
  rw [hstart] at hnested hcolon
  obtain ⟨inside, rest, hclose, hcut⟩ := cutAtClose?_inside hnested
  have hsplit : start ++ '(' :: (inside ++ ')' :: rest) =
      (start ++ '(' :: inside) ++ ')' :: rest := by
    simp
  rw [hclose, hsplit] at hcolon
  have hhead := head?_of_closesBeforeColon hcolon
  have hnone : Signature.declaredType? (rest ++ '>' :: t) = none := by
    refine declaredType?_eq_none ?_
    rw [trimStart_append rest rfl]
    cases hr : trimStart rest with
    | nil => simp
    | cons c cs => simpa [hr] using hhead
  simp only [method?, hcut, hnone, Option.map_none]

/-- The parts of a function: modifier, type parameters, name, parameters, and from the colon on its
type, its body and what follows that. -/
structure FunctionParts where
  modifier : Option Separator
  gap : Gap
  bounds : Option BoundList
  apart : bounds = none → gap.text ≠ []
  name : List Char
  ne : name ≠ []
  word : ∀ c ∈ name, isWordChar c = true
  beforeOpen : Gap
  parameters : List Char
  nested : Nested parameters
  beforeColon : Gap
  typed : List Char
  present : isAllBlank typed = false

namespace FunctionParts

def overrideKeyword : List Char := "override".toList

def modifierText (f : FunctionParts) : List Char :=
  match f.modifier with
  | some gap => overrideKeyword ++ gap.text
  | none => []

def boundsText (f : FunctionParts) : List Char :=
  match f.bounds with
  | some bounds => bounds.text
  | none => []

/-- What stands behind the parenthesis that opens the parameters. -/
def afterOpen (f : FunctionParts) : List Char :=
  f.parameters ++ ')' :: (f.beforeColon.text ++ ':' :: f.typed)

/-- What stands behind the white space after the keyword. -/
def afterGap (f : FunctionParts) : List Char :=
  f.boundsText ++ (f.name ++ (f.beforeOpen.text ++ '(' :: f.afterOpen))

def afterKeyword (f : FunctionParts) : List Char :=
  f.gap.text ++ f.afterGap

def text (f : FunctionParts) : List Char :=
  f.modifierText ++ (funKeyword ++ f.afterKeyword)

/-- White space stands in front of the type parameters, and none of them closes a bracket. -/
def plain (f : FunctionParts) : Bool :=
  !f.gap.text.isEmpty && f.bounds.all fun b => !b.inside.contains '>'

/-- What is read of all functions: those with plain type parameters or none, and with a type that
begins on the line of the colon. -/
def read (f : FunctionParts) : Bool :=
  f.plain && startsType f.typed

/-- The name and the parameters that are declared. -/
def declared (f : FunctionParts) : String × Option (List Parameter) :=
  (String.ofList f.name, some (Signature.parametersOf Signature.parameterName f.parameters))

end FunctionParts

/-- A function, with no other one in its text. -/
structure FunctionText extends FunctionParts where
  alone : functionFree (some 'n') toFunctionParts.afterKeyword = true

namespace FunctionParts

variable (f : FunctionParts)

theorem name_cons : ∃ c rest, f.name = c :: rest ∧ isWordChar c = true := by
  obtain ⟨c, rest, hn⟩ := List.exists_cons_of_ne_nil f.ne
  exact ⟨c, rest, hn, f.word c (by simp [hn])⟩

/-- Type parameters or a name stand behind the gap. -/
theorem afterGap_cons : ∃ c rest, f.afterGap = c :: rest ∧
    (f.bounds.isSome = true ∧ c = '<' ∨ f.bounds = none ∧ isWordChar c = true) := by
  cases hb : f.bounds with
  | none =>
      obtain ⟨c, rest, hn, hc⟩ := f.name_cons
      refine ⟨c, rest ++ (f.beforeOpen.text ++ '(' :: f.afterOpen), ?_, Or.inr ⟨rfl, hc⟩⟩
      simp [afterGap, boundsText, hb, hn]
  | some b =>
      refine ⟨'<', b.inside ++ '>' :: b.gap.text ++
        (f.name ++ (f.beforeOpen.text ++ '(' :: f.afterOpen)), ?_, Or.inl ⟨rfl, rfl⟩⟩
      simp only [afterGap, boundsText, hb, BoundList.text, List.cons_append]

theorem trimStart_afterKeyword (t : List Char) :
    trimStart (f.afterKeyword ++ t) = f.afterGap ++ t := by
  obtain ⟨c, rest, hg, hc⟩ := f.afterGap_cons
  have hblank : isBlank c = false := by
    rcases hc with ⟨-, rfl⟩ | ⟨-, hc⟩
    · decide
    · exact isBlank_of_isWordChar hc
  rw [afterKeyword, List.append_assoc, trimStart_gap, hg, List.cons_append, trimStart_cons hblank]

theorem declares_keyword (t : List Char) : Declares (funKeyword ++ (f.afterKeyword ++ t)) := by
  obtain ⟨c, rest, hg, hc⟩ := f.afterGap_cons
  refine declares_word keyword_fun.ne keyword_fun.wordChars (fun d hd => ?_) ?_
  · rw [afterKeyword, List.append_assoc] at hd
    rcases f.gap.head?_append _ hd with hb | hd'
    · exact isWordChar_of_isBlank hb
    · rw [hg] at hd'
      cases hd'
      rcases hc with ⟨-, rfl⟩ | ⟨hnone, -⟩
      · decide
      · -- a name right behind the keyword would be part of it
        obtain ⟨e, es, hgap⟩ := List.exists_cons_of_ne_nil (f.apart hnone)
        have hb : ∀ c ∈ f.gap.text, isBlank c = true := List.all_eq_true.1 f.gap.blank
        rw [hgap] at hd hb
        cases hd
        exact isWordChar_of_isBlank (hb _ List.mem_cons_self)
  · rw [trimStart_afterKeyword, hg, List.cons_append, List.head?_cons]
    intro he
    rcases hc with ⟨-, rfl⟩ | ⟨-, hc⟩
    · cases he
    · exact ne_of_isWordChar hc (by decide) (Option.some.inj he)

theorem declares (t : List Char) : Declares (f.text ++ t) := by
  rw [text, modifierText]
  split
  · rename_i g _
    simp only [List.append_assoc]
    refine declares_word (by decide) (List.all_eq_true.1 (by decide)) (fun c hc => ?_) ?_
    · obtain ⟨d, hd, hb⟩ := g.head?_append (funKeyword ++ (f.afterKeyword ++ t))
      rw [hd] at hc
      cases hc
      exact isWordChar_of_isBlank hb
    · have hf : funKeyword = ['f', 'u', 'n'] := rfl
      have hblank : isBlank 'f' = false := by decide
      simp [hf, hblank]
  · simpa using f.declares_keyword t

/-! ## The head of a function -/

theorem boundsClose_afterKeyword : boundsClose f.afterKeyword = true := by
  have htrim := f.trimStart_afterKeyword []
  rw [List.append_nil, List.append_nil] at htrim
  unfold boundsClose
  split
  · rename_i rest he
    rw [htrim] at he
    cases hb : f.bounds with
    | none =>
        obtain ⟨c, rest', hn, hc⟩ := f.name_cons
        simp only [afterGap, boundsText, hb, hn, List.nil_append, List.cons_append] at he
        exact absurd (List.cons.inj he).1 (ne_of_isWordChar hc (by decide))
    | some b =>
        simp only [afterGap, boundsText, hb, BoundList.text, List.cons_append,
          List.append_assoc] at he
        cases he
        simp
  · rfl

/-- Plain type parameters are skipped. -/
theorem functionHead?_plain (h : f.plain = true) :
    functionHead? f.afterKeyword = some (f.name, f.afterOpen) := by
  rw [plain, Bool.and_eq_true, Bool.not_eq_true', Option.all_eq_true] at h
  obtain ⟨hgap, hflat⟩ := h
  have hblank : f.afterKeyword.head?.any isBlank = true := by
    have hne : f.gap.text ≠ [] := by simpa using hgap
    obtain ⟨c, hc, hb⟩ := Separator.head?_append ⟨f.gap, hne⟩ f.afterGap
    rw [afterKeyword, hc]
    exact hb
  have htrim := f.trimStart_afterKeyword []
  rw [List.append_nil, List.append_nil] at htrim
  obtain ⟨c, rest, hn, hc⟩ := f.name_cons
  have hbounds : afterBounds f.afterGap =
      f.name ++ (f.beforeOpen.text ++ '(' :: f.afterOpen) := by
    rw [afterGap, boundsText]
    split
    · rename_i b hb
      have hcut := cutAtChar?_append (show '>' ∉ b.inside by simpa using hflat b hb)
        (b.gap.text ++ (f.name ++ (f.beforeOpen.text ++ '(' :: f.afterOpen)))
      simp only [BoundList.text, List.cons_append, List.append_assoc, afterBounds, hcut,
        trimStart_gap]
      rw [hn, List.cons_append, trimStart_cons (isBlank_of_isWordChar hc)]
    · rw [List.nil_append]
      refine afterBounds_of_head? ?_
      rw [hn, List.cons_append, List.head?_cons]
      exact fun he => ne_of_isWordChar hc (by decide) (Option.some.inj he)
  rw [functionHead?_eq, if_pos hblank, htrim, hbounds, openBehindName?_here f.ne f.word]

/-- What is found behind other type parameters stands inside them, and declares nothing. -/
theorem method?_of_not_plain (h : f.plain = false) {found : List Char × List Char}
    (hf : functionHead? f.afterKeyword = some found) (t : List Char) :
    method? found.1 (found.2 ++ t) = none := by
  rw [functionHead?_eq] at hf
  split at hf
  · rename_i hblank
    have htrim := f.trimStart_afterKeyword []
    rw [List.append_nil, List.append_nil] at htrim
    rw [htrim] at hf
    cases hb : f.bounds with
    | none =>
        have hgap : f.gap.text.isEmpty = false := by simpa using f.apart hb
        simp [plain, hb, hgap] at h
    | some b =>
        have hmem : '>' ∈ b.inside := by
          have hgap : f.gap.text.isEmpty = false := by
            cases hg : f.gap.text with
            | nil =>
                simp only [afterKeyword, afterGap, boundsText, hb, hg, BoundList.text,
                  List.nil_append, List.cons_append, List.head?_cons, Option.any_some] at hblank
                revert hblank
                decide
            | cons c rest => rfl
          simpa [plain, hb, hgap] using h
        obtain ⟨front, back, hsplit, hfront⟩ := List.eq_append_cons_of_mem hmem
        have hbounds : afterBounds f.afterGap = trimStart back ++ '>' :: (b.gap.text ++
            (f.name ++ (f.beforeOpen.text ++ '(' :: f.afterOpen))) := by
          have hcut (u : List Char) :
              cutAtChar? '>' (b.inside ++ u) = some (front, back ++ u) := by
            rw [hsplit, List.append_assoc, List.cons_append]
            exact cutAtChar?_append hfront _
          simp only [afterGap, boundsText, hb, BoundList.text, List.cons_append, List.append_assoc,
            afterBounds, hcut]
          exact trimStart_append back rfl
        rw [hbounds, openBehindName?_append_of (fun _ => rfl) rfl (by simp)] at hf
        obtain ⟨inner, hinner, rfl⟩ := Option.map_eq_some_iff.1 hf
        rw [List.append_assoc, List.cons_append]
        exact b.method?_inside hsplit hinner _
  · cases hf

end FunctionParts

/-! ## Functions one behind the other -/

/-- The name and the parameters of the method of a function head. -/
def signature? (head : List Char × List Char) : Option (String × Option (List Parameter)) :=
  (method? head.1 head.2).map fun m => (m.name, m.parameters)

/-- The name and the parameters of each method of a text, given the character before it. -/
def signatures (before : Option Char) (s : List Char) : List (String × Option (List Parameter)) :=
  (functionHeads before s).filterMap signature?

theorem map_methods (s : List Char) :
    (methods s).map (fun m => (m.name, m.parameters)) = signatures none s := by
  rw [methods, List.map_filterMap]
  rfl

/-- What a text may be followed by: nothing, or a declaration behind the end of a word. -/
def Seam (s t : List Char) : Prop :=
  t = [] ∨ Declares t ∧ s.getLast?.any isWordChar = false

variable {before : Option Char} {s t : List Char}

theorem lastOr_not_word (hb : before.any isWordChar = false)
    (hs : s.getLast?.any isWordChar = false) : (lastOr before s).any isWordChar = false := by
  cases hl : s.getLast? with
  | none => simpa [lastOr, hl] using hb
  | some c => simpa [lastOr, hl] using hs

theorem signatures_nil (before : Option Char) : signatures before [] = [] := by
  rw [signatures, functionHeads_eq_nil rfl before]
  rfl

theorem signatures_append (hb : before.any isWordChar = false) (hs : settled before s = true)
    (h : Seam s t) :
    signatures before (s ++ t) =
      ((functionHeads before s).filterMap fun head => signature? (head.1, head.2 ++ t)) ++
        signatures (lastOr before s) t := by
  rcases h with rfl | ⟨hd, hlast⟩
  · rw [signatures_nil, List.append_nil, List.append_nil]
    simp only [signatures, List.append_nil]
  · rw [signatures, functionHeads_seam hd (lastOr_not_word hb hlast) hs, List.filterMap_append,
      List.filterMap_map]
    rfl

namespace FunctionText

variable (f : FunctionText)

theorem modifierText_skips : 'f' ∉ f.modifierText := by
  rw [FunctionParts.modifierText]
  split
  · rename_i g _
    intro hm
    rcases List.mem_append.1 hm with hm | hm
    · revert hm
      decide
    · have hb := List.all_eq_true.1 g.blank 'f' hm
      revert hb
      decide
  · simp

theorem lastOr_modifierText (hb : before.any isWordChar = false) :
    (lastOr before f.modifierText).any isWordChar = false := by
  refine lastOr_not_word hb ?_
  rw [FunctionParts.modifierText]
  split
  · rename_i g _
    obtain ⟨init, last, hl⟩ := g.text.eq_nil_or_concat.resolve_left g.ne
    have hblank := List.all_eq_true.1 g.blank last (by simp [hl])
    rw [hl, List.concat_eq_append, ← List.append_assoc, List.getLast?_concat]
    exact isWordChar_of_isBlank hblank
  · rfl

theorem settled_text (before : Option Char) : settled before f.text = true := by
  rw [FunctionParts.text, settled, behindKeywords_skip f.modifierText_skips]
  exact settled_keyword f.boundsClose_afterKeyword f.alone _

theorem functionHeads_text (hb : before.any isWordChar = false) :
    functionHeads before f.text = (functionHead? f.afterKeyword).toList := by
  rw [FunctionParts.text, functionHeads_skip f.modifierText_skips]
  exact functionHeads_keyword (f.lastOr_modifierText hb) f.alone

theorem signature?_afterOpen (t : List Char) :
    signature? (f.name, f.afterOpen ++ t) =
      if startsType f.typed then some f.declared else none := by
  have htype := declaredType?_isSome f.present f.beforeColon t
  have hcut := cutAtClose?_nested f.nested '(' (f.beforeColon.text ++ ':' :: (f.typed ++ t))
  simp only [signature?, method?, FunctionParts.afterOpen, List.append_assoc, List.cons_append,
    hcut]
  rw [← htype]
  cases Signature.declaredType? (f.beforeColon.text ++ ':' :: (f.typed ++ t)) <;> rfl

/-- A function is read or passed over, and what follows it is read after it. -/
theorem signatures_text (hb : before.any isWordChar = false) (h : Seam f.text t) :
    signatures before (f.text ++ t) =
      (if f.read then [f.declared] else []) ++ signatures (lastOr before f.text) t := by
  rw [signatures_append hb (f.settled_text before) h, f.functionHeads_text hb]
  congr 1
  cases hp : f.plain with
  | true =>
      have hhead := f.signature?_afterOpen t
      rw [f.functionHead?_plain hp, FunctionParts.read, hp, Bool.true_and]
      cases hs : startsType f.typed <;> simp_all
  | false =>
      have hread : f.read = false := by rw [FunctionParts.read, hp, Bool.false_and]
      cases hf : functionHead? f.afterKeyword with
      | none => simp [hread]
      | some found => simp [hread, signature?, f.method?_of_not_plain hp hf]

end FunctionText

/-- A text of functions. -/
def functionsText (functions : List FunctionText) : List Char :=
  functions.flatMap fun f => f.text

/-- Between any two functions a word ends. -/
def Separated (functions : List FunctionText) : Prop :=
  ∀ f ∈ functions.dropLast, f.text.getLast?.any isWordChar = false

theorem seam_functionsText (f : FunctionText) {functions : List FunctionText}
    (h : Separated (f :: functions)) : Seam f.text (functionsText functions) := by
  cases functions with
  | nil => exact Or.inl rfl
  | cons g functions =>
      refine Or.inr ⟨?_, h f (by simp)⟩
      rw [functionsText, List.flatMap_cons]
      exact g.declares _

theorem Separated.tail {f : FunctionText} {functions : List FunctionText}
    (h : Separated (f :: functions)) : Separated functions := by
  cases functions with
  | nil => exact fun g hg => by cases hg
  | cons g functions => exact fun g hg => h g (by simp [hg])

theorem signatures_functionsText {functions : List FunctionText} (h : Separated functions)
    (hb : before.any isWordChar = false) :
    signatures before (functionsText functions) =
      (functions.filter fun f => f.read).map fun f => f.declared := by
  induction functions generalizing before with
  | nil => exact signatures_nil before
  | cons f functions ih =>
      have hseam := seam_functionsText f h
      have hrest : signatures (lastOr before f.text) (functionsText functions) =
          (functions.filter fun f => f.read).map fun f => f.declared := by
        cases functions with
        | nil => exact signatures_nil _
        | cons g functions => exact ih h.tail (lastOr_not_word hb (h f (by simp)))
      rw [functionsText, List.flatMap_cons]
      rw [functionsText] at hseam hrest
      rw [f.signatures_text hb hseam, hrest, List.filter_cons]
      split <;> rfl

theorem signatures_front {front : List Char} (hfront : functionFree none front = true)
    (h : Seam front t) : signatures none (front ++ t) = signatures (lastOr none front) t := by
  rw [signatures_append rfl (settled_of_functionFree hfront) h,
    functionHeads_of_functionFree hfront]
  rfl

/-- A source made of functions has a method for each function that is read, with its name and its
parameters and in the order of the source, and no other method. -/
theorem methods_functions {front : List Char} {functions : List FunctionText}
    (hfront : functionFree none front = true) (hlast : front.getLast?.any isWordChar = false)
    (h : Separated functions) :
    ((ServiceModel.ofSource (String.ofList (front ++ functionsText functions))).methods.map fun m =>
        (m.name, m.parameters)) =
      (functions.filter fun f => f.read).map fun f => f.declared := by
  have hseam : Seam front (functionsText functions) := by
    cases functions with
    | nil => exact Or.inl rfl
    | cons f functions => exact Or.inr ⟨f.declares _, hlast⟩
  simp only [ServiceModel.ofSource, String.toList_ofList]
  rw [map_methods, signatures_front hfront hseam]
  exact signatures_functionsText h (lastOr_not_word rfl hlast)

/-- `override fun <T> first(items: List<T>): T = items[0]` on a line. -/
def FunctionText.first : FunctionText :=
  { modifier := some Separator.space
    gap := Separator.space.toGap
    bounds := some
      { inside := ['T']
        nested := by decide
        undeclared := by decide
        gap := Separator.space.toGap }
    apart := nofun
    name := "first".toList
    ne := by decide
    word := List.all_eq_true.1 (by decide)
    beforeOpen := Gap.empty
    parameters := "items: List<T>".toList
    nested := by decide
    beforeColon := Gap.empty
    typed := " T = items[0]\n".toList
    present := by decide
    alone := by decide +kernel }

/-- `fun <T : Comparable<T>> largest(items: List<T>): T = items.max()` on a line. -/
def FunctionText.largest : FunctionText :=
  { modifier := none
    gap := Separator.space.toGap
    bounds := some
      { inside := "T : Comparable<T>".toList
        nested := by decide
        undeclared := by decide
        gap := Separator.space.toGap }
    apart := nofun
    name := "largest".toList
    ne := by decide
    word := List.all_eq_true.1 (by decide)
    beforeOpen := Gap.empty
    parameters := "items: List<T>".toList
    nested := by decide
    beforeColon := Gap.empty
    typed := " T = items.max()\n".toList
    present := by decide
    alone := by decide +kernel }

theorem methods_functions_first :
    functionFree none "class Store \x7b\n".toList = true ∧
    "class Store \x7b\n".toList.getLast?.any isWordChar = false ∧
    Separated [.largest, .first] ∧
    ((ServiceModel.ofSource (String.ofList
        ("class Store \x7b\n".toList ++ functionsText [.largest, .first]))).methods.map fun m =>
          (m.name, m.parameters)) = [("first", some [⟨"items", "List<T>"⟩])] := by
  have hfront : functionFree none "class Store \x7b\n".toList = true := by decide
  have hlast : "class Store \x7b\n".toList.getLast?.any isWordChar = false := by decide
  have h : Separated [.largest, .first] := by
    intro f hf
    rw [List.mem_singleton.1 hf]
    decide
  exact ⟨hfront, hlast, h, (methods_functions hfront hlast h).trans (by decide)⟩

/-- A function whose type parameters hold a closing bracket is no method. -/
theorem methods_largest :
    ¬∀ (front : List Char) (functions : List FunctionText), functionFree none front = true →
      front.getLast?.any isWordChar = false → Separated functions →
        (ServiceModel.ofSource (String.ofList (front ++ functionsText functions))).methods.map
          Method.name = functions.map fun f => String.ofList f.name := by
  intro hall
  have hnames := hall [] [.largest] rfl rfl (fun f hf => by cases hf)
  have hmethods : (ServiceModel.ofSource
      (String.ofList ([] ++ functionsText [.largest]))).methods = [] := by decide +kernel
  rw [hmethods] at hnames
  cases hnames

end TestForge
