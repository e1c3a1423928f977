import TestForge.Proofs.Service.FunctionHeads

/-!
# Where a declared type ends

A type is read up to the first brace, equals sign or line feed outside brackets. The search counts
the `>` of an arrow as a bracket that closes, so each arrow lowers the depth below the brackets that
are open: a type is read to its end only where more brackets are open than arrows stand in front.
-/

namespace TestForge

open Text SourcePatterns

/-! ## The depth that is counted -/

/-- The characters that end a type outside brackets. -/
def endsType (c : Char) : Bool :=
  c == '\x7b' || c == '=' || c == '\n'

/-- How the search for the end of a type counts a character. -/
def countedStep (c : Char) : Int :=
  if c = '<' ∨ c = '(' ∨ c = '[' then 1 else if c = '>' ∨ c = ')' ∨ c = ']' then -1 else 0

def countedDepth : List Char → Int
  | [] => 0
  | c :: cs => countedStep c + countedDepth cs

/-- The arrows of a text, given the character before it. -/
def arrows (before : Option Char) : List Char → Nat
  | [] => 0
  | c :: cs => (if c = '>' ∧ before = some '-' then 1 else 0) + arrows (some c) cs

/-- The brackets that are open after a text. -/
def openBrackets (s : List Char) : Int :=
  ((scan true none [] s).getD []).length

/-- The brackets that are open after a text, less its arrows. -/
def shield (s : List Char) : Int :=
  openBrackets s - arrows none s

/-- Every character that may end a type stands where the measure is positive. -/
def Guarded (measure : List Char → Int) (s : List Char) : Prop :=
  ∀ i : Fin s.length, endsType s[i] = true → 0 < measure (s.take i)

instance (measure : List Char → Int) (s : List Char) : Decidable (Guarded measure s) :=
  inferInstanceAs (Decidable (∀ _, _))

variable {measure measure' : List Char → Int} {s : List Char}

theorem guarded_iff : Guarded measure s ↔
    ∀ front c rest, s = front ++ c :: rest → endsType c = true → 0 < measure front := by
  constructor
  · rintro h front c rest rfl hc
    have hi := h ⟨front.length, by simp⟩
    simpa [hc] using hi
  · intro h i hi
    have hsplit := (List.take_append_drop i s).symm
    rw [List.drop_eq_getElem_cons i.isLt] at hsplit
    exact h (s.take i) s[i] (s.drop (i + 1)) hsplit hi

theorem Guarded.nil (measure : List Char → Int) : Guarded measure [] :=
  fun i => i.elim0

theorem guarded_cons {c : Char} : Guarded measure (c :: s) ↔
    (endsType c = true → 0 < measure []) ∧ Guarded (fun front => measure (c :: front)) s :=
  Fin.forall_fin_succ

/-- What is not guarded has a first place that is not. -/
theorem exists_of_not_guarded (h : ¬Guarded measure s) :
    ∃ front c rest, s = front ++ c :: rest ∧ Guarded measure front ∧ endsType c = true ∧
      measure front ≤ 0 := by
  induction s generalizing measure with
  | nil => exact absurd (Guarded.nil measure) h
  | cons c s ih =>
      by_cases hc : endsType c = true → 0 < measure []
      · obtain ⟨front, d, rest, rfl, hf, hd, hm⟩ := ih fun hs => h (guarded_cons.2 ⟨hc, hs⟩)
        exact ⟨c :: front, d, rest, rfl, guarded_cons.2 ⟨hc, hf⟩, hd, hm⟩
      · rw [Classical.not_imp, Int.not_lt] at hc
        exact ⟨[], c, s, rfl, Guarded.nil measure, hc⟩

theorem Guarded.congr (h : Guarded measure s)
    (he : ∀ front, front <+: s → measure front = measure' front) : Guarded measure' s := by
  intro i hi
  rw [← he _ (List.take_prefix i s)]
  exact h i hi

theorem nesting_eq (before : Option Char) (c : Char) :
    nesting before c = countedStep c + if c = '>' ∧ before = some '-' then 1 else 0 := by
  unfold nesting countedStep
  by_cases ho : c = '<' ∨ c = '(' ∨ c = '['
  · rcases ho with rfl | rfl | rfl <;> simp
  · by_cases ha : c = '>' ∧ before = some '-'
    · obtain ⟨rfl, rfl⟩ := ha
      simp
    · simp [ho, ha]

/-- Each arrow lowers the depth below the brackets that are open. -/
theorem countedDepth_scan {bare : Bool} {before : Option Char} {stack stack' : List Char}
    (h : scan bare before stack s = some stack') :
    (stack.length : Int) + countedDepth s + arrows before s = stack'.length := by
  induction s generalizing before stack with
  | nil =>
      cases h
      simp [countedDepth, arrows]
  | cons c s ih =>
      obtain ⟨st, ht, hs⟩ := Option.bind_eq_some_iff.1 h
      have hstep := (turned_of_turn ht).nesting
      have hrest := ih hs
      have harrows : (arrows before (c :: s) : Int) =
          (if c = '>' ∧ before = some '-' then 1 else 0) + arrows (some c) s := by
        rw [arrows]
        split <;> simp
      rw [nesting_eq] at hstep
      generalize (if c = '>' ∧ before = some '-' then (1 : Int) else 0) = arrow at hstep harrows
      rw [countedDepth, harrows]
      omega

theorem shield_eq_countedDepth (h : Nested s) {front : List Char} (hf : front <+: s) :
    shield front = countedDepth front := by
  obtain ⟨rest, rfl⟩ := hf
  unfold Nested at h
  rw [scan_append, Option.bind_eq_some_iff] at h
  obtain ⟨stack, hs, -⟩ := h
  have hd := countedDepth_scan hs
  simp only [shield, openBrackets, hs, Option.getD_some]
  simp only [List.length_nil] at hd
  omega

/-! ## Reading a type -/

theorem typeEnd_cons (depth : Int) (c : Char) (s : List Char) :
    Signature.typeEnd depth (c :: s) =
      if endsType c = true ∧ depth ≤ 0 then []
      else c :: Signature.typeEnd (depth + countedStep c) s := by
  have hends : endsType c = true ↔ c = '\x7b' ∨ c = '=' ∨ c = '\n' := by
    simp [endsType, or_assoc]
  rw [Signature.typeEnd]
  by_cases ho : c = '<' ∨ c = '(' ∨ c = '['
  · have hc : endsType c = false := by
      rcases ho with rfl | rfl | rfl <;> decide
    simp [ho, hc, countedStep]
  · by_cases hcl : c = '>' ∨ c = ')' ∨ c = ']'
    · have hc : endsType c = false := by
        rcases hcl with rfl | rfl | rfl <;> decide
      simp only [ho, hcl, hc, countedStep, ↓reduceIte, Bool.false_eq_true, false_and]
      rfl
    · simp [ho, hcl, hends, countedStep]

theorem typeEnd_append {depth : Int} (h : ∀ front c rest, s = front ++ c :: rest →
    endsType c = true → 0 < depth + countedDepth front) (t : List Char) :
    Signature.typeEnd depth (s ++ t) = s ++ Signature.typeEnd (depth + countedDepth s) t := by
  induction s generalizing depth with
  | nil => simp [countedDepth]
  | cons c s ih =>
      have hhere : ¬(endsType c = true ∧ depth ≤ 0) := by
        rintro ⟨hc, hd⟩
        have hpos := h [] c s rfl hc
        simp only [countedDepth] at hpos
        omega
      have hdepth (front : List Char) :
          depth + countedDepth (c :: front) = depth + countedStep c + countedDepth front := by
        simp [countedDepth, Int.add_assoc]
      have hinside : ∀ front d rest, s = front ++ d :: rest → endsType d = true →
          0 < depth + countedStep c + countedDepth front := by
        intro front d rest he hd
        rw [← hdepth]
        exact h (c :: front) d rest (by rw [he, List.cons_append]) hd
      rw [List.cons_append, typeEnd_cons, if_neg hhere, ih hinside, hdepth, List.cons_append]

/-- A type that is not empty and not cut by its constraints is read as it is trimmed. -/
theorem declaredType?_of_typeEnd {s type : List Char} (h : trim (Signature.typeEnd 0 s) = type)
    (hne : type ≠ []) (hw : ¬" where ".toList <:+: type) :
    Signature.declaredType? (':' :: s) = some (String.ofList type) := by
  have hcut : Signature.withoutConstraints type = type := by
    unfold Signature.withoutConstraints
    split
    · rename_i before rest hc
      exact absurd ⟨before, rest, (eq_append_of_cutAt? hc).symm⟩ hw
    · rfl
  have he : type.isEmpty = false := by simpa using hne
  have hcolon : isBlank ':' = false := by decide
  simp only [Signature.declaredType?, trimStart_cons hcolon, h, hcut, he, Bool.false_eq_true,
    ↓reduceIte]

/-! ## Declarations -/

/-- A type with its brackets nested, in which whatever could end it stands inside brackets. -/
structure ReturnType where
  text : List Char
  ne : text ≠ []
  trimmed : trim text = text
  nested : Nested text
  inside : Guarded openBrackets text
  unconstrained : ¬" where ".toList <:+: text

/-- A function without type parameters, with its return type, and what follows that. -/
structure TypedDeclaration where
  name : List Char
  ne : name ≠ []
  word : ∀ c ∈ name, isWordChar c = true
  parameters : List Char
  nested : Nested parameters
  type : ReturnType
  spaces : Nat
  rest : List Char
  ends : rest.head?.all endsType = true

namespace TypedDeclaration

/-- What follows the type. -/
def tail (d : TypedDeclaration) : List Char :=
  List.replicate d.spaces ' ' ++ d.rest

/-- What stands behind the parenthesis that opens the parameters. -/
def afterOpen (d : TypedDeclaration) : List Char :=
  d.parameters ++ ')' :: ':' :: ' ' :: (d.type.text ++ d.tail)

def text (d : TypedDeclaration) : List Char :=
  funKeyword ++ ' ' :: (d.name ++ '(' :: d.afterOpen)

/-- The method that is declared, with the type it is reported with. -/
def method (d : TypedDeclaration) (type : List Char) : Method :=
  ⟨String.ofList d.name, String.ofList type,
    some (Signature.parametersOf Signature.parameterName d.parameters), false⟩

theorem declares (d : TypedDeclaration) : Declares d.text := by
  obtain ⟨c, cs, hn⟩ := List.exists_cons_of_ne_nil d.ne
  have hc : isWordChar c = true := d.word c (by simp [hn])
  refine declares_word keyword_fun.ne keyword_fun.wordChars (head?_cons_stop (by decide) _) ?_
  rw [trimStart_cons_blank (by decide), hn, List.cons_append,
    trimStart_cons (isBlank_of_isWordChar hc), List.head?_cons]
  exact fun he => ne_of_isWordChar hc (by decide) (Option.some.inj he)

end TypedDeclaration

theorem typeEnd_space (s : List Char) :
    Signature.typeEnd 0 (' ' :: s) = ' ' :: Signature.typeEnd 0 s := by
  simp [typeEnd_cons, endsType, countedStep]

theorem trim_append_spaces (s : List Char) (n : Nat) :
    trim (s ++ List.replicate n ' ') = trim s := by
  induction n with
  | zero => simp
  | succ n ih =>
      rw [List.replicate_succ', ← List.append_assoc, trim_concat_blank (by decide), ih]

theorem typeEnd_tail (d : TypedDeclaration) {depth : Int} (hd : depth ≤ 0) :
    Signature.typeEnd depth d.tail = List.replicate d.spaces ' ' := by
  have hspaces : ∀ n, Signature.typeEnd depth (List.replicate n ' ' ++ d.rest) =
      List.replicate n ' ' := by
    intro n
    induction n with
    | zero =>
        have hends := d.ends
        cases hr : d.rest with
        | nil => rfl
        | cons c rest =>
            rw [hr] at hends
            have hc : endsType c = true := hends
            simp [typeEnd_cons, hc, hd]
    | succ n ih =>
        have hspace : endsType ' ' = false := by decide
        have hstep : countedStep ' ' = 0 := by decide
        simp [List.replicate_succ, typeEnd_cons, hspace, hstep, ih]
  exact hspaces d.spaces

/-- A type is read to its end if the brackets around whatever could end it outnumber the arrows in
front. -/
theorem TypedDeclaration.declaredType?_shielded (d : TypedDeclaration)
    (h : Guarded shield d.type.text) :
    Signature.declaredType? (':' :: ' ' :: (d.type.text ++ d.tail)) =
      some (String.ofList d.type.text) := by
  have hcounted : Guarded countedDepth d.type.text :=
    h.congr fun front hf => shield_eq_countedDepth d.type.nested hf
  have hdepth : countedDepth d.type.text ≤ 0 := by
    have hn := countedDepth_scan (show scan true none [] d.type.text = some [] from d.type.nested)
    simp only [List.length_nil] at hn
    omega
  have hend : Signature.typeEnd 0 (d.type.text ++ d.tail) =
      d.type.text ++ List.replicate d.spaces ' ' := by
    rw [typeEnd_append (by simpa using guarded_iff.1 hcounted), Int.zero_add,
      typeEnd_tail d hdepth]
  refine declaredType?_of_typeEnd ?_ d.type.ne d.type.unconstrained
  rw [typeEnd_space, hend, trim_cons_blank (by decide), trim_append_spaces, d.type.trimmed]

/-- A type ends at the first place that its arrows leave without the shield of brackets. -/
theorem TypedDeclaration.declaredType?_exposed (d : TypedDeclaration) {front rest : List Char}
    {c : Char} (hs : d.type.text = front ++ c :: rest) (hf : Guarded shield front)
    (hc : endsType c = true) (hd : shield front ≤ 0) :
    Signature.declaredType? (':' :: ' ' :: (d.type.text ++ d.tail)) =
      some (String.ofList (trimEnd front)) := by
  have hprefix : front <+: d.type.text := ⟨c :: rest, hs.symm⟩
  have hcounted : Guarded countedDepth front :=
    hf.congr fun f hp => shield_eq_countedDepth d.type.nested (hp.trans hprefix)
  rw [shield_eq_countedDepth d.type.nested hprefix] at hd
  have hend : Signature.typeEnd 0 (d.type.text ++ d.tail) = front := by
    rw [hs, List.append_assoc, typeEnd_append (by simpa using guarded_iff.1 hcounted),
      List.cons_append, typeEnd_cons, if_pos ⟨hc, by omega⟩, List.append_nil]
  -- brackets are open where the type is cut, so something stands in front
  obtain ⟨b, bs, hb⟩ : ∃ b bs, front = b :: bs := by
    refine List.exists_cons_of_ne_nil ?_
    rintro rfl
    have hpos := guarded_iff.1 d.type.inside [] c rest hs hc
    revert hpos
    decide
  have hblank : isBlank b = false := by
    have htrimmed := d.type.trimmed
    rw [hs, hb, List.cons_append] at htrimmed
    exact isBlank_of_trim_cons htrimmed
  have htrim : trim front = trimEnd front := by
    rw [trim, hb, trimStart_cons hblank]
  have hne : trimEnd front ≠ [] := by
    rw [hb, trimEnd_cons hblank]
    exact List.cons_ne_nil _ _
  refine declaredType?_of_typeEnd ?_ hne fun hw => d.type.unconstrained ?_
  · rw [typeEnd_space, hend, trim_cons_blank (by decide), htrim]
  · exact hw.trans ((prefix_trimEnd front).trans hprefix).isInfix

/-! ## Methods -/

theorem TypedDeclaration.method?_afterOpen (d : TypedDeclaration) {type : List Char}
    (h : Signature.declaredType? (':' :: ' ' :: (d.type.text ++ d.tail)) =
      some (String.ofList type)) : method? d.name d.afterOpen = some (d.method type) := by
  simp only [method?, afterOpen, cutAtClose?_nested d.nested, h, Option.map_some]
  rfl

/-- A declaration is found behind any text that leaves no type parameters open. -/
theorem TypedDeclaration.mem_functionHeads (d : TypedDeclaration) {front : List Char}
    (hf : settled none front = true) (hlast : front.getLast?.any isWordChar = false) :
    (d.name, d.afterOpen) ∈ functionHeads none (front ++ d.text) := by
  have hbefore : (lastOr none front).any isWordChar = false := by simpa [lastOr] using hlast
  rw [functionHeads_seam d.declares hbefore hf, text, functionHeads_here hbefore d.ne d.word]
  simp

/-- A declaration is reported with the type it declares just if every brace, equals sign and line
feed of that type stands in more brackets than arrows stand in front of it; the type is cut at the
first one that does not. -/
theorem returnType_typed (d : TypedDeclaration) {front : List Char}
    (hf : settled none front = true) (hlast : front.getLast?.any isWordChar = false) :
    ∃ type, d.method type ∈ (ServiceModel.ofSource (String.ofList (front ++ d.text))).methods ∧
      (type = d.type.text ↔ Guarded shield d.type.text) ∧
      ∀ s c rest, d.type.text = s ++ c :: rest → Guarded shield s → endsType c = true →
        shield s ≤ 0 → type = trimEnd s := by
  have hmem {type : List Char} (h : Signature.declaredType? (':' :: ' ' ::
      (d.type.text ++ d.tail)) = some (String.ofList type)) :
      d.method type ∈ (ServiceModel.ofSource (String.ofList (front ++ d.text))).methods := by
    simp only [ServiceModel.ofSource, String.toList_ofList, methods]
    exact List.mem_filterMap.2 ⟨_, d.mem_functionHeads hf hlast, d.method?_afterOpen h⟩
  by_cases hg : Guarded shield d.type.text
  · refine ⟨d.type.text, hmem (d.declaredType?_shielded hg), iff_of_true rfl hg, ?_⟩
    intro s c rest hs _ hc hd
    have hpos := guarded_iff.1 hg s c rest hs hc
    omega
  · obtain ⟨s, c, rest, hs, hgs, hc, hd⟩ := exists_of_not_guarded hg
    have hread := d.declaredType?_exposed hs hgs hc hd
    refine ⟨trimEnd s, hmem hread, iff_of_false (fun he => ?_) hg, ?_⟩
    · have hle := trimEnd_length s
      rw [he, hs, List.length_append, List.length_cons] at hle
      omega
    · intro s' c' rest' hs' hgs' hc' hd'
      have hread' := d.declaredType?_exposed hs' hgs' hc' hd'
      rw [hread, Option.some.injEq, String.ofList_inj] at hread'
      exact hread'

/-- `fun watchers(scope: Map<Long, String>): Map<String,` and, on the next line,
`List<(Order) -> Unit>> = registry`: the line feed stands in front of the arrow. -/
def TypedDeclaration.watchers : TypedDeclaration :=
  { name := "watchers".toList
    ne := by decide
    word := List.all_eq_true.1 (by decide)
    parameters := "scope: Map<Long, String>".toList
    nested := by decide
    type :=
      { text := "Map<String,\n    List<(Order) -> Unit>>".toList
        ne := by decide
        trimmed := by decide +kernel
        nested := by decide +kernel
        inside := by decide +kernel
        unconstrained := by decide +kernel }
    spaces := 1
    rest := "= registry".toList
    ends := by decide }

theorem returnType_watchers :
    settled none "class Shop \x7b\n  ".toList = true ∧
    "class Shop \x7b\n  ".toList.getLast?.any isWordChar = false ∧
    TypedDeclaration.watchers.method TypedDeclaration.watchers.type.text ∈
      (ServiceModel.ofSource (String.ofList
        ("class Shop \x7b\n  ".toList ++ TypedDeclaration.watchers.text))).methods := by
  have hf : settled none "class Shop \x7b\n  ".toList = true := by decide
  have hlast : "class Shop \x7b\n  ".toList.getLast?.any isWordChar = false := by decide
  obtain ⟨type, hmem, hwhole, -⟩ := returnType_typed .watchers hf hlast
  rw [hwhole.2 (by decide)] at hmem
  exact ⟨hf, hlast, hmem⟩

/-- `fun handlers(): Map<(Int) -> Unit,` and, on the next line, `String> = TODO()`: the arrow stands
in front of the line feed. -/
def TypedDeclaration.handlers : TypedDeclaration :=
  { name := "handlers".toList
    ne := by decide
    word := List.all_eq_true.1 (by decide)
    parameters := []
    nested := by decide
    type :=
      { text := "Map<(Int) -> Unit,\n    String>".toList
        ne := by decide
        trimmed := by decide +kernel
        nested := by decide +kernel
        inside := by decide +kernel
        unconstrained := by decide +kernel }
    spaces := 1
    rest := "= TODO()".toList
    ends := by decide }

/-- A line feed inside brackets cuts a type in which an arrow stands in front of it. -/
theorem returnType_handlers :
    ¬∀ (d : TypedDeclaration) (front : List Char), settled none front = true →
      front.getLast?.any isWordChar = false →
        d.method d.type.text ∈
          (ServiceModel.ofSource (String.ofList (front ++ d.text))).methods := by
  intro hall
  have hmem := hall .handlers [] rfl rfl
  have hmethods : (ServiceModel.ofSource
      (String.ofList ([] ++ TypedDeclaration.handlers.text))).methods =
        [⟨"handlers", "Map<(Int) -> Unit,", some [], false⟩] := by decide +kernel
  rw [hmethods] at hmem
  revert hmem
  decide

end TestForge
