import TestForge.Proofs.Service.Printing

/-!
# Reading declared parameters and types

Each part of a signature is read back from the text in which it is printed, whatever follows the
type of a parameter as its default and whatever follows a return type as a body.
-/

namespace TestForge

open Text SourcePatterns

/-! ## Cutting at a character -/

theorem cutAtChar?_append {stop : Char} {s : List Char} (h : stop ∉ s) (t : List Char) :
    cutAtChar? stop (s ++ stop :: t) = some (s, t) := by
  induction s with
  | nil => simp [cutAtChar?]
  | cons c s ih =>
      simp only [List.mem_cons, not_or] at h
      simp [cutAtChar?, ih h.2, Ne.symm h.1]

theorem eq_append_of_cutAtChar? {stop : Char} {s before rest : List Char}
    (h : cutAtChar? stop s = some (before, rest)) : s = before ++ stop :: rest := by
  induction s generalizing before with
  | nil => cases h
  | cons c s ih =>
      simp only [cutAtChar?] at h
      split at h
      · rename_i hc
        cases h
        rw [hc]
        rfl
      · obtain ⟨⟨b, r⟩, hb, he⟩ := Option.map_eq_some_iff.1 h
        cases he
        rw [ih hb]
        rfl

theorem upTo_append {stop : Char} {s : List Char} (h : stop ∉ s) (t : List Char) :
    upTo stop (s ++ stop :: t) = s := by
  induction s with
  | nil => simp [upTo]
  | cons c s ih =>
      simp only [List.mem_cons, not_or] at h
      have hs := ih h.2
      simp only [upTo] at hs ⊢
      rw [List.cons_append, List.takeWhile_cons, if_pos (by simpa using Ne.symm h.1), hs]

theorem upTo_eq_self {stop : Char} {s : List Char} (h : stop ∉ s) : upTo stop s = s := by
  rw [upTo, List.takeWhile_eq_self_iff]
  intro c hc
  have hne : c ≠ stop := fun he => h (he ▸ hc)
  simpa using hne

theorem notMem_word {s : List Char} (h : ∀ c ∈ s, isWordChar c = true) {stop : Char}
    (hs : isWordChar stop = false) : stop ∉ s := by
  intro hm
  simp [h stop hm] at hs

/-! ## Types -/

/-- What may follow the type of a parameter. -/
def DefaultOrEnd (rest : List Char) : Prop :=
  rest = [] ∨ ∃ value, rest = ' ' :: '=' :: value

theorem defaultOrEnd_source (default : Option DefaultText) :
    DefaultOrEnd (defaultSource default) := by
  cases default with
  | none => exact Or.inl rfl
  | some value => exact Or.inr ⟨' ' :: value.text, rfl⟩

/-- A type is read without what follows it. -/
theorem TypeText.typeText (t : TypeText) {rest : List Char} (h : DefaultOrEnd rest) :
    Signature.typeText (' ' :: (t.text ++ rest)) = t.text := by
  have hp : '=' ∉ t.text := fun hm => (t.plain '=' hm).1 rfl
  have hb : isBlank ' ' = true := by decide
  rcases h with rfl | ⟨value, rfl⟩
  · have hu : upTo '=' (' ' :: t.text) = ' ' :: t.text := upTo_eq_self (by simpa using hp)
    rw [List.append_nil, Signature.typeText, hu, trim_cons_blank hb, t.trimmed]
  · have hu : upTo '=' (' ' :: (t.text ++ ' ' :: '=' :: value)) = ' ' :: (t.text ++ [' ']) := by
      have hs : ' ' :: (t.text ++ ' ' :: '=' :: value) =
          (' ' :: (t.text ++ [' '])) ++ '=' :: value := by simp
      rw [hs]
      exact upTo_append (by simpa using hp) value
    rw [Signature.typeText, hu, trim_cons_blank hb, trim_concat_blank hb, t.trimmed]

/-- Trimming touches nothing but the default. -/
theorem TypeText.trimEnd_append (t : TypeText) (front : List Char) {rest : List Char}
    (h : DefaultOrEnd rest) :
    ∃ rest', DefaultOrEnd rest' ∧
      trimEnd (front ++ (t.text ++ rest)) = front ++ (t.text ++ rest') := by
  rcases h with rfl | ⟨value, rfl⟩
  · refine ⟨[], Or.inl rfl, ?_⟩
    rw [List.append_nil, trimEnd_append_of_trim t.trimmed t.ne]
  · refine ⟨' ' :: '=' :: trimEnd value, Or.inr ⟨_, rfl⟩, ?_⟩
    have hs := trimEnd_append_cons (c := '=') (by decide) (front ++ (t.text ++ [' '])) value
    simpa using hs

/-! ## Parameters -/

theorem Identifier.notMem (n : Identifier) {stop : Char} (h : isWordChar stop = false) :
    stop ∉ n.text :=
  notMem_word n.word h

theorem parameter_cons_blank (default : String) (s : List Char) :
    Signature.parameter default (' ' :: s) = Signature.parameter default s := by
  have hb : isBlank ' ' = true := by decide
  simp only [Signature.parameter, cutAtChar?, Char.reduceEq, ↓reduceIte]
  cases cutAtChar? ':' s with
  | none => simp [trim_cons_blank hb]
  | some found => simp [trim_cons_blank hb]

theorem ParameterDeclaration.parameter_source (p : ParameterDeclaration) (default : String) :
    Signature.parameter default p.source = p.model := by
  have hc : cutAtChar? ':' p.source =
      some (p.name.text, ' ' :: (p.type.text ++ defaultSource p.default)) :=
    cutAtChar?_append (p.name.notMem (by decide)) _
  have hn : p.name.text.isEmpty = false := by simpa using p.name.ne
  have ht : p.type.text.isEmpty = false := by simpa using p.type.ne
  simp only [Signature.parameter, hc, trim_word p.name.word,
    p.type.typeText (defaultOrEnd_source p.default), Signature.orElse, hn, ht]
  rfl

/-! ## Return types -/

/-- Inside a type nothing ends it: brackets only lower the depth further than they are nested. -/
theorem typeEnd_scan {bare : Bool} {before : Option Char} {stack stack' s : List Char}
    (h : scan bare before stack s = some stack')
    (hs : ∀ c ∈ s, c ≠ '=' ∧ c ≠ '\x7b' ∧ c ≠ '\n') {depth : Int} (hd : depth ≤ stack.length) :
    ∃ depth' : Int, depth' ≤ stack'.length ∧ ∀ t,
      Signature.typeEnd depth (s ++ t) = s ++ Signature.typeEnd depth' t := by
  induction s generalizing before stack depth with
  | nil =>
      cases h
      exact ⟨depth, hd, fun t => rfl⟩
  | cons c s ih =>
      obtain ⟨st, ht, hrest⟩ := Option.bind_eq_some_iff.1 h
      have hc := hs c (by simp)
      have hs' := fun c hm => hs c (List.mem_cons_of_mem _ hm)
      cases turned_of_turn ht with
      | opening ho =>
          have hd' : depth + 1 ≤ ((c :: stack).length : Int) := by
            simp only [List.length_cons]
            omega
          obtain ⟨depth', hle, he⟩ := ih hrest hs' hd'
          refine ⟨depth', hle, fun t => ?_⟩
          simp [Signature.typeEnd, show c = '<' ∨ c = '(' ∨ c = '[' from ho, he]
      | closing ho hcl hst =>
          have hd' : depth - 1 ≤ (st.length : Int) := by
            rw [hst, List.length_cons] at hd
            omega
          have hn : ¬(c = '<' ∨ c = '(' ∨ c = '[') := ho
          have hcl' : c = '>' ∨ c = ')' ∨ c = ']' := by
            rcases closed?_eq_some hcl with ⟨h, -⟩ | ⟨h, -⟩ | ⟨h, -⟩ <;> simp [h]
          obtain ⟨depth', hle, he⟩ := ih hrest hs' hd'
          refine ⟨depth', hle, fun t => ?_⟩
          simp [Signature.typeEnd, hn, hcl', he]
      | plain ho hcl hp =>
          have hn : ¬(c = '<' ∨ c = '(' ∨ c = '[') := ho
          obtain ⟨h1, h2, -⟩ := closed?_eq_none hcl
          by_cases hg : c = '>'
          · have hd' : depth - 1 ≤ (stack.length : Int) := by omega
            obtain ⟨depth', hle, he⟩ := ih hrest hs' hd'
            exact ⟨depth', hle, fun t => by simp [Signature.typeEnd, hg, he]⟩
          · obtain ⟨depth', hle, he⟩ := ih hrest hs' hd
            exact ⟨depth', hle, fun t => by simp [Signature.typeEnd, hn, h1, h2, hg, hc, he]⟩

theorem TypeText.withoutConstraints (t : TypeText) :
    Signature.withoutConstraints t.text = t.text := by
  unfold Signature.withoutConstraints
  split
  · rename_i before rest hc
    have hs := eq_append_of_cutAt? hc
    have hm : whereKeyword ∈ sourceKeywords := by simp [sourceKeywords]
    have hw : " where ".toList = ' ' :: (whereKeyword ++ [' ']) := by decide
    have hsplit : t.text = (before ++ [' ']) ++ (whereKeyword ++ ' ' :: rest) := by
      rw [hs, hw]
      simp
    have hq := t.quiet whereKeyword hm
    rw [hsplit] at hq
    have hstart := startsInWord_of_endsNoWord (endsNoWord_of_suffix hq)
      (keyword_sourceKeywords hm) (after?_append _ _)
    have hblank : isWordChar ' ' = false := by decide
    simp [startsInWord, hblank] at hstart
  · rfl

/-- A declared type is read up to the body. -/
theorem TypeText.declaredType? (t : TypeText) (rest : List Char) :
    Signature.declaredType? (':' :: ' ' :: (t.text ++ ' ' :: '\x7b' :: rest)) =
      some (String.ofList t.text) := by
  have hb : isBlank ' ' = true := by decide
  have hc : isBlank ':' = false := by decide
  obtain ⟨depth, hd, he⟩ := typeEnd_scan t.entry t.plain (Int.le_refl 0)
  have hend : Signature.typeEnd depth (' ' :: '\x7b' :: rest) = [' '] := by
    have hd' : depth ≤ 0 := by simpa using hd
    simp [Signature.typeEnd, hd']
  have htype : Signature.typeEnd 0 (' ' :: (t.text ++ ' ' :: '\x7b' :: rest)) =
      ' ' :: (t.text ++ [' ']) := by
    have hcons : ∀ s, Signature.typeEnd 0 (' ' :: s) = ' ' :: Signature.typeEnd 0 s := by
      simp [Signature.typeEnd]
    rw [hcons, he, hend]
  have hne : t.text.isEmpty = false := by simpa using t.ne
  simp only [Signature.declaredType?, trimStart_cons hc, htype, trim_cons_blank hb,
    trim_concat_blank hb, t.trimmed, t.withoutConstraints, hne]
  rfl

end TestForge
