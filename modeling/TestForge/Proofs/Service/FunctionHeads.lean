import TestForge.Proofs.Service.Signature

/-!
# Functions one behind the other

The heads of functions are searched for from the left, and none of them overlaps another. Where a
declaration stands behind a text that leaves no type parameters open, the heads of both are those of
the text and those of the declaration.
-/

namespace TestForge.SourcePatterns

open Text

/-! ## Texts in front of a declaration -/

/-- A list of type parameters that stands behind the keyword is closed. -/
def boundsClose (afterKeyword : List Char) : Bool :=
  match trimStart afterKeyword with
  | '<' :: rest => !afterKeyword.head?.any isBlank || rest.contains '>'
  | _ => true

/-- What stands behind the keyword begins like a function: with white space, and then type
parameters or a name and its parenthesis. -/
def startsFunction (afterKeyword : List Char) : Bool :=
  let s := trimStart afterKeyword
  afterKeyword.head?.any isBlank &&
    (s.head? == some '<' || !(s.takeWhile isWordChar).isEmpty &&
      (trimStart (s.dropWhile isWordChar)).head? == some '(')

/-- What stands behind every keyword of a text is as asked, given the character before the text. -/
def behindKeywords (p : List Char → Bool) (before : Option Char) : List Char → Bool
  | [] => true
  | c :: cs =>
    (before.any isWordChar || (after? funKeyword (c :: cs)).all p) && behindKeywords p (some c) cs

/-- A text in which no function leaves its type parameters open. -/
def settled (before : Option Char) (s : List Char) : Bool :=
  behindKeywords boundsClose before s

/-- A text in which no function begins. -/
def functionFree (before : Option Char) (s : List Char) : Bool :=
  behindKeywords (fun b => !startsFunction b) before s

/-- A declaration begins: with a word, and something else than a parenthesis behind. -/
structure Declares (s : List Char) : Prop where
  word : s.head?.any isWordChar = true
  apart : (trimStart (s.dropWhile isWordChar)).head? ≠ some '('

variable {before : Option Char} {s t : List Char}

theorem behindKeywords_cons {p : List Char → Bool} {c : Char}
    (h : behindKeywords p before (c :: s) = true) :
    (before.any isWordChar = true ∨ ∀ b, after? funKeyword (c :: s) = some b → p b = true) ∧
      behindKeywords p (some c) s = true := by
  rw [behindKeywords, Bool.and_eq_true, Bool.or_eq_true, Option.all_eq_true] at h
  exact h

theorem behindKeywords_of_append {p : List Char → Bool} {c : Char}
    (h : behindKeywords p before (s ++ c :: t) = true) : behindKeywords p (some c) t = true := by
  induction s generalizing before with
  | nil => exact (behindKeywords_cons h).2
  | cons d s ih => exact ih (behindKeywords_cons h).2

theorem behindKeywords_mono {p q : List Char → Bool} (hpq : ∀ b, p b = true → q b = true)
    (h : behindKeywords p before s = true) : behindKeywords q before s = true := by
  induction s generalizing before with
  | nil => rfl
  | cons c s ih =>
      obtain ⟨hhere, hrest⟩ := behindKeywords_cons h
      rw [behindKeywords, Bool.and_eq_true, Bool.or_eq_true, Option.all_eq_true]
      exact ⟨hhere.imp_right fun hp b hb => hpq b (hp b hb), ih hrest⟩

/-! ## The head behind a keyword -/

/-- The name a text begins with and the text behind the parenthesis that follows it. -/
def openBehindName? (s : List Char) : Option (List Char × List Char) :=
  if (s.takeWhile isWordChar).isEmpty then none
  else
    match trimStart (s.dropWhile isWordChar) with
    | '(' :: rest => some (s.takeWhile isWordChar, rest)
    | _ => none

theorem functionHead?_eq (b : List Char) :
    functionHead? b =
      if b.head?.any isBlank then openBehindName? (afterBounds (trimStart b)) else none := by
  cases b with
  | nil => rfl
  | cons c b =>
      simp only [functionHead?, List.head?_cons, Option.any_some]
      by_cases hb : isBlank c = true
      · simp only [hb, Bool.not_true, Bool.false_or, ↓reduceIte]
        rfl
      · simp [hb]

theorem afterBounds_of_head? (h : s.head? ≠ some '<') : afterBounds s = s := by
  unfold afterBounds
  split
  · exact absurd rfl h
  · rfl

theorem startsFunction_of_functionHead? {b : List Char} {found : List Char × List Char}
    (h : functionHead? b = some found) : startsFunction b = true := by
  rw [functionHead?_eq] at h
  split at h
  · rename_i hb
    by_cases hbounds : (trimStart b).head? = some '<'
    · simp [startsFunction, hb, hbounds]
    · rw [afterBounds_of_head? hbounds, openBehindName?] at h
      split at h
      · cases h
      · rename_i hname
        split at h
        · rename_i rest he
          simp [startsFunction, hb, hname, he]
        · cases h
  · cases h

theorem boundsClose_of_startsFunction {b : List Char} (h : startsFunction b = false) :
    boundsClose b = true := by
  unfold boundsClose
  split
  · rename_i rest he
    have hb : b.head?.any isBlank = false := by
      simpa [startsFunction, he] using h
    simp [hb]
  · rfl

theorem functionHeads_of_functionFree (h : functionFree before s = true) :
    functionHeads before s = [] := by
  induction s generalizing before with
  | nil => exact functionHeads_eq_nil rfl before
  | cons c s ih =>
      obtain ⟨hhere, hrest⟩ := behindKeywords_cons h
      have hnone : functionHere? before (c :: s) = none := by
        rw [functionHere?_eq]
        split
        · rfl
        · rename_i hw
          rw [Option.bind_eq_none_iff]
          intro b hb
          have hno := hhere.resolve_left hw b hb
          rw [Bool.not_eq_true'] at hno
          cases hf : functionHead? b with
          | none => rfl
          | some found =>
              rw [startsFunction_of_functionHead? hf] at hno
              cases hno
      rw [functionHeads_of_none hnone]
      exact ih hrest

theorem settled_of_functionFree (h : functionFree before s = true) : settled before s = true :=
  behindKeywords_mono (fun b hb => boundsClose_of_startsFunction (by simpa using hb)) h

/-! ## Heads at a seam -/

theorem Declares.exists_cons (h : Declares t) : ∃ c rest, t = c :: rest ∧ isWordChar c = true := by
  have hw := h.word
  cases t with
  | nil => cases hw
  | cons c rest => exact ⟨c, rest, rfl, hw⟩

theorem Declares.head?_ne (h : Declares t) {c : Char} (hc : isWordChar c = false) :
    t.head? ≠ some c := by
  obtain ⟨d, rest, rfl, hd⟩ := h.exists_cons
  exact fun he => ne_of_isWordChar hd hc (Option.some.inj he)

theorem Declares.head?_blank (h : Declares t) : t.head?.any isBlank = false := by
  obtain ⟨c, rest, rfl, hc⟩ := h.exists_cons
  exact isBlank_of_isWordChar hc

theorem declares_word {word rest : List Char} (hne : word ≠ [])
    (hw : ∀ c ∈ word, isWordChar c = true)
    (hr : ∀ c, rest.head? = some c → isWordChar c = false)
    (hp : (trimStart rest).head? ≠ some '(') : Declares (word ++ rest) := by
  obtain ⟨-, hd⟩ := span_name hw hr
  refine ⟨?_, by rwa [hd]⟩
  obtain ⟨c, cs, rfl⟩ := List.exists_cons_of_ne_nil hne
  exact hw c List.mem_cons_self

theorem getLast?_of_suffix {p : Char → Bool} (h : t <:+ s) (hs : s.getLast?.any p = false) :
    t.getLast?.any p = false := by
  obtain ⟨front, rfl⟩ := h
  rcases t.eq_nil_or_concat with rfl | ⟨init, last, rfl⟩
  · rfl
  · simpa using hs

theorem afterBounds_suffix (s : List Char) : afterBounds s <:+ s := by
  unfold afterBounds
  split
  · rename_i rest
    split
    · rename_i inside after hc
      have hs : trimStart after <:+ inside ++ '>' :: after :=
        (List.dropWhile_suffix isBlank).trans
          ((List.suffix_cons '>' after).trans (List.suffix_append inside _))
      rw [eq_append_of_cutAtChar? hc]
      exact hs.trans (List.suffix_cons '<' _)
    · exact List.suffix_refl _
  · exact List.suffix_refl _

/-- Type parameters that are closed end in front of the seam. -/
theorem afterBounds_append (h : Declares t) (hs : ∀ rest, s = '<' :: rest → '>' ∈ rest) :
    afterBounds (s ++ t) = afterBounds s ++ t := by
  have hword : isWordChar '<' = false := by decide
  by_cases hopen : s.head? = some '<'
  · obtain ⟨rest, rfl⟩ := List.head?_eq_some_iff.1 hopen
    obtain ⟨inside, after, hsplit, hinside⟩ := List.eq_append_cons_of_mem (hs rest rfl)
    have hcut (t : List Char) : afterBounds ('<' :: (rest ++ t)) = trimStart (after ++ t) := by
      have hc : cutAtChar? '>' (rest ++ t) = some (inside, after ++ t) := by
        rw [hsplit, List.append_assoc, List.cons_append]
        exact cutAtChar?_append hinside _
      simp only [afterBounds, hc]
    have hself := hcut []
    rw [List.append_nil, List.append_nil] at hself
    rw [List.cons_append, hcut, hself, trimStart_append _ h.head?_blank]
  · rw [afterBounds_of_head? hopen]
    refine afterBounds_of_head? ?_
    cases s with
    | nil => exact h.head?_ne hword
    | cons c s => exact hopen

/-- A name and its parenthesis stand in front of a seam that neither goes on with. -/
theorem openBehindName?_append_of
    (hword : s.dropWhile isWordChar = [] → t.head?.any isWordChar = false)
    (hblank : t.head?.any isBlank = false) (hparen : t.head? ≠ some '(') :
    openBehindName? (s ++ t) = (openBehindName? s).map fun found => (found.1, found.2 ++ t) := by
  have hspan : (s ++ t).takeWhile isWordChar = s.takeWhile isWordChar ∧
      (s ++ t).dropWhile isWordChar = s.dropWhile isWordChar ++ t := by
    cases hd : s.dropWhile isWordChar with
    | nil =>
        have hs := List.dropWhile_eq_nil_iff.1 hd
        have hstop : ∀ c, t.head? = some c → isWordChar c = false := by
          intro c hc
          simpa [hc] using hword hd
        obtain ⟨ht, hd'⟩ := span_name hs hstop
        exact ⟨ht.trans (List.takeWhile_eq_self_iff.2 hs).symm, hd'⟩
    | cons c rest =>
        have hsplit := List.takeWhile_append_dropWhile (p := isWordChar) (l := s)
        have hlength := congrArg List.length hsplit
        rw [List.length_append, hd, List.length_cons] at hlength
        rw [List.takeWhile_append, List.dropWhile_append, if_neg (by omega), hd]
        exact ⟨rfl, rfl⟩
  simp only [openBehindName?, hspan, trimStart_append _ hblank]
  split
  · rfl
  · cases trimStart (s.dropWhile isWordChar) with
    | nil =>
        split
        · rename_i he
          rw [List.nil_append] at he
          rw [he] at hparen
          exact absurd rfl hparen
        · rfl
    | cons c rest =>
        by_cases hc : c = '('
        · rw [hc]
          rfl
        · simp [hc]

theorem openBehindName?_append (h : Declares t) (hs : s.getLast?.any isWordChar = false) :
    openBehindName? (s ++ t) = (openBehindName? s).map fun found => (found.1, found.2 ++ t) := by
  by_cases hne : s = []
  · subst hne
    simp only [List.nil_append, openBehindName?]
    split
    · rfl
    · split
      · rename_i he
        have hapart := h.apart
        rw [he] at hapart
        exact absurd rfl hapart
      · rfl
  · refine openBehindName?_append_of (fun hd => ?_) h.head?_blank (h.head?_ne (by decide))
    obtain ⟨init, last, rfl⟩ := s.eq_nil_or_concat.resolve_left hne
    have hlast := List.dropWhile_eq_nil_iff.1 hd last (by simp)
    simp [hlast] at hs

/-- A name and the parenthesis behind it are found. -/
theorem openBehindName?_here {name : List Char} (hne : name ≠ [])
    (hw : ∀ c ∈ name, isWordChar c = true) (g : Gap) (t : List Char) :
    openBehindName? (name ++ (g.text ++ '(' :: t)) = some (name, t) := by
  have hparen : isWordChar '(' = false ∧ isBlank '(' = false := by decide
  have hstop : ∀ c, (g.text ++ '(' :: t).head? = some c → isWordChar c = false := by
    intro c hc
    rcases g.head?_append _ hc with hb | hp
    · exact isWordChar_of_isBlank hb
    · cases hp
      exact hparen.1
  obtain ⟨ht, hd⟩ := span_name hw hstop
  have he : name.isEmpty = false := by simpa using hne
  simp only [openBehindName?, ht, hd, he, Bool.false_eq_true, ↓reduceIte, trimStart_gap,
    trimStart_cons hparen.2]

/-- The head behind a keyword does not reach over the seam. -/
theorem functionHead?_append {b : List Char} (h : Declares t)
    (hb : b.getLast?.any isWordChar = false) (hclose : boundsClose b = true) :
    functionHead? (b ++ t) = (functionHead? b).map fun found => (found.1, found.2 ++ t) := by
  rw [functionHead?_eq, functionHead?_eq, trimStart_append b h.head?_blank]
  cases b with
  | nil =>
      obtain ⟨c, rest, rfl, hc⟩ := h.exists_cons
      simp [isBlank_of_isWordChar hc]
  | cons c b =>
      have hhead : (c :: b ++ t).head?.any isBlank = (c :: b).head?.any isBlank := rfl
      rw [hhead]
      by_cases hblank : (c :: b).head?.any isBlank = true
      · have hbounds : ∀ rest, trimStart (c :: b) = '<' :: rest → '>' ∈ rest := by
          intro rest he
          have hc : isBlank c = true := hblank
          simpa [boundsClose, he, hc] using hclose
        have hsuffix := (afterBounds_suffix (trimStart (c :: b))).trans
          (List.dropWhile_suffix isBlank)
        rw [if_pos hblank, if_pos hblank, afterBounds_append h hbounds,
          openBehindName?_append h (getLast?_of_suffix hsuffix hb)]
      · rw [if_neg hblank, if_neg hblank, Option.map_none]

/-- The keyword does not reach over the seam either. -/
theorem after?_append_of_last {keyword : List Char} (hk : Keyword keyword) (hne : s ≠ [])
    (hs : s.getLast?.any isWordChar = false) (t : List Char) :
    after? keyword (s ++ t) = (after? keyword s).map (· ++ t) := by
  cases ha : after? keyword (s ++ t) with
  | none =>
      cases hs' : after? keyword s with
      | none => rfl
      | some rest =>
          rw [eq_append_of_after? hs', List.append_assoc, after?_append] at ha
          cases ha
  | some rest =>
      rcases List.append_eq_append_iff.1 (eq_append_of_after? ha) with ⟨m, hm, -⟩ | ⟨m, hm, hr⟩
      · -- the text would lie in the keyword, and end in a word
        obtain ⟨init, last, rfl⟩ := s.eq_nil_or_concat.resolve_left hne
        have hlast := hk.wordChars last (by simp [hm])
        simp [hlast] at hs
      · rw [hm, after?_append, hr]
        rfl

theorem functionHere?_append (h : Declares t) (hne : s ≠ [])
    (hlast : s.getLast?.any isWordChar = false) (hs : settled before s = true) :
    functionHere? before (s ++ t) =
      (functionHere? before s).map fun found => (found.1, found.2 ++ t) := by
  rw [functionHere?_eq, functionHere?_eq, after?_append_of_last keyword_fun hne hlast]
  split
  · rfl
  · rename_i hw
    cases ha : after? funKeyword s with
    | none => rfl
    | some b =>
        have hsuffix : b <:+ s := ⟨funKeyword, (eq_append_of_after? ha).symm⟩
        obtain ⟨c, s, rfl⟩ := List.exists_cons_of_ne_nil hne
        have hclose := (behindKeywords_cons hs).1.resolve_left hw b ha
        exact functionHead?_append h (getLast?_of_suffix hsuffix hlast) hclose

/-- A head ends in the parenthesis that opens its parameters. -/
theorem exists_of_openBehindName? {found : List Char × List Char}
    (h : openBehindName? s = some found) : ∃ front, s = front ++ '(' :: found.2 := by
  unfold openBehindName? at h
  split at h
  · cases h
  · split at h
    · rename_i rest he
      cases h
      have hs : trimStart (s.dropWhile isWordChar) <:+ s :=
        (List.dropWhile_suffix isBlank).trans (List.dropWhile_suffix isWordChar)
      rw [he] at hs
      obtain ⟨front, hf⟩ := hs
      exact ⟨front, hf.symm⟩
    · cases h

theorem exists_of_functionHead? {found : List Char × List Char}
    (h : functionHead? s = some found) : ∃ front, s = front ++ '(' :: found.2 := by
  rw [functionHead?_eq] at h
  split at h
  · obtain ⟨front, hf⟩ := exists_of_openBehindName? h
    have hopen : '(' :: found.2 <:+ afterBounds (trimStart s) := ⟨front, hf.symm⟩
    obtain ⟨front, hf⟩ := hopen.trans ((afterBounds_suffix _).trans (List.dropWhile_suffix isBlank))
    exact ⟨front, hf.symm⟩
  · cases h

theorem exists_of_functionHere? {found : List Char × List Char}
    (h : functionHere? before s = some found) : ∃ front, s = front ++ '(' :: found.2 := by
  rw [functionHere?_eq] at h
  split at h
  · cases h
  · obtain ⟨b, ha, hb⟩ := Option.bind_eq_some_iff.1 h
    obtain ⟨front, hf⟩ := exists_of_functionHead? hb
    refine ⟨funKeyword ++ front, ?_⟩
    rw [List.append_assoc, ← hf]
    exact eq_append_of_after? ha

theorem functionHeads_of_some {found : List Char × List Char}
    (h : functionHere? before s = some found) :
    functionHeads before s = found :: functionHeads (some '(') found.2 := by
  rw [functionHeads]
  split
  · rename_i hf
    rw [h] at hf
    cases hf
    rfl
  · rename_i hf
    rw [h] at hf
    cases hf

/-! ## A keyword in front -/

theorem after?_fun_of_ne {c : Char} (h : c ≠ 'f') (s : List Char) :
    after? funKeyword (c :: s) = none := by
  have hf : funKeyword = ['f', 'u', 'n'] := rfl
  simp [hf, after?, Ne.symm h]

theorem functionHere?_of_ne {c : Char} (h : c ≠ 'f') (before : Option Char) (s : List Char) :
    functionHere? before (c :: s) = none := by
  rw [functionHere?_eq, after?_fun_of_ne h, Option.bind_none, ite_self]

/-- The search passes over a text without the first letter of the keyword. -/
theorem functionHeads_skip (h : 'f' ∉ s) (before : Option Char) (t : List Char) :
    functionHeads before (s ++ t) = functionHeads (lastOr before s) t := by
  induction s generalizing before with
  | nil => rfl
  | cons c s ih =>
      rw [List.mem_cons, not_or] at h
      rw [List.cons_append, functionHeads_of_none (functionHere?_of_ne (Ne.symm h.1) before _),
        ih h.2, lastOr_cons]

theorem behindKeywords_skip (h : 'f' ∉ s) (p : List Char → Bool) (before : Option Char)
    (t : List Char) :
    behindKeywords p before (s ++ t) = behindKeywords p (lastOr before s) t := by
  induction s generalizing before with
  | nil => rfl
  | cons c s ih =>
      rw [List.mem_cons, not_or] at h
      rw [List.cons_append, behindKeywords, after?_fun_of_ne (Ne.symm h.1), ih h.2, lastOr_cons]
      simp

/-- Behind a keyword without another function there is at most one head. -/
theorem functionHeads_keyword {b : List Char} (hb : before.any isWordChar = false)
    (h : functionFree (some 'n') b = true) :
    functionHeads before (funKeyword ++ b) = (functionHead? b).toList := by
  have hhere : functionHere? before (funKeyword ++ b) = functionHead? b := by
    rw [functionHere?_eq, if_neg (by simp [hb]), after?_append, Option.bind_some]
  cases hf : functionHead? b with
  | none =>
      rw [hf] at hhere
      have hnone : functionHere? before ('f' :: 'u' :: 'n' :: b) = none := hhere
      have hskip := functionHeads_skip (s := ['u', 'n']) (by decide) (some 'f') b
      exact (functionHeads_of_none hnone).trans (hskip.trans (functionHeads_of_functionFree h))
  | some found =>
      rw [hf] at hhere
      obtain ⟨front, rfl⟩ := exists_of_functionHead? hf
      rw [functionHeads_of_some hhere, functionHeads_of_functionFree (behindKeywords_of_append h)]
      rfl

theorem settled_keyword {b : List Char} (hclose : boundsClose b = true)
    (h : functionFree (some 'n') b = true) (before : Option Char) :
    settled before (funKeyword ++ b) = true := by
  have hskip := behindKeywords_skip (s := ['u', 'n']) (by decide) boundsClose (some 'f') b
  have hrest : behindKeywords boundsClose (some 'f') ('u' :: 'n' :: b) = true :=
    hskip.trans (settled_of_functionFree h)
  have hafter : after? funKeyword ('f' :: 'u' :: 'n' :: b) = some b := after?_append funKeyword b
  have hsettled : behindKeywords boundsClose before ('f' :: 'u' :: 'n' :: b) = true := by
    rw [behindKeywords, hafter, hrest]
    simp [hclose]
  exact hsettled

/-! ## The whole text -/

/-- The heads of a text with a declaration behind it are those of the text and those of the
declaration. -/
theorem functionHeads_seam (h : Declares t) (hlast : (lastOr before s).any isWordChar = false)
    (hs : settled before s = true) :
    functionHeads before (s ++ t) =
      (functionHeads before s).map (fun found => (found.1, found.2 ++ t)) ++
        functionHeads (lastOr before s) t := by
  induction hn : s.length using Nat.strongRecOn generalizing before s with
  | ind n ih =>
    cases s with
    | nil => simp [functionHeads_eq_nil (s := []) rfl before]
    | cons c s =>
        subst hn
        have hend : (c :: s).getLast?.any isWordChar = false := by
          simpa [lastOr, List.getLast?_cons] using hlast
        have hhere := functionHere?_append h (List.cons_ne_nil c s) hend hs
        cases hf : functionHere? before (c :: s) with
        | none =>
            rw [hf, Option.map_none, List.cons_append] at hhere
            rw [lastOr_cons] at hlast ⊢
            rw [List.cons_append, functionHeads_of_none hf, functionHeads_of_none hhere]
            exact ih s.length (Nat.lt_succ_self _) hlast (behindKeywords_cons hs).2 rfl
        | some found =>
            obtain ⟨front, hfront⟩ := exists_of_functionHere? hf
            rw [hf, Option.map_some] at hhere
            rw [functionHeads_of_some hf, functionHeads_of_some hhere, List.map_cons,
              List.cons_append]
            -- the search goes on behind the parenthesis of the head
            have hshort : found.2.length < (c :: s).length := by
              rw [hfront]
              simp
              omega
            have hlast' : lastOr before (c :: s) = lastOr (some '(') found.2 := by
              rw [hfront, lastOr, List.getLast?_append, List.getLast?_cons]
              simp [lastOr]
            rw [hfront] at hs
            rw [hlast'] at hlast ⊢
            rw [ih found.2.length hshort hlast (behindKeywords_of_append hs) rfl]

end TestForge.SourcePatterns
