import TestForge.Text.Brackets
import TestForge.Text.Search

/-!
# Properly nested text

A scan keeps the brackets that are open. What the scanners of the model count, each in its own way,
is read off that stack: all brackets for the commas of a list, one kind for the bracket that closes
a group.
-/

namespace TestForge.Text

/-! ## Scanning -/

def opens (c : Char) : Prop :=
  c = '<' ∨ c = '(' ∨ c = '['

instance (c : Char) : Decidable (opens c) :=
  inferInstanceAs (Decidable (_ ∨ _))

/-- The bracket that a character closes. The `>` of an arrow closes none. -/
def closed? (before : Option Char) (c : Char) : Option Char :=
  if c = ')' then some '('
  else if c = ']' then some '['
  else if c = '>' ∧ before ≠ some '-' then some '<'
  else none

/-- The open brackets after one more character, innermost first; none if the character closes
another bracket than the innermost, or is a comma that may not stand outside all brackets. -/
def turn (bare : Bool) (before : Option Char) (stack : List Char) (c : Char) :
    Option (List Char) :=
  if opens c then some (c :: stack)
  else
    match closed? before c, stack with
    | some o, top :: rest => if o = top then some rest else none
    | some _, [] => none
    | none, _ => if c = ',' ∧ bare = false ∧ stack = [] then none else some stack

/-- The brackets that are open after a text. -/
def scan (bare : Bool) (before : Option Char) (stack : List Char) : List Char → Option (List Char)
  | [] => some stack
  | c :: cs => (turn bare before stack c).bind fun stack => scan bare (some c) stack cs

/-- Text whose brackets are properly nested. -/
def Nested (s : List Char) : Prop :=
  scan true none [] s = some []

/-- An entry of a list: properly nested, with commas only inside brackets. -/
def ListEntry (s : List Char) : Prop :=
  scan false none [] s = some []

instance (s : List Char) : Decidable (Nested s) :=
  inferInstanceAs (Decidable (_ = _))

instance (s : List Char) : Decidable (ListEntry s) :=
  inferInstanceAs (Decidable (_ = _))

/-! ## One character -/

variable {bare : Bool} {before : Option Char} {stack stack' : List Char} {c : Char}

/-- What a character can do to the open brackets. -/
inductive Turned (bare : Bool) (before : Option Char) (stack : List Char) (c : Char) :
    List Char → Prop
  | opening (h : opens c) : Turned bare before stack c (c :: stack)
  | closing {o rest} (h : ¬opens c) (hc : closed? before c = some o) (hs : stack = o :: rest) :
      Turned bare before stack c rest
  | plain (h : ¬opens c) (hc : closed? before c = none)
      (hp : c = ',' → bare = true ∨ stack ≠ []) : Turned bare before stack c stack

theorem turned_of_turn (h : turn bare before stack c = some stack') :
    Turned bare before stack c stack' := by
  unfold turn at h
  split at h
  · rename_i ho
    cases h
    exact .opening ho
  · rename_i ho
    split at h
    · rename_i o top rest hc
      split at h
      · rename_i ht
        cases h
        exact .closing ho hc (by rw [ht])
      · cases h
    · cases h
    · rename_i hc
      split at h
      · cases h
      · rename_i hp
        cases h
        refine .plain ho hc fun hcomma => ?_
        cases bare with
        | true => exact Or.inl rfl
        | false => exact Or.inr fun hs => hp ⟨hcomma, rfl, hs⟩

theorem closed?_eq_some {o : Char} (h : closed? before c = some o) :
    (c = ')' ∧ o = '(') ∨ (c = ']' ∧ o = '[') ∨ (c = '>' ∧ before ≠ some '-' ∧ o = '<') := by
  unfold closed? at h
  split at h
  · rename_i hc
    cases h
    exact Or.inl ⟨hc, rfl⟩
  · split at h
    · rename_i hc
      cases h
      exact Or.inr (Or.inl ⟨hc, rfl⟩)
    · split at h
      · rename_i hc
        cases h
        exact Or.inr (Or.inr ⟨hc.1, hc.2, rfl⟩)
      · cases h

theorem closed?_eq_none (h : closed? before c = none) :
    c ≠ ')' ∧ c ≠ ']' ∧ (c = '>' → before = some '-') := by
  unfold closed? at h
  split at h
  · cases h
  · split at h
    · cases h
    · split at h
      · cases h
      · simp_all

/-- The depth that lists are split by is the number of open brackets. -/
theorem Turned.nesting (h : Turned bare before stack c stack') :
    (stack.length : Int) + nesting before c = stack'.length := by
  cases h with
  | opening ho => simp [Text.nesting, show c = '<' ∨ c = '(' ∨ c = '[' from ho]
  | closing ho hc hs =>
      have hl : (stack.length : Int) = stack'.length + 1 := by simp [hs]
      have hn : Text.nesting before c = -1 := by
        rcases closed?_eq_some hc with ⟨rfl, -⟩ | ⟨rfl, -⟩ | ⟨rfl, hb, -⟩
        · simp [Text.nesting]
        · simp [Text.nesting]
        · simp [Text.nesting, hb]
      omega
  | plain ho hc hp =>
      have hn : ¬(c = '<' ∨ c = '(' ∨ c = '[') := ho
      obtain ⟨h1, h2, h3⟩ := closed?_eq_none hc
      by_cases hg : c = '>'
      · simp [Text.nesting, hg, h3 hg]
      · simp [Text.nesting, hn, h1, h2, hg]

/-! ## Joining -/

/-- The character before what follows a text. -/
def lastOr (before : Option Char) (s : List Char) : Option Char :=
  s.getLast?.or before

@[simp] theorem lastOr_nil (before : Option Char) : lastOr before [] = before := rfl

@[simp] theorem lastOr_cons (before : Option Char) (c : Char) (s : List Char) :
    lastOr before (c :: s) = lastOr (some c) s := by
  cases h : s.getLast? <;> simp [lastOr, List.getLast?_cons, h]

theorem scan_append (bare : Bool) (before : Option Char) (stack s t : List Char) :
    scan bare before stack (s ++ t) =
      (scan bare before stack s).bind fun stack' => scan bare (lastOr before s) stack' t := by
  induction s generalizing before stack with
  | nil => rfl
  | cons c s ih =>
      simp only [List.cons_append, scan, ih, lastOr_cons]
      cases turn bare before stack c <;> rfl

/-- Nothing closes at the start of a text that closes nothing but what it opens, so what stands
before it does not matter. -/
theorem scan_before {s : List Char} (h : scan bare none [] s = some stack) (before : Option Char) :
    scan bare before [] s = some stack := by
  cases s with
  | nil => exact h
  | cons c s =>
      have ht : turn bare before [] c = turn bare none [] c := by
        cases hn : turn bare none [] c with
        | none => simp [scan, hn] at h
        | some st =>
            cases turned_of_turn hn with
            | opening ho => simp [turn, ho]
            | closing _ _ hs => cases hs
            | plain ho hc hp =>
                obtain ⟨h1, h2, h3⟩ := closed?_eq_none hc
                have hg : c ≠ '>' := fun hg => by simpa using h3 hg
                have hb : closed? before c = none := by simp [closed?, h1, h2, hg]
                simp only [turn, ho, ↓reduceIte, hb]
                split
                · rename_i hcomma
                  rcases hp hcomma.1 with hbare | hbare
                  · simp [hcomma.2.1] at hbare
                  · exact absurd rfl hbare
                · rfl
      simpa only [scan, ht] using h

theorem scan_bare {s : List Char} (h : scan false before stack s = some stack') :
    scan true before stack s = some stack' := by
  induction s generalizing before stack with
  | nil => exact h
  | cons c s ih =>
      obtain ⟨st, ht, hs⟩ := Option.bind_eq_some_iff.1 h
      refine Option.bind_eq_some_iff.2 ⟨st, ?_, ih hs⟩
      cases turned_of_turn ht with
      | opening ho => simp [turn, ho]
      | closing ho hc hs => simp [turn, ho, hc, hs]
      | plain ho hc hp => simp [turn, ho, hc]

theorem ListEntry.nested {s : List Char} (h : ListEntry s) : Nested s :=
  scan_bare h

/-- A character that is neither a bracket nor a comma. -/
def Plain (c : Char) : Prop :=
  c ∉ ['<', '(', '[', '>', ')', ']', ',']

instance (c : Char) : Decidable (Plain c) :=
  inferInstanceAs (Decidable (¬_))

theorem scan_plain {s : List Char} (h : ∀ c ∈ s, Plain c) (bare : Bool) (before : Option Char)
    (stack : List Char) : scan bare before stack s = some stack := by
  induction s generalizing before with
  | nil => rfl
  | cons c s ih =>
      have hc := h c (by simp)
      simp only [Plain, List.mem_cons, List.not_mem_nil, or_false, not_or] at hc
      have ho : ¬opens c := by simp [opens, hc]
      simp [scan, turn, ho, closed?, hc, ih fun c hm => h c (List.mem_cons_of_mem _ hm)]

theorem ListEntry.of_plain {s : List Char} (h : ∀ c ∈ s, Plain c) : ListEntry s :=
  scan_plain h false none []

theorem ListEntry.append {s t : List Char} (hs : ListEntry s) (ht : ListEntry t) : ListEntry (s ++ t) := by
  unfold ListEntry at hs ⊢
  rw [scan_append, hs, Option.bind_some, scan_before ht]

theorem ListEntry.cons {c : Char} {s : List Char} (hc : Plain c) (hs : ListEntry s) :
    ListEntry (c :: s) :=
  (ListEntry.of_plain (s := [c]) (by simpa using hc)).append hs

theorem Nested.append {s t : List Char} (hs : Nested s) (ht : Nested t) : Nested (s ++ t) := by
  unfold Nested at hs ⊢
  rw [scan_append, hs, Option.bind_some, scan_before ht]

/-- White space has no brackets and no commas. -/
theorem plain_of_isBlank {c : Char} (h : isBlank c = true) : Plain c := by
  intro hm
  have hall : ['<', '(', '[', '>', ')', ']', ','].all (fun c => !isBlank c) = true := by decide
  have hnot := List.all_eq_true.1 hall c hm
  rw [h] at hnot
  cases hnot

theorem ListEntry.of_blank {s : List Char} (h : isAllBlank s = true) : ListEntry s :=
  .of_plain fun c hc => plain_of_isBlank (List.all_eq_true.1 h c hc)

/-- Where everything is closed in the end, an open bracket is closed behind properly nested text. -/
theorem exists_close_of_scan {o : Char} {up st s : List Char}
    (h : scan true before (up ++ o :: st) s = some []) :
    ∃ inside c rest, s = inside ++ c :: rest ∧ scan true before up inside = some [] ∧
      closed? (lastOr before inside) c = some o := by
  induction s generalizing before up with
  | nil =>
      rw [scan, Option.some.injEq, List.append_eq_nil_iff] at h
      cases h.2
  | cons c s ih =>
      obtain ⟨stack, ht, hs⟩ := Option.bind_eq_some_iff.1 h
      -- the bracket stays open unless nothing is open above it
      have hgo (up' : List Char) (hturn : turn true before up c = some up')
          (hstack : stack = up' ++ o :: st) : ∃ inside d rest, c :: s = inside ++ d :: rest ∧
            scan true before up inside = some [] ∧ closed? (lastOr before inside) d = some o := by
        rw [hstack] at hs
        obtain ⟨inside, d, rest, rfl, hin, hd⟩ := ih hs
        refine ⟨c :: inside, d, rest, rfl, ?_, by rwa [lastOr_cons]⟩
        rw [scan, hturn, Option.bind_some, hin]
      cases turned_of_turn ht with
      | opening ho => exact hgo (c :: up) (by simp [turn, ho]) rfl
      | closing ho hc hst =>
          cases up with
          | nil =>
              cases hst
              exact ⟨[], c, s, rfl, rfl, hc⟩
          | cons u up =>
              cases hst
              exact hgo up (by simp [turn, ho, hc]) rfl
      | plain ho hc hp => exact hgo up (by simp [turn, ho, hc]) rfl

/-! ## Lists -/

theorem Turned.not_cut (h : Turned false before stack c stack') :
    ¬(c = ',' ∧ (stack.length : Int) ≤ 0) := by
  rintro ⟨rfl, hl⟩
  cases h with
  | opening ho => simp [opens] at ho
  | closing _ hc _ => simp [closed?] at hc
  | plain _ _ hp =>
      rcases hp rfl with hb | hs
      · cases hb
      · have hpos := List.length_pos_iff.2 hs
        omega

theorem cutTopLevel_append {s : List Char} (h : scan false before stack s = some stack')
    (t : List Char) :
    cutTopLevel before stack.length (s ++ t) =
      (s ++ (cutTopLevel (lastOr before s) stack'.length t).1,
        (cutTopLevel (lastOr before s) stack'.length t).2) := by
  induction s generalizing before stack with
  | nil =>
      cases h
      rfl
  | cons c s ih =>
      obtain ⟨st, ht, hs⟩ := Option.bind_eq_some_iff.1 h
      have hturn := turned_of_turn ht
      simp only [List.cons_append, cutTopLevel, hturn.not_cut, ↓reduceIte, hturn.nesting, ih hs,
        lastOr_cons]

theorem cutTopLevel_listEntry {s : List Char} (h : ListEntry s) (before : Option Char)
    (t : List Char) :
    cutTopLevel before 0 (s ++ t) =
      (s ++ (cutTopLevel (lastOr before s) 0 t).1, (cutTopLevel (lastOr before s) 0 t).2) := by
  simpa using cutTopLevel_append (scan_before h before) t

theorem cutTopLevel_joinWith {s : List Char} {rest : List (List Char)}
    (h : ∀ piece ∈ s :: rest, ListEntry piece) (before : Option Char) :
    cutTopLevel before 0 (joinWith [','] (s :: rest)) = (s, rest) := by
  induction rest generalizing s before with
  | nil => simpa [joinWith, cutTopLevel] using cutTopLevel_listEntry (h s (by simp)) before []
  | cons p rest ih =>
      have hs := cutTopLevel_listEntry (h s (by simp)) before (',' :: joinWith [','] (p :: rest))
      have hp := ih (s := p) (fun piece hm => h piece (List.mem_cons_of_mem _ hm)) (some ',')
      simp only [joinWith, List.append_assoc, List.cons_append, List.nil_append]
      rw [hs]
      simp [cutTopLevel, hp]

/-- Splitting finds the entries that were joined, but for those that are blank. -/
theorem splitTopLevel_joinWith {pieces : List (List Char)} (h : ∀ piece ∈ pieces, ListEntry piece) :
    splitTopLevel (joinWith [','] pieces) = pieces.filter fun piece => !isAllBlank piece := by
  cases pieces with
  | nil => rfl
  | cons s rest => simp only [splitTopLevel, cutTopLevel_joinWith h none]

theorem splitTopLevel_joinWith_comma {pieces : List (List Char)}
    (h : ∀ piece ∈ pieces, ListEntry piece ∧ isAllBlank piece = false) :
    splitTopLevel (joinWith [','] pieces) = pieces := by
  rw [splitTopLevel_joinWith fun piece hm => (h piece hm).1, List.filter_eq_self]
  intro piece hm
  rw [(h piece hm).2]
  rfl

theorem joinWith_comma_blank (s : List Char) (rest : List (List Char)) :
    joinWith [',', ' '] (s :: rest) = joinWith [','] (s :: rest.map (' ' :: ·)) := by
  induction rest generalizing s with
  | nil => rfl
  | cons p rest ih =>
      cases rest with
      | nil => simp [joinWith]
      | cons q rest =>
          have hp := ih p
          simp only [joinWith, List.map_cons, List.cons_append, List.nil_append,
            List.append_assoc] at hp ⊢
          rw [hp]

theorem Nested.join {sep : List Char} (hsep : Nested sep) {pieces : List (List Char)}
    (h : ∀ piece ∈ pieces, Nested piece) : Nested (joinWith sep pieces) := by
  induction pieces with
  | nil => rfl
  | cons s rest ih =>
      obtain ⟨hs, hrest⟩ := List.forall_mem_cons.1 h
      cases rest with
      | nil => exact hs
      | cons p rest => exact (hs.append hsep).append (ih hrest)

theorem nested_joinWith {pieces : List (List Char)} (h : ∀ piece ∈ pieces, ListEntry piece) :
    Nested (joinWith [',', ' '] pieces) :=
  Nested.join (by decide) fun piece hm => (h piece hm).nested

/-! ## Groups -/

theorem cutAtClose?_paren_before (depth : Nat) (b b' : Char) (s : List Char) :
    cutAtClose? '(' ')' depth b s = cutAtClose? '(' ')' depth b' s := by
  cases s with
  | nil => rfl
  | cons c s => simp [cutAtClose?]

/-- Parentheses are counted as they are nested, whatever other brackets do. -/
theorem cutAtClose?_scan {s : List Char} (h : scan bare before stack s = some stack') (b : Char)
    (t : List Char) :
    cutAtClose? '(' ')' (stack.count '(') b (s ++ t) =
      (cutAtClose? '(' ')' (stack'.count '(') b t).map fun found => (s ++ found.1, found.2) := by
  induction s generalizing before stack b with
  | nil =>
      cases h
      simp
  | cons c s ih =>
      obtain ⟨st, ht, hs⟩ := Option.bind_eq_some_iff.1 h
      have hrest := ih hs c
      rw [cutAtClose?_paren_before _ c b t] at hrest
      cases turned_of_turn ht with
      | opening ho =>
          rcases ho with rfl | rfl | rfl <;> simp_all [cutAtClose?, Function.comp_def]
      | closing ho hc hst =>
          subst hst
          rcases closed?_eq_some hc with ⟨rfl, rfl⟩ | ⟨rfl, rfl⟩ | ⟨rfl, -, rfl⟩ <;>
            simp_all [cutAtClose?, Function.comp_def]
      | plain ho hc hp =>
          have hopen : c ≠ '(' := fun hc => ho (Or.inr (Or.inl hc))
          have hclose := (closed?_eq_none hc).1
          simp_all [cutAtClose?, Function.comp_def]

/-- The parenthesis that closes a group is the first one outside what is nested in it. -/
theorem cutAtClose?_nested {s : List Char} (h : Nested s) (b : Char) (t : List Char) :
    cutAtClose? '(' ')' 0 b (s ++ ')' :: t) = some (s, t) := by
  simpa [cutAtClose?] using cutAtClose?_scan h b (')' :: t)

/-- A parenthesis inside properly nested text is closed there. -/
theorem cutAtClose?_inside {s front : List Char} (h : Nested (front ++ '(' :: s)) :
    ∃ inside rest, s = inside ++ ')' :: rest ∧
      ∀ (b : Char) (t : List Char),
        cutAtClose? '(' ')' 0 b (s ++ t) = some (inside, rest ++ t) := by
  unfold Nested at h
  rw [scan_append, Option.bind_eq_some_iff] at h
  obtain ⟨stack, -, hs⟩ := h
  rw [scan, Option.bind_eq_some_iff] at hs
  obtain ⟨stack', ht, hs⟩ := hs
  have hopen : opens '(' := by decide
  simp only [turn, hopen, ↓reduceIte, Option.some.injEq] at ht
  rw [← ht, ← List.nil_append ('(' :: stack)] at hs
  obtain ⟨inside, c, rest, rfl, hin, hc⟩ := exists_close_of_scan hs
  have hparen : c = ')' := by
    rcases closed?_eq_some hc with ⟨h, -⟩ | ⟨-, h⟩ | ⟨-, -, h⟩
    · exact h
    · cases h
    · cases h
  subst hparen
  refine ⟨inside, rest, rfl, fun b t => ?_⟩
  simpa [cutAtClose?] using cutAtClose?_scan hin b (')' :: (rest ++ t))

/-! ## One kind of bracket -/

/-- The brackets of one kind that are open after a text; none if one is closed that is not open.
Other brackets do not count. -/
def openAfter? (opening closing : Char) (depth : Nat) (before : Char) : List Char → Option Nat
  | [] => some depth
  | c :: cs =>
    if c = opening then openAfter? opening closing (depth + 1) c cs
    else if c = closing ∧ ¬(closing = '>' ∧ before = '-') then
      match depth with
      | 0 => none
      | d + 1 => openAfter? opening closing d c cs
    else openAfter? opening closing depth c cs

/-- What a bracket and the one behind the text enclose: it opens and closes its own brackets of that
kind, and leaves no arrow to be ended. -/
structure Enclosed (opening closing : Char) (s : List Char) : Prop where
  balanced : openAfter? opening closing 0 opening s = some 0
  closes : ¬(closing = '>' ∧ s.getLastD opening = '-')

instance (opening closing : Char) (s : List Char) : Decidable (Enclosed opening closing s) :=
  decidable_of_iff (openAfter? opening closing 0 opening s = some 0 ∧
      ¬(closing = '>' ∧ s.getLastD opening = '-'))
    ⟨fun ⟨h, h'⟩ => ⟨h, h'⟩, fun h => ⟨h.balanced, h.closes⟩⟩

theorem cutAtClose?_openAfter? {opening closing b : Char} {depth depth' : Nat} {s : List Char}
    (h : openAfter? opening closing depth b s = some depth') (t : List Char) :
    cutAtClose? opening closing depth b (s ++ t) =
      (cutAtClose? opening closing depth' (s.getLastD b) t).map fun found =>
        (s ++ found.1, found.2) := by
  induction s generalizing depth b with
  | nil =>
      cases h
      simp
  | cons c s ih =>
      simp only [openAfter?] at h
      simp only [List.cons_append, cutAtClose?, List.getLastD_cons]
      split at h
      · rename_i ho
        rw [if_pos ho, ih h]
        simp [Function.comp_def]
      · rename_i ho
        rw [if_neg ho]
        split at h
        · rename_i hc
          rw [if_pos hc]
          cases depth with
          | zero => cases h
          | succ d =>
              simp only at h ⊢
              rw [ih h]
              simp [Function.comp_def]
        · rename_i hc
          rw [if_neg hc, ih h]
          simp [Function.comp_def]

/-- The bracket behind what is enclosed is the one that closes. -/
theorem Enclosed.group? {opening closing : Char} {s : List Char} (h : Enclosed opening closing s)
    (hne : closing ≠ opening) (t : List Char) :
    group? opening closing (opening :: (s ++ closing :: t)) = some (s, t) := by
  simp only [Text.group?, ↓reduceIte, cutAtClose?_openAfter? h.balanced, cutAtClose?, hne, h.closes,
    not_false_eq_true, and_self, Option.map_some, List.append_nil]

end TestForge.Text
