import Mathlib.Data.List.Basic
import Mathlib.Data.List.Infix
import TestForge.Proofs.Layout

/-!
# Main sources and their tests

The test of a main source lies below `test` where the source lies below `main`. As no source has a
directory `test` above it, that directory tells where the source was: sources with one test are one
source, and no test is a source.
-/

namespace TestForge.Layout

open Text

/-- A path that leads from a project root down to a main source, and through no tests. -/
structure MainSource (service : String) : Prop where
  main : "/main/".toList <:+: service.toList
  noTest : ¬"/test/".toList <:+: service.toList
  names : ∀ piece ∈ splitAtChar '/' service.toList, Path.IsName piece

instance (service : String) : Decidable (MainSource service) :=
  decidable_of_iff ("/main/".toList <:+: service.toList ∧ ¬"/test/".toList <:+: service.toList ∧
      ∀ piece ∈ splitAtChar '/' service.toList, Path.IsName piece)
    ⟨fun ⟨h, h', h''⟩ => ⟨h, h', h''⟩, fun h => ⟨h.main, h.noTest, h.names⟩⟩

/-! ## Pieces -/

/-- Another file in the same directory. -/
theorem splitAtChar_splitDirectory (s : List Char) {file : List Char} (h : '/' ∉ file) :
    splitAtChar '/' ((splitDirectory s).1 ++ file) = (splitAtChar '/' s).dropLast ++ [file] := by
  obtain ⟨hs, hpiece, -⟩ := splitDirectory_spec s
  obtain ⟨front, hfront⟩ := exists_splitAtChar_splitDirectory s
  have hsplit := hfront _ hpiece
  rw [← hs] at hsplit
  rw [hfront file h, hsplit, List.dropLast_concat]

/-- The pieces of a main source around the directory that its test has another name for. -/
structure Around (service : String) (front back : List (List Char)) (file : List Char) : Prop where
  nonempty : front ≠ []
  first : "main".toList ∉ front.tail
  noTest : "test".toList ∉ front.tail
  noTestBelow : "test".toList ∉ back
  source : splitAtChar '/' service.toList = front ++ "main".toList :: (back ++ [file])
  test : splitAtChar '/' (testPath service).toList =
    front ++ "test".toList :: (back ++ [testFileName file])

theorem exists_cons_of_mem_tail {α : Type} {a : α} {xs : List α} (h : a ∈ xs.tail) :
    ∃ front back, front ≠ [] ∧ xs = front ++ a :: back := by
  cases xs with
  | nil => cases h
  | cons x xs =>
      obtain ⟨front, back, hxs⟩ := List.append_of_mem h
      exact ⟨x :: front, back, List.cons_ne_nil x front, congrArg (x :: ·) hxs⟩

/-- A directory that is cut at is the first of its name. -/
theorem notMem_tail_of_cutAt? {name s before rest : List Char} (h : '/' ∉ name)
    (hcut : cutAt? ('/' :: name ++ ['/']) s = some (before, rest)) :
    name ∉ (splitAtChar '/' before).tail := by
  intro hm
  obtain ⟨front, back, hf, hbefore⟩ := exists_cons_of_mem_tail hm
  have hinfix : '/' :: name ++ ['/'] <:+: before ++ ['/'] := by
    refine (infix_iff_splitAtChar h).2 ⟨front, back ++ [[]], hf, by simp, ?_⟩
    rw [splitAtChar_append, hbefore]
    simp [splitAtChar]
  obtain ⟨a, b, hab⟩ := hinfix
  have hs : s = a ++ ('/' :: name ++ ['/']) ++ (b ++ (name ++ '/' :: rest)) := by
    rw [← List.append_assoc, hab, eq_append_of_cutAt? hcut]
    simp
  have hle := length_le_of_cutAt? hcut hs
  have hlength := congrArg List.length hab
  simp only [List.length_append, List.length_cons, List.length_nil] at hlength
  omega

/-- A test has the pieces of its service but for two. -/
theorem splitAtChar_testPath {service : String} {before rest file : List Char}
    {back : List (List Char)} (hcut : cutAt? "/main/".toList service.toList = some (before, rest))
    (hrest : splitAtChar '/' rest = back ++ [file]) :
    splitAtChar '/' (testPath service).toList =
      splitAtChar '/' before ++ "test".toList :: (back ++ [testFileName file]) := by
  have hslash : '/' ∉ "test".toList := by decide
  have hfile : '/' ∉ file := notMem_of_mem_splitAtChar (s := rest) (by rw [hrest]; simp)
  have hmoved : replaceFirst "/main/".toList "/test/".toList service.toList =
      before ++ '/' :: ("test".toList ++ '/' :: rest) := by
    unfold replaceFirst
    rw [hcut]
    simp
  have hpieces : splitAtChar '/' (before ++ '/' :: ("test".toList ++ '/' :: rest)) =
      splitAtChar '/' before ++ "test".toList :: back ++ [file] := by
    rw [splitAtChar_append, splitAtChar_append, splitAtChar_eq_singleton hslash, hrest]
    simp
  have hlast : lastPiece (before ++ '/' :: ("test".toList ++ '/' :: rest)) = file := by
    have hl := getLast?_splitAtChar (before ++ '/' :: ("test".toList ++ '/' :: rest))
    rw [hpieces, List.getLast?_concat, Option.some.injEq] at hl
    exact hl.symm
  rw [testPath, String.toList_ofList]
  unfold testPathChars
  rw [hmoved]
  change splitAtChar '/' ((splitDirectory _).1 ++ testFileName (lastPiece _)) = _
  rw [hlast, splitAtChar_splitDirectory _ (notMem_testFileName hfile), hpieces,
    List.dropLast_concat, List.append_assoc]
  rfl

theorem MainSource.around {service : String} (h : MainSource service) :
    ∃ front back file, Around service front back file := by
  have hslash : '/' ∉ "main".toList ∧ '/' ∉ "test".toList := by decide
  obtain ⟨⟨before, rest⟩, hcut⟩ := Option.ne_none_iff_exists'.1 (cutAt?_ne_none h.main)
  have hs : service.toList = before ++ '/' :: ("main".toList ++ '/' :: rest) := by
    rw [eq_append_of_cutAt? hcut]
    simp
  obtain ⟨back, file, hrest⟩ : ∃ back file, splitAtChar '/' rest = back ++ [file] := by
    rcases List.eq_nil_or_concat (splitAtChar '/' rest) with hnil | ⟨back, file, hconcat⟩
    · exact absurd hnil (splitAtChar_ne_nil '/' rest)
    · exact ⟨back, file, by rw [hconcat, List.concat_eq_append]⟩
  have hpieces : splitAtChar '/' service.toList =
      splitAtChar '/' before ++ "main".toList :: (back ++ [file]) := by
    rw [hs, splitAtChar_append, splitAtChar_append, splitAtChar_eq_singleton hslash.1, hrest]
    rfl
  -- a piece `test` between others would be a directory that the source is not below
  have hbetween (front back : List (List Char)) (hf : front ≠ []) (hb : back ≠ []) :
      splitAtChar '/' service.toList ≠ front ++ "test".toList :: back :=
    fun he => h.noTest ((infix_iff_splitAtChar hslash.2).2 ⟨front, back, hf, hb, he⟩)
  refine ⟨splitAtChar '/' before, back, file, splitAtChar_ne_nil '/' before,
    notMem_tail_of_cutAt? hslash.1 hcut, ?_, ?_, hpieces, splitAtChar_testPath hcut hrest⟩
  · intro ht
    obtain ⟨f, b, hf, hfb⟩ := exists_cons_of_mem_tail ht
    rw [hfb, List.append_assoc] at hpieces
    exact hbetween _ _ hf (by simp) hpieces
  · intro ht
    obtain ⟨f, b, rfl⟩ := List.append_of_mem ht
    refine hbetween (splitAtChar '/' before ++ "main".toList :: f) (b ++ [file])
      (by simp) (by simp) ?_
    rw [hpieces]
    simp

/-! ## Tests apart -/

theorem Around.infix_test {service : String} {front back : List (List Char)} {file : List Char}
    (h : Around service front back file) : "/test/".toList <:+: (testPath service).toList := by
  have hslash : '/' ∉ "test".toList := by decide
  exact (infix_iff_splitAtChar hslash).2 ⟨front, back ++ [testFileName file], h.nonempty, by simp,
    h.test⟩

/-- No test of a main source is a main source. -/
theorem MainSource.testPath_ne {service other : String} (h : MainSource service)
    (ho : MainSource other) : testPath service ≠ other := by
  rintro rfl
  obtain ⟨front, back, file, ha⟩ := h.around
  exact ho.noTest ha.infix_test

/-- The directory `test` that a test lies below is the only one between its first piece and its
last. -/
theorem Around.eq_of_test {service other : String} {front back front' back' : List (List Char)}
    {file file' : List Char} (h : Around service front back file)
    (ho : Around other front' back' file')
    (he : front ++ "test".toList :: back = front' ++ "test".toList :: back') :
    front = front' ∧ back = back' := by
  have hf := h.nonempty
  have hf' := ho.nonempty
  have ht := h.noTest
  cases front with
  | nil => exact absurd rfl hf
  | cons first front =>
      cases front' with
      | nil => exact absurd rfl hf'
      | cons first' front' =>
          rw [List.cons_append, List.cons_append, List.cons.injEq] at he
          obtain ⟨rfl, he⟩ := he
          obtain ⟨rfl, -, rfl⟩ := (List.append_cons_inj_of_notMem ht h.noTestBelow).1 he
          exact ⟨rfl, rfl⟩

/-- Main sources with one test are one source. -/
theorem MainSource.testPath_injective {service other : String} (h : MainSource service)
    (ho : MainSource other) (he : testPath service = testPath other) : service = other := by
  obtain ⟨front, back, file, ha⟩ := h.around
  obtain ⟨front', back', file', hb⟩ := ho.around
  have hpieces := hb.test
  rw [← he, ha.test, ← List.cons_append, ← List.append_assoc, ← List.cons_append,
    ← List.append_assoc] at hpieces
  obtain ⟨hfront, hfile⟩ := List.append_inj' hpieces rfl
  obtain ⟨rfl, rfl⟩ := ha.eq_of_test hb hfront
  rw [List.cons.injEq] at hfile
  obtain rfl := testFileName_injective hfile.1
  exact String.toList_inj.1 (splitAtChar_injective '/' (ha.source.trans hb.source.symm))

/-- All pieces of a test are names. -/
theorem MainSource.names_testPath {service : String} (h : MainSource service) :
    ∀ piece ∈ splitAtChar '/' (testPath service).toList, Path.IsName piece := by
  obtain ⟨front, back, file, ha⟩ := h.around
  have hnames := h.names
  rw [ha.source] at hnames
  rw [ha.test]
  intro piece hp
  simp only [List.mem_append, List.mem_cons, List.not_mem_nil, or_false] at hp hnames
  rcases hp with hp | rfl | hp | rfl
  · exact hnames piece (Or.inl hp)
  · exact ⟨by decide, by decide, by decide⟩
  · exact hnames piece (Or.inr (Or.inr (Or.inl hp)))
  · exact isName_testFileName file

end TestForge.Layout
