import TestForge.Layout
import TestForge.Proofs.Text.Pieces
import TestForge.Proofs.Text.Words

/-!
# The test of a named file

The last piece of a path names its file. The path of a test has the pieces of the service's path,
but for `Test` at the end of the stem of the last one.
-/

namespace TestForge

open Text

namespace Text

theorem notMem_of_cutAfterLast?_eq_none {stop : Char} {s : List Char}
    (h : cutAfterLast? stop s = none) : stop ∉ s := by
  induction s with
  | nil => exact List.not_mem_nil
  | cons c s ih =>
      simp only [cutAfterLast?] at h
      split at h
      · cases h
      · rename_i hs
        split at h
        · cases h
        · rename_i hc
          exact List.not_mem_cons_of_ne_of_not_mem (Ne.symm hc) (ih hs)

/-- What stands behind the last occurrence, and that the occurrence ends what stands before. -/
theorem cutAfterLast?_spec {stop : Char} {s before rest : List Char}
    (h : cutAfterLast? stop s = some (before, rest)) :
    stop ∉ rest ∧ ∃ front, before = front ++ [stop] := by
  induction s generalizing before with
  | nil => cases h
  | cons c s ih =>
      simp only [cutAfterLast?] at h
      split at h
      · rename_i b r hs
        cases h
        obtain ⟨hr, front, rfl⟩ := ih hs
        exact ⟨hr, c :: front, rfl⟩
      · rename_i hs
        split at h
        · rename_i hc
          cases h
          exact ⟨notMem_of_cutAfterLast?_eq_none hs, [], by rw [hc]; rfl⟩
        · cases h

end Text

/-! ## Names of files -/

/-- A piece of a path that names an entry of a directory. -/
structure Path.IsName (piece : List Char) : Prop where
  nonempty : piece ≠ []
  ne_here : piece ≠ ['.']
  ne_up : piece ≠ ['.', '.']

instance (piece : List Char) : Decidable (Path.IsName piece) :=
  decidable_of_iff (piece ≠ [] ∧ piece ≠ ['.'] ∧ piece ≠ ['.', '.'])
    ⟨fun ⟨h, h', h''⟩ => ⟨h, h', h''⟩, fun h => ⟨h.nonempty, h.ne_here, h.ne_up⟩⟩

namespace Layout

/-- The last piece of a path. -/
def lastPiece (s : List Char) : List Char :=
  (splitDirectory s).2

/-- A path is a directory part, which is empty or ends in a slash, and its last piece. -/
theorem splitDirectory_spec (s : List Char) :
    s = (splitDirectory s).1 ++ lastPiece s ∧ '/' ∉ lastPiece s ∧
      ((splitDirectory s).1 = [] ∨ ∃ front, (splitDirectory s).1 = front ++ ['/']) := by
  unfold lastPiece splitDirectory
  cases h : cutAfterLast? '/' s with
  | none => exact ⟨rfl, notMem_of_cutAfterLast?_eq_none h, Or.inl rfl⟩
  | some cut =>
      obtain ⟨before, rest⟩ := cut
      obtain ⟨hrest, hbefore⟩ := cutAfterLast?_spec h
      exact ⟨eq_append_of_cutAfterLast? h, hrest, Or.inr hbefore⟩

theorem lastPiece_append_slash (front s : List Char) :
    lastPiece (front ++ '/' :: s) = lastPiece s := by
  have hcut : cutAfterLast? '/' (front ++ '/' :: s) =
      some (front ++ '/' :: (splitDirectory s).1, lastPiece s) := by
    obtain ⟨hs, hpiece, hdir⟩ := splitDirectory_spec s
    generalize lastPiece s = piece at hs hpiece ⊢
    generalize (splitDirectory s).1 = directory at hs hdir ⊢
    subst hs
    cases hdir with
    | inl hempty =>
        subst hempty
        exact cutAfterLast?_append front hpiece
    | inr hslash =>
        obtain ⟨inner, rfl⟩ := hslash
        have hc := cutAfterLast?_append (front ++ '/' :: inner) hpiece
        simpa using hc
  rw [lastPiece, splitDirectory, hcut]
  rfl

/-- The files of one directory have the same pieces in front of their names. -/
theorem exists_splitAtChar_splitDirectory (s : List Char) :
    ∃ front, ∀ file, '/' ∉ file →
      splitAtChar '/' ((splitDirectory s).1 ++ file) = front ++ [file] := by
  obtain ⟨-, -, hempty | ⟨front, hfront⟩⟩ := splitDirectory_spec s
  · refine ⟨[], fun file h => ?_⟩
    rw [hempty, List.nil_append, List.nil_append, splitAtChar_eq_singleton h]
  · refine ⟨splitAtChar '/' front, fun file h => ?_⟩
    rw [hfront, List.append_assoc, List.singleton_append, splitAtChar_append,
      splitAtChar_eq_singleton h]

/-- The last piece is what stands behind all slashes. -/
theorem getLast?_splitAtChar (s : List Char) :
    (splitAtChar '/' s).getLast? = some (lastPiece s) := by
  obtain ⟨hs, hpiece, -⟩ := splitDirectory_spec s
  obtain ⟨front, hfront⟩ := exists_splitAtChar_splitDirectory s
  have hsplit := hfront _ hpiece
  rw [← hs] at hsplit
  rw [hsplit, List.getLast?_concat]

theorem getLast?_components {s : List Char} (h : Path.IsName (lastPiece s)) :
    (Path.components s).getLast? = some (lastPiece s) := by
  have hcounts : Path.countsAsComponent (lastPiece s) = true := by
    simp [Path.countsAsComponent, h.nonempty, h.ne_here]
  have hlast := getLast?_splitAtChar s
  unfold Path.components
  cases hs : splitAtChar '/' s with
  | nil => exact absurd hs (splitAtChar_ne_nil '/' s)
  | cons first rest =>
      rw [hs] at hlast
      rcases List.eq_nil_or_concat rest with rfl | ⟨init, last, rfl⟩
      · have hfirst : first = lastPiece s := Option.some.inj hlast
        simp [hfirst, h.nonempty]
      · rw [List.concat_eq_append, ← List.cons_append, List.getLast?_concat] at hlast
        have he : last = lastPiece s := Option.some.inj hlast
        simp [List.concat_eq_append, he, hcounts]

theorem fileName?_eq {s : List Char} (h : Path.IsName (lastPiece s)) :
    Path.fileName? s = some (lastPiece s) := by
  unfold Path.fileName?
  rw [getLast?_components h]
  exact if_neg (not_or.2 ⟨h.ne_here, h.ne_up⟩)

/-- The stem of a path is that of its last piece, if that is a name. -/
theorem stem_eq {s : List Char} (h : Path.IsName (lastPiece s)) :
    Path.stem s = (Path.splitName (lastPiece s)).1 := by
  unfold Path.stem
  rw [fileName?_eq h]

theorem extension?_eq {s : List Char} (h : Path.IsName (lastPiece s)) :
    Path.extension? s = (Path.splitName (lastPiece s)).2 := by
  unfold Path.extension?
  rw [fileName?_eq h]
  rfl

/-! ## Names of tests -/

/-- Test is written behind the stem of a file name, and the extension stays. -/
theorem splitName_testFileName (file : List Char) :
    Path.splitName (testFileName file) =
      ((Path.splitName file).1 ++ "Test".toList, (Path.splitName file).2) := by
  have htest : '.' ∉ "Test".toList := by decide
  unfold testFileName
  cases h : cutAfterLast? '.' file with
  | none =>
      have hdot := notMem_of_cutAfterLast?_eq_none h
      have happend : cutAfterLast? '.' (file ++ "Test".toList) = none :=
        cutAfterLast?_eq_none (List.not_mem_append hdot htest)
      simp only [Path.splitName, h, happend]
  | some cut =>
      obtain ⟨before, extension⟩ := cut
      obtain ⟨hext, front, rfl⟩ := cutAfterLast?_spec h
      have hfile := eq_append_of_cutAfterLast? h
      cases front with
      | nil =>
          -- a dot in front of a name belongs to its stem
          have happend : cutAfterLast? '.' (file ++ "Test".toList) =
              some (['.'], extension ++ "Test".toList) := by
            have hrest := List.not_mem_append hext htest
            rw [hfile]
            simpa using cutAfterLast?_append [] hrest
          have hshort : ([] ++ ['.'] : List Char).length ≤ 1 := Nat.le_refl 1
          have hshort' : (['.'] : List Char).length ≤ 1 := Nat.le_refl 1
          simp only [Path.splitName, h, happend, hshort, hshort', ↓reduceIte]
      | cons c front =>
          have happend := cutAfterLast?_append (c :: front ++ "Test".toList) hext
          have hlong : ¬(c :: front ++ ['.']).length ≤ 1 := by simp
          simp only [hlong, ↓reduceIte, List.dropLast_concat]
          have hlong' : ¬(c :: front ++ "Test".toList ++ ['.']).length ≤ 1 := by simp
          simp only [Path.splitName, h, happend, hlong, hlong', ↓reduceIte, List.dropLast_concat]

/-- A name is its stem and its extension. -/
theorem splitName_injective : Function.Injective Path.splitName := by
  have hname : ∀ file, file = match Path.splitName file with
      | (stem, some extension) => stem ++ '.' :: extension
      | (stem, none) => stem := by
    intro file
    unfold Path.splitName
    cases h : cutAfterLast? '.' file with
    | none => rfl
    | some cut =>
        obtain ⟨before, extension⟩ := cut
        obtain ⟨-, front, rfl⟩ := cutAfterLast?_spec h
        simp only
        by_cases hshort : (front ++ ['.']).length ≤ 1
        · rw [if_pos hshort]
        · rw [if_neg hshort, List.dropLast_concat, eq_append_of_cutAfterLast? h]
          simp
  intro a b h
  rw [hname a, hname b, h]

theorem testFileName_injective : Function.Injective testFileName := by
  intro a b h
  have hsplit := congrArg Path.splitName h
  rw [splitName_testFileName, splitName_testFileName, Prod.mk.injEq] at hsplit
  exact splitName_injective (Prod.ext (List.append_cancel_right hsplit.1) hsplit.2)

theorem testFileName_ne (file : List Char) : testFileName file ≠ file := by
  intro h
  have hsplit := splitName_testFileName file
  rw [h] at hsplit
  have hlength := congrArg (fun name => name.1.length) hsplit
  simp at hlength

theorem mem_testFileName (file : List Char) : 'T' ∈ testFileName file := by
  unfold testFileName
  split
  · split <;> simp
  · simp

theorem notMem_testFileName {file : List Char} (h : '/' ∉ file) : '/' ∉ testFileName file := by
  have htest : '/' ∉ "Test".toList := by decide
  unfold testFileName
  split
  · rename_i before extension hcut
    rw [eq_append_of_cutAfterLast? hcut, List.mem_append, not_or] at h
    split
    · rw [eq_append_of_cutAfterLast? hcut]
      exact List.not_mem_append (List.not_mem_append h.1 h.2) htest
    · refine List.not_mem_append (List.not_mem_append ?_ htest) ?_
      · exact fun hm => h.1 (List.dropLast_subset _ hm)
      · exact List.not_mem_cons_of_ne_of_not_mem (by decide) h.2
  · exact List.not_mem_append h htest

theorem isName_testFileName (file : List Char) : Path.IsName (testFileName file) := by
  have hm := mem_testFileName file
  refine ⟨?_, ?_, ?_⟩
  · intro he
    rw [he] at hm
    cases hm
  · intro he
    rw [he] at hm
    exact absurd hm (by decide)
  · intro he
    rw [he] at hm
    exact absurd hm (by decide)

/-- Tests of main sources are elsewhere, but have the same last pieces. -/
theorem lastPiece_replaceFirst (s : List Char) :
    lastPiece (replaceFirst "/main/".toList "/test/".toList s) = lastPiece s := by
  unfold replaceFirst
  split
  · rename_i before rest hcut
    have hs : s = before ++ "/main".toList ++ '/' :: rest := by
      rw [eq_append_of_cutAt? hcut]
      simp
    have hnew : before ++ "/test/".toList ++ rest = before ++ "/test".toList ++ '/' :: rest := by
      simp
    rw [hnew, lastPiece_append_slash, hs, lastPiece_append_slash]
  · rfl

theorem lastPiece_testPathChars (s : List Char) :
    lastPiece (testPathChars s) = testFileName (lastPiece s) := by
  have hlast := lastPiece_replaceFirst s
  unfold testPathChars
  generalize replaceFirst "/main/".toList "/test/".toList s = moved at hlast ⊢
  obtain ⟨-, hpiece, hdir⟩ := splitDirectory_spec moved
  have hname := notMem_testFileName hpiece
  simp only
  change lastPiece ((splitDirectory moved).1 ++ testFileName (lastPiece moved)) = _
  rw [hlast] at hname ⊢
  cases hdir with
  | inl hempty =>
      rw [hempty, List.nil_append, lastPiece, splitDirectory, cutAfterLast?_eq_none hname]
      rfl
  | inr hslash =>
      obtain ⟨front, hfront⟩ := hslash
      rw [hfront, List.append_assoc, List.singleton_append, lastPiece_append_slash, lastPiece,
        splitDirectory, cutAfterLast?_eq_none hname]
      rfl

/-- The class that is named after the test of a service is named after the service. -/
theorem testClass_testPath {service : String} (h : Path.IsName (lastPiece service.toList)) :
    testClass (testPath service) = testClass service ++ "Test" := by
  have hname : Path.IsName (lastPiece (testPathChars service.toList)) := by
    rw [lastPiece_testPathChars]
    exact isName_testFileName _
  rw [testClass, testPath, String.toList_ofList, stem_eq hname, lastPiece_testPathChars,
    splitName_testFileName, ← stem_eq h]
  simp [testClass]

end Layout

end TestForge
