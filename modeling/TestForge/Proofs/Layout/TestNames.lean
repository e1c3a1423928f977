import TestForge.Proofs.FileSystem.Names

/-!
# The name and the directory of a test

The test of a service is called after the service's file, stem and extension apart, and lies in the
service's directory with the first `main` on the way made `test`. Its path is longer by `Test`, and
never names the entry that the service's path names.
-/

namespace TestForge

open Text

namespace Text

/-- A text and the same with the first occurrence of another text replaced, if there is one. -/
inductive ReplacedFirst (old new : List Char) : List Char → List Char → Prop
  | nowhere {s} (h : ¬old <:+: s) : ReplacedFirst old new s s
  | first {before rest} (h : ∀ a b, before ++ old ++ rest = a ++ old ++ b →
      before.length ≤ a.length) :
      ReplacedFirst old new (before ++ old ++ rest) (before ++ new ++ rest)

theorem replacedFirst_replaceFirst (old new s : List Char) :
    ReplacedFirst old new s (replaceFirst old new s) := by
  unfold replaceFirst
  cases h : cutAt? old s with
  | none => exact .nowhere fun hi => cutAt?_ne_none hi h
  | some cut =>
      obtain ⟨before, rest⟩ := cut
      obtain rfl := eq_append_of_cutAt? h
      exact .first fun a b hab => length_le_of_cutAt? h hab

theorem ReplacedFirst.length_eq {old new s t : List Char} (h : ReplacedFirst old new s t)
    (hl : new.length = old.length) : t.length = s.length := by
  cases h with
  | nowhere _ => rfl
  | first _ => simp [hl]

end Text

namespace Layout

/-! ## Directories -/

/-- A path up to its last slash. -/
def directoryPart (s : List Char) : List Char :=
  (splitDirectory s).1

theorem directoryPart_append (s : List Char) : directoryPart s ++ lastPiece s = s :=
  (splitDirectory_spec s).1.symm

theorem directoryPart_append_slash (front s : List Char) :
    directoryPart (front ++ '/' :: s) = front ++ '/' :: directoryPart s := by
  have hwhole := directoryPart_append (front ++ '/' :: s)
  rw [lastPiece_append_slash] at hwhole
  have hsplit : directoryPart (front ++ '/' :: s) ++ lastPiece s =
      front ++ '/' :: directoryPart s ++ lastPiece s := by
    rw [hwhole, List.append_assoc, List.cons_append, directoryPart_append]
  exact List.append_cancel_right hsplit

theorem directoryPart_name {file : List Char} (h : '/' ∉ file) : directoryPart file = [] := by
  rw [directoryPart, splitDirectory, cutAfterLast?_eq_none h]
  rfl

/-- Another file in the same directory. -/
theorem directoryPart_sibling (s : List Char) {file : List Char} (h : '/' ∉ file) :
    directoryPart (directoryPart s ++ file) = directoryPart s := by
  obtain ⟨-, -, hempty | ⟨front, hfront⟩⟩ := splitDirectory_spec s
  · rw [directoryPart, directoryPart, hempty, List.nil_append]
    exact directoryPart_name h
  · change directoryPart s = front ++ ['/'] at hfront
    rw [hfront, List.append_assoc, List.singleton_append, directoryPart_append_slash,
      directoryPart_name h]

/-- Names of files hold no slash, so whatever is replaced lies in the directories. -/
theorem replacedFirst_directoryPart {old new s t : List Char} (ho : old.getLast? = some '/')
    (hn : new.getLast? = some '/') (h : ReplacedFirst old new s t) :
    ReplacedFirst old new (directoryPart s) (directoryPart t) := by
  cases h with
  | nowhere hnot =>
      refine .nowhere fun hi => hnot (hi.trans ?_)
      exact ⟨[], lastPiece s, by rw [List.nil_append, directoryPart_append]⟩
  | @first before rest hfirst =>
      have hdir {text : List Char} (ht : text.getLast? = some '/') :
          directoryPart (before ++ text ++ rest) = before ++ text ++ directoryPart rest := by
        obtain ⟨front, rfl⟩ := List.getLast?_eq_some_iff.1 ht
        simpa using directoryPart_append_slash (before ++ front) rest
      rw [hdir ho, hdir hn]
      refine .first fun a b hab => hfirst a (b ++ lastPiece rest) ?_
      rw [← List.append_assoc, ← hab, List.append_assoc (before ++ old), directoryPart_append]

theorem directoryPart_testPathChars (s : List Char) :
    ReplacedFirst "/main/".toList "/test/".toList (directoryPart s)
      (directoryPart (testPathChars s)) := by
  have hmoved := replacedFirst_replaceFirst "/main/".toList "/test/".toList s
  have hdir : directoryPart (testPathChars s) =
      directoryPart (replaceFirst "/main/".toList "/test/".toList s) := by
    unfold testPathChars
    generalize replaceFirst "/main/".toList "/test/".toList s = moved
    exact directoryPart_sibling moved (notMem_testFileName (splitDirectory_spec moved).2.1)
  rw [hdir]
  exact replacedFirst_directoryPart (by decide) (by decide) hmoved

/-! ## Names -/

/-- A test has the extension of its service. -/
theorem extension?_testPathChars {s : List Char} (h : Path.IsName (lastPiece s)) :
    Path.extension? (testPathChars s) = Path.extension? s := by
  have htest : Path.IsName (lastPiece (testPathChars s)) := by
    rw [lastPiece_testPathChars]
    exact isName_testFileName _
  rw [extension?_eq htest, lastPiece_testPathChars, splitName_testFileName, extension?_eq h]

theorem length_testFileName (file : List Char) :
    (testFileName file).length = file.length + 4 := by
  unfold testFileName
  split
  · rename_i before extension hcut
    obtain ⟨-, front, rfl⟩ := cutAfterLast?_spec hcut
    split
    · simp
    · rw [eq_append_of_cutAfterLast? hcut, List.dropLast_concat]
      simp
      omega
  · simp

theorem length_testPath (service : String) : (testPath service).length = service.length + 4 := by
  have hmoved := (replacedFirst_replaceFirst "/main/".toList "/test/".toList
    service.toList).length_eq (by decide)
  have hchars : (testPathChars service.toList).length = service.toList.length + 4 := by
    rw [← hmoved]
    unfold testPathChars
    generalize replaceFirst "/main/".toList "/test/".toList service.toList = moved
    have hwhole := congrArg List.length (directoryPart_append moved)
    rw [List.length_append] at hwhole
    change (directoryPart moved ++ testFileName (lastPiece moved)).length = _
    rw [List.length_append, length_testFileName]
    omega
  rw [← String.length_toList, ← String.length_toList, testPath, String.toList_ofList, hchars]

end Layout

/-! ## Entries of directories -/

namespace FileSystem

/-- Where links at the end are not followed, a path that ends in a name leads to an entry of that
name. -/
theorem getLast?_of_walk {fs : FileSystem} {links : Nat} {here place : Location}
    {pieces : List String} {name : String} (hl : pieces.getLast? = some name)
    (hn : ¬NamesNothing name) (h : fs.walk false links here pieces = .ok place) :
    place.getLast? = some name := by
  have hrest {piece : String} {rest : List String} (hl : (piece :: rest).getLast? = some name)
      (hp : NamesNothing piece) : rest.getLast? = some name := by
    cases rest with
    | nil =>
        cases hl
        exact absurd hp hn
    | cons next rest => rwa [List.getLast?_cons_of_ne_nil (List.cons_ne_nil _ _)] at hl
  fun_induction fs.walk false links here pieces with
  | case1 => cases hl
  | case2 => cases h
  | case3 links here piece rest _ hp ih => exact ih (hrest hl (hp.imp_right Or.inl)) h
  | case4 links here rest _ _ ih => exact ih (hrest hl (Or.inr (Or.inr rfl))) h
  | case5 => cases h
  | case6 links here piece rest _ _ _ _ target _ hlast =>
      obtain rfl : rest = [] := by simpa using hlast
      cases hl
      cases h
      exact List.getLast?_concat
  | case7 => cases h
  | case8 here piece rest _ _ _ _ target _ hlast links ih =>
      have hne : rest ≠ [] := by simpa using hlast
      refine ih ?_ h
      rw [List.getLast?_cons_of_ne_nil hne] at hl
      rw [List.getLast?_append, hl]
      rfl
  | case9 links here piece rest _ _ _ _ _ ih =>
      cases rest with
      | nil =>
          rw [walk] at h
          cases hl
          cases h
          exact List.getLast?_concat
      | cons next rest =>
          exact ih (by rwa [List.getLast?_cons_of_ne_nil (List.cons_ne_nil _ _)] at hl) h

theorem getLast?_of_resolve {fs : FileSystem} {path : String} {place : Location}
    (hn : Path.IsName (Layout.lastPiece path.toList)) (h : fs.resolve path false = .ok place) :
    place.getLast? = some (String.ofList (Layout.lastPiece path.toList)) := by
  unfold resolve at h
  split at h
  · cases h
  · refine getLast?_of_walk (getLast?_pieces path) ?_ h
    rintro (he | he | he)
    · exact hn.nonempty (by simpa using congrArg String.toList he)
    · exact hn.ne_here (by simpa using congrArg String.toList he)
    · exact hn.ne_up (by simpa using congrArg String.toList he)

end FileSystem

namespace Layout

/-- The test of a service is named after the service's file and is never that file. -/
theorem testPath_named {service : String} (h : Path.IsName (lastPiece service.toList)) :
    testClass (testPath service) = testClass service ++ "Test" ∧
    Path.extension? (testPath service).toList = Path.extension? service.toList ∧
    ReplacedFirst "/main/".toList "/test/".toList (directoryPart service.toList)
      (directoryPart (testPath service).toList) ∧
    (testPath service).length = service.length + 4 ∧ testPath service ≠ service ∧
    ∀ (fs : FileSystem) (root : String) (place : Location),
      fs.resolve (Path.join root service) false = .ok place →
        fs.resolve (Path.join root (testPath service)) false ≠ .ok place := by
  have hchars : (testPath service).toList = testPathChars service.toList := by
    rw [testPath, String.toList_ofList]
  have hlength := length_testPath service
  refine ⟨testClass_testPath h, ?_, ?_, hlength, fun he => ?_, fun fs root place hs ht => ?_⟩
  · rw [hchars]
    exact extension?_testPathChars h
  · rw [hchars]
    exact directoryPart_testPathChars service.toList
  · rw [he] at hlength
    omega
  · -- both paths end in names of their own, which the entries have
    have hservice := FileSystem.getLast?_of_resolve (by rwa [FileSystem.lastPiece_join]) hs
    have htest := FileSystem.getLast?_of_resolve (by
      rw [FileSystem.lastPiece_join, hchars, lastPiece_testPathChars]
      exact isName_testFileName _) ht
    rw [FileSystem.lastPiece_join] at hservice htest
    rw [hservice, hchars, lastPiece_testPathChars, Option.some.injEq] at htest
    exact testFileName_ne _ (String.ofList_injective htest).symm

/-- Dots alone can name a file, and only the first `main` is replaced. -/
theorem testPath_named_dots :
    Path.IsName (lastPiece "a/main/b/main/...".toList) ∧
    testPath "a/main/b/main/..." = "a/test/b/main/..Test." ∧
    testClass "a/test/b/main/..Test." = testClass "a/main/b/main/..." ++ "Test" ∧
    Path.extension? "a/test/b/main/..Test.".toList = Path.extension? "a/main/b/main/...".toList ∧
    ReplacedFirst "/main/".toList "/test/".toList (directoryPart "a/main/b/main/...".toList)
      (directoryPart "a/test/b/main/..Test.".toList) ∧
    "a/test/b/main/..Test.".length = "a/main/b/main/...".length + 4 := by
  have hname : Path.IsName (lastPiece "a/main/b/main/...".toList) := by decide
  have hpath : testPath "a/main/b/main/..." = "a/test/b/main/..Test." := by decide
  obtain ⟨hclass, hextension, hdirectory, hlength, -⟩ := testPath_named hname
  rw [hpath] at hclass hextension hdirectory hlength
  exact ⟨hname, hpath, hclass, hextension, hdirectory, hlength⟩

end Layout

end TestForge
