import TestForge.Proofs.Layout.Sources
import TestForge.Proofs.Service.Overview
import TestForge.Proofs.Text.Occurrences

/-!
# Sources of modules

A source of a module stands below the module's path, a source set and the directories of its
package. Its test, its module and its package are each found by a search of their own, which is led
astray by other names in the module's path: the source set by a segment `main` behind the first, the
module by characters that belong to no word, the package by a segment that ends in `kotlin`.
-/

namespace TestForge

open Text

namespace Layout

/-- A source of a module: the segments of the module's path, the directories of its package and the
stem of its file. -/
structure ModuleSource where
  first : List Char
  more : List (List Char)
  segment : ∀ s ∈ first :: more, Path.IsName s ∧ '/' ∉ s
  directories : List (List Char)
  ne : directories ≠ []
  directory : ∀ d ∈ directories, d ≠ [] ∧ '/' ∉ d
  stem : List Char
  named : stem ≠ []
  noSlash : '/' ∉ stem

namespace ModuleSource

def extension : List Char := ".kt".toList

def kotlin : List Char := "kotlin".toList

/-- The path of the module with a source set. -/
def rootPieces (p : ModuleSource) (sourceSet : List Char) : List (List Char) :=
  p.first :: p.more ++ ["src".toList, sourceSet]

/-- The pieces of the path of a file in the package. -/
def piecesOf (p : ModuleSource) (sourceSet file : List Char) : List (List Char) :=
  p.rootPieces sourceSet ++ kotlin :: (p.directories ++ [file])

def path (p : ModuleSource) : String :=
  String.ofList (joinWith ['/'] (p.piecesOf "main".toList (p.stem ++ extension)))

/-- The path that the test of the source has in the layout. -/
def test (p : ModuleSource) : String :=
  String.ofList (joinWith ['/'] (p.piecesOf "test".toList (p.stem ++ "Test".toList ++ extension)))

def package (p : ModuleSource) : String :=
  String.ofList (joinWith ['.'] p.directories)

/-- What stands behind the source root. -/
def below (p : ModuleSource) : List Char :=
  joinWith ['/'] p.directories ++ '/' :: (p.stem ++ extension)

variable (p : ModuleSource)

theorem splitAtChar_pieces {sourceSet file : List Char} (hs : '/' ∉ sourceSet) (hf : '/' ∉ file) :
    splitAtChar '/' (joinWith ['/'] (p.piecesOf sourceSet file)) = p.piecesOf sourceSet file := by
  refine splitAtChar_joinWith (by simp [piecesOf]) fun piece hm => ?_
  have hsrc : '/' ∉ "src".toList ∧ '/' ∉ kotlin := by decide
  simp only [piecesOf, rootPieces, List.mem_append, List.mem_cons, List.not_mem_nil, or_false] at hm
  rcases hm with (hm | rfl | rfl) | rfl | hm | rfl
  · exact (p.segment piece (List.mem_cons.2 hm)).2
  · exact hsrc.1
  · exact hs
  · exact hsrc.2
  · exact (p.directory piece hm).2
  · exact hf

theorem noSlash_file : '/' ∉ p.stem ++ extension :=
  List.not_mem_append p.noSlash (by decide)

theorem splitAtChar_path :
    splitAtChar '/' p.path.toList = p.piecesOf "main".toList (p.stem ++ extension) := by
  rw [path, String.toList_ofList, p.splitAtChar_pieces (by decide) p.noSlash_file]

theorem splitAtChar_test : splitAtChar '/' p.test.toList =
    p.piecesOf "test".toList (p.stem ++ "Test".toList ++ extension) := by
  have hfile : '/' ∉ p.stem ++ "Test".toList ++ extension :=
    List.not_mem_append (List.not_mem_append p.noSlash (by decide)) (by decide)
  rw [test, String.toList_ofList, p.splitAtChar_pieces (by decide) hfile]

/-! ## Its test -/

theorem testFileName_file :
    testFileName (p.stem ++ extension) = p.stem ++ "Test".toList ++ extension := by
  have hcut : cutAfterLast? '.' (p.stem ++ extension) = some (p.stem ++ ['.'], ['k', 't']) :=
    cutAfterLast?_append p.stem (by decide)
  have hlong : ¬(p.stem ++ ['.']).length ≤ 1 := by
    have hpos := List.length_pos_iff.2 p.named
    simp only [List.length_append, List.length_singleton]
    omega
  simp only [testFileName, hcut, hlong, ↓reduceIte, List.dropLast_concat]
  rfl

theorem append_cons_inj_of_first {α : Type} {a : α} {xs ys back back' : List α} (h : a ∉ xs)
    (h' : a ∉ ys) (he : xs ++ a :: back = ys ++ a :: back') : xs = ys ∧ back = back' := by
  induction xs generalizing ys with
  | nil =>
      cases ys with
      | nil => exact ⟨rfl, (List.cons.inj he).2⟩
      | cons y ys => exact absurd (List.cons.inj he).1 (List.ne_of_not_mem_cons h')
  | cons x xs ih =>
      cases ys with
      | nil => exact absurd (List.cons.inj he).1.symm (List.ne_of_not_mem_cons h)
      | cons y ys =>
          obtain ⟨hx, hrest⟩ := List.cons.inj he
          obtain ⟨hxs, hback⟩ := ih (List.not_mem_of_not_mem_cons h)
            (List.not_mem_of_not_mem_cons h') hrest
          exact ⟨by rw [hx, hxs], hback⟩

/-- Where a name stands first behind the first piece. -/
theorem append_cons_inj_of_first_tail {a : List Char} {front front' back back' : List (List Char)}
    (hf : front ≠ []) (hf' : front' ≠ []) (h : a ∉ front.tail) (h' : a ∉ front'.tail)
    (he : front ++ a :: back = front' ++ a :: back') : front = front' ∧ back = back' := by
  obtain ⟨x, xs, rfl⟩ := List.exists_cons_of_ne_nil hf
  obtain ⟨y, ys, rfl⟩ := List.exists_cons_of_ne_nil hf'
  rw [List.cons_append, List.cons_append, List.cons.injEq] at he
  obtain ⟨rfl, he⟩ := he
  obtain ⟨hfront, hback⟩ := append_cons_inj_of_first h h' he
  exact ⟨congrArg (x :: ·) hfront, hback⟩

/-- The test of a source has another name for the first directory `main` behind the first piece. -/
theorem splitAtChar_testPath_of_first {front back : List (List Char)} (hf : front ≠ [])
    (hmain : "main".toList ∉ front.tail)
    (h : p.piecesOf "main".toList (p.stem ++ extension) =
      front ++ "main".toList :: (back ++ [p.stem ++ extension])) :
    splitAtChar '/' (testPath p.path).toList =
      front ++ "test".toList :: (back ++ [p.stem ++ "Test".toList ++ extension]) := by
  have hslash : '/' ∉ "main".toList := by decide
  have hpieces := p.splitAtChar_path.trans h
  have hinfix : "/main/".toList <:+: p.path.toList :=
    (infix_iff_splitAtChar hslash).2 ⟨front, back ++ [p.stem ++ extension], hf, by simp, hpieces⟩
  obtain ⟨⟨before, rest⟩, hcut⟩ := Option.ne_none_iff_exists'.1 (cutAt?_ne_none hinfix)
  have hs : p.path.toList = before ++ '/' :: ("main".toList ++ '/' :: rest) := by
    rw [eq_append_of_cutAt? hcut]
    simp
  rw [hs, splitAtChar_append, splitAtChar_append, splitAtChar_eq_singleton hslash] at hpieces
  obtain ⟨hbefore, hrest⟩ := append_cons_inj_of_first_tail (splitAtChar_ne_nil '/' before) hf
    (notMem_tail_of_cutAt? hslash hcut) hmain hpieces
  rw [splitAtChar_testPath hcut hrest, hbefore, p.testFileName_file]

/-- The test stands where the layout has it just if no segment behind the first is called `main`. -/
theorem testPath_eq_test_iff : testPath p.path = p.test ↔ "main".toList ∉ p.more := by
  constructor
  · intro he hm
    obtain ⟨front, back, hmore, hfront⟩ := List.eq_append_cons_of_mem hm
    have hpieces : p.piecesOf "main".toList (p.stem ++ extension) = (p.first :: front) ++
        "main".toList :: ((back ++ "src".toList :: "main".toList :: kotlin :: p.directories) ++
          [p.stem ++ extension]) := by
      simp [piecesOf, rootPieces, hmore]
    have htest := p.splitAtChar_testPath_of_first (List.cons_ne_nil _ _) hfront hpieces
    rw [he, p.splitAtChar_test] at htest
    simp only [piecesOf, rootPieces, hmore, List.cons_append, List.append_assoc, List.cons.injEq,
      List.append_cancel_left_eq] at htest
    exact absurd htest.2.1 (by decide)
  · intro hm
    have hfront : "main".toList ∉ (p.first :: p.more ++ ["src".toList]).tail := by
      have hsrc : "main".toList ∉ ["src".toList] := by decide
      exact List.not_mem_append hm hsrc
    have hpieces : p.piecesOf "main".toList (p.stem ++ extension) =
        (p.first :: p.more ++ ["src".toList]) ++ "main".toList ::
          ((kotlin :: p.directories) ++ [p.stem ++ extension]) := by
      simp [piecesOf, rootPieces]
    have htest := p.splitAtChar_testPath_of_first (by simp) hfront hpieces
    refine String.toList_inj.1 (splitAtChar_injective '/' ?_)
    rw [htest, p.splitAtChar_test]
    simp [piecesOf, rootPieces]

/-! ## Its module -/

/-- The first segment is the module if it is made of the characters of module names. -/
theorem moduleOf_path (default : String) :
    moduleOf default p.path =
      if p.first.all isModuleChar then String.ofList p.first else default := by
  obtain ⟨hname, hslash⟩ := p.segment p.first List.mem_cons_self
  obtain ⟨rest, hpath⟩ : ∃ rest, p.path.toList = p.first ++ '/' :: rest := by
    refine ⟨joinWith ['/'] (p.more ++ ["src".toList, "main".toList] ++
      kotlin :: (p.directories ++ [p.stem ++ extension])), ?_⟩
    have hjoin := joinWith_append ['/'] (List.cons_ne_nil p.first [])
      (show p.more ++ ["src".toList, "main".toList] ++
        kotlin :: (p.directories ++ [p.stem ++ extension]) ≠ [] by simp)
    simp [path, piecesOf, rootPieces, joinWith] at hjoin ⊢
  have hstop : isModuleChar '/' = false := by decide
  simp only [moduleOf, hpath]
  by_cases hall : p.first.all isModuleChar = true
  · obtain ⟨ht, hd⟩ := span_name (List.all_eq_true.1 hall)
      (show ∀ c, ('/' :: rest).head? = some c → isModuleChar c = false by
        rintro c hc
        cases hc
        exact hstop)
    have hne : p.first.isEmpty = false := by simpa using hname.nonempty
    simp [ht, hd, hall, hne]
  · obtain ⟨c, cs, hd⟩ : ∃ c cs, p.first.dropWhile isModuleChar = c :: cs := by
      refine List.exists_cons_of_ne_nil fun hnil => hall ?_
      exact List.all_eq_true.2 (List.dropWhile_eq_nil_iff.1 hnil)
    have hc : c ≠ '/' := by
      rintro rfl
      refine hslash ((List.dropWhile_suffix isModuleChar).subset ?_)
      rw [hd]
      exact List.mem_cons_self
    have hdrop : (p.first ++ '/' :: rest).dropWhile isModuleChar = c :: cs ++ '/' :: rest := by
      rw [List.dropWhile_append, hd]
      rfl
    simp [hdrop, hall, hc]

/-! ## Its package -/

theorem joinWith_concat {pieces : List (List Char)} (hne : pieces ≠ []) (last : List Char) :
    joinWith ['/'] (pieces ++ [last]) = joinWith ['/'] pieces ++ '/' :: last := by
  rw [joinWith_append ['/'] hne (List.cons_ne_nil last []), List.append_assoc]
  rfl

/-- The slashes between directories are the dots of the package. -/
theorem map_joinWith_slash {pieces : List (List Char)} (h : ∀ piece ∈ pieces, '/' ∉ piece) :
    (joinWith ['/'] pieces).map (fun c => if c = '/' then '.' else c) = joinWith ['.'] pieces := by
  have hpiece : ∀ piece : List Char, '/' ∉ piece →
      piece.map (fun c => if c = '/' then '.' else c) = piece := by
    intro piece hp
    refine (List.map_congr_left fun c hc => ?_).trans (List.map_id piece)
    refine if_neg ?_
    rintro rfl
    exact hp hc
  induction pieces with
  | nil => rfl
  | cons piece pieces ih =>
      have hhead := hpiece piece (h piece List.mem_cons_self)
      have htail := ih fun p hp => h p (List.mem_cons_of_mem _ hp)
      cases pieces with
      | nil => exact hhead
      | cons next pieces =>
          simp only [joinWith, List.map_append, hhead, htail]
          rfl

/-- A name that ends at a slash ends a piece that is not the last. -/
theorem exists_suffix_of_infix {name s : List Char} (h : '/' ∉ name)
    (hi : name ++ ['/'] <:+: s) : ∃ piece ∈ (splitAtChar '/' s).dropLast, name <:+ piece := by
  obtain ⟨a, b, rfl⟩ := hi
  have hs : a ++ (name ++ ['/']) ++ b = (a ++ name) ++ '/' :: b := by simp
  rw [hs, splitAtChar_append, List.dropLast_append_of_ne_nil (splitAtChar_ne_nil '/' b)]
  refine ⟨lastPiece (a ++ name),
    List.mem_append_left _ (List.mem_of_getLast? (getLast?_splitAtChar (a ++ name))), ?_⟩
  obtain ⟨hsplit, -, hdir⟩ := splitDirectory_spec (a ++ name)
  generalize lastPiece (a ++ name) = last at hsplit ⊢
  have hname : name <:+ (splitDirectory (a ++ name)).1 ++ last := by
    rw [← hsplit]
    exact List.suffix_append a name
  rcases hdir with hnil | ⟨front, hfront⟩
  · rwa [hnil, List.nil_append] at hname
  · have hlast : '/' :: last <:+ (splitDirectory (a ++ name)).1 ++ last := by
      rw [hfront, List.append_assoc]
      exact List.suffix_append front _
    rcases List.suffix_or_suffix_of_suffix hname hlast with hn | hl
    · rcases List.suffix_cons_iff.1 hn with rfl | hn
      · exact absurd List.mem_cons_self h
      · exact hn
    · exact absurd (hl.subset List.mem_cons_self) h

/-- What stands behind a later occurrence of a mark ends what stands behind the first. -/
theorem suffix_behind_mark {mark tail rest : List Char} (h : mark ++ tail <:+ mark ++ rest) :
    tail <:+ rest := by
  have hwhole := (List.suffix_append mark tail).trans h
  have hlength := h.length_le
  simp only [List.length_append] at hlength
  exact List.suffix_of_suffix_length_le hwhole (List.suffix_append mark rest) (by omega)

/-- Directories behind a `kotlin/` are read with all that stands between the first one and them. -/
theorem packageDirectories?_of_kotlin {front directories file : List Char}
    (hd : directories ≠ []) (hf : '/' ∉ file)
    (hn : '\n' ∉ front ++ ("kotlin/".toList ++ (directories ++ '/' :: file))) :
    ∃ found, packageDirectories? (front ++ ("kotlin/".toList ++ (directories ++ '/' :: file))) =
      some found ∧ directories <:+ found := by
  have hline : ∀ s, s <:+ front ++ ("kotlin/".toList ++ (directories ++ '/' :: file)) → '\n' ∉ s :=
    fun s hs hm => hn (hs.subset hm)
  induction front with
  | nil =>
      have hread := directoriesOf?_path hd hf
        (hline _ ((List.suffix_append _ _).trans (List.suffix_append [] _)))
      have hs : "kotlin/".toList ++ (directories ++ '/' :: file) =
          'k' :: ("otlin/".toList ++ (directories ++ '/' :: file)) := rfl
      refine ⟨directories, ?_, List.suffix_refl directories⟩
      rw [List.nil_append, hs, packageDirectories?, ← hs, after?_append, Option.bind_some, hread]
  | cons c front ih =>
      rw [List.cons_append] at hn hline ⊢
      rw [packageDirectories?]
      cases hfound : (after? "kotlin/".toList
          (c :: (front ++ ("kotlin/".toList ++ (directories ++ '/' :: file))))).bind
            directoriesOf? with
      | none =>
          exact ih (List.not_mem_of_not_mem_cons hn) fun s hs =>
            hline s (hs.trans (List.suffix_cons c _))
      | some found =>
          obtain ⟨rest, ha, hrest⟩ := Option.bind_eq_some_iff.1 hfound
          have hs := eq_append_of_after? ha
          obtain ⟨between, hbetween⟩ := suffix_behind_mark ⟨c :: front, hs⟩
          have hsuffix : rest <:+
              c :: (front ++ ("kotlin/".toList ++ (directories ++ '/' :: file))) := by
            rw [hs]
            exact List.suffix_append _ _
          have hone := hline rest hsuffix
          rw [← hbetween, ← List.append_assoc] at hrest hone
          have hread := directoriesOf?_path (by simp [hd]) hf hone
          rw [hrest, Option.some.injEq] at hread
          exact ⟨found, rfl, hread ▸ List.suffix_append between directories⟩

theorem joinWith_directories_ne : joinWith ['/'] p.directories ≠ [] := by
  obtain ⟨d, ds, hd⟩ := List.exists_cons_of_ne_nil p.ne
  have hne := (p.directory d (by simp [hd])).1
  rw [hd]
  cases ds with
  | nil => exact hne
  | cons e ds => simp [joinWith]

theorem path_toList : p.path.toList =
    (joinWith ['/'] (p.rootPieces "main".toList) ++ ['/']) ++ ("kotlin/".toList ++ p.below) := by
  have hroot := joinWith_append ['/'] (show p.rootPieces "main".toList ≠ [] by simp [rootPieces])
    (List.cons_ne_nil kotlin (p.directories ++ [p.stem ++ extension]))
  have hkotlin := joinWith_append ['/'] (List.cons_ne_nil kotlin [])
    (show p.directories ++ [p.stem ++ extension] ≠ [] by simp)
  rw [List.singleton_append, joinWith_concat p.ne] at hkotlin
  have hname : "kotlin/".toList = joinWith ['/'] [kotlin] ++ ['/'] := by decide
  rw [path, String.toList_ofList, piecesOf, hroot, hkotlin, hname, below]

theorem packageName_of_packageDirectories? {s : List Char} {defaultPackage source : String}
    {tree : SymbolTree} {path : String} (h : packageDirectories? path.toList = some s) :
    (ServiceModel.ofSymbols defaultPackage tree path source).packageName =
      String.ofList (s.map fun c => if c = '/' then '.' else c) := by
  simp only [ServiceModel.ofSymbols, packageOfPath?, h, Option.map_some, Option.getD_some]

/-- Where no segment of the module ends in `kotlin`, the package is read below the source root. -/
theorem packageName_eq (hn : '\n' ∉ p.below)
    (h : ∀ s ∈ p.first :: p.more, ¬"kotlin".toList <:+ s) (defaultPackage source : String)
    (tree : SymbolTree) :
    (ServiceModel.ofSymbols defaultPackage tree p.path source).packageName = p.package := by
  have hslash : ∀ s ∈ p.rootPieces "main".toList, '/' ∉ s := by
    intro s hs
    simp only [rootPieces, List.mem_append, List.mem_cons, List.not_mem_nil, or_false] at hs
    rcases hs with hs | rfl | rfl
    · exact (p.segment s (List.mem_cons.2 hs)).2
    · decide
    · decide
  have hroot : occursIn "kotlin/".toList
      (joinWith ['/'] (p.rootPieces "main".toList) ++ ['/'] ++ "kotlin".toList) = false := by
    rw [← Bool.not_eq_true, occursIn_iff]
    intro hi
    have hname : '/' ∉ "kotlin".toList := by decide
    obtain ⟨piece, hp, hsuffix⟩ := exists_suffix_of_infix hname hi
    have hkotlin := splitAtChar_eq_singleton hname
    rw [List.append_assoc, List.singleton_append, splitAtChar_append,
      splitAtChar_joinWith (by simp [rootPieces]) hslash, hkotlin, List.dropLast_concat] at hp
    simp only [rootPieces, List.mem_append, List.mem_cons, List.not_mem_nil, or_false] at hp
    rcases hp with hp | rfl | rfl
    · exact h piece (List.mem_cons.2 hp) hsuffix
    · exact absurd hsuffix (by decide)
    · exact absurd hsuffix (by decide)
  have hread := directoriesOf?_path p.joinWith_directories_ne p.noSlash_file hn
  have hfound := packageDirectories?_append hroot hread
  have hpath := p.path_toList
  rw [below] at hpath
  rw [← hpath] at hfound
  rw [packageName_of_packageDirectories? hfound,
    map_joinWith_slash fun d hd => (p.directory d hd).2, package]

theorem path_of_segment {front back : List (List Char)} {s : List Char}
    (hs : p.first :: p.more = front ++ s :: back) (hk : "kotlin".toList <:+ s) :
    ∃ root, p.path.toList = root ++ ("kotlin/".toList ++
      (joinWith ['/'] (back ++ ["src".toList, "main".toList, kotlin] ++ p.directories) ++
        '/' :: (p.stem ++ extension))) := by
  obtain ⟨z, rfl⟩ := hk
  have hpieces : p.piecesOf "main".toList (p.stem ++ extension) =
      (front ++ [z ++ "kotlin".toList]) ++
        ((back ++ ["src".toList, "main".toList, kotlin] ++ p.directories) ++
          [p.stem ++ extension]) := by
    simp only [piecesOf, rootPieces, hs]
    simp
  obtain ⟨root, hroot⟩ : ∃ root, joinWith ['/'] (front ++ [z ++ "kotlin".toList]) =
      root ++ "kotlin".toList := by
    by_cases hf : front = []
    · exact ⟨z, by rw [hf]; rfl⟩
    · exact ⟨joinWith ['/'] front ++ '/' :: z, by rw [joinWith_concat hf]; simp⟩
  refine ⟨root, ?_⟩
  rw [path, String.toList_ofList, hpieces, joinWith_append ['/'] (by simp) (by simp), hroot,
    joinWith_concat (by simp)]
  simp

/-- A segment that ends in `kotlin` puts what follows it into the package. -/
theorem packageName_ne (hn : '\n' ∉ p.path.toList) {s : List Char} (hs : s ∈ p.first :: p.more)
    (hk : "kotlin".toList <:+ s) (defaultPackage source : String) (tree : SymbolTree) :
    (ServiceModel.ofSymbols defaultPackage tree p.path source).packageName ≠ p.package := by
  obtain ⟨front, back, hsplit⟩ := List.append_of_mem hs
  obtain ⟨root, hpath⟩ := p.path_of_segment hsplit hk
  have hlong := joinWith_append ['/']
    (show back ++ ["src".toList, "main".toList, kotlin] ≠ [] by simp) p.ne
  have hne :
      joinWith ['/'] (back ++ ["src".toList, "main".toList, kotlin] ++ p.directories) ≠ [] := by
    rw [hlong]
    simp
  rw [hpath] at hn
  obtain ⟨found, hfound, hsuffix⟩ := packageDirectories?_of_kotlin hne p.noSlash_file hn
  rw [← hpath] at hfound
  rw [packageName_of_packageDirectories? hfound, package,
    ← map_joinWith_slash fun d hd => (p.directory d hd).2]
  intro he
  have hlength := congrArg List.length (String.ofList_injective he)
  have hle := hsuffix.length_le
  rw [hlong] at hle
  simp only [List.length_map, List.length_append, List.length_singleton] at hlength hle
  omega

/-! ## All searches -/

/-- Where the searches for the test, the module and the package of a source lead, for every path of
a module. -/
theorem searches_of_source (defaultModule defaultPackage source : String) (tree : SymbolTree) :
    (testPath p.path = p.test ↔ "main".toList ∉ p.more) ∧
    moduleOf defaultModule p.path =
      (if p.first.all isModuleChar then String.ofList p.first else defaultModule) ∧
    ('\n' ∉ p.below → (∀ s ∈ p.first :: p.more, ¬"kotlin".toList <:+ s) →
      (ServiceModel.ofSymbols defaultPackage tree p.path source).packageName = p.package) ∧
    ('\n' ∉ p.path.toList →
      (ServiceModel.ofSymbols defaultPackage tree p.path source).packageName = p.package →
        ∀ s ∈ p.first :: p.more, ¬"kotlin".toList <:+ s) := by
  refine ⟨p.testPath_eq_test_iff, p.moduleOf_path defaultModule, fun hn h => ?_, ?_⟩
  · exact p.packageName_eq hn h defaultPackage source tree
  · intro hn he s hs hk
    exact p.packageName_ne hn hs hk defaultPackage source tree he

/-- The source `com/acme/Order.kt` of a module. -/
def order (first : String) (more : List String)
    (h : ∀ s ∈ first.toList :: more.map String.toList, Path.IsName s ∧ '/' ∉ s) : ModuleSource :=
  { first := first.toList
    more := more.map String.toList
    segment := h
    directories := ["com".toList, "acme".toList]
    ne := by decide
    directory := by decide
    stem := "Order".toList
    named := by decide
    noSlash := by decide }

theorem searches_orderApi :
    testPath "order-api/src/main/kotlin/com/acme/Order.kt" =
      "order-api/src/test/kotlin/com/acme/OrderTest.kt" ∧
    moduleOf "app" "order-api/src/main/kotlin/com/acme/Order.kt" = "order-api" ∧
    (ServiceModel.ofSymbols "" ⟨none, []⟩ "order-api/src/main/kotlin/com/acme/Order.kt"
      "").packageName = "com.acme" := by
  obtain ⟨htest, hmodule, hpackage, -⟩ :=
    (order "order-api" [] (by decide)).searches_of_source "app" "" "" ⟨none, []⟩
  have hpath : (order "order-api" [] (by decide)).path =
      "order-api/src/main/kotlin/com/acme/Order.kt" := by decide
  rw [hpath] at htest hmodule hpackage
  exact ⟨(htest.2 (by decide)).trans (by decide), hmodule.trans (by decide),
    (hpackage (by decide) (by decide)).trans (by decide)⟩

/-- Each search is led astray by the path of some module: `app/main`, `my.app` and `kotlin`. -/
theorem searches_astray :
    (¬∀ p : ModuleSource, testPath p.path = p.test) ∧
    (¬∀ (p : ModuleSource) (default : String), moduleOf default p.path = String.ofList p.first) ∧
    ¬∀ (p : ModuleSource) (defaultPackage source : String) (tree : SymbolTree),
      (ServiceModel.ofSymbols defaultPackage tree p.path source).packageName = p.package := by
  refine ⟨fun h => ?_, fun h => ?_, fun h => ?_⟩
  · have htest := h (order "app" ["main"] (by decide))
    revert htest
    decide
  · have hmodule := h (order "my.app" [] (by decide)) "app"
    revert hmodule
    decide
  · have hpackage := h (order "kotlin" [] (by decide)) "" "" ⟨none, []⟩
    revert hpackage
    decide

end ModuleSource

end Layout

end TestForge
