import TestForge.Proofs.Framework.Walks
import TestForge.Proofs.Text.Occurrences

/-!
# Exactly the marked sources

Below a root directory a scan finds what it is after: a regular file with a Kotlin extension that
can be read and holds the marker, and that no link and no skipped directory hides. The files that
there are decide whether something is found, and not the order in which directories list them.
-/

namespace TestForge.MarkerScan

open FileSystem Text

variable {fs : FileSystem} {root marker : String} {base : Location} {names : List String}

/-- A source below a root directory that a scan for the marker is after. -/
structure MarkedSource (fs : FileSystem) (marker root : String) (base : Location)
    (names : List String) : Prop where
  regular : ∃ content executable, fs.get? (base ++ names) = some (.file content executable)
  kotlin : ∃ stem, stem ≠ "" ∧ names.getLast? = some (stem ++ ".kt")
  readable : ∃ text, fs.readText (pathBelow root names) = .ok text ∧ marker.toList <:+: text.toList
  directories : ∀ front, front ≠ [] → front <+: names.dropLast →
    fs.get? (base ++ front) = some .directory
  unskipped : ∀ name ∈ names.dropLast, name ∉ skippedDirectories

/-! ## Extensions -/

theorem splitName_kotlin_iff {name : List Char} :
    (Path.splitName name).2 = some ['k', 't'] ↔ ∃ stem, stem ≠ [] ∧ name = stem ++ ".kt".toList := by
  unfold Path.splitName
  constructor
  · intro h
    split at h
    · rename_i before extension hcut
      obtain ⟨-, front, rfl⟩ := cutAfterLast?_spec hcut
      split at h
      · cases h
      · rename_i hlong
        rw [Option.some.injEq] at h
        subst h
        refine ⟨front, fun he => hlong (by simp [he]), ?_⟩
        rw [eq_append_of_cutAfterLast? hcut, List.append_assoc]
        rfl
    · cases h
  · rintro ⟨stem, hne, rfl⟩
    have hcut : cutAfterLast? '.' (stem ++ ".kt".toList) = some (stem ++ ['.'], ['k', 't']) :=
      cutAfterLast?_append stem (by decide)
    have hlong : ¬(stem ++ ['.']).length ≤ 1 := by
      have hpos := List.length_pos_iff.2 hne
      simp only [List.length_append, List.length_singleton]
      omega
    simp only [hcut, hlong, ↓reduceIte]

/-- The extension of a path below a root is that of its last name. -/
theorem isKotlin_iff {name : String} (hn : IsEntryName name) (root : String) (front : List String) :
    isKotlin (pathBelow root (front ++ [name])) = true ↔ ∃ stem, stem ≠ "" ∧ name = stem ++ ".kt" := by
  have hlast : Layout.lastPiece (pathBelow root (front ++ [name])).toList = name.toList := by
    rw [pathBelow, List.foldl_append, List.foldl_cons, List.foldl_nil, lastPiece_join,
      Layout.lastPiece, Layout.splitDirectory, cutAfterLast?_eq_none hn.onePiece]
    rfl
  have hname : Path.IsName (Layout.lastPiece (pathBelow root (front ++ [name])).toList) :=
    hlast ▸ hn.isName
  rw [isKotlin, beq_iff_eq, Layout.extension?_eq hname, hlast, splitName_kotlin_iff]
  constructor
  · rintro ⟨stem, hne, hs⟩
    refine ⟨String.ofList stem, fun he => hne (by simpa using congrArg String.toList he), ?_⟩
    have happend : (String.ofList stem ++ ".kt").toList = stem ++ ".kt".toList := by simp
    exact String.toList_injective (hs.trans happend.symm)
  · rintro ⟨stem, hne, rfl⟩
    exact ⟨stem.toList, by simpa using hne, String.toList_append⟩

/-! ## Reading -/

theorem canBeOpened_iff {path : String} : canBeOpened path = true ↔ checkPath path = .ok () := by
  unfold canBeOpened
  cases checkPath path with
  | error e => simp [Except.toBool]
  | ok u => simp [Except.toBool]

theorem exists_pathBelow (hr : root ≠ "") (hn : ∀ name ∈ names, IsEntryName name) :
    ∃ rest, pathBelow root names = root ++ rest := by
  induction names generalizing root with
  | nil => exact ⟨"", by simp [pathBelow]⟩
  | cons name names ih =>
      have hname := hn name List.mem_cons_self
      have habsolute : Path.isAbsolute name.toList = false :=
        isAbsolute_of_names (by
          rw [splitAtChar_eq_singleton hname.onePiece]
          simpa using hname.isName)
      obtain ⟨next, hnext⟩ := exists_join hr habsolute
      have hne : Path.join root name ≠ "" := by
        rw [hnext]
        exact fun he => hr (String.append_eq_empty_iff.1 he).1
      obtain ⟨rest, hrest⟩ := ih hne fun other hm => hn other (List.mem_cons_of_mem _ hm)
      refine ⟨next ++ rest, ?_⟩
      rw [← String.append_assoc, ← hnext]
      exact hrest

/-- A path that can be opened leads from the root along its names. -/
theorem resolve_pathBelow (ht : fs.IsTree) (hn : fs.WellNamed)
    (hr : fs.resolve root true = .ok base) (hd : fs.get? base = some .directory)
    (hg : fs.content? (base ++ names) ≠ none)
    (hk : checkPath (pathBelow root names) = .ok ()) :
    fs.resolve (pathBelow root names) true = .ok (base ++ names) := by
  induction names generalizing root base with
  | nil => simpa [pathBelow] using hr
  | cons name names ih =>
      have hentry : ∀ other ∈ name :: names, IsEntryName other := by
        intro other hm
        obtain ⟨front, back, hsplit⟩ := List.append_of_mem hm
        rw [hsplit, ← List.append_assoc] at hg
        exact hn (base ++ front) other (get?_of_way ht hg)
      have hroot : root ≠ "" := (checkPath_ok_iff.1 (checkPath_of_resolve hr)).2.1
      have hbelow : pathBelow root (name :: names) = pathBelow (Path.join root name) names := rfl
      have hjoined : checkPath (Path.join root name) = .ok () := by
        obtain ⟨next, hnext⟩ := exists_pathBelow hroot
          (List.forall_mem_singleton.2 (hentry name List.mem_cons_self))
        have hne : Path.join root name ≠ "" := by
          change pathBelow root [name] ≠ ""
          rw [hnext]
          exact fun he => hroot (String.append_eq_empty_iff.1 he).1
        obtain ⟨rest, hrest⟩ := exists_pathBelow hne fun other hm =>
          hentry other (List.mem_cons_of_mem _ hm)
        rw [hbelow, hrest] at hk
        exact checkPath_prefix hk hne
      by_cases hnames : names = []
      · subst hnames
        refine resolve_join_name hr hd (hentry name List.mem_cons_self) (fun target ht => ?_) hjoined
        rw [FileSystem.content?, ht] at hg
        exact hg rfl
      · have hdir : fs.get? (base ++ [name]) = some .directory :=
          ht.directory hnames (by simpa using get?_of_content? hg)
        have hstep := resolve_join_name hr hd (hentry name List.mem_cons_self)
          (fun target ht => by simp [hdir] at ht) hjoined
        have hrest := ih hstep hdir (by simpa using hg) hk
        rw [hbelow, hrest, List.append_assoc, List.singleton_append]

/-- What is read by the path of a file below the root is the content of that file. -/
theorem readText_pathBelow (ht : fs.IsTree) (hn : fs.WellNamed)
    (hr : fs.resolve root true = .ok base) (hd : fs.get? base = some .directory)
    {content : ByteArray} (hc : fs.content? (base ++ names) = some content) (text : String) :
    fs.readText (pathBelow root names) = .ok text ↔
      canBeOpened (pathBelow root names) = true ∧ String.fromUTF8? content = some text := by
  have hg : fs.content? (base ++ names) ≠ none := by simp [hc]
  have hread {found : ByteArray} (hk : checkPath (pathBelow root names) = .ok ()) :
      fs.readBytes (pathBelow root names) = .ok found ↔ found = content := by
    have hresolve := resolve_pathBelow ht hn hr hd hg hk
    obtain ⟨x, hx⟩ := content?_eq_some_iff.1 hc
    rw [readBytes_ok_iff]
    simp only [status_ok_iff, hresolve, Except.ok.injEq, exists_eq_left', hx, Option.some.injEq,
      Entry.file.injEq]
    exact ⟨fun ⟨_, hs, _⟩ => hs.symm, fun hs => ⟨x, hs.symm, rfl⟩⟩
  rw [readText_ok_iff, canBeOpened_iff]
  constructor
  · rintro ⟨found, hf, hu⟩
    obtain ⟨x, hs⟩ := readBytes_ok_iff.1 hf
    obtain ⟨place, hp, -⟩ := status_ok_iff.1 hs
    have hk := checkPath_of_resolve hp
    rw [← (hread hk).1 hf]
    exact ⟨hk, hu⟩
  · rintro ⟨hk, hu⟩
    exact ⟨content, (hread hk).2 rfl, hu⟩

/-! ## What a scan is after -/

theorem isName_of_content? (hn : fs.WellNamed) (hne : names ≠ [])
    (hg : fs.content? (base ++ names) ≠ none) : IsEntryName (names.getLast hne) := by
  refine hn (base ++ names.dropLast) _ ?_
  rw [List.append_assoc, List.dropLast_concat_getLast]
  exact get?_of_content? hg

theorem unskipped_iff {names : List String} :
    MarkerScan.unskipped names = true ↔ ∀ name ∈ names, name ∉ skippedDirectories := by
  simp [MarkerScan.unskipped, isSkipped]

/-- A file with the marker in the sense of a scan is a source that the scan is after. -/
theorem markedSource_iff (ht : fs.IsTree) (hn : fs.WellNamed)
    (hr : fs.resolve root true = .ok base) (hd : fs.get? base = some .directory) :
    (∃ content, Marks marker root names content ∧ fs.content? (base ++ names) = some content) ↔
      MarkedSource fs marker root base names := by
  have hkotlin (hne : names ≠ []) (hg : fs.content? (base ++ names) ≠ none) :
      isKotlin (pathBelow root names) = true ↔
        ∃ stem, stem ≠ "" ∧ names.getLast? = some (stem ++ ".kt") := by
    have hiff := isKotlin_iff (isName_of_content? hn hne hg) root names.dropLast
    rw [List.dropLast_concat_getLast] at hiff
    rw [hiff, List.getLast?_eq_getLast_of_ne_nil hne]
    simp only [Option.some.injEq]
  constructor
  · rintro ⟨content, hm, hc⟩
    have hg : fs.content? (base ++ names) ≠ none := by simp [hc]
    obtain ⟨x, hfile⟩ := content?_eq_some_iff.1 hc
    have hholds := hm.holds
    unfold holdsMarker at hholds
    split at hholds
    · rename_i text hu
      refine ⟨⟨content, x, hfile⟩, (hkotlin hm.below hg).1 hm.kotlin, ⟨text, ?_, ?_⟩, ?_,
        unskipped_iff.1 hm.unskipped⟩
      · exact (readText_pathBelow ht hn hr hd hc text).2 ⟨hm.opened, hu⟩
      · exact occursIn_iff.1 hholds
      · rintro front - ⟨rest, hrest⟩
        have hsplit : names = front ++ (rest ++ [names.getLast hm.below]) := by
          rw [← List.append_assoc, hrest, List.dropLast_concat_getLast]
        rw [hsplit, ← List.append_assoc] at hfile
        have hthere : fs.get? (base ++ front ++ (rest ++ [names.getLast hm.below])) ≠ none := by
          rw [hfile]
          exact Option.some_ne_none _
        exact ht.directory (by simp) hthere
    · cases hholds
  · intro hs
    obtain ⟨content, x, hfile⟩ := hs.regular
    have hc : fs.content? (base ++ names) = some content := content?_eq_some_iff.2 ⟨x, hfile⟩
    obtain ⟨stem, hstem, hlast⟩ := hs.kotlin
    have hne : names ≠ [] := by
      rintro rfl
      cases hlast
    obtain ⟨text, hread, hholds⟩ := hs.readable
    obtain ⟨hopened, hu⟩ := (readText_pathBelow ht hn hr hd hc text).1 hread
    refine ⟨content, ⟨hne, unskipped_iff.2 hs.unskipped, ?_, hopened, ?_⟩, hc⟩
    · exact (hkotlin hne (by simp [hc])).2 ⟨stem, hstem, hlast⟩
    · rw [holdsMarker, hu]
      exact occursIn_iff.2 hholds

/-! ## What a scan finds -/

/-- Below a root directory, or a link to one, a scan searches the directory. -/
theorem find?_eq (hr : fs.resolve root true = .ok base) (hd : fs.get? base = some .directory) :
    find? fs root marker = findBelow? fs marker root base := by
  have hk := checkPath_of_resolve hr
  have hwalk : fs.walk true maxLinks (fs.start root) (pieces root) = .ok base := by
    rw [resolve, hk] at hr
    exact hr
  obtain ⟨there, hthere, hcases⟩ := walk_unfollowed hwalk
  have hunfollowed : fs.resolve root false = .ok there := by
    rw [resolve, hk]
    exact hthere
  rcases hcases with rfl | ⟨target, hlink⟩
  · simp only [find?, hunfollowed, hd]
  · have hcanonical : fs.canonical root = .ok base := by
      simp [canonical, hr, hd]
    have hdirectory : fs.isDirectory root = true := by
      simp [isDirectory, status, hr, hd]
    simp only [find?, hunfollowed, hlink, hcanonical, hdirectory, ↓reduceIte]

theorem markedSource_of_findBelow? (ht : fs.IsTree) (hn : fs.WellNamed)
    (hr : fs.resolve root true = .ok base) (hd : fs.get? base = some .directory) {path : String}
    (h : findBelow? fs marker root base = some path) :
    ∃ names, path = pathBelow root names ∧ MarkedSource fs marker root base names := by
  unfold findBelow? at h
  obtain ⟨⟨names, content⟩, hfound, rfl⟩ := Option.map_eq_some_iff.1 h
  have hmarks := List.find?_some hfound
  simp only [Bool.and_eq_true] at hmarks
  obtain ⟨⟨⟨hreaches, hkotlin⟩, hopened⟩, hholds⟩ := hmarks
  obtain ⟨hne, hc⟩ := (mem_filesBelow ht).1 (List.mem_of_find?_eq_some hfound)
  obtain ⟨x, hg⟩ := content?_eq_some_iff.1 hc
  rw [reaches_eq ht base names.dropLast (names.getLast hne)
    (by rw [List.dropLast_concat_getLast]; simp [hg])] at hreaches
  exact ⟨names, rfl, (markedSource_iff ht hn hr hd).1
    ⟨content, ⟨hne, hreaches, hkotlin, hopened, hholds⟩, hc⟩⟩

theorem isSome_find?_iff (ht : fs.IsTree) (hn : fs.WellNamed)
    (hr : fs.resolve root true = .ok base) (hd : fs.get? base = some .directory) :
    (find? fs root marker).isSome = true ↔ ∃ names, MarkedSource fs marker root base names := by
  rw [find?_eq hr hd, isSome_findBelow? ht]
  exact exists_congr fun names => markedSource_iff ht hn hr hd

/-! ## Any order -/

/-- The first of the entries of a walk that is a regular file with a Kotlin extension and can be
read and holds the marker. -/
def firstMarked? (fs : FileSystem) (marker root : String) (base : Location)
    (seen : List (List String)) : Option String :=
  (seen.find? fun names =>
    (fs.content? (base ++ names)).isSome && isKotlin (pathBelow root names) &&
      match fs.readText (pathBelow root names) with
      | .ok text => occursIn marker.toList text.toList
      | .error _ => false).map (pathBelow root)

/-- In whichever order directories are listed, a walk comes to a marked source if there is one. -/
theorem isSome_firstMarked?_iff (ht : fs.IsTree) (hn : fs.WellNamed)
    (hr : fs.resolve root true = .ok base) (hd : fs.get? base = some .directory)
    {listing : List String → List String} (hl : Lists fs base listing) {seen : List (List String)}
    (h : Visits fs base listing [] (listing []) seen) :
    (firstMarked? fs marker root base seen).isSome = true ↔
      ∃ names, MarkedSource fs marker root base names := by
  rw [firstMarked?, Option.isSome_map, List.find?_isSome]
  constructor
  · rintro ⟨names, hm, hfound⟩
    simp only [Bool.and_eq_true] at hfound
    obtain ⟨⟨hregular, hkotlin⟩, hholds⟩ := hfound
    obtain ⟨content, hc⟩ := Option.isSome_iff_exists.1 hregular
    obtain ⟨way, hne, hnames, hway⟩ := unskipped_of_visits h names hm
    obtain rfl : names = way := hnames
    split at hholds
    · rename_i text hread
      obtain ⟨hopened, hu⟩ := (readText_pathBelow ht hn hr hd hc text).1 hread
      refine ⟨names, (markedSource_iff ht hn hr hd).1 ⟨content, ⟨hne, hway, hkotlin, hopened, ?_⟩, hc⟩⟩
      rw [holdsMarker, hu]
      exact hholds
    · cases hholds
  · rintro ⟨names, hs⟩
    obtain ⟨content, hm, hc⟩ := (markedSource_iff ht hn hr hd).2 hs
    obtain ⟨text, hread, hholds⟩ := hs.readable
    refine ⟨names, ?_, ?_⟩
    · obtain ⟨name, way, rfl⟩ := List.exists_cons_of_ne_nil hm.below
      have hfile : fs.content? (base ++ ([] ++ name :: way)) ≠ none := by simp [hc]
      refine mem_of_visits ht hl h ?_ hfile hm.unskipped
      rw [hl]
      exact get?_of_way ht hfile
    · simp only [hc, Option.isSome_some, hm.kotlin, hread, Bool.true_and]
      exact occursIn_iff.2 hholds

/-! ## The same entries in another order -/

theorem get?_of_perm (ht : fs.IsTree) {other : FileSystem} (hp : other.entries.Perm fs.entries)
    (place : Location) : other.get? place = fs.get? place := by
  have hdistinct : (other.entries.map Prod.fst).Nodup := (hp.map Prod.fst).nodup_iff.2 ht.distinct
  by_cases hplace : place = []
  · rw [hplace, get?_nil, get?_nil]
  · refine Option.ext fun e => ?_
    rw [get?_eq_some_iff hdistinct hplace, get?_eq_some_iff ht.distinct hplace]
    exact hp.mem_iff

theorem hasEntrypoint_perm (ht : fs.IsTree) (hn : fs.WellNamed)
    (hr : fs.resolve root true = .ok base) (hd : fs.get? base = some .directory)
    {other : FileSystem} (hp : other.entries.Perm fs.entries)
    (hw : other.workingDirectory = fs.workingDirectory) :
    hasEntrypoint other root marker = hasEntrypoint fs root marker := by
  have hget := get?_of_perm ht hp
  have hgrows : fs.Grows other :=
    ⟨hw, fun place h => (hget place).trans h, fun place target => by rw [hget],
      fun place content x h => ⟨content, x, (hget place).trans h⟩⟩
  have hshrinks : other.Grows fs :=
    ⟨hw.symm, fun place h => (hget place).symm.trans h, fun place target => by rw [hget],
      fun place content x h => ⟨content, x, (hget place).symm.trans h⟩⟩
  have hsame : fs.SameFiles other := fun place content x => by rw [hget]
  have htree : other.IsTree :=
    ⟨(hp.map Prod.fst).nodup_iff.2 ht.distinct, fun place name h => by
      rw [hget] at h ⊢
      exact ht.parent place name h⟩
  have hnamed : other.WellNamed := fun place name h => hn place name (by rwa [hget] at h)
  have hread (path text : String) : other.readText path = .ok text ↔ fs.readText path = .ok text :=
    ⟨SameFiles.readText (fun place content x => (hsame place content x).symm) hshrinks,
      hsame.readText hgrows⟩
  rw [Bool.eq_iff_iff, hasEntrypoint, hasEntrypoint,
    isSome_find?_iff htree hnamed (hgrows.resolve hr) ((hget base).trans hd),
    isSome_find?_iff ht hn hr hd]
  refine exists_congr fun names => ?_
  constructor
  · rintro ⟨hregular, hkotlin, hreadable, hdirectories, hunskipped⟩
    simp only [hget, hread] at hregular hreadable hdirectories
    exact ⟨hregular, hkotlin, hreadable, hdirectories, hunskipped⟩
  · rintro ⟨hregular, hkotlin, hreadable, hdirectories, hunskipped⟩
    simp only [← hget, ← hread] at hregular hreadable hdirectories
    exact ⟨hregular, hkotlin, hreadable, hdirectories, hunskipped⟩

/-! ## Exactness -/

/-- A scan of a root directory finds a marked source exactly if there is one, and what it finds is
one. It finds one as any walk of the tree does, in whichever order the directories are listed, and
whatever the order of the entries is. -/
theorem scan_exact (ht : fs.IsTree) (hn : fs.WellNamed) (hr : fs.resolve root true = .ok base)
    (hd : fs.get? base = some .directory) (marker : String) :
    ((find? fs root marker).isSome = true ↔ ∃ names, MarkedSource fs marker root base names) ∧
    (∀ path, find? fs root marker = some path →
      ∃ names, path = pathBelow root names ∧ MarkedSource fs marker root base names) ∧
    (∀ listing, Lists fs base listing →
      (∃ seen, Visits fs base listing [] (listing []) seen) ∧
      ∀ seen, Visits fs base listing [] (listing []) seen →
        (firstMarked? fs marker root base seen).isSome = (find? fs root marker).isSome) ∧
    ∀ other : FileSystem, other.entries.Perm fs.entries →
      other.workingDirectory = fs.workingDirectory →
      hasEntrypoint other root marker = hasEntrypoint fs root marker := by
  refine ⟨isSome_find?_iff ht hn hr hd, fun path hp => ?_, fun listing hl => ⟨?_, fun seen h => ?_⟩,
    fun other hp hw => hasEntrypoint_perm ht hn hr hd hp hw⟩
  · rw [find?_eq hr hd] at hp
    exact markedSource_of_findBelow? ht hn hr hd hp
  · exact exists_visits fs base listing [] (listing [])
  · rw [Bool.eq_iff_iff, isSome_firstMarked?_iff ht hn hr hd hl h, isSome_find?_iff ht hn hr hd]

/-- A project that is reached by a link. The marker stands in build output, and in a source in a
directory beside a plain file that is called `build`. -/
def linkedProject : FileSystem :=
  ⟨[(["p"], .link "q"), (["q"], .directory), (["q", "build"], .directory),
    (["q", "build", "A.kt"], .file "@M".toUTF8 false), (["q", "src"], .directory),
    (["q", "src", "build"], .file "".toUTF8 false),
    (["q", "src", "App.kt"], .file "@M class App".toUTF8 false)], []⟩

theorem scan_exact_linkedProject :
    linkedProject.IsTree ∧ linkedProject.WellNamed ∧ linkedProject.resolve "p" true = .ok ["q"] ∧
    linkedProject.get? ["q"] = some .directory ∧ (find? linkedProject "p" "@M").isSome = true := by
  have htree : linkedProject.IsTree := isTree_of_entries (by decide) (by decide)
  have hnamed : linkedProject.WellNamed := wellNamed_of_entries (by decide)
  have hdirectory : linkedProject.get? ["q"] = some .directory := by decide
  have hroot : linkedProject.resolve "p" true = .ok ["q"] := by
    have hlink : linkedProject.get? ["p"] = some (.link "q") ∧
        linkStart [] "q" = [] ∧ pieces "q" = ["q"] ∧ pieces "p" = ["p"] ∧
        linkedProject.start "p" = [] ∧ checkPath "p" = .ok () := by
      decide
    have hshort : ¬255 < "p".utf8ByteSize ∧ ¬255 < "q".utf8ByteSize := by decide
    simp [resolve, walk, hlink, hshort, hdirectory, requireDirectory, get?_nil, maxLinks,
      maxNameBytes]
  have hsource : MarkedSource linkedProject "@M" "p" ["q"] ["src", "App.kt"] := by
    refine (markedSource_iff htree hnamed hroot hdirectory).1 ⟨"@M class App".toUTF8,
      ⟨by decide, by decide, by decide, by decide, ?_⟩, rfl⟩
    rw [holdsMarker, fromUTF8?_toUTF8]
    decide
  obtain ⟨hfinds, -⟩ := scan_exact htree hnamed hroot hdirectory "@M"
  exact ⟨htree, hnamed, hroot, hdirectory, hfinds.2 ⟨["src", "App.kt"], hsource⟩⟩

end TestForge.MarkerScan
