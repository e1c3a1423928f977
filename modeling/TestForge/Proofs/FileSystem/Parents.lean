import TestForge.Proofs.FileSystem.Descent

/-!
# The directory above a path

The path of the directory above has no slashes and no `.` at its end. A path leads where the path
above it leads, and from there its last component on. So a path of which the one above leads
nowhere leads nowhere either, and for the same reason.
-/

namespace TestForge

open Text

namespace Path

/-! ## What names nothing at the end of a path -/

theorem dropTrailing_suffix (r : List Char) : dropTrailing r <:+ r := by
  fun_induction dropTrailing r with
  | case1 => exact List.suffix_refl _
  | case2 => exact List.suffix_refl _
  | case3 rest _ ih => exact ih.trans (List.suffix_cons '/' rest)
  | case4 rest ih => exact ih.trans (List.suffix_cons '.' ('/' :: rest))
  | case5 => exact List.suffix_refl _

theorem dropTrailing_slash {r : List Char} (h : r ≠ []) :
    dropTrailing ('/' :: r) = dropTrailing r := by
  rw [dropTrailing]
  exact h

theorem dropTrailing_dot (r : List Char) :
    dropTrailing ('.' :: '/' :: r) = dropTrailing ('/' :: r) := by
  simp [dropTrailing]

theorem dropTrailing_idem (r : List Char) : dropTrailing (dropTrailing r) = dropTrailing r := by
  fun_induction dropTrailing r with
  | case1 => rfl
  | case2 => rfl
  | case3 rest _ ih => exact ih
  | case4 rest ih => exact ih
  | case5 c rest hroot hslash hdot => rw [dropTrailing] <;> assumption

/-- A path that ends with what names a component, or in the root. -/
def Clean (s : String) : Prop :=
  dropTrailing s.toList.reverse = s.toList.reverse

instance (s : String) : Decidable (Clean s) :=
  inferInstanceAs (Decidable (_ = _))

theorem filter_dropTrailing (r : List Char) :
    (splitAtChar '/' (dropTrailing r).reverse).filter countsAsComponent =
      (splitAtChar '/' r.reverse).filter countsAsComponent := by
  have hslash (s : List Char) : (splitAtChar '/' ('/' :: s).reverse).filter countsAsComponent =
      (splitAtChar '/' s.reverse).filter countsAsComponent := by
    rw [List.reverse_cons, splitAtChar_append, List.filter_append]
    simp [splitAtChar, countsAsComponent]
  fun_induction dropTrailing r with
  | case1 => rfl
  | case2 => rfl
  | case3 rest _ ih => rw [ih, hslash]
  | case4 rest ih =>
      rw [ih, hslash, List.reverse_cons, List.reverse_cons, List.append_assoc,
        List.singleton_append, splitAtChar_append, List.filter_append]
      simp [splitAtChar, countsAsComponent]
  | case5 => rfl

/-! ## The path above -/

theorem clean_parent? {s up : String} (h : parent? s = some up) : Clean up := by
  unfold parent? at h
  split at h
  · cases h
  · cases h
    rw [Clean, String.toList_ofList, List.reverse_reverse, dropTrailing_idem]

/-- What stands behind the last slash of a clean path is a component, unless there are none. -/
theorem counts_of_clean {s : String} {front last : List Char} (hc : Clean s)
    (hs : s.toList = front ++ '/' :: last) (hn : components s.toList ≠ []) :
    countsAsComponent last = true := by
  by_contra hcounts
  have hstay : last = [] ∨ last = ['.'] := by
    simpa [countsAsComponent, Classical.or_iff_not_imp_left] using hcounts
  have hle (front : List Char) : (dropTrailing front).length ≤ front.length :=
    (dropTrailing_suffix front).length_le
  unfold Clean at hc
  rw [hs, List.reverse_append, List.reverse_cons] at hc
  rcases hstay with rfl | rfl
  · rcases List.eq_nil_or_concat front with rfl | ⟨front, c, rfl⟩
    · rw [hs] at hn
      exact hn rfl
    · have hdrop := hle (c :: front.reverse)
      rw [List.concat_eq_append, List.reverse_append] at hc
      change dropTrailing ('/' :: c :: front.reverse) = '/' :: c :: front.reverse at hc
      rw [dropTrailing_slash (List.cons_ne_nil c _)] at hc
      rw [hc] at hdrop
      exact absurd hdrop (Nat.not_succ_le_self _)
  · have hdrop := hle ('/' :: front.reverse)
    change dropTrailing ('.' :: '/' :: front.reverse) = '.' :: '/' :: front.reverse at hc
    rw [dropTrailing_dot] at hc
    rw [hc] at hdrop
    exact absurd hdrop (Nat.not_succ_le_self _)

/-- The path above stands in front of the last slash, up to what names nothing at its end. -/
theorem parent?_cut {s up : String} (h : parent? s = some up) (hu : up ≠ "") :
    ∃ front last, (dropTrailing s.toList.reverse).reverse = front ++ '/' :: last ∧ '/' ∉ last ∧
      up.toList.reverse = dropTrailing ('/' :: front.reverse) := by
  unfold parent? at h
  split at h
  · cases h
  · simp only [Option.some.injEq] at h
    subst h
    generalize dropTrailing s.toList.reverse = r at hu ⊢
    have hsplit := List.takeWhile_append_dropWhile (p := (· ≠ '/')) (l := r)
    have hlast : '/' ∉ r.takeWhile (· ≠ '/') := fun hm => by
      simpa using List.mem_takeWhile_imp hm
    have hhead := List.head?_dropWhile_not (· ≠ '/') r
    generalize r.dropWhile (· ≠ '/') = directory at hsplit hhead hu ⊢
    generalize r.takeWhile (· ≠ '/') = last at hsplit hlast
    cases directory with
    | nil => exact absurd rfl hu
    | cons c front =>
        have hslash : c = '/' := by simpa using hhead
        subst hslash
        refine ⟨front.reverse, last.reverse, by rw [← hsplit]; simp, by simpa using hlast, ?_⟩
        rw [List.reverse_reverse, String.toList_ofList, List.reverse_reverse]

/-- The last component of a path and what stands in front of it. -/
theorem parent?_spec {s up : String} (hc : Clean s) (h : parent? s = some up) (hu : up ≠ "") :
    ∃ front last, s.toList = front ++ '/' :: last ∧ '/' ∉ last ∧
      countsAsComponent last = true ∧ up.toList.reverse = dropTrailing ('/' :: front.reverse) := by
  obtain ⟨front, last, hs, hslash, hup⟩ := parent?_cut h hu
  rw [show dropTrailing s.toList.reverse = s.toList.reverse from hc, List.reverse_reverse] at hs
  have hcomponents : components s.toList ≠ [] := by
    intro hn
    rw [parent?, hn] at h
    cases h
  exact ⟨front, last, hs, hslash, counts_of_clean hc hs hcomponents, hup⟩

theorem prefix_parent? {s up : String} (hc : Clean s) (h : parent? s = some up) (hu : up ≠ "") :
    ∃ rest, rest ≠ "" ∧ s = up ++ rest := by
  obtain ⟨front, last, hs, -, hcounts, hup⟩ := parent?_spec hc h hu
  obtain ⟨rest, hrest⟩ := dropTrailing_suffix ('/' :: front.reverse)
  rw [← hup] at hrest
  have hfront : front ++ ['/'] = up.toList ++ rest.reverse := by
    simpa using (congrArg List.reverse hrest).symm
  have hlast : last ≠ [] := by
    rintro rfl
    cases hcounts
  refine ⟨String.ofList (rest.reverse ++ last), fun he => ?_, ?_⟩
  · have hnil : rest.reverse ++ last = [] := by simpa using congrArg String.toList he
    exact hlast (List.append_eq_nil_iff.1 hnil).2
  · rw [← String.toList_inj, String.toList_append, String.toList_ofList, ← List.append_assoc,
      ← hfront, hs]
    simp

theorem dropTrailing_eq_nil {r : List Char} (h : dropTrailing r = []) : r = [] := by
  fun_induction dropTrailing r with
  | case1 => rfl
  | case2 => cases h
  | case3 rest hne ih => exact absurd (ih h) hne
  | case4 rest ih => exact absurd (ih h) (List.cons_ne_nil '/' rest)
  | case5 => cases h

/-- A path that has nothing above it is a single piece. -/
theorem notMem_of_parent?_empty {s : String} (hc : Clean s) (h : parent? s = some "") :
    '/' ∉ s.toList := by
  unfold parent? at h
  split at h
  · cases h
  · have hnil := congrArg String.toList (Option.some.inj h)
    rw [String.toList_ofList] at hnil
    have hdirectory := dropTrailing_eq_nil (List.reverse_eq_nil_iff.1 hnil)
    rw [show dropTrailing s.toList.reverse = s.toList.reverse from hc,
      List.dropWhile_eq_nil_iff] at hdirectory
    intro hm
    simpa using hdirectory '/' (by simpa using hm)

theorem isAbsolute_parent? {s up : String} (hc : Clean s) (h : parent? s = some up)
    (hu : up ≠ "") : isAbsolute up.toList = isAbsolute s.toList := by
  obtain ⟨rest, -, rfl⟩ := prefix_parent? hc h hu
  have hne : up.toList ≠ [] := by simpa using hu
  obtain ⟨c, cs, hcs⟩ := List.exists_cons_of_ne_nil hne
  rw [String.toList_append, hcs]
  rfl

end Path

namespace FileSystem

/-! ## Ways through the directory above -/

theorem filter_map_ofList (s : List Char) :
    ((splitAtChar '/' s).map String.ofList).filter counts =
      ((splitAtChar '/' s).filter Path.countsAsComponent).map String.ofList := by
  rw [List.filter_map]
  congr 1
  refine List.filter_congr fun piece _ => ?_
  simp [counts]

theorem filter_pieces_above {front : List Char} {up : String}
    (h : up.toList.reverse = Path.dropTrailing ('/' :: front.reverse)) :
    ((splitAtChar '/' front).map String.ofList).filter counts = (pieces up).filter counts := by
  have habove := Path.filter_dropTrailing ('/' :: front.reverse)
  rw [← h, List.reverse_reverse, List.reverse_cons, List.reverse_reverse, splitAtChar_append,
    List.filter_append] at habove
  rw [pieces, filter_map_ofList, filter_map_ofList, habove]
  simp [splitAtChar, Path.countsAsComponent]

/-- Up to pieces that lead nowhere, a path has one piece more than the path above it. -/
theorem pieces_parent? {path up : String} (hc : Path.Clean path)
    (h : Path.parent? path = some up) (hu : up ≠ "") :
    ∃ front last, pieces path = front ++ [last] ∧ counts last = true ∧
      front.filter counts = (pieces up).filter counts := by
  obtain ⟨front, last, hs, hslash, hcounts, hup⟩ := Path.parent?_spec hc h hu
  refine ⟨(splitAtChar '/' front).map String.ofList, String.ofList last, ?_,
    by simpa [counts] using hcounts, filter_pieces_above hup⟩
  rw [pieces, hs, splitAtChar_append, splitAtChar_eq_singleton hslash, List.map_append]
  rfl

theorem descend_parent? {path up : String} (hc : Path.Clean path)
    (h : Path.parent? path = some up) (hu : up ≠ "") :
    ∃ last, counts last = true ∧ ∀ (fs : FileSystem) (here : Location),
      fs.descend here (pieces path) =
        (fs.descend here (pieces up)).bind fun place => fs.descend place [last] := by
  obtain ⟨front, last, hpieces, hcounts, hfilter⟩ := pieces_parent? hc h hu
  refine ⟨last, hcounts, fun fs here => ?_⟩
  rw [hpieces, descend_filter, hfilter, ← descend_filter, descend_append]

theorem checkPath_ok_iff {path : String} {u : Unit} :
    checkPath path = .ok u ↔
      Char.ofNat 0 ∉ path.toList ∧ path ≠ "" ∧ path.utf8ByteSize ≤ maxPathBytes := by
  unfold checkPath
  split
  · simp_all
  · split
    · simp_all
    · split
      · simp_all
      · simp_all

/-- A path of no more than a number of bytes, without the character that no path has. -/
structure Fits (bytes : Nat) (path : String) : Prop where
  noNul : Char.ofNat 0 ∉ path.toList
  size : path.utf8ByteSize ≤ bytes

instance (bytes : Nat) (path : String) : Decidable (Fits bytes path) :=
  decidable_of_iff (Char.ofNat 0 ∉ path.toList ∧ path.utf8ByteSize ≤ bytes)
    ⟨fun ⟨h, h'⟩ => ⟨h, h'⟩, fun h => ⟨h.noNul, h.size⟩⟩

theorem Fits.checkPath {bytes : Nat} {path : String} (h : Fits bytes path)
    (hb : bytes ≤ maxPathBytes) (hp : path ≠ "") : checkPath path = .ok () :=
  checkPath_ok_iff.2 ⟨h.noNul, hp, h.size.trans hb⟩

theorem Fits.mono {m n : Nat} {path : String} (h : Fits m path) (hm : m ≤ n) : Fits n path :=
  ⟨h.noNul, h.size.trans hm⟩

/-- What is joined takes a slash more at most. -/
theorem Fits.join {m n : Nat} {base s : String} (h : Fits m base) (k : Fits n s) :
    Fits (m + 1 + n) (Path.join base s) := by
  have hslash : Fits 1 "/" := by decide
  have hbase : String.ofList base.toList = base := String.ofList_toList
  have hs : String.ofList s.toList = s := String.ofList_toList
  have happend {a b : Nat} {x y : String} (hx : Fits a x) (hy : Fits b y) : Fits (a + b) (x ++ y) :=
    ⟨by simp [hx.noNul, hy.noNul], by
      rw [String.utf8ByteSize_append]
      exact Nat.add_le_add hx.size hy.size⟩
  unfold Path.join Path.joinChars
  split
  · rw [hs]
    exact k.mono (by omega)
  · split
    · rw [hs]
      exact k.mono (by omega)
    · split
      · rw [String.ofList_append, hbase, hs]
        exact (happend h k).mono (by omega)
      · have hcons : '/' :: s.toList = "/".toList ++ s.toList := rfl
        rw [String.ofList_append, hbase, hcons, String.ofList_append, hs]
        exact (happend h (happend hslash k)).mono (by omega)

theorem checkPath_of_resolve {fs : FileSystem} {path : String} {follow : Bool} {place : Location}
    (h : fs.resolve path follow = .ok place) : checkPath path = .ok () := by
  unfold FileSystem.resolve at h
  split at h
  · cases h
  · assumption

theorem checkPath_prefix {path rest : String} (h : checkPath (path ++ rest) = .ok ())
    (hp : path ≠ "") : checkPath path = .ok () := by
  obtain ⟨hnul, -, hlength⟩ := checkPath_ok_iff.1 h
  rw [String.toList_append, List.mem_append, not_or] at hnul
  rw [String.utf8ByteSize_append] at hlength
  exact checkPath_ok_iff.2 ⟨hnul.1, hp, by omega⟩

/-- A joined path that can be looked up leads where its base leads, and on from there. -/
theorem Linkless.resolve_join {fs : FileSystem} (hl : fs.Linkless) {base s : String}
    (hk : checkPath (Path.join base s) = .ok ()) (hb : base ≠ "")
    (hs : Path.isAbsolute s.toList = false) (follow : Bool) :
    fs.resolve (Path.join base s) follow =
      (fs.resolve base follow).bind fun place => fs.descend place (pieces s) := by
  obtain ⟨rest, hrest⟩ := exists_join hb hs
  have hbase : checkPath base = .ok () := checkPath_prefix (hrest ▸ hk) hb
  have hstart : fs.start (Path.join base s) = fs.start base := by rw [hrest, fs.start_append hb]
  rw [hl.resolve_eq, hl.resolve_eq, hk, hbase, hstart]
  exact fs.descend_join _ hb hs

/-- A path that can be looked up leads where the path above it leads, and from there one step on. -/
theorem resolve_parent? {path up : String} (hk : checkPath path = .ok ()) (hc : Path.Clean path)
    (h : Path.parent? path = some up) (hu : up ≠ "") :
    ∃ last, counts last = true ∧ ∀ {fs : FileSystem}, fs.Linkless → ∀ follow,
      fs.resolve path follow =
        (fs.resolve up follow).bind fun place => fs.descend place [last] := by
  obtain ⟨last, hcounts, hdescend⟩ := descend_parent? hc h hu
  obtain ⟨rest, -, hrest⟩ := Path.prefix_parent? hc h hu
  have hup : checkPath up = .ok () := checkPath_prefix (hrest ▸ hk) hu
  refine ⟨last, hcounts, fun hl follow => ?_⟩
  rw [hl.resolve_eq, hl.resolve_eq, hk, hup, start, start, Path.isAbsolute_parent? hc h hu]
  exact hdescend _ _

end FileSystem

end TestForge
