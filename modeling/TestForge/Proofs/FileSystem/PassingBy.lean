import TestForge.Proofs.FileSystem.Trails

/-!
# Paths that pass a place by

A path passes a place by if neither what it leads to nor anything on its way lies there or below.
Whatever is written or created for the sake of such a path, all stays as it is at the place and
below it.
-/

namespace TestForge

open Text

namespace FileSystem

/-- No place that the path comes to is the place given or lies below it. -/
def PassesBy (fs : FileSystem) (path : String) (place : Location) : Prop :=
  ∀ via, Passes (fs.start path) (pieces path) via → ¬place <+: via

/-- Nothing has changed at a place or below it. -/
def SameBelow (old new : FileSystem) (place : Location) : Prop :=
  ∀ other, place <+: other → new.get? other = old.get? other

theorem SameBelow.refl (fs : FileSystem) (place : Location) : fs.SameBelow fs place :=
  fun _ _ => rfl

theorem SameBelow.trans {a b c : FileSystem} {place : Location} (h : a.SameBelow b place)
    (k : b.SameBelow c place) : a.SameBelow c place :=
  fun other hp => (k other hp).trans (h other hp)

theorem SameBelow.content? {old new : FileSystem} {place other : Location}
    (h : old.SameBelow new place) (hp : place <+: other) :
    new.content? other = old.content? other := by
  unfold FileSystem.content?
  rw [h other hp]

theorem PassesBy.congr {old new : FileSystem} {path : String} {place : Location}
    (h : old.PassesBy path place) (hw : new.workingDirectory = old.workingDirectory) :
    new.PassesBy path place := by
  unfold PassesBy start at h ⊢
  rwa [hw]

theorem passes_destination (fs : FileSystem) (path : String) :
    Passes (fs.start path) (pieces path) (fs.destination path) :=
  ⟨pieces path, pieces_ne_nil path, List.prefix_refl _, rfl⟩

/-! ## The paths above -/

theorem Under.trans {a b c : String} {names more : List String} (h : Under a b names)
    (k : Under b c more) : Under a c (names ++ more) :=
  ⟨h.nonempty, by rw [k.counted, h.counted, List.append_assoc], k.absolute.trans h.absolute⟩

/-- What lies above a path is on its way. -/
theorem Under.passes {fs : FileSystem} {up path : String} {names : List String}
    (h : Under up path names) (hn : (pieces up).filter counts ≠ []) :
    Passes (fs.start path) (pieces path) (fs.destination up) := by
  have hfront : (pieces up).filter counts <+: (pieces path).filter counts :=
    h.counted ▸ List.prefix_append _ _
  obtain ⟨front, hp, he⟩ := List.prefix_filter_iff.1 hfront
  refine ⟨front, ?_, hp, ?_⟩
  · rintro rfl
    exact hn (by simpa using he)
  · rw [destination, h.start_eq, ← foldl_step_filter, he, foldl_step_filter]

/-- The path above any path, its end clean or not, is a path that it goes on from. -/
theorem under_parent? {path up : String} (h : Path.parent? path = some up) (hu : up ≠ "") :
    ∃ names, Under up path names := by
  obtain ⟨front, last, hs, -, hup⟩ := Path.parent?_cut h hu
  have hcounted : (pieces path).filter counts =
      (((splitAtChar '/' front).map String.ofList) ++
        (splitAtChar '/' last).map String.ofList).filter counts := by
    have htrailing := Path.filter_dropTrailing path.toList.reverse
    rw [hs, List.reverse_reverse] at htrailing
    rw [← List.map_append, ← splitAtChar_append, pieces, filter_map_ofList, ← htrailing,
      filter_map_ofList]
  refine ⟨_, hu, by rw [hcounted, List.filter_append, filter_pieces_above hup], ?_⟩
  have hprefix : up.toList <+: path.toList := by
    have hfront : up.toList <+: (Path.dropTrailing path.toList.reverse).reverse := by
      rw [hs, ← List.reverse_suffix, hup]
      refine (Path.dropTrailing_suffix _).trans ?_
      simp
    refine hfront.trans ?_
    rw [← List.reverse_suffix, List.reverse_reverse]
    exact Path.dropTrailing_suffix _
  obtain ⟨rest, hrest⟩ := hprefix
  obtain ⟨c, cs, hcs⟩ := List.exists_cons_of_ne_nil (show up.toList ≠ [] by simpa using hu)
  rw [← hrest, hcs]
  rfl

theorem lineage_empty (fuel : Nat) : lineage fuel "" = [""] := by
  cases fuel with
  | zero => rfl
  | succ fuel => rfl

theorem under_lineage {fuel : Nat} {path up : String} (hc : Path.Clean path)
    (hm : up ∈ lineage fuel path) (hu : up ≠ "") :
    Path.Clean up ∧ ∃ names, Under up path names := by
  induction fuel generalizing path with
  | zero =>
      obtain rfl : up = path := by simpa [lineage] using hm
      exact ⟨hc, [], .refl hu⟩
  | succ fuel ih =>
      rw [lineage_eq, List.mem_cons] at hm
      rcases hm with rfl | hm
      · exact ⟨hc, [], .refl hu⟩
      · unfold above at hm
        simp only at hm
        split at hm
        · rename_i next hnext
          have hne : next ≠ "" := by
            rintro rfl
            rw [lineage_empty, List.mem_singleton] at hm
            exact hu hm
          obtain ⟨hclean, names, hunder⟩ := ih (Path.clean_parent? hnext) hm
          obtain ⟨more, hmore⟩ := under_parent? hnext hne
          exact ⟨hclean, _, hunder.trans hmore⟩
        · cases hm

/-! ## Creating and writing -/

/-- A directory that is new has a name. -/
theorem filter_counts_of_created {old new : FileSystem} (ht : old.IsTree) (hl : old.Linkless)
    {path : String} (hc : Path.Clean path) (h : old.createDirectory path = .ok new) :
    (pieces path).filter counts ≠ [] := by
  intro hnil
  obtain ⟨place, hr, hg, -⟩ := createDirectory_ok hl hc h
  obtain ⟨front, last, hfront⟩ := List.eq_nil_or_concat (pieces path) |>.resolve_left
    (pieces_ne_nil path)
  rw [List.concat_eq_append] at hfront
  have hlast : counts last = false := by
    have hm := List.filter_eq_nil_iff.1 hnil last (by rw [hfront]; simp)
    simpa using hm
  have hdescend := descend_of_resolve hl hr
  rw [hfront] at hdescend
  have hdir := ht.directory_of_descend ((counts_eq_false_iff.1 hlast).imp_right Or.inl) hdescend
  rw [hg] at hdir
  cases hdir

theorem directoriesOnly_createDirectory {old new : FileSystem} (ht : old.IsTree)
    (hl : old.Linkless) {path : String} (hc : Path.Clean path)
    (h : old.createDirectory path = .ok new) :
    old.DirectoriesOnly new fun place =>
      (pieces path).filter counts ≠ [] ∧ place = old.destination path := by
  have hcounts := filter_counts_of_created ht hl hc h
  obtain ⟨place, hr, hg, rfl⟩ := createDirectory_ok hl hc h
  exact (DirectoriesOnly.refl old _).put hg ⟨hcounts, (hl.resolve hr).symm⟩

/-- Directories come to places of the paths that are created. -/
theorem directoriesOnly_createLineage {fs : FileSystem} (ht : fs.IsTree) (hl : fs.Linkless)
    {paths : List String} (hc : ∀ path ∈ paths, path ≠ "" → Path.Clean path) :
    fs.DirectoriesOnly (fs.createLineage paths).2 fun place => ∃ path ∈ paths, path ≠ "" ∧
      (pieces path).filter counts ≠ [] ∧ place = fs.destination path := by
  -- the paths lead where they led before, as what has been created is no link
  have hkept := createLineage_keeps (P := fun new => fs.Grows new ∧ new.IsTree ∧
    fs.DirectoriesOnly new fun place => ∃ path ∈ paths, path ≠ "" ∧
      (pieces path).filter counts ≠ [] ∧ place = fs.destination path)
    ⟨.refl fs, ht, .refl fs _⟩ fun path hm hpath => by
      rintro old new ⟨hgrows, htree, hmade⟩ hnew
      have honly := directoriesOnly_createDirectory htree (hgrows.linkless hl) (hc path hm hpath)
        hnew
      rw [hgrows.destination] at honly
      exact ⟨hgrows.trans (grows_createDirectory hnew),
        htree.createDirectory (hgrows.linkless hl) hnew,
        hmade.trans (honly.mono fun place hplace => ⟨path, hm, hpath, hplace⟩)⟩
  exact hkept.2.2

theorem DirectoriesOnly.sameBelow {old new : FileSystem} {named : Location → Prop}
    {place : Location} (h : old.DirectoriesOnly new named)
    (hn : ∀ via, named via → ¬place <+: via) : old.SameBelow new place := by
  intro other hp
  rcases h other with hsame | ⟨-, -, hnamed⟩
  · exact hsame
  · exact absurd hp (hn other hnamed)

theorem sameBelow_writeText {old new : FileSystem} (hl : old.Linkless) {path text : String}
    {place : Location} (hp : old.PassesBy path place) (h : old.writeText path text = .ok new) :
    old.SameBelow new place := by
  obtain ⟨written, x, hr, rfl, hold⟩ := writeBytes_ok h
  have hne := ne_nil_of_writable hold
  intro other ho
  rw [get?_put _ _ _ _ hne, if_neg]
  rintro rfl
  exact hp _ (passes_destination old path) (hl.resolve hr ▸ ho)

end FileSystem

end TestForge
