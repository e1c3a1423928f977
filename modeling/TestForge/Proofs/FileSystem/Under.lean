import TestForge.Proofs.FileSystem.Parents

/-!
# Paths below a root

A path below a root has the components of the root and some more behind them. It leads where the
root leads and from there along these, whatever stands in it that leads nowhere.
-/

namespace TestForge.FileSystem

open Text

/-- The path goes on from a root with some pieces that count, and in between it may stay where it
is. -/
structure Under (root path : String) (names : List String) : Prop where
  nonempty : root ≠ ""
  counted : (pieces path).filter counts = (pieces root).filter counts ++ names
  absolute : Path.isAbsolute path.toList = Path.isAbsolute root.toList

theorem Under.refl {root : String} (h : root ≠ "") : Under root root [] :=
  ⟨h, by simp, rfl⟩

theorem Under.counts_of_mem {root path : String} {names : List String} (h : Under root path names) :
    ∀ name ∈ names, counts name = true := by
  intro name hm
  have hmem : name ∈ (pieces path).filter counts :=
    h.counted ▸ List.mem_append_right _ hm
  exact (List.mem_filter.1 hmem).2

theorem filter_pieces_join {base s : String} (hb : base ≠ "")
    (hs : Path.isAbsolute s.toList = false) :
    (pieces (Path.join base s)).filter counts =
      (pieces base).filter counts ++ (pieces s).filter counts := by
  obtain ⟨front, hjoined, hbase | hbase⟩ := exists_pieces_join hb hs
  · rw [hjoined, hbase, List.filter_append]
  · rw [hjoined, hbase, List.filter_append, List.filter_append]
    simp [counts, Path.countsAsComponent]

theorem isAbsolute_join {base s : String} (hb : base ≠ "")
    (hs : Path.isAbsolute s.toList = false) :
    Path.isAbsolute (Path.join base s).toList = Path.isAbsolute base.toList := by
  obtain ⟨rest, hrest⟩ := exists_join hb hs
  have hne : base.toList ≠ [] := by simpa using hb
  obtain ⟨c, cs, hcs⟩ := List.exists_cons_of_ne_nil hne
  rw [hrest, String.toList_append, hcs]
  rfl

theorem Under.join {root path s : String} {names : List String} (h : Under root path names)
    (hp : path ≠ "") (hs : Path.isAbsolute s.toList = false) :
    Under root (Path.join path s) (names ++ (pieces s).filter counts) :=
  ⟨h.nonempty, by rw [filter_pieces_join hp hs, h.counted, List.append_assoc],
    (isAbsolute_join hp hs).trans h.absolute⟩

theorem Under.join_names {root path s : String} {names : List String} (h : Under root path names)
    (hp : path ≠ "") (hs : ∀ piece ∈ splitAtChar '/' s.toList, Path.IsName piece) :
    Under root (Path.join path s) (names ++ pieces s) := by
  have hjoined := h.join hp (isAbsolute_of_names hs)
  rwa [List.filter_eq_self.2 fun name hm => counts_of_isName (hs _ (mem_pieces.1 hm))] at hjoined

theorem dropTrailing_of_name {c : Char} {rest : List Char} (hc : c ≠ '/')
    (hd : c = '.' → rest.head? ≠ some '/') : Path.dropTrailing (c :: rest) = c :: rest := by
  unfold Path.dropTrailing
  split
  · rename_i h
    cases h
  · rename_i h
    cases h
    exact absurd rfl hc
  · rename_i h
    cases h
    exact absurd rfl hc
  · rename_i h
    cases h
    exact absurd rfl (hd rfl)
  · rename_i h
    exact h.symm

theorem clean_of_isName {s : String} (h : Path.IsName (Layout.lastPiece s.toList)) :
    Path.Clean s := by
  obtain ⟨hs, hslash, -⟩ := Layout.splitDirectory_spec s.toList
  have hne := h.nonempty
  have hdot := h.ne_here
  generalize Layout.lastPiece s.toList = last at hs hslash hne hdot
  rcases List.eq_nil_or_concat last with rfl | ⟨front, c, rfl⟩
  · exact absurd rfl hne
  · rw [List.concat_eq_append] at hs hslash hdot
    have hc : c ≠ '/' := fun he => hslash (by simp [he])
    rw [Path.Clean, hs, List.reverse_append, List.reverse_concat, List.cons_append]
    refine dropTrailing_of_name hc fun he => ?_
    rcases List.eq_nil_or_concat front with rfl | ⟨front, before, rfl⟩
    · exact absurd (by simp [he]) hdot
    · rw [List.concat_eq_append] at hslash ⊢
      have hb : before ≠ '/' := fun he => hslash (by simp [he])
      simpa using hb

theorem clean_join {base s : String}
    (hs : ∀ piece ∈ splitAtChar '/' s.toList, Path.IsName piece) :
    Path.Clean (Path.join base s) := by
  refine clean_of_isName ?_
  rw [lastPiece_join]
  obtain ⟨front, hfront⟩ := List.getLast?_eq_some_iff.1 (Layout.getLast?_splitAtChar s.toList)
  exact hs _ (by rw [hfront]; simp)

/-! ## Where they lead -/

/-- Pieces that count lead to a directory whatever stands between them. -/
theorem descend_of_filter {fs : FileSystem} {here place : Location} {ways others : List String}
    (h : others.filter counts = ways.filter counts) (hp : fs.get? place = some .directory)
    (hw : fs.descend here ways = .ok place) : fs.descend here others = .ok place := by
  have hstay (place : Location) (hp : fs.get? place = some .directory) :
      fs.descend place [""] = .ok place := by
    have hplace : fs.requireDirectory place = .ok () := requireDirectory_ok_iff.2 hp
    simp [descend, hplace]
  have hboth : fs.descend here (others ++ [""]) = .ok place := by
    rw [descend_filter, h, ← descend_filter, descend_append, hw]
    exact hstay place hp
  rw [descend_append] at hboth
  cases ho : fs.descend here others with
  | error e =>
      rw [ho] at hboth
      cases hboth
  | ok other =>
      rw [ho] at hboth
      simp only [Except.bind, descend] at hboth
      split at hboth
      · cases hboth
      · simpa using hboth

section

variable {fs : FileSystem} {root path : String} {base : Location} {names : List String}

theorem components_ne_nil (hn : (pieces path).filter counts ≠ []) :
    Path.components path.toList ≠ [] := by
  intro hc
  refine hn (List.filter_eq_nil_iff.2 fun piece hp hcounts => ?_)
  unfold Path.components at hc
  rw [mem_pieces] at hp
  split at hc
  · rename_i hs
    rw [hs] at hp
    cases hp
  · rename_i first rest hs
    obtain ⟨hfirst, hrest⟩ := List.append_eq_nil_iff.1 hc
    rw [hs] at hp
    rcases List.mem_cons.1 hp with rfl | hm
    · have hempty : piece.toList = [] := by simpa using hfirst
      simp [counts, Path.countsAsComponent, hempty] at hcounts
    · exact List.filter_eq_nil_iff.1 hrest _ hm hcounts

/-- A clean path has its last component last. -/
theorem pieces_of_clean (hc : Path.Clean path) (hn : (pieces path).filter counts ≠ []) :
    ∃ front last, pieces path = front ++ [last] ∧ counts last = true := by
  obtain ⟨front, hfront⟩ := List.getLast?_eq_some_iff.1 (getLast?_pieces path)
  refine ⟨front, _, hfront, ?_⟩
  obtain ⟨hs, hslash, hdirectory⟩ := Layout.splitDirectory_spec path.toList
  rcases hdirectory with hempty | ⟨directory, hdirectory⟩
  · rw [hempty, List.nil_append] at hs
    rw [← hs, String.ofList_toList]
    by_contra hcounts
    exact hn (by rw [pieces_name (hs ▸ hslash)]; simpa using hcounts)
  · rw [hdirectory, List.append_assoc, List.singleton_append] at hs
    simpa [counts] using Path.counts_of_clean hc hs (components_ne_nil hn)

namespace Under

theorem start_eq (h : Under root path names) : fs.start path = fs.start root := by
  rw [start, start, h.absolute]

/-- The last of the names is the last piece of a path, and the pieces in front of it lead where the
names above it lead. -/
theorem exists_last (h : Under root path names) (hc : Path.Clean path) (hn : names ≠ []) :
    ∃ front above last, pieces path = front ++ [last] ∧ names = above ++ [last] ∧
      front.filter counts = (pieces root ++ above).filter counts := by
  obtain ⟨front, last, hpieces, hcounts⟩ := pieces_of_clean hc (by rw [h.counted]; simp [hn])
  obtain ⟨above, name, rfl⟩ : ∃ above name, names = above ++ [name] := by
    rcases List.eq_nil_or_concat names with hnil | ⟨above, name, hconcat⟩
    · exact absurd hnil hn
    · exact ⟨above, name, by rw [hconcat, List.concat_eq_append]⟩
  have hcounted := h.counted
  rw [hpieces, List.filter_append, List.filter_cons_of_pos hcounts, List.filter_nil,
    ← List.append_assoc] at hcounted
  obtain ⟨hfront, hlast⟩ := List.append_inj' hcounted rfl
  obtain rfl : last = name := by simpa using hlast
  have habove : above.filter counts = above := List.filter_eq_self.2 fun piece hp =>
    h.counts_of_mem piece (List.mem_append_left _ hp)
  exact ⟨front, above, last, hpieces, rfl, by rw [hfront, List.filter_append, habove]⟩

/-- A path below a directory leads from there along its names. -/
theorem resolve (h : Under root path names) (hl : fs.Linkless) (hc : Path.Clean path)
    (hk : checkPath path = .ok ()) (hr : fs.resolve root true = .ok base) (hn : names ≠ [])
    (follow : Bool) : fs.resolve path follow = fs.descend base names := by
  obtain ⟨front, above, last, hpieces, rfl, hfront⟩ := h.exists_last hc hn
  rw [hl.resolve_eq, hk, h.start_eq, hpieces]
  calc fs.descend (fs.start root) (front ++ [last])
      = fs.descend (fs.start root) (pieces root ++ above ++ [last]) := by
        rw [descend_filter, hfront, ← descend_filter]
    _ = fs.descend base (above ++ [last]) := by
        rw [List.append_assoc, descend_append, descend_of_resolve hl hr]
        rfl

/-- What has no names below the root leads to the root. -/
theorem resolve_root (h : Under root path []) (hl : fs.Linkless) (hk : checkPath path = .ok ())
    (hr : fs.resolve root true = .ok base) (hd : fs.get? base = some .directory)
    (follow : Bool) : fs.resolve path follow = .ok base := by
  rw [hl.resolve_eq, hk, h.start_eq]
  exact descend_of_filter (by rw [h.counted, List.append_nil]) hd (descend_of_resolve hl hr)

theorem exists_parent? {name : String} (h : Under root path (names ++ [name])) :
    ∃ up, Path.parent? path = some up := by
  have hne : Path.components path.toList ≠ [] := components_ne_nil (by rw [h.counted]; simp)
  unfold Path.parent?
  rw [if_neg (by simpa using hne)]
  exact ⟨_, rfl⟩

/-- What lies above a path below a root lies below the root, unless it is the empty path. -/
theorem parent? {up name : String} (h : Under root path (names ++ [name]))
    (hc : Path.Clean path) (hp : Path.parent? path = some up) :
    up = "" ∧ names = [] ∨ up ≠ "" ∧ Under root up names := by
  have hcounted := h.counted
  by_cases hu : up = ""
  · subst hu
    refine Or.inl ⟨rfl, ?_⟩
    rw [pieces_name (Path.notMem_of_parent?_empty hc hp), ← List.append_assoc] at hcounted
    have hle := List.length_filter_le counts [path]
    rw [hcounted] at hle
    simp only [List.length_append, List.length_singleton] at hle
    exact List.length_eq_zero_iff.1 (by omega)
  · obtain ⟨front, last, hpieces, hcounts, hfront⟩ := pieces_parent? hc hp hu
    rw [hpieces, List.filter_append, List.filter_cons_of_pos hcounts, List.filter_nil,
      ← List.append_assoc, hfront] at hcounted
    exact Or.inr ⟨hu, h.nonempty, (List.append_inj' hcounted rfl).1,
      (Path.isAbsolute_parent? hc hp hu).trans h.absolute⟩

end Under

end

/-- The parent of a name behind a slash is what stands before it. -/
theorem parent?_slash {base name : String} (hb : base ≠ "") (hc : Path.Clean base)
    (hn : Path.IsName name.toList) (hs : '/' ∉ name.toList) :
    Path.parent? (base ++ ("/" ++ name)) = some base := by
  have hlist : (base ++ ("/" ++ name)).toList = base.toList ++ '/' :: name.toList := by
    rw [String.toList_append, String.toList_append]
    rfl
  have hlast := Layout.getLast?_splitAtChar name.toList
  rw [splitAtChar_eq_singleton hs, List.getLast?_singleton, Option.some.injEq] at hlast
  have hclean : Path.Clean (base ++ ("/" ++ name)) := by
    refine clean_of_isName ?_
    rwa [hlist, Layout.lastPiece_append_slash, ← hlast]
  have hcounted : (pieces (base ++ ("/" ++ name))).filter counts ≠ [] := by
    rw [pieces_slash, pieces_name hs, List.filter_append,
      List.filter_cons_of_pos (counts_of_isName hn)]
    simp
  have hbase : base.toList.reverse ≠ [] := by simpa using hb
  have hdrop : (name.toList.reverse ++ '/' :: base.toList.reverse).dropWhile (· ≠ '/') =
      '/' :: base.toList.reverse := by
    rw [List.dropWhile_append_of_pos fun c hm => by
      simpa using fun he : c = '/' => hs (he ▸ List.mem_reverse.1 hm)]
    exact List.dropWhile_cons_of_neg (by simp)
  rw [Path.Clean] at hclean hc
  rw [Path.parent?, if_neg (by simpa using components_ne_nil hcounted)]
  simp only [hclean]
  rw [hlist, List.reverse_append, List.reverse_cons, List.append_assoc, List.singleton_append,
    hdrop, Path.dropTrailing_slash hbase, hc, List.reverse_reverse, String.ofList_toList]

end TestForge.FileSystem
