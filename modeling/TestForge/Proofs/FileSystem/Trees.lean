import TestForge.Proofs.FileSystem.Descent

/-!
# Well-formed trees

In a tree no place is named twice, and what is there lies in a directory. Creating directories and
writing files keeps it so: without links, a path leads to something that is there or to a name in a
directory.
-/

namespace TestForge

def Entry.isLink : Entry → Bool
  | .link _ => true
  | _ => false

namespace FileSystem

/-- One entry for a place at most, and a directory above each entry. -/
structure IsTree (fs : FileSystem) : Prop where
  distinct : (fs.entries.map Prod.fst).Nodup
  parent : ∀ place name, fs.get? (place ++ [name]) ≠ none → fs.get? place = some .directory

/-! ## Entries -/

theorem find?_eq_some_iff {place : Location} {e : Entry} {entries : List (Location × Entry)}
    (h : (entries.map Prod.fst).Nodup) :
    find? place entries = some e ↔ (place, e) ∈ entries := by
  induction entries with
  | nil => simp [find?]
  | cons head rest ih =>
      obtain ⟨key, old⟩ := head
      rw [List.map_cons, List.nodup_cons] at h
      simp only [find?, List.mem_cons, Prod.mk.injEq]
      by_cases hk : key = place
      · subst hk
        have hnot : (key, e) ∉ rest := fun hm =>
          h.1 (List.mem_map.2 ⟨(key, e), hm, rfl⟩)
        simp [hnot, eq_comm]
      · simp [hk, Ne.symm hk, ih h.2]

theorem get?_eq_some_iff {fs : FileSystem} (h : (fs.entries.map Prod.fst).Nodup)
    {place : Location} (hp : place ≠ []) {e : Entry} :
    fs.get? place = some e ↔ (place, e) ∈ fs.entries := by
  rw [get?, if_neg hp, find?_eq_some_iff h]

theorem map_setEntry (place : Location) (e : Entry) (entries : List (Location × Entry)) :
    (setEntry place e entries).map Prod.fst =
      if place ∈ entries.map Prod.fst then entries.map Prod.fst
      else entries.map Prod.fst ++ [place] := by
  induction entries with
  | nil => rfl
  | cons head rest ih =>
      obtain ⟨key, old⟩ := head
      by_cases hk : key = place
      · simp [setEntry, hk]
      · simp only [setEntry, if_neg hk, List.map_cons, ih, List.mem_cons, Ne.symm hk, false_or]
        split <;> rfl

theorem nodup_setEntry {place : Location} {e : Entry} {entries : List (Location × Entry)}
    (h : (entries.map Prod.fst).Nodup) : ((setEntry place e entries).map Prod.fst).Nodup := by
  rw [map_setEntry]
  split
  · exact h
  · rename_i hn
    exact List.nodup_append.2 ⟨h, by simp, fun a ha b hb hab => hn (by simp_all)⟩

/-- A tree is well-formed if its entries are. -/
theorem isTree_of_entries {fs : FileSystem} (hd : (fs.entries.map Prod.fst).Nodup)
    (hp : ∀ entry ∈ fs.entries, fs.get? entry.1.dropLast = some .directory) : fs.IsTree := by
  refine ⟨hd, fun place name hg => ?_⟩
  obtain ⟨e, he⟩ := Option.ne_none_iff_exists'.1 hg
  have hm := (get?_eq_some_iff hd (by simp)).1 he
  simpa using hp _ hm

theorem linkless_of_entries {fs : FileSystem} (hd : (fs.entries.map Prod.fst).Nodup)
    (hp : ∀ entry ∈ fs.entries, entry.2.isLink = false) : fs.Linkless := by
  intro place target hg
  have hne := ne_nil_of_get? hg (by simp)
  have hlink := hp _ ((get?_eq_some_iff hd hne).1 hg)
  cases hlink

/-! ## Places -/

namespace IsTree

variable {fs : FileSystem}

/-- What lies above an entry is a directory. -/
theorem directory (h : fs.IsTree) {place : Location} {names : List String} (hn : names ≠ [])
    (hg : fs.get? (place ++ names) ≠ none) : fs.get? place = some .directory := by
  induction names generalizing place with
  | nil => exact absurd rfl hn
  | cons name names ih =>
      cases names with
      | nil => exact h.parent place name hg
      | cons next names =>
          have hnext : fs.get? (place ++ [name]) = some .directory :=
            ih (List.cons_ne_nil next names) (by simpa using hg)
          exact h.parent place name (by simp [hnext])

theorem dropLast (h : fs.IsTree) {place : Location} (hd : fs.get? place = some .directory) :
    fs.get? place.dropLast = some .directory := by
  rcases List.eq_nil_or_concat place with rfl | ⟨up, name, rfl⟩
  · exact hd
  · rw [List.concat_eq_append] at hd ⊢
    rw [List.dropLast_concat]
    exact h.parent up name (by simp [hd])

/-- Nothing lies below what is missing or a file. -/
theorem eq_none (h : fs.IsTree) {place : Location} (hd : fs.get? place ≠ some .directory)
    {names : List String} (hn : names ≠ []) : fs.get? (place ++ names) = none :=
  Classical.byContradiction fun hg => hd (h.directory hn hg)

/-- A new entry in a directory. -/
theorem put (h : fs.IsTree) {up : Location} {name : String} (hd : fs.get? up = some .directory)
    (hn : fs.get? (up ++ [name]) ≠ some .directory) (e : Entry) :
    (fs.put (up ++ [name]) e).IsTree := by
  refine ⟨nodup_setEntry h.distinct, fun place other hg => ?_⟩
  have hne : up ++ [name] ≠ [] := by simp
  rw [get?_put _ _ _ _ hne] at hg ⊢
  split at hg
  · rename_i he
    have hup : up = place := (List.append_inj' he rfl).1
    rw [← hup, if_neg (by simp), hd]
  · have hplace := h.parent place other hg
    have hother : up ++ [name] ≠ place := fun he => hn (he ▸ hplace)
    rw [if_neg hother, hplace]

/-! ## Where paths lead -/

/-- A place that is there, or that a name in a directory stands for. -/
def Placed (fs : FileSystem) (place : Location) : Prop :=
  fs.get? place ≠ none ∨ ∃ up name, place = up ++ [name] ∧ fs.get? up = some .directory

theorem placed_of_descend (h : fs.IsTree) {here place : Location} {pieces : List String}
    (hp : fs.get? here ≠ none ∨ pieces ≠ []) (hd : fs.descend here pieces = .ok place) :
    Placed fs place := by
  have hnext {here : Location} {rest : List String} (hg : fs.get? here ≠ none)
      (ih : (fs.get? here ≠ none ∨ rest ≠ []) → fs.descend here rest = .ok place →
        Placed fs place) (hd : fs.descend here rest = .ok place) : Placed fs place :=
    ih (Or.inl hg) hd
  fun_induction fs.descend here pieces with
  | case1 here =>
      cases hd
      rcases hp with hp | hp
      · exact Or.inl hp
      · exact absurd rfl hp
  | case2 => cases hd
  | case3 here piece rest hdir _ ih =>
      exact hnext (by simp [requireDirectory_ok_iff.1 hdir]) ih hd
  | case4 here rest hdir _ ih =>
      exact hnext (by simp [h.dropLast (requireDirectory_ok_iff.1 hdir)]) ih hd
  | case5 => cases hd
  | case6 here piece rest hdir _ _ _ ih =>
      by_cases hr : rest = []
      · subst hr
        cases hd
        exact Or.inr ⟨here, piece, rfl, requireDirectory_ok_iff.1 hdir⟩
      · exact ih (Or.inr hr) hd

theorem placed_of_resolve (h : fs.IsTree) (hl : fs.Linkless) {path : String} {follow : Bool}
    {place : Location} (hr : fs.resolve path follow = .ok place) : Placed fs place :=
  h.placed_of_descend (Or.inr (pieces_ne_nil path)) (descend_of_resolve hl hr)

/-- A way that ends in a piece which names nothing ends in a directory. -/
theorem directory_of_descend (h : fs.IsTree) {here place : Location} {front : List String}
    {last : String} (hn : NamesNothing last)
    (hd : fs.descend here (front ++ [last]) = .ok place) : fs.get? place = some .directory := by
  rw [descend_append] at hd
  cases hf : fs.descend here front with
  | error e =>
      rw [hf] at hd
      cases hd
  | ok up =>
      rw [hf] at hd
      simp only [Except.bind, descend] at hd
      split at hd
      · cases hd
      · rename_i hdir
        have hup := requireDirectory_ok_iff.1 hdir
        split at hd
        · cases hd
          exact hup
        · rename_i hstay
          rw [if_pos (by simpa [NamesNothing, or_assoc, not_or.1 hstay] using hn)] at hd
          cases hd
          exact h.dropLast hup

/-- What can be read has a name. -/
theorem isName_of_readBytes (h : fs.IsTree) (hl : fs.Linkless) {path : String}
    {content : ByteArray} (hr : fs.readBytes path = .ok content) :
    Path.IsName (Layout.lastPiece path.toList) := by
  by_contra hn
  obtain ⟨x, hs⟩ := readBytes_ok_iff.1 hr
  obtain ⟨place, hp, hf⟩ := status_ok_iff.1 hs
  obtain ⟨front, hfront⟩ := List.getLast?_eq_some_iff.1 (getLast?_pieces path)
  have hdescend := descend_of_resolve hl hp
  rw [hfront] at hdescend
  rw [h.directory_of_descend (namesNothing_lastPiece hn) hdescend] at hf
  cases hf

/-! ## Operations -/

theorem createDirectory (h : fs.IsTree) (hl : fs.Linkless) {path : String} {new : FileSystem}
    (hc : fs.createDirectory path = .ok new) : new.IsTree := by
  obtain ⟨place, hr, hg, rfl⟩ := createDirectory_put hc
  rcases h.placed_of_resolve hl hr with hp | ⟨up, name, rfl, hd⟩
  · exact absurd hg hp
  · exact h.put hd (by simp [hg]) .directory

theorem createLineage (h : fs.IsTree) (hl : fs.Linkless) (paths : List String) :
    (fs.createLineage paths).2.IsTree := by
  have hkept : (fs.createLineage paths).2.IsTree ∧ (fs.createLineage paths).2.Linkless := by
    refine createLineage_keeps (P := fun new => new.IsTree ∧ new.Linkless) ⟨h, hl⟩ ?_
    rintro path - - old new ⟨htree, hlinkless⟩ hc
    exact ⟨htree.createDirectory hlinkless hc, (grows_createDirectory hc).linkless hlinkless⟩
  exact hkept.1

theorem createDirectories (h : fs.IsTree) (hl : fs.Linkless) (path : String) :
    (fs.createDirectories path).2.IsTree :=
  h.createLineage hl _

theorem writeBytes (h : fs.IsTree) (hl : fs.Linkless) {path : String} {content : ByteArray}
    {new : FileSystem} (hw : fs.writeBytes path content = .ok new) : new.IsTree := by
  obtain ⟨place, x, hr, rfl, hold⟩ := writeBytes_ok hw
  have hnot : fs.get? place ≠ some .directory := by
    rcases hold with hold | ⟨content', hold⟩ <;> simp [hold]
  rcases h.placed_of_resolve hl hr with hp | ⟨up, name, rfl, hd⟩
  · -- what is there is a file, which lies in a directory
    rcases List.eq_nil_or_concat place with rfl | ⟨up, name, rfl⟩
    · exact absurd (get?_nil fs) hnot
    · rw [List.concat_eq_append] at hp hnot ⊢
      exact h.put (h.parent up name hp) hnot _
  · exact h.put hd hnot _

end IsTree

end FileSystem

end TestForge
