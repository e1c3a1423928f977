import TestForge.Proofs.FileSystem.Parents

/-!
# Entering directories

A path leads on from a directory, whatever links lead there: a name that is joined to the path leads
to the entry of that name, and needs no link of its own. So what lies in a directory at all depths is
read by the names that lead to it.
-/

namespace TestForge.FileSystem

open Text

variable {fs : FileSystem}

/-- A name that an entry of a directory can have. -/
structure IsEntryName (name : String) : Prop where
  isName : Path.IsName name.toList
  onePiece : '/' ∉ name.toList
  short : name.utf8ByteSize ≤ maxNameBytes

instance (name : String) : Decidable (IsEntryName name) :=
  decidable_of_iff (Path.IsName name.toList ∧ '/' ∉ name.toList ∧ name.utf8ByteSize ≤ maxNameBytes)
    ⟨fun ⟨h, h', h''⟩ => ⟨h, h', h''⟩, fun h => ⟨h.isName, h.onePiece, h.short⟩⟩

/-- All entries have names that a directory can hold. -/
def WellNamed (fs : FileSystem) : Prop :=
  ∀ place name, fs.get? (place ++ [name]) ≠ none → IsEntryName name

theorem exists_entry_of_find? {place : Location} {entries : List (Location × Entry)}
    (h : find? place entries ≠ none) : ∃ e, (place, e) ∈ entries := by
  induction entries with
  | nil => exact absurd rfl h
  | cons head rest ih =>
      obtain ⟨key, e⟩ := head
      simp only [find?] at h
      split at h
      · rename_i hk
        exact ⟨e, by rw [hk]; exact List.mem_cons_self⟩
      · obtain ⟨e', hm⟩ := ih h
        exact ⟨e', List.mem_cons_of_mem _ hm⟩

theorem exists_entry {place : Location} (hp : place ≠ []) (h : fs.get? place ≠ none) :
    ∃ e, (place, e) ∈ fs.entries := by
  rw [get?, if_neg hp] at h
  exact exists_entry_of_find? h

theorem wellNamed_of_entries (h : ∀ entry ∈ fs.entries, ∀ name ∈ entry.1, IsEntryName name) :
    fs.WellNamed := by
  intro place name hg
  obtain ⟨e, hm⟩ := exists_entry (by simp) hg
  exact h _ hm name (by simp)

/-- A tree ends at some depth. -/
theorem exists_depth (fs : FileSystem) :
    ∃ depth, ∀ place, fs.get? place ≠ none → place.length ≤ depth := by
  have hbound : ∀ entries : List (Location × Entry),
      ∃ depth, ∀ entry ∈ entries, entry.1.length ≤ depth := by
    intro entries
    induction entries with
    | nil => exact ⟨0, by simp⟩
    | cons head rest ih =>
        obtain ⟨depth, hdepth⟩ := ih
        refine ⟨max head.1.length depth, fun entry hm => ?_⟩
        rcases List.mem_cons.1 hm with rfl | hm
        · exact Nat.le_max_left _ _
        · exact (hdepth entry hm).trans (Nat.le_max_right _ _)
  obtain ⟨depth, hdepth⟩ := hbound fs.entries
  refine ⟨depth, fun place hg => ?_⟩
  by_cases hp : place = []
  · rw [hp]
    exact Nat.zero_le depth
  · obtain ⟨e, hm⟩ := exists_entry hp hg
    exact hdepth _ hm

/-! ## Walks that go on -/

/-- What is left of a walk goes on where its front has led, with the links that may still be
followed. -/
theorem walk_append {links : Nat} {here place : Location} {front : List String}
    (h : fs.walk true links here front = .ok place) :
    ∃ left, ∀ follow back, back ≠ [] →
      fs.walk follow links here (front ++ back) = fs.walk follow left place back := by
  fun_induction fs.walk true links here front with
  | case1 links here =>
      cases h
      exact ⟨links, fun _ _ _ => rfl⟩
  | case2 => cases h
  | case3 links here piece rest hd hp ih =>
      obtain ⟨left, hleft⟩ := ih h
      refine ⟨left, fun follow back hb => ?_⟩
      rw [List.cons_append, walk]
      simpa only [hd, hp, ↓reduceIte] using hleft follow back hb
  | case4 links here rest hd hp ih =>
      obtain ⟨left, hleft⟩ := ih h
      refine ⟨left, fun follow back hb => ?_⟩
      rw [List.cons_append, walk]
      simpa only [hd, hp, ↓reduceIte] using hleft follow back hb
  | case5 => cases h
  | case6 links here piece rest _ _ _ _ target _ hlast => simp at hlast
  | case7 => cases h
  | case8 here piece rest hd hp hu hs target hg _ links ih =>
      obtain ⟨left, hleft⟩ := ih h
      refine ⟨left, fun follow back hb => ?_⟩
      have hrest : (rest ++ back).isEmpty = false := by simp [hb]
      rw [List.cons_append, walk]
      simpa only [hd, hp, hu, hs, hg, hrest, ↓reduceIte, Bool.false_and, Bool.false_eq_true,
        List.append_assoc] using hleft follow back hb
  | case9 links here piece rest hd hp hu hs hg ih =>
      obtain ⟨left, hleft⟩ := ih h
      refine ⟨left, fun follow back hb => ?_⟩
      rw [List.cons_append, walk]
      simpa only [hd, hp, hu, hs, hg, ↓reduceIte] using hleft follow back hb

/-- What leads nowhere may be left out in front of a piece, also where links are followed. -/
theorem walk_filter (fs : FileSystem) (follow : Bool) (links : Nat) (here : Location)
    (pieces : List String) (last : String) :
    fs.walk follow links here (pieces ++ [last]) =
      fs.walk follow links here (pieces.filter counts ++ [last]) := by
  induction links using Nat.strongRecOn generalizing here pieces with
  | ind links hlinks =>
      induction pieces generalizing here with
      | nil => rfl
      | cons piece pieces ih =>
          have hrest (ps : List String) : (ps ++ [last]).isEmpty = false := by simp
          cases hp : counts piece with
          | true =>
              rw [List.filter_cons_of_pos hp, List.cons_append, List.cons_append, walk, walk]
              simp only [ih, hrest, Bool.false_and, Bool.false_eq_true, ↓reduceIte]
              cases fs.get? (here ++ [piece]) with
              | none => rfl
              | some entry =>
                  cases entry with
                  | file content x => rfl
                  | directory => rfl
                  | link target =>
                      cases links with
                      | zero => rfl
                      | succ links =>
                          have hboth := hlinks links (Nat.lt_succ_self links)
                            (linkStart here target)
                          simp only [← List.append_assoc]
                          rw [hboth, hboth (FileSystem.pieces target ++ pieces.filter counts),
                            List.filter_append, List.filter_append, List.filter_filter]
                          simp only [Bool.and_self]
          | false =>
              rw [List.filter_cons_of_neg (by simp [hp]), List.cons_append, walk, ← ih]
              simp only [counts_eq_false_iff.1 hp, ↓reduceIte]
              split
              · rename_i e he
                cases pieces with
                | nil => rw [List.nil_append, walk, he]
                | cons next pieces => rw [List.cons_append, walk, he]
              · rfl

/-- A walk goes on into an entry that is no link. -/
theorem walk_concat {links : Nat} {here place : Location} {pieces : List String} {name : String}
    (h : fs.walk true links here pieces = .ok place) (hd : fs.get? place = some .directory)
    (hn : IsEntryName name) (hl : ∀ target, fs.get? (place ++ [name]) ≠ some (.link target)) :
    fs.walk true links here (pieces ++ [name]) = .ok (place ++ [name]) := by
  obtain ⟨left, hleft⟩ := walk_append h
  have hstay := not_stays_of_isName hn.isName
  have hup := not_up_of_isName hn.isName
  have hshort : ¬name.utf8ByteSize > maxNameBytes := Nat.not_lt.2 hn.short
  have hdir : fs.requireDirectory place = .ok () := requireDirectory_ok_iff.2 hd
  rw [hleft true [name] (List.cons_ne_nil name []), walk]
  simp only [hdir, hstay, hup, hshort, ↓reduceIte]
  rw [walk]

/-- A slash at the end asks for a directory and leads no further. -/
theorem walk_of_concat_empty {links : Nat} {here place : Location} {pieces : List String}
    (h : fs.walk true links here (pieces ++ [""]) = .ok place) :
    fs.walk true links here pieces = .ok place := by
  fun_induction fs.walk true links here pieces with
  | case1 links here =>
      rw [List.nil_append, walk] at h
      split at h
      · cases h
      · simpa only [true_or, ↓reduceIte, walk] using h
  | case2 links here piece rest e he =>
      rw [List.cons_append, walk, he] at h
      cases h
  | case3 links here piece rest hdir hp ih =>
      rw [List.cons_append, walk] at h
      simp only [hdir, hp, ↓reduceIte] at h
      exact ih h
  | case4 links here rest hdir hp ih =>
      rw [List.cons_append, walk] at h
      simp only [hdir, hp, ↓reduceIte] at h
      exact ih h
  | case5 links here piece rest hdir hp hu hs =>
      rw [List.cons_append, walk] at h
      simp [hdir, hp, hu, hs] at h
  | case6 links here piece rest _ _ _ _ target _ hlast => simp at hlast
  | case7 here piece rest hdir hp hu hs target hg hlast =>
      rw [List.cons_append, walk] at h
      simp [hdir, hp, hu, hs, hg] at h
  | case8 here piece rest hdir hp hu hs target hg hlast links ih =>
      rw [List.cons_append, walk] at h
      simp only [hdir, hp, hu, hs, hg, ↓reduceIte, Bool.not_true, Bool.and_false,
        Bool.false_eq_true] at h
      exact ih (by rwa [List.append_assoc])
  | case9 links here piece rest hdir hp hu hs _ ih =>
      rw [List.cons_append, walk] at h
      simp only [hdir, hp, hu, hs, ↓reduceIte] at h
      exact ih h

/-- A path that leads to a directory leads there too if links at its end are not followed, or to a
link. -/
theorem walk_unfollowed {links : Nat} {here place : Location} {pieces : List String}
    (h : fs.walk true links here pieces = .ok place) :
    ∃ there, fs.walk false links here pieces = .ok there ∧
      (there = place ∨ ∃ target, fs.get? there = some (.link target)) := by
  fun_induction fs.walk true links here pieces with
  | case1 links here =>
      cases h
      exact ⟨place, by rw [walk], Or.inl rfl⟩
  | case2 => cases h
  | case3 links here piece rest hdir hp ih =>
      rw [walk]
      simpa only [hdir, hp, ↓reduceIte] using ih h
  | case4 links here rest hdir hp ih =>
      rw [walk]
      simpa only [hdir, hp, ↓reduceIte] using ih h
  | case5 => cases h
  | case6 links here piece rest _ _ _ _ target _ hlast => simp at hlast
  | case7 => cases h
  | case8 here piece rest hdir hp hu hs target hg _ links ih =>
      cases hr : rest.isEmpty with
      | true =>
          refine ⟨here ++ [piece], ?_, Or.inr ⟨target, hg⟩⟩
          rw [walk]
          simp only [hdir, hp, hu, hs, hg, hr, ↓reduceIte, Bool.not_false, Bool.and_self]
      | false =>
          rw [walk]
          simpa only [hdir, hp, hu, hs, hg, hr, ↓reduceIte, Bool.false_and,
            Bool.false_eq_true] using ih h
  | case9 links here piece rest hdir hp hu hs hg ih =>
      rw [walk]
      simpa only [hdir, hp, hu, hs, hg, ↓reduceIte] using ih h

/-- A path that leads to what is no link leads there also if links at its end are followed. -/
theorem walk_followed {links : Nat} {here place : Location} {pieces : List String}
    (h : fs.walk false links here pieces = .ok place)
    (hl : ∀ target, fs.get? place ≠ some (.link target)) :
    fs.walk true links here pieces = .ok place := by
  fun_induction fs.walk false links here pieces with
  | case1 links here => rwa [walk]
  | case2 => cases h
  | case3 links here piece rest hd hp ih =>
      rw [walk]
      simpa only [hd, hp, ↓reduceIte] using ih h
  | case4 links here rest hd hp ih =>
      rw [walk]
      simpa only [hd, hp, ↓reduceIte] using ih h
  | case5 => cases h
  | case6 links here piece rest _ _ _ _ target hg _ =>
      cases h
      exact absurd hg (hl target)
  | case7 => cases h
  | case8 here piece rest hd hp hu hs target hg hlast links ih =>
      rw [walk]
      simpa only [hd, hp, hu, hs, hg, ↓reduceIte, Bool.not_true, Bool.and_false,
        Bool.false_eq_true] using ih h
  | case9 links here piece rest hd hp hu hs hg ih =>
      rw [walk]
      simpa only [hd, hp, hu, hs, hg, ↓reduceIte] using ih h

/-! ## Joined names -/

theorem pieces_join_name {root name : String} (hr : root ≠ "") (hn : '/' ∉ name.toList) :
    pieces (Path.join root name) = pieces root ++ [name] ∨
      ∃ front, pieces root = front ++ [""] ∧ pieces (Path.join root name) = front ++ [name] := by
  have habsolute : Path.isAbsolute name.toList = false := by
    cases hc : name.toList with
    | nil => rfl
    | cons c cs =>
        rw [hc, List.mem_cons, not_or] at hn
        simpa [Path.isAbsolute] using Ne.symm hn.1
  have hne : root.toList.isEmpty = false := by simpa using hr
  unfold Path.join Path.joinChars
  simp only [habsolute, hne, Bool.false_eq_true, ↓reduceIte]
  split
  · rename_i hlast
    obtain ⟨front, hf⟩ := List.getLast?_eq_some_iff.1 hlast
    have hroot : root = String.ofList (front ++ ['/']) := by rw [← hf, String.ofList_toList]
    refine Or.inr ⟨pieces (String.ofList front), ?_, ?_⟩
    · rw [hroot, pieces_append_slash]
      rfl
    · rw [hf, List.append_assoc, List.singleton_append, pieces_append_slash, String.ofList_toList,
        pieces_name hn]
  · rw [pieces_append_slash, String.ofList_toList, String.ofList_toList, pieces_name hn]
    exact Or.inl rfl

theorem resolve_join_name {root name : String} {place : Location}
    (h : fs.resolve root true = .ok place) (hd : fs.get? place = some .directory)
    (hn : IsEntryName name) (hl : ∀ target, fs.get? (place ++ [name]) ≠ some (.link target))
    (hk : checkPath (Path.join root name) = .ok ()) :
    fs.resolve (Path.join root name) true = .ok (place ++ [name]) := by
  have hroot : root ≠ "" := (checkPath_ok_iff.1 (checkPath_of_resolve h)).2.1
  have hwalk : fs.walk true maxLinks (fs.start root) (pieces root) = .ok place := by
    rw [resolve, checkPath_of_resolve h] at h
    exact h
  have hstart : fs.start (Path.join root name) = fs.start root := by
    have habsolute : Path.isAbsolute name.toList = false :=
      isAbsolute_of_names (by
        rw [splitAtChar_eq_singleton hn.onePiece]
        simpa using hn.isName)
    obtain ⟨rest, hrest⟩ := exists_join hroot habsolute
    rw [hrest, fs.start_append hroot]
  rw [resolve, hk, hstart]
  rcases pieces_join_name hroot hn.onePiece with hpieces | ⟨front, hfront, hpieces⟩
  · rw [hpieces]
    exact walk_concat hwalk hd hn hl
  · rw [hpieces]
    rw [hfront] at hwalk
    exact walk_concat (walk_of_concat_empty hwalk) hd hn hl

end TestForge.FileSystem
