import TestForge.Proofs.FileSystem.Growth
import TestForge.Proofs.Layout

/-!
# Files have names

A path whose last piece is empty or made of dots leads to a directory. So the last piece of a path
that can be read is the name of a file, whatever links it goes through.
-/

namespace TestForge.FileSystem

open Text

/-- All that lies above a place is a directory, as it is above every place that can be walked to. -/
def Reached (fs : FileSystem) (place : Location) : Prop :=
  ∀ above, above <+: place.dropLast → fs.get? above = some .directory

theorem reached_nil (fs : FileSystem) : fs.Reached [] := by
  intro above hp
  rw [List.prefix_nil.1 hp]
  exact get?_nil fs

theorem Reached.dropLast {fs : FileSystem} {place : Location} (h : fs.Reached place) :
    fs.Reached place.dropLast :=
  fun above hp => h above (hp.trans (List.dropLast_prefix _))

theorem Reached.concat {fs : FileSystem} {place : Location} (h : fs.Reached place)
    (hd : fs.get? place = some .directory) (name : String) : fs.Reached (place ++ [name]) := by
  intro above hp
  rw [List.dropLast_concat] at hp
  rcases List.eq_nil_or_concat place with rfl | ⟨front, last, rfl⟩
  · rw [List.prefix_nil.1 hp]
    exact hd
  · rw [List.concat_eq_append] at h hd hp
    rcases List.prefix_concat_iff.1 hp with rfl | hp
    · exact hd
    · exact h above (by rwa [List.dropLast_concat])

/-- A piece of a path that names nothing. -/
def NamesNothing (piece : String) : Prop :=
  piece = "" ∨ piece = "." ∨ piece = ".."

/-- A walk that ends in such a piece ends in a directory: the piece stays where a directory has been
required, or goes up from there. -/
theorem walk_directory {fs : FileSystem} {links : Nat} {here place : Location}
    {pieces : List String} {last : String} (hr : fs.Reached here)
    (hl : pieces.getLast? = some last) (hn : NamesNothing last)
    (h : fs.walk true links here pieces = .ok place) : fs.get? place = some .directory := by
  have hrest {piece : String} {rest : List String} (hl : (piece :: rest).getLast? = some last)
      (hne : rest ≠ []) : rest.getLast? = some last := by
    rwa [List.getLast?_cons_of_ne_nil hne] at hl
  have hname {piece : String} {rest : List String} (hl : (piece :: rest).getLast? = some last)
      (hp : ¬(piece = "" ∨ piece = ".")) (hu : piece ≠ "..") : rest ≠ [] := by
    rintro rfl
    cases hl
    rcases hn with he | he | he
    · exact hp (Or.inl he)
    · exact hp (Or.inr he)
    · exact hu he
  -- Every place on the way lies in directories: a step up from one of them ends in a directory.
  fun_induction fs.walk true links here pieces with
  | case1 => cases hl
  | case2 => cases h
  | case3 links here piece rest hd _ ih =>
      cases rest with
      | nil =>
          rw [walk] at h
          cases h
          exact requireDirectory_ok_iff.1 hd
      | cons next rest => exact ih hr (hrest hl (List.cons_ne_nil _ _)) h
  | case4 links here rest hd _ ih =>
      cases rest with
      | nil =>
          rw [walk] at h
          cases h
          exact hr _ (List.prefix_refl _)
      | cons next rest => exact ih hr.dropLast (hrest hl (List.cons_ne_nil _ _)) h
  | case5 => cases h
  | case6 links here piece rest _ _ _ _ target _ hlast => simp at hlast
  | case7 => cases h
  | case8 here piece rest _ hp hu _ target _ _ links ih =>
      have hne := hname hl hp hu
      have hstart : fs.Reached (linkStart here target) := by
        unfold linkStart
        split
        · exact reached_nil fs
        · exact hr
      refine ih hstart ?_ h
      rw [List.getLast?_append, hrest hl hne]
      rfl
  | case9 links here piece rest hd hp hu _ _ ih =>
      have hne := hname hl hp hu
      exact ih (hr.concat (requireDirectory_ok_iff.1 hd) piece) (hrest hl hne) h

/-! ## Paths -/

theorem getLast?_pieces (path : String) :
    (pieces path).getLast? = some (String.ofList (Layout.lastPiece path.toList)) := by
  rw [pieces, List.getLast?_map, Layout.getLast?_splitAtChar]
  rfl

theorem namesNothing_lastPiece {s : List Char} (h : ¬Path.IsName (Layout.lastPiece s)) :
    NamesNothing (String.ofList (Layout.lastPiece s)) := by
  by_contra hn
  unfold NamesNothing at hn
  simp only [not_or] at hn
  refine h ⟨?_, ?_, ?_⟩
  · intro he
    exact hn.1 (by rw [he])
  · intro he
    exact hn.2.1 (by rw [he])
  · intro he
    exact hn.2.2 (by rw [he])

/-- What can be read has a name. -/
theorem isName_of_readBytes {fs : FileSystem} {path : String} {content : ByteArray}
    (hwd : fs.Reached fs.workingDirectory) (h : fs.readBytes path = .ok content) :
    Path.IsName (Layout.lastPiece path.toList) := by
  by_contra hn
  obtain ⟨x, hs⟩ := readBytes_ok_iff.1 h
  obtain ⟨place, hr, hf⟩ := status_ok_iff.1 hs
  unfold resolve at hr
  split at hr
  · cases hr
  · have hstart : fs.Reached (fs.start path) := by
      unfold start
      split
      · exact reached_nil fs
      · exact hwd
    have hd := walk_directory hstart (getLast?_pieces path) (namesNothing_lastPiece hn) hr
    rw [hf] at hd
    cases hd

theorem lastPiece_join (base s : String) :
    Layout.lastPiece (Path.join base s).toList = Layout.lastPiece s.toList := by
  unfold Path.join Path.joinChars
  rw [String.toList_ofList]
  split
  · rfl
  · split
    · rfl
    · split
      · rename_i hlast
        obtain ⟨front, hf⟩ := List.getLast?_eq_some_iff.1 hlast
        rw [hf, List.append_assoc, List.singleton_append, Layout.lastPiece_append_slash]
      · rw [Layout.lastPiece_append_slash]

end TestForge.FileSystem
