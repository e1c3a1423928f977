import TestForge.Proofs.FileSystem.Growth
import TestForge.Proofs.Text.Pieces

/-!
# Trees without links

Where no entry is a link, the way of a path is in its text alone: names lead down, `..` leads up,
and all else leads nowhere. A joined path goes on where its base ends.
-/

namespace TestForge

open Text

namespace FileSystem

theorem pieces_name {name : String} (h : '/' ∉ name.toList) : pieces name = [name] := by
  simp [pieces, splitAtChar_eq_singleton h]

/-! ## Ways without links -/

def Linkless (fs : FileSystem) : Prop :=
  ∀ place target, fs.get? place ≠ some (.link target)

theorem Grows.linkless {old new : FileSystem} (h : old.Grows new) (hl : old.Linkless) :
    new.Linkless :=
  fun place target ht => hl place target ((h.link place target).2 ht)

/-- Where one piece of a path leads. -/
def step (here : Location) (piece : String) : Location :=
  if piece = "" ∨ piece = "." then here
  else if piece = ".." then here.dropLast
  else here ++ [piece]

@[simp] theorem step_empty (here : Location) : step here "" = here := rfl

/-- A name leads down: all that leads elsewhere is made of dots. -/
theorem step_name (here : Location) {piece : String} {c : Char} (hm : c ∈ piece.toList)
    (hc : c ≠ '.') : step here piece = here ++ [piece] := by
  have hstay : ¬(piece = "" ∨ piece = ".") := by
    rintro (rfl | rfl)
    · simp at hm
    · exact hc (by simpa using hm)
  have hup : piece ≠ ".." := by
    rintro rfl
    exact hc (by simpa using hm)
  rw [step, if_neg hstay, if_neg hup]

/-- One piece leads up by one name at most. -/
theorem dropLast_prefix_step (here : Location) (piece : String) :
    here.dropLast <+: step here piece := by
  unfold step
  split
  · exact List.dropLast_prefix here
  · split
    · exact List.prefix_refl _
    · exact (List.dropLast_prefix here).trans (List.prefix_append here [piece])

/-- Where a path leads if it meets no link. -/
def destination (fs : FileSystem) (path : String) : Location :=
  (pieces path).foldl step (fs.start path)

theorem Linkless.walk {fs : FileSystem} (hl : fs.Linkless) {followLast : Bool} {links : Nat}
    {here place : Location} {pieces : List String}
    (h : fs.walk followLast links here pieces = .ok place) : pieces.foldl step here = place := by
  fun_induction fs.walk followLast links here pieces with
  | case1 => simpa using h
  | case2 => simp at h
  | case3 links here piece rest _ hp ih => simpa [step, hp] using ih h
  | case4 links here rest _ hp ih => simpa [step, hp] using ih h
  | case5 => simp at h
  | case6 links here piece rest _ _ _ _ target ht _ => exact absurd ht (hl _ _)
  | case7 => simp at h
  | case8 here piece rest _ _ _ _ target ht _ _ _ => exact absurd ht (hl _ _)
  | case9 links here piece rest _ hp hu _ _ ih => simpa [step, hp, hu] using ih h

theorem Linkless.resolve {fs : FileSystem} (hl : fs.Linkless) {path : String} {follow : Bool}
    {place : Location} (h : fs.resolve path follow = .ok place) : fs.destination path = place := by
  unfold FileSystem.resolve at h
  split at h
  · cases h
  · exact hl.walk h

theorem Grows.destination {old new : FileSystem} (h : old.Grows new) (path : String) :
    new.destination path = old.destination path := by
  simp only [FileSystem.destination, start, h.workingDirectory]

/-- A place strictly below the one where a path leads. -/
def Below (fs : FileSystem) (path : String) (place : Location) : Prop :=
  ∃ name names, place = fs.destination path ++ name :: names

/-! ## Joined paths -/

theorem destination_ofList (fs : FileSystem) (cs : List Char) :
    fs.destination (String.ofList cs) = ((splitAtChar '/' cs).map String.ofList).foldl step
      (if Path.isAbsolute cs then [] else fs.workingDirectory) := by
  simp only [destination, pieces, start, String.toList_ofList]

/-- Behind a slash, a path goes on where the slash is. -/
theorem destination_append_slash (fs : FileSystem) (base s : List Char) :
    fs.destination (String.ofList (base ++ '/' :: s)) =
      ((splitAtChar '/' s).map String.ofList).foldl step
        (fs.destination (String.ofList (base ++ ['/']))) := by
  have hstart : Path.isAbsolute (base ++ '/' :: s) = Path.isAbsolute (base ++ ['/']) := by
    cases base <;> rfl
  simp only [destination_ofList, hstart, splitAtChar_append, List.map_append, List.foldl_append]
  simp [splitAtChar]

/-- A slash at the end of a path leads nowhere. -/
theorem destination_concat_slash (fs : FileSystem) {base : List Char} (hb : base ≠ []) :
    fs.destination (String.ofList (base ++ ['/'])) = fs.destination (String.ofList base) := by
  have hstart : Path.isAbsolute (base ++ ['/']) = Path.isAbsolute base := by
    cases base with
    | nil => exact absurd rfl hb
    | cons c base => rfl
  simp only [destination_ofList, hstart, splitAtChar_append, List.map_append, List.foldl_append]
  simp [splitAtChar]

theorem destination_join (fs : FileSystem) (base : String) {s : String}
    (hs : Path.isAbsolute s.toList = false) :
    fs.destination (Path.join base s) = (pieces s).foldl step (fs.destination base) := by
  unfold Path.join Path.joinChars
  simp only [hs, Bool.false_eq_true, ↓reduceIte]
  split
  · rename_i hb
    have hempty : base = "" := by simpa using hb
    subst hempty
    simp only [destination_ofList, hs, pieces]
    rfl
  · rename_i hb
    have hne : base.toList ≠ [] := by simpa using hb
    split
    · rename_i hlast
      obtain ⟨front, hf⟩ := List.getLast?_eq_some_iff.1 hlast
      have hbase : fs.destination base = fs.destination (String.ofList (front ++ ['/'])) := by
        rw [← hf, String.ofList_toList]
      rw [hf, List.append_assoc, List.singleton_append, destination_append_slash, hbase, pieces]
    · rw [destination_append_slash, destination_concat_slash fs hne, String.ofList_toList, pieces]

theorem isAbsolute_of_notMem {name : String} (h : '/' ∉ name.toList) :
    Path.isAbsolute name.toList = false := by
  cases hn : name.toList with
  | nil => rfl
  | cons c cs =>
      rw [hn, List.mem_cons, not_or] at h
      simpa [Path.isAbsolute] using Ne.symm h.1

/-- A name joined to a path leads one step on. -/
theorem destination_join_name (fs : FileSystem) (base : String) {name : String}
    (h : '/' ∉ name.toList) :
    fs.destination (Path.join base name) = step (fs.destination base) name := by
  rw [destination_join fs base (isAbsolute_of_notMem h), pieces_name h]
  rfl

end FileSystem

end TestForge
