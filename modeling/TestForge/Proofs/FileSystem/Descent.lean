import Mathlib.Data.List.Basic
import TestForge.Proofs.FileSystem.Linkless
import TestForge.Proofs.FileSystem.Names

/-!
# Descending

Without links a path is walked piece by piece, and no piece is walked twice. So walking a path is
walking the path in front of its last piece, and then that piece.
-/

namespace TestForge.FileSystem

open Text

/-- A walk that meets no link. -/
def descend (fs : FileSystem) (here : Location) : List String → Except FileError Location
  | [] => .ok here
  | piece :: rest =>
    match fs.requireDirectory here with
    | .error e => .error e
    | .ok () =>
      if piece = "" ∨ piece = "." then fs.descend here rest
      else if piece = ".." then fs.descend here.dropLast rest
      else if piece.utf8ByteSize > maxNameBytes then .error .nameTooLong
      else fs.descend (here ++ [piece]) rest

theorem Linkless.walk_eq {fs : FileSystem} (hl : fs.Linkless) (followLast : Bool) (links : Nat)
    (here : Location) (pieces : List String) :
    fs.walk followLast links here pieces = fs.descend here pieces := by
  induction pieces generalizing here with
  | nil => rw [FileSystem.walk, descend]
  | cons piece rest ih =>
      rw [FileSystem.walk, descend]
      simp only [ih]
      cases fs.requireDirectory here with
      | error e => rfl
      | ok _ =>
          cases hg : fs.get? (here ++ [piece]) with
          | none => rfl
          | some entry =>
              cases entry with
              | file content x => rfl
              | directory => rfl
              | link target => exact absurd hg (hl _ target)

theorem Linkless.resolve_eq {fs : FileSystem} (hl : fs.Linkless) (path : String) (follow : Bool) :
    fs.resolve path follow =
      (checkPath path).bind fun _ => fs.descend (fs.start path) (pieces path) := by
  unfold FileSystem.resolve
  cases checkPath path with
  | error e => rfl
  | ok _ => exact hl.walk_eq follow maxLinks _ _

theorem descend_of_resolve {fs : FileSystem} (hl : fs.Linkless) {path : String} {follow : Bool}
    {place : Location} (h : fs.resolve path follow = .ok place) :
    fs.descend (fs.start path) (pieces path) = .ok place := by
  rw [hl.resolve_eq] at h
  cases hk : checkPath path with
  | error e =>
      rw [hk] at h
      cases h
  | ok _ =>
      rw [hk] at h
      exact h

theorem Linkless.resolve_any {fs : FileSystem} (hl : fs.Linkless) {path : String} {follow : Bool}
    {result : Except FileError Location} (h : fs.resolve path follow = result) (other : Bool) :
    fs.resolve path other = result := by
  rw [← h, hl.resolve_eq, hl.resolve_eq]

/-- A step needs a directory and a piece that is not too long, which none is that leads nowhere or
up. -/
theorem descend_cons (fs : FileSystem) (here : Location) (piece : String) (rest : List String) :
    fs.descend here (piece :: rest) = match fs.requireDirectory here with
      | .error e => .error e
      | .ok () =>
        if piece.utf8ByteSize > maxNameBytes then .error .nameTooLong
        else fs.descend (step here piece) rest := by
  rw [descend, step]
  by_cases hstay : piece = "" ∨ piece = "."
  · have hshort : ¬piece.utf8ByteSize > maxNameBytes := by rcases hstay with rfl | rfl <;> decide
    simp only [hstay, hshort, ↓reduceIte]
  · by_cases hup : piece = ".."
    · subst hup
      rfl
    · simp only [hstay, hup, ↓reduceIte]

/-! ## One part of a way after the other -/

theorem descend_append (fs : FileSystem) (here : Location) (front back : List String) :
    fs.descend here (front ++ back) =
      (fs.descend here front).bind fun place => fs.descend place back := by
  induction front generalizing here with
  | nil => rfl
  | cons piece front ih =>
      simp only [List.cons_append, descend_cons, ih]
      cases fs.requireDirectory here with
      | error e => rfl
      | ok _ =>
          simp only
          split
          · rfl
          · rfl

theorem destination_of_descend {fs : FileSystem} {here place : Location} {pieces : List String}
    (h : fs.descend here pieces = .ok place) : pieces.foldl step here = place := by
  fun_induction fs.descend here pieces with
  | case1 => exact Except.ok.inj h
  | case2 => cases h
  | case3 here piece rest _ hp ih => simpa [step, hp] using ih h
  | case4 here rest _ hp ih => simpa [step, hp] using ih h
  | case5 => cases h
  | case6 here piece rest _ hp hu _ ih => simpa [step, hp, hu] using ih h

/-- A step from a place that is no directory. -/
theorem descend_cons_error {fs : FileSystem} {here : Location} {e : FileError}
    (h : fs.requireDirectory here = .error e) (piece : String) (rest : List String) :
    fs.descend here (piece :: rest) = .error e := by
  rw [descend, h]

theorem directory_of_descend_cons {fs : FileSystem} {here place : Location} {piece : String}
    {rest : List String} (h : fs.descend here (piece :: rest) = .ok place) :
    fs.get? here = some .directory := by
  cases hd : fs.requireDirectory here with
  | error e =>
      rw [descend_cons_error hd] at h
      cases h
  | ok _ => exact requireDirectory_ok_iff.1 hd

/-- A way to a directory starts at one. -/
theorem directory_of_descend_directory {fs : FileSystem} {here place : Location}
    {pieces : List String} (h : fs.descend here pieces = .ok place)
    (hd : fs.get? place = some .directory) : fs.get? here = some .directory := by
  cases pieces with
  | nil =>
      cases h
      exact hd
  | cons piece rest => exact directory_of_descend_cons h

/-! ## Pieces that lead somewhere -/

/-- Whether a piece of a path is a step. -/
def counts (piece : String) : Bool :=
  Path.countsAsComponent piece.toList

theorem counts_eq_false_iff {piece : String} : counts piece = false ↔ piece = "" ∨ piece = "." := by
  have hdot : piece = "." ↔ piece.toList = ['.'] := String.toList_inj.symm
  rw [hdot, counts, Path.countsAsComponent]
  simp [Classical.or_iff_not_imp_left]

/-- What leads nowhere may be left out in front of a piece, which needs the same directory. -/
theorem descend_filter (fs : FileSystem) (here : Location) (pieces : List String)
    (last : String) :
    fs.descend here (pieces ++ [last]) = fs.descend here (pieces.filter counts ++ [last]) := by
  induction pieces generalizing here with
  | nil => rfl
  | cons piece pieces ih =>
      cases hp : counts piece with
      | true =>
          rw [List.filter_cons_of_pos hp, List.cons_append, List.cons_append, descend, descend]
          simp only [ih]
      | false =>
          rw [List.filter_cons_of_neg (by simp [hp]), List.cons_append, descend, ← ih]
          simp only [counts_eq_false_iff.1 hp, ↓reduceIte]
          split
          · rename_i e he
            cases pieces with
            | nil => exact (descend_cons_error he last []).symm
            | cons next pieces => exact (descend_cons_error he next (pieces ++ [last])).symm
          · rfl

/-! ## Names -/

theorem counts_of_isName {piece : String} (h : Path.IsName piece.toList) : counts piece = true := by
  simp [counts, Path.countsAsComponent, h.nonempty, h.ne_here]

theorem not_stays_of_isName {piece : String} (h : Path.IsName piece.toList) :
    ¬(piece = "" ∨ piece = ".") := by
  rw [← counts_eq_false_iff, counts_of_isName h]
  exact Bool.true_eq_false.mp

theorem not_up_of_isName {piece : String} (h : Path.IsName piece.toList) : piece ≠ ".." :=
  fun he => h.ne_up (by rw [he]; rfl)

theorem step_isName (here : Location) {piece : String} (h : Path.IsName piece.toList) :
    step here piece = here ++ [piece] := by
  rw [step, if_neg (not_stays_of_isName h), if_neg (not_up_of_isName h)]

theorem foldl_step_names (here : Location) {names : List String}
    (h : ∀ name ∈ names, Path.IsName name.toList) : names.foldl step here = here ++ names := by
  induction names generalizing here with
  | nil => simp
  | cons name names ih =>
      rw [List.foldl_cons, step_isName here (h name List.mem_cons_self),
        ih _ fun n hn => h n (List.mem_cons_of_mem name hn), List.append_assoc,
        List.singleton_append]

theorem mem_pieces {path piece : String} :
    piece ∈ pieces path ↔ piece.toList ∈ splitAtChar '/' path.toList := by
  rw [pieces, List.mem_map]
  constructor
  · rintro ⟨p, hp, rfl⟩
    rwa [String.toList_ofList]
  · exact fun hp => ⟨piece.toList, hp, String.ofList_toList⟩

theorem pieces_injective : Function.Injective pieces := by
  intro a b h
  have hinj : Function.Injective String.ofList := fun _ _ he => String.ofList_injective he
  exact String.toList_inj.1 (splitAtChar_injective '/' (hinj.list_map h))

theorem isAbsolute_of_names {s : List Char} (h : ∀ piece ∈ splitAtChar '/' s, Path.IsName piece) :
    Path.isAbsolute s = false := by
  cases s with
  | nil => rfl
  | cons c s =>
      by_cases hc : c = '/'
      · subst hc
        have hs := splitAtChar_append '/' [] s
        rw [List.nil_append] at hs
        exact absurd rfl (h [] (by rw [hs]; simp [splitAtChar])).nonempty
      · simpa [Path.isAbsolute] using hc

/-- A path of names that is joined to a base leads down from it. -/
theorem destination_join_names (fs : FileSystem) (base : String) {s : String}
    (h : ∀ piece ∈ splitAtChar '/' s.toList, Path.IsName piece) :
    fs.destination (Path.join base s) = fs.destination base ++ pieces s := by
  rw [destination_join fs base (isAbsolute_of_names h)]
  exact foldl_step_names _ fun name hn => h _ (mem_pieces.1 hn)

/-! ## Joined paths -/

theorem pieces_ne_nil (path : String) : pieces path ≠ [] := by
  simp [pieces, splitAtChar_ne_nil]

theorem pieces_append_slash (front s : List Char) :
    pieces (String.ofList (front ++ '/' :: s)) =
      pieces (String.ofList front) ++ pieces (String.ofList s) := by
  simp only [pieces, String.toList_ofList, splitAtChar_append, List.map_append]

/-- Staying where one is needs a directory, as going on does. -/
theorem descend_stay (fs : FileSystem) (here : Location) {pieces : List String} (h : pieces ≠ []) :
    fs.descend here pieces = (fs.descend here [""]).bind fun place => fs.descend place pieces := by
  obtain ⟨piece, rest, rfl⟩ := List.exists_cons_of_ne_nil h
  cases hd : fs.requireDirectory here with
  | error e => simp only [descend, hd, Except.bind]
  | ok _ => simp [descend, hd, Except.bind]

/-- What is joined to a path comes behind its pieces, but for the empty one behind a slash. -/
theorem exists_pieces_join {base s : String} (hb : base ≠ "")
    (hs : Path.isAbsolute s.toList = false) :
    ∃ front, pieces (Path.join base s) = front ++ pieces s ∧
      (pieces base = front ∨ pieces base = front ++ [""]) := by
  have hne : base.toList.isEmpty = false := by simpa using hb
  unfold Path.join Path.joinChars
  simp only [hs, hne, Bool.false_eq_true, ↓reduceIte]
  split
  · rename_i hlast
    obtain ⟨front, hf⟩ := List.getLast?_eq_some_iff.1 hlast
    have hbase : base = String.ofList (front ++ ['/']) := by rw [← hf, String.ofList_toList]
    refine ⟨pieces (String.ofList front), ?_, Or.inr ?_⟩
    · rw [hf, List.append_assoc, List.singleton_append, pieces_append_slash, String.ofList_toList]
    · rw [hbase, pieces_append_slash]
      rfl
  · exact ⟨pieces base, by rw [pieces_append_slash, String.ofList_toList, String.ofList_toList],
      Or.inl rfl⟩

/-- A joined path is walked as its base is, and then as what was joined. -/
theorem descend_join (fs : FileSystem) (here : Location) {base s : String} (hb : base ≠ "")
    (hs : Path.isAbsolute s.toList = false) :
    fs.descend here (pieces (Path.join base s)) =
      (fs.descend here (pieces base)).bind fun place => fs.descend place (pieces s) := by
  obtain ⟨front, hjoined, hbase | hbase⟩ := exists_pieces_join hb hs
  · rw [hjoined, hbase, descend_append]
  · rw [hjoined, hbase, descend_append, descend_append]
    cases fs.descend here front with
    | error e => rfl
    | ok place => exact fs.descend_stay place (pieces_ne_nil s)

theorem exists_join {base s : String} (hb : base ≠ "") (hs : Path.isAbsolute s.toList = false) :
    ∃ rest, Path.join base s = base ++ rest := by
  have hne : base.toList.isEmpty = false := by simpa using hb
  unfold Path.join Path.joinChars
  simp only [hs, hne, Bool.false_eq_true, ↓reduceIte]
  split
  · exact ⟨s, by rw [String.ofList_append, String.ofList_toList, String.ofList_toList]⟩
  · exact ⟨String.ofList ('/' :: s.toList), by rw [String.ofList_append, String.ofList_toList]⟩

theorem start_append (fs : FileSystem) {base : String} (hb : base ≠ "") (rest : String) :
    fs.start (base ++ rest) = fs.start base := by
  obtain ⟨c, cs, hcs⟩ := List.exists_cons_of_ne_nil (show base.toList ≠ [] by simpa using hb)
  rw [start, start, String.toList_append, hcs]
  rfl

section

variable {base last s : String} {c : Char}

theorem getLast?_append_toList (front : String) (h : last.toList.getLast? = some c) :
    (front ++ last).toList.getLast? = some c := by
  rw [String.toList_append, List.getLast?_append, h]
  rfl

theorem join_eq_slash (hl : base.toList.getLast? = some c) (hc : c ≠ '/')
    (hs : Path.isAbsolute s.toList = false) : Path.join base s = base ++ ("/" ++ s) := by
  have hne : base.toList.isEmpty = false := by
    cases hb : base.toList with
    | nil =>
        rw [hb] at hl
        cases hl
    | cons => rfl
  have hend : ¬base.toList.getLast? = some '/' := by
    rw [hl, Option.some.injEq]
    exact hc
  apply String.toList_injective
  simp only [Path.join, Path.joinChars, hs, hne, hend, String.toList_ofList, String.toList_append,
    Bool.false_eq_true, ↓reduceIte]
  rfl

theorem join_absolute (base : String) (hs : Path.isAbsolute s.toList = true) :
    Path.join base s = s := by
  rw [Path.join, Path.joinChars, if_pos hs, String.ofList_toList]

theorem pieces_slash (base s : String) : pieces (base ++ ("/" ++ s)) = pieces base ++ pieces s := by
  have happend : base ++ ("/" ++ s) = String.ofList (base.toList ++ '/' :: s.toList) := by
    apply String.toList_injective
    rw [String.toList_append, String.toList_append, String.toList_ofList, List.singleton_append,
      String.toList_ofList]
  rw [happend, pieces_append_slash, String.ofList_toList, String.ofList_toList]

end

/-! ## Last pieces -/

theorem getLast?_destination (fs : FileSystem) (path : String)
    (h : Path.IsName (Layout.lastPiece path.toList)) :
    (fs.destination path).getLast? = some (String.ofList (Layout.lastPiece path.toList)) := by
  obtain ⟨front, hf⟩ := List.getLast?_eq_some_iff.1 (getLast?_pieces path)
  rw [destination, hf, List.foldl_append]
  simp only [List.foldl_cons, List.foldl_nil]
  rw [step_isName _ (by rwa [String.toList_ofList]), List.getLast?_concat]

end TestForge.FileSystem
