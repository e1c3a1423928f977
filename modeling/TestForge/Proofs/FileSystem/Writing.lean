import TestForge.Proofs.FileSystem.Room

/-!
# Writing below a directory

A text can be written in a directory under a name that is free or that a file has. Nothing else
matters to it, nor what the file held.
-/

namespace TestForge.FileSystem

/-- What keeps a file of this name from being written in a directory. -/
def writable (fs : FileSystem) (here : Location) (name : String) : Except FileError Unit :=
  if name.utf8ByteSize > maxNameBytes then .error .nameTooLong
  else
    match fs.get? (here ++ [name]) with
    | some .directory => .error .isDirectory
    | some (.link _) => .error .isDirectory
    | _ => .ok ()

/-- Whether what is written at a place can be executed. -/
def executableAt (fs : FileSystem) (place : Location) : Bool :=
  match fs.get? place with
  | some (.file _ x) => x
  | _ => false

theorem endsInSlash_of_isName {path : String} (h : Path.IsName (Layout.lastPiece path.toList)) :
    endsInSlash path = false := by
  obtain ⟨hs, hslash, -⟩ := Layout.splitDirectory_spec path.toList
  have hne := h.nonempty
  generalize Layout.lastPiece path.toList = last at hs hslash hne
  rw [endsInSlash, hs, List.getLast?_append_of_ne_nil _ hne, beq_eq_false_iff_ne]
  intro hlast
  obtain ⟨front, rfl⟩ := List.getLast?_eq_some_iff.1 hlast
  simp at hslash

/-- A text is written where its name is free, or has a file. -/
theorem writeText_eq {fs : FileSystem} {path name : String} {here : Location}
    (hs : endsInSlash path = false) (hd : fs.get? here = some .directory)
    (hn : Path.IsName name.toList) (hr : fs.resolve path true = fs.descend here [name])
    (text : String) :
    fs.writeText path text = (fs.writable here name).map fun _ =>
      fs.put (here ++ [name]) (.file text.toUTF8 (fs.executableAt (here ++ [name]))) := by
  unfold writeText writeBytes writePlace writable executableAt
  rw [hs, hr, descend_name hd hn]
  by_cases hlong : name.utf8ByteSize > maxNameBytes
  · simp only [hlong, Bool.false_eq_true, ↓reduceIte]
    rfl
  · simp only [hlong, Bool.false_eq_true, ↓reduceIte]
    cases fs.get? (here ++ [name]) with
    | none => rfl
    | some entry =>
        cases entry with
        | file content x => rfl
        | directory => rfl
        | link target => rfl

/-- A place where at most the text of a file is another, or a file is new. -/
def SameButText (old new : FileSystem) (place : Location) : Prop :=
  new.get? place = old.get? place ∨
    (∃ content, new.get? place = some (.file content (old.executableAt place))) ∧
      (old.get? place = none ∨ ∃ content x, old.get? place = some (.file content x))

theorem SameButText.executableAt {old new : FileSystem} {place : Location}
    (h : old.SameButText new place) : new.executableAt place = old.executableAt place := by
  rcases h with h | ⟨⟨content, h⟩, -⟩
  · rw [FileSystem.executableAt, FileSystem.executableAt, h]
  · rw [FileSystem.executableAt, h]

theorem SameButText.writable {old new : FileSystem} {here : Location} {name : String}
    (h : old.SameButText new (here ++ [name])) : new.writable here name = old.writable here name := by
  unfold FileSystem.writable
  rcases h with h | ⟨⟨content, h⟩, hold | ⟨content', x, hold⟩⟩
  · rw [h]
  · rw [h, hold]
  · rw [h, hold]

theorem writeText_of_checkPath {fs : FileSystem} {path : String} {e : FileError}
    (hs : endsInSlash path = false) (hk : checkPath path = .error e) (text : String) :
    fs.writeText path text = .error e := by
  unfold writeText writeBytes writePlace resolve
  rw [hs, hk]
  rfl

end TestForge.FileSystem
