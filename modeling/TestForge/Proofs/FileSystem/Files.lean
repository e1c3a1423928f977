import TestForge.Proofs.FileSystem.Growth

/-!
# Regular files

Creating directories leaves all regular files alone, whether it succeeds or stops half way. A write
touches one file: what other paths name is read as before, and what was written is read again.
-/

namespace TestForge.FileSystem

/-- No regular file has come, changed or gone. -/
def SameFiles (old new : FileSystem) : Prop :=
  ∀ place content x, old.get? place = some (.file content x) ↔
    new.get? place = some (.file content x)

theorem SameFiles.refl (fs : FileSystem) : fs.SameFiles fs :=
  fun _ _ _ => Iff.rfl

theorem SameFiles.trans {a b c : FileSystem} (h : a.SameFiles b) (k : b.SameFiles c) :
    a.SameFiles c :=
  fun place content x => (h place content x).trans (k place content x)

theorem sameFiles_put_directory {fs : FileSystem} {place : Location}
    (h : fs.get? place = none) : fs.SameFiles (fs.put place .directory) := by
  have hp := ne_nil_of_get? h (by simp)
  intro other content x
  rw [get?_put _ _ _ _ hp]
  split
  · rename_i heq
    simp [← heq, h]
  · exact Iff.rfl

theorem sameFiles_createDirectory {old new : FileSystem} {path : String}
    (h : old.createDirectory path = .ok new) : old.SameFiles new := by
  obtain ⟨place, -, hg, rfl⟩ := createDirectory_put h
  exact sameFiles_put_directory hg

theorem sameFiles_createLineage (fs : FileSystem) (paths : List String) :
    fs.SameFiles (fs.createLineage paths).2 :=
  createLineage_keeps (.refl fs) fun _ _ _ _ _ h hc => h.trans (sameFiles_createDirectory hc)

theorem sameFiles_createDirectories (fs : FileSystem) (path : String) :
    fs.SameFiles (fs.createDirectories path).2 :=
  sameFiles_createLineage fs _

/-! ## Reading after a change elsewhere -/

theorem SameFiles.readBytes {old new : FileSystem} (h : old.SameFiles new) (hg : old.Grows new)
    {path : String} {content : ByteArray} (hr : old.readBytes path = .ok content) :
    new.readBytes path = .ok content := by
  obtain ⟨x, hs⟩ := readBytes_ok_iff.1 hr
  obtain ⟨place, hp, he⟩ := status_ok_iff.1 hs
  exact readBytes_ok_iff.2 ⟨x, status_ok_iff.2 ⟨place, hg.resolve hp, (h place content x).1 he⟩⟩

/-- Two paths that do not lead to one place. -/
def Apart (fs : FileSystem) (path other : String) : Prop :=
  ∀ place, fs.resolve path true = .ok place → fs.resolve other true ≠ .ok place

theorem readBytes_writeBytes_apart {old new : FileSystem} {path other : String}
    {content written : ByteArray} (h : old.writeBytes other written = .ok new)
    (ha : old.Apart path other) (hr : old.readBytes path = .ok content) :
    new.readBytes path = .ok content := by
  have hg := grows_writeBytes h
  obtain ⟨x, hs⟩ := readBytes_ok_iff.1 hr
  obtain ⟨place, hp, he⟩ := status_ok_iff.1 hs
  obtain ⟨place', x', hp', rfl, hold⟩ := writeBytes_ok h
  have hne : place' ≠ place := by
    rintro rfl
    exact ha _ hp hp'
  have hroot := ne_nil_of_writable hold
  refine readBytes_ok_iff.2 ⟨x, status_ok_iff.2 ⟨place, hg.resolve hp, ?_⟩⟩
  rw [get?_put _ _ _ _ hroot, if_neg hne, he]

/-! ## Texts -/

theorem readText_ok_iff {fs : FileSystem} {path text : String} :
    fs.readText path = .ok text ↔
      ∃ content, fs.readBytes path = .ok content ∧ String.fromUTF8? content = some text := by
  unfold readText
  cases fs.readBytes path with
  | error e => simp
  | ok content => cases hc : String.fromUTF8? content <;> simp [hc]

theorem SameFiles.readText {old new : FileSystem} (h : old.SameFiles new) (hg : old.Grows new)
    {path text : String} (hr : old.readText path = .ok text) : new.readText path = .ok text := by
  obtain ⟨content, hb, hc⟩ := readText_ok_iff.1 hr
  exact readText_ok_iff.2 ⟨content, h.readBytes hg hb, hc⟩

theorem fromUTF8?_toUTF8 (text : String) : String.fromUTF8? text.toUTF8 = some text :=
  dif_pos text.isValidUTF8

theorem toUTF8_injective : Function.Injective String.toUTF8 := by
  intro a b h
  have hread := congrArg String.fromUTF8? h
  rwa [fromUTF8?_toUTF8, fromUTF8?_toUTF8, Option.some.injEq] at hread

theorem readText_of_readBytes {fs : FileSystem} {path text : String}
    (h : fs.readBytes path = .ok text.toUTF8) : fs.readText path = .ok text :=
  readText_ok_iff.2 ⟨_, h, fromUTF8?_toUTF8 text⟩

theorem readText_writeText {old new : FileSystem} {path text : String}
    (h : old.writeText path text = .ok new) : new.readText path = .ok text :=
  readText_of_readBytes (readBytes_writeBytes h)

end TestForge.FileSystem
