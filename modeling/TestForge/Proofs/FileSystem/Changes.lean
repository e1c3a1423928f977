import TestForge.Proofs.FileSystem.Files
import TestForge.Proofs.FileSystem.Linkless

/-!
# Where files differ

What an operation can have done to the regular files of a tree: it has removed none of them, and
those that are new or have other bytes lie where they are said to lie. Without links, a write
touches the place where its path leads, and nothing else.
-/

namespace TestForge.FileSystem

/-- The tree has grown, and each place whose file differs is one of those named. -/
structure ChangesOnly (old new : FileSystem) (named : Location → Prop) : Prop where
  grows : old.Grows new
  named : ∀ place, new.content? place ≠ old.content? place → named place

theorem ChangesOnly.refl (fs : FileSystem) (named : Location → Prop) : fs.ChangesOnly fs named :=
  ⟨.refl fs, fun _ hd => absurd rfl hd⟩

theorem ChangesOnly.trans {a b c : FileSystem} {named : Location → Prop}
    (h : a.ChangesOnly b named) (k : b.ChangesOnly c named) : a.ChangesOnly c named where
  grows := h.grows.trans k.grows
  named place hd := by
    by_cases hb : b.content? place = a.content? place
    · rw [← hb] at hd
      exact k.named place hd
    · exact h.named place hb

theorem ChangesOnly.mono {old new : FileSystem} {named more : Location → Prop}
    (h : old.ChangesOnly new named) (hm : ∀ place, named place → more place) :
    old.ChangesOnly new more :=
  ⟨h.grows, fun place hd => hm place (h.named place hd)⟩

theorem content?_eq_some_iff {fs : FileSystem} {place : Location} {content : ByteArray} :
    fs.content? place = some content ↔ ∃ x, fs.get? place = some (.file content x) := by
  unfold content?
  cases hg : fs.get? place with
  | none => simp
  | some e =>
      cases e with
      | file found x => simp
      | directory => simp
      | link target => simp

theorem Grows.content?_ne_none {old new : FileSystem} (h : old.Grows new) {place : Location}
    (hc : old.content? place ≠ none) : new.content? place ≠ none := by
  obtain ⟨content, hc⟩ := Option.ne_none_iff_exists'.1 hc
  obtain ⟨x, hf⟩ := content?_eq_some_iff.1 hc
  obtain ⟨content', x', hf'⟩ := h.file place content x hf
  rw [content?_eq_some_iff.2 ⟨x', hf'⟩]
  exact Option.some_ne_none content'

theorem SameFiles.content? {old new : FileSystem} (h : old.SameFiles new) (place : Location) :
    new.content? place = old.content? place := by
  apply Option.ext
  intro content
  rw [content?_eq_some_iff, content?_eq_some_iff]
  exact exists_congr fun x => (h place content x).symm

theorem SameFiles.changesOnly {old new : FileSystem} (h : old.SameFiles new) (hg : old.Grows new)
    (named : Location → Prop) : old.ChangesOnly new named :=
  ⟨hg, fun place hd => absurd (h.content? place) hd⟩

/-- A write changes the file where its path leads. -/
theorem changesOnly_writeText {old new : FileSystem} {path text : String} (hl : old.Linkless)
    (h : old.writeText path text = .ok new) :
    old.ChangesOnly new fun place => place = old.destination path := by
  obtain ⟨place, x, hr, hnew, hold⟩ := writeBytes_ok h
  refine ⟨grows_writeBytes h, fun other hd => ?_⟩
  have hroot := ne_nil_of_writable hold
  by_cases he : place = other
  · rw [← he]
    exact (hl.resolve hr).symm
  · have hsame : new.get? other = old.get? other := by
      rw [hnew, get?_put old place other _ hroot, if_neg he]
    exact absurd (by unfold FileSystem.content?; rw [hsame]) hd

/-- What is not at one of the places named is read as before. -/
theorem ChangesOnly.readBytes {old new : FileSystem} {named : Location → Prop} {path : String}
    {content : ByteArray} (h : old.ChangesOnly new named) (hl : old.Linkless)
    (hn : ¬named (old.destination path)) (hr : old.readBytes path = .ok content) :
    new.readBytes path = .ok content := by
  obtain ⟨x, hs⟩ := readBytes_ok_iff.1 hr
  obtain ⟨place, hp, hf⟩ := status_ok_iff.1 hs
  rw [hl.resolve hp] at hn
  have hsame : new.content? place = old.content? place :=
    Classical.byContradiction fun hd => hn (h.named place hd)
  rw [content?_eq_some_iff.2 ⟨x, hf⟩] at hsame
  obtain ⟨x', hf'⟩ := content?_eq_some_iff.1 hsame
  exact readBytes_ok_iff.2 ⟨x', status_ok_iff.2 ⟨place, h.grows.resolve hp, hf'⟩⟩

theorem ChangesOnly.readText {old new : FileSystem} {named : Location → Prop} {path text : String}
    (h : old.ChangesOnly new named) (hl : old.Linkless) (hn : ¬named (old.destination path))
    (hr : old.readText path = .ok text) : new.readText path = .ok text := by
  obtain ⟨content, hb, hc⟩ := readText_ok_iff.1 hr
  exact readText_ok_iff.2 ⟨content, h.readBytes hl hn hb, hc⟩

end TestForge.FileSystem
