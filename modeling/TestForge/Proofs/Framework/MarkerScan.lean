import TestForge.Framework.MarkerScan
import TestForge.Proofs.FileSystem.Changes
import TestForge.Proofs.FileSystem.Trees

/-!
# What a scan for a marker sees

A scan finds the marker if some Kotlin source holds it that lies at the root or below it, and below
no directory that is skipped. So files that do not hold the marker can come, change and go unseen.
-/

namespace TestForge.MarkerScan

open FileSystem

variable {fs : FileSystem}

/-! ## Files below a directory -/

theorem below?_eq_some_iff {base place : Location} {names : List String} :
    below? base place = some names ↔ place = base ++ names := by
  induction base generalizing place with
  | nil => simp [below?]
  | cons b base ih =>
      cases place with
      | nil => simp [below?]
      | cons p place =>
          by_cases hb : b = p
          · simp [below?, hb, ih]
          · simp [below?, hb, Ne.symm hb]

theorem mem_filesBelow (h : fs.IsTree) {base : Location} {names : List String}
    {content : ByteArray} :
    (names, content) ∈ fs.filesBelow base ↔
      names ≠ [] ∧ fs.content? (base ++ names) = some content := by
  have hbelow : ∀ e, (names, e) ∈ fs.below base ↔
      names ≠ [] ∧ fs.get? (base ++ names) = some e := by
    intro e
    simp only [below, List.mem_filterMap]
    constructor
    · rintro ⟨⟨place, e'⟩, hm, hs⟩
      simp only at hs
      split at hs
      · rename_i name rest hb
        cases hs
        rw [below?_eq_some_iff] at hb
        subst hb
        exact ⟨List.cons_ne_nil name rest, (get?_eq_some_iff h.distinct (by simp)).2 hm⟩
      · cases hs
    · rintro ⟨hn, hg⟩
      obtain ⟨name, rest, rfl⟩ := List.exists_cons_of_ne_nil hn
      refine ⟨(base ++ name :: rest, e), (get?_eq_some_iff h.distinct (by simp)).1 hg, ?_⟩
      simp only [below?_eq_some_iff.2 rfl]
  simp only [filesBelow, List.mem_filterMap, content?_eq_some_iff]
  constructor
  · rintro ⟨⟨names', e⟩, hm, hs⟩
    cases e with
    | file found x =>
        cases hs
        obtain ⟨hn, hg⟩ := (hbelow _).1 hm
        exact ⟨hn, x, hg⟩
    | directory => cases hs
    | link target => cases hs
  · rintro ⟨hn, x, hg⟩
    exact ⟨(names, .file content x), (hbelow _).2 ⟨hn, hg⟩, rfl⟩

/-- No directory of these names is skipped. -/
def unskipped (names : List String) : Bool :=
  names.all fun name => !isSkipped name

/-- What lies in a tree is reached unless a directory on the way is skipped. -/
theorem reaches_eq (h : fs.IsTree) (base : Location) (names : List String) (name : String)
    (hg : fs.get? (base ++ (names ++ [name])) ≠ none) :
    reaches fs base names = unskipped names := by
  induction names generalizing base with
  | nil => rfl
  | cons next names ih =>
      have hrest : fs.get? (base ++ [next] ++ (names ++ [name])) ≠ none := by simpa using hg
      have hnext : fs.get? (base ++ [next]) = some .directory := h.directory (by simp) hrest
      simp [reaches, unskipped, hnext, ih _ hrest]

/-! ## What is found -/

/-- A file with the marker, at names below a root. -/
structure Marks (marker root : String) (names : List String) (content : ByteArray) : Prop where
  below : names ≠ []
  unskipped : unskipped names.dropLast = true
  kotlin : isKotlin (pathBelow root names) = true
  opened : canBeOpened (pathBelow root names) = true
  holds : holdsMarker marker content = true

theorem isSome_findBelow? (h : fs.IsTree) (marker root : String) (base : Location) :
    (findBelow? fs marker root base).isSome = true ↔
      ∃ names content, Marks marker root names content ∧
        fs.content? (base ++ names) = some content := by
  rw [findBelow?, Option.isSome_map, List.find?_isSome]
  constructor
  · rintro ⟨⟨names, content⟩, hm, hfound⟩
    simp only [Bool.and_eq_true] at hfound
    obtain ⟨⟨⟨hreaches, hkotlin⟩, hopened⟩, hholds⟩ := hfound
    obtain ⟨hn, hc⟩ := (mem_filesBelow h).1 hm
    obtain ⟨x, hg⟩ := content?_eq_some_iff.1 hc
    rw [reaches_eq h base names.dropLast (names.getLast hn)
      (by rw [List.dropLast_concat_getLast]; simp [hg])] at hreaches
    exact ⟨names, content, ⟨hn, hreaches, hkotlin, hopened, hholds⟩, hc⟩
  · rintro ⟨names, content, hmarks, hc⟩
    obtain ⟨x, hg⟩ := content?_eq_some_iff.1 hc
    refine ⟨(names, content), (mem_filesBelow h).2 ⟨hmarks.below, hc⟩, ?_⟩
    have hreaches := reaches_eq h base names.dropLast (names.getLast hmarks.below)
      (by rw [List.dropLast_concat_getLast]; simp [hg])
    simp [hreaches, hmarks.unskipped, hmarks.kotlin, hmarks.opened, hmarks.holds]

/-- What a scan finds in a tree without links. -/
theorem hasEntrypoint_iff (h : fs.IsTree) (hl : fs.Linkless) {root marker : String} :
    hasEntrypoint fs root marker = true ↔ ∃ place, fs.resolve root true = .ok place ∧
      ((isKotlin root = true ∧ ∃ content, fs.content? place = some content ∧
          holdsMarker marker content = true) ∨
        fs.get? place = some .directory ∧ ∃ names content, Marks marker root names content ∧
          fs.content? (place ++ names) = some content) := by
  have hfollow : fs.resolve root false = fs.resolve root true := by
    rw [hl.resolve_eq, hl.resolve_eq]
  unfold hasEntrypoint find?
  rw [hfollow]
  cases fs.resolve root true with
  | error e => simp
  | ok place =>
      simp only [Except.ok.injEq, exists_eq_left']
      cases hg : fs.get? place with
      | none => simp [FileSystem.content?, hg]
      | some entry =>
          cases entry with
          | file content x => simp [FileSystem.content?, hg]
          | directory =>
              have hnone : fs.content? place = none := by simp [FileSystem.content?, hg]
              simpa [hnone] using isSome_findBelow? h marker root place
          | link target => exact absurd hg (hl _ target)

/-- Where files with the marker are the same, a scan finds the same, if its root was there. -/
theorem hasEntrypoint_congr {old new : FileSystem} {root marker : String} (ho : old.IsTree)
    (hn : new.IsTree) (hl : old.Linkless) (hg : old.Grows new)
    (hroot : old.exists? root = true)
    (hsame : ∀ place content, holdsMarker marker content = true →
      (old.content? place = some content ↔ new.content? place = some content)) :
    hasEntrypoint new root marker = hasEntrypoint old root marker := by
  obtain ⟨place, entry, hr, he⟩ : ∃ place entry, old.resolve root true = .ok place ∧
      old.get? place = some entry := by
    unfold exists? at hroot
    split at hroot
    · rename_i entry hs
      obtain ⟨place, hr, he⟩ := status_ok_iff.1 hs
      exact ⟨place, entry, hr, he⟩
    · cases hroot
  have hdirectory : new.get? place = some .directory ↔ old.get? place = some .directory := by
    refine ⟨fun hd => ?_, hg.directory place⟩
    cases entry with
    | file content x =>
        obtain ⟨content', x', hf⟩ := hg.file place content x he
        rw [hf] at hd
        cases hd
    | directory => exact he
    | link target => exact absurd he (hl _ target)
  rw [Bool.eq_iff_iff, hasEntrypoint_iff hn (hg.linkless hl), hasEntrypoint_iff ho hl, hr,
    hg.resolve hr]
  simp only [Except.ok.injEq, exists_eq_left', hdirectory]
  refine or_congr (and_congr_right fun _ => ?_) (and_congr_right fun _ => ?_)
  · exact exists_congr fun content => and_congr_left fun hh => (hsame place content hh).symm
  · exact exists_congr fun names => exists_congr fun content =>
      and_congr_right fun hm => (hsame _ content hm.holds).symm

end TestForge.MarkerScan
