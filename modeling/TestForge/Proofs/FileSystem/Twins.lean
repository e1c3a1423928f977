import Mathlib.Data.List.Forall2
import TestForge.Proofs.FileSystem.Files

/-!
# Trees that differ in hidden contents

Two trees have the same entries, but where it is hidden, a file may have one content in the one and
another in the other. Paths lead to the same places in both, and what is done to both fails in both
with the same error, or leaves them so.
-/

namespace TestForge

/-- What two trees may have at a place: the same, or files, if their contents are hidden there. Both
contents are texts or neither is. -/
inductive Entry.Alike (hidden : Location → Prop) (place : Location) : Entry → Entry → Prop
  | same (e : Entry) : Alike hidden place e e
  | contents (hp : hidden place) {a b : ByteArray} (x : Bool)
      (ht : (String.fromUTF8? a).isSome = (String.fromUTF8? b).isSome) :
      Alike hidden place (.file a x) (.file b x)

/-- Results with the same error, or with values that are related. -/
inductive SameResult {ε α β : Type} (related : α → β → Prop) : Except ε α → Except ε β → Prop
  | error (e : ε) : SameResult related (.error e) (.error e)
  | ok {a : α} {b : β} (h : related a b) : SameResult related (.ok a) (.ok b)

namespace FileSystem

/-- The trees are the same but for contents that are hidden. -/
structure Twins (hidden : Location → Prop) (a b : FileSystem) : Prop where
  workingDirectory : b.workingDirectory = a.workingDirectory
  entries : List.Forall₂ (fun p q => q.1 = p.1 ∧ p.2.Alike hidden p.1 q.2) a.entries b.entries

variable {hidden : Location → Prop} {a b : FileSystem}

theorem Twins.refl (hidden : Location → Prop) (fs : FileSystem) : Twins hidden fs fs :=
  ⟨rfl, List.forall₂_same.2 fun _ _ => ⟨rfl, .same _⟩⟩

/-! ## Entries -/

theorem Twins.get? (h : Twins hidden a b) (place : Location) :
    (a.get? place = none ∧ b.get? place = none) ∨
      ∃ e e', a.get? place = some e ∧ b.get? place = some e' ∧ e.Alike hidden place e' := by
  unfold FileSystem.get?
  split
  · exact Or.inr ⟨_, _, rfl, rfl, .same _⟩
  · have hentries := h.entries
    generalize a.entries = these, b.entries = those at hentries
    induction hentries with
    | nil => exact Or.inl ⟨rfl, rfl⟩
    | @cons p q _ _ hboth _ ih =>
        obtain ⟨key, e⟩ := p
        obtain ⟨key', e'⟩ := q
        obtain ⟨rfl, he⟩ := hboth
        simp only [find?]
        split
        · rename_i hk
          exact Or.inr ⟨e, e', rfl, rfl, hk ▸ he⟩
        · exact ih

theorem Twins.put (h : Twins hidden a b) (place : Location) {e e' : Entry}
    (he : e.Alike hidden place e') : Twins hidden (a.put place e) (b.put place e') := by
  refine ⟨h.workingDirectory, ?_⟩
  have hentries := h.entries
  unfold FileSystem.put
  generalize a.entries = these, b.entries = those at hentries
  induction hentries with
  | nil => exact .cons ⟨rfl, he⟩ .nil
  | @cons p q _ _ hboth hrest ih =>
      obtain ⟨key, old⟩ := p
      obtain ⟨key', old'⟩ := q
      obtain ⟨rfl, hold⟩ := hboth
      simp only [setEntry]
      split
      · exact .cons ⟨rfl, he⟩ hrest
      · exact .cons ⟨rfl, hold⟩ ih

theorem Twins.link_iff (h : Twins hidden a b) (place : Location) (target : String) :
    b.get? place = some (.link target) ↔ a.get? place = some (.link target) := by
  rcases h.get? place with ⟨ha, hb⟩ | ⟨e, e', ha, hb, he⟩
  · rw [ha, hb]
  · rw [ha, hb]
    cases he with
    | same => rfl
    | contents => simp

/-! ## Paths -/

theorem Twins.requireDirectory (h : Twins hidden a b) (place : Location) :
    b.requireDirectory place = a.requireDirectory place := by
  unfold FileSystem.requireDirectory
  rcases h.get? place with ⟨ha, hb⟩ | ⟨e, e', ha, hb, he⟩
  · rw [ha, hb]
  · rw [ha, hb]
    cases he with
    | same => rfl
    | contents => rfl

theorem Twins.walk (h : Twins hidden a b) (follow : Bool) (links : Nat) (here : Location)
    (pieces : List String) : b.walk follow links here pieces = a.walk follow links here pieces := by
  fun_induction a.walk follow links here pieces with
  | case1 => rw [FileSystem.walk]
  | case2 links here piece rest e hd =>
      rw [FileSystem.walk, h.requireDirectory, hd]
  | case3 links here piece rest hd hp ih =>
      rw [FileSystem.walk, h.requireDirectory, hd]
      simp only [hp, ↓reduceIte, ih]
  | case4 links here rest hd hp ih =>
      rw [FileSystem.walk, h.requireDirectory, hd]
      simp only [hp, ↓reduceIte, ih]
  | case5 links here piece rest hd hp hu hs =>
      rw [FileSystem.walk, h.requireDirectory, hd]
      simp only [hp, hu, hs, ↓reduceIte]
  | case6 links here piece rest hd hp hu hs target hg hl =>
      rw [FileSystem.walk, h.requireDirectory, hd]
      simp only [hp, hu, hs, (h.link_iff _ target).2 hg, hl, ↓reduceIte]
  | case7 here piece rest hd hp hu hs target hg hl =>
      rw [FileSystem.walk, h.requireDirectory, hd]
      simp only [hp, hu, hs, (h.link_iff _ target).2 hg, hl, ↓reduceIte, Bool.false_eq_true]
  | case8 here piece rest hd hp hu hs target hg hl links ih =>
      rw [FileSystem.walk, h.requireDirectory, hd]
      simp only [hp, hu, hs, (h.link_iff _ target).2 hg, hl, ↓reduceIte, Bool.false_eq_true, ih]
  | case9 links here piece rest hd hp hu hs hg ih =>
      have hunlinked (target : String) (hb : b.get? (here ++ [piece]) = some (.link target)) :
          False :=
        hg target ((h.link_iff _ target).1 hb)
      rw [FileSystem.walk, h.requireDirectory, hd]
      simp only [hp, hu, hs, ↓reduceIte, ih]

theorem Twins.resolve (h : Twins hidden a b) (path : String) (follow : Bool) :
    b.resolve path follow = a.resolve path follow := by
  have hstart : b.start path = a.start path := by
    rw [start, start, h.workingDirectory]
  unfold FileSystem.resolve
  rw [hstart, h.walk]

theorem Twins.writePlace (h : Twins hidden a b) (path : String) :
    b.writePlace path = a.writePlace path := by
  have hstart : b.start path = a.start path := by
    rw [start, start, h.workingDirectory]
  unfold FileSystem.writePlace
  simp only [hstart, h.walk, h.requireDirectory, h.resolve]

theorem Twins.isDirectory (h : Twins hidden a b) (path : String) :
    b.isDirectory path = a.isDirectory path := by
  unfold FileSystem.isDirectory status
  rw [h.resolve]
  cases a.resolve path true with
  | error e => rfl
  | ok place =>
      rcases h.get? place with ⟨ha, hb⟩ | ⟨e, e', ha, hb, he⟩
      · simp only [ha, hb]
      · simp only [ha, hb]
        cases he with
        | same => rfl
        | contents => rfl

/-! ## Reading and writing -/

/-- Texts that a file may have: the same, or others where contents are hidden. -/
def TextsAt (hidden : Location → Prop) (fs : FileSystem) (path text text' : String) : Prop :=
  text = text' ∨ ∀ place, fs.resolve path true = .ok place → hidden place

theorem Twins.readText (h : Twins hidden a b) (path : String) :
    SameResult (TextsAt hidden a path) (a.readText path) (b.readText path) := by
  unfold FileSystem.readText readBytes status
  rw [h.resolve]
  cases hr : a.resolve path true with
  | error e => exact .error e
  | ok place =>
      rcases h.get? place with ⟨ha, hb⟩ | ⟨e, e', ha, hb, he⟩
      · simp only [ha, hb]
        exact .error _
      · simp only [ha, hb]
        cases he with
        | same =>
            cases e with
            | file content x =>
                simp only
                cases String.fromUTF8? content with
                | none => exact .error _
                | some text => exact .ok (Or.inl rfl)
            | directory => exact .error _
            | link target => exact .error _
        | contents hp x ht =>
            simp only
            split
            · rename_i text hs
              rw [hs] at ht
              obtain ⟨text', hs'⟩ := Option.isSome_iff_exists.1 ht.symm
              rw [hs']
              refine .ok (Or.inr fun other ho => ?_)
              rw [hr] at ho
              cases ho
              exact hp
            · rename_i hs
              rw [hs] at ht
              rw [Option.isSome_eq_false_iff.1 ht.symm |> Option.isNone_iff_eq_none.1]
              exact .error _

theorem Twins.writeText (h : Twins hidden a b) (path : String) {text text' : String}
    (ht : TextsAt hidden a path text text') :
    SameResult (Twins hidden) (a.writeText path text) (b.writeText path text') := by
  have halike {place : Location} (hr : a.resolve path true = .ok place) (x : Bool) :
      (Entry.file text.toUTF8 x).Alike hidden place (.file text'.toUTF8 x) := by
    rcases ht with rfl | hp
    · exact .same _
    · exact .contents (hp place hr) x (by rw [fromUTF8?_toUTF8, fromUTF8?_toUTF8]; rfl)
  unfold FileSystem.writeText writeBytes
  rw [h.writePlace]
  cases hp : a.writePlace path with
  | error e => exact .error e
  | ok place =>
      have hr := resolve_of_writePlace hp
      rcases h.get? place with ⟨ha, hb⟩ | ⟨e, e', ha, hb, he⟩
      · simp only [ha, hb]
        exact .ok (h.put place (halike hr false))
      · simp only [ha, hb]
        cases he with
        | same =>
            cases e with
            | file content x => exact .ok (h.put place (halike hr x))
            | directory => exact .error _
            | link target => exact .error _
        | contents _ x _ => exact .ok (h.put place (halike hr x))

/-! ## Creating directories -/

theorem Twins.createDirectory (h : Twins hidden a b) (path : String) :
    SameResult (Twins hidden) (a.createDirectory path) (b.createDirectory path) := by
  unfold FileSystem.createDirectory
  simp only [h.resolve]
  cases a.resolve (if (dropSlashes path).isEmpty = true then path else dropSlashes path) false with
  | error e => exact .error e
  | ok place =>
      rcases h.get? place with ⟨ha, hb⟩ | ⟨e, e', ha, hb, -⟩
      · simp only [ha, hb]
        exact .ok (h.put place (.same _))
      · simp only [ha, hb]
        exact .error _

theorem Twins.createLineage (h : Twins hidden a b) (paths : List String) :
    ∃ result made made', a.createLineage paths = (result, made) ∧
      b.createLineage paths = (result, made') ∧ Twins hidden made made' := by
  induction paths with
  | nil => exact ⟨_, a, b, rfl, rfl, h⟩
  | cons path above ih =>
      simp only [FileSystem.createLineage]
      split
      · exact ⟨_, a, b, rfl, rfl, h⟩
      · have hcreate := h.createDirectory path
        generalize a.createDirectory path = first, b.createDirectory path = second at hcreate ⊢
        cases hcreate with
        | ok hmade => exact ⟨_, _, _, rfl, rfl, hmade⟩
        | error e =>
            cases e with
            | notFound =>
                obtain ⟨result, made, made', ha, hb, hmade⟩ := ih
                simp only [ha, hb]
                cases result with
                | error e => exact ⟨_, made, made', rfl, rfl, hmade⟩
                | ok _ =>
                    have hagain := hmade.createDirectory path
                    simp only [hmade.isDirectory]
                    generalize made.createDirectory path = first,
                      made'.createDirectory path = second at hagain ⊢
                    cases hagain with
                    | ok hwhole => exact ⟨_, _, _, rfl, rfl, hwhole⟩
                    | error e => exact ⟨_, made, made', rfl, rfl, hmade⟩
            | _ =>
                simp only [h.isDirectory]
                exact ⟨_, a, b, rfl, rfl, h⟩

theorem Twins.createDirectories (h : Twins hidden a b) (path : String) :
    ∃ result made made', a.createDirectories path = (result, made) ∧
      b.createDirectories path = (result, made') ∧ Twins hidden made made' :=
  h.createLineage _

end FileSystem

end TestForge
