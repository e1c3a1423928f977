import TestForge.Proofs.FileSystem.PassingBy

/-!
# Files that are the same elsewhere

Two trees may differ at one place and below it, and nowhere else. What a path that leads past the
place names is then read alike in both, and what is written there leaves them the same elsewhere.
-/

namespace TestForge.FileSystem

/-- Nothing differs but what lies at a place or below it. -/
structure SameElsewhere (a b : FileSystem) (top : Location) : Prop where
  workingDirectory : b.workingDirectory = a.workingDirectory
  get? : ∀ place, ¬top <+: place → b.get? place = a.get? place

/-- Nothing lies at a place or below it. -/
def Vacant (fs : FileSystem) (top : Location) : Prop :=
  ∀ place, top <+: place → fs.get? place = none

/-- What lies at a place or below it has no say in where a path leads, and is not where it leads. -/
structure LeadsPast (fs : FileSystem) (path : String) (top : Location) : Prop where
  unmoved : ∀ other, fs.SameElsewhere other top → other.resolve path true = fs.resolve path true
  outside : ∀ place, fs.resolve path true = .ok place → ¬top <+: place

variable {a b c : FileSystem} {top : Location} {path : String}

theorem SameElsewhere.refl (fs : FileSystem) (top : Location) : fs.SameElsewhere fs top :=
  ⟨rfl, fun _ _ => rfl⟩

theorem SameElsewhere.symm (h : a.SameElsewhere b top) : b.SameElsewhere a top :=
  ⟨h.workingDirectory.symm, fun place hp => (h.get? place hp).symm⟩

theorem SameElsewhere.trans (h : a.SameElsewhere b top) (k : b.SameElsewhere c top) :
    a.SameElsewhere c top :=
  ⟨k.workingDirectory.trans h.workingDirectory,
    fun place hp => (k.get? place hp).trans (h.get? place hp)⟩

theorem DirectoriesOnly.sameElsewhere {named : Location → Prop} (h : a.DirectoriesOnly b named)
    (hw : b.workingDirectory = a.workingDirectory) (hn : ∀ via, named via → top <+: via) :
    a.SameElsewhere b top := by
  refine ⟨hw, fun place hp => ?_⟩
  rcases h place with hsame | ⟨-, -, hnamed⟩
  · exact hsame
  · exact absurd (hn place hnamed) hp

theorem sameElsewhere_put {place : Location} (hp : top <+: place) (hne : place ≠ []) (e : Entry) :
    a.SameElsewhere (a.put place e) top := by
  refine ⟨rfl, fun other ho => ?_⟩
  rw [get?_put _ _ _ _ hne, if_neg]
  rintro rfl
  exact ho hp

theorem Vacant.sameBelow (h : a.Vacant top) (k : a.SameBelow b top) : b.Vacant top :=
  fun place hp => (k place hp).trans (h place hp)

/-! ## Paths -/

theorem LeadsPast.congr (h : a.LeadsPast path top) (k : a.SameElsewhere b top) :
    b.LeadsPast path top where
  unmoved other ho := (h.unmoved other (k.trans ho)).trans (h.unmoved b k).symm
  outside place hp := h.outside place ((h.unmoved b k).symm.trans hp)

/-- A path that is walked to something that is there is walked past all that is vacant. -/
theorem Vacant.walk (h : a.Vacant top) (k : a.SameElsewhere b top) {links : Nat}
    {here place : Location} {pieces : List String} {e : Entry}
    (hw : a.walk true links here pieces = .ok place) (he : a.get? place = some e) :
    b.walk true links here pieces = .ok place := by
  have hthere {place : Location} {e : Entry} (he : a.get? place = some e) :
      b.get? place = some e := by
    rw [k.get? place fun hp => by simp [h place hp] at he, he]
  have hdirectory {here : Location} (hd : a.requireDirectory here = .ok ()) :
      b.requireDirectory here = .ok () :=
    requireDirectory_ok_iff.2 (hthere (requireDirectory_ok_iff.1 hd))
  fun_induction a.walk true links here pieces with
  | case1 links here => rwa [FileSystem.walk]
  | case2 => cases hw
  | case3 links here piece rest hd hp ih =>
      rw [FileSystem.walk]
      simpa only [hdirectory hd, hp, ↓reduceIte] using ih hw
  | case4 links here rest hd hp ih =>
      rw [FileSystem.walk]
      simpa only [hdirectory hd, hp, ↓reduceIte] using ih hw
  | case5 => cases hw
  | case6 links here piece rest _ _ _ _ target _ hlast => simp at hlast
  | case7 => cases hw
  | case8 here piece rest hd hp hu hs target hg hlast links ih =>
      rw [FileSystem.walk]
      simpa only [hdirectory hd, hp, hu, hs, hthere hg, ↓reduceIte, Bool.not_true, Bool.and_false,
        Bool.false_eq_true] using ih hw
  | case9 links here piece rest hd hp hu hs hg ih =>
      -- the name is there: nothing can be reached through it otherwise
      have hnext : ∃ e', a.get? (here ++ [piece]) = some e' := by
        cases rest with
        | nil =>
            rw [FileSystem.walk] at hw
            cases hw
            exact ⟨e, he⟩
        | cons next rest =>
            rw [FileSystem.walk] at hw
            split at hw
            · cases hw
            · rename_i hnext
              exact ⟨_, requireDirectory_ok_iff.1 hnext⟩
      obtain ⟨e', he'⟩ := hnext
      have hg' : ∀ target, b.get? (here ++ [piece]) = some (.link target) → False := by
        rw [hthere he', ← he']
        exact hg
      rw [FileSystem.walk]
      simpa only [hdirectory hd, hp, hu, hs, hg', ↓reduceIte] using ih hw

theorem SameElsewhere.start (h : a.SameElsewhere b top) (path : String) :
    b.start path = a.start path := by
  rw [FileSystem.start, FileSystem.start, h.workingDirectory]

/-- A path to what is there leads past what is vacant. -/
theorem Vacant.leadsPast (h : a.Vacant top) {place : Location} {e : Entry}
    (hr : a.resolve path true = .ok place) (he : a.get? place = some e) : a.LeadsPast path top where
  unmoved other k := by
    rw [hr]
    unfold FileSystem.resolve at hr ⊢
    split at hr
    · cases hr
    · rw [k.start]
      exact h.walk k hr he
  outside other ho hp := by
    rw [hr] at ho
    cases ho
    simp [h place hp] at he

/-- Without links, a path leads past all that is not on its way. -/
theorem leadsPast_of_passesBy (hl : a.Linkless) (hs : ¬top <+: a.start path)
    (hp : a.PassesBy path top) : a.LeadsPast path top where
  unmoved other k := by
    have hunlinked : other.Unlinked (a.start path) (pieces path) := fun place hv => by
      rw [k.get? place (hp place hv)]
      exact hl place
    rw [hl.resolve_eq, FileSystem.resolve, k.start, hunlinked.walk_eq,
      descend_congr_passes (k.get? _ hs) fun via hv => k.get? via (hp via hv)]
    cases checkPath path with
    | error e => rfl
    | ok _ => rfl
  outside place hr := by
    rw [← hl.resolve hr]
    exact hp _ (passes_destination a path)

/-! ## Reading and writing -/

theorem SameElsewhere.readText (h : a.SameElsewhere b top) (hp : a.LeadsPast path top) :
    b.readText path = a.readText path := by
  have hstatus : b.status path = a.status path := by
    unfold FileSystem.status
    rw [hp.unmoved b h]
    cases hr : a.resolve path true with
    | error e => rfl
    | ok place => simp only [h.get? place (hp.outside place hr)]
  rw [FileSystem.readText, FileSystem.readText, FileSystem.readBytes, FileSystem.readBytes, hstatus]

theorem SameElsewhere.put (h : a.SameElsewhere b top) {place : Location} (hne : place ≠ [])
    (e : Entry) : (a.put place e).SameElsewhere (b.put place e) top := by
  refine ⟨h.workingDirectory, fun other ho => ?_⟩
  rw [get?_put _ _ _ _ hne, get?_put _ _ _ _ hne, h.get? other ho]

/-- What can be written in one of two trees can be written in the other. -/
theorem SameElsewhere.writeText (h : a.SameElsewhere b top) (hp : a.LeadsPast path top)
    {text : String} {new : FileSystem} (hw : a.writeText path text = .ok new) :
    ∃ other, b.writeText path text = .ok other ∧ new.SameElsewhere other top ∧
      b.SameBelow other top := by
  unfold FileSystem.writeText writeBytes at hw ⊢
  split at hw
  · cases hw
  · rename_i place hplace
    obtain ⟨hslash, hr⟩ := writePlace_ok_iff.1 hplace
    have hout := hp.outside place hr
    have hput (hne : place ≠ []) (x : Bool) :
        (a.put place (.file text.toUTF8 x)).SameElsewhere (b.put place (.file text.toUTF8 x)) top ∧
          b.SameBelow (b.put place (.file text.toUTF8 x)) top := by
      refine ⟨h.put hne _, fun other ho => ?_⟩
      rw [get?_put _ _ _ _ hne, if_neg]
      rintro rfl
      exact hout ho
    rw [writePlace_ok_iff.2 ⟨hslash, (hp.unmoved b h).trans hr⟩]
    simp only [h.get? place hout]
    split at hw
    · rename_i content x hg
      cases hw
      exact ⟨_, rfl, hput (ne_nil_of_get? hg (by simp)) x⟩
    · cases hw
    · rename_i hg
      cases hw
      exact ⟨_, rfl, hput (ne_nil_of_get? hg (by simp)) false⟩

end TestForge.FileSystem
