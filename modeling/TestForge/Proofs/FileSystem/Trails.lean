import TestForge.Proofs.FileSystem.Room

/-!
# Ways that may lead up

Directories can be created along a way if no file and no link stand on it and none of its names is
too long, also where the way leads up again. What is created lies on the way. Links elsewhere do not
matter, also not those that lead to where the way begins.
-/

namespace TestForge.FileSystem

open Text

/-! ## Places on a way -/

theorem foldl_step_filter (here : Location) (ps : List String) :
    (ps.filter counts).foldl step here = ps.foldl step here := by
  induction ps generalizing here with
  | nil => rfl
  | cons piece ps ih =>
      cases hp : counts piece with
      | true => rw [List.filter_cons_of_pos hp, List.foldl_cons, List.foldl_cons, ih]
      | false =>
          rw [List.filter_cons_of_neg (by simp [hp]), List.foldl_cons, step,
            if_pos (counts_eq_false_iff.1 hp), ih]

/-- A place that a way comes to, from where it starts on. -/
def Passes (here : Location) (pieces : List String) (place : Location) : Prop :=
  ∃ front, front ≠ [] ∧ front <+: pieces ∧ place = front.foldl step here

theorem Passes.concat {here place : Location} {pieces : List String}
    (h : Passes here pieces place) (last : String) : Passes here (pieces ++ [last]) place := by
  obtain ⟨front, hf, hp, rfl⟩ := h
  exact ⟨front, hf, hp.trans (List.prefix_append pieces [last]), rfl⟩

theorem passes_end (here : Location) (pieces : List String) (last : String) :
    Passes here (pieces ++ [last]) ((pieces ++ [last]).foldl step here) :=
  ⟨pieces ++ [last], by simp, List.prefix_refl _, rfl⟩

theorem passes_cons {here place : Location} {piece : String} {pieces : List String}
    (h : Passes (step here piece) pieces place) : Passes here (piece :: pieces) place := by
  obtain ⟨front, -, hp, rfl⟩ := h
  exact ⟨piece :: front, List.cons_ne_nil piece front, List.cons_prefix_cons.2 ⟨rfl, hp⟩, rfl⟩

theorem passes_head (here : Location) (piece : String) (pieces : List String) :
    Passes here (piece :: pieces) (step here piece) :=
  ⟨[piece], List.cons_ne_nil piece [], List.cons_prefix_cons.2 ⟨rfl, List.nil_prefix⟩, rfl⟩

theorem passes_append {here place : Location} {front back : List String}
    (h : Passes here (front ++ back) place) :
    Passes here front place ∨ Passes (front.foldl step here) back place := by
  obtain ⟨pieces, hne, hp, rfl⟩ := h
  rcases List.prefix_or_prefix_of_prefix hp (List.prefix_append front back) with
    hfront | ⟨rest, rfl⟩
  · exact Or.inl ⟨pieces, hne, hfront, rfl⟩
  · have hback := (List.prefix_append_right_inj front).1 hp
    by_cases hr : rest = []
    · subst hr
      exact Or.inl ⟨front, by simpa using hne, List.prefix_refl _, by simp⟩
    · exact Or.inr ⟨rest, hr, hback, List.foldl_append⟩

theorem passes_singleton {here place : Location} {piece : String}
    (h : Passes here [piece] place) : place = step here piece := by
  obtain ⟨front, hne, hp, rfl⟩ := h
  obtain ⟨first, rest, rfl⟩ := List.exists_cons_of_ne_nil hne
  obtain ⟨rfl, hrest⟩ := List.cons_prefix_cons.1 hp
  rw [List.prefix_nil.1 hrest]
  rfl

theorem passes_cons_cases {here place : Location} {piece : String} {pieces : List String}
    (h : Passes here (piece :: pieces) place) :
    place = step here piece ∨ Passes (step here piece) pieces place :=
  (passes_append (show Passes here ([piece] ++ pieces) place from h)).imp_left passes_singleton

/-- No piece of a way is too long, and no file stands on it. -/
structure Open (fs : FileSystem) (here : Location) (pieces : List String) : Prop where
  short : ∀ piece ∈ pieces, piece.utf8ByteSize ≤ maxNameBytes
  free : ∀ place, Passes here pieces place → ∀ content x, fs.get? place ≠ some (.file content x)

theorem Open.front {fs : FileSystem} {here : Location} {pieces : List String} {last : String}
    (h : fs.Open here (pieces ++ [last])) : fs.Open here pieces :=
  ⟨fun piece hm => h.short piece (List.mem_append_left _ hm),
    fun place hp => h.free place (hp.concat last)⟩

theorem Open.tail {fs : FileSystem} {here : Location} {piece : String} {pieces : List String}
    (h : fs.Open here (piece :: pieces)) : fs.Open (step here piece) pieces :=
  ⟨fun other hm => h.short other (List.mem_cons_of_mem piece hm),
    fun place hp => h.free place (passes_cons hp)⟩

/-! ## Walking an open way -/

/-- From a directory one step leads on. -/
theorem descend_step {fs : FileSystem} {here : Location} (hd : fs.get? here = some .directory)
    {piece : String} (hs : piece.utf8ByteSize ≤ maxNameBytes) (rest : List String) :
    fs.descend here (piece :: rest) = fs.descend (step here piece) rest := by
  have hhere : fs.requireDirectory here = .ok () := requireDirectory_ok_iff.2 hd
  rw [descend_cons, hhere]
  exact if_neg (Nat.not_lt.2 hs)

/-- No link stands on a way. -/
def Unlinked (fs : FileSystem) (here : Location) (pieces : List String) : Prop :=
  ∀ place, Passes here pieces place → ∀ target, fs.get? place ≠ some (.link target)

theorem Linkless.unlinked {fs : FileSystem} (h : fs.Linkless) (here : Location)
    (pieces : List String) : fs.Unlinked here pieces :=
  fun place _ target => h place target

/-- A way leads to the same place if nothing that it comes to is different. -/
theorem descend_congr_passes {old new : FileSystem} {here : Location} {pieces : List String}
    (hh : new.get? here = old.get? here)
    (h : ∀ via, Passes here pieces via → new.get? via = old.get? via) :
    new.descend here pieces = old.descend here pieces := by
  induction pieces generalizing here with
  | nil => rfl
  | cons piece pieces ih =>
      rw [descend_cons, descend_cons, requireDirectory_congr hh,
        ih (h _ (passes_head here piece pieces)) fun via hv => h via (passes_cons hv)]

theorem Unlinked.front {fs : FileSystem} {here : Location} {pieces : List String} {last : String}
    (h : fs.Unlinked here (pieces ++ [last])) : fs.Unlinked here pieces :=
  fun place hp => h place (hp.concat last)

theorem Unlinked.tail {fs : FileSystem} {here : Location} {piece : String} {pieces : List String}
    (h : fs.Unlinked here (piece :: pieces)) : fs.Unlinked (step here piece) pieces :=
  fun place hp => h place (passes_cons hp)

theorem Unlinked.concat {fs : FileSystem} {here : Location} {pieces : List String} {last : String}
    (h : fs.Unlinked here pieces)
    (hl : ∀ target, fs.get? ((pieces ++ [last]).foldl step here) ≠ some (.link target)) :
    fs.Unlinked here (pieces ++ [last]) := by
  intro place hp
  rcases passes_append hp with hp | hp
  · exact h place hp
  · obtain rfl := passes_singleton hp
    rwa [List.foldl_append] at hl

theorem Grows.unlinked {old new : FileSystem} (h : old.Grows new) {here : Location}
    {pieces : List String} (hl : old.Unlinked here pieces) : new.Unlinked here pieces :=
  fun place hp target ht => hl place hp target ((h.link place target).2 ht)

theorem Unlinked.walk_eq {fs : FileSystem} {here : Location} {pieces : List String}
    (h : fs.Unlinked here pieces) (follow : Bool) (links : Nat) :
    fs.walk follow links here pieces = fs.descend here pieces := by
  induction pieces generalizing here with
  | nil => rw [walk, descend]
  | cons piece rest ih =>
      have htail := h.tail
      have hnext := h _ (passes_head here piece rest)
      rw [walk, descend]
      unfold step at htail hnext
      cases fs.requireDirectory here with
      | error e => rfl
      | ok _ =>
          by_cases hp : piece = "" ∨ piece = "."
          · simp only [hp, ↓reduceIte] at htail ⊢
            exact ih htail
          · by_cases hu : piece = ".."
            · simp only [hu, ↓reduceIte] at htail ⊢
              exact ih htail
            · simp only [hp, hu, ↓reduceIte] at htail hnext ⊢
              split
              · rfl
              · cases hg : fs.get? (here ++ [piece]) with
                | none => exact ih htail
                | some entry =>
                    cases entry with
                    | file content x => exact ih htail
                    | directory => exact ih htail
                    | link target => exact absurd hg (hnext target)

/-- A path below a directory leads from there along its names, if no link stands on the way. -/
theorem Under.resolve_unlinked {fs : FileSystem} {root path : String} {base : Location}
    {names : List String} (h : Under root path names) (hc : Path.Clean path)
    (hk : checkPath path = .ok ()) (hr : fs.resolve root true = .ok base) (hn : names ≠ [])
    (hl : fs.Unlinked base names) (follow : Bool) :
    fs.resolve path follow = fs.descend base names := by
  obtain ⟨front, above, last, hpieces, rfl, hfront⟩ := h.exists_last hc hn
  have hroot : fs.walk true maxLinks (fs.start root) (pieces root) = .ok base := by
    rwa [FileSystem.resolve, checkPath_of_resolve hr] at hr
  obtain ⟨left, hleft⟩ := walk_append hroot
  rw [FileSystem.resolve, hk, h.start_eq, hpieces]
  calc fs.walk follow maxLinks (fs.start root) (front ++ [last])
      = fs.walk follow maxLinks (fs.start root) (pieces root ++ above ++ [last]) := by
        rw [walk_filter, hfront, ← walk_filter]
    _ = fs.walk follow left base (above ++ [last]) := by
        rw [List.append_assoc, hleft follow _ (by simp)]
    _ = fs.descend base (above ++ [last]) := hl.walk_eq follow left

/-- Where a step leads from a directory there is a directory or nothing, if there is no file and no
link. -/
theorem step_cases {fs : FileSystem} {place : Location}
    (hl : ∀ target, fs.get? place ≠ some (.link target))
    (hf : ∀ content x, fs.get? place ≠ some (.file content x)) :
    fs.get? place = some .directory ∨ fs.get? place = none := by
  cases hg : fs.get? place with
  | none => exact Or.inr rfl
  | some entry =>
      cases entry with
      | directory => exact Or.inl rfl
      | file content x => exact absurd hg (hf content x)
      | link target => exact absurd hg (hl target)

/-- An open way leads to its end, unless a directory is missing in front of its last piece. -/
theorem descend_open {fs : FileSystem} {here : Location} {pieces : List String}
    (hl : fs.Unlinked here pieces) (hd : fs.get? here = some .directory) (ho : fs.Open here pieces) :
    fs.descend here pieces = .ok (pieces.foldl step here) ∨
      fs.descend here pieces = .error .notFound ∧ 2 ≤ pieces.length := by
  induction pieces generalizing here with
  | nil => exact Or.inl rfl
  | cons piece pieces ih =>
      rw [descend_step hd (ho.short piece List.mem_cons_self), List.foldl_cons]
      have hhead := passes_head here piece pieces
      rcases step_cases (hl _ hhead) (ho.free _ hhead) with hnext | hnone
      · rcases ih hl.tail hnext ho.tail with hend | ⟨hmissing, hlength⟩
        · exact Or.inl hend
        · exact Or.inr ⟨hmissing, Nat.le_succ_of_le hlength⟩
      · cases pieces with
        | nil => exact Or.inl rfl
        | cons next pieces =>
            refine Or.inr ⟨?_, by simp⟩
            rw [descend, requireDirectory, hnone]

/-- A step that was made is no longer than a name may be. -/
theorem short_of_descend_cons {fs : FileSystem} {here place : Location} {piece : String}
    {rest : List String} (h : fs.descend here (piece :: rest) = .ok place) :
    piece.utf8ByteSize ≤ maxNameBytes := by
  have hhere : fs.requireDirectory here = .ok () :=
    requireDirectory_ok_iff.2 (directory_of_descend_cons h)
  rw [descend_cons, hhere] at h
  by_contra hlong
  rw [if_pos (Nat.not_le.1 hlong)] at h
  cases h

/-- A way that has been walked to a directory is open. -/
theorem open_of_descend {fs : FileSystem} {here place : Location} {pieces : List String}
    (h : fs.descend here pieces = .ok place) (hd : fs.get? place = some .directory) :
    fs.Open here pieces ∧
      ∀ via, Passes here pieces via → fs.get? via = some .directory := by
  suffices hall : (∀ piece ∈ pieces, piece.utf8ByteSize ≤ maxNameBytes) ∧
      ∀ via, Passes here pieces via → fs.get? via = some .directory by
    exact ⟨⟨hall.1, fun via hv content x => by simp [hall.2 via hv]⟩, hall.2⟩
  induction pieces generalizing here with
  | nil =>
      refine ⟨by simp, ?_⟩
      rintro via ⟨front, hf, hp, -⟩
      exact absurd (List.prefix_nil.1 hp) hf
  | cons piece pieces ih =>
      have hshort := short_of_descend_cons h
      rw [descend_step (directory_of_descend_cons h) hshort] at h
      obtain ⟨hrest, hvia⟩ := ih h
      refine ⟨by simpa using ⟨hshort, hrest⟩, fun via hv => ?_⟩
      rcases passes_cons_cases hv with rfl | hv
      · exact directory_of_descend_directory h hd
      · exact hvia via hv

/-! ## Creating the directories of an open way -/

/-- Nothing has changed but that directories have come, to some of the places named. -/
def DirectoriesOnly (old new : FileSystem) (named : Location → Prop) : Prop :=
  ∀ place, new.get? place = old.get? place ∨
    old.get? place = none ∧ new.get? place = some .directory ∧ named place

theorem DirectoriesOnly.refl (fs : FileSystem) (named : Location → Prop) :
    fs.DirectoriesOnly fs named :=
  fun _ => Or.inl rfl

theorem DirectoriesOnly.mono {old new : FileSystem} {named more : Location → Prop}
    (h : old.DirectoriesOnly new named) (hm : ∀ place, named place → more place) :
    old.DirectoriesOnly new more := fun place =>
  (h place).imp_right fun ⟨hold, hnew, hp⟩ => ⟨hold, hnew, hm place hp⟩

theorem DirectoriesOnly.trans {a b c : FileSystem} {named : Location → Prop}
    (h : a.DirectoriesOnly b named) (k : b.DirectoriesOnly c named) : a.DirectoriesOnly c named := by
  intro place
  rcases k place with hsame | ⟨hb, hc, hp⟩
  · rw [hsame]
    exact h place
  · rcases h place with hsame | ⟨-, hb', -⟩
    · exact Or.inr ⟨hsame ▸ hb, hc, hp⟩
    · rw [hb] at hb'
      cases hb'

theorem DirectoriesOnly.put {old new : FileSystem} {named : Location → Prop} {place : Location}
    (h : old.DirectoriesOnly new named) (hn : new.get? place = none) (hp : named place) :
    old.DirectoriesOnly (new.put place .directory) named := by
  have hne := ne_nil_of_get? hn (by simp)
  intro other
  rw [get?_put _ _ _ _ hne]
  split
  · rename_i he
    subst he
    rcases h place with hsame | ⟨-, hnew, -⟩
    · exact Or.inr ⟨hsame ▸ hn, rfl, hp⟩
    · rw [hn] at hnew
      cases hnew
  · exact h other

/-- A file was there before. -/
theorem DirectoriesOnly.file {old new : FileSystem} {named : Location → Prop}
    (h : old.DirectoriesOnly new named) {place : Location} {content : ByteArray} {x : Bool}
    (hg : new.get? place = some (.file content x)) : old.get? place = some (.file content x) := by
  rcases h place with hsame | ⟨-, hnew, -⟩
  · exact hsame ▸ hg
  · rw [hg] at hnew
    cases hnew

/-- What is put behind new directories changes no other file. -/
theorem DirectoriesOnly.content?_put {old new : FileSystem} {named : Location → Prop}
    (h : old.DirectoriesOnly new named) {kept : Location} (hk : kept ≠ []) (content : ByteArray)
    (x : Bool) (place : Location) :
    (new.put kept (.file content x)).content? place =
      if kept = place then some content else old.content? place := by
  unfold content?
  rw [get?_put _ _ _ _ hk]
  by_cases hp : kept = place
  · rw [if_pos hp, if_pos hp]
  · rw [if_neg hp, if_neg hp]
    rcases h place with hsame | ⟨hnone, hdir, -⟩
    · rw [hsame]
    · rw [hnone, hdir]

section

variable {fs : FileSystem} {root path : String} {base : Location} {names : List String}

/-- A path to a directory goes along its whole way. -/
theorem descend_of_isDirectory (hr : fs.resolve root true = .ok base) (h : Under root path names)
    (hn : names ≠ []) (hc : Path.Clean path) (hk : checkPath path = .ok ())
    (hl : fs.Unlinked base names) (hd : fs.isDirectory path = true) :
    fs.descend base names = .ok (names.foldl step base) ∧
      fs.get? (names.foldl step base) = some .directory := by
  obtain ⟨place, hplace, hdir⟩ := isDirectory_iff.1 hd
  rw [h.resolve_unlinked hc hk hr hn hl] at hplace
  rw [destination_of_descend hplace]
  exact ⟨hplace, hdir⟩

/-- Where a way leads to a directory or to nothing, there is a directory in the end. -/
theorem ensureDirectory_open (hr : fs.resolve root true = .ok base) (h : Under root path names)
    (hn : names ≠ []) (hc : Path.Clean path) (hk : checkPath path = .ok ())
    (hl : fs.Unlinked base names)
    (hp : ∀ follow, fs.resolve path follow = .ok (names.foldl step base))
    (hplace : fs.get? (names.foldl step base) = some .directory ∨
      fs.get? (names.foldl step base) = none) :
    ∃ made, fs.ensureDirectory path = (.ok (), made) ∧
      fs.DirectoriesOnly made (Passes base names) ∧
      made.descend base names = .ok (names.foldl step base) ∧
      made.get? (names.foldl step base) = some .directory := by
  rcases hplace with hdir | hnone
  · exact ⟨fs, ensureDirectory_of_directory hc hp hdir, .refl fs _,
      descend_of_isDirectory hr h hn hc hk hl (isDirectory_iff.2 ⟨_, hp true, hdir⟩)⟩
  · have hensured := ensureDirectory_of_missing hc hp hnone
    have hgrows : fs.Grows (fs.put (names.foldl step base) .directory) :=
      grows_put_new hnone (by simp)
    exact ⟨_, hensured, (DirectoriesOnly.refl fs _).put hnone ⟨names, hn, List.prefix_refl _, rfl⟩,
      descend_of_isDirectory (hgrows.resolve hr) h hn hc hk (hgrows.unlinked hl)
        (isDirectory_of_ensureDirectory hc hensured)⟩

/-- Directories below a root can be created along an open way without links, wherever links may be
that do not stand on it. -/
theorem createLineage_open (hr : fs.resolve root true = .ok base)
    (hd : fs.get? base = some .directory) (h : Under root path names) (hn : names ≠ [])
    (hc : Path.Clean path) (hk : checkPath path = .ok ()) (hl : fs.Unlinked base names)
    (ho : fs.Open base names) (fuel : Nat) (hf : path.length ≤ fuel) :
    ∃ made, fs.createLineage (lineage fuel path) = (.ok (), made) ∧
      fs.DirectoriesOnly made (Passes base names) ∧
      made.descend base names = .ok (names.foldl step base) ∧
      made.get? (names.foldl step base) = some .directory := by
  -- by induction on the way, last piece first, as the directories above are created first
  induction names using List.reverseRecOn generalizing path fuel with
  | nil => exact absurd rfl hn
  | append_singleton names name ih =>
      have hp := (checkPath_ok_iff.1 hk).2.1
      have hresolve := h.resolve_unlinked hc hk hr hn hl
      have hend := passes_end base names name
      rw [lineage_eq]
      rcases descend_open hl hd ho with hplace | ⟨hmissing, hlength⟩
      · have hthere (follow : Bool) := (hresolve follow).trans hplace
        rw [createLineage_of_tried hp (createDirectory_ne_notFound hc (hthere false))]
        exact ensureDirectory_open hr h hn hc hk hl hthere (step_cases (hl _ hend) (ho.free _ hend))
      · have hne : names ≠ [] := by
          rintro rfl
          simp at hlength
        have hcreate : fs.createDirectory path = .error .notFound := by
          rw [createDirectory_clean fs hc, hresolve, hmissing]
          rfl
        rcases above_cases h hc hk hf with ⟨hnil, -⟩ |
          ⟨up, rest, habove, hunder, hclean, hk', hlength⟩
        · exact absurd hnil hne
        obtain ⟨made, hmade, honly, hthere, hdir⟩ :=
          ih hunder hne hclean hk' hl.front ho.front rest hlength
        have hgrows := fs.grows_createLineage (lineage rest up)
        rw [hmade] at hgrows
        have hway := hgrows.unlinked hl
        have hroot := hgrows.resolve hr
        have hagain (follow : Bool) :
            made.resolve path follow = .ok ((names ++ [name]).foldl step base) := by
          rw [h.resolve_unlinked hc hk hroot hn hway, descend_append, hthere, List.foldl_append]
          exact descend_step hdir (ho.short name (by simp)) []
        rw [createLineage_of_above_ok hp hcreate (habove ▸ hmade)]
        obtain ⟨whole, hwhole, honly', hend'⟩ := ensureDirectory_open hroot h hn hc hk hway hagain
          (step_cases (hway _ hend) fun content x hg => ho.free _ hend content x (honly.file hg))
        exact ⟨whole, hwhole,
          (honly.mono fun place hpass => hpass.concat name).trans honly', hend'⟩

end

end TestForge.FileSystem
