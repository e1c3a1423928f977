import TestForge.FileSystem.Operations

/-!
# Trees that grow

No operation but removal takes anything away from a tree: directories and links stay what they are,
files stay files, and what is new is no link. A path that can be walked keeps its location, so what
was written is read again.
-/

namespace TestForge.FileSystem

/-- What a tree can turn into without a removal. -/
structure Grows (old new : FileSystem) : Prop where
  workingDirectory : new.workingDirectory = old.workingDirectory
  directory : ∀ place, old.get? place = some .directory → new.get? place = some .directory
  link : ∀ place target, old.get? place = some (.link target) ↔ new.get? place = some (.link target)
  file : ∀ place content x, old.get? place = some (.file content x) →
    ∃ content' x', new.get? place = some (.file content' x')

theorem Grows.refl (fs : FileSystem) : fs.Grows fs :=
  ⟨rfl, fun _ h => h, fun _ _ => Iff.rfl, fun _ content x h => ⟨content, x, h⟩⟩

theorem Grows.trans {a b c : FileSystem} (h : a.Grows b) (k : b.Grows c) : a.Grows c where
  workingDirectory := k.workingDirectory.trans h.workingDirectory
  directory place hd := k.directory place (h.directory place hd)
  link place target := (h.link place target).trans (k.link place target)
  file place content x hf := by
    obtain ⟨content', x', hf'⟩ := h.file place content x hf
    exact k.file place content' x' hf'

/-- What is missing was missing before. -/
theorem Grows.eq_none {old new : FileSystem} (h : old.Grows new) {place : Location}
    (hn : new.get? place = none) : old.get? place = none := by
  cases hg : old.get? place with
  | none => rfl
  | some entry =>
      cases entry with
      | file content x =>
          obtain ⟨content', x', hf⟩ := h.file place content x hg
          rw [hf] at hn
          cases hn
      | directory =>
          rw [h.directory place hg] at hn
          cases hn
      | link target =>
          rw [(h.link place target).1 hg] at hn
          cases hn

theorem get?_nil (fs : FileSystem) : fs.get? [] = some .directory := by
  simp [get?]

/-- The root is a directory, so what is none is elsewhere. -/
theorem ne_nil_of_get? {fs : FileSystem} {place : Location} {e : Option Entry}
    (h : fs.get? place = e) (he : e ≠ some .directory) : place ≠ [] := by
  rintro rfl
  exact he (h.symm.trans (get?_nil fs))

/-! ## Putting entries -/

/-- A tree grows where neither a directory nor a link is, and a file gives way to a file alone. -/
theorem grows_put {fs : FileSystem} {place : Location} {e : Entry} (hp : place ≠ [])
    (hd : fs.get? place ≠ some .directory) (hl : ∀ target, fs.get? place ≠ some (.link target))
    (he : ∀ target, e ≠ .link target)
    (hf : ∀ content x, fs.get? place = some (.file content x) → ∃ content' x', e = .file content' x') :
    fs.Grows (fs.put place e) := by
  refine ⟨rfl, fun other hdir => ?_, fun other target => ?_, fun other content x hfile => ?_⟩
  · rw [get?_put _ _ _ _ hp]
    split
    · rename_i ho
      exact absurd (ho ▸ hdir) hd
    · exact hdir
  · rw [get?_put _ _ _ _ hp]
    split
    · rename_i ho
      subst ho
      simp [hl, he]
    · rfl
  · rw [get?_put _ _ _ _ hp]
    split
    · rename_i ho
      obtain ⟨content', x', rfl⟩ := hf content x (ho ▸ hfile)
      exact ⟨content', x', rfl⟩
    · exact ⟨content, x, hfile⟩

theorem grows_put_new {fs : FileSystem} {place : Location} {e : Entry}
    (h : fs.get? place = none) (he : ∀ target, e ≠ .link target) : fs.Grows (fs.put place e) :=
  grows_put (ne_nil_of_get? h (by simp)) (by simp [h]) (by simp [h]) he (by simp [h])

theorem grows_put_file {fs : FileSystem} {place : Location} {content : ByteArray} {x : Bool}
    (h : fs.get? place = some (.file content x)) (content' : ByteArray) (x' : Bool) :
    fs.Grows (fs.put place (.file content' x')) :=
  grows_put (ne_nil_of_get? h (by simp)) (by simp [h]) (by simp [h]) (by simp)
    fun _ _ _ => ⟨content', x', rfl⟩

/-! ## Walking in a grown tree -/

theorem requireDirectory_ok_iff {fs : FileSystem} {place : Location} {u : Unit} :
    fs.requireDirectory place = .ok u ↔ fs.get? place = some .directory := by
  unfold requireDirectory
  split
  · simp_all
  · simp_all
  · simp_all

theorem Grows.requireDirectory {old new : FileSystem} (h : old.Grows new) {place : Location}
    (hd : old.requireDirectory place = .ok ()) : new.requireDirectory place = .ok () :=
  requireDirectory_ok_iff.2 (h.directory place (requireDirectory_ok_iff.1 hd))

theorem Grows.walk {old new : FileSystem} (h : old.Grows new) {followLast : Bool} {links : Nat}
    {here place : Location} {pieces : List String}
    (hw : old.walk followLast links here pieces = .ok place) :
    new.walk followLast links here pieces = .ok place := by
  fun_induction old.walk followLast links here pieces with
  | case1 => simpa [FileSystem.walk] using hw
  | case2 => simp at hw
  | case3 links here piece rest hd hp ih =>
      rw [FileSystem.walk]
      simpa only [h.requireDirectory hd, hp, ↓reduceIte] using ih hw
  | case4 links here rest hd hp ih =>
      rw [FileSystem.walk]
      simpa only [h.requireDirectory hd, hp, ↓reduceIte] using ih hw
  | case5 => simp at hw
  | case6 links here piece rest hd hp hu hn target hl he =>
      rw [FileSystem.walk]
      simpa only [h.requireDirectory hd, hp, hu, hn, (h.link _ _).1 hl, he, ↓reduceIte] using hw
  | case7 => simp at hw
  | case8 here piece rest hd hp hu hn target hl he links ih =>
      rw [FileSystem.walk]
      simpa only [h.requireDirectory hd, hp, hu, hn, (h.link _ _).1 hl, he,
        Bool.false_eq_true, ↓reduceIte] using ih hw
  | case9 links here piece rest hd hp hu hn hl ih =>
      -- what was no link is none now, so both walks go on to the next piece
      have hl' : ∀ target, new.get? (here ++ [piece]) = some (.link target) → False :=
        fun target ht => hl target ((h.link _ _).2 ht)
      rw [FileSystem.walk]
      simpa only [h.requireDirectory hd, hp, hu, hn, hl', ↓reduceIte] using ih hw

theorem Grows.resolve {old new : FileSystem} (h : old.Grows new) {path : String} {follow : Bool}
    {place : Location} (hr : old.resolve path follow = .ok place) :
    new.resolve path follow = .ok place := by
  unfold FileSystem.resolve at hr ⊢
  have hs : new.start path = old.start path := by
    simp [start, h.workingDirectory]
  split at hr
  · simp at hr
  · rw [hs]
    exact h.walk hr

theorem status_ok_iff {fs : FileSystem} {path : String} {e : Entry} :
    fs.status path = .ok e ↔
      ∃ place, fs.resolve path true = .ok place ∧ fs.get? place = some e := by
  unfold status
  split
  · simp_all
  · split <;> simp_all

theorem readBytes_ok_iff {fs : FileSystem} {path : String} {content : ByteArray} :
    fs.readBytes path = .ok content ↔ ∃ x, fs.status path = .ok (.file content x) := by
  unfold readBytes
  split <;> simp_all

/-- A file that can be read before can be read afterwards. -/
theorem Grows.readBytes {old new : FileSystem} (h : old.Grows new) {path : String}
    {content : ByteArray} (hr : old.readBytes path = .ok content) :
    ∃ content', new.readBytes path = .ok content' := by
  obtain ⟨x, hs⟩ := readBytes_ok_iff.1 hr
  obtain ⟨place, hp, he⟩ := status_ok_iff.1 hs
  obtain ⟨content', x', he'⟩ := h.file place content x he
  exact ⟨content', readBytes_ok_iff.2 ⟨x', status_ok_iff.2 ⟨place, h.resolve hp, he'⟩⟩⟩

/-! ## Operations -/

theorem resolve_of_writePlace {fs : FileSystem} {path : String} {place : Location}
    (h : fs.writePlace path = .ok place) : fs.resolve path true = .ok place := by
  unfold writePlace at h
  split at h
  · split at h
    · cases h
    · split at h
      · cases h
      · split at h <;> cases h
  · exact h

theorem writePlace_ok_iff {fs : FileSystem} {path : String} {place : Location} :
    fs.writePlace path = .ok place ↔
      endsInSlash path = false ∧ fs.resolve path true = .ok place := by
  unfold writePlace
  cases hs : endsInSlash path with
  | false => simp
  | true =>
      simp only [↓reduceIte, Bool.true_eq_false, false_and, iff_false]
      split
      · simp
      · split
        · simp
        · split
          · simp
          · simp

/-- What a successful write has done. -/
theorem writeBytes_ok {old new : FileSystem} {path : String} {content : ByteArray}
    (h : old.writeBytes path content = .ok new) :
    ∃ place x, old.resolve path true = .ok place ∧ new = old.put place (.file content x) ∧
      (old.get? place = none ∨ ∃ content', old.get? place = some (.file content' x)) := by
  unfold writeBytes at h
  split at h
  · cases h
  · rename_i place hp
    have hr := resolve_of_writePlace hp
    split at h
    · rename_i content' x hg
      cases h
      exact ⟨place, x, hr, rfl, Or.inr ⟨content', hg⟩⟩
    · cases h
    · rename_i hg
      cases h
      exact ⟨place, false, hr, rfl, Or.inl hg⟩

/-- Nothing is written where a directory is, so not to the root. -/
theorem ne_nil_of_writable {fs : FileSystem} {place : Location} {x : Bool}
    (h : fs.get? place = none ∨ ∃ content, fs.get? place = some (.file content x)) :
    place ≠ [] := by
  rcases h with h | ⟨content, h⟩
  · exact ne_nil_of_get? h (by simp)
  · exact ne_nil_of_get? h (by simp)

theorem grows_writeBytes {old new : FileSystem} {path : String} {content : ByteArray}
    (h : old.writeBytes path content = .ok new) : old.Grows new := by
  obtain ⟨place, x, -, rfl, hg | ⟨content', hg⟩⟩ := writeBytes_ok h
  · exact grows_put_new hg (by simp)
  · exact grows_put_file hg content x

/-- What was written is read again. -/
theorem readBytes_writeBytes {old new : FileSystem} {path : String} {content : ByteArray}
    (h : old.writeBytes path content = .ok new) : new.readBytes path = .ok content := by
  have hn := grows_writeBytes h
  obtain ⟨place, x, hp, rfl, hg⟩ := writeBytes_ok h
  have hne := ne_nil_of_writable hg
  have he : (old.put place (.file content x)).get? place = some (.file content x) := by
    simp [get?_put _ _ _ _ hne]
  exact readBytes_ok_iff.2 ⟨x, status_ok_iff.2 ⟨place, hn.resolve hp, he⟩⟩

/-- A new directory stands where nothing was. A slash at the end of its path leads nowhere else. -/
theorem createDirectory_put {old new : FileSystem} {path : String}
    (h : old.createDirectory path = .ok new) :
    ∃ place, old.resolve (if (dropSlashes path).isEmpty then path else dropSlashes path) false =
        .ok place ∧ old.get? place = none ∧ new = old.put place .directory := by
  unfold createDirectory at h
  simp only at h
  split at h
  · cases h
  · rename_i place hr
    split at h
    · cases h
    · rename_i hg
      cases h
      exact ⟨place, hr, hg, rfl⟩

theorem grows_createDirectory {old new : FileSystem} {path : String}
    (h : old.createDirectory path = .ok new) : old.Grows new := by
  obtain ⟨place, -, hg, rfl⟩ := createDirectory_put h
  exact grows_put_new hg (by simp)

/-- What each new directory keeps is kept when directories are created, also when they stop half
way. -/
theorem createLineage_keeps {P : FileSystem → Prop} {fs : FileSystem} {paths : List String}
    (h : P fs) (hstep : ∀ path ∈ paths, path ≠ "" → ∀ {old new : FileSystem}, P old →
      old.createDirectory path = .ok new → P new) : P (fs.createLineage paths).2 := by
  have hrest {path : String} {above : List String}
      (hstep : ∀ other ∈ path :: above, other ≠ "" → ∀ {old new : FileSystem}, P old →
        old.createDirectory other = .ok new → P new) :
      ∀ other ∈ above, other ≠ "" → ∀ {old new : FileSystem}, P old →
        old.createDirectory other = .ok new → P new :=
    fun other ho => hstep other (List.mem_cons_of_mem path ho)
  fun_induction fs.createLineage paths with
  | case1 => exact h
  | case2 => exact h
  | case3 path above hp made hm =>
      exact hstep path List.mem_cons_self (by simpa using hp) h hm
  | case4 path above hp hn e made hm ih => simpa only [hm] using ih (hrest hstep)
  | case5 path above hp hn made hm whole hw ih =>
      have hmade : P made := by simpa only [hm] using ih (hrest hstep)
      exact hstep path List.mem_cons_self (by simpa using hp) hmade hw
  | case6 path above hp hn made hm e hw ih => simpa only [hm] using ih (hrest hstep)
  | case7 => exact h

theorem grows_createLineage (fs : FileSystem) (paths : List String) :
    fs.Grows (fs.createLineage paths).2 :=
  createLineage_keeps (.refl fs) fun _ _ _ _ _ h hc => h.trans (grows_createDirectory hc)

theorem grows_createDirectories (fs : FileSystem) (path : String) :
    fs.Grows (fs.createDirectories path).2 :=
  grows_createLineage fs _

end TestForge.FileSystem
