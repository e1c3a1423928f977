import TestForge.Proofs.FileSystem.Entering
import TestForge.Proofs.FileSystem.Files

/-!
# Creating directories

Directories that were created are there, and creating them once more changes nothing. It does not
fail unless it failed before, and for the same reason; only where a file stands in the way, the
directories that were created on the way to it can make a difference to what is said of it.
-/

namespace TestForge.FileSystem

open Text

theorem isDirectory_iff {fs : FileSystem} {path : String} :
    fs.isDirectory path = true ↔
      ∃ place, fs.resolve path true = .ok place ∧ fs.get? place = some .directory := by
  unfold isDirectory
  rw [← status_ok_iff]
  split
  · simp_all
  · rename_i hs
    simp only [Bool.false_eq_true, false_iff]
    exact hs

theorem isDirectory_eq_false {fs : FileSystem} {path : String} {e : FileError}
    (h : fs.resolve path true = .error e) : fs.isDirectory path = false := by
  rw [Bool.eq_false_iff]
  intro hd
  obtain ⟨place, hp, -⟩ := isDirectory_iff.1 hd
  rw [h] at hp
  cases hp

/-! ## One directory -/

theorem dropSlashes_clean {path : String} (h : Path.Clean path) :
    (if (dropSlashes path).isEmpty then path else dropSlashes path) = path := by
  unfold Path.Clean at h
  unfold dropSlashes
  generalize hr : path.toList.reverse = r at h
  have hpath : path = String.ofList r.reverse := by
    rw [← hr, List.reverse_reverse, String.ofList_toList]
  cases r with
  | nil =>
      subst hpath
      rfl
  | cons c r =>
      by_cases hc : c = '/'
      · subst hc
        have hroot : r = [] := by
          by_contra hne
          rw [Path.dropTrailing_slash hne] at h
          have hle := (Path.dropTrailing_suffix r).length_le
          rw [h] at hle
          exact absurd hle (Nat.not_succ_le_self _)
        subst hroot
        rfl
      · rw [List.dropWhile_cons_of_neg (by simpa using hc), ← hpath, ite_self]

theorem createDirectory_clean (fs : FileSystem) {path : String} (hc : Path.Clean path) :
    fs.createDirectory path = (fs.resolve path false).bind fun place =>
      match fs.get? place with
      | some _ => .error .exists
      | none => .ok (fs.put place .directory) := by
  unfold createDirectory
  simp only
  rw [dropSlashes_clean hc]
  cases fs.resolve path false with
  | error e => rfl
  | ok place => rfl

theorem createDirectory_eq {fs : FileSystem} (hl : fs.Linkless) {path : String}
    (hc : Path.Clean path) :
    fs.createDirectory path = (fs.resolve path true).bind fun place =>
      match fs.get? place with
      | some _ => .error .exists
      | none => .ok (fs.put place .directory) := by
  rw [createDirectory_clean fs hc, hl.resolve_eq, hl.resolve_eq]

theorem createDirectory_ok {old new : FileSystem} (hl : old.Linkless) {path : String}
    (hc : Path.Clean path) (h : old.createDirectory path = .ok new) :
    ∃ place, old.resolve path true = .ok place ∧ old.get? place = none ∧
      new = old.put place .directory := by
  obtain ⟨place, hr, hg, rfl⟩ := createDirectory_put h
  rw [dropSlashes_clean hc, hl.resolve_eq] at hr
  exact ⟨place, (hl.resolve_eq path true).trans hr, hg, rfl⟩

/-- A directory cannot be created if its path leads nowhere, or if something is there. -/
theorem createDirectory_error {fs : FileSystem} (hl : fs.Linkless) {path : String}
    (hc : Path.Clean path) {e : FileError} (h : fs.createDirectory path = .error e) :
    fs.resolve path true = .error e ∨
      e = .exists ∧ ∃ place entry, fs.resolve path true = .ok place ∧ fs.get? place = some entry := by
  rw [createDirectory_eq hl hc] at h
  cases hr : fs.resolve path true with
  | error e' =>
      rw [hr] at h
      cases h
      exact Or.inl rfl
  | ok place =>
      rw [hr] at h
      cases hg : fs.get? place with
      | some entry =>
          simp only [Except.bind, hg, Except.error.injEq] at h
          exact Or.inr ⟨h.symm, place, entry, rfl, hg⟩
      | none => simp [Except.bind, hg] at h

theorem createDirectory_of_resolve_error {fs : FileSystem} (hl : fs.Linkless) {path : String}
    (hc : Path.Clean path) {e : FileError} (h : fs.resolve path true = .error e) :
    fs.createDirectory path = .error e := by
  rw [createDirectory_eq hl hc, h]
  rfl

theorem createDirectory_of_isDirectory {fs : FileSystem} (hl : fs.Linkless) {path : String}
    (hc : Path.Clean path) (h : fs.isDirectory path = true) :
    fs.createDirectory path = .error .exists := by
  obtain ⟨place, hr, hg⟩ := isDirectory_iff.1 h
  rw [createDirectory_eq hl hc, hr]
  simp only [Except.bind, hg]

theorem resolve_followed {fs : FileSystem} {path : String} {place : Location}
    (h : fs.resolve path false = .ok place) (hl : ∀ target, fs.get? place ≠ some (.link target)) :
    fs.resolve path true = .ok place := by
  unfold resolve at h ⊢
  split at h
  · cases h
  · exact walk_followed h hl

theorem isDirectory_of_createDirectory {old new : FileSystem} {path : String}
    (hc : Path.Clean path) (h : old.createDirectory path = .ok new) :
    new.isDirectory path = true := by
  have hgrows := grows_createDirectory h
  obtain ⟨place, hr, hg, rfl⟩ := createDirectory_put h
  rw [dropSlashes_clean hc] at hr
  have hthere : old.resolve path true = .ok place := resolve_followed hr (by simp [hg])
  exact isDirectory_iff.2 ⟨place, hgrows.resolve hthere,
    by rw [get?_put _ _ _ _ (ne_nil_of_get? hg (by simp)), if_pos rfl]⟩

/-- What keeps a directory from being there keeps those below it from being created. -/
theorem resolve_below {fs : FileSystem} (hl : fs.Linkless) {path up : String}
    (hk : checkPath path = .ok ()) (hc : Path.Clean path) (h : Path.parent? path = some up)
    (hu : up ≠ "") {e : FileError} (he : fs.createDirectory up = .error e)
    (hd : fs.isDirectory up = false) :
    fs.resolve path true = .error e ∨ e = .exists ∧ fs.resolve path true = .error .notDirectory := by
  obtain ⟨last, -, hresolve⟩ := resolve_parent? hk hc h hu
  rw [hresolve hl]
  rcases createDirectory_error hl (Path.clean_parent? h) he with hr | ⟨rfl, place, entry, hr, hg⟩
  · rw [hr]
    exact Or.inl rfl
  · refine Or.inr ⟨rfl, ?_⟩
    have hfile : fs.requireDirectory place = .error .notDirectory := by
      unfold requireDirectory
      rw [hg]
      cases entry with
      | directory => rw [isDirectory_iff.2 ⟨place, hr, hg⟩] at hd; cases hd
      | file content x => rfl
      | link target => rfl
    rw [hr]
    exact descend_cons_error hfile last []

/-! ## A path and those above it -/

/-- The paths above the first of a lineage. -/
def above (fuel : Nat) (path : String) : List String :=
  match fuel with
  | 0 => []
  | fuel + 1 =>
    match Path.parent? path with
    | some up => lineage fuel up
    | none => []

theorem lineage_eq (fuel : Nat) (path : String) : lineage fuel path = path :: above fuel path := by
  cases fuel with
  | zero => rfl
  | succ fuel =>
      cases h : Path.parent? path with
      | some up => simp only [lineage, above, h]
      | none => simp only [lineage, above, h]

theorem createLineage_empty (fs : FileSystem) (paths : List String) :
    fs.createLineage ("" :: paths) = (.ok (), fs) := by
  unfold createLineage
  rfl

/-- One try at a directory, which may be there already. -/
def ensureDirectory (fs : FileSystem) (path : String) : Except FileError Unit × FileSystem :=
  match fs.createDirectory path with
  | .ok made => (.ok (), made)
  | .error e => (if fs.isDirectory path then .ok () else .error e, fs)

section

variable {fs : FileSystem} {path : String} {paths : List String}

theorem ensureDirectory_of_ok {made : FileSystem} (h : fs.createDirectory path = .ok made) :
    fs.ensureDirectory path = (.ok (), made) := by
  unfold ensureDirectory
  rw [h]

theorem ensureDirectory_of_error {e : FileError} (h : fs.createDirectory path = .error e) :
    fs.ensureDirectory path = (if fs.isDirectory path then .ok () else .error e, fs) := by
  unfold ensureDirectory
  rw [h]

theorem isDirectory_of_ensureDirectory {made : FileSystem} (hc : Path.Clean path)
    (h : fs.ensureDirectory path = (.ok (), made)) : made.isDirectory path = true := by
  cases hd : fs.createDirectory path with
  | ok new =>
      rw [ensureDirectory_of_ok hd] at h
      cases h
      exact isDirectory_of_createDirectory hc hd
  | error e =>
      rw [ensureDirectory_of_error hd] at h
      cases hi : fs.isDirectory path with
      | true =>
          rw [Prod.mk.injEq] at h
          exact h.2 ▸ hi
      | false => simp [hi] at h

theorem ensureDirectory_error {e : FileError} {made : FileSystem}
    (h : fs.ensureDirectory path = (.error e, made)) :
    fs.createDirectory path = .error e ∧ fs.isDirectory path = false := by
  cases hd : fs.createDirectory path with
  | ok new =>
      rw [ensureDirectory_of_ok hd] at h
      cases h
  | error e' =>
      rw [ensureDirectory_of_error hd] at h
      cases hi : fs.isDirectory path with
      | true => simp [hi] at h
      | false =>
          simp only [hi, Bool.false_eq_true, ↓reduceIte, Prod.mk.injEq, Except.error.injEq] at h
          exact ⟨by rw [h.1], rfl⟩

section

variable {place : Location}

theorem ensureDirectory_of_missing (hc : Path.Clean path)
    (hr : ∀ follow, fs.resolve path follow = .ok place) (hg : fs.get? place = none) :
    fs.ensureDirectory path = (.ok (), fs.put place .directory) := by
  have hcreate := createDirectory_clean fs hc
  rw [hr] at hcreate
  simp only [Except.bind, hg] at hcreate
  exact ensureDirectory_of_ok hcreate

theorem ensureDirectory_of_directory (hc : Path.Clean path)
    (hr : ∀ follow, fs.resolve path follow = .ok place) (hg : fs.get? place = some .directory) :
    fs.ensureDirectory path = (.ok (), fs) := by
  have hcreate := createDirectory_clean fs hc
  rw [hr] at hcreate
  simp only [Except.bind, hg] at hcreate
  rw [ensureDirectory_of_error hcreate, if_pos (isDirectory_iff.2 ⟨place, hr true, hg⟩)]

theorem ensureDirectory_of_file {content : ByteArray} {x : Bool} (hc : Path.Clean path)
    (hr : ∀ follow, fs.resolve path follow = .ok place)
    (hg : fs.get? place = some (.file content x)) :
    fs.ensureDirectory path = (.error .exists, fs) := by
  have hnot : fs.isDirectory path = false := by simp only [isDirectory, status, hr, hg]
  have hcreate := createDirectory_clean fs hc
  rw [hr] at hcreate
  simp only [Except.bind, hg] at hcreate
  rw [ensureDirectory_of_error hcreate, hnot]
  rfl

end

theorem createDirectory_ne_notFound {place : Location} (hc : Path.Clean path)
    (hr : fs.resolve path false = .ok place) : fs.createDirectory path ≠ .error .notFound := by
  rw [createDirectory_clean fs hc, hr]
  simp only [Except.bind]
  split
  · simp
  · simp

/-- What creating a directory and those above it comes to. A directory is tried for once more when
those above it have been created. -/
inductive LineageCase (fs : FileSystem) (path : String) (paths : List String) :
    Except FileError Unit × FileSystem → Prop
  | tried (h : fs.createDirectory path ≠ .error .notFound) :
      LineageCase fs path paths (fs.ensureDirectory path)
  | unreached {e : FileError} {made : FileSystem} (h : fs.createDirectory path = .error .notFound)
      (ha : fs.createLineage paths = (.error e, made)) : LineageCase fs path paths (.error e, made)
  | reached {made : FileSystem} (h : fs.createDirectory path = .error .notFound)
      (ha : fs.createLineage paths = (.ok (), made)) :
      LineageCase fs path paths (made.ensureDirectory path)

theorem lineageCase (fs : FileSystem) (paths : List String) (hp : path ≠ "") :
    LineageCase fs path paths (fs.createLineage (path :: paths)) := by
  have he : path.isEmpty = false := by simpa using hp
  rw [createLineage]
  simp only [he, Bool.false_eq_true, ↓reduceIte]
  split
  · rename_i made hd
    rw [← ensureDirectory_of_ok hd]
    exact .tried (by simp [hd])
  · rename_i hd
    rcases ha : fs.createLineage paths with ⟨result, made⟩
    cases result with
    | error e => exact .unreached hd ha
    | ok _ =>
        have hreached := LineageCase.reached hd ha
        cases hw : made.createDirectory path with
        | ok whole =>
            rw [ensureDirectory_of_ok hw] at hreached
            simpa only [hw] using hreached
        | error e =>
            rw [ensureDirectory_of_error hw] at hreached
            simpa only [hw] using hreached
  · rename_i e hn hd
    rw [← ensureDirectory_of_error hd]
    exact .tried fun h => hn (Except.error.inj (hd.symm.trans h))

theorem createLineage_of_tried (hp : path ≠ "")
    (h : fs.createDirectory path ≠ .error .notFound) :
    fs.createLineage (path :: paths) = fs.ensureDirectory path := by
  have hcase := lineageCase fs paths hp
  generalize fs.createLineage (path :: paths) = outcome at hcase
  cases hcase with
  | tried => rfl
  | unreached hd _ => exact absurd hd h
  | reached hd _ => exact absurd hd h

theorem createLineage_of_ok {made : FileSystem} (hp : path ≠ "")
    (h : fs.createDirectory path = .ok made) :
    fs.createLineage (path :: paths) = (.ok (), made) := by
  rw [createLineage_of_tried hp (by simp [h]), ensureDirectory_of_ok h]

theorem createLineage_of_error {e : FileError} (hp : path ≠ "")
    (h : fs.createDirectory path = .error e) (hn : e ≠ .notFound) :
    fs.createLineage (path :: paths) =
      (if fs.isDirectory path then .ok () else .error e, fs) := by
  rw [createLineage_of_tried hp (by simpa [h] using hn), ensureDirectory_of_error h]

theorem createLineage_of_above_error {e : FileError} {made : FileSystem} (hp : path ≠ "")
    (h : fs.createDirectory path = .error .notFound)
    (ha : fs.createLineage paths = (.error e, made)) :
    fs.createLineage (path :: paths) = (.error e, made) := by
  have hcase := lineageCase fs paths hp
  generalize fs.createLineage (path :: paths) = outcome at hcase
  cases hcase with
  | tried hn => exact absurd h hn
  | unreached _ ha' => rw [← ha, ha']
  | reached _ ha' =>
      rw [ha] at ha'
      cases ha'

theorem createLineage_of_above_ok {made : FileSystem} (hp : path ≠ "")
    (h : fs.createDirectory path = .error .notFound)
    (ha : fs.createLineage paths = (.ok (), made)) :
    fs.createLineage (path :: paths) = made.ensureDirectory path := by
  have hcase := lineageCase fs paths hp
  generalize fs.createLineage (path :: paths) = outcome at hcase
  cases hcase with
  | tried hn => exact absurd h hn
  | unreached _ ha' =>
      rw [ha] at ha'
      cases ha'
  | reached _ ha' =>
      rw [ha] at ha'
      cases ha'
      rfl

/-- Directories that cannot be created stop at one that is not there, for a reason of its own or
because of one above it. -/
theorem createLineage_error {e : FileError} {made : FileSystem}
    (h : fs.createLineage (path :: paths) = (.error e, made)) :
    path ≠ "" ∧ (fs.createDirectory path = .error .notFound ∨
      fs.createDirectory path = .error e ∧ fs.isDirectory path = false) := by
  have hp : path ≠ "" := by
    rintro rfl
    rw [createLineage_empty] at h
    cases h
  have hcase := lineageCase fs paths hp
  generalize fs.createLineage (path :: paths) = outcome at h hcase
  cases hcase with
  | tried => exact ⟨hp, Or.inr (ensureDirectory_error h)⟩
  | unreached hd _ => exact ⟨hp, Or.inl hd⟩
  | reached hd _ => exact ⟨hp, Or.inl hd⟩

/-- Directories that were created are there. -/
theorem isDirectory_of_createLineage {made : FileSystem} (hp : path ≠ "") (hc : Path.Clean path)
    (h : fs.createLineage (path :: paths) = (.ok (), made)) : made.isDirectory path = true := by
  have hcase := lineageCase fs paths hp
  generalize fs.createLineage (path :: paths) = outcome at h hcase
  cases hcase with
  | tried => exact isDirectory_of_ensureDirectory hc h
  | unreached => cases h
  | reached => exact isDirectory_of_ensureDirectory hc h

end

theorem checkPath_of_notFound {fs : FileSystem} {path : String} {follow : Bool} (hp : path ≠ "")
    (h : fs.resolve path follow = .error .notFound) : checkPath path = .ok () := by
  unfold resolve at h
  split at h
  · rename_i e hk
    unfold checkPath at hk
    split at hk
    · cases hk
      cases h
    · split at hk
      · rename_i he
        exact absurd (by simpa using he) hp
      · split at hk
        · cases hk
          cases h
        · cases hk
  · assumption

/-! ## Once more -/

/-- What is said of a file that stands in the way may be something else the second time. -/
inductive Retold : Except FileError Unit → Except FileError Unit → Prop
  | same (result : Except FileError Unit) : Retold result result
  | file : Retold (.error .exists) (.error .notDirectory)

/-- What comes of creating directories comes of creating them once more, and nothing changes. -/
structure Repeats (fs : FileSystem) (paths : List String) : Prop where
  files : ((fs.createLineage paths).2.createLineage paths).2 = (fs.createLineage paths).2
  result : Retold (fs.createLineage paths).1 ((fs.createLineage paths).2.createLineage paths).1

theorem repeats_of_eq {fs made : FileSystem} {paths : List String}
    {first again : Except FileError Unit} (h : fs.createLineage paths = (first, made))
    (k : made.createLineage paths = (again, made)) (hr : Retold first again) :
    fs.Repeats paths := by
  constructor
  · simp only [h, k]
  · simpa only [h, k] using hr

theorem Repeats.again {fs made : FileSystem} {paths : List String}
    {first : Except FileError Unit} (h : fs.Repeats paths)
    (hf : fs.createLineage paths = (first, made)) :
    ∃ again, made.createLineage paths = (again, made) ∧ Retold first again := by
  have hfiles := h.files
  have hresult := h.result
  simp only [hf] at hfiles hresult
  exact ⟨_, Prod.ext rfl hfiles, hresult⟩

theorem Repeats.again_ok {fs made : FileSystem} {paths : List String} (h : fs.Repeats paths)
    (hf : fs.createLineage paths = (.ok (), made)) : made.createLineage paths = (.ok (), made) := by
  obtain ⟨again, hagain, hret⟩ := h.again hf
  cases hret with
  | same => exact hagain

theorem Repeats.again_error {fs made : FileSystem} {paths : List String} {e : FileError}
    (h : fs.Repeats paths) (hf : fs.createLineage paths = (.error e, made)) :
    ∃ e', made.createLineage paths = (.error e', made) ∧ Retold (.error e) (.error e') := by
  obtain ⟨again, hagain, hret⟩ := h.again hf
  cases hret with
  | same => exact ⟨e, hagain, .same _⟩
  | file => exact ⟨_, hagain, .file⟩

theorem repeats_of_again {fs : FileSystem} {paths : List String}
    {outcome : Except FileError Unit × FileSystem} (h : fs.createLineage paths = outcome)
    (k : outcome.2.createLineage paths = outcome) : fs.Repeats paths := by
  subst h
  exact ⟨by rw [k], by rw [k]; exact .same _⟩

/-- The first time and the second are one if nothing is created. -/
theorem repeats_of_idle {fs : FileSystem} {paths : List String} {result : Except FileError Unit}
    (h : fs.createLineage paths = (result, fs)) : fs.Repeats paths :=
  repeats_of_eq h h (.same result)

theorem createLineage_of_isDirectory {fs : FileSystem} (hl : fs.Linkless) {path : String}
    (hp : path ≠ "") (hc : Path.Clean path) (hd : fs.isDirectory path = true)
    (paths : List String) : fs.createLineage (path :: paths) = (.ok (), fs) := by
  rw [createLineage_of_error hp (createDirectory_of_isDirectory hl hc hd) (by simp), hd]
  rfl

/-- Where a directory is missing that could not be created, those below it cannot be either. -/
theorem createLineage_below {fs : FileSystem} (hl : fs.Linkless) {path up : String}
    {paths : List String} (hp : path ≠ "") (hc : Path.Clean path)
    (h : Path.parent? path = some up) (hk : checkPath path = .ok ()) {e : FileError}
    (he : fs.createLineage (up :: paths) = (.error e, fs)) :
    ∃ e', fs.createLineage (path :: up :: paths) = (.error e', fs) ∧
      Retold (.error e) (.error e') := by
  obtain ⟨hu, hup⟩ := createLineage_error he
  have hstop {e : FileError} (hr : fs.resolve path true = .error e) (hn : e ≠ .notFound) :
      fs.createLineage (path :: up :: paths) = (.error e, fs) := by
    rw [createLineage_of_error hp (createDirectory_of_resolve_error hl hc hr) hn,
      isDirectory_eq_false hr]
    rfl
  have hmissing (hr : fs.resolve path true = .error .notFound) :
      fs.createLineage (path :: up :: paths) = (.error e, fs) :=
    createLineage_of_above_error hp (createDirectory_of_resolve_error hl hc hr) he
  rcases hup with hup | ⟨hup, hd⟩
  · have hd : fs.isDirectory up = false := by
      rw [Bool.eq_false_iff]
      intro hd
      rw [createDirectory_of_isDirectory hl (Path.clean_parent? h) hd] at hup
      cases hup
    rcases resolve_below hl hk hc h hu hup hd with hr | ⟨hn, -⟩
    · exact ⟨e, hmissing hr, .same _⟩
    · cases hn
  · rcases resolve_below hl hk hc h hu hup hd with hr | ⟨rfl, hr⟩
    · by_cases hn : e = .notFound
      · exact ⟨e, hmissing (hn ▸ hr), .same _⟩
      · exact ⟨e, hstop hr hn, .same _⟩
    · exact ⟨_, hstop hr (by simp), .file⟩

theorem Retold.trans {a b c : Except FileError Unit} (h : Retold a b) (k : Retold b c) :
    Retold a c := by
  cases h with
  | same => exact k
  | file =>
      cases k with
      | same => exact .file

/-- A directory that has been tried for is tried for again with the same outcome. -/
theorem createLineage_ensured {fs : FileSystem} (hl : fs.Linkless) {path : String}
    {paths : List String} (hp : path ≠ "") (hc : Path.Clean path)
    (h : fs.createDirectory path = .error .notFound → fs.createLineage paths = (.ok (), fs)) :
    (fs.ensureDirectory path).2.createLineage (path :: paths) = fs.ensureDirectory path := by
  cases hd : fs.createDirectory path with
  | ok made =>
      rw [ensureDirectory_of_ok hd]
      exact createLineage_of_isDirectory ((grows_createDirectory hd).linkless hl) hp hc
        (isDirectory_of_createDirectory hc hd) paths
  | error e =>
      have hsame : (fs.ensureDirectory path).2 = fs := by rw [ensureDirectory_of_error hd]
      rw [hsame]
      by_cases hn : e = .notFound
      · subst hn
        exact createLineage_of_above_ok hp hd (h hd)
      · exact createLineage_of_tried hp (by simpa [hd] using hn)

/-- One path more than those that repeat, if it stays out of reach where they do. -/
theorem Repeats.cons {fs : FileSystem} (hl : fs.Linkless) {path : String} {paths : List String}
    (hc : Path.Clean path) (h : fs.Repeats paths)
    (hbelow : path ≠ "" → fs.createDirectory path = .error .notFound → ∀ {made e},
      fs.Grows made → (fs.createLineage paths).2 = made →
      made.createLineage paths = (.error e, made) →
      ∃ e', made.createLineage (path :: paths) = (.error e', made) ∧
        Retold (.error e) (.error e')) : fs.Repeats (path :: paths) := by
  by_cases hp : path = ""
  · subst hp
    exact repeats_of_idle (createLineage_empty fs paths)
  have hcase := lineageCase fs paths hp
  generalize hfirst : fs.createLineage (path :: paths) = outcome at hcase
  cases hcase with
  | tried hn =>
      exact repeats_of_again hfirst (createLineage_ensured hl hp hc fun hd => absurd hd hn)
  | @unreached e made hd ha =>
      obtain ⟨e', hagain, hret⟩ := h.again_error ha
      have hgrows := fs.grows_createLineage paths
      rw [ha] at hgrows
      obtain ⟨e'', hbelow, hret'⟩ := hbelow hp hd hgrows (by rw [ha]) hagain
      exact repeats_of_eq hfirst hbelow (hret.trans hret')
  | @reached made hd ha =>
      have hgrows := fs.grows_createLineage paths
      rw [ha] at hgrows
      exact repeats_of_again hfirst
        (createLineage_ensured (hgrows.linkless hl) hp hc fun _ => h.again_ok ha)

theorem repeats_lineage {fs : FileSystem} (hl : fs.Linkless) (fuel : Nat) {path : String}
    (hc : Path.Clean path) : fs.Repeats (lineage fuel path) := by
  -- a path without one above it, or without fuel, is the last of the lineage
  have hlast {path : String} (hc : Path.Clean path) : fs.Repeats [path] := by
    refine .cons hl hc (repeats_of_idle rfl) fun hp hd {made e} _ hmade he => ?_
    obtain rfl : fs = made := hmade
    exact ⟨e, createLineage_of_above_error hp hd he, .same _⟩
  induction fuel generalizing path with
  | zero => exact hlast hc
  | succ fuel ih =>
      cases h : Path.parent? path with
      | none => simpa only [lineage, h] using hlast hc
      | some up =>
          have hup := Path.clean_parent? h
          simp only [lineage, h]
          refine .cons hl hc (ih hup) fun hp hd {made e} hgrows _ he => ?_
          have hk : checkPath path = .ok () := by
            rcases createDirectory_error hl hc hd with hr | ⟨hn, -⟩
            · exact checkPath_of_notFound hp hr
            · cases hn
          rw [lineage_eq] at he ⊢
          exact createLineage_below (hgrows.linkless hl) hp hc h hk he

/-- Directories that are created once more. -/
theorem repeats_createDirectories {fs : FileSystem} (hl : fs.Linkless) {path : String}
    (hc : Path.Clean path) :
    ((fs.createDirectories path).2.createDirectories path).2 = (fs.createDirectories path).2 ∧
      Retold (fs.createDirectories path).1
        ((fs.createDirectories path).2.createDirectories path).1 :=
  ⟨(repeats_lineage hl path.length hc).files, (repeats_lineage hl path.length hc).result⟩

theorem isDirectory_of_createDirectories {fs made : FileSystem} {path : String}
    (hp : path ≠ "") (hc : Path.Clean path) (h : fs.createDirectories path = (.ok (), made)) :
    made.isDirectory path = true := by
  rw [createDirectories, lineage_eq] at h
  exact isDirectory_of_createLineage hp hc h

end TestForge.FileSystem
