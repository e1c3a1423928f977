import Mathlib.Data.List.Induction
import TestForge.Proofs.FileSystem.Lineage
import TestForge.Proofs.FileSystem.Trees
import TestForge.Proofs.FileSystem.Under

/-!
# Directories of some names

Whether directories of some names can be created below a directory is decided by the first of the
names that is too long or that a file has. So nothing matters to it that is not on the way, nor
which of the directories are there already.
-/

namespace TestForge

/-- A root that is a directory in a tree without links. -/
structure Rooted (fs : FileSystem) (root : String) (base : Location) : Prop where
  nonempty : root ≠ ""
  tree : fs.IsTree
  linkless : fs.Linkless
  resolve : fs.resolve root true = .ok base
  directory : fs.get? base = some .directory

namespace FileSystem

open Text

/-- What comes of creating directories of these names, each below the one before. -/
def room (fs : FileSystem) (here : Location) : List String → Except FileError Unit
  | [] => .ok ()
  | name :: rest =>
    if name.utf8ByteSize > maxNameBytes then .error .nameTooLong
    else
      match fs.get? (here ++ [name]) with
      | some (.file _ _) => .error (if rest.isEmpty then .exists else .notDirectory)
      | _ => fs.room (here ++ [name]) rest

/-! ## Ways -/

/-- Behind a file, directories fail for another reason than at it. -/
def behind (e : FileError) : FileError :=
  if e = .exists then .notDirectory else e

theorem room_concat (fs : FileSystem) (here : Location) (names : List String) (last : String) :
    fs.room here (names ++ [last]) = match fs.room here names with
      | .error e => .error (behind e)
      | .ok () => fs.room (here ++ names) [last] := by
  induction names generalizing here with
  | nil => simp [room]
  | cons name names ih =>
      have hassoc : here ++ name :: names = here ++ [name] ++ names := by simp
      rw [List.cons_append, room, room, ih, hassoc]
      split
      · rfl
      · split
        · cases names with
          | nil => rfl
          | cons next names => rfl
        · rfl

/-- Where nothing is, there are no files. -/
theorem room_missing {fs : FileSystem} (h : fs.IsTree) {here : Location} {names : List String}
    (hg : fs.get? here = none) : fs.room here names ≠ .error .exists := by
  induction names generalizing here with
  | nil => simp [room]
  | cons name names ih =>
      have hnext : fs.get? (here ++ [name]) = none := h.eq_none (by simp [hg]) (by simp)
      rw [room, hnext]
      split
      · simp
      · exact ih hnext

/-- What a way of names says of the directories that it would lead through. -/
inductive Way (fs : FileSystem) (here : Location) (names : List String) :
    Except FileError Location → Except FileError Unit → Prop
  | arrived {place : Location} {result : Except FileError Unit} (hp : place = here ++ names)
      (h : result = match fs.get? place with
        | some (.file _ _) => .error .exists
        | _ => .ok ()) : Way fs here names (.ok place) result
  | stopped {e : FileError} (h : e ≠ .notFound) : Way fs here names (.error e) (.error e)
  | missing {result : Except FileError Unit} (h : fs.get? (here ++ names) = none)
      (hr : result ≠ .error .exists) : Way fs here names (.error .notFound) result

theorem way_descend {fs : FileSystem} (ht : fs.IsTree) (hl : fs.Linkless) {here : Location}
    {names : List String} (hn : ∀ name ∈ names, Path.IsName name.toList)
    (hd : fs.get? here = some .directory) :
    Way fs here names (fs.descend here names) (fs.room here names) := by
  induction names generalizing here with
  | nil =>
      rw [descend, room]
      exact .arrived (by simp) (by simp [hd])
  | cons name names ih =>
      have hname := hn name List.mem_cons_self
      have hassoc : here ++ name :: names = here ++ [name] ++ names := by simp
      have hhere : fs.requireDirectory here = .ok () := requireDirectory_ok_iff.2 hd
      rw [descend_cons, hhere, step_isName here hname, room]
      simp only
      split
      · exact .stopped (by simp)
      · cases hg : fs.get? (here ++ [name]) with
        | none =>
            have hmissing : fs.room (here ++ [name]) names ≠ .error .exists := room_missing ht hg
            cases names with
            | nil => exact .arrived rfl (by rw [hg]; rfl)
            | cons next names =>
                have hnowhere : fs.requireDirectory (here ++ [name]) = .error .notFound := by
                  rw [requireDirectory, hg]
                rw [descend_cons_error hnowhere]
                exact .missing (hassoc ▸ ht.eq_none (by simp [hg]) (by simp)) hmissing
        | some entry =>
            cases entry with
            | directory =>
                have hrest := ih (fun n hm => hn n (List.mem_cons_of_mem name hm)) hg
                generalize fs.descend (here ++ [name]) names = way at hrest ⊢
                generalize fs.room (here ++ [name]) names = result at hrest ⊢
                cases hrest with
                | arrived hp h => exact .arrived (hassoc ▸ hp) h
                | stopped h => exact .stopped h
                | missing h hr => exact .missing (hassoc ▸ h) hr
            | file content x =>
                cases names with
                | nil => exact .arrived rfl (by rw [hg]; rfl)
                | cons next names =>
                    have hfile : fs.requireDirectory (here ++ [name]) = .error .notDirectory := by
                      rw [requireDirectory, hg]
                    rw [descend_cons_error hfile]
                    exact .stopped (by simp)
            | link target => exact absurd hg (hl _ target)

/-- A way that leads nowhere does not end right behind a file. -/
theorem room_ne_exists {fs : FileSystem} (ht : fs.IsTree) (hl : fs.Linkless) {here : Location}
    {names : List String} {last : String} (hn : ∀ name ∈ names, Path.IsName name.toList)
    (hd : fs.get? here = some .directory)
    (h : fs.descend here (names ++ [last]) = .error .notFound) :
    fs.room here names ≠ .error .exists := by
  have hway := way_descend ht hl hn hd
  rw [descend_append] at h
  generalize fs.descend here names = way at h hway
  generalize fs.room here names = result at hway ⊢
  cases hway with
  | @arrived place _ hp hresult =>
      rw [hresult]
      have hplace : fs.requireDirectory place ≠ .error .notDirectory := by
        intro hf
        rw [show (Except.ok place).bind (fun place => fs.descend place [last]) =
          fs.descend place [last] from rfl, descend_cons_error hf] at h
        cases h
      unfold requireDirectory at hplace
      cases hg : fs.get? place with
      | none => simp
      | some entry =>
          cases entry with
          | directory => simp
          | file content x => exact absurd (by rw [hg]) hplace
          | link target => simp
  | stopped he =>
      cases h
      exact absurd rfl he
  | missing _ hr => exact hr

theorem descend_name {fs : FileSystem} {here : Location} {name : String}
    (hd : fs.get? here = some .directory) (hn : Path.IsName name.toList) :
    fs.descend here [name] =
      if name.utf8ByteSize > maxNameBytes then .error .nameTooLong else .ok (here ++ [name]) := by
  have hhere : fs.requireDirectory here = .ok () := requireDirectory_ok_iff.2 hd
  rw [descend_cons, hhere, step_isName here hn]
  simp only [descend]

/-! ## Directories below a root -/

section

variable {fs : FileSystem} {root path : String} {base : Location} {names : List String}

/-- Nothing has changed but that directories have come, on the way of some names. -/
def MadeOn (old new : FileSystem) (here : Location) (names : List String) : Prop :=
  ∀ place, new.get? place = old.get? place ∨
    old.get? place = none ∧ new.get? place = some .directory ∧
      ∃ front, front ≠ [] ∧ front <+: names ∧ place = here ++ front

theorem MadeOn.refl (fs : FileSystem) (here : Location) (names : List String) :
    fs.MadeOn fs here names :=
  fun _ => Or.inl rfl

theorem MadeOn.get?_concat {old new : FileSystem} {here : Location} {names : List String}
    (h : old.MadeOn new here names) (last : String) :
    new.get? (here ++ (names ++ [last])) = old.get? (here ++ (names ++ [last])) := by
  rcases h (here ++ (names ++ [last])) with hsame | ⟨-, -, front, -, hp, he⟩
  · exact hsame
  · rw [← List.append_cancel_left he] at hp
    have hle := hp.length_le
    rw [List.length_append] at hle
    exact absurd hle (Nat.not_succ_le_self _)

theorem MadeOn.concat {old new : FileSystem} {here : Location} {names : List String}
    (h : old.MadeOn new here names) (last : String) : old.MadeOn new here (names ++ [last]) := by
  intro place
  refine (h place).imp_right ?_
  rintro ⟨hold, hnew, front, hf, hp, rfl⟩
  exact ⟨hold, hnew, front, hf, hp.trans (List.prefix_append names [last]), rfl⟩

theorem MadeOn.put {old new : FileSystem} {here : Location} {names : List String}
    (h : old.MadeOn new here names) (hn : names ≠ []) (ho : old.get? (here ++ names) = none) :
    old.MadeOn (new.put (here ++ names) .directory) here names := by
  intro place
  rw [get?_put _ _ _ _ (by simp [hn])]
  split
  · rename_i hp
    subst hp
    exact Or.inr ⟨ho, rfl, names, hn, List.prefix_refl names, rfl⟩
  · exact h place

/-- Directories that have been created below a root are where their way leads. -/
theorem directory_of_created {made : FileSystem} {paths : List String} (hl : fs.Linkless)
    (hr : fs.resolve root true = .ok base) (hd : fs.get? base = some .directory)
    (h : Under root path names) (hc : Path.Clean path) (hk : checkPath path = .ok ())
    (hmade : fs.createLineage (path :: paths) = (.ok (), made)) :
    made.descend base names = .ok (names.foldl step base) ∧
      made.get? (names.foldl step base) = some .directory := by
  have hgrows := fs.grows_createLineage (path :: paths)
  rw [hmade] at hgrows
  by_cases hn : names = []
  · subst hn
    exact ⟨rfl, hgrows.directory base hd⟩
  · obtain ⟨place, hplace, hdir⟩ := isDirectory_iff.1
      (isDirectory_of_createLineage (checkPath_ok_iff.1 hk).2.1 hc hmade)
    rw [h.resolve (hgrows.linkless hl) hc hk (hgrows.resolve hr) hn] at hplace
    rw [destination_of_descend hplace]
    exact ⟨hplace, hdir⟩

/-- The paths above a path below a root are those of one below the root, or start with nothing. -/
theorem above_cases {name : String} (h : Under root path (names ++ [name])) (hc : Path.Clean path)
    (hk : checkPath path = .ok ()) {fuel : Nat} (hf : path.length ≤ fuel) :
    (names = [] ∧ ∃ paths, above fuel path = "" :: paths) ∨
      ∃ up rest, above fuel path = lineage rest up ∧ Under root up names ∧ Path.Clean up ∧
        checkPath up = .ok () ∧ up.length ≤ rest := by
  have hp := (checkPath_ok_iff.1 hk).2.1
  obtain ⟨fuel, rfl⟩ : ∃ n, fuel = n + 1 := by
    refine Nat.exists_eq_succ_of_ne_zero fun hz => hp ?_
    rw [hz, Nat.le_zero] at hf
    simpa using hf
  obtain ⟨up, hup⟩ := h.exists_parent?
  simp only [above, hup]
  rcases h.parent? hc hup with ⟨rfl, hnil⟩ | ⟨hu, hunder⟩
  · exact Or.inl ⟨hnil, _, lineage_eq fuel ""⟩
  · obtain ⟨rest, hrest, hpath⟩ := Path.prefix_parent? hc hup hu
    have hlength : up.length ≤ fuel := by
      have hne : rest.length ≠ 0 := by simpa using hrest
      rw [hpath, String.length_append] at hf
      omega
    exact Or.inr ⟨up, fuel, rfl, hunder, Path.clean_parent? hup, checkPath_prefix (hpath ▸ hk) hu,
      hlength⟩

/-- Directories above a path below a root, if those above come to what there is room for. -/
theorem createLineage_above (hl : fs.Linkless) (hr : fs.resolve root true = .ok base)
    (hd : fs.get? base = some .directory) {name : String}
    (h : Under root path (names ++ [name])) (hn : ∀ name ∈ names, Path.IsName name.toList)
    (hc : Path.Clean path) (hk : checkPath path = .ok ()) {fuel : Nat} (hf : path.length ≤ fuel)
    (ih : ∀ {up : String}, Under root up names → Path.Clean up → checkPath up = .ok () →
      ∀ fuel, up.length ≤ fuel →
        (fs.createLineage (lineage fuel up)).1 = fs.room base names ∧
          fs.MadeOn (fs.createLineage (lineage fuel up)).2 base names) :
    ∃ made, fs.createLineage (above fuel path) = (fs.room base names, made) ∧
      fs.MadeOn made base names ∧ (fs.room base names = .ok () →
        made.descend base names = .ok (base ++ names) ∧
          made.get? (base ++ names) = some .directory) := by
  rcases above_cases h hc hk hf with ⟨rfl, paths, habove⟩ |
    ⟨up, rest, habove, hunder, hclean, hk', hlength⟩
  · rw [habove, createLineage_empty]
    exact ⟨fs, rfl, .refl fs base [], fun _ => by simpa [descend] using hd⟩
  · obtain ⟨hresult, hmade⟩ := ih hunder hclean hk' rest hlength
    rw [habove]
    refine ⟨(fs.createLineage (lineage rest up)).2, Prod.ext hresult rfl, hmade, fun hok => ?_⟩
    rw [lineage_eq] at hresult ⊢
    have hthere := directory_of_created hl hr hd hunder hclean hk'
      (Prod.ext (hresult.trans hok) rfl)
    rwa [foldl_step_names base hn] at hthere

/-- A path that leads somewhere comes to what is there. -/
theorem ensureDirectory_arrived (hl : fs.Linkless) (hc : Path.Clean path) (hn : names ≠ [])
    (hw : fs.resolve path true = .ok (base ++ names)) :
    (fs.ensureDirectory path).1 = (match fs.get? (base ++ names) with
        | some (.file _ _) => .error .exists
        | _ => .ok ()) ∧
      fs.MadeOn (fs.ensureDirectory path).2 base names := by
  have hall := hl.resolve_any hw
  cases hg : fs.get? (base ++ names) with
  | none =>
      rw [ensureDirectory_of_missing hc hall hg]
      exact ⟨rfl, (MadeOn.refl fs base _).put hn hg⟩
  | some entry =>
      cases entry with
      | directory =>
          rw [ensureDirectory_of_directory hc hall hg]
          exact ⟨rfl, .refl fs base _⟩
      | file content x =>
          rw [ensureDirectory_of_file hc hall hg]
          exact ⟨rfl, .refl fs base _⟩
      | link target => exact absurd hg (hl _ target)

/-- A name that nothing has is too long, or has room in the directory above it. -/
theorem createLineage_behind {name : String} {paths : List String} {made : FileSystem}
    (hl : fs.Linkless) (hr : fs.resolve root true = .ok base)
    (h : Under root path (names ++ [name])) (hn : Path.IsName name.toList)
    (hc : Path.Clean path) (hk : checkPath path = .ok ())
    (hmissing : fs.createDirectory path = .error .notFound)
    (hnone : fs.get? (base ++ (names ++ [name])) = none)
    (habove : fs.createLineage paths = (.ok (), made)) (hmade : fs.MadeOn made base names)
    (hdescend : made.descend base names = .ok (base ++ names))
    (hdir : made.get? (base ++ names) = some .directory) :
    (fs.createLineage (path :: paths)).1 = fs.room (base ++ names) [name] ∧
      fs.MadeOn (fs.createLineage (path :: paths)).2 base (names ++ [name]) := by
  have hgrows := fs.grows_createLineage paths
  rw [habove] at hgrows
  have hagain : made.resolve path true = if name.utf8ByteSize > maxNameBytes
      then .error .nameTooLong else .ok (base ++ (names ++ [name])) := by
    rw [h.resolve (hgrows.linkless hl) hc hk (hgrows.resolve hr) (by simp), descend_append,
      hdescend, ← List.append_assoc]
    exact descend_name hdir hn
  have hfree : made.get? (base ++ (names ++ [name])) = none :=
    (hmade.get?_concat name).trans hnone
  have hroom : fs.room (base ++ names) [name] = if name.utf8ByteSize > maxNameBytes
      then .error .nameTooLong else .ok () := by
    simp only [room, List.append_assoc, hnone]
  have hml := hgrows.linkless hl
  rw [createLineage_of_above_ok (checkPath_ok_iff.1 hk).2.1 hmissing habove, hroom]
  by_cases hlong : name.utf8ByteSize > maxNameBytes
  · rw [if_pos hlong] at hagain ⊢
    rw [ensureDirectory_of_error (createDirectory_of_resolve_error hml hc hagain),
      isDirectory_eq_false hagain]
    exact ⟨rfl, hmade.concat name⟩
  · rw [if_neg hlong] at hagain ⊢
    rw [ensureDirectory_of_missing hc (hml.resolve_any hagain) hfree]
    exact ⟨rfl, (hmade.concat name).put (by simp) hnone⟩

/-- Directories below a root come to what there is room for. -/
theorem createLineage_under (ht : fs.IsTree) (hl : fs.Linkless)
    (hr : fs.resolve root true = .ok base) (hd : fs.get? base = some .directory)
    (h : Under root path names) (hn : ∀ name ∈ names, Path.IsName name.toList)
    (hc : Path.Clean path) (hk : checkPath path = .ok ()) (fuel : Nat)
    (hf : path.length ≤ fuel) :
    (fs.createLineage (lineage fuel path)).1 = fs.room base names ∧
      fs.MadeOn (fs.createLineage (lineage fuel path)).2 base names := by
  -- by induction on the names, last first, as the directories above are created first
  induction names using List.reverseRecOn generalizing path fuel with
  | nil =>
      have hdir : fs.isDirectory path = true :=
        isDirectory_iff.2 ⟨base, h.resolve_root hl hk hr hd true, hd⟩
      rw [lineage_eq, createLineage_of_isDirectory hl (checkPath_ok_iff.1 hk).2.1 hc hdir]
      exact ⟨rfl, .refl fs base []⟩
  | append_singleton names name ih =>
      have hp := (checkPath_ok_iff.1 hk).2.1
      have hresolve := h.resolve hl hc hk hr (by simp) true
      have habovenames : ∀ n ∈ names, Path.IsName n.toList :=
        fun n hm => hn n (List.mem_append_left _ hm)
      have hway := way_descend ht hl hn hd
      rw [lineage_eq]
      rw [← hresolve] at hway
      generalize hw : fs.resolve path true = way at hway
      generalize hroom : fs.room base (names ++ [name]) = result at hway
      cases hway with
      | @arrived place _ hplace hresult =>
          subst hplace
          rw [hresult]
          rw [createLineage_of_tried hp (createDirectory_ne_notFound hc (hl.resolve_any hw false))]
          exact ensureDirectory_arrived hl hc (by simp) hw
      | stopped he =>
          rw [createLineage_of_error hp (createDirectory_of_resolve_error hl hc hw) he,
            isDirectory_eq_false hw]
          exact ⟨rfl, .refl fs base _⟩
      | missing hnone hother =>
          have hmissing := createDirectory_of_resolve_error hl hc hw
          obtain ⟨made, habove, hmade, hthere⟩ := createLineage_above hl hr hd h habovenames hc
            hk hf fun hu => ih hu habovenames
          rw [room_concat] at hroom
          cases hnames : fs.room base names with
          | error e =>
              have hne : e ≠ .exists := by
                rintro rfl
                exact room_ne_exists ht hl habovenames hd (hresolve ▸ hw) hnames
              rw [hnames] at habove hroom
              rw [createLineage_of_above_error hp hmissing habove, ← hroom]
              exact ⟨by simp [behind, hne], hmade.concat name⟩
          | ok _ =>
              rw [hnames] at habove hroom
              obtain ⟨hdescend, hdir⟩ := hthere hnames
              rw [← hroom]
              exact createLineage_behind hl hr h (hn name (by simp)) hc hk hmissing hnone habove
                hmade hdescend hdir

/-- What comes of a path of directories below a root. -/
theorem createDirectories_under (ht : fs.IsTree) (hl : fs.Linkless)
    (hr : fs.resolve root true = .ok base) (hd : fs.get? base = some .directory)
    (h : Under root path names) (hn : ∀ name ∈ names, Path.IsName name.toList)
    (hc : Path.Clean path) (hp : path ≠ "") :
    (fs.createDirectories path).1 = ((checkPath path).bind fun _ => fs.room base names) ∧
      fs.MadeOn (fs.createDirectories path).2 base names := by
  cases hk : checkPath path with
  | ok _ => exact createLineage_under ht hl hr hd h hn hc hk path.length (Nat.le_refl _)
  | error e =>
      have hresolve : fs.resolve path true = .error e := by rw [hl.resolve_eq, hk]; rfl
      have hne : e ≠ .notFound := by
        rintro rfl
        rw [checkPath_of_notFound hp hresolve] at hk
        cases hk
      rw [createDirectories, lineage_eq, createLineage_of_error hp
        (createDirectory_of_resolve_error hl hc hresolve) hne, isDirectory_eq_false hresolve]
      exact ⟨rfl, .refl fs base names⟩

end

/-- A service that was read below a root shows that the root is a directory. -/
theorem isDirectory_of_join {fs : FileSystem} (hl : fs.Linkless) {base s : String} {place : Location}
    (hb : base ≠ "") (hs : Path.isAbsolute s.toList = false)
    (hr : fs.resolve (Path.join base s) true = .ok place) : fs.isDirectory base = true := by
  have hk := checkPath_of_resolve hr
  rw [hl.resolve_join hk hb hs] at hr
  cases hbase : fs.resolve base true with
  | error e =>
      rw [hbase] at hr
      cases hr
  | ok up =>
      refine isDirectory_iff.2 ⟨up, hbase, ?_⟩
      rw [hbase] at hr
      obtain ⟨piece, rest, hpieces⟩ := List.exists_cons_of_ne_nil (pieces_ne_nil s)
      rw [hpieces] at hr
      exact directory_of_descend_cons hr

theorem isDirectory_of_readText {fs : FileSystem} (hl : fs.Linkless) {base s text : String}
    (hb : base ≠ "") (hs : Path.isAbsolute s.toList = false)
    (hr : fs.readText (Path.join base s) = .ok text) : fs.isDirectory base = true := by
  obtain ⟨content, hbytes, -⟩ := readText_ok_iff.1 hr
  obtain ⟨x, hstatus⟩ := readBytes_ok_iff.1 hbytes
  obtain ⟨place, hplace, -⟩ := status_ok_iff.1 hstatus
  exact isDirectory_of_join hl hb hs hplace

/-! ## Trees that differ elsewhere -/

section

variable {old new : FileSystem} {here : Location} {names : List String}

/-- Room is the same if no more than directories have come to the way. -/
theorem room_congr (h : ∀ front, front ≠ [] → front <+: names →
      new.get? (here ++ front) = old.get? (here ++ front) ∨
        old.get? (here ++ front) = none ∧ new.get? (here ++ front) = some .directory) :
    new.room here names = old.room here names := by
  induction names generalizing here with
  | nil => rfl
  | cons name names ih =>
      have hrest := @ih (here ++ [name]) fun front hf hp => by
        have hfront := h (name :: front) (List.cons_ne_nil name front)
          (List.cons_prefix_cons.2 ⟨rfl, hp⟩)
        simpa using hfront
      have hname := h [name] (List.cons_ne_nil name []) (List.cons_prefix_cons.2 ⟨rfl, by simp⟩)
      rw [room, room, hrest]
      rcases hname with hsame | ⟨hold, hnew⟩
      · rw [hsame]
      · rw [hold, hnew]

theorem requireDirectory_congr (h : new.get? here = old.get? here) :
    new.requireDirectory here = old.requireDirectory here := by
  rw [requireDirectory, requireDirectory, h]

/-- Names lead to the same place if the directories above it are the same. -/
theorem descend_congr (hn : ∀ name ∈ names, Path.IsName name.toList)
    (h : ∀ front, front <+: names → new.get? (here ++ front) = old.get? (here ++ front)) :
    new.descend here names = old.descend here names := by
  induction names generalizing here with
  | nil => rfl
  | cons name names ih =>
      have hname := hn name List.mem_cons_self
      have hhere := requireDirectory_congr (by simpa using h [] (List.nil_prefix))
      have hrest := @ih (here ++ [name]) (fun n hm => hn n (List.mem_cons_of_mem name hm))
        fun front hp => by simpa using h (name :: front) (List.cons_prefix_cons.2 ⟨rfl, hp⟩)
      rw [descend_cons, descend_cons, hhere, step_isName here hname, hrest]

/-- What is read below a root is the same if nothing has changed on the way. -/
theorem readText_congr (hl : old.Linkless) (hg : old.Grows new) {root s : String}
    (hr : old.resolve root true = .ok here) (hb : root ≠ "")
    (hs : ∀ piece ∈ splitAtChar '/' s.toList, Path.IsName piece)
    (h : ∀ front, front <+: pieces s → new.get? (here ++ front) = old.get? (here ++ front)) :
    new.readText (Path.join root s) = old.readText (Path.join root s) := by
  have hnames : ∀ name ∈ pieces s, Path.IsName name.toList := fun name hm => hs _ (mem_pieces.1 hm)
  have hdescend := descend_congr hnames h
  have habsolute := isAbsolute_of_names hs
  have hstatus : new.status (Path.join root s) = old.status (Path.join root s) := by
    unfold status
    cases hk : checkPath (Path.join root s) with
    | error e =>
        rw [hl.resolve_eq, (hg.linkless hl).resolve_eq, hk]
        rfl
    | ok _ =>
        rw [hl.resolve_join hk hb habsolute, (hg.linkless hl).resolve_join hk hb habsolute, hr,
          hg.resolve hr]
        simp only [Except.bind, hdescend]
        cases hw : old.descend here (pieces s) with
        | error e => rfl
        | ok place =>
            have hplace := destination_of_descend hw
            rw [foldl_step_names here hnames] at hplace
            subst hplace
            simp only [h (pieces s) (List.prefix_refl _)]
  unfold readText readBytes
  rw [hstatus]

end

end FileSystem

end TestForge
