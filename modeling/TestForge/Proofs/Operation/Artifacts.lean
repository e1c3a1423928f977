import TestForge.Proofs.FileSystem.Writing
import TestForge.Proofs.Operation.Generation

/-!
# Writing an artifact below a root

An artifact below a directory needs room for the directories above it, and that nothing else has its
name. Both show in what is on the way to it, and nothing is touched off the way.
-/

namespace TestForge

open FileSystem Text

/-! ## An artifact and the directories above it -/

theorem isTree_makeRoom {fs : FileSystem} (ht : fs.IsTree) (hl : fs.Linkless) (path : String) :
    (makeRoom path fs).2.IsTree :=
  makeRoom_keeps ht fun up _ => ht.createDirectories hl up

theorem isTree_writeArtifact {fs : FileSystem} (ht : fs.IsTree) (hl : fs.Linkless)
    (root target artifact : String) : (writeArtifact root target artifact fs).2.IsTree :=
  writeArtifact_keeps (isTree_makeRoom ht hl _)
    fun hgrows hmade hw => hmade.writeBytes (hgrows.linkless hl) hw

theorem grows_writeArtifact (root target artifact : String) (fs : FileSystem) :
    fs.Grows (writeArtifact root target artifact fs).2 :=
  writeArtifact_keeps (grows_makeRoom _ fs) fun hgrows _ hw => hgrows.trans (grows_writeBytes hw)

/-- A target some directories below a root, with the path of what lies above it. -/
structure Target (root target up : String) (dirs : List String) (file : String) : Prop where
  names : ∀ piece ∈ splitAtChar '/' target.toList, Path.IsName piece
  pieces : pieces target = dirs ++ [file]
  nested : dirs ≠ []
  parent : Path.parent? (Path.join root target) = some up
  nonempty : up ≠ ""
  under : Under root up dirs

section

variable {fs : FileSystem} {root target up file : String} {base : Location} {dirs : List String}

theorem exists_target (hb : root ≠ "")
    (hs : ∀ piece ∈ splitAtChar '/' target.toList, Path.IsName piece)
    (hp : pieces target = dirs ++ [file]) (hn : dirs ≠ []) :
    ∃ up, Target root target up dirs file := by
  have hunder := (Under.refl hb).join_names hb hs
  rw [List.nil_append, hp] at hunder
  obtain ⟨up, hup⟩ := hunder.exists_parent?
  rcases hunder.parent? (clean_join hs) hup with ⟨-, hnil⟩ | ⟨hu, h⟩
  · exact absurd hnil hn
  · exact ⟨up, hs, hp, hn, hup, hu, h⟩

theorem Target.isName (h : Target root target up dirs file) :
    ∀ name ∈ dirs ++ [file], Path.IsName name.toList :=
  fun _ hm => h.names _ (mem_pieces.1 (h.pieces ▸ hm))

theorem Target.isName_dirs (h : Target root target up dirs file) :
    ∀ name ∈ dirs, Path.IsName name.toList :=
  fun name hm => h.isName name (List.mem_append_left _ hm)

/-- What comes of writing an artifact to names below a directory. -/
def written (fs : FileSystem) (root target up : String) (base : Location) (dirs : List String)
    (file : String) : Except OperationFailure Unit :=
  match (checkPath up).bind fun _ => fs.room base dirs with
  | .error e => .error (.uncreatable up e)
  | .ok () =>
    match (checkPath (Path.join root target)).bind fun _ => fs.writable (base ++ dirs) file with
    | .error e => .error (.unwritableTest (Path.join root target) e)
    | .ok () => .ok ()

/-- What is written takes the place of nothing but a file. -/
theorem of_written (hl : fs.Linkless) (h : written fs root target up base dirs file = .ok ()) :
    fs.get? (base ++ (dirs ++ [file])) = none ∨
      ∃ content x, fs.get? (base ++ (dirs ++ [file])) = some (.file content x) := by
  unfold written at h
  split at h
  · cases h
  · split at h
    · cases h
    · rename_i hw
      cases hk : checkPath (Path.join root target) with
      | error e => simp [hk, Except.bind] at hw
      | ok _ =>
          simp only [hk, Except.bind, writable, List.append_assoc] at hw
          split at hw
          · cases hw
          · cases hg : fs.get? (base ++ (dirs ++ [file])) with
            | none => exact Or.inl rfl
            | some entry =>
                cases entry with
                | file content x => exact Or.inr ⟨content, x, rfl⟩
                | directory => simp [hg] at hw
                | link target => exact absurd hg (hl _ target)

theorem written_congr {old new : FileSystem}
    (hway : ∀ front, front ≠ [] → front <+: dirs →
      new.get? (base ++ front) = old.get? (base ++ front) ∨
        old.get? (base ++ front) = none ∧ new.get? (base ++ front) = some .directory)
    (hplace : old.SameButText new (base ++ (dirs ++ [file]))) :
    written new root target up base dirs file = written old root target up base dirs file := by
  rw [← List.append_assoc] at hplace
  rw [written, written, room_congr hway, hplace.writable]

theorem Target.endsInSlash (h : Target root target up dirs file) :
    FileSystem.endsInSlash (Path.join root target) = false := by
  refine endsInSlash_of_isName ?_
  rw [lastPiece_join]
  obtain ⟨front, hfront⟩ := List.getLast?_eq_some_iff.1
    (Layout.getLast?_splitAtChar target.toList)
  exact h.names _ (by rw [hfront]; simp)

/-- The directories that have been created for a target are where its names lead. -/
theorem Target.directory {made : FileSystem} (h : Target root target up dirs file)
    (hr : Rooted fs root base) (hk : checkPath up = .ok ())
    (hm : fs.createDirectories up = (.ok (), made)) :
    made.descend base dirs = .ok (base ++ dirs) ∧ made.get? (base ++ dirs) = some .directory := by
  rw [createDirectories, lineage_eq] at hm
  have hcreated := directory_of_created hr.linkless hr.resolve hr.directory h.under
    (Path.clean_parent? h.parent) hk hm
  rwa [foldl_step_names base h.isName_dirs] at hcreated

/-- Behind directories that have been created for it, a target is written as it would have been
before. -/
theorem Target.writeText {made : FileSystem} (h : Target root target up dirs file)
    (hr : Rooted fs root base) (hg : fs.Grows made) (hm : fs.MadeOn made base dirs)
    (hdescend : made.descend base dirs = .ok (base ++ dirs))
    (hdir : made.get? (base ++ dirs) = some .directory) (artifact : String) :
    made.writeText (Path.join root target) artifact =
      ((checkPath (Path.join root target)).bind fun _ => fs.writable (base ++ dirs) file).map
        fun _ => made.put (base ++ (dirs ++ [file]))
          (.file artifact.toUTF8 (fs.executableAt (base ++ (dirs ++ [file])))) := by
  cases hk : checkPath (Path.join root target) with
  | error e =>
      rw [writeText_of_checkPath h.endsInSlash hk]
      rfl
  | ok _ =>
      have hjoined := (Under.refl hr.nonempty).join_names hr.nonempty h.names
      rw [List.nil_append, h.pieces] at hjoined
      have hway : made.resolve (Path.join root target) true =
          made.descend (base ++ dirs) [file] := by
        rw [hjoined.resolve (hg.linkless hr.linkless) (clean_join h.names) hk (hg.resolve hr.resolve)
          (by simp), descend_append, hdescend]
        rfl
      have hsame := hm.get?_concat file
      rw [writeText_eq h.endsInSlash hdir (h.isName file (by simp)) hway]
      simp only [writable, executableAt, List.append_assoc, hsame]
      rfl

theorem writeArtifact_eq (hr : Rooted fs root base) (h : Target root target up dirs file)
    (artifact : String) :
    ∃ made, fs.MadeOn made base dirs ∧
      writeArtifact root target artifact fs = match written fs root target up base dirs file with
        | .error failure => (.error failure, made)
        | .ok () => (.ok (), made.put (base ++ (dirs ++ [file]))
            (.file artifact.toUTF8 (fs.executableAt (base ++ (dirs ++ [file]))))) := by
  obtain ⟨hresult, hmade⟩ := createDirectories_under hr.tree hr.linkless hr.resolve
    hr.directory h.under h.isName_dirs (Path.clean_parent? h.parent) h.nonempty
  have hgrows := fs.grows_createDirectories up
  rcases hc : fs.createDirectories up with ⟨result, made⟩
  rw [hc] at hresult hmade hgrows
  simp only at hresult
  refine ⟨made, hmade, ?_⟩
  unfold written
  rw [← hresult]
  cases result with
  | error e => exact writeArtifact_of_cramped (makeRoom_of_uncreatable h.parent hc)
  | ok _ =>
      have hk : checkPath up = .ok () := by
        cases hk : checkPath up with
        | error e => simp [hk, Except.bind] at hresult
        | ok _ => rfl
      obtain ⟨hdescend, hdir⟩ := h.directory hr hk hc
      have hwrite := h.writeText hr hgrows hmade hdescend hdir artifact
      have hroom := makeRoom_of_created h.parent hc
      simp only
      cases hw : (checkPath (Path.join root target)).bind fun _ => fs.writable (base ++ dirs) file with
      | error e =>
          rw [hw] at hwrite
          exact writeArtifact_of_refused hroom hwrite
      | ok _ =>
          rw [hw] at hwrite
          exact writeArtifact_of_written hroom hwrite

end

end TestForge
