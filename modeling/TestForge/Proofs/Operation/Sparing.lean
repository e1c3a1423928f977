import TestForge.Proofs.FileSystem.PassingBy
import TestForge.Proofs.Operation.Artifacts
import TestForge.Toolchain.Interface

/-!
# What leaves records alone

Records of failed attempts lie in the directory `.testsmith` of a project. Tests that are written
and repaired elsewhere leave all that is in it as it is, and a toolchain may do so too.
-/

namespace TestForge

open FileSystem

/-! ## Tests that pass a place by -/

/-- The directories above a path are on its way. -/
theorem directoriesOnly_makeRoom {fs : FileSystem} (ht : fs.IsTree) (hl : fs.Linkless)
    (path : String) :
    fs.DirectoriesOnly (makeRoom path fs).2 (Passes (fs.start path) (pieces path)) := by
  refine makeRoom_keeps (P := fun new =>
    fs.DirectoriesOnly new (Passes (fs.start path) (pieces path))) (.refl fs _) fun up hup => ?_
  refine (directoriesOnly_createLineage ht hl fun other ho hne =>
    (under_lineage (Path.clean_parent? hup) ho hne).1).mono ?_
  rintro place ⟨other, ho, hne, hcounts, rfl⟩
  have hup' : up ≠ "" := by
    rintro rfl
    rw [lineage_empty, List.mem_singleton] at ho
    exact hne ho
  obtain ⟨-, names, hunder⟩ := under_lineage (Path.clean_parent? hup) ho hne
  obtain ⟨more, hmore⟩ := under_parent? hup hup'
  exact (hunder.trans hmore).passes hcounts

theorem sameBelow_writeArtifact {fs : FileSystem} (ht : fs.IsTree) (hl : fs.Linkless)
    {root target artifact : String} {place : Location}
    (hp : fs.PassesBy (Path.join root target) place) :
    fs.SameBelow (writeArtifact root target artifact fs).2 place :=
  writeArtifact_keeps (P := fun files => fs.SameBelow files place)
    ((directoriesOnly_makeRoom ht hl (Path.join root target)).sameBelow hp)
    fun hgrows hmade hw => hmade.trans
      (sameBelow_writeText (hgrows.linkless hl) (hp.congr hgrows.workingDirectory) hw)

/-! ## Projects -/

/-- Roots that led to a project still do, and nothing has changed at its `.testsmith` or below. -/
structure Spared (base : Location) (old new : FileSystem) : Prop where
  rooted : ∀ root, Rooted old root base → Rooted new root base
  workingDirectory : new.workingDirectory = old.workingDirectory
  same : old.SameBelow new (base ++ [".testsmith"])

theorem Spared.refl (base : Location) (fs : FileSystem) : Spared base fs fs :=
  ⟨fun _ h => h, rfl, .refl fs _⟩

theorem rooted_of_grows {old new : FileSystem} {root : String} {base : Location}
    (hr : Rooted old root base) (hg : old.Grows new) (ht : new.IsTree) : Rooted new root base :=
  ⟨hr.nonempty, ht, hg.linkless hr.linkless, hg.resolve hr.resolve, hg.directory base hr.directory⟩

theorem spared_of_grows {base : Location} {old new : FileSystem} (hg : old.Grows new)
    (ht : new.IsTree) (hs : old.SameBelow new (base ++ [".testsmith"])) : Spared base old new :=
  ⟨fun _ hr => rooted_of_grows hr hg ht, hg.workingDirectory, hs⟩

theorem spared_writeArtifact {fs : FileSystem} {base : Location} {root target artifact : String}
    (hr : Rooted fs root base)
    (hp : fs.PassesBy (Path.join root target) (base ++ [".testsmith"])) :
    Spared base fs (writeArtifact root target artifact fs).2 :=
  spared_of_grows (grows_writeArtifact root target artifact fs)
    (isTree_writeArtifact hr.tree hr.linkless root target artifact)
    (sameBelow_writeArtifact hr.tree hr.linkless hp)

theorem spared_repair {rules : RepairRules} {phase : Phase} {path root : String}
    {failure : ToolFailure} {base : Location} {old new : FileSystem} (hr : Rooted old root base)
    (hp : old.PassesBy path (base ++ [".testsmith"]))
    (h : rules.repair phase path failure old = .ok (some new)) : Spared base old new := by
  obtain ⟨text, hw⟩ := Verification.exists_write_of_repair h
  exact spared_of_grows (grows_writeBytes hw) (hr.tree.writeBytes hr.linkless hw)
    (sameBelow_writeText hr.linkless hp hw)

/-! ## Toolchains -/

/-- A toolchain that leaves the directory of a project where it is, makes no links, and leaves all
alone that is in `.testsmith`. -/
structure Toolchain.Spares {σ : Type} (tools : Toolchain σ) (base : Location) : Prop where
  compile : ∀ root target fs s, Rooted fs root base →
    Spared base fs (tools.compile root target fs s).2.1
  run : ∀ root target fs s, Rooted fs root base → Spared base fs (tools.run root target fs s).2.1
  coverage : ∀ root target fs s, Rooted fs root base →
    Spared base fs (tools.coverage root target fs s).2.1

theorem Toolchain.ReadOnly.spares {σ : Type} {tools : Toolchain σ} (h : tools.ReadOnly)
    (base : Location) : tools.Spares base where
  compile root target fs s _ := by
    rw [h.compile]
    exact .refl base fs
  run root target fs s _ := by
    rw [h.run]
    exact .refl base fs
  coverage root target fs s _ := by
    rw [h.coverage]
    exact .refl base fs

end TestForge
