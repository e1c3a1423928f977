import TestForge.FileSystem.Tree
import TestForge.Toolchain.Output

/-!
# Toolchains

A toolchain compiles and runs the test at a target path below a project root. It may have a state
of its own and may change files; nothing else is known of it.
-/

namespace TestForge

structure Toolchain (σ : Type) where
  /-- Compiles the test sources of the module the target belongs to. -/
  compile : String → String → FileSystem → σ → Except ToolFailure ToolOutput × FileSystem × σ
  /-- Runs the test class named after the target. -/
  run : String → String → FileSystem → σ → Except ToolFailure TestCounts × FileSystem × σ
  /-- Produces a coverage report of the target's module. -/
  coverage : String → String → FileSystem → σ → Except ToolFailure CoverageReport × FileSystem × σ

namespace Toolchain

variable {σ : Type}

/-- A toolchain that leaves all files alone. -/
structure ReadOnly (tools : Toolchain σ) : Prop where
  compile : ∀ root target fs s, (tools.compile root target fs s).2.1 = fs
  run : ∀ root target fs s, (tools.run root target fs s).2.1 = fs
  coverage : ∀ root target fs s, (tools.coverage root target fs s).2.1 = fs

/-! ## Logging calls -/

inductive Answer where
  | compile (result : Except ToolFailure ToolOutput)
  | run (result : Except ToolFailure TestCounts)
  | coverage (result : Except ToolFailure CoverageReport)

/-- A call that was made: what was asked, the files it saw, and the answer. -/
structure Event where
  root : String
  target : String
  files : FileSystem
  answer : Answer

/-- The toolchain with a log of its calls, oldest first. -/
def logged (tools : Toolchain σ) : Toolchain (List Event × σ) where
  compile root target fs s :=
    match tools.compile root target fs s.2 with
    | (result, fs', s') => (result, fs', s.1 ++ [⟨root, target, fs, .compile result⟩], s')
  run root target fs s :=
    match tools.run root target fs s.2 with
    | (result, fs', s') => (result, fs', s.1 ++ [⟨root, target, fs, .run result⟩], s')
  coverage root target fs s :=
    match tools.coverage root target fs s.2 with
    | (result, fs', s') => (result, fs', s.1 ++ [⟨root, target, fs, .coverage result⟩], s')

end Toolchain

end TestForge
