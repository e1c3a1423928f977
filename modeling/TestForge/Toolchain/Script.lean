import TestForge.Toolchain.Interface

/-!
# A scripted toolchain

Answers come from prepared lists, one entry per call. When a list is used up, compiling succeeds,
a run passes two tests, and coverage names the report of the module `app`.
-/

namespace TestForge

/-- A prepared answer: a failure, or the output of a command that is still to be judged. -/
inductive ScriptedOutput where
  | failure (f : ToolFailure)
  | output (command : String) (o : ToolOutput)

structure Script where
  compile : List ScriptedOutput
  run : List ScriptedOutput
  coverage : List (Except ToolFailure CoverageReport)

namespace Script

def compileResult : ScriptedOutput → Except ToolFailure ToolOutput
  | .failure f => .error f
  | .output command o => o.asCompile command

def runResult : ScriptedOutput → Except ToolFailure TestCounts
  | .failure f => .error f
  | .output command o => o.asTestRun command

def defaultReport : CoverageReport :=
  ⟨"app/build/reports/jacoco/test/html/index.html"⟩

end Script

/-- The toolchain that answers from a script and touches no file. -/
def Toolchain.scripted : Toolchain Script where
  compile _ _ fs s :=
    match s.compile with
    | [] => (.ok ⟨true, "", ""⟩, fs, s)
    | e :: rest => (Script.compileResult e, fs, { s with compile := rest })
  run _ _ fs s :=
    match s.run with
    | [] => (.ok ⟨2, 0⟩, fs, s)
    | e :: rest => (Script.runResult e, fs, { s with run := rest })
  coverage _ _ fs s :=
    match s.coverage with
    | [] => (.ok Script.defaultReport, fs, s)
    | e :: rest => (e, fs, { s with coverage := rest })

end TestForge
