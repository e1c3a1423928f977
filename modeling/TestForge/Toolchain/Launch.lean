import TestForge.FileSystem.Tree

/-!
# Launching programs

The build tool is a program of its own, and starts others. What runs programs is a parameter of all
that calls them: it may keep a state, such as the time of day, and may change files, and nothing is
known of it but the ways in which a call can end.
-/

namespace TestForge

/-- A program to be run in a directory, with arguments and an environment, for so many seconds at
most. -/
structure Launch where
  program : String
  arguments : List String
  environment : List (String × String)
  directory : Location
  seconds : Nat
  deriving DecidableEq

/-- How a call of a program ends. -/
inductive LaunchResult where
  /-- The program could not be started, or what it printed could not be read. -/
  | failed (reason : String)
  /-- It was stopped when its time was over. -/
  | overdue
  | ended (succeeded : Bool) (output errors : ByteArray)

/-- What runs programs. -/
abbrev Launcher (σ : Type) :=
  Launch → FileSystem → σ → LaunchResult × FileSystem × σ

end TestForge
