/-!
# Shell scripts

The syntax of the scripts that stand in for a build tool: simple commands, pipelines, conditions,
choices and loops of the POSIX shell.
-/

namespace TestForge.Shell

/-- How the value of a parameter is changed before it is used. -/
inductive Modifier where
  | none
  /-- The length of the value. -/
  | length
  /-- A text in place of a value that is unset, or also of an empty one. -/
  | fallback (text : String) (orEmpty : Bool)
  /-- As a fallback, which then also becomes the value. -/
  | initial (text : String) (orEmpty : Bool)
  /-- A text in place of a value that is set, or also not empty. -/
  | instead (text : String) (orEmpty : Bool)
  /-- A complaint, which ends the script, about a value that is unset, or also about an empty one. -/
  | required (text : String) (orEmpty : Bool)
  /-- Without what a pattern matches at its start or end. -/
  | without (pattern : String) (atStart longest : Bool)
  deriving DecidableEq

inductive Part where
  | literal (text : String) (quoted : Bool)
  | parameter (name : String) (modifier : Modifier) (quoted : Bool)
  | substitution (script : String) (quoted : Bool)
  | arithmetic (expression : String) (quoted : Bool)
  deriving DecidableEq

abbrev Word := List Part

inductive Direction where
  | read
  | write
  | append
  | duplicate
  /-- Reads from the text that follows in the script. -/
  | text
  deriving DecidableEq

structure Redirection where
  descriptor : Nat
  direction : Direction
  target : Word
  deriving DecidableEq

inductive Command where
  | simple (assignments : List (String × Word)) (words : List Word)
  | redirected (body : Command) (redirections : List Redirection)
  | pipeline (parts : List Command)
  | negated (body : Command)
  | both (first second : Command)
  | either (first second : Command)
  | group (body : List Command)
  | subshell (body : List Command)
  | choice (condition yes no : List Command)
  | cases (subject : Word) (arms : List (List Word × List Command))
  | each (name : String) (words : List Word) (body : List Command)
  | loop (wanted : Bool) (condition body : List Command)
  | definition (name : String) (body : Command)

/-! ## Tokens -/

inductive Token where
  | word (value : Word)
  | operator (text : String)
  | redirection (descriptor : Nat) (direction : Direction)
  | newline
  deriving DecidableEq

end TestForge.Shell
