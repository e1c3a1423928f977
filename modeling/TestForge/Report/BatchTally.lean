/-!
# The tally of a batch

How many items of a batch succeeded and failed so far; the rest count as skipped.
-/

namespace TestForge

structure BatchTally where
  total : Nat
  succeeded : Nat
  failed : Nat
  deriving DecidableEq

namespace BatchTally

def start (total : Nat) : BatchTally :=
  ⟨total, 0, 0⟩

def complete (t : BatchTally) (success : Bool) : BatchTally :=
  if success then { t with succeeded := t.succeeded + 1 } else { t with failed := t.failed + 1 }

/-- Items that were not reached. -/
def skipped (t : BatchTally) : Nat :=
  t.total - t.succeeded - t.failed

/-- The lines of a summary. Durations are not measured and show as zero. -/
def summaryLines (t : BatchTally) : List String :=
  ["Batch test generation summary:",
    "  Total:     " ++ toString t.total,
    "  Succeeded: " ++ toString t.succeeded,
    "  Failed:    " ++ toString t.failed] ++
  (if t.skipped > 0 then ["  Skipped:   " ++ toString t.skipped] else []) ++
  ["  Duration:  0.00s"]

def summary (t : BatchTally) : String :=
  "\n".intercalate t.summaryLines

end BatchTally

end TestForge
