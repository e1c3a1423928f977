/-!
# The clock

A clock is a sequence of readings in seconds since 1970. A reading is written as date and time of
day in UTC, to the second.
-/

namespace TestForge

/-- The readings to come, and how many have been taken. -/
structure Clock where
  readings : Nat → Nat
  taken : Nat

namespace Clock

def read (c : Clock) : Nat × Clock :=
  (c.readings c.taken, { c with taken := c.taken + 1 })

/-- A clock that stands still. -/
def still (seconds : Nat) : Clock :=
  ⟨fun _ => seconds, 0⟩

/-- A clock that never runs backwards. -/
def Monotone (c : Clock) : Prop :=
  ∀ i j, i ≤ j → c.readings i ≤ c.readings j

end Clock

/-! ## Dates -/

structure Date where
  year : Nat
  month : Nat
  day : Nat
  deriving DecidableEq

/-- The date a number of days after 1970-01-01, by eras of 400 years that start in March. -/
def Date.ofDays (days : Nat) : Date :=
  let shifted := days + 719468
  let era := shifted / 146097
  let dayOfEra := shifted % 146097
  let yearOfEra := (dayOfEra - dayOfEra / 1460 + dayOfEra / 36524 - dayOfEra / 146096) / 365
  let dayOfYear := dayOfEra - (365 * yearOfEra + yearOfEra / 4 - yearOfEra / 100)
  let shiftedMonth := (5 * dayOfYear + 2) / 153
  let month := if shiftedMonth < 10 then shiftedMonth + 3 else shiftedMonth - 9
  { year := yearOfEra + 400 * era + (if month ≤ 2 then 1 else 0)
    month := month
    day := dayOfYear - (153 * shiftedMonth + 2) / 5 + 1 }

/-- A number with zeros in front up to a width. -/
def padded (width n : Nat) : String :=
  let digits := Nat.toDigits 10 n
  String.ofList (List.replicate (width - digits.length) '0' ++ digits)

/-- A reading as year, month, day, `T`, hour, minute, second and `Z`. -/
def timestamp (seconds : Nat) : String :=
  let date := Date.ofDays (seconds / 86400)
  let time := seconds % 86400
  padded 4 date.year ++ padded 2 date.month ++ padded 2 date.day ++ "T" ++
    padded 2 (time / 3600) ++ padded 2 (time / 60 % 60) ++ padded 2 (time % 60) ++ "Z"

end TestForge
