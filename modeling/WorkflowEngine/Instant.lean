/-
Module: WorkflowEngine.Instant
Layer: Time
Purpose: Points of time and their text.
Imports: none
Trusted boundary: none
Main exports: Instant, Instant.render
-/

/-!
# Points of time

A point of time is a number of milliseconds since the start of 1970.  Its text is a date and a time of day in
universal time, with as many decimals of a second as are needed in groups of three.
-/

namespace WorkflowEngine

/-- A point of time, in milliseconds. -/
abbrev Instant := Nat

namespace Instant

/-- The date of a day counted from the start of 1970, by the rules of the Gregorian calendar: eras of 400
years, and years that start in March. -/
def date (day : Nat) : Nat × Nat × Nat :=
  let shifted := day + 719468
  let era := shifted / 146097
  let dayOfEra := shifted % 146097
  let yearOfEra := (dayOfEra - dayOfEra / 1460 + dayOfEra / 36524 - dayOfEra / 146096) / 365
  let dayOfYear := dayOfEra - (365 * yearOfEra + yearOfEra / 4 - yearOfEra / 100)
  let march := (5 * dayOfYear + 2) / 153
  let month := if march < 10 then march + 3 else march - 9
  let year := yearOfEra + era * 400 + (if month ≤ 2 then 1 else 0)
  (year, month, dayOfYear - (153 * march + 2) / 5 + 1)

/-- A number with zeros before it up to a width. -/
def padded (width n : Nat) : String :=
  let digits := Nat.toDigits 10 n
  String.ofList (List.replicate (width - digits.length) '0' ++ digits)

/-- The text of a point of time. -/
def render (t : Instant) : String :=
  let seconds := t / 1000
  let (year, month, day) := date (seconds / 86400)
  let clock := seconds % 86400
  padded 4 year ++ "-" ++ padded 2 month ++ "-" ++ padded 2 day ++ "T" ++ padded 2 (clock / 3600) ++ ":"
    ++ padded 2 (clock / 60 % 60) ++ ":" ++ padded 2 (clock % 60)
    ++ (if t % 1000 = 0 then "" else "." ++ padded 3 (t % 1000)) ++ "Z"

end Instant

end WorkflowEngine
