/-!
# Times in log files

A moment is given in seconds since the beginning of 1970, and shown as a date with the time of day.

* `Timestamp.text` is a moment as a log file notes it.
-/
namespace SiteAudit.Log

structure Timestamp where
  /-- Seconds since the beginning of 1970. -/
  seconds : Nat
  milliseconds : Nat

structure Date where
  year : Nat
  month : Nat
  day : Nat
  deriving DecidableEq, Repr

/-- The date a number of days after the first of March of the year 0.  Years begin in March here, so
that the day added in a leap year is the last of its year; each 400 years have the same days. -/
def Date.ofDays (days : Nat) : Date :=
  let era := days / 146097
  let dayOfEra := days % 146097
  let yearOfEra := (dayOfEra - dayOfEra / 1460 + dayOfEra / 36524 - dayOfEra / 146096) / 365
  let dayOfYear := dayOfEra - (365 * yearOfEra + yearOfEra / 4 - yearOfEra / 100)
  let month := (5 * dayOfYear + 2) / 153
  { year := era * 400 + yearOfEra + if month < 10 then 0 else 1
    month := if month < 10 then month + 3 else month - 9
    day := dayOfYear - (153 * month + 2) / 5 + 1 }

/-- The days from the first of March of the year 0 to the beginning of 1970. -/
def daysBefore1970 : Nat := 719468

example : Date.ofDays daysBefore1970 = ⟨1970, 1, 1⟩ := by decide
example : Date.ofDays (daysBefore1970 + 11016) = ⟨2000, 2, 29⟩ := by decide

/-- A number with zeros in front, up to a width. -/
def padded (width n : Nat) : String :=
  let digits := toString n
  String.ofList (List.replicate (width - digits.length) '0') ++ digits

namespace Timestamp

def date (t : Timestamp) : Date := .ofDays (daysBefore1970 + t.seconds / 86400)

/-- A moment as a log file notes it. -/
def text (t : Timestamp) : String :=
  let d := t.date
  let s := t.seconds % 86400
  padded 4 d.year ++ "-" ++ padded 2 d.month ++ "-" ++ padded 2 d.day ++ " " ++
    padded 2 (s / 3600) ++ ":" ++ padded 2 (s / 60 % 60) ++ ":" ++ padded 2 (s % 60) ++ "," ++
    padded 3 t.milliseconds

end Timestamp

end SiteAudit.Log
