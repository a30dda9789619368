import CompoundFile.Text.Hex

/-!
# File times

A file time counts ticks of 100 ns since the beginning of 1601, UTC. Zero means that no time is set,
and counts from 2^63 on are out of range; every other count is an `Instant`, the whole seconds
since the beginning of 1970 and the nanoseconds past them.

**Calendar.** 1601 begins a cycle of 400 Gregorian years, which has 146097 days. Inside a cycle the
centuries, the groups of four years and the years have constant lengths, except that the last of
each kind can be a day longer.
-/

namespace CompoundFile

/-- A point in time: whole seconds since 1970-01-01T00:00:00Z and nanoseconds past them. -/
structure Instant where
  seconds : Int
  nanos : Nat
  deriving DecidableEq, Repr

/-- A day of the Gregorian calendar. -/
structure Date where
  year : Int
  month : Nat
  day : Nat
  deriving DecidableEq, Repr

namespace Filetime

/-- Ticks from the beginning of 1601 to the beginning of 1970. -/
def unixEpoch : Int := 116444736000000000

/-- The instant that a count of ticks stands for, if it stands for one. -/
def instant? (ticks : UInt64) : Option Instant :=
  if ticks = 0 ∨ 0x8000000000000000 ≤ ticks then none
  else
    let t : Int := ticks.toNat - unixEpoch
    some ⟨t / 10000000, (t % 10000000).toNat * 100⟩

end Filetime

namespace Date

/-- A year with 366 days. -/
def isLeap (year : Int) : Bool := year % 4 == 0 && (year % 100 != 0 || year % 400 == 0)

/-- The lengths of the months of a year. -/
def monthLengths (year : Int) : List Nat :=
  [31, if isLeap year then 29 else 28, 31, 30, 31, 30, 31, 31, 30, 31, 30, 31]

/-- The month and the day in it of a day counted from the first day of `month`, given the lengths of
the months from there on. -/
def inMonth (month day : Nat) : List Nat → Nat × Nat
  | [] => (month, day + 1)
  | length :: rest =>
    if day < length then (month, day + 1) else inMonth (month + 1) (day - length) rest

/-- The date of a day counted from 1601-01-01. -/
def ofDays (days : Int) : Date :=
  let cycle := days / 146097
  let d := (days % 146097).toNat
  let century := min (d / 36524) 3
  let d := d - century * 36524
  let four := d / 1461
  let d := d - four * 1461
  let single := min (d / 365) 3
  let year : Int := 1601 + 400 * cycle + 100 * century + 4 * four + single
  let (month, day) := inMonth 1 (d - single * 365) (monthLengths year)
  ⟨year, month, day⟩

/-- A date as year, month and day. Years outside 0 to 9999 carry a sign. -/
def toText (d : Date) : String :=
  let sign := if d.year < 0 then "-" else if 9999 < d.year then "+" else ""
  sign ++ Text.decimal 4 d.year.natAbs ++ "-" ++ Text.decimal 2 d.month ++ "-" ++
    Text.decimal 2 d.day

end Date

namespace Instant

/-- Days from 1601-01-01 to 1970-01-01. -/
def unixEpochDays : Int := 134774

/-- The date of an instant. -/
def date (t : Instant) : Date := Date.ofDays (t.seconds / 86400 + unixEpochDays)

/-- Date and time of an instant, to the nanosecond. -/
def toText (t : Instant) : String :=
  let s := (t.seconds % 86400).toNat
  t.date.toText ++ "T" ++ Text.decimal 2 (s / 3600) ++ ":" ++ Text.decimal 2 (s / 60 % 60) ++ ":" ++
    Text.decimal 2 (s % 60) ++ "." ++ Text.decimal 9 t.nanos ++ "Z"

example : ((Filetime.instant? 1).map toText) = some "1601-01-01T00:00:00.000000100Z" := by
  decide +kernel

example : ((Filetime.instant? 125911584000000000).map toText) =
    some "2000-01-01T00:00:00.000000000Z" := by
  decide +kernel

end Instant

end CompoundFile
