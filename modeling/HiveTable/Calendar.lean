import HiveTable.Number.Decimal

/-! Days of the Gregorian calendar and moments of a day, with or without an offset from
universal time. Only valid ones can be made. -/
namespace HiveTable
open Number

structure Date where
  year : Nat
  month : Nat
  day : Nat
  deriving DecidableEq

namespace Date

def isLeap (year : Nat) : Bool := year % 4 == 0 && (year % 100 != 0 || year % 400 == 0)

def daysInMonth (year month : Nat) : Nat :=
  if month = 2 then (if isLeap year then 29 else 28)
  else if month = 4 ∨ month = 6 ∨ month = 9 ∨ month = 11 then 30
  else 31

def make? (year month day : Nat) : Option Date :=
  if 1 ≤ year ∧ year ≤ 9999 ∧ 1 ≤ month ∧ month ≤ 12 ∧ 1 ≤ day ∧ day ≤ daysInMonth year month then
    some ⟨year, month, day⟩
  else none

/-- How many days lie between the start of the calendar and this day. -/
def ordinal (d : Date) : Nat :=
  let y := d.year - 1
  let months := (List.range (d.month - 1)).map fun m => daysInMonth d.year (m + 1)
  y * 365 + y / 4 - y / 100 + y / 400 + months.foldl (· + ·) 0 + d.day

def text (d : Date) : String := padded 4 d.year ++ "-" ++ padded 2 d.month ++ "-" ++ padded 2 d.day

def fields (d : Date) : List Nat := [d.year, d.month, d.day]

end Date

/-- The offset is in minutes east of universal time. -/
structure Moment where
  date : Date
  hour : Nat
  minute : Nat
  second : Nat
  micros : Nat
  offset : Option Int
  deriving DecidableEq

namespace Moment

def make? (date : Date) (hour minute second micros : Nat) (offset : Option Int) : Option Moment :=
  if hour < 24 ∧ minute < 60 ∧ second < 60 ∧ micros < 1000000 ∧
      offset.all (fun o => -1440 < o ∧ o < 1440) then
    some ⟨date, hour, minute, second, micros, offset⟩
  else none

def offsetText (o : Int) : String :=
  (if o < 0 then "-" else "+") ++ padded 2 (o.natAbs / 60) ++ ":" ++ padded 2 (o.natAbs % 60)

def text (m : Moment) : String :=
  m.date.text ++ " " ++ padded 2 m.hour ++ ":" ++ padded 2 m.minute ++ ":" ++ padded 2 m.second ++
    (if m.micros = 0 then "" else "." ++ padded 6 m.micros) ++ (m.offset.map offsetText).getD ""

/-- Microseconds since the start of the calendar, less the offset. -/
def instant (m : Moment) : Int :=
  let seconds := ((m.date.ordinal * 24 + m.hour) * 60 + m.minute) * 60 + m.second
  (seconds * 1000000 + m.micros : Nat) - m.offset.getD 0 * 60000000

/-- One moment of time; moments with and without an offset are never the same. -/
def same (a b : Moment) : Bool := a.offset.isSome == b.offset.isSome && a.instant == b.instant

/-- The fields down to the last that matters: seconds only if they or finer ones are set. -/
def fields (m : Moment) : List Nat :=
  m.date.fields ++ [m.hour, m.minute] ++
    (if m.micros ≠ 0 then [m.second, m.micros] else if m.second ≠ 0 then [m.second] else [])

end Moment

end HiveTable
