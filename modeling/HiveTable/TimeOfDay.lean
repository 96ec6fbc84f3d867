import HiveTable.Failure
import HiveTable.Text.Blank

/-! Times of day to the nanosecond. The width of the fraction belongs to the value, so that a
fraction with zeros at its end is written as it was read. -/
namespace HiveTable
open Number

structure TimeOfDay where
  hour : Nat
  minute : Nat
  second : Nat
  nanos : Nat
  fractionDigits : Nat
  hour_le : hour ≤ 23
  minute_le : minute ≤ 59
  second_le : second ≤ 59
  nanos_le : nanos ≤ 999999999
  fractionDigits_le : fractionDigits ≤ 9
  deriving DecidableEq

namespace TimeOfDay

/-- Without a given width a fraction is as wide as its number of nanoseconds is long; a zero
fraction is never written and has no width. -/
def width (nanos given : Nat) : Nat :=
  if nanos = 0 then 0 else if given = 0 then (digits nanos).length else given

theorem width_le (nanos given : Nat) (h : nanos ≤ 999999999) (hg : given ≤ 9) :
    width nanos given ≤ 9 := by
  have := length_digits_le nanos 8 (Nat.lt_of_le_of_lt h (by decide))
  unfold width
  split
  · omega
  · split <;> omega

/-- A natural number within the limit of the field. -/
def field (f : TimeField) : Value → Except TimeFault { n : Nat // n ≤ f.limit }
  | .int n =>
    if h : 0 ≤ n ∧ n ≤ f.limit then .ok ⟨n.toNat, by omega⟩ else .error (.outOfRange f n)
  | v => .error (.notInteger f v)

/-- The width of the fraction may be missing. -/
def make (hour minute second nanos fractionDigits : Value) : Except TimeFault TimeOfDay := do
  let h ← field .hour hour
  let m ← field .minute minute
  let s ← field .second second
  let n ← field .nanos nanos
  let d ← match fractionDigits with
    | .null => .ok ⟨0, by decide⟩
    | v => field .fractionDigits v
  return ⟨h, m, s, n, width n d, h.2, m.2, s.2, n.2, width_le n d n.2 d.2⟩

/-- From three to five fields. -/
def ofValues : List Value → Except Failure TimeOfDay
  | [h, m, s] => (make h m s (.int 0) .null).mapError refuse
  | [h, m, s, n] => (make h m s n .null).mapError refuse
  | [h, m, s, n, d] => (make h m s n d).mapError refuse
  | _ => .error .wrongKind
where
  refuse (fault : TimeFault) : Failure := (Refusal.time fault).failure

def ofNat (hour minute second nanos fractionDigits : Nat) : Except TimeFault TimeOfDay :=
  make (.int hour) (.int minute) (.int second) (.int nanos) (.int fractionDigits)

/-- One or two digits of ASCII. -/
def readField? : List Char → Option (Nat × List Char)
  | c :: d :: rest =>
    if c.isDigit then
      if d.isDigit then some ((c.toNat - 0x30) * 10 + (d.toNat - 0x30), rest)
      else some (c.toNat - 0x30, d :: rest)
    else none
  | [c] => if c.isDigit then some (c.toNat - 0x30, []) else none
  | [] => none

/-- Nothing, or a point and one digit or more. -/
def readFraction? : List Char → Option (List Nat)
  | [] => some []
  | '.' :: rest =>
    if !rest.isEmpty && rest.all Char.isDigit then some (rest.map (·.toNat - 0x30)) else none
  | _ => none

def expect? (c : Char) : List Char → Option (List Char)
  | d :: rest => if d = c then some rest else none
  | [] => none

/-- Hour, minute, second and the digits of the fraction. -/
def read? (s : List Char) : Option (Nat × Nat × Nat × List Nat) := do
  let (hour, s) ← readField? s
  let s ← expect? ':' s
  let (minute, s) ← readField? s
  let s ← expect? ':' s
  let (second, s) ← readField? s
  return (hour, minute, second, ← readFraction? s)

/-- The nanoseconds and the width of a fraction. Nine digits count, and zeros alone are no
fraction. -/
def fraction (ds : List Nat) : Nat × Nat :=
  if ds.all (· = 0) then (0, 0)
  else
    let kept := ds.take 9
    (ofDigits (kept ++ List.replicate (9 - kept.length) 0), kept.length)

def parse (t : Text) : Except TimeFault TimeOfDay :=
  match t.trim.chars?.bind read? with
  | none => .error (.malformed t)
  | some (hour, minute, second, ds) =>
    ofNat hour minute second (fraction ds).1 (fraction ds).2

def ofValue : Value → Except TimeFault TimeOfDay
  | .text t => parse t
  | v => .error (.notText v.kind)

/-- The digits of the nine-digit nanoseconds without the zeros at the end, and zeros up to
the width. -/
def fractionText (t : TimeOfDay) : List Char :=
  let shown := ((padded 9 t.nanos).toList.reverse.dropWhile (· = '0')).reverse
  shown ++ List.replicate (t.fractionDigits - shown.length) '0'

def text (t : TimeOfDay) : String :=
  let base := padded 2 t.hour ++ ":" ++ padded 2 t.minute ++ ":" ++ padded 2 t.second
  if t.nanos = 0 then base else base ++ "." ++ String.ofList t.fractionText

def totalNanos (t : TimeOfDay) : Nat :=
  (t.hour * 3600 + t.minute * 60 + t.second) * 1000000000 + t.nanos

end TimeOfDay

end HiveTable
