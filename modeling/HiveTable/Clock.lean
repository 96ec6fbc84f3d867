import HiveTable.TimeOfDay

/-! What a clock shows: a time of day to the microsecond, or a moment. Values may give it field
by field, with a zone behind the fields that must be null. -/
namespace HiveTable

/-- Times of day to the microsecond. -/
structure ClockTime where
  hour : Nat
  minute : Nat
  second : Nat
  micros : Nat
  hour_le : hour ≤ 23
  minute_le : minute ≤ 59
  second_le : second ≤ 59
  micros_le : micros ≤ 999999

namespace ClockTime

def make? (hour minute second micros : Int) : Option ClockTime :=
  if h : (0 ≤ hour ∧ hour ≤ 23) ∧ (0 ≤ minute ∧ minute ≤ 59) ∧ (0 ≤ second ∧ second ≤ 59) ∧
      (0 ≤ micros ∧ micros ≤ 999999) then
    some ⟨hour.toNat, minute.toNat, second.toNat, micros.toNat, by omega, by omega, by omega,
      by omega⟩
  else none

/-- The largest number that a clock takes, in range or not. -/
def maxGiven : Int := 2147483647

/-- A field of a clock; truth values count as numbers. -/
def field (v : Value) : Except Failure Int :=
  match v.asInt? with
  | none => .error .wrongKind
  | some n => if -maxGiven - 1 ≤ n ∧ n ≤ maxGiven then .ok n else .error .tooLarge

/-- Makes something of the fields, of which there are `least` to `most`, and then looks at the
zone behind them. One value too many is found after the fields are read, more at once. -/
def read {α : Type} (least most : Nat) (make? : List Int → Option α) (values : List Value) :
    Except Failure α := do
  if values.length > most + 2 then throw .wrongKind
  let fields ← (values.take most).mapM field
  if values.length > most + 1 || fields.length < least then throw .wrongKind
  let some a := make? fields | throw .unusable
  if (values.drop most).all Value.isNull then return a else throw .wrongKind

/-- From four fields at most, zero where they are missing. -/
def ofFields (values : List Value) : Except Failure ClockTime :=
  read 0 4 (fun f => make? (f.getD 0 0) (f.getD 1 0) (f.getD 2 0) (f.getD 3 0)) values

/-- Whether six letters pack a clock time: the first, its high bit aside, is an hour. -/
def isPacked (t : Text) : Bool := t.length == 6 && t.head?.any (·.code % 128 < 24)

end ClockTime

namespace TimeOfDay

/-- Six digits of fraction, or none if there are no microseconds. -/
def ofClockTime (c : ClockTime) : TimeOfDay :=
  let nanos := c.micros * 1000
  have hn : nanos ≤ 999999999 := by have := c.micros_le; omega
  ⟨c.hour, c.minute, c.second, nanos, width nanos 6, c.hour_le, c.minute_le, c.second_le, hn,
   width_le nanos 6 hn (by decide)⟩

/-- Digits past the microsecond are dropped. -/
def toClockTime (t : TimeOfDay) : ClockTime :=
  ⟨t.hour, t.minute, t.second, t.nanos / 1000, t.hour_le, t.minute_le, t.second_le,
   by have := t.nanos_le; omega⟩

end TimeOfDay

namespace ClockTime

/-- A byte each for hour, minute and second and three bytes for the microseconds. Only the hour
is sure to be in range; another field that is not is refused as in a time of day. -/
def ofBytes (hour minute second high middle low : Nat) : Except TimeFault ClockTime :=
  let micros := (high * 256 + middle) * 256 + low
  (TimeOfDay.ofNat (hour % 128) minute second (micros * 1000) 6).map (·.toClockTime)

/-- The clock time in packed letters, with a zone that must be null. A letter that is no byte
counts before the zone, and the fields count after it. -/
def unpack (t : Text) (zone : Value) : Except Failure ClockTime := do
  if t.codes.any (255 < ·) then throw .unusable
  if !zone.isNull then throw .wrongKind
  match t.codes with
  | [h, m, s, high, middle, low] =>
    (ofBytes h m s high middle low).mapError fun f => .refused (.time f)
  | _ => throw .unusable

/-- From fields, or from one packed text; either may have a zone behind it. -/
def ofValues : List Value → Except Failure ClockTime
  | [.text t] => if isPacked t then unpack t .null else .error .wrongKind
  | [.text t, zone] => if isPacked t then unpack t zone else .error .wrongKind
  | values => ofFields values

end ClockTime

namespace Moment

def ofInts? (fields : List Int) : Option Moment := do
  if fields.any (· < 0) then none
  let n (i : Nat) : Nat := (fields.getD i 0).toNat
  make? (← Date.make? (n 0) (n 1) (n 2)) (n 3) (n 4) (n 5) (n 6) none

/-- From year, month and day, and fields of the time down to the microsecond. -/
def ofValues (values : List Value) : Except Failure Moment := ClockTime.read 3 7 ofInts? values

end Moment

end HiveTable
