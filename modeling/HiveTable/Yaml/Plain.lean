import HiveTable.Number.Numeral
import HiveTable.Value
import HiveTable.Yaml.Cursor

/-! The value of a plain text: what looks like null, a truth value, a number or a date is
one, and everything else is a text. -/
namespace HiveTable.Yaml
open Number

def isNullText (s : String) : Bool := ["", "~", "null", "Null", "NULL"].contains s

def truth? (s : String) : Option Bool :=
  if ["yes", "Yes", "YES", "true", "True", "TRUE", "on", "On", "ON"].contains s then some true
  else if ["no", "No", "NO", "false", "False", "FALSE", "off", "Off", "OFF"].contains s then
    some false
  else none

/-- Whether a number is negative, and what follows its sign. -/
def sign : List Char → Bool × List Char
  | '-' :: rest => (true, rest)
  | '+' :: rest => (false, rest)
  | rest => (false, rest)

/-- Underscores may stand between digits. -/
def spaced (p : Char → Bool) (c : Char) : Bool := p c || c == '_'

def digitsOf (s : List Char) : List Nat := (s.filter (· != '_')).map (·.toNat - 0x30)

/-- A digit that is not zero and more digits. -/
def isPositive : List Char → Bool
  | c :: rest => '1' ≤ c && c ≤ '9' && rest.all (spaced Char.isDigit)
  | [] => false

/-- The parts between colons. -/
def sexagesimal (s : List Char) : List (List Char) := s.splitOn ':'

/-- One or two digits below sixty. -/
def isSixtieth : List Char → Bool
  | [c] => c.isDigit
  | [c, d] => '0' ≤ c && c ≤ '5' && d.isDigit
  | _ => false

def ofBase (base : Nat) (ds : List Nat) : Nat := ds.foldl (fun n d => n * base + d) 0

/-- A decimal number; one that is too long has no value. -/
def decimal (s : List Char) : Except Fault Nat :=
  let ds := digitsOf s
  if ds.length > maxNumeralDigits then .error .unusable else .ok (ofDigits ds)

def hexDigit (c : Char) : Option Nat :=
  if c.isDigit then some (c.toNat - 0x30)
  else if 'a' ≤ c ∧ c ≤ 'f' then some (c.toNat - 0x61 + 10)
  else if 'A' ≤ c ∧ c ≤ 'F' then some (c.toNat - 0x41 + 10)
  else none

/-- A number in binary or hexadecimal digits; underscores alone are no number. -/
def based (base : Nat) (s : List Char) : Except Fault Nat :=
  let ds := s.filterMap hexDigit
  if ds.isEmpty then .error .unusable else .ok (ofBase base ds)

/-- Binary, octal, decimal, hexadecimal, or in base sixty. -/
def natural? (s : List Char) : Option (Except Fault Nat) :=
  match s with
  | ['0'] => some (.ok 0)
  | '0' :: 'b' :: rest =>
    if !rest.isEmpty && rest.all (spaced fun c => c == '0' || c == '1') then some (based 2 rest)
    else none
  | '0' :: 'x' :: rest =>
    if !rest.isEmpty && rest.all (spaced fun c => (hexDigit c).isSome) then some (based 16 rest)
    else none
  | '0' :: rest =>
    if rest.all (spaced fun c => '0' ≤ c && c ≤ '7') then some (.ok (ofBase 8 (digitsOf rest)))
    else none
  | _ =>
    match sexagesimal s with
    | [whole] => if isPositive whole then some (decimal whole) else none
    | whole :: parts =>
      if isPositive whole && parts.all isSixtieth then
        some do return ofBase 60 ((← decimal whole) :: (← parts.mapM decimal))
      else none
    | [] => none

def integer? (s : String) : Option (Except Fault Int) :=
  let (negative, body) := sign s.toList
  (natural? body).map fun n => n.map fun n => if negative then -(n : Int) else n

/-- The exponent of a decimal fraction, zero if there is none; its sign must be written. -/
def exponent? : List Char → Option Int
  | [] => some 0
  | e :: s :: rest =>
    if (e == 'e' || e == 'E') && (s == '+' || s == '-') && !rest.isEmpty &&
        rest.all Char.isDigit then
      let n : Int := ofDigits (digitsOf rest)
      some (if s == '-' then -n else n)
    else none
  | [_] => none

/-- Whole digits, a point, and digits of the fraction with what follows them. -/
def pointed? (s : List Char) : Option (List Char × List Char × List Char) :=
  match s.dropWhile (· != '.') with
  | '.' :: after =>
    some (s.takeWhile (· != '.'), after.takeWhile (spaced Char.isDigit),
      after.dropWhile (spaced Char.isDigit))
  | _ => none

def startsWithDigit (s : List Char) : Bool := s.head?.any Char.isDigit

/-- A decimal fraction. Without digits before the point it has one after it and no sign. -/
def fraction? (signed negative : Bool) (s : List Char) : Option Binary64 := do
  let (whole, part, rest) ← pointed? s
  let e ← exponent? rest
  let fits :=
    if whole.isEmpty then !signed && startsWithDigit part
    else startsWithDigit whole && whole.all (spaced Char.isDigit)
  if fits then
    let ds := digitsOf part
    some (.ofDecimal negative (digitsOf whole ++ ds) (e - ds.length))
  else none

/-- Sums the parts from the last, each sixty times the one after it. -/
def sumSixtieths : List Binary64 → Nat → Binary64
  | [], _ => .zero
  | x :: rest, base => sumSixtieths' x rest base .zero
where
  sumSixtieths' (x : Binary64) : List Binary64 → Nat → Binary64 → Binary64
    | rest, base, sum =>
      let sum := sum.add (x.mul (.ofInt base))
      match rest with
      | [] => sum
      | y :: rest => sumSixtieths' y rest (base * 60) sum

/-- With more parts the first stands for more than any floating point number. -/
def maxSixtieths : Nat := 174

/-- A fraction in base sixty: the last part has a point. -/
def sixtieths? (negative : Bool) (s : List Char) : Option (Except Fault Binary64) :=
  match (sexagesimal s).reverse with
  | last :: middle@(_ :: _) =>
    match pointed? last, middle.reverse with
    | some (whole, part, []), first :: parts =>
      if startsWithDigit first && first.all (spaced Char.isDigit) && parts.all isSixtieth &&
          isSixtieth whole then
        let ds := digitsOf part
        let lastValue := Binary64.ofDecimal false (digitsOf whole ++ ds) (-ds.length)
        let values := lastValue :: middle.map fun p => Binary64.ofDecimal false (digitsOf p) 0
        let sum := sumSixtieths values 1
        if values.length > maxSixtieths then some (.error .tooLarge)
        else some (.ok (if negative then sum.negate else sum))
      else none
    | _, _ => none
  | _ => none

def float? (s : String) : Option (Except Fault Binary64) :=
  let (negative, body) := sign s.toList
  let signed := s.toList.length != body.length
  if [".inf", ".Inf", ".INF"].contains (String.ofList body) then
    some (.ok (.infinite negative))
  else if [".nan", ".NaN", ".NAN"].contains s then some (.ok .nan)
  else ((fraction? signed negative body).map .ok).or (sixtieths? negative body)

/-! ## Days and moments -/

/-- Between `least` and `most` digits, as many as there are. -/
def number? (least most : Nat) (s : List Char) : Option (Nat × List Char) :=
  let ds := (s.take most).takeWhile Char.isDigit
  if least ≤ ds.length then some (ofDigits (digitsOf ds), s.drop ds.length) else none

def char? (c : Char) : List Char → Option (List Char)
  | d :: rest => if c == d then some rest else none
  | [] => none

def skipBlanks (s : List Char) : List Char := s.dropWhile fun c => c == ' ' || c == '\t'

/-- What stands between a day and the time: a letter, or blanks. -/
def dayEnd? (s : List Char) : Option (List Char) :=
  match s with
  | 'T' :: rest | 't' :: rest => some rest
  | ' ' :: _ | '\t' :: _ => some (skipBlanks s)
  | _ => none

/-- A fraction of a second, to the microsecond; there may be a point without digits. -/
def micros (s : List Char) : Nat × List Char :=
  match s with
  | '.' :: rest =>
    let ds := (digitsOf (rest.takeWhile Char.isDigit)).take 6
    (ofDigits (ds ++ List.replicate (6 - ds.length) 0), rest.dropWhile Char.isDigit)
  | _ => (0, s)

/-- An offset in minutes, and nothing after it; or nothing at all. -/
def offset? (s : List Char) : Option (Option Int) :=
  match skipBlanks s with
  | [] => if s.isEmpty then some none else none
  | ['Z'] => some (some 0)
  | c :: rest => do
    if c != '+' && c != '-' then none
    let (hours, rest) ← number? 1 2 rest
    let minutes ←
      match rest with
      | [] => some 0
      | _ => do
        let (minutes, rest) ← number? 2 2 (← char? ':' rest)
        if rest.isEmpty then some minutes else none
    let o : Int := hours * 60 + minutes
    some (some (if c == '-' then -o else o))

/-- A day in ten characters, or a day and a time. -/
def moment? (s : String) : Option (Except Fault Value) := do
  let (year, rest) ← number? 4 4 s.toList
  let (month, rest) ← number? 1 2 (← char? '-' rest)
  let (day, rest) ← number? 1 2 (← char? '-' rest)
  if rest.isEmpty then
    if s.toList.length != 10 then none
    some (((Date.make? year month day).map Value.date).elim (.error .unusable) .ok)
  else
    let (hour, rest) ← number? 1 2 (← dayEnd? rest)
    let (minute, rest) ← number? 2 2 (← char? ':' rest)
    let (second, rest) ← number? 2 2 (← char? ':' rest)
    let (micros, rest) := micros rest
    let offset ← offset? rest
    let made := do
      let date ← Date.make? year month day
      Moment.make? date hour minute second micros offset
    some ((made.map Value.moment).elim (.error .unusable) .ok)

/-- Two signs are kept for other uses and have no value of their own. -/
def isReserved (s : String) : Bool := s == "<<" || s == "="

def plainValue (s : String) : Except Fault Value :=
  if isNullText s then .ok .null
  else if isReserved s then .error .malformed
  else
    match truth? s with
    | some b => .ok (.bool b)
    | none =>
      match integer? s with
      | some n => n.map Value.int
      | none =>
        match float? s with
        | some x => x.map Value.float
        | none => (moment? s).getD (.ok (.text s))

end HiveTable.Yaml
