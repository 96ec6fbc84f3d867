import HiveTable.Number.Decimal

/-! Binary floating point numbers of 64 bits as exact values: a finite one is a sign and
`mantissa * 2 ^ exponent`, and a ratio becomes the nearest of them, a tie the even one. -/
namespace HiveTable.Number

inductive Binary64
  | nan
  | infinite (negative : Bool)
  | finite (negative : Bool) (mantissa : Nat) (exponent : Int)
  deriving DecidableEq

namespace Binary64

def minExponent : Int := -1074
def maxExponent : Int := 971

def zero : Binary64 := .finite false 0 minExponent

/-- The quotient rounded to nearest, a half to the even neighbour. -/
def roundDiv (n d : Nat) : Nat :=
  let q := n / d
  let r := n % d
  if 2 * r < d then q
  else if 2 * r > d then q + 1
  else if q % 2 = 0 then q else q + 1

/-- `n / d` in units of `2 ^ e`, as numerator and denominator. -/
def inUnits (n d : Nat) (e : Int) : Nat × Nat := (n * Nat.pow 2 (-e).toNat, d * Nat.pow 2 e.toNat)

/-- The exponent that leaves a mantissa of 53 bits, or the least one. -/
def exponentFor (n d : Nat) : Int :=
  let e : Int := n.log2 - d.log2 - 53
  let (a, b) := inUnits n d e
  max minExponent (if a / b < Nat.pow 2 53 then e else e + 1)

def ofRatio (negative : Bool) (n d : Nat) : Binary64 :=
  if n = 0 then .finite negative 0 minExponent
  else
    let e := exponentFor n d
    let (a, b) := inUnits n d e
    let m := roundDiv a b
    let (m, e) := if m = Nat.pow 2 53 then (Nat.pow 2 52, e + 1) else (m, e)
    if e > maxExponent then .infinite negative else .finite negative m e

/-- The number written `ds` with the point moved by `exponent` places. Far outside the range
of finite numbers the power of ten is not computed. -/
def ofDecimal (negative : Bool) (ds : List Nat) (exponent : Int) : Binary64 :=
  let n := ofDigits ds
  if n = 0 then .finite negative 0 minExponent
  else if (ds.dropWhile (· = 0)).length + exponent > 400 then .infinite negative
  else if (ds.dropWhile (· = 0)).length + exponent < -400 then .finite negative 0 minExponent
  else ofRatio negative (n * Nat.pow 10 exponent.toNat) (Nat.pow 10 (-exponent).toNat)

/-- The value as a ratio, with the sign on the numerator. -/
def ratio (negative : Bool) (m : Nat) (e : Int) : Int × Nat :=
  let n : Int := (m * Nat.pow 2 e.toNat : Nat)
  (if negative then -n else n, Nat.pow 2 (-e).toNat)

def ofSignedRatio (n : Int) (d : Nat) : Binary64 := ofRatio (n < 0) n.natAbs d

def ofInt (n : Int) : Binary64 := ofSignedRatio n 1

def negate : Binary64 → Binary64
  | .nan => .nan
  | .infinite s => .infinite !s
  | .finite s m e => .finite (!s) m e

/-- The sum; a zero sum has no sign. -/
def add : Binary64 → Binary64 → Binary64
  | .finite s m e, .finite t n f =>
    let (a, b) := ratio s m e
    let (c, d) := ratio t n f
    ofSignedRatio (a * d + c * b) (b * d)
  | .nan, _ | _, .nan => .nan
  | .infinite s, .infinite t => if s == t then .infinite s else .nan
  | .infinite s, .finite .. => .infinite s
  | .finite .., .infinite t => .infinite t

/-- The product; a zero product has no sign. -/
def mul : Binary64 → Binary64 → Binary64
  | .finite s m e, .finite t n f =>
    let (a, b) := ratio s m e
    let (c, d) := ratio t n f
    ofSignedRatio (a * c) (b * d)
  | .nan, _ | _, .nan => .nan
  | .infinite s, .finite t m _ => if m = 0 then .nan else .infinite (s != t)
  | .finite s m _, .infinite t => if m = 0 then .nan else .infinite (s != t)
  | .infinite s, .infinite t => .infinite (s != t)

def isZero : Binary64 → Bool
  | .finite _ m _ => m == 0
  | _ => false

/-- The same value: the two zeros are equal, and there is one `nan`. -/
def same : Binary64 → Binary64 → Bool
  | .finite s m e, .finite t n f =>
    let (a, b) := ratio s m e
    let (c, d) := ratio t n f
    a * d == c * b
  | .infinite s, .infinite t => s == t
  | .nan, .nan => true
  | _, _ => false

def sameInt (n : Int) : Binary64 → Bool
  | .finite s m e =>
    let (a, b) := ratio s m e
    a == n * b
  | _ => false

end Binary64

end HiveTable.Number
