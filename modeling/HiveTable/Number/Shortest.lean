import HiveTable.Number.Binary64

/-! The text of a floating point number: the fewest digits that read back as the number,
the nearest to it of those, with the point in place or with an exponent. -/
namespace HiveTable.Number

/-- The number `digits * 10 ^ exponent`. -/
structure Decimal where
  digits : Nat
  exponent : Int
  deriving DecidableEq

namespace Binary64

/-- The reals that round to `m * 2 ^ e`, in quarters of its last place: from, to, and
whether the ends belong to them. -/
def interval (m : Nat) (e : Int) : Nat × Nat × Bool :=
  (4 * m - (if m = Nat.pow 2 52 ∧ e > minExponent then 1 else 2), 4 * m + 2, m % 2 == 0)

/-- The neighbour on the grid `10 ^ k` that rounds to `m * 2 ^ e`, the nearer one if both do. -/
def onGrid (m : Nat) (e k : Int) : Option Nat :=
  let scale := Nat.pow 2 (e - 2).toNat * Nat.pow 10 (-k).toNat
  let step := Nat.pow 2 (2 - e).toNat * Nat.pow 10 k.toNat
  let value := 4 * m * scale
  let (low, high, closed) := interval m e
  let below := value / step
  let hits (x : Nat) : Bool :=
    if closed then low * scale ≤ x * step && x * step ≤ high * scale
    else low * scale < x * step && x * step < high * scale
  if hits below then
    if hits (below + 1) && Binary64.roundDiv value step == below + 1 then some (below + 1)
    else some below
  else if hits (below + 1) then some (below + 1) else none

/-- How many decimal places stand before the point; negative for zeros after it. -/
def places (m : Nat) (e : Int) : Int :=
  (Number.digits (m * Nat.pow 2 e.toNat * Nat.pow 10 400 / Nat.pow 2 (-e).toNat)).length - 400

/-- Tries grids from coarse to fine; seventeen digits always suffice. -/
def shortest (m : Nat) (e : Int) : Decimal :=
  let p := places m e
  ((List.range 17).findSome? fun (i : Nat) =>
    (onGrid m e (p - (i + 1))).map (⟨·, p - (i + 1)⟩)).getD ⟨0, 0⟩

/-- Point in place for numbers from 0.0001 to below 10 ^ 16, else one digit before the point
and an exponent of two digits or more. -/
def layout (ds : List Nat) (point : Int) : List Char :=
  let text (l : List Nat) : List Char := l.map digitChar
  let zeros (n : Int) : List Nat := List.replicate n.toNat 0
  if -4 < point ∧ point ≤ 0 then text [0] ++ '.' :: text (zeros (-point) ++ ds)
  else if 0 < point ∧ point ≤ 16 then
    if ds.length ≤ point then text (ds ++ zeros (point - ds.length)) ++ ['.', '0']
    else text (ds.take point.toNat) ++ '.' :: text (ds.drop point.toNat)
  else
    let exponent := point - 1
    text (ds.take 1) ++ (if ds.length > 1 then '.' :: text (ds.drop 1) else []) ++
      'e' :: (if exponent < 0 then '-' else '+') :: (padded 2 exponent.natAbs).toList

def text : Binary64 → String
  | .nan => "nan"
  | .infinite negative => if negative then "-inf" else "inf"
  | .finite negative m e =>
    let body :=
      if m = 0 then "0.0"
      else
        let d := shortest m e
        let ds := Number.digits d.digits
        let kept := (ds.reverse.dropWhile (· = 0)).reverse
        String.ofList (layout kept (ds.length + d.exponent))
    if negative then "-" ++ body else body

end Binary64

end HiveTable.Number
