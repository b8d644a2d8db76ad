import SchemaDesk.Number.Binary64
import SchemaDesk.Text.Digit
/-!
Numbers written with the fewest digits that read back as the same number.
-/

namespace SchemaDesk.Binary64

/-- A number and the interval of reals that round to it, all over one denominator. -/
structure Rounding where
  low : Nat
  value : Nat
  high : Nat
  den : Nat
  /-- The ends of the interval round to the number as well. -/
  closed : Bool

/-- The interval is half as wide below a power of two. -/
def rounding (m : Nat) (e : Int) : Rounding :=
  let unit := twoTo e.toNat
  let below := if m == twoTo 52 && minExponent < e then 1 else 2
  { low := (4 * m - below) * unit
    value := 4 * m * unit
    high := (4 * m + 2) * unit
    den := 4 * twoTo (-e).toNat
    closed := m % 2 == 0 }

namespace Rounding

/-- The number of digits before the decimal point, negative by the count of zeros behind it. -/
def point (r : Rounding) : Int :=
  if r.den ≤ r.value then (Nat.toDigits 10 (r.value / r.den)).length
  else match (List.range 400).find? fun j => r.den ≤ r.value * tenTo (j + 1) with
    | some j => -j
    | none => 0

/-- The ends of the interval and the value as multiples of `10 ^ q`, over one denominator. -/
def onGrid (r : Rounding) (q : Int) : Rounding :=
  if 0 ≤ q then { r with den := r.den * tenTo q.toNat }
  else
    let k := tenTo (-q).toNat
    { r with low := r.low * k, value := r.value * k, high := r.high * k }

def holds (r : Rounding) (c : Nat) : Bool :=
  if r.closed then r.low ≤ c * r.den && c * r.den ≤ r.high
  else r.low < c * r.den && c * r.den < r.high

/-- The grid point that rounds to the number; of two, the nearer one, and of two equally near the
even one. -/
def gridPoint? (r : Rounding) : Option Nat :=
  let c := r.value / r.den
  let down := r.value - c * r.den
  let up := (c + 1) * r.den - r.value
  match r.holds c, r.holds (c + 1) with
  | true, true => some (if down < up || (down == up && c % 2 == 0) then c else c + 1)
  | true, false => some c
  | false, true => some (c + 1)
  | false, false => none

/-- The shortest digits and the position of the decimal point. -/
def digits (r : Rounding) : List Char × Int :=
  let k := r.point
  let found := (List.range 17).findSome? fun (n : Nat) =>
    (r.onGrid (k - (n + 1 : Nat))).gridPoint?.map fun c => (c, n + 1)
  match found with
  | some (c, n) =>
    let cs := Nat.toDigits 10 c
    let trimmed := (cs.reverse.dropWhile (· == '0')).reverse
    (trimmed, k + ((cs.length : Int) - (n : Int)))
  | none => (['0'], 1)

end Rounding

/-- Scientific notation has an exponent of two digits at least. -/
def scientific (ds : List Char) (exponent : Int) : List Char :=
  let mantissa := match ds with
    | [] => ['0']
    | [d] => [d]
    | d :: rest => d :: '.' :: rest
  let e := Nat.toDigits 10 exponent.natAbs
  mantissa ++ ['e', if exponent < 0 then '-' else '+'] ++
    (if e.length < 2 then '0' :: e else e)

/-- Positional notation has a digit at least on both sides of the decimal point. -/
def positional (ds : List Char) (point : Int) : List Char :=
  if point ≤ 0 then '0' :: '.' :: List.replicate (-point).toNat '0' ++ ds
  else
    let n := point.toNat
    if ds.length ≤ n then ds ++ List.replicate (n - ds.length) '0' ++ ['.', '0']
    else ds.take n ++ '.' :: ds.drop n

/-- The shortest text of a number: positional from `0.0001` to below `10 ^ 16`, scientific outside. -/
def text : Binary64 → String
  | infinite negative => if negative then "-inf" else "inf"
  | finite negative m e =>
    let body :=
      if m == 0 then ['0', '.', '0']
      else
        let (ds, point) := (rounding m e).digits
        if -4 < point && point ≤ 16 then positional ds point else scientific ds (point - 1)
    String.ofList (if negative then '-' :: body else body)

end SchemaDesk.Binary64
