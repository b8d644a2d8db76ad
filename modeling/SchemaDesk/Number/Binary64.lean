/-!
Binary floating-point numbers with 53 bits of precision, as exact values, and how a decimal is
rounded to one.
-/

namespace SchemaDesk

/-- A finite number is `± mantissa * 2 ^ exponent`. -/
inductive Binary64
  | finite (negative : Bool) (mantissa : Nat) (exponent : Int)
  | infinite (negative : Bool)
  deriving DecidableEq, Repr

namespace Binary64

def twoTo (n : Nat) : Nat := Nat.pow 2 n

def tenTo (n : Nat) : Nat := Nat.pow 10 n

/-- The exponent of the smallest positive number. -/
def minExponent : Int := -1074

/-- `num / den` rounded to the nearest integer, an exact half to the even neighbour. -/
def divNearest (num den : Nat) : Nat :=
  let q := num / den
  let r := num % den
  if 2 * r < den then q
  else if den < 2 * r then q + 1
  else if q % 2 == 0 then q else q + 1

/-- `num / den` times `2 ^ -exponent`, rounded to the nearest integer. -/
def scaled (num den : Nat) (exponent : Int) : Nat :=
  if 0 ≤ exponent then divNearest num (den * twoTo exponent.toNat)
  else divNearest (num * twoTo (-exponent).toNat) den

/-- The number nearest to `num / den`; `none` when it is too large. The exponent is chosen such that
the mantissa has 53 bits, and fewer only at the smallest exponent. -/
def magnitude? (num den : Nat) : Option (Nat × Int) :=
  let guess : Int := (Nat.log2 num : Int) - (Nat.log2 den : Int) - 53
  let exponent := max minExponent guess
  let m := scaled num den exponent
  let (m, exponent) :=
    if m < twoTo 53 then (m, exponent) else (scaled num den (exponent + 1), exponent + 1)
  let (m, exponent) := if m < twoTo 53 then (m, exponent) else (m / 2, exponent + 1)
  if 971 < exponent then none else some (m, exponent)

/-- The number nearest to `± digits * 10 ^ exponent`. Exponents far outside of the range of the
format are decided by the count of digits alone. -/
def ofDecimal (negative : Bool) (digits : Nat) (exponent : Int) : Binary64 :=
  let size := exponent + (Nat.toDigits 10 digits).length
  if digits = 0 || size < -330 then finite negative 0 minExponent
  else if 330 < size then infinite negative
  else
    let result := if 0 ≤ exponent then magnitude? (digits * tenTo exponent.toNat) 1
      else magnitude? digits (tenTo (-exponent).toNat)
    match result with
    | some (m, e) => finite negative m e
    | none => infinite negative

def ofInt (n : Int) : Binary64 := ofDecimal (n < 0) n.natAbs 0

def isZero : Binary64 → Bool
  | finite _ m _ => m == 0
  | infinite _ => false

/-- The integer that the number is equal to, if there is one. -/
def toInt? : Binary64 → Option Int
  | infinite _ => none
  | finite negative m e =>
    let sign : Int := if negative then -1 else 1
    if 0 ≤ e then some (sign * (m * twoTo e.toNat : Nat))
    else if m % twoTo (-e).toNat == 0 then some (sign * (m / twoTo (-e).toNat : Nat))
    else none

end Binary64

end SchemaDesk
