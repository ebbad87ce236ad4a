import VisualNovel.Number.Power

/-!
# Doubles as exact numbers

A finite double is a whole number times a power of two. Conversions between doubles and whole
numbers, and comparisons of the two, go through this exact form, so that no digit is lost on the
way.
-/

namespace VisualNovel.Number

/-- The number `± mantissa · 2 ^ exponent`. -/
structure Dyadic where
  negative : Bool
  mantissa : Nat
  exponent : Int
  deriving Repr, DecidableEq

/-- What the bits of a double stand for. -/
inductive Decoded where
  | finite (d : Dyadic)
  | infinite (negative : Bool)
  | nan
  deriving Repr, DecidableEq

/-- Reads the sign, exponent and fraction fields of a double. -/
def decode (x : Float) : Decoded :=
  let bits : Nat := x.toBits.toNat
  let negative := bits / twoTo 63 == 1
  let field : Nat := bits / twoTo 52 % twoTo 11
  let fraction : Nat := bits % twoTo 52
  if field == 2047 then
    if fraction == 0 then .infinite negative else .nan
  else if field == 0 then
    .finite { negative, mantissa := fraction, exponent := -1074 }
  else
    .finite { negative, mantissa := fraction + twoTo 52, exponent := (field : Int) - 1075 }

/-- The number with the given sign. -/
def signed (negative : Bool) (n : Nat) : Int :=
  if negative then -(n : Int) else n

namespace Dyadic

/-- The whole part, toward zero. -/
def trunc (d : Dyadic) : Int :=
  signed d.negative <|
    if 0 ≤ d.exponent then d.mantissa * twoTo d.exponent.toNat
    else d.mantissa / twoTo (-d.exponent).toNat

/-- The nearest whole number; a half goes to the even neighbour. -/
def round (d : Dyadic) : Int :=
  signed d.negative <|
    if 0 ≤ d.exponent then d.mantissa * twoTo d.exponent.toNat
    else
      let unit := twoTo (-d.exponent).toNat
      let whole := d.mantissa / unit
      let rest := d.mantissa % unit
      if 2 * rest < unit then whole
      else if unit < 2 * rest then whole + 1
      else if whole % 2 == 0 then whole else whole + 1

/-- How the number stands to a whole number. -/
def compareInt (d : Dyadic) (n : Int) : Ordering :=
  let m := signed d.negative d.mantissa
  if 0 ≤ d.exponent then compare (m * twoTo d.exponent.toNat) n
  else compare m (n * twoTo (-d.exponent).toNat)

end Dyadic

namespace Dyadic

/-- The number in units of `2 ^ unit`, where `unit` is at most its exponent. -/
def inUnits (d : Dyadic) (unit : Int) : Nat :=
  d.mantissa * twoTo (d.exponent - unit).toNat

end Dyadic

/-- What is left of a finite double after taking off a finite one, not zero, as often as it goes.
The result has the sign of the first, and no rounding takes place. -/
def remainder (x y : Dyadic) : Float :=
  let unit := min x.exponent y.exponent
  let left := x.inUnits unit % y.inUnits unit
  let size := Float.scaleB (Float.ofScientific left false 0) unit
  if x.negative then -size else size

/-- The remainder of a division whose quotient is rounded down; it has the sign of the divisor,
which is not zero. -/
def floorMod (x y : Float) : Float :=
  match decode x, decode y with
  | .finite a, .finite b =>
    let left := remainder a b
    if left == 0.0 then (if b.negative then -0.0 else 0.0)
    else if (left < 0.0) == b.negative then left
    else left + y
  | .finite a, .infinite negative => if x == 0.0 || a.negative == negative then x else y
  | _, _ => 0.0 / 0.0

/-- The double nearest to a whole number, if there is one in range. -/
def ofInt? (n : Int) : Option Float :=
  let x := Float.ofScientific n.natAbs false 0
  if x.isInf then none else some (if n < 0 then -x else x)

/-- How a double stands to a whole number; a number that is no number stands nowhere. -/
def compareFloatInt (x : Float) (n : Int) : Option Ordering :=
  match decode x with
  | .finite d => some (d.compareInt n)
  | .infinite negative => some (if negative then .lt else .gt)
  | .nan => none

/-- How two doubles stand to each other; the two zeros are equal. -/
def compareFloats (x y : Float) : Option Ordering :=
  if x < y then some .lt
  else if y < x then some .gt
  else if x == y then some .eq
  else none

end VisualNovel.Number
