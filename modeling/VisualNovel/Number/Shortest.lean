import VisualNovel.Number.Dyadic
import VisualNovel.Number.Power

/-!
# The shortest decimal of a double

The digits written for a double are the fewest that read back as it, and of those the nearest to
it. The reals that read back as `m · 2 ^ e` form an interval around it that ends half way to its
two neighbours; the ends belong to it when `m` is even, because reading sends a tie to the even
mantissa. For one digit, two digits and so on, the value's two neighbours on that decimal grid are
tried against the interval.
-/

namespace VisualNovel.Number

/-- The number `digits · 10 ^ scale`. -/
structure Decimal where
  digits : Nat
  scale : Int
  deriving Repr, DecidableEq

/-- The decimal without the zeros at its end; the fuel is the number of its digits. -/
def Decimal.dropZeros : (fuel : Nat) → Decimal → Decimal
  | 0, d => d
  | fuel + 1, d =>
    if d.digits != 0 && d.digits % 10 == 0 then
      dropZeros fuel ⟨d.digits / 10, d.scale + 1⟩
    else d

/-- The number of decimal digits. -/
def digitCount (n : Nat) : Nat :=
  (Nat.toDigits 10 n).length

/-- The exponent `k` with `10 ^ (k - 1) ≤ num / den < 10 ^ k`, for a positive quotient. -/
def magnitude (num den : Nat) : Int :=
  if den ≤ num then digitCount (num / den)
  else
    let j := digitCount (den / num) - 1
    if den ≤ num * tenTo j then 1 - (j : Int) else -(j : Int)

/-- The interval of the reals that read back as a double, scaled by `den`. -/
structure Rounding where
  den : Nat
  low : Nat
  value : Nat
  high : Nat
  closed : Bool

/-- The interval of a positive mantissa and exponent. The gap below a power of two is half the gap
above it, except at the bottom of the range. -/
def Rounding.of (m : Nat) (e : Int) : Rounding :=
  let narrow := m == twoTo 52 && -1074 < e
  let up := twoTo e.toNat
  let den := 4 * twoTo (-e).toNat
  let value := 4 * m * up
  { den, value
    low := value - (if narrow then up else 2 * up)
    high := value + 2 * up
    closed := m % 2 == 0 }

/-- Whether `n · 10 ^ q` lies in the interval. -/
def Rounding.contains (r : Rounding) (n : Nat) (q : Int) : Bool :=
  let left := n * tenTo q.toNat * r.den
  let down := tenTo (-q).toNat
  if r.closed then r.low * down ≤ left && left ≤ r.high * down
  else r.low * down < left && left < r.high * down

/-- Tries the grids with `width`, `width + 1`, … digits, `tries` of them, for a value whose
magnitude is `k`. -/
def Rounding.search (r : Rounding) (k : Int) : (tries width : Nat) → Decimal
  | 0, _ => ⟨0, 0⟩
  | tries + 1, width =>
    let q := k - width
    let num := r.value * tenTo (-q).toNat
    let den := r.den * tenTo q.toNat
    let below := num / den
    let rest := num % den
    let hitBelow := r.contains below q
    let hitAbove := r.contains (below + 1) q
    let nearerBelow := 2 * rest < den || (2 * rest == den && below % 2 == 0)
    if hitBelow && (nearerBelow || !hitAbove) then ⟨below, q⟩
    else if hitAbove then ⟨below + 1, q⟩
    else r.search k tries (width + 1)

/-- The shortest decimal of a positive number `m · 2 ^ e`. -/
def shortest (m : Nat) (e : Int) : Decimal :=
  let r := Rounding.of m e
  (r.search (magnitude r.value r.den) 17 1).dropZeros 20

/-- How a double is laid out in text. -/
structure FloatStyle where
  /-- The least decimal exponent that is written without an exponent. -/
  least : Int
  /-- The greatest decimal exponent that is written without an exponent. -/
  greatest : Int
  /-- The least number of digits of a written exponent. -/
  exponentWidth : Nat

/-- A run of zeros. -/
def zeros (n : Nat) : List Char :=
  List.replicate n '0'

/-- The text of a decimal, whose first digit stands at `10 ^ (point - 1)`. -/
def FloatStyle.layOut (style : FloatStyle) (d : Decimal) : List Char :=
  let ds := Nat.toDigits 10 d.digits
  let point : Int := ds.length + d.scale
  if style.least ≤ point - 1 && point - 1 ≤ style.greatest then
    if point ≤ 0 then ['0', '.'] ++ zeros (-point).toNat ++ ds
    else if ds.length ≤ point.toNat then ds ++ zeros (point.toNat - ds.length) ++ ['.', '0']
    else ds.take point.toNat ++ ['.'] ++ ds.drop point.toNat
  else
    let mark := if point - 1 < 0 then '-' else '+'
    let power := Nat.toDigits 10 (point - 1).natAbs
    let mantissa := match ds with
      | [] => []
      | [c] => [c]
      | c :: rest => c :: '.' :: rest
    mantissa ++ ['e', mark] ++ zeros (style.exponentWidth - power.length) ++ power

/-- Doubles are positional from `0.0001` up to below `10 ^ 16`, always with a point; otherwise they
have an exponent of at least two digits. -/
def storyStyle : FloatStyle := { least := -4, greatest := 15, exponentWidth := 2 }

/-- The text of a double. -/
def floatText (x : Float) : String :=
  match decode x with
  | .nan => "nan"
  | .infinite negative => if negative then "-inf" else "inf"
  | .finite d =>
    let sign := if d.negative then ['-'] else []
    let body := if d.mantissa == 0 then ['0', '.', '0']
      else storyStyle.layOut (shortest d.mantissa d.exponent)
    String.ofList (sign ++ body)

end VisualNovel.Number
