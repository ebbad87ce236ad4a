import VisualNovel.Number.Dyadic
import VisualNovel.Number.Numeral
import VisualNovel.Value.Basic

/-!
# Values as numbers

Conversions of values to numbers, arithmetic and comparison. The truth values count as one and
zero. An operation on a whole number and a double works on doubles, but a comparison of the two is
exact.
-/

namespace VisualNovel.Value

open Number

/-- A number, as arithmetic sees it. -/
inductive Numeric where
  | whole (n : Int)
  | real (x : Float)

/-- The number that a value is. -/
def numeric? : Value → Option Numeric
  | bool b => some (.whole (if b then 1 else 0))
  | int n => some (.whole n)
  | float x => some (.real x)
  | nan _ => some (.real (0.0 / 0.0))
  | _ => none

/-- Where a value comes from, if it is a number that is no number. -/
def origin? : Value → Option Origin
  | nan o => some o
  | _ => none

/-- The origin of what comes out of arithmetic on two values. -/
def originAfter (a b : Value) : Origin :=
  match a.origin?, b.origin? with
  | some o, _ => .after o
  | none, some o => .after o
  | none, none => .computed

/-- A whole number as a double. -/
def toReal (n : Int) : Except Mishap Float :=
  match ofInt? n with
  | some x => .ok x
  | none => .error .overflow

/-- The number as a double. -/
def Numeric.asReal : Numeric → Except Mishap Float
  | .whole n => toReal n
  | .real x => .ok x

/-- The whole part of a double. -/
def truncate (x : Float) : Except Mishap Int :=
  match decode x with
  | .finite d => .ok d.trunc
  | .infinite _ => .error .overflow
  | .nan => .error .badValue

/-- The nearest whole number to a double, a half going to the even neighbour. -/
def nearest (x : Float) : Except Mishap Int :=
  match decode x with
  | .finite d => .ok d.round
  | .infinite _ => .error .overflow
  | .nan => .error .badValue

/-- The value as a whole number: doubles lose their fraction, texts are read, and so are bytes, of
which only ASCII counts. -/
def toInt : Value → Except Mishap Int
  | bool b => .ok (if b then 1 else 0)
  | int n => .ok n
  | float x => truncate x
  | nan _ => .error .badValue
  | text s =>
    match readInt? s with
    | some n => .ok n
    | none => .error .badValue
  | bytes data =>
    match (asciiText? data).bind readInt? with
    | some n => .ok n
    | none => .error .badValue
  | uid n => .ok n
  | _ => .error .wrongType

/-- The value as a double: whole numbers are rounded, texts and bytes are read. -/
def toFloat : Value → Except Mishap Float
  | bool b => .ok (if b then 1.0 else 0.0)
  | int n => toReal n
  | float x => .ok x
  | nan _ => .ok (0.0 / 0.0)
  | text s =>
    match readFloat? s with
    | some x => .ok x
    | none => .error .badValue
  | bytes data =>
    match (asciiText? data).bind readFloat? with
    | some x => .ok x
    | none => .error .badValue
  | uid n => toReal n
  | _ => .error .wrongType

/-- The nearest whole number to a number. -/
def round : Value → Except Mishap Int
  | bool b => .ok (if b then 1 else 0)
  | int n => .ok n
  | float x => nearest x
  | nan _ => .error .badValue
  | _ => .error .wrongType

/-- The operation on whole numbers, or on doubles when either side is one. -/
def combine (onInts : Int → Int → Int) (onFloats : Float → Float → Float) (a b : Value) :
    Except Mishap Value :=
  match a.numeric?, b.numeric? with
  | some (.whole m), some (.whole n) => .ok (int (onInts m n))
  | some x, some y => do return ofFloat (onFloats (← x.asReal) (← y.asReal)) (originAfter a b)
  | _, _ => .error .wrongType

/-- The sum of two numbers, or two texts or lists one after the other. -/
def add (a b : Value) : Except Mishap Value :=
  match a, b with
  | text s, text t => .ok (text (s ++ t))
  | list xs, list ys => .ok (list (xs ++ ys))
  | a, b => combine (· + ·) (· + ·) a b

/-- The difference of two numbers. -/
def sub (a b : Value) : Except Mishap Value :=
  combine (· - ·) (· - ·) a b

/-- The remainder of a division whose quotient is rounded down. The divisor is not zero. -/
def rem (a b : Value) : Except Mishap Value :=
  combine Int.fmod floorMod a b

/-- The number with the other sign. -/
def neg (a : Value) : Except Mishap Value :=
  match a with
  | nan o => .ok (nan (.after o))
  | float x => .ok (float (-x))
  | a => do
    match a.numeric? with
    | some (.whole n) => return int (-n)
    | _ => throw .wrongType

/-- A text or list several times over. -/
def repeated (v : Value) (times : Int) : Except Mishap Value :=
  match v with
  | text s => .ok (text (String.join (List.replicate times.toNat s)))
  | list xs => .ok (list (List.replicate times.toNat xs).flatten)
  | _ => .error .wrongType

/-- The product of two numbers, or a text or list repeated. -/
def mul (a b : Value) : Except Mishap Value :=
  match a.numeric?, b.numeric? with
  | some (.whole n), none => b.repeated n
  | none, some (.whole n) => a.repeated n
  | _, _ => combine (· * ·) (· * ·) a b

/-- The number of parts of a value that has parts. -/
def size : Value → Except Mishap Nat
  | text s => .ok s.length
  | list items => .ok items.length
  | record fs => .ok fs.length
  | bytes data => .ok data.length
  | _ => .error .wrongType

/-- The first so many parts of a value whose parts stand in a row. -/
def front (v : Value) (count : Nat) : Except Mishap Value :=
  match v with
  | text s => .ok (text (String.ofList (s.toList.take count)))
  | list items => .ok (list (items.take count))
  | bytes data => .ok (bytes (data.take count))
  | _ => .error .wrongType

/-- The whole number that a value is, if it is one without having to be converted. -/
def whole? : Value → Option Int
  | bool b => some (if b then 1 else 0)
  | int n => some n
  | _ => none

/-- A whole number that a value has to be. -/
def asWhole (v : Value) : Except Mishap Int :=
  match v.whole? with
  | some n => .ok n
  | none => .error .wrongType

/-- The place in a row of so many items that a number stands for; a negative one counts from the
end. -/
def placeIn (length : Nat) (n : Int) : Except Mishap Nat :=
  let place := if n < 0 then n + length else n
  if 0 ≤ place && place < length then .ok place.toNat else .error .badIndex

/-- The items with another one at a place. -/
def setItem (items : List Value) (index item : Value) : Except Mishap (List Value) := do
  return items.set (← placeIn items.length (← index.asWhole)) item

/-- The value as a double, which a double already is. -/
def asFloat (v : Value) : Except Mishap Value :=
  match v with
  | nan o => .ok (nan o)
  | v => do return ofFloat (← v.toFloat)

/-- How two numbers stand to each other. -/
def compareNumeric : Numeric → Numeric → Option Ordering
  | .whole m, .whole n => some (compare m n)
  | .real x, .real y => compareFloats x y
  | .real x, .whole n => compareFloatInt x n
  | .whole m, .real y => (compareFloatInt y m).map Ordering.swap

/-- Whether one value is less than another. Numbers have an order and so have texts; no other two
values are compared in a story. -/
def less (a b : Value) : Except Mishap Bool :=
  match a.numeric?, b.numeric? with
  | some x, some y => .ok (compareNumeric x y == some .lt)
  | _, _ =>
    match a, b with
    | text s, text t => .ok (decide (s < t))
    | _, _ => .error .wrongType

/-- Whether a number is at most another one. -/
def atMost (a b : Value) : Except Mishap Bool :=
  match a.numeric?, b.numeric? with
  | some x, some y =>
    let order := compareNumeric x y
    .ok (order == some .lt || order == some .eq)
  | _, _ => .error .wrongType

/-- The value as a double divided by another one. -/
def dividedBy (a : Value) (x : Float) : Except Mishap Float :=
  match a.numeric? with
  | some n => do return (← n.asReal) / x
  | none => .error .wrongType

/-- Whether one value is greater than another. -/
def greater (a b : Value) : Except Mishap Bool :=
  less b a

/-- The greater of two values, the first if they are alike. -/
def largest (a b : Value) : Except Mishap Value := do
  if ← greater b a then return b else return a

/-- The lesser of two values, the first if they are alike. -/
def smallest (a b : Value) : Except Mishap Value := do
  if ← less b a then return b else return a

/-- A value moved into the stretch from zero to a number. -/
def clamped (v high : Value) : Except Mishap Value := do
  largest (int 0) (← smallest v high)

end VisualNovel.Value
