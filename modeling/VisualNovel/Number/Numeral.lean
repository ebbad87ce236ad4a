import VisualNovel.Text.Blank
import VisualNovel.Text.Digit
import VisualNovel.Text.Lowercase

/-!
# Numbers in story text

How a literal becomes a number. Digits of any script are read by value, blanks at the ends are
dropped, and a single underscore may stand between two digits.
-/

namespace VisualNovel.Number

open Text

/-- The text of bytes that are all ASCII. -/
def asciiText? (data : List UInt8) : Option String :=
  if data.all (· < 0x80) then some (String.ofList (data.map fun b => Char.ofNat b.toNat)) else none

/-- The most digits that a whole number may be written with. -/
def maxDigits : Nat := 4300

/-- The blanks that may surround a numeral: all but the information separators. -/
def isNumeralBlank (c : Char) : Bool :=
  isBlank c && !(0x1C ≤ c.toNat && c.toNat ≤ 0x1F)

/-- A run of digits and where it ends. -/
structure DigitRun where
  value : Nat
  count : Nat
  rest : List Char

/-- The digits after a first one has been read. An underscore counts only before a digit. -/
def digitsAfter : (value count : Nat) → List Char → DigitRun
  | value, count, [] => ⟨value, count, []⟩
  | value, count, [c] =>
    match digitValue? c with
    | some d => ⟨value * 10 + d, count + 1, []⟩
    | none => ⟨value, count, [c]⟩
  | value, count, c :: c' :: rest =>
    match digitValue? c with
    | some d => digitsAfter (value * 10 + d) (count + 1) (c' :: rest)
    | none =>
      match c == '_', digitValue? c' with
      | true, some d => digitsAfter (value * 10 + d) (count + 1) rest
      | _, _ => ⟨value, count, c :: c' :: rest⟩

/-- A run of at least one digit at the start of the characters. -/
def digits? : List Char → Option DigitRun
  | [] => none
  | c :: rest => (digitValue? c).map fun d => digitsAfter d 1 rest

/-- A sign, if there is one, and what follows. -/
def takeSign : List Char → Bool × List Char
  | '-' :: rest => (true, rest)
  | '+' :: rest => (false, rest)
  | cs => (false, cs)

/-- The numeral without the blanks around it. -/
def bare (s : String) : List Char :=
  ((s.toList.dropWhile isNumeralBlank).reverse.dropWhile isNumeralBlank).reverse

/-- Reads a whole number. -/
def readInt? (s : String) : Option Int :=
  let (negative, cs) := takeSign (bare s)
  match digits? cs with
  | some ⟨n, count, []⟩ =>
    if maxDigits < count then none else some (if negative then -(n : Int) else n)
  | _ => none

/-- The value of a digit up to fifteen: a decimal digit of any script, or a letter up to `f`. -/
def hexDigit? (c : Char) : Option Nat :=
  match digitValue? c with
  | some d => some d
  | none => hexValue? c

/-- The value of hexadecimal digits, of which each but the first may follow a single underscore. -/
def hexFrom? : (value : Nat) → List Char → Option Nat
  | value, [] => some value
  | value, '_' :: c :: rest =>
    match hexDigit? c with
    | some d => hexFrom? (value * 16 + d) rest
    | none => none
  | value, c :: rest =>
    match hexDigit? c with
    | some d => hexFrom? (value * 16 + d) rest
    | none => none

/-- Reads a whole number in hexadecimal, with or without `0x` before its digits. An underscore may
follow the `0x`. -/
def readHex? (s : String) : Option Int :=
  let (negative, cs) := takeSign (bare s)
  let digits := match cs with
    | '0' :: 'x' :: '_' :: rest => rest
    | '0' :: 'X' :: '_' :: rest => rest
    | '0' :: 'x' :: rest => rest
    | '0' :: 'X' :: rest => rest
    | _ => cs
  match digits with
  | [] => none
  | '_' :: _ => none
  | digits => (hexFrom? 0 digits).map fun n => if negative then -(n : Int) else n

/-- The double nearest to `mantissa · 10 ^ exponent`. Far outside the range of doubles no power
is formed: the size of the mantissa in bits, at least 0.3 and at most 0.31 decimal digits each,
and the exponent decide alone. -/
def scaled (mantissa : Nat) (exponent : Int) : Float :=
  let bits := mantissa.log2
  if mantissa == 0 then 0.0
  else if 400 < exponent + (bits * 3 / 10 : Nat) then 1.0 / 0.0
  else if exponent + (bits * 31 / 100 : Nat) < -400 then 0.0
  else if exponent < 0 then Float.ofScientific mantissa true exponent.natAbs
  else Float.ofScientific mantissa false exponent.natAbs

/-- The digits after the point and what follows. -/
def takeFraction (whole : DigitRun) : List Char → DigitRun
  | '.' :: rest =>
    match rest with
    | c :: more =>
      match digitValue? c with
      | some d => digitsAfter (whole.value * 10 + d) (whole.count + 1) more
      | none => ⟨whole.value, whole.count, rest⟩
    | [] => ⟨whole.value, whole.count, []⟩
  | cs => ⟨whole.value, whole.count, cs⟩

/-- The exponent, which has to reach the end of the characters. -/
def takeExponent? : List Char → Option Int
  | [] => some 0
  | c :: rest =>
    if c == 'e' || c == 'E' then
      let (negative, cs) := takeSign rest
      match digits? cs with
      | some ⟨n, _, []⟩ => some (if negative then -(n : Int) else n)
      | _ => none
    else none

/-- Reads an unsigned decimal with at least one digit, on either side of the point. -/
def readUnsigned? (cs : List Char) : Option Float := do
  let whole := (digits? cs).getD ⟨0, 0, cs⟩
  let mantissa := takeFraction whole whole.rest
  if mantissa.count == 0 then none
  let exponent ← takeExponent? mantissa.rest
  return scaled mantissa.value (exponent - (mantissa.count - whole.count : Nat))

/-- Whether a word is one of the names of infinity. -/
def isInfinityWord (word : String) : Bool :=
  word == "inf" || word == "infinity"

/-- Reads a double: a decimal, or the word for infinity or for no number in any case. -/
def readFloat? (s : String) : Option Float := do
  let (negative, cs) := takeSign (bare s)
  let word := String.ofList (cs.map lowerChar)
  let ascii := cs.all fun c => c.toNat < 0x80
  let x ← if ascii && isInfinityWord word then some (1.0 / 0.0)
    else if ascii && word == "nan" then some (0.0 / 0.0)
    else readUnsigned? cs
  return if negative then -x else x

end VisualNovel.Number
