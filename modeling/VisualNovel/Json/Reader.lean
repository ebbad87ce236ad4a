import VisualNovel.Number.Numeral
import VisualNovel.Text.Half
import VisualNovel.Value.Key

/-!
# Reading JSON

Objects keep the order of their keys; of a repeated key the first place and the last value count.
Besides the standard's numbers there are `NaN`, `Infinity` and `-Infinity`. A number with neither
fraction nor exponent is whole, of any size up to the limit on digits.
-/

namespace VisualNovel.Json

open Text Number

/-- A blank between two tokens. -/
def isSpace (c : Char) : Bool :=
  c == ' ' || c == '\n' || c == '\t' || c == '\r'

/-- The characters from the next token on. -/
def skipSpace (cs : List Char) : List Char :=
  cs.dropWhile isSpace

/-- What follows a fixed word. -/
def after? : (word : List Char) → List Char → Option (List Char)
  | [], cs => some cs
  | w :: word, c :: cs => if w == c then after? word cs else none
  | _ :: _, [] => none

/-- The code written by four hexadecimal digits. -/
def unit? : List Char → Option (Nat × List Char)
  | a :: b :: c :: d :: rest => do
    let high := (← hexValue? a) * 16 + (← hexValue? b)
    let low := (← hexValue? c) * 16 + (← hexValue? d)
    return (high * 256 + low, rest)
  | _ => none

/-- The character of an escape by code, with its second half if there is one. -/
def codeEscape? (cs : List Char) : Option (Char × List Char) := do
  let (high, rest) ← unit? cs
  match isHigh high, after? ['\\', 'u'] rest with
  | true, some more =>
    match unit? more with
    | some (low, rest') =>
      if isLow low then return (ofPair high low, rest') else return (ofCode high, rest)
    | none => return (ofCode high, rest)
  | _, _ => return (ofCode high, rest)

/-- The character of an escape, after its backslash. -/
def escape? : List Char → Option (Char × List Char)
  | '"' :: rest => some ('"', rest)
  | '\\' :: rest => some ('\\', rest)
  | '/' :: rest => some ('/', rest)
  | 'b' :: rest => some (Char.ofNat 8, rest)
  | 'f' :: rest => some (Char.ofNat 12, rest)
  | 'n' :: rest => some ('\n', rest)
  | 'r' :: rest => some ('\r', rest)
  | 't' :: rest => some ('\t', rest)
  | 'u' :: rest => codeEscape? rest
  | _ => none

/-- The rest of a text after its opening quote; `seen` holds what was read, last first. The fuel is
more than the number of the characters. -/
def textFrom : (fuel : Nat) → (seen : List Char) → List Char → Option (String × List Char)
  | 0, _, _ => none
  | _, _, [] => none
  | _ + 1, seen, '"' :: rest => some (String.ofList seen.reverse, rest)
  | fuel + 1, seen, '\\' :: rest => do
    let (c, rest) ← escape? rest
    textFrom fuel (c :: seen) rest
  | fuel + 1, seen, c :: rest => if c.toNat < 0x20 then none else textFrom fuel (c :: seen) rest

/-- The digits at the start of the characters. -/
def plainDigits (cs : List Char) : List Char × List Char :=
  cs.span isPlainDigit

/-- The digits of the whole part: a zero on its own, or digits that start with another one. -/
def wholePart? : List Char → Option (List Char × List Char)
  | '0' :: rest => some (['0'], rest)
  | cs =>
    match plainDigits cs with
    | ([], _) => none
    | found => some found

/-- The digits after a point, if there are any. -/
def fractionPart : List Char → List Char × List Char
  | '.' :: rest =>
    match plainDigits rest with
    | ([], _) => ([], '.' :: rest)
    | found => found
  | cs => ([], cs)

/-- The exponent after its mark, if it has digits. -/
def exponentPart (cs : List Char) : Option Int × List Char :=
  match cs with
  | c :: rest =>
    if c == 'e' || c == 'E' then
      let (negative, digits) := takeSign rest
      match plainDigits digits with
      | ([], _) => (none, cs)
      | (ds, rest) => (some (signedOf negative ds), rest)
    else (none, cs)
  | [] => (none, [])
where
  /-- The digits as a number with its sign. -/
  signedOf (negative : Bool) (ds : List Char) : Int :=
    let n := natOf ds
    if negative then -(n : Int) else n
  /-- The digits as a number. -/
  natOf (ds : List Char) : Nat :=
    ds.foldl (fun n c => n * 10 + (c.toNat - 48)) 0

/-- A number. -/
def number? (cs : List Char) : Option (Value × List Char) := do
  let (negative, body) := match cs with
    | '-' :: rest => (true, rest)
    | _ => (false, cs)
  let (whole, rest) ← wholePart? body
  let (fraction, rest) := fractionPart rest
  let (exponent, rest) := exponentPart rest
  let n := exponentPart.natOf (whole ++ fraction)
  match fraction, exponent with
  | [], none =>
    if maxDigits < whole.length then none
    else return (.int (if negative then -(n : Int) else n), rest)
  | _, _ =>
    let x := scaled n (exponent.getD 0 - fraction.length)
    return (.float (if negative then -x else x), rest)

/-- A fixed word that stands for a value. -/
def word? (cs : List Char) : Option (Value × List Char) :=
  let named (word : String) (v : Value) := (after? word.toList cs).map fun rest => (v, rest)
  named "null" .null <|> named "true" (.bool true) <|> named "false" (.bool false)
    <|> named "NaN" (.nan .file) <|> named "Infinity" (.float (1.0 / 0.0))
    <|> named "-Infinity" (.float (-1.0 / 0.0))

/-- How deep lists and objects may lie in each other. -/
def maxDepth : Nat := 990

/-- A result that has to be there. -/
def found {α : Type} (r : Option α) : Except Mishap α :=
  match r with
  | some a => .ok a
  | none => .error .badValue

mutual

/-- A value at the start of the characters, where `room` more lists and objects may be opened. The
fuel is more than twice the number of the characters, since each bracket takes two. -/
def value : (fuel room : Nat) → List Char → Except Mishap (Value × List Char)
  | 0, _, _ => .error .badValue
  | fuel + 1, room, cs =>
    match cs with
    | '"' :: rest => do
      let (s, rest) ← found (textFrom fuel [] rest)
      return (.text s, rest)
    | '[' :: rest =>
      match room with
      | 0 => .error .endless
      | room + 1 =>
        match skipSpace rest with
        | ']' :: rest => .ok (.list [], rest)
        | _ => items fuel room [] rest
    | '\x7b' :: rest =>
      match room with
      | 0 => .error .endless
      | room + 1 =>
        match skipSpace rest with
        | '\x7d' :: rest => .ok (.record [], rest)
        | _ => members fuel room [] rest
    | _ => found (word? cs <|> number? cs)

/-- The items of a list up to its end; `seen` holds those before, last first. -/
def items : (fuel room : Nat) → (seen : List Value) → List Char →
    Except Mishap (Value × List Char)
  | 0, _, _, _ => .error .badValue
  | fuel + 1, room, seen, cs => do
    let (v, rest) ← value fuel room (skipSpace cs)
    match skipSpace rest with
    | ',' :: rest => items fuel room (v :: seen) rest
    | ']' :: rest => return (.list (v :: seen).reverse, rest)
    | _ => throw .badValue

/-- The members of an object up to its end; `seen` holds those before, last first. -/
def members : (fuel room : Nat) → (seen : List (Value × Value)) → List Char →
    Except Mishap (Value × List Char)
  | 0, _, _, _ => .error .badValue
  | fuel + 1, room, seen, cs => do
    let opened ← found (after? ['"'] (skipSpace cs))
    let (key, rest) ← found (textFrom fuel [] opened)
    let colon ← found (after? [':'] (skipSpace rest))
    let (v, rest) ← value fuel room (skipSpace colon)
    match skipSpace rest with
    | ',' :: rest => members fuel room ((.text key, v) :: seen) rest
    | '\x7d' :: rest => return (.record (Table.ofEntries ((.text key, v) :: seen).reverse), rest)
    | _ => throw .badValue

end

/-- Reads a document that holds one value and nothing else. -/
def read (s : String) : Except Mishap Value := do
  let cs := s.toList
  let (v, rest) ← value (2 * cs.length + 1) maxDepth (skipSpace cs)
  if (skipSpace rest).isEmpty then return v else throw .badValue

end VisualNovel.Json
