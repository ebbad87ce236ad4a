import VisualNovel.PropertyList.NameChar
import VisualNovel.Text.Digit

/-!
# Pieces of markup

The small pieces that tags and declarations are made of: names, blanks, fixed words, literals,
references, comments and instructions.
-/

namespace VisualNovel.PropertyList

open Text

/-- A blank between the parts of a tag. -/
def isGap (c : Char) : Bool :=
  c == ' ' || c == '\n' || c == '\t' || c == '\r'

/-- A character that a document may hold. -/
def isAllowed (c : Char) : Bool :=
  let n := c.toNat
  n == 9 || n == 10 || n == 13 || (0x20 ≤ n && n != 0xFFFE && n != 0xFFFF)

/-- A name at the start of the characters. -/
def name? (cs : List Char) : Option (String × List Char) :=
  match cs with
  | c :: _ =>
    if startsName c then
      let (name, rest) := cs.span inName
      some (String.ofList name, rest)
    else none
  | [] => none

/-- What follows a fixed word. -/
def afterWord? : (word : List Char) → List Char → Option (List Char)
  | [], cs => some cs
  | w :: word, c :: cs => if w == c then afterWord? word cs else none
  | _ :: _, [] => none

/-- What stands before a fixed word and what follows it. -/
def splitAtWord? (word : List Char) : List Char → Option (List Char × List Char)
  | [] => none
  | c :: cs =>
    match afterWord? word (c :: cs) with
    | some rest => some ([], rest)
    | none => (splitAtWord? word cs).map fun (before, rest) => (c :: before, rest)

/-- Line ends of all kinds become new lines. -/
def unifyLines : List Char → List Char
  | [] => []
  | '\r' :: '\n' :: rest => '\n' :: unifyLines rest
  | '\r' :: rest => '\n' :: unifyLines rest
  | c :: rest => c :: unifyLines rest

/-- The character that a reference by number stands for. -/
def numbered? (cs : List Char) : Option Char := do
  let n ← match cs with
    | 'x' :: digits =>
      if digits.isEmpty then none
      else digits.foldl (fun acc c => do return (← acc) * 16 + (← hexValue? c)) (some 0)
    | digits =>
      if digits.isEmpty || !digits.all isPlainDigit then none
      else some (digits.foldl (fun n c => n * 10 + (c.toNat - 48)) 0)
  if n < 0x110000 && !(0xD800 ≤ n && n ≤ 0xDFFF) && isAllowed (Char.ofNat n) then
    return Char.ofNat n
  else none

/-- What a reference, without its `&`, stands for, and what follows. A name that the document does
not know is dropped when the document points to declarations elsewhere. -/
def reference? (elsewhere : Bool) (cs : List Char) : Option (List Char × List Char) := do
  let (body, rest) ← splitAtWord? [';'] cs
  match body with
  | '#' :: digits => return ([← numbered? digits], rest)
  | _ =>
    match String.ofList body with
    | "amp" => return (['&'], rest)
    | "lt" => return (['<'], rest)
    | "gt" => return (['>'], rest)
    | "apos" => return (['\''], rest)
    | "quot" => return (['"'], rest)
    | _ =>
      match name? body with
      | some (_, []) => if elsewhere then return ([], rest) else none
      | _ => none

/-- Whether every reference in an attribute's value has a meaning. -/
def referencesFine (elsewhere : Bool) : (fuel : Nat) → List Char → Bool
  | 0, _ => false
  | _, [] => true
  | fuel + 1, '&' :: rest =>
    match reference? elsewhere rest with
    | some (_, rest) => referencesFine elsewhere fuel rest
    | none => false
  | fuel + 1, _ :: rest => referencesFine elsewhere fuel rest

/-- What follows a blank of any length. -/
def afterGap? (cs : List Char) : Option (List Char) :=
  match cs with
  | c :: rest => if isGap c then some (rest.dropWhile isGap) else none
  | [] => none

/-- What follows a comment after its opening. Two dashes only end it. -/
def afterComment? (cs : List Char) : Option (List Char) := do
  let (body, rest) ← splitAtWord? ['-', '-'] cs
  if body.all isAllowed then afterWord? ['>'] rest else none

/-- What follows an instruction after its opening: a target, and after a blank anything up to the
end. The target of the declaration that a document starts with is no target. -/
def afterInstruction? (cs : List Char) : Option (List Char) := do
  let (target, rest) ← name? cs
  if target.toLower == "xml" then none
  match afterWord? ['?', '>'] rest with
  | some rest => return rest
  | none =>
    let (body, rest) ← splitAtWord? ['?', '>'] (← afterGap? rest)
    if body.all isAllowed then return rest else none

end VisualNovel.PropertyList
