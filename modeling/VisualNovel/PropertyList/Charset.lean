import VisualNovel.Mishap
import VisualNovel.PropertyList.Charset.Names
import VisualNovel.PropertyList.Charset.Tables
import VisualNovel.Text.Digit
import VisualNovel.Text.Half

/-!
# Character sets of markup

How the bytes of a marked-up document become characters. A document starts in one of the Unicode
sets, and its declaration may name another one for what follows. What is no character in the set of
the document ends the reading there, and counts only after all that stands before it.
-/

namespace VisualNovel.PropertyList

/-- How bytes become characters. -/
inductive Charset where
  | utf8
  /-- Units of two bytes, the more significant one first or last. -/
  | utf16 (bigFirst : Bool)
  /-- One byte a character: ASCII, and the given characters from 128 on. -/
  | single (upper : String)
  deriving Repr, DecidableEq

/-- The characters of a row of bytes, and whether all bytes are part of one. -/
structure Decoded where
  chars : List Char
  whole : Bool

namespace Charset

open Text

/-- The value of a byte that goes on with a character. -/
def tailBits? (b : UInt8) : Option Nat :=
  if 0x80 ≤ b && b < 0xC0 then some (b.toNat - 0x80) else none

/-- The first character of bytes in the set of one to four bytes. Each character has one form, and
half characters have none. -/
def nextUtf8? : List UInt8 → Option (Char × List UInt8)
  | [] => none
  | a :: rest =>
    if a < 0x80 then some (Char.ofNat a.toNat, rest)
    else if a < 0xC2 then none
    else if a < 0xE0 then
      match rest with
      | b :: rest => do return (Char.ofNat ((a.toNat - 0xC0) * 64 + (← tailBits? b)), rest)
      | _ => none
    else if a < 0xF0 then
      match rest with
      | b :: c :: rest => do
        let n := ((a.toNat - 0xE0) * 64 + (← tailBits? b)) * 64 + (← tailBits? c)
        if n < 0x800 || isHigh n || isLow n then none else return (Char.ofNat n, rest)
      | _ => none
    else if a < 0xF5 then
      match rest with
      | b :: c :: d :: rest => do
        let n := (((a.toNat - 0xF0) * 64 + (← tailBits? b)) * 64 + (← tailBits? c)) * 64
          + (← tailBits? d)
        if n < 0x10000 || 0x110000 ≤ n then none else return (Char.ofNat n, rest)
      | _ => none
    else none

/-- The first unit of two bytes. -/
def nextUnit? (bigFirst : Bool) : List UInt8 → Option (Nat × List UInt8)
  | a :: b :: rest =>
    some (if bigFirst then a.toNat * 256 + b.toNat else b.toNat * 256 + a.toNat, rest)
  | _ => none

/-- The first character of bytes in units of two. Of the unit after a first half only the ten bits
that belong to a second half count. -/
def nextUtf16? (bigFirst : Bool) (bytes : List UInt8) : Option (Char × List UInt8) := do
  let (unit, rest) ← nextUnit? bigFirst bytes
  if isHigh unit then
    let (low, rest) ← nextUnit? bigFirst rest
    return (ofPair unit (0xDC00 + low % 0x400), rest)
  else if isLow unit then none
  else return (Char.ofNat unit, rest)

/-- The first character of bytes in a single-byte set. -/
def nextSingle? (upper : Array Char) : List UInt8 → Option (Char × List UInt8)
  | [] => none
  | b :: rest =>
    if b < 0x80 then some (Char.ofNat b.toNat, rest)
    else
      match upper[b.toNat - 0x80]? with
      | some c => if c.toNat == 0xFFFD then none else some (c, rest)
      | none => none

/-- The characters of bytes, one after the other; `seen` holds those before, last first. The fuel
is the number of the bytes. -/
def decodeBy (next : List UInt8 → Option (Char × List UInt8)) :
    (fuel : Nat) → (seen : List Char) → List UInt8 → Decoded
  | _, seen, [] => ⟨seen.reverse, true⟩
  | 0, seen, _ => ⟨seen.reverse, false⟩
  | fuel + 1, seen, bytes =>
    match next bytes with
    | some (c, rest) => decodeBy next fuel (c :: seen) rest
    | none => ⟨seen.reverse, false⟩

/-- The characters of bytes in a set. -/
def decode (set : Charset) (bytes : List UInt8) : Decoded :=
  match set with
  | utf8 => decodeBy nextUtf8? bytes.length [] bytes
  | utf16 bigFirst => decodeBy (nextUtf16? bigFirst) bytes.length [] bytes
  | single upper => decodeBy (nextSingle? upper.toList.toArray) bytes.length [] bytes

/-- How many bytes an ASCII character takes. -/
def width : Charset → Nat
  | utf16 _ => 2
  | _ => 1

/-- The name in lower case, with an underscore for each run of dashes and underscores in it. -/
def normalName (name : String) : String :=
  let words := (name.toList.map Char.toLower).splitBy fun a b => isMark a == isMark b
  let kept := words.filter fun w => !w.any isMark
  "_".intercalate (kept.map String.ofList)
where
  /-- A dash or an underscore. -/
  isMark (c : Char) : Bool := c == '-' || c == '_'

/-- Whether a name is one of the names or aliases. In an alias a point may stand for a dash. -/
def isNamed (name : String) (names aliases : List String) : Bool :=
  let undotted := String.ofList (name.toList.map fun c => if c == '.' then '_' else c)
  names.contains name || aliases.contains name || aliases.contains undotted

/-- The set of a name that is not one of those that every document may use. -/
def lookup (name : String) : Except Mishap Charset :=
  let name := normalName name
  match tables.find? fun t => isNamed name t.names t.aliases with
  | some t => .ok (.single t.upper)
  | none =>
    if isNamed name severalNames severalAliases then .error .badValue
    else if isNamed name foreignNames foreignAliases then .error .badMarkup
    else .error .unknownEncoding

/-- The set that a document goes on in after it has named one. The Unicode sets have to be the one
that it started in, and a document in units of two bytes cannot go on in single bytes. -/
def declared (before : Charset) (name : String) : Except Mishap Charset :=
  let same (set : Charset) : Except Mishap Charset :=
    if before.width == set.width then .ok set else .error .badMarkup
  match String.ofList (name.toList.map Char.toLower) with
  | "utf-8" => same .utf8
  | "iso-8859-1" => same (.single plainUpper)
  | "us-ascii" => same (.single noUpper)
  | "utf-16" => if before.width == 2 then .ok before else .error .badMarkup
  | "utf-16be" => if before == .utf16 true then .ok before else .error .badMarkup
  | "utf-16le" => if before == .utf16 false then .ok before else .error .badMarkup
  | _ => lookup name

end Charset

end VisualNovel.PropertyList
