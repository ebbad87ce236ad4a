/-!
# Half characters

A text read from a file may hold half of a character that is written by a pair of codes. A half is
kept as a character of its own, from the middle of a plane in which no character is assigned. It
has a length and a place like any other, but a text that holds one cannot be written to a file.
-/

namespace VisualNovel.Text

/-- Whether a code is the first half of a pair. -/
def isHigh (n : Nat) : Bool :=
  0xD800 ≤ n && n ≤ 0xDBFF

/-- Whether a code is the second half of a pair. -/
def isLow (n : Nat) : Bool :=
  0xDC00 ≤ n && n ≤ 0xDFFF

/-- The character of a pair of halves. -/
def ofPair (high low : Nat) : Char :=
  Char.ofNat (0x10000 + (high - 0xD800) * 0x400 + (low - 0xDC00))

/-- How far behind a half the character lies that stands for it. -/
def halfShift : Nat := 0x90000

/-- The character of a code; a half is kept by the character that stands for it. -/
def ofCode (n : Nat) : Char :=
  if isHigh n || isLow n then Char.ofNat (n + halfShift) else Char.ofNat n

/-- The code of a half, if the character stands for one. -/
def half? (c : Char) : Option Nat :=
  let n := c.toNat - halfShift
  if halfShift ≤ c.toNat && (isHigh n || isLow n) then some n else none

/-- Whether a text holds no half and so can be written to a file. -/
def writable (s : String) : Bool :=
  s.toList.all fun c => (half? c).isNone

end VisualNovel.Text
