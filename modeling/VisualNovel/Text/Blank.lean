/-!
# Blank characters

The characters that count as white space in story text, and the text without the blanks at its
two ends. Zero-width characters are not blank: a line that holds one is a line of dialogue.
-/

namespace VisualNovel.Text

/-- The Unicode white space characters together with the four information separators. -/
def isBlank (c : Char) : Bool :=
  let n := c.toNat
  (9 ≤ n && n ≤ 13) || (0x1C ≤ n && n ≤ 0x20) || n == 0x85 || n == 0xA0 || n == 0x1680
    || (0x2000 ≤ n && n ≤ 0x200A) || n == 0x2028 || n == 0x2029 || n == 0x202F || n == 0x205F
    || n == 0x3000

/-- The characters without the blanks at the end. -/
def trimEnd (cs : List Char) : List Char :=
  (cs.reverse.dropWhile isBlank).reverse

/-- The characters without the blanks at both ends. -/
def trim (cs : List Char) : List Char :=
  trimEnd (cs.dropWhile isBlank)

/-- The text without the blanks at both ends. -/
def strip (s : String) : String :=
  String.ofList (trim s.toList)

/-- The text without the blanks at the end. -/
def stripEnd (s : String) : String :=
  String.ofList (trimEnd s.toList)

/-- Whether the text holds nothing but blanks. -/
def allBlank (s : String) : Bool :=
  s.toList.all isBlank

end VisualNovel.Text
