import VisualNovel.Text.Digit
import VisualNovel.Text.Half
import VisualNovel.Text.Printable

/-!
# Quoted text

How error messages and log lines show a text: between single quotes, or between double quotes when
it holds a single quote and no double one. A character that cannot be printed is shown by its code
in two, four or eight hexadecimal digits.
-/

namespace VisualNovel.Text

/-- One character inside the given quotes. -/
def escapeChar (quote c : Char) : List Char :=
  let n := (half? c).getD c.toNat
  if c == quote || c == '\\' then ['\\', c]
  else if c == '\n' then ['\\', 'n']
  else if c == '\r' then ['\\', 'r']
  else if c == '\t' then ['\\', 't']
  else if isPrintable c then [c]
  else if n < 0x100 then ['\\', 'x'] ++ hexPadded 2 n
  else if n < 0x10000 then ['\\', 'u'] ++ hexPadded 4 n
  else ['\\', 'U'] ++ hexPadded 8 n

/-- The quote that a text is written between. -/
def quoteFor (cs : List Char) : Char :=
  if cs.contains '\'' && !cs.contains '"' then '"' else '\''

/-- The text between its quotes. -/
def quoted (s : String) : String :=
  let cs := s.toList
  let q := quoteFor cs
  String.ofList (q :: cs.flatMap (escapeChar q) ++ [q])

/-- Raw bytes between quotes: printable ASCII as itself, all else by code. -/
def quotedBytes (data : List UInt8) : String :=
  let cs := data.map fun b => Char.ofNat b.toNat
  let q := quoteFor cs
  let escape (c : Char) : List Char :=
    if c.toNat < 0x7F then escapeChar q c else ['\\', 'x'] ++ hexPadded 2 c.toNat
  String.ofList ('b' :: q :: cs.flatMap escape ++ [q])

end VisualNovel.Text
