import VisualNovel.Value.Display

/-!
# Writing JSON

Characters outside of ASCII are written as themselves. References to flags, raw bytes and moments
have no written form. The keys of an object are texts: a number or a word that serves as a key is
written between quotes, and two keys that are written alike are written both.
-/

namespace VisualNovel.Json

open Text Number

/-- One character inside a text. -/
def escapeChar (c : Char) : List Char :=
  if c == '"' then ['\\', '"']
  else if c == '\\' then ['\\', '\\']
  else if c == '\n' then ['\\', 'n']
  else if c == '\r' then ['\\', 'r']
  else if c == '\t' then ['\\', 't']
  else if c.toNat == 8 then ['\\', 'b']
  else if c.toNat == 12 then ['\\', 'f']
  else if c.toNat < 0x20 then ['\\', 'u'] ++ hexPadded 4 c.toNat
  else [c]

/-- A text between its quotes. -/
def textLiteral (s : String) : String :=
  String.ofList ('"' :: s.toList.flatMap escapeChar ++ ['"'])

/-- A double; the three that are no decimals have names. -/
def floatLiteral (x : Float) : String :=
  match decode x with
  | .nan => "NaN"
  | .infinite negative => if negative then "-Infinity" else "Infinity"
  | .finite _ => floatText x

/-- Where the items of a list or an object are put. -/
structure Arrangement where
  /-- Between the opening bracket and the first item, at a depth. -/
  opening : Nat → String
  /-- Between two items. -/
  between : Nat → String
  /-- Between the last item and the closing bracket. -/
  closing : Nat → String
  /-- Between a key and its value. -/
  colon : String

/-- All on one line, with a blank after each comma and colon. -/
def inline : Arrangement :=
  { opening := fun _ => "", between := fun _ => ", ", closing := fun _ => "", colon := ": " }

/-- All on one line with no blanks. -/
def compact : Arrangement :=
  { opening := fun _ => "", between := fun _ => ",", closing := fun _ => "", colon := ":" }

/-- A new line, indented by two blanks for each level. -/
def newLine (depth : Nat) : String :=
  String.ofList ('\n' :: List.replicate (2 * depth) ' ')

/-- Each item on a line of its own. -/
def indented : Arrangement :=
  { opening := fun d => newLine (d + 1), between := fun d => "," ++ newLine (d + 1)
    closing := newLine, colon := ": " }

/-- The items between brackets. -/
def Arrangement.enclose (a : Arrangement) (depth : Nat) (left right : String)
    (items : List String) : String :=
  if items.isEmpty then left ++ right
  else left ++ a.opening depth ++ (a.between depth).intercalate items ++ a.closing depth ++ right

/-- A whole number, unless it has too many digits. -/
def intLiteral (n : Int) : Except Mishap String :=
  if Value.writableInt n then .ok (toString n) else .error .badValue

/-- A value that holds no others. -/
def scalarLiteral : Value → Except Mishap String
  | .null => .ok "null"
  | .bool b => .ok (if b then "true" else "false")
  | .int n => intLiteral n
  | .float x => .ok (floatLiteral x)
  | .nan _ => .ok "NaN"
  | _ => .error .wrongType

/-- The key of an object. -/
def keyLiteral : Value → Except Mishap String
  | .text s => .ok (textLiteral s)
  | v => (scalarLiteral v).map textLiteral

mutual

/-- The value at a depth. -/
def writeAt (a : Arrangement) (depth : Nat) : Value → Except Mishap String
  | .text s => .ok (textLiteral s)
  | .list items => do
    return a.enclose depth "[" "]" (← writeItems a (depth + 1) items)
  | .record fs => do
    return a.enclose depth "\x7b" "\x7d" (← writeFields a (depth + 1) fs)
  | v => scalarLiteral v

/-- Every item. -/
def writeItems (a : Arrangement) (depth : Nat) : List Value → Except Mishap (List String)
  | [] => .ok []
  | v :: rest => do
    let head ← writeAt a depth v
    return head :: (← writeItems a depth rest)

/-- Every field. -/
def writeFields (a : Arrangement) (depth : Nat) :
    List (Value × Value) → Except Mishap (List String)
  | [] => .ok []
  | (k, v) :: rest => do
    let key ← keyLiteral k
    let head ← writeAt a depth v
    return (key ++ a.colon ++ head) :: (← writeFields a depth rest)

end

/-- Writes a document in an arrangement. -/
def write (a : Arrangement) (v : Value) : Except Mishap String :=
  writeAt a 0 v

end VisualNovel.Json
