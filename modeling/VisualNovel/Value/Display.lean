import VisualNovel.Number.Numeral
import VisualNovel.Number.Power
import VisualNovel.Number.Shortest
import VisualNovel.Text.Quoted
import VisualNovel.Value.Basic

/-!
# Values as text

Two texts of a value: as it is *shown* to a reader, where a text stands for itself, and as it is
*quoted* inside messages and inside lists, where a text stands between quotes. A whole number with
too many digits has no text.
-/

namespace VisualNovel

namespace Value

/-- A number with leading zeros up to a number of digits. -/
def padded (width n : Nat) : String :=
  String.ofList (List.replicate (width - (Nat.toDigits 10 n).length) '0' ++ Nat.toDigits 10 n)

end Value

namespace Moment

open Value

/-- The date part. -/
def dateText (m : Moment) : String :=
  s!"{padded 4 m.year}-{padded 2 m.month}-{padded 2 m.day}"

/-- The time part; a whole second is written without a fraction. -/
def timeText (m : Moment) : String :=
  let fraction := if m.micro == 0 then "" else "." ++ padded 6 m.micro
  s!"{padded 2 m.hour}:{padded 2 m.minute}:{padded 2 m.second}{fraction}"

/-- The moment with a `T` between date and time. -/
def isoText (m : Moment) : String :=
  s!"{m.dateText}T{m.timeText}"

/-- The moment as the call that makes it, without the zeros at its end below the minute. -/
def callText (m : Moment) : String :=
  let fine := if m.micro != 0 then [m.second, m.micro] else if m.second != 0 then [m.second] else []
  let parts := [m.year, m.month, m.day, m.hour, m.minute] ++ fine
  "datetime.datetime(" ++ ", ".intercalate (parts.map toString) ++ ")"

end Moment

namespace Value

open Number Text

/-- A truth value, nothing, or a number. -/
def scalarText : Value → String
  | null => "None"
  | bool b => if b then "True" else "False"
  | int n => toString n
  | float x => floatText x
  | nan _ => "nan"
  | _ => ""

mutual

/-- The value as it stands inside messages and lists. -/
def quote : Value → String
  | text s => quoted s
  | flag name => s!"FlagRef(name={quoted name})"
  | bytes data => quotedBytes data
  | moment m => m.callText
  | uid n => s!"UID({n})"
  | list items => "[" ++ ", ".intercalate (quoteItems items) ++ "]"
  | record fs => "\x7b" ++ ", ".intercalate (quoteFields fs) ++ "\x7d"
  | v => scalarText v

/-- Every item, quoted. -/
def quoteItems : List Value → List String
  | [] => []
  | v :: rest => quote v :: quoteItems rest

/-- Every field, quoted. -/
def quoteFields : List (Value × Value) → List String
  | [] => []
  | (k, v) :: rest => s!"{quote k}: {quote v}" :: quoteFields rest

end

/-- The value as a reader sees it. -/
def shown : Value → String
  | text s => s
  | flag name => name
  | moment m => s!"{m.dateText} {m.timeText}"
  | v => quote v

/-- Whether a whole number has no more digits than can be written. -/
def writableInt (n : Int) : Bool :=
  decide (n.natAbs < tenTo maxDigits)

mutual

/-- Whether no whole number in a value has too many digits to be written. -/
def hasText : Value → Bool
  | int n => writableInt n
  | list items => haveText items
  | record fs => fieldsHaveText fs
  | _ => true

/-- `hasText` of every item. -/
def haveText : List Value → Bool
  | [] => true
  | v :: rest => hasText v && haveText rest

/-- `hasText` of every key and value. -/
def fieldsHaveText : List (Value × Value) → Bool
  | [] => true
  | (k, v) :: rest => hasText k && hasText v && fieldsHaveText rest

end

/-- The value as a reader sees it, if it has a text. -/
def display (v : Value) : Except Mishap String :=
  if v.hasText then .ok v.shown else .error .badValue

/-- The value as it stands inside messages, if it has a text. -/
def displayQuoted (v : Value) : Except Mishap String :=
  if v.hasText then .ok v.quote else .error .badValue

end Value

end VisualNovel
