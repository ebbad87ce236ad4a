import VisualNovel.Mishap
import VisualNovel.Table

/-!
# Values

The values that script documents, settings and saved sessions are made of. A document may hold
anything at any place, and a session carries much of it along unread, so values keep their own
kind until an operation asks for another.
-/

namespace VisualNovel

/-- A moment, to the millionth of a second. -/
structure Moment where
  year : Nat
  month : Nat
  day : Nat
  hour : Nat
  minute : Nat
  second : Nat
  micro : Nat := 0
  deriving Repr, DecidableEq

/-- Where a number that is no number comes from. Such a number equals nothing, but a copy of it is
still the same one, and it is known by its origin. -/
inductive Origin where
  /-- It was read from a file. -/
  | file
  /-- It was written in a line of a script's conversation, as the parameter at a place. -/
  | script (script conversation : String) (line : Int) (place : Nat)
  /-- It was handed in from outside, as the so-manieth. -/
  | outside (number : Nat)
  /-- It came out of arithmetic on another one. -/
  | after (other : Origin)
  /-- It came out of arithmetic on numbers. -/
  | computed
  deriving Repr, DecidableEq, Inhabited

/-- A value of a document, a setting or a parameter. -/
inductive Value where
  | null
  | bool (b : Bool)
  | int (n : Int)
  | float (x : Float)
  /-- A number that is no number. -/
  | nan (origin : Origin)
  | text (s : String)
  /-- A parameter that names a flag, as opposed to a literal text. -/
  | flag (name : String)
  | bytes (data : List UInt8)
  | moment (m : Moment)
  /-- A number that stands for another object of an archive. -/
  | uid (n : Nat)
  | list (items : List Value)
  /-- Keys and values in order. No list and no record is a key. -/
  | record (fields : List (Value × Value))
  deriving Inhabited

namespace Value

/-- The double as a value. -/
def ofFloat (x : Float) (origin : Origin := .computed) : Value :=
  if x.isNaN then nan origin else float x

/-- The text of a text value. -/
def text? : Value → Option String
  | text s => some s
  | _ => none

/-- A text, or nothing. -/
def ofText? : Option String → Value
  | some s => text s
  | none => null

/-- A row of texts. -/
def ofTexts (texts : List String) : Value :=
  list (texts.map text)

/-- A record whose keys are texts. -/
def ofFields (fields : List (String × Value)) : Value :=
  record (fields.map fun f => (text f.1, f.2))

/-- Whether the value counts as true: nothing, zero and all that is empty do not. -/
def truthy : Value → Bool
  | null => false
  | bool b => b
  | int n => n != 0
  | float x => !(x == 0.0)
  | nan _ => true
  | text s => s != ""
  | flag _ => true
  | bytes data => !data.isEmpty
  | moment _ => true
  | uid _ => true
  | list items => !items.isEmpty
  | record fs => !fs.isEmpty

/-- The value if it counts as true, else the other one. -/
def orElse (v other : Value) : Value :=
  if v.truthy then v else other

/-- The name of a value's kind, as messages give it. -/
def kindName : Value → String
  | null => "NoneType"
  | bool _ => "bool"
  | int _ => "int"
  | float _ => "float"
  | nan _ => "float"
  | text _ => "str"
  | flag _ => "FlagRef"
  | bytes _ => "bytes"
  | moment _ => "datetime"
  | uid _ => "UID"
  | list _ => "list"
  | record _ => "dict"

/-- A text that has to be one. -/
def asText (v : Value) : Except Mishap String :=
  match v with
  | text s => .ok s
  | _ => .error .wrongType

/-- The text of a value that is asked for what only texts have. -/
def textMember (v : Value) : Except Mishap String :=
  match v with
  | text s => .ok s
  | _ => .error .noMember

/-- The name of a parameter that has to be a flag. -/
def asFlag (v : Value) : Except Mishap String :=
  match v with
  | flag name => .ok name
  | _ => .error .noMember

end Value

end VisualNovel
