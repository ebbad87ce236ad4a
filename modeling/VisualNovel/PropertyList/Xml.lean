import VisualNovel.PropertyList.Markup
import VisualNovel.Value.Key
import VisualNovel.Value.Number

/-!
# Property lists in markup

Builds the value that the tags of a property list describe. Tags that the format does not know are
passed over. The builder keeps the lists and records that are open as a stack; when the innermost is
closed it becomes an item, or the value of a key, of the one around it.
-/

namespace VisualNovel.PropertyList

open Number Text

/-- A list or a record that is open, with what it holds so far. -/
inductive Frame where
  | items (seen : List Value)
  | fields (seen : Fields)

/-- Where an object goes when it is complete. -/
inductive Slot where
  | top
  | item
  | field (key : String)

/-- The state of the builder. -/
structure Builder where
  /-- The open lists and records, innermost first, each with the place that it fills. -/
  frames : List (Frame × Slot) := []
  /-- The key that waits for its value. -/
  key : Option String := none
  /-- The texts since the last opening tag, last first. -/
  data : List String := []
  /-- The last value that stands at the top. -/
  root : Value := .null

namespace Builder

/-- The place that the next object fills. -/
def slot (b : Builder) : Except Mishap (Slot × Builder) :=
  match b.key, b.frames with
  | some key, (.fields _, _) :: _ => .ok (.field key, { b with key := none })
  | some _, (.items _, _) :: _ => .error .badValue
  | some _, [] => .error .badIndex
  | none, [] => .ok (.top, b)
  | none, (.items _, _) :: _ => .ok (.item, b)
  | none, (.fields _, _) :: _ => .error .badValue

/-- Puts a complete object into its place. -/
def fill (b : Builder) (slot : Slot) (v : Value) : Builder :=
  match slot, b.frames with
  | .top, _ => { b with root := v }
  | .item, (.items seen, s) :: rest => { b with frames := (.items (v :: seen), s) :: rest }
  | .field key, (.fields seen, s) :: rest =>
    { b with frames := (.fields (Fields.put key v seen), s) :: rest }
  | _, _ => b

/-- Adds an object that is complete at once. -/
def add (b : Builder) (v : Value) : Except Mishap Builder := do
  let (slot, b) ← b.slot
  return b.fill slot v

/-- Opens a list or a record. -/
def push (b : Builder) (frame : Frame) : Except Mishap Builder := do
  let (slot, b) ← b.slot
  return { b with frames := (frame, slot) :: b.frames }

/-- The value of a list or record that is closed. -/
def valueOf (frame : Frame) : Value :=
  match frame with
  | .items seen => .list seen.reverse
  | .fields seen => .record seen

/-- Closes the innermost list or record. -/
def pop (b : Builder) : Except Mishap Builder :=
  match b.frames with
  | (frame, slot) :: rest => .ok (({ b with frames := rest } : Builder).fill slot (valueOf frame))
  | [] => .error .badIndex

/-- The text since the last opening tag. -/
def collected (b : Builder) : String :=
  String.join b.data.reverse

end Builder

/-- A value of a base-64 digit. -/
def sextet? (c : Char) : Option Nat :=
  if c.isUpper then some (c.toNat - 65)
  else if c.isLower then some (c.toNat - 71)
  else if isPlainDigit c then some (c.toNat + 4)
  else if c == '+' then some 62
  else if c == '/' then some 63
  else none

/-- The bytes of groups of four base-64 digits, of which the last may be short. -/
def bytesOf : List Nat → Option (List UInt8)
  | [] => some []
  | [_] => none
  | [a, b] => some [UInt8.ofNat (a * 4 + b / 16)]
  | [a, b, c] => some [UInt8.ofNat (a * 4 + b / 16), UInt8.ofNat (b % 16 * 16 + c / 4)]
  | a :: b :: c :: d :: rest => do
    let more ← bytesOf rest
    return UInt8.ofNat (a * 4 + b / 16) :: UInt8.ofNat (b % 16 * 16 + c / 4)
      :: UInt8.ofNat (c % 4 * 64 + d) :: more

/-- The base-64 digits of a text, if the last group of four is filled up; `filled` counts the digits
of the group before. Characters that are no digits are passed over. Padding counts from the last
digit on, and once it fills a group of two or three digits the text ends. -/
def base64Digits? : (filled pads : Nat) → List Char → Option (List Nat)
  | filled, _, [] => if filled == 0 then some [] else none
  | filled, pads, c :: rest =>
    if c == '=' then
      if filled < 2 then base64Digits? filled pads rest
      else if filled + pads < 3 then base64Digits? filled (pads + 1) rest
      else some []
    else
      match sextet? c with
      | some d => (base64Digits? ((filled + 1) % 4) 0 rest).map (d :: ·)
      | none => base64Digits? filled pads rest

/-- Reads base-64 text. -/
def decodeBase64 (s : String) : Except Mishap Value :=
  match (base64Digits? 0 0 s.toList).bind bytesOf with
  | some data => .ok (.bytes data)
  | none => .error .badValue

/-- A fixed number of digits. -/
def digitGroup? : (count : Nat) → List Char → Option (Nat × List Char)
  | 0, cs => some (0, cs)
  | count + 1, cs => do
    let (n, rest) ← digitGroup? count cs
    match rest with
    | c :: rest => if isPlainDigit c then return (n * 10 + (c.toNat - 48), rest) else none
    | [] => none

/-- The numbers of a moment, each after its mark, up to the first that is missing. -/
def momentParts : (marks : List (Char × Nat)) → List Char → List Nat × List Char
  | [], cs => ([], cs)
  | (mark, count) :: marks, cs =>
    match cs with
    | c :: rest =>
      if c == mark then
        match digitGroup? count rest with
        | some (n, rest) =>
          let (more, rest) := momentParts marks rest
          (n :: more, rest)
        | none => ([], cs)
      else ([], cs)
    | [] => ([], cs)

/-- The number of days of a month. -/
def daysIn (year month : Nat) : Nat :=
  if month == 2 then
    if year % 4 == 0 && (year % 100 != 0 || year % 400 == 0) then 29 else 28
  else if month == 4 || month == 6 || month == 9 || month == 11 then 30
  else 31

/-- A moment that exists. -/
def validMoment (m : Moment) : Except Mishap Value :=
  if 1 ≤ m.year && 1 ≤ m.month && m.month ≤ 12 && 1 ≤ m.day && m.day ≤ daysIn m.year m.month
      && m.hour < 24 && m.minute < 60 && m.second < 60 then .ok (.moment m)
  else .error .badValue

/-- Reads a moment; the time of day may be left out from any part on, the date may not. -/
def decodeMoment (s : String) : Except Mishap Value :=
  match digitGroup? 4 s.toList with
  | none => .error .noMember
  | some (year, rest) =>
    let (parts, rest) := momentParts [('-', 2), ('-', 2), ('T', 2), (':', 2), (':', 2)] rest
    match rest with
    | 'Z' :: _ =>
      match parts with
      | month :: day :: time =>
        let part (i : Nat) := time.getD i 0
        validMoment
          { year, month, day, hour := part 0, minute := part 1, second := part 2 }
      | _ => .error .wrongType
    | _ => .error .noMember

/-- Reads a whole number, in hexadecimal after `0x`. -/
def decodeInteger (s : String) : Except Mishap Value :=
  let found := match s.toList with
    | '0' :: 'x' :: _ => readHex? s
    | '0' :: 'X' :: _ => readHex? s
    | _ => readInt? s
  match found with
  | some n => .ok (.int n)
  | none => .error .badValue

/-- Takes up one event. -/
def Builder.take (b : Builder) : Event → Except Mishap Builder
  | .entity => .error .badValue
  | .text s => .ok { b with data := s :: b.data }
  | .start name =>
    let b := { b with data := [] }
    match name with
    | "dict" => b.push (.fields [])
    | "array" => b.push (.items [])
    | _ => .ok b
  | .finish name =>
    let cleared := { b with data := [] }
    match name with
    | "dict" =>
      match b.key with
      | some key => if key == "" then b.pop else .error .badValue
      | none => b.pop
    | "array" => b.pop
    | "key" =>
      match b.frames with
      | [] => if b.key.any (· != "") then .error .badValue else .error .badIndex
      | (.fields _, _) :: _ =>
        if b.key.any (· != "") then .error .badValue
        else .ok { cleared with key := some b.collected }
      | _ => .error .badValue
    | "true" => b.add (.bool true)
    | "false" => b.add (.bool false)
    | "integer" => do cleared.add (← decodeInteger b.collected)
    | "real" => do cleared.add (.ofFloat (← (Value.text b.collected).toFloat) .file)
    | "string" => cleared.add (.text b.collected)
    | "data" => do cleared.add (← decodeBase64 b.collected)
    | "date" => do cleared.add (← decodeMoment b.collected)
    | _ => .ok b

/-- The value of a property list in markup. -/
def readXml (bytes : List UInt8) : Except Mishap Value := do
  let found ← eventsOf bytes
  let b ← found.events.foldlM Builder.take {}
  if found.complete then return b.root else throw .badMarkup

end VisualNovel.PropertyList
