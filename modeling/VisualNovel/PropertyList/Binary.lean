import VisualNovel.Clock
import VisualNovel.Number.Power
import VisualNovel.PropertyList.Xml
import VisualNovel.Value.Display

/-!
# Binary property lists

A binary property list is a row of objects, a table of their offsets, and a trailer that says how
wide offsets and references are and which object is the root. Almost every fault in such a file is
the same fault: the file is no property list.

Lists and records refer to their parts, so one object can stand at many places, and even inside of
itself. An object is gone through once. What holds itself has no value of finite size; of such a
document only the part is kept that can become a script.
-/

namespace VisualNovel.PropertyList

open Number

/-- A file with its table of offsets. -/
structure Archive where
  data : ByteArray
  offsets : Array Nat
  refWidth : Nat

/-- The bytes from a place on, as many as there are. -/
def slice (data : ByteArray) (start count : Nat) : List UInt8 :=
  if start < data.size then (data.extract start (start + min count data.size)).toList else []

/-- A whole number, most significant byte first. -/
def bigEndian (bytes : List UInt8) : Nat :=
  bytes.foldl (fun n b => n * 256 + b.toNat) 0

/-- A whole number whose first bit is its sign. -/
def signedBigEndian (bytes : List UInt8) : Int :=
  let n := bigEndian bytes
  if 2 * n < twoTo (8 * bytes.length) then n else (n : Int) - twoTo (8 * bytes.length)

/-- Whether there could not be room for so many bytes, though they could be counted. -/
def beyondRoom (count : Nat) : Bool :=
  decide (twoTo 35 ≤ count) && decide (count ≤ twoTo 63 - 34)

/-- The furthest place that a file can have. -/
def furthest : Nat := twoTo 44 - twoTo 12

/-- Exactly as many bytes as asked for. -/
def exactly (data : ByteArray) (start count : Nat) : Except Mishap (List UInt8) := do
  if beyondRoom count then throw .noRoom
  let found := slice data start count
  if found.length == count then return found else throw .badValue

/-- Numbers of one width, one after the other. -/
def numbers (data : ByteArray) (start width count : Nat) : Except Mishap (List Nat) := do
  if furthest < start then throw .badValue
  if beyondRoom (width * count) then throw .noRoom
  if width == 0 then throw .badValue
  if data.size < start + width * count then throw .badValue
  return (List.range count).map fun i => bigEndian (slice data (start + i * width) width)

/-- The characters of units of sixteen bits. -/
def fromUnits : List Nat → Option (List Char)
  | [] => some []
  | [u] => if 0xD800 ≤ u && u ≤ 0xDFFF then none else some [Char.ofNat u]
  | u :: v :: rest =>
    if 0xD800 ≤ u && u ≤ 0xDBFF then
      if 0xDC00 ≤ v && v ≤ 0xDFFF then do
        let more ← fromUnits rest
        return Char.ofNat (0x10000 + (u - 0xD800) * 0x400 + (v - 0xDC00)) :: more
      else none
    else if 0xDC00 ≤ u && u ≤ 0xDFFF then none
    else do return Char.ofNat u :: (← fromUnits (v :: rest))

/-- Pairs of bytes as units. -/
def toUnits : List UInt8 → List Nat
  | a :: b :: rest => (a.toNat * 256 + b.toNat) :: toUnits rest
  | _ => []

/-- The moment a number of seconds after the start of the year 2001. What is left over after whole
seconds goes to the nearest millionth. -/
def momentAfter (seconds : Float) : Except Mishap Value := do
  let whole ← Value.truncate seconds
  let left ← Value.nearest ((seconds - (← Value.toReal whole)) * 1000000.0)
  match Moment.ofMicros? Moment.firstOf2001 (whole * 1000000 + left) with
  | some m => return .moment m
  | none => throw .badValue

namespace Archive

/-- The size of an object and where its content starts. -/
def size (a : Archive) (place low : Nat) : Except Mishap (Nat × Nat) := do
  if low != 15 then return (low, place + 1)
  let marker ← exactly a.data (place + 1) 1
  let width := twoTo (bigEndian marker % 4)
  return (bigEndian (← exactly a.data (place + 2) width), place + 2 + width)

/-- The first byte of an object, which tells its kind, and where it stands. -/
def marker (a : Archive) (ref : Nat) : Except Mishap (Nat × Nat) := do
  match a.offsets[ref]? with
  | some place => return (bigEndian (← exactly a.data place 1), place)
  | none => throw .badValue

/-- An object that holds no others. -/
def scalar (a : Archive) (token place : Nat) : Except Mishap Value := do
  let low := token % 16
  match token with
  | 0x00 => return .null
  | 0x08 => return .bool false
  | 0x09 => return .bool true
  | 0x0F => return .bytes []
  | 0x22 =>
    let bits := bigEndian (← exactly a.data (place + 1) 4)
    return .ofFloat (Float32.ofBits (UInt32.ofNat bits)).toFloat .file
  | 0x23 =>
    let bits := bigEndian (← exactly a.data (place + 1) 8)
    return .ofFloat (Float.ofBits (UInt64.ofNat bits)) .file
  | 0x33 =>
    momentAfter (Float.ofBits (UInt64.ofNat (bigEndian (← exactly a.data (place + 1) 8))))
  | _ =>
    match token / 16 with
    | 1 =>
      let bytes := slice a.data (place + 1) (twoTo low)
      return .int (if 3 ≤ low then signedBigEndian bytes else bigEndian bytes)
    | 4 =>
      let (count, start) ← a.size place low
      return .bytes (← exactly a.data start count)
    | 5 =>
      let (count, start) ← a.size place low
      match asciiText? (← exactly a.data start count) with
      | some s => return .text s
      | none => throw .badValue
    | 6 =>
      let (count, start) ← a.size place low
      match fromUnits (toUnits (← exactly a.data start (2 * count))) with
      | some cs => return .text (String.ofList cs)
      | none => throw .badValue
    | 8 =>
      let n := bigEndian (slice a.data (place + 1) (1 + low))
      if n < twoTo 64 then return .uid n else throw .badValue
    | _ => throw .badValue

end Archive

/-- An object of an archive, with references to its parts. -/
inductive Item where
  | plain (v : Value)
  | row (parts : List Nat)
  | mapping (parts : List (Nat × Nat))
  deriving Inhabited

namespace Item

/-- The object without its parts. -/
def outline : Item → Value
  | plain v => v
  | row _ => .list []
  | mapping _ => .record []

end Item

/-- The object that a reference leads to. -/
def Archive.item (a : Archive) (ref : Nat) : Except Mishap Item := do
  let (token, place) ← a.marker ref
  match token / 16 with
  | 10 =>
    let (count, start) ← a.size place (token % 16)
    return .row (← numbers a.data start a.refWidth count)
  | 13 =>
    let (count, start) ← a.size place (token % 16)
    let keys ← numbers a.data start a.refWidth count
    let values ← numbers a.data (start + count * a.refWidth) a.refWidth count
    return .mapping (keys.zip values)
  | _ => return .plain (← a.scalar token place)

/-- What is known of the objects of an archive while it is gone through. -/
structure Survey where
  /-- The objects that have been met. -/
  items : Array (Option Item)
  /-- The values of those that have been gone through. -/
  values : Array (Option Value)
  /-- Whether an object was met inside of itself. -/
  holdsItself : Bool := false

namespace Survey

/-- A computation that goes through an archive. -/
abbrev Reader := StateT Survey (Except Mishap)

/-- Keeps the value of an object. -/
def keep (ref : Nat) (v : Value) : Reader Value := do
  modify fun s => { s with values := s.values.setIfInBounds ref (some v) }
  return v

/-- Goes through an object. A list takes two steps down to its parts and a record one, and there is
room for so many steps only. The value of a field is gone through before its key. -/
def visit (a : Archive) : (room : Nat) → (ref : Nat) → Reader Value
  | 0, _ => throw .endless
  | room + 1, ref => do
    let s ← get
    match s.values.getD ref none, s.items.getD ref none with
    | some v, _ => return v
    | none, some item =>
      set { s with holdsItself := true }
      return item.outline
    | none, none =>
      let item ← a.item ref
      modify fun s => { s with items := s.items.setIfInBounds ref (some item) }
      match item with
      | .plain v => keep ref v
      | .row parts =>
        match room with
        | 0 => throw .endless
        | room + 1 => keep ref (.list (← parts.mapM (visit a room)))
      | .mapping parts =>
        let fields ← parts.mapM fun (k, v) => do
          let value ← visit a room v
          let key ← visit a room k
          if key.canBeKey then return (key, value) else throw .badValue
        keep ref (.record (Table.ofEntries fields))

/-- The object that a reference leads to, as far as it was met. -/
def itemAt (s : Survey) (ref : Nat) : Item :=
  (s.items.getD ref none).getD (.plain .null)

/-- The text of an object as it stands inside messages; what it is part of itself is left out. -/
def quote (s : Survey) : (fuel : Nat) → (around : List Nat) → (ref : Nat) → String
  | 0, _, _ => ""
  | fuel + 1, around, ref =>
    let inner := s.quote fuel (ref :: around)
    match s.itemAt ref with
    | .plain v => v.quote
    | .row parts =>
      if around.contains ref then "[...]" else "[" ++ ", ".intercalate (parts.map inner) ++ "]"
    | .mapping parts =>
      if around.contains ref then "\x7b...\x7d"
      else
        let fields := Table.ofEntries (parts.map fun p => ((s.itemAt p.1).outline, p.2))
        let pieces := fields.map fun f => f.1.quote ++ ": " ++ inner f.2
        "\x7b" ++ ", ".intercalate pieces ++ "\x7d"

/-- A field of a line that is given as a record. Only the name of a speaker may be no text. -/
def lineField (s : Survey) (key : Value) (ref : Nat) : Value :=
  match s.itemAt ref with
  | .plain v => v
  | item =>
    if key == .text "speaker" then .text (s.quote (s.items.size + 1) [] ref) else item.outline

/-- A record with its fields, each by what becomes of its value. -/
def recordOf (s : Survey) (part : Value → Nat → Value) (parts : List (Nat × Nat)) : Value :=
  .record (Table.ofEntries (parts.map fun p =>
    let key := (s.itemAt p.1).outline
    (key, part key p.2)))

/-- A line of a conversation. -/
def line (s : Survey) (ref : Nat) : Value :=
  match s.itemAt ref with
  | .mapping parts => s.recordOf s.lineField parts
  | item => item.outline

/-- The lines of a conversation. -/
def conversation (s : Survey) (ref : Nat) : Value :=
  match s.itemAt ref with
  | .row parts => .list (parts.map s.line)
  | item => item.outline

/-- The part of a document that can become a script. -/
def script (s : Survey) (ref : Nat) : Value :=
  match s.itemAt ref with
  | .mapping parts => s.recordOf (fun _ => s.conversation) parts
  | item => item.outline

end Survey

/-- What a file holds. -/
structure Content where
  /-- The value, or, if it holds itself, the part of it that can become a script. -/
  value : Value
  holdsItself : Bool := false

/-- The steps down into a file that there is room for. -/
def roomForSteps : Nat := 990

/-- What a binary property list holds. -/
def readBinary (data : ByteArray) : Except Mishap Content := do
  if data.size < 32 then throw .badValue
  let trailer := data.size - 32
  let field (start width : Nat) := bigEndian (slice data (trailer + start) width)
  let count := field 8 8
  let offsets ← numbers data (field 24 8) (field 6 1) count
  let archive : Archive := { data, offsets := offsets.toArray, refWidth := field 7 1 }
  let unmet : Survey :=
    { items := Array.replicate count none, values := Array.replicate count none }
  let top := field 16 8
  let (value, survey) ← (Survey.visit archive roomForSteps top).run unmet
  if survey.holdsItself then return { value := survey.script top, holdsItself := true }
  else return { value }

/-- Whether the bytes start with the given ones. -/
def startsWith (data : ByteArray) (head : List UInt8) : Bool :=
  slice data 0 head.length == head

/-- The bytes of an ASCII text. -/
def asciiBytes (s : String) : List UInt8 :=
  s.toUTF8.toList

/-- Whether a file looks like markup: a declaration or the outermost tag at its very start. -/
def looksLikeMarkup (data : ByteArray) : Bool :=
  let heads := ["<?xml", "<plist"].map asciiBytes
  let wide (head : List UInt8) (low : Bool) : List UInt8 :=
    head.flatMap fun b => if low then [b, 0] else [0, b]
  heads.any fun h =>
    startsWith data h || startsWith data ([0xEF, 0xBB, 0xBF] ++ h)
      || startsWith data ([0xFE, 0xFF] ++ wide h false)
      || startsWith data ([0xFF, 0xFE] ++ wide h true)

/-- What a property list in either form holds. -/
def read (data : ByteArray) : Except Mishap Content :=
  if looksLikeMarkup data then do return { value := ← readXml data.toList }
  else if startsWith data (asciiBytes "bplist00") then readBinary data
  else .error .badValue

end VisualNovel.PropertyList
