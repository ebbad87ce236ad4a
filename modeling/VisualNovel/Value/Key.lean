import VisualNovel.Number.Dyadic
import VisualNovel.Value.Basic

/-!
# Values as keys

Records and tables are looked up by value. Two values are the same key when they have the same form
as a key: numbers count by their size, whatever their kind, so that `1`, `1.0` and `true` are one
key; a number that is no number is the same key as its copies only. Lists and records are no keys.
-/

namespace VisualNovel

/-- What a value is as a key. -/
inductive KeyForm where
  | null
  | whole (n : Int)
  /-- A double that is no whole number, by its bits. -/
  | real (bits : UInt64)
  | undefined (origin : Origin)
  | text (s : String)
  | flag (name : String)
  | bytes (data : List UInt8)
  | moment (m : Moment)
  | uid (n : Nat)
  /-- A list or a record. -/
  | none
  deriving DecidableEq, Inhabited

namespace Value

/-- The form of a double as a key. -/
def floatForm (x : Float) : KeyForm :=
  match Number.decode x with
  | .finite d => if d.compareInt d.trunc == .eq then .whole d.trunc else .real x.toBits
  | _ => .real x.toBits

/-- The form of a value as a key. -/
def keyForm : Value → KeyForm
  | null => .null
  | bool b => .whole (if b then 1 else 0)
  | int n => .whole n
  | float x => floatForm x
  | nan o => .undefined o
  | text s => .text s
  | flag name => .flag name
  | bytes data => .bytes data
  | moment m => .moment m
  | uid n => .uid n
  | list _ => .none
  | record _ => .none

/-- Whether the value can be a key. -/
def canBeKey : Value → Bool
  | list _ => false
  | record _ => false
  | _ => true

/-- Values are compared as keys. -/
instance : BEq Value := ⟨fun a b => a.keyForm == b.keyForm⟩

theorem beq_iff_keyForm_eq {a b : Value} : (a == b) = true ↔ a.keyForm = b.keyForm := by
  simp [BEq.beq]

instance : EquivBEq Value where
  rfl := beq_iff_keyForm_eq.2 rfl
  symm h := beq_iff_keyForm_eq.2 (beq_iff_keyForm_eq.1 h).symm
  trans h k := beq_iff_keyForm_eq.2 ((beq_iff_keyForm_eq.1 h).trans (beq_iff_keyForm_eq.1 k))

@[simp] theorem text_beq_text (s t : String) : ((text s : Value) == text t) = (s == t) := by
  by_cases h : s = t
  · subst h; simp
  · have : ¬ (text s).keyForm = (text t).keyForm := by simpa [keyForm] using h
    rw [Bool.eq_false_iff.2 (fun e => this (beq_iff_keyForm_eq.1 e)), beq_eq_false_iff_ne.2 h]

/-- A value that has to be able to be a key. -/
def asKey (v : Value) : Except Mishap Value :=
  if v.canBeKey then .ok v else .error .wrongType

end Value

/-- The fields of a record. -/
abbrev Fields := Table Value Value

namespace Fields

/-- The value under a text. -/
def get? (key : String) (fs : Fields) : Option Value :=
  Table.get? (.text key) fs

/-- The value under a text, or nothing. -/
def get (key : String) (fs : Fields) : Value :=
  (fs.get? key).getD .null

/-- Whether there is a value under a text. -/
def has (key : String) (fs : Fields) : Bool :=
  (fs.get? key).isSome

/-- Gives a text a value. -/
def put (key : String) (value : Value) (fs : Fields) : Fields :=
  Table.put (.text key) value fs

/-- A value that must be there. -/
def required (key : String) (fs : Fields) : Except Mishap Value :=
  match fs.get? key with
  | some v => .ok v
  | none => .error .missingKey

end Fields

namespace Value

/-- The fields of a record. -/
def fields? : Value → Option Fields
  | record fs => some fs
  | _ => none

/-- The fields of a value that has to be a record. -/
def fields (v : Value) : Except Mishap Fields :=
  match v with
  | record fs => .ok fs
  | _ => .error .noMember

/-- The value of a field, or nothing. -/
def field (v : Value) (key : String) : Value :=
  ((v.fields?).map (Fields.get key)).getD null

/-- The parts of a value that can be gone through one by one: the items of a list, the characters of
a text, the keys of a record, the numbers of a byte string. -/
def parts : Value → Except Mishap (List Value)
  | list items => .ok items
  | text s => .ok (s.toList.map fun c => text (String.singleton c))
  | record fs => .ok (fs.map (·.1))
  | bytes data => .ok (data.map fun b => int b.toNat)
  | _ => .error .wrongType

/-- The two parts of a value that has exactly two. -/
def pair (v : Value) : Except Mishap (Value × Value) := do
  match ← v.parts with
  | [a, b] => return (a, b)
  | _ => throw .badValue

/-- Puts the pairs of a list into a table, one after the other. -/
def fieldsOfPairs : (seen : Fields) → List Value → Except Mishap Fields
  | seen, [] => .ok seen
  | seen, part :: rest => do
    let (key, value) ← part.pair
    fieldsOfPairs (Table.put (← key.asKey) value seen) rest

/-- The fields of a record, or of anything whose parts are pairs of a key and a value. -/
def toFields (v : Value) : Except Mishap Fields :=
  match v with
  | record fs => .ok fs
  | v => do fieldsOfPairs [] (← v.parts)

mutual

/-- The value with every reference to a flag spelled out as a record of its name. Spelled out, a
reference is no key any more. -/
def spelled : Value → Except Mishap Value
  | flag name => .ok (record [(text "name", text name)])
  | list items => do return list (← spelledItems items)
  | record fs => do return record (← spelledFields fs)
  | v => .ok v

/-- `spelled` of every item. -/
def spelledItems : List Value → Except Mishap (List Value)
  | [] => .ok []
  | v :: rest => do
    let v ← spelled v
    return v :: (← spelledItems rest)

/-- `spelled` of every field. -/
def spelledFields : List (Value × Value) → Except Mishap (List (Value × Value))
  | [] => .ok []
  | (k, v) :: rest => do
    let v ← spelled v
    match k with
    | flag _ => throw .wrongType
    | k => return (k, v) :: (← spelledFields rest)

end

end Value

end VisualNovel
