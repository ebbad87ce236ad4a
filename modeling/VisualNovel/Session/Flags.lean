import VisualNovel.Value.Display
import VisualNovel.Value.Key
import VisualNovel.Value.Number

/-!
# Flags

Named whole numbers that a story keeps. A flag that was never set reads as zero.
-/

namespace VisualNovel

/-- The flags of a session, in the order in which they were first set. -/
structure Flags where
  values : Table String Int := []
  deriving Repr, DecidableEq, Inhabited

namespace Flags

/-- The value of a flag. -/
def get (f : Flags) (name : String) : Int :=
  (Table.get? name f.values).getD 0

/-- Gives a flag a value. -/
def set (f : Flags) (name : String) (n : Int) : Flags :=
  { values := Table.put name n f.values }

/-- Adds to a flag. -/
def modify (f : Flags) (name : String) (delta : Int) : Flags :=
  f.set name (f.get name + delta)

/-- Gives a flag the number that a value stands for. -/
def setValue (f : Flags) (name : String) (v : Value) : Except Mishap Flags := do
  return f.set name (← v.toInt)

/-- Flags from the fields of a record; a key that is no text counts as it is shown. -/
def ofFields (fields : Fields) : Except Mishap Flags :=
  fields.foldlM (fun f e => f.setValue e.1.shown e.2) {}

/-- The flags as a record. -/
def toValue (f : Flags) : Value :=
  .record (f.values.map fun e => (.text e.1, .int e.2))

/-- The flags in words. -/
def summary (f : Flags) : Except Mishap String := do
  return "Flags(" ++ (← f.toValue.displayQuoted) ++ ")"

end Flags

end VisualNovel
