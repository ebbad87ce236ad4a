/-!
# Tapes

A row that is only added to at its end and read as a whole: a log, a list of intents, the marks on a
screen. It is kept newest first, so that adding costs the same however long the row is and whoever
else holds it. Read through `toList`, a tape is the row from its oldest item to its newest.
-/

namespace VisualNovel

/-- A row that grows at its end. -/
structure Tape (α : Type) where
  newestFirst : List α := []
  deriving Repr, DecidableEq, Inhabited

namespace Tape

variable {α : Type}

/-- A tape with nothing on it. -/
def empty : Tape α := {}

/-- Adds an item. -/
def push (t : Tape α) (a : α) : Tape α :=
  ⟨a :: t.newestFirst⟩

/-- The items, oldest first. -/
def toList (t : Tape α) : List α :=
  t.newestFirst.reverse

/-- Whether nothing is on the tape. -/
def isEmpty (t : Tape α) : Bool :=
  t.newestFirst.isEmpty

/-- How many items are on the tape. -/
def size (t : Tape α) : Nat :=
  t.newestFirst.length

@[simp] theorem toList_empty : (empty : Tape α).toList = [] := rfl

@[simp] theorem toList_push (t : Tape α) (a : α) : (t.push a).toList = t.toList ++ [a] := by
  simp [push, toList]

@[simp] theorem size_push (t : Tape α) (a : α) : (t.push a).size = t.size + 1 := rfl

end Tape

end VisualNovel
