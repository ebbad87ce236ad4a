import VisualNovel.Value.Number

/-!
# Dice

The source of the numbers that a story rolls: a row of numbers that is gone through again and again.
-/

namespace VisualNovel

/-- A row of numbers, and how many of them were used. -/
structure Dice where
  rolls : Array Value := #[.int 0]
  used : Nat := 0
  deriving Inhabited

namespace Dice

/-- The next number of the row. -/
def draw (d : Dice) : Value :=
  d.rolls.getD (d.used % d.rolls.size) (.int 0)

/-- The number that a die with so many sides shows, where the sides are numbered from one. -/
def face (drawn sides : Value) : Except Mishap Value := do
  Value.add (.int 1) (← drawn.rem (← (← sides.sub (.int 1)).add (.int 1)))

/-- Throws a die with so many sides. -/
def roll (sides : Value) : Attempt Dice Value := do
  let d ← get
  set { d with used := d.used + 1 }
  ExceptT.mk (pure (face d.draw sides))

/-- The sum of several throws, added to a number. -/
def total (sides : Value) : (throws : Nat) → (sum : Value) → Attempt Dice Value
  | 0, sum => return sum
  | throws + 1, sum => do
    let shown ← roll sides
    match sum.add shown with
    | .ok sum => total sides throws sum
    | .error m => throw m

end Dice

end VisualNovel
