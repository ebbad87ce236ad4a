import VisualNovel.Number.Power
import VisualNovel.Value.Equality

/-!
# The backlog

The last lines that were displayed, oldest first, and a view of them. The view follows the newest
line until it is scrolled up; it then stays with an older one until it is scrolled down to the end
again.
-/

namespace VisualNovel

/-- A line that was displayed. -/
structure Line where
  name : Value := .null
  text : Value := .null
  conversation : Value := .null
  deriving Inhabited

/-- The line as a row. -/
def Line.toValue (l : Line) : Value :=
  .list [l.name, l.text, l.conversation]

/-- The last lines, up to a capacity. -/
structure Backlog where
  capacity : Nat := 500
  lines : List Line := []
  /-- Where the view stands; `-1` follows the newest line. -/
  view : Int := -1
  deriving Inhabited

namespace Backlog

/-- An empty backlog that holds at least one line. -/
def new (capacity : Value) : Except Mishap Backlog := do
  let n ← capacity.toInt
  if (Number.twoTo 63 : Int) ≤ n then throw .overflow
  return { capacity := (max 1 n).toNat }

/-- The last so many items of a list. -/
def lastOf {α : Type} (count : Nat) (xs : List α) : List α :=
  xs.drop (xs.length - count)

/-- Adds a line; the oldest gives way when there are too many. The view follows. -/
def push (b : Backlog) (line : Line) : Backlog :=
  { b with lines := lastOf b.capacity (b.lines ++ [line]), view := -1 }

/-- The line that the view shows. A negative place counts from the end. -/
def current (b : Backlog) : Except Mishap (Option Line) :=
  let count : Int := b.lines.length
  if count == 0 then .ok none
  else
    let place := if b.view == -1 then count - 1 else min b.view (count - 1)
    let place := if place < 0 then place + count else place
    if place < 0 then .error .badIndex else .ok b.lines[place.toNat]?

/-- Moves the view to older lines. -/
def scrollUp (b : Backlog) (n : Int := 1) : Backlog :=
  if b.lines.isEmpty then b
  else
    let top : Int := if b.view == -1 then b.lines.length - 1 else b.view
    { b with view := max 0 (top - n) }

/-- Moves the view to newer lines; at the end it follows again. -/
def scrollDown (b : Backlog) (n : Int := 1) : Backlog :=
  if b.view == -1 then b
  else
    let view := b.view + n
    { b with view := if (b.lines.length : Int) - 1 ≤ view then -1 else view }

/-- The lines of a conversation. -/
def linesIn (b : Backlog) (conversation : Value) : List Line :=
  b.lines.filter fun l => l.conversation.equal conversation

/-- The last so many lines. -/
def tail (b : Backlog) (n : Int) : List Line :=
  lastOf n.toNat b.lines

/-- Forgets all lines. -/
def clear (b : Backlog) : Backlog :=
  { b with lines := [], view := -1 }

end Backlog

end VisualNovel
