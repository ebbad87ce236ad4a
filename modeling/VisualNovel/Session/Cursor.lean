import VisualNovel.Script.Beat
import VisualNovel.Value.Display
import VisualNovel.Value.Number

/-!
# The cursor

The place in a script where a session stands. The cursor is exhausted when it stands behind the last
beat of its conversation; what that means is left to its owner. Beside its place the cursor counts
the beats that were completed, which are those it did not skip.
-/

namespace VisualNovel

open Script

/-- A place as it is saved. It need not exist in any script. -/
structure Position where
  conversation : String := startConversation
  index : Int := 0
  completed : Int := 0
  deriving Repr, DecidableEq, Inhabited

namespace Position

/-- The place as a record. -/
def toValue (p : Position) : Value :=
  .ofFields [("conversation", .text p.conversation), ("index", .int p.index),
    ("units_completed", .int p.completed)]

/-- The place as a row. -/
def toRow (p : Position) : Value :=
  .list [.text p.conversation, .int p.index, .int p.completed]

/-- Reads a place; what is missing is the start. -/
def ofValue (v : Value) : Except Mishap Position := do
  let fs ← v.fields
  return {
    conversation := ((fs.get? "conversation").getD (.text startConversation)).shown
    index := ← ((fs.get? "index").getD (.int 0)).toInt
    completed := ← ((fs.get? "units_completed").getD (.int 0)).toInt }

end Position

/-- A place in a conversation of a script. -/
structure Cursor where
  script : Script
  beats : Array Beat
  conversation : String
  index : Nat := 0
  completed : Nat := 0
  deriving Inhabited

namespace Cursor

/-- The cursor at the start of a conversation. -/
def start (script : Script) (conversation : String := startConversation) :
    Except StoryError Cursor := do
  return { script, beats := ← script.lookup conversation, conversation }

/-- The place to save. -/
def position (c : Cursor) : Position :=
  { conversation := c.conversation, index := c.index, completed := c.completed }

/-- Whether no beat is left. -/
def exhausted (c : Cursor) : Bool :=
  decide (c.beats.size ≤ c.index)

/-- The beat at the cursor. -/
def current (c : Cursor) : Option Beat :=
  c.beats[c.index]?

/-- Completes a number of beats, as far as there are any. -/
def advance (c : Cursor) (count : Int := 1) : Cursor :=
  let room : Int := (c.beats.size : Int) - c.index
  let step := (max 0 (min count room)).toNat
  { c with index := c.index + step, completed := c.completed + step }

/-- Passes over the beat at the cursor without completing it. -/
def skip (c : Cursor) : Cursor :=
  if c.exhausted then c else { c with index := c.index + 1 }

/-- A number moved into the bounds of a conversation. -/
def clamp (beats : Array Beat) (index : Int) : Nat :=
  (max 0 (min index beats.size)).toNat

/-- Goes to a place in the conversation. -/
def jump (c : Cursor) (index : Int) : Cursor :=
  { c with index := clamp c.beats index }

/-- Goes to the start of another conversation of the script. -/
def switchTo (c : Cursor) (conversation : String) : Except StoryError Cursor :=
  start c.script conversation

/-- Takes up a saved place in a script. -/
def rebind (script : Script) (p : Position) : Except StoryError Cursor := do
  let beats ← script.lookup p.conversation
  return { script, beats, conversation := p.conversation, index := clamp beats p.index
           completed := (max 0 p.completed).toNat }

end Cursor

end VisualNovel
