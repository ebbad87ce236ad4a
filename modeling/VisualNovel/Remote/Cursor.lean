import VisualNovel.Remote.Call
import VisualNovel.Remote.View
import VisualNovel.Session.Cursor

/-!
# The cursor from afar

A cursor that is moved by values of any kind. Numbers that are not whole move it between two beats,
where it stands on none. The calls: `current`, `len`, `exhausted`, `advance`, `skip`, `jump`,
`switch`, `rebind` and `from_dict`.
-/

namespace VisualNovel.Remote

open Script

/-- A place in a conversation of a script, where the numbers need not be whole. -/
structure LooseCursor where
  script : Script
  beats : Array Beat
  conversation : Value
  index : Value := .int 0
  completed : Value := .int 0
  deriving Inhabited

namespace LooseCursor

/-- The cursor at the start of the conversation that a value names. -/
def start (script : Script) (conversation : Value) : Except Fault LooseCursor := do
  let name ← script.named conversation
  return { script, beats := ← (script.lookup name).mapError .story, conversation }

/-- The place as a row. -/
def toRow (c : LooseCursor) : Value :=
  .list [c.conversation, c.index, c.completed]

/-- The place as a record. -/
def toValue (c : LooseCursor) : Value :=
  .ofFields [("conversation", c.conversation), ("index", c.index),
    ("units_completed", c.completed)]

/-- Whether no beat is left. -/
def exhausted (c : LooseCursor) : Except Mishap Bool :=
  (Value.int c.beats.size).atMost c.index

/-- The beat at the cursor. -/
def current (c : LooseCursor) : Except Mishap (Option Beat) := do
  if ← c.exhausted then return none
  return c.beats[(← c.index.asWhole).toNat]?

/-- Completes a number of beats, as far as there are any. The place is moved before the beats are
counted. -/
def advance (count : Value) : Action LooseCursor Unit := do
  let c ← get
  let step ← Action.ofMishap do count.clamped (← (Value.int c.beats.size).sub c.index)
  let index ← Action.ofMishap (c.index.add step)
  set { c with index }
  let completed ← Action.ofMishap (c.completed.add step)
  set { c with index, completed }

/-- Passes over the beat at the cursor without completing it. -/
def skip (c : LooseCursor) : Except Mishap LooseCursor := do
  if ← c.exhausted then return c
  return { c with index := ← c.index.add (.int 1) }

/-- Goes to a place in the conversation. -/
def jump (c : LooseCursor) (index : Value) : Except Mishap LooseCursor := do
  return { c with index := ← (Value.int (← index.toInt)).clamped (.int c.beats.size) }

/-- Takes up a place in a script: a conversation, and the two numbers if they are given. Numbers
that are none leave the cursor where it was, but among the beats of the other conversation. -/
def rebind (script : Script) (place : List Value) : Action LooseCursor Unit := do
  if 3 < place.length then throw (.mishap .wrongType)
  let there ← Action.ofExcept (start script (place.getD 0 (.text startConversation)))
  modify fun c => { c with script, beats := there.beats }
  let index ← Action.ofMishap ((place.getD 1 (.int 0)).clamped (.int there.beats.size))
  let completed ← Action.ofMishap ((Value.int 0).largest (place.getD 2 (.int 0)))
  set { there with index, completed }

end LooseCursor

/-- A call of a cursor, beside the scripts that it can be moved to. -/
def callCursor (scripts : Table Value Script) (c : Call) : Action LooseCursor Value := do
  let cursor ← get
  match c.name with
  | "current" => return ((← Action.ofMishap cursor.current).map beatView).getD .null
  | "len" => return .int cursor.beats.size
  | "exhausted" => return .bool (← Action.ofMishap cursor.exhausted)
  | "advance" => quietly (LooseCursor.advance (c.argOr 0 (.int 1)))
  | "skip" => become (← Action.ofMishap cursor.skip)
  | "jump" => become (← Action.ofMishap (cursor.jump (c.arg 0)))
  | "switch" => become (← Action.ofExcept (LooseCursor.start cursor.script (c.arg 0)))
  | "rebind" =>
    match Table.get? (← Action.ofMishap (c.arg 0).asKey) scripts with
    | none => throw (.mishap .missingKey)
    | some script =>
      let place ← Action.ofMishap (c.argOr 1 (.list [])).parts
      quietly (LooseCursor.rebind script place)
  | "from_dict" => return (← Action.ofMishap (Position.ofValue (c.arg 0))).toValue
  | _ => throw (.mishap .noMember)

end VisualNovel.Remote
