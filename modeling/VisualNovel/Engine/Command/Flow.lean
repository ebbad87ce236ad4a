import VisualNovel.Engine.Command.Effect

/-!
# Commands on the flow of the story

Conversations and scripts, flags, and the conditions on flags. A condition that holds lets the next
beat run, and one that does not hold skips exactly that beat.
-/

namespace VisualNovel.Command

open Script

/-- Goes to a conversation. -/
def setConversation (name : Value) : Action Stage Outcome := do
  Stage.switchConversation name
  return .stay

/-- Goes to a script of the library. The menus of the script that is left are dropped. -/
def switchScript (line name conversation : Value) : Action Stage Outcome := do
  let script ← Stage.fetchScript { cause := .noLibraryToSwitch name, line } name
  let conversation ←
    Action.ofExcept (script.named (conversation.orElse (.text startConversation)))
  let cursor ← Action.ofStory (Cursor.rebind script { conversation })
  let scriptName := script.name.orElse name
  modify (Stage.enter script cursor)
  modify (Stage.mapSession fun s => { s with scriptName, choiceSets := [] })
  modify (Stage.note .info s!"switched to script {scriptName.shown} ({cursor.conversation})")
  return .stay

/-- Gives a flag a value. -/
def setFlag (flag : String) (value : Value) : Action Stage Outcome := do
  let n ← Action.ofMishap value.toInt
  modify (Stage.mapFlags fun f => f.set flag n)
  return .next

/-- Adds to a flag. -/
def modifyFlag (flag : String) (delta : Value) : Action Stage Outcome := do
  let n ← Action.ofMishap delta.toInt
  modify (Stage.mapFlags fun f => f.modify flag n)
  return .next

/-- Adds the value of one flag to another, or takes it off. -/
def modifyFlagByFlag (up : Bool) (flag other : String) : Action Stage Outcome := do
  modify (Stage.mapFlags fun f => f.modify flag (if up then f.get other else -f.get other))
  return .next

/-- Whether a number is at least one. -/
def atLeastOne (v : Value) : Action Stage Bool :=
  Action.ofMishap (do return (← v.greater (.int 1)) || v.equal (.int 1))

/-- Throws dice; their sum is the value of the flag. No dice, or dice without sides, give zero. -/
def rollDice (sides count flag : Value) : Action Stage Outcome := do
  let sum ←
    if ← (do if ← atLeastOne sides then atLeastOne count else return false) then
      let throws ← Action.ofMishap count.asWhole
      Action.attempt Stage.dicePlace (Dice.total sides throws.toNat (.int 0))
    else pure (.int 0)
  setFlag (← flagOf flag) sum

/-- Whether a condition on a flag holds. -/
def holds (kind : CommandKind) (flags : Flags) (flag : String) (rest : List Value) :
    Except Mishap Bool := do
  let value := Value.int (flags.get flag)
  match kind, rest with
  | .isFlag, [v] => return value.equal v
  | .isFlagMoreThan, [v] => value.greater v
  | .isFlagLessThan, [v] => value.less v
  | .isFlagBetween, [a, b] =>
    let (low, high) := if ← b.less a then (b, a) else (a, b)
    if ← low.less value then value.less high else return false
  | .isFlagMoreThanFlag, [v] => return decide (flags.get (← v.asFlag) < flags.get flag)
  | .isFlagLessThanFlag, [v] => return decide (flags.get flag < flags.get (← v.asFlag))
  | .isFlagEqualToFlag, [v] => return flags.get flag == flags.get (← v.asFlag)
  | _, _ => throw .wrongType

/-- Runs the next beat or skips it. -/
def condition (kind : CommandKind) (flag : String) (rest : List Value) : Action Stage Outcome := do
  let ok ← Action.ofMishap (holds kind (← get).session.flags flag rest)
  modify (Stage.mapCursor fun c => if ok then c.advance else c.advance.skip)
  return .stay

/-- Goes to the conversation of the first value that the flag has, if any. -/
def jumpOnFlag (flag : String) : List (List Value) → Action Stage Outcome
  | [] => return .next
  | [expected, conversation] :: rest => do
    if (Value.int ((← get).session.flags.get flag)).equal expected then
      setConversation conversation
    else jumpOnFlag flag rest
  | _ :: _ => misfit

end VisualNovel.Command
