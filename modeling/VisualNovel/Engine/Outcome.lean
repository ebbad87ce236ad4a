import VisualNovel.Intent
import VisualNovel.Session.Snapshot

/-!
# Outcomes

What is left to do for the engine when a command has changed the stage.
-/

namespace VisualNovel

/-- An option of a menu: it goes to a conversation, or else adds to a flag. -/
structure ChoiceOption where
  text : Value
  conversation : Value := .null
  flag : Value := .null
  delta : Value := .int 0
  deriving Inhabited

/-- The option as a row. -/
def ChoiceOption.toValue (o : ChoiceOption) : Value :=
  .list [o.text, o.conversation, o.flag, o.delta]

/-- What is left to do after a command. -/
inductive Outcome where
  /-- Sends the intents and goes on to the next beat. -/
  | proceed (intents : List Intent)
  /-- The command has already moved the cursor. -/
  | stay
  /-- Starts an effect and waits until it is done. -/
  | hold (kind : IntentKind) (payload : Table String Value)
  /-- Shows a menu, under a line if there is one, and waits for a choice. -/
  | ask (options : List ChoiceOption) (line : Value)
  /-- Calls the host and goes on to the next beat. -/
  | call (args : List Value)
  deriving Inhabited

namespace Outcome

/-- Goes on to the next beat. -/
def next : Outcome := proceed []

/-- Sends one intent and goes on to the next beat. -/
def send (kind : IntentKind) (payload : Table String Value := []) : Outcome :=
  proceed [{ kind, payload }]

end Outcome

end VisualNovel
