import VisualNovel.Script.Error
import VisualNovel.Value.Basic

/-!
# Modes and events

The modes of an engine, and what it tells its listeners.
-/

namespace VisualNovel

open Script

/-- What an engine is doing. -/
inductive Mode where
  /-- Waiting for the first pictures and sounds. -/
  | loading
  /-- Playing. -/
  | normal
  /-- Waiting for an effect to be done. -/
  | effectRunning
  /-- Waiting for a choice. -/
  | awaitingChoice
  /-- Done for good. -/
  | ended
  deriving Repr, DecidableEq, Inhabited

/-- The name of a mode. -/
def Mode.name : Mode → String
  | loading => "loading"
  | normal => "normal"
  | effectRunning => "effect_running"
  | awaitingChoice => "awaiting_choice"
  | ended => "ended"

/-- What an engine tells its listeners. -/
inductive Event where
  | loaded (script : Value) (conversation : String)
  | modeChanged (old new : Mode)
  | textShown (who text : Value)
  | commandRun (keyword : String) (args : List Value) (line : Value)
  | choicesShown (options : List Value)
  | choiceSelected (index : Nat) (text : Value)
  | failed (error : StoryError)
  | ended (error : Option String)
  deriving Inhabited

namespace Event

/-- The names of all events. -/
def names : List String :=
  ["engine.load", "engine.mode", "text.show", "command", "choice.show", "choice.select",
   "engine.error", "engine.end"]

/-- The name that listeners subscribe to. -/
def name : Event → String
  | loaded _ _ => "engine.load"
  | modeChanged _ _ => "engine.mode"
  | textShown _ _ => "text.show"
  | commandRun _ _ _ => "command"
  | choicesShown _ => "choice.show"
  | choiceSelected _ _ => "choice.select"
  | failed _ => "engine.error"
  | ended _ => "engine.end"

/-- What listeners hear of an event beside its name. -/
def details : Event → Table String Value
  | loaded script conversation =>
    [("script", script), ("conversation", .text conversation)]
  | modeChanged old new => [("old", .text old.name), ("new", .text new.name)]
  | textShown who text => [("who", who), ("text", text)]
  | commandRun keyword args line =>
    [("name", .text keyword), ("args", .list args), ("line", line)]
  | choicesShown options => [("options", .list options)]
  | choiceSelected index text => [("index", .int index), ("text", text)]
  | failed e => [("error", e.toValue), ("kind", .text e.cause.category.name)]
  | ended error => [("error", .ofText? error)]

end Event

end VisualNovel
