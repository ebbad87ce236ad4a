import VisualNovel.Engine.Event
import VisualNovel.Engine.Outcome
import VisualNovel.Engine.Stage
import VisualNovel.EventBus
import VisualNovel.Saves
import VisualNovel.Session.Backlog

/-!
# The engine

The state of an engine, and those who work with it: a renderer, listeners, a host that answers
calls, and an owner who hears of the end. They may fail, and they may call the engine while it calls
them; what they remember is part of the state, so both are plain functions.
-/

namespace VisualNovel

open Script

/-- The state of an engine. What its collaborators remember is of the type `σ`. -/
structure Engine (σ : Type) where
  stage : Stage
  mode : Mode := .loading
  /-- The error that ended the session. -/
  error : Option StoryError := none
  /-- Whether a line is displayed that has to be advanced past. -/
  awaiting : Bool := false
  /-- The effect that is running. -/
  effect : Option Intent := none
  /-- How many effects were started; this numbers them. -/
  effectCount : Nat := 0
  /-- The menu that is waiting for a choice. -/
  menu : Option (List ChoiceOption) := none
  /-- Whether the engine is in the middle of a step. -/
  stepping : Bool := false
  /-- Whether an error that ends the session is also passed on to the caller. -/
  strict : Bool := false
  /-- The listeners, each under a number that its owner chose. -/
  bus : EventBus String Nat := {}
  backlog : Backlog := {}
  saves : Option SaveStore := none
  /-- The time that saves are stamped with. -/
  now : String := ""
  outside : σ

/-- A call of an engine, or of a collaborator. -/
abbrev Play (σ : Type) := Action (Engine σ)

/-- Those who work with an engine. -/
structure Collaborators (σ : Type) where
  /-- Loads what a scene needs. -/
  prepare : Scene → Play σ Unit
  /-- Carries out an intent. The intent of an effect is looked up when it is sent, and a listener
  may have ended the effect by then. -/
  apply : Option Intent → Play σ Unit
  /-- Shows an error to the player. -/
  showError : String → Play σ Unit
  /-- Tells a listener of an event. -/
  deliver : Nat → Event → Play σ Unit
  /-- Answers a call of the script. -/
  systemCall : List Value → Play σ Unit
  /-- Hears that the session has ended. -/
  finished : Play σ Unit

namespace Engine

variable {σ : Type}

/-- The live state of the story. -/
def session (e : Engine σ) : Session :=
  e.stage.session

/-- The script that is played. -/
def script (e : Engine σ) : Script :=
  e.stage.script

/-- The place in the script. -/
def cursor (e : Engine σ) : Cursor :=
  e.stage.session.cursor

/-- Whether the session has ended. -/
def finished (e : Engine σ) : Bool :=
  e.mode == .ended

/-- Changes the stage. -/
def mapStage (f : Stage → Stage) (e : Engine σ) : Engine σ :=
  { e with stage := f e.stage }

/-- Changes the session. -/
def mapSession (f : Session → Session) (e : Engine σ) : Engine σ :=
  e.mapStage (Stage.mapSession f)

/-- The place of the stage. -/
def stagePlace : Place (Engine σ) Stage where
  get e := e.stage
  set s e := { e with stage := s }

/-- The place of the files and the log. -/
def diskPlace : Place (Engine σ) Disk where
  get e := e.stage.disk
  set d e := e.mapStage fun s => { s with disk := d }

/-- The place of the timing of text. -/
def timedTextPlace : Place (Engine σ) TimedText where
  get e := e.stage.timedText
  set t e := e.mapStage (Stage.mapTimedText fun _ => t)

/-- The place of the backlog. -/
def backlogPlace : Place (Engine σ) Backlog where
  get e := e.backlog
  set b e := { e with backlog := b }

/-- The place of the listeners. -/
def busPlace : Place (Engine σ) (EventBus String Nat) where
  get e := e.bus
  set b e := { e with bus := b }

/-- The place of what collaborators remember. -/
def outsidePlace : Place (Engine σ) σ where
  get e := e.outside
  set o e := { e with outside := o }

/-- Carries out an action on the stage. -/
def onStage {α : Type} (act : Action Stage α) : Play σ α :=
  Action.onPart stagePlace act

/-- Carries out an attempt on the files and the log. -/
def onDisk {α : Type} (act : Attempt Disk α) : Play σ α :=
  Action.attempt diskPlace act

/-- Adds a line to the log. -/
def note (level : Level) (text : String) : Play σ Unit :=
  modify (mapStage (Stage.note level text))

/-- Calls the listener of a subscription. Nobody asks what it has made of its copy of the event. -/
def hear (c : Collaborators σ) (s : Subscription Nat) (event : Event) :
    StateM (Engine σ) (Except Fault Unit × Event) := do
  return (← (c.deliver s.listener event).run, event)

/-- Tells all listeners of an event. A listener that fails is logged. -/
def emit (c : Collaborators σ) (event : Event) : Play σ Unit :=
  ExceptT.lift (EventBus.emit busPlace event.name event (hear c)
    (modify (mapStage (Stage.note .error s!"listener for {Text.quoted event.name} failed"))))

/-- Sends an intent to the renderer. -/
def send (c : Collaborators σ) (kind : IntentKind) (payload : Table String Value := []) :
    Play σ Unit :=
  c.apply (some { kind, payload })

end Engine

end VisualNovel
