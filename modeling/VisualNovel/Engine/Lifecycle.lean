import VisualNovel.Engine.Basic

/-!
# The life of a session

How an engine changes its mode, starts loading, and ends, be it at the end of the story or with an
error.
-/

namespace VisualNovel.Engine

open Script

variable {σ : Type}

/-- Goes into a mode. Listeners hear of it if it is another one. -/
def setMode (c : Collaborators σ) (mode : Mode) : Play σ Unit := do
  let old := (← get).mode
  if old != mode then
    modify fun e => { e with mode }
    emit c (.modeChanged old mode)

/-- Starts to load what the scene needs. -/
def enterLoading (c : Collaborators σ) : Play σ Unit := do
  setMode c .loading
  let e ← get
  emit c (.loaded e.script.name e.cursor.conversation)
  c.prepare (← get).session.scene

/-- Ends the session, unless it has ended. An effect or a menu is dropped. -/
def finish (c : Collaborators σ) : Play σ Unit := do
  if (← get).finished then return
  modify fun e => { e with effect := none, menu := none, awaiting := false }
  modify (mapStage fun s => Stage.mapTimedText TimedText.endLine (s.mapSession Session.release))
  setMode c .ended
  emit c (.ended ((← get).error.map StoryError.text))
  c.finished

/-- Ends the session with an error, unless it has ended. A strict engine passes the error on. -/
def fail (c : Collaborators σ) (error : StoryError) : Play σ Unit := do
  if (← get).finished then return
  modify fun e => { e with error := some error }
  note .error s!"session ended: {error.text}"
  emit c (.failed error)
  c.showError error.text
  finish c
  if (← get).strict then throw (.story error)

/-- A collaborator reports that a picture or sound is missing. That ends the session. -/
def reportResourceError (c : Collaborators σ) (message : Value) : Play σ Unit := do
  let conversation := (← get).cursor.conversation
  fail c { cause := .stated .resource message, context := .text conversation }

end VisualNovel.Engine
