import VisualNovel.Engine.Outcome
import VisualNovel.Engine.Stage

/-!
# Effects

A change of the scene that takes time. A change with a positive duration holds the story until it is
reported as done. The session is set aside before the change, so a save made meanwhile plays the
effect again from its start.
-/

namespace VisualNovel.Command

open Script

/-- A command met parameters that no script line gives it. -/
def misfit {α : Type} : Action Stage α :=
  throw (.mishap .wrongType)

/-- A parameter that has to be a flag. -/
def flagOf (v : Value) : Action Stage String :=
  Action.ofMishap v.asFlag

/-- A parameter that has to be able to be a key. -/
def keyOf (v : Value) : Action Stage Value :=
  Action.ofMishap v.asKey

/-- Takes a key out of a table. Nothing is asked of the key if the table is empty. -/
def takeOut {α : Type} (key : Value) (t : Table Value α) :
    Action Stage (Option α × Table Value α) := do
  if t.isEmpty then return (none, t)
  let key ← keyOf key
  return (Table.get? key t, Table.erase key t)

/-- The intents of a change that takes no time. A fade ends at once. -/
def instantIntents (kind : IntentKind) (payload : Table String Value) : List Intent :=
  let sent : Intent := { kind, payload := ("duration", .float 0.0) :: payload }
  if kind == .fadeBegin then
    [sent, { kind := .fadeEnd, payload := [("direction", sent.get "direction")] }]
  else [sent]

/-- Makes a change of the scene, at once or with an effect that holds the story. -/
def runEffect (kind : IntentKind) (duration : Value) (payload : Table String Value)
    (change : Action Stage Unit) : Action Stage Outcome := do
  if ← Action.ofMishap (duration.greater (.int 0)) then
    modify (Stage.mapSession Session.capture)
    change
    return .hold kind (payload ++ [("duration", duration)])
  else
    change
    return .proceed (instantIntents kind payload)

end VisualNovel.Command
