import VisualNovel.Engine.Input

/-!
# Playing without a screen

A session is driven to its end: effects are done at once, lines are advanced past, and choices come
from a list, and are the first option when the list is used up.
-/

namespace VisualNovel.Engine

variable {σ : Type}

/-- Moves on whatever the engine waits for; the choices that are left. -/
def driveOnce (c : Collaborators σ) (choices : List Value) : Play σ (List Value) := do
  let e ← get
  match e.mode, e.effect with
  | .effectRunning, some effect =>
    discard (effectFinished c (effect.effectId.getD .null))
    return choices
  | .awaitingChoice, _ =>
    discard (choose c (choices.head?.getD (.int 0)))
    return choices.tail
  | _, _ =>
    discard (if e.awaiting then advance c else step c)
    return choices

/-- Moves on until the session ends or the rounds are used up; whether it ended. -/
def drive (c : Collaborators σ) : (rounds : Nat) → List Value → Play σ Bool
  | 0, _ => return false
  | rounds + 1, choices => do
    if (← get).finished then return true
    drive c rounds (← driveOnce c choices)

/-- Drives the session to its end. The choices are anything that can be gone through, and the rounds
have to be a whole number. -/
def runHeadless (c : Collaborators σ) (choices : Value := .null) (rounds : Value := .int 100000) :
    Play σ Unit := do
  let choices ← Action.ofMishap (choices.orElse (.list [])).parts
  if (← get).mode == .loading then resourcesReady c
  let rounds ← Action.ofMishap rounds.asWhole
  if !(← drive c rounds.toNat choices) then
    note .warning s!"run_headless stopped after {rounds} iterations"

end VisualNovel.Engine
