import VisualNovel.Disk
import VisualNovel.Place
import VisualNovel.Script.Error

/-!
# Actions

Computations on a state that may stop with a fault. A fault undoes nothing: the state stays as far
as the computation came.
-/

namespace VisualNovel

open Script

/-- A computation on a state that may stop with a fault. -/
abbrev Action (σ : Type) := ExceptT Fault (StateM σ)

namespace Action

variable {σ τ α : Type}

/-- Carries out the action on a state. -/
def perform (act : Action σ α) (s : σ) : Except Fault α × σ :=
  (ExceptT.run act).run s

/-- A plain result as an action. -/
def ofExcept (r : Except Fault α) : Action σ α :=
  ExceptT.mk (pure r)

/-- A result that may be a mishap. -/
def ofMishap (r : Except Mishap α) : Action σ α :=
  ofExcept (r.mapError .mishap)

/-- A result that may be an error of the story. -/
def ofStory (r : Except StoryError α) : Action σ α :=
  ofExcept (r.mapError .story)

/-- The result of an action, taken as a value: the action that yields it never stops. -/
def outcome (act : Action σ α) : Action σ (Except Fault α) :=
  ExceptT.mk do return .ok (← ExceptT.run act)

/-- Carries out an action on a part of the state. -/
def onPart (place : Place σ τ) (act : Action τ α) : Action σ α := do
  let (r, t) := act.perform (place.get (← get))
  modify (place.set t)
  ofExcept r

/-- Carries out an attempt on a part of the state. -/
def attempt (place : Place σ τ) (act : Attempt τ α) : Action σ α := do
  let (r, t) := act.perform (place.get (← get))
  modify (place.set t)
  ofMishap r

end Action

end VisualNovel
