import VisualNovel.Console
import VisualNovel.Engine.Setup
import VisualNovel.Window.Draw

/-!
# Hosts

Collaborators around a console and around a window. They have no listeners, answer the calls that
every script knows, and never call the engine back.
-/

namespace VisualNovel

variable {σ : Type}

namespace Collaborators

/-- Collaborators around a renderer. -/
def quiet (prepare : Scene → Play σ Unit) (apply : Intent → Play σ Unit)
    (showError : String → Play σ Unit) : Collaborators σ where
  prepare := prepare
  apply
    | some i => apply i
    | none => throw (.mishap .noMember)
  showError := showError
  deliver _ _ := pure ()
  systemCall := Engine.answerCall ({} : SystemCalls Empty) nofun
  finished := pure ()

/-- Collaborators around a console. -/
def console (place : Place σ Console) : Collaborators σ :=
  let there : Place (Engine σ) Console := Engine.outsidePlace.inside place
  quiet (fun s => modify (there.update (Console.prepare s)))
    (fun i => Action.attempt there (Console.apply i))
    (fun m => modify (there.update (Console.showError m)))

/-- The place of a window and the files that it loads from. -/
def deskPlace (place : Place σ Window) : Place (Engine σ) Desk where
  get e := { window := place.get e.outside, disk := e.stage.disk }
  set d e := Engine.diskPlace.set d.disk { e with outside := place.set d.window e.outside }

/-- Collaborators around a window. -/
def window (place : Place σ Window) : Collaborators σ :=
  let there := deskPlace place
  quiet (fun s => Action.attempt there (Desk.prepare s))
    (fun i => Action.attempt there (Desk.apply i))
    (fun m => Action.attempt there (Desk.change (Window.showError (.text m))))

end Collaborators

end VisualNovel
