import VisualNovel.Remote.Call
import VisualNovel.Session.TimedText

/-!
# Timed text from afar

The calls: `cinematic`, `typewriter`, `begin`, `end`, `tick` and `input`.
-/

namespace VisualNovel.Remote

/-- A call of timed text. -/
def callTimedText (c : Call) : Action TimedText Value := do
  let attempt {α : Type} (act : Attempt TimedText α) : Action TimedText α :=
    Action.attempt .whole act
  match c.name with
  | "cinematic" => quietly (attempt (TimedText.setCinematic (c.arg 0) (c.argOr 1 (.bool false))))
  | "typewriter" => quietly (attempt (TimedText.setTypewriter (c.arg 0) (c.argOr 1 (.bool true))))
  | "begin" => quietly (attempt (TimedText.beginLine (c.arg 0)))
  | "end" => quietly (modify TimedText.endLine)
  | "tick" => return .bool (← attempt (TimedText.tick (c.arg 0)))
  | "input" => return .bool (← attempt TimedText.input)
  | _ => throw (.mishap .noMember)

end VisualNovel.Remote
