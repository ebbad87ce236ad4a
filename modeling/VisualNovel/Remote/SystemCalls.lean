import VisualNovel.Remote.Call
import VisualNovel.SystemCall

/-!
# System calls from afar

The handlers that are registered note how they are called and give back a value. The calls:
`register`, `send` and `autosave`.
-/

namespace VisualNovel.Remote

/-- The handlers, and what they were asked for. -/
structure CallBoard where
  /-- The handlers, each with the name it was registered by and what it gives back. -/
  calls : SystemCalls (String × Value) := {}
  /-- How often a save was asked for. -/
  saves : Nat := 0
  /-- The calls of registered handlers: the name and the arguments. -/
  made : Tape Value := {}
  log : Tape Note := {}

namespace CallBoard

/-- Adds a line to the log. -/
def note (level : Level) (text : String) : Action CallBoard Unit :=
  modify fun b => { b with log := b.log.push ⟨level, text⟩ }

/-- The host's way to save, if it has one that gives back a value. -/
def saver (result : Option Value) : Option (Action CallBoard Bool) :=
  result.map fun v => do
    modify fun b => { b with saves := b.saves + 1 }
    return v.truthy

/-- The name and the arguments of a call that is made of the parts of a value. -/
def partsOf (v : Value) : Except Mishap (List Value) :=
  match v with
  | .record (_ :: _) => .error .missingKey
  | v => if v.truthy then v.parts else .ok []

/-- Answers a call by a registered handler. -/
def answer (handler : String × Value) (args : List Value) : Action CallBoard Value := do
  modify fun b => { b with made := b.made.push (.list [.text handler.1, .list args]) }
  return handler.2

end CallBoard

/-- A call of the handlers; `saving` is what saving gives back, if the host can save. -/
def callSystemCalls (saving : Option Value) (c : Call) : Action CallBoard Value := do
  let saver := CallBoard.saver saving
  match c.name with
  | "register" =>
    let name ← Action.ofMishap (c.arg 0).textMember
    quietly (modify fun b => { b with calls := b.calls.register name (name, c.arg 1) })
  | "send" =>
    let parts ← Action.ofMishap (CallBoard.partsOf (c.arg 0))
    (← get).calls.send CallBoard.note saver CallBoard.answer parts
  | "autosave" => return .bool (← SystemCalls.autosave CallBoard.note saver)
  | _ => throw (.mishap .noMember)

end VisualNovel.Remote
