import VisualNovel.Remote.Call
import VisualNovel.Session.Backlog

/-!
# The backlog from afar

A backlog whose view is moved by values of any kind, and may so come to stand between two lines. The
calls: `push`, `current`, `scroll_up`, `scroll_down`, `lines_in`, `tail`, `clear`, `history`, `len`
and `view`.
-/

namespace VisualNovel.Remote

/-- A backlog with a view that need not be a whole number. -/
structure LooseBacklog where
  backlog : Backlog := {}
  view : Value := .int (-1)

namespace LooseBacklog

/-- A backlog as it is. -/
def ofBacklog (b : Backlog) : LooseBacklog :=
  { backlog := b, view := .int b.view }

/-- The backlog with its view, which falls back to what it was if it is no whole number. -/
def toBacklog (b : LooseBacklog) : Backlog :=
  { b.backlog with view := b.view.whole?.getD b.backlog.view }

/-- The number of lines. -/
def length (b : LooseBacklog) : Nat :=
  b.backlog.lines.length

/-- Whether the view follows the newest line. -/
def follows (b : LooseBacklog) : Bool :=
  b.view.equal (.int (-1))

/-- The line that the view shows. -/
def current (b : LooseBacklog) : Except Mishap (Option Line) :=
  match b.view.whole? with
  | some view => { b.backlog with view }.current
  | none => do
    if b.backlog.lines.isEmpty then return none
    let place ← b.view.smallest (.int (b.length - 1))
    { b.backlog with view := ← place.asWhole }.current

/-- Moves the view to older lines. -/
def scrollUp (b : LooseBacklog) (n : Value) : Except Mishap LooseBacklog := do
  if b.backlog.lines.isEmpty then return b
  let top : Value := if b.follows then .int (b.length - 1) else b.view
  return { b with view := ← (Value.int 0).largest (← top.sub n) }

/-- Moves the view to newer lines; at the end it follows again. -/
def scrollDown (b : LooseBacklog) (n : Value) : Except Mishap LooseBacklog := do
  if b.follows then return b
  let view ← b.view.add n
  let atEnd ← (Value.int ((b.length : Int) - 1)).atMost view
  return { b with view := if atEnd then .int (-1) else view }

/-- The last so many lines. -/
def tail (b : LooseBacklog) (n : Value) : Except Mishap (List Line) := do
  if ← n.atMost (.int 0) then return []
  return b.backlog.tail (← n.asWhole)

end LooseBacklog

/-- Lines as rows. -/
def linesView (lines : List Line) : Value :=
  .list (lines.map Line.toValue)

/-- A call of a backlog. -/
def callBacklog (c : Call) : Action LooseBacklog Value := do
  let b ← get
  match c.name with
  | "push" => become (.ofBacklog (b.backlog.push ⟨c.arg 0, c.arg 1, c.arg 2⟩))
  | "current" => return ((← Action.ofMishap b.current).map Line.toValue).getD .null
  | "scroll_up" => become (← Action.ofMishap (b.scrollUp (c.argOr 0 (.int 1))))
  | "scroll_down" => become (← Action.ofMishap (b.scrollDown (c.argOr 0 (.int 1))))
  | "lines_in" => return linesView (b.backlog.linesIn (c.arg 0))
  | "tail" => return linesView (← Action.ofMishap (b.tail (c.arg 0)))
  | "clear" => become (.ofBacklog b.backlog.clear)
  | "history" => return linesView b.backlog.lines
  | "len" => return .int b.length
  | "view" => return b.view
  | _ => throw (.mishap .noMember)

end VisualNovel.Remote
