import VisualNovel.Remote.Console
import VisualNovel.Window.Loop

/-!
# The window from afar

What a player does is given by records: a key, a click, or that the player leaves. The calls of a
window: `run`, `apply`, `prepare`, `scene`, `clock`, `poll`, `draw`, `choice_at`, `wrap` and
`show_error`; each is a record with the name of the call under `do`.
-/

namespace VisualNovel.Remote

/-- What a player does. -/
def inputOf (v : Value) : Input :=
  let fs := v.fields?.getD []
  if Fields.has "key" fs then .key (Key.ofName (v.field "key").shown)
  else if Fields.has "click" fs then
    .click (v.field "click") ((Fields.get? "button" fs).getD (.int 1))
  else if Fields.has "quit" fs then .quit
  else .other

/-- How many frames a player stays at most. -/
def patience : Nat := 2000

/-- What a player does frame by frame, and leaves when all patience is used up. -/
def framesOf (v : Value) : List (List Input) :=
  let given := (v.parts.toOption.getD []).map fun frame =>
    (frame.parts.toOption.getD []).map inputOf
  given ++ List.replicate (patience - given.length) [] ++ [[.quit]]

/-- The item of a value at a place. -/
def itemAt (v : Value) (place : Nat) : Except Mishap Value :=
  match v with
  | .record fs =>
    match Table.get? (.int place) fs with
    | some v => .ok v
    | none => .error .missingKey
  | v => do
    match (← v.parts)[place]? with
    | some v => return v
    | none => throw .badIndex

/-- A window as a record describes it. -/
def windowOf (settings : Value) : Except Mishap Window := do
  let setting (name : String) (other : Value) : Value :=
    (Fields.get? name (settings.fields?.getD [])).getD other
  let size := setting "size" (.list [.int 320, .int 240])
  Window.new .even (← itemAt size 0) (← itemAt size 1) (setting "title" (.text "t"))
    (setting "asset_dir" .null) (setting "frame_rate" (.int 60))
    (setting "strict_assets" .null).truthy

variable {σ : Type}

/-- Changes the window. -/
def changeWindow (place : Place σ Window) (f : Window → Window) : Play σ Unit :=
  modify (Engine.outsidePlace.update (place.update f))

/-- Plays frames in the window. What was drawn meanwhile is forgotten, unless it is asked for. -/
def runWindow (c : Collaborators σ) (place : Place σ Window) (op : Value) : Play σ Unit := do
  let marks := (place.get (← get).outside).marks
  let fs := op.fields?.getD []
  let milliseconds := (Fields.get? "dt_ms" fs).getD (.int 16)
  let r ← Action.outcome
    (Window.run c place milliseconds (op.field "frames") 0 (framesOf (op.field "events")))
  if !(op.field "draws").truthy then changeWindow place fun w => { w with marks }
  Action.ofExcept r

/-- A call of a window. -/
def callWindow (c : Collaborators σ) (place : Place σ Window) (op : Value) : Play σ Value := do
  let e ← get
  let w := place.get e.outside
  let onDesk {α : Type} (act : Attempt Desk α) : Play σ α :=
    Action.attempt (Collaborators.deskPlace place) act
  match (op.field "do").shown with
  | "run" => quietly (runWindow c place op)
  | "apply" =>
    let i := op.field "intent"
    let i ← Action.ofMishap (intentOf (i.field "kind") (i.field "payload") (i.field "id"))
    quietly (c.apply (some i))
  | "prepare" =>
    let scene ← Action.ofMishap (Scene.ofValue (op.field "scene"))
    quietly (onDesk (Desk.prepare scene))
  | "scene" => tell (sceneView w.scene)
  | "clock" => quietly (changeWindow place fun w => { w with ticks := op.field "ms" })
  | "poll" => return (← onDesk (Desk.pollEffect (op.field "now"))).getD .null
  | "draw" =>
    let backlog := if (op.field "backlog").truthy then some e.backlog else none
    quietly (onDesk (Desk.draw backlog))
  | "choice_at" =>
    match ← Action.ofMishap (w.choiceAt (op.field "pos")) with
    | some n => return .int n
    | none => return .null
  | "wrap" => return .ofTexts (← onDesk (Desk.wrapped (op.field "text") (op.field "width")))
  | "show_error" => quietly (changeWindow place (Window.showError (op.field "message")))
  | _ => throw (.mishap .badValue)

/-- What can be seen of a window. -/
def windowView (w : Window) : Value :=
  .ofFields [("visible", w.visibleText), ("choices", .list w.choices),
    ("offset", .list w.choiceOffset), ("banner", w.error), ("missing", .list w.missing),
    ("ready", .bool w.pendingReady), ("frame_rate", .int w.frameRate), ("ticks", w.ticks)]

end VisualNovel.Remote
