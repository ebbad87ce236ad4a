import VisualNovel.Console
import VisualNovel.Remote.Call
import VisualNovel.Remote.View

/-!
# The console from afar

The calls: `apply`, `prepare`, `clear` and `error`, which give back what was printed, `prepared` and
`blocking`. A renderer that is nothing but an interface leaves the first two out.
-/

namespace VisualNovel.Remote

/-- The kind of intent that a value names. -/
def intentKindOf (name : Value) : Except Mishap IntentKind :=
  match name.text?.bind IntentKind.ofName? with
  | some kind => .ok kind
  | none => .error .badValue

/-- The identity of an intent; nothing is none. -/
def identityOf : Value → Option Value
  | .null => none
  | v => some v

/-- The payload of an intent by the names of its values. -/
def payloadOf (v : Value) : Table String Value :=
  (v.fields?.getD []).map fun (k, v) => (k.shown, v)

/-- The intent of a kind, a payload and an identity. -/
def intentOf (kind payload identity : Value) : Except Mishap Intent := do
  return { kind := ← intentKindOf kind, payload := payloadOf payload
           effectId := identityOf identity }

/-- The kinds of the intents that a console has recorded. -/
def kindsView (c : Console) : Value :=
  .ofTexts (c.intents.toList.map fun i => i.kind.name)

/-- The scene that a console has taken over. -/
def preparedView (c : Console) : Except Mishap Value :=
  match c.prepared with
  | some s => sceneView s
  | none => .ok .null

/-- What a call prints. -/
def printing (act : Action Console Unit) : Action Console Value := do
  modify fun c => { c with printed := {} }
  act
  return .text (← get).output

/-- A call of a console, or of a mere interface. -/
def callConsole (bare : Bool) (c : Call) : Action Console Value := do
  match c.name with
  | "apply" =>
    let i ← Action.ofMishap (intentOf (c.arg 0) (c.arg 1) (c.arg 2))
    if bare then throw (.mishap .notImplemented)
    printing (Action.attempt .whole (Console.apply i))
  | "prepare" =>
    let scene ← Action.ofMishap (Scene.ofValue (c.arg 0))
    if bare then throw (.mishap .notImplemented)
    printing (modify (Console.prepare scene))
  | "clear" => printing (modify Console.clear)
  | "error" => printing (modify (Console.showError (c.arg 0).shown))
  | "prepared" => tell (preparedView (← get))
  | "blocking" => return .list ((← get).intents.toList.map fun i => .bool i.blocking)
  | _ => throw (.mishap .noMember)

end VisualNovel.Remote
