import VisualNovel.Config
import VisualNovel.Remote.Files
import VisualNovel.Value.Equality

/-!
# Settings from afar

The calls: `default`, `merge`, `load`, `save`, `files`, and `poke`, which asks whether a change of
the defaults would be seen by the next one who asks for them.
-/

namespace VisualNovel.Remote

/-- The path that settings are loaded from, if one is given. -/
def pathArgument (v : Value) : Except Mishap (Option String) :=
  match v with
  | .null => .ok none
  | v => some <$> v.asText

/-- Whether a default has a value. -/
def defaultIs (part key value : Value) : Except Mishap Bool := do
  match Table.get? (← part.asKey) (← Config.default.toValue.fields) with
  | none => throw .missingKey
  | some settings =>
    return ((Table.get? (← key.asKey) (← settings.fields)).getD .null).equal value

/-- A call of the settings. -/
def callConfig (c : Call) : Action Disk Value := do
  match c.name with
  | "default" => return Config.default.toValue
  | "merge" => return (← Action.ofMishap (Config.merge (c.arg 0))).toValue
  | "load" =>
    let path ← Action.ofMishap (pathArgument (c.arg 0))
    return (← Action.attempt .whole (Config.load path)).toValue
  | "save" =>
    let path ← Action.ofMishap (c.arg 1).asText
    return .bool (← Action.attempt .whole (Config.save (c.arg 0) path))
  | "files" => return filesView (← get).files
  | "poke" => return .bool (← Action.ofMishap (defaultIs (c.arg 0) (c.arg 1) (c.arg 2)))
  | _ => throw (.mishap .noMember)

end VisualNovel.Remote
