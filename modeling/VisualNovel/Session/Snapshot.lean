import VisualNovel.Session.Cursor
import VisualNovel.Session.Flags
import VisualNovel.Session.Scene
import VisualNovel.Value.Equality

/-!
# Snapshots

All of a session that a save keeps. A snapshot is written as a record; reading one accepts records
that lack parts or have too many, and fails on parts that cannot be what they are meant to be.
-/

namespace VisualNovel

/-- Named menus that a script builds up, each a row of texts and the conversations they lead to. -/
abbrev ChoiceSets := Table Value (List (Value × Value))

/-- A session as it is saved. -/
structure Snapshot where
  script : Value := .text ""
  cursor : Position := {}
  flags : Flags := {}
  overrides : Overrides := {}
  scene : Scene := {}
  choiceSets : ChoiceSets := []
  version : Int := 1
  deriving Inhabited

namespace Snapshot

/-- The menus as a record. -/
def choiceSetsValue (sets : ChoiceSets) : Value :=
  .record (Table.mapValues (fun options => .list (options.map fun o => .list [o.1, o.2])) sets)

/-- The parts of a snapshot by their names, of which some may be changed on the way. -/
def assemble (s : Snapshot) (part : Value → Except Mishap Value) : Except Mishap Value := do
  let overrides ← part s.overrides.toValue
  let scene ← part s.scene.toValue
  return .ofFields [("script", s.script), ("cursor", s.cursor.toValue), ("flags", s.flags.toValue),
    ("ui", overrides), ("scene", scene), ("choice_sets", choiceSetsValue s.choiceSets),
    ("version", .int s.version)]

/-- The snapshot as a record of what can be saved. -/
def toValue (s : Snapshot) : Except Mishap Value :=
  s.assemble Value.spelled

/-- Reads the options of a menu. -/
def optionsOf (v : Value) : Except Mishap (List (Value × Value)) := do
  (← v.parts).mapM fun part => do
    let (text, conversation) ← part.pair
    return (.text text.shown, .text conversation.shown)

/-- Reads menus. -/
def choiceSetsOf (v : Value) : Except Mishap ChoiceSets := do
  let fs ← (v.orElse (.record [])).fields
  return Table.ofEntries (← fs.mapM fun e => do return (.text e.1.shown, ← optionsOf e.2))

/-- Reads a snapshot. -/
def ofValue (v : Value) : Except Mishap Snapshot := do
  let fs ← v.fields
  let part (name : String) : Value := (fs.get name).orElse (.record [])
  let script := .text ((fs.get "script").orElse (.text "")).shown
  let cursor ← Position.ofValue (part "cursor")
  let flags ← Flags.ofFields (← (part "flags").fields)
  let overrides ← Overrides.ofValue (part "ui")
  let scene ← Scene.ofValue (part "scene")
  let choiceSets ← choiceSetsOf (part "choice_sets")
  let version ← ((fs.get? "version").getD (.int 1)).toInt
  return { script, cursor, flags, overrides, scene, choiceSets, version }

/-- Whether two snapshots cannot be told apart. -/
def same (s t : Snapshot) : Bool :=
  match s.assemble .ok, t.assemble .ok with
  | .ok v, .ok w => v.same w
  | _, _ => false

end Snapshot

end VisualNovel
