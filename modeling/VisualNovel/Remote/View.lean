import VisualNovel.Script.Beat
import VisualNovel.Session.Snapshot

/-!
# Views

Scripts, scenes and snapshots as plain values. A record whose order matters is a row of pairs.
-/

namespace VisualNovel.Remote

open Script

/-- A record as a row of its keys and values; any other value as it is. -/
def pairs : Value → Value
  | .record fs => .list (fs.map fun (k, v) => .list [k, v])
  | v => v

/-- A record in which the fields of some names are rows of pairs. -/
def withPairs (names : List String) : Value → Value
  | .record fs => .record (fs.map fun (k, v) => (k, if isNamed k then pairs v else v))
  | v => v
where
  /-- Whether a key is one of the names. -/
  isNamed (k : Value) : Bool := names.any fun n => k == .text n

/-- The record of a scene, with its sprites and their other names in order. -/
def sceneRecord (v : Value) : Value :=
  withPairs ["sprites", "sprite_aliases"] v

/-- The record of a snapshot, with all that has an order in order. -/
def snapshotRecord (v : Value) : Value :=
  match withPairs ["flags", "choice_sets"] v with
  | .record fs =>
    .record (fs.map fun (k, v) => (k, if k == .text "scene" then sceneRecord v else v))
  | v => v

/-- A scene. -/
def sceneView (s : Scene) : Except Mishap Value := do
  return sceneRecord (← s.toValue.spelled)

/-- A snapshot. -/
def snapshotView (s : Snapshot) : Except Mishap Value := do
  return snapshotRecord (← s.toValue)

/-- A beat. -/
def beatView : Beat → Value
  | .dialogue d => .ofFields [("text", d.text), ("speaker", d.speaker), ("line", d.line)]
  | .command c =>
    .ofFields [("kind", .text c.kind.keyword), ("args", .list c.args), ("line", c.line)]

/-- The beats of a conversation. -/
def beatsView (beats : Array Beat) : Value :=
  .list (beats.toList.map beatView)

/-- A script. -/
def scriptView (s : Script) : Value :=
  let conversations := s.conversations.map fun (name, beats) => .list [.text name, beatsView beats]
  .ofFields [("name", s.name), ("conversations", .list conversations)]

end VisualNovel.Remote
