import VisualNovel.Remote.Cursor
import VisualNovel.Remote.Flags
import VisualNovel.Session.State

/-!
# The session from afar

A session whose scene can be given anything for its sprites. The calls: `live`, `persist`,
`capture`, `release`, `has_safe`, `flag`, `advance`, `sprite`, `move`, `scene`, `ui`, `choice`,
`keep`, `adopt` and `same`.
-/

namespace VisualNovel.Remote

open Script

/-- What stands where a scene keeps its sprites. -/
inductive SpriteShelf where
  /-- Sprites, and values that were put in the place of sprites, by name. -/
  | sprites (entries : Table Value (Value ⊕ Sprite))
  /-- A value that is no record. -/
  | other (v : Value)
  deriving Inhabited

namespace SpriteShelf

/-- What a value is as the sprites of a scene. -/
def ofValue : Value → SpriteShelf
  | .record fs => sprites (fs.map fun (k, v) => (k, .inl v))
  | v => other v

/-- The sprites as a record. -/
def toValue : SpriteShelf → Value
  | sprites entries => .record (entries.map fun (k, e) => (k, e.elim id Sprite.toValue))
  | other v => v

/-- The sprites as a value that tells sprites from the records of sprites. -/
def identity : SpriteShelf → Value
  | sprites entries =>
    .record (entries.map fun (k, e) =>
      (k, e.elim (fun v => .list [.text "value", v]) fun s => .list [.text "sprite", s.toValue]))
  | other v => v

/-- Puts a sprite in its place. -/
def put (shelf : SpriteShelf) (name : Value) (s : Sprite) : Except Mishap SpriteShelf :=
  match shelf with
  | sprites entries => do return sprites (Table.put (← name.asKey) (.inr s) entries)
  | other _ => .error .wrongType

/-- Moves a sprite to the side. -/
def move (shelf : SpriteShelf) (name dx : Value) : Except Mishap SpriteShelf :=
  match shelf with
  | sprites entries => do
    let name ← name.asKey
    match Table.get? name entries with
    | none => throw .missingKey
    | some (.inl _) => throw .noMember
    | some (.inr s) => return sprites (Table.put name (.inr { s with x := ← s.x.add dx }) entries)
  | other _ => .error .wrongType

end SpriteShelf

/-- A snapshot, beside the place and the sprites that a session from afar has. -/
structure LooseSnapshot where
  snapshot : Snapshot
  place : Value
  sprites : SpriteShelf

namespace LooseSnapshot

/-- The snapshot as a record, with the given sprites; its settings and its scene may be changed on
the way. -/
def toRecord (s : LooseSnapshot) (sprites : Value) (part : Value → Except Mishap Value) :
    Except Mishap Value := do
  let fs ← (← s.snapshot.assemble .ok).fields
  let overrides ← part (fs.get "ui")
  let scene ← part (.record ((← (fs.get "scene").fields).put "sprites" sprites))
  return .record (((fs.put "cursor" s.place).put "ui" overrides).put "scene" scene)

/-- The snapshot as a record of what can be saved. -/
def toValue (s : LooseSnapshot) : Except Mishap Value := do
  return snapshotRecord (← s.toRecord s.sprites.toValue Value.spelled)

/-- Whether two snapshots cannot be told apart. -/
def same (s t : LooseSnapshot) : Except Mishap Bool := do
  return (← s.toRecord s.sprites.identity .ok).same (← t.toRecord t.sprites.identity .ok)

end LooseSnapshot

/-- A session from afar. -/
structure LooseSession where
  session : Session
  cursor : LooseCursor
  sprites : SpriteShelf := .sprites []
  /-- The snapshot set aside while an effect or a menu runs. -/
  safe : Option LooseSnapshot := none
  /-- The snapshots that were kept under labels. -/
  kept : Table Value LooseSnapshot := []

namespace LooseSession

/-- The session at the start of a script. -/
def start (script : Script) (flags : Value) : Except Fault LooseSession := do
  let flags ← (flagsOf flags).mapError .mishap
  let cursor ← (Cursor.start script).mapError .story
  return { session := { cursor, scriptName := script.name, flags }
           cursor := ← LooseCursor.start script (.text startConversation) }

/-- The place of the cursor. -/
def cursorPlace : Place LooseSession LooseCursor where
  get s := s.cursor
  set cursor s := { s with cursor }

/-- The session as it is now. -/
def live (s : LooseSession) : LooseSnapshot :=
  { snapshot := s.session.live, place := s.cursor.toValue, sprites := s.sprites }

/-- The snapshot to save. -/
def persistent (s : LooseSession) : LooseSnapshot :=
  s.safe.getD s.live

/-- Takes over all of a snapshot but its place. -/
def adopt (s : LooseSession) (t : LooseSnapshot) : LooseSession :=
  { s with session := s.session.adopt t.snapshot, sprites := t.sprites, safe := none }

/-- The snapshot kept under a label. -/
def keptAs (s : LooseSession) (label : Value) : Except Mishap LooseSnapshot := do
  match Table.get? (← label.asKey) s.kept with
  | some t => return t
  | none => throw .missingKey

/-- Sets a field of the scene; a field that a scene does not have is passed over. -/
def setScene (s : LooseSession) (name v : Value) : Except Mishap LooseSession := do
  match ← name.asText with
  | "sprites" => return { s with sprites := .ofValue v }
  | name =>
    return { s with session := { s.session with scene := s.session.scene.setField name v } }

/-- Sets a setting of the script; one that there is not is passed over. -/
def setOverride (s : LooseSession) (name v : Value) : Except Mishap LooseSession := do
  let overrides := s.session.overrides.setField (← name.asText) v
  return { s with session := { s.session with overrides } }

/-- Adds an option to a menu. -/
def addChoice (s : LooseSession) (menu text conversation : Value) :
    Except Mishap LooseSession := do
  let menu ← menu.asKey
  let there := (Table.get? menu s.session.choiceSets).getD []
  let choiceSets := Table.put menu (there ++ [(text, conversation)]) s.session.choiceSets
  return { s with session := { s.session with choiceSets } }

/-- Gives a flag a value. -/
def setFlag (s : LooseSession) (name v : Value) : Except Mishap LooseSession := do
  let n ← v.toInt
  return { s with session := { s.session with flags := s.session.flags.set (← name.display) n } }

end LooseSession

/-- A call of a session. -/
def callSession (c : Call) : Action LooseSession Value := do
  let s ← get
  let change (r : Except Mishap LooseSession) : Action LooseSession Value := do
    become (← Action.ofMishap r)
  match c.name with
  | "live" => tell s.live.toValue
  | "persist" => tell s.persistent.toValue
  | "capture" => become { s with safe := some s.live }
  | "release" => become { s with safe := none }
  | "has_safe" => return .bool s.safe.isSome
  | "flag" => change (s.setFlag (c.arg 0) (c.arg 1))
  | "advance" =>
    quietly (Action.onPart LooseSession.cursorPlace (LooseCursor.advance (c.argOr 0 (.int 1))))
  | "sprite" =>
    change (do return { s with sprites := ← s.sprites.put (c.arg 0) { filename := c.arg 1 } })
  | "move" => change (do return { s with sprites := ← s.sprites.move (c.arg 0) (c.arg 1) })
  | "scene" => change (s.setScene (c.arg 0) (c.arg 1))
  | "ui" => change (s.setOverride (c.arg 0) (c.arg 1))
  | "choice" => change (s.addChoice (c.arg 0) (c.arg 1) (c.arg 2))
  | "keep" =>
    change (do return { s with kept := Table.put (← (c.arg 0).asKey) s.persistent s.kept })
  | "adopt" => change (do return s.adopt (← s.keptAs (c.arg 0)))
  | "same" => return .bool (← Action.ofMishap (do (← s.keptAs (c.arg 0)).same s.persistent))
  | _ => throw (.mishap .noMember)

end VisualNovel.Remote
