import VisualNovel.Engine.Command.Effect
import VisualNovel.Script.Beat
import VisualNovel.Text.Blank
import VisualNovel.Text.Lowercase

/-!
# Commands on sprites

A sprite is known by its name. A command on a sprite that is not on the screen is logged and passed
over.
-/

namespace VisualNovel.Command

open Script

/-- The named places across the screen, as parts of its width. -/
def alignment? (name : String) : Option Float :=
  match name with
  | "left" => some 0.25
  | "center" => some 0.5
  | "right" => some 0.75
  | "far left" => some 0.0
  | "extreme left" => some (-0.5)
  | "far right" => some 1.0
  | "extreme right" => some 1.5
  | _ => none

/-- A setting of the view. -/
def viewSetting (key : String) : Action Stage Value := do
  Action.ofMishap ((← get).config.view.required key)

/-- Changes a sprite. -/
def changeSprite (name : Value) (f : Sprite → Sprite) : Action Stage Unit :=
  modify (Stage.mapScene (Scene.changeSprite name f))

/-- Logs that there is no sprite of a name. -/
def missing (kind : CommandKind) (name : Value) : Stage → Stage :=
  Stage.note .warning s!".{kind.keyword}: no sprite named {name.quote} on screen"

/-- The sprite of a name; that there is none is logged. -/
def sprite? (kind : CommandKind) (name : Value) : Action Stage (Option Sprite) := do
  let found := Table.get? (← keyOf name) (← get).session.scene.sprites
  if found.isNone then modify (missing kind name)
  return found

/-- The picture of a sprite: the one that its name stands for, else the name itself. -/
def pictureOf (name : Value) : Action Stage Value := do
  let aliases ← Action.ofMishap (← get).session.scene.spriteAliases.fields
  return ((Table.get? (← keyOf name) aliases).getD .null).orElse name

/-- Puts a sprite in the middle of the screen; one that is there keeps its place. -/
def addSprite (name : Value) (atOnce : Value) : Action Stage Outcome := do
  let filename ← pictureOf name
  let sprite ← match Table.get? name (← get).session.scene.sprites with
    | some sprite => pure { sprite with filename }
    | none =>
      let x ← Action.ofMishap ((← viewSetting "width").mul (.float 0.5))
      let y ← Action.ofMishap ((← viewSetting "height").mul (← viewSetting "sprite_y"))
      pure { filename, x, y }
  modify (Stage.mapScene fun s => { s with sprites := Table.put name sprite s.sprites })
  return .send .showSprite [("name", name), ("filename", filename), ("x", sprite.x),
    ("y", sprite.y), ("at_once", atOnce)]

/-- Takes a sprite away. -/
def removeSprite (name : Value) (atOnce : Value) : Action Stage Outcome := do
  match ← takeOut name (← get).session.scene.sprites with
  | (none, _) =>
    modify (missing .removeSprite name)
    return .next
  | (some _, sprites) =>
    modify (Stage.mapScene fun s => { s with sprites })
    return .send .removeSprite [("name", name), ("at_once", atOnce)]

/-- Moves a sprite to a named place across the screen. -/
def alignSprite (name : Value) (place duration : Value) : Action Stage Outcome := do
  match ← sprite? .alignSprite name with
  | none => return .next
  | some sprite =>
    let part ← match alignment? (Text.lower (Text.strip place.shown)) with
      | some part => pure part
      | none =>
        modify (Stage.note .warning
          s!".alignsprite: unknown alignment {place.quote}, using center")
        pure 0.5
    let x ← Action.ofMishap ((← viewSetting "width").mul (.float part))
    runEffect .moveSprite duration [("name", name), ("x", x), ("y", sprite.y)]
      (changeSprite name fun s => { s with x })

/-- Moves a sprite by a distance. -/
def moveSprite (name : Value) (dx dy duration : Value) : Action Stage Outcome := do
  match ← sprite? .moveSprite name with
  | none => return .next
  | some sprite =>
    let x ← Action.ofMishap (sprite.x.add dx)
    let y ← Action.ofMishap (sprite.y.add dy)
    runEffect .moveSprite duration
      [("name", name), ("x", x), ("y", y), ("dx", dx), ("dy", dy)]
      (changeSprite name fun s => { s with x, y })

/-- Puts a sprite at a place. -/
def placeSprite (name : Value) (x y : Value) : Action Stage Outcome := do
  match ← sprite? .setSpritePosition name with
  | none => return .next
  | some _ =>
    changeSprite name fun s => { s with x, y }
    return .send .placeSprite [("name", name), ("x", x), ("y", y)]

/-- Turns a sprite over. -/
def flipSprite (name : Value) (duration horizontal : Value) : Action Stage Outcome := do
  match ← sprite? .flipSprite name with
  | none => return .next
  | some _ =>
    runEffect .flipSprite duration [("name", name), ("horizontal", horizontal)]
      (changeSprite name (·.flip horizontal.truthy))

/-- Gives a sprite a size. -/
def scaleSprite (name : Value) (scale duration : Value) : Action Stage Outcome := do
  match ← sprite? .scaleSprite name with
  | none => return .next
  | some _ =>
    runEffect .scaleSprite duration [("name", name), ("scale", scale)]
      (changeSprite name fun s => { s with scale })

/-- The aliases with one taken out. -/
def withoutAlias (aliases name : Value) : Action Stage Value :=
  match aliases with
  | .record fs => do return .record (← takeOut name fs).2
  | .list _ => misfit
  | _ => throw (.mishap .noMember)

/-- The aliases with one put in. -/
def withAlias (aliases name filename : Value) : Action Stage Value :=
  match aliases with
  | .record fs => do return .record (Table.put (← keyOf name) filename fs)
  | .list items => do return .list (← Action.ofMishap (Value.setItem items name filename))
  | _ => misfit

/-- Lets the name of a sprite stand for a picture, or no longer. -/
def setSpriteAlias (name : Value) (filename : Value) : Action Stage Outcome := do
  let aliases := (← get).session.scene.spriteAliases
  let aliases ← match filename with
    | .null => withoutAlias aliases name
    | filename => withAlias aliases name filename
  modify (Stage.mapScene fun s => { s with spriteAliases := aliases })
  return .next

end VisualNovel.Command
