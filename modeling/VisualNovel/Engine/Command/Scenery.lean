import VisualNovel.Engine.Command.Effect

/-!
# Commands on the background, fades and sound
-/

namespace VisualNovel.Command

/-- Shows a background, or none, unmoved and in its own size. -/
def setBackground (filename : Value) : Action Stage Outcome := do
  modify (Stage.mapScene fun s =>
    { s with background := filename, backgroundX := .float 0.0, backgroundY := .float 0.0
             backgroundScale := .float 1.0 })
  return .send .showBackground [("filename", filename)]

/-- Moves the background. -/
def moveBackground (dx dy duration parallax : Value) : Action Stage Outcome :=
  runEffect .moveBackground duration [("dx", dx), ("dy", dy), ("parallax", parallax)]
    (Action.attempt Stage.scenePlace (Scene.drag (.ok dx) (.ok dy) (.ok parallax)))

/-- Gives the background a size. -/
def scaleBackground (scale duration : Value) : Action Stage Outcome :=
  runEffect .scaleBackground duration [("scale", scale)]
    (modify (Stage.mapScene fun s => { s with backgroundScale := scale }))

/-- Fades the screen out or in. -/
def fade (out : Bool) (duration : Value) : Action Stage Outcome :=
  runEffect .fadeBegin duration [("direction", .text (if out then "out" else "in"))]
    (modify (Stage.mapScene fun s => { s with fadedOut := .bool out }))

/-- Plays a sound once. -/
def playSound (filename : Value) : Action Stage Outcome :=
  return .send .playSound [("filename", filename)]

/-- Plays music, or stops it. -/
def playMusic (filename loop : Value) : Action Stage Outcome := do
  modify (Stage.mapScene fun s => { s with music := filename, musicLoop := loop })
  match filename with
  | .null => return .send .stopMusic
  | filename => return .send .playMusic [("filename", filename), ("loop", loop)]

end VisualNovel.Command
