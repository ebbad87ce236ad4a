import VisualNovel.Value.Display
import VisualNovel.Value.Key
import VisualNovel.Value.Number

/-!
# The scene

What is on the screen and what is heard, and the settings that a script changes on the way. A saved
scene may hold anything, and what it holds is carried along until a command works on it.
-/

namespace VisualNovel

/-- A quantity moved by another one. Numbers and texts are added; a list takes in whatever parts the
other one has. -/
def Value.movedBy (v distance : Value) : Except Mishap Value :=
  match v with
  | .list items => do return .list (items ++ (← distance.parts))
  | v => v.add distance

/-- A picture on the screen. -/
structure Sprite where
  filename : Value
  x : Value := .float 0.0
  y : Value := .float 0.0
  scale : Value := .float 1.0
  flippedX : Value := .bool false
  flippedY : Value := .bool false
  deriving Inhabited

namespace Sprite

/-- The sprite turned over, to the side or upside down. -/
def flip (s : Sprite) (horizontal : Bool) : Sprite :=
  if horizontal then { s with flippedX := .bool !s.flippedX.truthy }
  else { s with flippedY := .bool !s.flippedY.truthy }

/-- The fields of a sprite by their names. -/
def toFields (s : Sprite) : List (String × Value) :=
  [("filename", s.filename), ("x", s.x), ("y", s.y), ("scale", s.scale), ("flipped_x", s.flippedX),
    ("flipped_y", s.flippedY)]

/-- The sprite as a record. -/
def toValue (s : Sprite) : Value :=
  .ofFields s.toFields

/-- Sets a field by its name. -/
def setField? (s : Sprite) (name : String) (v : Value) : Option Sprite :=
  match name with
  | "filename" => some { s with filename := v }
  | "x" => some { s with x := v }
  | "y" => some { s with y := v }
  | "scale" => some { s with scale := v }
  | "flipped_x" => some { s with flippedX := v }
  | "flipped_y" => some { s with flippedY := v }
  | _ => none

/-- Reads a sprite: a record of nothing but its fields, with at least the name of its picture. -/
def ofValue (v : Value) : Except Mishap Sprite :=
  match v with
  | .record fs =>
    if !Fields.has "filename" fs then .error .wrongType
    else
      fs.foldlM (fun s e => match e.1.text?.bind fun name => s.setField? name e.2 with
        | some s => .ok s
        | none => .error .wrongType) { filename := .null }
  | _ => .error .wrongType

end Sprite

/-- What is on the screen and what is heard. -/
structure Scene where
  background : Value := .null
  backgroundX : Value := .float 0.0
  backgroundY : Value := .float 0.0
  backgroundScale : Value := .float 1.0
  /-- The sprites in the order in which they are drawn. -/
  sprites : Table Value Sprite := []
  /-- The pictures that names of sprites stand for. -/
  spriteAliases : Value := .record []
  music : Value := .null
  musicLoop : Value := .bool true
  speaker : Value := .null
  speech : Value := .null
  showSpeech : Value := .bool true
  speechbox : Value := .null
  fadedOut : Value := .bool false
  deriving Inhabited

namespace Scene

/-- The fields of a scene by their names. -/
def toFields (s : Scene) : List (String × Value) :=
  [("background", s.background), ("background_x", s.backgroundX), ("background_y", s.backgroundY),
    ("background_scale", s.backgroundScale),
    ("sprites", .record (Table.mapValues Sprite.toValue s.sprites)),
    ("sprite_aliases", s.spriteAliases), ("music", s.music), ("music_loop", s.musicLoop),
    ("speaker", s.speaker), ("speech", s.speech), ("show_speech", s.showSpeech),
    ("speechbox", s.speechbox), ("faded_out", s.fadedOut)]

/-- The scene as a record. -/
def toValue (s : Scene) : Value :=
  .ofFields s.toFields

/-- Sets a field by its name; other names are passed over. -/
def setField (s : Scene) (name : String) (v : Value) : Scene :=
  match name with
  | "background" => { s with background := v }
  | "background_x" => { s with backgroundX := v }
  | "background_y" => { s with backgroundY := v }
  | "background_scale" => { s with backgroundScale := v }
  | "sprite_aliases" => { s with spriteAliases := v }
  | "music" => { s with music := v }
  | "music_loop" => { s with musicLoop := v }
  | "speaker" => { s with speaker := v }
  | "speech" => { s with speech := v }
  | "show_speech" => { s with showSpeech := v }
  | "speechbox" => { s with speechbox := v }
  | "faded_out" => { s with fadedOut := v }
  | _ => s

/-- Reads the sprites of a scene; a name that is no text counts as it is shown. -/
def spritesOf (v : Value) : Except Mishap (Table Value Sprite) := do
  let fs ← (v.orElse (.record [])).fields
  return Table.ofEntries (← fs.mapM fun e => do return (.text e.1.shown, ← Sprite.ofValue e.2))

/-- Reads a scene; what is missing is as at the start. -/
def ofValue (v : Value) : Except Mishap Scene := do
  let fs ← (v.orElse (.record [])).toFields
  let sprites ← spritesOf (fs.get "sprites")
  let read : Scene := fs.foldl (fun s e => setField s (e.1.text?.getD "") e.2) {}
  return { read with sprites }

/-- Changes a sprite, if it is there. -/
def changeSprite (name : Value) (f : Sprite → Sprite) (s : Scene) : Scene :=
  { s with sprites := Table.modify name f s.sprites }

/-- Adds a distance to one number of the scene, if it is there. -/
def dragStep (value : Scene → Option Value) (distance : Except Mishap Value)
    (put : Value → Scene → Scene) : Attempt Scene Unit := do
  match value (← get) with
  | none => return
  | some v =>
    match distance.bind v.movedBy with
    | .ok moved => modify (put moved)
    | .error m => throw m

/-- Moves the background by a distance, and every sprite by a part of it. A distance that is not
known is only missed where it is needed. -/
def drag (dx dy parallax : Except Mishap Value) : Attempt Scene Unit := do
  dragStep (fun s => some s.backgroundX) dx fun v s => { s with backgroundX := v }
  dragStep (fun s => some s.backgroundY) dy fun v s => { s with backgroundY := v }
  (Table.keys (← get).sprites).forM fun name => do
    let part (d : Except Mishap Value) : Except Mishap Value := do (← d).mul (← parallax)
    let sprite (s : Scene) : Option Sprite := Table.get? name s.sprites
    dragStep (fun s => (sprite s).map (·.x)) (part dx) fun x => changeSprite name ({ · with x })
    dragStep (fun s => (sprite s).map (·.y)) (part dy) fun y => changeSprite name ({ · with y })

end Scene

/-- Settings of fonts, timed text and menus that a script has changed. -/
structure Overrides where
  speechFont : Value := .null
  speechFontSize : Value := .null
  speakerFont : Value := .null
  speakerFontSize : Value := .null
  cinematicSeconds : Value := .float 0.0
  cinematicInputAllowed : Value := .bool false
  typewriterRate : Value := .int 0
  typewriterCanSkip : Value := .bool true
  choiceboxOffsetX : Value := .float 0.0
  choiceboxOffsetY : Value := .float 0.0
  deriving Inhabited

namespace Overrides

/-- The settings by their names. -/
def toFields (o : Overrides) : List (String × Value) :=
  [("speech_font", o.speechFont), ("speech_font_size", o.speechFontSize),
    ("speaker_font", o.speakerFont), ("speaker_font_size", o.speakerFontSize),
    ("cinematic_seconds", o.cinematicSeconds),
    ("cinematic_input_allowed", o.cinematicInputAllowed), ("typewriter_cps", o.typewriterRate),
    ("typewriter_can_skip", o.typewriterCanSkip), ("choicebox_offset_x", o.choiceboxOffsetX),
    ("choicebox_offset_y", o.choiceboxOffsetY)]

/-- The settings as a record. -/
def toValue (o : Overrides) : Value :=
  .ofFields o.toFields

/-- Sets a field by its name; other names are passed over. -/
def setField (o : Overrides) (name : String) (v : Value) : Overrides :=
  match name with
  | "speech_font" => { o with speechFont := v }
  | "speech_font_size" => { o with speechFontSize := v }
  | "speaker_font" => { o with speakerFont := v }
  | "speaker_font_size" => { o with speakerFontSize := v }
  | "cinematic_seconds" => { o with cinematicSeconds := v }
  | "cinematic_input_allowed" => { o with cinematicInputAllowed := v }
  | "typewriter_cps" => { o with typewriterRate := v }
  | "typewriter_can_skip" => { o with typewriterCanSkip := v }
  | "choicebox_offset_x" => { o with choiceboxOffsetX := v }
  | "choicebox_offset_y" => { o with choiceboxOffsetY := v }
  | _ => o

/-- Reads settings; what is missing is as at the start. -/
def ofValue (v : Value) : Except Mishap Overrides := do
  let fs ← (v.orElse (.record [])).fields
  return fs.foldl (fun o e => setField o (e.1.text?.getD "") e.2) {}

end Overrides

end VisualNovel
