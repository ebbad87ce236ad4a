import VisualNovel.Window.Assets

/-!
# Following intents

What each intent changes in a window. An intent that blocks starts an effect; the window remembers
when it began and where its sprite was.
-/

namespace VisualNovel.Desk

/-- How dark the screen is when nothing fades. -/
def settledVeil (s : Scene) : Float :=
  if s.fadedOut.truthy then 255.0 else 0.0

/-- Takes over a scene. -/
def prepare (scene : Scene) : Attempt Desk Unit := do
  change fun w =>
    { w with scene, effect := none, choices := [], visibleText := scene.speech.orElse (.text "")
             veil := settledVeil scene }
  if scene.background.truthy then
    let w ← window?
    discard (picture scene.background (w.width, w.height))
  (Table.values scene.sprites).forM fun s => discard (picture s.filename spriteExtent)
  if scene.music.truthy then play scene.music (some scene.musicLoop.truthy)
  change fun w => { w with pendingReady := true }

/-- Changes the scene. -/
def changeScene (f : Scene → Scene) : Attempt Desk Unit :=
  change fun w => { w with scene := f w.scene }

/-- The place of the scene. -/
def scenePlace : Place Desk Scene where
  get d := d.window.scene
  set s d := { d with window := { d.window with scene := s } }

/-- Carries out an attempt on the scene. -/
def onScene {α : Type} (act : Attempt Scene α) : Attempt Desk α := do
  let (r, s) := act.perform (scenePlace.get (← get))
  modify (scenePlace.set s)
  Attempt.ofExcept r

/-- The sprite that a value names. -/
def spriteOf (name : Value) : Attempt Desk (Option Sprite) := do
  return Table.get? (← Attempt.ofExcept name.asKey) (← window?).scene.sprites

/-- Starts an effect. -/
def beginEffect (i : Intent) : Attempt Desk Unit := do
  change fun w => { w with effect := some i, effectStart := w.ticks }
  let sprite ← spriteOf ((i.get? "name").getD (.text ""))
  change fun w => { w with effectFrom := sprite.map fun s => { x := s.x, y := s.y } }

/-- Changes the sprite that an intent names, if it is there. -/
def changeNamed (i : Intent) (f : Attempt Desk (Sprite → Sprite)) : Attempt Desk Unit := do
  let name ← part i "name"
  match ← spriteOf name with
  | none => return
  | some _ =>
    let f ← f
    changeScene (Scene.changeSprite name f)

/-- Loads the fonts that an intent sets. -/
def applyFonts (i : Intent) : Attempt Desk Unit := do
  let font (path size : String) : Attempt Desk (Option Font) := do
    if (i.get? path).isNone && (i.get? size).isNone then return none
    return some (← loadFont (i.get path) ((i.get size).orElse (.int 24)))
  match ← font "speech_font" "speech_font_size" with
  | some f => change fun w => { w with speechFont := f }
  | none => pure ()
  match ← font "speaker_font" "speaker_font_size" with
  | some f => change fun w => { w with speakerFont := f }
  | none => pure ()

/-- Puts a sprite on the screen, upright and in its own size. -/
def showSprite (i : Intent) : Attempt Desk Unit := do
  let sprite : Sprite := { filename := ← part i "filename", x := ← part i "x", y := ← part i "y" }
  let name ← Attempt.ofExcept (← part i "name").asKey
  changeScene fun s => { s with sprites := Table.put name sprite s.sprites }
  discard (picture sprite.filename spriteExtent)

/-- Shows a menu. -/
def showChoices (i : Intent) : Attempt Desk Unit := do
  let options ← Attempt.ofExcept ((i.get "options").orElse (.list [])).parts
  change fun w => { w with choices := options }
  let origin := Value.list [.float 0.0, .float 0.0]
  let offset ← Attempt.ofExcept ((i.get "offset").orElse origin).parts
  change fun w => { w with choiceOffset := offset }

/-- Makes the change that an intent asks for. -/
def follow (i : Intent) : Attempt Desk Unit := do
  match i.kind with
  | .showBackground =>
    changeScene fun s =>
      { s with background := i.get "filename", backgroundX := .float 0.0, backgroundY := .float 0.0
               backgroundScale := .float 1.0 }
  | .showSprite => showSprite i
  | .removeSprite =>
    let name ← part i "name"
    if !(← window?).scene.sprites.isEmpty then
      let name ← Attempt.ofExcept name.asKey
      changeScene fun s => { s with sprites := Table.erase name s.sprites }
  | .moveSprite | .placeSprite =>
    changeNamed i do
      let x ← part i "x"
      let y ← part i "y"
      return fun s => { s with x, y }
  | .flipSprite =>
    let horizontal := ((i.get? "horizontal").getD (.bool true)).truthy
    changeNamed i (return fun s => s.flip horizontal)
  | .scaleSprite =>
    changeNamed i do
      let scale ← part i "scale"
      return fun s => { s with scale }
  | .moveBackground =>
    onScene (Scene.drag (i.required "dx") (i.required "dy") (i.required "parallax"))
  | .scaleBackground =>
    let scale ← part i "scale"
    changeScene fun s => { s with backgroundScale := scale }
  | .fadeBegin =>
    changeScene fun s => { s with fadedOut := .bool ((i.get "direction").equal (.text "out")) }
    if !i.blocking then change fun w => { w with veil := settledVeil w.scene }
  | .fadeEnd => pure ()
  | .playSound => play (← part i "filename") none
  | .playMusic =>
    play (← part i "filename") (some ((i.get? "loop").getD (.bool true)).truthy)
  | .stopMusic => change fun w => if w.audible then w.sound .stopMusic else w
  | .showText =>
    changeScene fun s => { s with speaker := i.get "speaker", speech := i.get "text" }
    change fun w =>
      { w with visibleText := (i.get? "visible").getD ((i.get "text").orElse (.text "")) }
  | .revealText => change fun w => { w with visibleText := (i.get? "text").getD (.text "") }
  | .speechVisibility =>
    changeScene fun s => { s with showSpeech := .bool (i.get "visible").truthy }
  | .setSpeechbox => changeScene fun s => { s with speechbox := i.get "filename" }
  | .uiOverride => applyFonts i
  | .showChoices => showChoices i
  | .clearChoices => change fun w => { w with choices := [] }

/-- Carries out an intent. -/
def apply (i : Intent) : Attempt Desk Unit := do
  if i.blocking then beginEffect i
  follow i

/-- How much of the running effect is over, from zero to one. -/
def progress (now : Value) : Attempt Desk Float := do
  let w ← window?
  match w.effect with
  | none => return 1.0
  | some effect =>
    let seconds ← Attempt.ofExcept ((effect.get? "duration").getD (.float 0.0)).toFloat
    let milliseconds := seconds * 1000.0
    let whole := if 1.0 < milliseconds then milliseconds else 1.0
    let elapsed ← Attempt.ofExcept (now.sub w.effectStart)
    let share ← Attempt.ofExcept (elapsed.dividedBy whole)
    return if share < 1.0 then share else 1.0

/-- The identity of the running effect if its time is over; the effect ends with this. -/
def pollEffect (now : Value) : Attempt Desk (Option Value) := do
  match (← window?).effect with
  | none => return none
  | some effect =>
    if (← progress now) < 1.0 then return none
    if effect.kind == .fadeBegin then change fun w => { w with veil := settledVeil w.scene }
    change fun w => { w with effect := none }
    return effect.effectId

end VisualNovel.Desk
