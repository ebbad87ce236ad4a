import VisualNovel.Session.Backlog
import VisualNovel.Window.Apply

/-!
# Drawing

The layers of a window from back to front: background, sprites, speech, menu, veil, error.
-/

namespace VisualNovel.Desk

/-- A point on the way from one value to another. -/
def between (a b : Value) (t : Float) : Attempt Desk Value :=
  Attempt.ofExcept do a.add (← (← b.sub a).mul (.float t))

/-- Puts a surface on the screen. -/
def blit (s : Surface) (x y : Int) : Attempt Desk Unit :=
  change fun w => w.mark (.blit s x y)

/-- The surface in another size. -/
def scaled (s : Surface) (scale : Value) : Attempt Desk Surface := do
  if scale.equal (.float 1.0) then return s
  let extent (n : Int) : Attempt Desk Int := do
    return max 1 (← whole (← Attempt.ofExcept ((Value.int n).mul scale)))
  let width ← extent s.width
  let height ← extent s.height
  made (·.stretched width height)

/-- Draws the background. -/
def drawBackground : Attempt Desk Unit := do
  let w ← window?
  let s := w.scene
  if s.background.truthy then
    let surface ← scaled (← picture s.background (w.width, w.height)) s.backgroundScale
    let away (v : Value) : Attempt Desk Int := do whole (← Attempt.ofExcept v.neg)
    blit surface (← away s.backgroundX) (← away s.backgroundY)

/-- Where a sprite stands; one that is moving is on its way. -/
def spritePoint (name : Value) (s : Sprite) (t : Float) : Attempt Desk (Value × Value) := do
  let w ← window?
  match w.effect, w.effectFrom with
  | some effect, some departure =>
    if effect.kind == .moveSprite && (effect.get "name").equal name then
      return (← between departure.x s.x t, ← between departure.y s.y t)
    else return (s.x, s.y)
  | _, _ => return (s.x, s.y)

/-- Whether a sprite is to be turned over: the wish has to be a countable number. -/
def turn (v : Value) : Attempt Desk Unit := do
  if !countable (← Attempt.ofExcept v.asWhole) then throw .overflow

/-- The surface of a sprite, turned over if the sprite is. -/
def turned (s : Sprite) (surface : Surface) : Attempt Desk Surface := do
  if !s.flippedX.truthy && !s.flippedY.truthy then return surface
  turn s.flippedX
  turn s.flippedY
  return surface.flipped

/-- Draws a sprite around its point. -/
def drawSprite (t : Float) (name : Value) (s : Sprite) : Attempt Desk Unit := do
  let surface ← turned s (← picture s.filename spriteExtent)
  let surface ← scaled surface s.scale
  let (x, y) ← spritePoint name s t
  let x ← whole x
  let y ← whole y
  let place ← Attempt.ofExcept (Rect.centred x y surface.width surface.height)
  blit surface place.x place.y

/-- Draws texts below each other. -/
def drawLines (font : Font) (x : Int) : (y : Int) → List String → Attempt Desk Unit
  | _, [] => pure ()
  | y, line :: rest => do
    let surface ← made (·.render font (.text line))
    blit surface x y
    drawLines font x (y + surface.height + 2) rest

/-- The lines of a text, as wide as the width allows, which has to be a number. -/
def wrapped (v width : Value) : Attempt Desk (List String) := do
  let w ← window?
  let words ← Attempt.ofExcept (v.orElse (.text "")).textMember
  if width.numeric?.isNone then throw .wrongType
  let fits (line : String) : Bool :=
    ((Value.int (w.toolkit.widthOf w.speechFont line)).atMost width).toOption == some true
  return wrap fits words

/-- Draws speech on its panel, under its speaker if there is one. -/
def drawSpeech (speaker words : Value) : Attempt Desk Unit := do
  let w ← window?
  let panel ← Attempt.ofExcept (Rect.make 24 (w.height - 180) (w.width - 48) 156)
  blit (← made (·.plain panel.width panel.height [0, 0, 0, 170])) panel.x panel.y
  let mut y := panel.y + 12
  if speaker.truthy then
    let name ← made (·.render w.speakerFont speaker)
    blit name (panel.x + 16) y
    y := y + name.height + 6
  drawLines w.speechFont (panel.x + 16) y (← wrapped words (.int (panel.width - 32)))

/-- Draws the line that is shown, or the older one that the backlog is turned to. -/
def drawWords (backlog : Option Backlog) : Attempt Desk Unit := do
  let past ← match backlog with
    | some b => if b.view == -1 then pure none else Attempt.ofExcept b.current
    | none => pure none
  match past with
  | some line => drawSpeech line.name line.text
  | none =>
    let w ← window?
    if w.scene.showSpeech.truthy && (w.visibleText.truthy || w.scene.speaker.truthy) then
      drawSpeech w.scene.speaker w.visibleText

/-- Draws an option of a menu, so far from the middle of the window. -/
def drawChoice (dx : Value) (top : Int) (index : Nat) (option : Value) : Attempt Desk Unit := do
  let w ← window?
  let number := index + 1
  let label ← made (·.render w.speechFont (.text s!"{number}. {option.shown}"))
  let height := label.height + 16
  let cx := w.width / 2 + (← whole dx)
  let cy := top + index * (height + 12)
  let place ← Attempt.ofExcept (Rect.centred cx cy (max 320 (label.width + 40)) height)
  change fun w => w.mark (.rect place [40, 40, 70] 0)
  change fun w => w.mark (.rect place [200, 200, 240] 2)
  let inner ← Attempt.ofExcept (Rect.centred cx cy label.width label.height)
  blit label inner.x inner.y
  change fun w => { w with choicePlaces := w.choicePlaces ++ [place] }

/-- Draws the options of a menu from a number on. -/
def drawChoicesFrom (dx : Value) (top : Int) : (index : Nat) → List Value → Attempt Desk Unit
  | _, [] => pure ()
  | index, option :: rest => do
    drawChoice dx top index option
    drawChoicesFrom dx top (index + 1) rest

/-- Draws the menu. -/
def drawMenu : Attempt Desk Unit := do
  let w ← window?
  if !w.choices.isEmpty then
    match w.choiceOffset with
    | [dx, dy] =>
      change fun w => { w with choicePlaces := [] }
      let top := w.height / 2 - w.choices.length * 28 + (← whole dy)
      drawChoicesFrom dx top 0 w.choices
    | _ => throw .badValue

/-- How dark the screen is. -/
def darkness (w : Window) (t : Float) : Float :=
  match w.effect with
  | some effect =>
    if effect.kind == .fadeBegin then
      if w.scene.fadedOut.truthy then 0.0 + (255.0 - 0.0) * t else 255.0 + (0.0 - 255.0) * t
    else w.veil
  | none => w.veil

/-- Draws the veil. -/
def drawVeil (t : Float) : Attempt Desk Unit := do
  let w ← window?
  let alpha := darkness w t
  if 0.0 < alpha then
    discard (made (·.blank w.width w.height))
    let opacity ← Attempt.ofExcept (Value.truncate alpha)
    blit (← made (·.plain w.width w.height [0, 0, 0, opacity])) 0 0

/-- Draws the error. -/
def drawError : Attempt Desk Unit := do
  let w ← window?
  if w.error.truthy then blit (← made (·.render w.speakerFont w.error)) 16 16

/-- Draws everything and shows it. -/
def draw (backlog : Option Backlog) : Attempt Desk Unit := do
  let w ← window?
  let t ← progress w.ticks
  change fun w => w.mark (.fill [0, 0, 0])
  drawBackground
  w.scene.sprites.forM fun (name, s) => drawSprite t name s
  drawWords backlog
  drawMenu
  drawVeil t
  drawError
  change fun w => w.mark .flip

end VisualNovel.Desk
