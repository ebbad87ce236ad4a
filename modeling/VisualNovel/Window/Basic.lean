import VisualNovel.Disk
import VisualNovel.Intent
import VisualNovel.Place
import VisualNovel.Session.Scene
import VisualNovel.Value.Equality
import VisualNovel.Window.Font

/-!
# The window

A renderer with a screen and a loudspeaker. It keeps a scene of its own, which follows the intents
that it gets, the effect that is running, and the time.
-/

namespace VisualNovel

/-- Where a sprite was when an effect on it began. -/
structure Departure where
  x : Value
  y : Value
  deriving Inhabited

/-- The state of a window. -/
structure Window where
  toolkit : Toolkit := .even
  width : Int := 1024
  height : Int := 768
  frameRate : Int := 60
  /-- The folder of pictures and sounds. -/
  assets : Option Files.Path := none
  /-- Whether a picture or sound that cannot be found is an error. -/
  strictAssets : Bool := false
  scene : Scene := {}
  visibleText : Value := .text ""
  choices : List Value := []
  choiceOffset : List Value := [.float 0.0, .float 0.0]
  error : Value := .null
  /-- Whether the scene was prepared and nobody has been told. -/
  pendingReady : Bool := false
  /-- What could not be found and has not been reported. -/
  missing : List Value := []
  pictures : Table Value Surface := []
  speechFont : Font := {}
  speakerFont : Font := {}
  effect : Option Intent := none
  effectStart : Value := .int 0
  effectFrom : Option Departure := none
  /-- How dark the screen is, up to 255. -/
  veil : Float := 0.0
  /-- Where the options of the menu were drawn last. -/
  choicePlaces : List Rect := []
  /-- Whether the loudspeaker was started. -/
  audible : Bool := false
  /-- The time in milliseconds. -/
  ticks : Value := .int 0
  marks : Tape Mark := {}
  sounds : Tape Sound := {}
  deriving Inhabited

/-- A window beside the files that it loads from. -/
structure Desk where
  window : Window
  disk : Disk

namespace Window

/-- A window of a size. Its first mark is its title. -/
def new (toolkit : Toolkit) (width height title assets frameRate : Value) (strictAssets : Bool) :
    Except Mishap Window := do
  let width ← width.toInt
  let height ← height.toInt
  let frameRate := max 1 (← frameRate.toInt)
  let assets ← if assets.truthy then some <$> assets.asText else pure none
  return { toolkit, width, height, frameRate, assets := assets.map Files.Path.ofText, strictAssets
           marks := Tape.empty.push (.caption title) }

/-- Draws. -/
def mark (m : Mark) (w : Window) : Window :=
  { w with marks := w.marks.push m }

/-- Sounds. -/
def sound (s : Sound) (w : Window) : Window :=
  { w with sounds := w.sounds.push s }

/-- Lets time pass. -/
def pass (milliseconds : Value) (w : Window) : Except Mishap Window := do
  return { w with ticks := ← w.ticks.add milliseconds }

/-- Shows an error. -/
def showError (message : Value) (w : Window) : Window :=
  { w with error := message }

/-- The number, from a number on, of the first rectangle that a point lies in. The point has to be a
pair of numbers if there is any rectangle. -/
def firstAt (point : Value) : (number : Nat) → List Rect → Except Mishap (Option Nat)
  | _, [] => .ok none
  | number, r :: rest =>
    match point with
    | .list [x, y] => do
      if ← r.contains x y then return some number else firstAt point (number + 1) rest
    | _ => .error .wrongType

/-- The number of the option that is drawn at a point. -/
def choiceAt (w : Window) (point : Value) : Except Mishap (Option Nat) :=
  firstAt point 0 w.choicePlaces

end Window

namespace Desk

/-- The window. -/
def window? : Attempt Desk Window := do
  return (← get).window

/-- Changes the window. -/
def change (f : Window → Window) : Attempt Desk Unit :=
  modify fun d => { d with window := f d.window }

/-- Logs a line. -/
def note (level : Level) (text : String) : Attempt Desk Unit :=
  modify fun d => { d with disk := d.disk.note level text }

/-- A number that has to be whole, or is cut to be so. -/
def whole (v : Value) : Attempt Desk Int :=
  Attempt.ofExcept v.toInt

/-- A piece of picture that the toolkit has to make. -/
def made (make : Toolkit → Except Mishap Surface) : Attempt Desk Surface := do
  Attempt.ofExcept (make (← window?).toolkit)

/-- A part of an intent that has to be there. -/
def part (i : Intent) (key : String) : Attempt Desk Value :=
  Attempt.ofExcept (i.required key)

end Desk

end VisualNovel
