import VisualNovel.Number.Power
import VisualNovel.Value.Number

/-!
# Surfaces

What a window draws with: pieces of picture, the places where they go, and the marks that they leave
on the screen.
-/

namespace VisualNovel

open Number

/-- A colour: red, green and blue, and how opaque it is if that matters. -/
abbrev Colour := List Int

/-- Whether a screen can count so far. -/
def countable (n : Int) : Bool :=
  decide (-(twoTo 31 : Int) ≤ n) && decide (n < twoTo 31)

/-- A number as a screen counts: past the last one it starts again at the first. -/
def counted (n : Int) : Int :=
  Int.bmod n (twoTo 32)

/-- A piece of picture. -/
structure Surface where
  width : Int
  height : Int
  /-- The text that it shows, if it is one. -/
  label : Value := .null
  /-- The colour that it was filled with, if it was. -/
  filling : Option Colour := none
  deriving Inhabited

namespace Surface

/-- The surface turned over. -/
def flipped (s : Surface) : Surface :=
  { width := s.width, height := s.height }

end Surface

/-- A place on the screen with its extent. -/
structure Rect where
  x : Int
  y : Int
  width : Int
  height : Int
  deriving Repr, DecidableEq, Inhabited

namespace Rect

/-- The rectangle of an extent at a corner. -/
def make (x y width height : Int) : Except Mishap Rect :=
  if [x, y, width, height].all countable then .ok { x, y, width, height } else .error .wrongType

/-- The rectangle of an extent around a point. -/
def centred (cx cy width height : Int) : Except Mishap Rect :=
  if countable cx && countable cy then
    .ok { x := counted (cx - width / 2), y := counted (cy - height / 2), width, height }
  else .error .wrongType

/-- Whether a number lies in a stretch that starts at another one. The start belongs to it and the
end does not. -/
def within (start length : Int) (v : Value) : Except Mishap Bool := do
  if ← (Value.int start).atMost v then v.less (.int (start + length)) else return false

/-- Whether a point lies in the rectangle. The left and the upper edge belong to it, the others do
not. -/
def contains (r : Rect) (x y : Value) : Except Mishap Bool := do
  let across ← within r.x r.width x
  let down ← within r.y r.height y
  return across && down

end Rect

/-- What is done to the screen. -/
inductive Mark where
  | caption (title : Value)
  | fill (colour : Colour)
  | blit (surface : Surface) (x y : Int)
  /-- A rectangle, filled if its line has no width. -/
  | rect (place : Rect) (colour : Colour) (lineWidth : Nat)
  /-- Shows what was drawn. -/
  | flip
  deriving Inhabited

/-- What is done to the loudspeaker. -/
inductive Sound where
  | start
  | loadMusic (path : String)
  | playMusic (loop : Bool)
  | stopMusic
  | playSound (path : String)
  deriving Repr, DecidableEq, Inhabited

namespace Mark

/-- A row of whole numbers. -/
def numbers (ns : List Int) : Value :=
  .list (ns.map .int)

/-- The mark as a row: its name and its parts. -/
def toValue : Mark → Value
  | caption title => .list [.text "caption", title]
  | fill colour => .list [.text "fill", numbers colour]
  | blit s x y =>
    .list [.text "blit", numbers [s.width, s.height], numbers [x, y], s.label,
      (s.filling.map numbers).getD .null]
  | rect r colour lineWidth =>
    .list [.text "rect", numbers [r.x, r.y, r.width, r.height], numbers colour, .int lineWidth]
  | flip => .list [.text "flip"]

end Mark

/-- What is done to the loudspeaker, as a row. -/
def Sound.toValue : Sound → Value
  | start => .list [.text "init"]
  | loadMusic path => .list [.text "music.load", .text path]
  | playMusic loop => .list [.text "music.play", .int (if loop then -1 else 0)]
  | stopMusic => .list [.text "music.stop"]
  | playSound path => .list [.text "sound.play", .text path]

end VisualNovel
