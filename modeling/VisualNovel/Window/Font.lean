import VisualNovel.Files.Tree
import VisualNovel.Window.Surface

/-!
# Fonts and toolkits

The fonts of a window, the toolkit that it loads, measures and draws with, and the breaking of text
into lines.
-/

namespace VisualNovel

/-- A font: one that comes from a file, or the built-in one. -/
structure Font where
  size : Int := 24
  file : Option String := none
  deriving Repr, DecidableEq, Inhabited

/-- What a window leaves to the library that it is built on. -/
structure Toolkit where
  /-- Whether there can be a surface of such an extent. -/
  possible : (width height : Int) → Bool
  /-- The width of a text. -/
  widthOf : Font → String → Int
  /-- The width and height of words on a surface, if they can be written at all. -/
  extentOf : Font → Value → Except Mishap (Int × Int)
  /-- Whether a file of sound or a font can be used. -/
  usable : Files.Content → Bool

namespace Toolkit

/-- A surface with nothing on it. -/
def blank (t : Toolkit) (width height : Int) : Except Mishap Surface :=
  if !countable width || !countable height then .error .badValue
  else if t.possible width height then .ok { width, height }
  else .error .cannotDraw

/-- A surface of one colour, whose parts go up to 255. -/
def plain (t : Toolkit) (width height : Int) (colour : Colour) : Except Mishap Surface := do
  let s ← t.blank width height
  if colour.all fun part => decide (0 ≤ part) && decide (part ≤ 255) then
    return { s with filling := some colour }
  else throw .badValue

/-- A surface of another extent in place of one. -/
def stretched (t : Toolkit) (width height : Int) : Except Mishap Surface :=
  if !countable width || !countable height then .error .wrongType
  else if t.possible width height then .ok { width, height }
  else .error .cannotDraw

/-- Words as a surface. -/
def render (t : Toolkit) (f : Font) (words : Value) : Except Mishap Surface := do
  let (width, height) ← t.extentOf f words
  let s ← t.blank width height
  return { s with label := words }

/-! ### A toolkit without a screen -/

/-- The width of each character in a font of even width: the height of the font if it comes from a
file, and half of that if it is built in. -/
def evenWidth (f : Font) : Int :=
  if f.file.isSome then f.size else f.size / 2

/-- A toolkit for a program that has no screen. Its fonts are of even width and write all that has a
length. A surface has four bytes for each of its points, which have to be countable. Files that
begin with `bad` cannot be used. -/
def even : Toolkit where
  possible width height :=
    decide (0 ≤ width) && decide (0 ≤ height) && decide (width * height * 4 < Number.twoTo 31)
  widthOf f text := evenWidth f * text.length
  extentOf f words := do return (evenWidth f * (← words.size), f.size)
  usable
    | .bytes data => data.toList.take 3 != [98, 97, 100]
    | .picture _ _ => true

instance : Inhabited Toolkit :=
  ⟨even⟩

end Toolkit

/-- Cuts a list at every item that is a separator. -/
def splitAt {α : Type} (separates : α → Bool) : List α → List (List α)
  | [] => [[]]
  | c :: rest =>
    match splitAt separates rest with
    | [] => [[]]
    | first :: others => if separates c then [] :: first :: others else (c :: first) :: others

/-- Puts words into lines. A word goes on the current line as long as that is not too wide; a line
that is empty takes any word. -/
def fillLines (fits : String → Bool) : (line : String) → List String → List String
  | line, [] => [line]
  | line, word :: rest =>
    let longer := if line == "" then word else s!"{line} {word}"
    if fits longer || line == "" then fillLines fits longer rest
    else line :: fillLines fits word rest

/-- Breaks a text into lines that fit, paragraph by paragraph. -/
def wrap (fits : String → Bool) (text : String) : List String :=
  (splitAt (· == '\n') text.toList).flatMap fun paragraph =>
    fillLines fits "" ((splitAt (· == ' ') paragraph).map String.ofList)

end VisualNovel
