import VisualNovel.Intent
import VisualNovel.Session.Scene
import VisualNovel.Tape
import VisualNovel.Text.Blank

/-!
# The console

A renderer without a screen. It records what it is told, and prints it if it is to echo.
-/

namespace VisualNovel

/-- The line that tells of an error. -/
def errorLine (message : String) : String :=
  s!"[ERROR] {message}\n"

/-- What a console has recorded and printed. -/
structure Console where
  echo : Bool := false
  intents : Tape Intent := {}
  prepared : Option Scene := none
  /-- The pieces of text that were printed. -/
  printed : Tape String := {}
  deriving Inhabited

namespace Console

/-- Prints a text. -/
def print (text : String) (c : Console) : Console :=
  { c with printed := c.printed.push text }

/-- All that was printed. -/
def output (c : Console) : String :=
  String.join c.printed.toList

/-- The lines of a menu. -/
def menuText (options : List Value) : String :=
  let line (n : Nat) (option : Value) : String := s!"  {n}. {option.shown}\n"
  String.join (options.mapIdx fun i option => line (i + 1) option)

/-- The line of an intent that is neither text nor a menu. -/
def intentLine (i : Intent) : String :=
  let args := i.payload.map fun e => s!"{e.1}={e.2.shown}"
  Text.stripEnd (s!"> {i.kind.name} " ++ " ".intercalate args) ++ "\n"

/-- The line of a displayed text, with its speaker if it has one. -/
def speechLine (i : Intent) : String :=
  let who := i.get "speaker"
  let text := (i.get "text").shown
  if who.truthy then s!"{who.shown}: {text}\n" else s!"{text}\n"

/-- Prints an intent. Text that appears bit by bit was printed when it was shown. -/
def echoIntent (i : Intent) : Attempt Console Unit := do
  match i.kind with
  | .showText => modify (print (speechLine i))
  | .showChoices =>
    modify (print "Choose:\n")
    match ((i.get "options").orElse (.list [])).parts with
    | .ok options => modify (print (menuText options))
    | .error m => throw m
  | .revealText => return
  | _ => modify (print (intentLine i))

/-- Carries out an intent. -/
def apply (i : Intent) : Attempt Console Unit := do
  modify fun c => { c with intents := c.intents.push i }
  if (← get).echo then echoIntent i

/-- Takes over a scene. -/
def prepare (scene : Scene) (c : Console) : Console :=
  let c := { c with prepared := some scene }
  if c.echo && scene.background.truthy then c.print s!"> BG {scene.background.shown}\n" else c

/-- Tells of an error. -/
def showError (message : String) (c : Console) : Console :=
  c.print (errorLine message)

/-- Forgets the recorded intents. -/
def clear (c : Console) : Console :=
  { c with intents := .empty }

end Console

end VisualNovel
