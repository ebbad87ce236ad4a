import VisualNovel.Action
import VisualNovel.Config
import VisualNovel.Dice
import VisualNovel.Library
import VisualNovel.Session.State
import VisualNovel.Session.TimedText

/-!
# The stage

The part of an engine that commands work on: the session, the timing of its text, and what a command
can draw on. Nothing here knows about listeners, renderers or modes, so a command cannot either.
-/

namespace VisualNovel

open Script

/-- What commands work on. -/
structure Stage where
  config : Config
  /-- The script that is played. -/
  script : Script
  session : Session
  timedText : TimedText := {}
  dice : Dice := {}
  library : Option Library := none
  disk : Disk := {}
  deriving Inhabited

namespace Stage

/-- Changes the session. -/
def mapSession (f : Session → Session) (s : Stage) : Stage :=
  { s with session := f s.session }

/-- Changes the place in the script. -/
def mapCursor (f : Cursor → Cursor) (s : Stage) : Stage :=
  s.mapSession fun t => { t with cursor := f t.cursor }

/-- Takes up a place in a script. -/
def enter (script : Script) (cursor : Cursor) (s : Stage) : Stage :=
  { s.mapCursor fun _ => cursor with script }

/-- Changes the scene. -/
def mapScene (f : Scene → Scene) (s : Stage) : Stage :=
  s.mapSession fun t => { t with scene := f t.scene }

/-- The place of the scene. -/
def scenePlace : Place Stage Scene where
  get s := s.session.scene
  set scene s := s.mapScene fun _ => scene

/-- Changes the settings that the script has made. -/
def mapOverrides (f : Overrides → Overrides) (s : Stage) : Stage :=
  s.mapSession fun t => { t with overrides := f t.overrides }

/-- Changes the flags. -/
def mapFlags (f : Flags → Flags) (s : Stage) : Stage :=
  s.mapSession fun t => { t with flags := f t.flags }

/-- Changes the timing of text. -/
def mapTimedText (f : TimedText → TimedText) (s : Stage) : Stage :=
  { s with timedText := f s.timedText }

/-- Adds a line to the log. -/
def note (level : Level) (text : String) (s : Stage) : Stage :=
  { s with disk := s.disk.note level text }

/-- The place of the timing of text. -/
def timedTextPlace : Place Stage TimedText where
  get s := s.timedText
  set t s := { s with timedText := t }

/-- The place of the dice. -/
def dicePlace : Place Stage Dice where
  get s := s.dice
  set d s := { s with dice := d }

/-- Changes the timing of text. -/
def retime (change : Attempt TimedText Unit) : Action Stage Unit :=
  Action.attempt timedTextPlace change

/-- Goes to the start of another conversation. -/
def switchConversation (name : Value) : Action Stage Unit := do
  let cursor := (← get).session.cursor
  let name ← Action.ofExcept (cursor.script.named name)
  let cursor ← Action.ofStory (cursor.switchTo name)
  modify (mapCursor fun _ => cursor)

/-- The script of a name from the library; `missing` is the error when there is no library. -/
def fetchScript (missing : StoryError) (name : Value) : Action Stage Script := do
  let s ← get
  match s.library with
  | none => throw (.story missing)
  | some library =>
    let (found, library) := library.get s.disk.files name
    set { s with library := some library }
    Action.ofExcept found

/-- Sets the timing of text as the session wants it. Cinematic text wins when both are on. -/
def retimeFromSession : Action Stage Unit := do
  let o := (← get).session.overrides
  retime (TimedText.setCinematic (.int 0))
  retime (TimedText.setTypewriter o.typewriterRate o.typewriterCanSkip)
  if ← Action.ofMishap (o.cinematicSeconds.greater (.int 0)) then
    retime (TimedText.setCinematic o.cinematicSeconds o.cinematicInputAllowed)

end Stage

end VisualNovel
