import VisualNovel.Disk
import VisualNovel.Json.Reader
import VisualNovel.Json.Writer
import VisualNovel.Value.Display

/-!
# Settings

Settings come in three sections. A configuration gives values for some keys of some sections; all
other keys of the known sections keep their defaults, and unknown sections are dropped. The values
themselves are taken as they are.
-/

namespace VisualNovel

/-- The settings of an engine, section by section. -/
structure Config where
  view : Fields
  text : Fields
  fonts : Fields

namespace Config

/-- The settings when nothing is configured. -/
def default : Config :=
  { view := entries [("width", .int 1024), ("height", .int 768), ("frame_rate", .int 60),
      ("sprite_y", .float 0.5)]
    text := entries [("cinematic_seconds", .float 0.0), ("cinematic_input_allowed", .bool false),
      ("typewriter_cps", .int 0), ("typewriter_can_skip", .bool true)]
    fonts := entries [("speech_font", .null), ("speech_font_size", .float 17.0),
      ("speaker_font", .null), ("speaker_font_size", .float 17.0)] }
where
  /-- The settings of a section. -/
  entries (settings : List (String × Value)) : Fields :=
    settings.map fun s => (.text s.1, s.2)

instance : Inhabited Config := ⟨default⟩

/-- The settings as a record. -/
def toValue (c : Config) : Value :=
  .ofFields [("view", .record c.view), ("text", .record c.text), ("fonts", .record c.fonts)]

/-- The fields that a configuration gives for a section. -/
def sectionOf (data : Value) (name : String) : Except Mishap Fields := do
  let fs ← (data.orElse (.record [])).fields
  ((fs.get name).orElse (.record [])).toFields

/-- The defaults, changed by a configuration. -/
def merge (data : Value) : Except Mishap Config := do
  let view ← sectionOf data "view"
  let text ← sectionOf data "text"
  let fonts ← sectionOf data "fonts"
  return { view := Table.merge default.view view, text := Table.merge default.text text
           fonts := Table.merge default.fonts fonts }

/-- The settings of a file; those of no file are the defaults. A file that cannot be read, or that
is not written as it should be, is passed over. -/
def load (path : Option String) : Attempt Disk Config := do
  match path with
  | none => return default
  | some path =>
    let p := Files.Path.ofText path
    let files := (← get).files
    let reading : Except Mishap Config := do
      if ← files.exists? p then merge (← Json.read (← files.readText p)) else return default
    match reading with
    | .ok config => return config
    | .error m =>
      if m.fromFiles || m.fromValue then
        Attempt.note .warning s!"ignoring unreadable config {p.text}"
        return default
      else throw m

/-- Writes the settings of a configuration to a file; whether the files let it be written. -/
def save (data : Value) (path : String) : Attempt Disk Bool := do
  let p := Files.Path.ofText path
  let writing : Attempt Disk Unit := do
    Attempt.changeFiles (Files.Change.ensureFolder p.parent)
    let written ← Attempt.ofExcept (do Json.write Json.indented (← merge data).toValue)
    Attempt.changeFiles (Files.Change.writeText p written)
  match ← Attempt.outcome writing with
  | .ok () => return true
  | .error m =>
    if m.fromFiles then
      Attempt.note .warning s!"cannot write config {p.text}"
      return false
    else throw m

end Config

end VisualNovel
