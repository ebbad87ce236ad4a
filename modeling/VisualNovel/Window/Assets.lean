import VisualNovel.Window.Basic

/-!
# Pictures, sounds and fonts

A window finds its pictures and sounds by name, with or without a suffix. A picture that cannot be
had is replaced by a plain one with its name on it.
-/

namespace VisualNovel.Desk

/-- The suffixes of pictures. -/
def pictureSuffixes : List String := ["", ".png", ".jpg", ".jpeg", ".bmp"]

/-- The suffixes of sounds. -/
def soundSuffixes : List String := ["", ".ogg", ".wav", ".mp3"]

/-- The extent of the picture that stands in for a sprite. -/
def spriteExtent : Int × Int := (300, 540)

/-- The file of a name. -/
def resolve (name : Value) (suffixes : List String) : Attempt Desk (Option Files.Path) := do
  let d ← get
  let base := d.window.assets.getD (Files.Path.ofText ".")
  Attempt.ofExcept <| suffixes.findSomeM? fun suffix => do
    let p := base.join (name.shown ++ suffix)
    return if ← d.disk.files.isFile p then some p else none

/-- Remembers that something could not be found, if that matters. -/
def miss (name : Value) : Attempt Desk Unit :=
  change fun w => if w.strictAssets then { w with missing := w.missing ++ [name] } else w

/-- Loads a picture. That a file is no picture is logged. -/
def loadPicture (name : Value) : Attempt Desk (Option Surface) := do
  match ← resolve name pictureSuffixes with
  | none => return none
  | some p =>
    match (← get).disk.files.read p with
    | .ok (.picture width height) => return some { width, height }
    | _ =>
      note .warning s!"cannot load image {p.text}"
      return none

/-- The picture that stands in for one that cannot be had: a plain one with its name on it. -/
def standIn (name : Value) (extent : Int × Int) : Attempt Desk Surface := do
  let surface ← made (·.plain extent.1 extent.2 [80, 80, 120, 255])
  let font := (← window?).speakerFont
  let label ← made (·.render font name)
  discard (Attempt.ofExcept (Rect.centred (extent.1 / 2) 30 label.width label.height))
  return surface

/-- The picture of a name, or one of the given extent that stands in for it. -/
def picture (name : Value) (extent : Int × Int) : Attempt Desk Surface := do
  let name ← Attempt.ofExcept name.asKey
  match Table.get? name (← window?).pictures with
  | some surface => return surface
  | none =>
    let surface ← match ← loadPicture name with
      | some surface => pure surface
      | none =>
        miss name
        standIn name extent
    change fun w => { w with pictures := Table.put name surface w.pictures }
    return surface

/-- Whether the file at a path can be used. -/
def usableAt (p : Files.Path) : Attempt Desk Bool := do
  let d ← get
  match d.disk.files.read p with
  | .ok content => return d.window.toolkit.usable content
  | .error _ => return false

/-- Plays a sound, or music if `loop` says how. -/
def play (name : Value) (loop : Option Bool) : Attempt Desk Unit := do
  match ← resolve name soundSuffixes with
  | none => miss name
  | some p =>
    if !(← window?).audible then change fun w => ({ w with audible := true }).sound .start
    if ← usableAt p then
      match loop with
      | some loop => change fun w => (w.sound (.loadMusic p.text)).sound (.playMusic loop)
      | none => change fun w => w.sound (.playSound p.text)
    else note .warning s!"audio unavailable for {p.text}"

/-- Whether the font file at a path can be used, if there is one. -/
def fontAt (p : Files.Path) : Attempt Desk (Option Bool) := do
  let files := (← get).disk.files
  match files.exists? p with
  | .ok false => return none
  | .ok true => return some (← usableAt p)
  | .error m => if m.fromFiles then return some false else throw m

/-- The font of a file and a size, or the built-in one. -/
def loadFont (path size : Value) : Attempt Desk Font := do
  let size := max 6 (← Attempt.ofExcept (size.orElse (.int 17)).round)
  let builtIn : Font := { size }
  if !path.truthy then return builtIn
  let p := Files.Path.ofText (← Attempt.ofExcept path.asText)
  match ← fontAt p with
  | none => return builtIn
  | some true => return { size, file := some p.text }
  | some false =>
    note .warning s!"font {path.shown} unusable"
    return builtIn

end VisualNovel.Desk
