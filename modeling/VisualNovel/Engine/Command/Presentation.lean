import VisualNovel.Engine.Command.Effect

/-!
# Commands on the way text and menus are shown
-/

namespace VisualNovel.Command

/-- Gives the lines that follow a speaker, or none. -/
def setSpeaker (name : Value) : Action Stage Outcome := do
  modify (Stage.mapScene fun s => { s with speaker := name })
  return .next

/-- Shows or hides speech. -/
def showSpeech (visible : Value) : Action Stage Outcome := do
  modify (Stage.mapScene fun s => { s with showSpeech := visible })
  return .send .speechVisibility [("visible", visible)]

/-- Sets the picture behind speech. -/
def setSpeechbox (filename duration : Value) : Action Stage Outcome := do
  modify (Stage.mapScene fun s => { s with speechbox := filename })
  return .send .setSpeechbox [("filename", filename), ("duration", duration)]

/-- Sets a font or its size. -/
def setFont (field : String) (value : Value) : Action Stage Outcome := do
  modify (Stage.mapOverrides fun o => o.setField field value)
  return .send .uiOverride [(field, value)]

/-- Sets cinematic text. If it is on, typewriter text goes off. -/
def setCinematicText (seconds inputAllowed : Value) : Action Stage Outcome := do
  let seconds ← Action.ofMishap (Value.largest (.float 0.0) seconds)
  let on ← Action.ofMishap (seconds.greater (.int 0))
  modify (Stage.mapOverrides fun o =>
    { o with cinematicSeconds := seconds, cinematicInputAllowed := inputAllowed
             typewriterRate := if on then .int 0 else o.typewriterRate })
  Stage.retime (TimedText.setCinematic seconds inputAllowed)
  return .next

/-- Sets typewriter text. If it is on, cinematic text goes off. -/
def setTypewriterText (rate canSkip : Value) : Action Stage Outcome := do
  let rate ← Action.ofMishap (Value.largest (.int 0) rate)
  let on ← Action.ofMishap (rate.greater (.int 0))
  modify (Stage.mapOverrides fun o =>
    { o with typewriterRate := rate, typewriterCanSkip := canSkip
             cinematicSeconds := if on then .float 0.0 else o.cinematicSeconds })
  Stage.retime (TimedText.setTypewriter rate canSkip)
  return .next

/-- Moves the place of menus. -/
def moveChoicebox (dx dy : Value) : Action Stage Outcome := do
  let x ← Action.ofMishap ((← get).session.overrides.choiceboxOffsetX.movedBy dx)
  modify (Stage.mapOverrides fun o => { o with choiceboxOffsetX := x })
  let y ← Action.ofMishap ((← get).session.overrides.choiceboxOffsetY.movedBy dy)
  modify (Stage.mapOverrides fun o => { o with choiceboxOffsetY := y })
  return .send .uiOverride [("choicebox_offset_x", x), ("choicebox_offset_y", y)]

end VisualNovel.Command
