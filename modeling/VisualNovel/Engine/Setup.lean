import VisualNovel.Engine.Persistence
import VisualNovel.SystemCall

/-!
# Setting up an engine
-/

namespace VisualNovel.Engine

open Script

variable {σ : Type}

/-- The settings of a session when it starts. -/
def initialOverrides (config : Config) : Except Mishap Overrides := do
  let font (key : String) : Value := config.fonts.get key
  let text (key : String) : Value := config.text.get key
  return {
    speechFont := font "speech_font"
    speechFontSize := font "speech_font_size"
    speakerFont := font "speaker_font"
    speakerFontSize := font "speaker_font_size"
    typewriterRate := .int (← ((text "typewriter_cps").orElse (.int 0)).toInt)
    typewriterCanSkip := .bool (text "typewriter_can_skip").truthy
    cinematicSeconds := ← ((text "cinematic_seconds").orElse (.float 0.0)).asFloat
    cinematicInputAllowed := .bool (text "cinematic_input_allowed").truthy }

/-- The stage of a script that has not started. -/
def initialStage (script : Script) (config : Config) : Except Fault Stage := do
  let cursor ← (Cursor.start script).mapError .story
  let timed : Except Mishap (TimedText × Overrides) := do
    let timedText ← TimedText.new (← config.view.required "frame_rate")
    return (timedText, ← initialOverrides config)
  let (timedText, overrides) ← timed.mapError .mishap
  let stage : Stage :=
    { config, script, session := { cursor, scriptName := script.name, overrides }, timedText }
  let (done, stage) := Stage.retimeFromSession.perform stage
  done
  return stage

/-- What an engine is set up with. -/
structure Setup where
  script : Script
  config : Config := .default
  dice : Dice := {}
  library : Option Library := none
  saves : Option SaveStore := none
  disk : Disk := {}
  now : String := ""
  strict : Bool := false

/-- An engine before it starts to load. -/
def ofSetup (s : Setup) (outside : σ) : Except Fault (Engine σ) := do
  let stage ← initialStage s.script s.config
  return {
    stage := { stage with dice := s.dice, library := s.library, disk := s.disk }
    saves := s.saves, now := s.now, strict := s.strict, outside }

/-- Answers the calls of a script with the handlers that are registered; `custom` answers those of
the host. -/
def answerCall {ι : Type} (calls : SystemCalls ι) (custom : ι → List Value → Play σ Value)
    (args : List Value) : Play σ Unit :=
  discard (calls.send note (some autosave) custom args)

end VisualNovel.Engine
