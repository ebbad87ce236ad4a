import VisualNovel.Value.Basic

/-!
# Intents

One-way instructions of the engine to whoever draws and plays: what changes, with the values that it
needs. An intent with an identity blocks the engine until the effect of that identity is reported
as done.
-/

namespace VisualNovel

/-- What an intent asks for. -/
inductive IntentKind where
  | showBackground
  | moveBackground
  | scaleBackground
  | showSprite
  | removeSprite
  | moveSprite
  | placeSprite
  | flipSprite
  | scaleSprite
  | playSound
  | playMusic
  | stopMusic
  | fadeBegin
  | fadeEnd
  | showText
  | revealText
  | speechVisibility
  | setSpeechbox
  | uiOverride
  | showChoices
  | clearChoices
  deriving Repr, DecidableEq, Inhabited

namespace IntentKind

/-- All kinds of intents. -/
def all : List IntentKind :=
  [.showBackground, .moveBackground, .scaleBackground, .showSprite, .removeSprite, .moveSprite,
   .placeSprite, .flipSprite, .scaleSprite, .playSound, .playMusic, .stopMusic, .fadeBegin,
   .fadeEnd, .showText, .revealText, .speechVisibility, .setSpeechbox, .uiOverride, .showChoices,
   .clearChoices]

/-- The name of a kind. -/
def name : IntentKind → String
  | showBackground => "show_background"
  | moveBackground => "move_background"
  | scaleBackground => "scale_background"
  | showSprite => "show_sprite"
  | removeSprite => "remove_sprite"
  | moveSprite => "move_sprite"
  | placeSprite => "place_sprite"
  | flipSprite => "flip_sprite"
  | scaleSprite => "scale_sprite"
  | playSound => "play_sound"
  | playMusic => "play_music"
  | stopMusic => "stop_music"
  | fadeBegin => "fade_begin"
  | fadeEnd => "fade_end"
  | showText => "show_text"
  | revealText => "reveal_text"
  | speechVisibility => "speech_visibility"
  | setSpeechbox => "set_speechbox"
  | uiOverride => "ui_override"
  | showChoices => "show_choices"
  | clearChoices => "clear_choices"

/-- The kind of a name. -/
def ofName? (s : String) : Option IntentKind :=
  all.find? fun k => k.name == s

end IntentKind

/-- An instruction, with an identity if it blocks. -/
structure Intent where
  kind : IntentKind
  payload : Table String Value := []
  effectId : Option Value := none
  deriving Inhabited

namespace Intent

/-- A value of the payload. -/
def get? (i : Intent) (key : String) : Option Value :=
  Table.get? key i.payload

/-- A value of the payload, or nothing. -/
def get (i : Intent) (key : String) : Value :=
  (i.get? key).getD .null

/-- A value of the payload that must be there. -/
def required (i : Intent) (key : String) : Except Mishap Value :=
  match i.get? key with
  | some v => .ok v
  | none => .error .missingKey

/-- Whether the engine waits for the effect to be done. -/
def blocking (i : Intent) : Bool :=
  i.effectId.isSome

/-- The intent as a row: its kind, its identity and its payload. -/
def toValue (i : Intent) : Value :=
  .list [.text i.kind.name, i.effectId.getD .null, .ofFields i.payload]

end Intent

end VisualNovel
