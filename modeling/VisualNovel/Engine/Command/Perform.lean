import VisualNovel.Engine.Command.Flow
import VisualNovel.Engine.Command.Menus
import VisualNovel.Engine.Command.Presentation
import VisualNovel.Engine.Command.Scenery
import VisualNovel.Engine.Command.Sprites
import VisualNovel.Script.Layout

/-!
# Performing commands

What each command does to the stage, and what it leaves to the engine.
-/

namespace VisualNovel.Command

open Script

/-- Whether a command has as many parameters as its layout says. A compiled command of a fixed
layout has them all, since those that were left out are filled in. -/
def wellFormed (cmd : Script.Command) : Bool :=
  let layout := Layout.of cmd.kind
  layout.accepts cmd.args.length
    && (!layout.repeated.isEmpty || cmd.args.length == layout.head.length)

/-- The error of a command with the wrong number of parameters. -/
def arityError (cmd : Script.Command) (conversation : String) : StoryError :=
  { cause := .arity cmd.kind.keyword (Layout.of cmd.kind).expected cmd.args.length
    line := cmd.line, context := .text conversation }

/-- A parameter as a host call passes it on: as text, unless it is no value. -/
def callArgument : Value → Value
  | .null => .null
  | v => .text v.shown

/-- Performs a command. -/
def perform (cmd : Script.Command) : Action Stage Outcome := do
  match cmd.kind, cmd.args with
  | .addSprite, [name, atOnce] => addSprite name atOnce
  | .removeSprite, [name, atOnce] => removeSprite name atOnce
  | .alignSprite, [name, place, duration] => alignSprite name place duration
  | .moveSprite, [name, dx, dy, duration] => moveSprite name dx dy duration
  | .setSpritePosition, [name, x, y] => placeSprite name x y
  | .flipSprite, [name, duration, horizontal] => flipSprite name duration horizontal
  | .scaleSprite, [name, scale, duration] => scaleSprite name scale duration
  | .setSpriteAlias, [name, filename] => setSpriteAlias name filename
  | .setBackground, [filename] => setBackground filename
  | .moveBackground, [dx, dy, duration, parallax] => moveBackground dx dy duration parallax
  | .scaleBackground, [scale, duration] => scaleBackground scale duration
  | .fadeIn, [duration] => fade false duration
  | .fadeOut, [duration] => fade true duration
  | .playSound, [filename] => playSound filename
  | .playMusic, [filename, loop] => playMusic filename loop
  | .setSpeaker, [name] => setSpeaker name
  | .showSpeech, [visible] => showSpeech visible
  | .setSpeechbox, [filename, duration] => setSpeechbox filename duration
  | .setSpeechFont, [font] => setFont "speech_font" font
  | .setSpeechFontSize, [size] => setFont "speech_font_size" size
  | .setSpeakerFont, [font] => setFont "speaker_font" font
  | .setSpeakerFontSize, [size] => setFont "speaker_font_size" size
  | .setCinematicText, [seconds, inputAllowed] => setCinematicText seconds inputAllowed
  | .setTypewriterText, [rate, canSkip] => setTypewriterText rate canSkip
  | .modifyChoiceboxOffset, [dx, dy] => moveChoicebox dx dy
  | .setConversation, [name] => setConversation name
  | .switchScript, [name, conversation] => switchScript cmd.line name conversation
  | .setFlag, [flag, value] => setFlag (← flagOf flag) value
  | .modifyFlag, [flag, delta] => modifyFlag (← flagOf flag) delta
  | .increaseFlagByFlag, [flag, other] => modifyFlagByFlag true (← flagOf flag) (← flagOf other)
  | .decreaseFlagByFlag, [flag, other] => modifyFlagByFlag false (← flagOf flag) (← flagOf other)
  | .rollDice, [sides, count, flag] => rollDice sides count flag
  | .isFlag, flag :: rest => condition .isFlag (← flagOf flag) rest
  | .isFlagMoreThan, flag :: rest => condition .isFlagMoreThan (← flagOf flag) rest
  | .isFlagLessThan, flag :: rest => condition .isFlagLessThan (← flagOf flag) rest
  | .isFlagBetween, flag :: rest => condition .isFlagBetween (← flagOf flag) rest
  | .isFlagMoreThanFlag, flag :: rest => condition .isFlagMoreThanFlag (← flagOf flag) rest
  | .isFlagLessThanFlag, flag :: rest => condition .isFlagLessThanFlag (← flagOf flag) rest
  | .isFlagEqualToFlag, flag :: rest => condition .isFlagEqualToFlag (← flagOf flag) rest
  | .jumpOnFlag, flag :: _ => jumpOnFlag (← flagOf flag) (cmd.groups 1 2)
  | .jumpOnChoice, _ => askFor jumpOption .null (cmd.groups 0 2)
  | .modifyFlagByChoice, _ => askFor adjustOption .null (cmd.groups 0 3)
  | .showChoiceAndJump, line :: _ => askFor jumpOption line (cmd.groups 1 2)
  | .showChoiceAndModify, line :: _ => askFor adjustOption line (cmd.groups 1 3)
  | .addToChoiceSet, [name, text, conversation] =>
    addToChoiceSet name text conversation
  | .removeFromChoiceSet, [name, text] => removeFromChoiceSet name text
  | .wipeChoiceSet, [name] => wipeChoiceSet name
  | .showChoiceSet, [name] => showChoiceSet name
  | .systemCall, args => return .call (args.map callArgument)
  | _, _ => misfit

end VisualNovel.Command
