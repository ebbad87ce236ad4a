import VisualNovel.Engine.Command.Perform

/-!
# Shapes of commands

What a command does goes by its kind and by the shape of its parameters. `Command.shapes` tells
these apart once and for all: a statement about commands and what they do has one case for each
shape, and one for the commands that are misfits. All that is proved of every command is proved by
it.
-/

namespace VisualNovel.Command

open Script

/-- A command has one of the shapes that can be performed, or it is a misfit. -/
@[elab_as_elim]
theorem shapes {motive : Script.Command → Action Stage Outcome → Prop}
    (addSprite : ∀ name atOnce line,
      motive ⟨.addSprite, [name, atOnce], line⟩ (addSprite name atOnce))
    (removeSprite : ∀ name atOnce line,
      motive ⟨.removeSprite, [name, atOnce], line⟩ (removeSprite name atOnce))
    (alignSprite : ∀ name place duration line,
      motive ⟨.alignSprite, [name, place, duration], line⟩ (alignSprite name place duration))
    (moveSprite : ∀ name dx dy duration line,
      motive ⟨.moveSprite, [name, dx, dy, duration], line⟩ (moveSprite name dx dy duration))
    (setSpritePosition : ∀ name x y line,
      motive ⟨.setSpritePosition, [name, x, y], line⟩ (placeSprite name x y))
    (flipSprite : ∀ name duration horizontal line,
      motive ⟨.flipSprite, [name, duration, horizontal], line⟩
        (flipSprite name duration horizontal))
    (scaleSprite : ∀ name scale duration line,
      motive ⟨.scaleSprite, [name, scale, duration], line⟩ (scaleSprite name scale duration))
    (setSpriteAlias : ∀ name filename line,
      motive ⟨.setSpriteAlias, [name, filename], line⟩ (setSpriteAlias name filename))
    (setBackground : ∀ filename line,
      motive ⟨.setBackground, [filename], line⟩ (setBackground filename))
    (moveBackground : ∀ dx dy duration parallax line,
      motive ⟨.moveBackground, [dx, dy, duration, parallax], line⟩
        (moveBackground dx dy duration parallax))
    (scaleBackground : ∀ scale duration line,
      motive ⟨.scaleBackground, [scale, duration], line⟩ (scaleBackground scale duration))
    (fadeIn : ∀ duration line, motive ⟨.fadeIn, [duration], line⟩ (fade false duration))
    (fadeOut : ∀ duration line, motive ⟨.fadeOut, [duration], line⟩ (fade true duration))
    (playSound : ∀ filename line, motive ⟨.playSound, [filename], line⟩ (playSound filename))
    (playMusic : ∀ filename loop line,
      motive ⟨.playMusic, [filename, loop], line⟩ (playMusic filename loop))
    (setSpeaker : ∀ name line, motive ⟨.setSpeaker, [name], line⟩ (setSpeaker name))
    (showSpeech : ∀ visible line, motive ⟨.showSpeech, [visible], line⟩ (showSpeech visible))
    (setSpeechbox : ∀ filename duration line,
      motive ⟨.setSpeechbox, [filename, duration], line⟩ (setSpeechbox filename duration))
    (setSpeechFont : ∀ font line,
      motive ⟨.setSpeechFont, [font], line⟩ (setFont "speech_font" font))
    (setSpeechFontSize : ∀ size line,
      motive ⟨.setSpeechFontSize, [size], line⟩ (setFont "speech_font_size" size))
    (setSpeakerFont : ∀ font line,
      motive ⟨.setSpeakerFont, [font], line⟩ (setFont "speaker_font" font))
    (setSpeakerFontSize : ∀ size line,
      motive ⟨.setSpeakerFontSize, [size], line⟩ (setFont "speaker_font_size" size))
    (setCinematicText : ∀ seconds inputAllowed line,
      motive ⟨.setCinematicText, [seconds, inputAllowed], line⟩
        (setCinematicText seconds inputAllowed))
    (setTypewriterText : ∀ rate canSkip line,
      motive ⟨.setTypewriterText, [rate, canSkip], line⟩ (setTypewriterText rate canSkip))
    (modifyChoiceboxOffset : ∀ dx dy line,
      motive ⟨.modifyChoiceboxOffset, [dx, dy], line⟩ (moveChoicebox dx dy))
    (setConversation : ∀ name line, motive ⟨.setConversation, [name], line⟩ (setConversation name))
    (switchScript : ∀ name conversation line,
      motive ⟨.switchScript, [name, conversation], line⟩ (switchScript line name conversation))
    (setFlag : ∀ flag value line,
      motive ⟨.setFlag, [flag, value], line⟩ (do setFlag (← flagOf flag) value))
    (modifyFlag : ∀ flag delta line,
      motive ⟨.modifyFlag, [flag, delta], line⟩ (do modifyFlag (← flagOf flag) delta))
    (increaseFlagByFlag : ∀ flag other line,
      motive ⟨.increaseFlagByFlag, [flag, other], line⟩
        (do modifyFlagByFlag true (← flagOf flag) (← flagOf other)))
    (decreaseFlagByFlag : ∀ flag other line,
      motive ⟨.decreaseFlagByFlag, [flag, other], line⟩
        (do modifyFlagByFlag false (← flagOf flag) (← flagOf other)))
    (rollDice : ∀ sides count flag line,
      motive ⟨.rollDice, [sides, count, flag], line⟩ (rollDice sides count flag))
    (isFlag : ∀ flag rest line,
      motive ⟨.isFlag, flag :: rest, line⟩ (do condition .isFlag (← flagOf flag) rest))
    (isFlagMoreThan : ∀ flag rest line,
      motive ⟨.isFlagMoreThan, flag :: rest, line⟩
        (do condition .isFlagMoreThan (← flagOf flag) rest))
    (isFlagLessThan : ∀ flag rest line,
      motive ⟨.isFlagLessThan, flag :: rest, line⟩
        (do condition .isFlagLessThan (← flagOf flag) rest))
    (isFlagBetween : ∀ flag rest line,
      motive ⟨.isFlagBetween, flag :: rest, line⟩
        (do condition .isFlagBetween (← flagOf flag) rest))
    (isFlagMoreThanFlag : ∀ flag rest line,
      motive ⟨.isFlagMoreThanFlag, flag :: rest, line⟩
        (do condition .isFlagMoreThanFlag (← flagOf flag) rest))
    (isFlagLessThanFlag : ∀ flag rest line,
      motive ⟨.isFlagLessThanFlag, flag :: rest, line⟩
        (do condition .isFlagLessThanFlag (← flagOf flag) rest))
    (isFlagEqualToFlag : ∀ flag rest line,
      motive ⟨.isFlagEqualToFlag, flag :: rest, line⟩
        (do condition .isFlagEqualToFlag (← flagOf flag) rest))
    (jumpOnFlag : ∀ flag rest line,
      motive ⟨.jumpOnFlag, flag :: rest, line⟩
        (do
          jumpOnFlag (← flagOf flag)
            (Script.Command.groups ⟨.jumpOnFlag, flag :: rest, line⟩ 1 2)))
    (jumpOnChoice : ∀ args line,
      motive ⟨.jumpOnChoice, args, line⟩
        (askFor jumpOption .null (Script.Command.groups ⟨.jumpOnChoice, args, line⟩ 0 2)))
    (modifyFlagByChoice : ∀ args line,
      motive ⟨.modifyFlagByChoice, args, line⟩
        (askFor adjustOption .null (Script.Command.groups ⟨.modifyFlagByChoice, args, line⟩ 0 3)))
    (showChoiceAndJump : ∀ text rest line,
      motive ⟨.showChoiceAndJump, text :: rest, line⟩
        (askFor jumpOption text
          (Script.Command.groups ⟨.showChoiceAndJump, text :: rest, line⟩ 1 2)))
    (showChoiceAndModify : ∀ text rest line,
      motive ⟨.showChoiceAndModify, text :: rest, line⟩
        (askFor adjustOption text
          (Script.Command.groups ⟨.showChoiceAndModify, text :: rest, line⟩ 1 3)))
    (addToChoiceSet : ∀ name text conversation line,
      motive ⟨.addToChoiceSet, [name, text, conversation], line⟩
        (addToChoiceSet name text conversation))
    (removeFromChoiceSet : ∀ name text line,
      motive ⟨.removeFromChoiceSet, [name, text], line⟩ (removeFromChoiceSet name text))
    (wipeChoiceSet : ∀ name line, motive ⟨.wipeChoiceSet, [name], line⟩ (wipeChoiceSet name))
    (showChoiceSet : ∀ name line, motive ⟨.showChoiceSet, [name], line⟩ (showChoiceSet name))
    (systemCall : ∀ args line,
      motive ⟨.systemCall, args, line⟩ (return .call (args.map callArgument)))
    (misfit : ∀ cmd, motive cmd Command.misfit) (cmd : Script.Command) :
    motive cmd (perform cmd) := by
  obtain ⟨kind, args, line⟩ := cmd
  unfold perform
  dsimp only
  split
  all_goals apply_assumption

end VisualNovel.Command
