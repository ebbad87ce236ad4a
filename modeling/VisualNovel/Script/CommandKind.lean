import VisualNovel.Text.Blank
import VisualNovel.Text.Lowercase

/-!
# Command kinds

The closed set of commands of the script language and the keyword of each. A keyword is looked up
without regard to case or to blanks around it.
-/

namespace VisualNovel.Script

/-- A command of the script language. -/
inductive CommandKind where
  | addSprite
  | removeSprite
  | alignSprite
  | moveSprite
  | setSpritePosition
  | flipSprite
  | scaleSprite
  | setSpriteAlias
  | setBackground
  | moveBackground
  | scaleBackground
  | fadeIn
  | fadeOut
  | playSound
  | playMusic
  | setSpeaker
  | showSpeech
  | setSpeechbox
  | setSpeechFont
  | setSpeechFontSize
  | setSpeakerFont
  | setSpeakerFontSize
  | setCinematicText
  | setTypewriterText
  | modifyChoiceboxOffset
  | setConversation
  | switchScript
  | setFlag
  | modifyFlag
  | increaseFlagByFlag
  | decreaseFlagByFlag
  | rollDice
  | isFlag
  | isFlagMoreThan
  | isFlagLessThan
  | isFlagBetween
  | isFlagMoreThanFlag
  | isFlagLessThanFlag
  | isFlagEqualToFlag
  | jumpOnFlag
  | jumpOnChoice
  | modifyFlagByChoice
  | showChoiceAndJump
  | showChoiceAndModify
  | addToChoiceSet
  | removeFromChoiceSet
  | wipeChoiceSet
  | showChoiceSet
  | systemCall
  deriving Repr, DecidableEq, Inhabited

namespace CommandKind

/-- All commands. -/
def all : List CommandKind :=
  [.addSprite, .removeSprite, .alignSprite, .moveSprite, .setSpritePosition,
   .flipSprite, .scaleSprite, .setSpriteAlias, .setBackground, .moveBackground,
   .scaleBackground, .fadeIn, .fadeOut, .playSound, .playMusic,
   .setSpeaker, .showSpeech, .setSpeechbox, .setSpeechFont, .setSpeechFontSize,
   .setSpeakerFont, .setSpeakerFontSize, .setCinematicText, .setTypewriterText,
   .modifyChoiceboxOffset, .setConversation, .switchScript, .setFlag, .modifyFlag,
   .increaseFlagByFlag, .decreaseFlagByFlag, .rollDice, .isFlag, .isFlagMoreThan, .isFlagLessThan,
   .isFlagBetween, .isFlagMoreThanFlag, .isFlagLessThanFlag, .isFlagEqualToFlag, .jumpOnFlag,
   .jumpOnChoice, .modifyFlagByChoice, .showChoiceAndJump, .showChoiceAndModify, .addToChoiceSet,
   .removeFromChoiceSet, .wipeChoiceSet, .showChoiceSet, .systemCall]

/-- The keyword of a command. -/
def keyword : CommandKind → String
  | .addSprite => "addsprite"
  | .removeSprite => "removesprite"
  | .alignSprite => "alignsprite"
  | .moveSprite => "movesprite"
  | .setSpritePosition => "setspriteposition"
  | .flipSprite => "flipsprite"
  | .scaleSprite => "scalesprite"
  | .setSpriteAlias => "setspritealias"
  | .setBackground => "setbackground"
  | .moveBackground => "movebackground"
  | .scaleBackground => "scalebackground"
  | .fadeIn => "fadein"
  | .fadeOut => "fadeout"
  | .playSound => "playsound"
  | .playMusic => "playmusic"
  | .setSpeaker => "setspeaker"
  | .showSpeech => "showspeech"
  | .setSpeechbox => "setspeechbox"
  | .setSpeechFont => "setspeechfont"
  | .setSpeechFontSize => "setspeechfontsize"
  | .setSpeakerFont => "setspeakerfont"
  | .setSpeakerFontSize => "setspeakerfontsize"
  | .setCinematicText => "setcinematictext"
  | .setTypewriterText => "settypewritertext"
  | .modifyChoiceboxOffset => "modifychoiceboxoffset"
  | .setConversation => "setconversation"
  | .switchScript => "switchscript"
  | .setFlag => "setflag"
  | .modifyFlag => "modifyflag"
  | .increaseFlagByFlag => "increaseflagbyflag"
  | .decreaseFlagByFlag => "decreaseflagbyflag"
  | .rollDice => "rolldice"
  | .isFlag => "isflag"
  | .isFlagMoreThan => "isflagmorethan"
  | .isFlagLessThan => "isflaglessthan"
  | .isFlagBetween => "isflagbetween"
  | .isFlagMoreThanFlag => "isflagmorethanflag"
  | .isFlagLessThanFlag => "isflaglessthanflag"
  | .isFlagEqualToFlag => "isflagequaltoflag"
  | .jumpOnFlag => "jumponflag"
  | .jumpOnChoice => "jumponchoice"
  | .modifyFlagByChoice => "modifyflagbychoice"
  | .showChoiceAndJump => "showchoiceandjump"
  | .showChoiceAndModify => "showchoiceandmodify"
  | .addToChoiceSet => "addtochoiceset"
  | .removeFromChoiceSet => "removefromchoiceset"
  | .wipeChoiceSet => "wipechoiceset"
  | .showChoiceSet => "showchoiceset"
  | .systemCall => "systemcall"

/-- The command of a keyword in its exact spelling. -/
def ofKeyword? (word : String) : Option CommandKind :=
  all.find? fun k => k.keyword == word

/-- The command of a keyword as authors write it. -/
def lookup? (word : String) : Option CommandKind :=
  ofKeyword? (Text.lower (Text.strip word))

end CommandKind

end VisualNovel.Script
