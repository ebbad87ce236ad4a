import VisualNovel.Script.CommandKind
import VisualNovel.Value.Basic

/-!
# Parameter layouts

What parameters a command takes: a head of typed parameters, of which the last ones may be left out,
or a head followed by a group that is repeated whole at least once.
-/

namespace VisualNovel.Script

/-- What a parameter's literal is read as. -/
inductive ParamType where
  | text
  | int
  | float
  | bool
  | flag
  deriving Repr, DecidableEq, Inhabited

/-- The name of a type, as messages give it. -/
def ParamType.name : ParamType → String
  | text => "str"
  | int => "int"
  | float => "float"
  | bool => "bool"
  | flag => "flag"

/-- A parameter. It is required unless it has a value for when it is left out. -/
structure Param where
  name : String
  type : ParamType := .text
  /-- Whether the literal `nil` may stand for no value. -/
  nullable : Bool := false
  default? : Option Value := none
  deriving Inhabited

namespace Param

/-- Whether the parameter must be given. -/
def required (p : Param) : Bool :=
  p.default?.isNone

/-- A required text. -/
def text (name : String) : Param := { name }

/-- A text that may be `nil`. -/
def nullableText (name : String) : Param := { name, nullable := true }

/-- A required whole number. -/
def int (name : String) : Param := { name, type := .int }

/-- A required double. -/
def float (name : String) : Param := { name, type := .float }

/-- A double that may be left out. -/
def floatOr (name : String) (x : Float) : Param :=
  { name, type := .float, default? := some (.float x) }

/-- A required truth value. -/
def bool (name : String) : Param := { name, type := .bool }

/-- A truth value that may be left out. -/
def boolOr (name : String) (b : Bool) : Param :=
  { name, type := .bool, default? := some (.bool b) }

/-- The name of a flag. -/
def flag (name : String) : Param := { name, type := .flag }

end Param

/-- The parameters of a command. -/
structure Layout where
  head : List Param := []
  repeated : List Param := []
  deriving Inhabited

namespace Layout

/-- The least number of parameters. -/
def minCount (l : Layout) : Nat :=
  (l.head.filter Param.required).length + l.repeated.length

/-- The numbers of parameters that are accepted, in words. -/
def expected (l : Layout) : String :=
  let high := l.head.length
  if l.repeated.isEmpty then
    if l.minCount == high then toString high else s!"{l.minCount}-{high}"
  else
    let group := l.repeated.length
    s!"{high}+{group}n"

/-- Whether a number of parameters is accepted. -/
def accepts (l : Layout) (count : Int) : Bool :=
  let extra := count - l.head.length
  if l.repeated.isEmpty then decide (l.minCount ≤ count ∧ count ≤ l.head.length)
  else decide (l.repeated.length ≤ extra ∧ extra % l.repeated.length = 0)

/-- The parameter at a position, where the group starts again and again after the head. -/
def paramAt? (l : Layout) (index : Nat) : Option Param :=
  if index < l.head.length then l.head[index]?
  else l.repeated[(index - l.head.length) % l.repeated.length]?

/-- The layout of a command. -/
def of : CommandKind → Layout
  | .addSprite => { head := [.text "name", .boolOr "appear_at_once" false] }
  | .removeSprite => { head := [.text "name", .boolOr "remove_at_once" false] }
  | .alignSprite => { head := [.text "name", .text "alignment", .floatOr "duration" 0.5] }
  | .moveSprite =>
    { head := [.text "name", .float "dx", .float "dy", .floatOr "duration" 0.5] }
  | .setSpritePosition => { head := [.text "name", .float "x", .float "y"] }
  | .flipSprite =>
    { head := [.text "name", .floatOr "duration" 0.5, .boolOr "horizontal" true] }
  | .scaleSprite => { head := [.text "name", .float "scale", .floatOr "duration" 0.0] }
  | .setSpriteAlias => { head := [.text "alias", .nullableText "filename"] }
  | .setBackground => { head := [.nullableText "filename"] }
  | .moveBackground =>
    { head := [.float "dx", .float "dy", .floatOr "duration" 0.5, .floatOr "parallax" 0.95] }
  | .scaleBackground => { head := [.float "scale", .floatOr "duration" 0.0] }
  | .fadeIn => { head := [.float "duration"] }
  | .fadeOut => { head := [.float "duration"] }
  | .playSound => { head := [.text "filename"] }
  | .playMusic => { head := [.nullableText "filename", .boolOr "loop" true] }
  | .setSpeaker => { head := [.nullableText "name"] }
  | .showSpeech => { head := [.bool "visible"] }
  | .setSpeechbox => { head := [.text "filename", .floatOr "duration" 0.0] }
  | .setSpeechFont => { head := [.nullableText "font"] }
  | .setSpeechFontSize => { head := [.float "size"] }
  | .setSpeakerFont => { head := [.nullableText "font"] }
  | .setSpeakerFontSize => { head := [.float "size"] }
  | .setCinematicText => { head := [.float "seconds", .boolOr "input_allowed" false] }
  | .setTypewriterText => { head := [.int "chars_per_second", .boolOr "can_skip" true] }
  | .modifyChoiceboxOffset => { head := [.float "dx", .float "dy"] }
  | .setConversation => { head := [.text "name"] }
  | .switchScript =>
    { head := [.text "script", { name := "conversation", default? := some (.text "start") }] }
  | .setFlag => { head := [.flag "flag", .int "value"] }
  | .modifyFlag => { head := [.flag "flag", .int "delta"] }
  | .increaseFlagByFlag => { head := [.flag "flag", .flag "other"] }
  | .decreaseFlagByFlag => { head := [.flag "flag", .flag "other"] }
  | .rollDice => { head := [.int "sides", .int "count", .flag "flag"] }
  | .isFlag => { head := [.flag "flag", .int "value"] }
  | .isFlagMoreThan => { head := [.flag "flag", .int "value"] }
  | .isFlagLessThan => { head := [.flag "flag", .int "value"] }
  | .isFlagBetween => { head := [.flag "flag", .int "low", .int "high"] }
  | .isFlagMoreThanFlag => { head := [.flag "flag", .flag "other"] }
  | .isFlagLessThanFlag => { head := [.flag "flag", .flag "other"] }
  | .isFlagEqualToFlag => { head := [.flag "flag", .flag "other"] }
  | .jumpOnFlag => { head := [.flag "flag"], repeated := [.int "value", .text "conversation"] }
  | .jumpOnChoice => { repeated := [.text "text", .text "conversation"] }
  | .modifyFlagByChoice => { repeated := [.text "text", .flag "flag", .int "delta"] }
  | .showChoiceAndJump =>
    { head := [.text "line"], repeated := [.text "text", .text "conversation"] }
  | .showChoiceAndModify =>
    { head := [.text "line"], repeated := [.text "text", .flag "flag", .int "delta"] }
  | .addToChoiceSet => { head := [.text "set", .text "text", .text "conversation"] }
  | .removeFromChoiceSet => { head := [.text "set", .text "text"] }
  | .wipeChoiceSet => { head := [.text "set"] }
  | .showChoiceSet => { head := [.text "set"] }
  | .systemCall => { repeated := [.nullableText "arg"] }

end Layout

end VisualNovel.Script
