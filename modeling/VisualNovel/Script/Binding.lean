import VisualNovel.Number.Numeral
import VisualNovel.Script.Beat
import VisualNovel.Script.Layout
import VisualNovel.Value.Display

/-!
# Binding parameters

Turns the literals of a command line into the values that its layout declares, and fills in what was
left out. A text parameter is taken as it stands, blanks and all.
-/

namespace VisualNovel.Script

open Text Number

/-- The literal for no value. -/
def nilToken : String := "nil"

/-- The truth value of a word. -/
def truthWord? (word : String) : Option Bool :=
  if word == "yes" || word == "true" || word == "1" then some true
  else if word == "no" || word == "false" || word == "0" then some false
  else none

/-- Reads a literal as its parameter's type. -/
def convert (kind : CommandKind) (line : Value) (p : Param) (raw : String) :
    Except StoryError Value :=
  let fail (cause : Cause) : Except StoryError Value := .error { cause, line }
  let bare := strip raw
  if raw == nilToken then
    if p.nullable then .ok .null else fail (.nilParameter kind.keyword p.name)
  else
    match p.type with
    | .text => .ok (.text raw)
    | .int =>
      match readInt? bare with
      | some n => .ok (.int n)
      | none => fail (.notNumber kind.keyword p.name p.type.name (quoted raw))
    | .float =>
      match readFloat? bare with
      | some x => .ok (.ofFloat x)
      | none => fail (.notNumber kind.keyword p.name p.type.name (quoted raw))
    | .bool =>
      match truthWord? (lower bare) with
      | some b => .ok (.bool b)
      | none => fail (.notYesNo kind.keyword p.name (quoted raw))
    | .flag => if bare == "" then fail (.noFlagName kind.keyword) else .ok (.flag bare)

/-- Reads the literals from a position on. -/
def convertFrom (kind : CommandKind) (line : Value) (l : Layout) :
    (index : Nat) → List String → Except StoryError (List Value)
  | _, [] => .ok []
  | index, raw :: rest => do
    let v ← convert kind line ((l.paramAt? index).getD default) raw
    return v :: (← convertFrom kind line l (index + 1) rest)

/-- The values of the parameters that were left out of a fixed layout. -/
def defaultsAfter (l : Layout) (given : Nat) : List Value :=
  if l.repeated.isEmpty then (l.head.drop given).map fun p => p.default?.getD .null else []

/-- The values of a command's parameters. -/
def bind (kind : CommandKind) (raws : List String) (line : Value := .int 0)
    (context : Value := .null) : Except StoryError (List Value) := do
  let l := Layout.of kind
  if !l.accepts raws.length then
    throw { cause := .arity kind.keyword l.expected raws.length, line, context }
  let given ← convertFrom kind line l 0 raws
  return given ++ defaultsAfter l given.length

end VisualNovel.Script
