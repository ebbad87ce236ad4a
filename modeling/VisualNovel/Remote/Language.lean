import VisualNovel.Remote.View
import VisualNovel.Script.Document

/-!
# The script language from afar

Lines, parameters and layouts of the script language, and its errors, by values of any kind.
-/

namespace VisualNovel.Remote

open Script

/-- Reads a line, which has to be a text. -/
def readLine (raw line conversation : Value) : Except Fault Value := do
  let raw ← raw.textMember.mapError .mishap
  return beatView (← (parseLine raw line conversation).mapError .story)

/-- Compiles a document. -/
def compileDocument (document name : Value) : Except Fault Value := do
  return scriptView (← compile document name)

/-! ## Parameters -/

/-- Reads a literal as its parameter's type. What is no text is taken as it is where a text is
wanted, and cannot be read as anything else. -/
def bindOne (kind : CommandKind) (line : Value) (p : Param) (raw : Value) : Except Fault Value :=
  match raw with
  | .text s => (convert kind line p s).mapError .story
  | v => if p.type == .text then .ok v else .error (.mishap .noMember)

/-- Reads the literals from a position on. -/
def bindFrom (kind : CommandKind) (line : Value) (l : Layout) :
    (index : Nat) → List Value → Except Fault (List Value)
  | _, [] => .ok []
  | index, raw :: rest => do
    let v ← bindOne kind line ((l.paramAt? index).getD default) raw
    return v :: (← bindFrom kind line l (index + 1) rest)

/-- The values of the parameters of a command. -/
def bindParameters (keyword literals line context : Value) : Except Fault Value := do
  match keyword.text?.bind CommandKind.ofKeyword? with
  | none => throw (.mishap .badValue)
  | some kind =>
    let raws ← literals.parts.mapError .mishap
    let l := Layout.of kind
    if !l.accepts raws.length then
      throw (.story { cause := .arity kind.keyword l.expected raws.length, line, context })
    let given ← bindFrom kind line l 0 raws
    return .list (given ++ defaultsAfter l given.length)

/-! ## Layouts -/

/-- Whether a number of parameters is accepted, be it a whole number or not. -/
def acceptsCount (l : Layout) (count : Value) : Except Mishap Bool := do
  let head : Value := .int l.head.length
  if l.repeated.isEmpty then
    if ← (Value.int l.minCount).atMost count then count.atMost head else return false
  else
    let group : Value := .int l.repeated.length
    let extra ← count.sub head
    if ← group.atMost extra then return (← extra.rem group).equal (.int 0) else return false

/-- The parameter at a position. Behind the head of a layout without a group there is none. -/
def paramView (l : Layout) (index : Nat) : Except Mishap Value :=
  match l.paramAt? index with
  | some p =>
    .ok (.list [.text p.name, .text p.type.name, .bool p.nullable, .bool p.required,
      p.default?.getD .null])
  | none => .error .divisionByZero

/-- The layout of a command: which of some numbers of parameters it accepts, and its first
parameters. -/
def layoutView (keyword counts params : Value) : Except Mishap Value := do
  match CommandKind.lookup? (← keyword.textMember) with
  | none => return .ofFields [("kind", .null)]
  | some kind =>
    let l := Layout.of kind
    let accepted ← (← counts.parts).mapM (acceptsCount l)
    let shown ← (List.range (← params.asWhole).toNat).mapM (paramView l)
    return .ofFields [("kind", .text kind.keyword), ("min", .int l.minCount),
      ("expected", .text l.expected), ("accepts", .list (accepted.map .bool)),
      ("params", .list shown)]

/-! ## Errors -/

/-- An error in the given words, which its reporter places. -/
def statedError (category : Category) (message : Value) (place : List Value) :
    Except Mishap StoryError :=
  let made (line context : Value) : Except Mishap StoryError :=
    .ok { cause := .stated category message, line, context }
  match place with
  | [] => made .null .null
  | [line] => made line .null
  | [line, context] => made line context
  | _ => .error .wrongType

/-- The error of a family that is reported with so many parts. -/
def errorOf (category : Category) (parts : List Value) : Except Mishap StoryError := do
  match category, parts with
  | .unknownCommand, name :: place =>
    statedError category (.text (Cause.unknownCommandText (← name.display))) place
  | .arity, keyword :: expected :: got :: place =>
    let words := Cause.arityText (← keyword.display) (← expected.display) (← got.display)
    statedError category (.text words) place
  | .choiceIndex, [index, count] =>
    let last ← count.sub (.int 1)
    statedError category (.text (Cause.choiceIndexText (← index.display) (← last.display))) []
  | .unknownCommand, _ | .arity, _ | .choiceIndex, _ => throw .wrongType
  | _, message :: place => statedError category message place
  | _, [] => throw .wrongType

/-- An error with all that can be asked of it. -/
def errorView (name parts : Value) : Except Mishap Value := do
  match name.text?.bind Category.ofName? with
  | none => throw .noMember
  | some category =>
    let e ← errorOf category (← parts.parts)
    let parts := [e.cause.message, e.line, e.context]
    if !parts.all Value.hasText then throw .badValue
    return .ofFields [("str", .text e.text), ("message", e.cause.message), ("line", e.line),
      ("context", e.context),
      ("is", .ofTexts ((Category.all.filter category.within).map Category.name))]

end VisualNovel.Remote
