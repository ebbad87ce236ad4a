import VisualNovel.Engine.Command.Effect

/-!
# Commands on menus

A command can ask at once, or build up a named set of options over time and show it later. A set
holds a text at most once: adding it again moves it to the end.
-/

namespace VisualNovel.Command

/-- An option that goes to a conversation. -/
def jumpOption : List Value → Action Stage ChoiceOption
  | [text, conversation] => return { text, conversation }
  | _ => misfit

/-- An option that adds to a flag. -/
def adjustOption : List Value → Action Stage ChoiceOption
  | [text, flag, delta] => do return { text, flag := .text (← flagOf flag), delta }
  | _ => misfit

/-- Asks for a choice, under a line if there is one. -/
def askFor (option : List Value → Action Stage ChoiceOption) (line : Value)
    (groups : List (List Value)) : Action Stage Outcome :=
  return .ask (← groups.mapM option) line

/-- The options of a set without those of a text. -/
def withoutText (text : Value) (options : List (Value × Value)) : List (Value × Value) :=
  options.filter fun o => !o.1.equal text

/-- Changes the sets of options. -/
def changeSets (f : ChoiceSets → ChoiceSets) : Action Stage Unit :=
  modify (Stage.mapSession fun s => { s with choiceSets := f s.choiceSets })

/-- Adds an option to a set. -/
def addToChoiceSet (name text conversation : Value) : Action Stage Outcome := do
  let name ← keyOf name
  changeSets fun sets =>
    let there := (Table.get? name sets).getD []
    Table.put name (withoutText text there ++ [(text, conversation)]) sets
  return .next

/-- Takes an option out of a set. -/
def removeFromChoiceSet (name text : Value) : Action Stage Outcome := do
  let name ← keyOf name
  changeSets (Table.modify name (withoutText text))
  return .next

/-- Drops a set. -/
def wipeChoiceSet (name : Value) : Action Stage Outcome := do
  let (_, sets) ← takeOut name (← get).session.choiceSets
  changeSets fun _ => sets
  return .next

/-- Shows a set as a menu. That it is empty is logged. -/
def showChoiceSet (name : Value) : Action Stage Outcome := do
  match (Table.get? (← keyOf name) (← get).session.choiceSets).getD [] with
  | [] =>
    modify (Stage.note .warning s!".showchoiceset: choice set {name.quote} is empty")
    return .next
  | options => return .ask (options.map fun o => { text := o.1, conversation := o.2 }) .null

end VisualNovel.Command
