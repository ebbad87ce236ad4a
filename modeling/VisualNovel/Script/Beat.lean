import VisualNovel.Script.CommandKind
import VisualNovel.Script.Error
import VisualNovel.Value.Equality

/-!
# Scripts

A compiled script: named conversations, each a row of beats. A beat is a line of dialogue or a
command with its parameters.
-/

namespace VisualNovel.Script

/-- The conversation that a script starts with. -/
def startConversation : String := "start"

/-- A line of dialogue. Its speaker counts before the speaker of the scene. -/
structure Dialogue where
  text : Value
  speaker : Value := .null
  line : Value := .int 0
  deriving Inhabited

/-- A command with its parameters. -/
structure Command where
  kind : CommandKind
  args : List Value := []
  line : Value := .int 0
  deriving Inhabited

/-- A beat of a conversation. -/
inductive Beat where
  | dialogue (d : Dialogue)
  | command (c : Command)
  deriving Inhabited

/-- Cuts a list into groups of a size; the last may be short. The fuel is the length of the list. -/
def chunksFrom {α : Type} (size : Nat) : (fuel : Nat) → List α → List (List α)
  | 0, _ => []
  | _ + 1, [] => []
  | fuel + 1, x :: xs => (x :: xs).take size :: chunksFrom size fuel ((x :: xs).drop size)

/-- Cuts a list into groups of a size; the last may be short. -/
def chunks {α : Type} (size : Nat) (xs : List α) : List (List α) :=
  chunksFrom size xs.length xs

/-- The groups of a command's parameters from a position on. -/
def Command.groups (c : Command) (start size : Nat) : List (List Value) :=
  chunks size (c.args.drop start)

/-- The values that make up a beat, but for the kind of a command. -/
def Beat.parts : Beat → List Value
  | .dialogue d => [d.text, d.speaker, d.line]
  | .command c => c.line :: c.args

/-- The kind of a command. -/
def Beat.kind? : Beat → Option CommandKind
  | .dialogue _ => none
  | .command c => some c.kind

/-- Whether two beats of different scripts are equal: their places in the document count. -/
def Beat.equal (a b : Beat) : Bool :=
  a.kind? == b.kind? && a.parts.length == b.parts.length
    && (a.parts.zip b.parts).all fun (x, y) => x.equal y

end VisualNovel.Script

namespace VisualNovel

open Script

/-- A compiled script. -/
structure Script where
  name : Value := .text ""
  conversations : Table String (Array Beat) := []
  deriving Inhabited

namespace Script

/-- The beats of a conversation. -/
def lookup (s : Script) (conversation : String) : Except StoryError (Array Beat) :=
  match Table.get? conversation s.conversations with
  | some beats => .ok beats
  | none =>
    .error { cause := .unknownConversation (.text conversation), context := contextOf s.name }

/-- Whether the script has the conversation. -/
def contains (s : Script) (conversation : String) : Bool :=
  Table.has conversation s.conversations

/-- The conversation that a value names. No conversation has a name that is no text. -/
def named (s : Script) (conversation : Value) : Except Fault String :=
  match conversation with
  | .text name =>
    if s.contains name then .ok name
    else .error (.story { cause := .unknownConversation conversation, context := contextOf s.name })
  | v =>
    if v.canBeKey then
      .error (.story { cause := .unknownConversation conversation, context := contextOf s.name })
    else .error (.mishap .wrongType)

/-- The number of beats of all conversations. -/
def size (s : Script) : Nat :=
  s.conversations.foldl (fun n c => n + c.2.size) 0

/-- Whether two lists of beats are equal. -/
def equalBeats (a b : Array Beat) : Bool :=
  a.size == b.size && (a.toList.zip b.toList).all fun (x, y) => x.equal y

/-- Whether two scripts are equal, whatever the order of their conversations. -/
def equal (s t : Script) : Bool :=
  s.name.equal t.name && s.conversations.length == t.conversations.length
    && s.conversations.all fun (name, beats) =>
      match Table.get? name t.conversations with
      | some other => equalBeats beats other
      | none => false

/-- The script in a few words. -/
def summary (s : Script) : String :=
  let count := s.conversations.length
  s!"Script(name={s.name.quote}, conversations={count})"

end Script

end VisualNovel
