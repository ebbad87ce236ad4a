import VisualNovel.Script.Line

/-!
# Script documents

A document maps the names of conversations to lists of lines. It is compiled conversation by
conversation and line by line, and the first fault that is met is the one that is reported; a
missing start is looked for last.
-/

namespace VisualNovel.Script

/-- A parameter with the place at which it was written, if it is a number that is no number. -/
def placed (script conversation : String) (line : Int) (place : Nat) : Value → Value
  | .nan _ => .nan (.script script conversation line place)
  | v => v

/-- The beat of a line, whose parameters know their places. -/
def placedBeat (script conversation : String) (line : Int) : Beat → Beat
  | .dialogue d => .dialogue d
  | .command c =>
    .command { c with args := c.args.mapIdx fun place v => placed script conversation line place v }

/-- Reads an entry of a conversation: a line, or a record with a text and perhaps a speaker. A blank
line is no beat. -/
def parseEntry (script : Value) (entry : Value) (line : Int) (conversation : String) :
    Except Fault (Option Beat) :=
  let fail (cause : Cause) : Except Fault (Option Beat) :=
    .error (.story { cause, line := .int line, context := .text conversation })
  match entry with
  | .record fs =>
    match Fields.get "text" fs with
    | .text s =>
      match Fields.get "speaker" fs with
      | .null => .ok (some (.dialogue { text := .text s, line := .int line }))
      | v =>
        match v.display with
        | .ok speaker =>
          .ok (some (.dialogue { text := .text s, speaker := .text speaker, line := .int line }))
        | .error m => .error (.mishap m)
    | _ => fail .noText
  | .text s =>
    if Text.allBlank s then .ok none
    else
      match parseLine s (.int line) (.text conversation) with
      | .ok beat => .ok (some (placedBeat script.shown conversation line beat))
      | .error e => .error (.story e)
  | v => fail (.notText v.kindName)

/-- Reads the entries of a conversation from a position on. -/
def parseEntries (script : Value) (conversation : String) : (position : Int) → List Value →
    Except Fault (List Beat)
  | _, [] => .ok []
  | position, entry :: rest => do
    let beat ← parseEntry script entry position conversation
    let beats ← parseEntries script conversation (position + 1) rest
    return beat.toList ++ beats

/-- Reads one conversation of a document. -/
def parseConversation (script key lines : Value) : Except Fault (String × Array Beat) :=
  let fail (cause : Cause) : Except Fault (String × Array Beat) :=
    .error (.story { cause, context := contextOf script })
  match key with
  | .text conversation =>
    match lines with
    | .list entries => do
      return (conversation, (← parseEntries script conversation 1 entries).toArray)
    | _ => fail (.notLines conversation)
  | key =>
    match key.displayQuoted with
    | .ok quoted => fail (.nameNotText quoted)
    | .error m => .error (.mishap m)

/-- Compiles the conversations of a document, in order. -/
def parseConversations (script : Value) : List (Value × Value) →
    Except Fault (List (String × Array Beat))
  | [] => .ok []
  | (key, lines) :: rest => do
    let conversation ← parseConversation script key lines
    return conversation :: (← parseConversations script rest)

/-- Compiles a document. -/
def compile (document : Value) (name : Value := .text "") : Except Fault Script :=
  match document with
  | .record entries => do
    let conversations := Table.ofEntries (← parseConversations name entries)
    if Table.has startConversation conversations then
      return { name, conversations }
    else throw (.story { cause := .noStart, context := contextOf name })
  | _ => .error (.story { cause := .rootNotMapping, context := contextOf name })

end VisualNovel.Script
