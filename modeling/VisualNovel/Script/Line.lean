import VisualNovel.Script.Binding

/-!
# Script lines

A line that starts with a point is a command: its keyword and its parameters are separated by
colons, and no parameter can hold one. Every other line is dialogue.
-/

namespace VisualNovel.Script

/-- The mark of a command. -/
def commandMark : Char := '.'

/-- What stands between a keyword and its parameters. -/
def separator : Char := ':'

/-- The pieces of a line between separators; there is always at least one. -/
def splitPieces : List Char → List (List Char)
  | [] => [[]]
  | c :: rest =>
    match splitPieces rest with
    | [] => [[c]]
    | piece :: pieces =>
      if c == separator then [] :: piece :: pieces else (c :: piece) :: pieces

/-- Reads the part of a command line after its mark. -/
def parseCommand (body : List Char) (line conversation : Value) :
    Except StoryError Beat :=
  match (splitPieces body).map String.ofList with
  | [] => .error { cause := .unknownCommand "", line, context := conversation }
  | word :: raws =>
    match CommandKind.lookup? word with
    | none => .error { cause := .unknownCommand word, line, context := conversation }
    | some kind => do
      let args ← bind kind raws line conversation
      return .command { kind, args, line }

/-- Reads one line. -/
def parseLine (raw : String) (line : Value := .int 0) (conversation : Value := .null) :
    Except StoryError Beat :=
  match raw.toList with
  | c :: body =>
    if c == commandMark then parseCommand body line conversation
    else .ok (.dialogue { text := .text raw, line })
  | [] => .ok (.dialogue { text := .text raw, line })

end VisualNovel.Script
