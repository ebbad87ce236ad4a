import VisualNovel.Files.Tree
import VisualNovel.Json.Reader
import VisualNovel.PropertyList.Binary
import VisualNovel.Script.Document

/-!
# Script files

Scripts are kept as JSON or as property lists; the suffix of a file's name decides which. A file
that cannot be read is an error of the story, except for markup that is not well-formed, which is a
mishap.
-/

namespace VisualNovel

open Script

namespace Script

/-- A mishap on reading a document. Those that the format itself does not account for pass
through. -/
def readingFault (p : Files.Path) (m : Mishap) : Fault :=
  match m with
  | .badMarkup | .badIndex | .noMember | .wrongType | .unknownEncoding | .endless | .noRoom =>
    .mishap m
  | _ => .story { cause := .unreadable, context := .text p.text }

/-- What a property list file holds. -/
def readPropertyList (content : Files.Content) : Except Mishap PropertyList.Content :=
  match content with
  | .bytes data => PropertyList.read data
  | .picture _ _ => .error .badValue

/-- What a document file holds. -/
def readContent (files : Files.Tree) (p : Files.Path) : Except Fault PropertyList.Content :=
  let found : Option (Except Mishap PropertyList.Content) := match Text.lower p.suffix with
    | ".json" => some (do return { value := ← Json.read (← files.readText p) })
    | ".plist" => some (do readPropertyList (← files.read p))
    | _ => none
  match found with
  | some (.ok content) => .ok content
  | some (.error m) => .error (readingFault p m)
  | none => .error (.story { cause := .unknownFormat p.suffix, context := .text p.text })

/-- The value of a document file. One that holds itself has none. -/
def readDocument (files : Files.Tree) (p : Files.Path) : Except Fault Value := do
  let content ← readContent files p
  if content.holdsItself then throw (.mishap .endless) else return content.value

/-- Loads and compiles a script file; the script is named for the file. -/
def load (files : Files.Tree) (p : Files.Path) : Except Fault Script := do
  compile (← readContent files p).value (.text p.stem)

end Script

end VisualNovel
