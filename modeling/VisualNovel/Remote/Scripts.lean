import VisualNovel.Library
import VisualNovel.Remote.Files
import VisualNovel.Remote.View

/-!
# Scripts and libraries from afar

The calls of a script: `lookup`, `contains`, `repr`, `equal`, `equal_value` and `groups`. The calls
of a library: `get`, `path_for`, `add`, `write` and `same`.
-/

namespace VisualNovel.Remote

open Script

/-! ## Scripts -/

/-- The place in a row of so many items that a bound of a stretch stands for. A negative one counts
from the end, and no bound lies outside of the row. -/
def boundIn (length : Nat) (n : Int) : Nat :=
  if n < 0 then (n + length).toNat else min n.toNat length

/-- The items of a stretch of a row. -/
def stretch {α : Type} (items : List α) (start stop : Int) : List α :=
  let from' := boundIn items.length start
  (items.drop from').take (boundIn items.length stop - from')

/-- How many steps of a size lead from a start to a stop without reaching it. -/
def stepCount (start stop size : Int) : Nat :=
  if 0 < size then ((stop - start + size - 1) / size).toNat
  else ((start - stop + (-size) - 1) / (-size)).toNat

/-- The groups of a size from a start on, up to the end of a row. -/
def groupsOf (items : List Value) (start size : Value) : Except Mishap (List Value) := do
  let start ← start.asWhole
  let size ← size.asWhole
  if size == 0 then throw .badValue
  return (List.range (stepCount start items.length size)).map fun (k : Nat) =>
    let i := start + k * size
    .list (stretch items i (i + size))

/-- The beat at a place of a conversation, counted from either end. -/
def beatAt (beats : Array Beat) (index : Value) : Except Mishap Beat := do
  let place ← Value.placeIn beats.size (← index.asWhole)
  return beats.getD place default

/-- Whether a value names a conversation. -/
def containsNamed (s : Script) (name : Value) : Except Mishap Bool := do
  match ← name.asKey with
  | .text name => return s.contains name
  | _ => return false

/-- A call of a script. -/
def callScript (s : Script) (c : Call) : Except Fault Value := do
  match c.name with
  | "lookup" =>
    let name ← s.named (c.arg 0)
    return beatsView (← (s.lookup name).mapError .story)
  | "contains" => return .bool (← (containsNamed s (c.arg 0)).mapError .mishap)
  | "repr" => if s.name.hasText then return .text s.summary else throw (.mishap .badValue)
  | "equal" => return .bool (s.equal (← compile (c.arg 0) (c.argOr 1 (.text ""))))
  | "equal_value" => return .bool false
  | "groups" =>
    let name ← s.named (c.arg 0)
    let beats ← (s.lookup name).mapError .story
    match ← (beatAt beats (c.arg 1)).mapError .mishap with
    | .dialogue _ => throw (.mishap .noMember)
    | .command d => return .list (← (groupsOf d.args (c.arg 2) (c.arg 3)).mapError .mishap)
  | _ => throw (.mishap .noMember)

/-! ## Libraries -/

/-- A library beside the files that it loads from. -/
structure Shelves where
  library : Library
  files : Files.Tree

/-- A library of documents in memory. -/
def libraryOfDocuments (documents : Value) : Except Mishap Library := do
  return { shelf := .documents (← (documents.orElse (.record [])).toFields) }

/-- A library of the files in a folder. -/
def libraryOfFolder (base : Value) : Except Mishap Library := do
  return { shelf := .folder (Files.Path.ofText (← base.asText)) }

/-- The script of a name. -/
def fetch (name : Value) : Action Shelves Script := do
  let s ← get
  let (found, library) := s.library.get s.files name
  set { s with library }
  Action.ofExcept found

/-- Puts a document into a library, which has to be one in memory. -/
def addDocument (l : Library) (name document : Value) : Except Mishap Library := do
  match l.shelf with
  | .documents _ => return l.add (← name.asKey) document
  | .folder _ => throw .noMember

/-- The path of a script, in a library of files. -/
def pathOf (s : Shelves) (name : Value) : Except Mishap Value := do
  match s.library.shelf with
  | .documents _ => throw .noMember
  | .folder base => return .ofText? ((← Library.pathFor? base s.files name).map Files.Path.text)

/-- A call of a library. -/
def callLibrary (c : Call) : Action Shelves Value := do
  match c.name with
  | "get" => return scriptView (← fetch (c.arg 0))
  | "path_for" => tell (pathOf (← get) (c.arg 0))
  | "add" =>
    let s ← get
    become { s with library := ← Action.ofMishap (addDocument s.library (c.arg 0) (c.arg 1)) }
  | "write" =>
    let s ← get
    let (r, files) := (provideAll (c.arg 0)).perform s.files
    set { s with files }
    quietly (Action.ofMishap r)
  | "same" =>
    discard (fetch (c.arg 0))
    discard (fetch (c.arg 0))
    return .bool true
  | _ => throw (.mishap .noMember)

end VisualNovel.Remote
