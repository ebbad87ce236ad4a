import VisualNovel.Files.Path
import VisualNovel.Mishap
import VisualNovel.Table
import VisualNovel.Text.Half

/-!
# The file tree

The files that a session reads and writes, as a value: each place with what stands there. A folder
that holds anything is itself listed, so a tree is closed under taking parents. Of the folders above
the working folder nothing is known but that they are there.

A path is followed name by name, and the first name that leads nowhere decides what is wrong with
the path.
-/

namespace VisualNovel.Files

/-- What a file holds. -/
inductive Content where
  | bytes (data : ByteArray)
  /-- A picture of the given width and height. -/
  | picture (width height : Nat)

/-- An entry of the tree. -/
inductive Node where
  | folder
  | file (content : Content)

/-- The names that lead to a place from the root of the file system. -/
abbrev Location := List String

/-- The working folder. The names on the way to it are not known, so they are empty, as no name in
a path is. -/
def workingFolder : Location := ["", ""]

/-- What stands where. -/
structure Tree where
  entries : Table Location Node := []

namespace Tree

/-- What stands at a place. The folders on the way to the working folder are always there. -/
def at? (t : Tree) (place : Location) : Option Node :=
  if place.isPrefixOf workingFolder then some .folder else Table.get? place t.entries

/-- The most bytes that a name may have. -/
def longestName : Nat := 255

/-- The most bytes that a path may have. -/
def longestPath : Nat := 4095

/-- Whether the half of a character stands for a byte that is no character. -/
def standsForByte (c : Char) : Bool :=
  match Text.half? c with
  | some code => decide (0xDC80 ≤ code) && decide (code ≤ 0xDCFF)
  | none => false

/-- The number of bytes of a name. -/
def byteCount (s : String) : Nat :=
  s.toList.foldl (fun n c => n + (if standsForByte c then 1 else c.utf8Size)) 0

/-- Follows names from a folder. A double dot leads back, from the root to itself. -/
def follow (t : Tree) : (place : Location) → (names : List String) → Except Mishap Location
  | place, [] => .ok place
  | place, ".." :: rest => t.follow place.dropLast rest
  | place, name :: rest =>
    let next := place ++ [name]
    if longestName < byteCount name then .error .nameTooLong
    else if rest.isEmpty then .ok next
    else
      match t.at? next with
      | some .folder => t.follow next rest
      | some (.file _) => .error .notDirectory
      | none => .error .noFile

/-- The place that a path starts from. -/
def start (p : Path) : Location :=
  if p.absolute then [] else workingFolder

/-- The place that a path leads to. The text of the path must be one that a file system takes. -/
def locate (t : Tree) (p : Path) : Except Mishap Location :=
  if !p.text.toList.all (fun c => (Text.half? c).isNone || standsForByte c) then .error .unwritable
  else if p.text.toList.contains (Char.ofNat 0) then .error .badValue
  else if longestPath < byteCount p.text then .error .nameTooLong
  else t.follow (start p) p.names

/-- What a path leads to. It is an error only to ask for a name that is too long. -/
def find? (t : Tree) (p : Path) : Except Mishap (Option Node) :=
  match t.locate p with
  | .ok place => .ok (t.at? place)
  | .error .nameTooLong => .error .nameTooLong
  | .error _ => .ok none

/-- Whether the path leads to anything. -/
def exists? (t : Tree) (p : Path) : Except Mishap Bool := do
  return (← t.find? p).isSome

/-- Whether the path leads to a file. -/
def isFile (t : Tree) (p : Path) : Except Mishap Bool := do
  match ← t.find? p with
  | some (.file _) => return true
  | _ => return false

/-- Whether the path leads to a folder. -/
def isFolder (t : Tree) (p : Path) : Except Mishap Bool := do
  match ← t.find? p with
  | some .folder => return true
  | _ => return false

/-- The content of a file. -/
def read (t : Tree) (p : Path) : Except Mishap Content := do
  match t.at? (← t.locate p) with
  | some (.file content) => return content
  | some .folder => throw .isDirectory
  | none => throw .noFile

/-- The text of a file, which has to be UTF-8. -/
def readText (t : Tree) (p : Path) : Except Mishap String := do
  match ← t.read p with
  | .bytes data =>
    match String.fromUTF8? data with
    | some s => return s
    | none => throw .badValue
  | .picture _ _ => throw .badValue

/-- The tree with something at a place. -/
def put (t : Tree) (place : Location) (node : Node) : Tree :=
  { t with entries := Table.put place node t.entries }

/-- Removes a file. -/
def remove (t : Tree) (p : Path) : Except Mishap Tree := do
  let place ← t.locate p
  match t.at? place with
  | some (.file _) => return { t with entries := Table.erase place t.entries }
  | some .folder => throw .isDirectory
  | none => throw .noFile

/-- The names directly inside a folder. -/
def namesIn (t : Tree) (p : Path) : List String :=
  match t.locate p with
  | .ok place =>
    t.entries.filterMap fun e =>
      if e.1.length == place.length + 1 && e.1.dropLast == place then e.1.getLast? else none
  | .error _ => []

/-- All that stands below the working folder, by the names that lead to it from there. -/
def listing (t : Tree) : List (List String × Node) :=
  t.entries.filterMap fun e =>
    if workingFolder.isPrefixOf e.1 then some (e.1.drop workingFolder.length, e.2) else none

/-- A tree of what stands below the working folder. -/
def ofListing (entries : List (List String × Node)) : Tree :=
  { entries := Table.ofEntries (entries.map fun e => (workingFolder ++ e.1, e.2)) }

end Tree

/-! ## Changes

A change may come half way before it fails, and what it did stays done. -/

namespace Change

/-- A plain result as a change that changes nothing. -/
def ofExcept {α : Type} (r : Except Mishap α) : Attempt Tree α :=
  ExceptT.mk (pure r)

/-- The content of a text file. Halves of characters cannot be written. -/
def encoded? (s : String) : Option Content :=
  if Text.writable s then some (.bytes s.toUTF8) else none

/-- Writes a file, in a folder that exists. A text that cannot be written leaves the file empty. -/
def write (p : Path) (content : Option Content) : Attempt Tree Unit := do
  let place ← ofExcept ((← get).locate p)
  match (← get).at? place with
  | some .folder => throw .isDirectory
  | _ =>
    match content with
    | some content => modify (·.put place (.file content))
    | none =>
      modify (·.put place (.file (.bytes .empty)))
      throw .unwritable

/-- Writes a text file. -/
def writeText (p : Path) (s : String) : Attempt Tree Unit :=
  write p (encoded? s)

/-- Makes one folder. -/
def makeOne (p : Path) : Attempt Tree Unit := do
  let place ← ofExcept ((← get).locate p)
  match (← get).at? place with
  | some _ => throw .fileExists
  | none => modify (·.put place .folder)

/-- Makes one folder, or leaves it as it is if it is there. -/
def ensureOne (p : Path) : Attempt Tree Unit :=
  tryCatch (makeOne p) fun m => do
    if m.fromFiles && m != .noFile && (← ofExcept ((← get).isFolder p)) then return
    throw m

/-- Makes a folder and the folders that lead to it, as far as they are missing; `depth` is the
number of names in the path. -/
def ensureAll : (depth : Nat) → Path → Attempt Tree Unit
  | 0, p => ensureOne p
  | depth + 1, p =>
    tryCatch (ensureOne p) fun m => do
      if m != .noFile then throw m
      ensureAll depth p.parent
      ensureOne p

/-- Makes a folder and the folders that lead to it, as far as they are missing. -/
def ensureFolder (p : Path) : Attempt Tree Unit :=
  ensureAll p.names.length p

/-- Removes a file. -/
def remove (p : Path) : Attempt Tree Unit := do
  set (← ofExcept ((← get).remove p))

/-- Puts something in place, with the folders that lead to it. -/
def provide (p : Path) (node : Node) : Attempt Tree Unit :=
  match node with
  | .folder => ensureFolder p
  | .file content => do
    ensureFolder p.parent
    write p (some content)

end Change

end VisualNovel.Files
