import VisualNovel.Disk
import VisualNovel.Json.Writer
import VisualNovel.Remote.Call
import VisualNovel.Value.Equality

/-!
# Files from afar

The content of a file as a value: a text; a record that gives JSON, bytes by their hexadecimal
digits, or the extent of a picture; or nothing, for a folder.
-/

namespace VisualNovel.Remote

open Files

/-- Whether a character may stand between two bytes. -/
def isGap (c : Char) : Bool :=
  c == ' ' || ('\t' ≤ c && c ≤ '\r')

/-- The bytes of hexadecimal digits, two for each; blanks may stand between the bytes. -/
def bytesOfDigits : List Char → Except Mishap (List UInt8)
  | [] => .ok []
  | [c] => if isGap c then .ok [] else .error .badValue
  | c :: d :: rest =>
    if isGap c then bytesOfDigits (d :: rest)
    else
      match Text.hexValue? c, Text.hexValue? d with
      | some high, some low => do return UInt8.ofNat (high * 16 + low) :: (← bytesOfDigits rest)
      | _, _ => .error .badValue

/-- What a file holds that is given by a record of one field. -/
def contentOf (name : String) (v : Value) : Except Mishap Content := do
  match name, v with
  | "json", v => return .bytes (← Json.write Json.inline v).toUTF8
  | "hex", .text digits => return .bytes (ByteArray.mk (← bytesOfDigits digits.toList).toArray)
  | "image", .list [width, height] =>
    return .picture (← width.asWhole).toNat (← height.asWhole).toNat
  | _, _ => throw .wrongType

/-- Puts a file or a folder in place, with the folders that lead to it. -/
def provideOne (p : Path) (body : Value) : Attempt Tree Unit := do
  match body with
  | .null => Change.provide p .folder
  | .text s =>
    Change.ensureFolder p.parent
    Change.writeText p s
  | .record [(name, v)] =>
    Change.provide p (.file (← Change.ofExcept (contentOf name.shown v)))
  | _ => throw .wrongType

/-- Puts all files of a record in place, one after the other. -/
def provideAll (files : Value) : Attempt Tree Unit := do
  (files.fields?.getD []).forM fun (path, body) => provideOne (Path.ofText path.shown) body

/-- A tree of the files of a record. -/
def treeOf (files : Value) : Except Mishap Tree := do
  let (r, t) := (provideAll files).perform {}
  r
  return t

/-- What a file or a folder is in a list of files: its text, or nothing. -/
def nodeView : Node → Value
  | .folder => .null
  | .file (.bytes data) => .text ((String.fromUTF8? data).getD "")
  | .file (.picture _ _) => .text ""

/-- All files and folders by their paths from the working folder. -/
def filesView (t : Tree) : Value :=
  .ofFields (t.listing.map fun (names, node) => ("/".intercalate names, nodeView node))

/-- The files that are new, or not as they were before. -/
def changedFiles (before after : Tree) : Value :=
  let old := before.listing
  .ofFields ((after.listing.filter fun (names, node) =>
    match Table.get? names old with
    | some other => !(nodeView node).equal (nodeView other)
    | none => true).map fun (names, node) => ("/".intercalate names, nodeView node))

end VisualNovel.Remote
