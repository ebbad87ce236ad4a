import VisualNovel.Script.Source

/-!
# Script libraries

A library finds a script by its name, compiles it when it is first asked for, and remembers it. A
script that does not compile is not remembered.
-/

namespace VisualNovel

open Script

/-- Where the documents of a library come from. -/
inductive Shelf where
  /-- Documents in memory, by name. -/
  | documents (byName : Fields)
  /-- Files in a folder. -/
  | folder (base : Files.Path)

/-- A library with the scripts that it remembers. -/
structure Library where
  shelf : Shelf := .documents []
  compiled : Table Value Script := []

namespace Library

/-- Puts a document into a library in memory; a script remembered for the name is forgotten. -/
def add (l : Library) (name : Value) (document : Value) : Library :=
  match l.shelf with
  | .documents byName =>
    { shelf := .documents (Table.put name document byName)
      compiled := Table.erase name l.compiled }
  | .folder _ => l

/-- The file of a script in a folder: JSON goes before a property list. -/
def pathFor? (base : Files.Path) (files : Files.Tree) (name : Value) :
    Except Mishap (Option Files.Path) :=
  [".json", ".plist"].findSomeM? fun suffix => do
    let p := base.join (name.shown ++ suffix)
    return if ← files.exists? p then some p else none

/-- Compiles the script of a name. -/
def compileNamed (s : Shelf) (files : Files.Tree) (name : Value) : Except Fault Script :=
  match s with
  | .documents byName =>
    match Table.get? name byName with
    | none => .error (.story { cause := .unknownScript name })
    | some document => compile document name
  | .folder base =>
    match pathFor? base files name with
    | .error m => .error (.mishap m)
    | .ok none => .error (.story { cause := .unknownScript name, context := .text base.text })
    | .ok (some p) => load files p

/-- The script of a name, and the library afterwards. -/
def get (l : Library) (files : Files.Tree) (name : Value) : Except Fault Script × Library :=
  if name.canBeKey then
    match Table.get? name l.compiled with
    | some script => (.ok script, l)
    | none =>
      match compileNamed l.shelf files name with
      | .ok script => (.ok script, { l with compiled := Table.put name script l.compiled })
      | .error f => (.error f, l)
  else (.error (.mishap .wrongType), l)

end Library

end VisualNovel
