import VisualNovel.Text.Lowercase

/-!
# Paths

A path is a list of names. Empty names and single dots say nothing and are dropped when a path is
read; double dots stay, because what they mean depends on the directory before them.
-/

namespace VisualNovel.Files

/-- A path, from the root of the file system or from the working directory. -/
structure Path where
  /-- The slashes that the path starts with: none below the working directory, else one, or two if
  there are exactly two. -/
  root : String := ""
  names : List String := []
  deriving Repr, DecidableEq, Inhabited

namespace Path

/-- Splits at every slash. -/
def splitSlashes : List Char → List (List Char)
  | [] => [[]]
  | c :: rest =>
    match splitSlashes rest with
    | [] => [[c]]
    | part :: parts => if c == '/' then [] :: part :: parts else (c :: part) :: parts

/-- The names that a text separates by slashes. -/
def namesOf (s : String) : List String :=
  ((splitSlashes s.toList).map String.ofList).filter fun n => n != "" && n != "."

/-- The slashes at the start of a text, as far as they matter. -/
def rootOf (s : String) : String :=
  match (s.toList.takeWhile (· == '/')).length with
  | 0 => ""
  | 2 => "//"
  | _ => "/"

/-- Reads a path. -/
def ofText (s : String) : Path :=
  { root := rootOf s, names := namesOf s }

/-- Whether the path starts at the root of the file system. -/
def absolute (p : Path) : Bool :=
  p.root != ""

/-- The path as text; the empty path is the working directory. -/
def text (p : Path) : String :=
  if !p.absolute && p.names.isEmpty then "." else p.root ++ "/".intercalate p.names

/-- A path below another one, unless it starts at the root itself. -/
def join (p : Path) (s : String) : Path :=
  let q := ofText s
  if q.absolute then q else { p with names := p.names ++ q.names }

/-- The last name. -/
def name (p : Path) : String :=
  p.names.getLast?.getD ""

/-- The path without its last name. -/
def parent (p : Path) : Path :=
  { p with names := p.names.dropLast }

/-- The place of the dot that starts the last name's suffix: neither its first nor its last
character. -/
def suffixStart (cs : List Char) : Option Nat :=
  let tail := cs.reverse.takeWhile (· != '.')
  let start := cs.length - tail.length - 1
  if tail.length < cs.length && tail.length != 0 && start != 0 then some start else none

/-- The last name from its last dot on. -/
def suffix (p : Path) : String :=
  let cs := p.name.toList
  match suffixStart cs with
  | some i => String.ofList (cs.drop i)
  | none => ""

/-- The last name without its suffix. -/
def stem (p : Path) : String :=
  let cs := p.name.toList
  match suffixStart cs with
  | some i => String.ofList (cs.take i)
  | none => p.name

end Path

end VisualNovel.Files
