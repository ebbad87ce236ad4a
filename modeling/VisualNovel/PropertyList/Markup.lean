import VisualNovel.PropertyList.Charset
import VisualNovel.PropertyList.DocumentType

/-!
# Markup events

The tags and texts of a marked-up document, in the order in which they stand, as far as the
document is well-formed. What a reader of the events finds wrong with an event counts before
anything that is wrong further down in the document, so the events before a fault are kept.
-/

namespace VisualNovel.PropertyList

open Text

/-- One event of a document. -/
inductive Event where
  | start (name : String)
  | finish (name : String)
  | text (s : String)
  /-- A declaration of an entity. -/
  | entity
  deriving Repr

/-- The events of a document, and whether it is well-formed to its end. -/
structure Events where
  events : List Event
  complete : Bool

/-- The attributes of a tag, up to its end: whether the tag is closed at once, and what follows. -/
def attributes? (elsewhere : Bool) : (fuel : Nat) → (seen : List String) → List Char →
    Option (Bool × List Char)
  | 0, _, _ => none
  | fuel + 1, seen, cs =>
    let gap := cs.dropWhile isGap
    match gap with
    | '>' :: rest => some (false, rest)
    | '/' :: '>' :: rest => some (true, rest)
    | _ => do
      if !cs.head?.any isGap then none
      let (name, rest) ← name? gap
      if seen.contains name then none
      let value ← afterWord? ['='] (rest.dropWhile isGap)
      match value.dropWhile isGap with
      | q :: opened =>
        if q != '"' && q != '\'' then none
        let (body, rest) ← splitAtWord? [q] opened
        if body.contains '<' || !body.all isAllowed
            || !referencesFine elsewhere (body.length + 1) body then none
        attributes? elsewhere fuel (name :: seen) rest
      | [] => none

/-- Where a scan stands. -/
structure Position where
  /-- The names of the tags that are open, innermost first. -/
  opened : List String := []
  /-- Whether the outermost tag has been met. -/
  rooted : Bool := false
  /-- Whether a document type has been met. -/
  typed : Bool := false
  /-- Whether the document says that it stands alone. -/
  alone : Bool := false
  /-- Whether declarations may stand elsewhere. -/
  elsewhere : Bool := false

/-- One token: the new position, its events and what follows. The fuel is at least the number of the
characters. -/
def markupToken? (fuel : Nat) (p : Position) (cs : List Char) :
    Option (Position × List Event × List Char) :=
  let inside := !p.opened.isEmpty
  match cs with
  | '<' :: '!' :: '-' :: '-' :: rest => do return (p, [], ← afterComment? rest)
  | '<' :: '?' :: rest => do return (p, [], ← afterInstruction? rest)
  | '<' :: '!' :: rest =>
    if inside then do
      let rest ← afterWord? "[CDATA[".toList rest
      let (body, rest) ← splitAtWord? [']', ']', '>'] rest
      if body.all isAllowed then return (p, [.text (String.ofList body)], rest) else none
    else do
      let rest ← afterWord? "DOCTYPE".toList rest
      if p.rooted || p.typed then none
      match documentType p.alone rest with
      | .ok (s, rest) => return ({ p with typed := true, elsewhere := s.lenient }, [], rest)
      | .error .entity => return (p, [.entity], [])
      | .error .fault => none
  | '<' :: '/' :: rest => do
    let (name, rest) ← name? rest
    let rest ← afterWord? ['>'] (rest.dropWhile isGap)
    match p.opened with
    | top :: outer =>
      if top == name then return ({ p with opened := outer }, [.finish name], rest) else none
    | [] => none
  | '<' :: rest => do
    if p.rooted && !inside then none
    let (name, rest) ← name? rest
    let (closed, rest) ← attributes? p.elsewhere fuel [] rest
    let p := { p with rooted := true }
    if closed then return (p, [.start name, .finish name], rest)
    else return ({ p with opened := name :: p.opened }, [.start name], rest)
  | '&' :: rest => do
    if !inside then none
    let (found, rest) ← reference? p.elsewhere rest
    return (p, [.text (String.ofList found)], rest)
  | _ =>
    let (body, rest) := cs.span fun c => c != '<' && c != '&'
    if inside then
      if body.all isAllowed && (splitAtWord? [']', ']', '>'] body).isNone then
        some (p, [.text (String.ofList body)], rest)
      else none
    else if body.all isGap then some (p, [], rest)
    else none

/-- All tokens; `seen` holds the events before, last first. -/
def tokens : (fuel : Nat) → Position → (seen : List Event) → List Char → Events
  | _, p, seen, [] => ⟨seen.reverse, p.rooted && p.opened.isEmpty⟩
  | 0, _, seen, _ => ⟨seen.reverse, false⟩
  | fuel + 1, p, seen, cs =>
    match markupToken? fuel p cs with
    | some (p, events, rest) => tokens fuel p (events.reverse ++ seen) rest
    | none => ⟨seen.reverse, false⟩

/-- A named value of the declaration that a document starts with, which a blank goes before, and
what follows. Nothing but blanks is no value. -/
def declared? (cs : List Char) : Option (Option (String × String) × List Char) := do
  let gap := cs.dropWhile isGap
  if gap.isEmpty then return (none, [])
  if gap.length == cs.length then none
  let name := gap.takeWhile fun c => !isGap c && c != '='
  let value ← afterWord? ['='] ((gap.drop name.length).dropWhile isGap)
  match value.dropWhile isGap with
  | q :: opened =>
    if name.isEmpty || (q != '"' && q != '\'') then none
    let (body, rest) ← splitAtWord? [q] opened
    if body.all fun c => c.isAlphanum || c == '.' || c == '-' || c == '_' then
      return (some (String.ofList name, String.ofList body), rest)
    else none
  | [] => none

/-- What the declaration of a document says: the set that the document is written in, and whether
the document stands alone. -/
structure Declaration where
  encoding : Option String := none
  alone : Bool := false

/-- Whether a text starts with a letter of ASCII. -/
def startsWithLetter (s : String) : Bool :=
  s.toList.head?.any Char.isAlpha

/-- Reads the last value of a declaration. -/
def standalone? (d : Declaration) : Option (String × String) × List Char → Option Declaration
  | (none, _) => some d
  | (some (name, value), rest) => do
    if name != "standalone" || !rest.all isGap then none
    match value with
    | "yes" => return { d with alone := true }
    | "no" => return d
    | _ => none

/-- Reads a declaration, without its brackets: the version, then the encoding, then whether the
document stands alone, the last two at will. -/
def declaration? (cs : List Char) : Option Declaration := do
  match ← declared? cs with
  | (some ("version", _), rest) =>
    match ← declared? rest with
    | (some ("encoding", name), rest) =>
      if startsWithLetter name then standalone? { encoding := some name } (← declared? rest)
      else none
    | found => standalone? {} found
  | _ => none

/-- The part of a document between the brackets of its declaration, if it starts with one. -/
def declarationBody? (cs : List Char) : Option (List Char) := do
  let rest ← afterWord? "<?xml".toList cs
  if rest.head?.any inName then none else return (← splitAtWord? ['?', '>'] rest).1

/-- The set that a document starts in, and how long the mark is that says so. -/
def startingSet : List UInt8 → Charset × Nat
  | 0xFE :: 0xFF :: _ => (.utf16 true, 2)
  | 0xFF :: 0xFE :: _ => (.utf16 false, 2)
  | 0xEF :: 0xBB :: 0xBF :: _ => (.utf8, 3)
  | _ => (.utf8, 0)

/-- The events of what follows the declaration. -/
def eventsFrom (alone : Bool) (d : Decoded) : Events :=
  let found := tokens (d.chars.length + 1) { alone } [] (unifyLines d.chars)
  { found with complete := found.complete && d.whole }

/-- The events of a document. -/
def eventsOf (bytes : List UInt8) : Except Mishap Events := do
  let (set, mark) := startingSet bytes
  let bytes := bytes.drop mark
  let decoded := set.decode bytes
  match declarationBody? decoded.chars with
  | none => return eventsFrom false decoded
  | some body =>
    match declaration? body with
    | none => throw .badMarkup
    | some d =>
      let length := (body.length + "<?xml?>".length) * set.width
      let set ← match d.encoding with
        | some name => set.declared name
        | none => pure set
      return eventsFrom d.alone (set.decode (bytes.drop length))

end VisualNovel.PropertyList
