import VisualNovel.PropertyList.Lexeme

/-!
# Document types

The declarations that may stand before the outermost tag of a document. They change little for a
property list, but they have to be well-formed, and one that declares an entity ends the reading,
since a property list declares none. After a reference to declarations that are kept elsewhere,
further declarations count no more, unless the document says that it stands alone.
-/

namespace VisualNovel.PropertyList

/-- Why the reading of a document type stops. -/
inductive Stop where
  /-- It is not well-formed. -/
  | fault
  /-- It declares an entity. -/
  | entity
  deriving Repr, DecidableEq

/-- A piece of a document type. -/
inductive Token where
  /-- A name, perhaps with a mark that says how often it comes. -/
  | name (s : String) (mark : Option Char)
  /-- A word that is no name. -/
  | word (s : String)
  | literal (body : List Char)
  /-- The opening of a declaration. -/
  | declare (keyword : String)
  | close
  | openBracket
  | closeBracket
  | openParen
  /-- A closing parenthesis, perhaps with a mark that says how often the group comes. -/
  | closeParen (mark : Option Char)
  | or
  | comma
  | percent
  /-- A reference to declarations elsewhere. -/
  | reference
  /-- A word after a hash. -/
  | hash (s : String)
  /-- A comment or an instruction. -/
  | aside
  deriving Repr

/-- A mark that says how often something comes. -/
def isMark (c : Char) : Bool :=
  c == '?' || c == '*' || c == '+'

/-- Whether the characters go on with one that passes a test. -/
def goesOn (fine : Char → Bool) (cs : List Char) : Bool :=
  cs.head?.any fine

/-- A literal after its opening quote. A blank, a bracket or a percent sign has to follow it. -/
def literal? (quote : Char) (cs : List Char) : Option (Token × List Char) := do
  let (body, rest) ← splitAtWord? [quote] cs
  if body.all isAllowed && goesOn (fun c => isGap c || c == '>' || c == '%' || c == '[') rest then
    return (.literal body, rest)
  else none

/-- A word, which is a name if it starts like one. -/
def word? (cs : List Char) : Option (Token × List Char) := do
  let (word, rest) := cs.span inName
  let first ← word.head?
  let s := String.ofList word
  match rest with
  | [] => none
  | c :: more =>
    if isGap c || c == '>' || c == ')' || c == ',' || c == '|' || c == '[' || c == '%' then
      return (if startsName first then .name s none else .word s, rest)
    else if isMark c && startsName first then return (.name s (some c), more)
    else none

/-- The opening of a declaration, a comment or an instruction, after its angle. -/
def opening? (cs : List Char) : Option (Token × List Char) :=
  match cs with
  | '!' :: '-' :: '-' :: rest => do return (.aside, ← afterComment? rest)
  | '?' :: rest => do return (.aside, ← afterInstruction? rest)
  | '!' :: rest =>
    let (word, rest) := rest.span Char.isAlpha
    if goesOn isGap rest then some (.declare (String.ofList word), rest) else none
  | _ => none

/-- What follows a percent sign. -/
def afterPercent? (cs : List Char) : Option (Token × List Char) :=
  if goesOn (fun c => isGap c || c == '%') cs then some (.percent, cs)
  else do
    let (_, rest) ← name? cs
    return (.reference, ← afterWord? [';'] rest)

/-- The next piece, after a blank of any length. -/
def token? (cs : List Char) : Option (Token × List Char) :=
  match cs.dropWhile isGap with
  | '"' :: rest => literal? '"' rest
  | '\'' :: rest => literal? '\'' rest
  | '<' :: rest => opening? rest
  | '>' :: rest => some (.close, rest)
  | '[' :: rest => some (.openBracket, rest)
  | ']' :: rest => some (.closeBracket, rest)
  | '(' :: rest => some (.openParen, rest)
  | ')' :: rest =>
    match rest with
    | c :: more =>
      if isMark c then some (.closeParen (some c), more)
      else if isGap c || c == '>' || c == ',' || c == '|' || c == ')' then
        some (.closeParen none, rest)
      else none
    | [] => none
  | '|' :: rest => some (.or, rest)
  | ',' :: rest => some (.comma, rest)
  | '%' :: rest => afterPercent? rest
  | '#' :: rest => do
    let (s, rest) ← name? rest
    if goesOn (fun c => isGap c || c == ')' || c == '>' || c == '%' || c == '|') rest then
      return (.hash s, rest)
    else none
  | rest => word? rest

/-- The next piece, which has to be there. -/
def next (cs : List Char) : Except Stop (Token × List Char) :=
  match token? cs with
  | some found => .ok found
  | none => .error .fault

/-- What follows a name. -/
def afterName (cs : List Char) : Except Stop (List Char) := do
  match ← next cs with
  | (.name _ none, rest) => return rest
  | _ => throw .fault

/-- A literal and what follows it. -/
def literalNext (cs : List Char) : Except Stop (List Char × List Char) := do
  match ← next cs with
  | (.literal body, rest) => return (body, rest)
  | _ => throw .fault

/-- What follows the end of a declaration. -/
def afterClose (cs : List Char) : Except Stop (List Char) := do
  match ← next cs with
  | (.close, rest) => return rest
  | _ => throw .fault

/-- A character that a public identifier may hold. -/
def inPublicName (c : Char) : Bool :=
  c.isAlphanum || c == ' ' || c == '\n' || c == '\r' || "-'()+,./:=?;!*#@$_%".contains c

/-- What follows a public identifier. -/
def afterPublicName (cs : List Char) : Except Stop (List Char) := do
  let (body, rest) ← literalNext cs
  if body.all inPublicName then return rest else throw .fault

/-- What a document type has said so far. -/
structure TypeState where
  /-- Whether the document says that it stands alone. -/
  alone : Bool
  /-- Whether there are declarations elsewhere. -/
  elsewhere : Bool := false
  /-- Whether declarations still count. -/
  heeded : Bool := true

/-- Whether a name that is not declared is passed over. -/
def TypeState.lenient (s : TypeState) : Bool :=
  s.elsewhere && !s.alone

/-! ## Entities -/

/-- The entities that every document knows. Declaring them again declares nothing. -/
def isKnownEntity (name : String) : Bool :=
  ["amp", "lt", "gt", "apos", "quot"].contains name

/-- Whether the value of an entity is well-formed. -/
def entityValueFine (body : List Char) : Bool :=
  !body.contains '%' && referencesFine true (body.length + 1) body

/-- The place of an entity that is kept elsewhere, after the word that says so. -/
def afterPlace (keyword : String) (cs : List Char) : Except Stop (List Char) := do
  match keyword with
  | "SYSTEM" => return (← literalNext cs).2
  | "PUBLIC" => return (← literalNext (← afterPublicName cs)).2
  | _ => throw .fault

/-- The end of an entity that is kept elsewhere. One that is not for the declarations themselves may
name a notation. -/
def entityEnd (counts general : Bool) (cs : List Char) : Except Stop (List Char) := do
  match ← next cs with
  | (.close, rest) => if counts then throw .entity else return rest
  | (.name "NDATA" none, rest) =>
    if !general then throw .fault
    let rest ← afterName rest
    if counts then throw .entity else afterClose rest
  | _ => throw .fault

/-- The definition of an entity; `counts` says whether it is heeded. -/
def entityDefinition (s : TypeState) (counts general : Bool) (cs : List Char) :
    Except Stop (List Char) := do
  match ← next cs with
  | (.literal body, rest) =>
    if counts then throw .entity
    if s.heeded && !entityValueFine body then throw .fault
    afterClose rest
  | (.name keyword none, rest) => entityEnd counts general (← afterPlace keyword rest)
  | _ => throw .fault

/-- The declaration of an entity. -/
def entity (s : TypeState) (cs : List Char) : Except Stop (List Char) := do
  match ← next cs with
  | (.percent, rest) => entityDefinition s s.heeded false (← afterName rest)
  | (.name name none, rest) => entityDefinition s (s.heeded && !isKnownEntity name) true rest
  | _ => throw .fault

/-! ## Attributes -/

/-- The types of attributes that are single words. -/
def isAttributeType (word : String) : Bool :=
  ["CDATA", "ID", "IDREF", "IDREFS", "ENTITY", "ENTITIES", "NMTOKEN", "NMTOKENS"].contains word

/-- The values of an enumeration, up to its end; of notations they have to be names. -/
def enumeration (namesOnly : Bool) : (fuel : Nat) → List Char → Except Stop (List Char)
  | 0, _ => .error .fault
  | fuel + 1, cs => do
    let rest ← match ← next cs with
      | (.name _ none, rest) => pure rest
      | (.word _, rest) => if namesOnly then throw .fault else pure rest
      | _ => throw .fault
    match ← next rest with
    | (.closeParen none, rest) => return rest
    | (.or, rest) => enumeration namesOnly fuel rest
    | _ => throw .fault

/-- What follows the type of an attribute. -/
def afterAttributeType (cs : List Char) : Except Stop (List Char) := do
  match ← next cs with
  | (.name "NOTATION" none, rest) =>
    match ← next rest with
    | (.openParen, rest) => enumeration true rest.length rest
    | _ => throw .fault
  | (.name word none, rest) => if isAttributeType word then return rest else throw .fault
  | (.openParen, rest) => enumeration false rest.length rest
  | _ => throw .fault

/-- Whether the value of an attribute is well-formed. -/
def attributeValueFine (lenient : Bool) (body : List Char) : Bool :=
  !body.contains '<' && body.all isAllowed && referencesFine lenient (body.length + 1) body

/-- What follows the default of an attribute. -/
def afterDefault (s : TypeState) (cs : List Char) : Except Stop (List Char) := do
  let value (body rest : List Char) : Except Stop (List Char) :=
    if s.heeded && !attributeValueFine s.lenient body then throw .fault else return rest
  match ← next cs with
  | (.hash "IMPLIED", rest) => return rest
  | (.hash "REQUIRED", rest) => return rest
  | (.hash "FIXED", rest) =>
    let (body, rest) ← literalNext rest
    value body rest
  | (.literal body, rest) => value body rest
  | _ => throw .fault

/-- Attributes, up to the end of their declaration. -/
def attributes (s : TypeState) : (fuel : Nat) → List Char → Except Stop (List Char)
  | 0, _ => .error .fault
  | fuel + 1, cs => do
    match ← next cs with
    | (.close, rest) => return rest
    | (.name _ none, rest) =>
      attributes s fuel (← afterDefault s (← afterAttributeType rest))
    | _ => throw .fault

/-! ## Tags and notations -/

/-- Names beside text, up to the end of their group. -/
def mixedNames : (fuel : Nat) → List Char → Except Stop (List Char)
  | 0, _ => .error .fault
  | fuel + 1, cs => do
    match ← next (← afterName cs) with
    | (.closeParen (some '*'), rest) => return rest
    | (.or, rest) => mixedNames fuel rest
    | _ => throw .fault

/-- Text, and perhaps names beside it, up to the end of their group. -/
def mixed (cs : List Char) : Except Stop (List Char) := do
  match ← next cs with
  | (.closeParen none, rest) => return rest
  | (.closeParen (some '*'), rest) => return rest
  | (.or, rest) => mixedNames rest.length rest
  | _ => throw .fault

/-- Whether a group is a sequence or a choice; it is open until the first separator. -/
abbrev Separator := Option Bool

/-- Groups of names, up to the end of the outermost. For each open group `groups` says how its parts
are separated; `filled` says whether a part was just read. -/
def content : (fuel : Nat) → (groups : List Separator) → (filled : Bool) → List Char →
    Except Stop (List Char)
  | 0, _, _, _ => .error .fault
  | _, [], _, cs => .ok cs
  | fuel + 1, group :: outer, filled, cs => do
    let separate (sequence : Bool) (rest : List Char) : Except Stop (List Char) :=
      if group.any (· != sequence) then throw .fault
      else content fuel (some sequence :: outer) false rest
    match filled, ← next cs with
    | false, (.name _ _, rest) => content fuel (group :: outer) true rest
    | false, (.openParen, rest) => content fuel (none :: group :: outer) false rest
    | true, (.closeParen _, rest) => content fuel outer true rest
    | true, (.comma, rest) => separate true rest
    | true, (.or, rest) => separate false rest
    | _, _ => throw .fault

/-- The declaration of a tag. -/
def element (cs : List Char) : Except Stop (List Char) := do
  match ← next (← afterName cs) with
  | (.name word none, rest) =>
    if word == "EMPTY" || word == "ANY" then afterClose rest else throw .fault
  | (.openParen, rest) =>
    match ← next rest with
    | (.hash "PCDATA", rest) => afterClose (← mixed rest)
    | _ => afterClose (← content (rest.length + 1) [none] false rest)
  | _ => throw .fault

/-- The declaration of a notation. -/
def notationDeclaration (cs : List Char) : Except Stop (List Char) := do
  match ← next (← afterName cs) with
  | (.name "SYSTEM" none, rest) => afterClose (← literalNext rest).2
  | (.name "PUBLIC" none, rest) =>
    match ← next (← afterPublicName rest) with
    | (.literal _, rest) => afterClose rest
    | (.close, rest) => return rest
    | _ => throw .fault
  | _ => throw .fault

/-! ## The whole -/

/-- The declarations between brackets, up to the closing one. -/
def declarations : (fuel : Nat) → TypeState → List Char → Except Stop (TypeState × List Char)
  | 0, _, _ => .error .fault
  | fuel + 1, s, cs => do
    match ← next cs with
    | (.declare "ENTITY", rest) => declarations fuel s (← entity s rest)
    | (.declare "ATTLIST", rest) =>
      declarations fuel s (← attributes s rest.length (← afterName rest))
    | (.declare "ELEMENT", rest) => declarations fuel s (← element rest)
    | (.declare "NOTATION", rest) => declarations fuel s (← notationDeclaration rest)
    | (.aside, rest) => declarations fuel s rest
    | (.reference, rest) =>
      declarations fuel { s with elsewhere := true, heeded := s.alone } rest
    | (.closeBracket, rest) => return (s, rest)
    | _ => throw .fault

/-- What follows the name of a document type and the place of declarations elsewhere. -/
def typeBody (s : TypeState) (cs : List Char) : Except Stop (TypeState × List Char) := do
  match ← next cs with
  | (.openBracket, rest) =>
    let (s, rest) ← declarations rest.length s rest
    return (s, ← afterClose rest)
  | (.close, rest) => return (s, rest)
  | _ => throw .fault

/-- A document type after its keyword, and what follows it. -/
def documentType (alone : Bool) (cs : List Char) : Except Stop (TypeState × List Char) := do
  if !goesOn isGap cs then throw .fault
  let rest ← afterName cs
  match ← next rest with
  | (.name keyword none, rest) =>
    typeBody { alone, elsewhere := true } (← afterPlace keyword rest)
  | _ => typeBody { alone } rest

end VisualNovel.PropertyList
