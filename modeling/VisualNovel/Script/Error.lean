import VisualNovel.Value.Display

/-!
# Errors of a story

Every way in which a script or a session can be at fault, the words for it, and the place in the
script where it was found.
-/

namespace VisualNovel.Script

/-- The families of errors. All but the first four stand for themselves; unknown commands, wrong
numbers of parameters and bad parameters are faults of a document, and a choice out of range is a
fault of navigation. -/
inductive Category where
  | general
  | load
  | navigation
  | resource
  | unknownCommand
  | arity
  | parameter
  | choiceIndex
  deriving Repr, DecidableEq, Inhabited

namespace Category

/-- The family that a family belongs to. -/
def parent? : Category → Option Category
  | general => none
  | load => some general
  | navigation => some general
  | resource => some general
  | unknownCommand => some load
  | arity => some load
  | parameter => some load
  | choiceIndex => some navigation

/-- All families. -/
def all : List Category :=
  [general, load, unknownCommand, arity, parameter, navigation, choiceIndex, resource]

/-- The name of a family, as listeners hear it. -/
def name : Category → String
  | general => "ScriptError"
  | load => "LoadError"
  | navigation => "NavigationError"
  | resource => "ResourceError"
  | unknownCommand => "UnknownCommand"
  | arity => "ArityError"
  | parameter => "ParameterError"
  | choiceIndex => "ChoiceIndexError"

/-- The family of a name. -/
def ofName? (s : String) : Option Category :=
  all.find? fun c => c.name == s

/-- Whether an error of one family is also one of the other. -/
def within (c family : Category) : Bool :=
  c == family || c.parent? == some family || (c.parent?.bind parent?) == some family

end Category

/-- What is wrong. -/
inductive Cause where
  /-- An error in the words of the one who reports it. -/
  | stated (category : Category) (message : Value)
  /-- The document is no mapping of conversations. -/
  | rootNotMapping
  /-- The name of a conversation is no text. -/
  | nameNotText (quoted : String)
  /-- A conversation is no list of lines. -/
  | notLines (conversation : String)
  /-- There is no conversation to start with. -/
  | noStart
  /-- A line given as a mapping has no text. -/
  | noText
  /-- A line is neither a text nor a mapping. -/
  | notText (kindName : String)
  /-- The document cannot be read. -/
  | unreadable
  /-- The document has no known format. -/
  | unknownFormat (suffix : String)
  | unknownCommand (name : String)
  | arity (keyword expected : String) (got : Int)
  /-- A parameter that must have a value has none. -/
  | nilParameter (keyword name : String)
  /-- A parameter does not read as a number. -/
  | notNumber (keyword name typeName quoted : String)
  /-- A parameter does not read as a truth value. -/
  | notYesNo (keyword name quoted : String)
  | noFlagName (keyword : String)
  | unknownConversation (name : Value)
  | unknownScript (name : Value)
  /-- A script is to be switched to and there is no library. -/
  | noLibraryToSwitch (script : Value)
  /-- A script is to be restored and there is no library. -/
  | noLibraryToRestore (script : Value)
  /-- A conversation runs commands without end. -/
  | neverYields (conversation : String)
  | choiceIndex (index : Value) (count : Int)
  deriving Inhabited

namespace Cause

/-- The family of an error. -/
def category : Cause → Category
  | stated c _ => c
  | rootNotMapping | nameNotText _ | notLines _ | noStart | noText | notText _ | unreadable
  | unknownFormat _ => .load
  | unknownCommand _ => .unknownCommand
  | arity _ _ _ => .arity
  | nilParameter _ _ | notNumber _ _ _ _ | notYesNo _ _ _ | noFlagName _ => .parameter
  | unknownConversation _ | unknownScript _ | noLibraryToSwitch _ | noLibraryToRestore _
  | neverYields _ => .navigation
  | choiceIndex _ _ => .choiceIndex

/-- The words for an unknown command. -/
def unknownCommandText (name : String) : String :=
  s!"Unknown command: {name}"

/-- The words for a wrong number of parameters. -/
def arityText (keyword expected got : String) : String :=
  s!"{keyword} expects {expected} parameter(s), got {got}"

/-- The words for a choice that is not on the menu, whose last place is given. -/
def choiceIndexText (index last : String) : String :=
  s!"Choice index {index} out of range (0..{last})"

/-- The words for an error, without its place. -/
def words : Cause → String
  | stated _ m => m.shown
  | rootNotMapping => "Script document root must be a mapping of conversations"
  | nameNotText q => s!"Conversation name must be a string: {q}"
  | notLines c => s!"Conversation '{c}' must be a list of lines"
  | noStart => "Script has no 'start' conversation"
  | noText => "Dialogue mapping needs a string 'text'"
  | notText k => s!"Line must be a string, got {k}"
  | unreadable => "Cannot read script document"
  | unknownFormat suffix =>
    let shown := if suffix == "" then "(none)" else suffix
    s!"Unsupported script format: {shown}"
  | unknownCommand name => unknownCommandText name
  | arity keyword expected got => arityText keyword expected (toString got)
  | nilParameter keyword name => s!"{keyword}: '{name}' cannot be nil"
  | notNumber keyword name typeName q => s!"{keyword}: '{name}' expects {typeName}, got {q}"
  | notYesNo keyword name q => s!"{keyword}: '{name}' expects YES/NO, got {q}"
  | noFlagName keyword => s!"{keyword}: empty flag name"
  | unknownConversation name => "Unknown conversation: " ++ name.shown
  | unknownScript name => "Unknown script: " ++ name.shown
  | noLibraryToSwitch script =>
    "Cannot switch to script '" ++ script.shown ++ "': no script library"
  | noLibraryToRestore script =>
    "Cannot restore script '" ++ script.shown ++ "': no script library"
  | neverYields conversation => s!"Conversation '{conversation}' never yields"
  | choiceIndex index count => choiceIndexText index.shown (toString (count - 1))

/-- What the one who reports an error says, which need not be a text, or the words for the error. -/
def message : Cause → Value
  | stated _ m => m
  | cause => .text cause.words

end Cause

/-- An error of the story, with its line and its context if it has them. -/
structure StoryError where
  cause : Cause
  line : Value := .null
  context : Value := .null
  deriving Inhabited

namespace StoryError

/-- The error's line, unless it is none or zero. -/
def lineNote (e : StoryError) : String :=
  if e.line.truthy then " (line " ++ e.line.shown ++ ")" else ""

/-- The error's context on a line of its own, unless it is none or empty. -/
def contextNote (e : StoryError) : String :=
  if e.context.truthy then "\n  >> " ++ e.context.shown else ""

/-- The error in full. -/
def text (e : StoryError) : String :=
  e.cause.words ++ e.lineNote ++ e.contextNote

/-- The error as a record. -/
def toValue (e : StoryError) : Value :=
  .ofFields [("error", .text e.cause.category.name), ("message", .text e.text), ("line", e.line),
    ("context", e.context)]

end StoryError

/-- A name as the context of an error, unless it is empty. -/
def contextOf (name : Value) : Value :=
  name.orElse .null

end VisualNovel.Script

namespace VisualNovel

/-- What can stop an operation: an error of the story or a mishap below it. -/
inductive Fault where
  | story (e : Script.StoryError)
  | mishap (m : Mishap)
  deriving Inhabited

end VisualNovel
