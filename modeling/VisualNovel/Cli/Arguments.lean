import VisualNovel.Table
import VisualNovel.Text.Digit

/-!
# Command lines

Reads the arguments of a command: words, and options that begin with a dash. The name of an option
may be cut short as long as only one option begins like that, and its value follows it or is
attached by an equals sign.
-/

namespace VisualNovel.Cli

/-- An option. -/
structure Flag where
  name : String
  takesValue : Bool := false
  deriving Repr, DecidableEq, Inhabited

/-- Why arguments lead nowhere. -/
inductive Refusal where
  /-- The user asks for help. -/
  | help
  /-- The arguments are wrong. -/
  | wrong
  deriving Repr, DecidableEq, Inhabited

/-- What an argument is. -/
inductive Piece where
  | word (text : String)
  | help
  | option (flag : Flag)
  /-- An option with a value attached. -/
  | attached (name : String) (value : String)
  | unknown
  /-- Several options begin like this. -/
  | ambiguous
  deriving Repr, DecidableEq, Inhabited

/-- Whether a text is a negative number, which is a word for all its dash. -/
def isNegativeNumber (s : String) : Bool :=
  match s.toList with
  | '-' :: rest =>
    let isDigit (c : Char) : Bool := (Text.digitValue? c).isSome
    let whole := rest.takeWhile isDigit
    match rest.dropWhile isDigit with
    | [] => !whole.isEmpty
    | '.' :: fraction => !fraction.isEmpty && fraction.all isDigit
    | _ => false
  | _ => false

/-- The part before the first equals sign, and what follows it if there is one. -/
def splitValue (s : String) : String × Option String :=
  let name := s.toList.takeWhile (· != '=')
  match s.toList.drop name.length with
  | _ :: value => (String.ofList name, some (String.ofList value))
  | [] => (s, none)

/-- The names of options that a text stands for. -/
def candidates (flags : List Flag) (name : String) : List String :=
  let names := "-h" :: "--help" :: flags.map Flag.name
  if names.contains name then [name]
  else if name.toList.take 2 == ['-', '-'] then
    names.filter fun n => n.toList.take name.length == name.toList
  else []

/-- What an argument is. -/
def classify (flags : List Flag) (arg : String) : Piece :=
  let (name, value) := splitValue arg
  if arg.toList.head? != some '-' || arg == "-" then .word arg
  else
    match candidates flags name, value with
    | [n], some v => .attached n v
    | [n], none =>
      match flags.find? fun f => f.name == n with
      | some f => .option f
      | none => .help
    | [], _ =>
      match arg.toList with
      | '-' :: 'h' :: more => .attached "-h" (String.ofList more)
      | cs => if isNegativeNumber arg || cs.contains ' ' then .word arg else .unknown
    | _, _ => .ambiguous

/-- What was read so far. -/
structure Arguments where
  words : List String := []
  values : Table String String := []
  /-- Whether an option was met that is not known. -/
  stray : Bool := false
  /-- What follows the first word, if reading stops there. -/
  rest : List String := []
  deriving Repr, DecidableEq, Inhabited

namespace Arguments

/-- Adds a word. -/
def addWord (a : Arguments) (word : String) : Arguments :=
  { a with words := a.words ++ [word] }

/-- Gives an option a value. -/
def give (a : Arguments) (name value : String) : Arguments :=
  { a with values := Table.put name value a.values }

/-- The value of an option, unless it is empty. -/
def value? (a : Arguments) (name : String) : Option String :=
  (Table.get? name a.values).filter (· != "")

/-- Whether an option was given. -/
def given (a : Arguments) (name : String) : Bool :=
  Table.has name a.values

/-- Whether an option with a value attached asks for help: the letter for help may be repeated. -/
def asksForHelp (name value : String) : Bool :=
  name == "-h" && value != "" && value.toList.all (· == 'h')

/-- Reads arguments one by one, all of them or up to the first word. After two dashes all arguments
are words; two dashes that no word follows count as an unknown option, unless they follow a word at
once. -/
def readFrom (flags : List Flag) (stopAtWord : Bool) (wordsOnly : Bool) (a : Arguments) :
    List String → Except Refusal Arguments
  | [] => .ok a
  | arg :: rest =>
    let word : Except Refusal Arguments :=
      if stopAtWord then .ok { a.addWord arg with rest }
      else if !wordsOnly && rest == ["--"] then .ok (a.addWord arg)
      else readFrom flags stopAtWord wordsOnly (a.addWord arg) rest
    if wordsOnly then word
    else if arg == "--" then
      if stopAtWord then .error .wrong
      else if rest.isEmpty then .ok { a with stray := true }
      else readFrom flags stopAtWord true a rest
    else
      match classify flags arg with
      | .word _ => word
      | .help => .error .help
      | .unknown => readFrom flags stopAtWord wordsOnly { a with stray := true } rest
      | .ambiguous => .error .wrong
      | .attached name value =>
        if asksForHelp name value then .error .help
        else if flags.contains { name, takesValue := true } then
          readFrom flags stopAtWord wordsOnly (a.give name value) rest
        else .error .wrong
      | .option flag =>
        if !flag.takesValue then readFrom flags stopAtWord wordsOnly (a.give flag.name "") rest
        else
          match rest with
          | [] => .error .wrong
          | value :: rest =>
            match classify flags value with
            | .word _ => readFrom flags stopAtWord wordsOnly (a.give flag.name value) rest
            | _ => .error .wrong

/-- Whether an argument that may be an option stands for several. -/
def anyAmbiguous (flags : List Flag) (args : List String) : Bool :=
  (args.takeWhile (· != "--")).any fun arg => classify flags arg == .ambiguous

/-- Reads all arguments. That one of them is ambiguous is found before any is heeded. -/
def read (flags : List Flag) (args : List String) : Except Refusal Arguments :=
  if anyAmbiguous flags args then .error .wrong else readFrom flags false false {} args

/-- Reads arguments up to the first word. -/
def readToWord (flags : List Flag) (args : List String) : Except Refusal Arguments :=
  if anyAmbiguous flags args then .error .wrong else readFrom flags true false {} args

end Arguments

end VisualNovel.Cli
