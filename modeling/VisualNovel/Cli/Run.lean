import VisualNovel.Cli.Arguments
import VisualNovel.Engine.Headless
import VisualNovel.Window.Loop

/-!
# The command line

Two commands: one checks a script, the other plays it, without a screen or in a window.
-/

namespace VisualNovel.Cli

open Script

/-- What the program works with: the files, the log, and what it prints. -/
structure Shell where
  disk : Disk := {}
  out : String := ""
  /-- The time that saves are stamped with. -/
  now : String := ""
  dice : Dice := {}
  /-- What a window is built on. -/
  toolkit : Toolkit := .even
  /-- What a player does in a window, frame by frame. -/
  frames : List (List Input) := []

/-- How long a frame lasts, in milliseconds. -/
def frameTime : Value := .int 16

/-- How the program ends. -/
inductive Status where
  /-- It has done its work. -/
  | returned (code : Nat)
  /-- It has not started its work. -/
  | exited (code : Nat)
  deriving Repr, DecidableEq, Inhabited

/-- The exit code. -/
def Status.code : Status → Nat
  | returned n => n
  | exited n => n

/-- How the program is used. -/
def usage : String :=
  "usage: novel [-h] [--log-level LEVEL] \x7bcheck,run\x7d ...\n\n" ++
  "  check SCRIPT           compile a script and report errors\n" ++
  "  run SCRIPT [options]   run a script\n" ++
  "      --pygame           play in a window\n" ++
  "      --strict           stop at script errors\n" ++
  "      --config FILE      settings\n" ++
  "      --choices LIST     choices to take, e.g. 0,1,0\n" ++
  "      --assets FOLDER    pictures and sounds of the window\n" ++
  "      --saves FOLDER     saved sessions\n" ++
  "      --echo             print what happens\n"

/-- The options before the command. -/
def mainFlags : List Flag := [{ name := "--log-level", takesValue := true }]

/-- The options of a run. -/
def runFlags : List Flag :=
  [{ name := "--pygame" }, { name := "--strict" }, { name := "--config", takesValue := true },
   { name := "--choices", takesValue := true }, { name := "--assets", takesValue := true },
   { name := "--saves", takesValue := true }, { name := "--echo" }]

/-- Prints a line. -/
def printLine (line : String) : Action Shell Unit :=
  modify fun s => { s with out := s.out ++ line ++ "\n" }

/-- Loads a script; an error of it is printed. -/
def loadScript (p : Files.Path) : Action Shell (Option Script) := do
  match load (← get).disk.files p with
  | .ok script => return some script
  | .error (.story e) =>
    printLine s!"{p.text}: {e.text}"
    return none
  | .error f => throw f

/-- Checks a script. -/
def check (p : Files.Path) : Action Shell Nat := do
  match ← loadScript p with
  | none => return 1
  | some script =>
    let count := script.conversations.length
    printLine s!"{p.text}: OK ({count} conversations, {script.size} units)"
    return 0

/-- The numbers of a list such as `0,1,0`. -/
def choicesOf (text : Option String) : Option (List Value) :=
  let parts := splitAt (· == ',') (text.getD "").toList
  let words := (parts.map fun part => Text.strip (String.ofList part)).filter (· != "")
  words.mapM fun word => (Number.readInt? word).map Value.int

/-- Plays a session with collaborators; the session afterwards. What goes wrong goes on to the
caller, after the files, the log and what was printed are taken over. -/
def session {σ : Type} (c : Collaborators σ) (setup : Engine.Setup) (outside : σ)
    (printed : σ → String) (play : Play σ Unit) : Action Shell (Option StoryError) := do
  let s ← get
  let setup := { setup with disk := s.disk, dice := s.dice, now := s.now }
  let e ← Action.ofExcept (Engine.ofSetup setup outside)
  let act : Play σ Unit := do
    Engine.enterLoading c
    play
  let (r, e) := act.perform e
  set { s with disk := e.stage.disk, out := s.out ++ printed e.outside }
  Action.ofExcept r
  return e.error

/-- Plays in a window. -/
def playWindow (a : Arguments) (p : Files.Path) (setup : Engine.Setup) :
    Action Shell (Option StoryError) := do
  let setting (key : String) : Action Shell Value :=
    Action.ofMishap (setup.config.view.required key)
  let assets := .text ((a.value? "--assets").getD p.parent.text)
  let window ← Action.ofMishap (Window.new (← get).toolkit (← setting "width") (← setting "height")
    setup.script.name assets (← setting "frame_rate") false)
  session (Collaborators.window .whole) setup window (fun _ => "")
    (Window.run (Collaborators.window .whole) .whole frameTime .null 0 (← get).frames)

/-- Plays without a screen. -/
def playConsole (a : Arguments) (setup : Engine.Setup) (choices : List Value) :
    Action Shell (Option StoryError) :=
  session (Collaborators.console .whole) setup { echo := a.given "--echo" } Console.output
    (Engine.runHeadless (Collaborators.console .whole) (.list choices))

/-- Plays a script. -/
def run (a : Arguments) (p : Files.Path) : Action Shell Nat := do
  match ← loadScript p with
  | none => return 1
  | some script =>
    let diskPlace : Place Shell Disk :=
      { get := Shell.disk, set := fun d s => { s with disk := d } }
    let config ← Action.attempt diskPlace (Config.load (Table.get? "--config" a.values))
    let saves := ((a.value? "--saves").map Files.Path.ofText).getD (p.parent.join "saves")
    let setup : Engine.Setup :=
      { script, config, library := some { shelf := .folder p.parent }
        saves := some (.folder saves), strict := a.given "--strict" }
    match choicesOf (Table.get? "--choices" a.values) with
    | none =>
      let given := (Table.get? "--choices" a.values).getD ""
      printLine s!"Invalid --choices: {given}"
      return 2
    | some choices =>
      let error ← if a.given "--pygame" then playWindow a p setup else playConsole a setup choices
      match error with
      | some e =>
        printLine s!"Error: {e.text}"
        return 1
      | none => return 0

/-- Plays a script; an error that ends a strict session is printed. -/
def runReporting (a : Arguments) (p : Files.Path) : Action Shell Nat := do
  match ← Action.outcome (run a p) with
  | .error (.story e) =>
    printLine s!"Error: {e.text}"
    return 1
  | r => Action.ofExcept r

/-- Ends before any work is done. -/
def refuse (r : Refusal) : Action Shell Status := do
  match r with
  | .help =>
    printLine usage
    return .exited 0
  | .wrong => return .exited 2

/-- Carries out a command on a script that has to be there. -/
def onScript (name : String) (command : Files.Path → Action Shell Nat) : Action Shell Status := do
  let p := Files.Path.ofText name
  if !(← Action.ofMishap ((← get).disk.files.exists? p)) then
    printLine s!"Script not found: {p.text}"
    return .returned 2
  return .returned (← command p)

/-- Carries out a command line. -/
def execute (args : List String) : Action Shell Status := do
  let before ← match Arguments.readToWord mainFlags args with
    | .error r => return ← refuse r
    | .ok a => pure a
  match before.words with
  | [] =>
    if before.stray then return ← refuse .wrong
    printLine usage
    return .returned 2
  | command :: _ =>
    let flags := if command == "run" then runFlags else []
    if command != "run" && command != "check" then return ← refuse .wrong
    match Arguments.read flags before.rest with
    | .error r => refuse r
    | .ok a =>
      match a.words, a.stray || before.stray with
      | [script], false =>
        onScript script fun p => if command == "run" then runReporting a p else check p
      | _, _ => refuse .wrong

end VisualNovel.Cli
