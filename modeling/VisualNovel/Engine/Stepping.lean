import VisualNovel.Engine.Command.Perform
import VisualNovel.Engine.Lifecycle

/-!
# Stepping

A step plays beats until a line of dialogue, an effect or a menu stops it, or the session ends. A
conversation that runs commands without end is stopped by a budget.
-/

namespace VisualNovel.Engine

open Script

variable {σ : Type}

/-- How many commands a step runs at most. -/
def commandBudget : Nat := 10000

/-- How many beats a step plays at most, lines of dialogue included. A line stops the step, unless a
collaborator advances past it while it is being displayed. -/
def turnsPerStep : Nat := 1000000

/-- Displays a line; `wait` says whether it has to be advanced past. -/
def display (c : Collaborators σ) (text speaker : Value) (wait : Bool) : Play σ Unit := do
  let e ← get
  let who := match speaker with
    | .null => e.session.scene.speaker
    | speaker => speaker
  let line : Line := { name := who, text, conversation := .text e.cursor.conversation }
  modify fun e => { e with backlog := e.backlog.push line }
  modify (mapStage (Stage.mapScene fun s => { s with speech := text }))
  emit c (.textShown who text)
  let visible ← if wait then appear text else pure text
  send c .showText [("speaker", who), ("text", text), ("visible", visible)]
where
  /-- Lets a line appear; what of it is visible at once. -/
  appear (text : Value) : Play σ Value := do
    Action.attempt timedTextPlace (TimedText.beginLine text)
    modify fun e => { e with awaiting := true }
    Action.ofMishap (← get).stage.timedText.visible

/-- Shows a menu and waits for a choice. The session is set aside before. -/
def present (c : Collaborators σ) (options : List ChoiceOption) (line : Value) :
    Play σ Unit := do
  modify (mapSession Session.capture)
  modify fun e => { e with menu := some options }
  setMode c .awaitingChoice
  match line with
  | .null => pure ()
  | text => display c text .null false
  let o := (← get).session.overrides
  let texts := options.map ChoiceOption.text
  emit c (.choicesShown texts)
  send c .showChoices [("options", .list texts),
    ("offset", .list [o.choiceboxOffsetX, o.choiceboxOffsetY])]

/-- Starts an effect and waits until it is done. -/
def hold (c : Collaborators σ) (kind : IntentKind) (payload : Table String Value) :
    Play σ Unit := do
  modify fun e =>
    let number : Nat := e.effectCount + 1
    let effect : Intent := { kind, payload, effectId := some (.int number) }
    { e with effectCount := number, effect }
  setMode c .effectRunning
  c.apply (← get).effect

/-- Completes the beat at the cursor. -/
def completeBeat : Play σ Unit :=
  modify (mapStage (Stage.mapCursor fun cursor => cursor.advance))

/-- Does what a command has left to do. -/
def settle (c : Collaborators σ) (outcome : Outcome) : Play σ Unit := do
  match outcome with
  | .proceed intents =>
    intents.forM fun i => c.apply (some i)
    completeBeat
  | .stay => pure ()
  | .hold kind payload => hold c kind payload
  | .ask options line => present c options line
  | .call args =>
    c.systemCall args
    completeBeat

/-- Executes a command. -/
def execute (c : Collaborators σ) (cmd : Script.Command) : Play σ Unit := do
  if !Command.wellFormed cmd then
    throw (.story (Command.arityError cmd (← get).cursor.conversation))
  emit c (.commandRun cmd.kind.keyword cmd.args cmd.line)
  settle c (← onStage (Command.perform cmd))

/-- The error of a conversation that runs commands without end. -/
def neverYields (e : Engine σ) (line : Value) : StoryError :=
  { cause := .neverYields e.cursor.conversation, line
    context := contextOf e.script.name }

/-- Whether the engine is free to play the next beat. -/
def running (e : Engine σ) : Bool :=
  e.mode == .normal && !e.awaiting

/-- Plays beats while the engine is free to. -/
def playBeats (c : Collaborators σ) : (turns budget : Nat) → Play σ Unit
  | 0, _ => pure ()
  | turns + 1, budget => do
    let e ← get
    if !e.running then return
    match e.cursor.current with
    | none => finish c
    | some (.dialogue d) =>
      display c d.text d.speaker true
      playBeats c turns budget
    | some (.command cmd) =>
      match budget with
      | 0 => throw (.story (e.neverYields cmd.line))
      | budget + 1 =>
        execute c cmd
        playBeats c turns budget

/-- Ends the session if an action stops with an error of the story. -/
def orFail (c : Collaborators σ) (act : Play σ Unit) : Play σ Unit := do
  match ← Action.outcome act with
  | .error (.story error) => fail c error
  | r => Action.ofExcept r

/-- Plays until something stops the story. Whether the session goes on. A step inside of a step does
nothing. -/
def step (c : Collaborators σ) : Play σ Bool := do
  let e ← get
  if e.running && !e.stepping then
    modify fun e => { e with stepping := true }
    let r ← Action.outcome (orFail c (playBeats c turnsPerStep commandBudget))
    modify fun e => { e with stepping := false }
    Action.ofExcept r
  return !(← get).finished

/-- The renderer reports that all is loaded. -/
def resourcesReady (c : Collaborators σ) : Play σ Unit := do
  let mode := (← get).mode
  if mode != .loading then
    note .warning s!"resources_ready ignored in mode {mode.name}"
  else
    setMode c .normal
    discard (step c)

end VisualNovel.Engine
