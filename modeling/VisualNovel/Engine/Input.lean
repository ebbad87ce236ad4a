import VisualNovel.Engine.Stepping

/-!
# Input

What moves a waiting engine on: the player advances or chooses, time passes, or the renderer reports
that an effect is done. A call that does not fit the mode changes nothing.
-/

namespace VisualNovel.Engine

open Script

variable {σ : Type}

/-- Whether a line is displayed that can be advanced past. -/
def showsLine (e : Engine σ) : Bool :=
  e.mode == .normal && e.awaiting

/-- Moves past the displayed line; whether there was one. -/
def advance (c : Collaborators σ) : Play σ Bool := do
  if !(← get).showsLine then return false
  modify fun e => { e with awaiting := false }
  modify (mapStage (Stage.mapTimedText TimedText.endLine))
  completeBeat
  discard (step c)
  return true

/-- Tells the renderer what is visible of the line, if that has changed. -/
def sendReveal (c : Collaborators σ) : Play σ Unit := do
  let t := (← get).stage.timedText
  if t.changed then
    modify (mapStage (Stage.mapTimedText fun t => { t with changed := false }))
    let visible ← Action.ofMishap t.visible
    let complete ← Action.ofMishap t.complete
    send c .revealText [("text", visible), ("complete", .bool complete)]

/-- The player wants to go on; whether the line was advanced past. Timed text may take the wish as
one to see the whole line, or pass over it. -/
def requestAdvance (c : Collaborators σ) : Play σ Bool := do
  if !(← get).showsLine then return false
  if ← Action.attempt timedTextPlace TimedText.input then advance c
  else
    sendReveal c
    return false

/-- Lets a stretch of time pass. -/
def tick (c : Collaborators σ) (dt : Value) : Play σ Unit := do
  if !(← get).showsLine then return
  let fired ← Action.attempt timedTextPlace (TimedText.tick dt)
  sendReveal c
  if fired then discard (advance c)

/-- Whether a value is the identity of an effect. -/
def isEffect (id : Value) (effect : Intent) : Bool :=
  (effect.effectId.getD .null).equal id

/-- The renderer reports that an effect is done; whether it was the one that is running. -/
def effectFinished (c : Collaborators σ) (id : Value) : Play σ Bool := do
  let e ← get
  match e.effect.filter fun i => e.mode == .effectRunning && isEffect id i with
  | none =>
    note .warning s!"stale effect_finished({id.shown}) in mode {e.mode.name}"
    return false
  | some effect =>
    modify fun e => { e with effect := none }
    if effect.kind == .fadeBegin then
      send c .fadeEnd [("direction", effect.get "direction")]
    modify (mapSession Session.release)
    setMode c .normal
    completeBeat
    discard (step c)
    return true

/-- The fault of a choice that is not on a menu of so many options. The error names the choice, so
the choice must have a text. -/
def offMenu (index : Value) (count : Nat) : Fault :=
  match index.display with
  | .ok _ => .story { cause := .choiceIndex index count }
  | .error m => .mishap m

/-- The place of a choice in a menu of so many options. -/
def placeOf (index : Value) (count : Nat) : Except Fault Nat :=
  match index.toInt with
  | .ok n => if 0 ≤ n && n < count then .ok n.toNat else .error (offMenu (.int n) count)
  | .error .wrongType => .error (offMenu index count)
  | .error .badValue => .error (offMenu index count)
  | .error m => .error (.mishap m)

/-- Does what an option says. -/
def follow (option : ChoiceOption) : Play σ Unit :=
  match option.conversation with
  | .null => do
    let delta ← Action.ofMishap option.delta.toInt
    modify (mapStage (Stage.mapFlags fun f => f.modify option.flag.shown delta))
    completeBeat
  | conversation => onStage (Stage.switchConversation conversation)

/-- Takes an option of a menu. -/
def pick (c : Collaborators σ) (options : List ChoiceOption) (index : Value) : Play σ Unit := do
  let place ← Action.ofExcept (placeOf index options.length)
  match options[place]? with
  | none => pure ()
  | some option =>
    modify fun e => { e with menu := none }
    emit c (.choiceSelected place option.text)
    send c .clearChoices
    follow option
    modify (mapSession Session.release)
    setMode c .normal

/-- The player chooses an option, counted from zero; whether that was possible. A choice that does
not exist ends the session. -/
def choose (c : Collaborators σ) (index : Value) : Play σ Bool := do
  let e ← get
  match e.menu.filter fun _ => e.mode == .awaitingChoice with
  | none =>
    note .warning s!"choose({index.shown}) ignored in mode {e.mode.name}"
    return false
  | some options =>
    match ← Action.outcome (pick c options index) with
    | .error (.story error) =>
      fail c error
      return false
    | r =>
      Action.ofExcept r
      discard (step c)
      return true

/-- The host gives a flag a value. -/
def setFlag (name value : Value) : Play σ Unit := do
  let n ← Action.ofMishap value.toInt
  let name ← Action.ofMishap name.display
  modify (mapStage (Stage.mapFlags fun f => f.set name n))

end VisualNovel.Engine
