import VisualNovel.Value.Number

/-!
# Timed text

Two ways in which a displayed line moves by itself, of which at most one is on. In *cinematic* text
a line gives way to the next one after a number of frames, and input counts before that only if it
is allowed. In *typewriter* text a line is revealed at a number of characters per second, and input
reveals the rest if the line can be skipped.
-/

namespace VisualNovel

/-- The settings and the state of timed text. -/
structure TimedText where
  frameRate : Int := 60
  /-- After how many frames a line gives way; zero means never. -/
  threshold : Int := 0
  inputAllowed : Bool := false
  /-- The frames since the line was shown. -/
  counter : Nat := 0
  /-- How many characters are revealed in a second; zero means all at once. -/
  charsPerSecond : Int := 0
  canSkip : Bool := true
  /-- The line, which need not be a text. -/
  fullText : Value := .text ""
  /-- The number of characters earned so far, with its fraction. -/
  progress : Float := 0.0
  revealed : Nat := 0
  /-- Whether a line is displayed. -/
  showing : Bool := false
  /-- Whether the last tick or input changed what is visible. -/
  changed : Bool := false
  deriving Inhabited

namespace TimedText

/-- Timed text at a frame rate, which is at least one. -/
def new (frameRate : Value) : Except Mishap TimedText := do
  return { frameRate := max 1 (← frameRate.toInt) }

/-- Whether cinematic text is on. -/
def cinematic (t : TimedText) : Bool :=
  decide (0 < t.threshold)

/-- Whether typewriter text is on. -/
def typewriter (t : TimedText) : Bool :=
  decide (0 < t.charsPerSecond)

/-- Whether the whole line is visible. -/
def complete (t : TimedText) : Except Mishap Bool := do
  return decide ((← t.fullText.size) ≤ t.revealed)

/-- The visible part of the line. -/
def visible (t : TimedText) : Except Mishap Value :=
  t.fullText.front t.revealed

/-- A plain result as a step. -/
def step {α : Type} (r : Except Mishap α) : Attempt TimedText α :=
  ExceptT.mk (pure r)

/-- Reveals the whole line. -/
def revealAll : Attempt TimedText Unit := do
  let length ← step (← get).fullText.size
  modify fun t => { t with revealed := length, progress := Float.ofNat length }

/-- How many frames a number of seconds lasts. -/
def framesOf (t : TimedText) (seconds : Value) : Except Mishap Int := do
  if !seconds.truthy then return 0
  if !(← seconds.greater (.int 0)) then return 0
  Value.nearest ((← seconds.toFloat) * (← Value.toReal t.frameRate))

/-- Sets cinematic text. If that turns it on, typewriter text goes off. -/
def setCinematic (seconds : Value) (inputAllowed : Value := .bool false) :
    Attempt TimedText Unit := do
  let frames ← step ((← get).framesOf seconds)
  modify fun t =>
    let t := { t with threshold := frames, inputAllowed := inputAllowed.truthy, counter := 0 }
    if t.cinematic then { t with charsPerSecond := 0 } else t

/-- Sets typewriter text. If that turns it on, cinematic text goes off. -/
def setTypewriter (charsPerSecond : Value) (canSkip : Value := .bool true) :
    Attempt TimedText Unit := do
  let cps := max 0 (← step charsPerSecond.toInt)
  modify fun t => { t with charsPerSecond := cps, canSkip := canSkip.truthy }
  if 0 < cps then modify fun t => { t with threshold := 0, inputAllowed := false, counter := 0 }
  else revealAll

/-- Displays a line. -/
def beginLine (text : Value) : Attempt TimedText Unit := do
  modify fun t =>
    { t with showing := true, counter := 0, fullText := text, progress := 0.0, revealed := 0 }
  if !(← get).typewriter then revealAll
  modify fun t => { t with changed := false }

/-- Takes the line away. -/
def endLine (t : TimedText) : TimedText :=
  { t with showing := false }

/-- Reveals what a stretch of time has earned. The time is added up before the sum is cut to whole
characters, so a sum that cannot be cut stays. -/
def reveal (dt : Value) : Attempt TimedText Unit := do
  let t ← get
  let seconds ← step dt.toFloat
  let rate ← step (Value.toReal t.charsPerSecond)
  let progress := t.progress + rate * (if 0.0 < seconds then seconds else 0.0)
  set { t with progress }
  let earned ← step (Value.truncate progress)
  let revealed := min earned.toNat (← step t.fullText.size)
  if revealed != t.revealed then
    modify fun t => { t with revealed, changed := true }

/-- Whether typewriter text is on and has not revealed the whole line. -/
def typing : Attempt TimedText Bool := do
  let t ← get
  if t.typewriter then return !(← step t.complete) else return false

/-- Counts a frame; whether the line gives way. -/
def countFrame (t : TimedText) : Bool × TimedText :=
  if t.cinematic then
    let t := { t with counter := t.counter + 1 }
    if t.threshold ≤ t.counter then (true, { t with showing := false }) else (false, t)
  else (false, t)

/-- Lets a stretch of time pass; whether the line gives way. -/
def tick (dt : Value) : Attempt TimedText Bool := do
  modify fun t => { t with changed := false }
  if !(← get).showing then return false
  if ← typing then reveal dt
  modifyGet countFrame

/-- Takes input; whether the line gives way. -/
def input : Attempt TimedText Bool := do
  modify fun t => { t with changed := false }
  let t ← get
  if !t.showing then return true
  if t.cinematic && !t.inputAllowed then return false
  if ← typing then
    if t.canSkip then
      revealAll
      modify fun t => { t with changed := true }
    return false
  return true

/-- Settings and state as a record. -/
def toValue (t : TimedText) : Except Mishap Value := do
  return .ofFields [("frame_rate", .int t.frameRate), ("threshold", .int t.threshold),
    ("input_allowed", .bool t.inputAllowed), ("counter", .int t.counter),
    ("cps", .int t.charsPerSecond), ("can_skip", .bool t.canSkip), ("progress", .float t.progress),
    ("revealed", .int t.revealed), ("complete", .bool (← t.complete)), ("showing", .bool t.showing),
    ("changed", .bool t.changed), ("visible", ← t.visible)]

end TimedText

end VisualNovel
