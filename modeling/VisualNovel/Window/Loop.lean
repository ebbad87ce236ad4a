import VisualNovel.Engine.Hosts
import VisualNovel.Engine.Input

/-!
# The loop of a window

A window owns its engine: frame by frame it hands on the input of the player, reports what is
loaded and what is done, lets time pass, and draws.
-/

namespace VisualNovel

/-- A key, by what it does. -/
inductive Key where
  /-- Advances past a line. -/
  | advance
  /-- Chooses an option, counted from one. -/
  | number (n : Nat)
  | quickSave
  | quickLoad
  /-- Turns the backlog to older lines. -/
  | up
  /-- Turns the backlog to newer lines. -/
  | down
  | escape
  /-- Does nothing. -/
  | other
  deriving Repr, DecidableEq, Inhabited

/-- The key of a name. -/
def Key.ofName (name : String) : Key :=
  match name with
  | "return" | "space" | "kp_enter" => .advance
  | "escape" => .escape
  | "f5" => .quickSave
  | "f9" => .quickLoad
  | "up" => .up
  | "down" => .down
  | name =>
    match name.toList with
    | [c] => if '1' ≤ c && c ≤ '9' then .number (c.toNat - '0'.toNat) else .other
    | _ => .other

/-- What a player does. -/
inductive Input where
  | quit
  | key (k : Key)
  | click (point button : Value)
  /-- Something of no meaning to the window. -/
  | other
  deriving Inhabited

namespace Window

open Collaborators

variable {σ : Type}

/-- Chooses an option, if a menu is waiting. -/
def chooseAt (c : Collaborators σ) (index : Option Nat) : Play σ Unit := do
  match index with
  | some n => discard (Engine.choose c (.int n))
  | none => pure ()

/-- Takes a key. -/
def press (c : Collaborators σ) (place : Place σ Window) (k : Key) : Play σ Unit := do
  let e ← get
  match k with
  | .advance => discard (Engine.requestAdvance c)
  | .number n =>
    let there := 0 < n && n ≤ (place.get e.outside).choices.length
    if e.mode == .awaitingChoice && there then chooseAt c (some (n - 1))
  | .quickSave => discard Engine.quicksave
  | .quickLoad => discard (Engine.quickload c)
  | .up => modify (Engine.backlogPlace.update fun b => b.scrollUp)
  | .down => modify (Engine.backlogPlace.update fun b => b.scrollDown)
  | .escape | .other => pure ()

/-- Takes a click of the first button. -/
def clickAt (c : Collaborators σ) (place : Place σ Window) (point : Value) : Play σ Unit := do
  let e ← get
  if e.mode == .awaitingChoice then
    chooseAt c (← Action.ofMishap ((place.get e.outside).choiceAt point))
  else discard (Engine.requestAdvance c)

/-- Takes what a player does, until the player leaves; whether the player stays. -/
def takeInputs (c : Collaborators σ) (place : Place σ Window) : List Input → Play σ Bool
  | [] => return true
  | .quit :: _ => return false
  | .key .escape :: _ => return false
  | .key k :: rest => do
    press c place k
    takeInputs c place rest
  | .click point button :: rest => do
    if button.equal (.int 1) then clickAt c place point
    takeInputs c place rest
  | .other :: rest => takeInputs c place rest

/-- Reports what could not be found; whether all was found. -/
def reportMissing (c : Collaborators σ) (place : Place σ Window) : Play σ Bool := do
  match (place.get (← get).outside).missing with
  | [] => return true
  | missing =>
    modify (Engine.outsidePlace.update (place.update fun w => { w with missing := [] }))
    let names ← Action.ofMishap (missing.mapM Value.asText)
    Engine.reportResourceError c (.text ("Missing asset: " ++ ", ".intercalate names))
    return false

/-- Reports what is loaded and what is done. -/
def reportDone (c : Collaborators σ) (place : Place σ Window) : Play σ Unit := do
  let e ← get
  if (place.get e.outside).pendingReady && e.mode == .loading then
    modify (Engine.outsidePlace.update (place.update fun w => { w with pendingReady := false }))
    Engine.resourcesReady c
  let now := (place.get (← get).outside).ticks
  match ← Action.attempt (deskPlace place) (Desk.pollEffect now) with
  | some id => discard (Engine.effectFinished c id)
  | none => pure ()

/-- Plays a frame that lasts a number of milliseconds; whether the loop goes on. -/
def frame (c : Collaborators σ) (place : Place σ Window) (milliseconds : Value)
    (inputs : List Input) : Play σ Bool := do
  let later ← Action.ofMishap ((place.get (← get).outside).pass milliseconds)
  modify (Engine.outsidePlace.update (place.set later))
  let seconds ← Action.ofMishap (milliseconds.dividedBy 1000.0)
  if !(← takeInputs c place inputs) then return false
  if !(← reportMissing c place) then return false
  reportDone c place
  Engine.tick c (.ofFloat seconds)
  Action.attempt (deskPlace place) (Desk.draw (some (← get).backlog))
  return true

/-- Whether as many frames were played as there may be. -/
def enough (limit : Value) (played : Nat) : Play σ Bool :=
  match limit with
  | .null => return false
  | limit => Action.ofMishap (limit.atMost (.int played))

/-- Plays frames until the session ends, the player leaves, there are as many as there may be, or no
more come; some have been played already. -/
def run (c : Collaborators σ) (place : Place σ Window) (milliseconds limit : Value) :
    (played : Nat) → (frames : List (List Input)) → Play σ Unit
  | _, [] => return
  | played, inputs :: rest => do
    if (← get).finished then return
    if !(← frame c place milliseconds inputs) then return
    if !(← enough limit (played + 1)) then run c place milliseconds limit (played + 1) rest

end Window

end VisualNovel
