import VisualNovel.Engine.Lifecycle

/-!
# Saving and restoring

While an effect or a menu runs, what is saved is the session as it was before. Restoring a snapshot
starts loading; the beat at its place is played again once all is loaded.
-/

namespace VisualNovel.Engine

open Script

variable {σ : Type}

/-- The script that a snapshot belongs to. -/
def scriptOf (t : Snapshot) : Action Stage Script := do
  let script := (← get).script
  if !t.script.truthy || t.script.equal script.name then return script
  Stage.fetchScript { cause := .noLibraryToRestore t.script } t.script

/-- Takes over a snapshot. A place that does not exist leaves the session as it was. -/
def restore (c : Collaborators σ) (t : Snapshot) : Play σ Unit := do
  let script ← onStage (scriptOf t)
  let cursor ← Action.ofStory (Cursor.rebind script t.cursor)
  let scriptName := script.name.orElse t.script
  modify (mapStage (Stage.enter script cursor))
  modify (mapSession fun s => { s.adopt t with scriptName })
  modify fun e => { e with effect := none, menu := none, awaiting := false, error := none }
  modify (mapStage (Stage.mapTimedText TimedText.endLine))
  onStage Stage.retimeFromSession
  enterLoading c

/-- The store, if there is one. That there is none is logged. -/
def requireStore : Play σ (Option SaveStore) := do
  let saves := (← get).saves
  if saves.isNone then note .warning "no save store attached"
  return saves

/-- Saves the session to a store; whether that worked. -/
def saveTo (write : String → Value → Attempt Disk (Bool × SaveStore)) : Play σ Bool := do
  let e ← get
  let payload ← Action.ofMishap e.session.persistent.toValue
  let (ok, store) ← onDisk (write e.now payload)
  modify fun e => { e with saves := some store }
  return ok

/-- Restores what a store has; whether it has anything. -/
def loadFrom (c : Collaborators σ) (read : Attempt Disk (Option Value)) : Play σ Bool := do
  let data := (← onDisk read).getD .null
  if !data.truthy then return false
  restore c (← Action.ofMishap (Snapshot.ofValue data))
  return true

/-- Saves to a slot. -/
def saveToSlot (slot : Value) : Play σ Bool := do
  match ← requireStore with
  | none => return false
  | some store =>
    let n ← Action.ofMishap slot.toInt
    saveTo fun now payload => store.writeSlot now (.int n) payload

/-- Restores a slot. -/
def loadFromSlot (c : Collaborators σ) (slot : Value) : Play σ Bool := do
  match ← requireStore with
  | none => return false
  | some store =>
    let n ← Action.ofMishap slot.toInt
    loadFrom c (store.readSlot (.int n))

/-- Makes the quick save. -/
def quicksave : Play σ Bool := do
  match ← requireStore with
  | none => return false
  | some store => saveTo fun now payload => store.writeQuick now payload

/-- Restores the quick save. -/
def quickload (c : Collaborators σ) : Play σ Bool := do
  match ← requireStore with
  | none => return false
  | some store => loadFrom c store.readQuick

/-- Saves to the slot of the autosave. -/
def autosave : Play σ Bool :=
  saveToSlot (.int autosaveSlot)

end VisualNovel.Engine
