import VisualNovel.Disk
import VisualNovel.Json.Reader
import VisualNovel.Json.Writer
import VisualNovel.Value.Display
import VisualNovel.Value.Number

/-!
# Saved sessions

A store keeps a quick save and any number of numbered slots, of which slot zero is the autosave. A
store in memory keeps the records themselves; a store in a folder keeps each in a file of its own,
and logs what goes wrong with a file.
-/

namespace VisualNovel

/-- The slot of the autosave. -/
def autosaveSlot : Int := 0

/-- The record with the time at which it is saved, unless it has one. -/
def stamp (now : String) (payload : Value) : Except Mishap Fields := do
  let fs ← payload.toFields
  return if fs.has "ts" then fs else fs.put "ts" (.text now)

/-- Saves in memory. -/
structure MemorySaves where
  quick : Option Value := none
  slots : Table Int Value := []

/-- Where sessions are saved. -/
inductive SaveStore where
  | memory (saves : MemorySaves)
  | folder (base : Files.Path)

namespace MemorySaves

/-- The numbers of the slots, ascending. -/
def list (s : MemorySaves) : List Int :=
  (Table.keys s.slots).mergeSort fun a b => decide (a ≤ b)

end MemorySaves

namespace FolderSaves

/-- Makes the folder if it is not there. -/
def ensure (base : Files.Path) : Attempt Disk Unit :=
  Attempt.changeFiles (Files.Change.ensureFolder base)

/-- The number of a slot in the name of its file: two digits or more. -/
def slotText (slot : Int) : String :=
  let digits := toString slot
  if digits.length < 2 then "0" ++ digits else digits

/-- The name of a slot's file. -/
def slotName (slot : Int) : String :=
  s!"slot_{slotText slot}.json"

/-- The file of a slot. -/
def slotPath (base : Files.Path) (slot : Value) : Attempt Disk Files.Path := do
  ensure base
  let n ← Attempt.ofExcept slot.toInt
  if Value.writableInt n then return base.join (slotName n) else throw .badValue

/-- The file of the quick save. -/
def quickPath (base : Files.Path) : Attempt Disk Files.Path := do
  ensure base
  return base.join "quick.json"

/-- Writes a save; whether that worked. -/
def write (now : String) (p : Files.Path) (payload : Value) : Attempt Disk Bool := do
  let writing : Attempt Disk Unit := do
    let written ← Attempt.ofExcept (do Json.write Json.indented (.record (← stamp now payload)))
    Attempt.changeFiles (Files.Change.writeText p written)
  match ← Attempt.outcome writing with
  | .ok () => return true
  | .error m =>
    if m.fromFiles || m.fromValue || m == .wrongType then
      Attempt.note .error s!"save to {p.text} failed"
      return false
    else throw m

/-- Reads a save, if there is one that can be read. -/
def read (p : Files.Path) : Attempt Disk (Option Value) := do
  if !(← Attempt.askFiles (·.exists? p)) then return none
  match ← Attempt.outcome (Attempt.askFiles fun files => do Json.read (← files.readText p)) with
  | .ok v => return some v
  | .error m =>
    if m.fromFiles || m.fromValue then
      Attempt.note .error s!"cannot read save {p.text}"
      return none
    else throw m

/-- Removes a save; whether there was one that could be removed. -/
def delete (p : Files.Path) : Attempt Disk Bool := do
  if !(← Attempt.askFiles (·.exists? p)) then return false
  match ← Attempt.outcome (Attempt.changeFiles (Files.Change.remove p)) with
  | .ok () => return true
  | .error m =>
    if m.fromFiles then
      Attempt.note .error s!"cannot delete {p.text}"
      return false
    else throw m

/-- Whether a list starts with another one. -/
def startsWith (head : String) (name : String) : Bool :=
  name.toList.take head.length == head.toList

/-- Whether a list ends with another one. -/
def endsWith (tail : String) (name : String) : Bool :=
  name.toList.drop (name.length - tail.length) == tail.toList

/-- The slot that a file's name stands for: the number between its first underscore and the next. -/
def slotOf? (name : String) : Option Int :=
  if startsWith "slot_" name && endsWith ".json" name && 10 ≤ name.length then
    let rest := name.toList.drop 5
    let stem := rest.take (rest.length - 5)
    Number.readInt? (String.ofList (stem.takeWhile (· != '_')))
  else none

/-- The numbers of the slots, ascending. -/
def list (base : Files.Path) : Attempt Disk (List Int) := do
  ensure base
  let names := (← get).files.namesIn base
  return (names.filterMap slotOf?).mergeSort fun a b => decide (a ≤ b)

end FolderSaves

namespace SaveStore

/-- Saves to a slot; whether that worked, and the store afterwards. -/
def writeSlot (s : SaveStore) (now : String) (slot payload : Value) :
    Attempt Disk (Bool × SaveStore) := do
  match s with
  | memory saves =>
    let kept ← Attempt.ofExcept (stamp now payload)
    let n ← Attempt.ofExcept slot.toInt
    return (true, .memory { saves with slots := Table.put n (.record kept) saves.slots })
  | folder base => return (← FolderSaves.write now (← FolderSaves.slotPath base slot) payload, s)

/-- The save of a slot. -/
def readSlot (s : SaveStore) (slot : Value) : Attempt Disk (Option Value) := do
  match s with
  | memory saves => return Table.get? (← Attempt.ofExcept slot.toInt) saves.slots
  | folder base => FolderSaves.read (← FolderSaves.slotPath base slot)

/-- Removes the save of a slot; whether there was one, and the store afterwards. -/
def deleteSlot (s : SaveStore) (slot : Value) : Attempt Disk (Bool × SaveStore) := do
  match s with
  | memory saves =>
    let n ← Attempt.ofExcept slot.toInt
    return (Table.has n saves.slots, .memory { saves with slots := Table.erase n saves.slots })
  | folder base => return (← FolderSaves.delete (← FolderSaves.slotPath base slot), s)

/-- The numbers of the slots that hold a save, ascending. -/
def listSlots (s : SaveStore) : Attempt Disk (List Int) :=
  match s with
  | memory saves => pure saves.list
  | folder base => FolderSaves.list base

/-- Makes the quick save; whether that worked, and the store afterwards. -/
def writeQuick (s : SaveStore) (now : String) (payload : Value) :
    Attempt Disk (Bool × SaveStore) := do
  match s with
  | memory saves =>
    let kept ← Attempt.ofExcept (stamp now payload)
    return (true, .memory { saves with quick := some (.record kept) })
  | folder base => return (← FolderSaves.write now (← FolderSaves.quickPath base) payload, s)

/-- The quick save. -/
def readQuick (s : SaveStore) : Attempt Disk (Option Value) := do
  match s with
  | memory saves => return saves.quick
  | folder base => FolderSaves.read (← FolderSaves.quickPath base)

end SaveStore

end VisualNovel
