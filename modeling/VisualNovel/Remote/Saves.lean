import VisualNovel.Remote.Files
import VisualNovel.Remote.View
import VisualNovel.Saves

/-!
# Saves from afar

A call of a store is a record with the name of the call under `call`: `list`, `delete`, `read`,
`write`, `read_quick`, `write_quick`, `mutate`, which changes what it has read, and `files`.
-/

namespace VisualNovel.Remote

/-- A store beside the files. -/
structure Cupboard where
  store : SaveStore
  disk : Disk

namespace Cupboard

/-- The place of the files. -/
def diskPlace : Place Cupboard Disk where
  get c := c.disk
  set d c := { c with disk := d }

end Cupboard

/-- A save as it was read, if there is one. -/
def saveView (v : Option Value) : Value :=
  snapshotRecord (v.getD .null)

/-- A save with a flag more. -/
def withMark (save : Option Value) : Except Mishap Value := do
  match save with
  | some (.record fs) =>
    match Fields.get? "flags" fs with
    | some (.record flags) =>
      return .record (Fields.put "flags" (.record (Fields.put "mutated" (.int 1) flags)) fs)
    | some _ => throw .wrongType
    | none => throw .missingKey
  | _ => throw .wrongType

/-- A call of a store. -/
def callStore (s : SaveStore) (now : String) (call : Value) : Attempt Disk (Value × SaveStore) := do
  let slot := call.field "slot"
  let payload := call.field "payload"
  let told (r : Bool × SaveStore) : Value × SaveStore := (.bool r.1, r.2)
  match (call.field "call").shown with
  | "list" => return (.list ((← s.listSlots).map .int), s)
  | "delete" => return told (← s.deleteSlot slot)
  | "read" => return (saveView (← s.readSlot slot), s)
  | "write" => return told (← s.writeSlot now slot payload)
  | "read_quick" => return (saveView (← s.readQuick), s)
  | "write_quick" => return told (← s.writeQuick now payload)
  | "mutate" => return (snapshotRecord (← Attempt.ofExcept (withMark (← s.readSlot slot))), s)
  | "files" => return (filesView (← get).files, s)
  | _ => throw .noMember

/-- A call of a store beside its files. -/
def callCupboard (now : String) (call : Value) : Action Cupboard Value := do
  let (v, store) ← Action.attempt Cupboard.diskPlace (callStore (← get).store now call)
  modify fun c => { c with store }
  return v

/-- The store of a name. The files of one in a folder are in `saves`. -/
def storeNamed? (name : Value) : Option SaveStore :=
  match name with
  | .text "memory" => some (.memory {})
  | .text "file" => some (.folder (Files.Path.ofText "saves"))
  | _ => none

/-- A record with the time at which it is saved, and the record as it was. -/
def stampView (now : String) (payload : Value) : Except Mishap Value := do
  return .ofFields [("stamp", .record (← stamp now payload)), ("input", payload)]

end VisualNovel.Remote
