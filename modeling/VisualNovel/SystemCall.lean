import VisualNovel.Disk
import VisualNovel.Text.Blank
import VisualNovel.Value.Display

/-!
# System calls

A script can call its host by name. Two calls are known from the start, one that saves and one that
logs; a host registers others, and may replace these two. Calls that nobody knows are logged.
-/

namespace VisualNovel

/-- What answers a call. -/
inductive CallHandler (ι : Type) where
  | autosave
  | log
  | custom (id : ι)
  deriving Repr, DecidableEq

/-- The handlers by the lower case of their names. -/
structure SystemCalls (ι : Type) where
  handlers : Table String (CallHandler ι) := [("autosave", .autosave), ("log", .log)]

namespace SystemCalls

variable {ι : Type}

/-- Registers a handler. -/
def register (c : SystemCalls ι) (name : String) (id : ι) : SystemCalls ι :=
  { handlers := Table.put (Text.lower name) (.custom id) c.handlers }

/-- The name that a call is looked up by. -/
def callName (v : Value) : String :=
  Text.lower (Text.strip v.shown)

variable {m : Type → Type} [Monad m]

/-- Asks the host to save, if it can; whether that worked. -/
def autosave (note : Level → String → m Unit) (save : Option (m Bool)) : m Bool := do
  match save with
  | none =>
    note .warning "autosave requested but no save store is attached"
    return false
  | some save =>
    let ok ← save
    if !ok then note .warning "autosave failed"
    return ok

/-- Makes a call: its name and its arguments. -/
def send (c : SystemCalls ι) (note : Level → String → m Unit) (save : Option (m Bool))
    (custom : ι → List Value → m Value) (args : List Value) : m Value := do
  match args with
  | [] => return .null
  | head :: rest =>
    let name := callName head
    match Table.get? name c.handlers with
    | none =>
      let shown := (Value.list rest).quote
      note .warning s!"unhandled system call: {name} {shown}"
      return .null
    | some .autosave => return .bool (← autosave note save)
    | some .log =>
      let words := " ".intercalate (rest.map Value.shown)
      note .info s!"script: {words}"
      return .null
    | some (.custom id) => custom id rest

end SystemCalls

end VisualNovel
