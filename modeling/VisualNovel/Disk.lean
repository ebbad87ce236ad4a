import VisualNovel.Files.Tree
import VisualNovel.Tape

/-!
# Files and log

The two things outside of a session that most of its parts touch: the files it reads and writes, and
the log that it keeps.
-/

namespace VisualNovel

/-- How much a log line matters. -/
inductive Level where
  | info
  | warning
  | error
  deriving Repr, DecidableEq, Inhabited

/-- The name of a level. -/
def Level.name : Level → String
  | info => "INFO"
  | warning => "WARNING"
  | error => "ERROR"

/-- A line of the log. -/
structure Note where
  level : Level
  text : String
  deriving Repr, DecidableEq, Inhabited

/-- The note with its level in front. -/
def Note.line (n : Note) : String :=
  s!"{n.level.name} {n.text}"

/-- The files and the log. -/
structure Disk where
  files : Files.Tree := {}
  log : Tape Note := {}

namespace Disk

/-- Adds a line to the log. -/
def note (d : Disk) (level : Level) (text : String) : Disk :=
  { d with log := d.log.push ⟨level, text⟩ }

/-- The disk with other files. -/
def withFiles (d : Disk) (files : Files.Tree) : Disk :=
  { d with files }

end Disk

namespace Attempt

/-- A plain result as a computation. -/
def ofExcept {σ α : Type} (r : Except Mishap α) : Attempt σ α :=
  ExceptT.mk (pure r)

/-- Logs a line. -/
def note (level : Level) (text : String) : Attempt Disk Unit :=
  modify (·.note level text)

/-- The outcome of a computation, taken as a value: the computation that yields it never fails. -/
def outcome {σ α : Type} (act : Attempt σ α) : Attempt σ (Except Mishap α) :=
  ExceptT.mk do return .ok (← ExceptT.run act)

/-- Asks the files. -/
def askFiles {α : Type} (question : Files.Tree → Except Mishap α) : Attempt Disk α := do
  ofExcept (question (← get).files)

/-- Changes the files; what was done before a failure stays done. -/
def changeFiles {α : Type} (change : Attempt Files.Tree α) : Attempt Disk α := do
  let d ← get
  let (r, files) := change.perform d.files
  set (d.withFiles files)
  ofExcept r

end Attempt

end VisualNovel
