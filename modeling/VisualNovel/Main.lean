import VisualNovel.Cli.Run
import VisualNovel.Clock

/-!
# The program

Reads the files below the working directory, carries out the command line on them, and writes back
the files that are new or changed.
-/

namespace VisualNovel.Program

open Cli

/-- The files at and below an entry of a folder. -/
partial def gather (above : List String) (entry : IO.FS.DirEntry) :
    IO (List (List String × Files.Node)) := do
  let names := above ++ [entry.fileName]
  if ← entry.path.isDir then
    let below ← (← entry.path.readDir).toList.mapM (gather names)
    return (names, .folder) :: below.flatten
  else return [(names, .file (.bytes (← IO.FS.readBinFile entry.path)))]

/-- The files below the working directory. -/
def readFiles : IO Files.Tree := do
  let found ← (← (← IO.currentDir).readDir).toList.mapM (gather [])
  return .ofListing found.flatten

/-- Writes an entry, unless it was there before as it is now. -/
def writeBack (before : Files.Tree) (names : List String) (node : Files.Node) : IO Unit := do
  let path := "/".intercalate names
  match node, before.at? (Files.workingFolder ++ names) with
  | .folder, none => IO.FS.createDirAll path
  | .file (.bytes data), some (.file (.bytes old)) =>
    if data.toList != old.toList then IO.FS.writeBinFile path data
  | .file (.bytes data), none => IO.FS.writeBinFile path data
  | _, _ => pure ()

/-- The time now. -/
def now : IO String := do
  let (_, path) ← IO.FS.createTempFile
  let seconds := (← path.metadata).modified.sec
  IO.FS.removeFile path
  return ((Moment.ofMicros? Moment.firstOf1970 (seconds * 1000000)).map (·.isoText)).getD ""

/-- Numbers for the dice. -/
def rolls : IO (Array Value) := do
  let drawn ← (List.range 1024).mapM fun _ => IO.rand 0 1073741823
  return (drawn.map fun (n : Nat) => Value.int n).toArray

/-- How many frames a window shows when nobody is there to close it. -/
def frameCount : Nat := 36000

/-- Carries out a command line; the exit code. -/
def carryOut (args : List String) : IO UInt32 := do
  let files ← readFiles
  let shell : Shell :=
    { disk := { files }, now := ← now, dice := { rolls := ← rolls }
      toolkit := .even, frames := List.replicate frameCount [] }
  let (done, after) := (execute args).perform shell
  IO.print after.out
  let stderr ← IO.getStderr
  after.disk.log.toList.forM fun note =>
    if note.level != .info then stderr.putStrLn note.line else pure ()
  after.disk.files.listing.forM fun (names, node) => writeBack files names node
  match done with
  | .ok status => return status.code.toUInt32
  | .error _ =>
    stderr.putStrLn "The program was stopped by a value or a file that it cannot use."
    return 1

end VisualNovel.Program

/-- The program. -/
def main (args : List String) : IO UInt32 :=
  VisualNovel.Program.carryOut args
