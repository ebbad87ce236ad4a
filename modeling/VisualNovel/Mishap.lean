/-!
# Mishaps

What can go wrong below the level of the story: a value of the wrong kind, a number that does not
fit, a file in the way, a collaborator that gives up. Errors of the story itself are
`Script.StoryError`s.
-/

namespace VisualNovel

/-- A failure that is no error of the story. -/
inductive Mishap where
  /-- An operation met a value of a kind that it does not take. -/
  | wrongType
  /-- A value has the right kind and cannot be used all the same. -/
  | badValue
  /-- A number is too large for its target. -/
  | overflow
  /-- A number is to be divided by zero. -/
  | divisionByZero
  /-- A record lacks a key. -/
  | missingKey
  /-- A position lies outside of a list. -/
  | badIndex
  /-- A value was asked for a part that values of its kind do not have. -/
  | noMember
  /-- A file stands where a directory is needed. -/
  | fileExists
  /-- A path goes through a file. -/
  | notDirectory
  /-- A directory stands where a file is needed. -/
  | isDirectory
  /-- There is no such file. -/
  | noFile
  /-- A name is longer than files may have. -/
  | nameTooLong
  /-- A text holds half of a character and cannot be written to a file. -/
  | unwritable
  /-- A file is not well-formed markup. -/
  | badMarkup
  /-- A file says that it is in an encoding that nobody knows. -/
  | unknownEncoding
  /-- A value holds itself, or lies too deep to be gone through. -/
  | endless
  /-- More is asked for than there is room for. -/
  | noRoom
  /-- A picture of such an extent cannot be made. -/
  | cannotDraw
  /-- A collaborator leaves an operation out. -/
  | notImplemented
  /-- A collaborator gave up. -/
  | gaveUp
  deriving Repr, DecidableEq, Inhabited

namespace Mishap

/-- Whether a mishap comes from the files. -/
def fromFiles : Mishap → Bool
  | fileExists | notDirectory | isDirectory | noFile | nameTooLong => true
  | _ => false

/-- Whether a mishap comes from a value that has the right kind and cannot be used. -/
def fromValue : Mishap → Bool
  | badValue | unwritable => true
  | _ => false

end Mishap

/-- A computation that may fail, and that leaves the state as far as it came. -/
abbrev Attempt (σ : Type) := ExceptT Mishap (StateM σ)

namespace Attempt

/-- Carries out the computation on a state. -/
def perform {σ α : Type} (act : Attempt σ α) (s : σ) : Except Mishap α × σ :=
  (ExceptT.run act).run s

end Attempt

end VisualNovel
