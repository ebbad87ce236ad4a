import VisualNovel.Session.Snapshot

/-!
# The session

The live state of a story, and the window in which it must not be saved as it is. Right before an
effect or a menu runs, a snapshot is set aside; until it is released, saving reads that snapshot, so
no save falls into the middle of an effect.
-/

namespace VisualNovel

/-- The live state of a story. -/
structure Session where
  cursor : Cursor
  scriptName : Value := .text ""
  flags : Flags := {}
  overrides : Overrides := {}
  scene : Scene := {}
  choiceSets : ChoiceSets := []
  /-- The snapshot set aside while an effect or a menu runs. -/
  safe : Option Snapshot := none
  deriving Inhabited

namespace Session

/-- The session as it is now. -/
def live (s : Session) : Snapshot :=
  { script := s.scriptName, cursor := s.cursor.position, flags := s.flags
    overrides := s.overrides, scene := s.scene, choiceSets := s.choiceSets }

/-- Sets a snapshot aside, in place of one that was there. -/
def capture (s : Session) : Session :=
  { s with safe := some s.live }

/-- Drops the snapshot set aside. -/
def release (s : Session) : Session :=
  { s with safe := none }

/-- The snapshot to save. -/
def persistent (s : Session) : Snapshot :=
  s.safe.getD s.live

/-- Takes over all of a snapshot but its place, which needs a script. -/
def adopt (s : Session) (t : Snapshot) : Session :=
  { s with scriptName := t.script, flags := t.flags, overrides := t.overrides, scene := t.scene
           choiceSets := t.choiceSets, safe := none }

end Session

end VisualNovel
