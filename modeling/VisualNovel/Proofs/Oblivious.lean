import VisualNovel.Engine.Persistence
import VisualNovel.Proofs.Likeness
import VisualNovel.Proofs.Respects

/-!
# Actions that look away

`Oblivious f act` says that an action neither reads nor disturbs what `f` changes: it is the same to
do `f` before the action or after it. A row of oblivious actions is oblivious, so a function is if
its steps are.

The change that matters most is `Stage.aged`, which puts older lines in front of the log. Commands,
stores of saves and libraries write to the log and never read it: `Command.perform_oblivious`.
-/

namespace VisualNovel

open Script

variable {ε σ τ α β : Type}

/-- It is the same to do `f` before the computation or after it. -/
def Oblivious (f : σ → σ) (act : ExceptT ε (StateM σ) α) : Prop :=
  ∀ s, ((ExceptT.run act).run (f s) : Except ε α × σ) =
    ((((ExceptT.run act).run s : Except ε α × σ).1), f ((ExceptT.run act).run s : Except ε α × σ).2)

namespace Oblivious

variable {f : σ → σ}

/-! ## Steps and rows of steps -/

theorem of_value {r : Except ε α} : Oblivious f (ExceptT.mk (pure r) : ExceptT ε (StateM σ) α) :=
  fun _ => rfl

protected theorem pure {a : α} : Oblivious f (pure a : ExceptT ε (StateM σ) α) :=
  fun _ => rfl

protected theorem throw {e : ε} : Oblivious f (throw e : ExceptT ε (StateM σ) α) :=
  fun _ => rfl

protected theorem modify {g : σ → σ} (h : ∀ s, g (f s) = f (g s)) :
    Oblivious f (modify g : ExceptT ε (StateM σ) PUnit) := by
  intro s
  have hrun : ∀ t, ((ExceptT.run (modify g : ExceptT ε (StateM σ) PUnit)).run t :
      Except ε PUnit × σ) = (.ok ⟨⟩, g t) := fun _ => rfl
  rw [hrun, hrun, h]

protected theorem bind {x : ExceptT ε (StateM σ) α} {k : α → ExceptT ε (StateM σ) β}
    (hx : Oblivious f x) (hk : ∀ a, Oblivious f (k a)) : Oblivious f (x >>= k) := by
  intro s
  rw [run_bind, run_bind, hx s]
  rcases ((ExceptT.run x).run s : Except ε α × σ) with ⟨_ | a, t⟩
  · rfl
  · exact hk a t

/-- What follows a look at the state may look at what `f` leaves alone. -/
theorem get_bind {k : σ → ExceptT ε (StateM σ) α} (hsame : ∀ s, k (f s) = k s)
    (hk : ∀ s, Oblivious f (k s)) : Oblivious f (get >>= k) := by
  intro s
  have hrun : ∀ t, ((ExceptT.run (get >>= k)).run t : Except ε α × σ) =
      (ExceptT.run (k t)).run t := fun _ => rfl
  rw [hrun, hrun, hsame]
  exact hk s s

protected theorem map {x : ExceptT ε (StateM σ) α} {g : α → β} (hx : Oblivious f x) :
    Oblivious f (g <$> x) := by
  rw [map_eq_pure_bind]
  exact hx.bind fun _ => .pure

protected theorem discard {x : ExceptT ε (StateM σ) α} (hx : Oblivious f x) :
    Oblivious f (discard x) :=
  hx.map

protected theorem ite {p : Prop} [Decidable p] {x y : ExceptT ε (StateM σ) α}
    (hx : Oblivious f x) (hy : Oblivious f y) : Oblivious f (if p then x else y) := by
  split
  · exact hx
  · exact hy

protected theorem forM {xs : List α} {k : α → ExceptT ε (StateM σ) PUnit}
    (hk : ∀ a, Oblivious f (k a)) : Oblivious f (xs.forM k) := by
  induction xs with
  | nil => exact .pure
  | cons x xs ih => exact (hk x).bind fun _ => ih

/-- A change that changes nothing is never noticed. -/
protected theorem id {act : ExceptT ε (StateM σ) α} : Oblivious id act :=
  fun _ => rfl

/-! ## Actions -/

theorem ofExcept {r : Except Fault α} : Oblivious f (Action.ofExcept r : Action σ α) :=
  of_value

theorem ofMishap {r : Except Mishap α} : Oblivious f (Action.ofMishap r : Action σ α) :=
  of_value

theorem ofStory {r : Except StoryError α} : Oblivious f (Action.ofStory r : Action σ α) :=
  of_value

theorem outcome {act : Action σ α} (h : Oblivious f act) : Oblivious f (Action.outcome act) := by
  intro s
  have hrun : ∀ t, ((ExceptT.run (Action.outcome act)).run t : Except Fault (Except Fault α) × σ) =
      (.ok ((ExceptT.run act).run t : Except Fault α × σ).1,
        ((ExceptT.run act).run t : Except Fault α × σ).2) := fun _ => rfl
  rw [hrun, hrun, h s]

theorem perform {act : Action σ α} (h : Oblivious f act) (s : σ) :
    act.perform (f s) = ((act.perform s).1, f (act.perform s).2) :=
  h s

section
variable {place : Place σ τ} {g : τ → τ}

/-- An action on a part of the state, where `g` is what `f` does to the part. -/
theorem onPart {act : Action τ α} (hget : ∀ s, place.get (f s) = g (place.get s))
    (hset : ∀ t s, place.set (g t) (f s) = f (place.set t s)) (h : Oblivious g act) :
    Oblivious f (Action.onPart place act) := by
  intro s
  have hrun : ∀ s, ((ExceptT.run (Action.onPart place act)).run s : Except Fault α × σ) =
      ((act.perform (place.get s)).1, place.set (act.perform (place.get s)).2 s) := fun _ => rfl
  rw [hrun, hrun, hget, h.perform, hset]

theorem attempt {act : Attempt τ α} (hget : ∀ s, place.get (f s) = g (place.get s))
    (hset : ∀ t s, place.set (g t) (f s) = f (place.set t s)) (h : Oblivious g act) :
    Oblivious f (Action.attempt place act) := by
  intro s
  have hrun : ∀ s, ((ExceptT.run (Action.attempt place act)).run s : Except Fault α × σ) =
      ((act.perform (place.get s)).1.mapError .mishap, place.set (act.perform (place.get s)).2 s) :=
    fun _ => rfl
  have hpart : ∀ t, act.perform (g t) = ((act.perform t).1, g (act.perform t).2) := h
  rw [hrun, hrun, hget, hpart, hset]

end

end Oblivious

/-! ## Older lines in front of the log -/

/-- The tape with older items in front. -/
def Tape.aged (older : List α) (t : Tape α) : Tape α :=
  ⟨t.newestFirst ++ older⟩

/-- The disk with older lines in front of its log. -/
def Disk.aged (older : List Note) (d : Disk) : Disk :=
  { d with log := d.log.aged older }

/-- The stage with older lines in front of its log. -/
def Stage.aged (older : List Note) (s : Stage) : Stage :=
  { s with disk := s.disk.aged older }

section
variable {older : List Note}

/-! ## Saves -/

namespace Attempt

theorem note_oblivious (level : Level) (text : String) :
    Oblivious (Disk.aged older) (note level text) :=
  .modify fun _ => rfl

theorem outcome_oblivious {f : σ → σ} {act : Attempt σ α} (h : Oblivious f act) :
    Oblivious f (outcome act) := by
  intro s
  have hrun : ∀ t, ((ExceptT.run (outcome act)).run t : Except Mishap (Except Mishap α) × σ) =
      (.ok ((ExceptT.run act).run t : Except Mishap α × σ).1,
        ((ExceptT.run act).run t : Except Mishap α × σ).2) := fun _ => rfl
  rw [hrun, hrun, h s]

theorem askFiles_oblivious (question : Files.Tree → Except Mishap α) :
    Oblivious (Disk.aged older) (askFiles question) :=
  .get_bind (fun _ => rfl) fun _ => .of_value

theorem changeFiles_oblivious (change : Attempt Files.Tree α) :
    Oblivious (Disk.aged older) (changeFiles change) :=
  fun _ => rfl

end Attempt

namespace FolderSaves

theorem slotPath_oblivious (base : Files.Path) (slot : Value) :
    Oblivious (Disk.aged older) (slotPath base slot) :=
  (Attempt.changeFiles_oblivious _).bind fun _ => Oblivious.of_value.bind fun _ => .ite .pure .throw

theorem quickPath_oblivious (base : Files.Path) : Oblivious (Disk.aged older) (quickPath base) :=
  (Attempt.changeFiles_oblivious _).bind fun _ => .pure

theorem write_oblivious (now : String) (p : Files.Path) (payload : Value) :
    Oblivious (Disk.aged older) (write now p payload) := by
  unfold write
  refine (Attempt.outcome_oblivious ?_).bind fun r => ?_
  · exact Oblivious.of_value.bind fun _ => Attempt.changeFiles_oblivious _
  · cases r with
    | ok _ => exact .pure
    | error m => exact .ite ((Attempt.note_oblivious _ _).bind fun _ => .pure) .throw

theorem read_oblivious (p : Files.Path) : Oblivious (Disk.aged older) (read p) := by
  unfold read
  refine (Attempt.askFiles_oblivious _).bind fun there => .ite .pure ?_
  refine (Attempt.outcome_oblivious (Attempt.askFiles_oblivious _)).bind fun r => ?_
  cases r with
  | ok _ => exact .pure
  | error m => exact .ite ((Attempt.note_oblivious _ _).bind fun _ => .pure) .throw

end FolderSaves

namespace SaveStore

theorem writeSlot_oblivious (s : SaveStore) (now : String) (slot payload : Value) :
    Oblivious (Disk.aged older) (s.writeSlot now slot payload) := by
  cases s with
  | memory saves => exact Oblivious.of_value.bind fun _ => Oblivious.of_value.bind fun _ => .pure
  | folder base =>
    exact (FolderSaves.slotPath_oblivious _ _).bind fun _ =>
      (FolderSaves.write_oblivious _ _ _).bind fun _ => .pure

theorem readSlot_oblivious (s : SaveStore) (slot : Value) :
    Oblivious (Disk.aged older) (s.readSlot slot) := by
  cases s with
  | memory saves => exact Oblivious.of_value.bind fun _ => .pure
  | folder base =>
    exact (FolderSaves.slotPath_oblivious _ _).bind fun _ => FolderSaves.read_oblivious _

theorem writeQuick_oblivious (s : SaveStore) (now : String) (payload : Value) :
    Oblivious (Disk.aged older) (s.writeQuick now payload) := by
  cases s with
  | memory saves => exact Oblivious.of_value.bind fun _ => .pure
  | folder base =>
    exact (FolderSaves.quickPath_oblivious _).bind fun _ =>
      (FolderSaves.write_oblivious _ _ _).bind fun _ => .pure

theorem readQuick_oblivious (s : SaveStore) : Oblivious (Disk.aged older) s.readQuick := by
  cases s with
  | memory saves => exact .pure
  | folder base =>
    exact (FolderSaves.quickPath_oblivious _).bind fun _ => FolderSaves.read_oblivious _

end SaveStore

/-! ## The stage -/

theorem Respects.oblivious {f : σ → σ} {act : ExceptT ε (StateM σ) α}
    (h : Respects (fun s t => t = f s) act) : Oblivious f act :=
  fun s => Prod.ext (h s _ rfl).1.symm (h s _ rfl).2

/-- A stage cannot be told from the one with older lines in front of its log. -/
theorem Stage.aged_indistinct : Stage.Indistinct fun s t => t = s.aged older where
  config := by rintro _ _ rfl; rfl
  script := by rintro _ _ rfl; rfl
  cursor := by rintro _ _ rfl; rfl
  flags := by rintro _ _ rfl _; rfl
  overrides := by rintro _ _ rfl; rfl
  scene := by rintro _ _ rfl; rfl
  choiceSets := by rintro _ _ rfl; rfl
  timedText := by rintro _ _ rfl; rfl
  dice := by rintro _ _ rfl; rfl
  library := by rintro _ _ rfl; rfl
  files := by rintro _ _ rfl; rfl
  setScript := by rintro _ _ _ rfl; rfl
  setCursor := by rintro _ _ _ rfl; rfl
  setScriptName := by rintro _ _ _ rfl; rfl
  setFlag := by rintro _ _ _ _ rfl; rfl
  setOverrides := by rintro _ _ _ rfl; rfl
  setScene := by rintro _ _ _ rfl; rfl
  setChoiceSets := by rintro _ _ _ rfl; rfl
  setTimedText := by rintro _ _ _ rfl; rfl
  setDice := by rintro _ _ _ rfl; rfl
  setLibrary := by rintro _ _ _ rfl; rfl
  capture := by rintro _ _ rfl; rfl
  note := by rintro _ _ _ _ rfl; rfl

namespace Stage

theorem switchConversation_oblivious (name : Value) :
    Oblivious (aged older) (switchConversation name) :=
  (aged_indistinct.switchConversation name).oblivious

theorem fetchScript_oblivious (missing : StoryError) (name : Value) :
    Oblivious (aged older) (fetchScript missing name) :=
  (aged_indistinct.fetchScript missing name).oblivious

theorem retimeFromSession_oblivious : Oblivious (aged older) retimeFromSession :=
  aged_indistinct.retimeFromSession.oblivious

end Stage

/-- No command reads the log. -/
theorem Command.perform_oblivious (cmd : Script.Command) :
    Oblivious (Stage.aged older) (perform cmd) :=
  (perform_respects Stage.aged_indistinct cmd).oblivious

end

end VisualNovel
