import VisualNovel.Proofs.Chronicle
import VisualNovel.Proofs.Respects
import VisualNovel.Proofs.Strictness

/-!
# Flags that were never set

A flag that was never set reads as zero. So a story cannot tell it from one that was set to zero:
commands and choices read flags by their value, and what they write to a flag depends on values
only. `Engine.ReadsAs` relates engines that differ in nothing but the tables of their flags, of
which every flag reads the same. All calls of a host but those that save respect it
(`HostCall.answer_respects`), so two such engines answer alike, and show the same to collaborators
that do not look at the tables (`Engine.ReadsAs.unset_unseen`).
-/

namespace VisualNovel

open Script

variable {σ : Type}

/-! ## Tables of flags -/

/-- Every flag reads the same. -/
def Flags.ReadsAs (f g : Flags) : Prop :=
  ∀ name, g.get name = f.get name

theorem Flags.get_set (f : Flags) (name other : String) (n : Int) :
    (f.set name n).get other = if name = other then n else f.get other := by
  simp only [get, set, Table.get?_put, beq_iff_eq]
  split <;> rfl

theorem Flags.ReadsAs.set {f g : Flags} (h : f.ReadsAs g) (name : String) (n : Int) :
    (f.set name n).ReadsAs (g.set name n) := by
  intro other
  rw [get_set, get_set, h other]

/-- Nothing but the table of the flags differs, and every flag reads the same. -/
def Snapshot.ReadsAs (t u : Snapshot) : Prop :=
  ∃ flags, t.flags.ReadsAs flags ∧ u = { t with flags }

/-! ## Stages -/

/-- The stage with other flags, and another snapshot set aside. -/
def Stage.withFlags (flags : Flags) (safe : Option Snapshot) (s : Stage) : Stage :=
  s.mapSession fun x => { x with flags, safe }

/-- Nothing but the tables of the flags differs, those of the session and of the snapshot that is
set aside, and every flag reads the same. -/
def Stage.ReadsAs (s t : Stage) : Prop :=
  ∃ flags safe, s.session.flags.ReadsAs flags ∧ Option.Rel Snapshot.ReadsAs s.session.safe safe ∧
    t = s.withFlags flags safe

namespace Stage.ReadsAs

theorem indistinct : Stage.Indistinct Stage.ReadsAs where
  config := by rintro s _ ⟨_, _, -, -, rfl⟩; rfl
  script := by rintro s _ ⟨_, _, -, -, rfl⟩; rfl
  cursor := by rintro s _ ⟨_, _, -, -, rfl⟩; rfl
  flags := by rintro s _ ⟨_, _, hflags, -, rfl⟩; exact hflags
  overrides := by rintro s _ ⟨_, _, -, -, rfl⟩; rfl
  scene := by rintro s _ ⟨_, _, -, -, rfl⟩; rfl
  choiceSets := by rintro s _ ⟨_, _, -, -, rfl⟩; rfl
  timedText := by rintro s _ ⟨_, _, -, -, rfl⟩; rfl
  dice := by rintro s _ ⟨_, _, -, -, rfl⟩; rfl
  library := by rintro s _ ⟨_, _, -, -, rfl⟩; rfl
  files := by rintro s _ ⟨_, _, -, -, rfl⟩; rfl
  setScript := by rintro s _ _ ⟨_, _, hflags, hsafe, rfl⟩; exact ⟨_, _, hflags, hsafe, rfl⟩
  setCursor := by rintro s _ _ ⟨_, _, hflags, hsafe, rfl⟩; exact ⟨_, _, hflags, hsafe, rfl⟩
  setScriptName := by rintro s _ _ ⟨_, _, hflags, hsafe, rfl⟩; exact ⟨_, _, hflags, hsafe, rfl⟩
  setFlag := by
    rintro s _ name n ⟨_, _, hflags, hsafe, rfl⟩
    exact ⟨_, _, hflags.set name n, hsafe, rfl⟩
  setOverrides := by rintro s _ _ ⟨_, _, hflags, hsafe, rfl⟩; exact ⟨_, _, hflags, hsafe, rfl⟩
  setScene := by rintro s _ _ ⟨_, _, hflags, hsafe, rfl⟩; exact ⟨_, _, hflags, hsafe, rfl⟩
  setChoiceSets := by rintro s _ _ ⟨_, _, hflags, hsafe, rfl⟩; exact ⟨_, _, hflags, hsafe, rfl⟩
  setTimedText := by rintro s _ _ ⟨_, _, hflags, hsafe, rfl⟩; exact ⟨_, _, hflags, hsafe, rfl⟩
  setDice := by rintro s _ _ ⟨_, _, hflags, hsafe, rfl⟩; exact ⟨_, _, hflags, hsafe, rfl⟩
  setLibrary := by rintro s _ _ ⟨_, _, hflags, hsafe, rfl⟩; exact ⟨_, _, hflags, hsafe, rfl⟩
  capture := by
    rintro s _ ⟨flags, _, hflags, -, rfl⟩
    exact ⟨flags, some { s.session.live with flags }, hflags, .some ⟨flags, hflags, rfl⟩, rfl⟩
  note := by rintro s _ _ _ ⟨_, _, hflags, hsafe, rfl⟩; exact ⟨_, _, hflags, hsafe, rfl⟩

end Stage.ReadsAs

/-! ## Engines -/

namespace Engine

/-- The engine with other flags, and another snapshot set aside. -/
def withFlags (flags : Flags) (safe : Option Snapshot) (e : Engine σ) : Engine σ :=
  e.mapStage (Stage.withFlags flags safe)

/-- Nothing but the tables of the flags differs, and every flag reads the same. -/
def ReadsAs (e e' : Engine σ) : Prop :=
  ∃ flags safe, e.session.flags.ReadsAs flags ∧ Option.Rel Snapshot.ReadsAs e.session.safe safe ∧
    e' = e.withFlags flags safe

/-- A flag that reads as zero may be set to zero. -/
theorem ReadsAs.of_zero {e : Engine σ} {name : String} (h : e.session.flags.get name = 0) :
    e.ReadsAs (e.mapStage (Stage.mapFlags fun f => f.set name 0)) := by
  refine ⟨e.session.flags.set name 0, e.session.safe, fun other => ?_, ?_, rfl⟩
  · rw [Flags.get_set]
    split
    · next hname => rw [← hname, h]
    · rfl
  · cases e.session.safe with
    | none => exact .none
    | some t => exact .some ⟨t.flags, fun _ => rfl, rfl⟩

end Engine

/-- The collaborators do not look at the tables of the flags. -/
structure Collaborators.Unseeing (c : Collaborators σ) : Prop where
  prepare : ∀ scene, Respects Engine.ReadsAs (c.prepare scene)
  apply : ∀ i, Respects Engine.ReadsAs (c.apply i)
  showError : ∀ text, Respects Engine.ReadsAs (c.showError text)
  deliver : ∀ id event, Respects Engine.ReadsAs (c.deliver id event)
  systemCall : ∀ args, Respects Engine.ReadsAs (c.systemCall args)
  finished : Respects Engine.ReadsAs c.finished

namespace Engine

variable {α : Type}

/-- What follows a look at the engine may look at all but the tables of the flags. -/
theorem read_respects {k : Engine σ → Play σ α}
    (hsame : ∀ e flags safe, k (e.withFlags flags safe) = k e)
    (hk : ∀ e, Respects ReadsAs (k e)) : Respects ReadsAs (get >>= k) := by
  refine .get_bind ?_ hk
  rintro e _ ⟨flags, safe, -, -, rfl⟩
  exact hsame e flags safe

/-- All but the tables of the flags may be changed. -/
theorem change_respects {g : Engine σ → Engine σ}
    (hg : ∀ e flags safe, g (e.withFlags flags safe) = (g e).withFlags flags safe) :
    Respects ReadsAs (modify g : Play σ PUnit) := by
  refine .modify ?_
  rintro e _ ⟨flags, safe, hreads, hrel, rfl⟩
  have hkept : g e = (g e).withFlags e.session.flags e.session.safe :=
    hg e e.session.flags e.session.safe
  refine ⟨flags, safe, ?_, ?_, hg e flags safe⟩
  · rw [hkept]
    exact hreads
  · rw [hkept]
    exact hrel

theorem note_respects (level : Level) (text : String) :
    Respects ReadsAs (note level text : Play σ Unit) :=
  change_respects fun _ _ _ => rfl

theorem completeBeat_respects : Respects ReadsAs (completeBeat : Play σ Unit) :=
  change_respects fun _ _ _ => rfl

theorem release_respects :
    Respects ReadsAs (modify (mapSession Session.release) : Play σ PUnit) := by
  refine .modify ?_
  rintro e _ ⟨flags, safe, hreads, -, rfl⟩
  exact ⟨flags, none, hreads, .none, rfl⟩

theorem onStage_respects {act : Action Stage α} (h : Respects Stage.ReadsAs act) :
    Respects ReadsAs (onStage act : Play σ α) := by
  refine .onPart ?_ ?_ h
  · rintro e _ ⟨flags, safe, hreads, hrel, rfl⟩
    exact ⟨flags, safe, hreads, hrel, rfl⟩
  · rintro e _ s _ ⟨_, _, -, -, rfl⟩ ⟨flags, safe, hreads, hrel, rfl⟩
    exact ⟨flags, safe, hreads, hrel, rfl⟩

theorem onDisk_respects (act : Attempt Disk α) : Respects ReadsAs (onDisk act : Play σ α) := by
  refine .attempt ?_ ?_
  · rintro e _ ⟨_, _, -, -, rfl⟩
    rfl
  · rintro e _ disk ⟨flags, safe, hreads, hrel, rfl⟩
    exact ⟨flags, safe, hreads, hrel, rfl⟩

theorem timing_respects (act : Attempt TimedText α) :
    Respects ReadsAs (Action.attempt timedTextPlace act : Play σ α) := by
  refine .attempt ?_ ?_
  · rintro e _ ⟨_, _, -, -, rfl⟩
    rfl
  · rintro e _ timedText ⟨flags, safe, hreads, hrel, rfl⟩
    exact ⟨flags, safe, hreads, hrel, rfl⟩

section
variable {c : Collaborators σ} (hc : c.Unseeing)
include hc

/-! ## What a line of a story needs -/

theorem emit_respects (event : Event) : Respects ReadsAs (emit c event) := by
  refine fun e e' h => ⟨rfl, emit_keeps_both rfl ?same ?bus ?deliver ?note h⟩
  case same =>
    rintro e _ ⟨_, _, -, -, rfl⟩
    rfl
  case bus =>
    exact fun f e e' h => (change_respects (g := busPlace.update f) (fun _ _ _ => rfl) e e' h).2
  case deliver =>
    intro id e e' h
    obtain ⟨hresult, hstate⟩ := hc.deliver id event e e' h
    exact ⟨congrArg Except.isOk hresult.symm, hstate⟩
  case note => exact fun text e e' h => (note_respects _ _ _ _ h).2

theorem setMode_respects (mode : Mode) : Respects ReadsAs (setMode c mode) :=
  read_respects (fun _ _ _ => rfl) fun _ =>
    .ite (Respects.bind (change_respects fun _ _ _ => rfl) fun _ =>
      emit_respects hc _) .pure

theorem enterLoading_respects : Respects ReadsAs (enterLoading c) :=
  (setMode_respects hc _).bind fun _ => read_respects (fun _ _ _ => rfl) fun _ =>
    (emit_respects hc _).bind fun _ => read_respects (fun _ _ _ => rfl) fun _ => hc.prepare _

theorem finish_respects : Respects ReadsAs (finish c) := by
  unfold finish
  refine read_respects (fun _ _ _ => rfl) fun e => .ite .pure ?_
  refine Respects.bind (change_respects fun _ _ _ => rfl) fun _ => ?_
  refine Respects.bind ?_ fun _ => ?_
  · refine .modify ?_
    rintro e _ ⟨flags, safe, hreads, -, rfl⟩
    exact ⟨flags, none, hreads, .none, rfl⟩
  · refine (setMode_respects hc _).bind fun _ => read_respects (fun _ _ _ => rfl) fun _ => ?_
    exact (emit_respects hc _).bind fun _ => hc.finished

theorem fail_respects (error : StoryError) : Respects ReadsAs (fail c error) := by
  unfold fail
  refine read_respects (fun _ _ _ => rfl) fun e => .ite .pure ?_
  refine Respects.bind (change_respects fun _ _ _ => rfl) fun _ => ?_
  refine (note_respects _ _).bind fun _ => (emit_respects hc _).bind fun _ => ?_
  refine (hc.showError _).bind fun _ => (finish_respects hc).bind fun _ => ?_
  exact read_respects (fun _ _ _ => rfl) fun _ => .ite .throw .pure

theorem display_respects (text speaker : Value) (wait : Bool) :
    Respects ReadsAs (display c text speaker wait) := by
  unfold display
  refine read_respects (fun _ _ _ => rfl) fun e => ?_
  refine Respects.bind (change_respects fun _ _ _ => rfl) fun _ => ?_
  refine Respects.bind (change_respects fun _ _ _ => rfl) fun _ => ?_
  refine (emit_respects hc _).bind fun _ => .ite (Respects.bind ?_ fun _ => hc.apply _)
    (Respects.pure.bind fun _ => hc.apply _)
  refine (timing_respects _).bind fun _ => ?_
  refine Respects.bind (change_respects fun _ _ _ => rfl) fun _ => ?_
  exact read_respects (fun _ _ _ => rfl) fun _ => .ofMishap

theorem present_respects (options : List ChoiceOption) (line : Value) :
    Respects ReadsAs (present c options line) := by
  unfold present
  have hcapture : Respects ReadsAs (modify (mapSession Session.capture) : Play σ PUnit) := by
    refine .modify ?_
    rintro e _ ⟨flags, safe, hreads, hrel, rfl⟩
    exact ⟨flags, some { e.session.live with flags }, hreads, .some ⟨flags, hreads, rfl⟩, rfl⟩
  have hmenu : Respects ReadsAs (do
      let o := (← get).session.overrides
      let texts := options.map ChoiceOption.text
      emit c (.choicesShown texts)
      send c .showChoices [("options", .list texts),
        ("offset", .list [o.choiceboxOffsetX, o.choiceboxOffsetY])]) :=
    read_respects (fun _ _ _ => rfl) fun _ => (emit_respects hc _).bind fun _ => hc.apply _
  refine hcapture.bind fun _ => ?_
  refine Respects.bind (change_respects fun _ _ _ => rfl) fun _ => ?_
  refine (setMode_respects hc _).bind fun _ => ?_
  cases line with
  | null => exact hmenu
  | _ => exact (display_respects hc _ _ _).bind fun _ => hmenu

theorem hold_respects (kind : IntentKind) (payload : Table String Value) :
    Respects ReadsAs (hold c kind payload) :=
  Respects.bind (change_respects fun _ _ _ => rfl) fun _ =>
    (setMode_respects hc _).bind fun _ => read_respects (fun _ _ _ => rfl) fun _ => hc.apply _

theorem settle_respects (o : Outcome) : Respects ReadsAs (settle c o) := by
  cases o with
  | proceed intents =>
    exact (Respects.forM fun i => hc.apply _).bind fun _ => completeBeat_respects
  | stay => exact .pure
  | hold kind payload => exact hold_respects hc kind payload
  | ask options line => exact present_respects hc options line
  | call args => exact (hc.systemCall args).bind fun _ => completeBeat_respects

theorem execute_respects (cmd : Script.Command) : Respects ReadsAs (execute c cmd) := by
  have hrest : Respects ReadsAs (do
      emit c (.commandRun cmd.kind.keyword cmd.args cmd.line)
      settle c (← onStage (Command.perform cmd))) :=
    (emit_respects hc _).bind fun _ =>
      (onStage_respects (Command.perform_respects Stage.ReadsAs.indistinct cmd)).bind fun o =>
        settle_respects hc o
  exact .ite (read_respects (fun _ _ _ => rfl) fun _ => Respects.throw.bind fun _ => hrest) hrest

theorem playBeats_respects (turns budget : Nat) : Respects ReadsAs (playBeats c turns budget) := by
  fun_induction playBeats c turns budget with
  | case1 => exact .pure
  | case2 turns budget ih₁ ih₂ =>
    refine read_respects (fun _ _ _ => rfl) fun e => .ite .pure ?_
    cases e.cursor.current with
    | none => exact finish_respects hc
    | some beat =>
      cases beat with
      | dialogue d => exact (display_respects hc _ _ _).bind fun _ => ih₁
      | command cmd =>
        cases budget with
        | zero => exact .throw
        | succ budget => exact (execute_respects hc cmd).bind fun _ => ih₂ budget

theorem orFail_respects {act : Play σ Unit} (h : Respects ReadsAs act) :
    Respects ReadsAs (orFail c act) := by
  refine h.outcome.bind fun r => ?_
  rcases r with (error | m) | _
  · exact fail_respects hc error
  · exact .ofExcept
  · exact .ofExcept

theorem step_respects : Respects ReadsAs (step c) := by
  unfold step
  have hend : Respects ReadsAs (do return !(← get).finished : Play σ Bool) :=
    read_respects (fun _ _ _ => rfl) fun _ => .pure
  refine read_respects (fun _ _ _ => rfl) fun e => .ite ?_ hend
  refine Respects.bind (change_respects fun _ _ _ => rfl) fun _ => ?_
  refine (orFail_respects hc (playBeats_respects hc _ _)).outcome.bind fun r => ?_
  refine Respects.bind (change_respects fun _ _ _ => rfl) fun _ => ?_
  exact Respects.ofExcept.bind fun _ => hend

/-! ## Calls of the host -/

theorem advance_respects : Respects ReadsAs (advance c) := by
  unfold advance
  refine read_respects (fun _ _ _ => rfl) fun e => .ite .pure ?_
  refine Respects.bind (change_respects fun _ _ _ => rfl) fun _ => ?_
  refine Respects.bind (change_respects fun _ _ _ => rfl) fun _ => ?_
  exact completeBeat_respects.bind fun _ => (step_respects hc).discard.bind fun _ => .pure

theorem sendReveal_respects : Respects ReadsAs (sendReveal c) :=
  read_respects (fun _ _ _ => rfl) fun _ => .ite
    (Respects.bind (change_respects fun _ _ _ => rfl) fun _ =>
      Respects.ofMishap.bind fun _ => Respects.ofMishap.bind fun _ => hc.apply _) .pure

theorem requestAdvance_respects : Respects ReadsAs (requestAdvance c) :=
  read_respects (fun _ _ _ => rfl) fun _ => .ite .pure ((timing_respects _).bind fun _ =>
    .ite (advance_respects hc) ((sendReveal_respects hc).bind fun _ => .pure))

theorem tick_respects (dt : Value) : Respects ReadsAs (tick c dt) :=
  read_respects (fun _ _ _ => rfl) fun _ => .ite .pure ((timing_respects _).bind fun _ =>
    (sendReveal_respects hc).bind fun _ => .ite (advance_respects hc).discard .pure)

theorem effectFinished_respects (id : Value) : Respects ReadsAs (effectFinished c id) := by
  unfold effectFinished
  refine read_respects (fun _ _ _ => rfl) fun e => ?_
  split
  · exact (note_respects _ _).bind fun _ => .pure
  · have hend : Respects ReadsAs (do
        modify (mapSession Session.release)
        setMode c .normal
        completeBeat
        discard (step c)
        return true) :=
      release_respects.bind fun _ => (setMode_respects hc _).bind fun _ =>
        completeBeat_respects.bind fun _ => (step_respects hc).discard.bind fun _ => .pure
    refine Respects.bind (change_respects fun _ _ _ => rfl) fun _ => ?_
    exact .ite ((hc.apply _).bind fun _ => hend) hend

omit hc in
/-- An option that adds to a flag adds to what the flag reads as. -/
theorem follow_respects (option : ChoiceOption) :
    Respects ReadsAs (follow option : Play σ Unit) := by
  unfold follow
  split
  · refine Respects.ofMishap.bind fun delta => Respects.bind ?_ fun _ => completeBeat_respects
    refine .modify ?_
    rintro e _ ⟨flags, safe, hreads, hrel, rfl⟩
    refine ⟨_, safe, hreads.set option.flag.shown _, hrel, ?_⟩
    have hsame : flags.get option.flag.shown = e.stage.session.flags.get option.flag.shown :=
      hreads _
    rw [← hsame]
    rfl
  · exact onStage_respects (Stage.ReadsAs.indistinct.switchConversation _)

theorem pick_respects (options : List ChoiceOption) (index : Value) :
    Respects ReadsAs (pick c options index) := by
  unfold pick
  refine Respects.ofExcept.bind fun place => ?_
  split
  · exact .pure
  · refine Respects.bind (change_respects fun _ _ _ => rfl) fun _ => ?_
    refine (emit_respects hc _).bind fun _ => (hc.apply _).bind fun _ => ?_
    exact (follow_respects _).bind fun _ => release_respects.bind fun _ => setMode_respects hc _

theorem choose_respects (index : Value) : Respects ReadsAs (choose c index) := by
  unfold choose
  refine read_respects (fun _ _ _ => rfl) fun e => ?_
  split
  · exact (note_respects _ _).bind fun _ => .pure
  · refine (pick_respects hc _ _).outcome.bind fun r => ?_
    have hend : ∀ r, Respects ReadsAs (do
        Action.ofExcept r
        discard (step c)
        return true : Play σ Bool) := fun r =>
      Respects.ofExcept.bind fun _ => (step_respects hc).discard.bind fun _ => .pure
    rcases r with (error | m) | _
    · exact (fail_respects hc error).bind fun _ => .pure
    · exact hend _
    · exact hend _

omit hc in
theorem setFlag_respects (name value : Value) :
    Respects ReadsAs (setFlag name value : Play σ Unit) := by
  refine Respects.ofMishap.bind fun n => Respects.ofMishap.bind fun name => .modify ?_
  rintro e _ ⟨flags, safe, hreads, hrel, rfl⟩
  exact ⟨_, safe, hreads.set name n, hrel, rfl⟩

/-- What is restored has the flags of the snapshot. -/
theorem restore_respects (t : Snapshot) : Respects ReadsAs (restore c t) := by
  unfold restore
  refine (onStage_respects ?_).bind fun script => Respects.ofStory.bind fun cursor => ?_
  · exact .get_bind (fun _ _ h => by
      obtain ⟨_, _, -, -, rfl⟩ := h
      rfl) fun _ => .ite .pure (Stage.ReadsAs.indistinct.fetchScript _ _)
  · refine Respects.bind (change_respects fun _ _ _ => rfl) fun _ => Respects.bind ?_ fun _ => ?_
    · refine .modify ?_
      rintro e _ ⟨flags, safe, -, -, rfl⟩
      exact ⟨t.flags, none, fun _ => rfl, .none, rfl⟩
    · refine Respects.bind (change_respects fun _ _ _ => rfl) fun _ => ?_
      refine Respects.bind (change_respects fun _ _ _ => rfl) fun _ => ?_
      exact (onStage_respects Stage.ReadsAs.indistinct.retimeFromSession).bind fun _ =>
        enterLoading_respects hc

theorem loadFrom_respects (read : Attempt Disk (Option Value)) :
    Respects ReadsAs (loadFrom c read) :=
  (onDisk_respects read).bind fun _ => .ite .pure (Respects.ofMishap.bind fun _ =>
    (restore_respects hc _).bind fun _ => .pure)

omit hc in
theorem withStore_respects {k : SaveStore → Play σ Bool} (h : ∀ store, Respects ReadsAs (k store)) :
    Respects ReadsAs (do
      match ← requireStore with
      | none => return false
      | some store => k store) := by
  have hstore : Respects ReadsAs (requireStore : Play σ (Option SaveStore)) :=
    read_respects (fun _ _ _ => rfl) fun _ => .ite ((note_respects _ _).bind fun _ => .pure) .pure
  refine hstore.bind fun found => ?_
  cases found with
  | none => exact .pure
  | some store => exact h store

end

end Engine

/-! ## Runs -/

namespace HostCall

open Engine

variable {c : Collaborators σ} (hc : c.Unseeing)
include hc

/-- A call that saves nothing does not see the tables of the flags. -/
theorem answer_respects {call : HostCall} (hcall : call.saves = false) :
    Respects ReadsAs (call.answer c) := by
  cases call with
  | resourcesReady =>
    exact (read_respects (fun _ _ _ => rfl) fun _ => .ite (note_respects _ _)
      ((setMode_respects hc _).bind fun _ => (step_respects hc).discard)).bind fun _ => .pure
  | step => exact (step_respects hc).map
  | advance => exact (advance_respects hc).map
  | requestAdvance => exact (requestAdvance_respects hc).map
  | tick dt => exact (tick_respects hc dt).bind fun _ => .pure
  | choose index => exact (choose_respects hc index).map
  | effectFinished id => exact (effectFinished_respects hc id).map
  | reportResourceError message =>
    exact (read_respects (fun _ _ _ => rfl) fun _ => fail_respects hc _).bind fun _ => .pure
  | setFlag name value => exact (setFlag_respects name value).bind fun _ => .pure
  | loadFromSlot slot =>
    exact (withStore_respects fun store => Respects.ofMishap.bind fun _ =>
      loadFrom_respects hc _).map
  | quickload => exact (withStore_respects fun store => loadFrom_respects hc _).map
  | restore t => exact (restore_respects hc t).bind fun _ => .pure
  | saveToSlot _ | quicksave | autosave => cases hcall

omit hc in
/-- What the calls of a row answer, each with the faults that it stops with. -/
def answers (c : Collaborators σ) : List HostCall → Engine σ → List (Except Fault (Option Bool))
  | [], _ => []
  | call :: calls, e =>
    ((call.answer c).perform e).1 :: answers c calls ((call.answer c).perform e).2

theorem runAll_readsAs {calls : List HostCall} (hcalls : ∀ call ∈ calls, call.saves = false)
    {e e' : Engine σ} (h : e.ReadsAs e') :
    answers c calls e' = answers c calls e ∧ (runAll c calls e).ReadsAs (runAll c calls e') := by
  induction calls generalizing e e' with
  | nil => exact ⟨rfl, h⟩
  | cons call calls ih =>
    obtain ⟨hcall, hcalls⟩ := List.forall_mem_cons.1 hcalls
    obtain ⟨hanswer, hstate⟩ := answer_respects hc hcall e e' h
    obtain ⟨hanswers, hlast⟩ := ih hcalls hstate
    rw [runAll_cons, runAll_cons]
    exact ⟨congrArg₂ List.cons hanswer.symm hanswers, hlast⟩

end HostCall

namespace Engine

open HostCall

/-- Flags that were never set cannot be told from flags that are zero. Two engines that differ in
nothing but such flags answer a row of calls in the same way, with the same faults. Their
collaborators have seen and heard the same, so every intent and event was the same. Mode, error,
place, scene, settings and menus are the same, and every flag reads the same. -/
theorem ReadsAs.unset_unseen {c : Collaborators σ} (hc : c.Unseeing) {e e' : Engine σ}
    (h : e.ReadsAs e') {calls : List HostCall} (hcalls : ∀ call ∈ calls, call.saves = false) :
    answers c calls e' = answers c calls e ∧
    (runAll c calls e').outside = (runAll c calls e).outside ∧
    (runAll c calls e').mode = (runAll c calls e).mode ∧
    (runAll c calls e').error = (runAll c calls e).error ∧
    (runAll c calls e').cursor = (runAll c calls e).cursor ∧
    (runAll c calls e').session.scene = (runAll c calls e).session.scene ∧
    (runAll c calls e').session.overrides = (runAll c calls e).session.overrides ∧
    (runAll c calls e').session.choiceSets = (runAll c calls e).session.choiceSets ∧
    (∀ name, (runAll c calls e').session.flags.get name =
      (runAll c calls e).session.flags.get name) ∧
    (runAll c calls e).ReadsAs (runAll c calls e') := by
  obtain ⟨hanswers, flags, safe, hreads, hrel, hsame⟩ := runAll_readsAs hc hcalls h
  rw [hsame]
  exact ⟨hanswers, rfl, rfl, rfl, rfl, rfl, rfl, rfl, hreads, flags, safe, hreads, hrel, rfl⟩

end Engine

theorem Collaborators.chronicling_unseeing : chronicling.Unseeing where
  prepare _ := .pure
  apply _ := Engine.change_respects fun _ _ _ => rfl
  showError _ := .pure
  deliver _ _ := Engine.change_respects fun _ _ _ => rfl
  systemCall _ := .pure
  finished := Engine.change_respects fun _ _ _ => rfl

namespace Engine

/-- A story that greets who was never met, and counts. -/
def meeting : Setup :=
  .telling "meeting" [".isflag:met:0", "Hello", ".modifyflag:met:1", "Again"]

/-- Whether the flag was never set or set to zero, both engines tell of the same greeting. -/
theorem ReadsAs.unset_unseen_meeting : ∃ e e' : Engine (List Notice),
    Chronicle.heard meeting [] = some e ∧ e.session.flags.values = [] ∧
    e'.session.flags.values = [("met", 0)] ∧
    (HostCall.runAll .chronicling [.resourcesReady, .advance] e').outside =
      (HostCall.runAll .chronicling [.resourcesReady, .advance] e).outside ∧
    (HostCall.runAll .chronicling [.resourcesReady, .advance] e).outside.length = 7 := by
  have hplays : (Chronicle.heard meeting []).map (fun e => (e.session.flags.values,
      (HostCall.runAll .chronicling [.resourcesReady, .advance] e).outside.length)) =
      some ([], 7) := by
    decide +kernel
  obtain ⟨e, he, hplays⟩ := Option.map_eq_some_iff.1 hplays
  obtain ⟨hflags, hlength⟩ := Prod.mk.inj hplays
  have hunset : e.session.flags = {} := congrArg Flags.mk hflags
  have hzero : e.session.flags.get "met" = 0 := by
    rw [hunset]
    rfl
  have hcalls : ∀ call ∈ [HostCall.resourcesReady, .advance], call.saves = false := by
    simp [HostCall.saves]
  obtain ⟨-, houtside, -⟩ :=
    (ReadsAs.of_zero hzero).unset_unseen Collaborators.chronicling_unseeing hcalls
  refine ⟨e, _, he, hflags, ?_, houtside, hlength⟩
  show (e.session.flags.set "met" 0).values = _
  rw [hunset]
  rfl

end Engine

end VisualNovel
