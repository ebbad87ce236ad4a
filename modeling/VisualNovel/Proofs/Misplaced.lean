import VisualNovel.Engine.Hosts
import VisualNovel.Proofs.Emissions
import VisualNovel.Proofs.HostCalls
import VisualNovel.Proofs.Oblivious
import VisualNovel.Proofs.Reachable

/-!
# Misplaced calls

A call of the host is *misplaced* if the engine does not wait for it: a report of an effect that is
not running, a choice without a menu, time that passes without a line. Such a call changes nothing
but the log, and nobody hears of it.

The engine writes its log and never reads it (`HostCall.run_oblivious`). So a run with misplaced
calls put in anywhere does what the run without them does (`misplaced_calls_harmless`).
-/

namespace VisualNovel

open Script

variable {σ : Type}

/-- No collaborator looks at what `f` changes. -/
structure Collaborators.Heedless (f : Engine σ → Engine σ) (c : Collaborators σ) : Prop where
  prepare : ∀ scene, Oblivious f (c.prepare scene)
  apply : ∀ i, Oblivious f (c.apply i)
  showError : ∀ text, Oblivious f (c.showError text)
  deliver : ∀ id event, Oblivious f (c.deliver id event)
  systemCall : ∀ args, Oblivious f (c.systemCall args)
  finished : Oblivious f c.finished

namespace Engine

/-- The engine with older lines in front of its log, and told otherwise whether it is in the middle
of a step. -/
def veiled (older : List Note) (inStep : Bool → Bool) (e : Engine σ) : Engine σ :=
  { e with stage := e.stage.aged older, stepping := inStep e.stepping }

/-- The engine with older lines in front of its log. -/
def aged (older : List Note) : Engine σ → Engine σ :=
  veiled older id

/-- The engine with older lines in front of its log, and told otherwise whether it is in the middle
of a step and whether it is strict. -/
def guised (older : List Note) (inStep severity : Bool → Bool) (e : Engine σ) : Engine σ :=
  { e with stage := e.stage.aged older, stepping := inStep e.stepping, strict := severity e.strict }

theorem guised_nil (inStep severity : Bool → Bool) (e : Engine σ) :
    e.guised [] inStep severity =
      { e with stepping := inStep e.stepping, strict := severity e.strict } := by
  simp [guised, Stage.aged, Disk.aged, Tape.aged]

section
variable {c : Collaborators σ} {older : List Note} {inStep severity : Bool → Bool}

/-! ## What a line of a story needs -/

theorem note_oblivious (level : Level) (text : String) :
    Oblivious (guised older inStep severity) (note level text : Play σ Unit) :=
  .modify fun _ => rfl

theorem completeBeat_oblivious :
    Oblivious (guised older inStep severity) (completeBeat : Play σ Unit) :=
  .modify fun _ => rfl

theorem onStage_oblivious {α : Type} {act : Action Stage α}
    (h : Oblivious (Stage.aged older) act) :
    Oblivious (guised older inStep severity) (onStage act : Play σ α) :=
  .onPart (fun _ => rfl) (fun _ _ => rfl) h

theorem onDisk_oblivious {α : Type} {act : Attempt Disk α} (h : Oblivious (Disk.aged older) act) :
    Oblivious (guised older inStep severity) (onDisk act : Play σ α) :=
  .attempt (fun _ => rfl) (fun _ _ => rfl) h

theorem timing_oblivious {α : Type} {act : Attempt TimedText α} :
    Oblivious (guised older inStep severity) (Action.attempt timedTextPlace act : Play σ α) :=
  .attempt (fun _ => rfl) (fun _ _ => rfl) .id

theorem emit_oblivious (hc : c.Heedless (guised older inStep severity)) (event : Event) :
    Oblivious (guised older inStep severity) (emit c event) := by
  refine fun e => Prod.ext rfl (emit_keeps_both
    (R := fun e e' => e' = e.guised older inStep severity) rfl ?same ?bus ?deliver ?note rfl)
  case same =>
    rintro e _ rfl
    rfl
  case bus =>
    rintro f e _ rfl
    rfl
  case deliver =>
    rintro id e _ rfl
    have hcall : (c.deliver id event).perform (e.guised older inStep severity) = _ :=
      hc.deliver id event e
    rw [hcall]
    exact ⟨rfl, rfl⟩
  case note =>
    rintro text e _ rfl
    rfl

theorem send_oblivious (hc : c.Heedless (guised older inStep severity)) (kind : IntentKind)
    (payload : Table String Value) :
    Oblivious (guised older inStep severity) (send c kind payload) :=
  hc.apply _

theorem setMode_oblivious (hc : c.Heedless (guised older inStep severity)) (mode : Mode) :
    Oblivious (guised older inStep severity) (setMode c mode) :=
  .get_bind (fun _ => rfl) fun _ =>
    .ite (Oblivious.bind (.modify fun _ => rfl) fun _ => emit_oblivious hc _) .pure

theorem enterLoading_oblivious (hc : c.Heedless (guised older inStep severity)) :
    Oblivious (guised older inStep severity) (enterLoading c) :=
  (setMode_oblivious hc _).bind fun _ => .get_bind (fun _ => rfl) fun _ =>
    (emit_oblivious hc _).bind fun _ => .get_bind (fun _ => rfl) fun _ => hc.prepare _

theorem finish_oblivious (hc : c.Heedless (guised older inStep severity)) :
    Oblivious (guised older inStep severity) (finish c) := by
  unfold finish
  refine .get_bind (fun _ => rfl) fun e => .ite .pure ?_
  refine Oblivious.bind (.modify fun _ => rfl) fun _ => ?_
  refine Oblivious.bind (.modify fun _ => rfl) fun _ => ?_
  refine (setMode_oblivious hc _).bind fun _ => .get_bind (fun _ => rfl) fun _ => ?_
  exact (emit_oblivious hc _).bind fun _ => hc.finished

/-- Ends the session with an error and does not pass it on; whether the session had not ended. -/
def failing (c : Collaborators σ) (error : StoryError) : Play σ Bool := do
  if (← get).finished then return false
  modify fun e => { e with error := some error }
  note .error s!"session ended: {error.text}"
  emit c (.failed error)
  c.showError error.text
  finish c
  return true

/-- Only an error that has ended the session is passed on. -/
theorem fail_eq (c : Collaborators σ) (error : StoryError) : fail c error = (do
    if ← failing c error then
      if (← get).strict then throw (.story error)) := by
  unfold fail failing
  rw [bind_assoc]
  congr 1
  funext e
  cases e.finished <;> simp

theorem failing_oblivious (hc : c.Heedless (guised older inStep severity)) (error : StoryError) :
    Oblivious (guised older inStep severity) (failing c error) := by
  unfold failing
  refine .get_bind (fun _ => rfl) fun e => .ite .pure ?_
  refine Oblivious.bind (.modify fun _ => rfl) fun _ => (note_oblivious _ _).bind fun _ => ?_
  refine (emit_oblivious hc _).bind fun _ => (hc.showError _).bind fun _ => ?_
  exact (finish_oblivious hc).bind fun _ => .pure

theorem fail_oblivious (hc : c.Heedless (guised older inStep id)) (error : StoryError) :
    Oblivious (guised older inStep id) (fail c error) := by
  rw [fail_eq]
  exact (failing_oblivious hc error).bind fun _ =>
    .ite (.get_bind (fun _ => rfl) fun _ => .ite .throw .pure) .pure

theorem display_oblivious (hc : c.Heedless (guised older inStep severity)) (text speaker : Value)
    (wait : Bool) : Oblivious (guised older inStep severity) (display c text speaker wait) := by
  unfold display
  refine .get_bind (fun _ => rfl) fun e => Oblivious.bind (.modify fun _ => rfl) fun _ => ?_
  refine Oblivious.bind (.modify fun _ => rfl) fun _ => (emit_oblivious hc _).bind fun _ => ?_
  refine .ite (Oblivious.bind ?_ fun _ => send_oblivious hc _ _)
    (Oblivious.pure.bind fun _ => send_oblivious hc _ _)
  exact timing_oblivious.bind fun _ => Oblivious.bind (.modify fun _ => rfl) fun _ =>
    .get_bind (fun _ => rfl) fun _ => .ofMishap

theorem present_oblivious (hc : c.Heedless (guised older inStep severity))
    (options : List ChoiceOption) (line : Value) :
    Oblivious (guised older inStep severity) (present c options line) := by
  unfold present
  refine Oblivious.bind (.modify fun _ => rfl) fun _ => ?_
  refine Oblivious.bind (.modify fun _ => rfl) fun _ => (setMode_oblivious hc _).bind fun _ => ?_
  have hmenu : Oblivious (guised older inStep severity) (do
      let o := (← get).session.overrides
      let texts := options.map ChoiceOption.text
      emit c (.choicesShown texts)
      send c .showChoices [("options", .list texts),
        ("offset", .list [o.choiceboxOffsetX, o.choiceboxOffsetY])]) :=
    .get_bind (fun _ => rfl) fun _ => (emit_oblivious hc _).bind fun _ => send_oblivious hc _ _
  cases line with
  | null => exact hmenu
  | _ => exact (display_oblivious hc _ _ _).bind fun _ => hmenu

theorem hold_oblivious (hc : c.Heedless (guised older inStep severity)) (kind : IntentKind)
    (payload : Table String Value) :
    Oblivious (guised older inStep severity) (hold c kind payload) :=
  Oblivious.bind (.modify fun _ => rfl) fun _ => (setMode_oblivious hc _).bind fun _ =>
    .get_bind (fun _ => rfl) fun _ => hc.apply _

theorem settle_oblivious (hc : c.Heedless (guised older inStep severity)) (o : Outcome) :
    Oblivious (guised older inStep severity) (settle c o) := by
  cases o with
  | proceed intents =>
    exact (Oblivious.forM fun i => hc.apply _).bind fun _ => completeBeat_oblivious
  | stay => exact .pure
  | hold kind payload => exact hold_oblivious hc kind payload
  | ask options line => exact present_oblivious hc options line
  | call args => exact (hc.systemCall args).bind fun _ => completeBeat_oblivious

theorem execute_oblivious (hc : c.Heedless (guised older inStep severity)) (cmd : Script.Command) :
    Oblivious (guised older inStep severity) (execute c cmd) := by
  have hrest : Oblivious (guised older inStep severity) (do
      emit c (.commandRun cmd.kind.keyword cmd.args cmd.line)
      settle c (← onStage (Command.perform cmd))) :=
    (emit_oblivious hc _).bind fun _ =>
      (onStage_oblivious (Command.perform_oblivious cmd)).bind fun o => settle_oblivious hc o
  exact .ite (.get_bind (fun _ => rfl) fun _ => Oblivious.throw.bind fun _ => hrest) hrest

theorem playBeats_oblivious (hc : c.Heedless (guised older inStep severity)) (turns budget : Nat) :
    Oblivious (guised older inStep severity) (playBeats c turns budget) := by
  fun_induction playBeats c turns budget with
  | case1 => exact .pure
  | case2 turns budget ih₁ ih₂ =>
    refine .get_bind (fun _ => rfl) fun e => .ite .pure ?_
    cases e.cursor.current with
    | none => exact finish_oblivious hc
    | some beat =>
      cases beat with
      | dialogue d => exact (display_oblivious hc _ _ _).bind fun _ => ih₁
      | command cmd =>
        cases budget with
        | zero => exact .throw
        | succ budget => exact (execute_oblivious hc cmd).bind fun _ => ih₂ budget

theorem orFail_oblivious (hc : c.Heedless (guised older inStep id)) {act : Play σ Unit}
    (h : Oblivious (guised older inStep id) act) :
    Oblivious (guised older inStep id) (orFail c act) := by
  refine h.outcome.bind fun r => ?_
  rcases r with (error | m) | _
  · exact fail_oblivious hc error
  · exact .ofExcept
  · exact .ofExcept

theorem restore_oblivious (hc : c.Heedless (guised older inStep severity)) (t : Snapshot) :
    Oblivious (guised older inStep severity) (restore c t) := by
  unfold restore
  refine (onStage_oblivious ?_).bind fun script => Oblivious.ofStory.bind fun cursor => ?_
  · exact .get_bind (fun _ => rfl) fun _ => .ite .pure (Stage.fetchScript_oblivious _ _)
  · refine Oblivious.bind (.modify fun _ => rfl) fun _ => ?_
    refine Oblivious.bind (.modify fun _ => rfl) fun _ => ?_
    refine Oblivious.bind (.modify fun _ => rfl) fun _ => ?_
    refine Oblivious.bind (.modify fun _ => rfl) fun _ => ?_
    exact (onStage_oblivious Stage.retimeFromSession_oblivious).bind fun _ =>
      enterLoading_oblivious hc

theorem withStore_oblivious {k : SaveStore → Play σ Bool}
    (h : ∀ store, Oblivious (guised older inStep severity) (k store)) :
    Oblivious (guised older inStep severity) (do
      match ← requireStore with
      | none => return false
      | some store => k store) := by
  have hstore : Oblivious (guised older inStep severity)
      (requireStore : Play σ (Option SaveStore)) :=
    .get_bind (fun _ => rfl) fun _ => .ite ((note_oblivious _ _).bind fun _ => .pure) .pure
  refine hstore.bind fun found => ?_
  cases found with
  | none => exact .pure
  | some store => exact h store

theorem saveTo_oblivious {write : String → Value → Attempt Disk (Bool × SaveStore)}
    (h : ∀ now payload, Oblivious (Disk.aged older) (write now payload)) :
    Oblivious (guised older inStep severity) (saveTo write : Play σ Bool) :=
  .get_bind (fun _ => rfl) fun _ => Oblivious.ofMishap.bind fun _ =>
    (onDisk_oblivious (h _ _)).bind fun _ => Oblivious.bind (.modify fun _ => rfl) fun _ => .pure

theorem loadFrom_oblivious (hc : c.Heedless (guised older inStep severity))
    {read : Attempt Disk (Option Value)} (h : Oblivious (Disk.aged older) read) :
    Oblivious (guised older inStep severity) (loadFrom c read) :=
  (onDisk_oblivious h).bind fun _ => .ite .pure (Oblivious.ofMishap.bind fun _ =>
    (restore_oblivious hc _).bind fun _ => .pure)

theorem saveToSlot_oblivious (slot : Value) :
    Oblivious (guised older inStep severity) (saveToSlot slot : Play σ Bool) :=
  withStore_oblivious fun store => Oblivious.ofMishap.bind fun _ =>
    saveTo_oblivious fun _ _ => store.writeSlot_oblivious _ _ _

/-! ## Openings -/

theorem passLine_oblivious :
    Oblivious (guised older inStep severity) (HostCall.passLine : Play σ Bool) := by
  refine .get_bind (fun _ => rfl) fun e => .ite .pure ?_
  refine Oblivious.bind (.modify fun _ => rfl) fun _ => ?_
  exact Oblivious.bind (.modify fun _ => rfl) fun _ => completeBeat_oblivious.bind fun _ => .pure

theorem sendReveal_oblivious (hc : c.Heedless (guised older inStep severity)) :
    Oblivious (guised older inStep severity) (sendReveal c) :=
  .get_bind (fun _ => rfl) fun _ => .ite (Oblivious.bind (.modify fun _ => rfl) fun _ =>
    Oblivious.ofMishap.bind fun _ => Oblivious.ofMishap.bind fun _ => send_oblivious hc _ _) .pure

theorem endEffect_oblivious (hc : c.Heedless (guised older inStep severity))
    (id : Value) : Oblivious (guised older inStep severity) (HostCall.endEffect c id) := by
  unfold HostCall.endEffect
  refine .get_bind (fun _ => rfl) fun e => ?_
  split
  · exact (note_oblivious _ _).bind fun _ => .pure
  · have hend : Oblivious (guised older inStep severity) (do
        modify (mapSession Session.release)
        setMode c .normal
        completeBeat
        return true) :=
      Oblivious.bind (.modify fun _ => rfl) fun _ => (setMode_oblivious hc _).bind fun _ =>
        completeBeat_oblivious.bind fun _ => .pure
    refine Oblivious.bind (.modify fun _ => rfl) fun _ => .ite ?_ hend
    exact (send_oblivious hc _ _).bind fun _ => hend

theorem follow_oblivious (option : ChoiceOption) :
    Oblivious (guised older inStep severity) (follow option : Play σ Unit) := by
  unfold follow
  split
  · exact Oblivious.ofMishap.bind fun _ => Oblivious.bind (.modify fun _ => rfl) fun _ =>
      completeBeat_oblivious
  · exact onStage_oblivious (Stage.switchConversation_oblivious _)

theorem pick_oblivious (hc : c.Heedless (guised older inStep severity))
    (options : List ChoiceOption) (index : Value) :
    Oblivious (guised older inStep severity) (pick c options index) := by
  unfold pick
  refine Oblivious.ofExcept.bind fun place => ?_
  split
  · exact .pure
  · refine Oblivious.bind (.modify fun _ => rfl) fun _ => (emit_oblivious hc _).bind fun _ => ?_
    refine (send_oblivious hc _ _).bind fun _ => (follow_oblivious _).bind fun _ => ?_
    exact Oblivious.bind (.modify fun _ => rfl) fun _ => setMode_oblivious hc _

theorem takeOption_oblivious (hc : c.Heedless (guised older inStep id)) (index : Value) :
    Oblivious (guised older inStep id) (HostCall.takeOption c index) := by
  unfold HostCall.takeOption
  refine .get_bind (fun _ => rfl) fun e => ?_
  split
  · exact (note_oblivious _ _).bind fun _ => .pure
  · refine (pick_oblivious hc _ _).outcome.bind fun r => ?_
    rcases r with (error | m) | _
    · exact (fail_oblivious hc error).bind fun _ => .pure
    · exact Oblivious.ofExcept.bind fun _ => .pure
    · exact Oblivious.ofExcept.bind fun _ => .pure

end

/-! ## Calls of the host -/

section
variable {c : Collaborators σ} {older : List Note}

theorem step_oblivious (hc : c.Heedless (guised older id id)) :
    Oblivious (guised older id id) (step c) := by
  unfold step
  have hend : Oblivious (guised older id id) (do return !(← get).finished : Play σ Bool) :=
    .get_bind (fun _ => rfl) fun _ => .pure
  refine .get_bind (fun _ => rfl) fun e => .ite ?_ hend
  refine Oblivious.bind (.modify fun _ => rfl) fun _ => ?_
  refine (orFail_oblivious hc (playBeats_oblivious hc _ _)).outcome.bind fun r => ?_
  exact Oblivious.bind (.modify fun _ => rfl) fun _ => Oblivious.ofExcept.bind fun _ => hend

theorem resourcesReady_oblivious (hc : c.Heedless (guised older id id)) :
    Oblivious (guised older id id) (resourcesReady c) :=
  .get_bind (fun _ => rfl) fun _ => .ite (note_oblivious _ _)
    ((setMode_oblivious hc _).bind fun _ => (step_oblivious hc).discard)

theorem advance_oblivious (hc : c.Heedless (guised older id id)) :
    Oblivious (guised older id id) (advance c) := by
  unfold advance
  refine .get_bind (fun _ => rfl) fun e => .ite .pure ?_
  refine Oblivious.bind (.modify fun _ => rfl) fun _ => ?_
  refine Oblivious.bind (.modify fun _ => rfl) fun _ => completeBeat_oblivious.bind fun _ => ?_
  exact (step_oblivious hc).discard.bind fun _ => .pure

theorem requestAdvance_oblivious (hc : c.Heedless (guised older id id)) :
    Oblivious (guised older id id) (requestAdvance c) :=
  .get_bind (fun _ => rfl) fun _ => .ite .pure (timing_oblivious.bind fun _ =>
    .ite (advance_oblivious hc) ((sendReveal_oblivious hc).bind fun _ => .pure))

theorem tick_oblivious (hc : c.Heedless (guised older id id)) (dt : Value) :
    Oblivious (guised older id id) (tick c dt) :=
  .get_bind (fun _ => rfl) fun _ => .ite .pure (timing_oblivious.bind fun _ =>
    (sendReveal_oblivious hc).bind fun _ => .ite (advance_oblivious hc).discard .pure)

end
end Engine

/-- No call of the host reads the log, if no collaborator does. -/
theorem HostCall.run_oblivious {c : Collaborators σ} {older : List Note}
    (hc : c.Heedless (Engine.aged older)) (call : HostCall) :
    Oblivious (Engine.aged older) (call.run c) := by
  have hc : c.Heedless (Engine.guised older id id) := hc
  show Oblivious (Engine.guised older id id) (call.run c)
  have hplay : ∀ go, Oblivious (Engine.guised older id id) (playOn c go) := fun go =>
    .ite (Engine.step_oblivious hc).discard .pure
  cases call with
  | resourcesReady => exact Engine.resourcesReady_oblivious hc
  | step => exact (Engine.step_oblivious hc).discard
  | advance => exact (Engine.advance_oblivious hc).discard
  | requestAdvance => exact (Engine.requestAdvance_oblivious hc).discard
  | tick dt => exact Engine.tick_oblivious hc dt
  | choose index =>
    rw [run_eq]
    exact (Engine.takeOption_oblivious hc index).bind hplay
  | effectFinished id =>
    rw [run_eq]
    exact (Engine.endEffect_oblivious hc id).bind hplay
  | reportResourceError message =>
    exact .get_bind (fun _ => rfl) fun _ => Engine.fail_oblivious hc _
  | setFlag name value =>
    exact Oblivious.ofMishap.bind fun _ => Oblivious.ofMishap.bind fun _ => .modify fun _ => rfl
  | saveToSlot slot => exact (Engine.saveToSlot_oblivious slot).discard
  | loadFromSlot slot =>
    exact .discard (Engine.withStore_oblivious fun store => Oblivious.ofMishap.bind fun _ =>
      Engine.loadFrom_oblivious hc (store.readSlot_oblivious _))
  | quicksave =>
    exact .discard (Engine.withStore_oblivious fun store =>
      Engine.saveTo_oblivious fun _ _ => store.writeQuick_oblivious _ _)
  | quickload =>
    exact .discard (Engine.withStore_oblivious fun store =>
      Engine.loadFrom_oblivious hc store.readQuick_oblivious)
  | autosave => exact (Engine.saveToSlot_oblivious _).discard
  | restore t => exact Engine.restore_oblivious hc t

/-! ## Calls that are out of place -/

namespace HostCall

open Engine

/-- Whether the engine does not wait for the call. -/
def misplaced (e : Engine σ) : HostCall → Bool
  | resourcesReady => e.mode != .loading
  | step => !(e.mode == .normal && !e.awaiting)
  | advance | requestAdvance | tick _ => !(e.mode == .normal && e.awaiting)
  | choose _ => e.mode != .awaitingChoice
  | effectFinished id => e.mode != .effectRunning || !e.effect.any (isEffect id)
  | reportResourceError _ => e.mode == .ended
  | _ => false

/-- The call changes nothing of the engine, or adds a warning to its log. -/
def Ignored (c : Collaborators σ) (call : HostCall) (e : Engine σ) : Prop :=
  (call.run c).perform e = (.ok (), e) ∨
    ∃ text, (call.run c).perform e = (.ok (), e.mapStage (Stage.note .warning text))

/-- A call that plays nothing on and opens with a warning is ignored. -/
theorem ignored_of_note {c : Collaborators σ} {call : HostCall} {e : Engine σ} (text : String)
    (h : (call.opening c).perform e = (do note .warning text; return false).perform e) :
    call.Ignored c e := by
  refine .inr ⟨text, ?_⟩
  rw [run_eq]
  exact Action.perform_bind_ok h

/-- A call that plays nothing on and opens with nothing is ignored. -/
theorem ignored_of_nothing {c : Collaborators σ} {call : HostCall} {e : Engine σ}
    (h : (call.opening c).perform e = (.ok false, e)) : call.Ignored c e := by
  refine .inl ?_
  rw [run_eq]
  exact Action.perform_bind_ok h

theorem ignored_of_misplaced (c : Collaborators σ) {call : HostCall} {e : Engine σ}
    (h : call.misplaced e) : call.Ignored c e := by
  cases call with
  | resourcesReady =>
    refine ignored_of_note s!"resources_ready ignored in mode {e.mode.name}" ?_
    rw [opening, Action.perform_get_bind]
    simp only [misplaced] at h
    simp only [h, if_true]
  | step =>
    have hr : e.running = false := (Bool.not_eq_true' _).mp h
    refine ignored_of_nothing ?_
    rw [opening, Action.perform_get_bind, hr]
    rfl
  | advance =>
    have hline : e.showsLine = false := (Bool.not_eq_true' _).mp h
    refine ignored_of_nothing ?_
    rw [opening, passLine, Action.perform_get_bind, hline]
    rfl
  | requestAdvance =>
    have hline : e.showsLine = false := (Bool.not_eq_true' _).mp h
    refine ignored_of_nothing ?_
    rw [opening, Action.perform_get_bind, hline]
    rfl
  | tick dt =>
    have hline : e.showsLine = false := (Bool.not_eq_true' _).mp h
    refine ignored_of_nothing ?_
    rw [opening, Action.perform_get_bind, hline]
    rfl
  | choose index =>
    have hmenu : (e.menu.filter fun _ => e.mode == .awaitingChoice) = none := by
      have hmode : e.mode ≠ .awaitingChoice := by simpa [misplaced] using h
      simp [Option.filter_eq_none_iff, hmode]
    refine ignored_of_note s!"choose({index.shown}) ignored in mode {e.mode.name}" ?_
    rw [opening, takeOption, Action.perform_get_bind, hmenu]
  | effectFinished id =>
    have heffect : (e.effect.filter fun i => e.mode == .effectRunning && isEffect id i) = none := by
      have hother : e.mode ≠ .effectRunning ∨ e.effect.any (isEffect id) = false := by
        simpa [misplaced] using h
      rw [Option.filter_eq_none_iff]
      intro i hi
      rcases hother with hmode | hid
      · simp [hmode]
      · rw [hi, Option.any_some] at hid
        simp [hid]
    refine ignored_of_note s!"stale effect_finished({id.shown}) in mode {e.mode.name}" ?_
    rw [opening, endEffect, Action.perform_get_bind, heffect]
  | reportResourceError message =>
    have hended : e.finished = true := h
    refine .inl ?_
    rw [run, Engine.reportResourceError, Action.perform_get_bind, fail, Action.perform_get_bind,
      hended]
    rfl
  | _ => cases h

/-! ## Runs -/

/-- The engine after a row of calls. A call that fails undoes nothing. -/
def runAll (c : Collaborators σ) (calls : List HostCall) (e : Engine σ) : Engine σ :=
  calls.foldl (fun e call => ((call.run c).perform e).2) e

/-- The second row of calls, made from an engine on, is the first with misplaced calls put in. -/
inductive Padded (c : Collaborators σ) : Engine σ → List HostCall → List HostCall → Prop where
  | nil (e : Engine σ) : Padded c e [] []
  | keep {e : Engine σ} {calls padded : List HostCall} (call : HostCall) :
    Padded c ((call.run c).perform e).2 calls padded → Padded c e (call :: calls) (call :: padded)
  | put {e : Engine σ} {calls padded : List HostCall} (call : HostCall) : call.misplaced e →
    Padded c ((call.run c).perform e).2 calls padded → Padded c e calls (call :: padded)

end HostCall

namespace Engine

/-- The engine with an empty log. -/
def unlogged (e : Engine σ) : Engine σ :=
  e.mapStage fun s => { s with disk := { s.disk with log := .empty } }

theorem aged_unlogged (e : Engine σ) : e.unlogged.aged e.stage.disk.log.newestFirst = e :=
  rfl

theorem unlogged_aged (older : List Note) (e : Engine σ) : (e.aged older).unlogged = e.unlogged :=
  rfl

end Engine

/-- An action that does not read the log does the same whatever the log is. -/
theorem Oblivious.unlogged {α : Type} {act : Play σ α}
    (h : ∀ older, Oblivious (Engine.aged older) act) {e e' : Engine σ}
    (hsame : e.unlogged = e'.unlogged) :
    (act.perform e).1 = (act.perform e').1 ∧
      (act.perform e).2.unlogged = (act.perform e').2.unlogged := by
  have hrun : ∀ e : Engine σ, (act.perform e).1 = (act.perform e.unlogged).1 ∧
      (act.perform e).2.unlogged = (act.perform e.unlogged).2.unlogged := by
    intro e
    have hperform := (h e.stage.disk.log.newestFirst).perform e.unlogged
    rw [Engine.aged_unlogged] at hperform
    rw [hperform]
    exact ⟨rfl, Engine.unlogged_aged _ _⟩
  rw [(hrun e).1, (hrun e').1, (hrun e).2, (hrun e').2, hsame]
  exact ⟨rfl, rfl⟩

namespace HostCall

theorem Ignored.unlogged {c : Collaborators σ} {call : HostCall} {e : Engine σ}
    (h : call.Ignored c e) : ((call.run c).perform e).2.unlogged = e.unlogged := by
  rcases h with h | ⟨text, h⟩
  · rw [h]
  · rw [h]
    rfl

/-- Two engines that differ in their logs only differ in their logs only after the two runs. -/
theorem Padded.unlogged {c : Collaborators σ} (hc : ∀ older, c.Heedless (Engine.aged older))
    {e e' : Engine σ} {calls padded : List HostCall} (h : Padded c e' calls padded)
    (hsame : e.unlogged = e'.unlogged) :
    (runAll c calls e).unlogged = (runAll c padded e').unlogged := by
  induction h generalizing e with
  | nil => exact hsame
  | keep call _ ih =>
    exact ih (Oblivious.unlogged (fun older => run_oblivious (hc older) call) hsame).2
  | put call hmisplaced _ ih =>
    exact ih (hsame.trans (ignored_of_misplaced c hmisplaced).unlogged.symm)

/-- Calls that the engine does not wait for are harmless. Such a call changes nothing but the log,
and no collaborator hears of it. If no collaborator reads the log, a run with such calls put in
anywhere ends where the run without them ends, up to the log: the collaborators remember the same
intents and events. -/
theorem misplaced_calls_harmless (c : Collaborators σ) :
    (∀ (e : Engine σ) (call : HostCall), call.misplaced e → call.Ignored c e) ∧
      ((∀ older, c.Heedless (Engine.aged older)) → ∀ (e : Engine σ) (calls padded : List HostCall),
        Padded c e calls padded → (runAll c padded e).unlogged = (runAll c calls e).unlogged) :=
  ⟨fun _ _ h => ignored_of_misplaced c h, fun hc _ _ _ h => (h.unlogged hc rfl).symm⟩

end HostCall

/-! ## Collaborators that do not read the log -/

namespace Collaborators

section
variable {older : List Note} {inStep severity : Bool → Bool}

theorem recording_guised : recording.Heedless (Engine.guised older inStep severity) where
  prepare _ := .pure
  apply _ := .modify fun _ => rfl
  showError _ := .pure
  deliver _ _ := .pure
  systemCall _ := .pure
  finished := .pure

theorem answerCall_oblivious (args : List Value) :
    Oblivious (Engine.guised older inStep severity)
      (Engine.answerCall ({} : SystemCalls Empty) nofun args : Play σ Unit) := by
  refine .discard ?_
  unfold SystemCalls.send
  split
  · exact .pure
  · dsimp only
    split
    · exact (Engine.note_oblivious _ _).bind fun _ => .pure
    · refine Oblivious.bind ?_ fun _ => .pure
      refine (Engine.saveToSlot_oblivious _).bind fun ok => ?_
      exact .ite ((Engine.note_oblivious _ _).bind fun _ => .pure) .pure
    · exact (Engine.note_oblivious _ _).bind fun _ => .pure
    · next id _ => exact id.elim

theorem outside_oblivious {τ α : Type} (place : Place σ τ) (act : Attempt τ α) :
    Oblivious (Engine.guised older inStep severity)
      (Action.attempt (Engine.outsidePlace.inside place) act : Play σ α) :=
  .attempt (fun _ => rfl) (fun _ _ => rfl) .id

theorem console_guised (place : Place σ Console) :
    (console place).Heedless (Engine.guised older inStep severity) where
  prepare _ := .modify fun _ => rfl
  apply i := by
    cases i with
    | none => exact .throw
    | some i => exact outside_oblivious place (Console.apply i)
  showError _ := .modify fun _ => rfl
  deliver _ _ := .pure
  systemCall args := answerCall_oblivious args
  finished := .pure

end

theorem recording_heedless (older : List Note) (inStep : Bool → Bool) :
    recording.Heedless (Engine.veiled older inStep) :=
  (recording_guised : recording.Heedless (Engine.guised older inStep id))

end Collaborators

namespace HostCall

/-- Early, late and repeated reports do not change how a fade goes. -/
theorem misplaced_calls_harmless_fading : ∃ e : Engine (List Intent),
    Engine.started .recording Engine.fading [] = some e ∧ advance.Ignored .recording e ∧
    (runAll .recording [advance, resourcesReady, effectFinished (.int 2), effectFinished (.int 1),
        effectFinished (.int 1), advance] e).unlogged =
      (runAll .recording [resourcesReady, effectFinished (.int 1), advance] e).unlogged ∧
    (runAll .recording [resourcesReady, effectFinished (.int 1),
      advance] e).outside.length = 3 := by
  have hfacts : (Engine.started .recording Engine.fading []).map (fun e =>
      (advance.misplaced e,
        (effectFinished (.int 2)).misplaced (runAll .recording [advance, resourcesReady] e),
        (effectFinished (.int 1)).misplaced (runAll .recording [advance, resourcesReady,
          effectFinished (.int 2), effectFinished (.int 1)] e),
        (runAll .recording [resourcesReady, effectFinished (.int 1), advance] e).outside.length)) =
      some (true, true, true, 3) := by
    decide +kernel
  obtain ⟨e, he, hfacts⟩ := Option.map_eq_some_iff.1 hfacts
  simp only [Prod.mk.injEq] at hfacts
  obtain ⟨hearly, hwrong, hlate, hsent⟩ := hfacts
  refine ⟨e, he, (misplaced_calls_harmless .recording).1 e advance hearly, ?_, hsent⟩
  refine (misplaced_calls_harmless .recording).2
    (fun older => Collaborators.recording_heedless older id) e _ _ ?_
  exact .put _ hearly (.keep _ (.put _ hwrong (.keep _ (.put _ hlate (.keep _ (.nil _))))))

end HostCall

end VisualNovel
