import Mathlib.Order.Defs.Unbundled
import VisualNovel.Proofs.Misplaced
import VisualNovel.Proofs.Outcomes

/-!
# What actions keep track of

`Tracks R act` says that however an action ends, it leaves a state that stands in the relation `R`
to the one that it found. If `R` is reflexive and transitive, a row of actions tracks it if each
does.

Most operations of an engine touch little of what a relation between engines is about. If a relation
is *lenient* and the collaborators track it, so do all operations but those that start an effect.
-/

namespace VisualNovel

open Script

variable {σ τ υ α β : Type}

/-- What holds of the state that an action leaves, however it ends. -/
theorem Ends.state_iff {act : Action τ α} {s : τ} {P : τ → Prop} :
    Ends act s (fun _ t => P t) (fun _ t => P t) ↔ P (act.perform s).2 := by
  rw [Ends.iff_perform]
  rcases act.perform s with ⟨_ | _, t⟩ <;> simp

/-- However the action ends, the state that it leaves is related to the one that it found. -/
def Tracks (R : τ → τ → Prop) (act : Action τ α) : Prop :=
  ∀ s, R s (act.perform s).2

namespace Tracks

variable {R : τ → τ → Prop}

theorem mono {S : τ → τ → Prop} {act : Action τ α} (h : Tracks R act)
    (hRS : ∀ {s t}, R s t → S s t) : Tracks S act :=
  fun s => hRS (h s)

theorem iff_ends {act : Action τ α} :
    Tracks R act ↔ ∀ s, Ends act s (fun _ t => R s t) fun _ t => R s t :=
  forall_congr' fun _ => Ends.state_iff.symm

protected theorem modify {f : τ → τ} (h : ∀ s, R s (f s)) : Tracks R (modify f) :=
  h

theorem get_bind {f : τ → Action τ α} (h : ∀ s, R s ((f s).perform s).2) : Tracks R (get >>= f) :=
  h

theorem outcome {act : Action τ α} (h : Tracks R act) : Tracks R (Action.outcome act) :=
  h

/-- What is known of a part of the state can be used. -/
theorem onPart_of {S : υ → υ → Prop} {place : Place τ υ} {act : Action υ α} (hact : Tracks S act)
    (h : ∀ s t, S (place.get s) t → R s (place.set t s)) : Tracks R (Action.onPart place act) := by
  intro s
  rw [Action.perform_onPart]
  exact h s _ (hact _)

theorem onPart {place : Place τ υ} {act : Action υ α} (h : ∀ s t, R s (place.set t s)) :
    Tracks R (Action.onPart place act) :=
  onPart_of (S := fun _ _ => True) (fun _ => trivial) fun s t _ => h s t

theorem attempt {place : Place τ υ} {act : Attempt υ α} (h : ∀ s t, R s (place.set t s)) :
    Tracks R (Action.attempt place act) := by
  intro s
  have hrun : ((Action.attempt place act).perform s).2 =
      place.set (act.perform (place.get s)).2 s := rfl
  rw [hrun]
  exact h s _

variable [IsPreorder τ R]

protected theorem pure {a : α} : Tracks R (pure a) :=
  fun s => refl_of R s

theorem ofExcept {r : Except Fault α} : Tracks R (Action.ofExcept r : Action τ α) :=
  fun s => refl_of R s

theorem ofMishap {r : Except Mishap α} : Tracks R (Action.ofMishap r : Action τ α) :=
  fun s => refl_of R s

theorem ofStory {r : Except StoryError α} : Tracks R (Action.ofStory r : Action τ α) :=
  fun s => refl_of R s

/-- What follows an action may rely on how the action has ended. -/
theorem bind_at {x : Action τ α} {k : α → Action τ β} {s : τ} (hx : R s (x.perform s).2)
    (hk : ∀ a t, x.perform s = (.ok a, t) → R t ((k a).perform t).2) :
    R s ((x >>= k).perform s).2 := by
  rcases hrun : x.perform s with ⟨f | a, t⟩
  · rw [hrun] at hx
    rw [Action.perform_bind_error hrun]
    exact hx
  · rw [hrun] at hx
    rw [Action.perform_bind_ok hrun]
    exact trans_of R hx (hk a t hrun)

theorem bind_of {x : Action τ α} {k : α → Action τ β} (hx : Tracks R x)
    (hk : ∀ s a t, x.perform s = (.ok a, t) → R t ((k a).perform t).2) : Tracks R (x >>= k) :=
  fun s => bind_at (hx s) (hk s)

protected theorem bind {x : Action τ α} {k : α → Action τ β} (hx : Tracks R x)
    (hk : ∀ a, Tracks R (k a)) : Tracks R (x >>= k) :=
  hx.bind_of fun _ a t _ => hk a t

protected theorem map {x : Action τ α} {g : α → β} (hx : Tracks R x) : Tracks R (g <$> x) := by
  rw [map_eq_pure_bind]
  exact hx.bind fun _ => .pure

protected theorem discard {x : Action τ α} (hx : Tracks R x) : Tracks R (discard x) :=
  hx.map

protected theorem forM {xs : List α} {k : α → Action τ PUnit} (hk : ∀ a ∈ xs, Tracks R (k a)) :
    Tracks R (xs.forM k) := by
  induction xs with
  | nil => exact .pure
  | cons x xs ih =>
    exact (hk x (by simp)).bind fun _ => ih fun a ha => hk a (by simp [ha])

end Tracks

/-- What follows an action depends on how the action ends alone. -/
theorem Action.perform_bind_congr {x y : Action τ α} {s t : τ} (h : x.perform s = y.perform t)
    (k : α → Action τ β) : (x >>= k).perform s = (y >>= k).perform t := by
  rcases hrun : y.perform t with ⟨f | a, t'⟩
  · rw [perform_bind_error (h.trans hrun), perform_bind_error hrun]
  · rw [perform_bind_ok (h.trans hrun), perform_bind_ok hrun]

/-- Whether a call saves the session. -/
def HostCall.saves : HostCall → Bool
  | saveToSlot _ | quicksave | autosave => true
  | _ => false

/-- Without a store, that there is none is logged. -/
theorem Engine.withStore_ends {k : SaveStore → Play σ Bool} {e : Engine σ}
    {Q : Bool → Engine σ → Prop} {E : Fault → Engine σ → Prop}
    (hnone : e.saves = none → Q false (e.mapStage (Stage.note .warning "no save store attached")))
    (hsome : ∀ store, e.saves = some store → Ends (k store) e Q E) :
    Ends (do
      match ← requireStore with
      | none => return false
      | some store => k store) e Q E := by
  unfold requireStore
  rw [bind_assoc]
  refine Ends.bind_iff.2 (Ends.get_iff.2 ?_)
  cases hsaves : e.saves with
  | none =>
    simp only [Option.isNone_none, if_true, bind_assoc, pure_bind]
    exact Ends.bind_iff.2 (hnone hsaves)
  | some store => exact hsome store hsaves

/-! ## Lenient relations -/

/-- A relation between engines that has nothing to do with files and saves. -/
structure Incidental (R : Engine σ → Engine σ → Prop) : Prop where
  disk : ∀ e d, R e (Engine.diskPlace.set d e)
  saves : ∀ e saves, R e { e with saves }

/-- A relation between engines that has nothing to do with files, saves and listeners. -/
structure Unconcerned (R : Engine σ → Engine σ → Prop) : Prop extends Incidental R where
  bus : ∀ e bus, R e { e with bus }

/-- A relation between engines that has nothing to do with the log and with listeners. -/
structure Unheard (R : Engine σ → Engine σ → Prop) : Prop where
  noted : ∀ e level text, R e (e.mapStage (Stage.note level text))
  bus : ∀ e bus, R e { e with bus }

/-- A relation between engines that the small changes of play do not break: a line is logged, time
passes, a beat is completed, a flag gets a value, the session is set aside or released, and an
option leads to another conversation. Of an effect it may only be about that it is running; the
effect may be dropped. -/
structure Mild (R : Engine σ → Engine σ → Prop) : Prop where
  noted : ∀ e level text, R e (e.mapStage (Stage.note level text))
  timed : ∀ e t, t.fullText = e.stage.timedText.fullText → R e (Engine.timedTextPlace.set t e)
  completed : ∀ e, R e (e.mapStage (Stage.mapCursor fun cursor => cursor.advance))
  flagged : ∀ e name n, R e (e.mapStage (Stage.mapFlags fun f => f.set name n))
  captured : ∀ e, R e (e.mapSession Session.capture)
  released : ∀ e, R e (e.mapSession Session.release)
  conversation : ∀ name, Tracks R (Engine.onStage (Stage.switchConversation name))
  awaiting : ∀ e awaiting, R e { e with awaiting }
  menu : ∀ e menu, R e { e with menu }
  dropped : ∀ e, R e { e with effect := none }

/-- A mild relation that has nothing to do with listeners and the mode either. The error may be
forgotten. -/
structure Calm (R : Engine σ → Engine σ → Prop) : Prop extends Mild R where
  bus : ∀ e bus, R e { e with bus }
  mode : ∀ e mode, R e { e with mode }
  cleared : ∀ e, R e { e with error := none }

/-- A relation between engines that has nothing to do with what they play and wait for, except that
an effect may be running; the effect may be dropped. -/
structure Easy (R : Engine σ → Engine σ → Prop) : Prop extends Incidental R where
  stage : ∀ e s, R e { e with stage := s }
  awaiting : ∀ e awaiting, R e { e with awaiting }
  menu : ∀ e menu, R e { e with menu }
  backlog : ∀ e backlog, R e { e with backlog }
  dropped : ∀ e, R e { e with effect := none }

/-- An easy relation that has nothing to do with listeners and the mode either. The error may be
forgotten. -/
structure Lenient (R : Engine σ → Engine σ → Prop) : Prop extends Unconcerned R, Easy R where
  mode : ∀ e mode, R e { e with mode }
  cleared : ∀ e, R e { e with error := none }

theorem Incidental.noted {R : Engine σ → Engine σ → Prop} (hR : Incidental R) (e : Engine σ)
    (level : Level) (text : String) : R e (e.mapStage (Stage.note level text)) :=
  hR.disk e _

theorem Unconcerned.unheard {R : Engine σ → Engine σ → Prop} (hR : Unconcerned R) : Unheard R :=
  ⟨hR.toIncidental.noted, hR.bus⟩

theorem Easy.mild {R : Engine σ → Engine σ → Prop} (hR : Easy R) : Mild R where
  noted := hR.toIncidental.noted
  timed e _ _ := hR.stage e _
  completed e := hR.stage e _
  flagged e _ _ := hR.stage e _
  captured e := hR.stage e _
  released e := hR.stage e _
  conversation _ := .onPart fun e s => hR.stage e s
  awaiting := hR.awaiting
  menu := hR.menu
  dropped := hR.dropped

theorem Calm.unheard {R : Engine σ → Engine σ → Prop} (hR : Calm R) : Unheard R :=
  ⟨hR.noted, hR.bus⟩

theorem Lenient.calm {R : Engine σ → Engine σ → Prop} (hR : Lenient R) : Calm R :=
  { hR.toEasy.mild with bus := hR.bus, mode := hR.mode, cleared := hR.cleared }

/-- The collaborators track a relation, as long as they are shown nothing of a scene. -/
structure Collaborators.Backstage (c : Collaborators σ) (R : Engine σ → Engine σ → Prop) :
    Prop where
  apply : ∀ i : Intent, i.effectId = none → i.kind.scenic = false → Tracks R (c.apply (some i))
  showError : ∀ text, Tracks R (c.showError text)
  deliver : ∀ id event, Tracks R (c.deliver id event)
  systemCall : ∀ args, Tracks R (c.systemCall args)
  finished : Tracks R c.finished

/-- The collaborators track a relation, as long as they are sent no effect. -/
structure Collaborators.Track (c : Collaborators σ) (R : Engine σ → Engine σ → Prop) : Prop where
  prepare : ∀ scene, Tracks R (c.prepare scene)
  apply : ∀ i : Intent, i.effectId = none → Tracks R (c.apply (some i))
  applyNothing : Tracks R (c.apply none)
  showError : ∀ text, Tracks R (c.showError text)
  deliver : ∀ id event, Tracks R (c.deliver id event)
  systemCall : ∀ args, Tracks R (c.systemCall args)
  finished : Tracks R c.finished

theorem Collaborators.Track.backstage {c : Collaborators σ} {R : Engine σ → Engine σ → Prop}
    (h : c.Track R) : c.Backstage R where
  apply i hi _ := h.apply i hi
  showError := h.showError
  deliver := h.deliver
  systemCall := h.systemCall
  finished := h.finished

/-- The collaborators, but sending nothing to them does nothing. -/
def Collaborators.filled (c : Collaborators σ) : Collaborators σ :=
  { c with
    apply := fun
      | some i => c.apply (some i)
      | none => pure () }

theorem Collaborators.Track.filled {c : Collaborators σ} {R : Engine σ → Engine σ → Prop}
    [IsPreorder (Engine σ) R] (h : c.Track R) : c.filled.Track R :=
  { h with applyNothing := .pure }

theorem Collaborators.Track.mono {c : Collaborators σ} {R S : Engine σ → Engine σ → Prop}
    (h : c.Track R) (hRS : ∀ {e e'}, R e e' → S e e') : c.Track S where
  prepare scene := (h.prepare scene).mono hRS
  apply i hi := (h.apply i hi).mono hRS
  applyNothing := h.applyNothing.mono hRS
  showError text := (h.showError text).mono hRS
  deliver id event := (h.deliver id event).mono hRS
  systemCall args := (h.systemCall args).mono hRS
  finished := h.finished.mono hRS

namespace Engine

section
variable {R : Engine σ → Engine σ → Prop} (hR : Incidental R)
include hR

/-! ## Files, saves and listeners -/

theorem note_tracks (level : Level) (text : String) : Tracks R (note level text) :=
  .modify fun e => hR.disk e _

theorem onDisk_tracks (act : Attempt Disk α) : Tracks R (onDisk act) :=
  .attempt fun e d => hR.disk e d

variable [IsPreorder (Engine σ) R]

theorem requireStore_tracks : Tracks R (requireStore : Play σ (Option SaveStore)) := by
  refine .get_bind fun e => ?_
  dsimp only
  split
  · exact (note_tracks hR _ _).bind (fun _ => .pure) e
  · exact refl_of R e

theorem withStore_tracks {k : SaveStore → Play σ Bool} (hk : ∀ store, Tracks R (k store)) :
    Tracks R (do
      match ← requireStore with
      | none => return false
      | some store => k store) := by
  refine (requireStore_tracks hR).bind fun saves => ?_
  cases saves with
  | none => exact .pure
  | some store => exact hk store

theorem saveTo_tracks (write : String → Value → Attempt Disk (Bool × SaveStore)) :
    Tracks R (saveTo write : Play σ Bool) := by
  refine .get_bind fun e => ?_
  refine Tracks.bind .ofMishap (fun _ => (onDisk_tracks hR _).bind fun r => ?_) e
  exact .bind (.modify fun e => hR.saves e _) fun _ => .pure

theorem saveToSlot_tracks (slot : Value) : Tracks R (saveToSlot slot : Play σ Bool) :=
  withStore_tracks hR fun _ => .bind .ofMishap fun _ => saveTo_tracks hR _

/-- Saving tracks a relation that has nothing to do with files and saves. -/
theorem saves_tracks (c : Collaborators σ) {call : HostCall} (hcall : call.saves) :
    Tracks R (call.run c) := by
  cases call with
  | saveToSlot slot => exact (saveToSlot_tracks hR slot).discard
  | quicksave => exact (withStore_tracks hR fun _ => saveTo_tracks hR _).discard
  | autosave => exact (saveToSlot_tracks hR _).discard
  | _ => cases hcall

end

/-- The calls that every script knows save to the slot of the autosave and write notes, and do
nothing else. -/
theorem answerCall_tracks_of {R : Engine σ → Engine σ → Prop} [IsPreorder (Engine σ) R]
    (hnote : ∀ level text, Tracks R (note level text : Play σ Unit))
    (hsave : Tracks R (autosave : Play σ Bool)) (args : List Value) :
    Tracks R (answerCall ({} : SystemCalls Empty) nofun args) := by
  refine .discard ?_
  unfold SystemCalls.send
  split
  · exact .pure
  · dsimp only
    split
    · exact (hnote _ _).bind fun _ => .pure
    · refine Tracks.bind ?_ fun _ => .pure
      refine hsave.bind fun ok => ?_
      split
      · exact (hnote _ _).bind fun _ => .pure
      · exact .pure
    · exact (hnote _ _).bind fun _ => .pure
    · next id _ => exact id.elim

theorem answerCall_tracks {R : Engine σ → Engine σ → Prop} [IsPreorder (Engine σ) R]
    (h : Incidental R) (args : List Value) :
    Tracks R (answerCall ({} : SystemCalls Empty) nofun args) :=
  answerCall_tracks_of (note_tracks h) (saveToSlot_tracks h _) args

section
variable {R : Engine σ → Engine σ → Prop} (hR : Unheard R) [IsPreorder (Engine σ) R]
  {c : Collaborators σ} {event : Event} (hc : ∀ id, Tracks R (c.deliver id event))
include hR hc

/-- An event is told to listeners that track the relation when they hear of it. -/
theorem emit_tracks_of : Tracks R (emit c event) := fun e =>
  emit_keeps (fun f e₁ h₁ => trans_of R h₁ (hR.bus e₁ (f e₁.bus)))
    (fun id e₁ h₁ => trans_of R h₁ (hc id e₁))
    (fun _ e₁ h₁ => trans_of R h₁ (hR.noted e₁ _ _)) (refl_of R e)

end

theorem emit_tracks {R : Engine σ → Engine σ → Prop} (hR : Unheard R) [IsPreorder (Engine σ) R]
    {c : Collaborators σ} (hc : ∀ id event, Tracks R (c.deliver id event)) (event : Event) :
    Tracks R (emit c event) :=
  emit_tracks_of hR fun id => hc id event

/-- Going into a mode never fails. The engine is in the mode before listeners hear of it. -/
theorem setMode_tracks_from {R : Engine σ → Engine σ → Prop} (hR : Unheard R)
    [IsPreorder (Engine σ) R] {c : Collaborators σ} (hc : ∀ id event, Tracks R (c.deliver id event))
    (mode : Mode) (e : Engine σ) :
    Ends (setMode c mode) e (fun _ e' => R { e with mode } e') fun _ _ => False := by
  refine Ends.bind_iff.2 (Ends.get_iff.2 ?_)
  dsimp only
  split
  · refine Ends.bind_iff.2 (Ends.modify_iff.2 (ends_lift.2 ?_))
    exact emit_tracks hR hc (.modeChanged e.mode mode) _
  · next hsame =>
    have hmode : e.mode = mode := by simpa using hsame
    rw [← hmode]
    exact refl_of R e

section
variable {R : Engine σ → Engine σ → Prop} (hR : Easy R)
include hR

theorem onStage_tracks (act : Action Stage α) : Tracks R (onStage act) :=
  .onPart fun e s => hR.stage e s

theorem timing_tracks (act : Attempt TimedText α) : Tracks R (Action.attempt timedTextPlace act) :=
  .attempt fun e _ => hR.stage e _

end

section
variable {R : Engine σ → Engine σ → Prop} [IsPreorder (Engine σ) R] {c : Collaborators σ}

/-- Beats track a relation if the end of a story does, and the commands and the lines at the cursor.
-/
theorem playBeats_tracks_of (hfinish : Tracks R (finish c))
    (hdisplay : ∀ e d, e.running → e.cursor.current = some (.dialogue d) →
      R e ((display c d.text d.speaker true).perform e).2)
    (hexecute : ∀ e cmd, e.running → e.cursor.current = some (.command cmd) →
      R e ((execute c cmd).perform e).2)
    (turns budget : Nat) : Tracks R (playBeats c turns budget) := by
  fun_induction playBeats c turns budget with
  | case1 => exact .pure
  | case2 turns budget ih₁ ih₂ =>
    refine .get_bind fun e => ?_
    cases hr : e.running with
    | false => exact refl_of R e
    | true =>
      simp only [Bool.not_true, Bool.false_eq_true, if_false]
      cases hbeat : e.cursor.current with
      | none => exact hfinish e
      | some beat =>
        cases beat with
        | dialogue d => exact Tracks.bind_at (hdisplay e d hr hbeat) fun _ e' _ => ih₁ e'
        | command cmd =>
          cases budget with
          | zero => exact refl_of R e
          | succ budget =>
            exact Tracks.bind_at (hexecute e cmd hr hbeat) fun _ e' _ => ih₂ budget e'

/-- An error of the story that ends the session is no way out of what is tracked. -/
theorem orFail_tracks (hfail : ∀ error, Tracks R (fail c error)) {act : Play σ Unit}
    (hact : Tracks R act) : Tracks R (orFail c act) := by
  refine hact.outcome.bind fun r => ?_
  rcases r with (error | m) | ⟨⟩
  · exact hfail error
  · exact .ofExcept
  · exact .ofExcept

/-- The failure of a session tracks a relation if its end does and if the error is none of its
concern. -/
theorem fail_tracks_of (hR : Unheard R) (hdeliver : ∀ id event, Tracks R (c.deliver id event))
    (hshow : ∀ text, Tracks R (c.showError text)) (herror : ∀ e error, R e { e with error })
    (hfinish : Tracks R (finish c)) (error : StoryError) : Tracks R (fail c error) := by
  refine .get_bind fun e => ?_
  cases e.finished with
  | true => exact refl_of R e
  | false =>
    refine Tracks.bind (.modify fun e => herror e _) (fun _ => ?_) e
    refine .bind (.modify fun e => hR.noted e _ _) fun _ => ?_
    refine (emit_tracks hR hdeliver _).bind fun _ => (hshow _).bind fun _ => ?_
    refine hfinish.bind fun _ => .get_bind fun e => ?_
    cases e.strict with
    | true => exact refl_of R e
    | false => exact refl_of R e

/-- An option is taken if it is picked, and an error ends the session. -/
theorem takeOption_tracks_of {index : Value} (hnote : ∀ level text, Tracks R (note level text))
    (hpick : ∀ options, Tracks R (pick c options index))
    (hfail : ∀ error, Tracks R (fail c error)) : Tracks R (HostCall.takeOption c index) := by
  refine .get_bind fun e => ?_
  split
  · exact (hnote _ _).bind (fun _ => .pure) e
  · refine Tracks.bind (hpick _).outcome (fun r => ?_) e
    rcases r with (error | m) | ⟨⟩
    · exact (hfail error).bind fun _ => .pure
    · exact Tracks.bind .ofExcept fun _ => .pure
    · exact Tracks.bind .ofExcept fun _ => .pure

/-- What is displayed is written to the backlog and to the scene, and listeners hear of it before
the renderer does. -/
theorem display_tracks_of {text : Value} {wait : Bool}
    (hsend : ∀ payload, Tracks R (send c .showText payload))
    (hemit : ∀ who, Tracks R (emit c (.textShown who text)))
    (hbacklog : ∀ e backlog, R e { e with backlog })
    (hspeech : ∀ e : Engine σ, R e (e.mapStage (Stage.mapScene fun s => { s with speech := text })))
    (happear : wait → Tracks R (display.appear text : Play σ Value)) (speaker : Value) :
    Tracks R (display c text speaker wait) := by
  refine .get_bind fun e => ?_
  refine Tracks.bind (.modify fun e => hbacklog e _) (fun _ => ?_) e
  refine .bind (.modify hspeech) fun _ => (hemit _).bind fun _ => ?_
  cases wait with
  | true => exact (happear rfl).bind fun _ => hsend _
  | false => exact hsend _

/-- The options are there and the mode says that they are waited for before the menu is shown. -/
theorem present_tracks_from {options : List ChoiceOption} {line : Value}
    (hsend : ∀ payload, Tracks R (send c .showChoices payload))
    (hemit : ∀ texts, Tracks R (emit c (.choicesShown texts)))
    (hdisplay : Tracks R (display c line .null false)) (e : Engine σ) :
    R ((setMode c .awaitingChoice).perform
        { e.mapSession Session.capture with menu := some options }).2
      ((present c options line).perform e).2 := by
  have hshow : Tracks R (do
      let o := (← get).session.overrides
      let texts := options.map ChoiceOption.text
      emit c (.choicesShown texts)
      send c .showChoices [("options", .list texts),
        ("offset", .list [o.choiceboxOffsetX, o.choiceboxOffsetY])]) :=
    .get_bind fun e => (hemit _).bind (fun _ => hsend _) e
  unfold present
  rw [Action.perform_modify_bind, Action.perform_modify_bind]
  rcases hmode : (setMode c .awaitingChoice).perform
      { e.mapSession Session.capture with menu := some options } with ⟨f | ⟨⟩, e₁⟩
  · rw [Action.perform_bind_error hmode]
    exact refl_of R e₁
  · rw [Action.perform_bind_ok hmode]
    cases line with
    | null => exact hshow e₁
    | _ => exact hdisplay.bind (fun _ => hshow) e₁

theorem appear_tracks_of {text : Value}
    (htimed : Tracks R (Action.attempt timedTextPlace (TimedText.beginLine text) : Play σ Unit))
    (hawaiting : ∀ e, R e { e with awaiting := true }) :
    Tracks R (display.appear text : Play σ Value) :=
  htimed.bind fun _ => .bind (.modify hawaiting) fun _ => .get_bind fun e =>
    Tracks.ofMishap (R := R) e

end

/-- What is done when an effect has ended, before the story goes on. -/
def leaveEffect (c : Collaborators σ) (effect : Intent) : Play σ Bool := do
  if effect.kind == .fadeBegin then
    send c .fadeEnd [("direction", effect.get "direction")]
  modify (mapSession Session.release)
  setMode c .normal
  completeBeat
  return true

end Engine

/-! ## Small changes of play -/

namespace Mild

open Engine

variable {R : Engine σ → Engine σ → Prop} (hR : Mild R)
include hR

protected theorem note (level : Level) (text : String) :
    Tracks R (note level text : Play σ Unit) :=
  .modify fun e => hR.noted e level text

protected theorem completeBeat : Tracks R (completeBeat : Play σ Unit) :=
  .modify hR.completed

protected theorem timing {act : Attempt TimedText α} (hact : TimedText.KeepsText act) :
    Tracks R (Action.attempt timedTextPlace act) :=
  Tracks.iff_ends.2 fun e => Ends.attempt_iff.2
    ((hact _).mono (fun _ t ht => hR.timed e t ht) fun _ t ht => hR.timed e t ht)

variable [IsPreorder (Engine σ) R]

protected theorem follow (option : ChoiceOption) : Tracks R (follow option : Play σ Unit) := by
  unfold follow
  split
  · exact .bind .ofMishap fun delta => .bind (.modify fun e => hR.flagged e _ _) fun _ =>
      hR.completeBeat
  · exact hR.conversation _

protected theorem passLine : Tracks R (HostCall.passLine : Play σ Bool) := by
  refine .get_bind fun e => ?_
  cases e.showsLine with
  | false => exact refl_of R e
  | true =>
    refine Tracks.bind (.modify fun e => hR.awaiting e _) (fun _ => ?_) e
    refine .bind (.modify fun e => hR.timed e e.stage.timedText.endLine rfl) fun _ => ?_
    exact hR.completeBeat.bind fun _ => .pure

protected theorem setFlag (name value : Value) :
    Tracks R (setFlag name value : Play σ Unit) :=
  .bind .ofMishap fun _ => .bind .ofMishap fun _ => .modify fun e => hR.flagged e _ _

end Mild

namespace Calm

open Engine

variable {R : Engine σ → Engine σ → Prop} [IsPreorder (Engine σ) R] (hR : Calm R)
  {c : Collaborators σ} (hc : c.Backstage R)
include hR hc

protected theorem setMode (mode : Mode) : Tracks R (setMode c mode) := by
  refine .get_bind fun e => ?_
  dsimp only
  split
  · refine Tracks.bind (.modify fun e => hR.mode e _) (fun _ => ?_) e
    exact emit_tracks hR.unheard hc.deliver _
  · exact refl_of R e

/-! ## The life of a session -/

protected theorem enterLoading
    (hprepare : ∀ e, R e ((c.prepare e.session.scene).perform e).2) : Tracks R (enterLoading c) :=
  (hR.setMode hc _).bind fun _ => .get_bind fun e =>
    (emit_tracks hR.unheard hc.deliver _).bind (fun _ => .get_bind hprepare) e

protected theorem finish : Tracks R (finish c) := by
  refine .get_bind fun e => ?_
  cases e.finished with
  | true => exact refl_of R e
  | false =>
    have hdrop : ∀ e : Engine σ, R e { e with effect := none, menu := none, awaiting := false } :=
      fun e => trans_of R (hR.dropped e) (trans_of R (hR.menu _ _) (hR.awaiting _ _))
    have hclose : ∀ e : Engine σ, R e (e.mapStage fun s =>
        Stage.mapTimedText TimedText.endLine (s.mapSession Session.release)) := fun e =>
      trans_of R (hR.released e) (hR.timed _ e.stage.timedText.endLine rfl)
    refine Tracks.bind (.modify hdrop) (fun _ => .bind (.modify hclose) fun _ => ?_) e
    refine (hR.setMode hc _).bind fun _ => .get_bind fun e => ?_
    exact (emit_tracks hR.unheard hc.deliver _).bind (fun _ => hc.finished) e

protected theorem fail (herror : ∀ e error, R e { e with error }) (error : StoryError) :
    Tracks R (fail c error) :=
  fail_tracks_of hR.unheard hc.deliver hc.showError herror (hR.finish hc) error

/-! ## Lines and menus -/

protected theorem present (options : List ChoiceOption) {line : Value}
    (hdisplay : Tracks R (display c line .null false)) : Tracks R (present c options line) := by
  intro e
  have hoffered : R e { e.mapSession Session.capture with menu := some options } :=
    trans_of R (hR.captured e) (hR.menu _ _)
  refine trans_of R hoffered (trans_of R (hR.setMode hc .awaitingChoice _) ?_)
  exact present_tracks_from (fun _ => hc.apply _ rfl rfl)
    (fun _ => emit_tracks hR.unheard hc.deliver _) hdisplay e

protected theorem sendReveal : Tracks R (sendReveal c) := by
  refine .get_bind fun e => ?_
  dsimp only
  split
  · refine Tracks.bind (.modify fun e => hR.timed e { e.stage.timedText with changed := false } rfl)
      (fun _ => ?_) e
    exact .bind .ofMishap fun _ => .bind .ofMishap fun _ => hc.apply _ rfl rfl
  · exact refl_of R e

protected theorem pick (options : List ChoiceOption) (index : Value) :
    Tracks R (pick c options index) := by
  refine .bind .ofExcept fun place => ?_
  split
  · exact .pure
  · refine .bind (.modify fun e => hR.menu e _) fun _ => ?_
    refine (emit_tracks hR.unheard hc.deliver _).bind fun _ => ?_
    refine Tracks.bind (hc.apply _ rfl rfl) fun _ => (hR.follow _).bind fun _ => ?_
    exact .bind (.modify hR.released) fun _ => hR.setMode hc _

protected theorem takeOption (hfail : ∀ error, Tracks R (fail c error)) (index : Value) :
    Tracks R (HostCall.takeOption c index) :=
  takeOption_tracks_of hR.note (fun _ => hR.pick hc _ _) hfail

/-! ## Playing -/

/-- Beats track a relation if the commands and the lines at the cursor do. -/
protected theorem playBeats
    (hdisplay : ∀ e d, e.cursor.current = some (.dialogue d) →
      R e ((display c d.text d.speaker true).perform e).2)
    (hexecute : ∀ e cmd, e.cursor.current = some (.command cmd) → R e ((execute c cmd).perform e).2)
    (turns budget : Nat) : Tracks R (playBeats c turns budget) :=
  playBeats_tracks_of (hR.finish hc) (fun e d _ => hdisplay e d) (fun e cmd _ => hexecute e cmd)
    turns budget

/-! ## Calls -/

protected theorem leaveEffect (effect : Intent) : Tracks R (leaveEffect c effect) := by
  have hrest : Tracks R (do
      modify (mapSession Session.release)
      setMode c .normal
      completeBeat
      return true) :=
    .bind (.modify hR.released) fun _ => (hR.setMode hc _).bind fun _ =>
      hR.completeBeat.bind fun _ => .pure
  unfold leaveEffect
  split
  · exact Tracks.bind (hc.apply _ rfl rfl) fun _ => hrest
  · exact hrest

protected theorem endEffect (id : Value) : Tracks R (HostCall.endEffect c id) := by
  refine .get_bind fun e => ?_
  split
  · exact (hR.note _ _).bind (fun _ => .pure) e
  · next effect _ =>
    exact Tracks.bind (.modify hR.dropped) (fun _ => hR.leaveEffect hc effect) e

/-- A call that takes over no snapshot tracks a calm relation until it plays on, if it does when it
saves. -/
protected theorem opening (hfail : ∀ error, Tracks R (fail c error)) {call : HostCall}
    (hsave : call.saves → Tracks R (call.run c)) (hcall : call.loads = false) :
    Tracks R (call.opening c) := by
  cases call with
  | resourcesReady =>
    refine .get_bind fun e => ?_
    dsimp only
    split
    · exact (hR.note _ _).bind (fun _ => .pure) e
    · exact (hR.setMode hc _).bind (fun _ => .pure) e
  | step => exact .get_bind fun e => refl_of R e
  | advance => exact hR.passLine
  | requestAdvance =>
    refine .get_bind fun e => ?_
    cases e.showsLine with
    | false => exact refl_of R e
    | true =>
      refine Tracks.bind (hR.timing TimedText.input_keepsText) (fun fired => ?_) e
      cases fired with
      | true => exact hR.passLine
      | false => exact (hR.sendReveal hc).bind fun _ => .pure
  | tick dt =>
    refine .get_bind fun e => ?_
    cases e.showsLine with
    | false => exact refl_of R e
    | true =>
      refine Tracks.bind (hR.timing (TimedText.tick_keepsText dt)) (fun fired => ?_) e
      refine (hR.sendReveal hc).bind ?_
      intro _
      cases fired with
      | true => exact hR.passLine
      | false => exact .pure
  | choose index => exact hR.takeOption hc hfail index
  | effectFinished id => exact hR.endEffect hc id
  | reportResourceError message =>
    exact Tracks.bind (.get_bind fun e => hfail _ e) fun _ => .pure
  | setFlag name value => exact (hR.setFlag _ _).bind fun _ => .pure
  | saveToSlot | quicksave | autosave => exact (hsave rfl).bind fun _ => .pure
  | loadFromSlot | quickload | restore => cases hcall

end Calm

/-! ## Lenient relations -/

namespace Engine

section
variable {R : Engine σ → Engine σ → Prop} (hR : Easy R)
include hR

theorem completeBeat_tracks : Tracks R (completeBeat : Play σ Unit) :=
  hR.mild.completeBeat

variable [IsPreorder (Engine σ) R]

theorem follow_tracks (option : ChoiceOption) : Tracks R (follow option : Play σ Unit) :=
  hR.mild.follow option

theorem passLine_tracks : Tracks R (HostCall.passLine : Play σ Bool) :=
  hR.mild.passLine

theorem setFlag_tracks (name value : Value) : Tracks R (setFlag name value : Play σ Unit) :=
  hR.mild.setFlag name value

end

section
variable {R : Engine σ → Engine σ → Prop} [IsPreorder (Engine σ) R] (hR : Lenient R)
  {c : Collaborators σ} (hc : c.Track R)
include hc

omit [IsPreorder (Engine σ) R] in
theorem send_tracks (kind : IntentKind) (payload : Table String Value) :
    Tracks R (send c kind payload) :=
  hc.apply _ rfl

include hR

theorem setMode_tracks (mode : Mode) : Tracks R (setMode c mode) :=
  hR.calm.setMode hc.backstage mode

theorem enterLoading_tracks : Tracks R (enterLoading c) :=
  hR.calm.enterLoading hc.backstage fun e => hc.prepare _ e

theorem finish_tracks : Tracks R (finish c) :=
  hR.calm.finish hc.backstage

theorem fail_tracks (herror : ∀ e error, R e { e with error }) (error : StoryError) :
    Tracks R (fail c error) :=
  hR.calm.fail hc.backstage herror error

theorem display_tracks (text speaker : Value) (wait : Bool) :
    Tracks R (display c text speaker wait) :=
  display_tracks_of (send_tracks hc .showText)
    (fun _ => emit_tracks hR.toUnconcerned.unheard hc.deliver _) hR.backlog
    (fun e => hR.stage e _)
    (fun _ => appear_tracks_of (timing_tracks hR.toEasy _) fun e => hR.awaiting e _) speaker

theorem present_tracks (options : List ChoiceOption) (line : Value) :
    Tracks R (present c options line) :=
  hR.calm.present hc.backstage options (display_tracks hR hc line .null false)

theorem sendReveal_tracks : Tracks R (sendReveal c) :=
  hR.calm.sendReveal hc.backstage

theorem pick_tracks (options : List ChoiceOption) (index : Value) :
    Tracks R (pick c options index) :=
  hR.calm.pick hc.backstage options index

/-! ### Restoring -/

theorem restore_tracks (t : Snapshot) : Tracks R (restore c t) := by
  refine (onStage_tracks hR.toEasy _).bind fun script => .bind .ofStory fun cursor => ?_
  have hdrop : ∀ e : Engine σ,
      R e { e with effect := none, menu := none, awaiting := false, error := none } := fun e =>
    trans_of R (hR.dropped e) (trans_of R (hR.menu _ _) (trans_of R (hR.awaiting _ _)
      (hR.cleared _)))
  refine .bind (.modify fun e => hR.stage e _) fun _ => .bind (.modify fun e => hR.stage e _)
    fun _ => .bind (.modify hdrop) fun _ => ?_
  refine .bind (.modify fun e => hR.stage e _) fun _ => ?_
  refine (onStage_tracks hR.toEasy _).bind fun _ => ?_
  exact enterLoading_tracks hR hc

theorem loadFrom_tracks (read : Attempt Disk (Option Value)) : Tracks R (loadFrom c read) := by
  refine (onDisk_tracks hR.toIncidental _).bind fun data => ?_
  dsimp only
  split
  · exact .pure
  · exact .bind .ofMishap fun t => (restore_tracks hR hc t).bind fun _ => .pure

/-! ### Playing -/

theorem settle_tracks (happly : ∀ i, Tracks R (c.apply (some i)))
    (hhold : ∀ kind payload, Tracks R (hold c kind payload)) (outcome : Outcome) :
    Tracks R (settle c outcome) := by
  cases outcome with
  | proceed intents =>
    have hsends : Tracks R (intents.forM fun i => c.apply (some i)) := .forM fun i _ => happly i
    exact hsends.bind fun _ => completeBeat_tracks hR.toEasy
  | stay => exact .pure
  | hold kind payload => exact hhold kind payload
  | ask options line => exact present_tracks hR hc options line
  | call args => exact (hc.systemCall args).bind fun _ => completeBeat_tracks hR.toEasy

theorem execute_tracks (hsettle : ∀ outcome, Tracks R (settle c outcome)) (cmd : Script.Command) :
    Tracks R (execute c cmd) := by
  unfold execute
  cases Command.wellFormed cmd with
  | false => exact fun e => refl_of R e
  | true =>
    exact (emit_tracks hR.toUnconcerned.unheard hc.deliver _).bind fun _ =>
      (onStage_tracks hR.toEasy _).bind hsettle

/-- Beats track a relation if what commands have left to do does. -/
theorem playBeats_tracks (hsettle : ∀ outcome, Tracks R (settle c outcome)) (turns budget : Nat) :
    Tracks R (playBeats c turns budget) :=
  hR.calm.playBeats hc.backstage (fun e _ _ => display_tracks hR hc _ _ _ e)
    (fun e cmd _ => execute_tracks hR hc hsettle cmd e) turns budget

/-! ### Calls -/

theorem leaveEffect_tracks (effect : Intent) : Tracks R (leaveEffect c effect) :=
  hR.calm.leaveEffect hc.backstage effect

theorem opening_tracks (hfail : ∀ error, Tracks R (fail c error)) (call : HostCall) :
    Tracks R (call.opening c) := by
  cases call with
  | loadFromSlot slot =>
    exact (withStore_tracks hR.toIncidental fun _ => .bind .ofMishap fun _ =>
      loadFrom_tracks hR hc _).discard.bind fun _ => .pure
  | quickload =>
    exact (withStore_tracks hR.toIncidental fun _ => loadFrom_tracks hR hc _).discard.bind
      fun _ => .pure
  | restore t => exact (restore_tracks hR hc t).bind fun _ => .pure
  | _ => exact hR.calm.opening hc.backstage hfail (saves_tracks hR.toIncidental c) rfl

end

/-! ### Playing with effects -/

section
variable {R U : Engine σ → Engine σ → Prop} [IsPreorder (Engine σ) R] [IsPreorder (Engine σ) U]
  (hR : Lenient R) (hRU : ∀ {e e'}, R e e' → U e e') {c : Collaborators σ} (hc : c.filled.Track R)
  (hhold : ∀ kind payload, Tracks U (hold c kind payload))
include hR hRU hc hhold

theorem settle_tracks_hold {cmd : Script.Command} {s s' : Stage} {o : Outcome}
    (ho : o.Orderly cmd s s') : Tracks U (settle c o) := by
  cases o with
  | proceed intents =>
    have hsends : Tracks R (intents.forM fun i => c.apply (some i)) :=
      .forM fun i hi => hc.apply i (Prompt.effectId ho i hi)
    exact (hsends.bind fun _ => completeBeat_tracks hR.toEasy).mono hRU
  | stay => exact .pure
  | hold kind payload => exact hhold kind payload
  | ask options line => exact (present_tracks hR hc options line).mono hRU
  | call args =>
    have hcall : Tracks R (c.systemCall args) := hc.systemCall args
    exact (hcall.bind fun _ => completeBeat_tracks hR.toEasy).mono hRU

theorem execute_tracks_hold (cmd : Script.Command) : Tracks U (execute c cmd) := by
  unfold execute
  cases Command.wellFormed cmd with
  | false => exact .get_bind fun e => refl_of U e
  | true =>
    have hemit : Tracks U (emit c (.commandRun cmd.kind.keyword cmd.args cmd.line)) :=
      (emit_tracks hR.toUnconcerned.unheard hc.deliver _).mono hRU
    have hperform : Tracks U (onStage (Command.perform cmd) : Play σ Outcome) :=
      (onStage_tracks hR.toEasy _).mono hRU
    refine hemit.bind fun _ => hperform.bind_of fun e o e₁ hrun => ?_
    have horderly : Ends (onStage (Command.perform cmd) : Play σ Outcome) e
        (fun o e₁ => o.Orderly cmd e.stage e₁.stage) fun _ _ => True :=
      Ends.onPart_iff.2 (Command.perform_orderly cmd e.stage)
    exact settle_tracks_hold hR hRU hc hhold ((Ends.iff_perform.1 horderly).1 o e₁ hrun) e₁

/-- Beats track a relation if the start of an effect does, and all else is in a lenient one. -/
theorem playBeats_tracks_hold (turns budget : Nat) : Tracks U (playBeats c turns budget) := by
  -- Neither the end of a story nor a line sends nothing.
  have hfinish : Tracks U (finish c) := by
    show Tracks U (finish c.filled)
    exact (finish_tracks hR hc).mono hRU
  have hdisplay : ∀ d : Dialogue, Tracks R (display c.filled d.text d.speaker true) := fun d =>
    display_tracks hR hc d.text d.speaker true
  refine playBeats_tracks_of hfinish (fun e d _ _ => ?_)
    (fun e cmd _ _ => execute_tracks_hold hR hRU hc hhold cmd e) turns budget
  exact hRU (hdisplay d e)

end

/-- A step tracks a relation if its beats do, with the mark taken off again that it is under way. -/
theorem step_tracks {R : Engine σ → Engine σ → Prop} {c : Collaborators σ} (hrefl : ∀ e, R e e)
    (hplay : ∀ e, e.running → e.stepping = false →
      R e { ((orFail c (playBeats c turnsPerStep commandBudget)).perform
        { e with stepping := true }).2 with stepping := false }) : Tracks R (step c) := by
  refine .get_bind fun e => ?_
  cases hr : e.running with
  | false => exact hrefl e
  | true =>
    cases hs : e.stepping with
    | true => exact hrefl e
    | false =>
      have hbeats := hplay e hr hs
      rcases hrun : (orFail c (playBeats c turnsPerStep commandBudget)).perform
        { e with stepping := true } with ⟨r, e'⟩
      rw [hrun] at hbeats
      simp only [Bool.not_false, Bool.and_self, if_true]
      rw [Action.perform_modify_bind, Action.perform_bind_ok Action.perform_outcome, hrun,
        Action.perform_modify_bind]
      cases r with
      | error f => exact hbeats
      | ok _ => exact hbeats

end Engine

/-- A call that takes over no snapshot tracks a calm relation, if what it plays does. -/
theorem Calm.run {R : Engine σ → Engine σ → Prop} [IsPreorder (Engine σ) R] (hR : Calm R)
    {c : Collaborators σ} (hc : c.Backstage R) (herror : ∀ e error, R e { e with error })
    (hstepping : ∀ e stepping, R e { e with stepping })
    (hdisplay : ∀ e d, e.cursor.current = some (.dialogue d) →
      R e ((Engine.display c d.text d.speaker true).perform e).2)
    (hexecute : ∀ e cmd, e.cursor.current = some (.command cmd) →
      R e ((Engine.execute c cmd).perform e).2) {call : HostCall}
    (hsave : call.saves → Tracks R (call.run c)) (hcall : call.loads = false) :
    Tracks R (call.run c) := by
  have hfail := hR.fail hc herror
  have hplay := Engine.orFail_tracks hfail (hR.playBeats hc hdisplay hexecute Engine.turnsPerStep
    Engine.commandBudget)
  rw [HostCall.run_eq]
  refine (hR.opening hc hfail hsave hcall).bind fun go => ?_
  cases go with
  | false => exact .pure
  | true =>
    refine Tracks.discard (Engine.step_tracks (refl_of R) fun e _ _ => ?_)
    exact trans_of R (trans_of R (hstepping e true) (hplay _)) (hstepping _ false)

/-! ## What is outside -/

/-- What is outside stands in a relation to what it was. -/
def Outside (S : σ → σ → Prop) (e e' : Engine σ) : Prop :=
  S e.outside e'.outside

namespace Outside

variable {S : σ → σ → Prop} [IsPreorder σ S] {c : Collaborators σ}

instance : IsPreorder (Engine σ) (Outside S) where
  refl e := refl_of S e.outside
  trans _ _ _ h h' := trans_of S h h'

theorem lenient : Lenient (Outside S) where
  disk e _ := refl_of S e.outside
  saves e _ := refl_of S e.outside
  bus e _ := refl_of S e.outside
  stage e _ := refl_of S e.outside
  awaiting e _ := refl_of S e.outside
  menu e _ := refl_of S e.outside
  backlog e _ := refl_of S e.outside
  dropped e := refl_of S e.outside
  mode e _ := refl_of S e.outside
  cleared e := refl_of S e.outside

section
variable (hc : c.Track (Outside S)) (happly : ∀ i, Tracks (Outside S) (c.apply (some i)))
include hc happly

theorem hold (kind : IntentKind) (payload : Table String Value) :
    Tracks (Outside S) (Engine.hold c kind payload) := by
  refine .bind (.modify fun e => refl_of S e.outside) fun _ => ?_
  refine (Engine.setMode_tracks lenient hc _).bind fun _ => .get_bind fun e => ?_
  cases e.effect with
  | none => exact hc.applyNothing e
  | some i => exact happly i e

/-- Every call brings what is outside into the relation if the collaborators do. -/
theorem run (call : HostCall) : Tracks (Outside S) (call.run c) := by
  have hR : Lenient (Outside S) := lenient
  have hfail := Engine.fail_tracks hR hc fun e _ => refl_of S e.outside
  have hsettle := Engine.settle_tracks hR hc happly (hold hc happly)
  rw [HostCall.run_eq]
  refine (Engine.opening_tracks hR hc hfail call).bind fun go => ?_
  cases go with
  | false => exact .pure
  | true =>
    refine Tracks.discard (Engine.step_tracks (fun e => refl_of S e.outside) fun e _ _ => ?_)
    have hplay := Engine.orFail_tracks hfail
      (Engine.playBeats_tracks hR hc hsettle Engine.turnsPerStep Engine.commandBudget)
    exact hplay { e with stepping := true }

end

end Outside

end VisualNovel
