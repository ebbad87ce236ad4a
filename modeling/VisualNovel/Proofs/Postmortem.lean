import VisualNovel.Proofs.Failures
import VisualNovel.Proofs.SmallSteps

/-!
# What a failure leaves behind

A command finds out what it needs before it changes the story, and so does a choice. So if one of
them fails, the session ends with the script, the cursor, the flags and all else as it was right
before, and the cursor still stands at the command: `Engine.failing_changes_nothing`. No matter what
collaborators do until then, as long as they raise no errors of the story of their own.

While a session fails, listeners hear of it and the renderer shows the error, and they may call the
engine. What they do to the story then is the only thing that is done to it: of a relation between
what was held before and after it is asked that they keep to it, and if they do nothing the relation
may be equality. A listener that sets a flag has set it in the session that is left behind
(`Engine.failing_heard`).
-/

namespace VisualNovel

open Script

variable {σ α β : Type}

/-! ## Actions that raise no error of the story -/

/-- The action never stops with an error of the story. -/
def Storyless (act : Action σ α) : Prop :=
  ∀ s, Runs True act s fun _ _ => True

namespace Storyless

variable {act : Action σ α}

protected theorem pure {a : α} : Storyless (pure a : Action σ α) :=
  fun _ => trivial

protected theorem modify {f : σ → σ} : Storyless (modify f : Action σ PUnit) :=
  fun _ => trivial

theorem ofMishap {r : Except Mishap α} : Storyless (Action.ofMishap r : Action σ α) :=
  fun _ => Ends.ofMishap_iff.2 ⟨fun _ _ => trivial, fun _ _ => trivial⟩

theorem attempt {τ : Type} {place : Place σ τ} {act : Attempt τ α} :
    Storyless (Action.attempt place act) :=
  fun _ => Ends.attempt_iff.2 (Ends.iff_attempted.2 ⟨fun _ _ _ => trivial, fun _ _ _ => trivial⟩)

protected theorem bind {k : α → Action σ β} (h : Storyless act) (hk : ∀ a, Storyless (k a)) :
    Storyless (act >>= k) :=
  fun s => (h s).bind fun a s' _ => hk a s'

theorem get_bind {k : σ → Action σ α} (h : ∀ s, Storyless (k s)) : Storyless (get >>= k) :=
  fun s => h s s

protected theorem forM {xs : List α} {k : α → Action σ PUnit} (hk : ∀ a, Storyless (k a)) :
    Storyless (xs.forM k) := by
  induction xs with
  | nil => exact .pure
  | cons x xs ih => exact (hk x).bind fun _ => ih

end Storyless

/-! ## What is held, and what is done to it -/

namespace Engine

/-- The script and the session, but for the snapshot that was set aside. -/
def holdings (e : Engine σ) : Script × Session :=
  (e.script, e.session.release)

variable {S : Script × Session → Script × Session → Prop}

/-- What happens to an engine while a session fails, beside the failure itself. -/
structure Meanwhile (S : Script × Session → Script × Session → Prop) (e e' : Engine σ) : Prop where
  mode : e'.mode = e.mode
  error : e'.error = e.error
  strict : e'.strict = e.strict
  holdings : S e.holdings e'.holdings

/-- The session has ended with the error, which is stored, and what is left of it is what was held
before. -/
structure LeftBehind (S : Script × Session → Script × Session → Prop) (error : StoryError)
    (e e' : Engine σ) : Prop where
  mode : e'.mode = .ended
  error : e'.error = some error
  holdings : S e.holdings e'.holdings

/-- The beat at the cursor is a command, and it fails, or too many were before it in this step. -/
structure FailsAt (c : Collaborators σ) (cmd : Script.Command) (error : StoryError)
    (e : Engine σ) : Prop where
  running : e.running
  command : e.cursor.current = some (.command cmd)
  cause : (∃ e', (execute c cmd).perform e = (.error (.story error), e')) ∨
    error = e.neverYields cmd.line

/-- What has stopped a session that was failing: a collaborator, and what was held is there all the
same, or the error itself, which a strict engine raises when the session has ended. -/
def Stopped (S : Script × Session → Script × Session → Prop) (error : StoryError)
    (moment : Engine σ) (f : Fault) (e' : Engine σ) : Prop :=
  (∃ m, f = .mishap m) ∧ S moment.holdings e'.holdings ∨
    f = .story error ∧ moment.strict = true ∧ LeftBehind S error moment e'

/-- However the call ends, what was held at some moment is left, and if no collaborator fails, the
session has ended with the error. -/
def EndsWith (S : Script × Session → Script × Session → Prop) (act : Play σ Bool)
    (error : StoryError) (moment e : Engine σ) : Prop :=
  Ends act e
    (fun goesOn e' => goesOn = false ∧ moment.strict = false ∧ LeftBehind S error moment e')
    (Stopped S error moment)

end Engine

/-- What listeners hear of while a command or a choice fails. -/
def Event.ofFailing : Event → Bool
  | .commandRun _ _ _ | .choiceSelected _ _ | .failed _ | .modeChanged _ .ended | .ended _ => true
  | _ => false

/-- The collaborators raise no error of the story. While a command or a choice fails, they keep to a
relation of what is held before and after, and do not change whether and how the session ends. -/
structure Collaborators.StandsBy (c : Collaborators σ)
    (S : Script × Session → Script × Session → Prop) : Prop where
  apply : ∀ i, Storyless (c.apply i)
  systemCall : ∀ args, Storyless (c.systemCall args)
  showError : ∀ text, Storyless (c.showError text) ∧ Tracks (Engine.Meanwhile S) (c.showError text)
  finished : Storyless c.finished ∧ Tracks (Engine.Meanwhile S) c.finished
  clearChoices : Tracks (Engine.Meanwhile S) (Engine.send c .clearChoices)
  deliver : ∀ id event, event.ofFailing → Tracks (Engine.Meanwhile S) (c.deliver id event)

namespace Engine

variable {S : Script × Session → Script × Session → Prop} [IsPreorder (Script × Session) S]
  {c : Collaborators σ} {e e' : Engine σ} {error : StoryError}

namespace Meanwhile

theorem of_same (hmode : e'.mode = e.mode) (herror : e'.error = e.error)
    (hstrict : e'.strict = e.strict) (hheld : e'.holdings = e.holdings) : Meanwhile S e e' :=
  ⟨hmode, herror, hstrict, hheld ▸ refl_of S e.holdings⟩

instance : IsPreorder (Engine σ) (Meanwhile S) where
  refl _ := of_same rfl rfl rfl rfl
  trans _ _ _ h h' := ⟨h'.mode.trans h.mode, h'.error.trans h.error, h'.strict.trans h.strict,
    trans_of S h.holdings h'.holdings⟩

/-- An action on the stage that fails leaves it unmoved. -/
theorem unmoved {s : Stage} (h : Stage.Unmoved e.stage s) : Meanwhile S e (stagePlace.set s e) :=
  .of_same rfl rfl rfl (Prod.ext h.script (congrArg Session.release h.session))

theorem unheard : Unheard (Meanwhile S (σ := σ)) :=
  ⟨fun _ _ _ => of_same rfl rfl rfl rfl, fun _ _ => of_same rfl rfl rfl rfl⟩

end Meanwhile

/-! ## How a session fails -/

section
variable (hc : c.StandsBy S)
include hc

theorem emit_meanwhile {event : Event} (hevent : event.ofFailing) (e : Engine σ) :
    Runs False (emit c event) e fun _ e' => Meanwhile S e e' :=
  emit_tracks_of Meanwhile.unheard (fun id => hc.deliver id event hevent) e

omit [IsPreorder (Script × Session) S] hc in
/-- A collaborator that raises no error of the story, and keeps to what it may do. -/
theorem meanwhile_of {act : Play σ Unit} (h : Storyless act ∧ Tracks (Meanwhile S) act)
    (e : Engine σ) : Ends act e (fun _ e' => Meanwhile S e e') fun f e' =>
      (∃ m, f = .mishap m) ∧ Meanwhile S e e' := by
  refine Ends.mono (Ends.and (h.1 e) (Tracks.iff_ends.1 h.2 e)) (fun _ _ h => h.2) ?_
  rintro (error | m) e' ⟨hstory, hsame⟩
  · exact hstory.elim
  · exact ⟨⟨m, rfl⟩, hsame⟩

/-- A session that has not ended does. -/
theorem finish_leaves (hmode : e.mode ≠ .ended) : Ends (finish c) e
    (fun _ e' =>
      e'.mode = .ended ∧ e'.error = e.error ∧ e'.strict = e.strict ∧ S e.holdings e'.holdings)
    fun f e' => (∃ m, f = .mishap m) ∧ S e.holdings e'.holdings := by
  have hunfinished : e.finished = false := by simp [finished, hmode]
  have hmode' : (e.mode != .ended) = true := by simpa using hmode
  unfold finish setMode
  refine Ends.bind_iff.2 (Ends.get_iff.2 ?_)
  rw [hunfinished]
  refine Ends.bind_iff.2 (Ends.modify_iff.2 (Ends.bind_iff.2 (Ends.modify_iff.2 ?_)))
  refine Ends.bind_iff.2 (Ends.bind_iff.2 (Ends.get_iff.2 ?_))
  show Ends (if (e.mode != .ended) = true then _ else _) _ _ _
  rw [if_pos hmode']
  refine Ends.bind_iff.2 (Ends.modify_iff.2 (Ends.mono (emit_meanwhile hc rfl _).ends ?_
    fun _ _ h => h))
  rintro _ e₁ ⟨hended, herror, hstrict, hheld⟩
  refine Ends.bind_iff.2 (Ends.get_iff.2 ((emit_meanwhile hc rfl e₁).bind_ends ?_))
  intro _ e₂ h₂
  have hheld₂ : S e.holdings e₂.holdings := trans_of S hheld h₂.holdings
  refine Ends.mono (meanwhile_of hc.finished e₂) (fun _ e₃ h₃ => ?_) fun f e₃ h₃ => ?_
  · exact ⟨h₃.mode.trans (h₂.mode.trans hended), h₃.error.trans (h₂.error.trans herror),
      h₃.strict.trans (h₂.strict.trans hstrict), trans_of S hheld₂ h₃.holdings⟩
  · exact ⟨h₃.1, trans_of S hheld₂ h₃.2.holdings⟩

/-- An error ends the session, and nothing else is done to it. -/
theorem fail_leaves (hmode : e.mode ≠ .ended) (error : StoryError) : Ends (fail c error) e
    (fun _ e' => e.strict = false ∧ LeftBehind S error e e') (Stopped S error e) := by
  have hunfinished : e.finished = false := by simp [finished, hmode]
  unfold fail
  refine Ends.bind_iff.2 (Ends.get_iff.2 ?_)
  rw [hunfinished]
  let stored : Engine σ := { e with error := some error }
  refine Ends.bind_iff.2 (Ends.modify_iff.2 (Ends.bind_iff.2 (Ends.modify_iff.2 ?_)))
  have hfailing : (Event.failed error).ofFailing := rfl
  refine (emit_meanwhile hc hfailing _).bind_ends fun _ e₁ h₁ => ?_
  have h₁ : Meanwhile S stored e₁ := trans_of (Meanwhile S) (Meanwhile.unheard.noted _ _ _) h₁
  refine Ends.bind_iff.2 (Ends.mono (meanwhile_of (hc.showError _) e₁) (fun _ e₂ h₂ => ?_)
    fun f e₂ h₂ => .inl ⟨h₂.1, trans_of S h₁.holdings h₂.2.holdings⟩)
  have h₂ : Meanwhile S stored e₂ := trans_of (Meanwhile S) h₁ h₂
  have hmode₂ : e₂.mode ≠ .ended := by
    rw [h₂.mode]
    exact hmode
  refine Ends.bind_iff.2 (Ends.mono (finish_leaves hc hmode₂) ?_
    fun f e₃ h₃ => .inl ⟨h₃.1, trans_of S h₂.holdings h₃.2⟩)
  rintro _ e₃ ⟨hended, herror, hstrict, hheld⟩
  have hleft : LeftBehind S error e e₃ :=
    ⟨hended, herror.trans h₂.error, trans_of S h₂.holdings hheld⟩
  have hstrict' : e₃.strict = e.strict := hstrict.trans h₂.strict
  refine Ends.bind_iff.2 (Ends.get_iff.2 ?_)
  cases hs : e.strict with
  | false =>
    rw [hstrict', hs]
    exact ⟨rfl, hleft⟩
  | true =>
    rw [hstrict', hs]
    exact .inr ⟨rfl, hs, hleft⟩

/-! ## Beats that fail -/

omit [IsPreorder (Script × Session) S] hc in
theorem emit_storyless (event : Event) : Storyless (emit c event) :=
  fun _ => trivial

omit [IsPreorder (Script × Session) S] hc in
theorem setMode_storyless (mode : Mode) : Storyless (setMode c mode) := by
  refine .get_bind fun e => ?_
  dsimp only
  split
  · exact .bind .modify fun _ => emit_storyless _
  · exact .pure

omit [IsPreorder (Script × Session) S] in
theorem display_storyless (text speaker : Value) (wait : Bool) :
    Storyless (display c text speaker wait) := by
  have happear : Storyless (display.appear text : Play σ Value) :=
    .bind .attempt fun _ => .bind .modify fun _ => .get_bind fun _ => .ofMishap
  refine .get_bind fun _ => .bind .modify fun _ => .bind .modify fun _ =>
    .bind (emit_storyless _) fun _ => ?_
  cases wait with
  | false => exact hc.apply _
  | true => exact .bind happear fun _ => hc.apply _

omit [IsPreorder (Script × Session) S] in
theorem settle_storyless (outcome : Outcome) : Storyless (settle c outcome) := by
  cases outcome with
  | proceed intents => exact .bind (.forM fun i => hc.apply _) fun _ => .modify
  | stay => exact .pure
  | hold kind payload =>
    exact .bind .modify fun _ => .bind (setMode_storyless _) fun _ => .get_bind fun _ => hc.apply _
  | ask options line =>
    have hshow : ∀ options : List Value, Storyless (do
        let o := (← get).session.overrides
        emit c (.choicesShown options)
        send c .showChoices [("options", .list options),
          ("offset", .list [o.choiceboxOffsetX, o.choiceboxOffsetY])]) := fun _ =>
      .get_bind fun _ => .bind (emit_storyless _) fun _ => hc.apply _
    refine .bind .modify fun _ => .bind .modify fun _ => .bind (setMode_storyless _) fun _ => ?_
    cases line with
    | null => exact hshow _
    | _ => exact .bind (display_storyless hc _ _ _) fun _ => hshow _
  | call args => exact .bind (hc.systemCall args) fun _ => .modify

/-- A command that fails has done nothing. -/
theorem execute_leaves (cmd : Script.Command) (e : Engine σ) :
    Leads True (execute c cmd) e (fun _ _ => True) fun _ e' => Meanwhile S e e' := by
  unfold execute
  cases Command.wellFormed cmd with
  | false => exact Leads.get_bind (refl_of (Meanwhile S) e)
  | true =>
    refine (emit_meanwhile hc rfl e).any.bind fun _ e₁ h₁ => ?_
    refine Leads.bind (P := fun _ _ => True) (Leads.onPart ?_) fun o e₂ _ => ?_
    · exact (Command.perform_refused cmd _).mono (fun _ _ _ => trivial) fun _ s h =>
        trans_of (Meanwhile S) h₁ (.unmoved h)
    · exact Leads.mono (settle_storyless hc o e₂) (fun _ _ _ => trivial) fun _ _ h => h.elim

/-- An error of the story that stops the loop comes from a command, and leaves what was held before
it. -/
theorem playBeats_leaves {turns budget : Nat} {start : Engine σ} (hstart : Plays c start e) :
    Leads True (playBeats c turns budget) e (fun _ _ => True) fun error e' => ∃ e₀ cmd,
      Plays c start e₀ ∧ FailsAt c cmd error e₀ ∧ Meanwhile S e₀ e' := by
  induction turns generalizing budget e with
  | zero => trivial
  | succ turns ih =>
    unfold playBeats
    refine Leads.get_bind ?_
    cases hr : e.running with
    | false => trivial
    | true =>
      have hnext : ∀ e₁, (playBeat c).perform e = (.ok (), e₁) → Plays c start e₁ := fun e₁ h =>
        hstart.beat hr h
      unfold playBeat at hnext
      simp only [Action.perform_get_bind] at hnext
      cases hcur : e.cursor.current with
      | none =>
        have hmode : e.mode ≠ .ended := by simp [(running_iff.1 hr).1]
        refine Ends.mono (finish_leaves hc hmode) (fun _ _ _ => trivial) ?_
        rintro _ _ ⟨⟨m, rfl⟩, -⟩
        trivial
      | some beat =>
        rw [hcur] at hnext
        cases beat with
        | dialogue d =>
          have hdisplay := Ends.traced (display_storyless hc d.text d.speaker true e)
          refine Ends.bind_iff.2 (Ends.mono hdisplay (fun _ e₁ h => ih (hnext e₁ h.2)) ?_)
          rintro (error | m) e₁ ⟨h, -⟩
          · exact h.elim
          · trivial
        | command cmd =>
          cases budget with
          | zero => exact ⟨e, cmd, hstart, ⟨hr, hcur, .inr rfl⟩, refl_of (Meanwhile S) e⟩
          | succ budget =>
            refine Ends.bind_iff.2 (Ends.mono (Ends.traced (execute_leaves hc cmd e))
              (fun _ e₁ h => ih (hnext e₁ h.2)) ?_)
            rintro (error | m) e₁ ⟨h, hrun⟩
            · exact ⟨e, cmd, hstart, ⟨hr, hcur, .inl ⟨e₁, hrun⟩⟩, h⟩
            · trivial

/-- A choice that fails has done nothing. -/
theorem pick_leaves (options : List ChoiceOption) (index : Value) (e : Engine σ) :
    Leads True (pick c options index) e (fun _ _ => True) fun _ e' => Meanwhile S e e' := by
  have hfollow : ∀ (option : ChoiceOption) (e₁ : Engine σ), Meanwhile S e e₁ →
      Leads True (follow option) e₁ (fun _ _ => True) fun _ e' => Meanwhile S e e' := by
    intro option e₁ h₁
    unfold follow
    split
    · exact (Storyless.ofMishap e₁).bind fun _ _ _ => trivial
    · refine Leads.onPart (Ends.mono (Command.switchConversation_steadfast _ _)
        (fun _ _ _ => trivial) ?_)
      rintro (error | m) s h
      · exact trans_of (Meanwhile S) h₁ (.unmoved h)
      · trivial
  unfold pick
  refine Ends.bind_iff.2 (Ends.ofExcept_iff.2 ⟨fun place _ => ?_, ?_⟩)
  · split
    · trivial
    · next option _ =>
      have hclosed : Meanwhile S e { e with menu := none } := .of_same rfl rfl rfl rfl
      refine Leads.modify_bind ((emit_meanwhile hc rfl _).any.bind fun _ e₁ h₁ => ?_)
      refine Ends.bind_iff.2 (Ends.mono (meanwhile_of ⟨hc.apply _, hc.clearChoices⟩ e₁) ?_ ?_)
      case refine_2 =>
        rintro _ _ ⟨⟨m, rfl⟩, -⟩
        trivial
      intro _ e₂ h₂
      have h := trans_of (Meanwhile S) hclosed (trans_of (Meanwhile S) h₁ h₂)
      refine Leads.bind (hfollow option e₂ h) fun _ e₃ _ => Leads.modify_bind ?_
      exact Leads.mono (setMode_storyless .normal _) (fun _ _ _ => trivial) fun _ _ h => h.elim
  · rintro (error | m) _
    · exact refl_of (Meanwhile S) e
    · trivial

/-! ## Calls that fail -/

/-- The session ends when a step or a choice fails. -/
theorem Meanwhile.leaves (h : Meanwhile S e e') (hmode : e.mode ≠ .ended) (error : StoryError) :
    Ends (fail c error) e' (fun _ e'' => e.strict = false ∧ LeftBehind S error e e'')
      (Stopped S error e) := by
  have hleft : ∀ {e''}, LeftBehind S error e' e'' → LeftBehind S error e e'' := fun h' =>
    ⟨h'.mode, h'.error, trans_of S h.holdings h'.holdings⟩
  have hmode' : e'.mode ≠ .ended := by
    rw [h.mode]
    exact hmode
  refine Ends.mono (fail_leaves hc hmode' error) ?_ ?_
  · rintro _ e'' ⟨hstrict, h'⟩
    exact ⟨h.strict.symm.trans hstrict, hleft h'⟩
  · rintro f e'' (⟨hm, hheld⟩ | ⟨rfl, hstrict, h'⟩)
    · exact .inl ⟨hm, trans_of S h.holdings hheld⟩
    · exact .inr ⟨rfl, h.strict.symm.trans hstrict, hleft h'⟩

theorem step_leaves {e₁ : Engine σ} (hr : e.running) (hstepping : e.stepping = false)
    (hfails : (playBeats c turnsPerStep commandBudget).perform { e with stepping := true } =
      (.error (.story error), e₁)) :
    ∃ e₀ cmd, Plays c { e with stepping := true } e₀ ∧ FailsAt c cmd error e₀ ∧
      EndsWith S (step c) error e₀ e := by
  obtain ⟨e₀, cmd, hplays, hfailsAt, hsame⟩ :=
    (Ends.iff_perform.1 (playBeats_leaves hc (.refl { e with stepping := true }))).2 _ _ hfails
  refine ⟨e₀, cmd, hplays, hfailsAt, ?_⟩
  unfold EndsWith step
  refine Ends.bind_iff.2 (Ends.get_iff.2 ?_)
  rw [hr, hstepping]
  refine Ends.bind_iff.2 (Ends.modify_iff.2 (Ends.bind_iff.2 (Ends.outcome_iff.2 ?_)))
  have hmode : e₀.mode ≠ .ended := by simp [(running_iff.1 hfailsAt.running).1]
  refine Ends.of_perform_eq ?_ (Ends.mono (hsame.leaves hc hmode error) ?_ ?_)
  · rw [orFail_perform, hfails]
  · rintro _ e' ⟨hstrict, hleft⟩
    exact ⟨by simp [finished, hleft.mode], hstrict, hleft.mode, hleft.error, hleft.holdings⟩
  · rintro f e' (⟨hm, hheld⟩ | ⟨rfl, hstrict, hleft⟩)
    · exact .inl ⟨hm, hheld⟩
    · exact .inr ⟨rfl, hstrict, hleft.mode, hleft.error, hleft.holdings⟩

theorem choose_leaves {options : List ChoiceOption} {index : Value} {e₁ : Engine σ}
    (hmenu : e.menu = some options) (hmode : e.mode = .awaitingChoice)
    (hfails : (pick c options index).perform e = (.error (.story error), e₁)) :
    EndsWith S (choose c index) error e e := by
  have hsame := (Ends.iff_perform.1 (pick_leaves hc options index e)).2 _ _ hfails
  have hopen : e.menu.filter (fun _ => e.mode == .awaitingChoice) = some options := by
    simp [hmenu, hmode]
  unfold EndsWith choose
  refine Ends.bind_iff.2 (Ends.get_iff.2 ?_)
  rw [hopen]
  have houtcome : (Action.outcome (pick c options index)).perform e =
      (.ok (.error (.story error)), e₁) := by
    rw [Action.perform_outcome, hfails]
  refine Ends.bind_iff.2 (Ends.of_perform houtcome ?_)
  exact Ends.bind_iff.2 (Ends.mono (hsame.leaves hc (by simp [hmode]) error)
    (fun _ _ h => ⟨rfl, h⟩) fun _ _ h => h)

/-- If a command of a step fails, the session ends with the error as it was right before that
command, and if a choice fails, as it was right before the choice. -/
theorem failing_changes_nothing (e : Engine σ) :
    (∀ error e₁, e.running → e.stepping = false →
      (playBeats c turnsPerStep commandBudget).perform { e with stepping := true } =
        (.error (.story error), e₁) →
      ∃ e₀ cmd, Plays c { e with stepping := true } e₀ ∧ FailsAt c cmd error e₀ ∧
        EndsWith S (step c) error e₀ e) ∧
    ∀ options index error e₁, e.menu = some options → e.mode = .awaitingChoice →
      (pick c options index).perform e = (.error (.story error), e₁) →
      EndsWith S (choose c index) error e e :=
  ⟨fun _ _ hr hstepping => step_leaves hc hr hstepping,
    fun _ _ _ _ hmenu hmode => choose_leaves hc hmenu hmode⟩

end

/-! ## A story that goes wrong -/

/-- Collaborators that only write down intents stand by. -/
theorem recording_standsBy : Collaborators.recording.StandsBy Eq where
  apply _ _ := trivial
  systemCall _ _ := trivial
  showError _ := ⟨.pure, refl_of (Meanwhile Eq)⟩
  finished := ⟨.pure, refl_of (Meanwhile Eq)⟩
  clearChoices _ := ⟨rfl, rfl, rfl, rfl⟩
  deliver _ _ _ e := refl_of (Meanwhile Eq) e

/-- A story that sets a flag and then leads nowhere, or asks where to go, which is nowhere. -/
def losing (asks : Bool) : Setup :=
  .telling "losing"
    (if asks then [".jumponchoice:Go:nowhere"] else [".setflag:x:1", ".setconversation:nowhere"])

/-- Whether an action has stopped with an error of the story. -/
def stopped (r : Except Fault α) : Bool :=
  match r with
  | .error (.story _) => true
  | _ => false

theorem exists_of_stopped {r : Except Fault α} (h : stopped r) :
    ∃ error, r = .error (.story error) := by
  rcases r with (error | m) | a
  · exact ⟨error, rfl⟩
  · cases h
  · cases h

/-- The first story ends with its flag set and the cursor at the command that leads nowhere, the
second one with its menu still to be shown. -/
theorem failing_changes_nothing_losing :
    (∃ (e e₀ e' : Engine (List Intent)) (cmd : Script.Command),
      Plays .recording { e with stepping := true } e₀ ∧
      e₀.cursor.current = some (.command cmd) ∧ (step .recording).perform e = (.ok false, e') ∧
      e'.mode = .ended ∧ e'.holdings = e₀.holdings) ∧
    ∃ e e' : Engine (List Intent), e.mode = .awaitingChoice ∧
      (choose .recording (.int 0)).perform e = (.ok false, e') ∧
      e'.mode = .ended ∧ e'.holdings = e.holdings := by
  let playing (e : Engine (List Intent)) : Engine (List Intent) := { e with mode := .normal }
  let begun (e : Engine (List Intent)) : Engine (List Intent) :=
    { playing e with stepping := true }
  have hplays : (started .recording (losing false) []).map (fun e => (playing e).running &&
      !(playing e).stepping &&
      stopped ((playBeats .recording turnsPerStep commandBudget).perform (begun e)).1 &&
      ((step .recording).perform (playing e)).1.toOption == some false) = some true := by
    decide +kernel
  have hasks : ((started .recording (losing true) []).bind
      (after .recording [.resourcesReady])).map (fun e => e.mode == .awaitingChoice &&
        e.menu.elim false (fun options =>
          stopped ((pick .recording options (.int 0)).perform e).1) &&
        ((choose .recording (.int 0)).perform e).1.toOption == some false) = some true := by
    decide +kernel
  obtain ⟨e, -, hfacts⟩ := Option.map_eq_some_iff.1 hplays
  obtain ⟨f, -, hfacts'⟩ := Option.map_eq_some_iff.1 hasks
  simp only [Bool.and_eq_true, Bool.not_eq_true', beq_iff_eq] at hfacts hfacts'
  obtain ⟨⟨⟨hr, hstepping⟩, hstops⟩, hstep⟩ := hfacts
  obtain ⟨⟨hmode, hmenu⟩, hchoose⟩ := hfacts'
  obtain ⟨error, hstops⟩ := exists_of_stopped hstops
  refine ⟨?_, ?_⟩
  · obtain ⟨e₀, cmd, hplays, hfails, hends⟩ := (failing_changes_nothing recording_standsBy
      (playing e)).1 error _ hr hstepping (Prod.ext hstops rfl)
    have hrun : (step .recording).perform (playing e) = (.ok false, _) :=
      Prod.ext (toOption_eq_some.1 hstep) rfl
    obtain ⟨-, -, hleft⟩ := (Ends.iff_perform.1 hends).1 false _ hrun
    exact ⟨playing e, e₀, _, cmd, hplays, hfails.command, hrun, hleft.mode, hleft.holdings.symm⟩
  · cases hoptions : f.menu with
    | none => simp [hoptions] at hmenu
    | some options =>
      rw [hoptions] at hmenu
      obtain ⟨error', hstops'⟩ := exists_of_stopped hmenu
      have hends := (failing_changes_nothing recording_standsBy f).2 options (.int 0) error' _
        hoptions hmode (Prod.ext hstops' rfl)
      have hrun : (choose .recording (.int 0)).perform f = (.ok false, _) :=
        Prod.ext (toOption_eq_some.1 hchoose) rfl
      obtain ⟨-, -, hleft⟩ := (Ends.iff_perform.1 hends).1 false _ hrun
      exact ⟨f, _, hmode, hrun, hleft.mode, hleft.holdings.symm⟩

/-! ## A listener that calls back -/

/-- Collaborators that set a flag when they hear that a session fails. -/
def mourning : Collaborators (List Intent) :=
  { Collaborators.recording with
    deliver := fun _ event => match event with
      | .failed _ => HostCall.run .recording (.setFlag (.text "x") (.int 1))
      | _ => pure () }

/-- A story that leads nowhere. -/
def bereaved : Setup :=
  .telling "bereaved" [".setconversation:nowhere"]

/-- A listener sets a flag when it hears that the session has failed: the flag is set in the session
that is left behind, and was not when the command was next. -/
theorem failing_heard : ∃ e e' : Engine (List Intent), Reachable mourning anyCall bereaved [] e ∧
    (∃ cmd, e.cursor.current = some (.command cmd) ∧ cmd.kind = .setConversation) ∧
    (resourcesReady mourning).perform e = (.ok (), e') ∧ e'.mode = .ended ∧
    e'.cursor.position = e.cursor.position ∧ e'.session.flags ≠ e.session.flags := by
  let attended (e : Engine (List Intent)) : Surroundings (List Intent) :=
    { e.surroundings with bus := e.bus.subscribe "engine.error" 0 }
  let heeded (e : Engine (List Intent)) := e.within (attended e)
  let ended (e : Engine (List Intent)) := (resourcesReady mourning).perform (heeded e)
  have hfacts : (started mourning bereaved []).map (fun e =>
      (heeded e).cursor.current.bind Beat.kind? == some .setConversation &&
      (ended e).1.toOption == some () && (ended e).2.mode == .ended &&
      (ended e).2.cursor.position == (heeded e).cursor.position &&
      (heeded e).session.flags.values == [] &&
      (ended e).2.session.flags.values == [("x", 1)]) = some true := by
    decide +kernel
  obtain ⟨e, he, hfacts⟩ := Option.map_eq_some_iff.1 hfacts
  simp only [Bool.and_eq_true, beq_iff_eq] at hfacts
  obtain ⟨⟨⟨⟨⟨hcmd, hready⟩, hmode⟩, hposition⟩, hnone⟩, hset⟩ := hfacts
  have hreach : Reachable mourning anyCall bereaved [] (heeded e) :=
    .around (attended e) (.of_started he)
  refine ⟨heeded e, (ended e).2, hreach, ?_, Prod.ext (toOption_eq_some.1 hready) rfl, hmode,
    hposition, fun hsame => ?_⟩
  · obtain ⟨beat, hcur, hkind⟩ := Option.bind_eq_some_iff.1 hcmd
    cases beat with
    | dialogue d => cases hkind
    | command cmd => exact ⟨cmd, hcur, Option.some.inj hkind⟩
  · rw [hsame, hnone] at hset
    cases hset

end Engine

end VisualNovel
