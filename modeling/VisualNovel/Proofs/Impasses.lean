import VisualNovel.Proofs.Regards
import VisualNovel.Proofs.Safekeeping

/-!
# Ways out of waiting

An engine that waits for an effect has one that can be reported as done, and an engine that waits at
a menu has options that can be chosen: it is *answerable*. A renderer may fail at any intent that it
is sent, and the engine stays answerable (`Trial.answerable`), with two exceptions. The end of a
fade is sent when the effect is off already and the mode is still on it; the menu is cleared when
its options are gone and the mode still waits for one of them. If the renderer fails there, the
engine waits for nothing (`HostCall.BrokenOff.stuck`), until a snapshot is restored.
-/

namespace VisualNovel

open Script

variable {σ : Type}

namespace Engine

variable {e e' : Engine σ}

/-- What the engine waits for can be done. -/
structure Answerable (e : Engine σ) : Prop where
  effect : e.mode = .effectRunning → e.effect.isSome
  menu : e.mode = .awaitingChoice → e.menu.isSome

/-- An engine that is answerable stays so. -/
def Frees (e e' : Engine σ) : Prop :=
  e.Answerable → e'.Answerable

instance : IsPreorder (Engine σ) Frees where
  refl _ := id
  trans _ _ _ h h' := h' ∘ h

theorem answerable_of_mode (heffect : e.mode ≠ .effectRunning) (hmenu : e.mode ≠ .awaitingChoice) :
    e.Answerable :=
  ⟨fun h => absurd h heffect, fun h => absurd h hmenu⟩

theorem answerable_of_finished (h : e.finished = true) : e.Answerable := by
  have hmode : e.mode = .ended := by simpa [finished] using h
  exact answerable_of_mode (by simp [hmode]) (by simp [hmode])

theorem frees_of_same (hmode : e'.mode = e.mode) (heffect : e'.effect = e.effect)
    (hmenu : e'.menu = e.menu) : Frees e e' := by
  intro h
  refine ⟨?_, ?_⟩
  · rw [hmode, heffect]
    exact h.effect
  · rw [hmode, hmenu]
    exact h.menu

namespace Frees

theorem unconcerned : Unconcerned (Frees : Engine σ → Engine σ → Prop) where
  disk _ _ := frees_of_same rfl rfl rfl
  saves _ _ := frees_of_same rfl rfl rfl
  bus _ _ := frees_of_same rfl rfl rfl

theorem of_within (h : Within e e') : Frees e e' := by
  obtain ⟨x, rfl⟩ := h
  exact frees_of_same rfl rfl rfl

/-- A change of the surroundings does not free an engine that is stuck. -/
theorem of_within_symm (h : Within e e') : Frees e' e := by
  obtain ⟨x, rfl⟩ := h
  exact frees_of_same rfl rfl rfl

end Frees

/-- A change of what the engine does not wait for. -/
theorem modify_frees {f : Engine σ → Engine σ}
    (h : ∀ e, (f e).mode = e.mode ∧ (f e).effect = e.effect ∧ (f e).menu = e.menu) :
    Tracks Frees (modify f) :=
  .modify fun e => frees_of_same (h e).1 (h e).2.1 (h e).2.2

theorem timing_frees {α : Type} (act : Attempt TimedText α) :
    Tracks Frees (Action.attempt timedTextPlace act : Play σ α) :=
  .attempt fun _ _ => frees_of_same rfl rfl rfl

section
variable {c : Collaborators σ} (hc : c.Heeds Frees)
include hc

/-! ## Modes -/

theorem emit_frees (event : Event) : Tracks Frees (emit c event) :=
  emit_tracks Frees.unconcerned.unheard hc.deliver event

theorem setMode_answerable {mode : Mode} (h : ({ e with mode } : Engine σ).Answerable) :
    ((setMode c mode).perform e).2.Answerable := by
  by_cases hsame : e.mode = mode
  · subst hsame
    rw [setMode_same rfl]
    exact h
  · unfold setMode
    rw [Action.perform_get_bind]
    dsimp only
    rw [if_pos (by simpa using hsame), Action.perform_modify_bind]
    exact emit_frees hc _ _ h

/-- Nothing is waited for in the normal mode, and not while an engine loads or when it is done. -/
theorem setMode_settles (mode : Mode) (heffect : mode ≠ .effectRunning)
    (hmenu : mode ≠ .awaitingChoice) (e : Engine σ) :
    ((setMode c mode).perform e).2.Answerable :=
  setMode_answerable hc (answerable_of_mode heffect hmenu)

theorem enterLoading_answerable (e : Engine σ) : ((enterLoading c).perform e).2.Answerable := by
  unfold enterLoading
  rw [Action.perform_bind_ok (setMode_perform c .loading e), Action.perform_get_bind]
  refine Tracks.bind_at (R := Frees) (emit_frees hc _ _) (fun _ e₂ _ => ?_)
    (setMode_settles hc .loading (by decide) (by decide) e)
  exact hc.prepare _ e₂

/-- Whatever was waited for, nothing is when the session has ended. -/
theorem finish_answerable (e : Engine σ) : ((finish c).perform e).2.Answerable := by
  unfold finish
  rw [Action.perform_get_bind]
  cases hended : e.finished with
  | true => exact answerable_of_finished hended
  | false =>
    simp only [Bool.false_eq_true, if_false]
    rw [Action.perform_modify_bind, Action.perform_modify_bind,
      Action.perform_bind_ok (setMode_perform c .ended _), Action.perform_get_bind]
    refine Tracks.bind_at (R := Frees) (emit_frees hc _ _) (fun _ e₂ _ => ?_)
      (setMode_settles hc .ended (by decide) (by decide) _)
    exact hc.finished e₂

/-- An error ends the session, if it can be shown. -/
theorem fail_answerable (hshow : ∀ text e, ((c.showError text).perform e).1 = .ok ())
    (error : StoryError) (e : Engine σ) : ((fail c error).perform e).2.Answerable := by
  unfold fail
  rw [Action.perform_get_bind]
  cases hended : e.finished with
  | true => exact answerable_of_finished hended
  | false =>
    simp only [Bool.false_eq_true, if_false]
    rw [Action.perform_modify_bind, note, Action.perform_modify_bind,
      Action.perform_bind_ok (emit_perform c _ _)]
    generalize ((emit c (.failed error)).perform _).2 = e₁
    have hrun : (c.showError error.text).perform e₁ =
        (.ok (), ((c.showError error.text).perform e₁).2) := Prod.ext (hshow _ _) rfl
    rw [Action.perform_bind_ok hrun]
    refine Ends.state_iff.1 (Ends.bind_iff.2
      ((Ends.state_iff.2 (finish_answerable hc _)).mono (fun _ e₂ h₂ => ?_) fun _ _ h₂ => h₂))
    refine Ends.bind_iff.2 (Ends.get_iff.2 ?_)
    cases e₂.strict with
    | true => exact h₂
    | false => exact h₂

/-! ## Lines, menus and effects -/

theorem display_frees (text speaker : Value) (wait : Bool) :
    Tracks Frees (display c text speaker wait) := by
  have happear : Tracks Frees (display.appear text : Play σ Value) :=
    appear_tracks_of (timing_frees _) fun _ => frees_of_same rfl rfl rfl
  exact display_tracks_of (fun _ => hc.apply _) (fun _ => emit_frees hc _)
    (fun _ _ => frees_of_same rfl rfl rfl) (fun _ => frees_of_same rfl rfl rfl) (fun _ => happear)
    speaker

/-- The options are there before the mode says that they are waited for. -/
theorem present_frees (options : List ChoiceOption) (line : Value) :
    Tracks Frees (present c options line) := by
  intro e _
  refine present_tracks_from (fun _ => hc.apply _) (fun _ => emit_frees hc _)
    (display_frees hc line .null false) e ?_
  exact setMode_answerable hc ⟨nofun, fun _ => rfl⟩

/-- The effect is there before the mode says that it is waited for. -/
theorem hold_frees (kind : IntentKind) (payload : Table String Value) :
    Tracks Frees (hold c kind payload) := by
  intro e h
  unfold hold
  rw [Action.perform_modify_bind]
  refine Tracks.bind_at (R := Frees) (fun _ => setMode_answerable hc ⟨fun _ => rfl, nofun⟩)
    (fun _ e₁ _ => ?_) ⟨fun _ => rfl, h.menu⟩
  exact hc.apply _ e₁

theorem settle_frees (outcome : Outcome) : Tracks Frees (settle c outcome) := by
  have hcomplete : Tracks Frees (completeBeat : Play σ Unit) :=
    modify_frees fun _ => ⟨rfl, rfl, rfl⟩
  cases outcome with
  | proceed intents =>
    have hsends : Tracks Frees (intents.forM fun i => c.apply (some i)) :=
      .forM fun i _ => hc.apply (some i)
    exact hsends.bind fun _ => hcomplete
  | stay => exact .pure
  | hold kind payload => exact hold_frees hc kind payload
  | ask options line => exact present_frees hc options line
  | call args => exact (hc.systemCall args).bind fun _ => hcomplete

theorem execute_frees (cmd : Script.Command) : Tracks Frees (execute c cmd) := by
  unfold execute
  cases Command.wellFormed cmd with
  | false => exact fun e => refl_of Frees e
  | true =>
    exact (emit_frees hc _).bind fun _ =>
      Tracks.bind (.onPart fun _ _ => frees_of_same rfl rfl rfl) (settle_frees hc)

theorem sendReveal_frees : Tracks Frees (sendReveal c) := by
  refine .get_bind fun e => ?_
  dsimp only
  split
  · refine Tracks.bind (modify_frees ?_) (fun _ => ?_) e
    · exact fun _ => ⟨rfl, rfl, rfl⟩
    exact .bind .ofMishap fun _ => .bind .ofMishap fun _ => hc.apply _
  · exact refl_of Frees e

omit hc in
theorem passLine_frees : Tracks Frees (HostCall.passLine : Play σ Bool) := by
  refine .get_bind fun e => ?_
  cases e.showsLine with
  | false => exact refl_of Frees e
  | true =>
    refine Tracks.bind (modify_frees ?_) (fun _ => ?_) e
    · exact fun _ => ⟨rfl, rfl, rfl⟩
    refine .bind (modify_frees fun _ => ⟨rfl, rfl, rfl⟩) fun _ => ?_
    exact .bind (modify_frees fun _ => ⟨rfl, rfl, rfl⟩) fun _ => .pure

omit hc in
theorem setFlag_frees (name value : Value) : Tracks Frees (setFlag name value : Play σ Unit) :=
  .bind .ofMishap fun _ => .bind .ofMishap fun _ => modify_frees fun _ => ⟨rfl, rfl, rfl⟩

end

/-- What is done when an option is taken, before the story goes on. -/
def leaveMenu (c : Collaborators σ) (place : Nat) (option : ChoiceOption) : Play σ Unit := do
  emit c (.choiceSelected place option.text)
  send c .clearChoices
  follow option
  modify (mapSession Session.release)
  setMode c .normal

end Engine

namespace HostCall

open Engine

/-- The call takes what the engine waits for, and a mishap stops it before the engine waits for
nothing: a fade is over and its end cannot be shown, or an option is taken and the menu cannot be
cleared. -/
def BrokenOff (c : Collaborators σ) (e : Engine σ) : HostCall → Prop
  | effectFinished id => e.mode = .effectRunning ∧ ∃ effect f, e.effect = some effect ∧
      isEffect id effect ∧ ((leaveEffect c effect).perform { e with effect := none }).1 = .error f
  | choose index => e.mode = .awaitingChoice ∧ ∃ options place option m, e.menu = some options ∧
      placeOf index options.length = .ok place ∧ options[place]? = some option ∧
      ((leaveMenu c place option).perform { e with menu := none }).1 = .error (.mishap m)
  | _ => False

section
variable {c : Collaborators σ} {e : Engine σ} (hc : c.Heeds Frees)
include hc

/-- If the end of an effect can be shown, the engine is in the normal mode then. -/
theorem leaveEffect_answerable (effect : Intent) :
    Ends (leaveEffect c effect) e (fun _ e' => e'.Answerable) fun _ _ => True := by
  have hrest : ∀ e : Engine σ, Ends (do
      modify (mapSession Session.release)
      setMode c .normal
      completeBeat
      return true) e (fun _ e' => e'.Answerable) fun _ _ => True := by
    intro e
    have hset := setMode_settles hc .normal (by decide) (by decide) (e.mapSession Session.release)
    refine Ends.bind_iff.2 (Ends.modify_iff.2 (Ends.bind_iff.2
      ((Ends.state_iff.2 hset).mono (fun _ e₁ h₁ => ?_) fun _ _ _ => trivial)))
    exact Ends.bind_iff.2 (Ends.modify_iff.2 (frees_of_same (e := e₁) rfl rfl rfl h₁))
  unfold leaveEffect
  split
  · exact Ends.bind_iff.2 (Ends.iff_perform.2 ⟨fun _ e₁ _ => hrest e₁, fun _ _ _ => trivial⟩)
  · exact hrest e

theorem endEffect_frees {id : Value} (h : ¬(effectFinished id).BrokenOff c e) :
    Frees e ((endEffect c id).perform e).2 := by
  unfold endEffect
  rw [Action.perform_get_bind]
  split
  · exact frees_of_same rfl rfl rfl
  · next effect heffect =>
    intro _
    obtain ⟨hrunning, htaken⟩ := Option.filter_eq_some_iff.1 heffect
    simp only [Bool.and_eq_true, beq_iff_eq] at htaken
    rw [Action.perform_modify_bind]
    have hends := Ends.iff_perform.1
      (leaveEffect_answerable (e := { e with effect := none }) hc effect)
    rcases hrun : (leaveEffect c effect).perform { e with effect := none } with ⟨f | go, e'⟩
    · exact absurd ⟨htaken.1, effect, f, hrunning, htaken.2, by rw [hrun]⟩ h
    · have hstate : ((leaveEffect c effect).perform { e with effect := none }).2 = e' := by
        rw [hrun]
      have hanswerable := hends.1 go e' hrun
      rw [← hstate] at hanswerable
      exact hanswerable

/-- If an option can be taken, the engine is in the normal mode then. -/
theorem leaveMenu_answerable (place : Nat) (option : ChoiceOption) :
    Ends (leaveMenu c place option) e (fun _ e' => e'.Answerable) fun _ _ => True := by
  refine Ends.bind_iff.2 (Ends.iff_perform.2 ⟨fun _ e₁ _ => ?_, fun _ _ _ => trivial⟩)
  refine Ends.bind_iff.2 (Ends.iff_perform.2 ⟨fun _ e₂ _ => ?_, fun _ _ _ => trivial⟩)
  refine Ends.bind_iff.2 (Ends.iff_perform.2 ⟨fun _ e₃ _ => ?_, fun _ _ _ => trivial⟩)
  refine Ends.bind_iff.2 (Ends.modify_iff.2 ?_)
  exact (Ends.state_iff.2 (setMode_settles hc .normal (by decide) (by decide) _)).mono
    (fun _ _ h => h) fun _ _ _ => trivial

omit hc in
theorem place_perform {index : Value} {count place : Nat}
    (hplace : placeOf index count = .ok place) :
    (Action.ofExcept (placeOf index count) : Play σ Nat).perform e = (.ok place, e) := by
  rw [hplace]
  rfl

omit hc in
theorem pick_perform {options : List ChoiceOption} {index : Value} {place : Nat}
    {option : ChoiceOption} (hplace : placeOf index options.length = .ok place)
    (hoption : options[place]? = some option) :
    (pick c options index).perform e =
      (leaveMenu c place option).perform { e with menu := none } := by
  unfold pick
  rw [Action.perform_bind_ok (place_perform hplace)]
  simp only [hoption]
  rfl

/-- An option that cannot be taken leaves the menu as it is, unless the taking of it breaks off. -/
theorem pick_frees {options : List ChoiceOption} {index : Value} (hmenu : e.menu = some options)
    (hmode : e.mode = .awaitingChoice) (h : ¬(choose index).BrokenOff c e) :
    Ends (pick c options index) e (fun _ e' => Frees e e')
      fun f e' => (∃ error, f = .story error) ∨ Frees e e' := by
  cases hplace : placeOf index options.length with
  | error f =>
    have hrun : (pick c options index).perform e = (.error f, e) := by
      unfold pick
      exact Action.perform_bind_error (by rw [hplace]; rfl)
    exact Ends.of_perform_eq hrun (.inr (refl_of Frees e))
  | ok place =>
    cases hoption : options[place]? with
    | none =>
      have hrun : (pick c options index).perform e = (.ok (), e) := by
        unfold pick
        rw [Action.perform_bind_ok (place_perform hplace)]
        simp only [hoption]
        rfl
      exact Ends.of_perform hrun (refl_of Frees e)
    | some option =>
      have hends := Ends.iff_perform.1
        (leaveMenu_answerable (e := { e with menu := none }) hc place option)
      refine Ends.iff_perform.2 ⟨fun _ e' hrun => ?_, fun f e' hrun => ?_⟩
      · rw [pick_perform hplace hoption] at hrun
        exact fun _ => hends.1 _ e' hrun
      · rw [pick_perform hplace hoption] at hrun
        cases f with
        | story error => exact .inl ⟨error, rfl⟩
        | mishap m =>
          exact absurd ⟨hmode, options, place, option, m, hmenu, hplace, hoption, by rw [hrun]⟩ h

variable (hshow : ∀ text e, ((c.showError text).perform e).1 = .ok ())
include hshow

theorem takeOption_frees {index : Value} (h : ¬(choose index).BrokenOff c e) :
    Frees e ((takeOption c index).perform e).2 := by
  unfold takeOption
  rw [Action.perform_get_bind]
  split
  · exact frees_of_same rfl rfl rfl
  · next options hoptions =>
    obtain ⟨hmenu, hwaits⟩ := Option.filter_eq_some_iff.1 hoptions
    have hmode : e.mode = .awaitingChoice := by simpa using hwaits
    refine fun hfree => Ends.state_iff.1 (Ends.bind_iff.2 (Ends.outcome_iff.2
      ((pick_frees hc hmenu hmode h).mono (fun _ e' hfrees => ?_) fun f e' hfrees => ?_)))
    · exact hfrees hfree
    · rcases f with error | m
      · have hfailed := fail_answerable hc hshow error e'
        exact Ends.bind_iff.2 ((Ends.state_iff.2 hfailed).mono (fun _ _ h => h) fun _ _ h => h)
      · exact hfrees.resolve_left nofun hfree

/-! ## Calls -/

/-- What a call does before it plays on. -/
theorem opening_frees {call : HostCall} (hcall : call.loads = false) (h : ¬call.BrokenOff c e) :
    Frees e ((call.opening c).perform e).2 := by
  cases call with
  | resourcesReady =>
    refine Tracks.get_bind (R := Frees) (fun e => ?_) e
    dsimp only
    split
    · exact frees_of_same rfl rfl rfl
    · exact Tracks.bind_at (R := Frees)
        (fun _ => setMode_settles hc .normal (by decide) (by decide) e)
        fun _ e' _ => refl_of Frees e'
  | step => exact refl_of Frees e
  | advance => exact passLine_frees e
  | requestAdvance =>
    refine Tracks.get_bind (R := Frees) (fun e => ?_) e
    cases e.showsLine with
    | false => exact refl_of Frees e
    | true =>
      refine Tracks.bind (timing_frees _) (fun fired => ?_) e
      cases fired with
      | true => exact passLine_frees
      | false => exact (sendReveal_frees hc).bind fun _ => .pure
  | tick dt =>
    refine Tracks.get_bind (R := Frees) (fun e => ?_) e
    cases e.showsLine with
    | false => exact refl_of Frees e
    | true =>
      refine Tracks.bind (timing_frees _) (fun fired => ?_) e
      refine (sendReveal_frees hc).bind fun _ => ?_
      cases fired with
      | true => exact passLine_frees
      | false => exact .pure
  | choose index => exact takeOption_frees hc hshow h
  | effectFinished id => exact endEffect_frees hc h
  | reportResourceError message =>
    refine Tracks.bind_at (R := Frees) (Tracks.get_bind (fun e => ?_) e) fun _ e' _ =>
      refl_of Frees e'
    exact fun _ => fail_answerable hc hshow _ e
  | setFlag name value =>
    exact Tracks.bind_at (R := Frees) (setFlag_frees name value e) fun _ e' _ => refl_of Frees e'
  | saveToSlot | quicksave | autosave =>
    exact Tracks.bind_at (R := Frees)
      (saves_tracks Frees.unconcerned.toIncidental c rfl e) fun _ e' _ => refl_of Frees e'
  | loadFromSlot | quickload | restore => cases hcall

theorem step_frees : Tracks Frees (Engine.step c) := by
  refine step_tracks (refl_of Frees) fun e _ _ => ?_
  have hfail : ∀ error, Tracks Frees (fail c error) := fun error e _ =>
    fail_answerable hc hshow error e
  have hplay := orFail_tracks hfail (playBeats_tracks_of (R := Frees)
    (fun e _ => finish_answerable hc e) (fun e d _ _ => display_frees hc d.text d.speaker true e)
    (fun e cmd _ _ => execute_frees hc cmd e) turnsPerStep commandBudget)
  intro h
  exact frees_of_same (e := ((orFail c (playBeats c turnsPerStep commandBudget)).perform
    { e with stepping := true }).2) rfl rfl rfl
    (hplay { e with stepping := true } ⟨h.effect, h.menu⟩)

/-- A call that takes over no snapshot leaves the engine answerable, unless it breaks off. -/
theorem run_frees {call : HostCall} (hcall : call.loads = false) (h : ¬call.BrokenOff c e) :
    Frees e ((call.run c).perform e).2 := by
  rw [run_eq]
  refine Tracks.bind_at (R := Frees) (opening_frees hc hshow hcall h) fun go e' _ => ?_
  cases go with
  | false => exact refl_of Frees e'
  | true => exact (step_frees hc hshow).discard e'

end

/-! ## Loading -/

section
variable {c : Collaborators σ} {e : Engine σ} (hc : c.Heeds Frees)
include hc

/-- What was waited for before is waited for no more when a snapshot has been taken over. -/
theorem restore_answerable (t : Snapshot) (e : Engine σ) :
    Ends (Engine.restore c t) e (fun _ e' => e'.Answerable)
      fun f e' => Frees e e' ∨ e.Tears t f e' := by
  refine restore_ends ((scriptOf_ends t e.stage).mono (fun _ _ h => h) ?_) ?_ ?_
  · rintro _ _ ⟨library, rfl⟩
    exact .inl (frees_of_same rfl rfl rfl)
  · rintro script _ error ⟨library, rfl⟩ -
    exact .inl (frees_of_same rfl rfl rfl)
  · rintro cursor _ ⟨library, hlibrary⟩ -
    refine Ends.iff_perform.2 ⟨fun _ s' _ => ?_, fun f s' hrun => ?_⟩
    · exact (Ends.state_iff.2 (enterLoading_answerable hc _)).mono (fun _ _ h => h)
        fun _ _ h => .inl fun _ => h
    · subst hlibrary
      exact .inr ⟨cursor, { e.stage with library }, rfl, hrun⟩

theorem loadFrom_answerable (read : Attempt Disk (Option Value)) (e : Engine σ) :
    Ends (loadFrom c read) e (fun loaded e' => Frees e e' ∧ (loaded → e'.Answerable))
      fun f e' => Frees e e' ∨ ∃ t, Holds read e.stage.disk t ∧ e.Tears t f e' := by
  have hdisk : ∀ d, Frees e (diskPlace.set d e) := Frees.unconcerned.disk e
  refine loadFrom_ends (fun _ d _ _ => .inl (hdisk d)) (fun _ d _ => ⟨hdisk d, nofun⟩)
    fun data t d hread hof => ?_
  refine (restore_answerable hc t _).mono (fun _ _ h => ⟨fun _ => h, fun _ => h⟩) ?_
  rintro f e' (hfrees | htears)
  · exact .inl (trans_of Frees (hdisk d) hfrees)
  · exact .inr ⟨t, ⟨data, d, hread, hof⟩, htears⟩

/-- A call that takes over a snapshot leaves the engine answerable whether it was so before or not.
-/
theorem load_answerable {call : HostCall} (hcall : call.loads) (e : Engine σ) :
    Ends (call.load c) e (fun loaded e' => Frees e e' ∧ (loaded → e'.Answerable))
      fun f e' => Frees e e' ∨ ∃ t, call.Brings e t ∧ e.Tears t f e' := by
  cases call with
  | loadFromSlot slot =>
    refine withStore_ends (fun _ => ⟨frees_of_same rfl rfl rfl, nofun⟩) fun store hstore =>
      Ends.bind_iff.2 (Ends.ofMishap_iff.2 ⟨fun n hn => ?_, fun _ _ => .inl (refl_of Frees e)⟩)
    refine (loadFrom_answerable hc _ e).mono (fun _ _ h => h) fun f e' h => h.imp_right ?_
    exact fun ⟨t, hheld, htears⟩ => ⟨t, ⟨store, n, hstore, hn, hheld⟩, htears⟩
  | quickload =>
    refine withStore_ends (fun _ => ⟨frees_of_same rfl rfl rfl, nofun⟩) fun store hstore => ?_
    refine (loadFrom_answerable hc _ e).mono (fun _ _ h => h) fun f e' h => h.imp_right ?_
    exact fun ⟨t, hheld, htears⟩ => ⟨t, ⟨store, hstore, hheld⟩, htears⟩
  | restore t =>
    refine Ends.bind_iff.2 ((restore_answerable hc t e).mono
      (fun _ _ h => ⟨fun _ => h, fun _ => h⟩) fun f e' h =>
      h.imp_right fun htears => ⟨t, rfl, htears⟩)
  | _ => cases hcall

/-- A call that takes over a snapshot and is not torn leaves the engine answerable. -/
theorem load_frees {call : HostCall} (hcall : call.loads) (h : ¬call.Torn c e) :
    Frees e ((call.run c).perform e).2 := by
  have hload := Ends.iff_perform.1 (load_answerable hc hcall e)
  rw [run_eq_discard_load, discard_eq]
  rcases hrun : (call.load c).perform e with ⟨f | loaded, e'⟩
  · rw [Action.perform_bind_error hrun]
    refine (hload.2 f e' hrun).resolve_right ?_
    exact fun ⟨t, hbrings, htears⟩ => h ⟨t, f, e', hbrings, hrun, htears⟩
  · rw [Action.perform_bind_ok hrun]
    exact (hload.1 loaded e' hrun).1

end

/-! ## Breaking off -/

section
variable {c : Collaborators σ} {e : Engine σ} (hc : c.Heeds Within)
include hc

/-- Whoever does not call back does not free an engine that is stuck. -/
theorem leaveEffect_stops (effect : Intent) :
    Ends (leaveEffect c effect) e (fun _ _ => True) fun _ e' => Frees e' e := by
  have hrest : ∀ e' : Engine σ, Ends (do
      modify (mapSession Session.release)
      setMode c .normal
      completeBeat
      return true) e' (fun _ _ => True) fun _ e' => Frees e' e := fun e' =>
    Ends.bind_iff.2 (Ends.modify_iff.2 (Ends.bind_iff.2
      (Ends.of_perform (setMode_perform c .normal _) trivial)))
  unfold leaveEffect
  split
  · refine Ends.bind_iff.2 (Ends.iff_perform.2 ⟨fun _ e' _ => hrest e', fun f e' hrun => ?_⟩)
    have hwithin :
        Within e ((send c .fadeEnd [("direction", effect.get "direction")]).perform e).2 :=
      hc.apply _ e
    rw [hrun] at hwithin
    exact Frees.of_within_symm hwithin
  · exact hrest e

omit hc in
theorem follow_stops (option : ChoiceOption) :
    Ends (follow option) e (fun _ e' => Frees e' e) fun _ e' => Frees e' e := by
  unfold follow
  split
  · refine Ends.bind_iff.2 (Ends.ofMishap_iff.2 ⟨fun _ _ => ?_, fun _ _ => refl_of Frees e⟩)
    exact Ends.bind_iff.2 (Ends.modify_iff.2 (frees_of_same rfl rfl rfl))
  · exact Ends.state_iff.2 (frees_of_same rfl rfl rfl)

theorem leaveMenu_stops (place : Nat) (option : ChoiceOption) :
    Ends (leaveMenu c place option) e (fun _ _ => True) fun _ e' => Frees e' e := by
  refine Ends.bind_iff.2 (Ends.of_perform (emit_perform c _ e) ?_)
  have htold := Frees.of_within_symm (emit_within hc.deliver (.choiceSelected place option.text) e)
  refine Ends.bind_iff.2 ((Tracks.iff_ends.1 (hc.apply _) _).mono (fun _ e₂ h₂ => ?_)
    fun _ e₂ h₂ => trans_of Frees (Frees.of_within_symm h₂) htold)
  have hcleared := trans_of Frees (Frees.of_within_symm h₂) htold
  refine Ends.bind_iff.2 ((follow_stops option).mono (fun _ e₃ h₃ => ?_)
    fun _ e₃ h₃ => trans_of Frees h₃ hcleared)
  exact Ends.bind_iff.2 (Ends.modify_iff.2 (Ends.of_perform (setMode_perform c .normal _) trivial))

/-- A call that breaks off leaves an engine that waits for nothing. -/
theorem BrokenOff.stuck {call : HostCall} (h : call.BrokenOff c e) :
    ¬((call.run c).perform e).2.Answerable := by
  rw [run_eq]
  cases call with
  | effectFinished id =>
    obtain ⟨hmode, effect, f, heffect, hid, hfails⟩ := h
    rcases hrun : (leaveEffect c effect).perform { e with effect := none } with ⟨r, e'⟩
    rw [hrun] at hfails
    cases hfails
    have hopening : ((effectFinished id).opening c).perform e = (.error f, e') := by
      unfold opening endEffect
      rw [Action.perform_get_bind, heffect]
      simp only [Option.filter_some, hmode, hid, beq_self_eq_true, Bool.and_self, if_true]
      rw [Action.perform_modify_bind]
      exact hrun
    have hfree := (Ends.iff_perform.1 (leaveEffect_stops hc effect)).2 f e' hrun
    rw [Action.perform_bind_error hopening]
    intro h
    exact absurd ((hfree h).effect hmode) (by simp)
  | choose index =>
    obtain ⟨hmode, options, place, option, m, hmenu, hplace, hoption, hfails⟩ := h
    rcases hrun : (leaveMenu c place option).perform { e with menu := none } with ⟨r, e'⟩
    rw [hrun] at hfails
    cases hfails
    have hopening : ((choose index).opening c).perform e = (.error (.mishap m), e') := by
      unfold opening takeOption
      rw [Action.perform_get_bind, hmenu]
      simp only [Option.filter_some, hmode, beq_self_eq_true, if_true]
      rw [Action.perform_bind_ok Action.perform_outcome, pick_perform hplace hoption, hrun]
      rfl
    have hfree := (Ends.iff_perform.1 (leaveMenu_stops hc place option)).2 _ e' hrun
    rw [Action.perform_bind_error hopening]
    intro h
    exact absurd ((hfree h).menu hmode) (by simp)
  | _ => exact h.elim

end

end HostCall

/-! ## Runs -/

/-- A run of a session whose collaborators may fail: it is set up and starts to load, the host makes
calls of it however they end, and its surroundings change in between. The flag is up from a call on
that breaks off, or that is torn, until a snapshot is taken over again. -/
inductive Trial (c : Collaborators σ) (setup : Engine.Setup) (outside : σ) :
    Bool → Engine σ → Prop where
  | start {e : Engine σ} : Engine.ofSetup setup outside = .ok e →
    Trial c setup outside false ((Engine.enterLoading c).perform e).2
  | call {stopped : Bool} {e : Engine σ} (call : HostCall) : Trial c setup outside stopped e →
    ¬call.BrokenOff c e → ¬call.Torn c e →
    Trial c setup outside stopped ((call.run c).perform e).2
  | stopped {stopped : Bool} {e : Engine σ} (call : HostCall) : Trial c setup outside stopped e →
    call.BrokenOff c e ∨ call.Torn c e →
    Trial c setup outside true ((call.run c).perform e).2
  | loaded {stopped : Bool} {e e' : Engine σ} (call : HostCall) : Trial c setup outside stopped e →
    (call.load c).perform e = (.ok true, e') → Trial c setup outside false e'
  | around {stopped : Bool} {e : Engine σ} (x : Surroundings σ) : Trial c setup outside stopped e →
    Trial c setup outside stopped (e.within x)

/-- However the calls of a run end, the engine stays answerable, as long as no call broke off or was
torn since a snapshot was taken over. A call that breaks off leaves an engine that is not. -/
theorem Trial.answerable {c : Collaborators σ} (hc : c.Heeds Engine.Frees)
    (hshow : ∀ text e, ((c.showError text).perform e).1 = .ok ())
    {setup : Engine.Setup} {outside : σ}
    {stopped : Bool} {e : Engine σ} (h : Trial c setup outside stopped e) :
    (stopped = false → e.Answerable) ∧ (c.Heeds Within →
      ∀ call : HostCall, call.BrokenOff c e → ¬((call.run c).perform e).2.Answerable) := by
  refine ⟨?_, fun hw call hbroken => hbroken.stuck hw⟩
  induction h with
  | start => exact fun _ => Engine.enterLoading_answerable hc _
  | @call stopped e call _ hbroken htorn ih =>
    intro hstopped
    cases hcall : call.loads with
    | false => exact call.run_frees hc hshow hcall hbroken (ih hstopped)
    | true => exact call.load_frees hc hcall htorn (ih hstopped)
  | stopped => exact nofun
  | @loaded stopped e e' call _ hrun ih =>
    intro _
    cases hcall : call.loads with
    | false =>
      have hfalse : Ends (call.load c) e (fun loaded _ => loaded = false) fun _ _ => True := by
        rw [HostCall.load_of_not_loads hcall]
        exact Ends.bind_iff.2 (Ends.iff_perform.2 ⟨fun _ _ _ => rfl, fun _ _ _ => trivial⟩)
      exact absurd ((Ends.iff_perform.1 hfalse).1 true e' hrun) (by decide)
    | true => exact ((Ends.iff_perform.1 (call.load_answerable hc hcall e)).1 true e' hrun).2 rfl
  | around x _ ih => exact fun hstopped => Engine.Frees.of_within ⟨x, rfl⟩ (ih hstopped)

/-! ## A renderer that fails -/

/-- Collaborators that write down the intents that are sent to them, and fail at those of a kind. -/
def Collaborators.failing (kind : IntentKind) : Collaborators (List Intent) :=
  { Collaborators.recording with
    apply := fun i =>
      if i.any (·.kind == kind) then throw (.mishap .gaveUp) else Collaborators.recording.apply i }

theorem Collaborators.failing_heeds (kind : IntentKind) : (failing kind).Heeds Within where
  prepare _ e := refl_of Within e
  apply i := by
    unfold failing
    dsimp only
    split
    · exact fun e => refl_of Within e
    · exact fun e => ⟨{ e.surroundings with outside := e.outside ++ i.toList }, rfl⟩
  showError _ e := refl_of Within e
  deliver _ _ e := refl_of Within e
  systemCall _ e := refl_of Within e
  finished e := refl_of Within e

namespace Trial

/-- A story that asks before its first line, as it is written. -/
def askingDocument : Value :=
  .record [(.text "start", .list [.text ".jumponchoice:a:one:b:two"]),
    (.text "one", .list [.text "One"]), (.text "two", .list [.text "Two"])]

/-- The story as it is played. -/
def asking : Engine.Setup :=
  { script := (compile askingDocument (.text "asking")).toOption.getD default }

/-- The engine of a set-up after some calls, however they ended. -/
def playing (c : Collaborators (List Intent)) (setup : Engine.Setup) (calls : List HostCall) :
    Option (Engine (List Intent)) :=
  (Engine.ofSetup setup []).toOption.map fun e =>
    HostCall.runAll c calls ((Engine.enterLoading c).perform e).2

/-- Whether the renderer has given up in a call. -/
def gaveUp (r : Except Fault Unit) : Bool :=
  match r with
  | .error (.mishap .gaveUp) => true
  | _ => false

/-- The renderer fails when a fade begins, and the fade can be reported as done all the same. -/
theorem answerable_fading : ∃ e : Engine (List Intent),
    playing (.failing .fadeBegin) Engine.fading [] = some e ∧
      gaveUp ((HostCall.resourcesReady.run (.failing .fadeBegin)).perform e).1 ∧
      ((HostCall.resourcesReady.run (.failing .fadeBegin)).perform e).2.mode = .effectRunning ∧
      ((HostCall.resourcesReady.run (.failing .fadeBegin)).perform e).2.effect.isSome := by
  have hplays : (playing (.failing .fadeBegin) Engine.fading []).map (fun e =>
      gaveUp ((HostCall.resourcesReady.run (.failing .fadeBegin)).perform e).1 &&
        ((HostCall.resourcesReady.run (.failing .fadeBegin)).perform e).2.mode ==
          .effectRunning) = some true := by
    decide +kernel
  obtain ⟨e, he, hplays⟩ := Option.map_eq_some_iff.1 hplays
  simp only [Bool.and_eq_true, beq_iff_eq] at hplays
  obtain ⟨e₀, hsetup, hloaded⟩ := Option.map_eq_some_iff.1 he
  rw [toOption_eq_some] at hsetup
  have htrial : Trial (.failing .fadeBegin) Engine.fading [] false e := by
    rw [← hloaded]
    exact .start hsetup
  have hready := htrial.call .resourcesReady id fun ⟨_, _, _, hbrings, _⟩ => hbrings
  have hanswerable := (answerable ((Collaborators.failing_heeds .fadeBegin).mono
    Engine.Frees.of_within) (fun _ _ => rfl) hready).1 rfl
  exact ⟨e, he, hplays.1, hplays.2, hanswerable.effect hplays.2⟩

/-- A renderer that fails at the end of a fade leaves an engine that waits for no effect, and one
that fails to clear the menu leaves an engine that waits for a choice without options. -/
theorem failing_wedges :
    (∃ e, playing (.failing .fadeEnd) Engine.fading [.resourcesReady, .effectFinished (.int 1)] =
      some e ∧ e.mode = .effectRunning ∧ e.effect = none) ∧
    ∃ e, playing (.failing .clearChoices) asking [.resourcesReady, .choose (.int 0)] = some e ∧
      e.mode = .awaitingChoice ∧ e.menu = none := by
  have hfade : (playing (.failing .fadeEnd) Engine.fading
      [.resourcesReady, .effectFinished (.int 1)]).map
      (fun e => e.mode == .effectRunning && e.effect.isNone) = some true := by
    decide +kernel
  have hmenu : (playing (.failing .clearChoices) asking [.resourcesReady, .choose (.int 0)]).map
      (fun e => e.mode == .awaitingChoice && e.menu.isNone) = some true := by
    decide +kernel
  obtain ⟨e, he, hfade⟩ := Option.map_eq_some_iff.1 hfade
  obtain ⟨e', he', hmenu⟩ := Option.map_eq_some_iff.1 hmenu
  simp only [Bool.and_eq_true, beq_iff_eq, Option.isNone_iff_eq_none] at hfade hmenu
  exact ⟨⟨e, he, hfade⟩, e', he', hmenu⟩

end Trial

end VisualNovel
