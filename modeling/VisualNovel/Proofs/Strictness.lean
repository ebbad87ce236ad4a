import VisualNovel.Proofs.Headless
import VisualNovel.Proofs.Lifecycle

/-!
# Strictness

A strict engine passes the error that ends a session on to the caller. `Engine.fail` does that last,
when everything is changed and told, and nothing else looks whether an engine is strict. In a lax
engine `Engine.fail` returns instead, and so do the functions around it: what they do on the way
out finds an engine that has ended, and leaves it as it is (`Coasts`).

An action is *candid* if it does in a strict engine what it does in a lax one, up to that error.
Every call of a host is (`HostCall.answer_candid`), and so is a session that is driven without a
screen (`Engine.driven_candid`).
-/

namespace VisualNovel

open Script

variable {σ α β : Type}

/-- The engine, made strict or lax. -/
def Engine.strictly (b : Bool) (e : Engine σ) : Engine σ :=
  { e with strict := b }

theorem Engine.guised_strictly (b : Bool) :
    guised [] id (fun _ => b) = (strictly b : Engine σ → Engine σ) :=
  funext fun e => guised_nil _ _ e

/-- The collaborators do not call back, however they end, and do not look whether the engine is
strict. -/
structure Collaborators.Discreet (c : Collaborators σ) : Prop where
  prepare : ∀ scene, Tracks Within (c.prepare scene)
  apply : ∀ i, Tracks Within (c.apply i)
  showError : ∀ text, Tracks Within (c.showError text)
  deliver : ∀ id event, Tracks Within (c.deliver id event)
  systemCall : ∀ args, Tracks Within (c.systemCall args)
  finished : Tracks Within c.finished
  heedless : ∀ b, c.Heedless (Engine.strictly b)

/-- The error that is recorded, if there is one, has ended the session. -/
def Engine.Honest (e : Engine σ) : Prop :=
  e.error = none ∨ e.mode = .ended

/-- From one engine to the other, the session has ended with the error. -/
def Engine.EndedWith (error : StoryError) (e e' : Engine σ) : Prop :=
  e.mode ≠ .ended ∧ e'.mode = .ended ∧ e'.error = some error

/-- In the engine made strict the action ends as it does in the engine, unless it ends the session
with an error: that it raises. -/
structure RaisesEnd (act : Play σ α) (e : Engine σ) : Prop where
  result : (act.perform (e.strictly true)).1 = (act.perform e).1 ∨
    ∃ a error, (act.perform e).1 = .ok a ∧ Engine.EndedWith error e (act.perform e).2 ∧
      (act.perform (e.strictly true)).1 = .error (.story error)
  raised : e.Honest → ∀ a error, (act.perform e).1 = .ok a →
    Engine.EndedWith error e (act.perform e).2 →
      (act.perform (e.strictly true)).1 = .error (.story error)

/-- No new error was recorded. -/
def KeepsError (e e' : Engine σ) : Prop :=
  e'.error = e.error ∨ e'.error = none

namespace KeepsError

instance : IsPreorder (Engine σ) KeepsError where
  refl _ := .inl rfl
  trans _ _ _ h h' := by
    rcases h' with h' | h'
    · exact h.imp h'.trans h'.trans
    · exact .inr h'

theorem lenient : Lenient (KeepsError : Engine σ → Engine σ → Prop) where
  disk _ _ := .inl rfl
  saves _ _ := .inl rfl
  bus _ _ := .inl rfl
  stage _ _ := .inl rfl
  awaiting _ _ := .inl rfl
  menu _ _ := .inl rfl
  backlog _ _ := .inl rfl
  dropped _ := .inl rfl
  mode _ _ := .inl rfl
  cleared _ := .inr rfl

theorem of_within {e e' : Engine σ} (h : Within e e') : KeepsError e e' :=
  .inl h.error

end KeepsError

namespace Collaborators.Discreet

variable {c : Collaborators σ} (hc : c.Discreet)
include hc

theorem track : c.Track KeepsError where
  prepare scene := (hc.prepare scene).mono .of_within
  apply i _ := (hc.apply i).mono .of_within
  applyNothing := (hc.apply none).mono .of_within
  showError text := (hc.showError text).mono .of_within
  deliver id event := (hc.deliver id event).mono .of_within
  systemCall args := (hc.systemCall args).mono .of_within
  finished := hc.finished.mono .of_within

theorem guised (b : Bool) : c.Heedless (Engine.guised [] id fun _ => b) := by
  rw [Engine.guised_strictly]
  exact hc.heedless b

end Collaborators.Discreet

theorem Engine.ofSetup_strictly (setup : Setup) (outside : σ) (b : Bool) :
    ofSetup { setup with strict := b } outside = (ofSetup setup outside).map (strictly b) := by
  show (initialStage setup.script setup.config >>= _) =
    (initialStage setup.script setup.config >>= _).map _
  cases initialStage setup.script setup.config with
  | error f => rfl
  | ok stage => rfl

theorem Engine.ofSetup_fresh {setup : Setup} {outside : σ} {e : Engine σ}
    (h : ofSetup setup outside = .ok e) : e.strict = setup.strict ∧ e.error = none := by
  unfold ofSetup at h
  cases hstage : initialStage setup.script setup.config with
  | error f =>
    rw [hstage] at h
    cases h
  | ok stage =>
    rw [hstage] at h
    cases h
    exact ⟨rfl, rfl⟩

/-! ## Neutral actions -/

namespace Oblivious

variable {act : Play σ α} (h : ∀ b, Oblivious (Engine.guised [] id fun _ => b) act)
include h

theorem strictly (e : Engine σ) (b : Bool) :
    act.perform (e.strictly b) = ((act.perform e).1, (act.perform e).2.strictly b) := by
  have hrun := (h b).perform e
  rwa [Engine.guised_strictly] at hrun

theorem lax {e : Engine σ} (he : e.strict = false) : (act.perform e).2.strict = false := by
  have hsame : e.strictly false = e := by
    rw [Engine.strictly, ← he]
  have hrun := strictly h e false
  rw [hsame] at hrun
  rw [hrun]
  rfl

end Oblivious

/-- The action does not look whether the engine is strict, and records no error. -/
structure Neutral (act : Play σ α) : Prop where
  oblivious : ∀ b, Oblivious (Engine.guised [] id fun _ => b) act
  keeps : Tracks KeepsError act

namespace Neutral

variable {x : Play σ α} {k : α → Play σ β}

protected theorem pure {a : α} : Neutral (pure a : Play σ α) :=
  ⟨fun _ => .pure, .pure⟩

theorem ofExcept {r : Except Fault α} : Neutral (Action.ofExcept r : Play σ α) :=
  ⟨fun _ => .ofExcept, .ofExcept⟩

theorem ofMishap {r : Except Mishap α} : Neutral (Action.ofMishap r : Play σ α) :=
  ⟨fun _ => .ofMishap, .ofMishap⟩

protected theorem modify {f : Engine σ → Engine σ}
    (hsame : ∀ b e, f (e.guised [] id fun _ => b) = (f e).guised [] id fun _ => b)
    (herror : ∀ e, (f e).error = e.error) : Neutral (modify f : Play σ PUnit) :=
  ⟨fun b => .modify (hsame b), .modify fun e => .inl (herror e)⟩

protected theorem bind (hx : Neutral x) (hk : ∀ a, Neutral (k a)) : Neutral (x >>= k) :=
  ⟨fun b => (hx.oblivious b).bind fun a => (hk a).oblivious b, hx.keeps.bind fun a => (hk a).keeps⟩

protected theorem map {f : α → β} (hx : Neutral x) : Neutral (f <$> x) :=
  ⟨fun b => (hx.oblivious b).map, hx.keeps.map⟩

theorem withStore {f : SaveStore → Play σ Bool} (hf : ∀ store, Neutral (f store)) :
    Neutral (do
      match ← Engine.requireStore with
      | none => return false
      | some store => f store) :=
  ⟨fun b => Engine.withStore_oblivious fun store => (hf store).oblivious b,
    Engine.withStore_tracks KeepsError.lenient.toIncidental fun store => (hf store).keeps⟩

theorem outcome (hx : Neutral x) : Neutral (Action.outcome x) :=
  ⟨fun b => (hx.oblivious b).outcome, hx.keeps.outcome⟩

end Neutral

/-! ## Candid actions -/

/-- How an action ends in a lax engine, and in the strict one. The strict one may raise the error
that has ended the session. An action may stop on its way to the end of a session: that the session
has ended all the same is known if `sure`. -/
inductive Passes (sure : Prop) (e : Engine σ) :
    Except Fault α × Engine σ → Except Fault α × Engine σ → Prop where
  | same {r : Except Fault α} {e' : Engine σ} : e'.strict = false → KeepsError e e' →
    Passes sure e (r, e') (r, e'.strictly true)
  | stopped {f : Fault} {e' : Engine σ} : e'.strict = false → (sure → e'.mode = .ended) →
    Passes sure e (.error f, e') (.error f, e'.strictly true)
  | raised {a : α} {error : StoryError} {e' : Engine σ} : e'.strict = false → e'.mode = .ended →
    e'.error = some error → Passes sure e (.ok a, e') (.error (.story error), e'.strictly true)

/-- The action does in a strict engine what it does in a lax one, but for passing on the error that
ends the session. -/
def Candid (sure : Prop) (act : Play σ α) : Prop :=
  ∀ e : Engine σ, e.strict = false →
    Passes sure e (act.perform e) (act.perform (e.strictly true))

/-- In a session that has ended, the action returns and changes nothing. -/
def Coasts (act : Play σ α) : Prop :=
  ∀ e : Engine σ, e.mode = .ended → ∃ a, act.perform e = (.ok a, e)

section
variable {sure : Prop} {x : Play σ α} {k : α → Play σ β}

theorem Passes.after {e e₁ : Engine σ} {p q : Except Fault α × Engine σ} (hkept : KeepsError e e₁)
    (h : Passes sure e₁ p q) : Passes sure e p q := by
  cases h with
  | same hlax hkept' => exact .same hlax (trans_of KeepsError hkept hkept')
  | stopped hlax hended => exact .stopped hlax hended
  | raised hlax hmode herror => exact .raised hlax hmode herror

theorem Neutral.candid (h : Neutral x) : Candid sure x := by
  intro e he
  rw [Oblivious.strictly h.oblivious e true]
  exact .same (Oblivious.lax h.oblivious he) (h.keeps e)

theorem Neutral.candid_bind (hx : Neutral x) (hk : ∀ a, Candid sure (k a)) :
    Candid sure (x >>= k) := by
  intro e he
  have hkept := hx.keeps e
  have hlax := Oblivious.lax hx.oblivious he
  have hstrict := Oblivious.strictly hx.oblivious e true
  rcases hrun : x.perform e with ⟨f | a, e₁⟩
  · rw [hrun] at hkept hlax hstrict
    rw [Action.perform_bind_error hrun, Action.perform_bind_error hstrict]
    exact .same hlax hkept
  · rw [hrun] at hkept hlax hstrict
    rw [Action.perform_bind_ok hrun, Action.perform_bind_ok hstrict]
    exact (hk a e₁ hlax).after hkept

theorem Passes.state {e : Engine σ} {p q : Except Fault α × Engine σ} (h : Passes sure e p q) :
    p.2.strict = false ∧ q.2 = p.2.strictly true := by
  cases h with
  | same hlax _ => exact ⟨hlax, rfl⟩
  | stopped hlax _ => exact ⟨hlax, rfl⟩
  | raised hlax _ _ => exact ⟨hlax, rfl⟩

/-- An error that is recorded is that of a session that has ended. -/
theorem Passes.honest {e : Engine σ} {p q : Except Fault α × Engine σ} (h : Passes True e p q)
    (hnone : e.error = none) : p.2.Honest := by
  cases h with
  | same _ hkept => exact .inl (hkept.elim (·.trans hnone) id)
  | stopped _ hended => exact .inr (hended trivial)
  | raised _ hmode _ => exact .inr hmode

namespace Candid

theorem get_bind {f : Engine σ → Play σ α} (hsame : ∀ e, f (e.strictly true) = f e)
    (hf : ∀ e, Candid sure (f e)) : Candid sure (get >>= f) := by
  intro e he
  rw [Action.perform_get_bind, Action.perform_get_bind, hsame]
  exact hf e e he

/-- What follows an action that may end the session lets the end stand. -/
protected theorem bind (hx : Candid sure x) (hk : ∀ a, Candid sure (k a))
    (hcoasts : ∀ a, Coasts (k a)) : Candid sure (x >>= k) := by
  intro e he
  have h := hx e he
  generalize hlax : x.perform e = p at h
  generalize hstrict : x.perform (e.strictly true) = q at h
  cases h with
  | @same r e₁ hlax₁ hkept =>
    cases r with
    | error f =>
      rw [Action.perform_bind_error hlax, Action.perform_bind_error hstrict]
      exact .same hlax₁ hkept
    | ok a =>
      rw [Action.perform_bind_ok hlax, Action.perform_bind_ok hstrict]
      exact (hk a e₁ hlax₁).after hkept
  | stopped hlax₁ hended =>
    rw [Action.perform_bind_error hlax, Action.perform_bind_error hstrict]
    exact .stopped hlax₁ hended
  | @raised a error e₁ hlax₁ hmode herror =>
    obtain ⟨b, hrun⟩ := hcoasts a e₁ hmode
    rw [Action.perform_bind_ok hlax, hrun, Action.perform_bind_error hstrict]
    exact .raised hlax₁ hmode herror

theorem bind_pure {f : α → β} (hx : Candid sure x) : Candid sure (x >>= fun a => pure (f a)) :=
  hx.bind (fun _ => Neutral.pure.candid) fun a _ _ => ⟨f a, rfl⟩

protected theorem map {f : α → β} (hx : Candid sure x) : Candid sure (f <$> x) := by
  rw [map_eq_pure_bind]
  exact hx.bind_pure

protected theorem discard (hx : Candid sure x) : Candid sure (discard x) :=
  hx.map

end Candid

end

section
variable {sure : Prop} {act : Play σ α} {e : Engine σ}

/-- A session that goes on does not end with an error if none is recorded. -/
theorem KeepsError.not_endedWith {e' : Engine σ} {error : StoryError} (h : KeepsError e e')
    (hhonest : e.Honest) : ¬Engine.EndedWith error e e' := by
  rintro ⟨hgoes, -, herror⟩
  have hnone := hhonest.resolve_right hgoes
  rcases h with h | h
  · simp [h, hnone] at herror
  · simp [h] at herror

theorem Neutral.raisesEnd (h : Neutral act) (e : Engine σ) : RaisesEnd act e where
  result := .inl (by rw [Oblivious.strictly h.oblivious])
  raised hhonest _ _ _ hended := absurd hended ((h.keeps e).not_endedWith hhonest)

/-- A candid action that raises nothing once the session has ended. -/
theorem Candid.raisesEnd (h : Candid sure act) (he : e.strict = false)
    (hrest : ∀ e : Engine σ, e.mode = .ended → ∀ error, (act.perform e).1 ≠ .error (.story error)) :
    RaisesEnd act e := by
  have hgoes : ∀ error, (act.perform (e.strictly true)).1 = .error (.story error) →
      e.mode ≠ .ended := fun error herror hended => hrest (e.strictly true) hended error herror
  have hpasses := h e he
  constructor
  all_goals
    generalize act.perform e = p at hpasses
    generalize act.perform (e.strictly true) = q at hpasses hgoes
    cases hpasses
  · exact .inl rfl
  · exact .inl rfl
  · next a error e' _ hmode herror =>
    exact .inr ⟨a, error, rfl, ⟨hgoes error rfl, hmode, herror⟩, rfl⟩
  · next hkept => exact fun hhonest _ _ _ hended => absurd hended (hkept.not_endedWith hhonest)
  · exact fun _ _ _ h => nomatch h
  · next a error e' _ hmode herror =>
    rintro - _ error' - ⟨-, -, herror'⟩
    rw [herror] at herror'
    cases herror'
    rfl

end

namespace Engine

section
variable {c : Collaborators σ} (hc : c.Discreet)
include hc

/-! ## What neutral functions there are -/

theorem setMode_neutral (mode : Mode) : Neutral (setMode c mode) :=
  ⟨fun b => setMode_oblivious (hc.guised b) mode, setMode_tracks KeepsError.lenient hc.track mode⟩

theorem enterLoading_neutral : Neutral (enterLoading c) :=
  ⟨fun b => enterLoading_oblivious (hc.guised b), enterLoading_tracks KeepsError.lenient hc.track⟩

omit hc in
theorem note_neutral (level : Level) (text : String) : Neutral (note level text : Play σ Unit) :=
  ⟨fun _ => note_oblivious level text, note_tracks KeepsError.lenient.toIncidental level text⟩

theorem playBeats_neutral (turns budget : Nat) : Neutral (playBeats c turns budget) := by
  have hR : Lenient (KeepsError : Engine σ → Engine σ → Prop) := KeepsError.lenient
  have happly : ∀ i, Tracks KeepsError (c.apply i) := fun i => (hc.apply i).mono .of_within
  have hhold : ∀ kind payload, Tracks KeepsError (hold c kind payload) := fun kind payload =>
    .bind (.modify fun _ => .inl rfl) fun _ => (setMode_tracks hR hc.track _).bind fun _ =>
      .get_bind fun e => happly _ e
  exact ⟨fun b => playBeats_oblivious (hc.guised b) turns budget,
    playBeats_tracks hR hc.track (settle_tracks hR hc.track (fun i => happly i) hhold) turns budget⟩

theorem send_neutral (kind : IntentKind) (payload : Table String Value) :
    Neutral (send c kind payload) :=
  ⟨fun b => send_oblivious (hc.guised b) kind payload, send_tracks hc.track kind payload⟩

theorem sendReveal_neutral : Neutral (sendReveal c) :=
  ⟨fun b => sendReveal_oblivious (hc.guised b), sendReveal_tracks KeepsError.lenient hc.track⟩

theorem pick_neutral (options : List ChoiceOption) (index : Value) :
    Neutral (pick c options index) :=
  ⟨fun b => pick_oblivious (hc.guised b) options index,
    pick_tracks KeepsError.lenient hc.track options index⟩

theorem restore_neutral (t : Snapshot) : Neutral (restore c t) :=
  ⟨fun b => restore_oblivious (hc.guised b) t, restore_tracks KeepsError.lenient hc.track t⟩

omit hc in
theorem timing_neutral (act : Attempt TimedText α) :
    Neutral (Action.attempt timedTextPlace act : Play σ α) :=
  ⟨fun _ => timing_oblivious, timing_tracks KeepsError.lenient.toEasy act⟩

/-! ## The end of a session -/

theorem finish_ends (e : Engine σ) :
    ((finish c).perform e).2.mode = .ended ∧ ((finish c).perform e).2.error = e.error := by
  by_cases h : e.mode = .ended
  · rw [finish_ended h]
    exact ⟨h, rfl⟩
  · let e₁ := ((setMode c .ended).perform e.closing).2
    let event : Event := .ended (e₁.error.map StoryError.text)
    have hmode : Within e.closed e₁ := setMode_within hc.deliver .ended e.closing
    have htold := trans_of Within hmode (emit_within hc.deliver event e₁)
    have hall := trans_of Within htold (hc.finished _)
    rw [finish_perform h]
    exact ⟨hall.mode, hall.error⟩

variable {sure : Prop}
  (hsure : sure → ∀ text (e : Engine σ), ∃ e', (c.showError text).perform e = (.ok (), e'))
include hsure

/-- Unless it is stopped, the function ends a session that goes on, with the error. -/
theorem failing_ends (error : StoryError) (e : Engine σ) : Ends (failing c error) e
    (fun went e' => if went then e'.mode = .ended ∧ e'.error = some error else e' = e)
    (fun _ e' => sure → e'.mode = .ended) := by
  by_cases h : e.mode = .ended
  · exact Ends.of_perform (failing_ended h c error) (by simp)
  · have htold : (e.warned c error).error = some error :=
      (emit_within hc.deliver (.failed error) _).error
    have hshown := (hc.showError error.text (e.warned c error)).error
    refine Ends.of_perform_eq (failing_perform h c error) (Ends.bind_iff.2 ?_)
    refine Ends.iff_perform.2 ⟨fun _ e₁ hshow => Ends.bind_iff.2 ?_, fun f e₁ hshow hs => ?_⟩
    · have hends := finish_ends hc e₁
      rw [hshow, htold] at hshown
      rw [hshown] at hends
      refine Ends.iff_perform.2 ⟨fun _ e' hrun => ?_, fun _ e' hrun _ => ?_⟩
      · rw [hrun] at hends
        simpa using hends
      · rw [hrun] at hends
        exact hends.1
    · obtain ⟨e', hok⟩ := hsure hs error.text (e.warned c error)
      rw [hok] at hshow
      cases hshow

theorem fail_candid (error : StoryError) : Candid sure (fail c error) := by
  intro e he
  have hends := failing_ends hc hsure error e
  have hoblivious := fun b => failing_oblivious (hc.guised b) error
  have hlax := Oblivious.lax hoblivious he
  have hstrict := Oblivious.strictly hoblivious e true
  rw [fail_eq]
  rcases hrun : (failing c error).perform e with ⟨f | went, e'⟩
  · rw [hrun] at hlax hstrict
    rw [Action.perform_bind_error hrun, Action.perform_bind_error hstrict]
    exact .stopped hlax ((Ends.iff_perform.1 hends).2 f e' hrun)
  · rw [hrun] at hlax hstrict
    have hended := (Ends.iff_perform.1 hends).1 went e' hrun
    rw [Action.perform_bind_ok hrun, Action.perform_bind_ok hstrict]
    cases went with
    | false =>
      obtain rfl : e' = e := by simpa using hended
      exact .same hlax (refl_of _ e')
    | true =>
      have hreturns : (do if (← get).strict then throw (.story error) : Play σ Unit).perform e' =
          (.ok (), e') := by
        rw [Action.perform_get_bind, hlax]
        rfl
      rw [if_pos rfl, hreturns]
      exact .raised hlax hended.1 hended.2

/-! ## Calls -/

theorem orFail_candid {act : Play σ Unit} (hact : Neutral act) : Candid sure (orFail c act) := by
  refine hact.outcome.candid_bind fun r => ?_
  rcases r with (error | m) | ⟨⟩
  · exact fail_candid hc hsure error
  · exact Neutral.ofExcept.candid
  · exact Neutral.ofExcept.candid

theorem step_candid : Candid sure (step c) := by
  intro e he
  have hrests : ∀ e : Engine σ, (e.running && !e.stepping) = false →
      (step c).perform e = (.ok !e.finished, e) := by
    intro e h
    unfold step
    rw [Action.perform_get_bind, h]
    rfl
  cases hgoes : e.running && !e.stepping with
  | false =>
    rw [hrests e hgoes, hrests (e.strictly true) hgoes]
    exact .same he (refl_of _ e)
  | true =>
    obtain ⟨hruns, hstepping⟩ : e.running ∧ e.stepping = false := by simpa using hgoes
    have hbeats := orFail_candid hc hsure (playBeats_neutral hc turnsPerStep commandBudget)
      { e with stepping := true } he
    generalize hlax : (orFail c (playBeats c turnsPerStep commandBudget)).perform
      { e with stepping := true } = p at hbeats
    generalize hstrict : (orFail c (playBeats c turnsPerStep commandBudget)).perform
      (Engine.strictly true { e with stepping := true }) = q at hbeats
    rw [step_perform hruns hstepping hlax,
      step_perform (e := e.strictly true) hruns hstepping hstrict]
    cases hbeats with
    | same hlax₁ hkept => exact .same hlax₁ hkept
    | stopped hlax₁ hended => exact .stopped hlax₁ hended
    | raised hlax₁ hmode herror => exact .raised hlax₁ hmode herror

theorem resourcesReady_candid : Candid sure (resourcesReady c) := by
  refine .get_bind (fun _ => rfl) fun e => ?_
  dsimp only
  split
  · exact (note_neutral _ _).candid
  · exact (setMode_neutral hc _).candid_bind fun _ => (step_candid hc hsure).discard

theorem advance_candid : Candid sure (advance c) := by
  refine .get_bind (fun _ => rfl) fun e => ?_
  cases e.showsLine with
  | false => exact Neutral.pure.candid
  | true =>
    refine Neutral.candid_bind (.modify (fun _ _ => rfl) fun _ => rfl) fun _ => ?_
    refine Neutral.candid_bind (.modify (fun _ _ => rfl) fun _ => rfl) fun _ => ?_
    refine Neutral.candid_bind (.modify (fun _ _ => rfl) fun _ => rfl) fun _ => ?_
    exact (step_candid hc hsure).discard.bind_pure

theorem requestAdvance_candid : Candid sure (requestAdvance c) := by
  refine .get_bind (fun _ => rfl) fun e => ?_
  cases e.showsLine with
  | false => exact Neutral.pure.candid
  | true =>
    refine (timing_neutral _).candid_bind fun fired => ?_
    cases fired with
    | true => exact advance_candid hc hsure
    | false => exact ((sendReveal_neutral hc).bind fun _ => .pure).candid

theorem tick_candid (dt : Value) : Candid sure (tick c dt) := by
  refine .get_bind (fun _ => rfl) fun e => ?_
  cases e.showsLine with
  | false => exact Neutral.pure.candid
  | true =>
    refine (timing_neutral _).candid_bind fun fired => ?_
    refine (sendReveal_neutral hc).candid_bind fun _ => ?_
    cases fired with
    | true => exact (advance_candid hc hsure).discard
    | false => exact Neutral.pure.candid

theorem choose_candid (index : Value) : Candid sure (choose c index) := by
  refine .get_bind (fun _ => rfl) fun e => ?_
  split
  · exact ((note_neutral _ _).bind fun _ => .pure).candid
  · refine (pick_neutral hc _ _).outcome.candid_bind fun r => ?_
    have hstep : Candid sure (discard (step c) >>= fun _ => pure true) :=
      (step_candid hc hsure).discard.bind_pure
    rcases r with (error | m) | ⟨⟩
    · exact (fail_candid hc hsure error).bind_pure
    · exact Neutral.ofExcept.candid_bind fun _ => hstep
    · exact Neutral.ofExcept.candid_bind fun _ => hstep

theorem effectFinished_candid (id : Value) : Candid sure (effectFinished c id) := by
  refine .get_bind (fun _ => rfl) fun e => ?_
  split
  · exact ((note_neutral _ _).bind fun _ => .pure).candid
  · have hrest : Candid sure (do
        modify (mapSession Session.release)
        setMode c .normal
        completeBeat
        discard (step c)
        return true) := by
      refine Neutral.candid_bind (.modify (fun _ _ => rfl) fun _ => rfl) fun _ => ?_
      refine (setMode_neutral hc _).candid_bind fun _ => ?_
      refine Neutral.candid_bind (.modify (fun _ _ => rfl) fun _ => rfl) fun _ => ?_
      exact (step_candid hc hsure).discard.bind_pure
    refine Neutral.candid_bind (.modify (fun _ _ => rfl) fun _ => rfl) fun _ => ?_
    split
    · exact (send_neutral hc _ _).candid_bind fun _ => hrest
    · exact hrest

end

end Engine

/-! ## Errors of sessions that have ended -/

/-- What is honest stays honest. -/
def StaysHonest (e e' : Engine σ) : Prop :=
  e.Honest → e'.Honest

namespace StaysHonest

instance : IsPreorder (Engine σ) StaysHonest where
  refl _ := id
  trans _ _ _ h h' := h' ∘ h

theorem easy : Easy (StaysHonest : Engine σ → Engine σ → Prop) where
  disk _ _ := id
  saves _ _ := id
  stage _ _ := id
  awaiting _ _ := id
  menu _ _ := id
  backlog _ _ := id
  dropped _ := id

end StaysHonest

namespace Engine

variable {c : Collaborators σ} (hc : c.Discreet)
include hc

theorem restore_honest (t : Snapshot) : Tracks StaysHonest (restore c t) := by
  have hR : Easy (StaysHonest : Engine σ → Engine σ → Prop) := StaysHonest.easy
  have hrest : Tracks KeepsError (do
      modify (mapStage (Stage.mapTimedText TimedText.endLine))
      onStage Stage.retimeFromSession
      enterLoading c) :=
    .bind (.modify fun _ => .inl rfl) fun _ =>
      (onStage_tracks KeepsError.lenient.toEasy _).bind fun _ => (enterLoading_neutral hc).keeps
  refine (onStage_tracks hR _).bind fun script => .bind .ofStory fun cursor => ?_
  refine .bind (.modify fun e => hR.stage e _) fun _ => ?_
  refine .bind (.modify fun e => hR.stage e _) fun _ e _ => .inl ?_
  -- The error is forgotten here.
  rcases hrest { e with effect := none, menu := none, awaiting := false, error := none } with h | h
  · exact h
  · exact h

theorem loadFrom_honest (read : Attempt Disk (Option Value)) :
    Tracks StaysHonest (loadFrom c read) := by
  refine (onDisk_tracks StaysHonest.easy.toIncidental _).bind fun data => ?_
  dsimp only
  split
  · exact .pure
  · exact .bind .ofMishap fun t => (restore_honest hc t).bind fun _ => .pure

theorem loadFrom_neutral {read : Attempt Disk (Option Value)}
    (hread : ∀ older, Oblivious (Disk.aged older) read) : Neutral (loadFrom c read) :=
  ⟨fun b => loadFrom_oblivious (hc.guised b) (hread []),
    loadFrom_tracks KeepsError.lenient hc.track read⟩

end Engine

/-! ## What calls answer -/

namespace HostCall

open Engine

/-- Carries out a call; what it answers to the host, if it answers. -/
def answer (c : Collaborators σ) : HostCall → Play σ (Option Bool)
  | step => some <$> Engine.step c
  | advance => some <$> Engine.advance c
  | requestAdvance => some <$> Engine.requestAdvance c
  | choose index => some <$> Engine.choose c index
  | effectFinished id => some <$> Engine.effectFinished c id
  | saveToSlot slot => some <$> Engine.saveToSlot slot
  | loadFromSlot slot => some <$> Engine.loadFromSlot c slot
  | quicksave => some <$> Engine.quicksave
  | quickload => some <$> Engine.quickload c
  | autosave => some <$> Engine.autosave
  | call => do
    call.run c
    return none

theorem discard_answer (c : Collaborators σ) (call : HostCall) :
    discard (call.answer c) = call.run c := by
  cases call <;> simp [answer, run, discard_eq]

section
variable {c : Collaborators σ} (hc : c.Discreet)
include hc

/-- A call is neutral, or it is candid and out of place when the session has ended. -/
theorem answer_cases {sure : Prop}
    (hsure : sure → ∀ text (e : Engine σ), ∃ e', (c.showError text).perform e = (.ok (), e'))
    (call : HostCall) :
    Neutral (call.answer c) ∧ Tracks StaysHonest (call.answer c) ∨
      Candid sure (call.answer c) ∧ ∀ e : Engine σ, e.mode = .ended → call.misplaced e := by
  have hR : Easy (StaysHonest : Engine σ → Engine σ → Prop) := StaysHonest.easy
  have hsome : ∀ {act : Play σ Bool}, Neutral act ∧ Tracks StaysHonest act →
      Neutral (some <$> act) ∧ Tracks StaysHonest (some <$> act) := fun h => ⟨h.1.map, h.2.map⟩
  have hsave : ∀ slot, Neutral (Engine.saveToSlot slot : Play σ Bool) := fun slot =>
    ⟨fun _ => saveToSlot_oblivious slot, saveToSlot_tracks KeepsError.lenient.toIncidental slot⟩
  cases call with
  | resourcesReady =>
    exact .inr ⟨(resourcesReady_candid hc hsure).bind_pure, by simp +contextual [misplaced]⟩
  | step => exact .inr ⟨(step_candid hc hsure).map, by simp +contextual [misplaced]⟩
  | advance => exact .inr ⟨(advance_candid hc hsure).map, by simp +contextual [misplaced]⟩
  | requestAdvance =>
    exact .inr ⟨(requestAdvance_candid hc hsure).map, by simp +contextual [misplaced]⟩
  | tick dt => exact .inr ⟨(tick_candid hc hsure dt).bind_pure, by simp +contextual [misplaced]⟩
  | choose index => exact .inr ⟨(choose_candid hc hsure index).map, by simp +contextual [misplaced]⟩
  | effectFinished id =>
    exact .inr ⟨(effectFinished_candid hc hsure id).map, by simp +contextual [misplaced]⟩
  | reportResourceError message =>
    have hreport : Candid sure (Engine.reportResourceError c message) :=
      .get_bind (fun _ => rfl) fun e => fail_candid hc hsure _
    exact .inr ⟨hreport.bind_pure, by simp +contextual [misplaced]⟩
  | setFlag name value =>
    have hset : Neutral (Engine.setFlag name value : Play σ Unit) :=
      .bind .ofMishap fun _ => .bind .ofMishap fun _ => .modify (fun _ _ => rfl) fun _ => rfl
    exact .inl ⟨hset.bind fun _ => .pure, (setFlag_tracks hR name value).bind fun _ => .pure⟩
  | saveToSlot slot => exact .inl (hsome ⟨hsave slot, saveToSlot_tracks hR.toIncidental slot⟩)
  | autosave => exact .inl (hsome ⟨hsave _, saveToSlot_tracks hR.toIncidental _⟩)
  | quicksave =>
    refine .inl (hsome ⟨.withStore fun store => ?_, withStore_tracks hR.toIncidental fun store =>
      saveTo_tracks hR.toIncidental _⟩)
    exact ⟨fun _ => saveTo_oblivious fun _ _ => store.writeQuick_oblivious _ _,
      saveTo_tracks KeepsError.lenient.toIncidental _⟩
  | loadFromSlot slot =>
    refine .inl (hsome ⟨.withStore fun store => .bind .ofMishap fun _ => ?_,
      withStore_tracks hR.toIncidental fun store => .bind .ofMishap fun _ =>
        loadFrom_honest hc _⟩)
    exact loadFrom_neutral hc fun _ => store.readSlot_oblivious _
  | quickload =>
    refine .inl (hsome ⟨.withStore fun store => ?_, withStore_tracks hR.toIncidental fun store =>
      loadFrom_honest hc _⟩)
    exact loadFrom_neutral hc fun _ => store.readQuick_oblivious
  | restore t =>
    exact .inl ⟨(restore_neutral hc t).bind fun _ => .pure,
      (restore_honest hc t).bind fun _ => .pure⟩

omit hc in
theorem run_perform (c : Collaborators σ) (call : HostCall) (e : Engine σ) :
    (call.run c).perform e =
      (((call.answer c).perform e).1.map fun _ => (), ((call.answer c).perform e).2) := by
  rw [← discard_answer]
  exact Action.perform_map

omit hc in
theorem runAll_cons (c : Collaborators σ) (call : HostCall) (calls : List HostCall)
    (e : Engine σ) : runAll c (call :: calls) e = runAll c calls ((call.answer c).perform e).2 := by
  show runAll c calls ((call.run c).perform e).2 = _
  rw [run_perform]

theorem answer_state {e : Engine σ} (he : e.strict = false) (call : HostCall) :
    ((call.answer c).perform e).2.strict = false ∧
      ((call.answer c).perform (e.strictly true)).2 =
        ((call.answer c).perform e).2.strictly true := by
  rcases answer_cases hc False.elim call with ⟨hneutral, -⟩ | ⟨hcandid, -⟩
  · exact (hneutral.candid e he : Passes False e _ _).state
  · exact (hcandid e he).state

/-- Whether the engine is strict makes no difference to the state that calls leave. -/
theorem runAll_strictly (calls : List HostCall) {e : Engine σ} (he : e.strict = false) :
    (runAll c calls e).strict = false ∧
      runAll c calls (e.strictly true) = (runAll c calls e).strictly true := by
  induction calls generalizing e with
  | nil => exact ⟨he, rfl⟩
  | cons call calls ih =>
    obtain ⟨hlax, hstate⟩ := answer_state hc he call
    rw [runAll_cons, runAll_cons, hstate]
    exact ih hlax

theorem answer_raisesEnd {e : Engine σ} (he : e.strict = false) (call : HostCall) :
    RaisesEnd (call.answer c) e := by
  rcases answer_cases hc False.elim call with ⟨hneutral, -⟩ | ⟨hcandid, hmisplaced⟩
  · exact hneutral.raisesEnd e
  · refine hcandid.raisesEnd he fun e₁ hended error h => ?_
    have hrun := run_perform c call e₁
    rw [h] at hrun
    rcases ignored_of_misplaced c (hmisplaced e₁ hended) with hignored | ⟨text, hignored⟩
    · cases (congrArg Prod.fst hignored).symm.trans (congrArg Prod.fst hrun)
    · cases (congrArg Prod.fst hignored).symm.trans (congrArg Prod.fst hrun)

/-- If errors can always be shown, calls leave no error behind in a session that goes on. -/
theorem runAll_honest
    (hshow : ∀ text (e : Engine σ), ∃ e', (c.showError text).perform e = (.ok (), e'))
    (calls : List HostCall) {e : Engine σ} (he : e.strict = false) (h : e.Honest) :
    (runAll c calls e).Honest := by
  induction calls generalizing e with
  | nil => exact h
  | cons call calls ih =>
    rw [runAll_cons]
    refine ih (answer_state hc he call).1 ?_
    rcases answer_cases hc (fun _ : True => hshow) call with
      ⟨-, hhonest⟩ | ⟨hcandid, hmisplaced⟩
    · exact hhonest e h
    · rcases h with hnone | hended
      · exact (hcandid e he).honest hnone
      · have hrun := run_perform c call e
        rcases ignored_of_misplaced c (hmisplaced e hended) with hignored | ⟨text, hignored⟩
        · rw [← congrArg Prod.snd (hignored.symm.trans hrun)]
          exact .inr hended
        · rw [← congrArg Prod.snd (hignored.symm.trans hrun)]
          exact .inr hended

end

end HostCall

/-! ## Sessions without a screen -/

namespace Engine

theorem drive_ended (c : Collaborators σ) (rounds : Nat) (choices : List Value) {e : Engine σ}
    (h : e.mode = .ended) : ∃ ended, (drive c rounds choices).perform e = (.ok ended, e) := by
  have hended : e.finished = true := by simp [finished, h]
  cases rounds with
  | zero => exact ⟨false, rfl⟩
  | succ rounds =>
    refine ⟨true, ?_⟩
    unfold drive
    rw [Action.perform_get_bind, hended]
    rfl

section
variable {sure : Prop} {c : Collaborators σ} (hc : c.Discreet)
  (hsure : sure → ∀ text (e : Engine σ), ∃ e', (c.showError text).perform e = (.ok (), e'))
include hc hsure

theorem driveOnce_candid (choices : List Value) : Candid sure (driveOnce c choices) := by
  refine .get_bind (fun _ => rfl) fun e => ?_
  split
  · exact (effectFinished_candid hc hsure _).discard.bind_pure
  · exact (choose_candid hc hsure _).discard.bind_pure
  · refine Candid.bind_pure (Candid.discard ?_)
    cases e.awaiting with
    | true => exact advance_candid hc hsure
    | false => exact step_candid hc hsure

theorem drive_candid (rounds : Nat) (choices : List Value) :
    Candid sure (drive c rounds choices) := by
  induction rounds generalizing choices with
  | zero => exact Neutral.pure.candid
  | succ rounds ih =>
    refine .get_bind (fun _ => rfl) fun e => ?_
    cases e.finished with
    | true => exact Neutral.pure.candid
    | false =>
      exact (driveOnce_candid hc hsure choices).bind ih fun choices _ h =>
        drive_ended c rounds choices h

theorem driven_candid (choices : Value) (rounds : Nat) : Candid sure (driven c choices rounds) := by
  refine Neutral.ofMishap.candid_bind fun picks => .get_bind (fun _ => rfl) fun e => ?_
  have hdrive := drive_candid hc hsure rounds picks
  split
  · exact (resourcesReady_candid hc hsure).bind (fun _ => hdrive) fun _ _ h =>
      drive_ended c rounds picks h
  · exact hdrive

end

section
variable {c : Collaborators σ} (hc : c.Discreet) {e : Engine σ} (he : e.strict = false)
include hc he

theorem driven_raisesEnd (choices : Value) (rounds : Nat) :
    RaisesEnd (driven c choices rounds) e := by
  refine (driven_candid hc False.elim choices rounds).raisesEnd he ?_
  intro e hended error h
  cases hpicks : (choices.orElse (.list [])).parts with
  | error m =>
    rw [driven_error hpicks] at h
    cases h
  | ok picks =>
    obtain ⟨ended, hrun⟩ := drive_ended c rounds picks hended
    rw [driven_perform hpicks, if_neg (by simp [hended]), hrun] at h
    cases h

omit hc he in
/-- Apart from the warning that the rounds are used up, all is done by the drive. -/
theorem runHeadless_perform (c : Collaborators σ) (choices : Value) (rounds : Int) (e : Engine σ) :
    ((runHeadless c choices (.int rounds)).perform e).1 =
        ((driven c choices rounds.toNat).perform e).1.map (fun _ => ()) ∧
      ((runHeadless c choices (.int rounds)).perform e).2.unlogged =
        ((driven c choices rounds.toNat).perform e).2.unlogged := by
  rw [runHeadless_eq]
  rcases hrun : (driven c choices rounds.toNat).perform e with ⟨f | ended, e'⟩
  · rw [Action.perform_bind_error hrun]
    exact ⟨rfl, rfl⟩
  · rw [Action.perform_bind_ok hrun]
    cases ended with
    | true => exact ⟨rfl, rfl⟩
    | false => exact ⟨rfl, rfl⟩

/-- A session that is driven without a screen ends the same in a strict engine. Only the log may
differ: the warning that the rounds are used up is not written when an error is raised. -/
theorem runHeadless_state (choices : Value) (rounds : Int) :
    ((runHeadless c choices (.int rounds)).perform (e.strictly true)).2.unlogged =
      (((runHeadless c choices (.int rounds)).perform e).2.strictly true).unlogged := by
  have hstate := (driven_candid hc False.elim choices rounds.toNat e he).state.2
  have hlax := (runHeadless_perform c choices rounds e).2
  rw [(runHeadless_perform c choices rounds (e.strictly true)).2, hstate]
  exact congrArg (Engine.strictly true) hlax.symm

theorem runHeadless_raisesEnd (choices : Value) (rounds : Int) :
    RaisesEnd (runHeadless c choices (.int rounds)) e := by
  have hdriven := driven_raisesEnd hc he choices rounds.toNat
  obtain ⟨hlax, hstate⟩ := runHeadless_perform c choices rounds e
  have hstrict := (runHeadless_perform c choices rounds (e.strictly true)).1
  have hended : ∀ error, EndedWith error e ((runHeadless c choices (.int rounds)).perform e).2 ↔
      EndedWith error e ((driven c choices rounds.toNat).perform e).2 := by
    intro error
    have hmode := congrArg Engine.mode hstate
    have herror := congrArg Engine.error hstate
    simp only [unlogged, mapStage] at hmode herror
    simp only [EndedWith, hmode, herror]
  constructor
  · rw [hlax, hstrict]
    rcases hdriven.result with hsame | ⟨a, error, hok, hend, hraised⟩
    · exact .inl (by rw [hsame])
    · exact .inr ⟨(), error, by rw [hok]; rfl, (hended error).2 hend, by rw [hraised]; rfl⟩
  · intro hhonest _ error hok hend
    rw [hlax] at hok
    cases hrun : ((driven c choices rounds.toNat).perform e).1 with
    | error f =>
      rw [hrun] at hok
      cases hok
    | ok a =>
      rw [hstrict, hdriven.raised hhonest a error hrun ((hended error).1 hend)]
      rfl

end

end Engine

/-! ## Discreet collaborators -/

theorem Within.outside (e : Engine σ) (o : σ) : Within e { e with outside := o } :=
  ⟨{ e.surroundings with outside := o }, rfl⟩

namespace Collaborators

theorem heedless_strictly {c : Collaborators σ} {b : Bool}
    (h : c.Heedless (Engine.guised [] id fun _ => b)) : c.Heedless (Engine.strictly b) := by
  rwa [Engine.guised_strictly] at h

theorem console_discreet (place : Place σ Console) : (console place).Discreet where
  prepare _ := .modify fun e => Within.outside e _
  apply i := by
    cases i with
    | none => exact fun e => refl_of Within e
    | some i =>
      show Tracks Within (Action.attempt (Engine.outsidePlace.inside place) (Console.apply i))
      exact .attempt fun e o => Within.outside e (place.set o e.outside)
  showError _ := .modify fun e => Within.outside e _
  deliver _ _ := .pure
  systemCall := Engine.answerCall_tracks Within.unconcerned.toIncidental
  finished := .pure
  heedless _ := heedless_strictly (console_guised place)

end Collaborators

end VisualNovel
