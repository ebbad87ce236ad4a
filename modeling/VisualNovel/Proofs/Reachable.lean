import VisualNovel.Engine.Setup
import VisualNovel.Proofs.Openings

/-!
# Reachable engines

An engine is *reachable* if it has been set up, has started to load, and the host has called it any
number of times, as long as no call has met a mishap. A call may have failed with an error of the
story. In between, the surroundings may have changed in any way.

`Engine.Reachable.coherent` says that all parts of a reachable engine fit together.
-/

namespace VisualNovel

open Script

variable {σ : Type}

/-- Whether a call has met no mishap. -/
def tame {α : Type} : Except Fault α → Bool
  | .error (.mishap _) => false
  | _ => true

theorem Leads.of_tame {τ α : Type} {act : Action τ α} {s s' : τ} {Q : τ → Prop}
    {r : Except Fault α} (h : Leads True act s (fun _ s' => Q s') fun _ s' => Q s')
    (hrun : act.perform s = (r, s')) (htame : tame r) : Q s' := by
  obtain ⟨hok, herror⟩ := Ends.iff_perform.1 h
  match r, htame with
  | .ok a, _ => exact hok a s' hrun
  | .error (.story error), _ => exact herror _ s' hrun

namespace Engine

/-- The engine comes from a setup by calls of the host that are allowed. -/
inductive Reachable (c : Collaborators σ) (allowed : Engine σ → HostCall → Prop) (setup : Setup)
    (outside : σ) : Engine σ → Prop where
  | start {e₀ e : Engine σ} : ofSetup setup outside = .ok e₀ →
    (enterLoading c).perform e₀ = (.ok (), e) → Reachable c allowed setup outside e
  | call {e e' : Engine σ} {r : Except Fault Unit} (call : HostCall) :
    Reachable c allowed setup outside e → allowed e call → (call.run c).perform e = (r, e') →
    tame r → Reachable c allowed setup outside e'
  | around {e : Engine σ} (x : Surroundings σ) : Reachable c allowed setup outside e →
    Reachable c allowed setup outside (e.within x)

/-- All that a host can do is allowed. -/
def anyCall (_ : Engine σ) (_ : HostCall) : Prop :=
  True

variable {c : Collaborators σ} {w : Watch σ} {allowed : Engine σ → HostCall → Prop}
  {setup : Setup} {outside : σ} {e e' : Engine σ} {typed : Prop} {J : Stage → Prop}

/-! ## The start -/

/-- The stage of a script that has not started, with its text timed in some way. -/
def unstarted (config : Config) (cursor : Cursor) (overrides : Overrides) (timedText : TimedText) :
    Stage :=
  { config, script := cursor.script, timedText
    session := { cursor, scriptName := cursor.script.name, overrides } }

theorem start_sound {script : Script} {name : String} {c : Cursor}
    (h : Cursor.start script name = .ok c) : c.script = script ∧ c.Sound :=
  Likeness.switchTo_sound (c := { script, beats := #[], conversation := name }) h

/-- The stage of a script that has not started is timed as its session wants it. -/
theorem initialStage_ok {script : Script} {config : Config} {s : Stage}
    (h : initialStage script config = .ok s) : ∃ cursor overrides t₀ t,
      Cursor.start script = .ok cursor ∧ initialOverrides config = .ok overrides ∧
      (config.view.required "frame_rate" >>= TimedText.new) = .ok t₀ ∧
      Stage.retimeFromSession.perform (unstarted config cursor overrides t₀) = (.ok (), s) ∧
      s = unstarted config cursor overrides t ∧ t₀.SameText t := by
  obtain ⟨cursor, hcursor, h⟩ := bind_eq_ok.1 h
  obtain ⟨⟨t₀, overrides⟩, htimed, h⟩ := bind_eq_ok.1 h
  have hcursor := mapError_eq_ok.1 hcursor
  obtain ⟨rate, hrate, htimed⟩ := bind_eq_ok.1 (mapError_eq_ok.1 htimed)
  obtain ⟨_, ht₀, htimed⟩ := bind_eq_ok.1 htimed
  obtain ⟨_, hoverrides, htimed⟩ := bind_eq_ok.1 htimed
  cases htimed
  obtain ⟨hscript, -⟩ := start_sound hcursor
  have hbase : ({ config, script, timedText := t₀
                  session := { cursor, scriptName := script.name, overrides } } : Stage) =
      unstarted config cursor overrides t₀ := by
    rw [unstarted, hscript]
  dsimp only at h
  rw [hbase] at h
  obtain ⟨⟨⟩, hdone, h⟩ := bind_eq_ok.1 h
  cases h
  have hrun : Stage.retimeFromSession.perform (unstarted config cursor overrides t₀) =
      (.ok (), (Stage.retimeFromSession.perform (unstarted config cursor overrides t₀)).2) := by
    rw [← hdone]
  obtain ⟨t, hs, ht⟩ := (Ends.iff_perform.1 (Stage.retimeFromSession_leads _)).1 _ _ hrun
  exact ⟨cursor, overrides, t₀, t, hcursor, hoverrides, bind_eq_ok.2 ⟨rate, hrate, ht₀⟩, hrun, hs,
    ht.text⟩

/-- An engine that has started to load is at rest. -/
theorem start_atRest (K : Keeps typed J) (hc : Quiet c w True)
    (hsetup : ofSetup setup outside = .ok e) (hj : J e.stage)
    (hrun : (enterLoading c).perform e = (.ok (), e')) : e'.AtRest J ∧ e'.mode = .loading := by
  obtain ⟨s, hs, h⟩ := bind_eq_ok.1 hsetup
  cases h
  obtain ⟨cursor, overrides, t₀, t, hcursor, -, -, -, rfl, -⟩ := initialStage_ok hs
  obtain ⟨x, rfl, -⟩ := (Ends.iff_perform.1 (enterLoading_runs hc _)).1 _ _ hrun
  refine ⟨⟨⟨⟨?_, ?_, ?_, ?_, ?_, ?_, rfl⟩, K.disk _ hj⟩, rfl, rfl⟩, rfl⟩
  · simp [within]
  · simp [within]
  · simp [within]
  · simp [within, session, unstarted]
  · simp [within]
  · have hsound := (start_sound hcursor).2
    exact ⟨hsound.beats, hsound.index⟩

/-! ## All calls -/

/-- Every reachable engine is at rest, and its stage has every property that is kept, if the
snapshots that are taken over do not break it. -/
theorem Reachable.atRest (K : Keeps typed J) (hc : Quiet c w True)
    (hj : ∀ e, ofSetup setup outside = .ok e → J e.stage)
    (hadmits : ∀ e call t, e.AtRest J → allowed e call → call.Brings e t → Admits J t)
    (h : Reachable c allowed setup outside e) : e.AtRest J := by
  induction h with
  | start hsetup hrun => exact (start_atRest K hc hsetup (hj _ hsetup) hrun).1
  | call call _ hallowed hrun htame ih =>
    have hran := HostCall.run_leads K hc ih fun t ht => hadmits _ call t ih hallowed ht
    exact (Leads.of_tame hran hrun htame).atRest
  | around x _ ih => exact ih.within K x

theorem Reachable.exists_setup (h : Reachable c allowed setup outside e) :
    ∃ e₀, ofSetup setup outside = .ok e₀ := by
  induction h with
  | start hsetup _ => exact ⟨_, hsetup⟩
  | call _ _ _ _ _ ih => exact ih
  | around _ _ ih => exact ih

/-- The engine of a setup when it has started to load, if that went without a mishap. -/
def started (c : Collaborators σ) (setup : Setup) (outside : σ) : Option (Engine σ) :=
  match ofSetup setup outside with
  | .ok e₀ =>
    match (enterLoading c).perform e₀ with
    | (.ok (), e) => some e
    | _ => none
  | .error _ => none

/-- The engine after a row of calls, if they went without a mishap. -/
def after (c : Collaborators σ) : List HostCall → Engine σ → Option (Engine σ)
  | [], e => some e
  | call :: calls, e =>
    if tame ((call.run c).perform e).1 then after c calls ((call.run c).perform e).2 else none

theorem started_iff : started c setup outside = some e ↔
    ∃ e₀, ofSetup setup outside = .ok e₀ ∧ (enterLoading c).perform e₀ = (.ok (), e) := by
  unfold started
  cases ofSetup setup outside with
  | error _ => simp
  | ok e₀ =>
    simp only [Except.ok.injEq, exists_eq_left']
    rcases (enterLoading c).perform e₀ with ⟨_ | ⟨⟩, e₁⟩ <;> simp

theorem Reachable.of_started (h : started c setup outside = some e) :
    Reachable c allowed setup outside e := by
  obtain ⟨e₀, hsetup, hrun⟩ := started_iff.1 h
  exact .start hsetup hrun

theorem Reachable.of_after {calls : List HostCall} (hallowed : ∀ call ∈ calls, ∀ e, allowed e call)
    (h : Reachable c allowed setup outside e) (hafter : after c calls e = some e') :
    Reachable c allowed setup outside e' := by
  induction calls generalizing e with
  | nil =>
    cases hafter
    exact h
  | cons call calls ih =>
    unfold after at hafter
    split at hafter
    · next htame =>
      refine ih (fun call' hmem => hallowed call' (List.mem_cons_of_mem _ hmem)) ?_ hafter
      exact h.call call (hallowed call List.mem_cons_self e) rfl htame
    · cases hafter

/-- All parts of a reachable engine fit together, and it is never left idle between two beats. -/
theorem Reachable.coherent (hc : Quiet c w True) (h : Reachable c anyCall setup outside e) :
    (e.effect.isSome ↔ e.mode = .effectRunning) ∧
      (e.menu.isSome ↔ e.mode = .awaitingChoice) ∧
      (∀ options, e.menu = some options → options ≠ []) ∧
      (e.session.safe.isSome ↔ e.mode = .effectRunning ∨ e.mode = .awaitingChoice) ∧
      (e.awaiting → e.mode = .normal ∧ ∃ d, e.cursor.current = some (.dialogue d) ∧
        e.stage.timedText.showing ∧ e.stage.timedText.fullText = d.text) ∧
      (e.mode = .normal → e.awaiting) ∧
      e.cursor.script = e.script ∧ e.script.lookup e.cursor.conversation = .ok e.cursor.beats ∧
      e.cursor.index ≤ e.cursor.beats.size := by
  obtain ⟨⟨hs, -⟩, hidle, -⟩ := h.atRest Keeps.nothing hc (fun _ _ => trivial)
    fun _ _ t _ _ _ => Admits.nothing t
  refine ⟨hs.effect, hs.menu, hs.options, hs.safe, hs.awaiting, fun hmode => ?_, hs.script,
    hs.script ▸ hs.cursor.beats, hs.cursor.index⟩
  simpa [running, hmode] using hidle

/-- A document with one conversation of some lines. -/
def storyDocument (lines : List String) : Value :=
  .record [(.text "start", .list (lines.map .text))]

/-- The set-up of a story with one conversation, as it compiles. -/
def Setup.telling (name : String) (lines : List String) : Setup :=
  { script := (compile (storyDocument lines) (.text name)).toOption.getD default }

/-- A story that fades out before its first line, as it is written. -/
def fadingDocument : Value :=
  storyDocument [".fadeout:1", "Hello"]

/-- The story as it is played. -/
def fading : Setup :=
  .telling "fading" [".fadeout:1", "Hello"]

theorem compile_fadingDocument : compile fadingDocument (.text "fading") = .ok fading.script :=
  compile_eq_ok_getD (by decide +kernel)

/-- The parts fit together while the story fades out. -/
theorem Reachable.coherent_fading : ∃ e : Engine (List Intent), e.mode = .effectRunning ∧
    e.effect.isSome ∧ e.menu.isSome = false ∧ e.session.safe.isSome ∧ e.awaiting = false := by
  have hmode : ((started .recording fading []).bind (after .recording [.resourcesReady])).map
      (·.mode) = some .effectRunning := by
    decide +kernel
  obtain ⟨e, he, hmode⟩ := Option.map_eq_some_iff.1 hmode
  obtain ⟨e₀, he₀, he⟩ := Option.bind_eq_some_iff.1 he
  have hreach : Reachable .recording anyCall fading [] e :=
    (Reachable.of_started he₀).of_after (fun _ _ _ => trivial) he
  obtain ⟨heffect, hmenu, -, hsafe, hawaiting, -⟩ :=
    hreach.coherent Collaborators.recording_quiet.any
  refine ⟨e, hmode, heffect.2 hmode, ?_, hsafe.2 (.inl hmode), ?_⟩
  · simpa [hmode] using hmenu
  · simpa [hmode] using hawaiting

/-! ## Between two beats -/

/-- The engine between two beats of a run. -/
inductive Moment (c : Collaborators σ) (allowed : Engine σ → HostCall → Prop) (setup : Setup)
    (outside : σ) : Engine σ → Prop where
  | opening {e e₁ : Engine σ} (call : HostCall) : Reachable c allowed setup outside e →
    allowed e call → (call.opening c).perform e = (.ok true, e₁) →
    Moment c allowed setup outside { e₁ with stepping := true }
  | beat {e e' : Engine σ} : Moment c allowed setup outside e → e.running →
    (playBeat c).perform e = (.ok (), e') → Moment c allowed setup outside e'

theorem Moment.plays (h : Moment c allowed setup outside e) (hplays : Plays c e e') :
    Moment c allowed setup outside e' := by
  induction hplays with
  | refl => exact h
  | beat _ hr hrun ih => exact ih.beat hr hrun

/-- Between two beats an engine is fit. -/
theorem Moment.fit (K : Keeps typed J) (hc : Quiet c w True)
    (hj : ∀ e, ofSetup setup outside = .ok e → J e.stage)
    (hadmits : ∀ e call t, e.AtRest J → allowed e call → call.Brings e t → Admits J t)
    (h : Moment c allowed setup outside e) : e.Fit J := by
  induction h with
  | @opening e e₁ call hreach hallowed hrun =>
    have hrest := hreach.atRest K hc hj hadmits
    have hopened := HostCall.opening_leads K hc hrest fun t ht => hadmits e call t hrest hallowed ht
    have hstarts : e₁.Starts J := (Ends.iff_perform.1 hopened).1 true e₁ hrun
    exact hstarts.fit.withStepping true
  | @beat e e' _ hr hrun ih =>
    exact ((Ends.iff_perform.1 (playBeat_leads K hc ih hr)).1 () e' hrun).1

/-- The second engine comes from the first by calls that play nothing and do not change the mode, so
it waits for what the first one waits for. -/
inductive Lingers (c : Collaborators σ) (allowed : Engine σ → HostCall → Prop) :
    Engine σ → Engine σ → Prop where
  | refl (e : Engine σ) : Lingers c allowed e e
  | call {e e₁ e₂ : Engine σ} {r : Except Fault Unit} (call : HostCall) :
    Lingers c allowed e e₁ → allowed e₁ call → ¬call.PlaysOn c e₁ →
    (call.run c).perform e₁ = (r, e₂) → tame r → e₂.mode = e₁.mode → Lingers c allowed e e₂
  | around {e e₁ : Engine σ} (x : Surroundings σ) : Lingers c allowed e e₁ →
    Lingers c allowed e (e₁.within x)

theorem Lingers.mode (h : Lingers c allowed e e') : e'.mode = e.mode := by
  induction h with
  | refl => rfl
  | call _ _ _ _ _ _ hmode ih => exact hmode.trans ih
  | around _ _ ih => exact ih

/-- What brought an engine to where it waits: the last beat that was played, from the first engine
to the second. -/
structure Waits (c : Collaborators σ) (allowed : Engine σ → HostCall → Prop) (J : Stage → Prop)
    (e₀ e₁ e : Engine σ) : Prop where
  fit : e₀.Fit J
  running : e₀.running
  perform : (playBeat c).perform e₀ = (.ok (), e₁)
  after : AfterBeat e₀ e₁
  rest : ({ e₁ with stepping := false } : Engine σ).AtRest J
  lingers : Lingers c allowed { e₁ with stepping := false } e

/-- An engine that waits for the player or the renderer has come to it by a beat. -/
theorem Reachable.waits (K : Keeps typed J) (hc : Quiet c w True)
    (hj : ∀ e, ofSetup setup outside = .ok e → J e.stage)
    (hadmits : ∀ e call t, e.AtRest J → allowed e call → call.Brings e t → Admits J t)
    (h : Reachable c allowed setup outside e) (hloading : e.mode ≠ .loading)
    (hended : e.mode ≠ .ended) :
    ∃ e₀ e₁, Moment c allowed setup outside e₀ ∧ Waits c allowed J e₀ e₁ e := by
  induction h with
  | start hsetup hrun => exact absurd (start_atRest K hc hsetup (hj _ hsetup) hrun).2 hloading
  | @call e e' _ call hreach hallowed hrun htame ih =>
    have hrest := hreach.atRest K hc hj hadmits
    have hran := HostCall.run_leads K hc hrest fun t ht => hadmits _ call t hrest hallowed ht
    cases Leads.of_tame hran hrun htame with
    | opened hplays hopened =>
      obtain ⟨-, hstays | hend | hload⟩ := hopened
      · have hmode : e'.mode = e.mode := by
          obtain ⟨s, x, rfl, -⟩ := hstays
          rfl
        rw [hmode] at hloading hended
        obtain ⟨e₀, e₁, hmoment, hw⟩ := ih hloading hended
        exact ⟨e₀, e₁, hmoment, { hw with
          lingers := hw.lingers.call call hallowed hplays hrun htame hmode }⟩
      · exact absurd hend hended
      · exact absurd hload hloading
    | @played e₁ hopening hstarts hrested =>
      rcases hrested.last with hend | rfl | ⟨e₀, e₂, hlast, rfl⟩
      · exact absurd hend hended
      · have hrunning := hstarts.running
        rw [hrested.rest.running] at hrunning
        cases hrunning
      · have hmoment := (Moment.opening call hreach hallowed hopening).plays hlast.plays
        exact ⟨e₀, e₂, hmoment, ⟨hlast.fit, hlast.running, hlast.perform, hlast.after, hrested.rest,
          .refl _⟩⟩
  | around x _ ih =>
    obtain ⟨e₀, e₁, hmoment, hw⟩ := ih hloading hended
    exact ⟨e₀, e₁, hmoment, { hw with lingers := hw.lingers.around x }⟩

/-- An engine that waits for what another one waits for has its session, but for flags. -/
theorem Lingers.stays {fixed : Prop} (K : Keeps typed J) (hc : Quiet c w True)
    (hadmits : ∀ e call t, e.AtRest J → allowed e call → call.Brings e t → Admits J t)
    (hloading : e.mode ≠ .loading) (hended : e.mode ≠ .ended)
    (hfixed : ∀ e' call, e.Stays fixed e' → allowed e' call → fixed → call.setsFlag = false)
    (hrest : e.AtRest J) (h : Lingers c allowed e e') : e'.AtRest J ∧ e.Stays fixed e' := by
  induction h with
  | refl => exact ⟨hrest, .refl e⟩
  | @call e₁ e₂ _ call _ hallowed hplays hrun htame hmode ih =>
    obtain ⟨hrest₁, hstays⟩ := ih
    have hmode₁ : e₁.mode = e.mode := by
      obtain ⟨s, x, rfl, -⟩ := hstays
      rfl
    rw [hmode₁] at hmode
    have hran := HostCall.run_leads K hc hrest₁ fun t ht => hadmits _ call t hrest₁ hallowed ht
    cases Leads.of_tame hran hrun htame with
    | opened _ hopened =>
      obtain ⟨hrest₂, hstays₂ | hend | hload⟩ := hopened
      · exact ⟨hrest₂, hstays.trans hstays₂ (hfixed e₁ call hstays hallowed)⟩
      · exact absurd (hmode.symm.trans hend) hended
      · exact absurd (hmode.symm.trans hload) hloading
    | played hopening => exact absurd (by simp [HostCall.PlaysOn, hopening]) hplays
  | around x _ ih =>
    obtain ⟨hrest₁, hstays⟩ := ih
    exact ⟨hrest₁.within K x, hstays.within x⟩

end Engine

end VisualNovel
