import VisualNovel.Proofs.Protocol
import VisualNovel.Proofs.Replay
import VisualNovel.Proofs.SafeWindow
import VisualNovel.Proofs.SmallSteps

/-!
# Waiting again

An engine that waits is saved, and another one at the same settings takes over the snapshot. When
all is loaded, it waits for the same at the same place, unless its renderer meets a mishap:
`Engine.Reachable.resumes`. It plays the beat again that made the first one wait, on a stage that is
alike, and a command does the same on stages that are alike (`Stage.Alike.performs`). So it sends
what this beat sends, and nothing of what the story has sent before.

Nothing is asked of the script here, nor of what the host has done before it saved.
-/

namespace VisualNovel

open Script

variable {σ τ : Type}

/-! ## Stages that are alike -/

namespace Stage

/-- A command that draws on nothing leaves the same to do on stages that are alike. -/
theorem Alike.performs {s t s' : Stage} (h : s.Alike t) {cmd : Script.Command}
    (hw : Command.wellFormed cmd) (hsettled : Command.Settled cmd.kind) {o : Outcome}
    (hs : (Command.perform cmd).perform s = (.ok o, s')) :
    ∃ t', (Command.perform cmd).perform t = (.ok o, t') ∧ o.Suits Alike cmd s t s' t' := by
  have hperform := Alike.likeness.perform h hw False.elim (fun hk => absurd hk hsettled.roll)
    fun hk => absurd hk hsettled.switch
  obtain ⟨_, t', ht, rfl, hsuits⟩ := (Ends.iff_perform.1 hperform).1 o s' hs
  exact ⟨t', ht, hsuits⟩

/-- The settings of the stage, and the frame rate that they fix. -/
structure Ruled (config : Config) (rate : Int) (s : Stage) : Prop where
  config : s.config = config
  frameRate : s.timedText.frameRate = rate

namespace Ruled

variable {config : Config} {rate : Int} {s : Stage}

theorem switchScript (h : s.Ruled config rate) (line name conversation : Value) :
    Leads True (Command.switchScript line name conversation) s
      (fun _ s' => s'.Ruled config rate) fun _ s' => s'.Ruled config rate := by
  unfold Command.switchScript
  have hrecalls : ∀ {s'}, s.Recalls s' → s'.Ruled config rate := by
    rintro _ ⟨library, rfl, -⟩
    exact ⟨h.config, h.frameRate⟩
  refine Leads.bind (Leads.mono (fetchScript_leads _ _ s) (fun _ _ h => hrecalls h.1)
    fun _ _ h => hrecalls h) ?_
  rintro script s₁ h₁
  refine Ends.bind_iff.2 (Ends.ofExcept_iff.2 ⟨fun conversation _ => ?_, ?_⟩)
  · refine Ends.bind_iff.2 (Ends.ofStory_iff.2 ⟨fun cursor _ => ?_, fun _ _ => h₁⟩)
    exact Leads.modify_bind (Leads.modify_bind ⟨h₁.config, h₁.frameRate⟩)
  · rintro (error | m) _
    · exact h₁
    · trivial

theorem keeps : Keeps False (Ruled config rate) where
  likeness := openLikeness fun h hroots =>
    ⟨hroots.config.trans h.config, hroots.frameRate.trans h.frameRate⟩
  switchScript line name conversation ho h _ := by
    refine Ends.mono ((ho.switchScript line name conversation).and
      (h.switchScript line name conversation)) (fun _ _ ⟨⟨hp, ho⟩, h⟩ => ⟨hp, ho, h⟩) ?_
    rintro (error | m) s' ⟨ho, h⟩
    · exact ⟨ho, h⟩
    · trivial
  beats _ h := h.elim
  disk _ h := ⟨h.config, h.frameRate⟩
  dice _ h := ⟨h.config, h.frameRate⟩
  timedText _ h hrate _ := ⟨h.config, hrate.trans h.frameRate⟩
  safe _ h := ⟨h.config, h.frameRate⟩
  speech _ h _ := ⟨h.config, h.frameRate⟩
  flag _ _ h := ⟨h.config, h.frameRate⟩
  cursor _ h _ _ := ⟨h.config, h.frameRate⟩

theorem admits (t : Snapshot) : Admits (Ruled config rate) t := by
  intro s h
  refine Ends.mono (Engine.scriptOf_ends t s) ?_ ?_
  · rintro script _ ⟨library, rfl⟩
    refine ⟨⟨h.config, h.frameRate⟩, fun cursor _ => ?_⟩
    refine Runs.mono (Stage.retimeFromSession_leads _) ?_
    rintro _ _ ⟨u, rfl, hline⟩
    exact ⟨h.config, hline.frameRate.trans h.frameRate⟩
  · rintro (error | m) _ ⟨library, rfl⟩
    · exact ⟨h.config, h.frameRate⟩
    · trivial

end Ruled

end Stage

/-- A place that is found again in the same script is the one of a sound cursor. -/
theorem Cursor.Sound.eq_of_rebind {x y : Cursor} {place : Position} (hy : y.Sound)
    (hscript : x.script = y.script) (hplace : place = y.position)
    (hx : Cursor.rebind x.script place = .ok x) : x = y := by
  rw [hscript, hplace, Cursor.rebind_position hy] at hx
  exact (Except.ok.inj hx).symm

namespace Engine

/-- A story that has not started has the settings of its setup, which fix the frame rate, and
nothing to show. -/
structure Unshown (setup : Setup) (e : Engine σ) : Prop where
  config : e.stage.config = setup.config
  text : e.stage.timedText.fullText = .text ""
  frameRate : ∃ t, (setup.config.view.required "frame_rate" >>= TimedText.new) = .ok t ∧
    e.stage.timedText.frameRate = t.frameRate
  stepping : e.stepping = false

theorem ofSetup_unshown {setup : Setup} {outside : σ} {e : Engine σ}
    (h : ofSetup setup outside = .ok e) : Unshown setup e ∧ e.outside = outside := by
  obtain ⟨s, hs, h⟩ := bind_eq_ok.1 h
  cases h
  obtain ⟨cursor, overrides, t₀, t, -, -, ht₀, -, rfl, htext⟩ := initialStage_ok hs
  refine ⟨⟨rfl, ?_, ⟨t₀, ht₀, htext.frameRate⟩, rfl⟩, rfl⟩
  obtain ⟨v, -, hnew⟩ := bind_eq_ok.1 ht₀
  obtain ⟨n, -, hnew⟩ := bind_eq_ok.1 hnew
  cases hnew
  exact htext.fullText

theorem started_unshown {c : Collaborators σ} {w : Watch σ} (hc : Quiet c w True) {setup : Setup}
    {outside : σ} {e : Engine σ} (h : started c setup outside = some e) :
    Unshown setup e ∧ w.sent outside e.outside [] := by
  obtain ⟨e₀, hsetup, hload⟩ := started_iff.1 h
  obtain ⟨hfresh, rfl⟩ := ofSetup_unshown hsetup
  obtain ⟨x, rfl, hsent, -⟩ := (Ends.iff_perform.1 (enterLoading_runs hc e₀)).1 _ _ hload
  exact ⟨⟨hfresh.config, hfresh.text, hfresh.frameRate, hfresh.stepping⟩, hsent⟩

/-- Settings that are the same fix the same frame rate. -/
theorem Unshown.ruled {setup setup' : Setup} {e : Engine σ} {f : Engine τ} (h : Unshown setup e)
    (h' : Unshown setup' f) (hconfig : setup'.config = setup.config) :
    f.stage.Ruled e.stage.config e.stage.timedText.frameRate := by
  obtain ⟨t, ht, hrate⟩ := h.frameRate
  obtain ⟨t', ht', hrate'⟩ := h'.frameRate
  rw [hconfig] at ht'
  cases ht.symm.trans ht'
  exact ⟨(h'.config.trans hconfig).trans h.config.symm, hrate'.trans hrate.symm⟩

/-! ## The beat that is played again -/

section
variable {c : Collaborators σ} {w : Watch σ} {may : Prop} {e e' : Engine σ} {cmd : Script.Command}

/-- What a command leaves to do is done, if it is known. -/
theorem execute_runs (hc : Quiet c w may) (hw : Command.wellFormed cmd) {o : Outcome}
    (hperform : ∀ x, ∃ s, (Command.perform cmd).perform (e.within x).stage = (.ok o, s)) :
    Runs may (execute c cmd) e fun _ e' => Performs w cmd o e e' := by
  unfold execute
  rw [if_neg (by simp [hw])]
  refine (emit_runs hc _ e).any.bind fun _ e₁ h₁ => ?_
  obtain ⟨s, hs⟩ : ∃ s, (Command.perform cmd).perform e₁.stage = (.ok o, s) := by
    obtain ⟨x, rfl, -⟩ := h₁
    exact hperform x
  refine Ends.bind_iff.2 (Ends.onPart_iff.2 (Ends.of_perform hs ?_))
  exact (settle_runs hc o _).mono fun _ e' h' => ⟨e₁, s, h₁, hs, h'⟩

end

/-- The engine waits in a mode for what the beat at the cursor has begun, and no intent about fonts
was sent. -/
structure Resumes (w : Watch σ) (mode : Mode) (e e' : Engine σ) : Prop where
  mode : e'.mode = mode
  idle : e'.running = false
  place : e'.session.persistent.cursor = e.cursor.position
  sent : ∃ l, (∀ i ∈ l, i.kind ≠ .uiOverride) ∧ w.sent e.outside e'.outside l

theorem settled_mode (o : Outcome) {e : Engine σ} {f : Engine τ} (h : f.mode = e.mode) :
    (f.settled o).mode = (e.settled o).mode := by
  cases o with
  | ask options line => cases line <;> rfl
  | hold => rfl
  | _ => exact h

section
variable {w : Watch σ} {cmd : Script.Command} {o : Outcome} {s s' t t' : Stage}
  {e e' f : Engine σ}

/-- A command that makes an engine wait leaves its own place to be saved. -/
theorem settled_persistent {R : Stage → Stage → Prop} (h : o.Suits R cmd e.stage t s t')
    (hmode : e.mode = .normal) (hwaits : (e.settled o).mode ≠ .normal) :
    (({ e with stage := s } : Engine σ).settled o).session.persistent.cursor =
      e.cursor.position := by
  cases o with
  | proceed | call | stay => exact absurd hmode hwaits
  | hold kind payload =>
    obtain ⟨-, s₁, -, -, rfl, -⟩ := h
    rfl
  | ask options line =>
    obtain ⟨rfl, -⟩ := h
    cases line <;> rfl

/-- A command that makes an engine wait sends no intent about fonts. -/
theorem sends_bare (h : o.Orderly cmd s s') (hmode : e.mode = .normal)
    (hwaits : (e.settled o).mode ≠ .normal) : ∀ i ∈ sends o f, i.kind ≠ .uiOverride := by
  cases o with
  | proceed | call | stay => exact absurd hmode hwaits
  | hold kind payload =>
    intro i hi hkind
    rw [List.mem_singleton.1 hi] at hkind
    have hlasting : kind.lasting := h.1
    rw [show kind = .uiOverride from hkind] at hlasting
    cases hlasting
  | ask options line => cases line <;> simp [sends, asking, menuOf, showing]

theorem Performs.resumes (h : Performs w cmd o e e') (hw : Command.wellFormed cmd)
    (hsettled : Command.Settled cmd.kind) (htext : e.stage.timedText.fullText.IsText)
    (hmode : e.mode = .normal) (hwaits : (e.settled o).mode ≠ .normal) :
    Resumes w (e.settled o).mode e e' := by
  obtain ⟨_, s, ⟨x, rfl, hemitted, -⟩, hperform, y, rfl, hsent, -⟩ := h
  have halike : (e.within x).stage.Alike (e.within x).stage :=
    ⟨rfl, rfl, rfl, rfl, rfl, rfl, rfl, rfl, htext⟩
  obtain ⟨t, ht, hsuits⟩ := halike.performs hw hsettled hperform
  have horderly := (Ends.iff_perform.1 (Command.perform_orderly cmd _)).1 o s hperform
  have hmode₁ : ((e.within x).settled o).mode = (e.settled o).mode := settled_mode o rfl
  have hwaits₁ : ((e.within x).settled o).mode ≠ .normal := by rwa [hmode₁]
  have hsame : (({ e.within x with stage := s } : Engine σ).settled o).mode = (e.settled o).mode :=
    settled_mode o rfl
  rw [settled_outside] at hsent
  refine ⟨hsame, ?_, settled_persistent hsuits hmode hwaits₁, _, sends_bare horderly hmode hwaits,
    w.sent_append hemitted hsent⟩
  rw [← hsame] at hwaits
  simpa [running, within] using fun h => absurd h hwaits

end

section
variable {c : Collaborators σ} {c' : Collaborators τ} {w : Watch σ} {w' : Watch τ}
  {e e' : Engine σ} {f : Engine τ}

/-- The command that made an engine wait makes another one wait, if their stages are alike. -/
theorem playBeat_resumes_command (hc : Quiet c w True) (hc' : Quiet c' w' True)
    (hplay : (playBeat c).perform e = (.ok (), e')) {cmd : Script.Command}
    (hcur : e.cursor.current = some (.command cmd)) (hsettled : Command.Settled cmd.kind)
    (hmode : e.mode = .normal) (hwaits : e'.mode ≠ .normal) (halike : e.stage.Alike f.stage)
    (hfmode : f.mode = .normal) :
    Runs True (playBeat c') f fun _ f' => Resumes w' e'.mode f f' := by
  have hcur' : f.cursor.current = some (.command cmd) := by
    show f.stage.session.cursor.current = _
    rw [halike.cursor]
    exact hcur
  have hexec : (execute c cmd).perform e = (.ok (), e') := by
    rw [playBeat, Action.perform_get_bind, hcur] at hplay
    exact hplay
  obtain ⟨hw, o, _, s, ⟨x, rfl, -⟩, hperform, y, rfl, -⟩ :=
    (Ends.iff_perform.1 (execute_performs hc cmd e)).1 _ _ hexec
  have hsame : (f.settled o).mode = (({ e.within x with stage := s } : Engine σ).settled o).mode :=
    settled_mode o (hfmode.trans hmode.symm)
  have hagain : ∀ z, ∃ t, (Command.perform cmd).perform (f.within z).stage = (.ok o, t) := by
    intro z
    have hwithin : (e.within x).stage.Alike (f.within z).stage := { halike with }
    obtain ⟨t, ht, -⟩ := hwithin.performs hw hsettled hperform
    exact ⟨t, ht⟩
  refine Leads.get_bind ?_
  rw [hcur']
  refine (execute_runs hc' hw hagain).mono fun _ f' h => ?_
  have hresumes := h.resumes hw hsettled halike.text hfmode (by rw [hsame]; exact hwaits)
  rwa [hsame] at hresumes

/-- A line makes an engine wait again. -/
theorem playBeat_resumes_line (hc : Quiet c w True) {d : Dialogue}
    (hcur : e.cursor.current = some (.dialogue d)) (hmode : e.mode = .normal)
    (hsafe : e.session.safe = none) :
    Runs True (playBeat c) e fun _ e' => Resumes w .normal e e' := by
  refine Leads.get_bind ?_
  rw [hcur]
  refine (display_waits hc (.inl trivial) d.speaker e).mono ?_
  rintro _ _ ⟨t, visible, -, x, rfl, hsent, -⟩
  refine ⟨hmode, by simp [running, within, waiting], ?_, _, ?_, hsent⟩
  · show (e.session.safe.getD _).cursor = _
    rw [hsafe]
    rfl
  · simp [showing]

/-- A beat that makes the engine wait is all that a step plays. -/
theorem step_runs_beat (hc : Quiet c w True) (hr : e.running) (hstepping : e.stepping = false)
    {Q : Engine σ → Prop} (hbeat : Runs True (playBeat c) { e with stepping := true } fun _ e' =>
      Q e' ∧ e'.running = false) :
    Runs True (step c) e fun _ e' => ∃ e₁, Q e₁ ∧ e' = { e₁ with stepping := false } := by
  have hhalts : ∀ {n r e'}, Halts c n { e with stepping := true } r e' → n ≤ commandBudget →
      (step c).perform e = concluded r e' := fun h hn =>
    step_perform hr hstepping (playBeats_of_halts hc h hn fun _ => by decide)
  have hcost : ({ e with stepping := true } : Engine σ).cost ≤ commandBudget := by
    unfold cost
    split <;> decide
  obtain ⟨hok, herror⟩ := Ends.iff_perform.1 hbeat
  have hsmall := orFail_perform (c := c) (playBeat c) { e with stepping := true }
  rcases hrun : (playBeat c).perform { e with stepping := true } with ⟨(error | m) | ⟨⟩, e₁⟩
  · exact (herror _ e₁ hrun).elim
  · rw [hrun] at hsmall
    have hstep := hhalts (.stops hr hsmall) hcost
    refine Ends.iff_perform.2 ⟨fun _ _ h => ?_, fun _ _ h => ?_⟩
    · cases hstep.symm.trans h
    · cases hstep.symm.trans h
      trivial
  · obtain ⟨hq, hidle⟩ := hok _ e₁ hrun
    rw [hrun] at hsmall
    have hstep := hhalts (.beat hr hsmall (.rests hidle)) (by rwa [Nat.zero_add])
    exact Ends.of_perform hstep ⟨e₁, hq, rfl⟩

end

/-! ## Restoring and resuming -/

section
variable {c : Collaborators σ} {w : Watch σ} {e f : Engine σ} {t : Snapshot}

/-- The engine when it has taken over a snapshot and loads, with its text timed again. -/
def adopting (t : Snapshot) (library : Option Library) (cursor : Cursor) (u : TimedText)
    (e : Engine σ) : Engine σ :=
  { e with
    stage := { ({ e.stage with library } : Stage).adopting t cursor with timedText := u }
    mode := .loading, effect := none, menu := none, awaiting := false, error := none }

/-- A snapshot is taken over, and the renderer is sent no intent. -/
theorem restore_adopts (hc : Quiet c w True) (t : Snapshot) (e : Engine σ) :
    Ends (restore c t) e (fun _ e' => ∃ library cursor u,
      Cursor.rebind cursor.script t.cursor = .ok cursor ∧ e.stage.timedText.SameText u ∧
        Aside w [] (e.adopting t library cursor u) e') fun _ _ => True := by
  refine restore_ends ((scriptOf_ends t e.stage).mono (fun _ _ h => h) fun _ _ _ => trivial)
    (fun _ _ _ _ _ => trivial) ?_
  rintro cursor _ ⟨library, rfl⟩ hcursor
  refine Ends.mono (Stage.retimeFromSession_leads _) ?_ fun _ _ _ => trivial
  rintro _ _ ⟨u, rfl, hline⟩
  refine Ends.mono (enterLoading_runs hc _) (fun _ e' h => ?_) fun _ _ _ => trivial
  exact ⟨library, cursor, u, hcursor, ⟨hline.fullText, hline.frameRate⟩, h⟩

/-- All is loaded, and the beat at the cursor makes the engine wait. -/
theorem resourcesReady_resumes (hc : Quiet c w True) (hmode : e.mode = .loading)
    (hawaiting : e.awaiting = false) (hstepping : e.stepping = false) {mode : Mode}
    (hbeat : ∀ x, let e₁ : Engine σ := { e with mode := .normal, stepping := true }.within x
      Runs True (playBeat c) e₁ fun _ e' => Resumes w mode e₁ e') :
    Runs True (HostCall.resourcesReady.run c) e fun _ e' => Resumes w mode e e' := by
  refine Leads.get_bind ?_
  rw [hmode]
  refine (setMode_runs hc .normal e).any.bind fun _ e₁ ⟨x, he₁, hsent, _⟩ => Ends.discard_iff.2 ?_
  subst he₁
  have hr : ({ e with mode := .normal }.within x : Engine σ).running :=
    running_iff.2 ⟨rfl, hawaiting⟩
  have hplays := (hbeat x).mono fun _ e' h => And.intro h h.idle
  refine (step_runs_beat hc hr hstepping hplays).mono ?_
  rintro _ _ ⟨e', ⟨hmode', hidle, hplace, l, hl, hsent'⟩, rfl⟩
  exact ⟨hmode', hidle, hplace, l, hl, w.sent_append hsent hsent'⟩

end

section
variable {c : Collaborators σ} {w : Watch σ} {w' : Watch τ} {c' : Collaborators τ}
  {setup : Setup} {outside : σ} {e₀ e₁ e : Engine σ} {f : Engine τ} {J : Stage → Prop}

/-- What an engine waits for that has set its session aside: the command before which it did so. -/
theorem Waits.set_aside (hc : Quiet c w True) (h : Waits c anyCall J e₀ e₁ e)
    (hmode : e.mode = .effectRunning ∨ e.mode = .awaitingChoice) :
    e.mode = e₁.mode ∧ e.script = e₀.script ∧ e.session.persistent = e₀.session.live ∧
      ∃ cmd, e₀.cursor.current = some (.command cmd) ∧ Command.Settled cmd.kind := by
  have hmode₁ : e.mode = e₁.mode := h.lingers.mode
  obtain ⟨cmd, hcmd, hsettled, hsafe⟩ : ∃ cmd, e₀.cursor.current = some (.command cmd) ∧
      Command.Settled cmd.kind ∧ e₁.session.safe = some e₀.session.live := by
    rcases hmode with hmode | hmode
    · obtain ⟨cmd, hcmd, hlasts, hsafe⟩ := h.after.effect (hmode₁.symm.trans hmode)
      exact ⟨cmd, hcmd, hlasts.settled, hsafe⟩
    · obtain ⟨cmd, hcmd, hasks, hsafe⟩ := h.after.menu (hmode₁.symm.trans hmode)
      exact ⟨cmd, hcmd, Command.settled_of_asks hasks, hsafe⟩
  have hstays : ({ e₁ with stepping := false } : Engine σ).Stays False e := by
    refine lingers_stays hc ?_ ?_ ⟨⟨h.rest.fit.steady, trivial⟩, h.rest.running, h.rest.stepping⟩
      h.lingers
    · rcases hmode with hmode | hmode <;> simp [← hmode₁, hmode]
    · rcases hmode with hmode | hmode <;> simp [← hmode₁, hmode]
  have hsome : e₁.session.safe.isSome := by simp [hsafe]
  have hpersistent : e.session.persistent = e₀.session.live := by
    rw [hstays.persistent hsome]
    show e₁.session.safe.getD _ = _
    rw [hsafe]
    rfl
  have hexec : (execute c cmd).perform e₀ = (.ok (), e₁) := by
    have hplay := h.perform
    rw [playBeat, Action.perform_get_bind, hcmd] at hplay
    exact hplay
  have hroots := ((Ends.iff_perform.1
    (execute_roots hc (h.fit.steady.isOpen h.running) hsettled)).1 _ _ hexec).1
  exact ⟨hmode₁, hstays.script_eq.trans hroots.script, hpersistent, cmd, hcmd, hsettled⟩

/-- An engine that waits for input stands at a line, and saves what it plays. -/
theorem AtRest.at_line (h : AtRest J e) (hmode : e.mode = .normal) :
    (∃ d, e.cursor.current = some (.dialogue d)) ∧ e.session.persistent = e.session.live := by
  have hwaits : e.awaiting = true := by simpa [Engine.running, hmode] using h.running
  obtain ⟨-, d, hd, -⟩ := h.fit.steady.awaiting hwaits
  have hnone : e.session.safe = none :=
    h.fit.steady.safe_eq_none (by simp [hmode]) (by simp [hmode])
  refine ⟨⟨d, hd⟩, ?_⟩
  rw [Session.persistent, hnone]
  rfl

/-- What made an engine wait that was saved makes one wait that has taken over the save, at the same
place. -/
theorem Reachable.resumes (hc : Quiet c w True) (hc' : Quiet c' w' True)
    (h : Reachable c anyCall setup outside e)
    (hmode : e.mode = .normal ∨ e.mode = .effectRunning ∨ e.mode = .awaitingChoice)
    {config : Config} {rate : Int}
    (hruled : ∀ e₀ : Engine σ, ofSetup setup outside = .ok e₀ → e₀.stage.Ruled config rate)
    (library : Option Library) {cursor : Cursor} {u : TimedText} (x : Surroundings τ)
    (hstepping : f.stepping = false) (hconfig : f.stage.config = config)
    (hrate : u.frameRate = rate) (htext : u.fullText.IsText) (hscript : cursor.script = e.script)
    (hcursor : Cursor.rebind cursor.script e.session.persistent.cursor = .ok cursor) :
    let f₁ : Engine τ := (f.adopting e.session.persistent library cursor u).within x
    Runs True (HostCall.resourcesReady.run c') f₁ fun _ f' => Resumes w' e.mode f₁ f' ∧
      cursor.position = e.session.persistent.cursor := by
  have hrest := h.atRest Stage.Ruled.keeps hc hruled fun _ _ t _ _ _ => Stage.Ruled.admits t
  have hfound : ∀ {y : Cursor}, y.Sound → y.script = e.script →
      e.session.persistent.cursor = y.position → cursor = y := fun hy hsame hposition =>
    hy.eq_of_rebind (hscript.trans hsame.symm) hposition hcursor
  suffices hplays : cursor.position = e.session.persistent.cursor ∧ ∀ y : Surroundings τ,
      let f₁ : Engine τ := (f.adopting e.session.persistent library cursor u).within x
      let f₂ : Engine τ := { f₁ with mode := .normal, stepping := true }.within y
      Runs True (playBeat c') f₂ fun _ f' => Resumes w' e.mode f₂ f' from
    (resourcesReady_resumes (e := (f.adopting e.session.persistent library cursor u).within x) hc'
      rfl rfl hstepping hplays.2).mono fun _ _ h => ⟨h, hplays.1⟩
  rcases hmode with hmode | hmode
  · obtain ⟨⟨d, hd⟩, hlive⟩ := hrest.at_line hmode
    have hsame : cursor = e.cursor :=
      hfound hrest.fit.steady.cursor hrest.fit.steady.script (congrArg Snapshot.cursor hlive)
    refine ⟨by rw [hsame, hlive]; rfl, fun y => ?_⟩
    rw [hmode, hsame]
    exact playBeat_resumes_line hc' hd rfl rfl
  · have hnormal : e.mode ≠ .normal := by
      rcases hmode with hmode | hmode <;> simp [hmode]
    obtain ⟨e₀, e₁, -, hw⟩ := h.waits Stage.Ruled.keeps hc hruled
      (fun _ _ t _ _ _ => Stage.Ruled.admits t) (by rcases hmode with h | h <;> simp [h])
      (by rcases hmode with h | h <;> simp [h])
    obtain ⟨hmode₁, hscript₀, hlive, cmd, hcmd, hsettled⟩ := hw.set_aside hc hmode
    have hsame : cursor = e₀.cursor :=
      hfound hw.fit.steady.cursor (hw.fit.steady.script.trans hscript₀.symm)
        (congrArg Snapshot.cursor hlive)
    refine ⟨by rw [hsame, hlive]; rfl, fun y => ?_⟩
    rw [hmode₁] at hnormal ⊢
    refine playBeat_resumes_command hc hc' hw.perform hcmd hsettled (running_iff.1 hw.running).1
      hnormal ?_ rfl
    rw [hlive, hsame]
    exact ⟨hconfig.trans hw.fit.stage.config.symm, hw.fit.steady.script, rfl, rfl, rfl, rfl, rfl,
      hrate.trans hw.fit.stage.frameRate.symm, htext⟩

end

end Engine

end VisualNovel
