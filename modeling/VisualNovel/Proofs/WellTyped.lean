import VisualNovel.Proofs.Reachable
import VisualNovel.Proofs.Soundness

/-!
# Compiled commands are well typed

The layouts, by which lines are read, and the commands, which take their parameters apart, agree.
What a line gives, what a compiled script is made of, and what stands at the cursor in any run of it
are commands that fit their layouts, and such commands can be performed
(`Script.compiled_commands_sound`).
-/

namespace VisualNovel

open Script

variable {σ : Type}

/-! ## Runs keep to scripts that fit -/

namespace Stage.Fits

theorem keeps : Keeps False Stage.Fits where
  likeness := openLikeness fun h hroots => h.congr hroots.script hroots.cursorScript hroots.library
  switchScript {s} line name conversation ho h _ := by
    refine Ends.mono (h.switchScript line name conversation) ?_ ?_
    · rintro _ s' ⟨rfl, hswitched⟩
      obtain ⟨cursor, scriptName, hsound, hsession⟩ := hswitched.session
      refine ⟨rfl, ⟨?_, ?_, hswitched.fits.inStep⟩, hswitched.fits⟩
      · rw [hsession]
        exact hsound
      · rw [hsession]
        exact ho.safe
    · rintro (error | m) s' ⟨⟨library, rfl, hfits⟩, -⟩
      · exact ⟨⟨ho.cursor, ho.safe, ho.script⟩, hfits⟩
      · trivial
  beats _ h := h.elim
  disk _ h := h.congr rfl rfl rfl
  dice _ h := h.congr rfl rfl rfl
  timedText _ h _ _ := h.congr rfl rfl rfl
  safe _ h := h.congr rfl rfl rfl
  speech _ h _ := h.congr rfl rfl rfl
  flag _ _ h := h.congr rfl rfl rfl
  cursor _ h hscript _ := h.congr rfl hscript rfl

/-- Whatever a snapshot holds, the script that it brings fits. -/
theorem admits (t : Snapshot) : Admits Stage.Fits t := by
  intro s h
  have hscript : Leads True (Engine.scriptOf t) s (fun script s' => script.Fits ∧ s'.Fits)
      fun _ s' => s'.Fits := by
    unfold Engine.scriptOf
    refine Leads.get_bind ?_
    dsimp only
    split
    · exact ⟨h.script, h⟩
    · refine Ends.mono (h.fetchScript _ _) ?_ ?_
      · rintro script _ ⟨hscript, library, rfl, h'⟩
        exact ⟨hscript, h'⟩
      · rintro (error | m) _ ⟨⟨library, rfl, h'⟩, -⟩
        · exact h'
        · trivial
  refine Leads.mono hscript ?_ fun _ _ h => h
  intro script s' ⟨hscript, h'⟩
  refine ⟨h', fun cursor hcursor => ?_⟩
  obtain ⟨rfl, -⟩ := Cursor.rebind_sound hcursor
  refine Runs.mono (Stage.retimeFromSession_leads _) ?_
  rintro _ _ ⟨u, rfl, -⟩
  exact ⟨hscript, rfl, h'.library⟩

end Stage.Fits

/-- The library remembers nothing but what it has compiled. -/
def Library.Compiles (l : Library) : Prop :=
  ∀ e ∈ l.compiled, ∃ document name, compile document name = .ok e.2

namespace Engine

variable {c : Collaborators σ} {w : Watch σ} {setup : Setup} {outside : σ} {e : Engine σ}

theorem ofSetup_fits (hscript : setup.script.Fits)
    (hlibrary : ∀ l, setup.library = some l → l.Compiles) (h : ofSetup setup outside = .ok e) :
    e.stage.Fits := by
  obtain ⟨s, hs, h⟩ := bind_eq_ok.1 h
  cases h
  obtain ⟨cursor, overrides, t₀, t, hcursor, -, -, -, rfl, -⟩ := initialStage_ok hs
  refine ⟨?_, rfl, fun l hl entry hentry => ?_⟩
  · show cursor.script.Fits
    rw [(start_sound hcursor).1]
    exact hscript
  · obtain ⟨document, name, hcompile⟩ := hlibrary l hl entry hentry
    exact Script.compile_fits hcompile

/-- A story that starts with sane settings starts on a sane stage. -/
theorem ofSetup_sane (hscript : setup.script.Fits)
    (hlibrary : ∀ l, setup.library = some l → l.Compiles) (hconfig : setup.config.Sane)
    (hdice : ∀ v ∈ setup.dice.rolls, ∃ n, v = .int n) (h : ofSetup setup outside = .ok e) :
    e.stage.Sane := by
  have hfits := ofSetup_fits hscript hlibrary h
  obtain ⟨s, hs, h⟩ := bind_eq_ok.1 h
  cases h
  obtain ⟨cursor, overrides, t₀, t, hcursor, hoverrides, ht₀, -, rfl, htext⟩ := initialStage_ok hs
  obtain ⟨n, hn, hoverrides⟩ := bind_eq_ok.1 hoverrides
  obtain ⟨x, hx, hoverrides⟩ := bind_eq_ok.1 hoverrides
  cases hoverrides
  have hblank : t.fullText = .text "" := by
    obtain ⟨v, -, hnew⟩ := bind_eq_ok.1 ht₀
    obtain ⟨n, -, hnew⟩ := bind_eq_ok.1 hnew
    cases hnew
    exact htext.fullText
  have hzero : (Value.float 0.0).IsReal := .inl ⟨0.0, rfl⟩
  refine ⟨hconfig, ⟨hzero, hzero, ?_, [], rfl⟩, hzero, hzero, ?_, ⟨"", hblank⟩, hdice,
    (start_sound hcursor).2, hfits⟩
  · exact fun _ he => absurd he List.not_mem_nil
  · exact fun _ he => absurd he List.not_mem_nil

/-- The command at the cursor fits, at every moment of a run. -/
theorem Moment.command_fits (hc : Quiet c w True) (hscript : setup.script.Fits)
    (hlibrary : ∀ l, setup.library = some l → l.Compiles)
    (h : Moment c anyCall setup outside e) {cmd : Script.Command}
    (hcmd : e.cursor.current = some (.command cmd)) : cmd.Fits := by
  have hfit := h.fit Stage.Fits.keeps hc (fun _ h => ofSetup_fits hscript hlibrary h)
    fun _ _ t _ _ _ => Stage.Fits.admits t
  exact hfit.steady.cursor.current_fits hfit.stage.cursor hcmd

end Engine

/-! ## What can be done with a command that fits -/

/-- The command passes the test of its parameters, its groups are whole, and performing it never
fails on the number or the types of its parameters. -/
structure Command.Performable (cmd : Script.Command) : Prop where
  wellFormed : Command.wellFormed cmd
  executed : ∀ (σ : Type) (c : Collaborators σ), Engine.execute c cmd = (do
    Engine.emit c (.commandRun cmd.kind.keyword cmd.args cmd.line)
    Engine.settle c (← Engine.onStage (Command.perform cmd)))
  groups : ∀ start size, Grouped cmd.kind start size →
    (∀ g ∈ cmd.groups start size, g.length = size) ∧
      (cmd.groups start size).flatten = cmd.args.drop (Layout.of cmd.kind).head.length
  sound : ∀ s : Stage, s.Sane →
    Ends (Command.perform cmd) s (fun o s' => s'.Sane ∧ o.Sane) (Command.Fails cmd s)

theorem Script.Command.Fits.performable {cmd : Script.Command} (h : cmd.Fits) :
    VisualNovel.Command.Performable cmd where
  wellFormed := h.wellFormed
  executed σ c := by simp [Engine.execute, h.wellFormed]
  groups start size hgrouped := by
    rw [← hgrouped.layout.1]
    exact h.groups_whole hgrouped
  sound _ hs := VisualNovel.Command.perform_sound h hs

/-- Every command that a line gives fits its layout, with the declared values where parameters were
left out; so does every command of a compiled script, and every command that stands at the cursor in
a run. All of them can be performed. -/
theorem Script.compiled_commands_sound :
    (∀ raw line conversation cmd, parseLine raw line conversation = .ok (.command cmd) →
      cmd.Fits ∧ VisualNovel.Command.Performable cmd ∧
        ∃ raws, bind cmd.kind raws line conversation = .ok cmd.args ∧
          ∀ i p, raws.length ≤ i → (Layout.of cmd.kind).head[i]? = some p →
            cmd.args[i]? = p.default?) ∧
      (∀ document name script, compile document name = .ok script →
        ∀ e ∈ script.conversations, ∀ cmd, Beat.command cmd ∈ e.2 →
          cmd.Fits ∧ VisualNovel.Command.Performable cmd) ∧
      ∀ (σ : Type) (c : Collaborators σ) (w : Watch σ) (setup : Engine.Setup) (outside : σ)
        (e : Engine σ) document name, Quiet c w True → compile document name = .ok setup.script →
        (∀ l, setup.library = some l → l.Compiles) →
        Engine.Moment c Engine.anyCall setup outside e →
        ∀ cmd, e.cursor.current = some (.command cmd) →
          cmd.Fits ∧ VisualNovel.Command.Performable cmd := by
  refine ⟨?_, ?_, ?_⟩
  · intro raw line conversation cmd h
    obtain ⟨raws, hargs, hline⟩ := parseLine_command h
    obtain ⟨hfits, hdefaults⟩ := bind_fits hargs
    rw [← hline] at hfits
    exact ⟨hfits, hfits.performable, raws, hargs, hdefaults⟩
  · intro document name script h e he cmd hcmd
    have hfits : cmd.Fits := Script.compile_fits h e he _ hcmd
    exact ⟨hfits, hfits.performable⟩
  · intro σ c w setup outside e document name hc hcompile hlibrary h cmd hcmd
    have hfits := h.command_fits hc (Script.compile_fits hcompile) hlibrary hcmd
    exact ⟨hfits, hfits.performable⟩

/-- The command that fades out fits when it is about to be performed, and it can be performed on the
stage that the story starts on. -/
theorem Script.compiled_commands_sound_fading :
    ∃ (e₀ e : Engine (List Intent)) (cmd : Script.Command),
      Engine.ofSetup Engine.fading [] = .ok e₀ ∧ e₀.stage.Sane ∧
        e.cursor.current = some (.command cmd) ∧ cmd.kind = .fadeOut ∧ cmd.Fits ∧
        Ends (VisualNovel.Command.perform cmd) e₀.stage (fun o s' => s'.Sane ∧ o.Sane)
          (VisualNovel.Command.Fails cmd e₀.stage) := by
  let opened (e : Engine (List Intent)) :=
    (HostCall.opening .recording .resourcesReady).perform e
  have hkind : ((Engine.started .recording Engine.fading []).bind fun e =>
      if (opened e).1.toOption = some true then (opened e).2.cursor.current.bind Beat.kind?
      else none) = some .fadeOut := by
    decide +kernel
  obtain ⟨e, he, hkind⟩ := Option.bind_eq_some_iff.1 hkind
  rcases hrun : opened e with ⟨_ | _ | _, e₁⟩
  · simp [hrun, Except.toOption] at hkind
  · simp [hrun, Except.toOption] at hkind
  · rw [hrun] at hkind
    obtain ⟨beat, hbeat, hkind⟩ := Option.bind_eq_some_iff.1 hkind
    cases beat with
    | dialogue d => cases hkind
    | command cmd =>
      have hreach : Engine.Reachable .recording Engine.anyCall Engine.fading [] e := .of_started he
      have hmoment := Engine.Moment.opening .resourcesReady hreach trivial hrun
      obtain ⟨-, -, hruns⟩ := Script.compiled_commands_sound
      obtain ⟨hfits, hperformable⟩ := hruns _ .recording _ Engine.fading []
        { e₁ with stepping := true } _ _ Collaborators.recording_quiet.any
        Engine.compile_fadingDocument (fun l hl => by cases hl) hmoment cmd hbeat
      obtain ⟨e₀, he₀⟩ := hreach.exists_setup
      have hsane : e₀.stage.Sane := by
        refine Engine.ofSetup_sane (Script.compile_fits Engine.compile_fadingDocument)
          (fun l hl => by cases hl) Config.default_sane (fun v hv => ?_) he₀
        exact ⟨0, by simpa [Engine.fading, Engine.Setup.telling] using hv⟩
      exact ⟨e₀, _, cmd, he₀, hsane, hbeat, by simpa [Beat.kind?] using hkind, hfits,
        hperformable.sound _ hsane⟩

end VisualNovel
