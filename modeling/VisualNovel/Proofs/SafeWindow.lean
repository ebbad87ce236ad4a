import VisualNovel.Proofs.Reachable

/-!
# What is saved while an effect or a menu runs

While an effect or a menu runs, the snapshot to save is the session as it was when the command for
it was about to be played, and no call that leaves the engine waiting changes that
(`Engine.Reachable.safe_window`). At all other times it is the live session.

Calls that meet a mishap are left out. One can stop in the middle of taking over a snapshot, and
then the engine still looks as if it waited: `Engine.safe_window_after_mishap`.
-/

namespace VisualNovel

open Script

variable {σ : Type}

namespace Engine

/-- The wait of an engine began with a command: at some moment of the run the command was the next
beat, playing it made the engine wait, and it still waits for the same. -/
structure BlockedBy (c : Collaborators σ) (setup : Setup) (outside : σ) (cmd : Script.Command)
    (e₀ e : Engine σ) : Prop where
  moment : Moment c anyCall setup outside e₀
  running : e₀.running
  current : e₀.cursor.current = some (.command cmd)
  begins : ∃ e₁, (playBeat c).perform e₀ = (.ok (), e₁) ∧
    Lingers c anyCall { e₁ with stepping := false } e
  effect : e.mode = .effectRunning → Command.Lasts cmd
  menu : e.mode = .awaitingChoice → Command.asks cmd.kind

variable {c : Collaborators σ} {w : Watch σ} {setup : Setup} {outside : σ} {e e' : Engine σ}

theorem lingers_stays (hc : Quiet c w True) (hloading : e.mode ≠ .loading)
    (hended : e.mode ≠ .ended) (hrest : e.AtRest fun _ => True) (h : Lingers c anyCall e e') :
    e.Stays False e' :=
  (h.stays Keeps.nothing hc (fun _ _ t _ _ _ => Admits.nothing t) hloading hended
    (fun _ _ _ _ hfixed => hfixed.elim) hrest).2

/-- What is saved while an effect or a menu runs is the session as it was right before the command
for it. What is saved at other times is the live session. -/
theorem Reachable.safe_window (hc : Quiet c w True) (h : Reachable c anyCall setup outside e) :
    (e.mode = .effectRunning ∨ e.mode = .awaitingChoice →
      (∃ e₀ cmd, BlockedBy c setup outside cmd e₀ e ∧ e.session.persistent = e₀.session.live ∧
        ∃ cursor, Cursor.rebind e₀.script e.session.persistent.cursor = .ok cursor ∧
          cursor.current = some (.command cmd)) ∧
      ∀ e', Lingers c anyCall e e' → e'.session.persistent = e.session.persistent) ∧
    (e.mode = .normal ∨ e.mode = .loading → e.session.persistent = e.session.live) := by
  have hrest : e.AtRest fun _ => True := h.atRest Keeps.nothing hc (fun _ _ => trivial)
    fun _ _ t _ _ _ => Admits.nothing t
  refine ⟨fun hmode => ?_, fun hmode => ?_⟩
  · have hloading : e.mode ≠ .loading := by
      rcases hmode with hmode | hmode <;> simp [hmode]
    have hended : e.mode ≠ .ended := by
      rcases hmode with hmode | hmode <;> simp [hmode]
    refine ⟨?_, fun e' hlingers => ?_⟩
    · obtain ⟨e₀, e₁, hmoment, hw⟩ := h.waits Keeps.nothing hc (fun _ _ => trivial)
        (fun _ _ t _ _ _ => Admits.nothing t) hloading hended
      have hmode₁ : e.mode = e₁.mode := hw.lingers.mode
      -- The command at the last beat has set the session aside.
      obtain ⟨cmd, hcmd, heffect, hmenu, hsafe⟩ : ∃ cmd,
          e₀.cursor.current = some (.command cmd) ∧ (e.mode = .effectRunning → Command.Lasts cmd) ∧
          (e.mode = .awaitingChoice → Command.asks cmd.kind) ∧
          e₁.session.safe = some e₀.session.live := by
        rcases hmode with hmode | hmode
        · obtain ⟨cmd, hcmd, hlasts, hsafe⟩ := hw.after.effect (hmode₁.symm.trans hmode)
          exact ⟨cmd, hcmd, fun _ => hlasts, by simp [hmode], hsafe⟩
        · obtain ⟨cmd, hcmd, hasks, hsafe⟩ := hw.after.menu (hmode₁.symm.trans hmode)
          exact ⟨cmd, hcmd, by simp [hmode], fun _ => hasks, hsafe⟩
      have hstays := lingers_stays hc (by rwa [hmode₁] at hloading) (by rwa [hmode₁] at hended)
        hw.rest hw.lingers
      have hsome : e₁.session.safe.isSome := by simp [hsafe]
      have hpersistent : e.session.persistent = e₀.session.live := by
        rw [hstays.persistent hsome]
        show e₁.session.safe.getD _ = _
        rw [hsafe]
        rfl
      refine ⟨e₀, cmd, ⟨hmoment, hw.running, hcmd, ⟨e₁, hw.perform, hw.lingers⟩, heffect, hmenu⟩,
        hpersistent, e₀.cursor, ?_, hcmd⟩
      rw [hpersistent]
      rw [← hw.fit.steady.script]
      exact Cursor.rebind_position hw.fit.steady.cursor
    · exact (lingers_stays hc hloading hended hrest hlingers).persistent
        (hrest.fit.steady.safe.2 hmode)
  · have hsafe : e.session.safe = none :=
      hrest.fit.steady.safe_eq_none (by rcases hmode with hmode | hmode <;> simp [hmode])
        (by rcases hmode with hmode | hmode <;> simp [hmode])
    rw [Session.persistent, hsafe]
    rfl

/-- The fade of a story has set aside the session in which it was the next command. -/
theorem Reachable.safe_window_fading : ∃ e e₀ : Engine (List Intent), ∃ cmd,
    e.mode = .effectRunning ∧ BlockedBy .recording fading [] cmd e₀ e ∧ Command.Lasts cmd ∧
    e.session.persistent = e₀.session.live := by
  have hmode : ((started .recording fading []).bind (after .recording [.resourcesReady])).map
      (·.mode) = some .effectRunning := by
    decide +kernel
  obtain ⟨e, he, hmode⟩ := Option.map_eq_some_iff.1 hmode
  obtain ⟨e', he', he⟩ := Option.bind_eq_some_iff.1 he
  have hreach : Reachable .recording anyCall fading [] e :=
    (Reachable.of_started he').of_after (fun _ _ _ => trivial) he
  obtain ⟨⟨e₀, cmd, hblocked, hlive, -⟩, -⟩ :=
    (hreach.safe_window Collaborators.recording_quiet.any).1 (.inl hmode)
  exact ⟨e, e₀, cmd, hmode, hblocked, hblocked.effect hmode, hlive⟩

/-- A snapshot whose text lasts longer than any number of frames. -/
def overlong : Snapshot :=
  { flags := { values := [("x", 1)] }, overrides := { cinematicSeconds := .float 1e308 } }

/-- A snapshot that cannot be taken over as a whole stops in the middle. The engine is still in the
mode of an effect, and what is saved has changed. -/
theorem safe_window_after_mishap : ∃ e e' : Engine (List Intent), ∃ m,
    Reachable .recording anyCall fading [] e ∧ e.mode = .effectRunning ∧
    ((HostCall.restore overlong).run .recording).perform e = (.error (.mishap m), e') ∧
    e'.mode = .effectRunning ∧ e'.session.persistent.flags ≠ e.session.persistent.flags := by
  have hfacts : ((started .recording fading []).bind (after .recording [.resourcesReady])).map
      (fun e =>
        let (r, e') := ((HostCall.restore overlong).run .recording).perform e
        (e.mode, e.session.persistent.flags, tame r, e'.mode, e'.session.persistent.flags)) =
      some (.effectRunning, {}, false, .effectRunning, { values := [("x", 1)] }) := by
    decide +kernel
  obtain ⟨e, he, hfacts⟩ := Option.map_eq_some_iff.1 hfacts
  obtain ⟨e₀, he₀, he⟩ := Option.bind_eq_some_iff.1 he
  have hreach : Reachable .recording anyCall fading [] e :=
    (Reachable.of_started he₀).of_after (fun _ _ _ => trivial) he
  rcases hrun : ((HostCall.restore overlong).run .recording).perform e with ⟨r, e'⟩
  rw [hrun] at hfacts
  simp only [Prod.mk.injEq] at hfacts
  obtain ⟨hmode, hflags, htame, hmode', hflags'⟩ := hfacts
  obtain ⟨m, rfl⟩ : ∃ m, r = .error (.mishap m) := by
    rcases r with (error | m) | _
    · cases htame
    · exact ⟨m, rfl⟩
    · cases htame
  refine ⟨e, e', m, hreach, hmode, hrun, hmode', ?_⟩
  rw [hflags, hflags']
  decide

end Engine

end VisualNovel
