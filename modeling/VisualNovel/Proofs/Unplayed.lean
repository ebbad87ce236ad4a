import VisualNovel.Proofs.Failures
import VisualNovel.Proofs.SafeWindow

/-!
# Saves and the beat at their place

What is saved is the session as it was when the beat at its place was next: the beat has changed
nothing yet, except that a line, or the text above a menu, may have been spoken, and the host may
have set flags since (`Engine.Reachable.saves_unplayed`). That also holds of sessions that have
ended, with one exception. A session that ends while an effect runs drops the snapshot that was set
aside, and from then on what is saved has the change of the effect in it: when such a save is
restored, the change is made a second time (`Engine.Reachable.turned_twice`).
-/

namespace VisualNovel

open Script

variable {σ : Type}

/-! ## What may have become of a session -/

/-- The second flags are the first ones with some of them set. -/
def Flags.Given (f g : Flags) : Prop :=
  ∃ sets : List (String × Int), g = sets.foldl (fun f s => f.set s.1 s.2) f

theorem Flags.Given.refl (f : Flags) : f.Given f :=
  ⟨[], rfl⟩

theorem Flags.Given.set (f : Flags) (name : String) (n : Int) : f.Given (f.set name n) :=
  ⟨[(name, n)], rfl⟩

theorem Flags.Given.trans {f g h : Flags} (hfg : f.Given g) (hgh : g.Given h) : f.Given h := by
  obtain ⟨sets, rfl⟩ := hfg
  obtain ⟨sets', rfl⟩ := hgh
  exact ⟨sets ++ sets', by rw [List.foldl_append]⟩

/-- The text is that of the line, or it stands above the menu. -/
def Script.Beat.Speaks (text : Value) : Beat → Prop
  | .dialogue d => text = d.text
  | .command cmd => Command.asks cmd.kind ∧ cmd.args[0]? = some text

/-- A snapshot of the session with the beat at its place still to be played. Only the text of the
beat may have been spoken, and flags may have been set. -/
def Session.Offers (s : Session) (t : Snapshot) : Prop :=
  ∃ speech flags, t = { s.live with flags, scene := { s.scene with speech } } ∧
    s.flags.Given flags ∧
    (speech = s.scene.speech ∨ ∃ beat, s.cursor.current = some beat ∧ beat.Speaks speech)

namespace Session

variable {s : Session} {t : Snapshot}

theorem Offers.refl (s : Session) : s.Offers s.live :=
  ⟨s.scene.speech, s.flags, rfl, .refl _, .inl rfl⟩

theorem persistent_eq_live (h : s.safe = none) : s.persistent = s.live := by
  rw [persistent, h]
  rfl

/-- A snapshot that is set aside does not see what becomes of the flags. -/
theorem persistent_withFlags (hsafe : s.safe = some t) (flags : Flags) :
    ({ s with flags } : Session).persistent = s.persistent := by
  obtain ⟨cursor, scriptName, flags', overrides, scene, choiceSets, safe⟩ := s
  cases hsafe
  rfl

theorem Offers.given (h : s.Offers t) {flags : Flags} (hflags : t.flags.Given flags) :
    s.Offers { t with flags } := by
  obtain ⟨speech, flags', rfl, hgiven, hspeech⟩ := h
  exact ⟨speech, flags, rfl, hgiven.trans hflags, hspeech⟩

/-- The text of the beat is spoken. -/
theorem offers_spoken {beat : Beat} (hbeat : s.cursor.current = some beat) {text : Value}
    (hspeaks : beat.Speaks text) :
    s.Offers ({ s with scene := { s.scene with speech := text } }).live :=
  ⟨text, s.flags, rfl, .refl _, .inr ⟨beat, hbeat, hspeaks⟩⟩

end Session

namespace Engine

variable {c : Collaborators σ} {w : Watch σ} {setup : Setup} {outside : σ} {e e' : Engine σ}
  {J : Stage → Prop}

/-! ## Beats -/

/-- A command that fails with an error of the story leaves the session as it was. -/
theorem execute_refused (hc : Quiet c w True) (cmd : Script.Command) (e : Engine σ) :
    Leads True (execute c cmd) e (fun _ _ => True) fun _ e' => e'.session = e.session := by
  unfold execute
  cases Command.wellFormed cmd with
  | false => exact Leads.get_bind rfl
  | true =>
    refine (emit_runs hc _ e).any.bind fun _ e₁ h₁ => ?_
    obtain ⟨x, rfl, -⟩ := h₁
    refine Leads.bind (P := fun _ _ => True) (Leads.onPart ?_) fun o e₂ _ => ?_
    · exact (Command.perform_refused cmd _).mono (fun _ _ _ => trivial) fun _ _ h => h.session
    · exact Leads.mono (settle_runs hc o e₂) (fun _ _ _ => trivial) fun _ _ h => h.elim

/-- After a beat the engine is free to play the next one, or an effect runs, or the session is as it
was but for what was said. -/
def AfterSpeaking (e e' : Engine σ) : Prop :=
  e'.running ∨ e'.mode = .effectRunning ∨ e.session.Offers e'.session.live

theorem execute_speaks (hc : Quiet c w True) (h : e.Fit fun _ => True) (hr : e.running)
    {cmd : Script.Command} (hcmd : e.cursor.current = some (.command cmd)) :
    Leads True (execute c cmd) e (fun _ e' => AfterSpeaking e e')
      fun _ e' => e'.session = e.session := by
  have K : Keeps False fun _ => True := Keeps.nothing
  refine Ends.mono (Ends.and (execute_settles K.likeness (fun _ _ => trivial) hc
    (h.steady.isOpen hr) trivial False.elim (fun _ _ _ _ => trivial) fun _ => K.switchScript)
    (execute_refused hc cmd e)) ?_ ?_
  · rintro _ e' ⟨⟨x, o, s', t', l, hsuits, y, rfl, -⟩, -⟩
    cases o with
    | proceed | call | stay => exact .inl hr
    | hold => exact .inr (.inl rfl)
    | ask options line =>
      obtain ⟨rfl, -, hasks, hline, -⟩ := hsuits
      refine .inr (.inr ?_)
      cases line with
      | null => exact .refl _
      | _ =>
        refine Session.offers_spoken hcmd ⟨hasks, hline.resolve_left nofun⟩
  · rintro (error | m) e' ⟨-, hsame⟩
    · exact hsame
    · trivial

theorem playBeat_speaks (hc : Quiet c w True) (h : e.Fit fun _ => True) (hr : e.running) :
    Leads True (playBeat c) e (fun _ e' => AfterSpeaking e e')
      fun _ e' => e'.session = e.session := by
  obtain ⟨hmode, -⟩ := running_iff.1 hr
  unfold playBeat
  refine Leads.get_bind ?_
  split
  · refine Leads.mono (finish_runs hc (by simp [hmode])) ?_ fun _ _ h => h.elim
    rintro _ _ ⟨x, rfl, -⟩
    exact .inr (.inr (.refl e.session))
  · next d hd =>
    refine Leads.mono (display_waits hc (.inl trivial) d.speaker e) ?_ fun _ _ h => h.elim
    rintro _ _ ⟨t, visible, -, x, rfl, -⟩
    exact .inr (.inr (Session.offers_spoken hd rfl))
  · next cmd hcmd => exact execute_speaks hc h hr hcmd

/-- What is saved has the beat of a session still to be played, and so has the live session, unless
an effect runs. -/
structure Untouched (s : Session) (e : Engine σ) : Prop where
  persistent : s.Offers e.session.persistent
  live : e.mode ≠ .effectRunning → s.Offers e.session.live

theorem Untouched.of_safe {s : Session} (hsafe : e.session.safe = none)
    (h : s.Offers e.session.live) : Untouched s e := by
  refine ⟨?_, fun _ => h⟩
  rw [Session.persistent_eq_live hsafe]
  exact h

/-- A beat that makes the engine wait, or ends the session, leaves itself to be played in what is
saved. -/
theorem AfterSpeaking.untouched (h : AfterSpeaking e e') (hsteady : e'.Steady)
    (hafter : AfterBeat e e') (hr : ¬e'.running) : Untouched e.session e' := by
  have hlive : e'.mode ≠ .effectRunning → e.session.Offers e'.session.live := fun hmode =>
    (h.resolve_left hr).resolve_left hmode
  have haside : e'.session.safe = some e.session.live → Untouched e.session e' := by
    intro hsafe
    refine ⟨?_, hlive⟩
    rw [Session.persistent, hsafe]
    exact .refl _
  by_cases heffect : e'.mode = .effectRunning
  · obtain ⟨-, -, -, hsafe⟩ := hafter.effect heffect
    exact haside hsafe
  by_cases hmenu : e'.mode = .awaitingChoice
  · obtain ⟨-, -, -, hsafe⟩ := hafter.menu hmenu
    exact haside hsafe
  · exact .of_safe (hsteady.safe_eq_none heffect hmenu) (hlive heffect)

/-- What has become of an engine that was to play the beat at its place. The beat may have ended the
session, also because too many commands were before it. -/
inductive Turn (c : Collaborators σ) : Engine σ → Engine σ → Prop where
  | played {e e' : Engine σ} : (playBeat c).perform e = (.ok (), e') → Turn c e e'
  | failed {e e₁ e' : Engine σ} {error : StoryError} {r : Except Fault Unit} :
    (playBeat c).perform e = (.error (.story error), e₁) → (fail c error).perform e₁ = (r, e') →
    Turn c e e'
  | stopped {e e' : Engine σ} {r : Except Fault Unit} (line : Value) :
    (fail c (e.neverYields line)).perform e = (r, e') → Turn c e e'

/-- A run of beats has come to an engine, and then to what has become of it. -/
structure Tried (c : Collaborators σ) (start e e' : Engine σ) : Prop where
  plays : Plays c start e
  running : e.running
  turn : Turn c e e'
  kept : Untouched e.session e'

/-- A run of beats has come to an error, and the session is as it was when some beat was next. -/
def Refused (c : Collaborators σ) (start : Engine σ) (error : StoryError) (e' : Engine σ) : Prop :=
  ∃ e, Plays c start e ∧ e.running ∧ e'.session = e.session ∧
    ((playBeat c).perform e = (.error (.story error), e') ∨
      e' = e ∧ ∃ line, error = e.neverYields line)

theorem playBeats_tried (hc : Quiet c w True) {turns budget : Nat} {start : Engine σ}
    (hstart : Plays c start e) (hsaid : e.running ∨ ∃ e₀, Tried c start e₀ e)
    (h : e.Fit fun _ => True) :
    Leads True (playBeats c turns budget) e
      (fun _ e' => e'.running ∨ ∃ e₀, Tried c start e₀ e') (Refused c start) := by
  induction turns generalizing budget e with
  | zero => exact hsaid
  | succ turns ih =>
    unfold playBeats
    refine Leads.get_bind ?_
    cases hr : e.running with
    | false => exact hsaid
    | true =>
      have hbeat : Leads True (playBeat c) e
          (fun _ e' => Plays c start e' ∧ (e'.running ∨ ∃ e₀, Tried c start e₀ e') ∧
            e'.Fit fun _ => True)
          (Refused c start) := by
        refine Ends.mono (Ends.traced (Ends.and (playBeat_speaks hc h hr)
          (playBeat_leads Keeps.nothing hc h hr))) ?_ ?_
        · rintro ⟨⟩ e' ⟨⟨hspeaks, hfit, hafter⟩, hrun⟩
          refine ⟨hstart.beat hr hrun, ?_, hfit⟩
          by_cases hr' : e'.running
          · exact .inl hr'
          · exact .inr ⟨e, hstart, hr, .played hrun, hspeaks.untouched hfit.steady hafter hr'⟩
        · rintro (error | m) e' ⟨⟨hsame, -⟩, hrun⟩
          · exact ⟨e, hstart, hr, hsame, .inl hrun⟩
          · trivial
      cases hcur : e.cursor.current with
      | none =>
        exact Ends.mono (.of_perform_eq (playBeat_of_none hcur).symm hbeat) (fun _ _ h => h.2.1)
          fun _ _ h => h
      | some beat =>
        cases beat with
        | dialogue d =>
          refine Leads.bind (.of_perform_eq (playBeat_of_dialogue hcur).symm hbeat) ?_
          rintro _ e' ⟨hplays, hsaid', hfit⟩
          exact ih hplays hsaid' hfit
        | command cmd =>
          cases budget with
          | zero => exact ⟨e, hstart, hr, rfl, .inr ⟨rfl, cmd.line, rfl⟩⟩
          | succ budget =>
            refine Leads.bind (.of_perform_eq (playBeat_of_command hcur).symm hbeat) ?_
            rintro _ e' ⟨hplays, hsaid', hfit⟩
            exact ih hplays hsaid' hfit

/-- A session that is ended by an error goes on to be what it was. -/
theorem fail_keepsLive (hc : Quiet c w True) (hmode : e.mode ≠ .ended) (error : StoryError) :
    Leads True (fail c error) e (fun _ e' => e'.mode = .ended ∧ e'.session = e.session.release)
      fun _ e' => e'.mode = .ended ∧ e'.session = e.session.release := by
  refine Leads.mono (fail_leads hc hmode error) ?_ ?_
  · rintro _ _ ⟨⟨x, rfl, -⟩, -⟩
    exact ⟨rfl, rfl⟩
  · rintro _ _ ⟨⟨x, rfl, -⟩, -⟩
    exact ⟨rfl, rfl⟩

/-- A session that ends with an error leaves the beat that came to it to be played. -/
theorem Refused.tried {start : Engine σ} {error : StoryError} {r : Except Fault Unit}
    (h : Refused c start error e) (hfail : (fail c error).perform e = (r, e'))
    (hsession : e'.session = e.session.release) : ∃ e₀, Tried c start e₀ e' := by
  obtain ⟨e₀, hplays, hr, hsame, hcause⟩ := h
  have hturn : Turn c e₀ e' := by
    rcases hcause with hrun | ⟨rfl, line, rfl⟩
    · exact .failed hrun hfail
    · exact .stopped line hfail
  refine ⟨e₀, hplays, hr, hturn, .of_safe ?_ ?_⟩
  · rw [hsession]
    rfl
  · have hlive : e'.session.live = e₀.session.live := by
      rw [hsession, hsame]
      rfl
    rw [hlive]
    exact .refl _

/-- What a step that is free to play comes to. -/
theorem step_tried (hc : Quiet c w True) (h : e.Starts fun _ => True) :
    Leads True (step c) e
      (fun _ e' => ∃ e₀ e₁, Tried c { e with stepping := true } e₀ e₁ ∧
        e' = { e₁ with stepping := false })
      fun _ e' => ∃ e₀ e₁, Tried c { e with stepping := true } e₀ e₁ ∧
        e' = { e₁ with stepping := false } := by
  unfold step
  refine Leads.get_bind ?_
  rw [h.running, h.stepping]
  refine Leads.modify_bind ?_
  have hstart : Plays c { e with stepping := true } { e with stepping := true } := .refl _
  have hbeats : Leads True (playBeats c turnsPerStep commandBudget) { e with stepping := true }
      (fun _ e' => ∃ e₀, Tried c { e with stepping := true } e₀ e')
      fun error e' => Refused c { e with stepping := true } error e' ∧ e'.mode = .normal := by
    refine Ends.mono (Ends.and
      (playBeats_tried hc hstart (.inl h.running) (h.fit.withStepping true))
      (playBeats_leads Keeps.nothing hc hstart (.inl rfl) (h.fit.withStepping true)
        fun _ => by decide)) ?_ ?_
    · rintro _ e' ⟨hsaid, -, hr, -⟩
      exact hsaid.resolve_left (by simp [hr])
    · rintro (error | m) _ ⟨hrefused, hfit⟩
      · exact ⟨hrefused, hfit.2⟩
      · trivial
  have hplay := orFail_leads (c := c) hbeats (by
    rintro error e' ⟨hrefused, hmode⟩
    refine Ends.mono (Ends.traced (fail_keepsLive hc (by simp [hmode]) error)) ?_ ?_
    · rintro _ e'' ⟨⟨-, hsession⟩, hfail⟩
      exact hrefused.tried hfail hsession
    · rintro (error' | m) e'' ⟨hends, hfail⟩
      · exact hrefused.tried hfail hends.2
      · trivial)
  refine Ends.bind_iff.2 (Ends.outcome_iff.2 (Ends.mono hplay ?_ ?_))
  · rintro _ e' ⟨e₀, htried⟩
    exact Leads.modify_bind (Leads.get_bind ⟨e₀, e', htried, rfl⟩)
  · rintro (error | m) e' htried
    · obtain ⟨e₀, htried⟩ := htried
      exact ⟨e₀, e', htried, rfl⟩
    · trivial

/-! ## Calls that play nothing -/

/-- What a call that plays nothing can come to. Only a report of the renderer ends the session while
an effect runs. -/
inductive Idles (call : HostCall) (e e' : Engine σ) : Prop where
  | loads : e'.mode = .loading → Idles call e e'
  | stays (flags : Flags) : e'.mode = e.mode → e'.session = { e.session with flags } →
    e.session.flags.Given flags → Idles call e e'
  | ends : e.mode ≠ .ended → e'.mode = .ended → e'.session.live = e.session.live →
    (e.mode = .effectRunning → ∃ message, call = .reportResourceError message) → Idles call e e'

variable {call : HostCall}

theorem Idles.of_session (hmode : e'.mode = e.mode) (hsession : e'.session = e.session) :
    Idles call e e' :=
  .stays e.session.flags hmode hsession (.refl _)

theorem Idles.within (x : Surroundings σ) : Idles call e (e.within x) :=
  .of_session rfl rfl

/-- A call that changes only the surroundings. -/
theorem idles_of_runs {α : Type} {act : Play σ α}
    (h : Runs True act e fun _ e' => ∃ x, e' = e.within x) :
    Leads True (do discard act; return false) e (fun go e' => go = true ∨ Idles call e e')
      fun _ e' => Idles call e e' := by
  refine Leads.bind (P := fun _ e' => Idles call e e') (Ends.discard_iff.2 ?_) fun _ _ h => .inr h
  refine Leads.mono h ?_ fun _ _ h => h.elim
  rintro _ _ ⟨x, rfl⟩
  exact .within x

theorem note_idles (level : Level) (text : String) :
    Leads True (do note level text; return false) e (fun go e' => go = true ∨ Idles call e e')
      fun _ e' => Idles call e e' := by
  refine Leads.bind (P := fun _ e' => Idles call e e') ?_ fun _ _ h => .inr h
  refine Leads.mono (note_runs Watch.nothing level text e).any ?_ fun _ _ h => h.elim
  rintro _ _ ⟨x, rfl, -⟩
  exact .within x

/-- Loading makes the engine load, or leaves it as it was. -/
theorem restore_idles (hc : Quiet c w True) (t : Snapshot) (hmode : e'.mode = e.mode)
    (hsession : e'.session = e.session) :
    Leads True (restore c t) e' (fun _ e'' => Idles call e e'') fun _ e'' => Idles call e e'' := by
  refine restore_ends ((scriptOf_ends t e'.stage).mono (fun _ _ h => h) ?_) ?_ ?_
  · rintro (error | m) _ ⟨library, rfl⟩
    · exact .of_session hmode hsession
    · trivial
  · rintro script _ error ⟨library, rfl⟩ -
    exact .of_session hmode hsession
  · intro cursor s _ _
    refine Ends.mono (Stage.retimeFromSession_leads _) (fun _ s' _ => ?_) ?_
    · refine Leads.mono (enterLoading_runs hc _) ?_ fun _ _ h => h.elim
      rintro _ _ ⟨x, rfl, -⟩
      exact .loads rfl
    · rintro (error | m) _ h
      · exact h.elim
      · trivial

theorem loadFrom_idles (hc : Quiet c w True) (read : Attempt Disk (Option Value)) :
    Leads True (loadFrom c read) e (fun _ e' => Idles call e e') fun _ e' => Idles call e e' := by
  exact loadFrom_ends (fun _ _ _ _ => trivial) (fun _ _ _ => .of_session rfl rfl)
    fun _ t _ _ _ => restore_idles hc t rfl rfl

/-- A call for a snapshot of the store. -/
theorem idles_of_load {load : SaveStore → Play σ Bool}
    (h : ∀ store, Leads True (load store) e (fun _ e' => Idles call e e')
      fun _ e' => Idles call e e') :
    Leads True (do
        discard (do
          match ← requireStore with
          | none => return false
          | some store => load store)
        return false)
      e (fun go e' => go = true ∨ Idles call e e') fun _ e' => Idles call e e' := by
  refine Leads.bind (P := fun _ e' => Idles call e e') (Ends.discard_iff.2 ?_) fun _ _ h => .inr h
  exact requireStore_bind (fun x => .within x) fun store _ => h store

theorem fail_idles (hc : Quiet c w True) (hmode : e.mode ≠ .ended) (error : StoryError)
    (hsame : e'.mode = e.mode ∧ e'.session = e.session)
    (hcall : e.mode = .effectRunning → ∃ message, call = .reportResourceError message) :
    Leads True (fail c error) e' (fun _ e'' => Idles call e e'') fun _ e'' => Idles call e e'' := by
  have hends : ∀ e'' : Engine σ, e''.mode = .ended ∧ e''.session = e'.session.release →
      Idles call e e'' := by
    rintro e'' ⟨hended, hsession⟩
    refine .ends hmode hended ?_ hcall
    rw [hsession, hsame.2]
    rfl
  exact Leads.mono (fail_keepsLive hc (by rwa [hsame.1]) error) (fun _ => hends) fun _ => hends

/-- An option that cannot be followed leaves the session as it was. -/
theorem followOn_refused (option : ChoiceOption) (s : Stage) :
    Leads True (followOn option) s (fun _ _ => True) fun _ s' => s'.session = s.session := by
  unfold followOn
  split
  · exact Ends.bind_iff.2 (Ends.ofMishap_iff.2 ⟨fun _ _ => trivial, fun _ _ => trivial⟩)
  · unfold Stage.switchConversation
    refine Leads.get_bind (Ends.bind_iff.2 (Ends.ofExcept_iff.2 ⟨fun name _ => ?_, ?_⟩))
    · exact Ends.bind_iff.2 (Ends.ofStory_iff.2 ⟨fun _ _ => trivial, fun _ _ => rfl⟩)
    · rintro (error | m) _
      · rfl
      · trivial

theorem takeOption_idles (hc : Quiet c w True) (h : e.AtRest fun _ => True) (index : Value) :
    Leads True (HostCall.takeOption c index) e (fun go e' => go = true ∨ Idles call e e')
      fun _ e' => Idles call e e' := by
  unfold HostCall.takeOption
  refine Leads.get_bind ?_
  split
  · exact note_idles _ _
  · next options hmenu =>
    obtain ⟨hmenu, hmode⟩ := Option.filter_eq_some_iff.1 hmenu
    have hmode : e.mode = .awaitingChoice := by simpa using hmode
    have heffect := h.fit.steady.effect_eq_none (by simp [hmode])
    have hpick : Leads True (pick c options index) e (fun _ _ => True)
        fun _ e' => e'.mode = e.mode ∧ e'.session = e.session := by
      cases hplace : placeOf index options.length with
      | error f =>
        refine Ends.bind_iff.2 (Ends.ofExcept_iff.2 ⟨fun _ h => ?_, fun f' hf => ?_⟩)
        · rw [hplace] at h
          cases h
        · rcases f' with error | m
          · exact ⟨rfl, rfl⟩
          · trivial
      | ok place =>
        have hlt := HostCall.placeOf_lt hplace
        refine Leads.mono (HostCall.pick_leads (S := fun _ => True)
          (F := fun _ s => s.session = e.session) hc hplace (List.getElem?_eq_getElem hlt) heffect
          fun d _ => followOn_refused _ _) (fun _ _ _ => trivial) ?_
        rintro _ _ ⟨s, hsame, x, rfl, -⟩
        exact ⟨rfl, hsame⟩
    refine Ends.bind_iff.2 (Ends.outcome_iff.2 (Ends.mono hpick ?_ ?_))
    · exact fun _ _ _ => .inl rfl
    · rintro (error | m) e' hsame
      · refine Leads.bind (P := fun _ e' => Idles call e e') ?_ fun _ _ h => .inr h
        exact fail_idles hc (by simp [hmode]) error hsame (by simp [hmode])
      · trivial

theorem passLine_idles (hshows : e'.showsLine) :
    Leads True HostCall.passLine e' (fun go e'' => go = true ∨ Idles call e e'')
      fun _ e'' => Idles call e e'' :=
  Leads.mono (HostCall.passLine_runs hshows) (fun _ _ h => .inl h.1) fun _ _ h => h.elim

/-- A call that plays nothing leaves the session as it was, but for flags, or ends it, or makes the
engine load. -/
theorem opening_idles (hc : Quiet c w True) (h : e.AtRest fun _ => True) (call : HostCall) :
    Leads True (call.opening c) e (fun go e' => go = true ∨ Idles call e e')
      fun _ e' => Idles call e e' := by
  have hsame : Idles call e e := .of_session rfl rfl
  cases call with
  | resourcesReady =>
    refine Leads.get_bind ?_
    dsimp only
    split
    · exact note_idles _ _
    · refine (setMode_runs hc .normal e).any.bind fun _ _ _ => .inl rfl
  | step => exact Leads.get_bind (.inr hsame)
  | advance =>
    cases hshows : e.showsLine with
    | false =>
      refine Leads.get_bind ?_
      rw [hshows]
      exact .inr hsame
    | true => exact passLine_idles hshows
  | requestAdvance =>
    refine Leads.get_bind ?_
    cases hshows : e.showsLine with
    | false => exact .inr hsame
    | true =>
      refine Ends.bind_iff.2 (Ends.attempt_iff.2 (Ends.mono (TimedText.input_ends _) ?_
        fun _ _ _ => trivial))
      intro fired t _
      cases fired with
      | true => exact passLine_idles hshows
      | false =>
        refine (HostCall.sendReveal_runs hc trivial _).bind ?_
        rintro _ _ ⟨l, t', -, x, rfl, -⟩
        exact .inr (.of_session rfl rfl)
  | tick dt =>
    refine Leads.get_bind ?_
    cases hshows : e.showsLine with
    | false => exact .inr hsame
    | true =>
      refine Ends.bind_iff.2 (Ends.attempt_iff.2 (Ends.mono (TimedText.tick_ends dt _) ?_
        fun _ _ _ => trivial))
      intro fired t _
      refine (HostCall.sendReveal_runs hc trivial _).bind ?_
      rintro _ _ ⟨l, t', -, x, rfl, -⟩
      cases fired with
      | true => exact passLine_idles hshows
      | false => exact .inr (.of_session rfl rfl)
  | choose index => exact takeOption_idles hc h index
  | effectFinished id =>
    cases heffect : e.effect.filter fun i => e.mode == .effectRunning && isEffect id i with
    | none =>
      unfold HostCall.opening HostCall.endEffect
      refine Leads.get_bind ?_
      rw [heffect]
      exact note_idles _ _
    | some effect =>
      obtain ⟨heffect, hid⟩ := Option.filter_eq_some_iff.1 heffect
      simp only [Bool.and_eq_true, beq_iff_eq] at hid
      have hmenu := h.fit.steady.menu_eq_none (by simp [hid.1])
      exact Leads.mono (HostCall.endEffect_runs hc heffect hid.1 hmenu hid.2)
        (fun _ _ h => .inl h.1) fun _ _ h => h.elim
  | reportResourceError message =>
    refine Leads.bind (P := fun _ e' => Idles _ e e') (Leads.get_bind ?_) fun _ _ h => .inr h
    by_cases hmode : e.mode = .ended
    · have hdone : e.finished = true := by simpa [finished] using hmode
      refine Leads.get_bind ?_
      rw [hdone]
      exact hsame
    · exact fail_idles hc hmode _ ⟨rfl, rfl⟩ fun _ => ⟨message, rfl⟩
  | setFlag name value =>
    refine Leads.bind (P := fun _ e' => Idles _ e e') ?_ fun _ _ h => .inr h
    refine Ends.bind_iff.2 (Ends.ofMishap_iff.2 ⟨fun n _ => ?_, fun _ _ => trivial⟩)
    refine Ends.bind_iff.2 (Ends.ofMishap_iff.2 ⟨fun name _ => ?_, fun _ _ => trivial⟩)
    exact .stays (e.session.flags.set name n) rfl rfl (.set _ _ _)
  | saveToSlot slot => exact idles_of_runs (saveToSlot_runs slot e)
  | quicksave => exact idles_of_runs (quicksave_runs e)
  | autosave => exact idles_of_runs (saveToSlot_runs _ e)
  | loadFromSlot slot =>
    refine idles_of_load fun store => ?_
    refine Ends.bind_iff.2 (Ends.ofMishap_iff.2 ⟨fun n _ => ?_, fun _ _ => trivial⟩)
    exact loadFrom_idles hc _
  | quickload => exact idles_of_load fun store => loadFrom_idles hc _
  | restore t =>
    exact Leads.bind (P := fun _ e' => Idles _ e e') (restore_idles hc t rfl rfl)
      fun _ _ h => .inr h

theorem run_idles (hc : Quiet c w True) (h : e.AtRest fun _ => True) (hplays : ¬call.PlaysOn c e) :
    Leads True (call.run c) e (fun _ e' => Idles call e e') fun _ e' => Idles call e e' := by
  rw [HostCall.run_eq]
  refine Ends.bind_iff.2 (Ends.mono (Ends.traced (opening_idles hc h call)) ?_ ?_)
  · rintro go e' ⟨hidles, hrun⟩
    cases go with
    | false => exact hidles.resolve_left nofun
    | true => exact absurd (by simp [HostCall.PlaysOn, hrun]) hplays
  · exact fun _ _ h => h.1

theorem Untouched.idles {s : Session} (h : Untouched s e) (hidles : Idles call e e')
    (hloading : e'.mode ≠ .loading) (hrest : e'.AtRest fun _ => True)
    (heffect : e.mode ≠ .effectRunning ∨ e'.mode ≠ .ended) : Untouched s e' := by
  cases hidles with
  | loads hmode => exact absurd hmode hloading
  | stays flags hmode hsession hgiven =>
    have hlive : e'.session.live = { e.session.live with flags } := by
      rw [hsession]
      rfl
    refine ⟨?_, fun hmode' => ?_⟩
    · rw [hsession]
      cases hsafe : e.session.safe with
      | none =>
        have hpersistent := h.persistent
        rw [Session.persistent_eq_live hsafe] at hpersistent
        rw [Session.persistent_eq_live (show ({ e.session with flags } : Session).safe = none
          from hsafe)]
        exact hpersistent.given hgiven
      | some t =>
        rw [Session.persistent_withFlags hsafe]
        exact h.persistent
    · rw [hlive]
      exact (h.live (by rwa [← hmode])).given hgiven
  | ends _ hended hlive _ =>
    have hsafe := hrest.fit.steady.safe_eq_none (by simp [hended]) (by simp [hended])
    refine .of_safe hsafe ?_
    rw [hlive]
    exact h.live (heffect.resolve_right (not_not_intro hended))

/-! ## What is saved -/

/-- The second engine comes from the first by calls that play nothing and do not make it load. -/
inductive Idled (c : Collaborators σ) : Engine σ → Engine σ → Prop where
  | refl (e : Engine σ) : Idled c e e
  | call {e e₁ e₂ : Engine σ} {r : Except Fault Unit} (call : HostCall) : Idled c e e₁ →
    ¬call.PlaysOn c e₁ → (call.run c).perform e₁ = (r, e₂) → tame r → e₂.mode ≠ .loading →
    Idled c e e₂
  | around {e e₁ : Engine σ} (x : Surroundings σ) : Idled c e e₁ → Idled c e (e₁.within x)

/-- Since the first engine nothing has been played, except that the beat at its place may have had
its turn. -/
inductive Since (c : Collaborators σ) (setup : Setup) (outside : σ) :
    Engine σ → Engine σ → Prop where
  | loading {e₀ e : Engine σ} : Reachable c anyCall setup outside e₀ → e₀.mode = .loading →
    Idled c e₀ e → Since c setup outside e₀ e
  | beat {e₀ e₁ e : Engine σ} : Moment c anyCall setup outside e₀ → e₀.running → Turn c e₀ e₁ →
    Idled c { e₁ with stepping := false } e → Since c setup outside e₀ e

/-- The renderer ended the session of the first engine while an effect ran, and nothing has been
played since. What is saved is the session with the effect begun. -/
structure Interrupted (c : Collaborators σ) (setup : Setup) (outside : σ) (e₁ e : Engine σ) :
    Prop where
  reachable : Reachable c anyCall setup outside e₁
  effect : e₁.mode = .effectRunning
  reported : ∃ message r e₂,
    ((HostCall.reportResourceError message).run c).perform e₁ = (r, e₂) ∧ Idled c e₂ e
  ended : e.mode = .ended
  saved : ∃ flags, e₁.session.flags.Given flags ∧
    e.session.persistent = { e₁.session.live with flags }

theorem Idled.trans {e'' : Engine σ} (h : Idled c e e') (h' : Idled c e' e'') : Idled c e e'' := by
  induction h' with
  | refl => exact h
  | call call _ hplays hrun htame hmode ih => exact ih.call call hplays hrun htame hmode
  | around x _ ih => exact ih.around x

theorem Since.idled {e₀ : Engine σ} (h : Since c setup outside e₀ e) (hidled : Idled c e e') :
    Since c setup outside e₀ e' := by
  cases h with
  | loading hreach hmode hidled₀ => exact .loading hreach hmode (hidled₀.trans hidled)
  | beat hmoment hr hturn hidled₀ => exact .beat hmoment hr hturn (hidled₀.trans hidled)

theorem Since.steady {e₀ : Engine σ} (hc : Quiet c w True) (h : Since c setup outside e₀ e) :
    e₀.Steady := by
  cases h with
  | loading hreach =>
    exact (hreach.atRest Keeps.nothing hc (fun _ _ => trivial)
      fun _ _ t _ _ _ => Admits.nothing t).fit.steady
  | beat hmoment =>
    exact (hmoment.fit Keeps.nothing hc (fun _ _ => trivial)
      fun _ _ t _ _ _ => Admits.nothing t).steady

theorem Interrupted.idles {e₁ : Engine σ} (h : Interrupted c setup outside e₁ e)
    (hidled : Idled c e e') (hidles : Idles call e e') (hloading : e'.mode ≠ .loading)
    (hsafe : e.session.safe = none) : Interrupted c setup outside e₁ e' := by
  obtain ⟨message, r, e₂, hrun, hidled₂⟩ := h.reported
  obtain ⟨flags, hgiven, hsaved⟩ := h.saved
  cases hidles with
  | loads hmode => exact absurd hmode hloading
  | ends hnot => exact absurd h.ended hnot
  | stays flags' hmode hsession hgiven' =>
    have hlive : e.session.live = { e₁.session.live with flags } := by
      rw [← hsaved, Session.persistent_eq_live hsafe]
    have hflags : e.session.flags = flags := congrArg Snapshot.flags hlive
    rw [hflags] at hgiven'
    refine ⟨h.reachable, h.effect, ⟨message, r, e₂, hrun, hidled₂.trans hidled⟩,
      hmode.trans h.ended, flags', hgiven.trans hgiven', ?_⟩
    rw [hsession, Session.persistent_eq_live (show
      ({ e.session with flags := flags' } : Session).safe = none from hsafe)]
    show { e.session.live with flags := flags' } = _
    rw [hlive]

theorem Since.loaded (hc : Quiet c w True) (h : Reachable c anyCall setup outside e)
    (hmode : e.mode = .loading) : Since c setup outside e e ∧ Untouched e.session e := by
  have hrest : e.AtRest fun _ => True := h.atRest Keeps.nothing hc (fun _ _ => trivial)
    fun _ _ t _ _ _ => Admits.nothing t
  have hsafe := hrest.fit.steady.safe_eq_none (by simp [hmode]) (by simp [hmode])
  exact ⟨.loading h hmode (.refl e), .of_safe hsafe (.refl _)⟩

/-- The beat at the place of a session has still to be played in what is saved of it, or the session
was ended while an effect ran. -/
theorem Reachable.since (hc : Quiet c w True) (h : Reachable c anyCall setup outside e) :
    (∃ e₀, Since c setup outside e₀ e ∧ Untouched e₀.session e) ∨
      ∃ e₁, Interrupted c setup outside e₁ e := by
  have hrest : ∀ {e}, Reachable c anyCall setup outside e → e.AtRest fun _ => True := fun h =>
    h.atRest Keeps.nothing hc (fun _ _ => trivial) fun _ _ t _ _ _ => Admits.nothing t
  induction h with
  | start hsetup hrun =>
    have hmode := (start_atRest Keeps.nothing hc hsetup trivial hrun).2
    exact .inl ⟨_, Since.loaded hc (.start hsetup hrun) hmode⟩
  | around x _ ih =>
    rcases ih with ⟨e₀, hsince, hkept⟩ | ⟨e₁, hinterrupted⟩
    · exact .inl ⟨e₀, hsince.idled (.around x (.refl _)), hkept.persistent, hkept.live⟩
    · obtain ⟨message, r, e₂, hrun, hidled⟩ := hinterrupted.reported
      exact .inr ⟨e₁, hinterrupted.reachable, hinterrupted.effect,
        ⟨message, r, e₂, hrun, hidled.around x⟩, hinterrupted.ended, hinterrupted.saved⟩
  | @call e e' r call hreach hallowed hrun htame ih =>
    have hreach' := hreach.call call hallowed hrun htame
    by_cases hloading : e'.mode = .loading
    · exact .inl ⟨e', Since.loaded hc hreach' hloading⟩
    by_cases hplays : call.PlaysOn c e
    · have hran : Leads True (call.run c) e (fun _ e' => HostCall.Ran c (fun _ => True) call e e')
          fun _ e' => HostCall.Ran c (fun _ => True) call e e' :=
        HostCall.run_leads Keeps.nothing hc (hrest hreach) fun t _ => Admits.nothing t
      cases Leads.of_tame hran hrun htame with
      | opened hnot => exact absurd hplays hnot
      | @played e₁ hopening hstarts =>
        have hstep : (discard (step c)).perform e₁ = (r, e') := by
          rw [← hrun, HostCall.run_eq, Action.perform_bind_ok hopening]
          rfl
        obtain ⟨e₀, e₂, htried, rfl⟩ :=
          Leads.of_tame (Ends.discard_iff.2 (step_tried hc hstarts)) hstep htame
        have hmoment := (Moment.opening call hreach hallowed hopening).plays htried.plays
        exact .inl ⟨e₀, .beat hmoment htried.running htried.turn (.refl _), htried.kept.persistent,
          htried.kept.live⟩
    · have hidles := Leads.of_tame (run_idles hc (hrest hreach) hplays) hrun htame
      have hidled : Idled c e e' := .call call (.refl e) hplays hrun htame hloading
      rcases ih with ⟨e₀, hsince, hkept⟩ | ⟨e₁, hinterrupted⟩
      · by_cases hends : e.mode = .effectRunning ∧ e'.mode = .ended
        · obtain ⟨heffect, hended⟩ := hends
          cases hidles with
          | loads hmode => exact absurd hmode hloading
          | stays _ hmode => simp [hended, heffect] at hmode
          | ends _ _ hlive hreport =>
            obtain ⟨message, rfl⟩ := hreport heffect
            have hsafe := (hrest hreach').fit.steady.safe_eq_none (by simp [hended])
              (by simp [hended])
            refine .inr ⟨e, hreach, heffect, ⟨message, r, e', hrun, .refl e'⟩, hended,
              e.session.flags, .refl _, ?_⟩
            rw [Session.persistent_eq_live hsafe]
            exact hlive
        · exact .inl ⟨e₀, hsince.idled hidled, hkept.idles hidles hloading (hrest hreach')
            (Classical.not_and_iff_not_or_not.1 hends)⟩
      · have hsafe := (hrest hreach).fit.steady.safe_eq_none (by simp [hinterrupted.ended])
          (by simp [hinterrupted.ended])
        exact .inr ⟨e₁, hinterrupted.idles hidled hidles hloading hsafe⟩

/-- What is saved has the beat at its place still to be played: since that beat was next, nothing
has been played, except that the beat may have had its turn, and what is saved is the session as it
was then, but for its text and flags. It is otherwise only if the session was ended while an effect
ran. -/
theorem Reachable.saves_unplayed (hc : Quiet c w True) (h : Reachable c anyCall setup outside e) :
    (∃ e₀, Since c setup outside e₀ e ∧ e₀.session.Offers e.session.persistent ∧
      Cursor.rebind e₀.script e.session.persistent.cursor = .ok e₀.cursor) ∨
      ∃ e₁, Interrupted c setup outside e₁ e := by
  rcases h.since hc with ⟨e₀, hsince, hkept⟩ | hinterrupted
  · have hsteady : e₀.Steady := hsince.steady hc
    obtain ⟨speech, flags, hsaved, -⟩ := hkept.persistent
    refine .inl ⟨e₀, hsince, hkept.persistent, ?_⟩
    rw [hsaved, ← hsteady.script]
    exact Cursor.rebind_position hsteady.cursor
  · exact .inr hinterrupted

/-- What is saved of a story that fades out has the fade still to be played. -/
theorem Reachable.saves_unplayed_fading : ∃ e e₀ : Engine (List Intent), e.mode = .effectRunning ∧
    Since .recording fading [] e₀ e ∧ e₀.session.Offers e.session.persistent := by
  have hmode : ((started .recording fading []).bind (after .recording [.resourcesReady])).map
      (·.mode) = some .effectRunning := by
    decide +kernel
  obtain ⟨e, he, hmode⟩ := Option.map_eq_some_iff.1 hmode
  obtain ⟨e', he', he⟩ := Option.bind_eq_some_iff.1 he
  have hreach : Reachable .recording anyCall fading [] e :=
    (Reachable.of_started he').of_after (fun _ _ _ => trivial) he
  rcases hreach.saves_unplayed Collaborators.recording_quiet.any with
    ⟨e₀, hsince, hoffers, -⟩ | ⟨e₁, hinterrupted⟩
  · exact ⟨e, e₀, hmode, hsince, hoffers⟩
  · rw [hinterrupted.ended] at hmode
    cases hmode

/-- A story in which a sprite is shown and turned. -/
def flipping : Setup :=
  .telling "flipping" [".addsprite:a", ".flipsprite:a:1", "Hello"]

/-- Whether the sprites are turned. -/
def turned (e : Engine σ) : List Bool :=
  e.session.scene.sprites.map (·.2.flippedX.truthy)

/-- The renderer fails while a sprite is turned. What is saved then has it turned and stands before
the command that turns it: when it is restored and played on, the sprite is turned back. -/
theorem Reachable.turned_twice : ∃ e e' : Engine (List Intent),
    Reachable .recording anyCall flipping [] e ∧ e.mode = .ended ∧
    e.session.persistent.cursor.index = 1 ∧ e.turned = [true] ∧
    after .recording [.restore e.session.persistent, .resourcesReady] e = some e' ∧
    e'.mode = .effectRunning ∧ e'.turned = [false] := by
  have hfacts : ((started .recording flipping []).bind
      (after .recording [.resourcesReady, .reportResourceError (.text "lost")])).map
      (fun e => (e.mode, e.session.persistent.cursor.index, e.turned,
        (after .recording [.restore e.session.persistent, .resourcesReady] e).map fun e' =>
          (e'.mode, e'.turned))) =
      some (.ended, 1, [true], some (.effectRunning, [false])) := by
    decide +kernel
  obtain ⟨e, he, hfacts⟩ := Option.map_eq_some_iff.1 hfacts
  simp only [Prod.mk.injEq] at hfacts
  obtain ⟨hmode, hindex, hturned, hagain⟩ := hfacts
  obtain ⟨e', he', hagain⟩ := Option.map_eq_some_iff.1 hagain
  obtain ⟨hmode', hturned'⟩ := Prod.mk.inj hagain
  obtain ⟨e₀, he₀, he⟩ := Option.bind_eq_some_iff.1 he
  have hreach : Reachable .recording anyCall flipping [] e :=
    (Reachable.of_started he₀).of_after (fun _ _ _ => trivial) he
  exact ⟨e, e', hreach, hmode, hindex, hturned, he', hmode', hturned'⟩

end Engine

end VisualNovel
