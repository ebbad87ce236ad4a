import VisualNovel.Proofs.SmallSteps
import VisualNovel.Proofs.WellTyped

/-!
# What escapes from a story

A host that plays a compiled story with the default settings, by the calls that move a story on,
gets every call back without a fault, unless a line asks for cinematic text of so many seconds that
they are no number of frames, the library of scripts meets a mishap of its own, or a choice has a
number that is too long to be written out (`Engine.Reachable.returns`). An error of the story is
never passed on: it is stored, and the session has ended.

A beat keeps an engine sane, or fails in a way that is known; from that follows the same of the loop
of a step, of a step, and of a call.
-/

namespace VisualNovel

open Script

variable {σ : Type}

/-- What commands and calls read of the engine has its type, errors are not passed on, and a session
with a stored error has ended. -/
structure Engine.Sane (e : Engine σ) : Prop where
  stage : e.stage.Sane
  menu : ∀ options, e.menu = some options → ∀ o ∈ options, o.Sane
  lenient : e.strict = false
  error : e.mode ≠ .ended → e.error = none

namespace Engine

variable {c : Collaborators σ} {w : Watch σ} {e e' : Engine σ}

namespace Sane

theorem withStage (h : e.Sane) {s : Stage} (hs : s.Sane) :
    ({ e with stage := s } : Engine σ).Sane :=
  ⟨hs, h.menu, h.lenient, h.error⟩

theorem within (h : e.Sane) (x : Surroundings σ) : (e.within x).Sane :=
  ⟨h.stage.disk x.disk, h.menu, h.lenient, h.error⟩

theorem aside (h : e.Sane) {l : List Intent} (ha : Aside w l e e') : e'.Sane := by
  obtain ⟨x, rfl, -⟩ := ha
  exact h.within x

theorem withStepping (h : e.Sane) (b : Bool) : ({ e with stepping := b } : Engine σ).Sane :=
  ⟨h.stage, h.menu, h.lenient, h.error⟩

theorem closed (h : e.Sane) (error : Option StoryError) :
    ({ e.closed with error } : Engine σ).Sane :=
  ⟨Stage.Sane.timed (h.stage.keep none) rfl, nofun, h.lenient, fun hmode => absurd rfl hmode⟩

theorem completed (h : e.Sane) : e.completed.Sane :=
  h.withStage (h.stage.mapCursor (f := fun cursor => cursor.advance) rfl
    (Likeness.advance_sound h.stage.cursor))

theorem spoken (h : e.Sane) (text speaker : Value) : (e.spoken text speaker).Sane :=
  have hstage := h.stage.editScene (f := fun s => { s with speech := text }) rfl rfl rfl rfl
  ⟨hstage, h.menu, h.lenient, h.error⟩

theorem freed (h : e.Sane) (hmode : e.mode ≠ .ended) : e.freed.Sane :=
  ⟨h.stage.keep none, nofun, h.lenient, fun _ => h.error hmode⟩

theorem settled (h : e.Sane) (hmode : e.mode ≠ .ended) {s : Stage} (hs : s.Sane) {o : Outcome}
    (ho : o.Sane) : (({ e with stage := s } : Engine σ).settled o).Sane := by
  have h' := h.withStage hs
  cases o with
  | proceed | call => exact h'.completed
  | stay => exact h'
  | hold kind payload => exact ⟨hs, h.menu, h.lenient, fun _ => h.error hmode⟩
  | ask options line =>
    have hoffering : (({ e with stage := s } : Engine σ).offering options).Sane := by
      refine ⟨hs.keep _, ?_, h.lenient, fun _ => h.error hmode⟩
      rintro _ ⟨⟩
      exact ho
    cases line with
    | null => exact hoffering
    | _ => exact hoffering.spoken _ _

end Sane

/-! ## Beats -/

/-- The command at the cursor meets a mishap; listeners may have changed the files before. -/
def Trips (e : Engine σ) (m : Mishap) : Prop :=
  ∃ cmd d, e.cursor.current = some (.command cmd) ∧
    Command.Excused cmd { e.stage with disk := d } m

/-- How playing the beat at the cursor can fail. -/
def Breaks (e : Engine σ) : Fault → Engine σ → Prop
  | .story _, e' => e'.Sane
  | .mishap m, _ => e.Trips m

theorem execute_ends (hc : Quiet c w False) (h : e.Sane) (hmode : e.mode ≠ .ended)
    {cmd : Script.Command} (hcmd : e.cursor.current = some (.command cmd)) :
    Ends (execute c cmd) e (fun _ e' => e'.Sane) e.Breaks := by
  have hfits : cmd.Fits := h.stage.cursor.current_fits h.stage.fits.cursor hcmd
  rw [hfits.performable.executed]
  refine (emit_runs hc _ e).bind_ends fun _ e₁ h₁ => ?_
  obtain ⟨x, rfl, -⟩ := h₁
  refine Ends.bind_iff.2 (Ends.onPart_iff.2 ?_)
  refine Ends.mono (Command.perform_sound hfits (h.stage.disk x.disk)) ?_ ?_
  · rintro o s' ⟨hs', ho⟩
    have h₁ := h.within x
    exact ((settle_runs hc o _).mono fun _ _ h₂ => (h₁.settled hmode hs' ho).aside h₂).ends
  · rintro (error | m) s' hfails
    · exact (h.within x).withStage hfails
    · exact ⟨cmd, x.disk, hcmd, hfails⟩

/-- A beat keeps an engine sane, unless the command at the cursor meets a mishap. -/
theorem playBeat_ends (hc : Quiet c w False) (h : e.Sane) (hr : e.running) :
    Ends (playBeat c) e (fun _ e' => e'.Sane) e.Breaks := by
  have hmode : e.mode ≠ .ended := by simp [(running_iff.1 hr).1]
  unfold playBeat
  refine Ends.bind_iff.2 (Ends.get_iff.2 ?_)
  split
  · exact ((finish_runs hc hmode).mono fun _ _ h' => (h.closed e.error).aside h').ends
  · next d hd =>
    have htext : d.text.IsText := h.stage.cursor.current_fits h.stage.fits.cursor hd
    refine ((display_waits hc (.inr htext) d.speaker e).mono ?_).ends
    rintro _ e' ⟨t, visible, ht, h'⟩
    refine Sane.aside (e := (e.spoken d.text d.speaker).waiting t) ?_ h'
    have hs := (h.spoken d.text d.speaker).stage
    refine ⟨⟨hs.config, hs.scene, hs.offsetX, hs.offsetY, hs.choiceSets, ?_, hs.dice, hs.cursor,
      hs.fits.congr rfl rfl rfl⟩, h.menu, h.lenient, h.error⟩
    show t.fullText.IsText
    rw [ht.fullText]
    exact htext
  · next cmd hcmd => exact execute_ends hc h hmode hcmd

/-! ## Steps -/

/-- How playing beats from an engine on can fail. -/
def BreaksOff (c : Collaborators σ) (start : Engine σ) : Fault → Engine σ → Prop
  | .story _, e' => e'.Sane
  | .mishap m, _ => ∃ e, Plays c start e ∧ e.running ∧ e.Trips m

theorem playBeats_ends (hc : Quiet c w False) (turns budget : Nat) {start : Engine σ}
    (hstart : Plays c start e) (h : e.Sane) :
    Ends (playBeats c turns budget) e (fun _ e' => e'.Sane) (BreaksOff c start) := by
  induction turns generalizing budget e with
  | zero => exact h
  | succ turns ih =>
    by_cases hr : e.running
    · by_cases hcost : e.cost ≤ budget
      · have hbeat : Ends (playBeat c >>= fun _ => playBeats c turns (budget - e.cost)) e
            (fun _ e' => e'.Sane) (BreaksOff c start) := by
          refine Ends.bind_iff.2 (Ends.mono (playBeat_ends hc h hr).recorded ?_ ?_)
          · rintro ⟨⟩ e' ⟨h', hrun⟩
            exact ih _ (hstart.beat hr hrun) h'
          · rintro (error | m) e' hbreaks
            · exact hbreaks
            · exact ⟨e, hstart, hr, hbreaks⟩
        refine Ends.iff_perform.2 ?_
        rw [playBeats_succ hc.any hr hcost]
        exact Ends.iff_perform.1 hbeat
      · -- Only a command takes from the budget, and nothing is left of it.
        have hcommand : ∃ cmd, e.cursor.current = some (.command cmd) := by
          refine Classical.byContradiction fun hnone => hcost ?_
          rw [cost_of_other fun cmd hcmd => hnone ⟨cmd, hcmd⟩]
          exact Nat.zero_le _
        obtain ⟨cmd, hcmd⟩ := hcommand
        rw [cost_of_command hcmd] at hcost
        have hbudget : budget = 0 := by omega
        rw [hbudget]
        refine Ends.iff_perform.2 ⟨fun _ _ hrun => ?_, fun f e' hrun => ?_⟩
        · rw [playBeats_over hr hcmd] at hrun
          cases hrun
        · rw [playBeats_over hr hcmd] at hrun
          cases hrun
          exact h
    · exact Ends.of_perform (playBeats_idle (by simpa using hr)) h

/-- An error ends the session, and is not passed on. -/
theorem fail_runs (hc : Quiet c w False) (h : e.Sane) (error : StoryError) :
    Runs False (fail c error) e fun _ e' => e'.Sane := by
  by_cases hmode : e.mode = .ended
  · unfold fail
    refine Leads.get_bind ?_
    have hfinished : e.finished = true := by simp [finished, hmode]
    rw [hfinished]
    exact h
  · refine Leads.mono (fail_leads hc hmode error) ?_ ?_
    · exact fun _ e' h' => (h.closed (some error)).aside h'.1
    · intro _ e' h'
      rw [h.lenient] at h'
      cases h'.2.1

/-- What a mishap that stops a step has to do with. -/
def Stumbles (c : Collaborators σ) (e : Engine σ) (m : Mishap) : Prop :=
  ∃ e₀, Plays c { e with stepping := true } e₀ ∧ e₀.running ∧ e₀.Trips m

theorem step_ends (hc : Quiet c w False) (h : e.Sane) :
    Ends (step c) e (fun _ e' => e'.Sane) fun f _ => ∃ m, f = .mishap m ∧ Stumbles c e m := by
  unfold step
  refine Ends.bind_iff.2 (Ends.get_iff.2 ?_)
  cases hplay : e.running && !e.stepping with
  | false => exact h
  | true =>
    refine Ends.bind_iff.2 (Ends.modify_iff.2 ?_)
    have hbeats := playBeats_ends hc turnsPerStep commandBudget
      (.refl { e with stepping := true }) (h.withStepping true)
    have hplayed : Ends (orFail c (playBeats c turnsPerStep commandBudget))
        { e with stepping := true } (fun _ e' => e'.Sane)
        fun f _ => ∃ m, f = .mishap m ∧ Stumbles c e m := by
      unfold orFail
      refine Ends.bind_iff.2 (Ends.outcome_iff.2 (Ends.mono hbeats ?_ ?_))
      · exact fun _ e' h' => h'
      · rintro (error | m) e' hbreaks
        · exact (fail_runs hc hbreaks error).ends
        · exact ⟨m, rfl, hbreaks⟩
    refine Ends.bind_iff.2 (Ends.outcome_iff.2 (Ends.mono hplayed ?_ ?_))
    · exact fun _ e' h' => h'.withStepping false
    · exact fun f e' hf => hf

/-! ## Calls -/

/-- The calls that move a story on, with whole numbers and texts. -/
def ordinary (_ : Engine σ) : HostCall → Prop
  | .resourcesReady | .step | .advance => True
  | .choose (.int _) | .effectFinished (.int _) => True
  | .reportResourceError (.text _) => True
  | _ => False

/-- What an option says can be done. -/
theorem followOn_safe {option : ChoiceOption} (ho : option.Sane) {s : Stage} (h : s.Sane) :
    Leads False (followOn option) s (fun _ s' => s'.Sane) fun _ s' => s'.Sane := by
  obtain ⟨text, conversation, flag, delta⟩ := option
  rcases ho with ⟨n, hn⟩ | ⟨hnull, n, hn⟩
  · cases hn
    exact Leads.mono (Command.switchConversation_safe h ⟨n, rfl⟩) (fun _ _ h => h.1) fun _ _ h => h
  · cases hnull
    cases hn
    exact (h.mapFlags _).mapCursor (f := fun cursor => cursor.advance) rfl
      (Likeness.advance_sound h.cursor)

end Engine

namespace HostCall

open Engine

variable {c : Collaborators σ} {w : Watch σ} {e e' : Engine σ}

/-- The choice is not on the menu, and its number is too long to be written out. -/
def Unspeakable (call : HostCall) (e : Engine σ) (m : Mishap) : Prop :=
  ∃ n options, call = .choose (.int n) ∧ e.menu = some options ∧
    ¬(0 ≤ n ∧ n < options.length) ∧ (Value.int n).display = .error m

/-- An option that is on the menu is taken. One that is not is an error of the story, if it can be
said which one it is. -/
theorem pick_ends (hc : Quiet c w False) (h : e.Sane) {options : List ChoiceOption}
    (hmenu : e.menu = some options) (hmode : e.mode = .awaitingChoice) (heffect : e.effect = none)
    (n : Int) :
    Ends (pick c options (.int n)) e (fun _ e' => e'.Sane) fun f e' =>
      (∃ error, f = .story error ∧ e'.Sane) ∨
        ∃ m, f = .mishap m ∧ Unspeakable (.choose (.int n)) e m := by
  by_cases hplace : 0 ≤ n ∧ n < options.length
  · have hplace' : placeOf (.int n) options.length = .ok n.toNat := by
      simp [placeOf, Value.toInt, hplace]
    have hlt := placeOf_lt hplace'
    have hoption := h.menu options hmenu _ (List.getElem_mem hlt)
    refine Ends.mono (pick_leads hc hplace' (List.getElem?_eq_getElem hlt) heffect
      fun d _ => followOn_safe hoption (h.stage.disk d)) ?_ ?_
    · rintro _ e' ⟨s, hs, h'⟩
      have hfreed : ({ e with stage := s } : Engine σ).freed.Sane :=
        (h.withStage hs).freed (by simp [hmode])
      exact hfreed.aside h'
    · rintro (error | m) e' hfails
      · obtain ⟨s, hs, h'⟩ := hfails
        have hcleared : ({ e with stage := s, menu := none } : Engine σ).Sane :=
          ⟨hs, fun _ hsome => (by cases hsome), h.lenient, h.error⟩
        exact .inl ⟨error, rfl, hcleared.aside h'⟩
      · exact hfails.elim
  · have hplace' : placeOf (.int n) options.length = .error (offMenu (.int n) options.length) := by
      simp [placeOf, Value.toInt]
      omega
    unfold pick
    rw [hplace']
    refine Ends.bind_iff.2 (Ends.ofExcept_iff.2 ⟨fun _ hok => (by cases hok), fun f hf => ?_⟩)
    rw [← Except.error.inj hf]
    cases hshown : (Value.int n).display with
    | ok text =>
      simp only [offMenu, hshown]
      exact .inl ⟨_, rfl, h⟩
    | error m =>
      simp only [offMenu, hshown]
      exact .inr ⟨m, rfl, n, options, rfl, hmenu, hplace, hshown⟩

theorem takeOption_ends (hc : Quiet c w False) (h : e.Sane) (hs : e.Steady) (n : Int) :
    Ends (takeOption c (.int n)) e (fun _ e' => e'.Sane)
      fun f _ => ∃ m, f = .mishap m ∧ Unspeakable (.choose (.int n)) e m := by
  unfold takeOption
  refine Ends.bind_iff.2 (Ends.get_iff.2 ?_)
  split
  · exact (note_runs w _ _ e).bind_ends fun _ e' h' => h.aside h'
  · next options hfound =>
    obtain ⟨hmenu, hmode⟩ := Option.filter_eq_some_iff.1 hfound
    have hmode : e.mode = .awaitingChoice := by simpa using hmode
    have heffect := hs.effect_eq_none (by simp [hmode])
    refine Ends.bind_iff.2 (Ends.outcome_iff.2
      (Ends.mono (pick_ends hc h hmenu hmode heffect n) ?_ ?_))
    · exact fun _ e' h' => h'
    · rintro f e' (⟨error, rfl, h'⟩ | ⟨m, rfl, hlong⟩)
      · exact (fail_runs hc h' error).bind_ends fun _ _ h => h
      · exact ⟨m, rfl, hlong⟩

theorem endEffect_ends (hc : Quiet c w False) (h : e.Sane) (hs : e.Steady) (id : Value) :
    Runs False (endEffect c id) e fun _ e' => e'.Sane := by
  cases hfound : e.effect.filter fun i => e.mode == .effectRunning && isEffect id i with
  | none =>
    unfold endEffect
    refine Leads.get_bind ?_
    rw [hfound]
    exact (note_runs w _ _ e).bind fun _ e' h' => h.aside h'
  | some effect =>
    obtain ⟨heffect, hid⟩ := Option.filter_eq_some_iff.1 hfound
    simp only [Bool.and_eq_true, beq_iff_eq] at hid
    have hmenu := hs.menu_eq_none (by simp [hid.1])
    refine (endEffect_runs hc heffect hid.1 hmenu hid.2).mono fun _ e' h' => ?_
    exact ((h.freed (by simp [hid.1])).completed).aside h'.2

theorem opening_ends (hc : Quiet c w False) (h : e.Sane) (hs : e.Steady) {call : HostCall}
    (hcall : ordinary e call) :
    Ends (call.opening c) e (fun _ e' => e'.Sane)
      fun f _ => ∃ m, f = .mishap m ∧ call.Unspeakable e m := by
  cases call with
  | resourcesReady =>
    refine Ends.bind_iff.2 (Ends.get_iff.2 ?_)
    dsimp only
    split
    · exact (note_runs w _ _ e).bind_ends fun _ e' h' => h.aside h'
    · next hloading =>
      have hmode : e.mode ≠ .ended := by
        intro hended
        simp [hended] at hloading
      have hnormal : ({ e with mode := .normal } : Engine σ).Sane :=
        ⟨h.stage, h.menu, h.lenient, fun _ => h.error hmode⟩
      exact (setMode_runs hc .normal e).bind_ends fun _ e' h' => hnormal.aside h'
  | step => exact h
  | advance =>
    cases hshows : e.showsLine with
    | false =>
      unfold opening passLine
      refine Ends.bind_iff.2 (Ends.get_iff.2 ?_)
      rw [hshows]
      exact h
    | true =>
      refine ((passLine_runs hshows).mono ?_).ends
      rintro _ _ ⟨-, rfl⟩
      exact Sane.completed ⟨Stage.Sane.timed h.stage rfl, h.menu, h.lenient, h.error⟩
  | choose index =>
    cases index with
    | int n => exact takeOption_ends hc h hs n
    | _ => exact hcall.elim
  | effectFinished id => exact (endEffect_ends hc h hs id).ends
  | reportResourceError message =>
    refine Ends.bind_iff.2 (Ends.bind_iff.2 (Ends.get_iff.2 ?_))
    exact ((fail_runs hc h _).mono fun _ _ h' => h').ends
  | _ => exact hcall.elim

/-- The mishaps that escape from a call. -/
inductive Escapes (c : Collaborators σ) (e : Engine σ) (call : HostCall) (m : Mishap) : Prop where
  /-- The call plays on, and comes to a command that meets the mishap. -/
  | command {e₁ : Engine σ} : (call.opening c).perform e = (.ok true, e₁) → Stumbles c e₁ m →
    Escapes c e call m
  /-- The call is a choice that cannot be reported as being off the menu. -/
  | choice : call.Unspeakable e m → Escapes c e call m

theorem run_ends (hc : Quiet c w False) (h : e.Sane) (hs : e.Steady) {call : HostCall}
    (hcall : ordinary e call) :
    Ends (call.run c) e (fun _ e' => e'.Sane)
      fun f _ => ∃ m, f = .mishap m ∧ Escapes c e call m := by
  rw [run_eq]
  refine Ends.bind_iff.2 (Ends.mono (opening_ends hc h hs hcall).recorded ?_ ?_)
  · rintro go e₁ ⟨h₁, hrun⟩
    cases go with
    | false => exact h₁
    | true =>
      refine Ends.discard_iff.2 (Ends.mono (step_ends hc h₁) (fun _ _ h' => h') ?_)
      rintro _ _ ⟨m, rfl, hstumbles⟩
      exact ⟨m, rfl, .command hrun hstumbles⟩
  · rintro _ _ ⟨m, rfl, hlong⟩
    exact ⟨m, rfl, .choice hlong⟩

end HostCall

/-! ## Runs -/

namespace Engine

variable {c : Collaborators σ} {w : Watch σ} {setup : Setup} {outside : σ} {e e' : Engine σ}

theorem Reachable.sane (hc : Quiet c w False) (hscript : setup.script.Fits)
    (hlibrary : ∀ l, setup.library = some l → l.Compiles) (hconfig : setup.config.Sane)
    (hdice : ∀ v ∈ setup.dice.rolls, ∃ n, v = .int n) (hstrict : setup.strict = false)
    (h : Reachable c ordinary setup outside e) : e.Sane := by
  induction h with
  | @start e₀ e hsetup hrun =>
    have hstage := ofSetup_sane hscript hlibrary hconfig hdice hsetup
    obtain ⟨s, -, hsetup⟩ := bind_eq_ok.1 hsetup
    cases hsetup
    have hloading := (Ends.iff_perform.1 (enterLoading_runs hc _)).1 _ _ hrun
    refine Sane.aside (e := _) ⟨hstage, nofun, hstrict, fun _ => rfl⟩ hloading
  | @call e e' r call hreach hcall hrun htame ih =>
    have hrest := hreach.atRest Keeps.nothing hc.any (fun _ _ => trivial)
      fun _ _ t _ _ _ => Admits.nothing t
    obtain ⟨hok, herror⟩ := Ends.iff_perform.1 (HostCall.run_ends hc ih hrest.fit.steady hcall)
    cases r with
    | ok _ => exact hok _ e' hrun
    | error f =>
      obtain ⟨m, rfl, -⟩ := herror f e' hrun
      cases htame
  | around x _ ih => exact ih.within x

/-- A call that moves a compiled story on returns without a fault, and the session goes on or has
ended, with its error stored if there was one; or else a command has asked for more frames than can
be counted, the library has met a mishap, or a choice has a number that cannot be written out. -/
theorem Reachable.returns (hc : Quiet c w False) {document name : Value}
    (hcompile : compile document name = .ok setup.script) (hconfig : setup.config = .default)
    (hlibrary : ∀ l, setup.library = some l → l.Compiles)
    (hdice : ∀ v ∈ setup.dice.rolls, ∃ n, v = .int n) (hstrict : setup.strict = false)
    (h : Reachable c ordinary setup outside e) {call : HostCall} (hcall : ordinary e call) :
    ∃ r e', (call.run c).perform e = (r, e') ∧
      (r = .ok () ∧ (e'.error = none ∨ e'.mode = .ended) ∨
        ∃ m, r = .error (.mishap m) ∧ call.Escapes c e m) := by
  have hsane : e.Sane := h.sane hc (Script.compile_fits hcompile) hlibrary
    (hconfig ▸ Config.default_sane) hdice hstrict
  have hrest := h.atRest Keeps.nothing hc.any (fun _ _ => trivial)
    fun _ _ t _ _ _ => Admits.nothing t
  obtain ⟨hok, herror⟩ := Ends.iff_perform.1 (HostCall.run_ends hc hsane hrest.fit.steady hcall)
  rcases hrun : (call.run c).perform e with ⟨f | ⟨⟩, e'⟩
  · obtain ⟨m, rfl, hescapes⟩ := herror f e' hrun
    exact ⟨_, e', rfl, .inr ⟨m, rfl, hescapes⟩⟩
  · have hsane' := hok () e' hrun
    refine ⟨_, e', rfl, .inl ⟨rfl, ?_⟩⟩
    by_cases hmode : e'.mode = .ended
    · exact .inr hmode
    · exact .inl (hsane'.error hmode)

/-- The story that fades out is started without a fault. -/
theorem Reachable.returns_fading : ∃ e e' : Engine (List Intent),
    Reachable .recording ordinary fading [] e ∧
      (HostCall.resourcesReady.run .recording).perform e = (.ok (), e') ∧
      (e'.error = none ∨ e'.mode = .ended) := by
  have hgoes : ((started .recording fading []).map fun e =>
      ((HostCall.resourcesReady.run .recording).perform e).1.isOk) = some true := by
    decide +kernel
  obtain ⟨e, he, hgoes⟩ := Option.map_eq_some_iff.1 hgoes
  have hreach : Reachable .recording ordinary fading [] e := .of_started he
  have hcall : ordinary e .resourcesReady := trivial
  obtain ⟨r, e', hrun, ⟨rfl, herror⟩ | ⟨m, rfl, -⟩⟩ :=
    hreach.returns Collaborators.recording_quiet compile_fadingDocument rfl
      (fun _ hl => by cases hl)
      (fun v hv => ⟨0, by simpa [fading, Setup.telling] using hv⟩) rfl hcall
  · exact ⟨e, e', hreach, hrun, herror⟩
  · rw [hrun] at hgoes
    cases hgoes

/-- A story whose first line is to stay for ever, as it is written. -/
def endlessDocument : Value :=
  .record [(.text "start", .list [.text ".setcinematictext:inf", .text "Hello"])]

/-- The story as it is played. -/
def endless : Setup :=
  { script := (compile endlessDocument (.text "endless")).toOption.getD default }

/-- A line that is to stay for ever compiles, and cannot be counted in frames: the call that starts
the story does not return. -/
theorem Reachable.endless_escapes : ∃ e e' : Engine (List Intent),
    compile endlessDocument (.text "endless") = .ok endless.script ∧
      endless.config = .default ∧ endless.library = none ∧ endless.strict = false ∧
      Reachable .recording ordinary endless [] e ∧
      (HostCall.resourcesReady.run .recording).perform e = (.error (.mishap .overflow), e') := by
  have hfails : ((started .recording endless []).map fun e =>
      Mishap.overflow.isResult ((HostCall.resourcesReady.run .recording).perform e).1) =
        some true := by
    decide +kernel
  obtain ⟨e, he, hfails⟩ := Option.map_eq_some_iff.1 hfails
  exact ⟨e, ((HostCall.resourcesReady.run .recording).perform e).2,
    compile_eq_ok_getD (by decide +kernel), rfl, rfl, rfl, .of_started he,
    Prod.ext (Mishap.isResult_iff.1 hfails) rfl⟩

end Engine

end VisualNovel
