import VisualNovel.Proofs.Tasks

/-!
# Handing over

An engine hands its effect and its menu over to the renderer, and the renderer hands reports back.
The tasks of the renderer are those that the engine has set (`Engine.Entrusts`), and every call
keeps it so if it ends without a fault (`HostCall.run_handsOver`). A renderer that reports the end
of the effect has taken it off already; then the engine takes it off as well
(`HostCall.effectFinished_handsOver`).
-/

namespace VisualNovel

open Script

variable {σ : Type}

/-! ## What is entrusted -/

/-- The tasks of the renderer are those that the engine has set. A session that has ended sets
none. -/
structure Engine.Entrusts (t : Tasks) (e : Engine σ) : Prop where
  ready : e.mode = .loading → t.pendingReady
  effect : e.mode ≠ .ended → t.effect = e.effect
  choices : e.mode ≠ .ended → t.choices = (e.menu.getD []).map ChoiceOption.text
  number : e.mode ≠ .ended → ∀ i, e.effect = some i → ∃ n : Int, i.effectId = some (.int n)

namespace Tasks

variable {t : Tasks} {i : Intent} {l : List Intent}

theorem told_of_loose (hid : i.effectId = none) (hshow : i.kind ≠ .showChoices)
    (hclear : i.kind ≠ .clearChoices) : t.told i = t := by
  simp [told, Intent.blocking, hid]

/-- The intents of a command that goes on at once leave the tasks as they are. -/
theorem told_prompt (h : Prompt l) : l.foldl told t = t := by
  cases h with
  | nothing => rfl
  | one hkind =>
    refine told_of_loose rfl ?_ ?_
    · rintro rfl
      cases hkind
    · rintro rfl
      cases hkind
  | fade => rfl

end Tasks

namespace Engine.Entrusts

variable {t : Tasks} {e e' : Engine σ}

theorem of_ended (hmode : e.mode = .ended) : e.Entrusts t := by
  constructor <;> simp [hmode]

/-- What is entrusted does not depend on anything but the mode, the effect and the menu. -/
theorem of_same (h : e.Entrusts t) (hmode : e'.mode = e.mode) (heffect : e'.effect = e.effect)
    (hmenu : e'.menu = e.menu) : e'.Entrusts t := by
  constructor
  · rw [hmode]
    exact h.ready
  · rw [hmode, heffect]
    exact h.effect
  · rw [hmode, hmenu]
    exact h.choices
  · rw [hmode, heffect]
    exact h.number

/-- An engine that waits for nobody but the player entrusts nothing. -/
theorem of_free (hmode : e.mode ≠ .loading) (heffect : e.effect = none) (hmenu : e.menu = none)
    (hstill : t.effect = none) (hfree : t.choices = []) : e.Entrusts t := by
  constructor <;> simp [hmode, heffect, hmenu, hstill, hfree]

theorem aside {view : σ → Tasks} {l : List Intent}
    (h : e.Entrusts (l.foldl Tasks.told (view e.outside))) (ha : Aside (Watch.tasks view) l e e') :
    e'.Entrusts (view e'.outside) := by
  obtain ⟨x, rfl, hsent, -⟩ := ha
  have hsent : view x.outside = l.foldl Tasks.told (view e.outside) := hsent
  show (e.within x).Entrusts (view x.outside)
  rw [hsent]
  exact h.of_same rfl rfl rfl

end Engine.Entrusts

/-- If the tasks of the renderer were those that the first engine had set, they are those that the
second one has set. -/
def KeepsTrust (view : σ → Tasks) (e e' : Engine σ) : Prop :=
  e.Entrusts (view e.outside) → e'.Entrusts (view e'.outside)

namespace KeepsTrust

variable {view : σ → Tasks} {e e' : Engine σ}

instance : IsPreorder (Engine σ) (KeepsTrust view) where
  refl _ := id
  trans _ _ _ h h' := h' ∘ h

theorem of_same (hmode : e'.mode = e.mode) (heffect : e'.effect = e.effect)
    (hmenu : e'.menu = e.menu) (hout : e'.outside = e.outside) : KeepsTrust view e e' := by
  intro h
  rw [hout]
  exact h.of_same hmode heffect hmenu

theorem incidental : Incidental (KeepsTrust view) where
  disk _ _ := of_same rfl rfl rfl rfl
  saves _ _ := of_same rfl rfl rfl rfl

theorem timing {α : Type} (act : Attempt TimedText α) :
    Tracks (KeepsTrust view) (Action.attempt Engine.timedTextPlace act) :=
  .attempt fun _ _ => of_same rfl rfl rfl rfl

theorem passLine : Tracks (KeepsTrust view) (HostCall.passLine : Play σ Bool) := by
  refine .get_bind fun e => ?_
  cases e.showsLine with
  | false => exact refl_of (KeepsTrust view) e
  | true => exact of_same rfl rfl rfl rfl

theorem setFlag (name value : Value) : Tracks (KeepsTrust view) (Engine.setFlag name value) :=
  .bind .ofMishap fun _ => .bind .ofMishap fun _ => .modify fun _ => of_same rfl rfl rfl rfl

end KeepsTrust

/-- If the action ends without a fault, the tasks of the renderer are those that the engine has
set. -/
def HandsOver {α : Type} (view : σ → Tasks) (act : Play σ α) (e : Engine σ) : Prop :=
  Ends act e (fun _ e' => e'.Entrusts (view e'.outside)) fun _ _ => True

namespace HandsOver

variable {α β : Type} {view : σ → Tasks} {e e₁ : Engine σ}

theorem bind {x : Play σ α} {k : α → Play σ β} (hx : HandsOver view x e)
    (hk : ∀ a e', e'.Entrusts (view e'.outside) → HandsOver view (k a) e') :
    HandsOver view (x >>= k) e :=
  Ends.bind_iff.2 (hx.mono (fun a e' h => hk a e' h) fun _ _ h => h)

theorem of_runs {act : Play σ α} {l : List Intent}
    (h : Runs True act e fun _ e' => Aside (Watch.tasks view) l e₁ e')
    (he₁ : e₁.Entrusts (l.foldl Tasks.told (view e₁.outside))) : HandsOver view act e :=
  Ends.mono h (fun _ _ ha => he₁.aside ha) fun _ _ _ => trivial

theorem of_tracks {act : Play σ α} (hact : Tracks (KeepsTrust view) act)
    (h : e.Entrusts (view e.outside)) : HandsOver view act e :=
  Ends.mono (Tracks.iff_ends.1 hact e) (fun _ _ hkeeps => hkeeps h) fun _ _ _ => trivial

theorem discard {act : Play σ α} (h : HandsOver view act e) : HandsOver view (discard act) e :=
  Ends.discard_iff.2 h

end HandsOver

/-! ## Playing -/

namespace Engine

section
variable {c : Collaborators σ} {w : Watch σ} {P : Engine σ → Prop}

/-- What every beat keeps is kept by a row of them. -/
theorem playBeats_keeps
    (hbeat : ∀ e, P e → e.running → Ends (playBeat c) e (fun _ e' => P e') fun _ _ => True)
    (turns budget : Nat) {e : Engine σ} (h : P e) :
    Ends (playBeats c turns budget) e (fun _ e' => P e') fun _ _ => True := by
  induction turns generalizing budget e with
  | zero => exact h
  | succ turns ih =>
    refine Ends.bind_iff.2 (Ends.get_iff.2 ?_)
    cases hr : e.running with
    | false => exact h
    | true =>
      have hnext := hbeat e h hr
      simp only [Bool.not_true, Bool.false_eq_true, if_false]
      cases hcur : e.cursor.current with
      | none => exact .of_perform_eq (playBeat_of_none hcur).symm hnext
      | some beat =>
        cases beat with
        | dialogue d =>
          have hline := Ends.of_perform_eq (playBeat_of_dialogue hcur).symm hnext
          exact Ends.bind_iff.2 (hline.mono (fun _ _ h₁ => ih _ h₁) fun _ _ _ => trivial)
        | command cmd =>
          cases budget with
          | zero => exact trivial
          | succ budget =>
            have hcommand := Ends.of_perform_eq (playBeat_of_command hcur).symm hnext
            exact Ends.bind_iff.2 (hcommand.mono (fun _ _ h₁ => ih _ h₁) fun _ _ _ => trivial)

/-- What every beat keeps, and holds of a session that has ended, a step keeps. -/
theorem step_keeps (hc : Quiet c w True) (hended : ∀ e, e.mode = .ended → P e)
    (hstepping : ∀ e b, P e → P { e with stepping := b })
    (hbeat : ∀ e, P e → e.running → Ends (playBeat c) e (fun _ e' => P e') fun _ _ => True)
    {e : Engine σ} (h : P e) : Ends (step c) e (fun _ e' => P e') fun _ _ => True := by
  refine Ends.bind_iff.2 (Ends.get_iff.2 ?_)
  cases e.running && !e.stepping with
  | false => exact h
  | true =>
    have hfail : ∀ error e, Ends (fail c error) e (fun _ e' => P e') fun _ _ => True :=
      fun error e => Ends.iff_perform.2
        ⟨fun _ e' hrun => hended e' (fail_ended hc hrun), fun _ _ _ => trivial⟩
    have hplay : Ends (orFail c (playBeats c turnsPerStep commandBudget))
        { e with stepping := true } (fun _ e' => P e') fun _ _ => True := by
      refine Ends.bind_iff.2 (Ends.outcome_iff.2 ?_)
      refine (playBeats_keeps hbeat turnsPerStep commandBudget (hstepping e true h)).mono ?_ ?_
      · exact fun _ _ h₁ => h₁
      · rintro (error | m) e₁ -
        · exact hfail error e₁
        · exact trivial
    refine Ends.bind_iff.2 (Ends.modify_iff.2 (Ends.bind_iff.2 (Ends.outcome_iff.2 ?_)))
    refine hplay.mono (fun _ e₁ h₁ => ?_) fun f e₁ _ => ?_
    · exact hstepping e₁ false h₁
    · exact trivial

end

section
variable {c : Collaborators σ} {view : σ → Tasks} (hc : Quiet c (Watch.tasks view) True)
  {e : Engine σ} {t : Tasks}
include hc

omit hc in
/-- What a command has left to do is entrusted when it is done. -/
theorem settled_entrusts (hmode : e.mode = .normal) (h : e.Entrusts t) {cmd : Script.Command}
    {s : Stage} {o : Outcome} (ho : o.Orderly cmd s e.stage) :
    (e.settled o).Entrusts ((sends o e).foldl Tasks.told t) := by
  have hgoes : e.mode ≠ .ended := by simp [hmode]
  have hmenu : ∀ (options : List ChoiceOption) (e' : Engine σ), e'.mode = .awaitingChoice →
      e'.effect = e.effect → e'.menu = some options → e'.Entrusts (t.told (menuOf options e)) := by
    intro options e' hasks heffect hmenu
    have hoptions : (t.told (menuOf options e)).choices = options.map ChoiceOption.text := by
      cases options <;> rfl
    have hstill : (t.told (menuOf options e)).effect = t.effect := rfl
    constructor
    · simp [hasks]
    · rw [heffect, hstill]
      exact fun _ => h.effect hgoes
    · rw [hoptions, hmenu]
      exact fun _ => rfl
    · rw [heffect]
      exact fun _ => h.number hgoes
  cases o with
  | proceed intents =>
    have hsame : (sends (.proceed intents) e).foldl Tasks.told t = t := Tasks.told_prompt ho
    rw [hsame]
    exact h.of_same rfl rfl rfl
  | stay => exact h
  | call args => exact h.of_same rfl rfl rfl
  | hold kind payload =>
    have hchoices : (t.told (effectOf kind payload e)).choices = t.choices := by
      have hlasts := ho.1
      cases kind <;> first | rfl | cases hlasts
    constructor
    · simp [settled, held]
    · exact fun _ => rfl
    · exact fun _ => hchoices.trans (h.choices hgoes)
    · rintro - i hi
      cases hi
      exact ⟨_, rfl⟩
  | ask options line =>
    cases line with
    | null => exact hmenu options _ rfl rfl rfl
    | _ => exact hmenu options _ rfl rfl rfl

theorem execute_handsOver (hmode : e.mode = .normal) (h : e.Entrusts (view e.outside))
    (cmd : Script.Command) : HandsOver view (execute c cmd) e := by
  refine (execute_orderly hc cmd e).mono ?_ fun _ _ _ => trivial
  rintro _ e' ⟨e₁, s, o, h₁, ho, h'⟩
  have hentrusts : e₁.Entrusts (view e₁.outside) := Entrusts.aside (l := []) h h₁
  have hmode₁ : e₁.mode = .normal := by
    obtain ⟨x, rfl, -⟩ := h₁
    exact hmode
  have hstage : ({ e₁ with stage := s } : Engine σ).Entrusts (view e₁.outside) :=
    hentrusts.of_same rfl rfl rfl
  have hsettled := settled_entrusts (e := { e₁ with stage := s }) hmode₁ hstage ho
  have hout : (Engine.settled o { e₁ with stage := s }).outside = e₁.outside := settled_outside o _
  refine Entrusts.aside ?_ h'
  rw [hout]
  exact hsettled

theorem playBeat_handsOver (h : e.Entrusts (view e.outside)) (hr : e.running) :
    HandsOver view (playBeat c) e := by
  obtain ⟨hmode, -⟩ := running_iff.1 hr
  refine Ends.bind_iff.2 (Ends.get_iff.2 ?_)
  split
  · exact HandsOver.of_runs (finish_runs hc (by simp [hmode])) (.of_ended rfl)
  · next d _ =>
    refine Ends.mono (display_waits hc (.inl trivial) d.speaker e) ?_ fun _ _ _ => trivial
    rintro _ e' ⟨line, visible, -, ha⟩
    have hwaits : ((e.spoken d.text d.speaker).waiting line).Entrusts
        ([showing d.text d.speaker visible e].foldl Tasks.told (view e.outside)) :=
      h.of_same rfl rfl rfl
    exact Entrusts.aside (e := (e.spoken d.text d.speaker).waiting line) hwaits ha
  · next cmd _ => exact execute_handsOver hc hmode h cmd

theorem step_handsOver (h : e.Entrusts (view e.outside)) : HandsOver view (step c) e :=
  step_keeps hc (fun _ hmode => .of_ended hmode) (fun _ _ h => h.of_same rfl rfl rfl)
    (fun _ h hr => playBeat_handsOver hc h hr) h

theorem fail_handsOver (error : StoryError) (e : Engine σ) : HandsOver view (fail c error) e :=
  Ends.iff_perform.2
    ⟨fun _ _ hrun => .of_ended (fail_ended hc hrun), fun _ _ _ => trivial⟩

end

end Engine

/-! ## Calls -/

namespace HostCall

open Engine

section
variable {c : Collaborators σ} {view : σ → Tasks} {e : Engine σ}

theorem note_handsOver (h : e.Entrusts (view e.outside)) (level : Level) (text : String) :
    HandsOver view (do note level text; return false) e :=
  .of_tracks ((note_tracks KeepsTrust.incidental level text).bind fun _ => .pure) h

section
variable (hc : Quiet c (Watch.tasks view) True)
include hc

theorem sendReveal_handsOver (h : e.Entrusts (view e.outside)) :
    HandsOver view (sendReveal c) e := by
  refine Ends.bind_iff.2 (Ends.get_iff.2 ?_)
  dsimp only
  split
  · refine Ends.bind_iff.2 (Ends.modify_iff.2 (Ends.bind_iff.2 (Ends.ofMishap_iff.2
      ⟨fun visible _ => ?_, fun _ _ => trivial⟩)))
    refine Ends.bind_iff.2 (Ends.ofMishap_iff.2 ⟨fun complete _ => ?_, fun _ _ => trivial⟩)
    exact HandsOver.of_runs (hc.apply _ _) (h.of_same rfl rfl rfl)
  · exact h

theorem pick_handsOver (hrest : e.AtRest fun _ => True) (hmode : e.mode = .awaitingChoice)
    (h : e.Entrusts (view e.outside)) (options : List ChoiceOption) (index : Value) :
    HandsOver view (pick c options index) e := by
  have heffect := hrest.fit.steady.effect_eq_none (by simp [hmode])
  have hstill : (view e.outside).effect = none := (h.effect (by simp [hmode])).trans heffect
  cases hplace : placeOf index options.length with
  | error f =>
    refine Ends.bind_iff.2 (Ends.ofExcept_iff.2 ⟨fun _ hok => ?_, fun _ _ => trivial⟩)
    rw [hplace] at hok
    cases hok
  | ok place =>
    have hoption := List.getElem?_eq_getElem (placeOf_lt hplace)
    refine Ends.mono (pick_leads (S := fun _ => True) (F := fun _ _ => True) hc hplace hoption
      heffect fun d _ => Ends.iff_perform.2 ⟨fun _ _ _ => trivial, ?_⟩) ?_ fun _ _ _ => trivial
    · rintro (error | m) _ - <;> trivial
    · rintro _ e' ⟨s, -, ha⟩
      have hfreed : ({ e with stage := s } : Engine σ).freed.Entrusts
          ([clearing].foldl Tasks.told (view e.outside)) :=
        .of_free (by simp [freed]) rfl rfl hstill rfl
      exact hfreed.aside ha

theorem takeOption_handsOver (hrest : e.AtRest fun _ => True) (h : e.Entrusts (view e.outside))
    (index : Value) : HandsOver view (takeOption c index) e := by
  refine Ends.bind_iff.2 (Ends.get_iff.2 ?_)
  cases hfilter : e.menu.filter fun _ => e.mode == .awaitingChoice with
  | none => exact note_handsOver h _ _
  | some options =>
    obtain ⟨-, hwaits⟩ := Option.filter_eq_some_iff.1 hfilter
    have hmode : e.mode = .awaitingChoice := by simpa using hwaits
    refine Ends.bind_iff.2 (Ends.outcome_iff.2 ?_)
    refine Ends.mono (pick_handsOver hc hrest hmode h options index) (fun _ _ h => h) ?_
    rintro (error | m) e₁ -
    · exact (fail_handsOver hc error e₁).bind fun _ _ h => h
    · exact trivial

/-- When all is loaded, what was entrusted before the engine plays on stays. -/
theorem loaded_handsOver (hmode : e.mode = .loading)
    (h : ({ e with mode := .normal } : Engine σ).Entrusts (view e.outside)) :
    HandsOver view (opening c .resourcesReady) e := by
  refine Ends.bind_iff.2 (Ends.get_iff.2 ?_)
  rw [hmode]
  exact (HandsOver.of_runs (setMode_runs hc .normal e).any h).bind fun _ _ h => h

/-- The opening of a call that neither loads nor reports the end of the effect. -/
theorem opening_handsOver (hrest : e.AtRest fun _ => True) (h : e.Entrusts (view e.outside))
    {call : HostCall} (hcall : call.loads = false) (hid : ∀ id, call ≠ .effectFinished id) :
    HandsOver view (call.opening c) e := by
  have hquiet : ∀ {act : Play σ Unit}, Tracks (KeepsTrust view) act →
      HandsOver view (do act; return false) e := fun hact =>
    .of_tracks (hact.bind fun _ => .pure) h
  cases call with
  | resourcesReady =>
    by_cases hmode : e.mode = .loading
    · have hgoes : e.mode ≠ .ended := by simp [hmode]
      exact loaded_handsOver hc hmode
        ⟨nofun, fun _ => h.effect hgoes, fun _ => h.choices hgoes, fun _ => h.number hgoes⟩
    · refine Ends.bind_iff.2 (Ends.get_iff.2 ?_)
      rw [if_pos (by simpa using hmode)]
      exact note_handsOver h _ _
  | step => exact h
  | advance => exact .of_tracks KeepsTrust.passLine h
  | requestAdvance =>
    refine Ends.bind_iff.2 (Ends.get_iff.2 ?_)
    cases e.showsLine with
    | false => exact h
    | true =>
      refine HandsOver.bind (.of_tracks (KeepsTrust.timing _) h) fun fired e₁ h₁ => ?_
      cases fired with
      | true => exact .of_tracks KeepsTrust.passLine h₁
      | false => exact (sendReveal_handsOver hc h₁).bind fun _ _ h => h
  | tick dt =>
    refine Ends.bind_iff.2 (Ends.get_iff.2 ?_)
    cases e.showsLine with
    | false => exact h
    | true =>
      refine HandsOver.bind (.of_tracks (KeepsTrust.timing _) h) fun fired e₁ h₁ => ?_
      refine (sendReveal_handsOver hc h₁).bind fun _ e₂ h₂ => ?_
      cases fired with
      | true => exact .of_tracks KeepsTrust.passLine h₂
      | false => exact h₂
  | choose index => exact takeOption_handsOver hc hrest h index
  | effectFinished id => exact absurd rfl (hid id)
  | reportResourceError message =>
    have hreport : HandsOver view (Engine.reportResourceError c message) e :=
      Ends.bind_iff.2 (Ends.get_iff.2 (fail_handsOver hc _ e))
    exact hreport.bind fun _ _ h => h
  | setFlag name value => exact hquiet (KeepsTrust.setFlag name value)
  | saveToSlot | quicksave | autosave => exact hquiet (saves_tracks KeepsTrust.incidental c rfl)
  | loadFromSlot | quickload | restore => cases hcall

theorem playOn_handsOver (h : e.Entrusts (view e.outside)) (go : Bool) :
    HandsOver view (playOn c go) e := by
  cases go with
  | true => exact (step_handsOver hc h).discard
  | false => exact h

end

/-! ### Loading -/

section
variable (hc : c.Tasked view)
include hc

/-- A renderer that is asked to prepare a scene drops all other tasks. -/
theorem enterLoading_handsOver (heffect : e.effect = none) (hmenu : e.menu = none) :
    HandsOver view (enterLoading c) e := by
  refine (setMode_runs hc.quiet .loading e).bind_ends fun _ e₁ h₁ => ?_
  refine Ends.bind_iff.2 (Ends.get_iff.2 ?_)
  refine (emit_runs hc.quiet _ e₁).bind_ends fun _ e₂ h₂ => ?_
  refine Ends.bind_iff.2 (Ends.get_iff.2 (Ends.mono (hc.prepare _ e₂) ?_ fun _ _ _ => trivial))
  rintro _ _ ⟨y, rfl, hview⟩
  obtain ⟨x, rfl, -⟩ := h₁.after h₂
  show Engine.Entrusts (view y.outside) _
  rw [hview]
  constructor <;> simp [within, Tasks.prepared, heffect, hmenu]

theorem restore_handsOver (t : Snapshot) : HandsOver view (Engine.restore c t) e := by
  refine restore_ends ((scriptOf_ends t e.stage).mono (fun _ _ h => h) fun _ _ _ => trivial)
    (fun _ _ _ _ _ => trivial) fun cursor s _ _ => ?_
  refine Ends.iff_perform.2 ⟨fun _ s' _ => ?_, fun _ _ _ => trivial⟩
  exact enterLoading_handsOver hc rfl rfl

theorem loadFrom_handsOver (h : e.Entrusts (view e.outside)) (read : Attempt Disk (Option Value)) :
    HandsOver view (loadFrom c read) e := by
  refine HandsOver.bind (.of_tracks (onDisk_tracks KeepsTrust.incidental _) h) fun data e₁ h₁ => ?_
  dsimp only
  split
  · exact h₁
  · refine HandsOver.bind (.of_tracks .ofMishap h₁) fun t e₂ _ => ?_
    exact (restore_handsOver hc t).bind fun _ _ h => h

omit hc in
theorem withStore_handsOver {k : SaveStore → Play σ Bool} (h : e.Entrusts (view e.outside))
    (hk : ∀ store e, e.Entrusts (view e.outside) → HandsOver view (k store) e) :
    HandsOver view (discard do
      match ← requireStore with
      | none => return false
      | some store => k store) e := by
  refine HandsOver.discard (HandsOver.bind (.of_tracks
    (requireStore_tracks KeepsTrust.incidental) h) fun saves e₁ h₁ => ?_)
  cases saves with
  | none => exact h₁
  | some store => exact hk store e₁ h₁

/-- Every call that does not report the end of the effect keeps it so that the tasks of the renderer
are those that the engine has set. -/
theorem run_handsOver (hrest : e.AtRest fun _ => True) (h : e.Entrusts (view e.outside))
    {call : HostCall} (hid : ∀ id, call ≠ .effectFinished id) : HandsOver view (call.run c) e := by
  cases hcall : call.loads with
  | false =>
    rw [← run_unprepared c hcall, run_eq]
    exact (opening_handsOver hc.quiet hrest h hcall hid).bind fun go _ h₁ =>
      playOn_handsOver hc.quiet h₁ go
  | true =>
    cases call with
    | loadFromSlot slot =>
      refine withStore_handsOver h fun store _ h₁ => ?_
      exact HandsOver.bind (.of_tracks .ofMishap h₁) fun _ _ h₂ => loadFrom_handsOver hc h₂ _
    | quickload => exact withStore_handsOver h fun store _ h₁ => loadFrom_handsOver hc h₁ _
    | restore t => exact restore_handsOver hc t
    | _ => cases hcall

theorem resourcesReady_handsOver (hmode : e.mode = .loading)
    (h : ({ e with mode := .normal } : Engine σ).Entrusts (view e.outside)) :
    HandsOver view (resourcesReady.run c) e := by
  rw [← run_unprepared c rfl, run_eq]
  exact (loaded_handsOver hc.quiet hmode h).bind fun go _ h₁ => playOn_handsOver hc.quiet h₁ go

/-- A report that nobody waits for. -/
theorem effectFinished_ignored (h : e.Entrusts (view e.outside)) (hmode : e.mode = .ended)
    (id : Value) : HandsOver view ((effectFinished id).run c) e := by
  have hfilter : (e.effect.filter fun i => e.mode == .effectRunning && isEffect id i) = none := by
    cases e.effect <;> simp [Option.filter, hmode]
  rw [← run_unprepared c rfl, run_eq]
  refine HandsOver.bind (Ends.bind_iff.2 (Ends.get_iff.2 ?_)) fun go _ h₁ =>
    playOn_handsOver hc.quiet h₁ go
  rw [hfilter]
  exact note_handsOver h _ _

/-- A renderer that has taken the effect off reports its end, and the engine takes it off. -/
theorem effectFinished_handsOver (hrest : e.AtRest fun _ => True) (hmode : e.mode = .effectRunning)
    {i : Intent} (hi : e.effect = some i) {id : Value} (hid : isEffect id i)
    (hstill : (view e.outside).effect = none) (hfree : (view e.outside).choices = []) :
    HandsOver view ((effectFinished id).run c) e := by
  have hmenu := hrest.fit.steady.menu_eq_none (by simp [hmode])
  rw [← run_unprepared c rfl, run_eq]
  refine HandsOver.bind (Ends.mono (endEffect_runs hc.quiet hi hmode hmenu hid) ?_ fun _ _ _ =>
    trivial) fun go _ h₁ => playOn_handsOver hc.quiet h₁ go
  rintro _ e' ⟨-, ha⟩
  have hleaving : (leaving i).foldl Tasks.told (view e.outside) = view e.outside := by
    unfold leaving
    split <;> rfl
  have hfreed : e.freed.completed.Entrusts ((leaving i).foldl Tasks.told (view e.outside)) := by
    rw [hleaving]
    exact .of_free (by simp [freed, completed, mapStage]) rfl rfl hstill hfree
  exact hfreed.aside ha

end

end

end HostCall

end VisualNovel
