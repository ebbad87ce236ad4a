import VisualNovel.Proofs.Lifecycle
import VisualNovel.Proofs.SafeWindow

/-!
# Runs of a session, as they show

With collaborators that do not call back, what shows over any run stands in order however its calls
end: changes of the mode form a path, the end of a session shows once and in one go, and so does an
error that can be shown. Once a session has ended, a call changes nothing of it unless the call
takes over a snapshot (`Chronicle.told_once`).
-/

namespace VisualNovel

open Script

variable {σ : Type}

/-! ## Sessions that have ended -/

/-- The session stands where it stood, and nothing shows of a change. -/
structure Stands (e e' : Engine σ) : Prop where
  mode : e'.mode = e.mode
  cursor : e'.cursor = e.cursor
  scene : e'.session.scene = e.session.scene
  error : e'.error = e.error
  outside : e'.outside = e.outside

namespace Stands

instance : IsPreorder (Engine σ) Stands where
  refl _ := ⟨rfl, rfl, rfl, rfl, rfl⟩
  trans _ _ _ h h' := ⟨h'.mode.trans h.mode, h'.cursor.trans h.cursor, h'.scene.trans h.scene,
    h'.error.trans h.error, h'.outside.trans h.outside⟩

theorem incidental : Incidental (Stands : Engine σ → Engine σ → Prop) where
  disk _ _ := ⟨rfl, rfl, rfl, rfl, rfl⟩
  saves _ _ := ⟨rfl, rfl, rfl, rfl, rfl⟩

end Stands

namespace HostCall

open Engine

/-- Carries out a call; whether it has taken over a snapshot. -/
def load (c : Collaborators σ) : HostCall → Play σ Bool
  | loadFromSlot slot => Engine.loadFromSlot c slot
  | quickload => Engine.quickload c
  | restore t => do
    Engine.restore c t
    return true
  | call => do
    call.run c
    return false

/-- A call does the same if it says whether it has loaded. -/
theorem run_eq_discard_load (c : Collaborators σ) (call : HostCall) :
    call.run c = discard (call.load c) := by
  cases call with
  | loadFromSlot | quickload => rfl
  | _ => simp [load, run, discard_eq]

/-- What cannot load has not loaded. -/
theorem load_of_not_loads {c : Collaborators σ} {call : HostCall} (h : call.loads = false) :
    call.load c = (do call.run c; return false) := by
  cases call with
  | loadFromSlot | quickload | restore => cases h
  | _ => rfl

/-- A call was stopped after it had taken over a snapshot: the timing of the text could not be set,
or the renderer failed to prepare the scene. -/
inductive Halted (c : Collaborators σ) (e' : Engine σ) : Fault → Prop where
  | timing {s : Stage} {m : Mishap} :
    Stage.retimeFromSession.perform s = (.error (.mishap m), e'.stage) → Halted c e' (.mishap m)
  | renderer {scene : Scene} {e : Engine σ} {f : Fault} :
    (c.prepare scene).perform e = (.error f, e') → Halted c e' f

section
variable {c : Collaborators σ} {e : Engine σ}

theorem stands_of_ignored {call : HostCall} (h : call.Ignored c e) :
    Stands e ((call.run c).perform e).2 := by
  rcases h with h | ⟨text, h⟩
  · rw [h]
    exact refl_of Stands e
  · rw [h]
    exact Stands.incidental.disk e _

theorem setFlag_stands (name value : Value) :
    Tracks Stands (Engine.setFlag name value : Play σ Unit) :=
  .bind .ofMishap fun _ => .bind .ofMishap fun _ => .modify fun _ => ⟨rfl, rfl, rfl, rfl, rfl⟩

/-- What does not load changes nothing of a session that has ended. -/
theorem run_stands (hended : e.mode = .ended) {call : HostCall} (hcall : call.loads = false) :
    Stands e ((call.run c).perform e).2 := by
  by_cases hmisplaced : call.misplaced e
  · exact stands_of_ignored (ignored_of_misplaced c hmisplaced)
  · cases call with
    | setFlag name value => exact setFlag_stands name value e
    | saveToSlot slot => exact (saveToSlot_tracks Stands.incidental slot).discard e
    | quicksave =>
      exact (withStore_tracks Stands.incidental fun _ =>
        saveTo_tracks Stands.incidental _).discard e
    | autosave => exact (saveToSlot_tracks Stands.incidental _).discard e
    | loadFromSlot | quickload | restore => cases hcall
    | _ => simp [misplaced, hended] at hmisplaced

/-- Only the renderer stops an engine that starts to load. -/
theorem enterLoading_halted (c : Collaborators σ) (e : Engine σ) :
    Ends (enterLoading c) e (fun _ _ => True) fun f e' => Halted c e' f := by
  refine Ends.iff_perform.2 ⟨fun _ _ _ => trivial, fun f e' hrun => ?_⟩
  obtain ⟨script, conversation, scene, hprepare⟩ := enterLoading_perform c e
  rw [hprepare] at hrun
  exact .renderer hrun

/-- A restore that is stopped has changed nothing, or it was stopped after all was taken over. -/
theorem restore_stands (c : Collaborators σ) (t : Snapshot) (e : Engine σ) :
    Ends (Engine.restore c t) e (fun _ _ => True) fun f e' => Stands e e' ∨ Halted c e' f := by
  have hfound : ∀ library, Stands e (stagePlace.set { e.stage with library } e) := fun _ =>
    ⟨rfl, rfl, rfl, rfl, rfl⟩
  refine restore_ends ((scriptOf_ends t e.stage).mono (fun _ _ h => h) ?_) ?_ ?_
  · rintro _ _ ⟨library, rfl⟩
    exact .inl (hfound library)
  · rintro script _ error ⟨library, rfl⟩ -
    exact .inl (hfound library)
  · intro cursor s _ _
    refine Ends.iff_perform.2 ⟨fun _ s' _ => ?_, fun f s' hrun => .inr ?_⟩
    · exact Ends.mono (enterLoading_halted c _) (fun _ _ h => h) fun _ _ h => .inr h
    · cases f with
      | story error =>
        exact ((Ends.iff_perform.1 (Stage.retimeFromSession_leads _)).2 _ _ hrun).elim
      | mishap m => exact .timing hrun

theorem loadFrom_stands (c : Collaborators σ) (read : Attempt Disk (Option Value)) (e : Engine σ) :
    Ends (loadFrom c read) e (fun loaded e' => loaded ∨ Stands e e')
      fun f e' => Stands e e' ∨ Halted c e' f := by
  refine Ends.bind_iff.2 (Ends.mono (Tracks.iff_ends.1 (onDisk_tracks Stands.incidental read) e) ?_
    fun _ _ h => .inl h)
  intro data e₁ h₁
  dsimp only
  split
  · exact .inr h₁
  · refine Ends.bind_iff.2 (Ends.ofMishap_iff.2 ⟨fun t _ => ?_, fun _ _ => .inl h₁⟩)
    refine Ends.bind_iff.2 (Ends.mono (restore_stands c t e₁) (fun _ _ _ => .inl rfl) ?_)
    intro f e' h
    exact h.imp_left fun h => trans_of Stands h₁ h

/-- Without a store nothing is loaded. -/
theorem withStore_stands {k : SaveStore → Play σ Bool}
    (hk : ∀ store e, Ends (k store) e (fun loaded e' => loaded ∨ Stands e e')
      fun f e' => Stands e e' ∨ Halted c e' f) (e : Engine σ) :
    Ends (do
      match ← requireStore with
      | none => return false
      | some store => k store) e (fun loaded e' => loaded ∨ Stands e e')
      fun f e' => Stands e e' ∨ Halted c e' f := by
  have hrequire := Tracks.iff_ends.1 (requireStore_tracks Stands.incidental) e
  refine Ends.bind_iff.2 (Ends.mono hrequire ?_ fun _ _ h => .inl h)
  intro saves e₁ h₁
  cases saves with
  | none => exact .inr h₁
  | some store =>
    exact Ends.mono (hk store e₁) (fun _ _ h => h.imp_right fun h => trans_of Stands h₁ h)
      fun _ _ h => h.imp_left fun h => trans_of Stands h₁ h

/-- Once a session has ended, a call takes over a snapshot or changes nothing of it. -/
theorem load_stands (c : Collaborators σ) (hended : e.mode = .ended) (call : HostCall) :
    Ends (call.load c) e (fun loaded e' => loaded ∨ Stands e e')
      fun f e' => Stands e e' ∨ call.loads ∧ Halted c e' f := by
  have hloads : ∀ {act : Play σ Bool}, call.loads = true →
      Ends act e (fun loaded e' => loaded ∨ Stands e e') (fun f e' => Stands e e' ∨ Halted c e' f) →
      Ends act e (fun loaded e' => loaded ∨ Stands e e')
        fun f e' => Stands e e' ∨ call.loads ∧ Halted c e' f := fun hcall h =>
    Ends.mono h (fun _ _ h => h) fun _ _ h => h.imp_right fun h => ⟨hcall, h⟩
  cases hcall : call.loads with
  | false =>
    rw [load_of_not_loads hcall]
    exact Ends.bind_iff.2 (Ends.mono (Ends.state_iff.2 (run_stands hended hcall))
      (fun _ _ h => .inr h) fun _ _ h => .inl h)
  | true =>
    rw [hcall] at hloads
    cases call with
    | loadFromSlot slot =>
      refine hloads rfl (withStore_stands (fun store e₁ => ?_) e)
      exact Ends.bind_iff.2 (Ends.ofMishap_iff.2 ⟨fun n _ => loadFrom_stands c _ e₁,
        fun _ _ => .inl (refl_of Stands e₁)⟩)
    | quickload => exact hloads rfl (withStore_stands (fun store e₁ => loadFrom_stands c _ e₁) e)
    | restore t =>
      exact hloads rfl (Ends.bind_iff.2 (Ends.mono (restore_stands c t e) (fun _ _ _ => .inl rfl)
        fun _ _ h => h))
    | _ => cases hcall

end

end HostCall

/-! ## Runs -/

/-- What shows between two states of an engine. -/
def shownBetween (seen : σ → List Notice) (e e' : Engine σ) : List Notice :=
  (seen e'.outside).drop (seen e.outside).length

/-- What shows of a call. -/
def HostCall.shown (c : Collaborators σ) (seen : σ → List Notice) (call : HostCall)
    (e : Engine σ) : List Notice :=
  shownBetween seen e ((call.run c).perform e).2

/-- What shows of a run that has led to an engine: it is set up and starts to load before anybody
can listen, a listener subscribes to everything, calls are made of it however they end, and its
surroundings change in between. -/
inductive Chronicle (c : Collaborators σ) (seen : σ → List Notice) (k : Nat) :
    Engine σ → List Notice → Prop where
  | start {setup : Engine.Setup} {outside : σ} {e : Engine σ} (x : Surroundings σ) :
    Engine.ofSetup setup outside = .ok e → Hears k x.bus →
    Chronicle c seen k (((Engine.enterLoading c).perform e).2.within x) []
  | call {e : Engine σ} {notices : List Notice} (call : HostCall) : Chronicle c seen k e notices →
    Chronicle c seen k ((call.run c).perform e).2 (notices ++ call.shown c seen e)
  | around {e : Engine σ} {notices : List Notice} (x : Surroundings σ) :
    Chronicle c seen k e notices → seen x.outside = seen e.outside → Hears k x.bus →
    Chronicle c seen k (e.within x) notices

/-- The collaborators never fail to show an error. -/
def Collaborators.ShowsErrors (c : Collaborators σ) : Prop :=
  ∀ text e, ∃ e', (c.showError text).perform e = (.ok (), e')

namespace Chronicle

variable {c : Collaborators σ} {seen : σ → List Notice} {k : Nat} {e : Engine σ}
  {notices : List Notice}

/-- What shows of a call is on course. -/
theorem shown_lives (hc : c.Reports seen k) (sure : Bool) (hsure : sure → c.ShowsErrors)
    (call : HostCall) (hk : Hears k e.bus) :
    Hears k ((call.run c).perform e).2.bus ∧
      Course.after sure (.on e.mode) (call.shown c seen e) =
        some (.on ((call.run c).perform e).2.mode) ∧
      Accounts call.loads e.error (call.shown c seen e) ((call.run c).perform e).2.error := by
  obtain ⟨hk', shown, hseen, hcourse, haccounts⟩ := Engine.run_lives hc hsure call e hk
  have hshown : call.shown c seen e = shown := by
    rw [HostCall.shown, shownBetween, hseen, List.drop_left]
  rw [hshown]
  exact ⟨hk', hcourse, haccounts⟩

/-- The notices of a run are on course from loading to the mode of its engine. -/
theorem on_course (hc : c.Reports seen k) (sure : Bool) (hsure : sure → c.ShowsErrors)
    (h : Chronicle c seen k e notices) :
    Hears k e.bus ∧ Course.after sure (.on .loading) notices = some (.on e.mode) := by
  induction h with
  | @start _ _ e x _ hk =>
    have hmode : (((Engine.enterLoading c).perform e).2.within x).mode = .loading :=
      Engine.enterLoading_mode hc e
    rw [hmode]
    exact ⟨hk, rfl⟩
  | call call _ ih =>
    obtain ⟨hk, hcourse⟩ := ih
    obtain ⟨hk', hcourse', -⟩ := shown_lives hc sure hsure call hk
    exact ⟨hk', Course.after_trans hcourse hcourse'⟩
  | around x _ _ hk ih => exact ⟨hk, ih.2⟩

/-- The life of a session shows in order. Changes of the mode form a path, and only a call that
loads starts to load. The end of the session shows in one go and at most once before the next
loading; so does an error, if errors can be shown, and it is the one that the engine keeps. Once the
session has ended, a call changes nothing of it unless it takes over a snapshot. -/
theorem told_once (hc : c.Reports seen k) (h : Chronicle c seen k e notices) :
    Mode.loading.Path (notices.filterMap Notice.change?) e.mode ∧ Notices.Closes notices ∧
      (c.ShowsErrors → Notices.Owns notices) ∧
      (∀ call : HostCall,
        Accounts call.loads e.error (call.shown c seen e) ((call.run c).perform e).2.error) ∧
      (e.mode = .ended → ∀ call : HostCall, call.run c = discard (call.load c) ∧
        Ends (call.load c) e (fun loaded e' => loaded ∨ Stands e e')
          fun f e' => Stands e e' ∨ call.loads ∧ HostCall.Halted c e' f) := by
  have hunsure : false = true → c.ShowsErrors := nofun
  obtain ⟨hk, hcourse⟩ := h.on_course hc false hunsure
  refine ⟨Course.after_path hcourse, Course.after_closes hcourse, ?_, ?_, ?_⟩
  · intro hshows
    exact Course.after_owns (h.on_course hc true fun _ => hshows).2
  · intro call
    exact (shown_lives hc false hunsure call hk).2.2
  · intro hended call
    exact ⟨call.run_eq_discard_load c, call.load_stands c hended⟩

end Chronicle

/-! ## A listener at work -/

/-- Collaborators that write down what shows, and do nothing else. -/
def Collaborators.chronicling : Collaborators (List Notice) where
  prepare _ := pure ()
  apply i := modify fun e => { e with outside := e.outside ++ (i.map .sent).toList }
  showError _ := pure ()
  deliver id event :=
    modify fun e => { e with outside := e.outside ++ if id = 0 then [.told event] else [] }
  systemCall _ := pure ()
  finished := modify fun e => { e with outside := e.outside ++ [.parted] }

theorem Collaborators.chronicling_reports : chronicling.Reports id 0 where
  prepare _ e := .refl e
  apply i e := ⟨{ e.surroundings with outside := e.outside ++ [.sent i] }, rfl, rfl, id⟩
  showError _ e := .refl e
  deliver l event e :=
    ⟨{ e.surroundings with outside := e.outside ++ if l = 0 then [.told event] else [] },
      rfl, rfl, id⟩
  systemCall _ e := .refl e
  finished e := ⟨{ e.surroundings with outside := e.outside ++ [.parted] }, rfl, rfl, id⟩

namespace Chronicle

/-- The surroundings of an engine that is listened to from now on. -/
def attended : Surroundings (List Notice) where
  disk := {}
  bus := Event.names.foldl (fun bus name => bus.subscribe name 0) {}
  saves := none
  now := ""
  outside := []

theorem hears_attended : Hears 0 attended.bus := by
  have hall : ∀ name ∈ Event.names, (attended.bus.listeners name).filter
      (fun s => s.listener = 0) = [.always 0] := by
    decide
  intro event
  refine hall event.name ?_
  cases event <;> simp [Event.name, Event.names]

/-- What shows of a row of calls is all that is written down. -/
theorem runAll {e : Engine (List Notice)} (h : Chronicle .chronicling id 0 e e.outside)
    (calls : List HostCall) : Chronicle .chronicling id 0
      (HostCall.runAll .chronicling calls e) (HostCall.runAll .chronicling calls e).outside := by
  induction calls generalizing e with
  | nil => exact h
  | cons call calls ih =>
    have hunsure : false = true → Collaborators.chronicling.ShowsErrors := nofun
    have hk := (h.on_course Collaborators.chronicling_reports false hunsure).1
    obtain ⟨-, shown, hseen, -⟩ :=
      Engine.run_lives Collaborators.chronicling_reports hunsure call e hk
    have hnext := h.call call
    rw [HostCall.shown, shownBetween, hseen, List.drop_left] at hnext
    have hall : ((call.run .chronicling).perform e).2.outside = e.outside ++ shown := hseen
    refine ih (e := ((call.run .chronicling).perform e).2) ?_
    rw [hall]
    exact hnext

/-- The engine of a story when calls were made that are listened to. -/
def heard (setup : Engine.Setup) (calls : List HostCall) : Option (Engine (List Notice)) :=
  (Engine.ofSetup setup []).toOption.map fun e => HostCall.runAll .chronicling calls
    (((Engine.enterLoading .chronicling).perform e).2.within attended)

theorem of_heard {setup : Engine.Setup} {calls : List HostCall} {e : Engine (List Notice)}
    (h : heard setup calls = some e) : Chronicle .chronicling id 0 e e.outside := by
  obtain ⟨e₀, he₀, rfl⟩ := Option.map_eq_some_iff.1 h
  exact runAll (.start attended (toOption_eq_some.1 he₀) hears_attended) calls

/-- A story is played to its end, restored and stopped by an error. -/
theorem told_once_fading : ∃ (e : Engine (List Notice)) (notices : List Notice),
    Chronicle .chronicling id 0 e notices ∧ e.mode = .ended ∧
    notices.filterMap Notice.change? = [(.loading, .normal), (.normal, .effectRunning),
      (.effectRunning, .normal), (.normal, .ended), (.ended, .loading), (.loading, .ended)] ∧
    notices.countP Notice.isEnd = 2 ∧ Notices.Closes notices ∧ Notices.Owns notices ∧
    Accounts false e.error (HostCall.advance.shown .chronicling id e)
      ((HostCall.advance.run .chronicling).perform e).2.error := by
  have hfacts : (heard Engine.fading [.resourcesReady, .effectFinished (.int 1), .advance,
      .restore {}, .reportResourceError (.text "lost")]).map (fun e =>
        (e.mode, e.outside.filterMap Notice.change?, e.outside.countP Notice.isEnd)) =
      some (.ended, [(.loading, .normal), (.normal, .effectRunning), (.effectRunning, .normal),
        (.normal, .ended), (.ended, .loading), (.loading, .ended)], 2) := by
    decide +kernel
  obtain ⟨e, he, hfacts⟩ := Option.map_eq_some_iff.1 hfacts
  simp only [Prod.mk.injEq] at hfacts
  obtain ⟨hmode, hchanges, hends⟩ := hfacts
  have hrun := of_heard he
  obtain ⟨-, hcloses, howns, haccounts, -⟩ := hrun.told_once Collaborators.chronicling_reports
  exact ⟨e, e.outside, hrun, hmode, hchanges, hends, hcloses, howns fun _ e => ⟨e, rfl⟩,
    haccounts .advance⟩

/-- A snapshot that cannot be taken over as a whole moves a session that has ended, and takes its
error away. -/
theorem ended_after_mishap : ∃ (e e' : Engine (List Notice)) (notices : List Notice) (m : Mishap),
    Chronicle .chronicling id 0 e notices ∧ e.mode = .ended ∧
    ((HostCall.restore Engine.overlong).load .chronicling).perform e = (.error (.mishap m), e') ∧
    e'.mode = .ended ∧ e'.cursor.index ≠ e.cursor.index ∧ e'.error ≠ e.error := by
  have hfacts : (heard Engine.fading [.resourcesReady, .effectFinished (.int 1),
      .reportResourceError (.text "lost")]).map (fun e =>
        let (r, e') := ((HostCall.restore Engine.overlong).load .chronicling).perform e
        (tame r, [e.mode, e'.mode], [e.cursor.index, e'.cursor.index],
          [e.error.isSome, e'.error.isSome])) =
      some (false, [.ended, .ended], [1, 0], [true, false]) := by
    decide +kernel
  obtain ⟨e, he, hfacts⟩ := Option.map_eq_some_iff.1 hfacts
  rcases hrun : ((HostCall.restore Engine.overlong).load .chronicling).perform e with ⟨r, e'⟩
  rw [hrun] at hfacts
  simp only [Prod.mk.injEq, List.cons.injEq, and_true] at hfacts
  obtain ⟨hmishap, ⟨hmode, hmode'⟩, ⟨hindex, hindex'⟩, herror, herror'⟩ := hfacts
  obtain ⟨m, rfl⟩ : ∃ m, r = .error (.mishap m) := by
    rcases r with (error | m) | _
    · cases hmishap
    · exact ⟨m, rfl⟩
    · cases hmishap
  refine ⟨e, e', e.outside, m, of_heard he, hmode, hrun, hmode', ?_, ?_⟩
  · rw [hindex, hindex']
    decide
  · intro hsame
    rw [hsame, herror] at herror'
    cases herror'

end Chronicle

end VisualNovel
