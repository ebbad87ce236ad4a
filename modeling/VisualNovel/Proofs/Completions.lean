import VisualNovel.Proofs.Callbacks

/-!
# Reports of effects

A report that an effect is done is taken at most once and for the last effect alone. It moves the
cursor on from the command of the effect. `Engine.Arises.completes_once` says so of every run.

That reports are taken once does not depend on what collaborators do. Where the cursor goes does: as
long as nobody calls back, an effect runs only while the cursor stands on its command
(`Engine.Grounded`). But a listener that makes a step when it hears that an effect is done has the
command executed again, before the cursor has moved on (`Engine.restless_loses_place`).
-/

namespace VisualNovel

open Script Sign

variable {σ α β : Type}

/-! ## The cursor stands on the effect -/

/-- An effect runs only after it was sent, while the engine waits for it at a command that lasts. -/
def Engine.Grounded (heard : σ → List Sign) (e : Engine σ) : Prop :=
  ∀ i, e.effect = some i → .sent i ∈ heard e.outside ∧ e.mode = .effectRunning ∧
    ∃ cmd, e.cursor.current = some (.command cmd) ∧ Command.Lasts cmd

/-- No effect was started. -/
def Stills (e e' : Engine σ) : Prop :=
  e.effect = none → e'.effect = none

/-- The effect was dropped, or the engine still waits for it in the same place. -/
def Rests (heard : σ → List Sign) (e e' : Engine σ) : Prop :=
  e'.effect = none ∨ e'.effect = e.effect ∧ e'.mode = e.mode ∧ e'.cursor = e.cursor ∧
    heard e.outside ⊆ heard e'.outside

/-- The cursor still stands on the effect. -/
def Grounds (heard : σ → List Sign) (e e' : Engine σ) : Prop :=
  e.Grounded heard → e'.Grounded heard

/-- Only the surroundings have changed, and nothing was forgotten. -/
def Aloof (heard : σ → List Sign) (e e' : Engine σ) : Prop :=
  ∃ x, e' = e.within x ∧ heard e.outside ⊆ heard x.outside

/-- However the action ends, the cursor stands on the effect if there is one. -/
def Lands (heard : σ → List Sign) (act : Play σ α) (e : Engine σ) : Prop :=
  Ends act e (fun _ e' => e'.Grounded heard) fun _ e' => e'.Grounded heard

section
variable {heard : σ → List Sign} {e e₁ e' : Engine σ}

theorem Engine.grounded_of_none (h : e.effect = none) : e.Grounded heard := by
  intro i hi
  rw [h] at hi
  cases hi

instance : IsPreorder (Engine σ) Stills where
  refl _ := id
  trans _ _ _ h h' hnone := h' (h hnone)

instance : IsPreorder (Engine σ) (Grounds heard) where
  refl _ := id
  trans _ _ _ h h' hgrounded := h' (h hgrounded)

instance : IsPreorder (Engine σ) (Aloof heard) where
  refl e := ⟨e.surroundings, rfl, List.Subset.refl _⟩
  trans := by
    rintro e _ _ ⟨x, rfl, hx⟩ ⟨y, rfl, hy⟩
    exact ⟨y, rfl, List.Subset.trans hx hy⟩

theorem Rests.of_same (heffect : e'.effect = e.effect) (hmode : e'.mode = e.mode)
    (hcursor : e'.cursor = e.cursor) (hout : heard e'.outside = heard e.outside) :
    Rests heard e e' :=
  .inr ⟨heffect, hmode, hcursor, hout ▸ List.Subset.refl _⟩

instance : IsPreorder (Engine σ) (Rests heard) where
  refl _ := .of_same rfl rfl rfl rfl
  trans e e₁ e' h h' := by
    rcases h' with hnone | ⟨heffect', hmode', hcursor', hheard'⟩
    · exact .inl hnone
    · rcases h with hnone | ⟨heffect, hmode, hcursor, hheard⟩
      · exact .inl (heffect'.trans hnone)
      · exact .inr ⟨heffect'.trans heffect, hmode'.trans hmode, hcursor'.trans hcursor,
          List.Subset.trans hheard hheard'⟩

theorem Stills.lenient : Lenient (Stills : Engine σ → Engine σ → Prop) where
  disk _ _ := id
  bus _ _ := id
  saves _ _ := id
  stage _ _ := id
  mode _ _ := id
  awaiting _ _ := id
  cleared _ := id
  menu _ _ := id
  backlog _ _ := id
  dropped _ _ := rfl

theorem Rests.unconcerned : Unconcerned (Rests heard) where
  disk _ _ := .of_same rfl rfl rfl rfl
  bus _ _ := .of_same rfl rfl rfl rfl
  saves _ _ := .of_same rfl rfl rfl rfl

theorem Rests.incidental : Incidental (Rests heard) :=
  Rests.unconcerned.toIncidental

theorem Rests.grounds (h : Rests heard e e') : Grounds heard e e' := by
  rcases h with hnone | ⟨heffect, hmode, hcursor, hheard⟩
  · exact fun _ => Engine.grounded_of_none hnone
  · intro hgrounded i hi
    obtain ⟨hsent, hwaits⟩ := hgrounded i (heffect.symm.trans hi)
    rw [hmode, hcursor]
    exact ⟨hheard hsent, hwaits⟩

namespace Aloof

theorem unconcerned : Unconcerned (Aloof heard) where
  disk e d := ⟨{ e.surroundings with disk := d }, rfl, List.Subset.refl _⟩
  bus e bus := ⟨{ e.surroundings with bus }, rfl, List.Subset.refl _⟩
  saves e saves := ⟨{ e.surroundings with saves }, rfl, List.Subset.refl _⟩

theorem of_around (h : Around heard e e') : Aloof heard e e' := by
  obtain ⟨x, rfl, hx⟩ := h
  exact ⟨x, rfl, hx ▸ List.Subset.refl _⟩

/-- Writing down a sign is no more than a change of the surroundings. -/
theorem of_written {x : Surroundings σ} {signs : List Sign}
    (hx : heard x.outside = heard e.outside ++ signs) : Aloof heard e (e.within x) :=
  ⟨x, rfl, hx ▸ List.subset_append_left _ _⟩

theorem stills (h : Aloof heard e e') : Stills e e' := by
  obtain ⟨x, rfl, -⟩ := h
  exact id

theorem rests (h : Aloof heard e e') : Rests heard e e' := by
  obtain ⟨x, rfl, hx⟩ := h
  exact .inr ⟨rfl, rfl, rfl, hx⟩

theorem cursor_eq (h : Aloof heard e e') : e'.cursor = e.cursor := by
  obtain ⟨x, rfl, -⟩ := h
  rfl

end Aloof

namespace Lands

theorem of_stills {act : Play σ α} (h : Tracks Stills act) (hnone : e.effect = none) :
    Lands heard act e :=
  Ends.state_iff.2 (Engine.grounded_of_none (h e hnone))

theorem of_grounds {act : Play σ α} (h : Tracks (Grounds heard) act) (he : e.Grounded heard) :
    Lands heard act e :=
  Ends.state_iff.2 (h e he)

protected theorem bind {x : Play σ α} {k : α → Play σ β} (hx : Lands heard x e)
    (hk : ∀ a, Tracks (Grounds heard) (k a)) : Lands heard (x >>= k) e :=
  Ends.bind_iff.2 (hx.mono (fun a _ h => of_grounds (hk a) h) fun _ _ h => h)

end Lands

end

section
variable {c : Collaborators σ} {heard : σ → List Sign} (hc : c.Answers heard (Around heard))
include hc

namespace Collaborators.Answers

/-- Collaborators that do not call back keep aloof. -/
theorem aloof : c.Track (Aloof heard) where
  prepare scene e := by
    obtain ⟨x, hx, haround⟩ := hc.prepare scene e
    exact trans_of _ (Aloof.of_written hx) (.of_around haround)
  apply i _ e := by
    obtain ⟨x, hx, haround⟩ := hc.apply i e
    exact trans_of _ (Aloof.of_written hx) (.of_around haround)
  applyNothing := hc.applyNothing.mono Aloof.of_around
  showError text := (hc.showError text).mono Aloof.of_around
  deliver id event := (hc.deliver id event).mono Aloof.of_around
  systemCall args := (hc.systemCall args).mono Aloof.of_around
  finished := hc.finished.mono Aloof.of_around

theorem stills : c.Track Stills :=
  hc.aloof.mono Aloof.stills

end Collaborators.Answers

namespace Engine

/-! ## Waiting for an effect -/

theorem finish_rests : Tracks (Rests heard) (finish c) := by
  intro e
  cases hfinished : e.finished with
  | true =>
    have hrun : (finish c).perform e = (.ok (), e) := by
      rw [finish, Action.perform_get_bind, hfinished]
      rfl
    rw [hrun]
    exact refl_of _ e
  | false =>
    -- The effect is dropped first, so it does not matter whether there was one.
    have hrun : (finish c).perform e = (finish c).perform { e with effect := none } := by
      have hfinished' : ({ e with effect := none } : Engine σ).finished = false := hfinished
      rw [finish, Action.perform_get_bind, Action.perform_get_bind, hfinished, hfinished']
      rfl
    rw [hrun]
    exact .inl (finish_tracks Stills.lenient hc.stills _ rfl)

theorem fail_rests (error : StoryError) : Tracks (Rests heard) (fail c error) := by
  have hrests : c.Track (Rests heard) := hc.aloof.mono Aloof.rests
  exact fail_tracks_of Rests.unconcerned.unheard hrests.deliver hrests.showError
    (fun _ _ => .of_same rfl rfl rfl rfl) (finish_rests hc) error

theorem restore_rests (t : Snapshot) : Tracks (Rests heard) (restore c t) := by
  have hrest : Tracks Stills (do
      modify (mapStage (Stage.mapTimedText TimedText.endLine))
      onStage Stage.retimeFromSession
      enterLoading c) :=
    .bind (.modify fun e => id) fun _ => (onStage_tracks Stills.lenient.toEasy _).bind fun _ =>
      enterLoading_tracks Stills.lenient hc.stills
  have hscript : Tracks (Rests heard) (onStage (scriptOf t) : Play σ Script) := by
    refine (Tracks.iff_ends.2 (scriptOf_ends t)).onPart_of ?_
    rintro e _ ⟨library, rfl⟩
    exact .of_same rfl rfl rfl rfl
  refine hscript.bind fun script => .bind .ofStory fun cursor e => ?_
  -- The session is replaced and the effect dropped before anything can fail.
  exact .inl (hrest _ rfl)

theorem loadFrom_rests (read : Attempt Disk (Option Value)) :
    Tracks (Rests heard) (loadFrom c read) := by
  refine (onDisk_tracks Rests.incidental _).bind fun data => ?_
  dsimp only
  split
  · exact .pure
  · exact .bind .ofMishap fun t => (restore_rests hc t).bind fun _ => .pure

/-! ## Starting an effect -/

theorem setMode_aloof (mode : Mode) (e : Engine σ) :
    Ends (setMode c mode) e (fun _ e' => Aloof heard { e with mode } e') fun _ _ => False :=
  setMode_tracks_from Aloof.unconcerned.unheard hc.aloof.deliver mode e

/-- The effect is sent while the engine waits for it. -/
theorem applyEffect_lands {e : Engine σ} {i : Intent} {cmd : Script.Command}
    (heffect : e.effect = some i) (hmode : e.mode = .effectRunning)
    (hcurrent : e.cursor.current = some (.command cmd)) (hlasts : Command.Lasts cmd) :
    Lands heard (c.apply (some i)) e := by
  obtain ⟨x, hx, y, hy, hheard⟩ := hc.apply i e
  have hsent : .sent i ∈ heard y.outside := by
    rw [hheard]
    show .sent i ∈ heard x.outside
    simp [hx]
  refine Ends.state_iff.2 ?_
  rw [hy]
  intro j hj
  obtain rfl : i = j := Option.some.inj (heffect.symm.trans hj)
  exact ⟨hsent, hmode, cmd, hcurrent, hlasts⟩

theorem hold_lands {e : Engine σ} {cmd : Script.Command}
    (hcurrent : e.cursor.current = some (.command cmd)) (hlasts : Command.Lasts cmd)
    (kind : IntentKind) (payload : Table String Value) : Lands heard (hold c kind payload) e := by
  refine Ends.bind_iff.2 (Ends.modify_iff.2 (Ends.bind_iff.2 ?_))
  refine (setMode_aloof hc .effectRunning _).mono ?_ fun _ _ h => h.elim
  rintro _ _ ⟨x, rfl, -⟩
  exact Ends.bind_iff.2 (Ends.get_iff.2 (applyEffect_lands hc rfl rfl hcurrent hlasts))

theorem settle_lands {cmd : Script.Command} {s : Stage} {o : Outcome} {e : Engine σ}
    (ho : o.Orderly cmd s e.stage) (hcurrent : s.session.cursor.current = some (.command cmd))
    (hnone : e.effect = none) : Lands heard (settle c o) e := by
  cases o with
  | proceed intents =>
    have hsends : Tracks Stills (intents.forM fun i => c.apply (some i)) :=
      .forM fun i hi => hc.stills.apply i (Prompt.effectId ho i hi)
    exact .of_stills (hsends.bind fun _ => completeBeat_tracks Stills.lenient.toEasy) hnone
  | stay => exact .of_stills .pure hnone
  | hold kind payload =>
    obtain ⟨-, hlasts, hcursor⟩ := ho
    have hstands : e.cursor.current = some (.command cmd) := by
      rw [← hcurrent, ← hcursor]
      rfl
    exact hold_lands hc hstands hlasts kind payload
  | ask options line => exact .of_stills (present_tracks Stills.lenient hc.stills _ _) hnone
  | call args =>
    have hcall := (hc.stills.systemCall args).bind fun _ =>
      completeBeat_tracks Stills.lenient.toEasy
    exact .of_stills hcall hnone

theorem execute_lands {e : Engine σ} {cmd : Script.Command}
    (hcurrent : e.cursor.current = some (.command cmd)) (hnone : e.effect = none) :
    Lands heard (execute c cmd) e := by
  unfold execute
  cases Command.wellFormed cmd with
  | false => exact grounded_of_none hnone
  | true =>
    have hemit := Tracks.iff_ends.1 (emit_tracks Aloof.unconcerned.unheard hc.aloof.deliver
      (.commandRun cmd.kind.keyword cmd.args cmd.line)) e
    refine Ends.bind_iff.2 (hemit.mono ?_ ?_)
    · rintro _ _ ⟨x, rfl, -⟩
      refine Ends.bind_iff.2 (Ends.onPart_iff.2 ?_)
      exact (Command.perform_orderly cmd _).mono
        (fun _ _ ho => settle_lands hc ho hcurrent hnone) fun _ _ _ => grounded_of_none hnone
    · rintro _ _ ⟨x, rfl, -⟩
      exact grounded_of_none hnone

/-- While beats are played, an effect stops them at its command. -/
theorem playBeats_grounds (turns budget : Nat) :
    Tracks (Grounds heard) (playBeats c turns budget) := by
  have hR : Lenient (Stills : Engine σ → Engine σ → Prop) := Stills.lenient
  fun_induction playBeats c turns budget with
  | case1 => exact .pure
  | case2 turns budget ih₁ ih₂ =>
    refine .get_bind fun e => ?_
    split
    · exact refl_of _ e
    · next hruns =>
      intro hgrounded
      -- The engine plays on, so it does not wait for an effect.
      have hmode : e.mode = .normal := by
        cases hmode : e.mode <;> simp_all [running]
      have hnone : e.effect = none := by
        cases heffect : e.effect with
        | none => rfl
        | some i => cases hmode.symm.trans (hgrounded i heffect).2.1
      refine Ends.state_iff.1 ?_
      cases hcurrent : e.cursor.current with
      | none => exact Lands.of_stills (finish_tracks hR hc.stills) hnone
      | some beat =>
        cases beat with
        | dialogue d =>
          exact (Lands.of_stills (display_tracks hR hc.stills _ _ _) hnone).bind fun _ => ih₁
        | command cmd =>
          cases budget with
          | zero => exact hgrounded
          | succ budget => exact (execute_lands hc hcurrent hnone).bind fun _ => ih₂ budget

theorem step_grounds : Tracks (Grounds heard) (step c) := by
  refine step_tracks (refl_of _) fun e _ _ hgrounded => ?_
  have hplay : Tracks (Grounds heard) (orFail c (playBeats c turnsPerStep commandBudget)) :=
    orFail_tracks (fun error => (fail_rests hc error).mono Rests.grounds) (playBeats_grounds hc _ _)
  exact hplay { e with stepping := true } hgrounded

end Engine

namespace HostCall

open Engine

theorem playOn_grounds (go : Bool) : Tracks (Grounds heard) (playOn c go) := by
  cases go with
  | true => exact (step_grounds hc).discard
  | false => exact .pure

theorem run_grounds (call : HostCall) : Tracks (Grounds heard) (call.run c) := by
  intro e hgrounded
  have hrests : ∀ {α : Type} {act : Play σ α}, Tracks (Rests heard) act →
      (act.perform e).2.Grounded heard := fun hact => (hact e).grounds hgrounded
  have hplain : ∀ {α : Type} {act : Play σ α}, Tracks (Rests heard) act →
      ((discard act).perform e).2.Grounded heard := fun hact => hrests hact.discard
  by_cases hmisplaced : call.misplaced e
  · rcases ignored_of_misplaced c hmisplaced with hrun | ⟨text, hrun⟩
    · rw [hrun]
      exact hgrounded
    · rw [hrun]
      exact hgrounded
  · -- While an effect is running, a call leaves the engine waiting or drops the effect.
    cases heffect : e.effect with
    | none =>
      rw [run_eq]
      refine Ends.state_iff.1 (Lands.bind (.of_stills ?_ heffect) (playOn_grounds hc))
      exact opening_tracks Stills.lenient hc.stills
        (fail_tracks Stills.lenient hc.stills fun _ _ => id) call
    | some i =>
      have hmode := (hgrounded i heffect).2.1
      cases call with
      | effectFinished id =>
        have hid : isEffect id i := by simpa [misplaced, hmode, heffect] using hmisplaced
        have hopening : ((effectFinished id).opening c).perform e =
            (leaveEffect c i).perform { e with effect := none } :=
          endEffect_accepted (by simp [heffect, hmode, hid])
        rw [run_eq, Action.perform_bind_congr hopening]
        refine Ends.state_iff.1 (Lands.bind (.of_stills ?_ rfl) (playOn_grounds hc))
        exact leaveEffect_tracks Stills.lenient hc.stills i
      | reportResourceError message =>
        exact hrests (.get_bind fun e => fail_rests hc _ e)
      | setFlag name value =>
        exact hrests (.bind .ofMishap fun _ => .bind .ofMishap fun _ =>
          .modify fun e => .of_same rfl rfl rfl rfl)
      | saveToSlot slot => exact hplain (saveToSlot_tracks Rests.incidental slot)
      | loadFromSlot slot =>
        exact hplain (withStore_tracks Rests.incidental fun _ => .bind .ofMishap fun _ =>
          loadFrom_rests hc _)
      | quicksave =>
        exact hplain (withStore_tracks Rests.incidental fun _ => saveTo_tracks Rests.incidental _)
      | quickload =>
        exact hplain (withStore_tracks Rests.incidental fun _ => loadFrom_rests hc _)
      | autosave => exact hplain (saveToSlot_tracks Rests.incidental _)
      | restore t => exact hrests (restore_rests hc t)
      | _ => simp [misplaced, hmode] at hmisplaced

end HostCall

theorem Meddles.grounded {e e' : Engine σ} (he : e.Grounded heard) (h : Meddles c heard e e') :
    e'.Grounded heard := by
  induction h with
  | refl => exact he
  | around _ haround ih => exact (Aloof.of_around haround).rests.grounds ih
  | call call x _ hx ih => exact call.run_grounds hc _ ((Aloof.of_written hx).rests.grounds ih)

/-- In any run without calls back an effect is running only at its command. -/
theorem Engine.Arises.grounded {e : Engine σ} (h : e.Arises c heard) : e.Grounded heard := by
  obtain ⟨setup, outside, e₀, hsetup, -, hmeddles⟩ := h
  obtain ⟨stage, -, heq⟩ := bind_eq_ok.1 hsetup
  cases heq
  refine hmeddles.grounded hc (grounded_of_none ?_)
  exact enterLoading_tracks Stills.lenient hc.stills _ rfl

/-! ## Taking a report -/

theorem Engine.leaveEffect_cursor (effect : Intent) (e : Engine σ) :
    Ends (leaveEffect c effect) e (fun _ e' => e'.cursor = e.cursor.advance) fun _ _ => True := by
  have hrest : ∀ e₁ : Engine σ, e₁.cursor = e.cursor → Ends (do
      modify (mapSession Session.release)
      setMode c .normal
      completeBeat
      return true) e₁ (fun _ e' => e'.cursor = e.cursor.advance) fun _ _ => True := by
    intro e₁ h₁
    refine Ends.bind_iff.2 (Ends.modify_iff.2 (Ends.bind_iff.2 ?_))
    refine (setMode_aloof hc .normal _).mono ?_ fun _ _ h => h.elim
    rintro _ _ ⟨x, rfl, -⟩
    exact congrArg Cursor.advance h₁
  unfold leaveEffect
  split
  · have hsend := Tracks.iff_ends.1 (send_tracks hc.aloof .fadeEnd
      [("direction", effect.get "direction")]) e
    exact Ends.bind_iff.2 (hsend.mono (fun _ e₁ h => hrest e₁ h.cursor_eq) fun _ _ _ => trivial)
  · exact hrest e rfl

end

namespace Collaborators

theorem listening_answers {R : Engine (List Sign) → Engine (List Sign) → Prop}
    (hrefl : ∀ e, R e e) : listening.Answers id R where
  prepare _ e := ⟨{ e.surroundings with outside := e.outside ++ [.prepared] }, rfl, hrefl _⟩
  apply i e := ⟨{ e.surroundings with outside := e.outside ++ [.sent i] }, rfl, hrefl _⟩
  applyNothing e := by
    have hrun : ((listening.apply none).perform e).2 = { e with outside := e.outside ++ [] } := rfl
    rw [hrun, List.append_nil]
    exact hrefl e
  showError _ := hrefl
  deliver _ _ := hrefl
  systemCall _ := hrefl
  finished := hrefl

theorem listening_callsBack : CallsBack id listening :=
  .never (listening_answers fun e => ⟨e.surroundings, rfl, rfl⟩)

end Collaborators

namespace Engine

/-- Makes calls of an engine one after another; a report that is taken is written down first. -/
def visited (c : Collaborators (List Sign)) :
    List HostCall → Engine (List Sign) → Engine (List Sign)
  | [], e => e
  | call :: calls, e =>
    visited c calls ((call.run c).perform { e with outside := e.outside ++ call.accepted e }).2

theorem meddles_visited {c : Collaborators (List Sign)} {e₀ e : Engine (List Sign)}
    (calls : List HostCall) (h : Meddles c id e₀ e) : Meddles c id e₀ (visited c calls e) := by
  induction calls generalizing e with
  | nil => exact h
  | cons call calls ih =>
    exact ih (.call call { e.surroundings with outside := e.outside ++ call.accepted e } h rfl)

/-- A report ends the effect first, and plays on if there was one. -/
theorem effectFinished_eq (c : Collaborators σ) (id : Value) :
    effectFinished c id = HostCall.endEffect c id >>= fun taken =>
      if taken then (do discard (step c); return true) else return false := by
  simp only [effectFinished, HostCall.endEffect, bind_assoc]
  congr 1
  funext e
  cases e.effect.filter fun i => e.mode == .effectRunning && isEffect id i with
  | none => simp
  | some effect =>
    by_cases hfade : effect.kind = .fadeBegin
    · simp [hfade]
    · simp [hfade]

/-- A report was taken, so the engine was waiting for it. -/
theorem effectFinished_taken {c : Collaborators σ} {id : Value} {e e' : Engine σ}
    (h : (effectFinished c id).perform e = (.ok true, e')) :
    ∃ effect e₁, (e.effect.filter fun i => e.mode == .effectRunning && isEffect id i) =
        some effect ∧
      (HostCall.endEffect c id).perform e = (.ok true, e₁) ∧
      (discard (step c)).perform e₁ = (.ok (), e') := by
  rw [effectFinished_eq] at h
  cases hfilter : e.effect.filter fun i => e.mode == .effectRunning && isEffect id i with
  | none =>
    have hend : (HostCall.endEffect c id).perform e = (.ok false, e.mapStage (Stage.note .warning
        s!"stale effect_finished({id.shown}) in mode {e.mode.name}")) := by
      rw [HostCall.endEffect, Action.perform_get_bind, hfilter]
      rfl
    rw [Action.perform_bind_ok hend] at h
    cases h
  | some effect =>
    rcases hend : (HostCall.endEffect c id).perform e with ⟨f | taken, e₁⟩
    · rw [Action.perform_bind_error hend] at h
      cases h
    · rw [Action.perform_bind_ok hend] at h
      cases taken with
      | false => cases h
      | true =>
        rcases hstep : (discard (step c)).perform e₁ with ⟨f | ⟨⟩, e₂⟩
        · have hrun := Action.perform_bind_error (f := fun _ => (pure true : Play σ Bool)) hstep
          cases hrun.symm.trans h
        · have hrun := Action.perform_bind_ok (f := fun _ => (pure true : Play σ Bool)) hstep
          cases hrun.symm.trans h
          exact ⟨effect, e₁, rfl, rfl, hstep⟩

/-- The report of an effect moves the cursor on from the command of the effect by one beat, and the
story is played on from there. -/
def MovesOn (c : Collaborators σ) (id : Value) (e e' : Engine σ) : Prop :=
  ∃ cmd e₁, e.cursor.current = some (.command cmd) ∧ Command.Lasts cmd ∧
    (HostCall.endEffect c id).perform e = (.ok true, e₁) ∧
    e₁.cursor =
      { e.cursor with index := e.cursor.index + 1, completed := e.cursor.completed + 1 } ∧
    (discard (step c)).perform e₁ = (.ok (), e')

/-- What is known of effects and their reports when a run has led to an engine. -/
structure CompletesOnce (c : Collaborators σ) (heard : σ → List Sign) (e : Engine σ) : Prop where
  /-- The identities of effects go up, and reports are taken for the last one, once. -/
  tallied : Tallied (heard e.outside)
  /-- A report is taken only for the effect that is running, the last one that was started. -/
  taken : ∀ {id e'}, (effectFinished c id).perform e = (.ok true, e') →
    (HostCall.effectFinished id).accepted e = [.finished id] ∧ e.mode = .effectRunning ∧
      (∃ i, e.effect = some i ∧ i.effectId = some (.int e.effectCount)) ∧
      (Value.int e.effectCount).equal id ∧
      ∀ k : Nat, .int k ∈ issued (heard e.outside) → k ≤ e.effectCount
  /-- If nobody calls back, the effect was sent, and its report moves the cursor on. -/
  movesOn : c.Answers heard (Around heard) → ∀ {id e'},
    (effectFinished c id).perform e = (.ok true, e') →
      .int e.effectCount ∈ issued (heard e.outside) ∧ e.MovesOn c id e'
  /-- After a restoration no report is taken for an effect that was sent before. -/
  restored : ∀ {e₁ e₂}, Restored c e e₁ → Meddles c heard e₁ e₂ →
    ∃ later, heard e₂.outside = heard e.outside ++ later ∧
      ∀ (k : Nat) (id : Value), .int k ∈ issued (heard e.outside) → .finished id ∈ later →
        ¬(Value.int k).equal id

theorem later_of_restored {c : Collaborators σ} {heard : σ → List Sign} (hc : CallsBack heard c)
    {e e₁ e₂ : Engine σ} (hrestored : Restored c e e₁) (hmeddles : Meddles c heard e₁ e₂) :
    ∃ later, heard e₂.outside = heard e.outside ++ later ∧
      ∀ (k : Nat) (id : Value), k ≤ e.effectCount → .finished id ∈ later →
        ¬(Value.int k).equal id := by
  obtain ⟨s₁, hdropped⟩ := hrestored.drops hc.visits
  obtain ⟨s₂, hkept, -⟩ := (hmeddles.visits hc.visits).2 s₁ hdropped.numbered
  obtain ⟨later, hheard, hover, -⟩ := hdropped.trans hkept
  exact ⟨later, hheard, fun k id hk hid => hover.not_finished hk hid⟩

/-- Each effect is completed at most once and only by its own identity, over any run and however
collaborators call back. -/
theorem Arises.completes_once {c : Collaborators σ} {heard : σ → List Sign} (hc : CallsBack heard c)
    {e : Engine σ} (h : e.Arises c heard) : e.CompletesOnce c heard := by
  obtain ⟨s, hfollows, hnumbered⟩ := h.follows hc.visits
  have hlast : ∀ k : Nat, .int k ∈ issued (heard e.outside) → k ≤ e.effectCount := fun k hk =>
    (hfollows.of_mem_issued hk).1
  constructor
  case tallied => exact hfollows.tallied
  case taken =>
    intro id e' hrun
    obtain ⟨effect, -, hfilter, -⟩ := effectFinished_taken hrun
    obtain ⟨heffect, hwaits⟩ := Option.filter_eq_some_iff.1 hfilter
    rw [Bool.and_eq_true] at hwaits
    have hnumber := (hnumbered effect heffect).1
    have hequal : (Value.int e.effectCount).equal id := by
      simpa [isEffect, hnumber] using hwaits.2
    refine ⟨by simp [HostCall.accepted, hfilter], by simpa using hwaits.1, ?_, hequal, hlast⟩
    exact ⟨effect, heffect, hnumber⟩
  case movesOn =>
    intro hquiet id e' hrun
    obtain ⟨effect, e₁, hfilter, hend, hstep⟩ := effectFinished_taken hrun
    have heffect := (Option.filter_eq_some_iff.1 hfilter).1
    obtain ⟨hsent, -, cmd, hcurrent, hlasts⟩ := h.grounded hquiet effect heffect
    have hissued := mem_issued hsent (hnumbered effect heffect).1
    have hcursor := (Ends.iff_perform.1 (leaveEffect_cursor hquiet effect _)).1 true e₁
      ((HostCall.endEffect_accepted hfilter).symm.trans hend)
    refine ⟨hissued, cmd, e₁, hcurrent, hlasts, hend, ?_, hstep⟩
    rw [hcursor]
    exact Cursor.advance_of_current hcurrent
  case restored =>
    intro e₁ e₂ hrestored hmeddles
    obtain ⟨later, hheard, hlater⟩ := later_of_restored hc hrestored hmeddles
    exact ⟨later, hheard, fun k id hk => hlater k id (hlast k hk)⟩

/-- A fade is restored while it is running. The report for the first fade is refused, and the one
for the second is taken and moves the cursor on. -/
theorem Arises.completes_once_fading : ∃ e e' : Engine (List Sign),
    CallsBack id .listening ∧ e.Arises .listening id ∧ (issued e.outside).length = 2 ∧
    ((effectFinished .listening (.int 1)).perform e).1 = .ok false ∧
    (effectFinished .listening (.int 2)).perform e = (.ok true, e') ∧
    e.MovesOn .listening (.int 2) e' ∧ e.CompletesOnce .listening id := by
  let loaded (e : Engine (List Sign)) := ((enterLoading .listening).perform e).2
  let again (e : Engine (List Sign)) := visited .listening
    [.resourcesReady, .restore e.session.persistent, .resourcesReady] (loaded e)
  let answer (n : Int) (e : Engine (List Sign)) := (effectFinished .listening (.int n)).perform e
  have hfacts : (ofSetup fading []).toOption.map (fun e => ((issued (again e).outside).length,
      (answer 1 (again e)).1.toOption, (answer 2 (again e)).1.toOption)) =
        some (2, some false, some true) := by
    decide +kernel
  obtain ⟨e, he, hanswers⟩ := Option.map_eq_some_iff.1 hfacts
  simp only [Prod.mk.injEq] at hanswers
  obtain ⟨hissued, hrefused, htaken⟩ := hanswers
  have harises : (again e).Arises .listening id :=
    ⟨fading, [], e, toOption_eq_some.1 he, rfl, meddles_visited _ .refl⟩
  have hcompletes := harises.completes_once Collaborators.listening_callsBack
  have hrun : answer 2 (again e) = (.ok true, (answer 2 (again e)).2) :=
    Prod.ext (toOption_eq_some.1 htaken) rfl
  have hquiet : Collaborators.listening.Answers id (Around id) :=
    Collaborators.listening_answers fun e => ⟨e.surroundings, rfl, rfl⟩
  exact ⟨again e, _, .never hquiet, harises, hissued, toOption_eq_some.1 hrefused, hrun,
    (hcompletes.movesOn hquiet hrun).2, hcompletes⟩

end Engine

/-! ## Listeners that make steps -/

namespace Collaborators

/-- Collaborators that listen, and make a step whenever they hear of another mode. In that step they
listen in the same way, up to a depth. -/
def restless : Nat → Collaborators (List Sign)
  | 0 => listening
  | depth + 1 =>
    { listening with
      deliver := fun _ event => match event with
        | .modeChanged _ _ => HostCall.step.run (restless depth)
        | _ => pure () }

theorem restless_callsBack (depth : Nat) : CallsBack id (restless depth) := by
  induction depth with
  | zero => exact listening_callsBack
  | succ depth ih =>
    refine .deeper ih { listening_answers (fun _ => .refl) with deliver := ?_ }
    intro id event e
    cases event with
    | modeChanged old new => exact .call .step e.surroundings .refl (List.append_nil _).symm
    | _ => exact .refl

end Collaborators

/-- A listener makes a step when it hears that the first fade is done. The command fades out again,
and its report is taken while the cursor stands on the line that comes next. -/
theorem Engine.restless_loses_place : ∃ e e' : Engine (List Sign),
    CallsBack id (.restless 2) ∧ e.Arises (.restless 2) id ∧
    (effectFinished (.restless 2) (.int 2)).perform e = (.ok true, e') ∧
    ∃ d, e.cursor.current = some (.dialogue d) := by
  let loaded (e : Engine (List Sign)) := ((enterLoading (.restless 2)).perform e).2
  let heeded (e : Engine (List Sign)) : Engine (List Sign) :=
    { e with bus := e.bus.subscribe "engine.mode" 0 }
  let again (e : Engine (List Sign)) := visited (.restless 2)
    [.resourcesReady, .effectFinished (.int 1)] (heeded (loaded e))
  let answer (e : Engine (List Sign)) := (effectFinished (.restless 2) (.int 2)).perform e
  have hfacts : (ofSetup fading []).toOption.map (fun e =>
      ((answer (again e)).1.toOption, (again e).cursor.current.map fun b => b.kind?.isNone)) =
        some (some true, some true) := by
    decide +kernel
  obtain ⟨e, he, hanswers⟩ := Option.map_eq_some_iff.1 hfacts
  obtain ⟨htaken, hspoken⟩ := Prod.ext_iff.1 hanswers
  obtain ⟨beat, hbeat, hspoken⟩ := Option.map_eq_some_iff.1 hspoken
  have haround : Around id (loaded e) (heeded (loaded e)) :=
    ⟨{ (loaded e).surroundings with bus := (loaded e).bus.subscribe "engine.mode" 0 }, rfl, rfl⟩
  have harises : (again e).Arises (.restless 2) id :=
    ⟨fading, [], e, toOption_eq_some.1 he, rfl, meddles_visited _ (.around .refl haround)⟩
  refine ⟨again e, (answer (again e)).2, Collaborators.restless_callsBack 2, harises,
    Prod.ext (toOption_eq_some.1 htaken) rfl, ?_⟩
  cases beat with
  | dialogue d => exact ⟨d, hbeat⟩
  | command cmd => cases hspoken

end VisualNovel
