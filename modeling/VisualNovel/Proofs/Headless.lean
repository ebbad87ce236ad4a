import VisualNovel.Engine.Headless
import VisualNovel.Proofs.Misplaced
import VisualNovel.Proofs.Outcomes
import VisualNovel.Proofs.SmallSteps

/-!
# Effects that are done at once

A renderer may report an effect as done while the effect is being sent to it. The report then comes
in the middle of a step: it ends the effect and completes the beat, and the step that it asks for
does nothing, since one is under way. If nobody reports an effect, a session that is driven without
a screen reports it in its next round.

`Engine.headless_effects_agree` compares the two. A step with reports from inside plays what several
steps play with reports in between (`Syncs`), and the rounds of the drive make up the difference.
-/

namespace VisualNovel

open Script

variable {σ : Type}

/-- Collaborators whose renderer reports every effect as done while the effect is sent to it. What
it is sent in the course of its report it takes in the same way; `depth` says how often reports may
be nested. -/
def Collaborators.finishing (c : Collaborators σ) : (depth : Nat) → Collaborators σ
  | 0 => c
  | depth + 1 =>
    { c with
      apply := fun i => do
        c.apply i
        match i.bind Intent.effectId with
        | none => pure ()
        | some id => discard (Engine.effectFinished (c.finishing depth) id) }

namespace Engine

section
variable {c : Collaborators σ} {d : Nat}

/-! ## Where no effect is sent -/

theorem emit_finishing (event : Event) : emit (c.finishing d) event = emit c event := by
  cases d <;> rfl

theorem apply_finishing {i : Intent} (h : i.effectId = none) :
    (c.finishing d).apply (some i) = c.apply (some i) := by
  cases d with
  | zero => rfl
  | succ d => simp [Collaborators.finishing, h]

theorem send_finishing (kind : IntentKind) (payload : Table String Value) :
    send (c.finishing d) kind payload = send c kind payload :=
  apply_finishing rfl

theorem setMode_finishing (mode : Mode) : setMode (c.finishing d) mode = setMode c mode := by
  simp only [setMode, emit_finishing]

theorem finish_finishing : finish (c.finishing d) = finish c := by
  have hfinished : (c.finishing d).finished = c.finished := by cases d <;> rfl
  simp only [finish, setMode_finishing, emit_finishing, hfinished]

theorem fail_finishing (error : StoryError) :
    fail (c.finishing d) error = fail c error := by
  have hshow : (c.finishing d).showError = c.showError := by cases d <;> rfl
  simp only [fail, emit_finishing, finish_finishing, hshow]

theorem display_finishing (text speaker : Value) (wait : Bool) :
    display (c.finishing d) text speaker wait = display c text speaker wait := by
  simp only [display, emit_finishing, send_finishing]

theorem present_finishing (options : List ChoiceOption) (line : Value) :
    present (c.finishing d) options line = present c options line := by
  simp only [present, setMode_finishing, display_finishing, emit_finishing, send_finishing]

theorem endEffect_finishing (id : Value) :
    HostCall.endEffect (c.finishing d) id = HostCall.endEffect c id := by
  simp only [HostCall.endEffect, send_finishing, setMode_finishing]

theorem takeOption_finishing (index : Value) :
    HostCall.takeOption (c.finishing d) index = HostCall.takeOption c index := by
  simp only [HostCall.takeOption, pick, emit_finishing, send_finishing, setMode_finishing,
    fail_finishing]

theorem orFail_finishing (act : Play σ Unit) :
    orFail (c.finishing d) act = orFail c act := by
  simp only [orFail, fail_finishing]

/-- What is left to do after a command that does not hold the story. -/
theorem settle_finishing {o : Outcome} (h : o.Swift) :
    settle (c.finishing d) o = settle c o := by
  cases o with
  | proceed intents =>
    have hall : ∀ l : List Intent, (∀ i ∈ l, i.effectId = none) →
        (l.forM fun i => (c.finishing d).apply (some i)) = l.forM fun i => c.apply (some i) := by
      intro l
      induction l with
      | nil => exact fun _ => rfl
      | cons i l ih =>
        intro hl
        have hcons : ∀ k : Intent → Play σ PUnit, (i :: l).forM k = k i >>= fun _ => l.forM k :=
          fun _ => rfl
        rw [hcons, hcons, apply_finishing (hl i List.mem_cons_self),
          ih fun j hj => hl j (List.mem_cons_of_mem _ hj)]
    simp only [settle]
    rw [hall intents (Prompt.effectId h)]
  | stay => rfl
  | hold => exact h.elim
  | ask options line => exact present_finishing options line
  | call args =>
    have hcall : (c.finishing d).systemCall = c.systemCall := by cases d <;> rfl
    simp only [settle, hcall]

end

/-! ## One beat -/

/-- Ends the effect that is running, if there is one. -/
def finishEffect (c : Collaborators σ) : Play σ Unit := do
  let e ← get
  match e.mode, e.effect with
  | .effectRunning, some effect => discard (HostCall.endEffect c (effect.effectId.getD .null))
  | _, _ => pure ()

section
variable {c : Collaborators σ} {w : Watch σ} {d : Nat} {e e' : Engine σ}

theorem finishEffect_idle (h : e.mode ≠ .effectRunning) :
    (finishEffect c).perform e = (.ok (), e) := by
  rw [finishEffect, Action.perform_get_bind]
  split
  · next hmode _ => exact absurd hmode h
  · rfl

/-- An effect that is running can be ended. -/
theorem endEffect_ok (hc : Quiet c w False) {effect : Intent} (heffect : e.effect = some effect)
    (hmode : e.mode = .effectRunning) {id : Value} (hid : isEffect id effect) :
    ∃ e', (HostCall.endEffect c id).perform e = (.ok true, e') := by
  have hruns : Runs False (HostCall.endEffect c id) e fun go _ => go = true := by
    unfold HostCall.endEffect
    refine Leads.get_bind ?_
    rw [heffect, hmode]
    simp only [Option.filter, hid, beq_self_eq_true, Bool.and_self, if_true]
    have hend : ∀ e₁ : Engine σ, Runs False (do
        modify (mapSession Session.release)
        setMode c .normal
        completeBeat
        return true) e₁ fun go _ => go = true := fun e₁ =>
      Leads.modify_bind ((setMode_runs hc .normal _).bind fun _ _ _ => Leads.modify_bind rfl)
    refine Leads.modify_bind ?_
    split
    · exact (hc.apply _ _).bind fun _ e₁ _ => hend e₁
    · exact hend _
  obtain ⟨go, e', hrun, rfl⟩ := hruns.performs
  exact ⟨e', hrun⟩

theorem veiled_nil (inStep : Bool → Bool) :
    veiled (σ := σ) [] inStep = fun e => { e with stepping := inStep e.stepping } :=
  funext fun e => guised_nil inStep id e

/-- An action that does not look whether a step is under way leaves that as it is. -/
theorem stepping_of_oblivious {α : Type} {act : Play σ α}
    (h : ∀ b, Oblivious (fun e => { e with stepping := b }) act) :
    (act.perform e).2.stepping = e.stepping := by
  have hrun := (h e.stepping).perform e
  have hsame : ({ e with stepping := e.stepping } : Engine σ) = e := rfl
  rw [hsame] at hrun
  rw [hrun]

end

section
variable {c : Collaborators σ} {w : Watch σ} {d : Nat} {e e' : Engine σ}
  (hc : Quiet c w False) (hheed : ∀ b, c.Heedless fun e => { e with stepping := b })

/-- What is known of engines with another log and out of a step is known of those out of a step. -/
theorem oblivious_of_guised {α : Type} {act : Play σ α} (b : Bool)
    (h : c.Heedless (guised [] (fun _ => b) id) → Oblivious (guised [] (fun _ => b) id) act)
    (hheed : c.Heedless fun e => { e with stepping := b }) :
    Oblivious (fun e => { e with stepping := b }) act := by
  have h : c.Heedless (veiled [] fun _ => b) → Oblivious (veiled [] fun _ => b) act := h
  rw [veiled_nil] at h
  exact h hheed

include hheed in
theorem endEffect_heedless (id : Value) (b : Bool) :
    Oblivious (fun e => { e with stepping := b }) (HostCall.endEffect c id) :=
  oblivious_of_guised b (fun h => endEffect_oblivious h id) (hheed b)

include hc hheed in
/-- A report from inside of a step ends the effect and plays nothing on. -/
theorem effectFinished_inside {effect : Intent} (heffect : e.effect = some effect)
    (hmode : e.mode = .effectRunning) (hstepping : e.stepping = true) {id : Value}
    (hid : isEffect id effect) :
    (discard (effectFinished (c.finishing d) id)).perform e =
      (discard (HostCall.endEffect c id)).perform e := by
  have hrun : discard (effectFinished (c.finishing d) id) =
      HostCall.endEffect c id >>= HostCall.playOn (c.finishing d) := by
    rw [← endEffect_finishing (d := d)]
    exact HostCall.run_eq (c.finishing d) (.effectFinished id)
  obtain ⟨e₁, hend⟩ := endEffect_ok hc heffect hmode hid
  have hstepping₁ : e₁.stepping = true := by
    have := stepping_of_oblivious (e := e) (endEffect_heedless hheed id)
    rw [hend] at this
    exact this.trans hstepping
  have hstep : (step (c.finishing d)).perform e₁ = (.ok !e₁.finished, e₁) := by
    rw [step, Action.perform_get_bind, hstepping₁, Bool.not_true, Bool.and_false]
    rfl
  rw [hrun, Action.perform_bind_ok hend, HostCall.playOn, if_pos rfl, HostCall.discard_eq,
    Action.perform_bind_ok hstep, HostCall.discard_eq, Action.perform_bind_ok hend]

include hc hheed in
/-- With reports from inside, an effect is ended as soon as it has started. -/
theorem hold_finishing (kind : IntentKind) (payload : Table String Value)
    (hstepping : e.stepping = true) :
    (hold (c.finishing (d + 1)) kind payload).perform e =
      (hold c kind payload >>= fun _ => finishEffect c).perform e := by
  let effect := effectOf kind payload e
  obtain ⟨⟨⟩, e₁, hmode, x, rfl, -⟩ := (setMode_runs hc .effectRunning
    { e with effectCount := e.effectCount + 1, effect := some effect }).performs
  let started := (e.held kind payload).within x
  obtain ⟨⟨⟩, e₂, happly, y, rfl, -⟩ := (hc.apply effect started).performs
  have hsends : ∀ c₁ : Collaborators σ, setMode c₁ .effectRunning = setMode c .effectRunning →
      (hold c₁ kind payload).perform e = (c₁.apply (some effect)).perform started := by
    intro c₁ hsame
    rw [hold, hsame]
    exact Action.perform_bind_ok (f := fun _ => get >>= fun e => c₁.apply e.effect) hmode
  have heffect : (started.within y).effect = some effect := rfl
  have hinside := effectFinished_inside hc hheed (d := d) heffect rfl hstepping
    (isEffect_of_number rfl)
  rw [hsends _ (setMode_finishing _), Action.perform_bind_ok ((hsends c rfl).trans happly)]
  exact (Action.perform_bind_ok happly).trans hinside

/-- An action that ends with no effect running can be followed by the end of one. -/
theorem finishEffect_after {act : Play σ Unit}
    (h : Ends act e (fun _ e' => e'.mode ≠ .effectRunning) fun _ _ => True) :
    (act >>= fun _ => finishEffect c).perform e = act.perform e := by
  obtain ⟨hok, -⟩ := Ends.iff_perform.1 h
  rcases hrun : act.perform e with ⟨f | ⟨⟩, e₁⟩
  · exact Action.perform_bind_error hrun
  · rw [Action.perform_bind_ok hrun, finishEffect_idle (hok () e₁ hrun)]

include hc hheed in
theorem settle_finishing_perform {cmd : Script.Command} {s : Stage} {o : Outcome}
    (ho : o.Orderly cmd s e.stage) (hmode : e.mode = .normal) (hstepping : e.stepping = true) :
    (settle (c.finishing (d + 1)) o).perform e =
      (settle c o >>= fun _ => finishEffect c).perform e := by
  have hswift : o.Swift → (e.settled o).mode ≠ .effectRunning →
      (settle (c.finishing (d + 1)) o).perform e =
        (settle c o >>= fun _ => finishEffect c).perform e := by
    intro hswift hnone
    rw [settle_finishing hswift]
    refine (finishEffect_after ((settle_runs hc o e).ends.mono ?_ fun _ _ h => h)).symm
    rintro _ _ ⟨x, rfl, -⟩
    exact hnone
  cases o with
  | proceed intents => exact hswift ho (by simp [settled, completed, mapStage, hmode])
  | stay => exact hswift trivial (by simp [settled, hmode])
  | hold kind payload => exact hold_finishing hc hheed kind payload hstepping
  | ask options line =>
    refine hswift trivial ?_
    cases line <;> exact fun h => (by cases h)
  | call args => exact hswift trivial (by simp [settled, completed, mapStage, hmode])

include hc hheed in
theorem execute_finishing (hr : e.running) (hstepping : e.stepping = true)
    (cmd : Script.Command) :
    (execute (c.finishing (d + 1)) cmd).perform e =
      (execute c cmd >>= fun _ => finishEffect c).perform e := by
  unfold execute
  cases hw : Command.wellFormed cmd with
  | false => rfl
  | true =>
    obtain ⟨⟨⟩, e₁, hemit, x, rfl, -⟩ :=
      (emit_runs hc (.commandRun cmd.kind.keyword cmd.args cmd.line) e).performs
    simp only [Bool.not_true, Bool.false_eq_true, if_false, emit_finishing, bind_assoc]
    rw [Action.perform_bind_ok hemit, Action.perform_bind_ok hemit]
    rcases hrun : (onStage (Command.perform cmd)).perform (e.within x) with ⟨f | o, e₂⟩
    · rw [Action.perform_bind_error hrun, Action.perform_bind_error hrun]
    · rw [Action.perform_bind_ok hrun, Action.perform_bind_ok hrun]
      have hends : Ends (onStage (Command.perform cmd)) (e.within x) (fun o e₂ =>
          o.Orderly cmd (e.within x).stage e₂.stage ∧ e₂.mode = e.mode ∧
            e₂.stepping = e.stepping) fun _ _ => True :=
        Ends.onPart_iff.2 ((Command.perform_orderly cmd _).mono
          (fun _ _ ho => ⟨ho, rfl, rfl⟩) fun _ _ h => h)
      obtain ⟨ho, hmode, hstep⟩ := (Ends.iff_perform.1 hends).1 o e₂ hrun
      exact settle_finishing_perform hc hheed ho (hmode.trans (running_iff.1 hr).1)
        (hstep.trans hstepping)

include hc hheed in
/-- With reports from inside, a beat is played and then its effect is ended, if it has started
one. -/
theorem playBeat_finishing (hr : e.running) (hstepping : e.stepping = true) :
    (playBeat (c.finishing (d + 1))).perform e =
      (playBeat c >>= fun _ => finishEffect c).perform e := by
  obtain ⟨hmode, -⟩ := running_iff.1 hr
  rw [playBeat, playBeat, bind_assoc, Action.perform_get_bind, Action.perform_get_bind]
  cases hcur : e.cursor.current with
  | none =>
    rw [finish_finishing]
    refine (finishEffect_after ((finish_runs hc (by simp [hmode])).ends.mono ?_
      fun _ _ h => h)).symm
    rintro _ _ ⟨x, rfl, -⟩
    exact fun h => (by cases h)
  | some beat =>
    cases beat with
    | dialogue d =>
      dsimp only
      rw [display_finishing]
      refine (finishEffect_after (Ends.mono (display_waits hc.any (.inl trivial) d.speaker e) ?_
        fun _ _ _ => trivial)).symm
      rintro _ _ ⟨t, visible, -, x, rfl, -⟩
      exact fun h => (by cases hmode.symm.trans h)
    | command cmd => exact execute_finishing hc hheed hr hstepping cmd

/-! ## One step -/

/-- Small steps, each with the end of the effect that it may start, come to a halt after so many
commands. -/
inductive Syncs (c : Collaborators σ) : Nat → Engine σ → Except Fault Unit → Engine σ → Prop where
  | rests {e : Engine σ} : e.running = false → Syncs c 0 e (.ok ()) e
  | stops {e e' : Engine σ} {f : Fault} : e.running → (smallStep c).perform e = (.error f, e') →
    Syncs c e.cost e (.error f) e'
  | beat {n : Nat} {e e₁ e₂ e' : Engine σ} {r : Except Fault Unit} : e.running →
    (smallStep c).perform e = (.ok (), e₁) → (finishEffect c).perform e₁ = (.ok (), e₂) →
    Syncs c n e₂ r e' → Syncs c (n + e.cost) e r e'

/-- The loop plays the beat at the cursor and goes on with what is left of the budget. -/
theorem playBeats_finishing (hc : Quiet c w False) (hr : e.running) {turns budget : Nat}
    (hcost : e.cost ≤ budget) : (playBeats (c.finishing d) (turns + 1) budget).perform e =
      (playBeat (c.finishing d) >>= fun _ =>
        playBeats (c.finishing d) turns (budget - e.cost)).perform e := by
  rw [playBeats, Action.perform_get_bind, playBeat, bind_assoc, Action.perform_get_bind]
  simp only [hr, Bool.not_true, Bool.false_eq_true, if_false]
  cases hcur : e.cursor.current with
  | none =>
    obtain ⟨⟨⟩, e₁, hrun, x, rfl, -⟩ :=
      (finish_runs hc (e := e) (by simp [(running_iff.1 hr).1])).performs
    dsimp only
    rw [finish_finishing, Action.perform_bind_ok hrun, playBeats_idle rfl, hrun]
  | some beat =>
    cases beat with
    | dialogue d =>
      rw [cost_of_other (by simp [hcur])]
      rfl
    | command cmd =>
      rw [cost_of_command hcur] at hcost ⊢
      cases budget with
      | zero => omega
      | succ budget => rfl

include hc in
theorem finishEffect_ok (h : e.mode = .effectRunning → ∃ n effect, e.effect = some effect ∧
    effect.effectId = some (.int n)) : ∃ e', (finishEffect c).perform e = (.ok (), e') := by
  by_cases hmode : e.mode = .effectRunning
  · obtain ⟨n, effect, heffect, hid⟩ := h hmode
    obtain ⟨e₁, hend⟩ := endEffect_ok hc heffect hmode (isEffect_of_number hid)
    refine ⟨e₁, ?_⟩
    rw [finishEffect, Action.perform_get_bind, hmode, heffect]
    simp only [hid, Option.getD_some, HostCall.discard_eq]
    exact Action.perform_bind_ok hend
  · exact ⟨e, finishEffect_idle hmode⟩

include hc in
/-- A beat that has started an effect is a command, and the effect goes by a number. -/
theorem playBeat_effect (hr : e.running) (hrun : (playBeat c).perform e = (.ok (), e'))
    (hmode : e'.mode = .effectRunning) : (∃ cmd, e.cursor.current = some (.command cmd)) ∧
      ∃ n effect, e'.effect = some effect ∧ effect.effectId = some (.int n) := by
  obtain ⟨hnormal, -⟩ := running_iff.1 hr
  rw [playBeat, Action.perform_get_bind] at hrun
  cases hcur : e.cursor.current with
  | none =>
    rw [hcur] at hrun
    obtain ⟨x, rfl, -⟩ :=
      (Ends.iff_perform.1 (finish_runs hc (by simp [hnormal]))).1 () e' hrun
    cases hmode
  | some beat =>
    rw [hcur] at hrun
    cases beat with
    | dialogue d =>
      obtain ⟨t, visible, -, x, rfl, -⟩ :=
        (Ends.iff_perform.1 (display_waits hc.any (.inl trivial) d.speaker e)).1 () e' hrun
      cases hnormal.symm.trans hmode
    | command cmd =>
      obtain ⟨e₁, s, o, ⟨x, rfl, -⟩, -, y, rfl, -⟩ :=
        (Ends.iff_perform.1 (execute_orderly hc cmd e)).1 () e' hrun
      cases o with
      | hold kind payload => exact ⟨⟨cmd, rfl⟩, _, _, rfl, rfl⟩
      | ask options line => cases line <;> cases hmode
      | _ => cases hnormal.symm.trans hmode

include hheed in
theorem playBeat_heedless (b : Bool) :
    Oblivious (fun e => { e with stepping := b }) (playBeat c) := by
  refine oblivious_of_guised b (fun h => .get_bind (fun _ => rfl) fun e => ?_) (hheed b)
  cases e.cursor.current with
  | none => exact finish_oblivious h
  | some beat =>
    cases beat with
    | dialogue d => exact display_oblivious h _ _ _
    | command cmd => exact execute_oblivious h cmd

include hheed in
theorem smallStep_heedless (b : Bool) :
    Oblivious (fun e => { e with stepping := b }) (smallStep c) := by
  have hbeat := playBeat_heedless hheed b
  refine oblivious_of_guised b (fun h => orFail_oblivious h ?_) (hheed b)
  show Oblivious (veiled [] fun _ => b) _
  rw [veiled_nil]
  exact hbeat

include hheed in
theorem finishEffect_heedless (b : Bool) :
    Oblivious (fun e => { e with stepping := b }) (finishEffect c) := by
  refine .get_bind (fun _ => rfl) fun e => ?_
  split
  · exact (endEffect_heedless hheed _ b).discard
  · exact .pure

include hc in
theorem smallStep_effect (hr : e.running) (hrun : (smallStep c).perform e = (.ok (), e'))
    (hmode : e'.mode = .effectRunning) :
    ∃ n effect, e'.effect = some effect ∧ effect.effectId = some (.int n) := by
  rw [smallStep, orFail_perform] at hrun
  split at hrun
  · have hended := fail_ended hc.any hrun
    cases hended.symm.trans hmode
  · next hbeat =>
    cases hrun
    exact (playBeat_effect hc hr hbeat hmode).2

include hc hheed in
/-- The loop of a step with reports from inside comes to a halt within its budget, or it is cut
off. -/
theorem playBeats_syncs (turns budget : Nat) (hstepping : e.stepping = true)
    (hturns : e.running → budget < turns) :
    (∃ n r e', n ≤ budget ∧ Syncs c n e r e' ∧
      (orFail c (playBeats (c.finishing (d + 1)) turns budget)).perform e = (r, e')) ∨
    ∃ e₁ line, e₁.mode = .normal ∧
      (orFail c (playBeats (c.finishing (d + 1)) turns budget)).perform e =
        (fail c (e₁.neverYields line)).perform e₁ := by
  induction turns generalizing budget e with
  | zero =>
    have hidle : e.running = false := by
      cases hr : e.running with
      | false => rfl
      | true => exact absurd (hturns hr) (Nat.not_lt_zero _)
    exact .inl ⟨0, _, e, Nat.zero_le _, .rests hidle, by rw [orFail_perform, playBeats_idle hidle]⟩
  | succ turns ih =>
    cases hr : e.running with
    | false =>
      exact .inl ⟨0, _, e, Nat.zero_le _, .rests hr, by rw [orFail_perform, playBeats_idle hr]⟩
    | true =>
      by_cases hcost : e.cost ≤ budget
      · rw [orFail_perform, playBeats_finishing hc hr hcost]
        have hbeat := playBeat_finishing hc hheed (d := d) hr hstepping
        have hsmall : (smallStep c).perform e = _ := orFail_perform (playBeat c) e
        rcases hrun : (playBeat c).perform e with ⟨f | ⟨⟩, e₁⟩
        · -- The beat fails, and an error of the story ends the session.
          rw [hrun] at hsmall
          rw [Action.perform_bind_error hrun] at hbeat
          rw [Action.perform_bind_error hbeat]
          cases f with
          | mishap m => exact .inl ⟨_, _, e₁, hcost, .stops hr hsmall, rfl⟩
          | story error =>
            rcases hfail : (fail c error).perform e₁ with ⟨f | ⟨⟩, e₂⟩
            · exact .inl ⟨_, _, e₂, hcost, .stops hr (hsmall.trans hfail), hfail⟩
            · have hended := fail_ended hc.any hfail
              have hidle := finishEffect_idle (c := c) (e := e₂) (by simp [hended])
              exact .inl ⟨_, _, e₂, by omega, .beat hr (hsmall.trans hfail) hidle
                (.rests (fail_halts hc.any hfail)), hfail⟩
        · rw [hrun] at hsmall
          have heffect := playBeat_effect hc hr hrun
          obtain ⟨e₂, hfinish⟩ := finishEffect_ok hc fun hmode => (heffect hmode).2
          rw [Action.perform_bind_ok hrun, hfinish] at hbeat
          have hstepping₂ : e₂.stepping = true := by
            have h₁ := stepping_of_oblivious (e := e) (playBeat_heedless hheed)
            have h₂ := stepping_of_oblivious (e := e₁) (finishEffect_heedless hheed)
            rw [hrun] at h₁
            rw [hfinish] at h₂
            exact (h₂.trans h₁).trans hstepping
          have hturns₂ : e₂.running → budget - e.cost < turns := by
            intro hr₂
            have hlt := hturns hr
            by_cases hcmd : ∃ cmd, e.cursor.current = some (.command cmd)
            · obtain ⟨cmd, hcmd⟩ := hcmd
              rw [cost_of_command hcmd] at hcost ⊢
              omega
            · -- A beat that is no command starts no effect, and is the last one.
              have hidle := finishEffect_idle (c := c) fun hmode => hcmd (heffect hmode).1
              rw [hfinish] at hidle
              cases hidle
              have hhalts := playBeat_halts hc.any hr fun cmd h => hcmd ⟨cmd, h⟩
              rw [(Ends.iff_perform.1 hhalts).1 () e₁ hrun] at hr₂
              cases hr₂
          rw [Action.perform_bind_ok hbeat, ← orFail_perform]
          rcases ih _ hstepping₂ hturns₂ with ⟨n, r, e', hn, hsyncs, hloop⟩ | hover
          · exact .inl ⟨_, r, e', by omega, .beat hr hsmall hfinish hsyncs, hloop⟩
          · exact .inr hover
      · -- The budget is spent and the next beat is a command.
        have hcmd : ∃ cmd, e.cursor.current = some (.command cmd) := by
          refine Classical.byContradiction fun hcmd => hcost ?_
          rw [cost_of_other fun cmd h => hcmd ⟨cmd, h⟩]
          exact Nat.zero_le _
        obtain ⟨cmd, hcmd⟩ := hcmd
        rw [cost_of_command hcmd] at hcost
        obtain rfl : budget = 0 := by omega
        refine .inr ⟨e, cmd.line, (running_iff.1 hr).1, ?_⟩
        rw [orFail_perform, playBeats_over hr hcmd]

theorem Iterates.snoc {n : Nat} {e₁ : Engine σ} (h : Iterates c n e e') (hr : e'.running)
    (hrun : (smallStep c).perform e' = (.ok (), e₁)) : Iterates c (n + e'.cost) e e₁ := by
  induction h with
  | refl e => exact Nat.add_comm 0 e.cost ▸ (Iterates.refl e₁).beat hr hrun
  | @beat n e e₁ e₂ hr' hrun' _ ih =>
    have hlong := (ih hr hrun).beat hr' hrun'
    rwa [Nat.add_right_comm] at hlong

theorem Iterates.halts {m n : Nat} {e₁ : Engine σ} {r : Except Fault Unit} (h : Iterates c m e e₁)
    (hhalts : Halts c n e₁ r e') : Halts c (m + n) e r e' := by
  induction h with
  | refl => rwa [Nat.zero_add]
  | beat hr hrun _ ih =>
    have hlong := Halts.beat hr hrun (ih hhalts)
    rwa [Nat.add_right_comm] at hlong

/-- A step from outside of which the loop is known. -/
theorem discard_step_perform (hstepping : e.stepping = false) {r : Except Fault Unit}
    (h : (orFail c (playBeats c turnsPerStep commandBudget)).perform { e with stepping := true } =
      (r, e')) :
    (discard (step c)).perform e = (r, { e' with stepping := false }) := by
  cases hr : e.running with
  | true =>
    have hstep := step_perform hr hstepping h
    rw [concluded] at hstep
    rw [HostCall.discard_eq]
    cases r with
    | error f => exact Action.perform_bind_error hstep
    | ok _ => exact Action.perform_bind_ok hstep
  | false =>
    have hidle : ({ e with stepping := true } : Engine σ).running = false := hr
    rw [orFail_perform, playBeats_idle hidle] at h
    cases h
    have hsame : ({ e with stepping := false } : Engine σ) = e := by rw [← hstepping]
    have hlook : (do return (← get).running : Play σ Bool).perform e = (.ok false, e) := by
      rw [← hr]
      rfl
    rw [HostCall.discard_step, Action.perform_bind_ok hlook]
    exact congrArg (Prod.mk (Except.ok ())) hsame.symm

/-! ## Rounds -/

/-- The call of the host that moves a waiting engine on without a screen. -/
def nextCall (picks : List Value) (e : Engine σ) : HostCall :=
  match e.mode, e.effect with
  | .effectRunning, some effect => .effectFinished (effect.effectId.getD .null)
  | .awaitingChoice, _ => .choose (picks.head?.getD (.int 0))
  | _, _ => if e.awaiting then .advance else .step

/-- The choices that are left when a waiting engine has been moved on. -/
def restPicks (picks : List Value) (e : Engine σ) : List Value :=
  match e.mode, e.effect with
  | .effectRunning, some _ => picks
  | .awaitingChoice, _ => picks.tail
  | _, _ => picks

theorem driveOnce_perform (picks : List Value) : (driveOnce c picks).perform e =
    ((e.nextCall picks).run c >>= fun _ => pure (e.restPicks picks)).perform e := by
  rw [driveOnce, Action.perform_get_bind, nextCall, restPicks]
  generalize e.mode = mode
  generalize e.effect = effect
  generalize e.awaiting = awaiting
  cases mode <;> cases effect <;> cases awaiting <;> rfl

theorem drive_succ (rounds : Nat) (picks : List Value) : (drive c (rounds + 1) picks).perform e =
    if e.finished then (.ok true, e)
    else ((e.nextCall picks).run c >>= fun _ => drive c rounds (e.restPicks picks)).perform e := by
  rw [drive, Action.perform_get_bind]
  cases e.finished with
  | true => rfl
  | false =>
    simp only [Bool.false_eq_true, if_false]
    have honce := driveOnce_perform (c := c) (e := e) picks
    rcases hrun : ((e.nextCall picks).run c).perform e with ⟨f | ⟨⟩, e₁⟩
    · rw [Action.perform_bind_error hrun] at honce ⊢
      exact Action.perform_bind_error honce
    · rw [Action.perform_bind_ok hrun] at honce ⊢
      exact Action.perform_bind_ok honce

/-- More rounds change nothing if the rounds suffice. -/
theorem drive_mono {rounds : Nat} {picks : List Value} {r : Except Fault Bool}
    (h : (drive c rounds picks).perform e = (r, e')) (hr : r ≠ .ok false) (more : Nat) :
    (drive c (rounds + more) picks).perform e = (r, e') := by
  induction rounds generalizing picks e with
  | zero =>
    cases h
    exact absurd rfl hr
  | succ rounds ih =>
    rw [Nat.add_right_comm, drive_succ]
    rw [drive_succ] at h
    cases hfinished : e.finished with
    | true =>
      rw [hfinished] at h
      exact h
    | false =>
      rw [hfinished] at h
      simp only [Bool.false_eq_true, if_false] at h ⊢
      rcases hrun : ((e.nextCall picks).run c).perform e with ⟨f | ⟨⟩, e₁⟩
      · rw [Action.perform_bind_error hrun] at h ⊢
        exact h
      · rw [Action.perform_bind_ok hrun] at h ⊢
        exact ih h

include hc hheed in
/-- Steps with the ends of effects in between catch up with one step in which effects are ended as
soon as they start. The drive needs one more round for each effect. -/
theorem Syncs.caughtUp {n : Nat} {r : Except Fault Unit} (h : Syncs c n e r e')
    {m : Nat} {e₀ : Engine σ} (hiter : Iterates c m e₀ e) (hbudget : m + n ≤ commandBudget)
    (hstepping₀ : e₀.stepping = true) (hstepping : e.stepping = true) : ∃ k, ∀ rounds picks,
      (discard (step c) >>= fun _ => drive c (k + rounds) picks).perform
        { e₀ with stepping := false } =
      (Action.ofExcept r >>= fun _ => drive c rounds picks).perform
        { e' with stepping := false } := by
  have hturns : commandBudget < turnsPerStep := by decide
  -- What is known of the first engine is known of the one from which the step starts.
  have hback : ∀ e₀ : Engine σ, e₀.stepping = true →
      ({ ({ e₀ with stepping := false } : Engine σ) with stepping := true } : Engine σ) = e₀ := by
    intro e₀ h₀
    rw [← h₀]
  have hhalted : ∀ {n : Nat} {r : Except Fault Unit} {e₀ e' : Engine σ}, Halts c n e₀ r e' →
      n ≤ commandBudget → e₀.stepping = true →
      (discard (step c)).perform { e₀ with stepping := false } =
        (r, { e' with stepping := false }) := by
    intro n r e₀ e' hhalts hn h₀
    refine discard_step_perform rfl ?_
    rw [hback e₀ h₀]
    exact playBeats_of_halts hc.any hhalts hn fun _ => hturns
  induction h generalizing m e₀ with
  | rests hidle =>
    refine ⟨0, fun rounds picks => ?_⟩
    rw [Action.perform_bind_ok (hhalted (hiter.halts (.rests hidle)) hbudget hstepping₀),
      Nat.zero_add]
    rfl
  | stops hr hrun =>
    refine ⟨0, fun rounds picks => ?_⟩
    exact Action.perform_bind_error (hhalted (hiter.halts (.stops hr hrun)) hbudget hstepping₀)
  | @beat n e e₁ e₂ e' r hr hrun hfinish _ ih =>
    have hstepping₁ : e₁.stepping = true := by
      have h₁ := stepping_of_oblivious (e := e) (smallStep_heedless hheed)
      rw [hrun] at h₁
      exact h₁.trans hstepping
    by_cases hmode : e₁.mode = .effectRunning
    · -- The step ends here, and the next round ends the effect.
      have hidle : e₁.running = false := by simp [running, hmode]
      have hstep := hhalted ((hiter.snoc hr hrun).halts (.rests hidle)) (by omega) hstepping₀
      obtain ⟨n', effect, heffect, hid⟩ := smallStep_effect hc hr hrun hmode
      obtain ⟨e₃, hend⟩ := endEffect_ok hc heffect hmode (isEffect_of_number hid)
      have hsame : e₃ = e₂ := by
        rw [finishEffect, Action.perform_get_bind, hmode, heffect] at hfinish
        simp only [hid, Option.getD_some, HostCall.discard_eq] at hfinish
        rw [Action.perform_bind_ok hend] at hfinish
        cases hfinish
        rfl
      subst hsame
      have hstepping₂ : e₃.stepping = true := by
        have h₂ := stepping_of_oblivious (e := e₁) (endEffect_heedless hheed (.int n'))
        rw [hend] at h₂
        exact h₂.trans hstepping₁
      obtain ⟨k, hk⟩ := ih (.refl e₃) (by omega) hstepping₂ hstepping₂
      have hlater := (endEffect_heedless hheed (.int n') false).perform e₁
      rw [hend] at hlater
      refine ⟨k + 1, fun rounds picks => ?_⟩
      rw [Action.perform_bind_ok hstep, Nat.add_right_comm, drive_succ]
      have hfinished : ({ e₁ with stepping := false } : Engine σ).finished = false := by
        simp [finished, hmode]
      have hnext : ({ e₁ with stepping := false } : Engine σ).nextCall picks =
          .effectFinished (.int n') := by
        simp [nextCall, hmode, heffect, hid]
      have hrest : ({ e₁ with stepping := false } : Engine σ).restPicks picks = picks := by
        simp [restPicks, hmode, heffect]
      rw [hfinished, hnext, hrest, if_neg Bool.false_ne_true, HostCall.run_eq, bind_assoc]
      exact (Action.perform_bind_ok hlater).trans (hk rounds picks)
    · rw [finishEffect_idle hmode] at hfinish
      cases hfinish
      exact ih (hiter.snoc hr hrun) (by omega) hstepping₀ hstepping₁

/-- The session was ended because a conversation ran commands without end. -/
def CutShort (e : Engine σ) : Prop :=
  ∃ error conversation, e.error = some error ∧ error.cause = .neverYields conversation

include hc hheed in
/-- A step with reports from inside ends each effect as soon as it has started, or is cut off. -/
theorem step_finishing (hstepping : e.stepping = false) :
    (∃ n r e', n ≤ commandBudget ∧ Syncs c n { e with stepping := true } r e' ∧
      (discard (step (c.finishing (d + 1)))).perform e = (r, { e' with stepping := false })) ∨
    ∃ r e', (discard (step (c.finishing (d + 1)))).perform e = (r, e') ∧ e'.mode = .ended ∧
      e'.CutShort := by
  have hloops := playBeats_syncs hc hheed (d := d) (e := { e with stepping := true }) turnsPerStep
    commandBudget rfl fun _ => by decide
  rw [← orFail_finishing (d := d + 1)] at hloops
  rcases hloops with ⟨n, r, e', hn, hsyncs, hloop⟩ | ⟨e₁, line, hmode, hloop⟩
  · exact .inl ⟨n, r, e', hn, hsyncs, discard_step_perform hstepping hloop⟩
  · rcases hfail : (fail c (e₁.neverYields line)).perform e₁ with ⟨r, e'⟩
    have hended : e'.mode = .ended ∧ e'.CutShort := by
      obtain ⟨hok, herror⟩ := Ends.iff_perform.1
        (fail_leads hc (e := e₁) (by simp [hmode]) (e₁.neverYields line))
      rcases r with (error | m) | ⟨⟩
      · obtain ⟨⟨x, rfl, -⟩, -⟩ := herror _ e' hfail
        exact ⟨rfl, _, _, rfl, rfl⟩
      · exact (herror _ e' hfail).elim
      · obtain ⟨⟨x, rfl, -⟩, -⟩ := hok _ e' hfail
        exact ⟨rfl, _, _, rfl, rfl⟩
    exact .inr ⟨r, _, discard_step_perform hstepping (hloop.trans hfail), hended⟩

include hc hheed in
/-- One call and the rounds after it, if that much is known of the rounds. -/
theorem run_finishing {call : HostCall} {rounds : Nat} {picks : List Value}
    (hopening : call.opening (c.finishing (d + 1)) = call.opening c)
    (hheedless : ∀ b, Oblivious (fun e => { e with stepping := b }) (call.opening c))
    (hstepping : e.stepping = false) {r : Except Fault Bool}
    (hrun : (call.run (c.finishing (d + 1)) >>= fun _ =>
      drive (c.finishing (d + 1)) rounds picks).perform e = (r, e'))
    (hr : r ≠ .ok false) (hyields : ¬e'.CutShort)
    (hrounds : ∀ e₁ : Engine σ, e₁.stepping = false →
      (drive (c.finishing (d + 1)) rounds picks).perform e₁ = (r, e') →
      ∃ k, (drive c k picks).perform e₁ = (r, e')) :
    ∃ k, (call.run c >>= fun _ => drive c k picks).perform e = (r, e') := by
  rw [HostCall.run_eq, hopening, bind_assoc] at hrun
  rw [HostCall.run_eq]
  simp only [bind_assoc]
  rcases hopen : (call.opening c).perform e with ⟨f | go, e₁⟩
  · rw [Action.perform_bind_error hopen] at hrun
    exact ⟨0, (Action.perform_bind_error hopen).trans hrun⟩
  · rw [Action.perform_bind_ok hopen] at hrun
    have hstepping₁ : e₁.stepping = false := by
      have h₁ := stepping_of_oblivious (e := e) hheedless
      rw [hopen] at h₁
      exact h₁.trans hstepping
    have hafter : (∃ k, (HostCall.playOn c go >>= fun _ => drive c k picks).perform e₁ = (r, e')) →
        ∃ k, (call.opening c >>= fun go => HostCall.playOn c go >>= fun _ =>
          drive c k picks).perform e = (r, e') := by
      rintro ⟨k, hk⟩
      exact ⟨k, (Action.perform_bind_ok hopen).trans hk⟩
    refine hafter ?_
    cases go with
    | false => exact hrounds e₁ hstepping₁ hrun
    | true =>
      rcases step_finishing hc hheed (d := d) hstepping₁ with
        ⟨n, r₁, e₂, hn, hsyncs, hstep⟩ | ⟨r₁, e₂, hstep, hended, hcut⟩
      · obtain ⟨k, hk⟩ := hsyncs.caughtUp hc hheed (.refl _) (by omega) rfl rfl
        have hsame : ({ ({ e₁ with stepping := true } : Engine σ) with stepping := false } :
            Engine σ) = e₁ := by
          rw [← hstepping₁]
        rw [hsame] at hk
        cases r₁ with
        | error f =>
          have herror : (.error f, { e₂ with stepping := false }) = (r, e') :=
            (Action.perform_bind_error hstep).symm.trans hrun
          exact ⟨k + 0, (hk 0 picks).trans herror⟩
        | ok _ =>
          have hrest : (drive (c.finishing (d + 1)) rounds picks).perform
              { e₂ with stepping := false } = (r, e') :=
            (Action.perform_bind_ok hstep).symm.trans hrun
          obtain ⟨k', hk'⟩ := hrounds _ rfl hrest
          exact ⟨k + k', (hk k' picks).trans hk'⟩
      · -- A session that is cut off stays so.
        refine absurd hcut ?_
        cases r₁ with
        | error f =>
          have herror : (.error f, e₂) = (r, e') :=
            (Action.perform_bind_error hstep).symm.trans hrun
          cases herror
          exact hyields
        | ok _ =>
          have hrest : (drive (c.finishing (d + 1)) rounds picks).perform e₂ = (r, e') :=
            (Action.perform_bind_ok hstep).symm.trans hrun
          cases rounds with
          | zero =>
            cases hrest
            exact absurd rfl hr
          | succ rounds =>
            rw [drive_succ, if_pos (by simp [finished, hended])] at hrest
            cases hrest
            exact hyields

theorem nextCall_opening (picks : List Value) :
    (e.nextCall picks).opening (c.finishing d) = (e.nextCall picks).opening c := by
  unfold nextCall
  split
  · exact endEffect_finishing _
  · exact takeOption_finishing _
  · split <;> rfl

include hheed in
theorem nextCall_heedless (picks : List Value) (b : Bool) :
    Oblivious (fun e => { e with stepping := b }) ((e.nextCall picks).opening c) := by
  unfold nextCall
  split
  · exact endEffect_heedless hheed _ b
  · exact oblivious_of_guised b (fun h => takeOption_oblivious h _) (hheed b)
  · split
    · exact oblivious_of_guised b (fun _ => passLine_oblivious) (hheed b)
    · exact .get_bind (fun _ => rfl) fun _ => .pure

include hc hheed in
/-- What a drive comes to with reports from inside, it comes to without them in rounds enough. -/
theorem drive_finishing {rounds : Nat} {picks : List Value} (hstepping : e.stepping = false)
    {r : Except Fault Bool}
    (hrun : (drive (c.finishing (d + 1)) rounds picks).perform e = (r, e'))
    (hr : r ≠ .ok false) (hyields : ¬e'.CutShort) :
    ∃ k, (drive c k picks).perform e = (r, e') := by
  induction rounds generalizing picks e with
  | zero =>
    cases hrun
    exact absurd rfl hr
  | succ rounds ih =>
    rw [drive_succ] at hrun
    cases hfinished : e.finished with
    | true =>
      rw [hfinished, if_pos rfl] at hrun
      refine ⟨0 + 1, ?_⟩
      rw [drive_succ, hfinished, if_pos rfl]
      exact hrun
    | false =>
      rw [hfinished, if_neg Bool.false_ne_true] at hrun
      obtain ⟨k, hk⟩ := run_finishing hc hheed (nextCall_opening picks)
        (nextCall_heedless hheed picks) hstepping hrun hr hyields fun e₁ h₁ h => ih h₁ h
      refine ⟨k + 1, ?_⟩
      rw [drive_succ, hfinished, if_neg Bool.false_ne_true]
      exact hk

end

/-! ## Whole sessions -/

/-- Drives the session to its end or until the rounds are used up; whether it ended. -/
def driven (c : Collaborators σ) (choices : Value) (rounds : Nat) : Play σ Bool := do
  let choices ← Action.ofMishap (choices.orElse (.list [])).parts
  if (← get).mode == .loading then resourcesReady c
  drive c rounds choices

theorem runHeadless_eq (c : Collaborators σ) (choices : Value) (rounds : Int) :
    runHeadless c choices (.int rounds) = (do
      if !(← driven c choices rounds.toNat) then
        note .warning s!"run_headless stopped after {rounds} iterations") := by
  have hwhole : ∀ k : Int → Play σ Unit,
      (Action.ofMishap (Value.int rounds).asWhole >>= k) = k rounds := fun _ => rfl
  simp only [runHeadless, driven, bind_assoc, hwhole]
  congr 1
  funext picks
  congr 1
  funext e
  split <;> simp only [bind_assoc]

/-- A session that is driven, once the choices are known. -/
theorem driven_perform {c : Collaborators σ} {choices : Value} {picks : List Value}
    (hpicks : (choices.orElse (.list [])).parts = .ok picks) (rounds : Nat) (e : Engine σ) :
    (driven c choices rounds).perform e =
      if e.mode = .loading then
        (HostCall.resourcesReady.run c >>= fun _ => drive c rounds picks).perform e
      else (drive c rounds picks).perform e := by
  have hstart : (driven c choices rounds).perform e =
      (if e.mode == .loading then HostCall.resourcesReady.run c >>= fun _ => drive c rounds picks
        else drive c rounds picks).perform e := by
    rw [driven, hpicks]
    rfl
  rw [hstart]
  by_cases hmode : e.mode = .loading
  · simp [hmode]
  · simp [hmode]

theorem driven_error {c : Collaborators σ} {choices : Value} {m : Mishap}
    (hpicks : (choices.orElse (.list [])).parts = .error m) (rounds : Nat) (e : Engine σ) :
    (driven c choices rounds).perform e = (.error (.mishap m), e) := by
  rw [driven, hpicks]
  rfl

section
variable {c : Collaborators σ} {w : Watch σ} {d : Nat} {e : Engine σ}

/-- It does not matter how many rounds there are, if they suffice. -/
theorem drive_agrees {picks : List Value} {m n : Nat}
    (hm : ((drive c m picks).perform e).1 ≠ .ok false)
    (hn : ((drive c n picks).perform e).1 ≠ .ok false) :
    (drive c m picks).perform e = (drive c n picks).perform e := by
  rcases Nat.le_total m n with hle | hle
  · have hmore := drive_mono rfl hm (n - m)
    rw [Nat.add_sub_cancel' hle] at hmore
    exact hmore.symm
  · have hmore := drive_mono rfl hn (m - n)
    rw [Nat.add_sub_cancel' hle] at hmore
    exact hmore

theorem run_drive_agrees {call : HostCall} {picks : List Value} {m n : Nat}
    (hm : ((call.run c >>= fun _ => drive c m picks).perform e).1 ≠ .ok false)
    (hn : ((call.run c >>= fun _ => drive c n picks).perform e).1 ≠ .ok false) :
    (call.run c >>= fun _ => drive c m picks).perform e =
      (call.run c >>= fun _ => drive c n picks).perform e := by
  rcases hrun : (call.run c).perform e with ⟨f | ⟨⟩, e₁⟩
  · rw [Action.perform_bind_error hrun, Action.perform_bind_error hrun]
  · rw [Action.perform_bind_ok hrun] at hm hn ⊢
    rw [Action.perform_bind_ok hrun]
    exact drive_agrees hm hn

theorem ready_opening : HostCall.resourcesReady.opening (c.finishing d) =
    HostCall.resourcesReady.opening c := by
  simp only [HostCall.opening, setMode_finishing]

theorem ready_heedless (hheed : ∀ b, c.Heedless fun e => { e with stepping := b }) (b : Bool) :
    Oblivious (fun e => { e with stepping := b }) (HostCall.resourcesReady.opening c) := by
  refine oblivious_of_guised b (fun h => .get_bind (fun _ => rfl) fun e => ?_) (hheed b)
  exact .ite ((note_oblivious _ _).bind fun _ => .pure)
    ((setMode_oblivious h _).bind fun _ => .pure)

/-- Whether a session is driven with reports from inside or without them, it comes to the same: the
result is the same, and so is the engine, with all that the collaborators remember of intents and
events. The rounds have to suffice for both, and the session with reports from inside must not have
been cut off for running commands without end. -/
theorem headless_effects_agree (hc : Quiet c w False)
    (hheed : ∀ b, c.Heedless fun e => { e with stepping := b }) (hstepping : e.stepping = false)
    {choices : Value} {rounds : Int}
    (hinside : ((driven (c.finishing (d + 1)) choices rounds.toNat).perform e).1 ≠ .ok false)
    (hafter : ((driven c choices rounds.toNat).perform e).1 ≠ .ok false)
    (hyields :
      ¬((runHeadless (c.finishing (d + 1)) choices (.int rounds)).perform e).2.CutShort) :
    (runHeadless (c.finishing (d + 1)) choices (.int rounds)).perform e =
      (runHeadless c choices (.int rounds)).perform e := by
  have hfinal : ∀ c₁ : Collaborators σ,
      ((driven c₁ choices rounds.toNat).perform e).1 ≠ .ok false →
      (runHeadless c₁ choices (.int rounds)).perform e =
        (((driven c₁ choices rounds.toNat).perform e).1.map fun _ => (),
          ((driven c₁ choices rounds.toNat).perform e).2) := by
    intro c₁ h₁
    rw [runHeadless_eq]
    rcases hrun : (driven c₁ choices rounds.toNat).perform e with ⟨f | ended, e₁⟩
    · exact Action.perform_bind_error hrun
    · rw [Action.perform_bind_ok hrun]
      cases ended with
      | false =>
        rw [hrun] at h₁
        exact absurd rfl h₁
      | true => rfl
  rw [hfinal _ hinside] at hyields ⊢
  rw [hfinal c hafter]
  suffices hsame : (driven (c.finishing (d + 1)) choices rounds.toNat).perform e =
      (driven c choices rounds.toNat).perform e by
    rw [hsame]
  cases hpicks : (choices.orElse (.list [])).parts with
  | error m => rw [driven_error hpicks, driven_error hpicks]
  | ok picks =>
    rw [driven_perform hpicks] at hinside hafter hyields ⊢
    rw [driven_perform hpicks]
    by_cases hmode : e.mode = .loading
    · rw [if_pos hmode] at hinside hafter hyields ⊢
      rw [if_pos hmode]
      obtain ⟨k, hk⟩ := run_finishing hc hheed ready_opening (ready_heedless hheed) hstepping rfl
        hinside hyields fun e₁ h₁ hrun => drive_finishing hc hheed h₁ hrun hinside hyields
      refine hk.symm.trans (run_drive_agrees ?_ hafter)
      rw [hk]
      exact hinside
    · rw [if_neg hmode] at hinside hafter hyields ⊢
      rw [if_neg hmode]
      obtain ⟨k, hk⟩ := drive_finishing hc hheed hstepping rfl hinside hyields
      refine hk.symm.trans (drive_agrees ?_ hafter)
      rw [hk]
      exact hinside

end

/-- A fade that is reported from inside and one that is not are followed by the same line. -/
theorem headless_effects_agree_fading : ∃ e : Engine (List Intent),
    started .recording fading [] = some e ∧
    (runHeadless (Collaborators.recording.finishing 1) .null (.int 10)).perform e =
      (runHeadless .recording .null (.int 10)).perform e ∧
    ((runHeadless .recording .null (.int 10)).perform e).2.outside.map Intent.kind =
      [.fadeBegin, .fadeEnd, .showText] := by
  have hfacts : (started .recording fading []).map (fun e =>
      (e.stepping,
        ((driven (Collaborators.recording.finishing 1) .null 10).perform e).1.toOption,
        ((driven .recording .null 10).perform e).1.toOption,
        ((runHeadless (Collaborators.recording.finishing 1) .null
          (.int 10)).perform e).2.error.isNone,
        ((runHeadless .recording .null (.int 10)).perform e).2.outside.map Intent.kind)) =
      some (false, some true, some true, true, [.fadeBegin, .fadeEnd, .showText]) := by
    decide +kernel
  obtain ⟨e, he, hfacts⟩ := Option.map_eq_some_iff.1 hfacts
  simp only [Prod.mk.injEq] at hfacts
  obtain ⟨hstepping, hinside, hafter, herror, hsent⟩ := hfacts
  refine ⟨e, he, ?_, hsent⟩
  refine headless_effects_agree Collaborators.recording_quiet (fun b => ?_) hstepping ?_ ?_ ?_
  · have h := Collaborators.recording_heedless [] fun _ => b
    rw [veiled_nil] at h
    exact h
  · intro h
    have hfalse := (congrArg Except.toOption h).symm.trans hinside
    cases hfalse
  · intro h
    have hfalse := (congrArg Except.toOption h).symm.trans hafter
    cases hfalse
  · rintro ⟨error, conversation, h, -⟩
    rw [h] at herror
    cases herror

end Engine

end VisualNovel
