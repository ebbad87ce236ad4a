import VisualNovel.Proofs.Reachable

/-!
# Playing beat by beat

A small step plays the beat at the cursor and nothing else; an error of the story ends the session.
Small steps have no budget and may go on for ever. `Engine.step_refines` compares a step with them:
if small steps come to a halt within the budget of commands, a step comes to the same, and if they
do not, a step plays as many commands as the budget allows and ends the session with an error.
-/

namespace VisualNovel

open Script

variable {σ : Type}

namespace Engine

/-- Plays the beat at the cursor. An error of the story ends the session. -/
def smallStep (c : Collaborators σ) : Play σ Unit :=
  orFail c (playBeat c)

/-- How many commands the beat at the cursor is. -/
def cost (e : Engine σ) : Nat :=
  match e.cursor.current with
  | some (.command _) => 1
  | _ => 0

/-- Small steps lead from the first engine to the second, over so many commands. -/
inductive Iterates (c : Collaborators σ) : Nat → Engine σ → Engine σ → Prop where
  | refl (e : Engine σ) : Iterates c 0 e e
  | beat {n : Nat} {e e₁ e₂ : Engine σ} : e.running → (smallStep c).perform e = (.ok (), e₁) →
    Iterates c n e₁ e₂ → Iterates c (n + e.cost) e e₂

/-- Small steps come to a halt after so many commands: the engine waits for somebody or has ended,
or a small step has stopped with a fault. -/
inductive Halts (c : Collaborators σ) : Nat → Engine σ → Except Fault Unit → Engine σ → Prop where
  | rests {e : Engine σ} : e.running = false → Halts c 0 e (.ok ()) e
  | stops {e e' : Engine σ} {f : Fault} : e.running → (smallStep c).perform e = (.error f, e') →
    Halts c e.cost e (.error f) e'
  | beat {n : Nat} {e e₁ e' : Engine σ} {r : Except Fault Unit} : e.running →
    (smallStep c).perform e = (.ok (), e₁) → Halts c n e₁ r e' → Halts c (n + e.cost) e r e'

variable {c : Collaborators σ} {w : Watch σ} {e e' : Engine σ}

/-! ## One beat -/

theorem cost_of_command {cmd : Script.Command} (h : e.cursor.current = some (.command cmd)) :
    e.cost = 1 := by
  rw [cost, h]

theorem cost_of_other (h : ∀ cmd, e.cursor.current ≠ some (.command cmd)) : e.cost = 0 := by
  unfold cost
  split
  · next cmd hcmd => exact absurd hcmd (h cmd)
  · rfl

theorem orFail_perform (act : Play σ Unit) (e : Engine σ) : (orFail c act).perform e =
    match act.perform e with
    | (.error (.story error), e₁) => (fail c error).perform e₁
    | (r, e₁) => (r, e₁) := by
  rcases h : act.perform e with ⟨r, e₁⟩
  have houtcome : (Action.outcome act).perform e = (.ok r, e₁) := by
    rw [Action.perform_outcome, h]
  unfold orFail
  rw [Action.perform_bind_ok houtcome]
  rcases r with (error | m) | ⟨⟩ <;> rfl

theorem fail_ended (hc : Quiet c w True) {error : StoryError}
    (h : (fail c error).perform e = (.ok (), e')) : e'.mode = .ended := by
  by_cases hmode : e.mode = .ended
  · have hfinished : e.finished = true := by simp [finished, hmode]
    have hsame : (fail c error).perform e = (.ok (), e) := by
      show (if e.finished then _ else _ : Play σ Unit).perform e = _
      rw [hfinished]
      rfl
    rw [hsame] at h
    cases h
    exact hmode
  · obtain ⟨⟨x, rfl, -⟩, -⟩ := (Ends.iff_perform.1 (fail_leads hc hmode error)).1 _ e' h
    rfl

/-- Once an error has ended the session there is nothing to play. -/
theorem fail_halts (hc : Quiet c w True) {error : StoryError}
    (h : (fail c error).perform e = (.ok (), e')) : e'.running = false := by
  simp [running, fail_ended hc h]

/-- A beat that is no command leaves nothing to play. -/
theorem playBeat_halts (hc : Quiet c w True) (hr : e.running)
    (hother : ∀ cmd, e.cursor.current ≠ some (.command cmd)) :
    Runs True (playBeat c) e fun _ e' => e'.running = false := by
  unfold playBeat
  refine Leads.get_bind ?_
  split
  · refine (finish_runs hc (by simp [(running_iff.1 hr).1])).mono ?_
    rintro _ _ ⟨x, rfl, -⟩
    rfl
  · next d _ =>
    refine (display_waits hc (.inl trivial) d.speaker e).mono ?_
    rintro _ _ ⟨t, visible, -, x, rfl, -⟩
    simp [running, within, waiting]
  · next cmd hcmd => exact absurd hcmd (hother cmd)

theorem smallStep_halts (hc : Quiet c w True) (hr : e.running)
    (hother : ∀ cmd, e.cursor.current ≠ some (.command cmd))
    (h : (smallStep c).perform e = (.ok (), e')) : e'.running = false := by
  obtain ⟨hok, herror⟩ := Ends.iff_perform.1 (playBeat_halts hc hr hother)
  rw [smallStep, orFail_perform] at h
  split at h
  · next error e₁ hrun => exact (herror _ e₁ hrun).elim
  · next r e₁ hrun =>
    cases h
    exact hok _ _ hrun

/-! ## The loop of a step -/

theorem playBeats_idle {turns budget : Nat} (h : e.running = false) :
    (playBeats c turns budget).perform e = (.ok (), e) := by
  cases turns with
  | zero => rfl
  | succ turns =>
    unfold playBeats
    show (if !e.running then _ else _ : Play σ Unit).perform e = _
    rw [h]
    rfl

/-- The loop plays the beat at the cursor and goes on with what is left of the budget. -/
theorem playBeats_succ (hc : Quiet c w True) (hr : e.running) {turns budget : Nat}
    (hcost : e.cost ≤ budget) : (playBeats c (turns + 1) budget).perform e =
      (playBeat c >>= fun _ => playBeats c turns (budget - e.cost)).perform e := by
  rw [playBeats, Action.perform_get_bind, playBeat, bind_assoc, Action.perform_get_bind]
  simp only [hr, Bool.not_true, Bool.false_eq_true, if_false]
  cases hcur : e.cursor.current with
  | none =>
    -- Nothing is left to play when the session has ended.
    have hfinish : Runs True (finish c) e fun _ e' => e'.running = false := by
      have hbeat := playBeat_halts hc hr (by simp [hcur])
      rw [playBeat, Runs, Leads, Ends.bind_iff, Ends.get_iff, hcur] at hbeat
      exact hbeat
    rcases hrun : (finish c).perform e with ⟨f | ⟨⟩, e₁⟩
    · exact (Action.perform_bind_error hrun).symm
    · have hidle := (Ends.iff_perform.1 hfinish).1 _ e₁ hrun
      rw [Action.perform_bind_ok hrun, playBeats_idle hidle]
  | some beat =>
    cases beat with
    | dialogue d => rw [cost_of_other (by simp [hcur])]; rfl
    | command cmd =>
      rw [cost_of_command hcur] at hcost ⊢
      cases budget with
      | zero => omega
      | succ budget => rfl

theorem playBeats_over (hr : e.running) {cmd : Script.Command}
    (hcmd : e.cursor.current = some (.command cmd)) (turns : Nat) :
    (playBeats c (turns + 1) 0).perform e = (.error (.story (e.neverYields cmd.line)), e) := by
  rw [playBeats, Action.perform_get_bind]
  simp only [hr, hcmd, Bool.not_true, Bool.false_eq_true, if_false]
  rfl

/-- The loop and what comes of its errors, as a small step and the rest of the loop. -/
theorem orFail_playBeats (hc : Quiet c w True) (hr : e.running) {turns budget : Nat}
    (hcost : e.cost ≤ budget) : (orFail c (playBeats c (turns + 1) budget)).perform e =
      (smallStep c >>= fun _ => orFail c (playBeats c turns (budget - e.cost))).perform e := by
  rw [orFail_perform, playBeats_succ hc hr hcost]
  have hstep : (smallStep c).perform e = _ := orFail_perform (playBeat c) e
  rcases hrun : (playBeat c).perform e with ⟨(error | m) | ⟨⟩, e₁⟩
  · rw [hrun] at hstep
    rw [Action.perform_bind_error hrun]
    rcases hfail : (fail c error).perform e₁ with ⟨f | ⟨⟩, e₂⟩
    · rw [Action.perform_bind_error (hstep.trans hfail)]
      exact hfail
    · rw [Action.perform_bind_ok (hstep.trans hfail), orFail_perform,
        playBeats_idle (fail_halts hc hfail)]
      exact hfail
  · rw [hrun] at hstep
    rw [Action.perform_bind_error hrun, Action.perform_bind_error hstep]
  · rw [hrun] at hstep
    rw [Action.perform_bind_ok hrun, Action.perform_bind_ok hstep, orFail_perform]

/-- Small steps that come to a halt within the budget are what the loop plays. Turns do not run out,
since a beat that takes nothing from the budget is the last one. -/
theorem playBeats_of_halts (hc : Quiet c w True) {n turns budget : Nat} {r : Except Fault Unit}
    (h : Halts c n e r e') (hn : n ≤ budget) (hturns : e.running → budget < turns) :
    (orFail c (playBeats c turns budget)).perform e = (r, e') := by
  induction h generalizing turns budget with
  | rests hidle => rw [orFail_perform, playBeats_idle hidle]
  | stops hr hrun =>
    obtain ⟨turns, rfl⟩ := Nat.exists_eq_add_of_lt (hturns hr)
    rw [orFail_playBeats hc hr hn, Action.perform_bind_error hrun]
  | @beat n e e₁ e' r hr hrun _ ih =>
    have hlt := hturns hr
    obtain ⟨turns, rfl⟩ : ∃ t, turns = t + 1 := ⟨turns - 1, by omega⟩
    rw [orFail_playBeats hc hr (by omega), Action.perform_bind_ok hrun]
    refine ih (by omega) fun hr₁ => ?_
    by_cases hcmd : ∃ cmd, e.cursor.current = some (.command cmd)
    · obtain ⟨cmd, hcmd⟩ := hcmd
      have hcost := cost_of_command hcmd
      omega
    · have hidle := smallStep_halts hc hr (fun cmd h => hcmd ⟨cmd, h⟩) hrun
      rw [hidle] at hr₁
      cases hr₁

/-- Small steps that do not come to a halt within the budget have a command to play next. -/
theorem command_of_overrun (hc : Quiet c w True) {budget : Nat}
    (h : ∀ n r e', Halts c n e r e' → budget < n) :
    e.running ∧ ∃ cmd, e.cursor.current = some (.command cmd) := by
  have hr : e.running := by
    cases hr : e.running with
    | true => rfl
    | false => exact absurd (h 0 _ e (.rests hr)) (Nat.not_lt_zero _)
  refine ⟨hr, Classical.byContradiction fun hcmd => ?_⟩
  have hother : ∀ cmd, e.cursor.current ≠ some (.command cmd) := fun cmd h => hcmd ⟨cmd, h⟩
  have hcost := cost_of_other hother
  rcases hrun : (smallStep c).perform e with ⟨f | ⟨⟩, e₁⟩
  · have hlt := h _ _ _ (.stops hr hrun)
    omega
  · have hlt := h _ _ _ (.beat hr hrun (.rests (smallStep_halts hc hr hother hrun)))
    omega

/-- Small steps that do not come to a halt within the budget are cut off when it is spent. -/
theorem playBeats_of_overrun (hc : Quiet c w True) {turns budget : Nat}
    (h : ∀ n r e', Halts c n e r e' → budget < n) (hturns : budget < turns) :
    ∃ e₁ cmd, Iterates c budget e e₁ ∧ e₁.running ∧ e₁.cursor.current = some (.command cmd) ∧
      (orFail c (playBeats c turns budget)).perform e =
        (fail c (e₁.neverYields cmd.line)).perform e₁ := by
  induction budget generalizing e turns with
  | zero =>
    obtain ⟨hr, cmd, hcmd⟩ := command_of_overrun hc h
    obtain ⟨turns, rfl⟩ : ∃ t, turns = t + 1 := ⟨turns - 1, by omega⟩
    refine ⟨e, cmd, .refl e, hr, hcmd, ?_⟩
    rw [orFail_perform, playBeats_over hr hcmd]
  | succ budget ih =>
    obtain ⟨hr, cmd, hcmd⟩ := command_of_overrun hc h
    have hcost := cost_of_command hcmd
    obtain ⟨turns, rfl⟩ : ∃ t, turns = t + 1 := ⟨turns - 1, by omega⟩
    rcases hrun : (smallStep c).perform e with ⟨f | ⟨⟩, e₁⟩
    · have hlt := h _ _ _ (.stops hr hrun)
      omega
    · have hrest : ∀ n r e', Halts c n e₁ r e' → budget < n := by
        intro n r e' hhalts
        have hlt := h _ _ _ (.beat hr hrun hhalts)
        omega
      obtain ⟨e₂, cmd₂, hiter, hr₂, hcmd₂, hloop⟩ := ih hrest (by omega : budget < turns)
      refine ⟨e₂, cmd₂, hcost ▸ hiter.beat hr hrun, hr₂, hcmd₂, ?_⟩
      rw [orFail_playBeats hc hr (by omega), Action.perform_bind_ok hrun, hcost]
      exact hloop

/-! ## A step -/

/-- The result of a step and the engine afterwards, when its loop has ended. -/
def concluded (r : Except Fault Unit) (e : Engine σ) : Except Fault Bool × Engine σ :=
  (r.map fun _ => !e.finished, { e with stepping := false })

theorem step_perform (hr : e.running) (hstepping : e.stepping = false) {r : Except Fault Unit}
    (h : (orFail c (playBeats c turnsPerStep commandBudget)).perform { e with stepping := true } =
      (r, e')) : (step c).perform e = concluded r e' := by
  have houtcome : (Action.outcome (orFail c (playBeats c turnsPerStep commandBudget))).perform
      { e with stepping := true } = (.ok r, e') := by
    rw [Action.perform_outcome, h]
  unfold step
  rw [Action.perform_get_bind, hr, hstepping]
  simp only [Bool.not_false, Bool.and_self, if_true]
  rw [Action.perform_modify_bind, Action.perform_bind_ok houtcome, Action.perform_modify_bind]
  cases r with
  | error f => rfl
  | ok _ => rfl

/-- What is known when small steps are cut off: a command is the next beat, and the session is ended
with an error without anything of that command. A strict engine passes the error on. Only a mishap
of a collaborator can come between. -/
structure CutOff (w : Watch σ) (may : Prop) (e₁ : Engine σ) (r : Except Fault Unit)
    (e' : Engine σ) : Prop where
  running : e₁.running
  next : ∃ cmd error, e₁.cursor.current = some (.command cmd) ∧
    error = e₁.neverYields cmd.line ∧ error.cause.category = .navigation ∧
    (r = (if e₁.strict then .error (.story error) else .ok ()) ∧
      Aside w [] { e₁.closed with error := some error } e' ∨ may ∧ tame r = false)

theorem cutOff_of_fail {may : Prop} (hc : Quiet c w may) (hr : e.running) {cmd : Script.Command}
    (hcmd : e.cursor.current = some (.command cmd)) {r : Except Fault Unit}
    (hfail : (fail c (e.neverYields cmd.line)).perform e = (r, e')) : CutOff w may e r e' := by
  refine ⟨hr, cmd, _, hcmd, rfl, rfl, ?_⟩
  have hmode : e.mode ≠ .ended := by
    simp [(running_iff.1 hr).1]
  obtain ⟨hok, herror⟩ := Ends.iff_perform.1 (fail_leads hc hmode (e.neverYields cmd.line))
  rcases r with (error | m) | ⟨⟩
  · obtain ⟨haside, hstrict, rfl⟩ := herror _ e' hfail
    exact .inl ⟨by rw [hstrict]; rfl, haside⟩
  · exact .inr ⟨herror _ e' hfail, rfl⟩
  · obtain ⟨haside, hstrict⟩ := hok _ e' hfail
    exact .inl ⟨by rw [hstrict]; rfl, haside⟩

/-- A step refines small steps. If these come to a halt within the budget, the step ends with the
same result in the same state, and so with the same intents and events. If they do not, the step
plays as many commands as the budget allows and is cut off. -/
theorem step_refines {may : Prop} (hc : Quiet c w may) (hr : e.running)
    (hstepping : e.stepping = false) :
    (∀ n r e', Halts c n { e with stepping := true } r e' → n ≤ commandBudget →
      (step c).perform e = concluded r e') ∧
    ((∀ n r e', Halts c n { e with stepping := true } r e' → commandBudget < n) →
      ∃ e₁ r e', Iterates c commandBudget { e with stepping := true } e₁ ∧
        CutOff w may e₁ r e' ∧ (step c).perform e = concluded r e') := by
  have hany : Quiet c w True := hc.loosen fun _ => trivial
  have hturns : commandBudget < turnsPerStep := by decide
  constructor
  · intro n r e' hhalts hn
    exact step_perform hr hstepping (playBeats_of_halts hany hhalts hn fun _ => hturns)
  · intro hover
    obtain ⟨e₁, cmd, hiter, hr₁, hcmd, hloop⟩ := playBeats_of_overrun hany hover hturns
    rcases hfail : (fail c (e₁.neverYields cmd.line)).perform e₁ with ⟨r, e'⟩
    exact ⟨e₁, r, e', hiter, cutOff_of_fail hc hr₁ hcmd hfail,
      step_perform hr hstepping (hloop.trans hfail)⟩

/-! ## A conversation without end -/

/-- A command that goes to the start. -/
def again : Script.Command :=
  { kind := .setConversation, args := [.text "start"] }

/-- The start of a conversation that only goes to its own start. -/
def circle : Cursor :=
  { script := { conversations := [("start", #[.command again])] }, beats := #[.command again]
    conversation := "start" }

/-- The engine is free to play the conversation without end. -/
structure Circles (e : Engine σ) : Prop where
  running : e.running
  cursor : e.cursor = circle
  script : e.script = circle.script
  strict : e.strict = false

theorem again_perform {s : Stage} (h : s.session.cursor = circle) :
    (Command.perform again).perform s = (.ok .stay, s.mapCursor fun _ => circle) := by
  show (Stage.switchConversation (.text "start") >>= fun _ => pure Outcome.stay).perform s = _
  unfold Stage.switchConversation
  simp only [bind_assoc]
  rw [Action.perform_get_bind, h]
  rfl

theorem Circles.playBeat (hc : Quiet c w False) (h : e.Circles) :
    Runs False (playBeat c) e fun _ e' => e'.Circles := by
  have hcurrent : circle.current = some (.command again) := rfl
  have hwell : Command.wellFormed again = true := by decide
  unfold Engine.playBeat execute
  refine Leads.get_bind ?_
  rw [h.cursor, hcurrent]
  simp only [hwell, Bool.not_true, Bool.false_eq_true, if_false]
  refine (emit_runs hc _ e).bind fun _ e₁ h₁ => ?_
  obtain ⟨x, rfl, -⟩ := h₁
  refine Leads.bind (P := fun o e₂ => o = .stay ∧ e₂.Circles) ?_ ?_
  · exact Leads.onPart (Ends.of_perform (again_perform h.cursor)
      ⟨rfl, h.running, rfl, h.script, h.strict⟩)
  · rintro o e₂ ⟨rfl, h₂⟩
    exact h₂

theorem Circles.smallStep (hc : Quiet c w False) (h : e.Circles) :
    ∃ e₁, (smallStep c).perform e = (.ok (), e₁) ∧ e₁.Circles := by
  obtain ⟨⟨⟩, e₁, hrun, h₁⟩ := (h.playBeat hc).performs
  refine ⟨e₁, ?_, h₁⟩
  rw [Engine.smallStep, orFail_perform, hrun]

theorem Circles.iterates (hc : Quiet c w False) (h : e.Circles) {n : Nat}
    (hiter : Iterates c n e e') : e'.Circles := by
  induction hiter with
  | refl => exact h
  | beat _ hrun _ ih =>
    obtain ⟨e₁, hok, h₁⟩ := h.smallStep hc
    rw [hok] at hrun
    cases hrun
    exact ih h₁

theorem Circles.not_halts (hc : Quiet c w False) (h : e.Circles) {n : Nat}
    {r : Except Fault Unit} : ¬Halts c n e r e' := by
  intro hhalts
  induction hhalts with
  | rests hidle =>
    rw [h.running] at hidle
    cases hidle
  | stops _ hrun =>
    obtain ⟨e₁, hok, -⟩ := h.smallStep hc
    rw [hok] at hrun
    cases hrun
  | beat _ hrun _ ih =>
    obtain ⟨e₁, hok, h₁⟩ := h.smallStep hc
    rw [hok] at hrun
    cases hrun
    exact ih h₁

/-- An engine at the start of the conversation without end. -/
def circling : Engine (List Intent) :=
  { stage := { config := .default, script := circle.script, session := { cursor := circle } }
    mode := .normal
    outside := [] }

/-- A step of the conversation without end ends the session. -/
theorem step_refines_circling : ∃ e', (step .recording).perform circling = (.ok false, e') ∧
    e'.mode = .ended ∧ e'.error = some { cause := .neverYields "start", line := .int 0 } := by
  have hc := Collaborators.recording_quiet
  have hcircles : ({ circling with stepping := true } : Engine (List Intent)).Circles :=
    ⟨rfl, rfl, rfl, rfl⟩
  have hover : ∀ n r e', Halts .recording n { circling with stepping := true } r e' →
      commandBudget < n := fun n r e' hhalts => absurd hhalts (hcircles.not_halts hc)
  obtain ⟨e₁, r, e₂, hiter, ⟨-, cmd, error, hcmd, rfl, -, hend⟩, hstep⟩ :=
    (step_refines hc (e := circling) rfl rfl).2 hover
  have h₁ := hcircles.iterates hc hiter
  have hcurrent : circle.current = some (.command again) := rfl
  rw [h₁.cursor, hcurrent] at hcmd
  cases hcmd
  rcases hend with ⟨hr, x, rfl, -⟩ | ⟨hmay, -⟩
  · rw [h₁.strict] at hr
    have herror : e₁.neverYields again.line =
        { cause := .neverYields "start", line := .int 0 } := by
      rw [neverYields, h₁.cursor, h₁.script]
      rfl
    rw [hr] at hstep
    exact ⟨_, hstep, rfl, congrArg some herror⟩
  · exact hmay.elim

end Engine

end VisualNovel
