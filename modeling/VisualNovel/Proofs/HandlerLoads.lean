import VisualNovel.Proofs.Chronicle
import VisualNovel.Proofs.Restoration
import VisualNovel.Proofs.SmallSteps

/-!
# Loading within a call of the script

A script may call its host, and the handler of the host may load a save. The engine is then in the
middle of a beat. When the handler returns, the call of the script is completed like any other beat:
the cursor moves on by one, but it is the cursor of the save by now. So the session that was loaded
does not stand at the beat that was saved but behind it, unless it stands at the end of its
conversation (`HostCall.passes_loaded_beat`). A host that loads between its calls does not lose that
beat (`Engine.load_lands`).
-/

namespace VisualNovel

open Script

variable {σ : Type}

namespace Cursor

/-- A place that lies in its conversation is taken up as it is. -/
theorem rebind_position_iff {script : Script} {p : Position} {cursor : Cursor}
    (h : rebind script p = .ok cursor) :
    cursor.position = p ↔ 0 ≤ p.index ∧ p.index ≤ cursor.beats.size ∧ 0 ≤ p.completed := by
  obtain ⟨beats, -, h⟩ := bind_eq_ok.1 h
  cases h
  obtain ⟨conversation, index, completed⟩ := p
  simp only [position, clamp, Position.mk.injEq, true_and]
  omega

/-- Only at the end of a conversation no beat can be completed. -/
theorem advance_eq_self_iff {cursor : Cursor} : cursor.advance = cursor ↔ cursor.exhausted := by
  obtain ⟨script, beats, conversation, index, completed⟩ := cursor
  simp only [advance, exhausted, Cursor.mk.injEq, true_and, decide_eq_true_eq]
  omega

theorem advance_position_iff {cursor : Cursor} :
    cursor.advance.position = cursor.position ↔ cursor.exhausted := by
  simp only [position, advance, exhausted, Position.mk.injEq, true_and, decide_eq_true_eq]
  omega

end Cursor

namespace Engine

variable {c : Collaborators σ} {e e' e'' : Engine σ} {t : Snapshot}

/-! ## Where a load leads to -/

/-- The engine loads, and stands where the snapshot was made. -/
structure Lands (t : Snapshot) (e : Engine σ) : Prop where
  mode : e.mode = .loading
  cursor : Cursor.rebind e.script t.cursor = .ok e.cursor

theorem restore_lands (hc : c.Still) (t : Snapshot) (e : Engine σ) :
    Ends (restore c t) e (fun _ e' => e'.Lands t) fun _ _ => True := by
  refine restore_ends ((scriptOf_ends t e.stage).mono (fun _ _ h => h) fun _ _ _ => trivial)
    (fun _ _ _ _ _ => trivial) fun cursor s _ hcursor => ?_
  refine (Tracks.iff_ends.1 Stage.retimeFromSession_timed _).mono ?_ fun _ _ _ => trivial
  rintro _ _ ⟨u, rfl⟩
  refine (enterLoading_still hc _).mono ?_ fun _ _ _ => trivial
  rintro _ _ ⟨⟨y, rfl⟩, -⟩
  exact ⟨rfl, hcursor⟩

theorem loadFrom_lands (hc : c.Still) {read : Attempt Disk (Option Value)}
    (ht : Holds read e.stage.disk t) :
    Ends (loadFrom c read) e (fun loaded e' => loaded → e'.Lands t) fun _ _ => True := by
  obtain ⟨data, d, hread, hof⟩ := ht
  refine loadFrom_ends (fun _ _ _ _ => trivial) (fun _ _ _ => nofun) ?_
  intro data' t' d' hfound ht'
  cases hread.symm.trans hfound
  cases hof.symm.trans ht'
  exact (restore_lands hc t _).mono (fun _ _ h _ => h) fun _ _ _ => trivial

/-- A call that loads a snapshot leads to where it was made. -/
theorem load_lands (hc : c.Still) {call : HostCall} (ht : call.Brings e t) :
    Ends (call.load c) e (fun loaded e' => loaded → e'.Lands t) fun _ _ => True := by
  cases call with
  | restore t' =>
    cases ht
    exact Ends.bind_iff.2 ((restore_lands hc t e).mono (fun _ _ h _ => h) fun _ _ _ => trivial)
  | loadFromSlot slot =>
    obtain ⟨store, n, hsaves, hslot, hholds⟩ := ht
    refine withStore_ends (fun _ => nofun) fun store' hstore' => ?_
    cases hsaves.symm.trans hstore'
    refine Ends.bind_iff.2 (Ends.ofMishap_iff.2 ⟨fun m hm => ?_, fun _ _ => trivial⟩)
    cases hslot.symm.trans hm
    exact loadFrom_lands hc hholds
  | quickload =>
    obtain ⟨store, hsaves, hholds⟩ := ht
    refine withStore_ends (fun _ => nofun) fun store' hstore' => ?_
    cases hsaves.symm.trans hstore'
    exact loadFrom_lands hc hholds
  | _ => exact ht.elim

/-! ## The loop of a step -/

/-- With so many turns and so much of the budget, the loop of a step comes from the first engine to
the second, where so many turns and so much of the budget are left. -/
inductive Arrives (c : Collaborators σ) : Nat → Nat → Engine σ → Nat → Nat → Engine σ → Prop
  | refl {turns budget : Nat} {e : Engine σ} : Arrives c turns budget e turns budget e
  | line {turns budget t b : Nat} {e e₁ e₂ : Engine σ} {d : Dialogue} : e.running →
    e.cursor.current = some (.dialogue d) →
    (display c d.text d.speaker true).perform e = (.ok (), e₁) →
    Arrives c turns budget e₁ t b e₂ → Arrives c (turns + 1) budget e t b e₂
  | command {turns budget t b : Nat} {e e₁ e₂ : Engine σ} {cmd : Script.Command} : e.running →
    e.cursor.current = some (.command cmd) → (execute c cmd).perform e = (.ok (), e₁) →
    Arrives c turns budget e₁ t b e₂ → Arrives c (turns + 1) (budget + 1) e t b e₂

theorem playBeats_line {turns budget : Nat} (hr : e.running) {d : Dialogue}
    (hcur : e.cursor.current = some (.dialogue d))
    (hrun : (display c d.text d.speaker true).perform e = (.ok (), e')) :
    (playBeats c (turns + 1) budget).perform e = (playBeats c turns budget).perform e' := by
  rw [playBeats, Action.perform_get_bind]
  simp only [hr, hcur, Bool.not_true, Bool.false_eq_true, if_false]
  exact Action.perform_bind_ok hrun

theorem playBeats_command {turns budget : Nat} (hr : e.running) {cmd : Script.Command}
    (hcur : e.cursor.current = some (.command cmd))
    (hrun : (execute c cmd).perform e = (.ok (), e')) :
    (playBeats c (turns + 1) (budget + 1)).perform e = (playBeats c turns budget).perform e' := by
  rw [playBeats, Action.perform_get_bind]
  simp only [hr, hcur, Bool.not_true, Bool.false_eq_true, if_false]
  exact Action.perform_bind_ok hrun

/-- From where it comes to, the loop does what it does on the whole. -/
theorem Arrives.perform {turns budget t b : Nat} (h : Arrives c turns budget e t b e') :
    (playBeats c turns budget).perform e = (playBeats c t b).perform e' := by
  induction h with
  | refl => rfl
  | line hr hcur hrun _ ih => exact (playBeats_line hr hcur hrun).trans ih
  | command hr hcur hrun _ ih => exact (playBeats_command hr hcur hrun).trans ih

/-- A step in which the loop comes to a beat that starts to load is over with it. -/
theorem step_of_arrives {t b : Nat} {e₀ e₁ : Engine σ} (hr : e.running)
    (hstepping : e.stepping = false)
    (harrives : Arrives c turnsPerStep commandBudget { e with stepping := true } (t + 1) (b + 1) e₀)
    (hr₀ : e₀.running) {cmd : Script.Command} (hcur : e₀.cursor.current = some (.command cmd))
    (hrun : (execute c cmd).perform e₀ = (.ok (), e₁)) (hmode : e₁.mode = .loading) :
    (step c).perform e = (.ok true, { e₁ with stepping := false }) := by
  have hidle : e₁.running = false := by simp [running, hmode]
  have hloop : (playBeats c turnsPerStep commandBudget).perform { e with stepping := true } =
      (.ok (), e₁) := by
    rw [harrives.perform, playBeats_command hr₀ hcur hrun, playBeats_idle hidle]
  have hplayed : (orFail c (playBeats c turnsPerStep commandBudget)).perform
      { e with stepping := true } = (.ok (), e₁) := by
    rw [orFail_perform, hloop]
  rw [step_perform hr hstepping hplayed]
  simp [concluded, finished, hmode, Except.map]

/-! ## Handlers -/

/-- From one engine to the other, a call of the script is answered by a load of the snapshot. The
handler may do anything before, and leaves the engine alone afterwards. -/
def AnsweredByLoad (c : Collaborators σ) (args : List Value) (t : Snapshot) (e e' : Engine σ) :
    Prop :=
  ∃ (first last : Play σ Unit) (call : HostCall) (e₁ e₂ : Engine σ),
    c.systemCall args = (do first; call.run c; last) ∧ first.perform e = (.ok (), e₁) ∧
    call.Brings e₁ t ∧ (call.load c).perform e₁ = (.ok true, e₂) ∧
    last.perform e₂ = (.ok (), e') ∧ Within e₂ e'

/-- A handler that a host has registered for a name answers the calls of this name. -/
theorem answerCall_registered {ι : Type} {calls : SystemCalls ι}
    {custom : ι → List Value → Play σ Value} {head v : Value} {rest : List Value} {id : ι}
    {call : HostCall} {first : Play σ Unit}
    (hid : Table.get? (SystemCalls.callName head) calls.handlers = some (.custom id))
    (hcustom : custom id rest = (do first; call.run c; pure v)) :
    answerCall calls custom (head :: rest) = (do first; call.run c; pure ()) := by
  simp only [answerCall, SystemCalls.send, hid, hcustom, HostCall.discard_eq, bind_assoc, pure_bind]

theorem AnsweredByLoad.perform {args : List Value} (h : AnsweredByLoad c args t e e') :
    (c.systemCall args).perform e = (.ok (), e') := by
  obtain ⟨first, last, call, e₁, e₂, hhandler, hfirst, -, hload, hlast, -⟩ := h
  have hrun : (call.run c).perform e₁ = (.ok (), e₂) := by
    rw [HostCall.run_eq_discard_load, HostCall.discard_eq]
    exact Action.perform_bind_ok hload
  rw [hhandler, Action.perform_bind_ok hfirst, Action.perform_bind_ok hrun]
  exact hlast

theorem AnsweredByLoad.lands (hc : c.Still) {args : List Value} (h : AnsweredByLoad c args t e e') :
    e'.Lands t := by
  obtain ⟨-, -, call, e₁, e₂, -, -, hbrings, hload, -, x, rfl⟩ := h
  have hlands := (Ends.iff_perform.1 (load_lands hc hbrings)).1 true e₂ hload rfl
  exact ⟨hlands.mode, hlands.cursor⟩

/-- The call is answered, and then its beat is completed. -/
theorem execute_answered {cmd : Script.Command} (hkind : cmd.kind = .systemCall)
    (hwf : Command.wellFormed cmd)
    (h : (c.systemCall (cmd.args.map Command.callArgument)).perform
      ((emit c (.commandRun cmd.kind.keyword cmd.args cmd.line)).perform e).2 = (.ok (), e')) :
    (execute c cmd).perform e = (.ok (), e'.mapStage (Stage.mapCursor fun x => x.advance)) := by
  have hcall : Command.perform cmd = pure (.call (cmd.args.map Command.callArgument)) := by
    obtain ⟨kind, args, line⟩ := cmd
    cases hkind
    rfl
  rw [execute, if_neg (by simp [hwf]), Action.perform_bind_ok (emit_perform c _ e), hcall]
  have hnothing : ∀ f : Engine σ, (onStage (pure (.call (cmd.args.map Command.callArgument))) :
      Play σ Outcome).perform f = (.ok (.call (cmd.args.map Command.callArgument)), f) :=
    fun _ => rfl
  rw [Action.perform_bind_ok (hnothing _), settle, Action.perform_bind_ok h]
  rfl

end Engine

/-! ## Calls of the host -/

namespace HostCall

open Engine

/-- In the call, the engine comes to a command that is to be executed next. -/
def Executes (c : Collaborators σ) (call : HostCall) (e : Engine σ) (cmd : Script.Command)
    (e' : Engine σ) : Prop :=
  ∃ e₁ turns budget, (call.opening c).perform e = (.ok true, e₁) ∧ e₁.running ∧
    e₁.stepping = false ∧
    Arrives c turnsPerStep commandBudget { e₁ with stepping := true } (turns + 1) (budget + 1) e' ∧
    e'.running ∧ e'.cursor.current = some (.command cmd)

/-- A handler has loaded a snapshot in the middle of a call of the host. When the call returns, the
engine loads, and all is as the load has left it but for the cursor: the beat at which the snapshot
was made is completed unplayed. So a place that lies in its conversation is the one of the snapshot
only if no beat is left there. -/
theorem passes_loaded_beat {c : Collaborators σ} (hc : c.Still) {call : HostCall}
    {e e₁ e₂ : Engine σ} {cmd : Script.Command} {t : Snapshot} (hexec : call.Executes c e cmd e₁)
    (hkind : cmd.kind = .systemCall) (hwf : Command.wellFormed cmd)
    (hhandler : AnsweredByLoad c (cmd.args.map Command.callArgument) t
      ((emit c (.commandRun cmd.kind.keyword cmd.args cmd.line)).perform e₁).2 e₂) :
    ∃ cursor e', (call.run c).perform e = (.ok (), e') ∧ e'.mode = .loading ∧
      Cursor.rebind e₂.script t.cursor = .ok cursor ∧ e'.cursor = cursor.advance ∧
      e' = { e₂.mapStage (Stage.mapCursor fun x => x.advance) with stepping := false } ∧
      (e'.cursor = cursor ↔ cursor.exhausted) ∧
      (0 ≤ t.cursor.index ∧ t.cursor.index ≤ cursor.beats.size ∧ 0 ≤ t.cursor.completed →
        (e'.cursor.position = t.cursor ↔ cursor.exhausted)) := by
  have hlands := hhandler.lands hc
  obtain ⟨e₀, turns, budget, hopening, hr, hstepping, harrives, hr₁, hcur⟩ := hexec
  let e₃ : Engine σ := e₂.mapStage (Stage.mapCursor fun x => x.advance)
  have hstep : (Engine.step c).perform e₀ = (.ok true, { e₃ with stepping := false }) :=
    step_of_arrives hr hstepping harrives hr₁ hcur (execute_answered hkind hwf hhandler.perform)
      hlands.mode
  have hrun : (call.run c).perform e = (.ok (), { e₃ with stepping := false }) := by
    rw [run_eq, Action.perform_bind_ok hopening, playOn, if_pos rfl, discard_eq]
    exact Action.perform_bind_ok hstep
  refine ⟨e₂.cursor, _, hrun, hlands.mode, hlands.cursor, rfl, rfl, Cursor.advance_eq_self_iff,
    fun hin => ?_⟩
  rw [← (Cursor.rebind_position_iff hlands.cursor).2 hin]
  exact Cursor.advance_position_iff

/-- A story that calls its host before it says anything. -/
def calling : Setup :=
  .telling "calling" [".systemcall:load", "One", "Two"]

/-- A save before the first line of the story. -/
def beforeOne : Snapshot :=
  { cursor := { index := 1, completed := 1 } }

/-- A host that has registered a handler which loads a save. -/
def restoring (t : Snapshot) : Collaborators (List Intent) :=
  { Collaborators.recording with
    systemCall := answerCall (({} : SystemCalls Unit).register "load" ()) fun _ _ => do
      Engine.restore .recording t
      return .null }

theorem restoring_still (t : Snapshot) : (restoring t).Still where
  prepare _ := .pure
  deliver _ _ _ := .pure

theorem restoring_answers {t : Snapshot} {e e' : Engine (List Intent)}
    (h : ((restore t).load (restoring t)).perform e = (.ok true, e')) :
    AnsweredByLoad (restoring t) [.text "load"] t e e' := by
  have hid : Table.get? (SystemCalls.callName (.text "load"))
      (({} : SystemCalls Unit).register "load" ()).handlers = some (.custom ()) := by
    decide +kernel
  exact ⟨pure (), pure (), restore t, e, e', answerCall_registered hid rfl, rfl, rfl, h, rfl,
    e'.surroundings, rfl⟩

/-- The call that the story makes, on some line. -/
def callOn (line : Value) : Script.Command :=
  ⟨.systemCall, [.text "load"], line⟩

/-- The line of the story's call, if a beat is that call. -/
def callLine? : Script.Beat → Option Value
  | .command ⟨.systemCall, [.text "load"], line⟩ => some line
  | _ => none

theorem eq_of_callLine? {beat : Script.Beat} {line : Value} (h : callLine? beat = some line) :
    beat = .command (callOn line) := by
  unfold callLine? at h
  split at h
  · cases h
    rfl
  · cases h

/-- The handler loads the save, and the story goes on behind the line before which it was made. -/
theorem passes_loaded_beat_calling : ∃ (e e₁ e₂ e' : Engine (List Intent)) (cmd : Script.Command)
    (cursor : Cursor), started (restoring beforeOne) calling [] = some e ∧
    resourcesReady.Executes (restoring beforeOne) e cmd e₁ ∧ cmd.kind = .systemCall ∧
    AnsweredByLoad (restoring beforeOne) (cmd.args.map Command.callArgument) beforeOne
      ((emit (restoring beforeOne) (.commandRun cmd.kind.keyword cmd.args cmd.line)).perform e₁).2
      e₂ ∧
    Cursor.rebind e₂.script beforeOne.cursor = .ok cursor ∧
    (resourcesReady.run (restoring beforeOne)).perform e = (.ok (), e') ∧
    e'.mode = .loading ∧ e'.cursor = cursor.advance ∧ e'.cursor.position ≠ beforeOne.cursor := by
  let opened (e : Engine (List Intent)) := (resourcesReady.opening (restoring beforeOne)).perform e
  let ahead (e : Engine (List Intent)) : Engine (List Intent) :=
    { (opened e).2 with stepping := true }
  let told (e : Engine (List Intent)) (cmd : Script.Command) :=
    ((emit (restoring beforeOne) (.commandRun cmd.kind.keyword cmd.args cmd.line)).perform
      (ahead e)).2
  let loaded (e : Engine (List Intent)) (cmd : Script.Command) :=
    ((restore beforeOne).load (restoring beforeOne)).perform (told e cmd)
  have hfacts : (started (restoring beforeOne) calling []).map (fun e =>
      (opened e).1.toOption == some true && (opened e).2.running && !(opened e).2.stepping &&
        ((ahead e).cursor.current.bind callLine?).any fun line =>
          Command.wellFormed (callOn line) && (loaded e (callOn line)).1.toOption == some true &&
            (Cursor.rebind (loaded e (callOn line)).2.script beforeOne.cursor).toOption.map
              (fun cursor => (cursor.exhausted, cursor.beats.size)) == some (false, 3)) =
      some true := by
    decide +kernel
  obtain ⟨e, he, hfacts⟩ := Option.map_eq_some_iff.1 hfacts
  simp only [Bool.and_eq_true, beq_iff_eq, Bool.not_eq_true'] at hfacts
  obtain ⟨⟨⟨hopened, hr⟩, hstepping⟩, hfacts⟩ := hfacts
  obtain ⟨line, hcur, hfacts⟩ := (Option.any_eq_true _ _).1 hfacts
  obtain ⟨beat, hcur, hline⟩ := Option.bind_eq_some_iff.1 hcur
  obtain rfl := eq_of_callLine? hline
  simp only [Bool.and_eq_true, beq_iff_eq] at hfacts
  obtain ⟨⟨hwf, hloaded⟩, hplace⟩ := hfacts
  obtain ⟨found, hfound, hplace⟩ := Option.map_eq_some_iff.1 hplace
  obtain ⟨hbefore, hsize⟩ := Prod.mk.inj hplace
  have hexec : resourcesReady.Executes (restoring beforeOne) e (callOn line) (ahead e) :=
    ⟨(opened e).2, 999999, 9999, Prod.ext (toOption_eq_some.1 hopened) rfl, hr, hstepping, .refl,
      hr, hcur⟩
  have hanswered := restoring_answers (t := beforeOne) (Prod.ext (toOption_eq_some.1 hloaded) rfl)
  obtain ⟨cursor, e', hrun, hmode, hcursor, hadvance, -, -, hposition⟩ :=
    passes_loaded_beat (restoring_still beforeOne) hexec rfl hwf hanswered
  cases (toOption_eq_some.1 hfound).symm.trans hcursor
  refine ⟨e, ahead e, _, e', _, found, he, hexec, rfl, hanswered, hcursor, hrun, hmode, hadvance,
    fun hsame => ?_⟩
  have hin : beforeOne.cursor.index ≤ found.beats.size := by
    rw [hsize]
    decide
  have hend := (hposition ⟨by decide, hin, by decide⟩).1 hsame
  rw [hbefore] at hend
  cases hend

/-- The same save is loaded once by the handler and once by the host: only the host comes to the
line before which it was made. -/
theorem handler_passes_beat : ∃ e : Engine (List Intent),
    started (restoring beforeOne) calling [] = some e ∧
    ((resourcesReady.run (restoring beforeOne)).perform e).2.mode = .loading ∧
    ((resourcesReady.run (restoring beforeOne)).perform e).2.cursor.position =
      { index := 2, completed := 2 } ∧
    (((restore beforeOne).run (restoring beforeOne)).perform e).2.cursor.position =
      beforeOne.cursor := by
  have hplays : (started (restoring beforeOne) calling []).map (fun e =>
      (((resourcesReady.run (restoring beforeOne)).perform e).2.mode,
        ((resourcesReady.run (restoring beforeOne)).perform e).2.cursor.position,
        (((restore beforeOne).run (restoring beforeOne)).perform e).2.cursor.position)) =
      some (.loading, { index := 2, completed := 2 }, beforeOne.cursor) := by
    decide +kernel
  obtain ⟨e, he, hplays⟩ := Option.map_eq_some_iff.1 hplays
  obtain ⟨hmode, hrest⟩ := Prod.mk.inj hplays
  obtain ⟨hhandler, hhost⟩ := Prod.mk.inj hrest
  exact ⟨e, he, hmode, hhandler, hhost⟩

end HostCall

end VisualNovel
