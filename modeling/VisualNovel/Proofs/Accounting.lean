import VisualNovel.Proofs.Annals
import VisualNovel.Proofs.CursorMoves

/-!
# The account of completed beats

A cursor counts the beats that it has completed in its conversation. It is behind its place by the
beats that conditions have passed over, and by nothing else: in every run that takes over no
snapshot, the place is the number of completed beats and of those that were passed over since the
conversation was entered (`Annals.accounts`).

`cursor_in_bounds_and_accounted` says this beside what holds of every row of moves of a cursor.
-/

namespace VisualNovel

open Script

variable {σ : Type}

namespace Deed

/-- Whether a conversation is entered. -/
def enters : Deed → Bool
  | performed cmd s => Command.enters cmd s.session.flags
  | completed => false
  | followed _ => true

/-- Whether a beat is passed over: there is one behind a condition, which does not hold. -/
def passes : Deed → Bool
  | performed cmd s => Command.verdict cmd s.session.flags == some false &&
    decide (s.session.cursor.index + 1 < s.session.cursor.beats.size)
  | _ => false

end Deed

/-- How many beats were passed over since a conversation was entered last. -/
def passedOver (log : List Deed) : Nat :=
  (log.takeWhile fun d => !d.enters).countP Deed.passes

theorem passedOver_enters {d : Deed} (h : d.enters) (log : List Deed) :
    passedOver (d :: log) = 0 := by
  simp [passedOver, h]

theorem passedOver_stays {d : Deed} (h : d.enters = false) (log : List Deed) :
    passedOver (d :: log) = passedOver log + if d.passes then 1 else 0 := by
  simp [passedOver, h, List.countP_cons]

namespace Cursor

variable {c : Cursor}

/-- As many beats are completed as are left behind. -/
theorem advance_even (c : Cursor) (count : Int) :
    ∃ n, c.advance count = { c with index := c.index + n, completed := c.completed + n } :=
  ⟨_, rfl⟩

theorem skip_index (c : Cursor) :
    c.skip.index = if c.index < c.beats.size then c.index + 1 else c.index := by
  by_cases h : c.index < c.beats.size
  · simp [skip, exhausted, h, Nat.not_le.2 h]
  · simp [skip, exhausted, h, Nat.not_lt.1 h]

theorem skip_completed (c : Cursor) : c.skip.completed = c.completed := by
  unfold skip
  split <;> rfl

end Cursor

open Engine

/-- The place of a cursor is the number of beats that it has completed and of those that were passed
over. -/
def Engine.Accounted (log : List Deed) (e : Engine σ) : Prop :=
  e.cursor.index = e.cursor.completed + passedOver log

/-- No deed breaks the account. -/
theorem Engine.Does.accounted {d : Deed} {e e' : Engine σ} {log : List Deed} (h : Does d e e')
    (ha : e.Accounted log) : e'.Accounted (d :: log) := by
  unfold Accounted at ha ⊢
  cases h with
  | @performed _ cmd o s hbeat hrun =>
    have hplaced := (Ends.iff_perform.1 (Command.perform_places cmd e.stage)).1 o s hrun
    show s.session.cursor.index = s.session.cursor.completed + _
    cases henters : (Deed.performed cmd e.stage).enters with
    | true =>
      obtain ⟨hindex, hcompleted⟩ := hplaced.entered henters
      rw [passedOver_enters henters, hindex, hcompleted]
    | false =>
      rw [passedOver_stays henters, hplaced.passed henters]
      have hadvance := Cursor.advance_of_current hbeat
      cases hverdict : Command.verdict cmd e.stage.session.flags with
      | none =>
        show e.cursor.index = e.cursor.completed + _
        simpa [Deed.passes, hverdict] using ha
      | some ok =>
        cases ok with
        | true =>
          show e.cursor.advance.index = e.cursor.advance.completed + _
          simp [hadvance, Deed.passes, hverdict]
          omega
        | false =>
          show e.cursor.advance.skip.index = e.cursor.advance.skip.completed + _
          rw [Cursor.skip_index, Cursor.skip_completed, hadvance]
          have hpasses : (Deed.performed cmd e.stage).passes =
              decide (e.cursor.index + 1 < e.cursor.beats.size) := by
            simp [Deed.passes, hverdict]
            rfl
          by_cases hnext : e.cursor.index + 1 < e.cursor.beats.size
          · simp [hpasses, hnext]
            omega
          · simp [hpasses, hnext]
            omega
  | completed =>
    obtain ⟨n, hn⟩ := e.cursor.advance_even 1
    show e.cursor.advance.index = e.cursor.advance.completed + _
    rw [passedOver_stays rfl, hn]
    simp [Deed.passes]
    omega
  | @followed _ conversation s hrun =>
    have hends := Stage.switchConversation_ends conversation e.stage
    obtain ⟨cursor, rfl, -, -, hindex, hcompleted⟩ := (Ends.iff_perform.1 hends).1 _ s hrun
    rw [passedOver_enters rfl]
    exact hindex.trans hcompleted.symm

/-- By the annals of a run from the start of a conversation, its place is accounted for. -/
theorem Annals.accounts {e e' : Engine σ} {log : List Deed} (h : Annals e log e')
    (hindex : e.cursor.index = 0) (hcompleted : e.cursor.completed = 0) : e'.Accounted log := by
  induction h with
  | nil =>
    show e.cursor.index = e.cursor.completed + 0
    omega
  | @idle log e₁ e₂ _ hidle ih =>
    have hcursor : e₂.cursor = e₁.cursor := hidle.cursor
    unfold Accounted at ih ⊢
    rw [hcursor]
    exact ih
  | deed _ hdoes ih => exact hdoes.accounted ih

/-- An engine that has not started stands at the start of a conversation. -/
theorem Engine.ofSetup_cursor {setup : Setup} {outside : σ} {e : Engine σ}
    (h : ofSetup setup outside = .ok e) : e.cursor.index = 0 ∧ e.cursor.completed = 0 := by
  obtain ⟨s, hs, h⟩ := bind_eq_ok.1 h
  cases h
  obtain ⟨cursor, _, _, _, hcursor, _, _, _, rfl, _⟩ := initialStage_ok hs
  obtain ⟨beats, _, hcursor⟩ := bind_eq_ok.1 hcursor
  cases hcursor
  exact ⟨rfl, rfl⟩

/-- **Cursors stay in bounds, and their progress is accounted for.** After any row of moves a cursor
stands in a conversation of its script, on a beat, or behind the last one if it stands on none, and
a move that fails leaves it as it was. In a run that takes over no snapshot, with collaborators that
may call back, the beats that are not completed are those that conditions have passed over since the
conversation was entered. -/
theorem cursor_in_bounds_and_accounted :
    (∀ (scripts : Table Value Script) (script : Script) (name : String) (c₀ : Cursor),
      Cursor.start script name = .ok c₀ → ∀ moves : List Cursor.Move, ∃ c : Cursor,
        Remote.afterMoves scripts moves (.of c₀) = .of c ∧ c.index ≤ c.beats.size ∧
        c.script.lookup c.conversation = .ok c.beats ∧
        (c.current = none ↔ c.index = c.beats.size) ∧
        ∀ (move : Cursor.Move) f s,
          (Remote.callCursor scripts move.call).perform (.of c) = (.error f, s) → s = .of c) ∧
    ∀ {σ : Type} {c : Collaborators σ} {setup : Setup} {outside : σ} {e₀ e : Engine σ},
      Accompanies c → ofSetup setup outside = .ok e₀ → Onward c ((enterLoading c).perform e₀).2 e →
      (∃ log, Annals e₀ log e) ∧ ∀ log, Annals e₀ log e →
        e.cursor.completed ≤ e.cursor.index ∧
        e.cursor.index - e.cursor.completed = passedOver log := by
  constructor
  · intro scripts script name c₀ hstart moves
    obtain ⟨c, hmoved, hsound⟩ := Remote.moves_sound scripts moves (start_sound hstart).2
    refine ⟨c, hmoved, hsound.index, hsound.beats, hsound.current_eq_none_iff, ?_⟩
    intro move f s hfails
    have hmove := Remote.callCursor_move scripts move c
    rw [hfails] at hmove
    cases hmade : move.make scripts c with
    | ok c' =>
      rw [hmade] at hmove
      cases hmove
    | error f =>
      rw [hmade] at hmove
      cases hmove
      rfl
  · intro σ c setup outside e₀ e hc hsetup hrun
    refine ⟨hrun.annals hc, fun log hlog => ?_⟩
    obtain ⟨hindex, hcompleted⟩ := ofSetup_cursor hsetup
    have haccount : e.cursor.index = e.cursor.completed + passedOver log :=
      hlog.accounts hindex hcompleted
    omega

/-- A story that passes over a beat. -/
def Engine.weighing : Setup :=
  .telling "weighing" [".setflag:gold:3", ".isflagmorethan:gold:5", ".setflag:hit:1", "end"]

theorem Engine.Onward.runAll {c : Collaborators σ} {e e' : Engine σ} (calls : List HostCall)
    (hcalls : ∀ call ∈ calls, call.loads = false) (h : Onward c e e') :
    Onward c e (HostCall.runAll c calls e') := by
  induction calls generalizing e' with
  | nil => exact h
  | cons call calls ih =>
    exact ih (fun other hother => hcalls other (by simp [hother]))
      (h.call call (hcalls call (by simp)))

theorem accompanies_recording : Accompanies Collaborators.recording :=
  .never Collaborators.recording_heeds

/-- A cursor is sent to a conversation that there is not, and beyond the last beat. A story passes
over its third beat. -/
theorem cursor_in_bounds_and_accounted_weighing :
    (∃ c₀ c : Cursor, Cursor.start weighing.script = .ok c₀ ∧
      Remote.afterMoves [] [.advance 1, .switchTo (.text "gone"), .jump (-7), .skip, .jump 99]
        (.of c₀) = .of c ∧ c.index = 4 ∧ c.completed = 1 ∧ c.current = none) ∧
    ∃ (e₀ e : Engine (List Intent)) (log : List Deed), ofSetup weighing [] = .ok e₀ ∧
      Annals e₀ log e ∧ e.cursor.index = 3 ∧ e.cursor.completed = 2 ∧ passedOver log = 1 := by
  obtain ⟨hmoves, hruns⟩ := cursor_in_bounds_and_accounted
  constructor
  · have hfacts : (Cursor.start weighing.script).toOption.map (fun c₀ =>
        let s := Remote.afterMoves [] [.advance 1, .switchTo (.text "gone"), .jump (-7), .skip,
          .jump 99] (.of c₀)
        (s.beats.size, s.index.keyForm, s.completed.keyForm)) = some (4, .whole 4, .whole 1) := by
      decide +kernel
    obtain ⟨c₀, hstart, hfacts⟩ := Option.map_eq_some_iff.1 hfacts
    obtain ⟨c, hmoved, -, -, hnone, -⟩ := hmoves [] weighing.script "start" c₀
      (toOption_eq_some.1 hstart) [.advance 1, .switchTo (.text "gone"), .jump (-7), .skip,
        .jump 99]
    rw [hmoved] at hfacts
    simp only [Prod.mk.injEq, Remote.LooseCursor.of, Value.keyForm, KeyForm.whole.injEq] at hfacts
    obtain ⟨hsize, hindex, hcompleted⟩ := hfacts
    have hlast : c.index = 4 := by omega
    refine ⟨c₀, c, toOption_eq_some.1 hstart, hmoved, hlast, by omega, hnone.2 ?_⟩
    rw [hlast, hsize]
  · have hfacts : (ofSetup weighing []).toOption.map (fun e₀ =>
        let e := HostCall.runAll .recording [.resourcesReady]
          ((enterLoading .recording).perform e₀).2
        (e.cursor.index, e.cursor.completed)) = some (3, 2) := by
      decide +kernel
    obtain ⟨e₀, hsetup, hfacts⟩ := Option.map_eq_some_iff.1 hfacts
    obtain ⟨hindex, hcompleted⟩ := Prod.mk.inj hfacts
    have hsetup := toOption_eq_some.1 hsetup
    have hrun : Onward .recording ((enterLoading .recording).perform e₀).2 _ :=
      Onward.refl.runAll [.resourcesReady] (by simp [HostCall.loads])
    obtain ⟨⟨log, hlog⟩, haccount⟩ := hruns accompanies_recording hsetup hrun
    refine ⟨e₀, _, log, hsetup, hlog, hindex, hcompleted, ?_⟩
    rw [← (haccount log hlog).2, hindex, hcompleted]

end VisualNovel
