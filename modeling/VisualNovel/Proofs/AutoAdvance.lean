import VisualNovel.Proofs.Timekeeping

/-!
# Auto-advance and input

What moves past a line that is displayed. While cinematic text is on and does not allow input, only
time does, and a line gives way at the tick that makes its frames as many as the threshold
(`Engine.GivesWay`). Input moves past a line only if the whole of it is visible
(`Engine.HeedsInput`).
-/

namespace VisualNovel

open Script

variable {σ : Type}

namespace HostCall

open Engine

/-- Whether the call lets time pass or takes input. -/
def moves : HostCall → Bool
  | tick _ | requestAdvance => true
  | _ => false

/-- How many frames some calls let pass. -/
def ticks : List HostCall → Nat
  | [] => 0
  | call :: calls => call.frames + ticks calls

end HostCall

namespace Engine

open HostCall (ticks)

/-- The engine when the displayed line has counted so many frames. -/
def counting (e : Engine σ) (n : Nat) : Engine σ :=
  e.mapStage (Stage.mapTimedText fun t => { t with counter := n })

/-- The engine when the rest of the displayed line, which has this size, is revealed. -/
def revealing (e : Engine σ) (size : Nat) : Engine σ :=
  e.mapStage (Stage.mapTimedText fun t => { t with revealed := size, progress := Float.ofNat size })

/-- What the renderer is told when the rest of a line is revealed. -/
def revealed (text : Value) : Intent :=
  { kind := .revealText, payload := [("text", text), ("complete", .bool true)] }

variable {c : Collaborators σ} {e : Engine σ} {n : Nat}

/-! ## Time -/

/-- A line is displayed that has counted this many frames, under cinematic text that does not allow
input. -/
structure Unheeding (n : Nat) (e : Engine σ) : Prop where
  timely : e.Timely n
  shown : e.showsLine
  deaf : e.stage.timedText.Deaf

namespace Unheeding

theorem displays (h : e.Unheeding n) : e.stage.timedText.Displays n :=
  (h.timely.onDisplay h.shown).displays

theorem counting_self (h : e.Unheeding n) : e.counting n = e := by
  obtain ⟨hcounter, -⟩ := h.displays.clock h.deaf.1
  unfold counting Stage.mapTimedText mapStage
  rw [← hcounter]

theorem lt (h : e.Unheeding n) : (n : Int) < e.stage.timedText.threshold :=
  (h.displays.clock h.deaf.1).2

theorem counted (h : e.Unheeding n) {m : Nat} (hm : (m : Int) < e.stage.timedText.threshold) :
    (e.counting m).Unheeding m := by
  obtain ⟨hmode, hdisplays, hline⟩ := h.timely.onDisplay h.shown
  have hcomposed : (e.counting m).stage.timedText.Composed :=
    ⟨h.timely.composed.exclusive.of_same rfl rfl, h.timely.composed.told⟩
  have hcounted : (e.counting m).stage.timedText.Displays m :=
    ⟨hdisplays.showing, hdisplays.whole, fun _ => ⟨rfl, hm⟩⟩
  exact ⟨⟨hcomposed, fun _ => ⟨hmode, hcounted, hline⟩⟩, h.shown, h.deaf⟩

/-- Input is passed over. -/
theorem requestAdvance_ignored (h : e.Unheeding n) :
    (requestAdvance c).perform e = (.ok false, e) := by
  have hends : Ends (requestAdvance c) e (fun go e' => go = false ∧ e' = e)
      fun _ _ => False := by
    refine Ends.bind_iff.2 (Ends.get_iff.2 ?_)
    rw [h.shown]
    refine Ends.bind_iff.2 (Ends.attempt_iff.2 ?_)
    refine (TimedText.input_heard h.timely.composed h.displays).mono ?_ ?_
    · intro go t hheard
      cases hheard with
      | ignored =>
        refine Ends.bind_iff.2 ((sendReveal_silent h.timely.composed.told).mono ?_ fun _ _ h => h)
        exact fun _ e' he' => ⟨rfl, he'⟩
      | passes hheeds => exact absurd h.deaf hheeds
      | reveals hheeds => exact absurd h.deaf hheeds
    · rintro m t ⟨-, hheeds, -⟩
      exact absurd h.deaf hheeds
  obtain ⟨go, e', hrun, rfl, rfl⟩ := hends.performs fun _ _ h => h
  exact hrun

end Unheeding

/-- What a tick comes to, and whether the line gives way: it counts a frame, and the line gives way
if it has then counted them all. -/
inductive Counts (n : Nat) (e : Engine σ) : Bool → Engine σ → Prop where
  | stays : ((n + 1 : Nat) : Int) < e.stage.timedText.threshold →
    Counts n e false (e.counting (n + 1))
  | passes : ((n + 1 : Nat) : Int) = e.stage.timedText.threshold →
    Counts n e true (e.counting (n + 1)).passed

namespace Unheeding

theorem tick_counts (h : e.Unheeding n) (dt : Value) : ∃ go e',
    ((HostCall.tick dt).opening c).perform e = (.ok go, e') ∧ Counts n e go e' := by
  refine Ends.performs (E := fun _ _ => False) ?_ fun _ _ h => h
  refine Ends.bind_iff.2 (Ends.get_iff.2 ?_)
  rw [h.shown]
  refine Ends.bind_iff.2 (Ends.attempt_iff.2 ?_)
  refine (TimedText.tick_counts h.timely.composed h.displays h.deaf.1 dt).mono ?_ fun _ _ h => h
  rintro fired t ⟨hfired, ht⟩
  have htold : (timedTextPlace.set t e).stage.timedText.changed = false := by
    show t.changed = false
    rw [ht]
    exact h.timely.composed.told
  refine Ends.bind_iff.2 ((sendReveal_silent htold).mono (fun _ e₁ he₁ => ?_) fun _ _ h => h)
  rw [he₁, ht]
  cases fired with
  | false =>
    have hmore : ((n + 1 : Nat) : Int) ≠ e.stage.timedText.threshold := by simpa using hfired
    have hsame : timedTextPlace.set { e.stage.timedText with counter := n + 1, showing := true } e =
        e.counting (n + 1) := by
      rw [← h.displays.showing]
      rfl
    show Counts n e false (timedTextPlace.set _ e)
    rw [Bool.not_false, hsame]
    have hlt := h.lt
    exact .stays (by omega)
  | true =>
    have hlast : ((n + 1 : Nat) : Int) = e.stage.timedText.threshold := by simpa using hfired
    refine Ends.bind_iff.2 (Ends.get_iff.2 ?_)
    have hshows : (timedTextPlace.set { e.stage.timedText with counter := n + 1, showing := !true }
        e).showsLine := h.shown
    rw [hshows]
    exact Counts.passes hlast

/-- A tick or an input before the line has counted all its frames counts a frame or none. -/
theorem run_counts (h : e.Unheeding n) {call : HostCall} (hcall : call.moves)
    (hmore : ((n + call.frames : Nat) : Int) < e.stage.timedText.threshold) :
    ((call.run c).perform e).2 = e.counting (n + call.frames) := by
  cases call with
  | requestAdvance =>
    show (Action.perform (discard (requestAdvance c)) e).2 = e.counting n
    rw [HostCall.discard_eq, Action.perform_bind_ok h.requestAdvance_ignored, h.counting_self]
    rfl
  | tick dt =>
    obtain ⟨go, e', hopening, hcounts⟩ := h.tick_counts (c := c) dt
    rw [HostCall.run_eq, Action.perform_bind_ok hopening]
    cases hcounts with
    | stays => rfl
    | passes hlast =>
      have hmore : ((n + 1 : Nat) : Int) < e.stage.timedText.threshold := hmore
      omega
  | _ => cases hcall

/-- **The line is displayed until the tick that makes its frames as many as the threshold.**
Whatever the order of ticks and inputs before that, they count frames and do nothing else. -/
theorem runAll_counts (h : e.Unheeding n) {calls : List HostCall}
    (hcalls : ∀ call ∈ calls, call.moves)
    (hmore : ((n + ticks calls : Nat) : Int) < e.stage.timedText.threshold) :
    HostCall.runAll c calls e = e.counting (n + ticks calls) := by
  induction calls generalizing n e with
  | nil => exact h.counting_self.symm
  | cons call calls ih =>
    have hticks : n + ticks (call :: calls) = n + call.frames + ticks calls := by
      rw [ticks, Nat.add_assoc]
    rw [hticks] at hmore ⊢
    have hcall : ((n + call.frames : Nat) : Int) < e.stage.timedText.threshold := by omega
    show HostCall.runAll c calls ((call.run c).perform e).2 = _
    rw [h.run_counts (hcalls call (by simp)) hcall]
    exact ih (h.counted hcall) (fun call hmem => hcalls call (by simp [hmem])) hmore

/-- The line gives way at the tick that makes its frames as many as the threshold. -/
theorem tick_last (h : e.Unheeding n) {calls : List HostCall} (hcalls : ∀ call ∈ calls, call.moves)
    (hlast : ((n + ticks calls + 1 : Nat) : Int) = e.stage.timedText.threshold) (dt : Value) :
    (tick c dt).perform (HostCall.runAll c calls e) =
      (discard (step c)).perform (e.counting (n + ticks calls + 1)).passed := by
  have hmore : ((n + ticks calls : Nat) : Int) < e.stage.timedText.threshold := by omega
  rw [h.runAll_counts hcalls hmore]
  obtain ⟨go, e', hopening, hcounts⟩ := (h.counted hmore).tick_counts (c := c) dt
  show ((HostCall.tick dt).run c).perform _ = _
  rw [HostCall.run_eq, Action.perform_bind_ok hopening]
  cases hcounts with
  | stays hstays =>
    have hstays : ((n + ticks calls + 1 : Nat) : Int) < e.stage.timedText.threshold := hstays
    omega
  | passes => rfl

end Unheeding

/-- How a displayed line gives way under cinematic text that does not allow input: it is displayed
until the tick that makes its frames as many as the threshold, whatever the order of ticks and
inputs. -/
structure GivesWay (c : Collaborators σ) (n : Nat) (e : Engine σ) : Prop where
  waits : (n : Int) < e.stage.timedText.threshold
  ignores : (requestAdvance c).perform e = (.ok false, e)
  stays : ∀ calls : List HostCall, (∀ call ∈ calls, call.moves) →
    ((n + ticks calls : Nat) : Int) < e.stage.timedText.threshold →
    HostCall.runAll c calls e = e.counting (n + ticks calls)
  leaves : ∀ calls : List HostCall, (∀ call ∈ calls, call.moves) →
    ((n + ticks calls + 1 : Nat) : Int) = e.stage.timedText.threshold → ∀ dt,
    (tick c dt).perform (HostCall.runAll c calls e) =
      (discard (step c)).perform (e.counting (n + ticks calls + 1)).passed

theorem Unheeding.givesWay (h : e.Unheeding n) : GivesWay c n e :=
  ⟨h.lt, h.requestAdvance_ignored, fun _ => h.runAll_counts, fun _ => h.tick_last⟩

/-! ## Input -/

/-- The whole of the line at the cursor is visible. -/
structure ShowsWhole (e : Engine σ) : Prop where
  whole : e.stage.timedText.Whole
  line : ∃ d, e.cursor.current = some (.dialogue d) ∧
    ∀ s, d.text = .text s → e.stage.timedText.visible = .ok (.text s)

theorem OnDisplay.revealing (h : e.OnDisplay n) {size : Nat}
    (hsize : e.stage.timedText.fullText.size = .ok size) : (e.revealing size).OnDisplay n :=
  ⟨h.mode, ⟨h.displays.showing, fun _ => .of_size hsize, h.displays.clock⟩, h.line⟩

/-- When the rest of a line has been revealed, the renderer is told of it. -/
theorem sendReveal_reveals (hcomposed : e.stage.timedText.Composed) {s : String}
    (htext : e.stage.timedText.fullText = .text s) : (sendReveal c).perform
      (timedTextPlace.set { e.stage.timedText with
        revealed := s.length, progress := Float.ofNat s.length, changed := true } e) =
    (c.apply (some (revealed (.text s)))).perform (e.revealing s.length) := by
  let t : TimedText := { e.stage.timedText with
    revealed := s.length, progress := Float.ofNat s.length, changed := true }
  have hsize : t.fullText.size = .ok t.revealed := by
    show e.stage.timedText.fullText.size = .ok s.length
    rw [htext]
    rfl
  have hwhole : t.Whole := .of_size hsize
  have hvisible : (Action.ofMishap t.visible : Play σ Value).perform (e.revealing s.length) =
      (.ok (.text s), e.revealing s.length) := by
    rw [hwhole.visible htext]
    rfl
  have hcomplete : (Action.ofMishap t.complete : Play σ Bool).perform (e.revealing s.length) =
      (.ok true, e.revealing s.length) := by
    rw [hwhole]
    rfl
  have htold : (timedTextPlace.set t e).mapStage
      (Stage.mapTimedText fun t => { t with changed := false }) = e.revealing s.length := by
    unfold Engine.revealing
    rw [← hcomposed.told]
    rfl
  unfold sendReveal
  rw [Action.perform_get_bind]
  show (do
    modify (mapStage (Stage.mapTimedText fun t => { t with changed := false }))
    let visible ← Action.ofMishap t.visible
    let complete ← Action.ofMishap t.complete
    send c .revealText [("text", visible), ("complete", .bool complete)] :
      Play σ Unit).perform _ = _
  rw [Action.perform_modify_bind, htold, Action.perform_bind_ok hvisible,
    Action.perform_bind_ok hcomplete]
  rfl

theorem OnDisplay.showsWhole (h : e.OnDisplay n) (hwhole : e.stage.timedText.Whole) :
    e.ShowsWhole := by
  obtain ⟨d, hcurrent, htext⟩ := h.line
  exact ⟨hwhole, d, hcurrent, fun s hs => hwhole.visible (htext.trans hs)⟩

/-- Input reveals the rest of a line, of which the renderer is told. -/
structure RevealsRest (c : Collaborators σ) (s : String) (e : Engine σ) : Prop where
  whole : (e.revealing s.length).ShowsWhole
  told : (requestAdvance c).perform e =
    (do c.apply (some (revealed (.text s))); return false : Play σ Bool).perform
      (e.revealing s.length)
  stays : Within (e.revealing s.length) ((requestAdvance c).perform e).2

/-- How input is taken while a line is displayed. It moves past the line only if all of it is
visible. If there is more of the line, the first input reveals the rest if that can be skipped, and
changes nothing otherwise. -/
structure HeedsInput (c : Collaborators σ) (e : Engine σ) : Prop where
  plays_iff : HostCall.requestAdvance.PlaysOn c e ↔
    e.showsLine ∧ ¬e.stage.timedText.Deaf ∧ e.stage.timedText.Whole
  passes : HostCall.requestAdvance.PlaysOn c e → e.ShowsWhole ∧ (requestAdvance c).perform e =
    (do discard (step c); return true : Play σ Bool).perform e.passed
  ignores : e.showsLine → e.stage.timedText.complete = .ok false →
    e.stage.timedText.canSkip = false → (requestAdvance c).perform e = (.ok false, e)
  reveals : ∀ s, e.showsLine → e.stage.timedText.complete = .ok false → e.stage.timedText.canSkip →
    e.stage.timedText.fullText = .text s → RevealsRest c s e

/-- What input comes to while a line is displayed. If it fails, the line has no size. -/
theorem OnDisplay.heard (h : e.OnDisplay n) (hcomposed : e.stage.timedText.Composed) :
    (∃ go t, e.stage.timedText.Heard go t ∧
      (Action.attempt timedTextPlace TimedText.input : Play σ Bool).perform e =
        (.ok go, timedTextPlace.set t e)) ∨
    ∃ m, e.stage.timedText.complete = .error m ∧
      (Action.attempt timedTextPlace TimedText.input : Play σ Bool).perform e =
        (.error (.mishap m), e) := by
  have hends : Ends (Action.attempt timedTextPlace TimedText.input : Play σ Bool) e
      (fun go e' => ∃ t, e.stage.timedText.Heard go t ∧ e' = timedTextPlace.set t e)
      fun f e' => e' = e ∧ ∃ m, f = .mishap m ∧ e.stage.timedText.complete = .error m := by
    refine Ends.attempt_iff.2 ((TimedText.input_heard hcomposed h.displays).mono ?_ ?_)
    · exact fun go t hheard => ⟨t, hheard, rfl⟩
    · rintro m t ⟨ht, -, hfails⟩
      rw [ht]
      exact ⟨rfl, m, rfl, hfails⟩
  obtain ⟨hok, herror⟩ := Ends.iff_perform.1 hends
  rcases hrun : (Action.attempt timedTextPlace TimedText.input : Play σ Bool).perform e with
    ⟨f | go, e'⟩
  · obtain ⟨rfl, m, rfl, hfails⟩ := herror _ _ hrun
    exact .inr ⟨m, hfails, rfl⟩
  · obtain ⟨t, hheard, rfl⟩ := hok _ _ hrun
    exact .inl ⟨go, t, hheard, rfl⟩

/-- What input comes to decides what is done. -/
theorem requestAdvance_perform (hline : e.showsLine) {go : Bool} {e' : Engine σ}
    (hrun : (Action.attempt timedTextPlace TimedText.input : Play σ Bool).perform e =
      (.ok go, e')) :
    (requestAdvance c).perform e =
      (if go then advance c else do sendReveal c; return false : Play σ Bool).perform e' := by
  unfold requestAdvance
  rw [Action.perform_get_bind, hline]
  exact Action.perform_bind_ok hrun

/-- Input moves past a line when it is heard and the whole line is visible, and at no other time. -/
theorem OnDisplay.requestAdvance_passes (h : e.OnDisplay n) (hcomposed : e.stage.timedText.Composed)
    (hline : e.showsLine) : Ends (HostCall.requestAdvance.opening c) e
      (fun go _ => go ↔ ¬e.stage.timedText.Deaf ∧ e.stage.timedText.Whole)
      fun _ _ => ¬(¬e.stage.timedText.Deaf ∧ e.stage.timedText.Whole) := by
  have hstays : ∀ e' : Engine σ, ¬(¬e.stage.timedText.Deaf ∧ e.stage.timedText.Whole) →
      Ends (do sendReveal c; return false) e'
        (fun go _ => go ↔ ¬e.stage.timedText.Deaf ∧ e.stage.timedText.Whole)
        fun _ _ => ¬(¬e.stage.timedText.Deaf ∧ e.stage.timedText.Whole) := by
    intro e' hnot
    refine Ends.bind_iff.2 (Ends.iff_perform.2 ⟨fun _ _ _ => ?_, fun _ _ _ => hnot⟩)
    refine ⟨fun hfalse => ?_, fun hboth => absurd hboth hnot⟩
    cases hfalse
  refine Ends.bind_iff.2 (Ends.get_iff.2 ?_)
  rw [hline]
  refine Ends.bind_iff.2 (Ends.attempt_iff.2 ?_)
  refine (TimedText.input_heard hcomposed h.displays).mono ?_ ?_
  · intro go t hheard
    cases hheard with
    | passes hheeds hwhole =>
      refine Ends.bind_iff.2 (Ends.get_iff.2 ?_)
      have hline : (timedTextPlace.set e.stage.timedText e).showsLine := hline
      rw [hline]
      exact ⟨fun _ => ⟨hheeds, hwhole⟩, fun _ => rfl⟩
    | ignored hignored =>
      refine hstays _ fun hboth => ?_
      rcases hignored with hdeaf | ⟨hmore, -⟩
      · exact hboth.1 hdeaf
      · exact absurd (hboth.2.symm.trans hmore) (by simp)
    | reveals hheeds hmore =>
      exact hstays _ fun hboth => absurd (hboth.2.symm.trans hmore) (by simp)
  · rintro m t ⟨-, -, hfails⟩ hboth
    exact absurd (hboth.2.symm.trans hfails) (by simp)

theorem Timely.requestAdvance_playsOn_iff (h : e.Timely n) : HostCall.requestAdvance.PlaysOn c e ↔
    e.showsLine ∧ ¬e.stage.timedText.Deaf ∧ e.stage.timedText.Whole := by
  unfold HostCall.PlaysOn
  cases hline : e.showsLine with
  | false =>
    have hopening : (HostCall.requestAdvance.opening c).perform e = (.ok false, e) := by
      unfold HostCall.opening
      rw [Action.perform_get_bind, hline]
      rfl
    simp [hopening]
  | true =>
    have hends := (h.onDisplay hline).requestAdvance_passes (c := c) h.composed hline
    obtain ⟨hok, herror⟩ := Ends.iff_perform.1 hends
    rcases hopening : (HostCall.requestAdvance.opening c).perform e with ⟨f | go, e'⟩
    · simp [herror f e' hopening]
    · simp [← hok go e' hopening]

theorem Timely.heedsInput (hc : c.Heeds Within) (h : e.Timely n) : HeedsInput c e where
  plays_iff := h.requestAdvance_playsOn_iff
  passes := by
    intro hplays
    obtain ⟨hline, hheeds, hwhole⟩ := h.requestAdvance_playsOn_iff.1 hplays
    have hdisplay := h.onDisplay hline
    refine ⟨hdisplay.showsWhole hwhole, ?_⟩
    rcases hdisplay.heard h.composed with ⟨go, t, hheard, hrun⟩ | ⟨m, hfails, -⟩
    · cases hheard with
      | passes =>
        rw [requestAdvance_perform hline hrun]
        show (advance c).perform e = _
        unfold advance
        rw [Action.perform_get_bind, hline]
        rfl
      | ignored hignored =>
        rcases hignored with hdeaf | ⟨hmore, -⟩
        · exact absurd hdeaf hheeds
        · exact absurd hmore hwhole.complete_ne_false
      | reveals _ hmore => exact absurd hmore hwhole.complete_ne_false
    · cases hwhole.symm.trans hfails
  ignores := by
    intro hline hmore hrest
    rcases (h.onDisplay hline).heard h.composed with ⟨go, t, hheard, hrun⟩ | ⟨m, hfails, -⟩
    · cases hheard with
      | ignored =>
        obtain ⟨⟨⟩, e', hsilent, rfl⟩ := (sendReveal_silent (c := c) h.composed.told).performs
          fun _ _ h => h
        rw [requestAdvance_perform hline hrun]
        exact Action.perform_bind_ok hsilent
      | passes _ hwhole => exact absurd hmore hwhole.complete_ne_false
      | reveals _ _ hskip =>
        rw [hrest] at hskip
        cases hskip
    · cases hmore.symm.trans hfails
  reveals := by
    intro s hline hmore hskip htext
    have hdisplay := h.onDisplay hline
    rcases hdisplay.heard h.composed with ⟨go, t, hheard, hrun⟩ | ⟨m, hfails, -⟩
    · cases hheard with
      | @reveals size _ _ _ hsize =>
        obtain rfl : s.length = size := by
          rw [htext] at hsize
          exact Except.ok.inj hsize
        have htold : (requestAdvance c).perform e =
            (do c.apply (some (revealed (.text s))); return false : Play σ Bool).perform
              (e.revealing s.length) := by
          rw [requestAdvance_perform hline hrun]
          exact Action.perform_bind_congr (sendReveal_reveals h.composed htext) _
        refine ⟨(hdisplay.revealing hsize).showsWhole (.of_size hsize), htold, ?_⟩
        rw [htold]
        exact Tracks.bind (hc.apply _) (fun _ => .pure) _
      | ignored hignored =>
        rcases hignored with ⟨hcinematic, -⟩ | ⟨-, hrest⟩
        · have hwhole := hdisplay.displays.whole (h.composed.exclusive.typewriter_off hcinematic)
          exact absurd hmore hwhole.complete_ne_false
        · rw [hrest] at hskip
          cases hskip
      | passes _ hwhole => exact absurd hmore hwhole.complete_ne_false
    · cases hmore.symm.trans hfails

/-! ## Every run -/

/-- **Time and input move past lines by rule.** In every run with collaborators that do not call
back, at most one of cinematic and typewriter text is ever on. A line that is displayed under
cinematic text that does not allow input gives way at the tick that makes the frames since it was
shown as many as the threshold, and at no other tick or input. Input moves past a line only if the
whole of it is visible, and if there is more of it, input reveals the rest or changes nothing. -/
theorem timed_text_discipline {c : Collaborators σ} (hc : c.Heeds Within) (setup : Setup)
    (outside : σ) :
    (∀ e, Occurs c setup outside e → e.stage.timedText.Exclusive) ∧
    ∀ n e, Ticked c setup outside n e →
      (e.showsLine → e.stage.timedText.Deaf → GivesWay c n e) ∧ HeedsInput c e := by
  refine ⟨fun e h => (h.composed hc).exclusive, fun n e h => ?_⟩
  have htimely := h.timely hc
  refine ⟨fun hline hdeaf => ?_, htimely.heedsInput hc⟩
  exact Unheeding.givesWay ⟨htimely, hline, hdeaf⟩

/-- A story with a cinematic line and a line that is typed. -/
def pacedStory : Setup :=
  .telling "paced" [".setcinematictext:0.05:false", "One", ".settypewritertext:20:true", "Two"]

/-- Three frames, with an input in between, that take no time. -/
def threeFrames : List HostCall :=
  [.tick (.int 0), .requestAdvance, .tick (.int 0), .tick (.int 0)]

/-- The cinematic line gives way at its third tick. The line that is typed then is revealed by the
first input. -/
theorem timed_text_discipline_paced : ∃ e : Engine (List Intent),
    Ticked .recording pacedStory [] 0 e ∧ e.showsLine ∧ e.stage.timedText.Deaf ∧
      e.stage.timedText.threshold = 3 ∧ GivesWay .recording 0 e ∧
      let e' := HostCall.runAll .recording threeFrames e
      e'.showsLine ∧ RevealsRest .recording "Two" e' := by
  have hfacts : (ofSetup pacedStory []).toOption.map (fun e₀ =>
      let e := ((enterLoading .recording).perform e₀).2
      let e₁ := ((HostCall.resourcesReady.run .recording).perform e).2
      let e₂ := HostCall.runAll .recording threeFrames e₁
      (((HostCall.resourcesReady.opening .recording).perform e).1.toOption,
        (e₁.showsLine, e₁.stage.timedText.threshold, e₁.stage.timedText.inputAllowed),
        e₂.stage.timedText.complete.toOption,
        e₂.showsLine && e₂.stage.timedText.canSkip &&
          (Value.text "Two").equal e₂.stage.timedText.fullText)) =
      some (some true, (true, 3, false), some false, true) := by
    decide +kernel
  obtain ⟨e₀, hsetup, hfacts⟩ := Option.map_eq_some_iff.1 hfacts
  simp only [Prod.mk.injEq] at hfacts
  obtain ⟨hplays, ⟨hline, hthreshold, hallowed⟩, hmore, htyped⟩ := hfacts
  have hrun : Ticked .recording pacedStory [] 0 _ :=
    .plays .resourcesReady (.start (toOption_eq_some.1 hsetup)) (toOption_eq_some.1 hplays)
  obtain ⟨m, hlater⟩ := hrun.runAll threeFrames
  obtain ⟨-, hall⟩ := timed_text_discipline Collaborators.recording_heeds pacedStory []
  obtain ⟨hgives, -⟩ := hall 0 _ hrun
  obtain ⟨-, hheeds⟩ := hall m _ hlater
  have hdeaf : TimedText.Deaf _ := ⟨by rw [TimedText.cinematic, hthreshold]; decide, hallowed⟩
  refine ⟨_, hrun, hline, hdeaf, hthreshold, hgives hline hdeaf, ?_⟩
  simp only [Bool.and_eq_true, Value.text_equal_iff] at htyped
  obtain ⟨⟨hshows, hskip⟩, htext⟩ := htyped
  exact ⟨hshows, hheeds.reveals "Two" hshows (toOption_eq_some.1 hmore) hskip htext⟩

end Engine

end VisualNovel
