import Mathlib.Data.List.TakeDrop
import VisualNovel.Proofs.Signs
import VisualNovel.Proofs.SmallSteps

/-!
# An engine keeps the order of intents

With collaborators that return and do not call back, the stream of intents that an engine sends
obeys its order between any two preparations, over any run and however its calls end
(`Transcript.intents_in_order`).

The invariant is `Engine.Poised`: it ties the phase of the stream to the mode of the engine, its
effect, its menu and its line. Every operation that starts poised sends signs that lead from phase
to phase and ends poised, also when it stops with an error in the middle.
-/

namespace VisualNovel

open Script

variable {σ : Type}

/-! ## Collaborators that attend -/

/-- What collaborators have heard is watched: every intent is added to it. -/
def Watch.hearing (heard : σ → List Sign) : Watch σ where
  sent o o' l := heard o' = heard o ++ l.map .sent
  kept _ _ := True
  sent_nil o := by simp
  sent_append h h' := by simp [h, h']
  kept_refl _ := trivial
  kept_trans _ _ := trivial
  kept_note _ _ _ := trivial

theorem heard_of_sent_nil {heard : σ → List Sign} {o o' : σ}
    (h : (Watch.hearing heard).sent o o' []) : heard o' = heard o := by
  simpa [Watch.hearing] using h

namespace Collaborators

/-- The collaborators, but nothing is prepared. -/
def unprepared (c : Collaborators σ) : Collaborators σ :=
  { c with prepare := fun _ => pure () }

/-- The collaborators return and do not call back, and what they have heard is known: that they had
to prepare a scene, and the intents that they were sent. -/
structure Attends (c : Collaborators σ) (heard : σ → List Sign) : Prop where
  prepare : ∀ scene e, Runs False (c.prepare scene) e fun _ e' => ∃ x, e' = e.within x ∧
    heard x.outside = heard e.outside ++ [.prepared]
  quiet : Quiet c.unprepared (Watch.hearing heard) False

end Collaborators

/-! ## Engines and phases -/

/-- More of the text can be revealed in this phase, or nothing of it can be revealed at all. -/
def Phase.Shows (p : Phase) (text : Value) : Prop :=
  (∃ i, p = .line i ∧ i.get "text" = text) ∨ ∀ n v, text.front n ≠ .ok v

/-- The engine waits for what the phase asks for. -/
structure Engine.Poised (p : Phase) (e : Engine σ) : Prop where
  effect : e.mode = .effectRunning → ∀ i, e.effect = some i → p = .held i
  menu : e.mode = .awaitingChoice → ∀ options, e.menu = some options → p = .menu
  free : e.mode = .normal ∨ e.mode = .loading → p.Free
  line : e.awaiting = true → e.mode = .normal ∧ p.Shows e.stage.timedText.fullText

/-- Signs have led from the phase to one that the second engine is poised in. -/
def Proceeds (heard : σ → List Sign) (p : Phase) (e e' : Engine σ) : Prop :=
  ∃ signs q, heard e'.outside = heard e.outside ++ signs ∧ p.Follows signs q ∧ e'.Poised q

/-- However the action ends, the stream has proceeded. -/
def GoesOn {α : Type} (heard : σ → List Sign) (p : Phase) (act : Play σ α) (e : Engine σ) : Prop :=
  Ends act e (fun _ e' => Proceeds heard p e e') fun _ e' => Proceeds heard p e e'

section
variable {α β : Type} {heard : σ → List Sign} {p q : Phase} {e e₁ e' : Engine σ}

namespace Engine.Poised

theorem within (h : e.Poised p) (x : Surroundings σ) : (e.within x).Poised p :=
  ⟨h.effect, h.menu, h.free, h.line⟩

theorem withStepping (h : e.Poised p) (b : Bool) : ({ e with stepping := b } : Engine σ).Poised p :=
  ⟨h.effect, h.menu, h.free, h.line⟩

/-- A session that has ended asks for nothing. -/
theorem of_ended (hmode : e.mode = .ended) (hawaiting : e.awaiting = false) : e.Poised p := by
  constructor <;> simp [hmode, hawaiting]

theorem awaiting_eq_false (h : e.Poised p) (hmode : e.mode ≠ .normal) : e.awaiting = false := by
  cases hawaits : e.awaiting with
  | false => rfl
  | true => exact absurd (h.line hawaits).1 hmode

/-- An engine that shows a line is poised in a phase that shows it. -/
theorem of_shown (hmode : e.mode = .normal) (hp : p.Free)
    (hshows : p.Shows e.stage.timedText.fullText) : e.Poised p := by
  constructor <;> simp [hmode, hp, hshows]

/-- An engine that plays is poised in a phase that is free. -/
theorem of_running (hmode : e.mode = .normal) (hawaiting : e.awaiting = false) (hp : p.Free) :
    e.Poised p := by
  constructor <;> simp [hmode, hawaiting, hp]

end Engine.Poised

namespace Proceeds

theorem refl (h : e.Poised p) : Proceeds heard p e e :=
  ⟨[], p, by simp, rfl, h⟩

theorem trans (h : Proceeds heard p e e₁) (h' : ∀ q, e₁.Poised q → Proceeds heard q e₁ e') :
    Proceeds heard p e e' := by
  obtain ⟨signs, q, hheard, hfollows, hq⟩ := h
  obtain ⟨signs', r, hheard', hfollows', hr⟩ := h' q hq
  refine ⟨signs ++ signs', r, ?_, hfollows.trans hfollows', hr⟩
  rw [hheard', hheard, List.append_assoc]

theorem of_aside {l : List Intent} (h : Aside (Watch.hearing heard) l e₁ e')
    (hout : heard e₁.outside = heard e.outside) (hl : p.Follows (l.map .sent) q)
    (hq : e₁.Poised q) : Proceeds heard p e e' := by
  obtain ⟨x, rfl, hsent, -⟩ := h
  refine ⟨l.map .sent, q, ?_, hl, hq.within x⟩
  rw [← hout]
  exact hsent

/-- Nothing was heard. -/
theorem of_same (hout : heard e'.outside = heard e.outside) (h : e'.Poised p) :
    Proceeds heard p e e' :=
  ⟨[], p, by simp [hout], rfl, h⟩

/-- What came first is not heard. -/
theorem after (h : Proceeds heard p e₁ e') (hout : heard e₁.outside = heard e.outside) :
    Proceeds heard p e e' := by
  obtain ⟨signs, q, hheard, hfollows, hq⟩ := h
  exact ⟨signs, q, by rw [hheard, hout], hfollows, hq⟩

end Proceeds

namespace GoesOn

theorem bind {x : Play σ α} {f : α → Play σ β} (hx : GoesOn heard p x e)
    (hf : ∀ a e₁ q, e₁.Poised q → GoesOn heard q (f a) e₁) : GoesOn heard p (x >>= f) e := by
  refine Ends.bind_iff.2 (Ends.mono hx ?_ fun _ _ h => h)
  intro a e₁ h₁
  refine Ends.iff_perform.2 ⟨?_, ?_⟩
  · intro b e' hrun
    exact h₁.trans fun q hq => (Ends.iff_perform.1 (hf a e₁ q hq)).1 b e' hrun
  · intro f' e' hrun
    exact h₁.trans fun q hq => (Ends.iff_perform.1 (hf a e₁ q hq)).2 f' e' hrun

/-- What comes first is not heard. -/
theorem after {act : Play σ α} (h : GoesOn heard p act e₁)
    (hout : heard e₁.outside = heard e.outside) :
    Ends act e₁ (fun _ e' => Proceeds heard p e e') fun _ e' => Proceeds heard p e e' :=
  Ends.mono h (fun _ _ h => h.after hout) fun _ _ h => h.after hout

theorem of_runs {act : Play σ α} {l : List Intent}
    (h : Runs False act e fun _ e' => Aside (Watch.hearing heard) l e₁ e')
    (hout : heard e₁.outside = heard e.outside) (hl : p.Follows (l.map .sent) q)
    (hq : e₁.Poised q) : GoesOn heard p act e :=
  (h.mono fun _ _ h' => Proceeds.of_aside h' hout hl hq).ends

theorem discard {act : Play σ α} (h : GoesOn heard p act e) : GoesOn heard p (discard act) e :=
  Ends.discard_iff.2 h

theorem perform {act : Play σ α} (h : GoesOn heard p act e) :
    Proceeds heard p e (act.perform e).2 := by
  obtain ⟨hok, herror⟩ := Ends.iff_perform.1 h
  rcases hrun : act.perform e with ⟨f | a, e'⟩
  · exact herror f e' hrun
  · exact hok a e' hrun

end GoesOn

end

/-! ## Playing -/

namespace Engine

section
variable {c : Collaborators σ} {heard : σ → List Sign} {p : Phase} {e : Engine σ}

section
variable (hc : Quiet c (Watch.hearing heard) False)
include hc

theorem finish_goesOn (hmode : e.mode ≠ .ended) : GoesOn heard p (finish c) e :=
  .of_runs (finish_runs hc hmode) rfl rfl (.of_ended rfl rfl)

theorem fail_goesOn (h : e.Poised p) (error : StoryError) : GoesOn heard p (fail c error) e := by
  by_cases hmode : e.mode = .ended
  · unfold fail
    have hfinished : e.finished = true := by simp [finished, hmode]
    refine Ends.bind_iff.2 (Ends.get_iff.2 ?_)
    rw [hfinished]
    exact Proceeds.refl h
  · have hended : ({ e.closed with error := some error } : Engine σ).Poised p := .of_ended rfl rfl
    refine Ends.mono (fail_leads hc hmode error) ?_ ?_
    · intro _ e' h'
      exact .of_aside h'.1 rfl rfl hended
    · intro f e' h'
      cases f with
      | story => exact .of_aside h'.1 rfl rfl hended
      | mishap => exact h'.elim

end

/-- A value that has no front of some length has none of any length. -/
theorem front_ne_ok {v : Value} {n : Nat} {m : Mishap} (h : v.front n = .error m) (k : Nat)
    (u : Value) : v.front k ≠ .ok u := by
  cases v <;> simp_all [Value.front]

theorem showing_moves (hp : p.Free) (text speaker visible : Value) (e : Engine σ) :
    p.Follows [.sent (showing text speaker visible e)] (.line (showing text speaker visible e)) :=
  (Phase.Moves.text hp rfl rfl).follows

/-- A line that has to be advanced past is shown, or it is one that nothing can be revealed of. -/
theorem display_goesOn (hc : Quiet c (Watch.hearing heard) False) (hr : e.running) (hp : p.Free)
    (text speaker : Value) : GoesOn heard p (display c text speaker true) e := by
  obtain ⟨hmode, hawaiting⟩ := running_iff.1 hr
  unfold display
  refine Ends.bind_iff.2 (Ends.bind_iff.2 (Ends.bind_iff.2 ?_))
  refine (emit_runs hc _ _).bind_ends fun _ e₁ h₁ => ?_
  obtain ⟨x, rfl, hsent, -⟩ := h₁
  have hheard : heard x.outside = heard e.outside := heard_of_sent_nil hsent
  refine Ends.bind_iff.2 (Ends.bind_iff.2 (Ends.attempt_iff.2 ?_))
  refine Ends.mono (beginLine_ends text _) ?_ ?_
  · intro _ t ht
    refine Ends.bind_iff.2 (Ends.modify_iff.2 (Ends.bind_iff.2 (Ends.get_iff.2 ?_)))
    refine Ends.ofMishap_iff.2 ⟨?_, ?_⟩
    · intro visible _
      let shown : Intent := showing text speaker visible e
      refine ((hc.apply shown _).mono fun _ e' h' => ?_).ends
      refine .of_aside h' hheard (showing_moves hp text speaker visible e) ?_
      exact .of_shown hmode trivial (.inl ⟨_, rfl, ht.fullText.symm⟩)
    · intro m hm
      have hvisible : text.front t.revealed = .error m := by
        rw [← ht.fullText]
        exact hm
      refine .of_same hheard (.of_shown hmode hp (.inr ?_))
      rw [← ht.fullText] at hvisible
      exact front_ne_ok hvisible
  · intro m t _
    exact .of_same hheard (.of_running hmode hawaiting hp)

theorem settled_poised {cmd : Script.Command} {s : Stage} {o : Outcome} (hr : e.running)
    (hp : p.Free) (ho : o.Orderly cmd s e.stage) :
    ∃ q, p.Follows ((sends o e).map .sent) q ∧ (e.settled o).Poised q := by
  obtain ⟨hmode, hawaiting⟩ := running_iff.1 hr
  cases o with
  | proceed intents =>
    have hdone : ∀ q : Phase, q.Free → e.completed.Poised q := fun q hq =>
      .of_running hmode hawaiting hq
    cases ho with
    | nothing => exact ⟨p, rfl, hdone p hp⟩
    | one hkind => exact ⟨.idle, (Phase.Moves.loose hp rfl hkind).follows, hdone _ trivial⟩
    | fade payload =>
      refine ⟨.idle, ?_, hdone _ trivial⟩
      exact ⟨_, .fade hp rfl rfl, _, .fadeEnd rfl rfl rfl, rfl⟩
  | stay => exact ⟨p, rfl, .of_running hmode hawaiting hp⟩
  | call args => exact ⟨p, rfl, .of_running hmode hawaiting hp⟩
  | hold kind payload =>
    refine ⟨.held _, (Phase.Moves.hold hp rfl ho.1).follows, ?_⟩
    constructor <;> simp [settled, held, hawaiting]
  | ask options line =>
    have hasked : (e.asked options line).Poised .menu := by
      unfold asked
      split <;> constructor <;> simp [offering, spoken, mapSession, mapStage, hawaiting]
    refine ⟨.menu, ?_, hasked⟩
    have hmenu : ∀ {q : Phase}, q.Free → q.Moves (.sent (menuOf options e)) .menu := fun hq =>
      .ask hq rfl rfl
    simp only [sends, asking]
    split
    · exact (hmenu hp).follows
    · have hshown : Phase.Free (.line (showing line .null line e)) := trivial
      exact (showing_moves hp line .null line e).trans (hmenu hshown).follows

theorem settled_outside (o : Outcome) (e : Engine σ) : (e.settled o).outside = e.outside := by
  cases o with
  | ask options line => cases line <;> rfl
  | _ => rfl

section
variable (hc : Quiet c (Watch.hearing heard) False)
include hc

theorem execute_goesOn (hr : e.running) (hp : p.Free) (cmd : Script.Command) :
    GoesOn heard p (execute c cmd) e := by
  obtain ⟨hmode, hawaiting⟩ := running_iff.1 hr
  refine Ends.mono (execute_orderly hc cmd e) ?_ ?_
  · intro _ e' h'
    obtain ⟨e₁, s, o, h₁, ho, h'⟩ := h'
    obtain ⟨x, rfl, hsent, -⟩ := h₁
    obtain ⟨q, hq, hposed⟩ := settled_poised (e := { e.within x with stage := s }) hr hp ho
    refine Proceeds.of_aside h' ?_ hq hposed
    rw [settled_outside]
    exact heard_of_sent_nil hsent
  · rintro _ e' (hno | ⟨e₁, s, h₁, rfl⟩)
    · exact hno.elim
    · obtain ⟨x, rfl, hsent, -⟩ := h₁
      exact .of_same (heard_of_sent_nil hsent) (.of_running hmode hawaiting hp)

theorem playBeats_goesOn (turns budget : Nat) (h : e.Poised p) :
    GoesOn heard p (playBeats c turns budget) e := by
  induction turns generalizing budget e p with
  | zero => exact Proceeds.refl h
  | succ turns ih =>
    refine Ends.bind_iff.2 (Ends.get_iff.2 ?_)
    cases hr : e.running with
    | false => exact Proceeds.refl h
    | true =>
      obtain ⟨hmode, hawaiting⟩ := running_iff.1 hr
      have hp := h.free (.inl hmode)
      simp only [Bool.not_true, Bool.false_eq_true, if_false]
      split
      · exact finish_goesOn hc (by simp [hmode])
      · exact (display_goesOn hc hr hp _ _).bind fun _ _ _ hq => ih _ hq
      · cases budget with
        | zero => exact Proceeds.refl h
        | succ budget => exact (execute_goesOn hc hr hp _).bind fun _ _ _ hq => ih _ hq

theorem orFail_goesOn {act : Play σ Unit} (h : GoesOn heard p act e) :
    GoesOn heard p (orFail c act) e := by
  have houtcome : GoesOn heard p (Action.outcome act) e := Ends.outcome_iff.2 h
  refine houtcome.bind fun r e₁ q hq => ?_
  rcases r with (error | m) | ⟨⟩
  · exact fail_goesOn hc hq error
  · exact Proceeds.refl hq
  · exact Proceeds.refl hq

theorem step_goesOn (h : e.Poised p) : GoesOn heard p (step c) e := by
  refine Ends.bind_iff.2 (Ends.get_iff.2 ?_)
  cases hplay : e.running && !e.stepping with
  | false => exact Proceeds.refl h
  | true =>
    refine Ends.bind_iff.2 (Ends.modify_iff.2 ?_)
    have hbeats := orFail_goesOn hc
      (playBeats_goesOn hc turnsPerStep commandBudget (h.withStepping true))
    have houtcome : GoesOn heard p (Action.outcome (orFail c
        (playBeats c turnsPerStep commandBudget))) { e with stepping := true } :=
      Ends.outcome_iff.2 hbeats
    refine GoesOn.after (houtcome.bind fun r e₁ q hq => ?_) rfl
    have hq₁ : GoesOn heard q (modify fun e => { e with stepping := false } : Play σ Unit) e₁ :=
      Proceeds.of_same rfl (hq.withStepping false)
    refine hq₁.bind fun _ e₂ q₂ hq₂ => ?_
    cases r with
    | error f => exact Proceeds.refl hq₂
    | ok _ => exact Proceeds.refl hq₂

end

end

end Engine

/-! ## Calls -/

namespace HostCall

open Engine

section
variable {c : Collaborators σ} {heard : σ → List Sign} {p : Phase} {e : Engine σ}

theorem showsLine_iff : e.showsLine ↔ e.mode = .normal ∧ e.awaiting = true := by
  simp [showsLine]

theorem passLine_goesOn (h : e.Poised p) : GoesOn heard p passLine e := by
  refine Ends.bind_iff.2 (Ends.get_iff.2 ?_)
  cases hline : e.showsLine with
  | false => exact Proceeds.refl h
  | true =>
    obtain ⟨hmode, -⟩ := showsLine_iff.1 hline
    exact Proceeds.of_same rfl (.of_running hmode rfl (h.free (.inl hmode)))

theorem note_goesOn (h : e.Poised p) (level : Level) (text : String) :
    GoesOn heard p (note level text) e :=
  Proceeds.of_same rfl (h.within { e.surroundings with disk := _ })

theorem onDisk_goesOn {α : Type} (h : e.Poised p) (act : Attempt Disk α) :
    GoesOn heard p (onDisk act) e := by
  have hdisk : ∀ d, Proceeds heard p e (diskPlace.set d e) := fun d =>
    .of_same rfl (h.within { e.surroundings with disk := d })
  exact Ends.attempt_iff.2 (Ends.iff_attempted.2 ⟨fun _ d _ => hdisk d, fun _ d _ => hdisk d⟩)

theorem ofMishap_goesOn {α : Type} (h : e.Poised p) (r : Except Mishap α) :
    GoesOn heard p (Action.ofMishap r) e :=
  Ends.ofMishap_iff.2 ⟨fun _ _ => .refl h, fun _ _ => .refl h⟩

theorem setFlag_goesOn (h : e.Poised p) (name value : Value) :
    GoesOn heard p (Engine.setFlag name value) e :=
  (ofMishap_goesOn h _).bind fun _ _ _ hq => (ofMishap_goesOn hq _).bind fun _ _ _ hq =>
    Proceeds.of_same rfl ⟨hq.effect, hq.menu, hq.free, hq.line⟩

theorem saveTo_goesOn (h : e.Poised p)
    (write : String → Value → Attempt Disk (Bool × SaveStore)) :
    GoesOn heard p (saveTo write) e := by
  refine Ends.bind_iff.2 (Ends.get_iff.2 ?_)
  refine (ofMishap_goesOn h _).bind fun payload _ _ hq => (onDisk_goesOn hq _).bind ?_
  intro r e₁ q hq
  exact Proceeds.of_same rfl (hq.within { e₁.surroundings with saves := _ })

/-- Without a store nothing happens. -/
theorem withStore_goesOn (h : e.Poised p) {k : SaveStore → Play σ Bool}
    (hk : ∀ store e₁ q, e₁.Poised q → GoesOn heard q (k store) e₁) :
    GoesOn heard p (do
      match ← requireStore with
      | none => return false
      | some store => k store) e := by
  have hrequire : GoesOn heard p (requireStore : Play σ (Option SaveStore)) e := by
    refine Ends.bind_iff.2 (Ends.get_iff.2 ?_)
    dsimp only
    split
    · exact (note_goesOn h _ _).bind fun _ _ _ hq => .refl hq
    · exact Proceeds.refl h
  refine hrequire.bind fun saves e₁ q hq => ?_
  cases saves with
  | none => exact Proceeds.refl hq
  | some store => exact hk store e₁ q hq

theorem saveToSlot_goesOn (h : e.Poised p) (slot : Value) :
    GoesOn heard p (Engine.saveToSlot slot) e :=
  withStore_goesOn h fun _ _ _ hq => (ofMishap_goesOn hq _).bind fun _ _ _ hq => saveTo_goesOn hq _

theorem timing_goesOn {act : Attempt TimedText Bool} (hact : TimedText.KeepsText act)
    (h : e.Poised p) : Ends (Action.attempt timedTextPlace act) e
      (fun _ e' => e'.Poised p ∧ e'.outside = e.outside ∧ e'.showsLine = e.showsLine)
      fun _ e' => Proceeds heard p e e' := by
  have hposed : ∀ t : TimedText, t.fullText = e.stage.timedText.fullText →
      (timedTextPlace.set t e).Poised p := by
    intro t ht
    refine ⟨h.effect, h.menu, h.free, fun hline => ⟨(h.line hline).1, ?_⟩⟩
    show p.Shows t.fullText
    rw [ht]
    exact (h.line hline).2
  refine Ends.attempt_iff.2 (Ends.mono (hact e.stage.timedText) ?_ ?_)
  · intro _ t ht
    exact ⟨hposed t ht, rfl, rfl⟩
  · intro _ t ht
    exact .of_same rfl (hposed t ht)

theorem take_text_iff {text : String} {n : Nat} :
    String.ofList (text.toList.take n) = text ↔ text.length ≤ n := by
  rw [← String.length_toList, ← List.take_eq_self_iff]
  constructor
  · intro h
    simpa using congrArg String.toList h
  · intro h
    rw [h, String.ofList_toList]

/-- A line is complete if what is visible of it is all of it. -/
theorem complete_iff {t : TimedText} {visible : Value} {complete : Bool}
    (hvisible : t.visible = .ok visible) (hcomplete : t.complete = .ok complete) :
    complete ↔ visible = t.fullText := by
  obtain ⟨size, hsize, hsame⟩ := bind_eq_ok.1 hcomplete
  cases hsame
  unfold TimedText.visible at hvisible
  cases hfull : t.fullText with
  | text | list | bytes =>
    rw [hfull] at hvisible hsize
    cases hvisible
    cases hsize
    simp [take_text_iff]
  | _ =>
    rw [hfull] at hvisible
    cases hvisible

section
variable (hc : Quiet c (Watch.hearing heard) False)
include hc

theorem sendReveal_goesOn (h : e.Poised p) (hline : e.showsLine) :
    GoesOn heard p (sendReveal c) e := by
  obtain ⟨hmode, hawaiting⟩ := showsLine_iff.1 hline
  refine Ends.bind_iff.2 (Ends.get_iff.2 ?_)
  dsimp only
  split
  · refine Ends.bind_iff.2 (Ends.modify_iff.2 (Ends.bind_iff.2 ?_))
    have hposed : (e.mapStage (Stage.mapTimedText fun t => { t with changed := false })).Poised p :=
      ⟨h.effect, h.menu, h.free, h.line⟩
    refine Ends.ofMishap_iff.2 ⟨fun visible hvisible => ?_, fun m _ => .of_same rfl hposed⟩
    refine Ends.bind_iff.2 (Ends.ofMishap_iff.2 ⟨fun complete hcomplete => ?_,
      fun m _ => .of_same rfl hposed⟩)
    rcases (h.line hawaiting).2 with ⟨i, rfl, htext⟩ | hnone
    · refine GoesOn.after (.of_runs (hc.apply _ _) rfl (Phase.Moves.follows (.reveal rfl rfl ?_))
        hposed) rfl
      have hcomplete := complete_iff hvisible hcomplete
      rw [← htext] at hcomplete
      refine ⟨e.stage.timedText.revealed, complete, ?_, rfl, hcomplete⟩
      rw [htext]
      exact hvisible
    · exact absurd hvisible (hnone _ _)
  · exact Proceeds.refl h

theorem endEffect_goesOn {i : Intent} (h : e.Poised p) (hi : e.effect = some i)
    (hmode : e.mode = .effectRunning) {id : Value} (hid : isEffect id i) :
    GoesOn heard (.released i) (endEffect c id) e := by
  have hawaiting := h.awaiting_eq_false (by simp [hmode])
  -- Once the end of a fade is sent, if it is one, the engine plays on.
  have hend : ∀ (l : List Intent) (e₁ : Engine σ),
      Aside (Watch.hearing heard) l { e with effect := none } e₁ →
      (Phase.released i).Follows (l.map .sent) .idle →
      Ends (do
        modify (mapSession Session.release)
        setMode c .normal
        completeBeat
        return true) e₁ (fun _ e' => Proceeds heard (.released i) e e')
        fun _ e' => Proceeds heard (.released i) e e' := by
    intro l e₁ h₁ hl
    obtain ⟨x, rfl, hsent, -⟩ := h₁
    refine Ends.bind_iff.2 (Ends.modify_iff.2 ((setMode_runs hc .normal _).bind_ends ?_))
    intro _ e₂ h₂
    obtain ⟨y, rfl, hsent', -⟩ := h₂
    refine Ends.bind_iff.2 (Ends.modify_iff.2 ⟨l.map .sent, .idle, ?_, hl, ?_⟩)
    · exact (heard_of_sent_nil hsent').trans hsent
    · exact .of_running rfl hawaiting trivial
  unfold endEffect
  refine Ends.bind_iff.2 (Ends.get_iff.2 ?_)
  rw [hi, hmode]
  simp only [Option.filter, hid, beq_self_eq_true, Bool.and_self, if_true]
  refine Ends.bind_iff.2 (Ends.modify_iff.2 ?_)
  by_cases hfade : i.kind = .fadeBegin
  · simp only [hfade, beq_self_eq_true, if_true]
    refine (hc.apply _ _).bind_ends fun _ e₁ h₁ => hend _ e₁ h₁ ?_
    rw [Phase.released, if_pos hfade]
    exact Phase.Moves.follows (.fadeEnd rfl rfl rfl)
  · have hother : (i.kind == .fadeBegin) = false := by simpa using hfade
    simp only [hother, Bool.false_eq_true, if_false]
    refine hend [] _ (Aside.refl _ _) ?_
    rw [Phase.released, if_neg hfade]
    rfl

theorem pick_goesOn (hmode : e.mode = .awaitingChoice) (hawaiting : e.awaiting = false)
    (h : e.Poised .menu) (options : List ChoiceOption) (index : Value) :
    GoesOn heard .menu (pick c options index) e := by
  refine Ends.bind_iff.2 (Ends.ofExcept_iff.2 ⟨fun place _ => ?_, fun _ _ => .refl h⟩)
  cases options[place]? with
  | none => exact Proceeds.refl h
  | some option =>
    refine Ends.bind_iff.2 (Ends.modify_iff.2 ((emit_runs hc _ _).bind_ends fun _ e₁ h₁ => ?_))
    refine (hc.apply _ e₁).bind_ends fun _ e₂ h₂ => ?_
    have hcleared : Aside (Watch.hearing heard) [clearing] { e with menu := none } e₂ := h₁.after h₂
    obtain ⟨x, rfl, hsent, -⟩ := hcleared
    have hidle : Phase.menu.Follows ([clearing].map .sent) .idle :=
      Phase.Moves.follows (.clear rfl rfl)
    rw [follow_eq]
    refine Ends.bind_iff.2 (Ends.onPart_iff.2 ?_)
    refine Ends.iff_perform.2 ⟨fun _ s _ => ?_, fun _ s _ => ?_⟩
    · refine Ends.bind_iff.2 (Ends.modify_iff.2 (((setMode_runs hc .normal _).mono ?_).ends))
      intro _ e₃ h₃
      obtain ⟨y, rfl, hsent', -⟩ := h₃
      refine ⟨_, .idle, ?_, hidle, .of_running rfl hawaiting trivial⟩
      exact (heard_of_sent_nil hsent').trans hsent
    · refine ⟨_, .idle, hsent, hidle, ?_⟩
      constructor <;> simp [stagePlace, within, hmode, hawaiting]

theorem takeOption_goesOn (h : e.Poised p) (index : Value) :
    GoesOn heard p (takeOption c index) e := by
  refine Ends.bind_iff.2 (Ends.get_iff.2 ?_)
  cases hfilter : e.menu.filter fun _ => e.mode == .awaitingChoice with
  | none => exact (note_goesOn h _ _).bind fun _ _ _ hq => .refl hq
  | some options =>
    obtain ⟨hmenu, hwaits⟩ := Option.filter_eq_some_iff.1 hfilter
    have hmode : e.mode = .awaitingChoice := by simpa using hwaits
    obtain rfl : p = .menu := h.menu hmode options hmenu
    have hawaiting := h.awaiting_eq_false (by simp [hmode])
    have hpick : GoesOn heard .menu (Action.outcome (pick c options index)) e :=
      Ends.outcome_iff.2 (pick_goesOn hc hmode hawaiting h options index)
    refine hpick.bind fun r e₁ q hq => ?_
    rcases r with (error | m) | ⟨⟩
    · exact (fail_goesOn hc hq error).bind fun _ _ _ hq' => .refl hq'
    · exact Proceeds.refl hq
    · exact Proceeds.refl hq

end

end

/-- The report that a call brings, if it is taken. -/
def accepted (e : Engine σ) : HostCall → List Sign
  | effectFinished id =>
    if (e.effect.filter fun i => e.mode == .effectRunning && isEffect id i).isSome then
      [.finished id]
    else []
  | _ => []

section
variable {c : Collaborators σ} {heard : σ → List Sign} {p : Phase} {e : Engine σ}

/-- A call that needs no new scene goes on after the report that it brings. -/
theorem opening_goesOn (hc : Quiet c (Watch.hearing heard) False) (h : e.Poised p)
    {call : HostCall} (hcall : call.loads = false) :
    ∃ q, p.Follows (call.accepted e) q ∧ GoesOn heard q (call.opening c) e := by
  have hkept : ∀ {α : Type} {act : Play σ α}, GoesOn heard p act e →
      ∃ q, p.Follows [] q ∧ GoesOn heard q act e := fun hact => ⟨p, rfl, hact⟩
  have hplain : ∀ {α : Type} {act : Play σ α}, GoesOn heard p act e →
      GoesOn heard p (do discard act; return false) e := fun hact =>
    hact.discard.bind fun _ _ _ hq => .refl hq
  cases call with
  | resourcesReady =>
    refine hkept (Ends.bind_iff.2 (Ends.get_iff.2 ?_))
    dsimp only
    split
    · exact (note_goesOn h _ _).bind fun _ _ _ hq => .refl hq
    · next hloading =>
      have hmode : e.mode = .loading := by simpa using hloading
      have hawaiting := h.awaiting_eq_false (by simp [hmode])
      have hnormal : ({ e with mode := .normal } : Engine σ).Poised p :=
        .of_running rfl hawaiting (h.free (.inr hmode))
      exact (GoesOn.of_runs (setMode_runs hc .normal e) rfl rfl hnormal).bind fun _ _ _ hq =>
        .refl hq
  | step => exact hkept (Proceeds.refl h)
  | advance => exact hkept (passLine_goesOn h)
  | requestAdvance =>
    refine hkept (Ends.bind_iff.2 (Ends.get_iff.2 ?_))
    cases hline : e.showsLine with
    | false => exact Proceeds.refl h
    | true =>
      refine Ends.bind_iff.2 (Ends.mono (timing_goesOn TimedText.input_keepsText h) ?_
        fun _ _ h => h)
      intro fired e₁ h₁
      obtain ⟨hq, hout, hline₁⟩ := h₁
      refine GoesOn.after ?_ (congrArg heard hout)
      split
      · exact passLine_goesOn hq
      · exact (sendReveal_goesOn hc hq (hline₁.trans hline)).bind fun _ _ _ hq' => .refl hq'
  | tick dt =>
    refine hkept (Ends.bind_iff.2 (Ends.get_iff.2 ?_))
    cases hline : e.showsLine with
    | false => exact Proceeds.refl h
    | true =>
      refine Ends.bind_iff.2 (Ends.mono (timing_goesOn (TimedText.tick_keepsText dt) h) ?_
        fun _ _ h => h)
      intro fired e₁ h₁
      obtain ⟨hq, hout, hline₁⟩ := h₁
      refine GoesOn.after ?_ (congrArg heard hout)
      refine (sendReveal_goesOn hc hq (hline₁.trans hline)).bind fun _ e₂ q₂ hq₂ => ?_
      split
      · exact passLine_goesOn hq₂
      · exact Proceeds.refl hq₂
  | choose index => exact hkept (takeOption_goesOn hc h index)
  | effectFinished id =>
    cases hfilter : e.effect.filter fun i => e.mode == .effectRunning && isEffect id i with
    | none =>
      have hnone : (effectFinished id).accepted e = [] := by simp [accepted, hfilter]
      rw [hnone]
      refine hkept (Ends.bind_iff.2 (Ends.get_iff.2 ?_))
      rw [hfilter]
      exact (note_goesOn h _ _).bind fun _ _ _ hq => .refl hq
    | some i =>
      obtain ⟨hi, htaken⟩ := Option.filter_eq_some_iff.1 hfilter
      simp only [Bool.and_eq_true, beq_iff_eq] at htaken
      have hone : (effectFinished id).accepted e = [.finished id] := by simp [accepted, hfilter]
      rw [hone, h.effect htaken.1 i hi]
      exact ⟨.released i, Phase.Moves.follows (.done htaken.2),
        endEffect_goesOn hc h hi htaken.1 htaken.2⟩
  | reportResourceError message =>
    have hreport : GoesOn heard p (Engine.reportResourceError c message) e :=
      Ends.bind_iff.2 (Ends.get_iff.2 (fail_goesOn hc h _))
    exact hkept (hreport.bind fun _ _ _ hq => .refl hq)
  | setFlag name value => exact hkept ((setFlag_goesOn h _ _).bind fun _ _ _ hq => .refl hq)
  | saveToSlot slot => exact hkept (hplain (saveToSlot_goesOn h slot))
  | quicksave => exact hkept (hplain (withStore_goesOn h fun _ _ _ hq => saveTo_goesOn hq _))
  | autosave => exact hkept (hplain (saveToSlot_goesOn h _))
  | loadFromSlot | quickload | restore => cases hcall

theorem run_goesOn_of_opening (hc : Quiet c (Watch.hearing heard) False) {call : HostCall}
    (h : GoesOn heard p (call.opening c) e) : GoesOn heard p (call.run c) e := by
  rw [run_eq]
  refine h.bind fun go e₁ q hq => ?_
  cases go with
  | true => exact (step_goesOn hc hq).discard
  | false => exact Proceeds.refl hq

end

/-! ## Loading -/

section
variable {c : Collaborators σ} {heard : σ → List Sign} {p : Phase} {e : Engine σ}

theorem enterLoading_goesOn (hc : c.Attends heard) (hawaiting : e.awaiting = false) :
    GoesOn heard p (enterLoading c) e := by
  refine (setMode_runs hc.quiet .loading e).bind_ends fun _ e₁ h₁ => ?_
  refine Ends.bind_iff.2 (Ends.get_iff.2 ?_)
  refine (emit_runs hc.quiet _ e₁).bind_ends fun _ e₂ h₂ => ?_
  refine Ends.bind_iff.2 (Ends.get_iff.2 (((hc.prepare _ e₂).mono ?_).ends))
  intro _ e₃ h₃
  obtain ⟨x, rfl, hsent, -⟩ := h₁.after h₂
  obtain ⟨y, rfl, hheard⟩ := h₃
  refine ⟨[.prepared], .idle, ?_, Phase.Moves.follows (.prepared p), ?_⟩
  · rw [← heard_of_sent_nil hsent]
    exact hheard
  · constructor <;> simp [within, hawaiting, Phase.Free]

theorem restore_goesOn (hc : c.Attends heard) (h : e.Poised p) (t : Snapshot) :
    GoesOn heard p (Engine.restore c t) e := by
  have hfound : ∀ library, (stagePlace.set { e.stage with library } e).Poised p := fun _ =>
    ⟨h.effect, h.menu, h.free, h.line⟩
  refine restore_ends ((scriptOf_ends t e.stage).mono (fun _ _ h => h) ?_) ?_ ?_
  · rintro _ _ ⟨library, rfl⟩
    exact .of_same rfl (hfound library)
  · rintro script _ error ⟨library, rfl⟩ -
    exact .of_same rfl (hfound library)
  · intro cursor s _ _
    -- The effect, the menu and the line are gone, so the mode alone decides.
    refine Ends.iff_perform.2 ⟨fun _ s' _ => ?_, fun _ s' _ => ?_⟩
    · exact (enterLoading_goesOn hc rfl).after rfl
    · refine .of_same rfl ⟨?_, ?_, h.free, ?_⟩
      all_goals simp [cleared]

theorem loadFrom_goesOn (hc : c.Attends heard) (h : e.Poised p)
    (read : Attempt Disk (Option Value)) : GoesOn heard p (loadFrom c read) e := by
  refine (onDisk_goesOn h _).bind fun data e₁ q hq => ?_
  dsimp only
  split
  · exact Proceeds.refl hq
  · refine (ofMishap_goesOn hq _).bind fun t _ _ hq => ?_
    exact (restore_goesOn hc hq t).bind fun _ _ _ hq => .refl hq

theorem playBeats_unprepared (c : Collaborators σ) (turns budget : Nat) :
    playBeats c.unprepared turns budget = playBeats c turns budget := by
  induction turns generalizing budget with
  | zero => rfl
  | succ turns ih =>
    unfold playBeats
    simp only [ih]
    rfl

/-- Only a call that loads has a scene prepared. -/
theorem run_unprepared (c : Collaborators σ) {call : HostCall} (hcall : call.loads = false) :
    call.run c.unprepared = call.run c := by
  have hstep : Engine.step c.unprepared = Engine.step c := by
    unfold Engine.step
    simp only [playBeats_unprepared]
    rfl
  rw [run_eq, run_eq]
  unfold playOn
  rw [hstep]
  cases call with
  | loadFromSlot | quickload | restore => cases hcall
  | _ => rfl

/-- A call that starts poised goes on after the report that it brings. -/
theorem run_goesOn (hc : c.Attends heard) (h : e.Poised p) (call : HostCall) :
    ∃ q, p.Follows (call.accepted e) q ∧ GoesOn heard q (call.run c) e := by
  cases hcall : call.loads with
  | false =>
    obtain ⟨q, hq, hopening⟩ := opening_goesOn hc.quiet h hcall
    refine ⟨q, hq, ?_⟩
    rw [← run_unprepared c hcall]
    exact run_goesOn_of_opening hc.quiet hopening
  | true =>
    cases call with
    | loadFromSlot slot =>
      refine ⟨p, rfl, GoesOn.discard (withStore_goesOn h fun _ _ _ hq => ?_)⟩
      exact (ofMishap_goesOn hq _).bind fun _ _ _ hq => loadFrom_goesOn hc hq _
    | quickload =>
      exact ⟨p, rfl, GoesOn.discard (withStore_goesOn h fun _ _ _ hq => loadFrom_goesOn hc hq _)⟩
    | restore t => exact ⟨p, rfl, restore_goesOn hc h t⟩
    | _ => cases hcall

end

end HostCall

/-! ## Runs -/

/-- The signs that collaborators have heard between two states of an engine. -/
def heardBetween (heard : σ → List Sign) (e e' : Engine σ) : List Sign :=
  (heard e'.outside).drop (heard e.outside).length

/-- The signs of a call: the report that it brings, if it is taken, and what is heard then. -/
def HostCall.signs (c : Collaborators σ) (heard : σ → List Sign) (call : HostCall) (e : Engine σ) :
    List Sign :=
  call.accepted e ++ heardBetween heard e ((call.run c).perform e).2

/-- The signs of a run that has led to an engine: it is set up and starts to load, calls are made of
it however they end, and its surroundings change in between. -/
inductive Transcript (c : Collaborators σ) (heard : σ → List Sign) :
    Engine σ → List Sign → Prop where
  | start {setup : Engine.Setup} {outside : σ} {e : Engine σ} :
    Engine.ofSetup setup outside = .ok e →
    Transcript c heard ((Engine.enterLoading c).perform e).2
      (heardBetween heard e ((Engine.enterLoading c).perform e).2)
  | call {e : Engine σ} {signs : List Sign} (call : HostCall) : Transcript c heard e signs →
    Transcript c heard ((call.run c).perform e).2 (signs ++ call.signs c heard e)
  | around {e : Engine σ} {signs : List Sign} (x : Surroundings σ) : Transcript c heard e signs →
    heard x.outside = heard e.outside → Transcript c heard (e.within x) signs

namespace Transcript

variable {c : Collaborators σ} {heard : σ → List Sign} {e : Engine σ} {signs : List Sign}

/-- The signs of a run lead to the phase that its engine is poised in. -/
theorem poised (hc : c.Attends heard) (h : Transcript c heard e signs) :
    ∃ p, Phase.idle.Follows signs p ∧ e.Poised p := by
  induction h with
  | @start setup outside e hsetup =>
    obtain ⟨stage, -, heq⟩ := bind_eq_ok.1 hsetup
    have hawaiting : e.awaiting = false := by
      cases heq
      rfl
    obtain ⟨signs, p, hheard, hsigns, hp⟩ :=
      (HostCall.enterLoading_goesOn hc (p := .idle) hawaiting).perform
    refine ⟨p, ?_, hp⟩
    rw [heardBetween, hheard, List.drop_left]
    exact hsigns
  | @call e signs call _ ih =>
    obtain ⟨p, hsigns, hp⟩ := ih
    obtain ⟨q, hq, hgoes⟩ := call.run_goesOn hc hp
    obtain ⟨new, r, hheard, hnew, hr⟩ := hgoes.perform
    refine ⟨r, ?_, hr⟩
    rw [HostCall.signs, heardBetween, hheard, List.drop_left]
    exact hsigns.trans (hq.trans hnew)
  | around x _ _ ih =>
    obtain ⟨p, hsigns, hp⟩ := ih
    exact ⟨p, hsigns, hp.within x⟩

/-- Between two preparations the intents of any run stand in order. -/
theorem intents_in_order (hc : c.Attends heard) (h : Transcript c heard e signs)
    (before between after : List Sign) (hsigns : signs = before ++ .prepared :: between ++ after)
    (hbetween : .prepared ∉ between) : Obeys between := by
  obtain ⟨p, hp, -⟩ := h.poised hc
  rw [hsigns, List.append_assoc] at hp
  obtain ⟨q, -, q', hprepared, hrest⟩ := Phase.follows_append.1 hp
  cases hprepared
  obtain ⟨r, hr, -⟩ := Phase.follows_append.1 hrest
  exact hr.obeys hbetween

end Transcript

/-- Collaborators that write down the signs that they hear, and do nothing else. -/
def Collaborators.listening : Collaborators (List Sign) where
  prepare _ := modify fun e => { e with outside := e.outside ++ [.prepared] }
  apply i := modify fun e => { e with outside := e.outside ++ (i.map .sent).toList }
  showError _ := pure ()
  deliver _ _ := pure ()
  systemCall _ := pure ()
  finished := pure ()

theorem Collaborators.listening_attends : listening.Attends id where
  prepare _ e := ⟨{ e.surroundings with outside := e.outside ++ [.prepared] }, rfl, rfl⟩
  quiet :=
    { prepare := fun _ e => Aside.refl _ e
      apply := fun i e =>
        ⟨{ e.surroundings with outside := e.outside ++ [.sent i] }, rfl, rfl, trivial⟩
      showError := fun _ e => Aside.refl _ e
      deliver := fun _ _ e => Aside.refl _ e
      systemCall := fun _ e => Aside.refl _ e
      finished := fun e => Aside.refl _ e }

/-- A sign without its details: nothing for a preparation, and no kind for a report. -/
def Sign.outline : Sign → Option (Option IntentKind)
  | prepared => none
  | sent i => some (some i.kind)
  | finished _ => some none

/-- A fade is sent, reported as done and ended before the first line is shown. -/
theorem Transcript.intents_in_order_fading : ∃ (e : Engine (List Sign)) (signs : List Sign),
    Transcript .listening id e (.prepared :: signs) ∧
    signs.map Sign.outline =
      [some (some .fadeBegin), some none, some (some .fadeEnd), some (some .showText)] ∧
    Obeys signs := by
  let loaded (e : Engine (List Sign)) := ((Engine.enterLoading .listening).perform e).2
  let ready (e : Engine (List Sign)) := ((HostCall.resourcesReady.run .listening).perform e).2
  let all (e : Engine (List Sign)) : List Sign :=
    heardBetween id e (loaded e) ++ HostCall.resourcesReady.signs .listening id (loaded e) ++
      (HostCall.effectFinished (.int 1)).signs .listening id (ready (loaded e))
  have hfacts : (Engine.ofSetup Engine.fading []).toOption.map (fun e =>
      (all e).map Sign.outline) = some [none, some (some .fadeBegin), some none,
        some (some .fadeEnd), some (some .showText)] := by
    decide +kernel
  obtain ⟨e, he, houtline⟩ := Option.map_eq_some_iff.1 hfacts
  have hstart : Transcript .listening id (loaded e) (heardBetween id e (loaded e)) :=
    .start (toOption_eq_some.1 he)
  have hrun : Transcript .listening id _ (all e) :=
    (hstart.call .resourcesReady).call (.effectFinished (.int 1))
  obtain ⟨s, signs, hsigns, hs, hrest⟩ := List.map_eq_cons_iff.1 houtline
  obtain rfl : s = .prepared := by
    cases s with
    | prepared => rfl
    | _ => cases hs
  have hnone : .prepared ∉ signs := by
    intro hmem
    have hmem := List.mem_map_of_mem (f := Sign.outline) hmem
    rw [hrest] at hmem
    simp [Sign.outline] at hmem
  rw [hsigns] at hrun
  refine ⟨_, signs, hrun, hrest, ?_⟩
  exact hrun.intents_in_order Collaborators.listening_attends [] signs [] (by simp) hnone

end VisualNovel
