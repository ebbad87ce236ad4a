import VisualNovel.Proofs.Protocol
import VisualNovel.Proofs.Tallies
import VisualNovel.Proofs.Tracks

/-!
# Collaborators that call back

A collaborator may fail, and it may call the engine while the engine calls it. `Meddles` is what a
host or a collaborator can do to an engine: calls of any kind, one after another, however they end.
A collaborator of depth zero makes no calls, and one of the next depth makes calls that are
themselves answered by collaborators of the depth before (`CallsBack`).

The numbers of effects are kept in order all the same. A step inside of a step does nothing, so
nobody can start an effect while another one is being started; this is what `Visits` says of a
visitor, and whoever visits an engine keeps the tally of its effects (`CallsBack.visits`).
-/

namespace VisualNovel

open Script Sign

variable {σ α : Type}

/-! ## What visitors do -/

/-- Only the surroundings have changed, and nothing was heard. -/
def Around (heard : σ → List Sign) (e e' : Engine σ) : Prop :=
  ∃ x, e' = e.within x ∧ heard x.outside = heard e.outside

/-- Calls were made of an engine, however they have ended, and its surroundings have changed in
between. A report that is going to be taken is written down first. -/
inductive Meddles (c : Collaborators σ) (heard : σ → List Sign) (e : Engine σ) :
    Engine σ → Prop where
  | refl : Meddles c heard e e
  | around {e₁ e₂ : Engine σ} : Meddles c heard e e₁ → Around heard e₁ e₂ → Meddles c heard e e₂
  | call {e₁ : Engine σ} (call : HostCall) (x : Surroundings σ) : Meddles c heard e e₁ →
    heard x.outside = heard e₁.outside ++ call.accepted e₁ →
    Meddles c heard e ((call.run c).perform (e₁.within x)).2

namespace Collaborators

/-- The collaborators write down that they have to prepare a scene and the intents that they are
sent. Whatever they do then is in `R`, and so is whatever else they do, however it ends. -/
structure Answers (c : Collaborators σ) (heard : σ → List Sign)
    (R : Engine σ → Engine σ → Prop) : Prop where
  prepare : ∀ scene e, ∃ x : Surroundings σ, heard x.outside = heard e.outside ++ [.prepared] ∧
    R (e.within x) ((c.prepare scene).perform e).2
  apply : ∀ i e, ∃ x : Surroundings σ, heard x.outside = heard e.outside ++ [.sent i] ∧
    R (e.within x) ((c.apply (some i)).perform e).2
  applyNothing : Tracks R (c.apply none)
  showError : ∀ text, Tracks R (c.showError text)
  deliver : ∀ id event, Tracks R (c.deliver id event)
  systemCall : ∀ args, Tracks R (c.systemCall args)
  finished : Tracks R c.finished

theorem Answers.mono {c : Collaborators σ} {heard : σ → List Sign}
    {R S : Engine σ → Engine σ → Prop} (h : c.Answers heard R)
    (hRS : ∀ {e e'}, R e e' → S e e') : c.Answers heard S where
  prepare scene e := (h.prepare scene e).imp fun _ hx => ⟨hx.1, hRS hx.2⟩
  apply i e := (h.apply i e).imp fun _ hx => ⟨hx.1, hRS hx.2⟩
  applyNothing := h.applyNothing.mono hRS
  showError text := (h.showError text).mono hRS
  deliver id event := (h.deliver id event).mono hRS
  systemCall args := (h.systemCall args).mono hRS
  finished := h.finished.mono hRS

end Collaborators

/-- The collaborators call back, if at all, as deep as they like. -/
inductive CallsBack (heard : σ → List Sign) : Collaborators σ → Prop where
  | never {c : Collaborators σ} : c.Answers heard (Around heard) → CallsBack heard c
  | deeper {c inner : Collaborators σ} : CallsBack heard inner →
    c.Answers heard (Meddles inner heard) → CallsBack heard c

/-! ## Keeping the tally -/

/-- The effect that is running has the number of the last one, which is not over. -/
def Engine.Numbered (s : Standing) (e : Engine σ) : Prop :=
  ∀ i, e.effect = some i → i.effectId = some (.int e.effectCount) ∧ s ≠ .over

theorem Engine.numbered_of_none {e : Engine σ} {s : Standing} (h : e.effect = none) :
    e.Numbered s := by
  intro i hi
  rw [h] at hi
  cases hi

/-- Signs were heard that lead from the tally of one engine to that of another. -/
def Counted (heard : σ → List Sign) (s : Standing) (e : Engine σ) (s' : Standing)
    (e' : Engine σ) : Prop :=
  ∃ signs, heard e'.outside = heard e.outside ++ signs ∧
    Tally.Follows ⟨e.effectCount, s⟩ signs ⟨e'.effectCount, s'⟩ ∧ e'.Numbered s'

/-- What a visitor may do to an engine. Outside of a step everything that keeps the tally; in the
middle of a step no effect is started, and the one that is running is kept or dropped. -/
def Visits (heard : σ → List Sign) (e e' : Engine σ) : Prop :=
  e'.stepping = e.stepping ∧ ∀ s, e.Numbered s → ∃ s', Counted heard s e s' e' ∧
    (e.stepping = true → e'.effectCount = e.effectCount ∧
      (e'.effect = none ∨ e'.effect = e.effect ∧ s' = s))

/-- What may happen to an engine in the middle of a step. -/
def Unfolds (heard : σ → List Sign) (e e' : Engine σ) : Prop :=
  e.stepping = true → e'.stepping = true ∧ ∀ s, e.Numbered s → ∃ s', Counted heard s e s' e'

section
variable {heard : σ → List Sign} {e e₁ e' : Engine σ} {s s₁ s' : Standing}

namespace Counted

theorem numbered (h : Counted heard s e s' e') : e'.Numbered s' :=
  h.choose_spec.2.2

theorem trans (h : Counted heard s e s₁ e₁) (h' : Counted heard s₁ e₁ s' e') :
    Counted heard s e s' e' := by
  obtain ⟨signs, hheard, hfollows, -⟩ := h
  obtain ⟨later, hheard', hfollows', hnumbered⟩ := h'
  refine ⟨signs ++ later, ?_, hfollows.trans hfollows', hnumbered⟩
  rw [hheard', hheard, List.append_assoc]

theorem of_same (hout : heard e'.outside = heard e.outside)
    (hcount : e'.effectCount = e.effectCount) (hnumbered : e'.Numbered s) :
    Counted heard s e s e' := by
  refine ⟨[], by simp [hout], ?_, hnumbered⟩
  rw [hcount]
  exact .refl

end Counted

namespace Visits

theorem trans (h : Visits heard e e₁) (h' : Visits heard e₁ e') : Visits heard e e' := by
  refine ⟨h'.1.trans h.1, fun s hs => ?_⟩
  obtain ⟨s₁, hcounted, hinside⟩ := h.2 s hs
  obtain ⟨s', hcounted', hinside'⟩ := h'.2 s₁ hcounted.numbered
  refine ⟨s', hcounted.trans hcounted', fun hstepping => ?_⟩
  obtain ⟨hcount, heffect⟩ := hinside hstepping
  obtain ⟨hcount', heffect'⟩ := hinside' (h.1.trans hstepping)
  refine ⟨hcount'.trans hcount, ?_⟩
  rcases heffect' with hnone' | ⟨hsame', rfl⟩
  · exact .inl hnone'
  · rcases heffect with hnone | ⟨hsame, rfl⟩
    · exact .inl (hsame'.trans hnone)
    · exact .inr ⟨hsame'.trans hsame, rfl⟩

/-- A visit that passes in silence, and drops the effect at most. -/
theorem of_same (hstepping : e'.stepping = e.stepping) (hout : heard e'.outside = heard e.outside)
    (hcount : e'.effectCount = e.effectCount) (heffect : e'.effect = none ∨ e'.effect = e.effect) :
    Visits heard e e' := by
  refine ⟨hstepping, fun s hs => ⟨s, .of_same hout hcount ?_, fun _ => ⟨hcount, ?_⟩⟩⟩
  · rcases heffect with hnone | hsame
    · exact Engine.numbered_of_none hnone
    · intro i hi
      rw [hcount]
      exact hs i (hsame.symm.trans hi)
  · exact heffect.imp_right fun hsame => ⟨hsame, rfl⟩

instance : IsPreorder (Engine σ) (Visits heard) where
  refl _ := of_same rfl rfl rfl (.inr rfl)
  trans _ _ _ := trans

theorem lenient : Lenient (Visits heard) where
  disk _ _ := of_same rfl rfl rfl (.inr rfl)
  bus _ _ := of_same rfl rfl rfl (.inr rfl)
  saves _ _ := of_same rfl rfl rfl (.inr rfl)
  stage _ _ := of_same rfl rfl rfl (.inr rfl)
  mode _ _ := of_same rfl rfl rfl (.inr rfl)
  awaiting _ _ := of_same rfl rfl rfl (.inr rfl)
  cleared _ := of_same rfl rfl rfl (.inr rfl)
  menu _ _ := of_same rfl rfl rfl (.inr rfl)
  backlog _ _ := of_same rfl rfl rfl (.inr rfl)
  dropped _ := of_same rfl rfl rfl (.inl rfl)

theorem of_around (h : Around heard e e') : Visits heard e e' := by
  obtain ⟨x, rfl, hx⟩ := h
  exact of_same rfl hx rfl (.inr rfl)

/-- Writing down what has nothing to do with effects is a visit. -/
theorem of_passing {x : Surroundings σ} {sign : Sign} (hsign : sign.passing)
    (hx : heard x.outside = heard e.outside ++ [sign]) : Visits heard e (e.within x) :=
  ⟨rfl, fun s hs => ⟨s, ⟨[sign], hx, Tally.Follows.refl.passes hsign, hs⟩,
    fun _ => ⟨rfl, .inr ⟨rfl, rfl⟩⟩⟩⟩

/-- A report that is taken is for the last effect. -/
theorem of_accepted {x : Surroundings σ} {id : Value} {i : Intent} (hi : e.effect = some i)
    (hid : Engine.isEffect id i) (hx : heard x.outside = heard e.outside ++ [.finished id]) :
    Visits heard e { e.within x with effect := none } := by
  refine ⟨rfl, fun s hs => ?_⟩
  obtain ⟨hnumber, hover⟩ := hs i hi
  have hequal : (Value.int e.effectCount).equal id := by
    unfold Engine.isEffect at hid
    rw [hnumber] at hid
    exact hid
  exact ⟨.over, ⟨_, hx, Tally.Follows.refl.finishes hover hequal, Engine.numbered_of_none rfl⟩,
    fun _ => ⟨rfl, .inl rfl⟩⟩

theorem unfolds (h : Visits heard e e') : Unfolds heard e e' := fun hstepping =>
  ⟨h.1.trans hstepping, fun s hs => (h.2 s hs).imp fun _ hs' => hs'.1⟩

end Visits

instance : IsPreorder (Engine σ) (Unfolds heard) where
  refl e := (refl_of (Visits heard) e).unfolds
  trans e e₁ e' h h' := by
    intro hstepping
    obtain ⟨hstepping₁, hcount⟩ := h hstepping
    obtain ⟨hstepping', hcount'⟩ := h' hstepping₁
    refine ⟨hstepping', fun s hs => ?_⟩
    obtain ⟨s₁, hs₁⟩ := hcount s hs
    obtain ⟨s', hs'⟩ := hcount' s₁ hs₁.numbered
    exact ⟨s', hs₁.trans hs'⟩

end

section
variable {c : Collaborators σ} {heard : σ → List Sign}

theorem Collaborators.Answers.track (hc : c.Answers heard (Visits heard)) :
    c.Track (Visits heard) where
  prepare scene e := by
    obtain ⟨x, hx, hrest⟩ := hc.prepare scene e
    exact (Visits.of_passing rfl hx).trans hrest
  apply i hi e := by
    obtain ⟨x, hx, hrest⟩ := hc.apply i e
    have hpassing : Sign.passing (.sent i) := by simp [passing, hi]
    exact (Visits.of_passing hpassing hx).trans hrest
  applyNothing := hc.applyNothing
  showError := hc.showError
  deliver := hc.deliver
  systemCall := hc.systemCall
  finished := hc.finished

namespace Engine

variable (hc : c.Answers heard (Visits heard))
include hc

/-! ## The beats of a step -/

/-- The effect that was begun is sent, unless a listener has ended it. -/
theorem applyEffect_counted {e : Engine σ} {s : Standing} (hs : e.Numbered s)
    (hbegun : e.effect = none ∨ s = .begun) :
    ((c.apply e.effect).perform e).2.stepping = e.stepping ∧
      ∃ s', Counted heard s e s' ((c.apply e.effect).perform e).2 := by
  cases heffect : e.effect with
  | none =>
    obtain ⟨hstepping, hvisit⟩ := hc.applyNothing e
    exact ⟨hstepping, (hvisit s hs).imp fun _ h => h.1⟩
  | some i =>
    obtain rfl : s = .begun := by
      rcases hbegun with hnone | hbegun
      · rw [heffect] at hnone
        cases hnone
      · exact hbegun
    obtain ⟨x, hx, hstepping, hvisit⟩ := hc.apply i e
    have hsent : Counted heard .begun e .sent (e.within x) :=
      ⟨_, hx, Tally.Follows.refl.sends (hs i heffect).1,
        fun j hj => ⟨(hs j hj).1, Standing.noConfusion⟩⟩
    obtain ⟨s', hs', -⟩ := hvisit .sent hsent.numbered
    exact ⟨hstepping, s', hsent.trans hs'⟩

theorem hold_unfolds (kind : IntentKind) (payload : Table String Value) :
    Tracks (Unfolds heard) (hold c kind payload) := by
  intro e hstepping
  let e₁ : Engine σ := { e with
    effectCount := e.effectCount + 1
    effect := some { kind, payload, effectId := some (.int (e.effectCount + 1 : Nat)) } }
  have hrun : (hold c kind payload).perform e = (setMode c .effectRunning >>= fun _ =>
      get >>= fun e => c.apply e.effect).perform e₁ := rfl
  have hbegun : ∀ s, Counted heard s e .begun e₁ := fun s => by
    refine ⟨[], by simp [e₁], .begins .refl, fun i hi => ?_⟩
    cases hi
    exact ⟨rfl, Standing.noConfusion⟩
  -- Who hears of the mode may end the effect, but cannot start another one in its place.
  obtain ⟨hstepping₂, hvisit⟩ := setMode_tracks Visits.lenient hc.track .effectRunning e₁
  obtain ⟨s₂, hs₂, hinside⟩ := hvisit .begun (hbegun .begun).numbered
  rw [hrun]
  rcases hset : (setMode c .effectRunning).perform e₁ with ⟨f | _, e₂⟩
  · rw [hset] at hstepping₂ hs₂
    rw [Action.perform_bind_error hset]
    exact ⟨hstepping₂.trans hstepping, fun s _ => ⟨s₂, (hbegun s).trans hs₂⟩⟩
  · rw [hset] at hstepping₂ hs₂ hinside
    rw [Action.perform_bind_ok hset, Action.perform_get_bind]
    obtain ⟨-, heffect⟩ := hinside hstepping
    obtain ⟨hstepping₃, s₃, hs₃⟩ :=
      applyEffect_counted hc hs₂.numbered (heffect.imp_right And.right)
    exact ⟨hstepping₃.trans (hstepping₂.trans hstepping),
      fun s _ => ⟨s₃, (hbegun s).trans (hs₂.trans hs₃)⟩⟩

theorem playBeats_unfolds (turns budget : Nat) :
    Tracks (Unfolds heard) (playBeats c turns budget) :=
  playBeats_tracks_hold Visits.lenient Visits.unfolds hc.track.filled (hold_unfolds hc) turns budget

theorem fail_visits (error : StoryError) : Tracks (Visits heard) (fail c error) :=
  fail_tracks Visits.lenient hc.track (fun _ _ => .of_same rfl rfl rfl (.inr rfl)) error

theorem orFail_unfolds {act : Play σ Unit} (hact : Tracks (Unfolds heard) act) :
    Tracks (Unfolds heard) (orFail c act) :=
  orFail_tracks (fun error => (fail_visits hc error).mono Visits.unfolds) hact

/-! ## Steps and calls -/

theorem step_visits : Tracks (Visits heard) (step c) := by
  refine step_tracks (refl_of _) fun e _ hstepping => ?_
  obtain ⟨-, hcount⟩ := orFail_unfolds hc (playBeats_unfolds hc turnsPerStep commandBudget)
    { e with stepping := true } rfl
  refine ⟨hstepping.symm, fun s hs => ?_⟩
  obtain ⟨s', hs'⟩ := hcount s hs
  refine ⟨s', hs', fun hinside => ?_⟩
  rw [hstepping] at hinside
  cases hinside

end Engine

namespace HostCall

/-- What a report does that is taken. -/
theorem endEffect_accepted {e : Engine σ} {id : Value} {effect : Intent}
    (h : (e.effect.filter fun i => e.mode == .effectRunning && Engine.isEffect id i) =
      some effect) :
    (endEffect c id).perform e =
      (Engine.leaveEffect c effect).perform { e with effect := none } := by
  rw [endEffect, Action.perform_get_bind, h]
  rfl

/-- A report that is taken ends the effect, and then the engine plays on. -/
theorem run_accepted {e : Engine σ} {id : Value} {effect : Intent}
    (h : (e.effect.filter fun i => e.mode == .effectRunning && Engine.isEffect id i) =
      some effect) :
    ((effectFinished id).run c).perform e =
      (Engine.leaveEffect c effect >>= playOn c).perform { e with effect := none } := by
  rw [run_eq]
  exact Action.perform_bind_congr (endEffect_accepted h) (playOn c)

/-- A call is a visit, if its report is written down before it is taken. -/
theorem run_visits (hc : c.Answers heard (Visits heard)) (call : HostCall) {e : Engine σ}
    {x : Surroundings σ} (hx : heard x.outside = heard e.outside ++ call.accepted e) :
    Visits heard e ((call.run c).perform (e.within x)).2 := by
  have hplayOn : ∀ go, Tracks (Visits heard) (playOn c go) := fun go => by
    cases go with
    | true => exact (Engine.step_visits hc).discard
    | false => exact .pure
  -- Only a report that is taken has written something down before the call.
  by_cases hnone : call.accepted e = []
  · rw [hnone, List.append_nil] at hx
    refine (Visits.of_around ⟨x, rfl, hx⟩).trans ?_
    rw [run_eq]
    have hopening := Engine.opening_tracks Visits.lenient hc.track (Engine.fail_visits hc) call
    exact hopening.bind hplayOn _
  · cases call with
    | effectFinished id =>
      cases hfilter : e.effect.filter fun i => e.mode == .effectRunning && Engine.isEffect id i with
      | none => simp [accepted, hfilter] at hnone
      | some effect =>
        obtain ⟨heffect, hwaits⟩ := Option.filter_eq_some_iff.1 hfilter
        have hid : Engine.isEffect id effect := by simp_all
        have hx : heard x.outside = heard e.outside ++ [.finished id] := by
          simpa [accepted, hfilter] using hx
        have hrun : ((effectFinished id).run c).perform (e.within x) =
            (Engine.leaveEffect c effect >>= playOn c).perform
              { e.within x with effect := none } :=
          run_accepted hfilter
        rw [hrun]
        refine (Visits.of_accepted heffect hid hx).trans ?_
        exact (Engine.leaveEffect_tracks Visits.lenient hc.track effect).bind hplayOn _
    | _ => exact absurd rfl hnone

end HostCall

/-- Whoever makes calls of an engine visits it. -/
theorem Meddles.visits (hc : c.Answers heard (Visits heard)) {e e' : Engine σ}
    (h : Meddles c heard e e') : Visits heard e e' := by
  induction h with
  | refl => exact refl_of _ e
  | around _ haround ih => exact ih.trans (.of_around haround)
  | call call x _ hx ih => exact ih.trans (call.run_visits hc hx)

/-- However deep collaborators call back, they keep the tally. -/
theorem CallsBack.visits (h : CallsBack heard c) : c.Answers heard (Visits heard) := by
  induction h with
  | never hc => exact hc.mono Visits.of_around
  | deeper _ hc ih => exact hc.mono (Meddles.visits ih)

/-! ## Restoring -/

/-- A snapshot, a slot or the quick save was restored. -/
inductive Engine.Restored (c : Collaborators σ) (e e' : Engine σ) : Prop where
  | snapshot (t : Snapshot) : (restore c t).perform e = (.ok (), e') → Restored c e e'
  | slot (slot : Value) : (loadFromSlot c slot).perform e = (.ok true, e') → Restored c e e'
  | quick : (quickload c).perform e = (.ok true, e') → Restored c e e'

/-- The last effect is over, and the tally is kept from then on. -/
def Drops (heard : σ → List Sign) (e e' : Engine σ) : Prop :=
  ∃ s', Counted heard .over e s' e'

namespace Engine

/-- What comes after an effect was dropped. -/
theorem drops_of_visits {e e₁ e' : Engine σ} (h : Visits heard e₁ e')
    (hout : heard e₁.outside = heard e.outside) (hcount : e₁.effectCount = e.effectCount)
    (hnone : e₁.effect = none) : Drops heard e e' := by
  obtain ⟨s', hs', -⟩ := h.2 .over (numbered_of_none hnone)
  exact ⟨s', (Counted.of_same hout hcount (numbered_of_none hnone)).trans hs'⟩

variable (hc : c.Answers heard (Visits heard))
include hc

theorem restore_drops (t : Snapshot) (e : Engine σ) :
    Ends (restore c t) e (fun _ e' => Drops heard e e') fun _ _ => True := by
  refine restore_ends ((scriptOf_ends t e.stage).mono (fun _ _ h => h) fun _ _ _ => trivial)
    (fun _ _ _ _ _ => trivial) fun cursor s _ _ => ?_
  refine Ends.iff_perform.2 ⟨fun _ s' _ => ?_, fun _ _ _ => trivial⟩
  exact (Tracks.iff_ends.1 (enterLoading_tracks Visits.lenient hc.track) _).mono
    (fun _ _ h => drops_of_visits h rfl rfl rfl) fun _ _ _ => trivial

theorem loadFrom_drops (read : Attempt Disk (Option Value)) (e : Engine σ) :
    Ends (loadFrom c read) e (fun ok e' => ok → Drops heard e e') fun _ _ => True := by
  refine loadFrom_ends (fun _ _ _ _ => trivial) (fun _ _ _ => nofun) fun data t d _ _ => ?_
  exact (restore_drops hc t _).mono (fun _ _ h _ => h) fun _ _ h => h

/-- After a restoration the last effect is over. -/
theorem Restored.drops {e e' : Engine σ} (h : Restored c e e') : Drops heard e e' := by
  cases h with
  | snapshot t hrun => exact (Ends.iff_perform.1 (restore_drops hc t e)).1 _ _ hrun
  | slot slot hrun =>
    have hends : Ends (loadFromSlot c slot) e (fun ok e' => ok → Drops heard e e')
        fun _ _ => True :=
      withStore_ends (fun _ => nofun) fun _ _ => Ends.bind_iff.2 (Ends.ofMishap_iff.2
        ⟨fun _ _ => loadFrom_drops hc _ e, fun _ _ => trivial⟩)
    exact (Ends.iff_perform.1 hends).1 _ _ hrun rfl
  | quick hrun =>
    have hends : Ends (quickload c) e (fun ok e' => ok → Drops heard e e') fun _ _ => True :=
      withStore_ends (fun _ => nofun) fun _ _ => loadFrom_drops hc _ e
    exact (Ends.iff_perform.1 hends).1 _ _ hrun rfl

end Engine

/-! ## Runs -/

/-- A run has led to an engine: it was set up, it started to load, and calls were made of it. -/
def Engine.Arises (c : Collaborators σ) (heard : σ → List Sign) (e : Engine σ) : Prop :=
  ∃ (setup : Setup) (outside : σ) (e₀ : Engine σ), ofSetup setup outside = .ok e₀ ∧
    heard outside = [] ∧ Meddles c heard ((enterLoading c).perform e₀).2 e

/-- The signs of a run lead to the tally of its engine. -/
theorem Engine.Arises.follows (hc : c.Answers heard (Visits heard)) {e : Engine σ}
    (h : e.Arises c heard) :
    ∃ s, Tally.Follows ⟨0, .over⟩ (heard e.outside) ⟨e.effectCount, s⟩ ∧ e.Numbered s := by
  obtain ⟨setup, outside, e₀, hsetup, hheard, hmeddles⟩ := h
  have hvisits := (enterLoading_tracks Visits.lenient hc.track e₀).trans (hmeddles.visits hc)
  obtain ⟨stage, -, heq⟩ := bind_eq_ok.1 hsetup
  cases heq
  obtain ⟨s, ⟨signs, hsigns, hfollows, hnumbered⟩, -⟩ := hvisits.2 .over (numbered_of_none rfl)
  refine ⟨s, ?_, hnumbered⟩
  rw [hsigns, hheard]
  exact hfollows

end

end VisualNovel
