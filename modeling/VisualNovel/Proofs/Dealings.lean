import VisualNovel.Proofs.Callbacks
import VisualNovel.Proofs.Turns

/-!
# Effects on their way to the renderer

An effect that begins is recorded, the mode changes, and then the effect on record is handed to the
renderer. Whoever hears of the new mode may report the effect as done before it was handed over.
Then nothing is on record any more, and the renderer is handed nothing.

`Engine.Dealt.one_turn_each` says of every run, with collaborators that call back, that this is all
that can go amiss: effects have their turns one after another, and in its turn an effect is handed
over, unless it was reported too early. Without callbacks no effect is.
-/

namespace VisualNovel

open Script

variable {σ α : Type}

/-! ## Calls and what passes -/

namespace HostCall

/-- What a call reports, if the report is taken. -/
def reported (e : Engine σ) : HostCall → List Dealing
  | effectFinished id =>
    if (e.effect.filter fun i => e.mode == .effectRunning && Engine.isEffect id i).isSome then
      [.reported id]
    else []
  | _ => []

/-- Whether a call neither restores a session nor reports a failure. -/
def gentle : HostCall → Bool
  | reportResourceError _ => false
  | call => !call.loads

/-- A call reports nothing, or it is a report for the effect that is running. -/
theorem reported_cases (call : HostCall) (e : Engine σ) :
    call.reported e = [] ∨ ∃ id i, call = effectFinished id ∧ e.effect = some i ∧
      Engine.isEffect id i ∧ call.reported e = [.reported id] ∧
      (e.effect.filter fun i => e.mode == .effectRunning && Engine.isEffect id i) = some i := by
  cases call with
  | effectFinished id =>
    cases hfilter : e.effect.filter fun i => e.mode == .effectRunning && Engine.isEffect id i with
    | none => exact .inl (by simp [reported, hfilter])
    | some i =>
      obtain ⟨heffect, hwaits⟩ := Option.filter_eq_some_iff.1 hfilter
      rw [Bool.and_eq_true] at hwaits
      exact .inr ⟨id, i, rfl, heffect, hwaits.2, by simp [reported, hfilter], hfilter⟩
  | _ => exact .inl rfl

end HostCall

/-- Only the surroundings have changed, and nothing has passed. -/
def Elsewhere (log : σ → List Dealing) (e e' : Engine σ) : Prop :=
  ∃ x : Surroundings σ, e' = e.within x ∧ log x.outside = log e.outside

/-- Calls of a kind were made of an engine, however they have ended, and its surroundings have
changed in between. A report that is going to be taken is written down first. -/
inductive Called (kind : HostCall → Prop) (c : Collaborators σ) (log : σ → List Dealing)
    (e : Engine σ) : Engine σ → Prop where
  | refl : Called kind c log e e
  | around {e₁ e₂ : Engine σ} : Called kind c log e e₁ → Elsewhere log e₁ e₂ →
    Called kind c log e e₂
  | call {e₁ : Engine σ} (call : HostCall) (x : Surroundings σ) : Called kind c log e e₁ →
    kind call → log x.outside = log e₁.outside ++ call.reported e₁ →
    Called kind c log e ((call.run c).perform (e₁.within x)).2

/-- The collaborators write down what they are handed. Whatever they do then is in `R`, and so is
whatever else they do, however it ends. -/
structure Collaborators.Deals (c : Collaborators σ) (log : σ → List Dealing)
    (R : Engine σ → Engine σ → Prop) : Prop where
  apply : ∀ slot e, ∃ x : Surroundings σ, log x.outside = log e.outside ++ [.handed slot] ∧
    R (e.within x) ((c.apply slot).perform e).2
  prepare : ∀ scene, Tracks R (c.prepare scene)
  showError : ∀ text, Tracks R (c.showError text)
  deliver : ∀ id event, Tracks R (c.deliver id event)
  systemCall : ∀ args, Tracks R (c.systemCall args)
  finished : Tracks R c.finished

theorem Collaborators.Deals.mono {c : Collaborators σ} {log : σ → List Dealing}
    {R S : Engine σ → Engine σ → Prop} (h : c.Deals log R)
    (hRS : ∀ {e e'}, R e e' → S e e') : c.Deals log S where
  apply slot e := (h.apply slot e).imp fun _ hx => ⟨hx.1, hRS hx.2⟩
  prepare scene := (h.prepare scene).mono hRS
  showError text := (h.showError text).mono hRS
  deliver id event := (h.deliver id event).mono hRS
  systemCall args := (h.systemCall args).mono hRS
  finished := h.finished.mono hRS

/-- The collaborators call back, if at all, by gentle calls, as deep as they like. -/
inductive Converses (log : σ → List Dealing) : Collaborators σ → Prop where
  | never {c : Collaborators σ} : c.Deals log (Elsewhere log) → Converses log c
  | deeper {c inner : Collaborators σ} : Converses log inner →
    c.Deals log (Called (fun call => call.gentle) inner log) → Converses log c

/-! ## Turns of an engine -/

/-- What the turn of the last effect means for the effect on record. -/
def Engine.Suits (e : Engine σ) : Turn → Prop
  | .clear => ∀ i, e.effect = some i → i.effectId = some (.int e.effectCount)
  | .due => e.mode = .effectRunning ∧
    ∃ i, e.effect = some i ∧ i.effectId = some (.int e.effectCount)
  | .missed => e.effect = none

/-- The effects of an engine have come to a turn by what has passed. -/
structure Engine.Enrolled (may : Prop) (log : σ → List Dealing) (t : Turn) (e : Engine σ) :
    Prop where
  roster : Roster may (log e.outside) e.effectCount t
  suits : e.Suits t

/-- No turn changes, as long as no effect is due. An effect that has missed its turn waits for the
step to go on. -/
def KeepsTurn (may : Prop) (log : σ → List Dealing) (e e' : Engine σ) : Prop :=
  e'.stepping = e.stepping ∧ ∀ t, t ≠ .due → (t = .missed → e.stepping) →
    e.Enrolled may log t → e'.Enrolled may log t

/-- No turn changes, but an effect that is due may miss its turn. -/
def MissesAtMost (may : Prop) (log : σ → List Dealing) (e e' : Engine σ) : Prop :=
  e'.stepping = e.stepping ∧ ∀ t, (t ≠ .clear → e.stepping) → e.Enrolled may log t →
    ∃ t', e'.Enrolled may log t' ∧ (t' = t ∨ t = .due ∧ t' = .missed)

/-- A step goes on, and effects that have begun in the meantime have had their turns. -/
def StaysClear (may : Prop) (log : σ → List Dealing) (e e' : Engine σ) : Prop :=
  e.stepping → e'.stepping ∧ (e.Enrolled may log .clear → e'.Enrolled may log .clear)

/-- Nothing has passed, and the engine waits for what it has waited for. -/
structure Undisturbed (log : σ → List Dealing) (e e' : Engine σ) : Prop where
  stepping : e'.stepping = e.stepping
  mode : e'.mode = e.mode
  effect : e'.effect = e.effect
  count : e'.effectCount = e.effectCount
  log : log e'.outside = log e.outside

section
variable {may : Prop} {log : σ → List Dealing} {e e₁ e' : Engine σ} {t : Turn}

instance : IsPreorder (Engine σ) (KeepsTurn may log) where
  refl _ := ⟨rfl, fun _ _ _ h => h⟩
  trans _ _ _ h h' := ⟨h'.1.trans h.1, fun t hdue hmissed ht =>
    h'.2 t hdue (fun heq => h.1.trans (hmissed heq)) (h.2 t hdue hmissed ht)⟩

instance : IsPreorder (Engine σ) (StaysClear may log) where
  refl _ := fun hstepping => ⟨hstepping, id⟩
  trans _ _ _ h h' := fun hstepping =>
    have ⟨hstepping₁, hclear⟩ := h hstepping
    have ⟨hstepping', hclear'⟩ := h' hstepping₁
    ⟨hstepping', fun ht => hclear' (hclear ht)⟩

instance : IsPreorder (Engine σ) (Undisturbed log) where
  refl _ := ⟨rfl, rfl, rfl, rfl, rfl⟩
  trans _ _ _ h h' := ⟨h'.stepping.trans h.stepping, h'.mode.trans h.mode, h'.effect.trans h.effect,
    h'.count.trans h.count, h'.log.trans h.log⟩

theorem MissesAtMost.trans (h : MissesAtMost may log e e₁) (h' : MissesAtMost may log e₁ e') :
    MissesAtMost may log e e' := by
  refine ⟨h'.1.trans h.1, fun t hstepping ht => ?_⟩
  obtain ⟨t₁, ht₁, hturn⟩ := h.2 t hstepping ht
  have hstepping₁ : t₁ ≠ .clear → e₁.stepping := by
    rintro hne
    refine h.1.trans (hstepping ?_)
    rcases hturn with rfl | ⟨rfl, -⟩
    · exact hne
    · exact Turn.noConfusion
  obtain ⟨t', ht', hturn'⟩ := h'.2 t₁ hstepping₁ ht₁
  refine ⟨t', ht', ?_⟩
  rcases hturn with rfl | ⟨rfl, rfl⟩
  · exact hturn'
  · -- What has been missed stays missed.
    rcases hturn' with rfl | ⟨hdue, -⟩
    · exact .inr ⟨rfl, rfl⟩
    · cases hdue

theorem MissesAtMost.keeps (h : MissesAtMost may log e e') : KeepsTurn may log e e' := by
  refine ⟨h.1, fun t hdue hmissed ht => ?_⟩
  have hstepping : t ≠ .clear → e.stepping := fun hclear => hmissed (by cases t <;> simp_all)
  obtain ⟨t', ht', rfl | ⟨rfl, -⟩⟩ := h.2 t hstepping ht
  · exact ht'
  · exact absurd rfl hdue

theorem KeepsTurn.staysClear (h : KeepsTurn may log e e') : StaysClear may log e e' :=
  fun hstepping => ⟨h.1.trans hstepping, h.2 .clear Turn.noConfusion Turn.noConfusion⟩

/-- Nothing has passed, and the effect is dropped at most. -/
theorem KeepsTurn.of_same (hstepping : e'.stepping = e.stepping)
    (hcount : e'.effectCount = e.effectCount) (hlog : log e'.outside = log e.outside)
    (heffect : e'.effect = none ∨ e'.effect = e.effect) : KeepsTurn may log e e' := by
  refine ⟨hstepping, fun t hdue _ ht => ⟨?_, ?_⟩⟩
  · rw [hlog, hcount]
    exact ht.roster
  · cases t with
    | due => exact absurd rfl hdue
    | clear =>
      intro i hi
      rw [hcount]
      rcases heffect with hnone | hsame
      · rw [hnone] at hi
        cases hi
      · exact ht.suits i (hsame.symm.trans hi)
    | missed => exact heffect.elim id fun hsame => hsame.trans ht.suits

theorem KeepsTurn.lenient : Lenient (KeepsTurn may log) where
  disk _ _ := of_same rfl rfl rfl (.inr rfl)
  bus _ _ := of_same rfl rfl rfl (.inr rfl)
  saves _ _ := of_same rfl rfl rfl (.inr rfl)
  stage _ _ := of_same rfl rfl rfl (.inr rfl)
  mode _ _ := of_same rfl rfl rfl (.inr rfl)
  awaiting _ _ := of_same rfl rfl rfl (.inr rfl)
  cleared _ := of_same rfl rfl rfl (.inr rfl)
  menu _ _ := of_same rfl rfl rfl (.inr rfl)
  backlog _ _ := of_same rfl rfl rfl (.inr rfl)
  dropped _ := of_same rfl rfl rfl (.inl rfl)

theorem Undisturbed.missesAtMost (h : Undisturbed log e e') : MissesAtMost may log e e' := by
  refine ⟨h.stepping, fun t _ ht => ⟨t, ⟨?_, ?_⟩, .inl rfl⟩⟩
  · rw [h.log, h.count]
    exact ht.roster
  · have hsuits := ht.suits
    cases t with
    | clear =>
      rw [Engine.Suits, h.effect, h.count]
      exact hsuits
    | due =>
      rw [Engine.Suits, h.effect, h.mode, h.count]
      exact hsuits
    | missed => exact h.effect.trans hsuits

theorem Undisturbed.incidental : Incidental (Undisturbed log) where
  disk _ _ := ⟨rfl, rfl, rfl, rfl, rfl⟩
  saves _ _ := ⟨rfl, rfl, rfl, rfl, rfl⟩

theorem Elsewhere.undisturbed (h : Elsewhere log e e') : Undisturbed log e e' := by
  obtain ⟨x, rfl, hx⟩ := h
  exact ⟨rfl, rfl, rfl, rfl, hx⟩

instance : IsPreorder (Engine σ) (MissesAtMost may log) where
  refl e := (refl_of (Undisturbed log) e).missesAtMost
  trans _ _ _ := MissesAtMost.trans

theorem MissesAtMost.unheard : Unheard (MissesAtMost may log : Engine σ → Engine σ → Prop) where
  noted _ _ _ := Undisturbed.missesAtMost ⟨rfl, rfl, rfl, rfl, rfl⟩
  bus _ _ := Undisturbed.missesAtMost ⟨rfl, rfl, rfl, rfl, rfl⟩

namespace Engine.Enrolled

/-- What is handed over to the renderer that is no effect changes no turn. -/
theorem passes {x : Surroundings σ} {i : Intent} (h : e.Enrolled may log t)
    (hid : i.effectId = none) (hx : log x.outside = log e.outside ++ [.handed (some i)]) :
    (e.within x).Enrolled may log t where
  roster := by
    have hroster := h.roster.passes hid
    rwa [← hx] at hroster
  suits := by cases t <;> exact h.suits

/-- An effect that begins is due. -/
theorem begins {kind : IntentKind} {payload : Table String Value} (h : e.Enrolled may log .clear) :
    Enrolled may log .due
      { e with
        effectCount := e.effectCount + 1
        effect := some { kind, payload, effectId := some (.int (e.effectCount + 1 : Nat)) }
        mode := .effectRunning } :=
  ⟨h.roster.begins, rfl, _, rfl, rfl⟩

/-- Whatever is on record when the turn of an effect comes is handed over, and nobody waits then. -/
theorem served {x : Surroundings σ} (h : e.Enrolled may log t) (ht : t ≠ .clear)
    (hx : log x.outside = log e.outside ++ [.handed e.effect]) :
    (e.within x).Enrolled may log .clear := by
  cases t with
  | clear => exact absurd rfl ht
  | due =>
    obtain ⟨-, i, hi, hid⟩ := h.suits
    rw [hi] at hx
    have hroster := h.roster.serves hid
    rw [← hx] at hroster
    refine ⟨hroster, fun j hj => ?_⟩
    obtain rfl : i = j := Option.some.inj (hi.symm.trans hj)
    exact hid
  | missed =>
    have hnone : e.effect = none := h.suits
    rw [hnone] at hx
    have hroster := h.roster.skips
    rw [← hx] at hroster
    refine ⟨hroster, fun j hj => ?_⟩
    rw [show (e.within x).effect = none from hnone] at hj
    cases hj

/-- An effect that has missed its turn does not run any more. -/
theorem ne_missed {i : Intent} (h : e.Enrolled may log t) (hi : e.effect = some i) :
    t ≠ .missed := by
  rintro rfl
  have hnone : e.effect = none := h.suits
  rw [hnone] at hi
  cases hi

/-- A report that is taken is for the last effect. -/
theorem equal {id : Value} {i : Intent} (h : e.Enrolled may log t) (hi : e.effect = some i)
    (hid : Engine.isEffect id i) : (Value.int e.effectCount).equal id := by
  have hnumber : i.effectId = some (.int e.effectCount) := by
    cases t with
    | clear => exact h.suits i hi
    | due =>
      obtain ⟨-, j, hj, hid⟩ := h.suits
      obtain rfl : i = j := Option.some.inj (hi.symm.trans hj)
      exact hid
    | missed => exact absurd rfl (h.ne_missed hi)
  unfold Engine.isEffect at hid
  rw [hnumber] at hid
  exact hid

end Engine.Enrolled

end

section
variable {may : Prop} {c : Collaborators σ} {log : σ → List Dealing}

theorem Collaborators.Deals.track (hc : c.Deals log (MissesAtMost may log)) :
    c.filled.Track (KeepsTurn may log) where
  apply i hid e := by
    obtain ⟨x, hx, hrest⟩ := hc.apply (some i) e
    have hpasses : KeepsTurn may log e (e.within x) :=
      ⟨rfl, fun _ _ _ ht => ht.passes hid hx⟩
    exact trans_of _ hpasses hrest.keeps
  applyNothing := .pure
  prepare scene := (hc.prepare scene).mono MissesAtMost.keeps
  showError text := (hc.showError text).mono MissesAtMost.keeps
  deliver id event := (hc.deliver id event).mono MissesAtMost.keeps
  systemCall args := (hc.systemCall args).mono MissesAtMost.keeps
  finished := hc.finished.mono MissesAtMost.keeps

namespace Engine

variable (hc : c.Deals log (MissesAtMost may log))
include hc

/-! ## The beats of a step -/

/-- An effect begins and has its turn, whatever is done when the mode changes. -/
theorem hold_staysClear (kind : IntentKind) (payload : Table String Value) :
    Tracks (StaysClear may log) (hold c kind payload) := by
  refine fun e hstepping => ?_
  let begun : Engine σ := { e with
    effectCount := e.effectCount + 1
    effect := some { kind, payload, effectId := some (.int (e.effectCount + 1 : Nat)) } }
  have hrun : (hold c kind payload).perform e = (setMode c .effectRunning >>= fun _ =>
      get >>= fun e => c.apply e.effect).perform begun := rfl
  obtain ⟨hset, hnever⟩ := Ends.iff_perform.1
    (setMode_tracks_from MissesAtMost.unheard hc.deliver .effectRunning begun)
  rcases hmode : (setMode c .effectRunning).perform begun with ⟨f | ⟨⟩, e₁⟩
  · exact (hnever f e₁ hmode).elim
  · obtain ⟨hstepping₁, hturn⟩ := hset () e₁ hmode
    obtain ⟨x, hx, hrest⟩ := hc.apply e₁.effect e₁
    obtain ⟨hstepping', hkept⟩ := hrest.keeps
    rw [hrun, Action.perform_bind_ok hmode, Action.perform_get_bind]
    refine ⟨hstepping'.trans (hstepping₁.trans hstepping), fun hclear => ?_⟩
    obtain ⟨t, ht, hdue⟩ := hturn .due (fun _ => hstepping) hclear.begins
    have hwaits : t ≠ .clear := by
      rcases hdue with rfl | ⟨-, rfl⟩ <;> exact Turn.noConfusion
    exact hkept .clear Turn.noConfusion Turn.noConfusion (ht.served hwaits hx)

theorem fail_keepsTurn (error : StoryError) : Tracks (KeepsTurn may log) (fail c error) :=
  fail_tracks KeepsTurn.lenient hc.track (fun _ _ => .of_same rfl rfl rfl (.inr rfl)) error

/-! ## Steps and calls -/

theorem step_keepsTurn : Tracks (KeepsTurn may log) (step c) := by
  refine step_tracks (refl_of _) fun e _ hstepping => ?_
  have hbeats : Tracks (StaysClear may log) (playBeats c turnsPerStep commandBudget) :=
    playBeats_tracks_hold KeepsTurn.lenient KeepsTurn.staysClear hc.track (hold_staysClear hc) _ _
  have hfail : ∀ error, Tracks (StaysClear may log) (fail c error) := fun error =>
    (fail_keepsTurn hc error).mono KeepsTurn.staysClear
  obtain ⟨-, hclear⟩ := orFail_tracks hfail hbeats { e with stepping := true } rfl
  refine ⟨hstepping.symm, fun t hdue hmissed ht => ?_⟩
  cases t with
  | clear =>
    obtain ⟨hroster, hsuits⟩ := hclear ⟨ht.roster, ht.suits⟩
    exact ⟨hroster, hsuits⟩
  | due => exact absurd rfl hdue
  | missed =>
    rw [hstepping] at hmissed
    cases hmissed rfl

end Engine

namespace HostCall

theorem opening_filled (call : HostCall) : call.opening c.filled = call.opening c := by
  cases call <;> rfl

variable (hc : c.Deals log (MissesAtMost may log))
include hc

theorem playOn_keepsTurn (go : Bool) : Tracks (KeepsTurn may log) (playOn c go) := by
  cases go with
  | true => exact (Engine.step_keepsTurn hc).discard
  | false => exact .pure

/-- What is done when a report was taken. -/
theorem leaveEffect_keepsTurn (effect : Intent) :
    Tracks (KeepsTurn may log) (Engine.leaveEffect c effect >>= playOn c) := by
  have hleave : Tracks (KeepsTurn may log) (Engine.leaveEffect c.filled effect) :=
    Engine.leaveEffect_tracks KeepsTurn.lenient hc.track effect
  exact Tracks.bind hleave (playOn_keepsTurn hc)

/-- A call whose report is written down before it is taken keeps the turn. -/
theorem run_keepsTurn (call : HostCall) {e : Engine σ} {x : Surroundings σ}
    (hx : log x.outside = log e.outside ++ call.reported e) :
    KeepsTurn may log e ((call.run c).perform (e.within x)).2 := by
  rcases call.reported_cases e with hnone | ⟨id, i, rfl, hi, hid, hreported, hfilter⟩
  · rw [hnone, List.append_nil] at hx
    have haround : KeepsTurn may log e (e.within x) := .of_same rfl rfl hx (.inr rfl)
    have hfail : ∀ error, Tracks (KeepsTurn may log) (Engine.fail c error) :=
      Engine.fail_keepsTurn hc
    have hopening : Tracks (KeepsTurn may log) (call.opening c) := by
      rw [← opening_filled]
      exact Engine.opening_tracks KeepsTurn.lenient hc.track hfail call
    rw [run_eq]
    exact trans_of _ haround (hopening.bind (playOn_keepsTurn hc) _)
  · rw [hreported] at hx
    have hrun : ((effectFinished id).run c).perform (e.within x) =
        (Engine.leaveEffect c i >>= playOn c).perform { e.within x with effect := none } :=
      run_accepted hfilter
    rw [hrun]
    have htaken : KeepsTurn may log e { e.within x with effect := none } := by
      refine ⟨rfl, fun t hdue _ ht => ?_⟩
      cases t with
      | clear =>
        have hroster := ht.roster.takes (ht.equal hi hid)
        rw [← hx] at hroster
        exact ⟨hroster, nofun⟩
      | due => exact absurd rfl hdue
      | missed => exact absurd rfl (ht.ne_missed hi)
    exact trans_of _ htaken (leaveEffect_keepsTurn hc i _)

omit hc in
/-- While an effect runs, a gentle call of another kind than a report leaves the engine waiting. -/
theorem run_undisturbed {call : HostCall} {e : Engine σ} (hgentle : call.gentle)
    (hmode : e.mode = .effectRunning) (hreport : call.reported e = []) :
    Undisturbed log e ((call.run c).perform e).2 := by
  have hignored : call.misplaced e → Undisturbed log e ((call.run c).perform e).2 := fun h => by
    rcases ignored_of_misplaced c h with hrun | ⟨text, hrun⟩
    · rw [hrun]
      exact refl_of _ e
    · rw [hrun]
      exact ⟨rfl, rfl, rfl, rfl, rfl⟩
  have hsave : call.saves → Undisturbed log e ((call.run c).perform e).2 := fun h =>
    Engine.saves_tracks Undisturbed.incidental c h e
  cases call with
  | resourcesReady | step | advance | requestAdvance | tick | choose =>
    exact hignored (by simp [misplaced, hmode])
  | effectFinished id =>
    refine hignored ?_
    have hother : e.effect.any (Engine.isEffect id) = false := by
      cases hi : e.effect with
      | none => rfl
      | some i => simpa [reported, hi, hmode, Option.filter] using hreport
    simp [misplaced, hother]
  | setFlag name value =>
    have hset : Tracks (Undisturbed log) (Engine.setFlag name value : Play σ Unit) :=
      .bind .ofMishap fun _ => .bind .ofMishap fun _ => .modify fun _ => ⟨rfl, rfl, rfl, rfl, rfl⟩
    exact hset e
  | saveToSlot | quicksave | autosave => exact hsave rfl
  | reportResourceError | loadFromSlot | quickload | restore => cases hgentle

/-- A gentle call may make an effect miss its turn, and no more. -/
theorem run_missesAtMost (hmay : may) (call : HostCall) (hgentle : call.gentle) {e : Engine σ}
    {x : Surroundings σ} (hx : log x.outside = log e.outside ++ call.reported e) :
    MissesAtMost may log e ((call.run c).perform (e.within x)).2 := by
  obtain ⟨hstepping, hkept⟩ := run_keepsTurn hc call hx
  refine ⟨hstepping, fun t ht henrolled => ?_⟩
  cases t with
  | clear => exact ⟨.clear, hkept _ Turn.noConfusion Turn.noConfusion henrolled, .inl rfl⟩
  | missed =>
    exact ⟨.missed, hkept _ Turn.noConfusion (fun _ => ht Turn.noConfusion) henrolled, .inl rfl⟩
  | due =>
    rcases call.reported_cases e with hnone | ⟨id, i, rfl, hi, hid, hreported, hfilter⟩
    · have hsame : Undisturbed log (e.within x) ((call.run c).perform (e.within x)).2 :=
        run_undisturbed hgentle henrolled.suits.1 hnone
      rw [hnone, List.append_nil] at hx
      have haround : Undisturbed log e (e.within x) := ⟨rfl, rfl, rfl, rfl, hx⟩
      exact (trans_of _ haround hsame).missesAtMost.2 .due ht henrolled
    · -- The effect is reported as done before it was handed over.
      rw [hreported] at hx
      have hroster := henrolled.roster.misses hmay (henrolled.equal hi hid)
      rw [← hx] at hroster
      have hrun : ((effectFinished id).run c).perform (e.within x) =
          (Engine.leaveEffect c i >>= playOn c).perform { e.within x with effect := none } :=
        run_accepted hfilter
      rw [hrun]
      obtain ⟨-, hleft⟩ := leaveEffect_keepsTurn hc i { e.within x with effect := none }
      exact ⟨.missed, hleft _ Turn.noConfusion (fun _ => ht Turn.noConfusion) ⟨hroster, rfl⟩,
        .inr ⟨rfl, rfl⟩⟩

end HostCall

/-! ## Runs -/

/-- Calls of any kind keep the turn. -/
theorem Called.keepsTurn {kind : HostCall → Prop} (hc : c.Deals log (MissesAtMost may log))
    {e e' : Engine σ} (h : Called kind c log e e') : KeepsTurn may log e e' := by
  induction h with
  | refl => exact refl_of _ e
  | around _ haround ih => exact trans_of _ ih haround.undisturbed.missesAtMost.keeps
  | call call x _ _ hx ih => exact trans_of _ ih (call.run_keepsTurn hc hx)

theorem Called.missesAtMost (hmay : may) (hc : c.Deals log (MissesAtMost may log))
    {e e' : Engine σ} (h : Called (fun call => call.gentle) c log e e') :
    MissesAtMost may log e e' := by
  induction h with
  | refl => exact refl_of _ e
  | around _ haround ih => exact ih.trans haround.undisturbed.missesAtMost
  | call call x _ hgentle hx ih => exact ih.trans (call.run_missesAtMost hc hmay hgentle hx)

/-- However deep collaborators call back, effects miss their turns at most. -/
theorem Converses.missesAtMost (hmay : may) (h : Converses log c) :
    c.Deals log (MissesAtMost may log) := by
  induction h with
  | never hc => exact hc.mono fun h => h.undisturbed.missesAtMost
  | deeper _ hc ih => exact hc.mono (Called.missesAtMost hmay ih)

namespace Engine

/-- A run has led to an engine: it was set up, it started to load, and calls of any kind were made
of it. -/
def Dealt (c : Collaborators σ) (log : σ → List Dealing) (e : Engine σ) : Prop :=
  ∃ (setup : Setup) (outside : σ) (e₀ : Engine σ), ofSetup setup outside = .ok e₀ ∧
    log outside = [] ∧ Called (fun _ => True) c log ((enterLoading c).perform e₀).2 e

/-- Between two calls nobody waits for a turn. -/
theorem Dealt.roster (hc : c.Deals log (MissesAtMost may log)) {e : Engine σ}
    (h : e.Dealt c log) : Roster may (log e.outside) e.effectCount .clear := by
  obtain ⟨setup, outside, e₀, hsetup, hlog, hcalled⟩ := h
  have hloading : KeepsTurn may log e₀ ((enterLoading c.filled).perform e₀).2 :=
    enterLoading_tracks KeepsTurn.lenient hc.track e₀
  have hkept : KeepsTurn may log e₀ e := trans_of _ hloading (hcalled.keepsTurn hc)
  obtain ⟨stage, -, heq⟩ := bind_eq_ok.1 hsetup
  cases heq
  refine (hkept.2 .clear Turn.noConfusion Turn.noConfusion ⟨?_, nofun⟩).roster
  show Roster may (log outside) 0 .clear
  rw [hlog]
  exact .start

/-- Effects have their turns at the renderer one after another. In its turn an effect is handed
over, once and for all. But an effect that is reported as done before that is not handed over at
all, and that is when the renderer is handed nothing. If the collaborators never call back, no
effect is reported too early. -/
theorem Dealt.one_turn_each (hc : Converses log c) {e : Engine σ} (h : e.Dealt c log) :
    (log e.outside).filterMap Dealing.turn? =
        (List.range' 1 e.effectCount).map (Dealing.outcome (log e.outside)) ∧
      (∀ k, 1 ≤ k → k ≤ e.effectCount → (log e.outside).countP (Dealing.hands k) =
        if Dealing.early k (log e.outside) then 0 else 1) ∧
      (.handed none ∈ log e.outside ↔
        ∃ k, 1 ≤ k ∧ k ≤ e.effectCount ∧ Dealing.early k (log e.outside) = true) ∧
      (c.Deals log (Elsewhere log) → ∀ k, 1 ≤ k → Dealing.early k (log e.outside) = false) := by
  have hroster : Roster True (log e.outside) e.effectCount .clear :=
    h.roster (hc.missesAtMost trivial)
  refine ⟨hroster.turns, fun k => hroster.countP_hands, hroster.handed_none_mem_iff, ?_⟩
  intro hnever
  have hquiet : c.Deals log (MissesAtMost False log) :=
    hnever.mono fun h => h.undisturbed.missesAtMost
  exact (h.roster hquiet).accounts.early id

end Engine

end

namespace Collaborators

/-- Collaborators that write down what they are handed, and do nothing else. -/
def dealing : Collaborators (List Dealing) where
  prepare _ := pure ()
  apply slot := modify fun e => { e with outside := e.outside ++ [.handed slot] }
  showError _ := pure ()
  deliver _ _ := pure ()
  systemCall _ := pure ()
  finished := pure ()

theorem dealing_deals {R : Engine (List Dealing) → Engine (List Dealing) → Prop}
    (hrefl : ∀ e, R e e) : dealing.Deals id R where
  apply slot e := ⟨{ e.surroundings with outside := e.outside ++ [.handed slot] }, rfl, hrefl _⟩
  prepare _ := hrefl
  showError _ := hrefl
  deliver _ _ := hrefl
  systemCall _ := hrefl
  finished := hrefl

theorem dealing_elsewhere : dealing.Deals id (Elsewhere id) :=
  dealing_deals fun e => ⟨e.surroundings, rfl, rfl⟩

/-- Collaborators that report an effect as done when they hear that it runs. -/
def hasty : Collaborators (List Dealing) :=
  { dealing with
    deliver := fun _ event => match event with
      | .modeChanged _ .effectRunning => do
        let e ← get
        let report : HostCall := .effectFinished (.int e.effectCount)
        set { e with outside := e.outside ++ report.reported e }
        report.run dealing
      | _ => pure () }

theorem hasty_converses : Converses id hasty := by
  refine .deeper (.never dealing_elsewhere) { dealing_deals (fun _ => .refl) with deliver := ?_ }
  intro listener event e
  cases event with
  | modeChanged old new =>
    cases new with
    | effectRunning =>
      let report : HostCall := .effectFinished (.int e.effectCount)
      exact .call report { e.surroundings with outside := e.outside ++ report.reported e } .refl
        rfl rfl
    | _ => exact .refl
  | _ => exact .refl

end Collaborators

namespace Engine

/-- A fade is handed over once, as nobody calls back. -/
theorem Dealt.one_turn_each_fading : ∃ e : Engine (List Dealing),
    Converses id .dealing ∧ e.Dealt .dealing id ∧ e.effectCount = 1 ∧
    e.outside.countP (Dealing.hands 1) = 1 ∧ .handed none ∉ e.outside := by
  let loaded (e : Engine (List Dealing)) := ((enterLoading .dealing).perform e).2
  let ready (e : Engine (List Dealing)) := ((HostCall.resourcesReady.run .dealing).perform e).2
  have hcount : (ofSetup fading []).toOption.map (fun e => (ready (loaded e)).effectCount) =
      some 1 := by
    decide +kernel
  obtain ⟨e, he, hcount⟩ := Option.map_eq_some_iff.1 hcount
  have hdealt : (ready (loaded e)).Dealt .dealing id :=
    ⟨fading, [], e, toOption_eq_some.1 he, rfl,
      .call .resourcesReady (loaded e).surroundings .refl trivial (List.append_nil _).symm⟩
  have hconverses : Converses id .dealing := .never Collaborators.dealing_elsewhere
  obtain ⟨-, honce, hnothing, hnever⟩ := hdealt.one_turn_each hconverses
  have hearly := hnever Collaborators.dealing_elsewhere
  refine ⟨_, hconverses, hdealt, hcount, ?_, ?_⟩
  · have hhanded := honce 1 (Nat.le_refl 1) (Nat.le_of_eq hcount.symm)
    rwa [hearly 1 (Nat.le_refl 1)] at hhanded
  · intro hmem
    obtain ⟨k, hk, -, htrue⟩ := hnothing.1 hmem
    rw [hearly k hk] at htrue
    cases htrue

/-- Whether the renderer was handed nothing. -/
def handsNothing : Dealing → Bool
  | .handed none => true
  | _ => false

theorem eq_of_handsNothing {d : Dealing} (h : handsNothing d) : d = .handed none := by
  unfold handsNothing at h
  split at h
  · rfl
  · cases h

/-- A listener reports the fade as done when it hears that an effect runs. The renderer is handed
nothing, and the fade is never handed over. -/
theorem handed_nothing_hasty : ∃ e : Engine (List Dealing),
    Converses id .hasty ∧ e.Dealt .hasty id ∧ e.effectCount = 1 ∧
    .handed none ∈ e.outside ∧ e.outside.countP (Dealing.hands 1) = 0 := by
  let loaded (e : Engine (List Dealing)) := ((enterLoading .hasty).perform e).2
  let heeded (e : Engine (List Dealing)) : Engine (List Dealing) :=
    { e with bus := e.bus.subscribe "engine.mode" 0 }
  let ready (e : Engine (List Dealing)) := ((HostCall.resourcesReady.run .hasty).perform e).2
  have hfacts : (ofSetup fading []).toOption.map (fun e =>
      let e' := ready (heeded (loaded e))
      (e'.effectCount, e'.outside.any handsNothing, e'.outside.countP (Dealing.hands 1))) =
        some (1, true, 0) := by
    decide +kernel
  obtain ⟨e, he, hfacts⟩ := Option.map_eq_some_iff.1 hfacts
  simp only [Prod.mk.injEq] at hfacts
  obtain ⟨hcount, hany, hhands⟩ := hfacts
  obtain ⟨d, hd, hnothing⟩ := List.any_eq_true.1 hany
  obtain rfl := eq_of_handsNothing hnothing
  have haround : Elsewhere id (loaded e) (heeded (loaded e)) :=
    ⟨{ (loaded e).surroundings with bus := (loaded e).bus.subscribe "engine.mode" 0 }, rfl, rfl⟩
  have hheeded : Called (fun _ => True) .hasty id (loaded e) (heeded (loaded e)) :=
    .around .refl haround
  have hdealt : (ready (heeded (loaded e))).Dealt .hasty id :=
    ⟨fading, [], e, toOption_eq_some.1 he, rfl,
      hheeded.call .resourcesReady (heeded (loaded e)).surroundings trivial
        (List.append_nil _).symm⟩
  exact ⟨_, Collaborators.hasty_converses, hdealt, hcount, hd, hhands⟩

end Engine

end VisualNovel
