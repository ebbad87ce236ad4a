import VisualNovel.Proofs.AlikeStages
import VisualNovel.Proofs.Openings

/-!
# Engines that play the same story

Two engines are *twins* if their stages are alike, they wait for the same, and their renderers have
been sent the same intents since a point in each of their logs. Identities of effects may differ,
and so may what is visible of a line.

As long as the first of two twins meets no mishap, the second does what the first does, and they
stay twins: a beat (`Twins.playBeat`), a step (`Twins.step`), and the end of a wait
(`Twins.passLine`, `Twins.endEffect`, `Twins.takeOption`). The collaborators of the second must not
fail.
-/

namespace VisualNovel

open Script

variable {σ τ : Type}

/-! ## Logs -/

/-- The intent without its identity and without what is visible of a line. -/
def Intent.tidy (i : Intent) : Intent :=
  { kind := i.kind
    payload :=
      if i.kind = .showText then i.payload.filter fun e => e.1 != "visible" else i.payload }

/-- Two logs have grown by the same intents. -/
def SentAlike (before after before' after' : List Intent) : Prop :=
  ∃ l l', after = before ++ l ∧ after' = before' ++ l' ∧ l'.map Intent.tidy = l.map Intent.tidy

theorem SentAlike.refl (l l' : List Intent) : SentAlike l l l' l' :=
  ⟨[], [], (List.append_nil l).symm, (List.append_nil l').symm, rfl⟩

/-- How the logs of two engines are read, and what stands in them when the comparison begins. -/
structure Ledger (σ τ : Type) where
  seen : σ → List Intent
  seen' : τ → List Intent
  base : List Intent
  base' : List Intent

/-- The logs show the same intents since the comparison began. -/
def Ledger.Agrees (L : Ledger σ τ) (o : σ) (o' : τ) : Prop :=
  SentAlike L.base (L.seen o) L.base' (L.seen' o')

theorem Ledger.Agrees.append {L : Ledger σ τ} {o₁ o₂ : σ} {o₁' o₂' : τ} {l l' : List Intent}
    (h : L.Agrees o₁ o₁') (hsent : L.seen o₂ = L.seen o₁ ++ l)
    (hsent' : L.seen' o₂' = L.seen' o₁' ++ l') (hl : l'.map Intent.tidy = l.map Intent.tidy) :
    L.Agrees o₂ o₂' := by
  obtain ⟨k, k', hk, hk', hsame⟩ := h
  refine ⟨k ++ l, k' ++ l', ?_, ?_, ?_⟩
  · rw [hsent, hk, List.append_assoc]
  · rw [hsent', hk', List.append_assoc]
  · rw [List.map_append, List.map_append, hsame, hl]

/-! ## Edits of stages that are alike -/

namespace Stage.Shares

variable {P : Stage → Stage → Prop} {s t : Stage}

theorem disks (hP : OfStock P) (h : Shares P s t) {d d' : Disk} (hfiles : d.files = s.disk.files)
    (hfiles' : d'.files = t.disk.files) : Shares P { s with disk := d } { t with disk := d' } := by
  obtain ⟨hs, ht, hp⟩ := h
  exact ⟨hs.edit rfl hs.storable.live hs.sound rfl rfl rfl hs.text rfl (.refl _), { ht with },
    hP hp ⟨rfl, rfl, hfiles⟩ ⟨rfl, rfl, hfiles'⟩⟩

theorem timedTexts (hP : OfStock P) (h : Shares P s t) {u u' : TimedText}
    (hrate : u.frameRate = s.timedText.frameRate) (hrate' : u'.frameRate = t.timedText.frameRate)
    (htext : u.fullText.IsText) (htext' : u'.fullText.IsText) :
    Shares P { s with timedText := u } { t with timedText := u' } := by
  obtain ⟨hs, ht, hp⟩ := h
  refine ⟨hs.edit rfl hs.storable.live hs.sound rfl rfl rfl htext hrate (.refl _),
    { ht with frameRate := ?_, text := htext' }, hP hp ⟨rfl, rfl, rfl⟩ ⟨rfl, rfl, rfl⟩⟩
  show u'.frameRate = u.frameRate
  rw [hrate, hrate']
  exact ht.frameRate

theorem safes (hP : OfStock P) (h : Shares P s t) (x x' : Option Snapshot) :
    Shares P (s.mapSession fun y => { y with safe := x })
      (t.mapSession fun y => { y with safe := x' }) := by
  obtain ⟨hs, ht, hp⟩ := h
  exact ⟨hs.edit rfl hs.storable.live hs.sound rfl rfl rfl hs.text rfl (.refl _), { ht with },
    hP hp ⟨rfl, rfl, rfl⟩ ⟨rfl, rfl, rfl⟩⟩

theorem endLines (hP : OfStock P) (h : Shares P s t) :
    Shares P (s.mapTimedText TimedText.endLine) (t.mapTimedText TimedText.endLine) :=
  h.timedTexts hP rfl rfl h.regular.text h.alike.text

theorem advances (hP : OfStock P) (h : Shares P s t) :
    Shares P (s.mapCursor fun c => c.advance) (t.mapCursor fun c => c.advance) :=
  (likeness hP).mapCursor h _ rfl Likeness.advance_sound

theorem speeches (hP : OfStock P) (h : Shares P s t) {text : Value} (htext : text.plain) :
    Shares P (s.mapScene fun x => { x with speech := text })
      (t.mapScene fun x => { x with speech := text }) :=
  (likeness hP).mapScene h _ fun _ hs => hs.speak htext

end Stage.Shares

namespace Engine

/-! ## Twins -/

/-- Two effects are the same but for their identities. -/
inductive SameEffect : Option Intent → Option Intent → Prop where
  | none : SameEffect none none
  | some (kind : IntentKind) (payload : Table String Value) (n n' : Int) :
    SameEffect (some { kind, payload, effectId := some (.int n) })
      (some { kind, payload, effectId := some (.int n') })

/-- The engines wait for the same on stages that are alike, and have sent the same. -/
structure Twins (L : Ledger σ τ) (P : Stage → Stage → Prop) (e : Engine σ) (f : Engine τ) :
    Prop where
  stage : Stage.Shares P e.stage f.stage
  mode : f.mode = e.mode
  awaiting : f.awaiting = e.awaiting
  effect : SameEffect e.effect f.effect
  menu : f.menu = e.menu
  strict : f.strict = e.strict
  told : L.Agrees e.outside f.outside

variable {c : Collaborators σ} {c' : Collaborators τ} {L : Ledger σ τ}
  {P : Stage → Stage → Prop} {e e' : Engine σ} {f f' : Engine τ}

namespace Twins

theorem running (h : Twins L P e f) : f.running = e.running := by
  unfold Engine.running
  rw [h.mode, h.awaiting]

theorem cursor (h : Twins L P e f) : f.cursor = e.cursor :=
  h.stage.alike.cursor

theorem aside (hP : Stage.OfStock P) (h : Twins L P e f) {l l' : List Intent}
    (ha : Aside (.through L.seen) l e e') (ha' : Aside (.through L.seen') l' f f')
    (hl : l'.map Intent.tidy = l.map Intent.tidy) : Twins L P e' f' := by
  obtain ⟨x, rfl, hsent, hkept⟩ := ha
  obtain ⟨x', rfl, hsent', hkept'⟩ := ha'
  exact ⟨h.stage.disks hP hkept hkept', h.mode, h.awaiting, h.effect, h.menu, h.strict,
    h.told.append hsent hsent' hl⟩

/-- Two actions of which each comes down to one of two twins. -/
theorem matches_of_runs (hP : Stage.OfStock P) (h : Twins L P e' f') {α β : Type}
    {act : Play σ α} {act' : Play τ β} {l l' : List Intent}
    (hact : Runs True act e fun _ e'' => Aside (.through L.seen) l e' e'')
    (hact' : Runs False act' f fun _ f'' => Aside (.through L.seen') l' f' f'')
    (hl : l'.map Intent.tidy = l.map Intent.tidy) {E : StoryError → Engine σ → Engine τ → Prop} :
    Matches act act' e f (fun _ _ e'' f'' => Twins L P e'' f'') E := by
  refine (Matches.of_runs hact hact').mono ?_ fun _ _ _ h => h
  rintro _ _ e'' f'' ⟨ha, ha'⟩
  exact h.aside hP ha ha' hl

/-- Two actions that change nothing but the surroundings, and send the same. -/
theorem matches_of_aside (hP : Stage.OfStock P) (h : Twins L P e f) {α β : Type}
    {act : Play σ α} {act' : Play τ β} {l l' : List Intent}
    (hact : Runs True act e fun _ e' => Aside (.through L.seen) l e e')
    (hact' : Runs False act' f fun _ f' => Aside (.through L.seen') l' f f')
    (hl : l'.map Intent.tidy = l.map Intent.tidy) {E : StoryError → Engine σ → Engine τ → Prop} :
    Matches act act' e f (fun _ _ e' f' => Twins L P e' f' ∧ e'.mode = e.mode) E := by
  refine (Matches.of_runs hact hact').mono ?_ fun _ _ _ h => h
  rintro _ _ e' f' ⟨ha, ha'⟩
  refine ⟨h.aside hP ha ha' hl, ?_⟩
  obtain ⟨x, rfl, -⟩ := ha
  rfl

theorem withStage (h : Twins L P e f) {s t : Stage} (hstage : Stage.Shares P s t) :
    Twins L P ({ e with stage := s } : Engine σ) ({ f with stage := t } : Engine τ) :=
  { h with stage := hstage }

theorem closed (hP : Stage.OfStock P) (h : Twins L P e f) : Twins L P e.closed f.closed :=
  ⟨(h.stage.safes hP none none).endLines hP, rfl, rfl, .none, rfl, h.strict, h.told⟩

theorem completed (hP : Stage.OfStock P) (h : Twins L P e f) : Twins L P e.completed f.completed :=
  h.withStage (h.stage.advances hP)

theorem spoken (hP : Stage.OfStock P) (h : Twins L P e f) {text : Value} (htext : text.plain)
    (speaker : Value) : Twins L P (e.spoken text speaker) (f.spoken text speaker) :=
  { h with stage := h.stage.speeches hP htext }

theorem speakerOf (h : Twins L P e f) (speaker : Value) :
    Engine.speakerOf speaker f = Engine.speakerOf speaker e := by
  have hscene : f.session.scene = e.session.scene := h.stage.alike.scene
  unfold Engine.speakerOf
  rw [hscene]

/-- A line is shown the same way, but for what is visible of it. -/
theorem showing (h : Twins L P e f) (text speaker visible visible' : Value) :
    (Engine.showing text speaker visible' f).tidy =
      (Engine.showing text speaker visible e).tidy := by
  simp [Intent.tidy, Engine.showing, h.speakerOf]

/-! ## The life of twins -/

section
variable (hP : Stage.OfStock P) (hc : Quiet c (.through L.seen) True)
  (hc' : Quiet c' (.through L.seen') False)

include hP hc hc'

theorem emit (h : Twins L P e f) (event event' : Event)
    {E : StoryError → Engine σ → Engine τ → Prop} :
    Matches (Engine.emit c event) (Engine.emit c' event') e f
      (fun _ _ e' f' => Twins L P e' f' ∧ e'.mode = e.mode) E :=
  h.matches_of_aside hP (emit_runs hc event e).any (emit_runs hc' event' f) rfl

theorem finish (h : Twins L P e f) (hmode : e.mode ≠ .ended)
    {E : StoryError → Engine σ → Engine τ → Prop} :
    Matches (Engine.finish c) (Engine.finish c') e f (fun _ _ e' f' => Twins L P e' f') E := by
  have hmode' : f.mode ≠ .ended := by
    rw [h.mode]
    exact hmode
  exact (h.closed hP).matches_of_runs hP (finish_runs hc hmode) (finish_runs hc' hmode') rfl

theorem fail (h : Twins L P e f) (hmode : e.mode ≠ .ended) (error : StoryError) :
    Matches (Engine.fail c error) (Engine.fail c' error) e f (fun _ _ e' f' => Twins L P e' f')
      fun _ e' f' => Twins L P e' f' := by
  have hmode' : f.mode ≠ .ended := by
    rw [h.mode]
    exact hmode
  have hclosed : Twins L P ({ e.closed with error := some error } : Engine σ)
      ({ f.closed with error := some error } : Engine τ) := { h.closed hP with }
  obtain ⟨hok, herror⟩ := Ends.iff_perform.1 (fail_leads hc' hmode' error)
  refine Leads.mono (fail_leads hc hmode error) ?_ ?_
  · rintro _ e' ⟨ha, hstrict⟩
    have hstrict' : f.strict = false := h.strict.trans hstrict
    rcases hrun : (Engine.fail c' error).perform f with ⟨(error' | m) | _, f'⟩
    · have hthrown := (herror _ f' hrun).2.1
      rw [hstrict'] at hthrown
      cases hthrown
    · exact (herror _ f' hrun).elim
    · exact ⟨_, f', rfl, hclosed.aside hP ha (hok _ f' hrun).1 rfl⟩
  · rintro thrown e' ⟨ha, hstrict, hthrown⟩
    have hstrict' : f.strict = true := h.strict.trans hstrict
    rcases hrun : (Engine.fail c' error).perform f with ⟨(error' | m) | _, f'⟩
    · obtain ⟨ha', -, hthrown'⟩ := herror _ f' hrun
      rw [hthrown, hthrown']
      exact ⟨f', rfl, hclosed.aside hP ha ha' rfl⟩
    · exact (herror _ f' hrun).elim
    · have hpassed := (hok _ f' hrun).2
      rw [hstrict'] at hpassed
      cases hpassed

/-- Twins wait for the same line. -/
theorem display (h : Twins L P e f) {text : Value} (htext : text.IsText) (speaker : Value)
    {E : StoryError → Engine σ → Engine τ → Prop} :
    Matches (Engine.display c text speaker true) (Engine.display c' text speaker true) e f
      (fun _ _ e' f' => Twins L P e' f') E := by
  have hplain : text.plain := by
    obtain ⟨x, rfl⟩ := htext
    exact Value.plain_text x
  have hspoken := h.spoken hP hplain speaker
  refine (Matches.of_runs (display_waits hc (.inl trivial) speaker e)
    (display_waits hc' (.inr htext) speaker f)).mono ?_ fun _ _ _ h => h
  rintro _ _ e' f' ⟨⟨t, visible, ht, ha⟩, t', visible', ht', ha'⟩
  have hwaits : Twins L P ((e.spoken text speaker).waiting t)
      ((f.spoken text speaker).waiting t') := by
    refine { hspoken with stage := ?_, awaiting := rfl }
    refine hspoken.stage.timedTexts hP ht.frameRate ht'.frameRate ?_ ?_
    · rw [ht.fullText]
      exact htext
    · rw [ht'.fullText]
      exact htext
  refine hwaits.aside hP ha ha' ?_
  simp [h.showing text speaker visible visible']

/-- What a command has left to do is done the same way. -/
theorem settle (h : Twins L P e f) {cmd : Script.Command} (htyped : cmd.Typed) {o : Outcome}
    {s t : Stage} (ho : o.Suits (Stage.Shares P) cmd e.stage f.stage s t)
    {E : StoryError → Engine σ → Engine τ → Prop} :
    Matches (Engine.settle c o) (Engine.settle c' o) { e with stage := s } { f with stage := t }
      (fun _ _ e' f' => Twins L P e' f') E := by
  have hruns := settle_runs hc o { e with stage := s }
  have hruns' := settle_runs hc' o { f with stage := t }
  cases o with
  | proceed intents =>
    exact ((h.withStage ho).completed hP).matches_of_runs hP hruns hruns' rfl
  | call args => exact ((h.withStage ho).completed hP).matches_of_runs hP hruns hruns' rfl
  | stay => exact (h.withStage ho).matches_of_runs hP hruns hruns' rfl
  | hold kind payload =>
    obtain ⟨-, s₁, t₁, hshares, rfl, rfl⟩ := ho
    have hheld : Twins L P
        (({ e with stage := s₁.keeping e.stage.session.live } : Engine σ).held kind payload)
        (({ f with stage := t₁.keeping f.stage.session.live } : Engine τ).held kind payload) :=
      { h with stage := hshares.safes hP _ _, mode := rfl, effect := .some kind payload _ _ }
    exact hheld.matches_of_runs hP hruns hruns' rfl
  | ask options line =>
    obtain ⟨rfl, rfl, hasks, hline, -⟩ := ho
    have hoffer : Twins L P (e.offering options) (f.offering options) :=
      { h with stage := h.stage.safes hP _ _, mode := rfl, menu := rfl }
    have hoverrides : f.session.overrides = e.session.overrides := h.stage.alike.overrides
    have hmenu : menuOf options f = menuOf options e := by
      unfold menuOf
      rw [hoverrides]
    cases line with
    | null =>
      refine hoffer.matches_of_runs hP hruns hruns' ?_
      show List.map Intent.tidy [menuOf options f] = List.map Intent.tidy [menuOf options e]
      rw [hmenu]
    | _ =>
      have hplain := htyped.line_plain hasks hline
      refine (hoffer.spoken hP hplain .null).matches_of_runs hP hruns hruns' ?_
      show List.map Intent.tidy [Engine.showing _ .null _ f, menuOf options f] =
        List.map Intent.tidy [Engine.showing _ .null _ e, menuOf options e]
      rw [hmenu]
      exact congrArg (fun i => [i, (menuOf options e).tidy]) (h.showing _ _ _ _)

end

/-! ## Beats and steps of twins -/

/-- Engines on stages that are related throw the same dice, and find the same scripts. -/
structure Draws (P : Stage → Stage → Prop) (kind : CommandKind) : Prop where
  roll : kind = .rollDice → ∀ {s t}, Stage.Shares P s t → ∀ sides throws,
    Matches (Stage.throwDice sides throws) (Stage.throwDice sides throws) s t
      (fun v w s' t' => w = v ∧ Stage.Shares P s' t') fun _ => Stage.Shares P
  switch : kind = .switchScript → ∀ {s t}, Stage.Shares P s t → ∀ line name conversation,
    name.IsText → Matches (Command.switchScript line name conversation)
      (Command.switchScript line name conversation) s t (Passed (Stage.Shares P))
      fun _ => Stage.Shares P

theorem draws_same (kind : CommandKind) : Draws Stage.SameDraws kind where
  roll _ _ _ h sides throws := h.throwDice sides throws
  switch _ _ _ h line _ conversation hname := h.switchScript line hname conversation

section
variable (hP : Stage.OfStock P) (hc : Quiet c (.through L.seen) True)
  (hc' : Quiet c' (.through L.seen') False)

include hP hc hc'

theorem execute (h : Twins L P e f) {cmd : Script.Command} (htyped : cmd.Typed)
    (hdraws : Draws P cmd.kind) :
    Matches (Engine.execute c cmd) (Engine.execute c' cmd) e f (fun _ _ e' f' => Twins L P e' f')
      fun _ e' f' => Twins L P e' f' ∧ e'.mode = e.mode := by
  unfold Engine.execute
  cases hw : Command.wellFormed cmd with
  | false =>
    refine Matches.get_bind_iff.2 ?_
    rw [h.cursor]
    exact Matches.throw_story.2 ⟨h, rfl⟩
  | true =>
    refine Matches.bind (h.emit hP hc hc' _ _) ?_
    rintro _ _ e₁ f₁ ⟨h₁, hmode⟩
    have hperform := (Stage.likeness hP).perform h₁.stage hw (fun _ => htyped)
      (fun hkind => hdraws.roll hkind h₁.stage)
      fun hkind line name conversation hname =>
        hdraws.switch hkind h₁.stage line name conversation (hname trivial)
    refine Matches.bind (P := fun o o' e₂ f₂ => o' = o ∧ ∃ s t, e₂ = { e₁ with stage := s } ∧
      f₂ = { f₁ with stage := t } ∧ o.Suits (Stage.Shares P) cmd e₁.stage f₁.stage s t)
      (Matches.onPart (hperform.mono ?_ ?_)) ?_
    · intro o o' s t ⟨ho, hsuits⟩
      exact ⟨ho, s, t, rfl, rfl, hsuits⟩
    · intro error s t hshares
      exact ⟨h₁.withStage hshares, hmode⟩
    · rintro o _ _ _ ⟨rfl, s, t, rfl, rfl, hsuits⟩
      exact h₁.settle hP hc hc' htyped hsuits

theorem playBeat (h : Twins L P e f) (hr : e.running)
    (hdraws : ∀ cmd, e.cursor.current = some (.command cmd) → Draws P cmd.kind) :
    Matches (Engine.playBeat c) (Engine.playBeat c') e f (fun _ _ e' f' => Twins L P e' f')
      fun _ e' f' => Twins L P e' f' ∧ e'.mode = .normal := by
  have hmode := (running_iff.1 hr).1
  unfold Engine.playBeat
  refine Matches.get_bind_iff.2 ?_
  rw [h.cursor]
  cases hcur : e.cursor.current with
  | none => exact h.finish hP hc hc' (by simp [hmode])
  | some beat =>
    have htyped := h.stage.regular.beat_typed hcur
    cases beat with
    | dialogue d => exact h.display hP hc hc' htyped d.speaker
    | command cmd =>
      refine (h.execute hP hc hc' htyped (hdraws cmd hcur)).mono (fun _ _ _ _ h => h) ?_
      intro _ e' f' ⟨h', hmode'⟩
      exact ⟨h', hmode'.trans hmode⟩

theorem playBeats (hdraws : ∀ kind, Draws P kind) (turns budget : Nat) (h : Twins L P e f) :
    Matches (Engine.playBeats c turns budget) (Engine.playBeats c' turns budget) e f
      (fun _ _ e' f' => Twins L P e' f') fun _ e' f' => Twins L P e' f' ∧ e'.mode = .normal := by
  induction turns generalizing budget e f with
  | zero => exact Matches.pure_iff.2 h
  | succ turns ih =>
    unfold Engine.playBeats
    refine Matches.get_bind_iff.2 ?_
    rw [h.running, h.cursor]
    cases hr : e.running with
    | false => exact Matches.pure_iff.2 h
    | true =>
      have hmode := (running_iff.1 hr).1
      simp only [Bool.not_true, Bool.false_eq_true, if_false]
      cases hcur : e.cursor.current with
      | none => exact h.finish hP hc hc' (by simp [hmode])
      | some beat =>
        have htyped := h.stage.regular.beat_typed hcur
        cases beat with
        | dialogue d =>
          refine Matches.bind (h.display hP hc hc' htyped d.speaker) ?_
          intro _ _ e₁ f₁ h₁
          exact ih budget h₁
        | command cmd =>
          cases budget with
          | zero =>
            have herror : f.neverYields cmd.line = e.neverYields cmd.line := by
              have hscript : f.script = e.script := h.stage.alike.script
              unfold neverYields
              rw [h.cursor, hscript]
            show Matches (throw (.story (e.neverYields cmd.line)))
              (throw (.story (f.neverYields cmd.line))) e f _ _
            rw [herror]
            exact Matches.throw_story.2 ⟨h, hmode⟩
          | succ budget =>
            refine Matches.bind
              ((h.execute hP hc hc' htyped (hdraws _)).mono (fun _ _ _ _ h => h) ?_) ?_
            · rintro _ e₁ f₁ ⟨h₁, hmode₁⟩
              exact ⟨h₁, hmode₁.trans hmode⟩
            · intro _ _ e₁ f₁ h₁
              exact ih budget h₁

/-- A step of twins, neither of which is in the middle of one. -/
theorem step (hdraws : ∀ kind, Draws P kind) (h : Twins L P e f) (hfree : e.stepping = false)
    (hfree' : f.stepping = false) :
    Matches (Engine.step c) (Engine.step c') e f (fun _ _ e' f' => Twins L P e' f')
      fun _ e' f' => Twins L P e' f' := by
  have hstepping : ∀ {e f} (b : Bool), Twins L P e f →
      Twins L P ({ e with stepping := b } : Engine σ) ({ f with stepping := b } : Engine τ) :=
    fun b h => { h with }
  unfold Engine.step
  refine Matches.get_bind_iff.2 ?_
  rw [h.running, hfree, hfree', Bool.not_false, Bool.and_true]
  cases e.running with
  | false => exact ⟨_, f, rfl, h⟩
  | true =>
    rw [if_pos rfl, if_pos rfl]
    refine Matches.modify_bind_iff.2 ?_
    have hplay : Matches (orFail c (Engine.playBeats c turnsPerStep commandBudget))
        (orFail c' (Engine.playBeats c' turnsPerStep commandBudget))
        { e with stepping := true } { f with stepping := true }
        (fun _ _ e' f' => Twins L P e' f') fun _ e' f' => Twins L P e' f' := by
      refine Matches.outcome_bind (playBeats hP hc hc' hdraws _ _ (hstepping true h)) ?_ ?_ ?_
      · intro _ _ e' f' h'
        exact Matches.pure_iff.2 h'
      · intro error e' f' ⟨h', hmode⟩
        exact h'.fail hP hc hc' (by simp [hmode]) error
      · intro m e'
        trivial
    refine Matches.outcome_bind hplay ?_ ?_ ?_
    · intro _ _ e' f' h'
      exact ⟨_, _, rfl, hstepping false h'⟩
    · intro error e' f' h'
      exact ⟨_, rfl, hstepping false h'⟩
    · intro m e'
      trivial

end

/-! ## The end of a wait -/

theorem showsLine (h : Twins L P e f) : f.showsLine = e.showsLine := by
  unfold Engine.showsLine
  rw [h.mode, h.awaiting]

theorem passed (hP : Stage.OfStock P) (h : Twins L P e f) : Twins L P e.passed f.passed := by
  have hended : Twins L P
      ({ e.mapStage (Stage.mapTimedText TimedText.endLine) with awaiting := false } : Engine σ)
      ({ f.mapStage (Stage.mapTimedText TimedText.endLine) with awaiting := false } : Engine τ) :=
    { h with stage := h.stage.endLines hP, awaiting := rfl }
  exact hended.completed hP

theorem freed (hP : Stage.OfStock P) (h : Twins L P e f) : Twins L P e.freed f.freed :=
  { h with stage := h.stage.safes hP none none, mode := rfl, effect := .none, menu := rfl }

theorem passLine (hP : Stage.OfStock P) (h : Twins L P e f)
    {E : StoryError → Engine σ → Engine τ → Prop} :
    Matches HostCall.passLine HostCall.passLine e f
      (fun go go' e' f' => go' = go ∧ Twins L P e' f') E := by
  unfold HostCall.passLine
  refine Matches.get_bind_iff.2 ?_
  rw [h.showsLine]
  cases e.showsLine with
  | false => exact ⟨_, f, rfl, rfl, h⟩
  | true =>
    have hpassed := h.passed hP
    exact ⟨true, f.passed, rfl, rfl, hpassed⟩

theorem note (hP : Stage.OfStock P) (h : Twins L P e f) (level : Level) (text text' : String)
    {E : StoryError → Engine σ → Engine τ → Prop} :
    Matches (do Engine.note level text; return false) (do Engine.note level text'; return false) e f
      (fun go go' e' f' => go' = go ∧ Twins L P e' f') E := by
  refine Matches.bind (h.matches_of_runs hP (note_runs _ level text e).any
    (note_runs _ level text' f) rfl) ?_
  intro _ _ e' f' h'
  exact Matches.pure_iff.2 ⟨rfl, h'⟩

/-- What an option says is done the same way. -/
theorem followOn {s t : Stage} (hP : Stage.OfStock P) (h : Stage.Shares P s t)
    (option : ChoiceOption) :
    Matches (Engine.followOn option) (Engine.followOn option) s t (fun _ _ => Stage.Shares P)
      fun _ => Stage.Shares P := by
  have hlike := Stage.likeness hP
  unfold Engine.followOn
  split
  · refine Likeness.reads_ofMishap.bind fun n _ =>
      Matches.modify_bind_iff.2 (Matches.modify_iff.2 ?_)
    have hflags := hlike.mapFlags h (fun f => f.modify option.flag.shown n) ⟨_, _, rfl⟩
    exact hflags.advances hP
  · exact hlike.switchConversation h

section
variable (hP : Stage.OfStock P) (hc : Quiet c (.through L.seen) True)
  (hc' : Quiet c' (.through L.seen') False)

include hP hc hc'

/-- The effect that each of two twins waits for is done. -/
theorem endEffect (h : Twins L P e f) (hs : e.Steady) {id id' : Value}
    (hid : ∀ i, e.effect = some i → isEffect id i) (hid' : ∀ i, f.effect = some i → isEffect id' i)
    {E : StoryError → Engine σ → Engine τ → Prop} :
    Matches (HostCall.endEffect c id) (HostCall.endEffect c' id') e f
      (fun go go' e' f' => go' = go ∧ Twins L P e' f') E := by
  have heffect := h.effect
  generalize he : e.effect = i at heffect
  generalize hf : f.effect = i' at heffect
  cases heffect with
  | none =>
    unfold HostCall.endEffect
    refine Matches.get_bind_iff.2 ?_
    rw [he, hf]
    exact h.note hP _ _ _
  | some kind payload n n' =>
    have hmode : e.mode = .effectRunning := hs.effect.1 (by simp [he])
    have hmenu : e.menu = none := hs.menu_eq_none (by simp [hmode])
    have hruns := HostCall.endEffect_runs hc he hmode hmenu (hid _ he)
    have hruns' := HostCall.endEffect_runs hc' hf (h.mode.trans hmode) (h.menu.trans hmenu)
      (hid' _ hf)
    refine (Matches.of_runs hruns hruns').mono ?_ fun _ _ _ h => h
    intro go go' e' f' ⟨⟨hgo, ha⟩, hgo', ha'⟩
    exact ⟨hgo'.trans hgo.symm, ((h.freed hP).completed hP).aside hP ha ha' rfl⟩

theorem pick (h : Twins L P e f) (options : List ChoiceOption) (index : Value) :
    Matches (Engine.pick c options index) (Engine.pick c' options index) e f
      (fun _ _ e' f' => Twins L P e' f') fun _ e' f' => Twins L P e' f' ∧ e'.mode = e.mode := by
  unfold Engine.pick
  refine Matches.ofExcept_bind (fun place _ => ?_) fun _ _ => ⟨h, rfl⟩
  cases options[place]? with
  | none => exact Matches.pure_iff.2 h
  | some option =>
    have hcleared : Twins L P ({ e with menu := none } : Engine σ)
        ({ f with menu := none } : Engine τ) := { h with menu := rfl }
    refine Matches.modify_bind_iff.2 (Matches.bind (hcleared.emit hP hc hc' _ _) ?_)
    intro _ _ e₁ f₁ ⟨h₁, hmode₁⟩
    refine Matches.bind (h₁.matches_of_aside hP (hc.apply _ e₁) (hc'.apply _ f₁) rfl) ?_
    intro _ _ e₂ f₂ ⟨h₂, hmode₂⟩
    rw [follow_eq, follow_eq]
    refine Matches.bind (P := fun _ _ e₃ f₃ => Twins L P e₃ f₃)
      (Matches.onPart ((followOn hP h₂.stage option).mono ?_ ?_)) ?_
    · intro _ _ s t hshares
      exact h₂.withStage hshares
    · intro _ s t hshares
      exact ⟨h₂.withStage hshares, hmode₂.trans hmode₁⟩
    · intro _ _ e₃ f₃ h₃
      have hended : Twins L P
          ({ e₃.mapSession Session.release with mode := .normal } : Engine σ)
          ({ f₃.mapSession Session.release with mode := .normal } : Engine τ) :=
        { h₃ with stage := h₃.stage.safes hP none none, mode := rfl }
      exact Matches.modify_bind_iff.2 (hended.matches_of_runs hP (setMode_runs hc _ _).any
        (setMode_runs hc' _ _) rfl)

theorem takeOption (h : Twins L P e f) (index : Value) :
    Matches (HostCall.takeOption c index) (HostCall.takeOption c' index) e f
      (fun go go' e' f' => go' = go ∧ Twins L P e' f') fun _ e' f' => Twins L P e' f' := by
  unfold HostCall.takeOption
  refine Matches.get_bind_iff.2 ?_
  rw [h.menu, h.mode]
  cases hmenu : e.menu.filter fun _ => e.mode == .awaitingChoice with
  | none => exact h.note hP _ _ _
  | some options =>
    have hmode : e.mode = .awaitingChoice := by
      have := (Option.filter_eq_some_iff.1 hmenu).2
      simpa using this
    refine Matches.outcome_bind (h.pick hP hc hc' options index) ?_ ?_ ?_
    · intro _ _ e' f' h'
      exact ⟨_, _, rfl, rfl, h'⟩
    · intro error e' f' ⟨h', hmode'⟩
      refine Matches.bind (h'.fail hP hc hc' (by simp [hmode', hmode]) error) ?_
      intro _ _ e'' f'' h''
      exact Matches.pure_iff.2 ⟨rfl, h''⟩
    · intro m e'
      trivial

end

end Twins

end Engine

end VisualNovel
