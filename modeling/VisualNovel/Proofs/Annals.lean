import VisualNovel.Proofs.Safekeeping
import VisualNovel.Proofs.Whereabouts

/-!
# The annals of a run

Three kinds of deeds move a story on: a command is performed at the cursor, a beat is completed, and
an option leads to a conversation. `Annals` lists the deeds that lead from one engine to another,
the last one first; between them the story stands where it stands, and the sets of options are the
same.

Every run that takes over no snapshot has its annals (`Engine.Onward.annals`), however its calls
end. The collaborators may call back, as deep as they like: in the middle of a step no call moves
the cursor (`Engine.Anchors`), so a command that was told to listeners is still the one at the
cursor when it is performed.
-/

namespace VisualNovel

open Script
open Stage (Stationary)

variable {σ α : Type}

/-! ## Deeds -/

/-- What moves a story on. -/
inductive Deed where
  /-- A command was performed on a stage. -/
  | performed (cmd : Script.Command) (s : Stage)
  /-- The beat at the cursor was completed. -/
  | completed
  /-- An option led to a conversation. -/
  | followed (conversation : Value)

namespace Engine

/-- A deed leads from one engine to another. -/
inductive Does : Deed → Engine σ → Engine σ → Prop where
  | performed {e : Engine σ} {cmd : Script.Command} {o : Outcome} {s : Stage} :
    e.cursor.current = some (.command cmd) → (Command.perform cmd).perform e.stage = (.ok o, s) →
    Does (.performed cmd e.stage) e { e with stage := s }
  | completed {e : Engine σ} :
    Does .completed e (e.mapStage (Stage.mapCursor fun cursor => cursor.advance))
  | followed {e : Engine σ} {conversation : Value} {s : Stage} :
    (Stage.switchConversation conversation).perform e.stage = (.ok (), s) →
    Does (.followed conversation) e { e with stage := s }

end Engine

/-- The deeds that lead from one engine to another, the last one first. -/
inductive Annals (e : Engine σ) : List Deed → Engine σ → Prop where
  | nil : Annals e [] e
  | idle {log : List Deed} {e₁ e₂ : Engine σ} : Annals e log e₁ →
    e₁.stage.Stationary e₂.stage → Annals e log e₂
  | deed {log : List Deed} {d : Deed} {e₁ e₂ : Engine σ} : Annals e log e₁ →
    e₁.Does d e₂ → Annals e (d :: log) e₂

theorem Annals.append {e e₁ e₂ : Engine σ} {log later : List Deed} (h : Annals e log e₁)
    (h' : Annals e₁ later e₂) : Annals e (later ++ log) e₂ := by
  induction h' with
  | nil => exact h
  | idle _ hidle ih => exact ih.idle hidle
  | deed _ hdoes ih => exact ih.deed hdoes

namespace Engine

/-! ## What is recorded -/

/-- There are annals of what has led from one engine to the other, and a step goes on or not. -/
structure Records (e e' : Engine σ) : Prop where
  annals : ∃ log, Annals e log e'
  stepping : e'.stepping = e.stepping

/-- There are annals of what has happened in the middle of a step, which goes on. -/
def Advances (e e' : Engine σ) : Prop :=
  e.stepping → e'.stepping ∧ ∃ log, Annals e log e'

/-- The engine is in the middle of a step and waits for nothing. -/
def Held (e : Engine σ) : Prop :=
  e.stepping ∧ (e.running ∨ e.finished)

/-- In the middle of a step nothing but the step moves the cursor. -/
def Anchors (e e' : Engine σ) : Prop :=
  e.Held → e'.Held ∧ e'.cursor = e.cursor

/-- What a visitor may do to an engine: all that is recorded, but in the middle of a step the cursor
stays. -/
structure Receives (e e' : Engine σ) : Prop where
  records : Records e e'
  anchors : Anchors e e'

variable {e e₁ e' : Engine σ}

instance : IsPreorder (Engine σ) Records where
  refl e := ⟨⟨[], .nil⟩, rfl⟩
  trans _ _ _ h h' := by
    obtain ⟨⟨log, hlog⟩, hstepping⟩ := h
    obtain ⟨⟨later, hlater⟩, hstepping'⟩ := h'
    exact ⟨⟨_, hlog.append hlater⟩, hstepping'.trans hstepping⟩

instance : IsPreorder (Engine σ) Advances where
  refl e := fun hstepping => ⟨hstepping, [], .nil⟩
  trans _ _ _ h h' := by
    intro hstepping
    obtain ⟨hstepping₁, log, hlog⟩ := h hstepping
    obtain ⟨hstepping', later, hlater⟩ := h' hstepping₁
    exact ⟨hstepping', _, hlog.append hlater⟩

instance : IsPreorder (Engine σ) Anchors where
  refl e := fun hheld => ⟨hheld, rfl⟩
  trans _ _ _ h h' := by
    intro hheld
    obtain ⟨hheld₁, hcursor⟩ := h hheld
    obtain ⟨hheld', hcursor'⟩ := h' hheld₁
    exact ⟨hheld', hcursor'.trans hcursor⟩

instance : IsPreorder (Engine σ) Receives where
  refl e := ⟨refl_of Records e, refl_of Anchors e⟩
  trans _ _ _ h h' := ⟨trans_of Records h.records h'.records, trans_of Anchors h.anchors h'.anchors⟩

theorem Records.advances (h : Records e e') : Advances e e' :=
  fun hstepping => ⟨h.stepping.trans hstepping, h.annals⟩

theorem Receives.advances (h : Receives e e') : Advances e e' :=
  h.records.advances

/-- No deed was done. -/
theorem Records.of_stationary (hstage : e.stage.Stationary e'.stage)
    (hstepping : e'.stepping = e.stepping) : Records e e' :=
  ⟨⟨[], Annals.nil.idle hstage⟩, hstepping⟩

theorem Records.of_same (hscript : e'.script = e.script) (hcursor : e'.cursor = e.cursor)
    (hsets : e'.session.choiceSets = e.session.choiceSets)
    (hlibrary : e'.stage.library = e.stage.library) (hstepping : e'.stepping = e.stepping) :
    Records e e' := by
  refine .of_stationary ⟨hscript, hcursor, hsets, fun hs => ?_⟩ hstepping
  unfold Stage.Shelved
  rw [hlibrary]
  exact hs

theorem Records.of_does {d : Deed} (h : e.Does d e') (hstepping : e'.stepping = e.stepping) :
    Records e e' :=
  ⟨⟨[d], Annals.nil.deed h⟩, hstepping⟩

theorem Anchors.of_same (hcursor : e'.cursor = e.cursor) (hstepping : e'.stepping = e.stepping)
    (hmode : e'.mode = e.mode) (hawaiting : e'.awaiting = e.awaiting) : Anchors e e' := by
  rintro ⟨hheld, hfree⟩
  refine ⟨⟨hstepping.trans hheld, ?_⟩, hcursor⟩
  unfold running finished
  rw [hmode, hawaiting]
  exact hfree

/-- An option leads to a conversation, or the story stays where it is. -/
theorem switchConversation_records (name : Value) :
    Tracks (Records : Engine σ → Engine σ → Prop) (onStage (Stage.switchConversation name)) := by
  intro e
  have hends : Ends (onStage (Stage.switchConversation name)) e (fun _ e' => Records e e')
      fun _ e' => Records e e' := by
    refine Ends.onPart_iff.2 ((Stage.switchConversation_ends name e.stage).traced.mono ?_ ?_)
    · rintro _ s ⟨-, hrun⟩
      exact .of_does (.followed hrun) rfl
    · rintro _ _ ⟨rfl, -⟩
      exact refl_of Records e
  exact Ends.state_iff.1 hends

theorem Records.calm : Calm (Records : Engine σ → Engine σ → Prop) where
  noted _ _ _ := .of_same rfl rfl rfl rfl rfl
  timed _ _ _ := .of_same rfl rfl rfl rfl rfl
  completed _ := .of_does .completed rfl
  flagged _ _ _ := .of_same rfl rfl rfl rfl rfl
  captured _ := .of_same rfl rfl rfl rfl rfl
  released _ := .of_same rfl rfl rfl rfl rfl
  conversation := switchConversation_records
  awaiting _ _ := .of_same rfl rfl rfl rfl rfl
  menu _ _ := .of_same rfl rfl rfl rfl rfl
  dropped _ := .of_same rfl rfl rfl rfl rfl
  bus _ _ := .of_same rfl rfl rfl rfl rfl
  mode _ _ := .of_same rfl rfl rfl rfl rfl
  cleared _ := .of_same rfl rfl rfl rfl rfl

theorem Records.incidental : Incidental (Records : Engine σ → Engine σ → Prop) where
  disk _ _ := .of_same rfl rfl rfl rfl rfl
  saves _ _ := .of_same rfl rfl rfl rfl rfl

theorem Anchors.incidental : Incidental (Anchors : Engine σ → Engine σ → Prop) where
  disk _ _ := .of_same rfl rfl rfl rfl
  saves _ _ := .of_same rfl rfl rfl rfl

theorem Anchors.unheard : Unheard (Anchors : Engine σ → Engine σ → Prop) where
  noted _ _ _ := .of_same rfl rfl rfl rfl
  bus _ _ := .of_same rfl rfl rfl rfl

theorem Receives.unconcerned : Unconcerned (Receives : Engine σ → Engine σ → Prop) where
  disk _ _ := ⟨.of_same rfl rfl rfl rfl rfl, .of_same rfl rfl rfl rfl⟩
  saves _ _ := ⟨.of_same rfl rfl rfl rfl rfl, .of_same rfl rfl rfl rfl⟩
  bus _ _ := ⟨.of_same rfl rfl rfl rfl rfl, .of_same rfl rfl rfl rfl⟩

theorem Receives.of_within (h : Within e e') : Receives e e' := by
  obtain ⟨x, rfl⟩ := h
  exact ⟨.of_same rfl rfl rfl rfl rfl, .of_same rfl rfl rfl rfl⟩

/-! ## Playing -/

section
variable {c : Collaborators σ} (hc : c.Heeds Receives)
include hc

theorem heeds_records : c.Heeds Records :=
  hc.mono Receives.records

theorem fail_records (error : StoryError) : Tracks Records (fail c error) :=
  Records.calm.fail (heeds_records hc).backstage (fun _ _ => .of_same rfl rfl rfl rfl rfl) error

theorem display_records (text speaker : Value) (wait : Bool) :
    Tracks Records (display c text speaker wait) := by
  have hc := heeds_records hc
  exact display_tracks_of (fun _ => hc.apply _)
    (fun _ => emit_tracks Records.calm.unheard hc.deliver _)
    (fun _ _ => .of_same rfl rfl rfl rfl rfl)
    (fun _ => .of_same rfl rfl rfl rfl rfl) (fun _ => appear_tracks_of
      (.attempt fun _ _ => .of_same rfl rfl rfl rfl rfl) fun e => Records.calm.awaiting e _) speaker

theorem settle_records (o : Outcome) : Tracks Records (settle c o) := by
  have hb := (heeds_records hc).backstage
  cases o with
  | proceed intents =>
    have hsends : Tracks Records (intents.forM fun i => c.apply (some i)) :=
      .forM fun i _ => (heeds_records hc).apply (some i)
    exact hsends.bind fun _ => Records.calm.completeBeat
  | stay => exact .pure
  | hold kind payload =>
    refine .bind (.modify fun e => .of_same rfl rfl rfl rfl rfl) fun _ => ?_
    exact (Records.calm.setMode hb _).bind fun _ =>
      .get_bind fun e => (heeds_records hc).apply _ e
  | ask options line => exact Records.calm.present hb options (display_records hc line .null false)
  | call args => exact (hb.systemCall args).bind fun _ => Records.calm.completeBeat

/-- The command at the cursor is performed, unless it is refused. -/
theorem execute_advances {e : Engine σ} {cmd : Script.Command} (hrunning : e.running)
    (hbeat : e.cursor.current = some (.command cmd)) :
    Advances e ((execute c cmd).perform e).2 := by
  intro hstepping
  unfold execute
  cases Command.wellFormed cmd with
  | false => exact refl_of Advances e hstepping
  | true =>
    -- Listeners hear of the command first, and none of them can move the cursor.
    have hemit := emit_tracks Receives.unconcerned.unheard hc.deliver
      (.commandRun cmd.kind.keyword cmd.args cmd.line) e
    refine Tracks.bind_at (R := Advances) hemit.advances (fun _ e₁ hrun => ?_) hstepping
    rw [hrun] at hemit
    obtain ⟨-, hcursor⟩ := hemit.anchors ⟨hstepping, .inl hrunning⟩
    have hbeat₁ : e₁.cursor.current = some (.command cmd) := by
      rw [hcursor]
      exact hbeat
    have hperform : Ends (onStage (Command.perform cmd)) e₁ (fun _ e' => Records e₁ e')
        fun _ e' => Records e₁ e' := by
      refine Ends.onPart_iff.2 ((Command.perform_places cmd e₁.stage).traced.mono ?_ ?_)
      · rintro o s ⟨-, hrun⟩
        exact .of_does (.performed hbeat₁ hrun) rfl
      · rintro f s ⟨hstationary, -⟩
        exact .of_stationary hstationary rfl
    refine Tracks.bind_at (R := Advances) (Ends.state_iff.1 hperform).advances fun o e' _ => ?_
    exact (settle_records hc o e').advances

theorem playBeats_advances (turns budget : Nat) : Tracks Advances (playBeats c turns budget) := by
  have hfinish : Tracks Advances (finish c) :=
    (Records.calm.finish (heeds_records hc).backstage).mono Records.advances
  refine playBeats_tracks_of hfinish (fun e d _ _ => ?_) (fun e cmd hrunning hbeat => ?_)
    turns budget
  · exact (display_records hc d.text d.speaker true e).advances
  · exact execute_advances hc hrunning hbeat

/-- A beat that is played in the middle of a step is recorded. -/
theorem playBeat_advances {e : Engine σ} (hrunning : e.running) :
    Advances e ((playBeat c).perform e).2 := by
  have hfinish : Tracks Records (finish c) := Records.calm.finish (heeds_records hc).backstage
  unfold playBeat
  rw [Action.perform_get_bind]
  split
  · exact (hfinish e).advances
  · next d _ => exact (display_records hc d.text d.speaker true e).advances
  · next cmd hbeat => exact execute_advances hc hrunning hbeat

theorem step_records : Tracks Records (step c) := by
  refine step_tracks (refl_of Records) fun e _ hstepping => ?_
  have hfail : ∀ error, Tracks Advances (fail c error) := fun error =>
    (fail_records hc error).mono Records.advances
  have hplayed : Advances { e with stepping := true } _ :=
    orFail_tracks hfail (playBeats_advances hc turnsPerStep commandBudget) _
  obtain ⟨-, log, hlog⟩ := hplayed rfl
  have hbegun : Annals e [] { e with stepping := true } := Annals.nil.idle (refl_of Stationary _)
  exact ⟨⟨_, (hbegun.append hlog).idle (refl_of Stationary _)⟩, hstepping.symm⟩

/-! ## Visits in the middle of a step -/

theorem heeds_anchors : c.Heeds Anchors :=
  hc.mono Receives.anchors

theorem setMode_anchors : Tracks Anchors (setMode c .ended) := by
  intro e
  have hended : Anchors e { e with mode := .ended } := fun hheld => ⟨⟨hheld.1, .inr rfl⟩, rfl⟩
  have hends := setMode_tracks_from Anchors.unheard (heeds_anchors hc).deliver .ended e
  exact trans_of Anchors hended
    (Ends.state_iff.1 (hends.mono (fun _ _ h => h) fun _ _ h => h.elim))

theorem finish_anchors : Tracks Anchors (finish c) := by
  have hc := heeds_anchors hc
  refine .get_bind fun e => ?_
  cases e.finished with
  | true => exact refl_of Anchors e
  | false =>
    have hdrop : ∀ e : Engine σ,
        Anchors e { e with effect := none, menu := none, awaiting := false } := by
      rintro e ⟨hstepping, hrunning | hfinished⟩
      · simp only [running, Bool.and_eq_true] at hrunning
        exact ⟨⟨hstepping, .inl (by simp [running, hrunning.1])⟩, rfl⟩
      · exact ⟨⟨hstepping, .inr hfinished⟩, rfl⟩
    refine Tracks.bind (.modify hdrop) (fun _ => ?_) e
    refine .bind (.modify fun e => .of_same rfl rfl rfl rfl) fun _ => ?_
    refine Tracks.bind (setMode_anchors ‹_›) fun _ => .get_bind fun e => ?_
    exact (emit_tracks Anchors.unheard hc.deliver _).bind (fun _ => hc.finished) e

theorem fail_anchors (error : StoryError) : Tracks Anchors (fail c error) :=
  fail_tracks_of Anchors.unheard (heeds_anchors hc).deliver (heeds_anchors hc).showError
    (fun _ _ => .of_same rfl rfl rfl rfl) (finish_anchors hc) error

end

end Engine

/-! ## Calls -/

namespace HostCall

open Engine

variable {c : Collaborators σ} (hc : c.Heeds Receives) {call : HostCall}
include hc

theorem run_records (hcall : call.loads = false) : Tracks Records (call.run c) := by
  rw [run_eq]
  refine Tracks.bind ?_ fun go => ?_
  · exact Records.calm.opening (heeds_records hc).backstage (fail_records hc)
      (fun hsaves => saves_tracks Records.incidental c hsaves) hcall
  · cases go with
    | true => exact (step_records hc).discard
    | false => exact .pure

/-- No call from the middle of a step moves the cursor. -/
theorem run_anchors (hcall : call.loads = false) : Tracks Anchors (call.run c) := by
  rintro e ⟨hstepping, hfree⟩
  have hmode : e.mode = .normal ∧ e.awaiting = false ∨ e.mode = .ended := by
    simpa [running, finished] using hfree
  have hignored : call.misplaced e → (((call.run c).perform e).2).Held ∧
      ((call.run c).perform e).2.cursor = e.cursor := by
    intro hmisplaced
    rcases ignored_of_misplaced c hmisplaced with hrun | ⟨text, hrun⟩
    · rw [hrun]
      exact ⟨⟨hstepping, hfree⟩, rfl⟩
    · rw [hrun]
      exact ⟨⟨hstepping, hfree⟩, rfl⟩
  by_cases hsaves : call.saves
  · exact saves_tracks Anchors.incidental c hsaves e ⟨hstepping, hfree⟩
  cases call with
  | step =>
    have hstep : Tracks Anchors (Engine.step c) := by
      refine step_tracks (refl_of Anchors) fun e _ hidle hheld => ?_
      rw [hheld.1] at hidle
      cases hidle
    exact hstep.discard e ⟨hstepping, hfree⟩
  | reportResourceError message =>
    have hfail : Tracks Anchors (Engine.reportResourceError c message) :=
      .get_bind fun e => fail_anchors hc _ e
    exact hfail e ⟨hstepping, hfree⟩
  | setFlag name value =>
    have hset : Tracks (Anchors : Engine σ → Engine σ → Prop) (Engine.setFlag name value) :=
      .bind .ofMishap fun _ => .bind .ofMishap fun _ => .modify fun e => .of_same rfl rfl rfl rfl
    exact hset e ⟨hstepping, hfree⟩
  | saveToSlot | quicksave | autosave => exact absurd rfl hsaves
  | loadFromSlot | quickload | restore => cases hcall
  | _ =>
    refine hignored ?_
    rcases hmode with ⟨hnormal, hawaiting⟩ | hended
    · simp [misplaced, hnormal, hawaiting]
    · simp [misplaced, hended]

theorem run_receives (hcall : call.loads = false) : Tracks Receives (call.run c) :=
  fun e => ⟨run_records hc hcall e, run_anchors hc hcall e⟩

end HostCall

/-! ## Runs -/

namespace Engine

/-- A run of calls that take over no snapshot, however they end, and of other surroundings in
between. -/
inductive Onward (c : Collaborators σ) (e : Engine σ) : Engine σ → Prop where
  | refl : Onward c e e
  | call {e₁ : Engine σ} (call : HostCall) : Onward c e e₁ → call.loads = false →
    Onward c e ((call.run c).perform e₁).2
  | around {e₁ : Engine σ} (x : Surroundings σ) : Onward c e e₁ → Onward c e (e₁.within x)

end Engine

/-- The collaborators call back, if at all, by calls that take over no snapshot, as deep as they
like. -/
inductive Accompanies : Collaborators σ → Prop where
  | never {c : Collaborators σ} : c.Heeds Within → Accompanies c
  | deeper {c inner : Collaborators σ} : Accompanies inner → c.Heeds (Engine.Onward inner) →
    Accompanies c

namespace Engine

variable {c : Collaborators σ} {e e' : Engine σ}

theorem Onward.receives (hc : c.Heeds Receives) (h : Onward c e e') : Receives e e' := by
  induction h with
  | refl => exact refl_of Receives e
  | call call _ hcall ih => exact trans_of Receives ih (HostCall.run_receives hc hcall _)
  | around x _ ih => exact trans_of Receives ih (.of_within ⟨x, rfl⟩)

theorem accompanies_receives (hc : Accompanies c) : c.Heeds Receives := by
  induction hc with
  | never h => exact h.mono Receives.of_within
  | deeper _ h ih => exact h.mono (Onward.receives ih)

/-- A run has its annals, and so has the start of a session before it. -/
theorem Onward.annals {e₀ : Engine σ} (hc : Accompanies c)
    (h : Onward c ((enterLoading c).perform e₀).2 e) : ∃ log, Annals e₀ log e := by
  have hc := accompanies_receives hc
  have hloading : Records e₀ ((enterLoading c).perform e₀).2 :=
    Records.calm.enterLoading (heeds_records hc).backstage
      (fun e => (heeds_records hc).prepare _ e) e₀
  exact (trans_of Records hloading (h.receives hc).records).annals

/-- A moment of a run: between two calls, or between two of the beats that a call plays. -/
inductive Instant (c : Collaborators σ) (e₀ e : Engine σ) : Prop where
  | rests : Onward c e₀ e → Instant c e₀ e
  | plays {e₁ e₂ : Engine σ} (call : HostCall) : Onward c e₀ e₁ → call.loads = false →
    (call.opening c).perform e₁ = (.ok true, e₂) → Plays c { e₂ with stepping := true } e →
    Instant c e₀ e

/-- At every moment a run has its annals. -/
theorem Instant.annals {e₀ : Engine σ} (hc : Accompanies c)
    (h : Instant c ((enterLoading c).perform e₀).2 e) : ∃ log, Annals e₀ log e := by
  cases h with
  | rests h => exact h.annals hc
  | @plays e₁ e₂ call h hcall hopening hplays =>
    obtain ⟨log, hlog⟩ := h.annals hc
    have hc := accompanies_receives hc
    have hopened : Records e₁ e₂ := by
      have hrecords := Records.calm.opening (heeds_records hc).backstage (fail_records hc)
        (fun hsaves => saves_tracks Records.incidental c hsaves) hcall e₁
      rw [hopening] at hrecords
      exact hrecords
    obtain ⟨later, hlater⟩ := hopened.annals
    have hadvances : Advances { e₂ with stepping := true } e := by
      induction hplays with
      | refl => exact refl_of Advances _
      | @beat e₃ e₄ _ hrunning hbeat ih =>
        have hplayed := playBeat_advances hc hrunning
        rw [hbeat] at hplayed
        exact trans_of Advances ih hplayed
    obtain ⟨-, last, hlast⟩ := hadvances rfl
    have hbegun : Annals e₀ (later ++ log) { e₂ with stepping := true } :=
      (hlog.append hlater).idle (refl_of Stationary e₂.stage)
    exact ⟨_, hbegun.append hlast⟩

end Engine

end VisualNovel
