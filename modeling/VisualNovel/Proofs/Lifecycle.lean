import VisualNovel.Proofs.AlikeStages
import VisualNovel.Proofs.Notices
import VisualNovel.Proofs.Protocol
import VisualNovel.Proofs.Refusals
import VisualNovel.Proofs.Subscriptions
import VisualNovel.Proofs.Tracks

/-!
# The life of a session, as it shows

A listener that is subscribed to every event writes down what it hears, beside the intents that are
sent and the calls of the owner. Collaborators may fail, but they do not call back. However the
calls of a run end, the notices stay on course (`Engine.Lives`): changes of the mode form a path,
and what goes with an end or an error shows once (`Chronicle.told_once`).
-/

namespace VisualNovel

open Script

variable {σ α β : Type}

/-! ## A listener to everything -/

/-- The listener is subscribed to every event once, and for good. -/
def Hears (k : Nat) (bus : EventBus String Nat) : Prop :=
  ∀ event : Event, (bus.listeners event.name).filter (fun s => s.listener = k) = [.always k]

/-- Others may be unsubscribed. -/
theorem Hears.remove {k : Nat} {bus : EventBus String Nat} (h : Hears k bus) (event : String)
    {s : Subscription Nat} (hs : s.listener ≠ k) : Hears k (bus.remove event s) := by
  intro e
  rw [EventBus.listeners_remove]
  split
  · next heq =>
    rw [beq_iff_eq.1 heq, ← List.erase_filter, List.erase_of_not_mem]
    · exact h e
    · simp [hs]
  · exact h e

/-- A subscription of the listener is one for good. -/
theorem Hears.eq_always {k : Nat} {bus : EventBus String Nat} (h : Hears k bus) {event : Event}
    {s : Subscription Nat} (hs : s ∈ bus.listeners event.name) (hk : s.listener = k) :
    s = .always k := by
  have hmem : s ∈ (bus.listeners event.name).filter (fun s => s.listener = k) := by
    simp [hs, hk]
  rw [h event] at hmem
  exact List.mem_singleton.1 hmem

/-- Only the surroundings have changed. -/
def Within (e e' : Engine σ) : Prop :=
  ∃ x, e' = e.within x

/-- Only the surroundings have changed, these notices were written down, and the listener goes on
to hear everything. -/
def Notes (seen : σ → List Notice) (k : Nat) (notices : List Notice) (e e' : Engine σ) : Prop :=
  ∃ x, e' = e.within x ∧ seen x.outside = seen e.outside ++ notices ∧
    (Hears k e.bus → Hears k x.bus)

/-- The collaborators do not call back, however they end, and what they show is written down: what
the listener hears, the intents, and that the owner hears of the end. -/
structure Collaborators.Reports (c : Collaborators σ) (seen : σ → List Notice) (k : Nat) :
    Prop where
  prepare : ∀ scene, Tracks (Notes seen k []) (c.prepare scene)
  apply : ∀ i, Tracks (Notes seen k [.sent i]) (c.apply (some i))
  showError : ∀ text, Tracks (Notes seen k []) (c.showError text)
  deliver : ∀ id event,
    Tracks (Notes seen k (if id = k then [.told event] else [])) (c.deliver id event)
  systemCall : ∀ args, Tracks (Notes seen k []) (c.systemCall args)
  finished : Tracks (Notes seen k [.parted]) c.finished

section
variable {seen : σ → List Notice} {k : Nat} {e e₁ e' : Engine σ} {a b : List Notice}

namespace Within

instance : IsPreorder (Engine σ) Within where
  refl e := ⟨e.surroundings, rfl⟩
  trans _ _ _ h h' := by
    obtain ⟨x, rfl⟩ := h
    obtain ⟨y, rfl⟩ := h'
    exact ⟨y, rfl⟩

theorem unconcerned : Unconcerned (Within : Engine σ → Engine σ → Prop) where
  disk e d := ⟨{ e.surroundings with disk := d }, rfl⟩
  saves e saves := ⟨{ e.surroundings with saves }, rfl⟩
  bus e bus := ⟨{ e.surroundings with bus }, rfl⟩

theorem mode (h : Within e e') : e'.mode = e.mode := by
  obtain ⟨x, rfl⟩ := h
  rfl

theorem effect (h : Within e e') : e'.effect = e.effect := by
  obtain ⟨x, rfl⟩ := h
  rfl

theorem error (h : Within e e') : e'.error = e.error := by
  obtain ⟨x, rfl⟩ := h
  rfl

end Within

namespace Notes

theorem within (h : Notes seen k a e e') : Within e e' :=
  h.imp fun _ hx => hx.1

theorem refl (e : Engine σ) : Notes seen k [] e e :=
  ⟨e.surroundings, rfl, by simp [Engine.surroundings], id⟩

theorem trans (h : Notes seen k a e e₁) (h' : Notes seen k b e₁ e') :
    Notes seen k (a ++ b) e e' := by
  obtain ⟨x, rfl, hseen, hbus⟩ := h
  obtain ⟨y, rfl, hseen', hbus'⟩ := h'
  refine ⟨y, rfl, ?_, hbus' ∘ hbus⟩
  rw [hseen', ← List.append_assoc, ← hseen]
  rfl

/-- Nothing was written down in the first place. -/
theorem after (h : Notes seen k [] e e₁) (h' : Notes seen k b e₁ e') : Notes seen k b e e' :=
  h.trans h'

theorem before (h : Notes seen k a e e₁) (h' : Notes seen k [] e₁ e') : Notes seen k a e e' := by
  simpa using h.trans h'

theorem hears (h : Notes seen k a e e') (hk : Hears k e.bus) : Hears k e'.bus := by
  obtain ⟨x, rfl, -, hbus⟩ := h
  exact hbus hk

theorem closed (h : Notes seen k a e e') : Notes seen k a e.closed e'.closed := by
  obtain ⟨x, rfl, hx⟩ := h
  exact ⟨x, rfl, hx⟩

theorem of_disk (e : Engine σ) (d : Disk) : Notes seen k [] e (Engine.diskPlace.set d e) :=
  ⟨{ e.surroundings with disk := d }, rfl, by simp [Engine.surroundings], id⟩

end Notes

theorem Collaborators.Reports.within {c : Collaborators σ} (hc : c.Reports seen k) (id : Nat)
    (event : Event) : Tracks Within (c.deliver id event) :=
  (hc.deliver id event).mono Notes.within

namespace Engine

variable {c : Collaborators σ}

/-- A listener is called, and the log says if it fails. -/
theorem tell_notes (hc : c.Reports seen k) (event : Event) {s : Subscription Nat}
    (hs : s.listener = k → s = .always k) (e : Engine σ) :
    Notes seen k (if s.listener = k then [.told event] else []) e ((tell c event s).run e).2 := by
  have hserving : Notes seen k [] e (e.serving event.name s) := by
    cases s with
    | always _ => exact .refl e
    | once number l =>
      have hl : l ≠ k := fun hl => by simpa using hs hl
      exact ⟨{ e.surroundings with bus := _ }, rfl, by simp [surroundings], fun h => h.remove _ hl⟩
  have hafter := hserving.after (hc.deliver s.listener event (e.serving event.name s))
  rw [tell_run]
  generalize (c.deliver s.listener event).perform (e.serving event.name s) = out at hafter ⊢
  obtain ⟨_ | _, e₁⟩ := out
  · exact hafter.before (.of_disk e₁ _)
  · exact hafter

/-- An event is written down once. -/
theorem emit_notes (hc : c.Reports seen k) (event : Event) (e : Engine σ) (hk : Hears k e.bus) :
    Notes seen k [.told event] e ((emit c event).perform e).2 := by
  have hall : ∀ (subs : List (Subscription Nat)) (e₁ : Engine σ),
      (∀ s ∈ subs, s.listener = k → s = .always k) →
      Notes seen k ((subs.filter fun s => s.listener = k).map fun _ => .told event) e₁
        ((subs.forM (tell c event)).run e₁).2 := by
    intro subs
    induction subs with
    | nil => exact fun e₁ _ => .refl e₁
    | cons s subs ih =>
      intro e₁ hsubs
      have hhead := tell_notes hc event (hsubs s (by simp)) e₁
      have htail := ih ((tell c event s).run e₁).2 fun s hs => hsubs s (by simp [hs])
      have hboth := hhead.trans htail
      by_cases hs : s.listener = k
      · rw [List.filter_cons_of_pos (by simp [hs])]
        rw [if_pos hs] at hboth
        exact hboth
      · rw [List.filter_cons_of_neg (by simp [hs])]
        rw [if_neg hs] at hboth
        exact hboth
  have hcounted : Notes seen k [] e (busPlace.update (·.countEmission event.name) e) :=
    ⟨{ e.surroundings with bus := _ }, rfl, by simp [surroundings], id⟩
  have hsubs := hall (e.bus.listeners event.name) (busPlace.update (·.countEmission event.name) e)
    fun s hs => hk.eq_always hs
  rw [hk event] at hsubs
  exact hcounted.after hsubs

theorem emit_within (hdeliver : ∀ id event, Tracks Within (c.deliver id event)) (event : Event) :
    Tracks Within (emit c event) :=
  emit_tracks Within.unconcerned.unheard hdeliver event

/-- Telling listeners never fails. -/
theorem emit_perform (c : Collaborators σ) (event : Event) (e : Engine σ) :
    (emit c event).perform e = (.ok (), ((emit c event).perform e).2) :=
  rfl

end Engine

end

/-! ## Living -/

/-- What the notices of a stretch may tell of: one that loads tells of no error, and any other one
tells of all errors, and not of loading. -/
def Accounts (loads : Bool) (error : Option StoryError) (notices : List Notice)
    (error' : Option StoryError) : Prop :=
  if loads then ∀ n ∈ notices, n.failure? = none
  else (∀ n ∈ notices, n.startsLoad = false) ∧ error' = Notices.error error notices

/-- The notices in between are on course from the mode of one engine to that of the other. `sure`
says whether a session is sure to end once listeners were told of an error, and `loads` whether
loading is to be told of. -/
def Lives (seen : σ → List Notice) (k : Nat) (sure loads : Bool) (e e' : Engine σ) : Prop :=
  Hears k e.bus → Hears k e'.bus ∧ ∃ notices, seen e'.outside = seen e.outside ++ notices ∧
    Course.after sure (.on e.mode) notices = some (.on e'.mode) ∧
    Accounts loads e.error notices e'.error

/-- The engine lives on in the mode that it is in. -/
def Dwells (seen : σ → List Notice) (k : Nat) (sure loads : Bool) (e e' : Engine σ) : Prop :=
  Lives seen k sure loads e e' ∧ e'.mode = e.mode

section
variable {seen : σ → List Notice} {k : Nat} {sure loads : Bool} {e e₁ e' : Engine σ}

theorem Accounts.nil {error error' : Option StoryError} (h : loads ∨ error' = error) :
    Accounts loads error [] error' := by
  unfold Accounts
  split
  · simp
  · next hloads => exact ⟨by simp, h.resolve_left hloads⟩

theorem Accounts.append {a b : List Notice} {error error₁ error' : Option StoryError}
    (h : Accounts loads error a error₁) (h' : Accounts loads error₁ b error') :
    Accounts loads error (a ++ b) error' := by
  unfold Accounts at *
  split at h
  · simp_all [or_imp]
  · simp_all [or_imp, Notices.error, List.foldl_append]

namespace Lives

/-- Nothing shows of a change. -/
theorem of_same (hbus : e'.bus = e.bus) (hout : e'.outside = e.outside) (hmode : e'.mode = e.mode)
    (herror : loads ∨ e'.error = e.error) : Lives seen k sure loads e e' := by
  intro hk
  rw [hbus, hout, hmode]
  exact ⟨hk, [], by simp, rfl, .nil herror⟩

instance : IsPreorder (Engine σ) (Lives seen k sure loads) where
  refl e := of_same rfl rfl rfl (.inr rfl)
  trans _ _ _ h h' hk := by
    obtain ⟨hk₁, a, ha, hcourse, herror⟩ := h hk
    obtain ⟨hk', b, hb, hcourse', herror'⟩ := h' hk₁
    refine ⟨hk', a ++ b, ?_, Course.after_trans hcourse hcourse', herror.append herror'⟩
    rw [hb, ha, List.append_assoc]

/-- What is written down is on course. -/
theorem of_notes {notices : List Notice} (h : Hears k e.bus → Notes seen k notices e₁ e')
    (hbus : e₁.bus = e.bus) (hout : e₁.outside = e.outside)
    (hcourse : Course.after sure (.on e.mode) notices = some (.on e₁.mode))
    (herror : Accounts loads e.error notices e₁.error) : Lives seen k sure loads e e' := by
  intro hk
  have hnotes := h hk
  have hhears := hnotes.hears (hbus ▸ hk)
  obtain ⟨x, rfl, hseen, -⟩ := hnotes
  rw [hout] at hseen
  exact ⟨hhears, notices, hseen, hcourse, herror⟩

end Lives

namespace Dwells

theorem of_same (hbus : e'.bus = e.bus) (hout : e'.outside = e.outside) (hmode : e'.mode = e.mode)
    (herror : e'.error = e.error) : Dwells seen k sure loads e e' :=
  ⟨.of_same hbus hout hmode (.inr herror), hmode⟩

instance : IsPreorder (Engine σ) (Dwells seen k sure loads) where
  refl _ := of_same rfl rfl rfl rfl
  trans _ _ _ h h' := ⟨trans_of _ h.1 h'.1, h'.2.trans h.2⟩

theorem easy : Easy (Dwells seen k sure loads) where
  disk _ _ := of_same rfl rfl rfl rfl
  saves _ _ := of_same rfl rfl rfl rfl
  stage _ _ := of_same rfl rfl rfl rfl
  awaiting _ _ := of_same rfl rfl rfl rfl
  menu _ _ := of_same rfl rfl rfl rfl
  backlog _ _ := of_same rfl rfl rfl rfl
  dropped _ := of_same rfl rfl rfl rfl

theorem incidental : Incidental (Dwells seen k sure loads) :=
  easy.toIncidental

end Dwells

theorem Tracks.lives {act : Play σ α} (h : Tracks (Dwells seen k sure loads) act) :
    Tracks (Lives seen k sure loads) act :=
  h.mono fun h => h.1

/-- What follows finds the engine in the same mode. -/
theorem Tracks.lives_bind {x : Play σ α} {f : α → Play σ β}
    (hx : Tracks (Dwells seen k sure loads) x) (hf : ∀ a e₁, e₁.mode = e.mode →
      Lives seen k sure loads e₁ ((f a).perform e₁).2) :
    Lives seen k sure loads e ((x >>= f).perform e).2 := by
  refine Tracks.bind_at (hx e).1 fun a e₁ hrun => hf a e₁ ?_
  have hmode := (hx e).2
  rw [hrun] at hmode
  exact hmode

end

section
variable {seen : σ → List Notice} {k : Nat} {sure loads : Bool} {n : Notice}

/-- The notice asks for nothing, and tells neither of loading nor of an error. -/
structure Notice.Passing (n : Notice) : Prop where
  next : ∀ sure m, Course.next sure (.on m) n = some (.on m)
  startsLoad : n.startsLoad = false
  failure? : n.failure? = none

theorem Accounts.passing (h : n.Passing) (error : Option StoryError) :
    Accounts loads error [n] error := by
  simp [Accounts, Notices.error, h.startsLoad, h.failure?]

theorem Course.after_passing (h : n.Passing) (m : Mode) :
    Course.after sure (.on m) [n] = some (.on m) := by
  simp [Course.after_cons, h.next]

namespace Dwells

variable {e e' : Engine σ}

theorem of_passing (h : n.Passing) (hwithin : Within e e')
    (hnotes : Hears k e.bus → Notes seen k [n] e e') : Dwells seen k sure loads e e' :=
  ⟨.of_notes hnotes rfl rfl (Course.after_passing h _) (.passing h _), hwithin.mode⟩

theorem of_silent (h : Notes seen k [] e e') : Dwells seen k sure loads e e' :=
  ⟨.of_notes (fun _ => h) rfl rfl rfl (.nil (.inr rfl)), h.within.mode⟩

end Dwells

end

namespace Engine

section
variable {seen : σ → List Notice} {k : Nat} {sure loads : Bool} {c : Collaborators σ}
  (hc : c.Reports seen k)
include hc

theorem emit_dwells {event : Event} (h : (Notice.told event).Passing) :
    Tracks (Dwells seen k sure loads) (emit c event) :=
  fun e => .of_passing h (emit_within hc.within event e) (emit_notes hc event e)

theorem apply_dwells (i : Intent) : Tracks (Dwells seen k sure loads) (c.apply (some i)) :=
  fun e => .of_passing ⟨fun _ _ => rfl, rfl, rfl⟩ (hc.apply i e).within fun _ => hc.apply i e

theorem send_dwells (kind : IntentKind) (payload : Table String Value) :
    Tracks (Dwells seen k sure loads) (send c kind payload) :=
  apply_dwells hc _

theorem display_dwells (text speaker : Value) (wait : Bool) :
    Tracks (Dwells seen k sure loads) (display c text speaker wait) := by
  have hR : Easy (Dwells seen k sure loads) := Dwells.easy
  exact display_tracks_of (send_dwells hc .showText)
    (fun _ => emit_dwells hc ⟨fun _ _ => rfl, rfl, rfl⟩) hR.backlog (fun e => hR.stage e _)
    (fun _ => appear_tracks_of (timing_tracks hR _) fun e => hR.awaiting e _) speaker

theorem sendReveal_dwells : Tracks (Dwells seen k sure loads) (sendReveal c) := by
  refine .get_bind fun e => ?_
  dsimp only
  split
  · refine Tracks.bind (.modify fun e => Dwells.easy.stage e _) (fun _ => ?_) e
    exact .bind .ofMishap fun _ => .bind .ofMishap fun _ => send_dwells hc _ _
  · exact refl_of _ e

/-! ## Changes of the mode -/

omit hc in
theorem setMode_same {mode : Mode} {e : Engine σ} (h : e.mode = mode) (c : Collaborators σ) :
    (setMode c mode).perform e = (.ok (), e) := by
  unfold setMode
  rw [Action.perform_get_bind]
  dsimp only
  rw [if_neg (by simpa using h)]
  rfl

omit hc in
theorem setMode_within (hdeliver : ∀ id event, Tracks Within (c.deliver id event)) (mode : Mode)
    (e : Engine σ) : Within { e with mode } ((setMode c mode).perform e).2 := by
  by_cases hsame : e.mode = mode
  · rw [setMode_same hsame, ← hsame]
    exact refl_of Within e
  · unfold setMode
    rw [Action.perform_get_bind]
    dsimp only
    rw [if_pos (by simpa using hsame), Action.perform_modify_bind]
    exact emit_within hdeliver _ _

/-- A change of the mode is written down. -/
theorem setMode_notes {mode : Mode} {e : Engine σ} (h : e.mode ≠ mode) (hk : Hears k e.bus) :
    Notes seen k [.told (.modeChanged e.mode mode)] { e with mode }
      ((setMode c mode).perform e).2 := by
  unfold setMode
  rw [Action.perform_get_bind]
  dsimp only
  rw [if_pos (by simpa using h), Action.perform_modify_bind]
  exact emit_notes hc _ _ hk

/-- A session goes from one mode into another that it can go on in. -/
theorem setMode_lives {mode : Mode} {e : Engine σ} (hturns : e.mode = mode ∨ e.mode.turns mode)
    (hended : mode ≠ .ended) (hloading : mode ≠ .loading) :
    Lives seen k sure false e ((setMode c mode).perform e).2 := by
  by_cases hsame : e.mode = mode
  · rw [setMode_same hsame]
    exact refl_of _ e
  · have hturn := hturns.resolve_left hsame
    refine .of_notes (setMode_notes hc hsame) rfl rfl ?_ ?_
    · cases mode <;> simp_all [Course.after_cons, Course.next]
    · cases mode <;> simp_all [Accounts, Notice.startsLoad, Notices.error, Notice.failure?]

end

/-- A change of the mode never fails. -/
theorem setMode_perform (c : Collaborators σ) (mode : Mode) (e : Engine σ) :
    (setMode c mode).perform e = (.ok (), ((setMode c mode).perform e).2) := by
  unfold setMode
  rw [Action.perform_get_bind]
  dsimp only
  split
  · rfl
  · rfl

/-! ## The end of a session -/

/-- The engine when its session is about to end, and the mode has not changed yet. -/
def closing (e : Engine σ) : Engine σ :=
  { e.closed with mode := e.mode }

/-- The engine when listeners have been told of an error. -/
def warned (c : Collaborators σ) (error : StoryError) (e : Engine σ) : Engine σ :=
  ((emit c (.failed error)).perform <| { e with error := some error }.mapStage
    (Stage.note .error s!"session ended: {error.text}")).2

theorem finish_ended {e : Engine σ} (h : e.mode = .ended) (c : Collaborators σ) :
    (finish c).perform e = (.ok (), e) := by
  have hended : e.finished = true := by simp [finished, h]
  unfold finish
  rw [Action.perform_get_bind, hended]
  rfl

theorem finish_perform {e : Engine σ} (h : e.mode ≠ .ended) (c : Collaborators σ) :
    (finish c).perform e =
      let e₁ := ((setMode c .ended).perform e.closing).2
      c.finished.perform ((emit c (.ended (e₁.error.map StoryError.text))).perform e₁).2 := by
  have hgoes : e.finished = false := by simpa [finished] using h
  unfold finish
  rw [Action.perform_get_bind, hgoes]
  exact Action.perform_bind_ok (setMode_perform c .ended e.closing)

theorem failing_ended {e : Engine σ} (h : e.mode = .ended) (c : Collaborators σ)
    (error : StoryError) : (failing c error).perform e = (.ok false, e) := by
  have hended : e.finished = true := by simp [finished, h]
  unfold failing
  rw [Action.perform_get_bind, hended]
  rfl

theorem failing_perform {e : Engine σ} (h : e.mode ≠ .ended) (c : Collaborators σ)
    (error : StoryError) : (failing c error).perform e = (do
      c.showError error.text
      finish c
      return true : Play σ Bool).perform (e.warned c error) := by
  have hgoes : e.finished = false := by simpa [finished] using h
  unfold failing
  rw [Action.perform_get_bind, hgoes]
  rfl

/-- Passing the error on changes nothing. -/
theorem fail_state (c : Collaborators σ) (error : StoryError) (e : Engine σ) :
    ((fail c error).perform e).2 = ((failing c error).perform e).2 := by
  rw [fail_eq]
  rcases hrun : (failing c error).perform e with ⟨f | went, e'⟩
  · rw [Action.perform_bind_error hrun]
  · rw [Action.perform_bind_ok hrun]
    cases went with
    | false => rfl
    | true =>
      rw [if_pos rfl, Action.perform_get_bind]
      cases e'.strict with
      | false => rfl
      | true => rfl

section
variable {seen : σ → List Notice} {k : Nat} {sure : Bool} {c : Collaborators σ} {e : Engine σ}
  (hc : c.Reports seen k)
include hc

/-- The end of a session is written down in one go. -/
theorem finish_notes (h : e.mode ≠ .ended) (hk : Hears k e.bus) :
    ∃ text, Notes seen k [.told (.modeChanged e.mode .ended), .told (.ended text), .parted]
      e.closed ((finish c).perform e).2 := by
  let e₁ := ((setMode c .ended).perform e.closing).2
  let text := e₁.error.map StoryError.text
  have hmode : Notes seen k _ e.closed e₁ := setMode_notes hc (e := e.closing) h hk
  have htold := hmode.trans (emit_notes hc (.ended text) e₁ (hmode.hears hk))
  rw [finish_perform h]
  exact ⟨text, htold.trans (hc.finished _)⟩

theorem finish_lives : Tracks (Lives seen k sure false) (finish c) := by
  intro e
  by_cases h : e.mode = .ended
  · rw [finish_ended h]
    exact refl_of _ e
  · intro hk
    obtain ⟨text, hnotes⟩ := finish_notes hc h hk
    exact Lives.of_notes (fun _ => hnotes) rfl rfl
      (by simp [Course.after_cons, Course.next, h, closed]) ⟨by simp [Notice.startsLoad], rfl⟩ hk

theorem warned_notes (error : StoryError) (hk : Hears k e.bus) :
    Notes seen k [.told (.failed error)] { e with error := some error } (e.warned c error) := by
  exact Notes.after (.of_disk { e with error := some error } _)
    (emit_notes hc (.failed error) _ hk)

/-- An error is written down, and the end with it if it can be shown. -/
theorem fail_lives (hsure : sure → ∀ text e, ∃ e', (c.showError text).perform e = (.ok (), e'))
    (error : StoryError) : Tracks (Lives seen k sure false) (fail c error) := by
  intro e
  rw [fail_state]
  by_cases h : e.mode = .ended
  · rw [failing_ended h]
    exact refl_of _ e
  · intro hk
    have hshown := (warned_notes hc error hk).before (hc.showError error.text (e.warned c error))
    rw [failing_perform h]
    rcases hshow : (c.showError error.text).perform (e.warned c error) with ⟨f | _, e₁⟩
    · rw [Action.perform_bind_error hshow]
      rw [hshow] at hshown
      have hunsure : sure = false := by
        cases sure with
        | false => rfl
        | true =>
          obtain ⟨e', he'⟩ := hsure rfl error.text (e.warned c error)
          rw [he'] at hshow
          cases hshow
      exact Lives.of_notes (fun _ => hshown) rfl rfl
        (by simp [Course.after_cons, Course.next, h, hunsure])
        ⟨by simp [Notice.startsLoad], rfl⟩ hk
    · rw [Action.perform_bind_ok hshow, ← map_eq_pure_bind, Action.perform_map]
      rw [hshow] at hshown
      have hmode : e₁.mode = e.mode := hshown.within.mode
      obtain ⟨text, hfinish⟩ := finish_notes hc (hmode ▸ h) (hshown.hears hk)
      rw [hmode] at hfinish
      have hall := hshown.closed.trans hfinish
      refine Lives.of_notes (fun _ => hall) rfl rfl ?_ ⟨by simp [Notice.startsLoad], rfl⟩ hk
      cases sure <;> simp [Course.after_cons, Course.next, Mode.turns, h, closed]

/-! ## Playing -/

theorem hold_lives (hmode : e.mode = .normal) (kind : IntentKind) (payload : Table String Value) :
    Lives seen k sure false e ((hold c kind payload).perform e).2 := by
  let e₁ : Engine σ :=
    { e with effectCount := e.effectCount + 1, effect := some (effectOf kind payload e) }
  have hset : Lives seen k sure false e ((setMode c .effectRunning).perform e₁).2 :=
    setMode_lives hc (e := e₁) (.inr (by simp [e₁, hmode, Mode.turns])) (by simp) (by simp)
  have heffect := (setMode_within hc.within .effectRunning e₁).effect
  have hrun : (hold c kind payload).perform e =
      (c.apply (some (effectOf kind payload e))).perform
        ((setMode c .effectRunning).perform e₁).2 := by
    unfold hold
    rw [Action.perform_modify_bind]
    refine (Action.perform_bind_ok (setMode_perform c .effectRunning e₁)).trans ?_
    rw [Action.perform_get_bind, heffect]
  rw [hrun]
  exact trans_of _ hset ((apply_dwells hc _).lives _)

theorem present_lives (hmode : e.mode = .normal) (options : List ChoiceOption) (line : Value) :
    Lives seen k sure false e ((present c options line).perform e).2 := by
  let e₁ : Engine σ := { e.mapSession Session.capture with menu := some options }
  have hmode₁ : e₁.mode = .normal := hmode
  have hset : Lives seen k sure false e ((setMode c .awaitingChoice).perform e₁).2 :=
    setMode_lives hc (e := e₁) (.inr (by simp [hmode₁, Mode.turns])) (by simp) (by simp)
  have hshow : Dwells seen k sure false ((setMode c .awaitingChoice).perform e₁).2
      ((present c options line).perform e).2 :=
    present_tracks_from (send_dwells hc .showChoices)
      (fun _ => emit_dwells hc ⟨fun _ _ => rfl, rfl, rfl⟩) (display_dwells hc _ _ _) e
  exact trans_of _ hset hshow.1

theorem settle_lives (hmode : e.mode = .normal) (outcome : Outcome) :
    Lives seen k sure false e ((settle c outcome).perform e).2 := by
  cases outcome with
  | proceed intents =>
    have hsends : Tracks (Dwells seen k sure false) (intents.forM fun i => c.apply (some i)) :=
      .forM fun i _ => apply_dwells hc i
    exact (hsends.bind fun _ => completeBeat_tracks Dwells.easy).lives e
  | stay => exact refl_of _ e
  | hold kind payload => exact hold_lives hc hmode kind payload
  | ask options line => exact present_lives hc hmode options line
  | call args =>
    have hcall : Tracks (Dwells seen k sure false) (c.systemCall args) :=
      fun e => .of_silent (hc.systemCall args e)
    exact (hcall.bind fun _ => completeBeat_tracks Dwells.easy).lives e

theorem execute_lives (hmode : e.mode = .normal) (cmd : Script.Command) :
    Lives seen k sure false e ((execute c cmd).perform e).2 := by
  unfold execute
  cases Command.wellFormed cmd with
  | false => exact refl_of _ e
  | true =>
    refine (emit_dwells hc ⟨fun _ _ => rfl, rfl, rfl⟩).lives_bind fun _ e₁ h₁ => ?_
    refine (onStage_tracks Dwells.easy _).lives_bind fun outcome e₂ h₂ => ?_
    exact settle_lives hc (h₂.trans (h₁.trans hmode)) outcome

theorem playBeats_lives (turns budget : Nat) :
    Tracks (Lives seen k sure false) (playBeats c turns budget) :=
  playBeats_tracks_of (finish_lives hc) (fun e _ _ _ => (display_dwells hc _ _ _).lives e)
    (fun _ cmd hr _ => execute_lives hc (running_iff.1 hr).1 cmd) turns budget

/-! ## Calls -/

omit hc in
theorem release_dwells (seen : σ → List Notice) (k : Nat) :
    Tracks (Dwells seen k sure false) (modify (mapSession Session.release) : Play σ Unit) :=
  .modify fun e => Dwells.easy.stage e _

theorem leaveEffect_lives (hmode : e.mode = .effectRunning) (effect : Intent) :
    Lives seen k sure false e ((leaveEffect c effect).perform e).2 := by
  have hrest : ∀ e₁ : Engine σ, e₁.mode = .effectRunning → Lives seen k sure false e₁ ((do
      modify (mapSession Session.release)
      setMode c .normal
      completeBeat
      return true : Play σ Bool).perform e₁).2 := by
    intro e₁ h₁
    refine (release_dwells seen k).lives_bind fun _ e₂ h₂ => ?_
    have hmode₂ : e₂.mode = .effectRunning := h₂.trans h₁
    refine Tracks.bind_at (setMode_lives hc (.inr (by simp [hmode₂, Mode.turns])) (by simp)
      (by simp)) fun _ e₃ _ => ?_
    exact ((completeBeat_tracks Dwells.easy).bind fun _ => Tracks.pure).lives e₃
  unfold leaveEffect
  split
  · exact (send_dwells hc _ _).lives_bind fun _ e₁ h₁ => hrest e₁ (h₁.trans hmode)
  · exact hrest e hmode

theorem endEffect_lives (id : Value) :
    Tracks (Lives seen k sure false) (HostCall.endEffect c id) := by
  refine .get_bind fun e => ?_
  split
  · exact ((note_tracks Dwells.incidental _ _).bind fun _ => Tracks.pure).lives e
  · next effect heffect =>
    obtain ⟨-, htaken⟩ := Option.filter_eq_some_iff.1 heffect
    simp only [Bool.and_eq_true, beq_iff_eq] at htaken
    exact leaveEffect_lives hc (e := { e with effect := none }) htaken.1 effect

theorem pick_lives (hmode : e.mode = .awaitingChoice) (options : List ChoiceOption)
    (index : Value) : Lives seen k sure false e ((pick c options index).perform e).2 := by
  have hplace : Tracks (Dwells seen k sure false)
      (Action.ofExcept (placeOf index options.length) : Play σ Nat) := .ofExcept
  refine hplace.lives_bind fun place e₁ h₁ => ?_
  split
  · exact refl_of _ e₁
  · next option _ =>
    have hdrop : Tracks (Dwells seen k sure false)
        (modify fun e => { e with menu := none } : Play σ Unit) :=
      .modify fun e => Dwells.easy.menu e none
    refine hdrop.lives_bind fun _ e₂ h₂ => ?_
    refine (emit_dwells hc ⟨fun _ _ => rfl, rfl, rfl⟩).lives_bind fun _ e₃ h₃ => ?_
    refine (send_dwells hc _ _).lives_bind fun _ e₄ h₄ => ?_
    refine (follow_tracks Dwells.easy option).lives_bind fun _ e₅ h₅ => ?_
    refine (release_dwells seen k).lives_bind fun _ e₆ h₆ => ?_
    have hmode₆ : e₆.mode = .awaitingChoice :=
      h₆.trans (h₅.trans (h₄.trans (h₃.trans (h₂.trans (h₁.trans hmode)))))
    exact setMode_lives hc (.inr (by simp [hmode₆, Mode.turns])) (by simp) (by simp)

variable (hsure : sure → ∀ text e, ∃ e', (c.showError text).perform e = (.ok (), e'))
include hsure

theorem step_lives : Tracks (Lives seen k sure false) (step c) :=
  step_tracks (refl_of _) fun e _ _ =>
    orFail_tracks (fail_lives hc hsure) (playBeats_lives hc turnsPerStep commandBudget)
      { e with stepping := true }

theorem takeOption_lives (index : Value) :
    Tracks (Lives seen k sure false) (HostCall.takeOption c index) := by
  refine .get_bind fun e => ?_
  split
  · exact ((note_tracks Dwells.incidental _ _).bind fun _ => Tracks.pure).lives e
  · next options hoptions =>
    obtain ⟨-, hwaits⟩ := Option.filter_eq_some_iff.1 hoptions
    have hmode : e.mode = .awaitingChoice := by simpa using hwaits
    have hpick : Lives seen k sure false e
        ((Action.outcome (pick c options index)).perform e).2 := pick_lives hc hmode options index
    refine Tracks.bind_at hpick fun r e₁ _ => ?_
    rcases r with (error | m) | ⟨⟩
    · exact ((fail_lives hc hsure error).bind fun _ => Tracks.pure) e₁
    · exact refl_of _ e₁
    · exact refl_of _ e₁

theorem opening_lives {call : HostCall} (hcall : call.loads = false) :
    Tracks (Lives seen k sure false) (call.opening c) := by
  have hR : Incidental (Dwells seen k sure false) := Dwells.incidental
  have hplain : ∀ {β : Type} {act : Play σ β}, Tracks (Dwells seen k sure false) act →
      Tracks (Lives seen k sure false) (do discard act; return false) := fun hact =>
    (hact.discard.bind fun _ => .pure).lives
  have hpass : Tracks (Lives seen k sure false) (HostCall.passLine : Play σ Bool) :=
    (passLine_tracks Dwells.easy).lives
  have hreveal : Tracks (Lives seen k sure false) (sendReveal c) := (sendReveal_dwells hc).lives
  cases call with
  | resourcesReady =>
    refine .get_bind fun e => ?_
    dsimp only
    split
    · exact ((note_tracks hR _ _).bind fun _ => Tracks.pure).lives e
    · next hloading =>
      have hmode : e.mode = .loading := by simpa using hloading
      exact Tracks.bind_at (setMode_lives hc (.inr (by simp [hmode, Mode.turns])) (by simp)
        (by simp)) fun _ e₁ _ => refl_of _ e₁
  | step => exact .get_bind fun e => refl_of _ e
  | advance => exact hpass
  | requestAdvance =>
    refine .get_bind fun e => ?_
    cases e.showsLine with
    | false => exact refl_of _ e
    | true =>
      refine Tracks.bind (timing_tracks Dwells.easy _).lives (fun fired => ?_) e
      cases fired with
      | true => exact hpass
      | false => exact hreveal.bind fun _ => .pure
  | tick dt =>
    refine .get_bind fun e => ?_
    cases e.showsLine with
    | false => exact refl_of _ e
    | true =>
      refine Tracks.bind (timing_tracks Dwells.easy _).lives (fun fired => ?_) e
      refine hreveal.bind fun _ => ?_
      cases fired with
      | true => exact hpass
      | false => exact .pure
  | choose index => exact takeOption_lives hc hsure index
  | effectFinished id => exact endEffect_lives hc id
  | reportResourceError message =>
    exact Tracks.bind (.get_bind fun e => fail_lives hc hsure _ e) fun _ => .pure
  | setFlag name value => exact ((setFlag_tracks Dwells.easy _ _).bind fun _ => .pure).lives
  | saveToSlot slot => exact hplain (saveToSlot_tracks hR slot)
  | quicksave => exact hplain (withStore_tracks hR fun _ => saveTo_tracks hR _)
  | autosave => exact hplain (saveToSlot_tracks hR _)
  | loadFromSlot | quickload | restore => cases hcall

end

/-! ## Loading -/

section
variable {seen : σ → List Notice} {k : Nat} {sure : Bool} {c : Collaborators σ} {e : Engine σ}
  (hc : c.Reports seen k)
include hc

omit hc in
/-- The mode is changed, listeners are told, and the renderer prepares a scene. -/
theorem enterLoading_perform (c : Collaborators σ) (e : Engine σ) : ∃ script conversation scene,
    (enterLoading c).perform e = (c.prepare scene).perform ((emit c
      (.loaded script conversation)).perform ((setMode c .loading).perform e).2).2 := by
  unfold enterLoading
  rw [Action.perform_bind_ok (setMode_perform c .loading e)]
  exact ⟨_, _, _, rfl⟩

theorem enterLoading_mode (e : Engine σ) : ((enterLoading c).perform e).2.mode = .loading := by
  obtain ⟨script, conversation, scene, hrun⟩ := enterLoading_perform c e
  rw [hrun]
  exact (hc.prepare scene _).within.mode.trans
    ((emit_within hc.within _ _).mode.trans (setMode_within hc.within .loading e).mode)

theorem enterLoading_lives : Tracks (Lives seen k sure true) (enterLoading c) := by
  intro e
  obtain ⟨script, conversation, scene, hrun⟩ := enterLoading_perform c e
  rw [hrun]
  let e₁ : Engine σ := ((setMode c .loading).perform e).2
  let event : Event := .loaded script conversation
  intro hk
  have hloaded : ∀ {notices : List Notice} {e₀ : Engine σ}, Notes seen k notices e₀ e₁ →
      Hears k e₀.bus → Notes seen k (notices ++ [.told event]) e₀
        ((c.prepare scene).perform ((emit c event).perform e₁).2).2 := fun h hk =>
    (h.trans (emit_notes hc event e₁ (h.hears hk))).before (hc.prepare scene _)
  by_cases hmode : e.mode = .loading
  · have hsame : e₁ = e := congrArg Prod.snd (setMode_same hmode c)
    have hnotes : Notes seen k [] e e₁ := by
      rw [hsame]
      exact .refl e
    exact Lives.of_notes (hloaded hnotes) rfl rfl
      (by simp [Course.after_cons, Course.next, hmode, event])
      (by simp [Accounts, Notice.failure?, event]) hk
  · exact Lives.of_notes (fun hk => hloaded (setMode_notes hc hmode hk) hk) rfl rfl
      (by simp [Course.after_cons, Course.next, event])
      (by simp [Accounts, Notice.failure?, event]) hk

theorem restore_lives (t : Snapshot) : Tracks (Lives seen k sure true) (restore c t) := by
  have hstage : ∀ {α : Type} (act : Action Stage α),
      Tracks (Lives seen k sure true) (onStage act : Play σ α) := fun act =>
    (onStage_tracks Dwells.easy act).lives
  refine (hstage _).bind fun script => .bind .ofStory fun cursor => ?_
  refine .bind (.modify fun e => .of_same rfl rfl rfl (.inl rfl)) fun _ => ?_
  refine .bind (.modify fun e => .of_same rfl rfl rfl (.inl rfl)) fun _ => ?_
  refine .bind (.modify fun e => .of_same rfl rfl rfl (.inl rfl)) fun _ => ?_
  refine .bind (.modify fun e => .of_same rfl rfl rfl (.inl rfl)) fun _ => ?_
  exact (hstage _).bind fun _ => enterLoading_lives hc

theorem loadFrom_lives (read : Attempt Disk (Option Value)) :
    Tracks (Lives seen k sure true) (loadFrom c read) := by
  refine (onDisk_tracks Dwells.incidental _).lives.bind fun data => ?_
  dsimp only
  split
  · exact .pure
  · exact .bind .ofMishap fun t => (restore_lives hc t).bind fun _ => .pure

/-- However a call ends, the engine lives on. -/
theorem run_lives (hsure : sure → ∀ text e, ∃ e', (c.showError text).perform e = (.ok (), e'))
    (call : HostCall) : Tracks (Lives seen k sure call.loads) (call.run c) := by
  have hincidental : Incidental (Lives seen k sure true) :=
    ⟨fun e d => (Dwells.incidental.disk e d).1, fun e saves => (Dwells.incidental.saves e saves).1⟩
  cases hcall : call.loads with
  | false =>
    rw [HostCall.run_eq]
    refine (opening_lives hc hsure hcall).bind fun go => ?_
    cases go with
    | true => exact (step_lives hc hsure).discard
    | false => exact .pure
  | true =>
    cases call with
    | loadFromSlot slot =>
      exact (withStore_tracks hincidental fun _ => .bind .ofMishap fun _ =>
        loadFrom_lives hc _).discard
    | quickload => exact (withStore_tracks hincidental fun _ => loadFrom_lives hc _).discard
    | restore t => exact restore_lives hc t
    | _ => cases hcall

end

end Engine

end VisualNovel
