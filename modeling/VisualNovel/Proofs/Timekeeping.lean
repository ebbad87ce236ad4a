import VisualNovel.Proofs.Choosing
import VisualNovel.Proofs.Pacing
import VisualNovel.Proofs.Reachable

/-!
# Keeping time

In every run timed text is composed, and a line that waits for the player is on display: all of it
is visible unless it is being typed, and while cinematic text is on it has counted the ticks since
it was shown (`Engine.Ticked.timely`). This holds however the calls of the run have ended, and of
calls that take over a snapshot as well, as long as the collaborators do not call back.
-/

namespace VisualNovel

open Script

variable {σ : Type}

namespace Engine

/-! ## What is on display -/

/-- No line waits for the player, and timed text is composed. -/
structure Blank (e : Engine σ) : Prop where
  awaiting : e.awaiting = false
  composed : e.stage.timedText.Composed

/-- The line at the cursor is on display, and has counted this many frames. -/
structure OnDisplay (n : Nat) (e : Engine σ) : Prop where
  mode : e.mode = .normal
  displays : e.stage.timedText.Displays n
  line : ∃ d, e.cursor.current = some (.dialogue d) ∧ e.stage.timedText.fullText = d.text

/-- Timed text is composed, and a line that waits for the player has counted this many frames. -/
structure Timely (n : Nat) (e : Engine σ) : Prop where
  composed : e.stage.timedText.Composed
  line : e.awaiting → e.OnDisplay n

variable {e e' : Engine σ} {n : Nat}

theorem Blank.timely (h : e.Blank) : e.Timely n := by
  refine ⟨h.composed, fun hawaiting => ?_⟩
  rw [h.awaiting] at hawaiting
  cases hawaiting

theorem Timely.blank (h : e.Timely n) (hawaiting : e.awaiting = false) : e.Blank :=
  ⟨hawaiting, h.composed⟩

/-- In any mode but the normal one there is no line. -/
theorem Timely.blank_of_mode (h : e.Timely n) (hmode : e.mode ≠ .normal) : e.Blank := by
  refine h.blank ?_
  cases hawaiting : e.awaiting with
  | false => rfl
  | true => exact absurd (h.line hawaiting).mode hmode

/-- A line that waits for the player can be advanced past. -/
theorem Timely.showsLine (h : e.Timely n) : e.showsLine = e.awaiting := by
  cases hawaiting : e.awaiting with
  | false => simp [Engine.showsLine, hawaiting]
  | true => simp [Engine.showsLine, hawaiting, (h.line hawaiting).mode]

theorem Timely.onDisplay (h : e.Timely n) (hline : e.showsLine) : e.OnDisplay n := by
  rw [h.showsLine] at hline
  exact h.line hline

/-- If there was no line, there is none. -/
def KeepsBlank (e e' : Engine σ) : Prop :=
  e.Blank → e'.Blank

/-- If there was no line, there is none, and what is on display stays so. -/
structure KeepsTime (e e' : Engine σ) : Prop where
  blank : KeepsBlank e e'
  timely : ∀ n, e.Timely n → e'.Timely n

/-- If a line has counted no frame, or there is none, so it is afterwards. -/
def KeepsFresh (e e' : Engine σ) : Prop :=
  e.Timely 0 → e'.Timely 0

namespace KeepsBlank

instance : IsPreorder (Engine σ) KeepsBlank where
  refl _ := id
  trans _ _ _ h h' := h' ∘ h

theorem of_same (htimed : e'.stage.timedText = e.stage.timedText)
    (hawaiting : e'.awaiting = e.awaiting) : KeepsBlank e e' := by
  intro h
  refine ⟨hawaiting.trans h.awaiting, ?_⟩
  rw [htimed]
  exact h.composed

theorem of_within (h : Within e e') : KeepsBlank e e' := by
  obtain ⟨x, rfl⟩ := h
  exact of_same rfl rfl

theorem unheard : Unheard (KeepsBlank : Engine σ → Engine σ → Prop) where
  noted _ _ _ := of_same rfl rfl
  bus _ _ := of_same rfl rfl

end KeepsBlank

namespace KeepsTime

instance : IsPreorder (Engine σ) KeepsTime where
  refl _ := ⟨id, fun _ h => h⟩
  trans _ _ _ h h' := ⟨h'.blank ∘ h.blank, fun n => h'.timely n ∘ h.timely n⟩

theorem of_same (htimed : e'.stage.timedText = e.stage.timedText)
    (hawaiting : e'.awaiting = e.awaiting) (hmode : e'.mode = e.mode)
    (hcursor : e'.cursor = e.cursor) : KeepsTime e e' := by
  refine ⟨.of_same htimed hawaiting, fun n h => ⟨?_, fun hline => ?_⟩⟩
  · rw [htimed]
    exact h.composed
  · rw [hawaiting] at hline
    obtain ⟨hnormal, hdisplays, hdialogue⟩ := h.line hline
    rw [← hcursor, ← htimed] at hdialogue
    rw [← htimed] at hdisplays
    exact ⟨hmode.trans hnormal, hdisplays, hdialogue⟩

theorem of_within (h : Within e e') : KeepsTime e e' := by
  obtain ⟨x, rfl⟩ := h
  exact of_same rfl rfl rfl rfl

theorem unconcerned : Unconcerned (KeepsTime : Engine σ → Engine σ → Prop) where
  disk _ _ := of_same rfl rfl rfl rfl
  saves _ _ := of_same rfl rfl rfl rfl
  bus _ _ := of_same rfl rfl rfl rfl

theorem fresh (h : KeepsTime e e') : KeepsFresh e e' :=
  h.timely 0

/-- What takes every line away keeps time. -/
theorem of_blank (h : ∀ n, e.Timely n → e'.Blank) : KeepsTime e e' :=
  ⟨fun hblank => h 0 hblank.timely, fun n htimely => (h n htimely).timely⟩

end KeepsTime

instance : IsPreorder (Engine σ) KeepsFresh where
  refl _ := id
  trans _ _ _ h h' := h' ∘ h

/-! ## Without a line -/

section
variable {c : Collaborators σ} (hc : c.Heeds Within)
include hc

theorem heeds_keepsBlank : c.Heeds KeepsBlank :=
  hc.mono KeepsBlank.of_within

theorem heeds_keepsTime : c.Heeds KeepsTime :=
  hc.mono KeepsTime.of_within

theorem emit_keepsBlank (event : Event) : Tracks KeepsBlank (emit c event) :=
  emit_tracks KeepsBlank.unheard (heeds_keepsBlank hc).deliver event

theorem send_keepsBlank (kind : IntentKind) (payload : Table String Value) :
    Tracks KeepsBlank (send c kind payload) :=
  (heeds_keepsBlank hc).apply _

theorem setMode_keepsBlank (mode : Mode) : Tracks KeepsBlank (setMode c mode) := by
  intro e
  obtain ⟨x, hx⟩ := setMode_within hc.deliver mode e
  rw [hx]
  exact .of_same rfl rfl

theorem enterLoading_keepsBlank : Tracks KeepsBlank (enterLoading c) :=
  (setMode_keepsBlank hc _).bind fun _ => .get_bind fun e =>
    (emit_keepsBlank hc _).bind (fun _ => .get_bind fun e => (heeds_keepsBlank hc).prepare _ e) e

omit hc in
theorem onStage_keepsBlank {α : Type} {act : Action Stage α} (h : Tracks Stage.KeepsComposed act) :
    Tracks (KeepsBlank : Engine σ → Engine σ → Prop) (onStage act) :=
  .onPart_of h fun _ _ hkeeps hblank => ⟨hblank.awaiting, hkeeps hblank.composed⟩

omit hc in
theorem completeBeat_keepsBlank : Tracks KeepsBlank (completeBeat : Play σ Unit) :=
  .modify fun _ => .of_same rfl rfl

/-- Text under which a menu is shown is not displayed to be advanced past. -/
theorem display_keepsBlank (text speaker : Value) :
    Tracks KeepsBlank (display c text speaker false) :=
  display_tracks_of (send_keepsBlank hc _) (fun _ => emit_keepsBlank hc _)
    (fun _ _ => .of_same rfl rfl) (fun _ => .of_same rfl rfl) (fun hwait => by cases hwait) speaker

theorem present_keepsBlank (options : List ChoiceOption) (line : Value) :
    Tracks KeepsBlank (present c options line) := by
  intro e
  let e₁ : Engine σ := { e.mapSession Session.capture with menu := some options }
  have hoffered : KeepsBlank e e₁ := .of_same rfl rfl
  refine trans_of KeepsBlank hoffered ?_
  refine trans_of KeepsBlank (setMode_keepsBlank hc .awaitingChoice e₁) ?_
  exact present_tracks_from (send_keepsBlank hc _) (fun _ => emit_keepsBlank hc _)
    (display_keepsBlank hc line .null) e

theorem settle_keepsBlank (o : Outcome) : Tracks KeepsBlank (settle c o) := by
  have hc' := heeds_keepsBlank hc
  cases o with
  | proceed intents =>
    have hsends : Tracks KeepsBlank (intents.forM fun i => c.apply (some i)) :=
      .forM fun i _ => hc'.apply (some i)
    exact hsends.bind fun _ => completeBeat_keepsBlank
  | stay => exact .pure
  | hold kind payload =>
    refine .bind (.modify fun e => .of_same rfl rfl) fun _ => ?_
    exact (setMode_keepsBlank hc _).bind fun _ => .get_bind fun e => hc'.apply _ e
  | ask options line => exact present_keepsBlank hc options line
  | call args => exact (hc'.systemCall args).bind fun _ => completeBeat_keepsBlank

theorem execute_keepsBlank (cmd : Script.Command) : Tracks KeepsBlank (execute c cmd) := by
  unfold execute
  cases Command.wellFormed cmd with
  | false => exact refl_of KeepsBlank
  | true =>
    refine (emit_keepsBlank hc _).bind fun _ => Tracks.bind ?_ fun o => settle_keepsBlank hc o
    exact onStage_keepsBlank (Command.perform_tracks Stage.KeepsComposed.offstage cmd)

theorem leaveEffect_keepsBlank (effect : Intent) : Tracks KeepsBlank (leaveEffect c effect) := by
  have hrest : Tracks KeepsBlank (do
      modify (mapSession Session.release)
      setMode c .normal
      completeBeat
      return true) :=
    .bind (.modify fun e => .of_same rfl rfl) fun _ => (setMode_keepsBlank hc _).bind fun _ =>
      completeBeat_keepsBlank.bind fun _ => .pure
  unfold leaveEffect
  split
  · exact Tracks.bind ((heeds_keepsBlank hc).apply _) fun _ => hrest
  · exact hrest

theorem pick_keepsBlank (options : List ChoiceOption) (index : Value) :
    Tracks KeepsBlank (pick c options index) := by
  have hfollow : ∀ option : ChoiceOption, Tracks KeepsBlank (follow option : Play σ Unit) := by
    intro option
    unfold follow
    split
    · exact .bind .ofMishap fun _ => .bind (.modify fun e => .of_same rfl rfl) fun _ =>
        completeBeat_keepsBlank
    · exact onStage_keepsBlank (Stage.KeepsComposed.offstage.switchConversation _)
  refine .bind .ofExcept fun place => ?_
  split
  · exact .pure
  · refine .bind (.modify fun e => .of_same rfl rfl) fun _ => ?_
    refine (emit_keepsBlank hc _).bind fun _ => ?_
    refine Tracks.bind ((heeds_keepsBlank hc).apply _) fun _ => (hfollow _).bind fun _ => ?_
    exact .bind (.modify fun e => .of_same rfl rfl) fun _ => setMode_keepsBlank hc _

theorem endEffect_keepsBlank (id : Value) : Tracks KeepsBlank (HostCall.endEffect c id) := by
  refine .get_bind fun e => ?_
  split
  · exact .of_same rfl rfl
  · next effect _ =>
    exact Tracks.bind (.modify fun e => .of_same rfl rfl)
      (fun _ => leaveEffect_keepsBlank hc effect) e

/-! ## The end of a session -/

/-- The end of a session takes every line away. -/
theorem finish_keepsTime : Tracks KeepsTime (finish c) := by
  refine fun e => .of_blank fun n h => ?_
  unfold finish
  rw [Action.perform_get_bind]
  cases hfinished : e.finished with
  | true =>
    have hended : e.mode = .ended := by simpa [finished] using hfinished
    exact h.blank_of_mode (by simp [hended])
  | false =>
    simp only [Bool.false_eq_true, if_false]
    rw [Action.perform_modify_bind, Action.perform_modify_bind]
    refine Tracks.bind (R := KeepsBlank) (setMode_keepsBlank hc _) (fun _ => ?_) _ ⟨rfl, ?_⟩
    · refine .get_bind fun e => ?_
      exact (emit_keepsBlank hc _).bind (fun _ => (heeds_keepsBlank hc).finished) e
    · exact ⟨h.composed.exclusive.of_same rfl rfl, h.composed.told⟩

theorem fail_keepsTime (error : StoryError) : Tracks KeepsTime (fail c error) :=
  fail_tracks_of KeepsTime.unconcerned.unheard (heeds_keepsTime hc).deliver
    (heeds_keepsTime hc).showError (fun _ _ => .of_same rfl rfl rfl rfl) (finish_keepsTime hc) error

theorem takeOption_keepsBlank (index : Value) :
    Tracks KeepsBlank (HostCall.takeOption c index) :=
  takeOption_tracks_of (fun _ _ => .modify fun _ => .of_same rfl rfl)
    (fun options => pick_keepsBlank hc options index)
    fun error e => (fail_keepsTime hc error e).blank

/-! ## Restoring -/

/-- A snapshot that is taken over takes every line away. One that is refused leaves it. -/
theorem restore_keepsTime (t : Snapshot) : Tracks KeepsTime (restore c t) := by
  have hscript : Tracks KeepsTime (onStage (scriptOf t) : Play σ Script) := by
    refine (Tracks.iff_ends.2 (scriptOf_ends t)).onPart_of ?_
    rintro e _ ⟨library, rfl⟩
    exact .of_same rfl rfl rfl rfl
  refine hscript.bind fun script => .bind .ofStory fun cursor => fun e => .of_blank fun n h => ?_
  rw [Action.perform_modify_bind, Action.perform_modify_bind, Action.perform_modify_bind]
  have hretime := onStage_keepsBlank (σ := σ) Stage.KeepsComposed.offstage.retimeFromSession
  refine hretime.bind (fun _ => enterLoading_keepsBlank hc) _ ⟨rfl, ?_⟩
  exact ⟨h.composed.exclusive.of_same rfl rfl, h.composed.told⟩

theorem loadFrom_keepsTime (read : Attempt Disk (Option Value)) :
    Tracks KeepsTime (loadFrom c read) := by
  refine (onDisk_tracks KeepsTime.unconcerned.toIncidental _).bind fun data => ?_
  dsimp only
  split
  · exact .pure
  · exact .bind .ofMishap fun t => (restore_keepsTime hc t).bind fun _ => .pure

/-! ## Playing -/

omit hc in
/-- A line that has just appeared has counted no frame. -/
theorem appear_timely (h : e.Blank) (hmode : e.mode = .normal) {d : Dialogue}
    (hline : e.cursor.current = some (.dialogue d)) :
    ((display.appear d.text : Play σ Value).perform e).2.Timely 0 := by
  refine Ends.state_iff.1 (Ends.bind_iff.2 (Ends.attempt_iff.2 ?_))
  refine (TimedText.beginLine_shows d.text h.composed).mono (fun _ t ht => ?_) fun _ t ht => ?_
  · refine Ends.bind_iff.2 (Ends.modify_iff.2 (Ends.bind_iff.2 (Ends.get_iff.2 ?_)))
    have hshows : ({ timedTextPlace.set t e with awaiting := true } : Engine σ).Timely 0 :=
      ⟨ht.composed, fun _ => ⟨hmode, ht.displays, d, hline, ht.fullText⟩⟩
    exact Ends.ofMishap_iff.2 ⟨fun _ _ => hshows, fun _ _ => hshows⟩
  · exact Blank.timely ⟨h.awaiting, ht⟩

theorem display_timely (h : e.Blank) (hmode : e.mode = .normal) {d : Dialogue}
    (hline : e.cursor.current = some (.dialogue d)) (speaker : Value) :
    ((display c d.text speaker true).perform e).2.Timely 0 := by
  refine Ends.state_iff.1 (Ends.bind_iff.2 (Ends.get_iff.2 ?_))
  refine Ends.bind_iff.2 (Ends.modify_iff.2 (Ends.bind_iff.2 (Ends.modify_iff.2 ?_)))
  refine Ends.bind_iff.2 ((Tracks.iff_ends.1 (emit_within hc.deliver _) _).mono ?_ ?_)
  · rintro _ _ ⟨x, rfl⟩
    refine Ends.bind_iff.2 (.mono (Ends.state_iff.2 ?_) (fun visible e₂ h₂ => ?_) fun _ _ h₂ => h₂)
    · apply appear_timely
      · exact ⟨h.awaiting, h.composed⟩
      · exact hmode
      · exact hline
    · exact Ends.state_iff.2 (((heeds_keepsTime hc).apply _ e₂).timely 0 h₂)
  · rintro _ _ ⟨x, rfl⟩
    exact Blank.timely ⟨h.awaiting, h.composed⟩

theorem display_fresh (hrunning : e.running) {d : Dialogue}
    (hline : e.cursor.current = some (.dialogue d)) :
    KeepsFresh e ((display c d.text d.speaker true).perform e).2 := by
  intro h
  obtain ⟨hmode, hawaiting⟩ := running_iff.1 hrunning
  exact display_timely hc (h.blank hawaiting) hmode hline _

theorem execute_fresh (hrunning : e.running) (cmd : Script.Command) :
    KeepsFresh e ((execute c cmd).perform e).2 := by
  intro h
  obtain ⟨-, hawaiting⟩ := running_iff.1 hrunning
  exact (execute_keepsBlank hc cmd e (h.blank hawaiting)).timely

/-- A beat displays a line only when it has just appeared. -/
theorem playBeat_fresh (hrunning : e.running) : KeepsFresh e ((playBeat c).perform e).2 := by
  unfold playBeat
  rw [Action.perform_get_bind]
  split
  · exact (finish_keepsTime hc e).fresh
  · next d hline => exact display_fresh hc hrunning hline
  · exact execute_fresh hc hrunning _

theorem playBeats_fresh (turns budget : Nat) : Tracks KeepsFresh (playBeats c turns budget) :=
  playBeats_tracks_of (fun e => (finish_keepsTime hc e).fresh)
    (fun _ _ hrunning hline => display_fresh hc hrunning hline)
    (fun _ cmd hrunning _ => execute_fresh hc hrunning cmd) turns budget

/-- While beats are played, a line that is displayed has just appeared. -/
theorem plays_fresh {e₀ : Engine σ} (h : Plays c e₀ e) : KeepsFresh e₀ e := by
  induction h with
  | refl => exact refl_of KeepsFresh _
  | beat _ hrunning hbeat ih =>
    have hplayed := playBeat_fresh hc hrunning
    rw [hbeat] at hplayed
    exact trans_of KeepsFresh ih hplayed

theorem step_fresh : Tracks KeepsFresh (step c) := by
  refine step_tracks (refl_of KeepsFresh) fun e _ _ => ?_
  have hplayed := orFail_tracks (fun error e => (fail_keepsTime hc error e).fresh)
    (playBeats_fresh hc turnsPerStep commandBudget)
  have hbegun : KeepsFresh e { e with stepping := true } :=
    KeepsTime.fresh (.of_same rfl rfl rfl rfl)
  refine trans_of KeepsFresh hbegun (trans_of KeepsFresh (hplayed _) ?_)
  exact KeepsTime.fresh (.of_same rfl rfl rfl rfl)

/-! ## What a call does before it plays on -/

/-- Timed text is in order, but for a change of what is visible that is yet to be told. -/
structure Nearly (n : Nat) (e : Engine σ) : Prop where
  exclusive : e.stage.timedText.Exclusive
  line : e.awaiting → e.OnDisplay n

theorem sendReveal_timely (h : e.Nearly n) : ((sendReveal c).perform e).2.Timely n := by
  refine Ends.state_iff.1 (Ends.bind_iff.2 (Ends.get_iff.2 ?_))
  dsimp only
  split
  · have htold :
        (e.mapStage (Stage.mapTimedText fun t => { t with changed := false })).Timely n := by
      refine ⟨⟨h.exclusive.of_same rfl rfl, rfl⟩, fun hawaiting => ?_⟩
      obtain ⟨hmode, hdisplays, hline⟩ := h.line hawaiting
      exact ⟨hmode, hdisplays.of_same rfl rfl rfl rfl rfl rfl, hline⟩
    refine Ends.bind_iff.2 (Ends.modify_iff.2 (Ends.bind_iff.2 (Ends.ofMishap_iff.2 ⟨?_, ?_⟩)))
    · intro visible _
      refine Ends.bind_iff.2 (Ends.ofMishap_iff.2 ⟨fun whole _ => ?_, fun _ _ => htold⟩)
      exact Ends.state_iff.2 (((heeds_keepsTime hc).apply _ _).timely n htold)
    · exact fun _ _ => htold
  · next hsilent => exact ⟨⟨h.exclusive, by simpa using hsilent⟩, h.line⟩

/-- After what a call does before it plays on: nothing is displayed if the story goes on, and a line
that waits has counted so many frames otherwise. -/
def Opens (n : Nat) : Bool → Engine σ → Prop
  | true, e => e.Blank
  | false, e => e.Timely n

omit hc in
theorem Blank.opens (h : e.Blank) (go : Bool) : Opens n go e := by
  cases go with
  | true => exact h
  | false => exact h.timely

omit hc in
theorem opens_of_blank {act : Play σ Bool} (hact : Tracks KeepsBlank act) (h : e.Blank) :
    Ends act e (Opens n) fun _ e' => e'.Timely n :=
  .mono (Ends.state_iff.2 (hact e h)) (fun go _ h' => h'.opens go) fun _ _ h' => h'.timely

omit hc in
theorem opens_of_timely {act : Play σ Unit} (hact : Tracks KeepsTime act) (h : e.Timely n) :
    Ends (do act; return false) e (Opens n) fun _ e' => e'.Timely n :=
  Ends.bind_iff.2 (.mono (Ends.state_iff.2 ((hact e).timely n h)) (fun _ _ h' => h')
    fun _ _ h' => h')

omit hc in
theorem note_opens (h : e.Timely n) (level : Level) (text : String) :
    Ends (do note level text; return false) e (Opens n) fun _ e' => e'.Timely n :=
  opens_of_timely (.modify fun _ => .of_same rfl rfl rfl rfl) h

omit hc in
/-- Nothing is told of a change that there is not. -/
theorem sendReveal_silent (h : e.stage.timedText.changed = false) :
    Ends (sendReveal c) e (fun _ e' => e' = e) fun _ _ => False := by
  refine Ends.bind_iff.2 (Ends.get_iff.2 ?_)
  dsimp only
  rw [h]
  exact rfl

omit hc in
/-- When a line gives way, nothing is displayed. -/
theorem passLine_opens (h : e.stage.timedText.Composed) (hline : e.showsLine) :
    Ends (HostCall.passLine : Play σ Bool) e (Opens n) fun _ e' => e'.Timely n := by
  refine Ends.bind_iff.2 (Ends.get_iff.2 ?_)
  rw [hline]
  exact ⟨rfl, h.exclusive.of_same rfl rfl, h.told⟩

end

end Engine

namespace HostCall

open Engine

/-- How many frames a call lets pass. -/
def frames : HostCall → Nat
  | tick _ => 1
  | _ => 0

section
variable {c : Collaborators σ} (hc : c.Heeds Within) {e : Engine σ} {n : Nat}
include hc

theorem requestAdvance_opens (h : e.Timely n) :
    Ends (requestAdvance.opening c) e (Opens n) fun _ e' => e'.Timely n := by
  refine Ends.bind_iff.2 (Ends.get_iff.2 ?_)
  cases hline : e.showsLine with
  | false => exact h
  | true =>
    obtain ⟨hmode, hdisplays, hcurrent⟩ := h.onDisplay hline
    have hreveal : ∀ {e' : Engine σ}, e'.Nearly n → Ends (do
        sendReveal c
        return false) e' (Opens n) fun _ e' => e'.Timely n := fun h' =>
      Ends.bind_iff.2 (.mono (Ends.state_iff.2 (sendReveal_timely hc h')) (fun _ _ h => h)
        fun _ _ h => h)
    refine Ends.bind_iff.2 (Ends.attempt_iff.2 ?_)
    refine (TimedText.input_heard h.composed hdisplays).mono ?_ ?_
    · intro go t hheard
      cases hheard with
      | ignored => exact hreveal ⟨h.composed.exclusive, h.line⟩
      | passes => exact passLine_opens h.composed hline
      | @reveals size _ _ _ hsize =>
        refine hreveal ⟨h.composed.exclusive.of_same rfl rfl, fun _ => ⟨hmode, ?_, hcurrent⟩⟩
        exact hdisplays.revealed hsize
    · rintro m t ⟨ht, -⟩
      rw [ht]
      exact h

theorem tick_opens (h : e.Timely n) (dt : Value) :
    Ends ((tick dt).opening c) e (Opens (n + 1)) fun _ e' => e'.Timely (n + 1) := by
  refine Ends.bind_iff.2 (Ends.get_iff.2 ?_)
  cases hline : e.showsLine with
  | false =>
    rw [h.showsLine] at hline
    exact (h.blank hline).timely
  | true =>
    obtain ⟨hmode, hdisplays, d, hcurrent, htext⟩ := h.onDisplay hline
    have hticked := (TimedText.tick_ticks h.composed hdisplays dt).and
      (TimedText.tick_keepsText dt e.stage.timedText)
    refine Ends.bind_iff.2 (Ends.attempt_iff.2 (hticked.mono ?_ ?_))
    · rintro fired t ⟨ht, hsame⟩
      cases fired with
      | false =>
        have hnearly : (timedTextPlace.set t e).Nearly (n + 1) :=
          ⟨ht.exclusive, fun _ => ⟨hmode, ht.displays rfl, d, hcurrent, hsame.trans htext⟩⟩
        exact Ends.bind_iff.2 (.mono (Ends.state_iff.2 (sendReveal_timely hc hnearly))
          (fun _ _ h => h) fun _ _ h => h)
      | true =>
        have hcomposed : (timedTextPlace.set t e).stage.timedText.Composed :=
          ⟨ht.exclusive, ht.told rfl⟩
        refine Ends.bind_iff.2 ((sendReveal_silent hcomposed.told).mono (fun _ e₁ h₁ => ?_) ?_)
        · rw [h₁]
          exact passLine_opens hcomposed hline
        · exact fun _ _ h => h.elim
    · rintro m t ⟨⟨hcomposed, hdisplays⟩, hsame⟩
      exact ⟨hcomposed, fun _ => ⟨hmode, hdisplays, d, hcurrent, hsame.trans htext⟩⟩

/-- An option is taken in a mode in which there is no line. -/
theorem takeOption_opens (h : e.Timely n) (index : Value) :
    Ends (takeOption c index) e (Opens n) fun _ e' => e'.Timely n := by
  by_cases hmode : e.mode = .normal
  · have hnone : (e.menu.filter fun _ => e.mode == .awaitingChoice) = none := by
      simp [hmode]
    refine Ends.bind_iff.2 (Ends.get_iff.2 ?_)
    rw [hnone]
    exact note_opens h _ _
  · exact opens_of_blank (takeOption_keepsBlank hc index) (h.blank_of_mode hmode)

/-- An effect ends in a mode in which there is no line. -/
theorem endEffect_opens (h : e.Timely n) (id : Value) :
    Ends (endEffect c id) e (Opens n) fun _ e' => e'.Timely n := by
  by_cases hmode : e.mode = .normal
  · have hnone : (e.effect.filter fun i => e.mode == .effectRunning && isEffect id i) = none := by
      simp [hmode]
    refine Ends.bind_iff.2 (Ends.get_iff.2 ?_)
    rw [hnone]
    exact note_opens h _ _
  · exact opens_of_blank (endEffect_keepsBlank hc id) (h.blank_of_mode hmode)

theorem resourcesReady_opens (h : e.Timely n) :
    Ends (resourcesReady.opening c) e (Opens n) fun _ e' => e'.Timely n := by
  by_cases hmode : e.mode = .loading
  · have hready : Tracks KeepsBlank (do setMode c .normal; return true : Play σ Bool) :=
      (setMode_keepsBlank hc _).bind fun _ => .pure
    refine Ends.bind_iff.2 (Ends.get_iff.2 ?_)
    dsimp only
    rw [hmode]
    exact opens_of_blank hready (h.blank_of_mode (by simp [hmode]))
  · refine Ends.bind_iff.2 (Ends.get_iff.2 ?_)
    have hloads : (e.mode != .loading) = true := by simpa using hmode
    dsimp only
    rw [hloads]
    exact note_opens h _ _

/-- **What a call does before it plays on leaves no line displayed if the story goes on.** Otherwise
a line that waits has counted the frames that the call lets pass. -/
theorem opening_opens (h : e.Timely n) (call : HostCall) :
    Ends (call.opening c) e (Opens (n + call.frames)) fun _ e' => e'.Timely (n + call.frames) := by
  have hplain : ∀ {α : Type} {act : Play σ α}, Tracks KeepsTime act →
      Ends (do discard act; return false) e (Opens n) fun _ e' => e'.Timely n :=
    fun hact => opens_of_timely hact.discard h
  have hsaves : ∀ {call : HostCall}, call.saves →
      Ends (do call.run c; return false) e (Opens n) fun _ e' => e'.Timely n := fun hcall =>
    opens_of_timely (saves_tracks KeepsTime.unconcerned.toIncidental c hcall) h
  cases call with
  | requestAdvance => exact requestAdvance_opens hc h
  | tick dt => exact tick_opens hc h dt
  | choose index => exact takeOption_opens hc h index
  | effectFinished id => exact endEffect_opens hc h id
  | resourcesReady => exact resourcesReady_opens hc h
  | step =>
    refine Ends.bind_iff.2 (Ends.get_iff.2 ?_)
    cases hrunning : e.running with
    | true => exact h.blank (running_iff.1 hrunning).2
    | false => exact h
  | advance =>
    cases hline : e.showsLine with
    | true => exact passLine_opens h.composed hline
    | false =>
      refine Ends.bind_iff.2 (Ends.get_iff.2 ?_)
      rw [hline]
      exact h
  | reportResourceError message =>
    exact opens_of_timely (.get_bind fun e => fail_keepsTime hc _ e) h
  | setFlag name value =>
    exact opens_of_timely (.bind .ofMishap fun _ => .bind .ofMishap fun _ =>
      .modify fun e => .of_same rfl rfl rfl rfl) h
  | saveToSlot slot => exact hsaves rfl
  | quicksave => exact hsaves rfl
  | autosave => exact hsaves rfl
  | loadFromSlot slot =>
    exact hplain (withStore_tracks KeepsTime.unconcerned.toIncidental fun _ =>
      .bind .ofMishap fun _ => loadFrom_keepsTime hc _)
  | quickload =>
    exact hplain (withStore_tracks KeepsTime.unconcerned.toIncidental fun _ =>
      loadFrom_keepsTime hc _)
  | restore t => exact opens_of_timely (restore_keepsTime hc t) h

/-- However a call ends, a line that waits was shown in the call, or it has counted the frames that
the call lets pass. -/
theorem run_timely (h : e.Timely n) (call : HostCall) :
    (call.PlaysOn c e → ((call.run c).perform e).2.Timely 0) ∧
      (¬call.PlaysOn c e → ((call.run c).perform e).2.Timely (n + call.frames)) := by
  obtain ⟨hok, herror⟩ := Ends.iff_perform.1 (opening_opens hc h call)
  rw [run_eq]
  unfold PlaysOn
  rcases hopening : (call.opening c).perform e with ⟨f | go, e₁⟩
  · rw [Action.perform_bind_error hopening]
    refine ⟨fun hplays => ?_, fun _ => herror f e₁ hopening⟩
    cases hplays
  · rw [Action.perform_bind_ok hopening]
    have hopens := hok go e₁ hopening
    cases go with
    | true =>
      have hblank : e₁.Blank := hopens
      have hplayed : KeepsFresh e₁ ((playOn c true).perform e₁).2 := (step_fresh hc).discard e₁
      exact ⟨fun _ => hplayed hblank.timely, fun hwaits => absurd rfl hwaits⟩
    | false =>
      refine ⟨fun hplays => ?_, fun _ => hopens⟩
      cases hplays

end

end HostCall

/-! ## Runs -/

namespace Engine

/-- The engine comes from a setup by calls of the host, however they have ended, and so many frames
have passed since the story was last played on. In between, the surroundings may have changed in any
way. -/
inductive Ticked (c : Collaborators σ) (setup : Setup) (outside : σ) : Nat → Engine σ → Prop where
  | start {e : Engine σ} : ofSetup setup outside = .ok e →
    Ticked c setup outside 0 ((enterLoading c).perform e).2
  | plays {n : Nat} {e : Engine σ} (call : HostCall) : Ticked c setup outside n e →
    call.PlaysOn c e → Ticked c setup outside 0 ((call.run c).perform e).2
  | waits {n : Nat} {e : Engine σ} (call : HostCall) : Ticked c setup outside n e →
    ¬call.PlaysOn c e → Ticked c setup outside (n + call.frames) ((call.run c).perform e).2
  | around {n : Nat} {e : Engine σ} (x : Surroundings σ) : Ticked c setup outside n e →
    Ticked c setup outside n (e.within x)

variable {c : Collaborators σ} {setup : Setup} {outside : σ} {e : Engine σ} {n : Nat}

theorem ofSetup_blank (h : ofSetup setup outside = .ok e) : e.Blank := by
  obtain ⟨s, hs, h⟩ := bind_eq_ok.1 h
  cases h
  obtain ⟨cursor, overrides, t₀, -, -, -, ht₀, hretime, -⟩ := initialStage_ok hs
  obtain ⟨rate, -, ht₀⟩ := bind_eq_ok.1 ht₀
  have hkeeps := Stage.KeepsComposed.offstage.retimeFromSession
    (unstarted setup.config cursor overrides t₀) (TimedText.new_composed ht₀)
  rw [hretime] at hkeeps
  exact ⟨rfl, hkeeps⟩

/-- **At every moment of a run, a line that waits for the player has counted the frames since it was
shown**, snapshots that are taken over included. -/
theorem Ticked.timely (hc : c.Heeds Within) (h : Ticked c setup outside n e) : e.Timely n := by
  induction h with
  | start hsetup => exact (enterLoading_keepsBlank hc _ (ofSetup_blank hsetup)).timely
  | plays call _ hplays ih => exact (call.run_timely hc ih).1 hplays
  | waits call _ hwaits ih => exact (call.run_timely hc ih).2 hwaits
  | around x _ ih => exact (KeepsTime.of_within ⟨x, rfl⟩).timely _ ih

/-- A row of calls goes on with the run. -/
theorem Ticked.runAll (h : Ticked c setup outside n e) (calls : List HostCall) :
    ∃ m, Ticked c setup outside m (HostCall.runAll c calls e) := by
  induction calls generalizing n e with
  | nil => exact ⟨n, h⟩
  | cons call calls ih =>
    by_cases hplays : call.PlaysOn c e
    · exact ih (.plays call h hplays)
    · exact ih (.waits call h hplays)

/-- The engine at a moment of a run: between two calls, or between two of the beats that a call
plays. -/
inductive Occurs (c : Collaborators σ) (setup : Setup) (outside : σ) (e : Engine σ) : Prop where
  | rests {n : Nat} : Ticked c setup outside n e → Occurs c setup outside e
  | plays {n : Nat} {e₀ e₁ : Engine σ} (call : HostCall) : Ticked c setup outside n e₀ →
    (call.opening c).perform e₀ = (.ok true, e₁) → Plays c { e₁ with stepping := true } e →
    Occurs c setup outside e

/-- **Timed text is composed at every moment of a run.** -/
theorem Occurs.composed (hc : c.Heeds Within) (h : Occurs c setup outside e) :
    e.stage.timedText.Composed := by
  cases h with
  | rests h => exact (h.timely hc).composed
  | @plays n e₀ e₁ call h hopening hplays =>
    obtain ⟨hok, -⟩ := Ends.iff_perform.1 (HostCall.opening_opens hc (h.timely hc) call)
    have hblank : e₁.Blank := hok _ _ hopening
    have hbegun : ({ e₁ with stepping := true } : Engine σ).Blank :=
      ⟨hblank.awaiting, hblank.composed⟩
    exact (plays_fresh hc hplays hbegun.timely).composed

end Engine

end VisualNovel
