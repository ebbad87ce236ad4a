import VisualNovel.Proofs.Mirrors
import VisualNovel.Proofs.Protocol

/-!
# What a window has to do for its engine

A window is told by its engine what it has to do: to report that a scene is ready, to report that an
effect is done, and to let the player choose. Carrying out an intent changes these tasks as the
intent says and preparing a scene puts them back, if they end without a mishap
(`Collaborators.Tasked`). Drawing takes note of where the options of a menu stand.
-/

namespace VisualNovel

/-- What a window has to do for its engine. -/
structure Tasks where
  pendingReady : Bool
  effect : Option Intent
  choices : List Value
  /-- Where the options of a menu were drawn last. -/
  choicePlaces : List Rect

namespace Tasks

/-- The tasks when an intent was carried out. -/
def told (t : Tasks) (i : Intent) : Tasks where
  pendingReady := t.pendingReady
  effect := if i.blocking then some i else t.effect
  choices :=
    match i.kind with
    | .showChoices => ((i.get "options").orElse (.list [])).parts.toOption.getD []
    | .clearChoices => []
    | _ => t.choices
  choicePlaces := t.choicePlaces

/-- The tasks when a scene was prepared. -/
def prepared (t : Tasks) : Tasks :=
  { t with pendingReady := true, effect := none, choices := [] }

end Tasks

/-- The tasks of a window. -/
def Window.tasks (w : Window) : Tasks :=
  ⟨w.pendingReady, w.effect, w.choices, w.choicePlaces⟩

namespace Desk

variable {α β : Type}

/-- If the computation ends without a mishap, it turns some tasks into others. -/
structure Turns (t t' : Tasks) (act : Attempt Desk α) : Prop where
  ends : ∀ d, d.window.tasks = t → Ends act d (fun _ d' => d'.window.tasks = t') fun _ _ => True

namespace Turns

variable {t t₁ t₂ : Tasks} {x : Attempt Desk α} {k : α → Attempt Desk β}

protected theorem bind (hx : Turns t t₁ x) (hk : ∀ a, Turns t₁ t₂ (k a)) : Turns t t₂ (x >>= k) :=
  ⟨fun d h => Ends.bind_iff.2 ((hx.ends d h).mono (fun a d₁ h₁ => (hk a).ends d₁ h₁)
    fun _ _ _ => trivial)⟩

protected theorem ite {p : Prop} [Decidable p] {y : Attempt Desk α} (hx : Turns t t₁ x)
    (hy : Turns t t₁ y) : Turns t t₁ (if p then x else y) := by
  split
  · exact hx
  · exact hy

/-- What does not show in the tasks leaves them as they are. -/
theorem of_makes (h : Makes Window.tasks id x) : Turns t t x :=
  ⟨fun d ht => (h.ends d).mono (fun _ _ h' => h'.trans ht) fun _ _ _ => trivial⟩

protected theorem change {f : Window → Window} (h : ∀ w, w.tasks = t → (f w).tasks = t₁) :
    Turns t t₁ (change f) :=
  ⟨fun d ht => Ends.modify_iff.2 (h d.window ht)⟩

end Turns

/-! ## Intents -/

theorem tasks_unstaged : Unstaged Window.tasks :=
  { missing := fun _ _ => rfl, pictures := fun _ _ => rfl, sounds := fun _ _ _ => rfl
    marks := fun _ _ => rfl, scene := fun _ _ => rfl, visibleText := fun _ _ => rfl
    veil := fun _ _ => rfl }

variable {t : Tasks}

theorem beginEffect_turns (i : Intent) : Turns t { t with effect := some i } (beginEffect i) := by
  refine .bind (.change fun w h => ?_) fun _ => .bind (.of_makes (spriteOf_spares _)) fun _ =>
    .of_makes (.change fun _ => rfl)
  rw [← h]
  rfl

theorem showChoices_turns (i : Intent) : Turns t { t with
    choices := ((i.get "options").orElse (.list [])).parts.toOption.getD [] } (showChoices i) := by
  refine ⟨fun d h => Ends.bind_iff.2 (Ends.mk_pure_iff.2 ⟨fun options hoptions => ?_,
    fun _ _ => trivial⟩)⟩
  rw [hoptions]
  have hoptions : Turns t { t with choices := options }
      (change fun w => { w with choices := options }) := .change fun w h => by
    rw [← h]
    rfl
  refine (hoptions.bind fun _ => ?_).ends d h
  exact .of_makes (Makes.ofExcept.bind fun _ => .change fun _ => rfl)

theorem follow_turns (i : Intent) :
    Turns t { t.told i with effect := t.effect } (follow i) := by
  by_cases hshow : i.kind = .showChoices
  · have hturns := showChoices_turns (t := t) i
    simpa only [follow, Tasks.told, hshow] using hturns
  · by_cases hclear : i.kind = .clearChoices
    · have hturns : Turns t { t with choices := [] } (change fun w => { w with choices := [] }) :=
        .change fun w h => by rw [← h]; rfl
      simpa only [follow, Tasks.told, hclear] using hturns
    · have htold : { t.told i with effect := t.effect } = t := by
        simp only [Tasks.told]
      rw [htold]
      exact .of_makes (follow_spares tasks_unstaged (.inl ⟨hshow, hclear⟩) (.inr fun _ _ _ => rfl))

/-- An intent is carried out as it says, if there is no mishap. -/
theorem apply_turns (i : Intent) : Turns t (t.told i) (apply i) := by
  unfold apply
  cases hblocking : i.blocking with
  | true =>
    have htold :
        { ({ t with effect := some i } : Tasks).told i with effect := some i } = t.told i := by
      simp [Tasks.told, hblocking]
    have hfollow := follow_turns (t := { t with effect := some i }) i
    rw [htold] at hfollow
    exact .bind (beginEffect_turns i) fun _ => hfollow
  | false =>
    have htold : { t.told i with effect := t.effect } = t.told i := by
      simp [Tasks.told, hblocking]
    rw [← htold]
    exact follow_turns i

/-- A scene is prepared, if there is no mishap. -/
theorem prepare_turns (scene : Scene) : Turns t t.prepared (prepare scene) := by
  obtain ⟨t₀, ht₀⟩ : ∃ t₀ : Tasks, t₀ = { t with effect := none, choices := [] } := ⟨_, rfl⟩
  have hpicture : ∀ name extent, Turns t₀ t₀ (discard (picture name extent)) := fun name extent =>
    .of_makes (picture_makes tasks_unstaged.toUnloaded name extent).discard
  have hend : Turns t₀ t.prepared (change fun w => { w with pendingReady := true }) := by
    refine .change fun w h => ?_
    show { w.tasks with pendingReady := true } = _
    rw [h, ht₀]
    rfl
  have hmusic : Turns t₀ t.prepared (do
      if scene.music.truthy then play scene.music (some scene.musicLoop.truthy)
      change fun w => { w with pendingReady := true }) := by
    refine Turns.ite (Turns.bind (.of_makes ?_) fun _ => hend) hend
    exact play_makes tasks_unstaged.toUnloaded _ _
  have hsprites : Turns t₀ t.prepared (do
      (Table.values scene.sprites).forM fun s => discard (picture s.filename spriteExtent)
      if scene.music.truthy then play scene.music (some scene.musicLoop.truthy)
      change fun w => { w with pendingReady := true }) := by
    refine Turns.bind (.of_makes (.forM fun s => ?_)) fun _ => hmusic
    exact (picture_makes tasks_unstaged.toUnloaded _ _).discard
  have hempty : Turns t t₀ (change fun w =>
      { w with scene, effect := none, choices := [], visibleText := scene.speech.orElse (.text "")
               veil := settledVeil scene }) := by
    refine .change fun w h => ?_
    rw [ht₀, ← h]
    rfl
  unfold prepare
  refine Turns.bind hempty fun _ => Turns.ite ?_ hsprites
  exact Turns.bind (.of_makes .window) fun _ => Turns.bind (hpicture _ _) fun _ => hsprites

/-! ## The running effect -/

theorem progress_makes {γ : Type} {view : Window → γ} (now : Value) :
    Makes view id (progress now) := by
  refine Makes.window.bind fun w => ?_
  cases w.effect with
  | none => exact .pure
  | some effect =>
    exact Makes.ofExcept.bind fun _ => Makes.ofExcept.bind fun _ => Makes.ofExcept.bind fun _ =>
      .pure

/-- What follows a look at the window starts with the window. -/
theorem window_bind_iff {k : Window → Attempt Desk α} {d : Desk} {Q : α → Desk → Prop}
    {E : Mishap → Desk → Prop} : Ends (window? >>= k) d Q E ↔ Ends (k d.window) d Q E :=
  Iff.rfl

/-- A look at the effect leaves the tasks as they are, or takes the effect off and tells whose it
was. -/
theorem pollEffect_tasks (now : Value) (d : Desk) :
    Ends (pollEffect now) d (fun found d' => found = none ∧ d'.window.tasks = d.window.tasks ∨
      ∃ i, d.window.effect = some i ∧ found = i.effectId ∧
        d'.window.tasks = { d.window.tasks with effect := none }) fun _ _ => True := by
  refine window_bind_iff.2 ?_
  cases heffect : d.window.effect with
  | none => exact .inl ⟨rfl, rfl⟩
  | some i =>
    have hprogress : Makes Window.tasks id (progress now) := progress_makes now
    refine Ends.bind_iff.2 ((hprogress.ends d).mono (fun share d₁ h₁ => ?_) fun _ _ _ => trivial)
    have h₁ : d₁.window.tasks = d.window.tasks := h₁
    have hdone : Ends (do
        change fun w => { w with effect := none }
        return i.effectId : Attempt Desk (Option Value)) d₁
        (fun found d' => found = none ∧ d'.window.tasks = d.window.tasks ∨
          ∃ j, some i = some j ∧ found = j.effectId ∧
            d'.window.tasks = { d.window.tasks with effect := none }) fun _ _ => True := by
      refine Ends.bind_iff.2 (Ends.modify_iff.2 (.inr ⟨i, rfl, rfl, ?_⟩))
      rw [← h₁]
      rfl
    dsimp only
    split
    · exact .inl ⟨rfl, h₁⟩
    · split
      · exact Ends.bind_iff.2 (Ends.modify_iff.2 (hdone.mono (fun _ _ h => h) fun _ _ h => h))
      · exact hdone

/-! ## Drawing -/

section
variable {γ : Type} {view : Window → γ} (hview : Unloaded view)
include hview

omit hview in
theorem whole_makes (v : Value) : Makes view id (whole v) :=
  .ofExcept

theorem mark_makes (m : Mark) : Makes view id (change fun w => w.mark m) :=
  .change fun w => hview.marks w _

theorem blit_makes (s : Surface) (x y : Int) : Makes view id (blit s x y) :=
  mark_makes hview _

omit hview in
theorem scaled_makes (s : Surface) (scale : Value) : Makes view id (scaled s scale) := by
  have hextent : ∀ n : Int, Makes view id (do
      return max 1 (← whole (← Attempt.ofExcept ((Value.int n).mul scale))) : Attempt Desk Int) :=
    fun n => Makes.ofExcept.bind fun _ => (whole_makes _).bind fun _ => .pure
  exact .ite .pure ((hextent _).bind fun _ => (hextent _).bind fun _ => Makes.made)

theorem drawBackground_makes : Makes view id drawBackground := by
  have haway : ∀ v : Value, Makes view id (do
      whole (← Attempt.ofExcept v.neg) : Attempt Desk Int) := fun v =>
    Makes.ofExcept.bind fun _ => whole_makes _
  refine Makes.window.bind fun w => .ite ?_ .pure
  refine (picture_makes hview _ _).bind fun _ => (scaled_makes _ _).bind fun _ => ?_
  exact (haway _).bind fun _ => (haway _).bind fun _ => blit_makes hview _ _ _

omit hview in
theorem spritePoint_makes (name : Value) (s : Sprite) (t : Float) :
    Makes view id (spritePoint name s t) := by
  refine Makes.window.bind fun w => ?_
  split
  · exact .ite (Makes.ofExcept.bind fun _ => Makes.ofExcept.bind fun _ => .pure) .pure
  · exact .pure

omit hview in
theorem turned_makes (s : Sprite) (surface : Surface) : Makes view id (turned s surface) := by
  have hturn : ∀ v : Value, Makes view id (turn v) := fun v =>
    Makes.ofExcept.bind fun _ => .ite .throw .pure
  exact .ite .pure ((hturn _).bind fun _ => (hturn _).bind fun _ => .pure)

theorem drawSprite_makes (t : Float) (name : Value) (s : Sprite) :
    Makes view id (drawSprite t name s) := by
  refine (picture_makes hview _ _).bind fun _ => (turned_makes _ _).bind fun _ => ?_
  refine (scaled_makes _ _).bind fun _ => (spritePoint_makes _ _ _).bind fun _ => ?_
  refine (whole_makes _).bind fun _ => (whole_makes _).bind fun _ => ?_
  exact Makes.ofExcept.bind fun _ => blit_makes hview _ _ _

theorem drawLines_makes (font : Font) (x y : Int) (lines : List String) :
    Makes view id (drawLines font x y lines) := by
  induction lines generalizing y with
  | nil => exact .pure
  | cons line rest ih =>
    exact Makes.made.bind fun _ => (blit_makes hview _ _ _).bind fun _ => ih _

omit hview in
theorem wrapped_makes (v width : Value) : Makes view id (wrapped v width) :=
  Makes.window.bind fun _ => Makes.ofExcept.bind fun _ =>
    .ite (Makes.throw.bind fun _ => .pure) .pure

theorem drawSpeech_makes (speaker words : Value) : Makes view id (drawSpeech speaker words) := by
  refine Makes.window.bind fun w => Makes.ofExcept.bind fun panel => ?_
  refine Makes.made.bind fun _ => (blit_makes hview _ _ _).bind fun _ => ?_
  have hlines : ∀ y : Int, Makes view id (do
      drawLines w.speechFont (panel.x + 16) y (← wrapped words (.int (panel.width - 32)))) :=
    fun y => (wrapped_makes _ _).bind fun _ => drawLines_makes hview _ _ _ _
  refine .ite ?_ (hlines _)
  exact Makes.made.bind fun _ => (blit_makes hview _ _ _).bind fun _ => hlines _

theorem drawLine_makes (past : Option Line) : Makes view id (do
    match past with
    | some line => drawSpeech line.name line.text
    | none =>
      let w ← window?
      if w.scene.showSpeech.truthy && (w.visibleText.truthy || w.scene.speaker.truthy) then
        drawSpeech w.scene.speaker w.visibleText) := by
  cases past with
  | some line => exact drawSpeech_makes hview _ _
  | none => exact Makes.window.bind fun _ => .ite (drawSpeech_makes hview _ _) .pure

theorem drawWords_makes (backlog : Option Backlog) : Makes view id (drawWords backlog) := by
  have hshow := drawLine_makes hview
  cases backlog with
  | none => exact Makes.pure.bind hshow
  | some b => exact .ite (Makes.pure.bind hshow) (Makes.ofExcept.bind hshow)

theorem drawVeil_makes (t : Float) : Makes view id (drawVeil t) := by
  refine Makes.window.bind fun w => .ite ?_ .pure
  refine Makes.made.discard.bind fun _ => Makes.ofExcept.bind fun _ => ?_
  exact Makes.made.bind fun _ => blit_makes hview _ _ _

theorem drawError_makes : Makes view id drawError :=
  Makes.window.bind fun _ => .ite (Makes.made.bind fun _ => blit_makes hview _ _ _) .pure

end

theorem tasks_unloaded : Unloaded Window.tasks :=
  tasks_unstaged.toUnloaded

/-- What comes first does not show in the tasks. -/
theorem ends_after {act : Attempt Desk α} (hact : Makes Window.tasks id act)
    {k : α → Attempt Desk β} {Q : β → Desk → Prop}
    (hk : ∀ a d, d.window.tasks = t → Ends (k a) d Q fun _ _ => True) {d : Desk}
    (h : d.window.tasks = t) : Ends (act >>= k) d Q fun _ _ => True :=
  Ends.bind_iff.2 (((Turns.of_makes hact).ends d h).mono (fun a d₁ h₁ => hk a d₁ h₁) fun _ _ h => h)

theorem drawChoice_tasks (dx : Value) (top : Int) (index : Nat) (option : Value) {d : Desk}
    (h : d.window.tasks = t) : Ends (drawChoice dx top index option) d (fun _ d' => ∃ place,
      d'.window.tasks = { t with choicePlaces := t.choicePlaces ++ [place] }) fun _ _ => True := by
  refine ends_after .window (fun w d₁ h₁ => ?_) h
  refine ends_after .made (fun label d₂ h₂ => ?_) h₁
  refine ends_after (whole_makes _) (fun cx d₃ h₃ => ?_) h₂
  refine ends_after .ofExcept (fun place d₄ h₄ => ?_) h₃
  refine ends_after (mark_makes tasks_unloaded _) (fun _ d₅ h₅ => ?_) h₄
  refine ends_after (mark_makes tasks_unloaded _) (fun _ d₆ h₆ => ?_) h₅
  refine ends_after .ofExcept (fun inner d₇ h₇ => ?_) h₆
  refine ends_after (blit_makes tasks_unloaded _ _ _) (fun _ d₈ h₈ => ?_) h₇
  refine Ends.modify_iff.2 ⟨place, ?_⟩
  rw [← h₈]
  rfl

theorem drawChoicesFrom_tasks (dx : Value) (top : Int) (index : Nat) (options : List Value)
    {d : Desk} (h : d.window.tasks = t) :
    Ends (drawChoicesFrom dx top index options) d (fun _ d' => ∃ places,
      d'.window.tasks = { t with choicePlaces := t.choicePlaces ++ places } ∧
        places.length = options.length) fun _ _ => True := by
  induction options generalizing index d t with
  | nil =>
    refine ⟨[], ?_, rfl⟩
    rw [h, List.append_nil]
  | cons option rest ih =>
    refine Ends.bind_iff.2 ((drawChoice_tasks dx top index option h).mono ?_ fun _ _ h => h)
    rintro _ d₁ ⟨place, h₁⟩
    refine (ih (index + 1) h₁).mono ?_ fun _ _ h => h
    rintro _ d' ⟨places, h', hlength⟩
    refine ⟨place :: places, ?_, by simp [hlength]⟩
    rw [h', List.append_assoc]
    rfl

/-- Drawing has taken note of where the options stand, if there are any. -/
def Drawn (t t' : Tasks) : Prop :=
  ∃ places, t' = { t with choicePlaces := places } ∧
    if t.choices = [] then places = t.choicePlaces else places.length = t.choices.length

theorem drawMenu_tasks {d : Desk} (h : d.window.tasks = t) :
    Ends drawMenu d (fun _ d' => Drawn t d'.window.tasks) fun _ _ => True := by
  refine window_bind_iff.2 ?_
  have hchoices : d.window.choices = t.choices := congrArg Tasks.choices h
  split
  · next hsome =>
    split
    · refine Ends.bind_iff.2 (Ends.modify_iff.2 ?_)
      have hcleared : (Desk.mk { d.window with choicePlaces := [] } d.disk).window.tasks =
          { t with choicePlaces := [] } := by
        rw [← h]
        rfl
      refine ends_after (whole_makes _) (fun y d₁ h₁ => ?_) hcleared
      refine (drawChoicesFrom_tasks _ _ _ _ h₁).mono ?_ fun _ _ h => h
      rintro _ d' ⟨places, h', hlength⟩
      refine ⟨places, h', ?_⟩
      rw [if_neg (by simpa [← hchoices] using hsome), hlength, hchoices]
    · exact trivial
  · next hempty =>
    refine ⟨t.choicePlaces, h, ?_⟩
    rw [if_pos (by simpa [← hchoices] using hempty)]

/-- The options of a menu are drawn where the window says, one place for each. -/
theorem draw_tasks (backlog : Option Backlog) (d : Desk) :
    Ends (draw backlog) d (fun _ d' => Drawn d.window.tasks d'.window.tasks) fun _ _ => True := by
  refine ends_after .window (fun w d₁ h₁ => ?_) rfl
  refine ends_after (progress_makes _) (fun share d₂ h₂ => ?_) h₁
  refine ends_after (mark_makes tasks_unloaded _) (fun _ d₃ h₃ => ?_) h₂
  refine ends_after (drawBackground_makes tasks_unloaded) (fun _ d₄ h₄ => ?_) h₃
  have hsprites : Makes Window.tasks id (w.scene.sprites.forM fun x => drawSprite share x.1 x.2) :=
    .forM fun x => drawSprite_makes tasks_unloaded share x.1 x.2
  refine ends_after hsprites (fun _ d₅ h₅ => ?_) h₄
  refine ends_after (drawWords_makes tasks_unloaded backlog) (fun _ d₆ h₆ => ?_) h₅
  refine Ends.bind_iff.2 ((drawMenu_tasks h₆).mono (fun _ d₇ h₇ => ?_) fun _ _ h => h)
  refine ends_after (drawVeil_makes tasks_unloaded share) (fun _ d₈ h₈ => ?_) rfl
  refine ends_after (drawError_makes tasks_unloaded) (fun _ d₉ h₉ => ?_) h₈
  refine ((mark_makes tasks_unloaded .flip).ends d₉).mono (fun _ d' h' => ?_) fun _ _ _ => trivial
  rw [h', id, h₉]
  exact h₇

end Desk

/-! ## Collaborators around a window -/

variable {σ : Type}

/-- The tasks are watched: every intent that is carried out changes them as it says. -/
def Watch.tasks (view : σ → Tasks) : Watch σ where
  sent o o' l := view o' = l.foldl Tasks.told (view o)
  kept _ _ := True
  sent_nil _ := rfl
  sent_append h h' := by rw [h', h, List.foldl_append]
  kept_refl _ := trivial
  kept_trans _ _ := trivial
  kept_note _ _ _ := trivial

/-- The renderer takes its tasks from the engine, unless it meets a mishap. The others leave them
alone, and nobody calls the engine back. -/
structure Collaborators.Tasked (c : Collaborators σ) (view : σ → Tasks) : Prop where
  prepare : ∀ scene e, Runs True (c.prepare scene) e fun _ e' => ∃ x, e' = e.within x ∧
    view x.outside = (view e.outside).prepared
  quiet : Quiet c.unprepared (Watch.tasks view) True

/-- What was watched may be forgotten. -/
theorem Aside.unwatched {w : Watch σ} {e e' : Engine σ} {l : List Intent} (h : Aside w l e e') :
    Aside Watch.nothing l e e' := by
  obtain ⟨x, rfl, -⟩ := h
  exact ⟨x, rfl, trivial, trivial⟩

theorem Collaborators.Tasked.unwatched {c : Collaborators σ} {view : σ → Tasks}
    (hc : c.Tasked view) : Quiet c Watch.nothing True where
  prepare scene e := (hc.prepare scene e).mono fun _ _ ⟨x, hx, _⟩ => ⟨x, hx, trivial, trivial⟩
  apply i e := (hc.quiet.apply i e).mono fun _ _ h => h.unwatched
  showError text e := (hc.quiet.showError text e).mono fun _ _ h => h.unwatched
  deliver id event e :=
    (hc.quiet.deliver id event e).mono (fun _ _ h => h.unwatched) fun _ _ h => h.unwatched
  systemCall args e := (hc.quiet.systemCall args e).mono fun _ _ h => h.unwatched
  finished e := (hc.quiet.finished e).mono fun _ _ h => h.unwatched

theorem aside_of_overlooks {view : σ → Tasks} {e e' : Engine σ} (h : Overlooks view e e') :
    Aside (Watch.tasks view) [] e e' := by
  obtain ⟨⟨x, rfl⟩, hview⟩ := h
  exact ⟨x, rfl, hview, trivial⟩

theorem Engine.answerCall_runs (args : List Value) (e : Engine σ) :
    Runs True (answerCall ({} : SystemCalls Empty) nofun args : Play σ Unit) e fun _ _ => True := by
  have hnote : ∀ (level : Level) (text : String) (v : Value) (e : Engine σ),
      Runs True (do note level text; return v : Play σ Value) e fun _ _ => True :=
    fun level text v e => (note_runs Watch.nothing level text e).any.bind fun _ _ _ => trivial
  have hsave : Runs True (autosave : Play σ Bool) e fun _ e' => ∃ x, e' = e.within x :=
    saveToSlot_runs _ e
  unfold answerCall SystemCalls.send
  refine Ends.discard_iff.2 ?_
  split
  · exact trivial
  · dsimp only
    split
    · exact hnote _ _ _ e
    · unfold SystemCalls.autosave
      dsimp only
      rw [bind_assoc]
      refine Ends.bind_iff.2 (Ends.mono hsave (fun ok e₁ _ => ?_) fun _ _ h => h)
      cases ok with
      | true => exact trivial
      | false => exact hnote _ _ _ e₁
    · exact hnote _ _ _ e
    · next id _ => exact id.elim

namespace Collaborators

variable {place : Place σ Window}

section
variable (hplace : ∀ w o, place.get (place.set w o) = w)
include hplace

theorem attempt_turns (act : Attempt Desk Unit) {t : Tasks} {e : Engine σ}
    (hact : Desk.Turns (place.get e.outside).tasks t act) :
    Runs True (Action.attempt (deskPlace place) act) e fun _ e' => ∃ x, e' = e.within x ∧
      (place.get x.outside).tasks = t := by
  have hends := hact.ends { window := place.get e.outside, disk := e.stage.disk } rfl
  refine Ends.attempt_iff.2 (Ends.mono hends (fun _ d h => ?_) fun _ _ _ => trivial)
  refine ⟨{ e.surroundings with disk := d.disk, outside := place.set d.window e.outside }, rfl, ?_⟩
  rw [hplace]
  exact h

theorem attempt_aside (act : Attempt Desk Unit) (l : List Intent) {e : Engine σ}
    (hact : Desk.Turns (place.get e.outside).tasks
      (l.foldl Tasks.told (place.get e.outside).tasks) act) :
    Runs True (Action.attempt (deskPlace place) act) e fun _ e' =>
      Aside (Watch.tasks fun o => (place.get o).tasks) l e e' :=
  (attempt_turns hplace act hact).mono fun _ _ ⟨x, hx, ht⟩ => ⟨x, hx, ht, trivial⟩

/-- A window at its place takes its tasks from the engine. -/
theorem window_tasked : (window place).Tasked fun o => (place.get o).tasks where
  prepare scene _ := attempt_turns hplace (Desk.prepare scene) (Desk.prepare_turns scene)
  quiet := {
    prepare := fun _ e => Aside.refl _ e
    apply := fun i _ => attempt_aside hplace (Desk.apply i) [i] (Desk.apply_turns i)
    showError := fun text _ => attempt_aside hplace (Desk.change (Window.showError (.text text))) []
      (.of_makes (.change fun _ => rfl))
    deliver := fun _ _ e => Aside.refl _ e
    systemCall := fun args e => by
      have htracks : Tracks (Overlooks fun o => (place.get o).tasks)
          (Engine.answerCall ({} : SystemCalls Empty) nofun args : Play σ Unit) :=
        Engine.answerCall_tracks Overlooks.incidental args
      exact Ends.mono ((Engine.answerCall_runs args e).and (Tracks.iff_ends.1 htracks e))
        (fun _ _ h => aside_of_overlooks h.2) fun _ _ h => h.1
    finished := fun e => Aside.refl _ e }

end

end Collaborators

end VisualNovel
