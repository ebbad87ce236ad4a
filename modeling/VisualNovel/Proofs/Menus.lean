import VisualNovel.Proofs.Offers

/-!
# Menus of sets

A command that shows a set asks for one of its options. If the set is empty, the story goes on.
-/

namespace VisualNovel

open Script Engine
open ChoiceSets (Change)
open ChoiceSets.Change (standing)

variable {σ : Type}

/-- The command shows the set of a name. -/
def Script.Command.Shows (cmd : Script.Command) (name : String) : Prop :=
  cmd.kind = .showChoiceSet ∧ cmd.args = [.text name]

/-- The options of a set, as they stand in a menu. -/
def ChoiceSets.menu (name : String) (sets : ChoiceSets) : List ChoiceOption :=
  ((Table.get? (.text name) sets).getD []).map fun o => { text := o.1, conversation := o.2 }

namespace Command

variable {cmd : Script.Command} {name : String}

theorem perform_of_shows (h : cmd.Shows name) : perform cmd = showChoiceSet (.text name) := by
  obtain ⟨kind, args, line⟩ := cmd
  obtain ⟨rfl, rfl⟩ := h
  rfl

theorem wellFormed_of_shows (h : cmd.Shows name) : wellFormed cmd = true := by
  obtain ⟨kind, args, line⟩ := cmd
  obtain ⟨rfl, rfl⟩ := h
  rfl

/-- An empty set is noted, and the story goes on. -/
theorem shows_nothing (h : cmd.Shows name) {s : Stage}
    (hempty : ChoiceSets.menu name s.session.choiceSets = []) : ∃ level text,
      (perform cmd).perform s = (.ok .next, s.note level text) := by
  have hnone := List.map_eq_nil_iff.1 hempty
  rw [perform_of_shows h]
  unfold showChoiceSet
  have hkey : (keyOf (.text name) : Action Stage Value).perform s = (.ok (.text name), s) := rfl
  rw [Action.perform_bind_ok hkey, Action.perform_get_bind]
  rw [hnone]
  exact ⟨_, _, rfl⟩

/-- Of a set that is not empty, all options are asked for. -/
theorem shows_options (h : cmd.Shows name) {s : Stage}
    (hsome : ChoiceSets.menu name s.session.choiceSets ≠ []) :
    (perform cmd).perform s =
      (.ok (.ask (ChoiceSets.menu name s.session.choiceSets) .null), s) := by
  rw [perform_of_shows h]
  unfold showChoiceSet
  have hkey : (keyOf (.text name) : Action Stage Value).perform s = (.ok (.text name), s) := rfl
  rw [Action.perform_bind_ok hkey, Action.perform_get_bind]
  split
  · next hnone => exact absurd (List.map_eq_nil_iff.2 hnone) hsome
  · rfl

/-- The outcome asks for no choice. -/
def Unprompted (o : Outcome) : Prop :=
  ∀ options line, o ≠ .ask options line

theorem next_unprompted : Unprompted .next :=
  fun _ _ h => by cases h

theorem jumpOnFlag_unprompted (flag : String) (groups : List (List Value)) :
    Leaves (jumpOnFlag flag groups) Unprompted := by
  fun_induction jumpOnFlag flag groups with
  | case1 => exact .pure next_unprompted
  | case2 expected conversation rest ih =>
    refine .bind fun s => .ite ?_ ih
    exact .bind fun _ => .pure fun _ _ h => by cases h
  | case3 => exact .throw

/-- A command that asks for a choice is straight. -/
theorem bent_unprompted (h : cmd.kind.straight = false) : Leaves (perform cmd) Unprompted := by
  have hstay : Unprompted .stay := fun _ _ h => by cases h
  cases cmd using shapes with
  | setConversation => exact .bind fun _ => .pure hstay
  | switchScript =>
    exact .bind fun _ => .bind fun _ => .bind fun _ => .bind fun _ => .bind fun _ => .pure hstay
  | isFlag | isFlagMoreThan | isFlagLessThan | isFlagBetween | isFlagMoreThanFlag
  | isFlagLessThanFlag | isFlagEqualToFlag =>
    exact .bind fun _ => .bind fun _ => .bind fun _ => .bind fun _ => .pure hstay
  | jumpOnFlag => exact .bind fun _ => jumpOnFlag_unprompted _ _
  | addToChoiceSet | removeFromChoiceSet =>
    exact .bind fun _ => .bind fun _ => .pure next_unprompted
  | wipeChoiceSet => exact .bind fun _ => .bind fun _ => .bind fun _ => .pure next_unprompted
  | misfit => exact .throw
  | _ => exact absurd h.symm Bool.false_ne_true

/-- A command that asks for a choice leaves the story where it stands. -/
theorem stationary_of_asks {s s' : Stage} {options : List ChoiceOption} {line : Value}
    (hrun : (perform cmd).perform s = (.ok (.ask options line), s')) : s.Stationary s' := by
  cases hstraight : cmd.kind.straight with
  | true =>
    have hstationary := perform_stationary hstraight s
    rw [hrun] at hstationary
    exact hstationary
  | false =>
    have hleaves := (Ends.iff_perform.1 (bent_unprompted hstraight s)).1 _ _ hrun
    exact absurd rfl (hleaves options line)

end Command

namespace Engine

variable {c : Collaborators σ} {e : Engine σ} {cmd : Script.Command} {name : String}

/-- If the set that is shown is empty, the beat is completed. -/
theorem execute_shows_nothing (hc : c.Heeds Within) (h : cmd.Shows name)
    (hempty : ChoiceSets.menu name e.session.choiceSets = []) :
    ∃ f, Within e f ∧ (execute c cmd).perform e = (.ok (), f.completed) := by
  let event : Event := .commandRun cmd.kind.keyword cmd.args cmd.line
  obtain ⟨x, hx⟩ : Within e ((emit c event).perform e).2 := emit_within hc.deliver event e
  unfold execute
  rw [Command.wellFormed_of_shows h]
  simp only [Bool.not_true, Bool.false_eq_true, if_false]
  rw [Action.perform_bind_ok (emit_perform c event e), hx]
  obtain ⟨level, text, hrun⟩ := Command.shows_nothing h (s := (e.within x).stage) hempty
  rw [Action.perform_bind_ok (onStage_perform hrun)]
  exact ⟨_, trans_of Within ⟨x, rfl⟩ (Within.unconcerned.noted (e.within x) level text), rfl⟩

/-- A menu is set up, and then the renderer is told to show it. -/
theorem present_offers (hc : c.Heeds Within) (options : List ChoiceOption) (e : Engine σ) :
    ∃ f, Within (e.offering options) f ∧
      (present c options .null).perform e = (c.apply (some (menuOf options e))).perform f := by
  let event : Event := .choicesShown (options.map ChoiceOption.text)
  obtain ⟨x, hx⟩ := setMode_within hc.deliver .awaitingChoice
    { e.mapSession Session.capture with menu := some options }
  have hoffering : (setMode c .awaitingChoice).perform
      { e.mapSession Session.capture with menu := some options } =
        (.ok (), (e.offering options).within x) := by
    rw [setMode_perform, hx]
    rfl
  refine ⟨_, trans_of Within ⟨x, rfl⟩ (emit_within hc.deliver event _), ?_⟩
  unfold present
  rw [Action.perform_modify_bind, Action.perform_modify_bind]
  refine (Action.perform_bind_ok hoffering).trans ?_
  dsimp only
  rw [Action.perform_get_bind]
  exact Action.perform_bind_ok (emit_perform c event _)

/-- A set that is not empty becomes a menu. -/
theorem execute_shows_options (hc : c.Heeds Within) (h : cmd.Shows name)
    (hsome : ChoiceSets.menu name e.session.choiceSets ≠ []) :
    ∃ f, Within (e.offering (ChoiceSets.menu name e.session.choiceSets)) f ∧
      (execute c cmd).perform e =
        (c.apply (some (menuOf (ChoiceSets.menu name e.session.choiceSets) e))).perform f := by
  let event : Event := .commandRun cmd.kind.keyword cmd.args cmd.line
  obtain ⟨x, hx⟩ : Within e ((emit c event).perform e).2 := emit_within hc.deliver event e
  unfold execute
  rw [Command.wellFormed_of_shows h]
  simp only [Bool.not_true, Bool.false_eq_true, if_false]
  rw [Action.perform_bind_ok (emit_perform c event e), hx]
  have hrun := Command.shows_options h (s := (e.within x).stage) hsome
  rw [Action.perform_bind_ok (onStage_perform hrun)]
  obtain ⟨f, ⟨y, rfl⟩, hshown⟩ := present_offers hc
    (ChoiceSets.menu name e.session.choiceSets) (e.within x)
  exact ⟨_, ⟨y, rfl⟩, hshown⟩

/-! ## Menus that wait -/

/-- A menu that is there waits for a choice. If the command at the cursor shows a set, it is the
menu of that set. -/
structure Offers (e : Engine σ) : Prop where
  waits : e.menu.isSome → e.mode = .awaitingChoice
  shown : ∀ options cmd name, e.menu = some options → e.cursor.current = some (.command cmd) →
    cmd.Shows name → options = ChoiceSets.menu name e.session.choiceSets

/-- No menu is set up. -/
def Unasked (e e' : Engine σ) : Prop :=
  e.menu = none → e'.menu = none

/-- What a menu offers stays right. -/
def Minds (e e' : Engine σ) : Prop :=
  e.Offers → e'.Offers

variable {e' : Engine σ}

theorem offers_of_none (h : e.menu = none) : e.Offers := by
  refine ⟨fun hsome => ?_, fun options cmd name hmenu => ?_⟩
  · rw [h] at hsome
    cases hsome
  · rw [h] at hmenu
    cases hmenu

/-- A menu is there while a choice is waited for, and at no other time. -/
theorem Offers.menu_eq_none (h : e.Offers) (hmode : e.mode ≠ .awaitingChoice) : e.menu = none := by
  cases hmenu : e.menu with
  | none => rfl
  | some options => exact absurd (h.waits (by rw [hmenu]; rfl)) hmode

namespace Unasked

instance : IsPreorder (Engine σ) Unasked where
  refl _ := id
  trans _ _ _ h h' := h' ∘ h

theorem of_same (h : e'.menu = e.menu) : Unasked e e' :=
  fun hnone => h.trans hnone

theorem of_within (h : Within e e') : Unasked e e' := by
  obtain ⟨x, rfl⟩ := h
  exact of_same rfl

theorem unheard : Unheard (Unasked : Engine σ → Engine σ → Prop) where
  noted _ _ _ := of_same rfl
  bus _ _ := of_same rfl

end Unasked

namespace Minds

instance : IsPreorder (Engine σ) Minds where
  refl _ := id
  trans _ _ _ h h' := h' ∘ h

theorem of_same (hmenu : e'.menu = e.menu) (hmode : e'.mode = e.mode)
    (hcursor : e'.cursor = e.cursor) (hsets : e'.session.choiceSets = e.session.choiceSets) :
    Minds e e' := by
  intro h
  refine ⟨?_, ?_⟩
  · rw [hmenu, hmode]
    exact h.waits
  · rw [hmenu, hcursor, hsets]
    exact h.shown

theorem of_within (h : Within e e') : Minds e e' := by
  obtain ⟨x, rfl⟩ := h
  exact of_same rfl rfl rfl rfl

theorem unconcerned : Unconcerned (Minds : Engine σ → Engine σ → Prop) where
  disk _ _ := of_same rfl rfl rfl rfl
  saves _ _ := of_same rfl rfl rfl rfl
  bus _ _ := of_same rfl rfl rfl rfl

/-- Without a menu to begin with there is none to mind, as long as none is set up. -/
theorem of_unasked (hmode : e.mode ≠ .awaitingChoice) (h : Unasked e e') : Minds e e' :=
  fun hoffers => offers_of_none (h (hoffers.menu_eq_none hmode))

end Minds

section
variable (hc : c.Heeds Within)
include hc

theorem heeds_unasked : c.Heeds Unasked :=
  hc.mono Unasked.of_within

theorem heeds_minds : c.Heeds Minds :=
  hc.mono Minds.of_within

/-! ### No menu is set up -/

theorem emit_unasked (event : Event) : Tracks Unasked (emit c event) :=
  emit_tracks Unasked.unheard (heeds_unasked hc).deliver event

theorem setMode_unasked (mode : Mode) : Tracks Unasked (setMode c mode) := by
  intro e
  obtain ⟨x, hx⟩ := setMode_within hc.deliver mode e
  rw [hx]
  exact .of_same rfl

/-- The end of a session takes the menu away. -/
theorem finish_empties (h : e.finished = false) : ((finish c).perform e).2.menu = none := by
  unfold finish
  rw [Action.perform_get_bind, h]
  simp only [Bool.false_eq_true, if_false]
  rw [Action.perform_modify_bind]
  refine Tracks.bind (R := Unasked) (.modify fun e => .of_same rfl) (fun _ => ?_) _ rfl
  refine (setMode_unasked hc _).bind fun _ => .get_bind fun e => ?_
  exact (emit_unasked hc _).bind (fun _ => (heeds_unasked hc).finished) e

theorem display_unasked (text speaker : Value) (wait : Bool) :
    Tracks Unasked (display c text speaker wait) := by
  have happear : Tracks Unasked (display.appear text : Play σ Value) :=
    appear_tracks_of (.attempt fun _ _ => .of_same rfl) fun _ => .of_same rfl
  exact display_tracks_of (fun _ => (heeds_unasked hc).apply _) (fun _ => emit_unasked hc _)
    (fun _ _ => .of_same rfl) (fun _ => .of_same rfl) (fun _ => happear) speaker

theorem sendReveal_unasked : Tracks Unasked (sendReveal c) := by
  refine .get_bind fun e => ?_
  dsimp only
  split
  · refine Tracks.bind (.modify fun e => .of_same rfl) (fun _ => ?_) e
    exact .bind .ofMishap fun _ => .bind .ofMishap fun _ => (heeds_unasked hc).apply _
  · exact refl_of Unasked e

omit hc in
theorem passLine_unasked : Tracks Unasked (HostCall.passLine : Play σ Bool) := by
  refine .get_bind fun e => ?_
  cases e.showsLine with
  | false => exact refl_of Unasked e
  | true =>
    refine Tracks.bind (.modify fun e => .of_same rfl) (fun _ => ?_) e
    refine .bind (.modify fun e => .of_same rfl) fun _ => ?_
    exact .bind (.modify fun e => .of_same rfl) fun _ => .pure

theorem leaveEffect_unasked (effect : Intent) : Tracks Unasked (leaveEffect c effect) := by
  have hrest : Tracks Unasked (do
      modify (mapSession Session.release)
      setMode c .normal
      completeBeat
      return true) :=
    .bind (.modify fun e => .of_same rfl) fun _ => (setMode_unasked hc _).bind fun _ =>
      .bind (.modify fun e => .of_same rfl) fun _ => .pure
  unfold leaveEffect
  split
  · exact Tracks.bind ((heeds_unasked hc).apply _) fun _ => hrest
  · exact hrest

theorem endEffect_unasked (id : Value) : Tracks Unasked (HostCall.endEffect c id) := by
  refine .get_bind fun e => ?_
  split
  · exact .of_same rfl
  · next effect _ => exact leaveEffect_unasked hc effect { e with effect := none }

/-- Options that are asked for make a menu, and nothing else does. -/
theorem settle_unasked {o : Outcome} (h : ∀ options line, o ≠ .ask options line) :
    Tracks Unasked (settle c o) := by
  have hc' := heeds_unasked hc
  cases o with
  | proceed intents =>
    have hsends : Tracks Unasked (intents.forM fun i => c.apply (some i)) :=
      .forM fun i _ => hc'.apply (some i)
    exact hsends.bind fun _ => .modify fun e => .of_same rfl
  | stay => exact .pure
  | hold kind payload =>
    refine .bind (.modify fun e => .of_same rfl) fun _ => (setMode_unasked hc _).bind fun _ => ?_
    exact .get_bind fun e => hc'.apply _ e
  | ask options line => exact absurd rfl (h options line)
  | call args => exact (hc'.systemCall args).bind fun _ => .modify fun e => .of_same rfl

/-! ### What is offered stays right -/

theorem finish_minds : Tracks Minds (finish c) := by
  intro e
  cases hfinished : e.finished with
  | false => exact fun _ => offers_of_none (finish_empties hc hfinished)
  | true =>
    unfold finish
    rw [Action.perform_get_bind, hfinished]
    exact refl_of Minds e

theorem fail_minds (error : StoryError) : Tracks Minds (fail c error) :=
  fail_tracks_of Minds.unconcerned.unheard (heeds_minds hc).deliver (heeds_minds hc).showError
    (fun _ _ => .of_same rfl rfl rfl rfl) (finish_minds hc) error

/-- The options of a menu that is set up are those of the set that the command shows. -/
theorem present_minds {options : List ChoiceOption} {line : Value}
    (h : ∀ cmd name, e.cursor.current = some (.command cmd) → cmd.Shows name →
      options = ChoiceSets.menu name e.session.choiceSets) :
    ((present c options line).perform e).2.Offers := by
  have hoffering : (e.offering options).Offers := by
    refine ⟨fun _ => rfl, fun options' cmd name hmenu hcurrent hshows => ?_⟩
    obtain rfl : options = options' := Option.some.inj hmenu
    exact h cmd name hcurrent hshows
  have hsend : ∀ kind payload, Tracks Minds (send c kind payload) :=
    fun _ _ => (heeds_minds hc).apply _
  have hemit : ∀ event, Tracks Minds (emit c event) :=
    emit_tracks Minds.unconcerned.unheard (heeds_minds hc).deliver
  have hdisplay : Tracks Minds (display c line .null false) :=
    display_tracks_of (hsend _) (fun _ => hemit _) (fun _ _ => .of_same rfl rfl rfl rfl)
      (fun _ => .of_same rfl rfl rfl rfl) (fun hwait => by cases hwait) .null
  have hmode := Minds.of_within (setMode_within hc.deliver .awaitingChoice
    { e.mapSession Session.capture with menu := some options }) hoffering
  exact present_tracks_from (hsend _) (fun _ => hemit _) hdisplay e hmode

theorem settle_minds {o : Outcome} (hrunning : e.running)
    (h : ∀ options line, o = .ask options line → ∀ cmd name,
      e.cursor.current = some (.command cmd) → cmd.Shows name →
        options = ChoiceSets.menu name e.session.choiceSets) :
    Minds e ((settle c o).perform e).2 := by
  have hmode : e.mode ≠ .awaitingChoice := by simp [(running_iff.1 hrunning).1]
  cases o with
  | ask options line => exact fun _ => present_minds hc (h options line rfl)
  | _ => exact .of_unasked hmode (settle_unasked hc (fun _ _ h => by cases h) e)

theorem execute_minds {cmd : Script.Command} (hrunning : e.running)
    (hbeat : e.cursor.current = some (.command cmd)) : Minds e ((execute c cmd).perform e).2 := by
  unfold execute
  cases Command.wellFormed cmd with
  | false => exact refl_of Minds e
  | true =>
    let event : Event := .commandRun cmd.kind.keyword cmd.args cmd.line
    obtain ⟨x, hx⟩ : Within e ((emit c event).perform e).2 := emit_within hc.deliver event e
    simp only [Bool.not_true, Bool.false_eq_true, if_false]
    rw [Action.perform_bind_ok (emit_perform c event e), hx]
    refine trans_of Minds (.of_within ⟨x, rfl⟩) ?_
    have hmode : (e.within x).mode ≠ .awaitingChoice := by
      show e.mode ≠ _
      simp [(running_iff.1 hrunning).1]
    rcases hrun : (Command.perform cmd).perform (e.within x).stage with ⟨f | o, s⟩
    · rw [Action.perform_bind_error (onStage_perform hrun)]
      exact .of_unasked hmode (.of_same rfl)
    · rw [Action.perform_bind_ok (onStage_perform hrun)]
      have hplayed : Minds (e.within x) { e.within x with stage := s } :=
        .of_unasked hmode (.of_same rfl)
      refine trans_of Minds hplayed (settle_minds hc hrunning ?_)
      rintro options line rfl cmd' name hcurrent hshows
      have hstationary := Command.stationary_of_asks hrun
      have hcurrent' : s.session.cursor.current = some (.command cmd') := hcurrent
      rw [hstationary.cursor] at hcurrent'
      obtain rfl : cmd = cmd' := by simpa using hbeat.symm.trans hcurrent'
      show options = ChoiceSets.menu name s.session.choiceSets
      rw [hstationary.sets]
      by_cases hempty : ChoiceSets.menu name (e.within x).stage.session.choiceSets = []
      · obtain ⟨level, text, hnothing⟩ := Command.shows_nothing hshows hempty
        rw [hnothing] at hrun
        cases hrun
      · rw [Command.shows_options hshows hempty] at hrun
        cases hrun
        rfl

theorem display_minds (hrunning : e.running) (text speaker : Value) (wait : Bool) :
    Minds e ((display c text speaker wait).perform e).2 :=
  .of_unasked (by simp [(running_iff.1 hrunning).1]) (display_unasked hc _ _ _ e)

theorem playBeat_minds (hrunning : e.running) : Minds e ((playBeat c).perform e).2 := by
  unfold playBeat
  rw [Action.perform_get_bind]
  split
  · exact finish_minds hc e
  · exact display_minds hc hrunning _ _ _
  · next cmd hbeat => exact execute_minds hc hrunning hbeat

theorem step_minds : Tracks Minds (step c) := by
  refine step_tracks (refl_of Minds) fun e _ _ => ?_
  have hplayed := orFail_tracks (fail_minds hc) (playBeats_tracks_of (finish_minds hc)
    (fun e d hrunning _ => display_minds hc hrunning d.text d.speaker true)
    (fun e cmd hrunning hbeat => execute_minds hc hrunning hbeat) turnsPerStep commandBudget)
  have hbegun : Minds e { e with stepping := true } := .of_same rfl rfl rfl rfl
  refine trans_of Minds hbegun (trans_of Minds (hplayed _) ?_)
  exact .of_same rfl rfl rfl rfl

theorem takeOption_minds (index : Value) : Tracks Minds (HostCall.takeOption c index) := by
  refine .get_bind fun e => ?_
  split
  · exact .of_same rfl rfl rfl rfl
  · next options hoptions =>
    have hpick : Minds e ((pick c options index).perform e).2 := by
      cases hplace : placeOf index options.length with
      | error f =>
        unfold pick
        rw [Action.perform_bind_error (by rw [hplace]; rfl)]
        exact refl_of Minds e
      | ok place =>
        rw [HostCall.pick_perform hplace (List.getElem?_eq_getElem (HostCall.placeOf_lt hplace))]
        refine fun _ => offers_of_none
          (Tracks.bind (R := Unasked) (emit_unasked hc _) (fun _ => ?_) _ rfl)
        refine Tracks.bind ((heeds_unasked hc).apply _) fun _ => Tracks.bind ?_ fun _ => ?_
        · rw [follow_eq]
          exact .onPart fun e s => .of_same rfl
        · exact .bind (.modify fun e => .of_same rfl) fun _ => setMode_unasked hc _
    refine Tracks.bind_at (R := Minds) hpick fun r e₁ _ => ?_
    rcases r with (error | m) | ⟨⟩
    · exact ((fail_minds hc error).bind fun _ => .pure) e₁
    · exact refl_of Minds e₁
    · exact refl_of Minds e₁

/-- What a call does before it plays on. -/
theorem opening_minds {call : HostCall} (hcall : call.loads = false) :
    Tracks Minds (call.opening c) := by
  have hplain : ∀ {α : Type} {act : Play σ α}, Tracks Minds act →
      Tracks Minds (do discard act; return false) := fun hact => hact.discard.bind fun _ => .pure
  have hshows : ∀ {e : Engine σ}, e.showsLine → e.mode ≠ .awaitingChoice := by
    intro e h
    simp only [showsLine, Bool.and_eq_true, beq_iff_eq] at h
    simp [h.1]
  cases call with
  | resourcesReady =>
    refine .get_bind fun e => ?_
    dsimp only
    split
    · exact .of_same rfl rfl rfl rfl
    · next hloading =>
      have hmode : e.mode = .loading := by simpa using hloading
      exact .of_unasked (by simp [hmode]) (((setMode_unasked hc _).bind fun _ => .pure) e)
  | step => exact .get_bind fun e => refl_of Minds e
  | advance =>
    intro e
    cases hline : e.showsLine with
    | false =>
      show Minds e ((HostCall.passLine : Play σ Bool).perform e).2
      unfold HostCall.passLine
      rw [Action.perform_get_bind, hline]
      exact refl_of Minds e
    | true => exact .of_unasked (hshows hline) (passLine_unasked e)
  | requestAdvance =>
    refine .get_bind fun e => ?_
    cases hline : e.showsLine with
    | false => exact refl_of Minds e
    | true =>
      refine .of_unasked (hshows hline)
        (Tracks.bind (.attempt fun e t => .of_same rfl) (fun fired => ?_) e)
      cases fired with
      | true => exact passLine_unasked
      | false => exact (sendReveal_unasked hc).bind fun _ => .pure
  | tick dt =>
    refine .get_bind fun e => ?_
    cases hline : e.showsLine with
    | false => exact refl_of Minds e
    | true =>
      refine .of_unasked (hshows hline)
        (Tracks.bind (.attempt fun e t => .of_same rfl) (fun fired => ?_) e)
      refine (sendReveal_unasked hc).bind fun _ => ?_
      cases fired with
      | true => exact passLine_unasked
      | false => exact .pure
  | choose index => exact takeOption_minds hc index
  | effectFinished id =>
    intro e
    by_cases hmode : e.mode = .awaitingChoice
    · have hnone : (e.effect.filter fun i => e.mode == .effectRunning && isEffect id i) = none := by
        simp [hmode]
      show Minds e ((HostCall.endEffect c id).perform e).2
      unfold HostCall.endEffect
      rw [Action.perform_get_bind, hnone]
      exact .of_same rfl rfl rfl rfl
    · exact .of_unasked hmode (endEffect_unasked hc id e)
  | reportResourceError message =>
    exact Tracks.bind (.get_bind fun e => fail_minds hc _ e) fun _ => .pure
  | setFlag name value =>
    exact Tracks.bind (.bind .ofMishap fun _ => .bind .ofMishap fun _ =>
      .modify fun e => .of_same rfl rfl rfl rfl) fun _ => .pure
  | saveToSlot slot | quicksave | autosave =>
    exact Tracks.bind (saves_tracks Minds.unconcerned.toIncidental c rfl) fun _ => .pure
  | loadFromSlot | quickload | restore => cases hcall

/-- However a call ends, what a menu offers stays right. -/
theorem run_minds {call : HostCall} (hcall : call.loads = false) : Tracks Minds (call.run c) := by
  rw [HostCall.run_eq]
  refine (opening_minds hc hcall).bind fun go => ?_
  cases go with
  | true => exact (step_minds hc).discard
  | false => exact .pure

theorem Onward.minds {e₀ e : Engine σ} (h : Onward c e₀ e) : Minds e₀ e := by
  induction h with
  | refl => exact refl_of Minds e₀
  | call call _ hcall ih => exact trans_of Minds ih (run_minds hc hcall _)
  | around x _ ih => exact trans_of Minds ih (.of_within ⟨x, rfl⟩)

/-- At every moment of a run, a menu that waits is the one that the command at the cursor shows. -/
theorem Instant.offers {e₀ e : Engine σ} (hnone : e₀.menu = none)
    (h : Instant c ((enterLoading c).perform e₀).2 e) : e.Offers := by
  have hloading : ((enterLoading c).perform e₀).2.Offers := by
    refine offers_of_none (Tracks.bind (R := Unasked) (setMode_unasked hc _) (fun _ => ?_) _ hnone)
    refine .get_bind fun e => (emit_unasked hc _).bind (fun _ => ?_) e
    exact .get_bind fun e => (heeds_unasked hc).prepare _ e
  cases h with
  | rests h => exact h.minds hc hloading
  | @plays e₁ e₂ call h hcall hopening hplays =>
    have hopened : e₂.Offers := by
      have hminds := opening_minds hc hcall e₁ (h.minds hc hloading)
      rw [hopening] at hminds
      exact hminds
    induction hplays with
    | refl => exact ⟨hopened.waits, hopened.shown⟩
    | @beat e₃ e₄ _ hrunning hbeat ih =>
      have hplayed := playBeat_minds hc hrunning ih
      rw [hbeat] at hplayed
      exact hplayed

end

end Engine

/-! ## What is shown and chosen -/

namespace Engine

/-- Showing some options sets them up as a menu and tells the renderer to show it, in this order. If
there is none, the beat is completed instead. -/
structure Presents (c : Collaborators σ) (cmd : Script.Command) (options : List ChoiceOption)
    (e : Engine σ) : Prop where
  nothing : options = [] → ∃ f, Within e f ∧ (execute c cmd).perform e = (.ok (), f.completed)
  menu : options ≠ [] → ∃ f, Within (e.offering options) f ∧
    (execute c cmd).perform e = (c.apply (some (menuOf options e))).perform f

/-- A choice leads to the start of a conversation, and then the story is played on, unless the
renderer fails to clear the menu. -/
def ChoosesTo (c : Collaborators σ) (index : Value) (conversation : String) (e : Engine σ) : Prop :=
  ∃ f, Within { e with menu := none } f ∧
    ∀ f', (c.apply (some HostCall.clearing)).perform f = (.ok (), f') →
      ∃ beats e', e.script.lookup conversation = .ok beats ∧ e'.mode = .normal ∧
        e'.cursor = { script := e.script, beats, conversation } ∧
        (choose c index).perform e =
          (do discard (step c); return true : Play σ Bool).perform e'

variable {c : Collaborators σ} {e : Engine σ} {options : List ChoiceOption} {index : Value}
  {place : Nat} {option : ChoiceOption} {conversation : String}

theorem choosesTo_of_menu (hc : c.Heeds Within) (hmenu : e.menu = some options)
    (hmode : e.mode = .awaitingChoice) (hplace : placeOf index options.length = .ok place)
    (hoption : options[place]? = some option) (hleads : option.conversation = .text conversation)
    (hstep : e.cursor.script = e.script) (hcontains : e.script.contains conversation) :
    ChoosesTo c index conversation e := by
  obtain ⟨f, hf, htaken⟩ := choose_takes hc.deliver hmenu hmode hplace hoption
  refine ⟨f, hf, fun f' hclear => ?_⟩
  have hcleared : Within f f' := by
    have hwithin := hc.apply (some HostCall.clearing) f
    rw [hclear] at hwithin
    exact hwithin
  obtain ⟨x, rfl⟩ := trans_of Within hf hcleared
  obtain ⟨session, htakes, e', ⟨y, rfl⟩, hchoose⟩ := htaken _ hclear
    (.enters hleads (hstep ▸ hcontains))
  cases htakes with
  | @enters name beats hname hbeats =>
    obtain rfl : conversation = name := Value.text.inj (hleads.symm.trans hname)
    exact ⟨beats, _, hstep ▸ hbeats, rfl, congrArg (Cursor.mk · beats _ _ _) hstep, hchoose⟩
  | adjusts hnull =>
    rw [hleads] at hnull
    cases hnull

end Engine

/-- What is offered in a set after some deeds. -/
def offered (name : String) (log : List Deed) : List ChoiceOption :=
  (standing name (changes log)).map fun o => { text := .text o.1, conversation := .text o.2 }

theorem Engine.Stocked.menu {log : List Deed} {e : Engine σ} (h : e.Stocked log) (name : String) :
    ChoiceSets.menu name e.session.choiceSets = offered name log := by
  unfold ChoiceSets.menu
  rw [h.lists.listed, List.map_map]
  rfl

theorem Engine.ofSetup_menu {setup : Setup} {outside : σ} {e : Engine σ}
    (h : ofSetup setup outside = .ok e) : e.menu = none := by
  obtain ⟨s, _, h⟩ := bind_eq_ok.1 h
  cases h
  rfl

/-- **Choice sets hold the last additions.** At every moment of a run that takes over no snapshot,
with collaborators that do not call back, a set lists the texts that were added to it and have not
been taken out since, each once, with the conversation of its last addition and in the order of
their last additions. A command that shows the set presents exactly these options in this order.
While its menu waits, choosing one of them leads to its conversation, if the script has it. -/
theorem choice_sets_hold_last_additions {c : Collaborators σ} {setup : Setup} {outside : σ}
    {e₀ e : Engine σ} (hc : c.Heeds Within) (hscript : setup.script.Typed)
    (hlibrary : ∀ l, setup.library = some l → l.Typed) (hsetup : ofSetup setup outside = .ok e₀)
    (h : Instant c ((enterLoading c).perform e₀).2 e) :
    (∃ log, Annals e₀ log e) ∧ ∀ log, Annals e₀ log e → ∀ name,
      ((standing name (changes log)).map Prod.fst).Nodup ∧
      (Table.get? (.text name) e.session.choiceSets).getD [] =
        (standing name (changes log)).map Change.entry ∧
      ∀ cmd, e.cursor.current = some (.command cmd) → cmd.Shows name →
        Presents c cmd (offered name log) e ∧
        (e.menu.isSome → e.mode = .awaitingChoice ∧ e.menu = some (offered name log) ∧
          ∀ index place o, placeOf index (offered name log).length = .ok place →
            (standing name (changes log))[place]? = some o → e.script.contains o.2 →
            ChoosesTo c index o.2 e) := by
  refine ⟨h.annals (.never hc), fun log hlog name => ?_⟩
  obtain ⟨hsets, hsound, hb⟩ := ofSetup_stocked hsetup hscript hlibrary
  have hstocked := hlog.stocked hsets hsound hb
  have hmenu := hstocked.menu name
  refine ⟨Change.standing_nodup name _, hstocked.lists.listed name, fun cmd hbeat hshows => ?_⟩
  constructor
  · rw [← hmenu]
    exact ⟨execute_shows_nothing hc hshows, execute_shows_options hc hshows⟩
  · intro hwaits
    have hoffers := h.offers hc (ofSetup_menu hsetup)
    have hmode := hoffers.waits hwaits
    obtain ⟨options, hoptions⟩ := Option.isSome_iff_exists.1 hwaits
    obtain rfl : options = offered name log :=
      (hoffers.shown options cmd name hoptions hbeat hshows).trans hmenu
    refine ⟨hmode, hoptions, fun index place o hplace ho hcontains => ?_⟩
    have hoption : (offered name log)[place]? =
        some { text := .text o.1, conversation := .text o.2 } := by
      unfold offered
      rw [List.getElem?_map, ho]
      rfl
    exact choosesTo_of_menu hc hoptions hmode hplace hoption rfl hstocked.bound.inStep hcontains

/-- A story that builds up a set and shows it, as it is written. -/
def Engine.offeringDocument : Value :=
  .record [
    (.text "start", .list [.text ".addtochoiceset:menu:A:one", .text ".addtochoiceset:menu:B:two",
      .text ".addtochoiceset:menu:C:two", .text ".addtochoiceset:menu:A:three",
      .text ".removefromchoiceset:menu:B", .text ".showchoiceset:menu"]),
    (.text "two", .list [.text "Two"])]

/-- The story as it is played. -/
def Engine.offeringStory : Setup :=
  { script := (compile offeringDocument (.text "offering")).toOption.getD default }

/-- Whether a beat shows the set of the story. -/
def Script.Beat.showsMenu : Beat → Bool
  | .command { kind := .showChoiceSet, args := [v], .. } => (Value.text "menu").equal v
  | _ => false

theorem Script.Beat.exists_of_showsMenu {beat : Beat} (h : beat.showsMenu) :
    ∃ line, beat = .command { kind := .showChoiceSet, args := [.text "menu"], line } := by
  unfold showsMenu at h
  split at h
  · next line =>
    rw [Value.text_equal_iff.1 h]
    exact ⟨line, rfl⟩
  · cases h

/-- The text that was added again comes last, and the one that was taken out is gone. The first
option leads to the second conversation. -/
theorem choice_sets_hold_last_additions_offering :
    ∃ (e₀ e : Engine (List Intent)) (log : List Deed), ofSetup offeringStory [] = .ok e₀ ∧
      Instant .recording ((enterLoading .recording).perform e₀).2 e ∧ Annals e₀ log e ∧
      standing "menu" (changes log) = [("C", "two"), ("A", "three")] ∧
      e.menu = some (offered "menu" log) ∧ ChoosesTo .recording (.int 0) "two" e := by
  have hcompiled : compile offeringDocument (.text "offering") = .ok offeringStory.script :=
    compile_eq_ok_getD (by decide +kernel)
  have hfacts : (ofSetup offeringStory []).toOption.map (fun e₀ =>
      let e := HostCall.runAll .recording [.resourcesReady] ((enterLoading .recording).perform e₀).2
      (((Table.get? (.text "menu") e.session.choiceSets).getD []).map fun o =>
          (o.1.keyForm, o.2.keyForm),
        e.cursor.current.any Script.Beat.showsMenu, e.menu.isSome, e.script.contains "two")) =
      some ([(.text "C", .text "two"), (.text "A", .text "three")], true, true, true) := by
    decide +kernel
  obtain ⟨e₀, hsetup, hfacts⟩ := Option.map_eq_some_iff.1 hfacts
  have hsetup := toOption_eq_some.1 hsetup
  simp only [Prod.mk.injEq] at hfacts
  obtain ⟨hsets, hcurrent, hwaits, hcontains⟩ := hfacts
  have hrun : Instant .recording ((enterLoading .recording).perform e₀).2 _ :=
    .rests (Onward.refl.runAll [.resourcesReady] (by simp [HostCall.loads]))
  obtain ⟨beat, hbeat, hshows⟩ := (Option.any_eq_true _ _).1 hcurrent
  obtain ⟨line, rfl⟩ := Script.Beat.exists_of_showsMenu hshows
  obtain ⟨⟨log, hlog⟩, hall⟩ := choice_sets_hold_last_additions Collaborators.recording_heeds
    (compile_typed hcompiled) (fun _ hl => by cases hl) hsetup hrun
  obtain ⟨-, hlisted, hshown⟩ := hall log hlog "menu"
  obtain ⟨-, hmenu⟩ := hshown _ hbeat ⟨rfl, rfl⟩
  obtain ⟨-, hmenu, hchooses⟩ := hmenu hwaits
  have hstanding : standing "menu" (changes log) = [("C", "two"), ("A", "three")] := by
    have hinjective : Function.Injective fun o : String × String =>
        (KeyForm.text o.1, KeyForm.text o.2) := by
      rintro ⟨text, conversation⟩ ⟨text', conversation'⟩ h
      simpa using h
    rw [hlisted, List.map_map] at hsets
    exact List.map_injective_iff.2 hinjective hsets
  refine ⟨e₀, _, log, hsetup, hrun, hlog, hstanding, hmenu, ?_⟩
  refine hchooses (.int 0) 0 ("C", "two") ?_ ?_ hcontains
  · simp [offered, hstanding, placeOf, Value.toInt]
  · rw [hstanding]
    rfl

end VisualNovel
