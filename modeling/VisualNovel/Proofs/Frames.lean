import VisualNovel.Proofs.Handover
import VisualNovel.Proofs.Impasses
import VisualNovel.Window.Loop

/-!
# Frames of a window

The loop of a window feeds input to its engine, reports what is loaded and what is done, lets time
pass and draws. `Window.Loop` has the engines that come up between the parts of frames, as long as
no part has failed. Their windows have the tasks that the engine has set, so no report is lost and
every report of an effect is taken (`Window.Loop.hands_over`).

A key chooses from the menu that is pending, but a click from the one that was drawn last. So a
choice exists if it is made with a key, or if the menu drawn last is not longer than the pending one
(`Window.Loop.chooses_within`).
-/

namespace VisualNovel

open Script

variable {σ : Type}

/-- What holds whenever an action ends without a fault. -/
theorem Ends.of_ok {α τ : Type} {act : Action τ α} {s : τ} {P : α → τ → Prop}
    (h : ∀ a s', act.perform s = (.ok a, s') → P a s') : Ends act s P fun _ _ => True :=
  Ends.iff_perform.2 ⟨h, fun _ _ _ => trivial⟩

/-- A report of the effect that runs is taken, if the call ends without a fault. -/
theorem Engine.effectFinished_takes (c : Collaborators σ) {e : Engine σ} {i : Intent} {id : Value}
    (hi : e.effect = some i) (hmode : e.mode = .effectRunning) (hid : isEffect id i) :
    Ends (effectFinished c id) e (fun taken _ => taken = true) fun _ _ => True := by
  have hfilter : (e.effect.filter fun i => e.mode == .effectRunning && isEffect id i) = some i := by
    simp [hi, hmode, hid]
  have hend : ∀ e : Engine σ, Ends (do
      modify (mapSession Session.release)
      setMode c .normal
      completeBeat
      discard (step c)
      return true : Play σ Bool) e (fun taken _ => taken = true) fun _ _ => True := by
    intro e
    refine Ends.bind_iff.2 (Ends.of_ok fun _ _ _ => Ends.bind_iff.2 (Ends.of_ok fun _ _ _ => ?_))
    exact Ends.bind_iff.2 (Ends.of_ok fun _ _ _ => Ends.bind_iff.2 (Ends.of_ok fun _ _ _ => rfl))
  refine Ends.bind_iff.2 (Ends.get_iff.2 ?_)
  rw [hfilter]
  refine Ends.bind_iff.2 (Ends.modify_iff.2 ?_)
  dsimp only
  split
  · exact Ends.bind_iff.2 (Ends.of_ok fun _ e₁ _ => hend e₁)
  · exact hend _

/-! ## What the window has drawn -/

/-- What is outside looks the same. -/
def SameView {γ : Type} (view : σ → γ) (o o' : σ) : Prop :=
  view o' = view o

instance {γ : Type} {view : σ → γ} : IsPreorder σ (SameView view) where
  refl _ := rfl
  trans _ _ _ h h' := Eq.trans h' h

namespace Collaborators

variable {γ α : Type} {view : Window → γ} {place : Place σ Window}

section
variable (hplace : ∀ w o, place.get (place.set w o) = w)
include hplace

theorem attempt_sameView (act : Attempt Desk α) (hact : Desk.Makes view id act) :
    Tracks (Outside (SameView fun o => view (place.get o)))
      (Action.attempt (deskPlace place) act) := by
  intro e
  show view (place.get (place.set _ e.outside)) = _
  rw [hplace]
  exact hact.eq { window := place.get e.outside, disk := e.stage.disk }

/-- A view of a window that nothing shows in stays the same. -/
theorem window_sameView (hprepare : ∀ scene, Desk.Makes view id (Desk.prepare scene))
    (happly : ∀ i, Desk.Makes view id (Desk.apply i))
    (herror : ∀ w error, view { w with error } = view w) :
    (window place).Track (Outside (SameView fun o => view (place.get o))) where
  prepare scene := attempt_sameView hplace (Desk.prepare scene) (hprepare scene)
  apply i _ := attempt_sameView hplace (Desk.apply i) (happly i)
  applyNothing e := refl_of (SameView fun o => view (place.get o)) e.outside
  showError text := attempt_sameView hplace (Desk.change (Window.showError (.text text)))
    (.change fun w => herror w _)
  deliver _ _ := .pure
  systemCall := Engine.answerCall_tracks Outside.lenient.toIncidental
  finished := .pure

end

end Collaborators

theorem Desk.choicePlaces_unstaged : Desk.Unstaged Window.choicePlaces :=
  { missing := fun _ _ => rfl, pictures := fun _ _ => rfl, sounds := fun _ _ _ => rfl
    marks := fun _ _ => rfl, scene := fun _ _ => rfl, visibleText := fun _ _ => rfl
    veil := fun _ _ => rfl }

theorem Desk.apply_choicePlaces (i : Intent) : Desk.Makes Window.choicePlaces id (Desk.apply i) :=
  Desk.apply_spares Desk.choicePlaces_unstaged (fun _ _ _ _ => rfl) (.inr fun _ _ _ => rfl)
    (.inr fun _ _ _ => rfl)

/-- Nothing that an engine has its window do changes where the options of a menu were drawn. -/
theorem Collaborators.window_choicePlaces {place : Place σ Window}
    (hplace : ∀ w o, place.get (place.set w o) = w) :
    (window place).Track (Outside (SameView fun o => (place.get o).choicePlaces)) :=
  window_sameView hplace
    (Desk.prepare_spares Desk.choicePlaces_unstaged fun _ _ _ _ => rfl)
    (fun _ => Desk.apply_choicePlaces _) fun _ _ => rfl

/-- No call changes where the options of a menu were drawn. -/
theorem HostCall.run_choicePlaces {place : Place σ Window}
    (hplace : ∀ w o, place.get (place.set w o) = w) (call : HostCall) :
    Tracks (Outside (SameView fun o => (place.get o).choicePlaces))
      (call.run (Collaborators.window place)) :=
  Outside.run (Collaborators.window_choicePlaces hplace) (fun i =>
    Collaborators.attempt_sameView hplace (Desk.apply i) (Desk.apply_choicePlaces i)) call

namespace Window

open Engine Collaborators

variable {place : Place σ Window} {drawn : List Value} {e e' : Engine σ}

/-! ## What the loop answers to input -/

/-- What the loop answers to what the player does. -/
inductive Response where
  | leave
  | pass
  /-- Turns the backlog. -/
  | turn (f : Backlog → Backlog)
  | call (hostCall : HostCall)

/-- Gives a response; whether the player stays. -/
def Response.run (c : Collaborators σ) : Response → Play σ Bool
  | leave => return false
  | pass => return true
  | turn f => do
    modify (Engine.backlogPlace.update f)
    return true
  | call hostCall => do
    hostCall.run c
    return true

/-- What the loop answers to a key. -/
def answerKey (place : Place σ Window) (e : Engine σ) : Key → Response
  | .advance => .call .requestAdvance
  | .number n =>
    let there := 0 < n && n ≤ (place.get e.outside).choices.length
    if e.mode == .awaitingChoice && there then .call (.choose (.int (n - 1 : Nat))) else .pass
  | .quickSave => .call .quicksave
  | .quickLoad => .call .quickload
  | .up => .turn Backlog.scrollUp
  | .down => .turn Backlog.scrollDown
  | .escape => .leave
  | .other => .pass

/-- What the loop answers to a click of the first button. -/
def answerClick (place : Place σ Window) (e : Engine σ) (point : Value) : Except Mishap Response :=
  if e.mode == .awaitingChoice then do
    match ← (place.get e.outside).choiceAt point with
    | some n => return .call (.choose (.int n))
    | none => return .pass
  else return .call .requestAdvance

/-- What the loop answers to what the player does. -/
def answer (place : Place σ Window) (e : Engine σ) : Input → Except Mishap Response
  | .quit => .ok .leave
  | .key k => .ok (answerKey place e k)
  | .click point button =>
    if button.equal (.int 1) then answerClick place e point else .ok .pass
  | .other => .ok .pass

/-- Input makes the loop ask for the next line, choose, save or load, and nothing else. -/
theorem answer_call {i : Input} {hostCall : HostCall}
    (h : answer place e i = .ok (.call hostCall)) :
    hostCall = .requestAdvance ∨ hostCall = .quicksave ∨ hostCall = .quickload ∨
      ∃ n : Nat, hostCall = .choose (.int n) := by
  cases i with
  | quit | other => cases h
  | key k =>
    cases k with
    | advance | quickSave | quickLoad =>
      cases h
      simp
    | number n =>
      simp only [answer, answerKey] at h
      split at h
      · cases h
        simp
      · cases h
    | up | down | escape | other => cases h
  | click point button =>
    simp only [answer, answerClick] at h
    split at h
    · split at h
      · obtain ⟨found, -, h⟩ := bind_eq_ok.1 h
        cases found with
        | none => cases h
        | some n =>
          cases h
          simp
      · cases h
        simp
    · cases h

theorem firstAt_lt {point : Value} {number n : Nat} {places : List Rect}
    (h : firstAt point number places = .ok (some n)) : n < number + places.length := by
  induction places generalizing number with
  | nil => cases h
  | cons r rest ih =>
    unfold firstAt at h
    split at h
    · obtain ⟨inside, -, h⟩ := bind_eq_ok.1 h
      cases inside with
      | true =>
        cases h
        simp
      | false =>
        have hlater := ih h
        rw [List.length_cons]
        omega
    · cases h

/-- A key chooses from the options that the window has, a click from those whose places it has. -/
theorem answer_choose {i : Input} {index : Value}
    (h : answer place e i = .ok (.call (.choose index))) :
    e.mode = .awaitingChoice ∧ ∃ n : Nat, index = .int n ∧
      ((∃ k, i = .key k) ∧ n < (place.get e.outside).choices.length ∨
        (∃ point button, i = .click point button) ∧
          n < (place.get e.outside).choicePlaces.length) := by
  cases i with
  | quit | other => cases h
  | key k =>
    cases k with
    | number n =>
      simp only [answer, answerKey] at h
      split at h
      · next hthere =>
        cases h
        simp only [Bool.and_eq_true, beq_iff_eq, decide_eq_true_eq] at hthere
        obtain ⟨hmode, hpos, hle⟩ := hthere
        exact ⟨hmode, n - 1, rfl, .inl ⟨⟨_, rfl⟩, by omega⟩⟩
      · cases h
    | advance | quickSave | quickLoad | up | down | escape | other => cases h
  | click point button =>
    simp only [answer, answerClick] at h
    split at h
    · split at h
      · next hmode =>
        obtain ⟨found, hfound, h⟩ := bind_eq_ok.1 h
        cases found with
        | none => cases h
        | some n =>
          cases h
          have hlt := firstAt_lt hfound
          exact ⟨by simpa using hmode, n, rfl, .inr ⟨⟨point, button, rfl⟩, by omega⟩⟩
      · cases h
    · cases h

/-- Answers what a player does; whether the player stays. -/
def respond (c : Collaborators σ) (place : Place σ Window) (i : Input) : Play σ Bool := do
  let response ← Action.ofMishap (answer place (← get) i)
  response.run c

theorem press_eq (c : Collaborators σ) {k : Key} (hk : k ≠ .escape) : (do
      press c place k
      return true) = respond c place (.key k) := by
  funext e
  cases k with
  | number n =>
    show ((if e.mode == .awaitingChoice && (0 < n && n ≤ (place.get e.outside).choices.length) then
        chooseAt c (some (n - 1)) else pure () : Play σ Unit) >>= fun _ => pure true) e =
      (Response.run c (if e.mode == .awaitingChoice &&
        (0 < n && n ≤ (place.get e.outside).choices.length) then
          .call (.choose (.int (n - 1 : Nat))) else .pass)) e
    split <;> rfl
  | escape => exact absurd rfl hk
  | _ => rfl

theorem click_eq (c : Collaborators σ) (point button : Value) :
    ((if button.equal (.int 1) then clickAt c place point else pure () : Play σ Unit) >>=
      fun _ => pure true) = respond c place (.click point button) := by
  funext e
  have hresponds : respond c place (.click point button) e = (Action.ofMishap
      (if button.equal (.int 1) then answerClick place e point else .ok .pass) >>=
        Response.run c) e := rfl
  rw [hresponds]
  cases button.equal (.int 1) with
  | false => rfl
  | true =>
    show ((if e.mode == .awaitingChoice then
        Action.ofMishap ((place.get e.outside).choiceAt point) >>= chooseAt c
        else discard (Engine.requestAdvance c) : Play σ Unit) >>= fun _ => pure true) e =
      (Action.ofMishap (answerClick place e point) >>= Response.run c) e
    unfold answerClick
    cases e.mode == .awaitingChoice with
    | false => rfl
    | true => rcases (place.get e.outside).choiceAt point with _ | _ | _ <;> rfl

/-- Input is answered one after the other, until the player leaves. -/
theorem takeInputs_cons (c : Collaborators σ) (i : Input) (rest : List Input) :
    takeInputs c place (i :: rest) = do
      if ← respond c place i then takeInputs c place rest else return false := by
  have hstays : ∀ {act : Play σ Unit}, (do act; return true) = respond c place i →
      (do act; takeInputs c place rest) = do
        if ← respond c place i then takeInputs c place rest else return false := by
    intro act hact
    rw [← hact]
    simp only [bind_assoc, pure_bind, if_true]
  cases i with
  | quit | other => rfl
  | key k =>
    by_cases hk : k = .escape
    · subst hk
      rfl
    · rw [← hstays (press_eq c hk)]
      cases k with
      | escape => exact absurd rfl hk
      | _ => rfl
  | click point button =>
    rw [← hstays (click_eq c point button), takeInputs]
    cases button.equal (.int 1) <;> rfl

/-! ## The parts of a frame -/

/-- Reports what is loaded. -/
def reportReady (c : Collaborators σ) (place : Place σ Window) : Play σ Unit := do
  let e ← get
  if (place.get e.outside).pendingReady && e.mode == .loading then
    modify (Engine.outsidePlace.update (place.update fun w => { w with pendingReady := false }))
    Engine.resourcesReady c

/-- Reports the end of an effect. -/
def reportEffect (c : Collaborators σ) (place : Place σ Window) : Play σ Unit := do
  let now := (place.get (← get).outside).ticks
  match ← Action.attempt (deskPlace place) (Desk.pollEffect now) with
  | some id => discard (Engine.effectFinished c id)
  | none => pure ()

theorem reportDone_eq (c : Collaborators σ) :
    reportDone c place = reportReady c place >>= fun _ => reportEffect c place := by
  unfold reportDone reportReady reportEffect
  rw [bind_assoc]
  refine congrArg (get >>= ·) (funext fun e => ?_)
  split
  · exact (bind_assoc _ _ _).symm
  · exact (pure_bind PUnit.unit fun _ : PUnit => reportEffect c place).symm

/-- The engine is at rest, its window has the tasks that it has set, and the options that were drawn
last have left so many places. -/
structure InStep (place : Place σ Window) (drawn : List Value) (e : Engine σ) : Prop where
  rest : e.AtRest fun _ => True
  entrusts : e.Entrusts (place.get e.outside).tasks
  drawn : (place.get e.outside).choicePlaces.length = drawn.length

namespace InStep

/-- What does not show in the tasks of the window may change. -/
theorem around (h : InStep place drawn e) (x : Surroundings σ)
    (hx : (place.get x.outside).tasks = (place.get e.outside).tasks) :
    InStep place drawn (e.within x) := by
  refine ⟨h.rest.within Keeps.nothing x, ?_, ?_⟩
  · show (e.within x).Entrusts (place.get x.outside).tasks
    rw [hx]
    exact h.entrusts.of_same rfl rfl rfl
  · show (place.get x.outside).tasks.choicePlaces.length = _
    rw [hx]
    exact h.drawn

/-- An effect that the window takes off is the one that the engine waits for, unless the session has
ended. -/
theorem taken (h : InStep place drawn e) {i : Intent} (hi : (place.get e.outside).effect = some i)
    (hgoes : e.mode ≠ .ended) :
    e.mode = .effectRunning ∧ e.effect = some i ∧ ∃ n : Int, i.effectId = some (.int n) := by
  have heffect : e.effect = some i := (h.entrusts.effect hgoes).symm.trans hi
  exact ⟨h.rest.fit.steady.effect.1 (by simp [heffect]), heffect, h.entrusts.number hgoes i heffect⟩

/-- The effect that the window takes off is the one that runs. -/
theorem poll (h : InStep place drawn e) (hgoes : e.mode ≠ .ended) (now : Value) :
    Ends (Action.attempt (deskPlace place) (Desk.pollEffect now)) e (fun found e' => ∀ id,
      found = some id → e'.mode = .effectRunning ∧ ∃ i, e'.effect = some i ∧ isEffect id i)
      fun _ _ => True := by
  refine Ends.attempt_iff.2 ((Desk.pollEffect_tasks now _).mono ?_ fun _ _ _ => trivial)
  rintro found d (⟨rfl, -⟩ | ⟨i, hi, rfl, -⟩) id hid
  · cases hid
  · obtain ⟨hruns, heffect, n, hn⟩ := h.taken hi hgoes
    rw [hn] at hid
    cases hid
    exact ⟨hruns, i, heffect, isEffect_of_number hn⟩

section
variable (hplace : ∀ w o, place.get (place.set w o) = w)
include hplace

/-- Calls keep engine and window in step if they keep the tasks so. -/
theorem of_handsOver (hrest : e.AtRest fun _ => True)
    (hdrawn : (place.get e.outside).choicePlaces.length = drawn.length) {call : HostCall}
    (hcall : HandsOver (fun o => (place.get o).tasks) (call.run (window place)) e) :
    Ends (call.run (window place)) e (fun _ e' => InStep place drawn e') fun _ _ => True := by
  have hran := HostCall.run_leads Keeps.nothing (window_tasked hplace).unwatched hrest
    fun t (_ : call.Brings e t) => Admits.nothing t
  have hplaces := Tracks.iff_ends.1 (HostCall.run_choicePlaces hplace call) e
  refine ((Ends.and (Ends.and hran hplaces) hcall)).mono ?_ fun _ _ _ => trivial
  rintro _ e' ⟨⟨hran, hplaces⟩, htasks⟩
  exact ⟨hran.atRest, htasks, (congrArg List.length hplaces).trans hdrawn⟩

theorem call (h : InStep place drawn e) (hostCall : HostCall)
    (hid : ∀ id, hostCall ≠ .effectFinished id) :
    Ends (hostCall.run (window place)) e (fun _ e' => InStep place drawn e') fun _ _ => True :=
  of_handsOver hplace h.rest h.drawn
    (HostCall.run_handsOver (window_tasked hplace) h.rest h.entrusts hid)

/-- Input is never a report. -/
theorem respond (h : InStep place drawn e) (i : Input) :
    Ends (respond (window place) place i) e (fun _ e' => InStep place drawn e')
      fun _ _ => True := by
  refine Ends.bind_iff.2 (Ends.get_iff.2 (Ends.bind_iff.2 (Ends.ofMishap_iff.2
    ⟨fun response hresponse => ?_, fun _ _ => trivial⟩)))
  cases response with
  | leave | pass => exact h
  | turn f =>
    have hrest := h.rest
    have hs := hrest.fit.steady
    have hturned : InStep place drawn (Engine.backlogPlace.update f e) :=
      ⟨⟨⟨⟨hs.effect, hs.menu, hs.options, hs.safe, hs.awaiting, hs.cursor, hs.script⟩, trivial⟩,
        hrest.running, hrest.stepping⟩, h.entrusts.of_same rfl rfl rfl, h.drawn⟩
    exact hturned
  | call hostCall =>
    refine Ends.bind_iff.2 ((h.call hplace hostCall fun id hid => ?_).mono (fun _ _ h => h)
      fun _ _ h => h)
    obtain rfl | rfl | rfl | ⟨n, rfl⟩ := answer_call hresponse <;> cases hid

theorem reportMissing (h : InStep place drawn e) :
    Ends (reportMissing (window place) place) e (fun _ e' => InStep place drawn e')
      fun _ _ => True := by
  refine Ends.bind_iff.2 (Ends.get_iff.2 ?_)
  split
  · exact h
  · have hreported := h.around { e.surroundings with
      outside := place.update (fun w => { w with missing := [] }) e.outside } (by
        show (place.get (place.set _ _)).tasks = _
        rw [hplace]
        rfl)
    refine Ends.bind_iff.2 (Ends.modify_iff.2 (Ends.bind_iff.2 (Ends.ofMishap_iff.2
      ⟨fun names _ => ?_, fun _ _ => trivial⟩)))
    have hcall := hreported.call hplace
      (.reportResourceError (.text ("Missing asset: " ++ ", ".intercalate names))) nofun
    exact Ends.bind_iff.2 (hcall.mono (fun _ _ h => h) fun _ _ h => h)

theorem reportReady (h : InStep place drawn e) :
    Ends (reportReady (window place) place) e (fun _ e' => InStep place drawn e')
      fun _ _ => True := by
  refine Ends.bind_iff.2 (Ends.get_iff.2 ?_)
  split
  · next hready =>
    simp only [Bool.and_eq_true, beq_iff_eq] at hready
    have hgoes : e.mode ≠ .ended := by simp [hready.2]
    refine Ends.bind_iff.2 (Ends.modify_iff.2 ?_)
    have htasks : (place.get (place.update (fun w => { w with pendingReady := false })
        e.outside)).tasks = { (place.get e.outside).tasks with pendingReady := false } := by
      show (place.get (place.set _ _)).tasks = _
      rw [hplace]
      rfl
    let x : Surroundings σ := { e.surroundings with
      outside := place.update (fun w => { w with pendingReady := false }) e.outside }
    have hentrusts : ({ e.within x with mode := .normal } : Engine σ).Entrusts
        (place.get x.outside).tasks := by
      rw [htasks]
      exact ⟨nofun, fun _ => h.entrusts.effect hgoes, fun _ => h.entrusts.choices hgoes,
        fun _ => h.entrusts.number hgoes⟩
    refine of_handsOver hplace (h.rest.within Keeps.nothing x) ?_
      (HostCall.resourcesReady_handsOver (window_tasked hplace) hready.2 hentrusts)
    show (place.get x.outside).tasks.choicePlaces.length = _
    rw [htasks]
    exact h.drawn
  · exact h

theorem tasks_set (w : Window) (o : σ) : (place.get (place.set w o)).tasks = w.tasks := by
  rw [hplace]

theorem reportEffect (h : InStep place drawn e) :
    Ends (reportEffect (window place) place) e (fun _ e' => InStep place drawn e')
      fun _ _ => True := by
  refine Ends.bind_iff.2 (Ends.get_iff.2 (Ends.bind_iff.2 (Ends.attempt_iff.2
    ((Desk.pollEffect_tasks _ _).mono ?_ fun _ _ _ => trivial))))
  intro found d hfound
  let x : Surroundings σ :=
    { e.surroundings with disk := d.disk, outside := place.set d.window e.outside }
  have hx : (place.get x.outside).tasks = d.window.tasks := tasks_set hplace _ _
  show Ends _ (e.within x) _ _
  obtain ⟨rfl, htasks⟩ | ⟨i, hi, rfl, htasks⟩ := hfound
  · exact h.around x (hx.trans htasks)
  · have hrest := h.rest.within Keeps.nothing x
    have hx : (place.get x.outside).tasks = { (place.get e.outside).tasks with effect := none } :=
      hx.trans htasks
    have hdrawn : (place.get x.outside).tasks.choicePlaces.length = drawn.length := by
      rw [hx]
      exact h.drawn
    by_cases hmode : e.mode = .ended
    · cases i.effectId with
      | none => exact ⟨hrest, .of_ended hmode, hdrawn⟩
      | some id =>
        exact of_handsOver hplace hrest hdrawn (HostCall.effectFinished_ignored
          (e := e.within x) (window_tasked hplace) (.of_ended hmode) hmode id)
    · obtain ⟨hruns, heffect, n, hid⟩ := h.taken hi hmode
      rw [hid]
      refine of_handsOver hplace hrest hdrawn (HostCall.effectFinished_handsOver
        (window_tasked hplace) hrest hruns heffect (isEffect_of_number hid) ?_ ?_)
      · show (place.get x.outside).tasks.effect = none
        rw [hx]
      · have hmenu := h.rest.fit.steady.menu_eq_none (by simp [hruns])
        show (place.get x.outside).tasks.choices = []
        rw [hx]
        exact (h.entrusts.choices hmode).trans (by rw [hmenu]; rfl)

theorem draw (h : InStep place drawn e) (backlog : Option Backlog) :
    Ends (Action.attempt (deskPlace place) (Desk.draw backlog)) e (fun _ e' =>
        InStep place (if (place.get e.outside).choices = [] then drawn else
          (place.get e.outside).choices) e') fun _ _ => True := by
  refine Ends.attempt_iff.2 ((Desk.draw_tasks _ _).mono ?_ fun _ _ _ => trivial)
  rintro _ d ⟨places, htasks, hplaces⟩
  let x : Surroundings σ :=
    { e.surroundings with disk := d.disk, outside := place.set d.window e.outside }
  have hx : (place.get x.outside).tasks =
      { (place.get e.outside).tasks with choicePlaces := places } :=
    (tasks_set hplace _ _).trans htasks
  show InStep place _ (e.within x)
  refine ⟨h.rest.within Keeps.nothing x, ?_, ?_⟩
  · show (e.within x).Entrusts (place.get x.outside).tasks
    rw [hx]
    have hdrawn : e.Entrusts { (place.get e.outside).tasks with choicePlaces := places } :=
      ⟨h.entrusts.ready, h.entrusts.effect, h.entrusts.choices, h.entrusts.number⟩
    exact hdrawn.of_same rfl rfl rfl
  · show (place.get x.outside).tasks.choicePlaces.length = _
    rw [hx]
    have hplaces : if (place.get e.outside).choices = [] then
        places = (place.get e.outside).choicePlaces
        else places.length = (place.get e.outside).choices.length := hplaces
    split_ifs at hplaces ⊢ with hnone
    · exact (congrArg List.length hplaces).trans h.drawn
    · exact hplaces

end

end InStep

/-! ## The loop -/

/-- The engine of a set-up when the window has reported that the first scene is loaded. -/
def loaded (place : Place σ Window) (setup : Setup) (outside : σ) : Option (Engine σ) :=
  (started (window place) setup outside).bind fun e =>
    match (reportReady (window place) place).perform e with
    | (.ok _, e') => some e'
    | _ => none

/-- The engines that come up between the parts of frames, as long as no part fails, beside the
options that their window drew last. In between, the host may call the engine, but it must not
report effects, and all but the tasks of the window may change. So time may pass. -/
inductive Loop (place : Place σ Window) (setup : Setup) (outside : σ) :
    List Value → Engine σ → Prop where
  | start {drawn : List Value} {e : Engine σ} : started (window place) setup outside = some e →
    (place.get outside).choicePlaces.length = drawn.length → Loop place setup outside drawn e
  | around {drawn : List Value} {e : Engine σ} (x : Surroundings σ) :
    Loop place setup outside drawn e →
    (place.get x.outside).tasks = (place.get e.outside).tasks →
    Loop place setup outside drawn (e.within x)
  | input {drawn : List Value} {e e' : Engine σ} {stays : Bool} (i : Input) :
    Loop place setup outside drawn e →
    (respond (window place) place i).perform e = (.ok stays, e') →
    Loop place setup outside drawn e'
  | missing {drawn : List Value} {e e' : Engine σ} {all : Bool} :
    Loop place setup outside drawn e →
    (reportMissing (window place) place).perform e = (.ok all, e') →
    Loop place setup outside drawn e'
  | ready {drawn : List Value} {e e' : Engine σ} : Loop place setup outside drawn e →
    (reportReady (window place) place).perform e = (.ok (), e') → Loop place setup outside drawn e'
  | effect {drawn : List Value} {e e' : Engine σ} : Loop place setup outside drawn e →
    (reportEffect (window place) place).perform e = (.ok (), e') → Loop place setup outside drawn e'
  | call {drawn : List Value} {e e' : Engine σ} (hostCall : HostCall) :
    Loop place setup outside drawn e → (∀ id, hostCall ≠ .effectFinished id) →
    (hostCall.run (window place)).perform e = (.ok (), e') → Loop place setup outside drawn e'
  | draw {drawn : List Value} {e e' : Engine σ} : Loop place setup outside drawn e →
    (Action.attempt (deskPlace place) (Desk.draw (some e.backlog))).perform e = (.ok (), e') →
    Loop place setup outside (if (place.get e.outside).choices = [] then drawn else
      (place.get e.outside).choices) e'

namespace Loop

variable {setup : Setup} {outside : σ}

section
variable (hplace : ∀ w o, place.get (place.set w o) = w)
include hplace

theorem start_inStep (hstart : started (window place) setup outside = some e)
    (hdrawn : (place.get outside).choicePlaces.length = drawn.length) : InStep place drawn e := by
  obtain ⟨e₀, hsetup, hrun⟩ := started_iff.1 hstart
  have hrest := (start_atRest Keeps.nothing (window_tasked hplace).unwatched hsetup trivial hrun).1
  obtain ⟨s, -, h⟩ := bind_eq_ok.1 hsetup
  cases h
  have htasks := (Ends.iff_perform.1
    (HostCall.enterLoading_handsOver (window_tasked hplace) rfl rfl)).1 _ _ hrun
  have hplaces := (Ends.iff_perform.1 (Tracks.iff_ends.1
    (enterLoading_tracks Outside.lenient (window_choicePlaces hplace)) _)).1 _ _ hrun
  exact ⟨hrest, htasks, (congrArg List.length hplaces).trans hdrawn⟩

theorem inStep (h : Loop place setup outside drawn e) : InStep place drawn e := by
  induction h with
  | start hstart hdrawn => exact start_inStep hplace hstart hdrawn
  | around x _ hx ih => exact ih.around x hx
  | input i _ hrun ih => exact (Ends.iff_perform.1 (ih.respond hplace i)).1 _ _ hrun
  | missing _ hrun ih => exact (Ends.iff_perform.1 (ih.reportMissing hplace)).1 _ _ hrun
  | ready _ hrun ih => exact (Ends.iff_perform.1 (ih.reportReady hplace)).1 _ _ hrun
  | effect _ hrun ih => exact (Ends.iff_perform.1 (ih.reportEffect hplace)).1 _ _ hrun
  | call hostCall _ hid hrun ih =>
    exact (Ends.iff_perform.1 (ih.call hplace hostCall hid)).1 _ _ hrun
  | draw _ hrun ih => exact (Ends.iff_perform.1 (ih.draw hplace _)).1 _ _ hrun

end

theorem of_loaded (hempty : (place.get outside).choicePlaces = [])
    (hloaded : loaded place setup outside = some e) : Loop place setup outside [] e := by
  obtain ⟨e₀, hstart, hready⟩ := Option.bind_eq_some_iff.1 hloaded
  split at hready
  · next hrun =>
    cases hready
    exact (Loop.start hstart (congrArg List.length hempty)).ready hrun
  · cases hready

theorem takeInputs (h : Loop place setup outside drawn e) (inputs : List Input) :
    Ends (takeInputs (window place) place inputs) e (fun _ e' => Loop place setup outside drawn e')
      fun _ _ => True := by
  induction inputs generalizing e with
  | nil => exact h
  | cons i rest ih =>
    rw [takeInputs_cons]
    refine Ends.bind_iff.2 (Ends.of_ok fun stays e₁ hrun => ?_)
    cases stays with
    | true => exact ih (h.input i hrun)
    | false => exact h.input i hrun

section
variable (hplace : ∀ w o, place.get (place.set w o) = w)
include hplace

/-- A frame without a fault ends between the parts of frames. -/
theorem frame (h : Loop place setup outside drawn e) (milliseconds : Value) (inputs : List Input) :
    Ends (frame (window place) place milliseconds inputs) e
      (fun _ e' => ∃ drawn, Loop place setup outside drawn e') fun _ _ => True := by
  refine Ends.bind_iff.2 (Ends.get_iff.2 (Ends.bind_iff.2 (Ends.ofMishap_iff.2
    ⟨fun later hlater => ?_, fun _ _ => trivial⟩)))
  have hlater : later.tasks = (place.get e.outside).tasks := by
    obtain ⟨ticks, -, h⟩ := bind_eq_ok.1 hlater
    cases h
    rfl
  have hpassed := h.around { e.surroundings with outside := place.set later e.outside } (by
    show (place.get (place.set _ _)).tasks = _
    rw [hplace, hlater])
  refine Ends.bind_iff.2 (Ends.modify_iff.2 (Ends.bind_iff.2 (Ends.ofMishap_iff.2
    ⟨fun seconds _ => ?_, fun _ _ => trivial⟩)))
  refine Ends.bind_iff.2 ((hpassed.takeInputs inputs).mono (fun stays e₁ h₁ => ?_) fun _ _ h => h)
  cases stays with
  | false => exact ⟨drawn, h₁⟩
  | true =>
    refine Ends.bind_iff.2 (Ends.of_ok fun all e₂ hmissing => ?_)
    have h₂ := h₁.missing hmissing
    cases all with
    | false => exact ⟨drawn, h₂⟩
    | true =>
      have hrest : Ends (reportReady (window place) place >>= fun _ =>
          reportEffect (window place) place >>= fun _ => do
            Engine.tick (window place) (.ofFloat seconds)
            Action.attempt (deskPlace place) (Desk.draw (some (← get).backlog))
            return true) e₂ (fun _ e' => ∃ drawn, Loop place setup outside drawn e')
          fun _ _ => True := by
        refine Ends.bind_iff.2 (Ends.of_ok fun _ e₃ hready => ?_)
        refine Ends.bind_iff.2 (Ends.of_ok fun _ e₄ heffect => ?_)
        refine Ends.bind_iff.2 (Ends.of_ok fun _ e₅ htick => ?_)
        refine Ends.bind_iff.2 (Ends.get_iff.2 (Ends.bind_iff.2 (Ends.of_ok fun _ e₆ hdraw => ?_)))
        exact ⟨_, (((h₂.ready hready).effect heffect).call (.tick _) nofun htick).draw hdraw⟩
      rw [← bind_assoc, ← reportDone_eq] at hrest
      exact hrest

end

section
variable (hplace : ∀ w o, place.get (place.set w o) = w)
include hplace

/-- Between the parts of frames no report is lost. A scene that is loading is ready to be reported.
An effect that runs is the one that the window shows, under its number, and a window that shows an
effect shows the one that runs, unless the session has ended; so a report of it is taken. The
options of the menu that waits are those that the window shows, and it shows none if nothing waits
for a choice. All this holds again after every frame without a fault, whatever the player does and
the clock shows. -/
theorem hands_over (h : Loop place setup outside drawn e) :
    (e.mode = .loading → (place.get e.outside).pendingReady = true) ∧
    (e.mode = .effectRunning → ∃ i, ∃ n : Int, e.effect = some i ∧ i.effectId = some (.int n) ∧
      (place.get e.outside).effect = some i) ∧
    (∀ i, (place.get e.outside).effect = some i →
      e.mode = .effectRunning ∧ e.effect = some i ∨ e.mode = .ended) ∧
    (e.mode = .awaitingChoice → ∃ options, options ≠ [] ∧ e.menu = some options ∧
      (place.get e.outside).choices = options.map ChoiceOption.text) ∧
    (e.mode = .normal ∨ e.mode = .loading ∨ e.mode = .effectRunning →
      (place.get e.outside).choices = []) ∧
    (∀ now id e₁, e.mode ≠ .ended →
      (Action.attempt (deskPlace place) (Desk.pollEffect now)).perform e = (.ok (some id), e₁) →
      (e₁.mode = .effectRunning ∧ ∃ i, e₁.effect = some i ∧ isEffect id i) ∧
      ∀ taken e₂, (Engine.effectFinished (window place) id).perform e₁ = (.ok taken, e₂) →
        taken = true) ∧
    ∀ milliseconds inputs goesOn e',
      (Window.frame (window place) place milliseconds inputs).perform e = (.ok goesOn, e') →
      ∃ drawn', Loop place setup outside drawn' e' := by
  have hin := h.inStep hplace
  have hs := hin.rest.fit.steady
  have htrust := hin.entrusts
  refine ⟨htrust.ready, fun hmode => ?_, fun i hi => ?_, fun hmode => ?_, fun hmode => ?_,
    fun now id e₁ hgoes hpoll => ?_, fun milliseconds inputs goesOn e' hframe =>
      (Ends.iff_perform.1 (h.frame hplace milliseconds inputs)).1 _ _ hframe⟩
  · have hgoes : e.mode ≠ .ended := by simp [hmode]
    obtain ⟨i, hi⟩ := Option.isSome_iff_exists.1 (hs.effect.2 hmode)
    obtain ⟨n, hn⟩ := htrust.number hgoes i hi
    exact ⟨i, n, hi, hn, (htrust.effect hgoes).trans hi⟩
  · by_cases hmode : e.mode = .ended
    · exact .inr hmode
    · obtain ⟨hruns, heffect, -⟩ := hin.taken hi hmode
      exact .inl ⟨hruns, heffect⟩
  · have hgoes : e.mode ≠ .ended := by simp [hmode]
    obtain ⟨options, hmenu⟩ := Option.isSome_iff_exists.1 (hs.menu.2 hmode)
    refine ⟨options, hs.options options hmenu, hmenu, (htrust.choices hgoes).trans ?_⟩
    rw [hmenu]
    rfl
  · have hgoes : e.mode ≠ .ended := by
      rintro hended
      simp [hended] at hmode
    have hmenu := hs.menu_eq_none (by
      rintro hasks
      simp [hasks] at hmode)
    refine (htrust.choices hgoes).trans ?_
    rw [hmenu]
    rfl
  · obtain ⟨hmode, i, hi, hid⟩ := (Ends.iff_perform.1 (hin.poll hgoes now)).1 _ _ hpoll id rfl
    exact ⟨⟨hmode, i, hi, hid⟩,
      (Ends.iff_perform.1 (effectFinished_takes (window place) hi hmode hid)).1⟩

omit hplace in
/-- The window fades when the engine waits for a fade. -/
theorem hands_over_fading : (∀ w o : Window, Place.whole.get (Place.whole.set w o) = w) ∧
    ∃ e : Engine Window, Loop .whole fading {} [] e ∧ e.mode = .effectRunning ∧
      ∃ i, e.effect = some i ∧ e.outside.effect = some i := by
  have hplace : ∀ w o : Window, Place.whole.get (Place.whole.set w o) = w := fun _ _ => rfl
  have hfades : (loaded .whole fading {}).map (·.mode) = some .effectRunning := by
    decide +kernel
  obtain ⟨e, he, hfades⟩ := Option.map_eq_some_iff.1 hfades
  have h : Loop .whole fading {} [] e := of_loaded rfl he
  obtain ⟨-, heffect, -⟩ := hands_over hplace h
  obtain ⟨i, -, hi, -, hshown⟩ := heffect hfades
  exact ⟨hplace, e, h, hfades, i, hi, hshown⟩

/-- Whenever the loop chooses, a menu waits. The option exists if it is chosen with a key. One that
is clicked at is an option of the menu that was drawn last; it exists if that one is not longer than
the menu that waits. -/
theorem chooses_within (h : Loop place setup outside drawn e) {i : Input} {index : Value}
    (hchooses : answer place e i = .ok (.call (.choose index))) :
    e.mode = .awaitingChoice ∧ ∃ options, e.menu = some options ∧ ∃ n : Nat, index = .int n ∧
      ((∃ k, i = .key k) → placeOf index options.length = .ok n) ∧
      ((∃ point button, i = .click point button) → n < drawn.length) ∧
      (drawn.length ≤ options.length → placeOf index options.length = .ok n) := by
  obtain ⟨hmode, n, rfl, hn⟩ := answer_choose hchooses
  have hin := h.inStep hplace
  have hgoes : e.mode ≠ .ended := by simp [hmode]
  obtain ⟨options, hmenu⟩ := Option.isSome_iff_exists.1 (hin.rest.fit.steady.menu.2 hmode)
  have hchoices : (place.get e.outside).choices.length = options.length := by
    have hshown : (place.get e.outside).choices = _ := hin.entrusts.choices hgoes
    rw [hshown, hmenu]
    simp
  have hplaceOf : n < options.length → placeOf (.int n) options.length = .ok n := by
    intro hlt
    simp [placeOf, Value.toInt, hlt]
  refine ⟨hmode, options, hmenu, n, rfl, ?_, ?_, fun hsize => ?_⟩
  · rintro ⟨k, rfl⟩
    obtain ⟨-, hlt⟩ | ⟨⟨_, _, hclick⟩, -⟩ := hn
    · exact hplaceOf (hchoices ▸ hlt)
    · cases hclick
  · rintro ⟨point, button, rfl⟩
    obtain ⟨⟨_, hkey⟩, -⟩ | ⟨-, hlt⟩ := hn
    · cases hkey
    · exact hin.drawn ▸ hlt
  · obtain ⟨-, hlt⟩ | ⟨-, hlt⟩ := hn
    · exact hplaceOf (hchoices ▸ hlt)
    · exact hplaceOf (Nat.lt_of_lt_of_le (hin.drawn ▸ hlt) hsize)

omit hplace in
/-- The second key chooses the second of two options. -/
theorem chooses_within_asking : ∃ e : Engine Window, Loop .whole Trial.asking {} [] e ∧
    answer .whole e (.key (.number 2)) = .ok (.call (.choose (.int 1))) ∧
    ∃ options, e.menu = some options ∧ placeOf (.int 1) options.length = .ok 1 := by
  have hasks : (loaded .whole Trial.asking {}).map (fun e =>
      e.mode == .awaitingChoice && e.outside.choices.length == 2) = some true := by
    decide +kernel
  obtain ⟨e, he, hasks⟩ := Option.map_eq_some_iff.1 hasks
  simp only [Bool.and_eq_true, beq_iff_eq] at hasks
  have h : Loop .whole Trial.asking {} [] e := of_loaded rfl he
  have hchooses : answer .whole e (.key (.number 2)) = .ok (.call (.choose (.int 1))) := by
    simp [answer, answerKey, hasks.1, Place.whole, hasks.2]
  obtain ⟨-, options, hmenu, n, hn, hkey, -⟩ := chooses_within (fun _ _ => rfl) h hchooses
  cases hn
  exact ⟨e, h, hchooses, options, hmenu, hkey ⟨_, rfl⟩⟩

end

end Loop

end Window

end VisualNovel
