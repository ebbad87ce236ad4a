import VisualNovel.Engine.Input
import VisualNovel.Engine.Persistence
import VisualNovel.Proofs.Stepping

/-!
# Calls of the host

All that a host can ask of an engine, as one type. A call that plays on does so at its end: what it
does before is its `opening`, which says whether there is something to play, and
`HostCall.run_eq` says that the call is its opening followed by a step if so.
-/

namespace VisualNovel

open Script

variable {σ : Type}

theorem Value.int_equal_self (n : Int) : (Value.int n).equal (.int n) := by
  simp [equal, same, sameSize, numeric?, compareNumeric]

theorem Engine.isEffect_of_number {n : Int} {i : Intent} (h : i.effectId = some (.int n)) :
    isEffect (.int n) i = true := by
  rw [isEffect, h]
  exact Value.int_equal_self n

/-- A call of the host. -/
inductive HostCall where
  | resourcesReady
  | step
  | advance
  | requestAdvance
  | tick (dt : Value)
  | choose (index : Value)
  | effectFinished (id : Value)
  | reportResourceError (message : Value)
  | setFlag (name value : Value)
  | saveToSlot (slot : Value)
  | loadFromSlot (slot : Value)
  | quicksave
  | quickload
  | autosave
  | restore (t : Snapshot)

namespace HostCall

open Engine

/-- Carries out a call. -/
def run (c : Collaborators σ) : HostCall → Play σ Unit
  | resourcesReady => Engine.resourcesReady c
  | step => discard (Engine.step c)
  | advance => discard (Engine.advance c)
  | requestAdvance => discard (Engine.requestAdvance c)
  | tick dt => Engine.tick c dt
  | choose index => discard (Engine.choose c index)
  | effectFinished id => discard (Engine.effectFinished c id)
  | reportResourceError message => Engine.reportResourceError c message
  | setFlag name value => Engine.setFlag name value
  | saveToSlot slot => discard (Engine.saveToSlot slot)
  | loadFromSlot slot => discard (Engine.loadFromSlot c slot)
  | quicksave => discard Engine.quicksave
  | quickload => discard (Engine.quickload c)
  | autosave => discard Engine.autosave
  | restore t => Engine.restore c t

/-- Whether a call can make the engine load. -/
def loads : HostCall → Bool
  | loadFromSlot _ | quickload | restore _ => true
  | _ => false

/-- Takes the displayed line away; whether there was one. -/
def passLine : Play σ Bool := do
  if !(← get).showsLine then return false
  modify fun e => { e with awaiting := false }
  modify (mapStage (Stage.mapTimedText TimedText.endLine))
  completeBeat
  return true

/-- Ends the effect of an identity; whether it was running. -/
def endEffect (c : Collaborators σ) (id : Value) : Play σ Bool := do
  let e ← get
  match e.effect.filter fun i => e.mode == .effectRunning && isEffect id i with
  | none =>
    note .warning s!"stale effect_finished({id.shown}) in mode {e.mode.name}"
    return false
  | some effect =>
    modify fun e => { e with effect := none }
    if effect.kind == .fadeBegin then
      send c .fadeEnd [("direction", effect.get "direction")]
    modify (mapSession Session.release)
    setMode c .normal
    completeBeat
    return true

/-- Takes an option of the menu; whether that was possible. -/
def takeOption (c : Collaborators σ) (index : Value) : Play σ Bool := do
  let e ← get
  match e.menu.filter fun _ => e.mode == .awaitingChoice with
  | none =>
    note .warning s!"choose({index.shown}) ignored in mode {e.mode.name}"
    return false
  | some options =>
    match ← Action.outcome (pick c options index) with
    | .error (.story error) =>
      fail c error
      return false
    | r =>
      Action.ofExcept r
      return true

/-- What a call does before it plays on; whether it does play on. -/
def opening (c : Collaborators σ) : HostCall → Play σ Bool
  | resourcesReady => do
    let mode := (← get).mode
    if mode != .loading then
      note .warning s!"resources_ready ignored in mode {mode.name}"
      return false
    setMode c .normal
    return true
  | step => do return (← get).running
  | advance => passLine
  | requestAdvance => do
    if !(← get).showsLine then return false
    if ← Action.attempt timedTextPlace TimedText.input then passLine
    else
      sendReveal c
      return false
  | tick dt => do
    if !(← get).showsLine then return false
    let fired ← Action.attempt timedTextPlace (TimedText.tick dt)
    sendReveal c
    if fired then passLine else return false
  | choose index => takeOption c index
  | effectFinished id => endEffect c id
  | call => do
    call.run c
    return false

/-- What comes after the opening of a call. -/
def playOn (c : Collaborators σ) (go : Bool) : Play σ Unit :=
  if go then discard (Engine.step c) else pure ()

theorem discard_eq {τ α : Type} (act : Action τ α) : discard act = act >>= fun _ => pure ⟨⟩ := by
  show Function.const α PUnit.unit <$> act = _
  rw [map_eq_pure_bind]

theorem discard_advance (c : Collaborators σ) :
    discard (Engine.advance c) = passLine >>= playOn c := by
  simp only [discard_eq, Engine.advance, passLine, bind_assoc]
  congr 1
  funext e
  cases e.showsLine <;> simp [playOn, discard_eq]

/-- A step that has nothing to play changes nothing. -/
theorem discard_step (c : Collaborators σ) :
    discard (Engine.step c) = (do return (← get).running) >>= playOn c := by
  refine funext fun e => ?_
  show discard (Engine.step c) e = playOn c e.running e
  cases hr : e.running with
  | true => rfl
  | false =>
    have hstep : (Engine.step c).perform e = (.ok !e.finished, e) := by
      show (if e.running && !e.stepping then _ else _ : Play σ Bool).perform e = _
      rw [hr]
      rfl
    rw [discard_eq]
    exact Action.perform_bind_ok hstep

/-- A call is its opening, followed by a step if there is something to play. -/
theorem run_eq (c : Collaborators σ) (call : HostCall) :
    call.run c = call.opening c >>= playOn c := by
  cases call with
  | resourcesReady =>
    simp only [run, opening, Engine.resourcesReady, bind_assoc]
    congr 1
    funext e
    split <;> simp [playOn]
  | step => exact discard_step c
  | advance => exact discard_advance c
  | requestAdvance =>
    simp only [run, opening, discard_eq, Engine.requestAdvance, bind_assoc]
    congr 1
    funext e
    cases e.showsLine with
    | false => simp [playOn]
    | true =>
      simp only [Bool.not_true, Bool.false_eq_true, if_false, bind_assoc]
      congr 1
      funext fired
      cases fired with
      | false => simp [playOn]
      | true => rw [if_pos rfl, if_pos rfl, ← discard_eq, discard_advance]
  | tick dt =>
    simp only [run, opening, Engine.tick, bind_assoc]
    congr 1
    funext e
    cases e.showsLine with
    | false => simp [playOn]
    | true =>
      simp only [Bool.not_true, Bool.false_eq_true, if_false, bind_assoc]
      congr 1
      funext fired
      congr 1
      funext _
      cases fired with
      | false => simp [playOn]
      | true => rw [if_pos rfl, if_pos rfl, discard_advance]
  | choose index =>
    simp only [run, opening, discard_eq, Engine.choose, takeOption, bind_assoc]
    congr 1
    funext e
    cases e.menu.filter fun _ => e.mode == .awaitingChoice with
    | none => simp [playOn]
    | some options =>
      simp only [bind_assoc]
      congr 1
      funext r
      rcases r with (error | m) | _ <;> simp [playOn, discard_eq]
  | effectFinished id =>
    simp only [run, opening, discard_eq, Engine.effectFinished, endEffect, bind_assoc]
    congr 1
    funext e
    cases e.effect.filter fun i => e.mode == .effectRunning && isEffect id i with
    | none => simp [playOn]
    | some effect =>
      by_cases hfade : effect.kind = .fadeBegin
      · simp [hfade, playOn, discard_eq]
      · simp [hfade, playOn, discard_eq]
  | _ => simp [opening, playOn]

end HostCall

end VisualNovel
