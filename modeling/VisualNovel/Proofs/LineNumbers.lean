import VisualNovel.Engine.Hosts
import VisualNovel.Engine.Setup
import VisualNovel.Proofs.Relined
import VisualNovel.Proofs.SavedLines
import VisualNovel.Proofs.UnsetFlags

/-!
# Line numbers never feed back

An engine carries the lines of its script about: errors name them, events pass them on, and a
number that is no number knows the line it was written in. Nothing that the engine does depends on
them. `Engine.Relined` relates engines that differ in lines only, and all calls of a host keep to it
(`HostCall.answer_agrees`) if the collaborators do not look at lines either
(`Collaborators.IgnoresLines`). A console does not (`Collaborators.console_ignoresLines`).
-/

namespace VisualNovel

open Script

variable {σ : Type}

/-! ## Engines -/

/-- The events are the same but for lines. -/
inductive Event.Relined : Event → Event → Prop where
  | same (event : Event) : Relined event event
  | textShown {who who' text : Value} : who.unlined = who'.unlined →
    Relined (.textShown who text) (.textShown who' text)
  | commandRun {keyword : String} {args args' : List Value} {line line' : Value} :
    args.map Value.unlined = args'.map Value.unlined →
    Relined (.commandRun keyword args line) (.commandRun keyword args' line')
  | failed {error error' : StoryError} : error.unlined = error'.unlined →
    Relined (.failed error) (.failed error')
  | ended {error error' : StoryError} : error.unlined = error'.unlined →
    Relined (.ended (some error.text)) (.ended (some error'.text))

theorem Event.Relined.name {event event' : Event} (h : event.Relined event') :
    event.name = event'.name := by
  cases h <;> rfl

/-- The line without the line number of its speaker. -/
def Line.unlined (l : Line) : Line :=
  { l with name := l.name.unlined }

/-- The backlog without the lines of its speakers. -/
def Backlog.unlined (b : Backlog) : Backlog :=
  { b with lines := b.lines.map Line.unlined }

theorem Backlog.unlined_push (b : Backlog) (l : Line) :
    (b.push l).unlined = b.unlined.push l.unlined := by
  simp [unlined, push, lastOf]

namespace Engine

/-- The engines are the same but for lines. What their collaborators remember is related by `O`. -/
structure Relined (O : σ → σ → Prop) (e e' : Engine σ) : Prop where
  stage : e.stage.Relined e'.stage
  mode : e.mode = e'.mode
  error : e.error.map StoryError.unlined = e'.error.map StoryError.unlined
  awaiting : e.awaiting = e'.awaiting
  effect : e.effect.map Intent.unlined = e'.effect.map Intent.unlined
  effectCount : e.effectCount = e'.effectCount
  menu : e.menu = e'.menu
  stepping : e.stepping = e'.stepping
  strict : e.strict = e'.strict
  bus : e.bus = e'.bus
  backlog : e.backlog.unlined = e'.backlog.unlined
  saves : e.saves.map SaveStore.unlined = e'.saves.map SaveStore.unlined
  now : e.now = e'.now
  outside : O e.outside e'.outside

/-- Calls in tandem on engines that differ in lines only. -/
abbrev Agree (O : σ → σ → Prop) {α β : Type} (Q : α → β → Prop) (act : Play σ α) (act' : Play σ β) :
    Prop :=
  InTandem (Relined O) Q act act'

end Engine

/-- The collaborators do not look at lines. What they remember is related by `O`. -/
structure Collaborators.IgnoresLines (O : σ → σ → Prop) (c : Collaborators σ) : Prop where
  prepare : ∀ {scene scene' : Scene}, scene.unlined = scene'.unlined →
    Engine.Agree O Eq (c.prepare scene) (c.prepare scene')
  apply : ∀ {i i' : Option Intent}, i.map Intent.unlined = i'.map Intent.unlined →
    Engine.Agree O Eq (c.apply i) (c.apply i')
  showError : ∀ {error error' : StoryError}, error.unlined = error'.unlined →
    Engine.Agree O Eq (c.showError error.text) (c.showError error'.text)
  deliver : ∀ (id : Nat) {event event' : Event}, event.Relined event' →
    Engine.Agree O Eq (c.deliver id event) (c.deliver id event')
  systemCall : ∀ args, Engine.Agree O Eq (c.systemCall args) (c.systemCall args)
  finished : Engine.Agree O Eq c.finished c.finished

namespace Engine

variable {O : σ → σ → Prop} {α β : Type} {Q : α → β → Prop}

/-! ## Parts of the engine -/

theorem note_agrees (level : Level) (text text' : String) :
    Agree O Eq (note level text) (note level text') :=
  .modify fun _ _ h => { h with stage := h.stage.note level text text' }

/-- The stages may be changed as long as they differ in lines only. -/
theorem mapStage_agrees {f g : Stage → Stage} (hfg : ∀ s t, s.Relined t → (f s).Relined (g t)) :
    Agree O Eq (modify (mapStage f)) (modify (mapStage g)) :=
  .modify fun _ _ h => { h with stage := hfg _ _ h.stage }

theorem onStage_agrees {act : Action Stage α} {act' : Action Stage β} (h : Stage.Agree Q act act') :
    Agree O Q (onStage act) (onStage act') :=
  .onPart (fun _ _ h => h.stage) (fun _ _ _ _ h hstage => { h with stage := hstage }) h

theorem onDisk_agrees {act : Attempt Disk α} {act' : Attempt Disk β} (h : Disk.Agree Q act act') :
    Agree O Q (onDisk act) (onDisk act') :=
  .attempt (fun _ _ h => h.stage.files)
    (fun _ _ _ _ h hfiles => { h with stage := { h.stage with files := hfiles } }) h

theorem timing_agrees (act : Attempt TimedText α) :
    Agree O Eq (Action.attempt timedTextPlace act) (Action.attempt timedTextPlace act) :=
  .attempt (S := Eq) (fun _ _ h => h.stage.timedText)
    (fun _ _ _ _ h htext => { h with stage := { h.stage with timedText := htext } }) .self

theorem mapTimedText_agrees (f : TimedText → TimedText) :
    Agree O Eq (modify (mapStage (Stage.mapTimedText f)))
      (modify (mapStage (Stage.mapTimedText f))) :=
  mapStage_agrees fun _ _ h => { h with timedText := congrArg f h.timedText }

theorem release_agrees :
    Agree O Eq (modify (mapSession Session.release)) (modify (mapSession Session.release)) :=
  mapStage_agrees fun _ _ h => h.release

theorem completeBeat_agrees : Agree O Eq completeBeat completeBeat :=
  mapStage_agrees fun _ _ h => h.mapCursor fun _ _ hcd => hcd.advance 1

section
variable {c : Collaborators σ} (hc : c.IgnoresLines O)
include hc

/-! ## What a line of a story needs -/

theorem emit_agrees {event event' : Event} (h : event.Relined event') :
    Agree O Eq (emit c event) (emit c event') := by
  intro e e' he
  show Both _ _ ((emit c event).perform e).1 ((emit c event').perform e').1 ∧
    ((emit c event).perform e).2.Relined O ((emit c event').perform e').2
  rw [emit_result, emit_result]
  refine ⟨.ok rfl, emit_keeps_both h.name.symm ?same ?bus ?deliver ?note he⟩
  case same => exact fun e e' he => he.bus.symm
  case bus => exact fun f e e' he => { he with bus := congrArg f he.bus }
  case deliver =>
    intro id e e' he
    obtain ⟨hresult, hstate⟩ := hc.deliver id h e e' he
    exact ⟨hresult.isOk_eq, hstate⟩
  case note => exact fun text e e' he => { he with stage := he.stage.note _ _ _ }

theorem send_agrees {kind : IntentKind} {p q : Table String Value}
    (h : Table.mapValues Value.unlinedRow p = Table.mapValues Value.unlinedRow q) :
    Agree O Eq (send c kind p) (send c kind q) :=
  hc.apply (congrArg (fun p => some (Intent.mk kind p none)) h)

theorem setMode_agrees (mode : Mode) : Agree O Eq (setMode c mode) (setMode c mode) := by
  refine .get_bind fun e e' h => ?_
  dsimp only
  rw [h.mode]
  refine .ite .rfl (Tandem.bind_eq (.modify fun _ _ h => ?_) fun _ => emit_agrees hc (.same _))
    (.pure rfl)
  exact { h with mode := rfl }

theorem enterLoading_agrees : Agree O Eq (enterLoading c) (enterLoading c) := by
  refine (setMode_agrees hc _).bind_eq fun _ => .get_bind fun e e' h => ?_
  have hname : e.script.name = e'.script.name := h.stage.script.name
  have hconversation : e.cursor.conversation = e'.cursor.conversation :=
    h.stage.session.cursor.conversation
  rw [hname, hconversation]
  exact (emit_agrees hc (.same _)).bind_eq fun _ =>
    .get_bind fun e e' h => hc.prepare h.stage.session.scene

theorem finish_agrees : Agree O Eq (finish c) (finish c) := by
  refine .get_bind fun e e' h => .ite (by rw [finished, finished, h.mode]) (.pure rfl) ?_
  refine Tandem.bind_eq (.modify fun _ _ h => { h with
    effect := rfl, menu := rfl, awaiting := rfl }) fun _ => ?_
  refine Tandem.bind_eq (mapStage_agrees fun _ _ h => { h.release with
    timedText := congrArg TimedText.endLine h.timedText }) fun _ => ?_
  refine (setMode_agrees hc _).bind_eq fun _ => .get_bind fun e e' h => ?_
  refine Tandem.bind_eq (emit_agrees hc ?_) fun _ => hc.finished
  have herror := h.error
  generalize e.error = error at herror ⊢
  generalize e'.error = error' at herror ⊢
  cases rel_of_map herror with
  | none => exact .same _
  | some hsame => exact .ended hsame

theorem fail_agrees {error error' : StoryError} (herror : error.unlined = error'.unlined) :
    Agree O Eq (fail c error) (fail c error') := by
  refine .get_bind fun e e' h => .ite (by rw [finished, finished, h.mode]) (.pure rfl) ?_
  refine Tandem.bind_eq (.modify fun _ _ h => { h with error := congrArg some herror }) fun _ => ?_
  refine (note_agrees _ _ _).bind_eq fun _ => (emit_agrees hc (.failed herror)).bind_eq fun _ => ?_
  refine (hc.showError herror).bind_eq fun _ => (finish_agrees hc).bind_eq fun _ => ?_
  refine .get_bind fun e e' h => ?_
  rw [h.strict]
  exact .ite .rfl (.throw (congrArg Fault.story herror)) (.pure rfl)

/-- A line of a speaker is displayed. -/
theorem shownLine_agrees {who who' : Value} (hwho : who.unlined = who'.unlined)
    (text conversation : Value) (wait : Bool) :
    Agree O Eq (do
      modify fun e => { e with backlog := e.backlog.push { name := who, text, conversation } }
      modify (mapStage (Stage.mapScene fun s => { s with speech := text }))
      emit c (.textShown who text)
      let visible ← if wait then display.appear text else pure text
      send c .showText [("speaker", who), ("text", text), ("visible", visible)]) (do
      modify fun e => { e with backlog := e.backlog.push { name := who', text, conversation } }
      modify (mapStage (Stage.mapScene fun s => { s with speech := text }))
      emit c (.textShown who' text)
      let visible ← if wait then display.appear text else pure text
      send c .showText [("speaker", who'), ("text", text), ("visible", visible)]) := by
  refine Tandem.bind_eq (.modify fun _ _ h => { h with backlog := ?_ }) fun _ => ?_
  · rw [Backlog.unlined_push, Backlog.unlined_push, h.backlog]
    exact congrArg (fun name => Backlog.push _ (Line.mk name text conversation)) hwho
  refine Tandem.bind_eq (mapStage_agrees fun _ _ h => h.mapScene fun x y hxy => ?_) fun _ => ?_
  · exact congrArg (fun x : Scene => { x with speech := text.unlined }) hxy
  have hsend : ∀ visible : Value, Agree O Eq
      (send c .showText [("speaker", who), ("text", text), ("visible", visible)])
      (send c .showText [("speaker", who'), ("text", text), ("visible", visible)]) :=
    fun visible => send_agrees hc (payload_cons hwho rfl)
  refine (emit_agrees hc (.textShown hwho)).bind_eq fun _ => .ite .rfl ?_ ?_
  · refine Tandem.bind_eq ?_ hsend
    refine (timing_agrees _).bind_eq fun _ => Tandem.bind_eq (.modify fun _ _ h => { h with
      awaiting := rfl }) fun _ => .get_bind fun e e' h => ?_
    rw [h.stage.timedText]
    exact InTandem.ofMishap_same
  · exact (Tandem.pure rfl).bind_eq hsend

theorem display_agrees (text speaker : Value) (wait : Bool) :
    Agree O Eq (display c text speaker wait) (display c text speaker wait) := by
  refine .get_bind fun e e' h => ?_
  have hconversation : e.cursor.conversation = e'.cursor.conversation :=
    h.stage.session.cursor.conversation
  have hspeaker : e.session.scene.speaker.unlined = e'.session.scene.speaker.unlined :=
    congrArg Scene.speaker h.stage.session.scene
  rw [hconversation]
  cases speaker with
  | null => exact shownLine_agrees hc hspeaker text _ wait
  | _ => exact shownLine_agrees hc rfl text _ wait

theorem present_agrees (options : List ChoiceOption) (line : Value) :
    Agree O Eq (present c options line) (present c options line) := by
  unfold present
  have hmenu : Agree O Eq (do
      let o := (← get).session.overrides
      let texts := options.map ChoiceOption.text
      emit c (.choicesShown texts)
      send c .showChoices [("options", .list texts),
        ("offset", .list [o.choiceboxOffsetX, o.choiceboxOffsetY])]) (do
      let o := (← get).session.overrides
      let texts := options.map ChoiceOption.text
      emit c (.choicesShown texts)
      send c .showChoices [("options", .list texts),
        ("offset", .list [o.choiceboxOffsetX, o.choiceboxOffsetY])]) := by
    refine .get_bind fun e e' h => (emit_agrees hc (.same _)).bind_eq fun _ => send_agrees hc ?_
    have hx : e.session.overrides.choiceboxOffsetX.unlined =
        e'.session.overrides.choiceboxOffsetX.unlined :=
      congrArg Overrides.choiceboxOffsetX h.stage.session.overrides
    have hy : e.session.overrides.choiceboxOffsetY.unlined =
        e'.session.overrides.choiceboxOffsetY.unlined :=
      congrArg Overrides.choiceboxOffsetY h.stage.session.overrides
    simp [Table.mapValues, Value.unlinedRow, hx, hy]
  refine Tandem.bind_eq (mapStage_agrees fun _ _ h => h.capture) fun _ => ?_
  refine Tandem.bind_eq (.modify fun _ _ h => { h with menu := rfl }) fun _ => ?_
  refine (setMode_agrees hc _).bind_eq fun _ => ?_
  cases line with
  | null => exact hmenu
  | _ => exact (display_agrees hc _ _ _).bind_eq fun _ => hmenu

theorem hold_agrees {kind : IntentKind} {p q : Table String Value}
    (h : Table.mapValues Value.unlinedRow p = Table.mapValues Value.unlinedRow q) :
    Agree O Eq (hold c kind p) (hold c kind q) := by
  refine Tandem.bind_eq (.modify fun e e' he => ?_) fun _ =>
    (setMode_agrees hc _).bind_eq fun _ => .get_bind fun e e' he => hc.apply he.effect
  refine { he with effectCount := congrArg (· + 1) he.effectCount, effect := ?_ }
  rw [he.effectCount]
  exact congrArg (fun p => some (Intent.mk kind p _)) h

theorem settle_agrees {o o' : Outcome} (h : o.unlined = o'.unlined) :
    Agree O Eq (settle c o) (settle c o') := by
  cases o with
  | proceed intents => cases o' with
    | proceed intents' =>
      refine (Tandem.forM (Outcome.proceed.inj h) fun i i' hi => ?_).bind_eq fun _ =>
        completeBeat_agrees
      exact hc.apply (congrArg some hi)
    | _ => cases h
  | stay => cases o' with
    | stay => exact .pure rfl
    | _ => cases h
  | hold kind p => cases o' with
    | hold kind' q =>
      obtain ⟨rfl, hpq⟩ := Outcome.hold.inj h
      exact hold_agrees hc hpq
    | _ => cases h
  | ask options line => cases o' with
    | ask options' line' =>
      obtain ⟨rfl, rfl⟩ := Outcome.ask.inj h
      exact present_agrees hc options line
    | _ => cases h
  | call args => cases o' with
    | call args' =>
      obtain rfl := Outcome.call.inj h
      exact (hc.systemCall args).bind_eq fun _ => completeBeat_agrees
    | _ => cases h

theorem execute_agrees {cmd cmd' : Script.Command} (h : cmd.Relined cmd') :
    Agree O Eq (execute c cmd) (execute c cmd') := by
  have hlength : cmd.args.length = cmd'.args.length := by simpa using congrArg List.length h.args
  have hwf : Command.wellFormed cmd = Command.wellFormed cmd' := by
    rw [Command.wellFormed, Command.wellFormed, h.kind, hlength]
  have hrest : Command.wellFormed cmd → Agree O Eq (do
      emit c (.commandRun cmd.kind.keyword cmd.args cmd.line)
      settle c (← onStage (Command.perform cmd))) (do
      emit c (.commandRun cmd'.kind.keyword cmd'.args cmd'.line)
      settle c (← onStage (Command.perform cmd'))) := by
    intro hwf
    rw [h.kind]
    exact (emit_agrees hc (.commandRun h.args)).bind_eq fun _ =>
      (onStage_agrees (Command.perform_relined hwf h)).bind fun o o' ho => settle_agrees hc ho
  unfold execute
  rw [← hwf]
  cases hfits : Command.wellFormed cmd with
  | true => exact hrest hfits
  | false =>
    -- What would follow the error is not reached.
    refine .get_bind fun e e' he => Tandem.bind (Q := fun _ _ => False) (.throw ?_)
      fun _ _ hreached => hreached.elim
    have hconversation : e.cursor.conversation = e'.cursor.conversation :=
      he.stage.session.cursor.conversation
    have herror : (Command.arityError cmd e.cursor.conversation).unlined =
        (Command.arityError cmd' e'.cursor.conversation).unlined := by
      rw [hconversation]
      simp only [Command.arityError, h.kind, hlength]
      rfl
    exact congrArg Fault.story herror

omit hc in
theorem neverYields_congr {e e' : Engine σ} (h : e.Relined O e') (line line' : Value) :
    (e.neverYields line).unlined = (e'.neverYields line').unlined := by
  have hname : e.script.name = e'.script.name := h.stage.script.name
  have hconversation : e.cursor.conversation = e'.cursor.conversation :=
    h.stage.session.cursor.conversation
  rw [neverYields, neverYields, hname, hconversation]
  rfl

theorem playBeats_agrees (turns budget : Nat) :
    Agree O Eq (playBeats c turns budget) (playBeats c turns budget) := by
  fun_induction playBeats c turns budget with
  | case1 => exact .pure rfl
  | case2 turns budget ih₁ ih₂ =>
    refine .get_bind fun e e' h => .ite ?_ (.pure rfl) ?_
    · rw [running, running, h.mode, h.awaiting]
    have hcurrent : Option.Rel Beat.Relined e.cursor.current e'.cursor.current :=
      h.stage.session.cursor.current
    generalize e.cursor.current = found at hcurrent ⊢
    generalize e'.cursor.current = found' at hcurrent ⊢
    cases hcurrent with
    | none => exact finish_agrees hc
    | some hbeat => cases hbeat with
      | @dialogue d d' htext hspeaker =>
        dsimp only
        rw [htext, hspeaker]
        exact (display_agrees hc _ _ _).bind_eq fun _ => ih₁
      | command hcmd => cases budget with
        | zero => exact .throw (congrArg Fault.story (neverYields_congr h _ _))
        | succ budget => exact (execute_agrees hc hcmd).bind_eq fun _ => ih₂ budget

theorem orFail_agrees {act act' : Play σ Unit} (h : Agree O Eq act act') :
    Agree O Eq (orFail c act) (orFail c act') := by
  refine (InTandem.outcome h).bind fun r r' hr => ?_
  cases hr with
  | ok hsame => exact InTandem.ofExcept (.ok hsame)
  | error hfault =>
    obtain ⟨error, error', rfl, rfl, herror⟩ | ⟨m, rfl, rfl⟩ := Fault.cases_of_unlined_eq hfault
    · exact fail_agrees hc herror
    · exact InTandem.ofExcept_same

theorem step_agrees : Agree O Eq (step c) (step c) := by
  unfold step
  have hend : Agree O Eq (do return !(← get).finished : Play σ Bool)
      (do return !(← get).finished : Play σ Bool) :=
    .get_bind fun e e' h => by
      rw [finished, finished, h.mode]
      exact .pure rfl
  refine .get_bind fun e e' h => .ite ?_ ?_ hend
  · rw [running, running, h.mode, h.awaiting, h.stepping]
  refine Tandem.bind_eq (.modify fun _ _ h => { h with stepping := rfl }) fun _ => ?_
  refine (InTandem.outcome (orFail_agrees hc (playBeats_agrees hc _ _))).bind fun r r' hr => ?_
  refine Tandem.bind_eq (.modify fun _ _ h => { h with stepping := rfl }) fun _ => ?_
  exact (InTandem.ofExcept hr).bind_eq fun _ => hend

/-! ## Calls of the host -/

theorem advance_agrees : Agree O Eq (advance c) (advance c) := by
  refine .get_bind fun e e' h => .ite ?_ (.pure rfl) ?_
  · rw [showsLine, showsLine, h.mode, h.awaiting]
  refine Tandem.bind_eq (.modify fun _ _ h => { h with awaiting := rfl }) fun _ => ?_
  refine (mapTimedText_agrees _).bind_eq fun _ => completeBeat_agrees.bind_eq fun _ => ?_
  exact (step_agrees hc).discard.bind_eq fun _ => .pure rfl

theorem sendReveal_agrees : Agree O Eq (sendReveal c) (sendReveal c) := by
  refine .get_bind fun e e' h => ?_
  dsimp only
  rw [h.stage.timedText]
  refine .ite .rfl ((mapTimedText_agrees _).bind_eq fun _ => ?_) (.pure rfl)
  exact InTandem.ofMishap_same.bind_eq fun _ => InTandem.ofMishap_same.bind_eq fun _ =>
    send_agrees hc rfl

theorem requestAdvance_agrees : Agree O Eq (requestAdvance c) (requestAdvance c) := by
  refine .get_bind fun e e' h => .ite ?_ (.pure rfl) ?_
  · rw [showsLine, showsLine, h.mode, h.awaiting]
  exact (timing_agrees _).bind_eq fun _ =>
    .ite .rfl (advance_agrees hc) ((sendReveal_agrees hc).bind_eq fun _ => .pure rfl)

theorem tick_agrees (dt : Value) : Agree O Eq (tick c dt) (tick c dt) := by
  refine .get_bind fun e e' h => .ite ?_ (.pure rfl) ?_
  · rw [showsLine, showsLine, h.mode, h.awaiting]
  exact (timing_agrees _).bind_eq fun _ => (sendReveal_agrees hc).bind_eq fun _ =>
    .ite .rfl (advance_agrees hc).discard (.pure rfl)

theorem effectFinished_agrees (id : Value) :
    Agree O Eq (effectFinished c id) (effectFinished c id) := by
  unfold effectFinished
  refine .get_bind fun e e' h => ?_
  have hend : Agree O Eq (do
      modify (mapSession Session.release)
      setMode c .normal
      completeBeat
      discard (step c)
      return true) (do
      modify (mapSession Session.release)
      setMode c .normal
      completeBeat
      discard (step c)
      return true) :=
    release_agrees.bind_eq fun _ => (setMode_agrees hc _).bind_eq fun _ =>
      completeBeat_agrees.bind_eq fun _ => (step_agrees hc).discard.bind_eq fun _ => .pure rfl
  have hfound : (e.effect.filter fun i => e.mode == .effectRunning && isEffect id i).map
      Intent.unlined = (e'.effect.filter fun i =>
        e'.mode == .effectRunning && isEffect id i).map Intent.unlined := by
    have hshown : ∀ effect : Option Intent,
        (effect.filter fun i => e'.mode == .effectRunning && isEffect id i).map Intent.unlined =
          (effect.map Intent.unlined).filter fun i =>
            e'.mode == .effectRunning && isEffect id i := fun effect => by
      rw [Option.filter_map]
      rfl
    rw [h.mode, hshown, hshown, h.effect]
  generalize (e.effect.filter fun i => e.mode == .effectRunning && isEffect id i) = found
    at hfound ⊢
  generalize (e'.effect.filter fun i => e'.mode == .effectRunning && isEffect id i) = found'
    at hfound ⊢
  cases rel_of_map hfound with
  | none => exact (note_agrees _ _ _).bind_eq fun _ => .pure rfl
  | @some i i' hsame =>
    have hi : i.unlined = i'.unlined := hsame
    have hkind : i.kind = i'.kind := (Intent.mk.inj hi).1
    refine Tandem.bind_eq (.modify fun _ _ h => { h with effect := rfl }) fun _ => ?_
    refine .ite (by rw [hkind]) ?_ hend
    refine Tandem.bind_eq (send_agrees hc ?_) fun _ => hend
    refine congrArg (fun v => [("direction", v)]) ?_
    rw [Intent.unlinedRow_get, hi, ← Intent.unlinedRow_get]

omit hc in
theorem follow_agrees (option : ChoiceOption) :
    Agree O Eq (follow option : Play σ Unit) (follow option) := by
  unfold follow
  split
  · refine InTandem.ofMishap_same.bind_eq fun delta => Tandem.bind_eq ?_ fun _ =>
      completeBeat_agrees
    exact mapStage_agrees fun _ _ h => h.mapFlags _
  · exact onStage_agrees (Stage.switchConversation_relined _)

theorem pick_agrees (options : List ChoiceOption) (index : Value) :
    Agree O Eq (pick c options index) (pick c options index) := by
  unfold pick
  refine InTandem.ofExcept_same.bind_eq fun place => ?_
  split
  · exact .pure rfl
  · refine Tandem.bind_eq (.modify fun _ _ h => { h with menu := rfl }) fun _ => ?_
    refine (emit_agrees hc (.same _)).bind_eq fun _ => (send_agrees hc rfl).bind_eq fun _ => ?_
    exact (follow_agrees _).bind_eq fun _ => release_agrees.bind_eq fun _ => setMode_agrees hc _

theorem choose_agrees (index : Value) : Agree O Eq (choose c index) (choose c index) := by
  unfold choose
  refine .get_bind fun e e' h => ?_
  rw [h.menu, h.mode]
  split
  · exact (note_agrees _ _ _).bind_eq fun _ => .pure rfl
  · refine (InTandem.outcome (pick_agrees hc _ _)).bind fun r r' hr => ?_
    have hend : ∀ {r r' : Except Fault Unit}, Both (InvImage Eq Fault.unlined) Eq r r' →
        Agree O Eq (do
          Action.ofExcept r
          discard (step c)
          return true : Play σ Bool) (do
          Action.ofExcept r'
          discard (step c)
          return true) := fun hr =>
      (InTandem.ofExcept hr).bind_eq fun _ => (step_agrees hc).discard.bind_eq fun _ => .pure rfl
    cases hr with
    | ok hsame => exact hend (.ok hsame)
    | error hfault =>
      obtain ⟨error, error', rfl, rfl, herror⟩ | ⟨m, rfl, rfl⟩ := Fault.cases_of_unlined_eq hfault
      · exact (fail_agrees hc herror).bind_eq fun _ => .pure rfl
      · exact hend (.error rfl)

omit hc in
theorem setFlag_agrees (name value : Value) :
    Agree O Eq (setFlag name value : Play σ Unit) (setFlag name value) :=
  InTandem.ofMishap_same.bind_eq fun _ => InTandem.ofMishap_same.bind_eq fun _ =>
    mapStage_agrees fun _ _ h => h.mapFlags _

/-! ## Saving and restoring -/

omit hc in
theorem scriptOf_agrees {t t' : Snapshot} (h : t.script = t'.script) :
    Stage.Agree Script.Relined (scriptOf t) (scriptOf t') := by
  refine .get_bind fun s s' hs => ?_
  have hname : s.script.name = s'.script.name := hs.script.name
  dsimp only
  rw [h, hname]
  refine .ite .rfl (.pure hs.script) ?_
  exact (Stage.fetchScript_relined rfl _).mono fun script _ hsame => hsame ▸ .refl script

omit hc in
theorem retimeFromSession_agrees :
    Stage.Agree Eq Stage.retimeFromSession Stage.retimeFromSession := by
  refine .get_bind fun s s' h => ?_
  have hoverrides := h.session.overrides
  have hrate : s.session.overrides.typewriterRate.unlined =
      s'.session.overrides.typewriterRate.unlined := congrArg Overrides.typewriterRate hoverrides
  have hskip : s.session.overrides.typewriterCanSkip.unlined =
      s'.session.overrides.typewriterCanSkip.unlined :=
    congrArg Overrides.typewriterCanSkip hoverrides
  have hseconds : s.session.overrides.cinematicSeconds.unlined =
      s'.session.overrides.cinematicSeconds.unlined :=
    congrArg Overrides.cinematicSeconds hoverrides
  have hallowed : s.session.overrides.cinematicInputAllowed.unlined =
      s'.session.overrides.cinematicInputAllowed.unlined :=
    congrArg Overrides.cinematicInputAllowed hoverrides
  dsimp only
  rw [TimedText.setTypewriter_congr hrate hskip, TimedText.setCinematic_congr hseconds hallowed,
    Command.greater_zero_congr hseconds]
  refine (Stage.retime_relined _).bind_eq fun _ => (Stage.retime_relined _).bind_eq fun _ => ?_
  exact InTandem.ofMishap_same.bind_eq fun _ => .ite .rfl (Stage.retime_relined _) (.pure rfl)

/-- Snapshots are taken over alike. -/
theorem restore_agrees {t t' : Snapshot} (h : t.unlined = t'.unlined) :
    Agree O Eq (restore c t) (restore c t') := by
  obtain ⟨hscript, hplace, hflags, hoverrides, hscene, hsets, -⟩ := Snapshot.mk.inj h
  refine (onStage_agrees (scriptOf_agrees hscript)).bind fun s s' hs => ?_
  rw [hplace]
  refine (InTandem.ofStory (hs.rebind t'.cursor)).bind fun cursor cursor' hcursor => ?_
  dsimp only
  rw [hs.name, hscript]
  refine Tandem.bind_eq (mapStage_agrees fun _ _ hst => hst.enter hs hcursor) fun _ => ?_
  refine Tandem.bind_eq (mapStage_agrees fun _ _ hst => hst.mapSession ?_) fun _ => ?_
  · exact {
      cursor := hst.session.cursor, scriptName := rfl, flags := hflags, overrides := hoverrides
      scene := hscene, choiceSets := hsets, safe := rfl }
  refine Tandem.bind_eq (.modify fun _ _ h => { h with
    effect := rfl, menu := rfl, awaiting := rfl, error := rfl }) fun _ => ?_
  refine (mapTimedText_agrees _).bind_eq fun _ => ?_
  exact (onStage_agrees retimeFromSession_agrees).bind_eq fun _ => enterLoading_agrees hc

theorem loadFrom_agrees {read read' : Attempt Disk (Option Value)}
    (h : Disk.Agree (InvImage Eq (Option.map Value.unlined)) read read') :
    Agree O Eq (loadFrom c read) (loadFrom c read') := by
  refine (onDisk_agrees h).bind fun found found' hfound => ?_
  have hdata : (found.getD .null).unlined = (found'.getD .null).unlined := by
    have hget : ∀ found : Option Value, (found.getD .null).unlined =
        (found.map Value.unlined).getD .null := fun found => by cases found <;> rfl
    rw [hget, hget, show _ = _ from hfound]
  generalize found.getD .null = data at hdata ⊢
  generalize found'.getD .null = data' at hdata ⊢
  have hread : (Snapshot.ofValue data).map Snapshot.unlined =
      (Snapshot.ofValue data').map Snapshot.unlined := by
    rw [← Snapshot.ofValue_unlined, hdata, Snapshot.ofValue_unlined]
  refine .ite ?_ (.pure rfl) ?_
  · rw [← data.truthy_unlined, hdata, data'.truthy_unlined]
  · exact (InTandem.ofMishap_map hread).bind fun t t' ht =>
      (restore_agrees hc ht).bind_eq fun _ => .pure rfl

omit hc in
theorem saveTo_agrees {write write' : String → Value → Attempt Disk (Bool × SaveStore)}
    (h : ∀ now payload payload', payload.unlined = payload'.unlined →
      Disk.Agree (InvImage Eq fun r => (r.1, r.2.unlined)) (write now payload)
        (write' now payload')) :
    Agree O Eq (saveTo write : Play σ Bool) (saveTo write') := by
  refine .get_bind fun e e' he => ?_
  have hpayload : e.session.persistent.toValue.map Value.unlined =
      e'.session.persistent.toValue.map Value.unlined := by
    rw [← Snapshot.toValue_unlined e.session.persistent,
      ← Snapshot.toValue_unlined e'.session.persistent]
    exact congrArg (fun t => (Snapshot.toValue t).map Value.unlined) he.stage.session.persistent
  refine (InTandem.ofMishap_map hpayload).bind fun v v' hv => ?_
  rw [he.now]
  refine (onDisk_agrees (h _ v v' hv)).bind fun r r' hr => ?_
  obtain ⟨hok, hstore⟩ := Prod.mk.inj hr
  exact Tandem.bind_eq (.modify fun _ _ h => { h with saves := congrArg some hstore })
    fun _ => .pure hok

omit hc in
theorem withStore_agrees {k k' : SaveStore → Play σ Bool}
    (h : ∀ store store' : SaveStore, store.unlined = store'.unlined →
      Agree O Eq (k store) (k' store')) : Agree O Eq (do
      match ← requireStore with
      | none => return false
      | some store => k store) (do
      match ← requireStore with
      | none => return false
      | some store => k' store) := by
  have hstore : Agree O (InvImage Eq (Option.map SaveStore.unlined)) requireStore requireStore := by
    refine .get_bind fun e e' h => ?_
    have hsaves := h.saves
    dsimp only
    refine .ite ?_ ((note_agrees _ _ _).bind_eq fun _ => .pure hsaves) (.pure hsaves)
    rw [← Option.isNone_map (f := SaveStore.unlined), hsaves, Option.isNone_map]
  refine hstore.bind fun found found' hfound => ?_
  cases rel_of_map hfound with
  | none => exact .pure rfl
  | some hstores => exact h _ _ hstores

omit hc in
theorem saveToSlot_agrees (slot : Value) :
    Agree O Eq (saveToSlot slot : Play σ Bool) (saveToSlot slot) :=
  withStore_agrees fun _ _ hstore => InTandem.ofMishap_same.bind_eq fun _ =>
    saveTo_agrees fun now _ _ hpayload => SaveStore.writeSlot_agrees hstore hpayload now _

omit hc in
theorem quicksave_agrees : Agree O Eq (quicksave : Play σ Bool) quicksave :=
  withStore_agrees fun _ _ hstore =>
    saveTo_agrees fun now _ _ hpayload => SaveStore.writeQuick_agrees hstore hpayload now

theorem loadFromSlot_agrees (slot : Value) :
    Agree O Eq (loadFromSlot c slot) (loadFromSlot c slot) :=
  withStore_agrees fun _ _ hstore => InTandem.ofMishap_same.bind_eq fun _ =>
    loadFrom_agrees hc (SaveStore.readSlot_agrees hstore _)

theorem quickload_agrees : Agree O Eq (quickload c) (quickload c) :=
  withStore_agrees fun _ _ hstore => loadFrom_agrees hc (SaveStore.readQuick_agrees hstore)

end

end Engine

/-! ## Runs -/

namespace HostCall

open Engine

variable {O : σ → σ → Prop} {c : Collaborators σ} (hc : c.IgnoresLines O)
include hc

/-- Every call of a host is answered alike. -/
theorem answer_agrees (call : HostCall) : Agree O Eq (call.answer c) (call.answer c) := by
  have hsome : ∀ {act act' : Play σ Bool}, Agree O Eq act act' →
      Agree O Eq (some <$> act) (some <$> act') := fun h => h.map fun _ _ => congrArg some
  have hnone : ∀ {act act' : Play σ Unit}, Agree O Eq act act' → Agree O Eq (do
      act
      return (none : Option Bool)) (do
      act'
      return none) := fun h => h.bind_eq fun _ => .pure rfl
  cases call with
  | resourcesReady =>
    refine hnone (.get_bind fun e e' h => ?_)
    dsimp only
    rw [h.mode]
    exact .ite .rfl (note_agrees _ _ _)
      ((setMode_agrees hc _).bind_eq fun _ => (step_agrees hc).discard)
  | step => exact hsome (step_agrees hc)
  | advance => exact hsome (advance_agrees hc)
  | requestAdvance => exact hsome (requestAdvance_agrees hc)
  | tick dt => exact hnone (tick_agrees hc dt)
  | choose index => exact hsome (choose_agrees hc index)
  | effectFinished id => exact hsome (effectFinished_agrees hc id)
  | reportResourceError message =>
    refine hnone (.get_bind fun e e' h => fail_agrees hc ?_)
    have hconversation : e.cursor.conversation = e'.cursor.conversation :=
      h.stage.session.cursor.conversation
    rw [hconversation]
  | setFlag name value => exact hnone (setFlag_agrees name value)
  | saveToSlot slot => exact hsome (saveToSlot_agrees slot)
  | loadFromSlot slot => exact hsome (loadFromSlot_agrees hc slot)
  | quicksave => exact hsome quicksave_agrees
  | quickload => exact hsome (quickload_agrees hc)
  | autosave => exact hsome (saveToSlot_agrees _)
  | restore t => exact hnone (restore_agrees hc rfl)

/-- A row of calls is answered alike, and leaves engines that differ in lines only. -/
theorem runAll_relined (calls : List HostCall) {e e' : Engine σ} (h : e.Relined O e') :
    List.Forall₂ (Both (InvImage Eq Fault.unlined) Eq) (answers c calls e) (answers c calls e') ∧
      (runAll c calls e).Relined O (runAll c calls e') := by
  induction calls generalizing e e' with
  | nil => exact ⟨.nil, h⟩
  | cons call calls ih =>
    obtain ⟨hanswer, hstate⟩ := answer_agrees hc call e e' h
    obtain ⟨hanswers, hlast⟩ := ih hstate
    rw [runAll_cons, runAll_cons]
    exact ⟨.cons hanswer hanswers, hlast⟩

end HostCall

/-! ## The start -/

namespace Engine

variable {O : σ → σ → Prop} {s t : Script}

theorem initialStage_relined (h : s.Relined t) (config : Config) :
    Both (InvImage Eq Fault.unlined) Stage.Relined (initialStage s config)
      (initialStage t config) := by
  have hstart : Both (InvImage Eq Fault.unlined) Cursor.Relined
      ((Cursor.start s).mapError .story) ((Cursor.start t).mapError .story) :=
    (h.start _).mapError fun _ _ he => congrArg Fault.story he
  refine hstart.bind fun x y hxy => ?_
  refine Both.bind (F := InvImage Eq Fault.unlined) (.refl fun _ => rfl)
    fun timed timed' hsame => ?_
  cases hsame
  have hstages : Stage.Relined
      { config, script := s, timedText := timed.1
        session := { cursor := x, scriptName := s.name, overrides := timed.2 } }
      { config, script := t, timedText := timed.1
        session := { cursor := y, scriptName := t.name, overrides := timed.2 } } :=
    ⟨rfl, h, ⟨hxy, h.name, rfl, rfl, rfl, rfl, rfl⟩, rfl, rfl, rfl, rfl⟩
  obtain ⟨hdone, hstage⟩ := retimeFromSession_agrees _ _ hstages
  exact Both.bind hdone fun _ _ _ => .ok hstage

theorem ofSetup_relined (h : s.Relined t) (setup : Setup) {o o' : σ} (ho : O o o') :
    Both (InvImage Eq Fault.unlined) (Relined O) (ofSetup { setup with script := s } o)
      (ofSetup { setup with script := t } o') := by
  refine (initialStage_relined h setup.config).bind fun stage stage' hstage => .ok ?_
  exact ⟨⟨hstage.config, hstage.script, hstage.session, hstage.timedText, rfl, rfl, rfl⟩, rfl, rfl,
    rfl, rfl, rfl, rfl, rfl, rfl, rfl, rfl, rfl, rfl, ho⟩

/-- An engine that has been set up and has started to load. -/
def opened (c : Collaborators σ) (setup : Setup) (outside : σ) : Except Fault (Engine σ) := do
  let e ← ofSetup setup outside
  let (r, e) := (enterLoading c).perform e
  r
  return e

theorem opened_relined {c : Collaborators σ} (hc : c.IgnoresLines O) (h : s.Relined t)
    (setup : Setup) {o o' : σ} (ho : O o o') :
    Both (InvImage Eq Fault.unlined) (Relined O) (opened c { setup with script := s } o)
      (opened c { setup with script := t } o') := by
  refine (ofSetup_relined h setup ho).bind fun e e' he => ?_
  obtain ⟨hloads, hstate⟩ := enterLoading_agrees hc e e' he
  exact Both.bind hloads fun _ _ _ => .ok hstate

/-- The engines show the same story: their modes, errors, flags, scenes, places and menus are the
same but for lines. -/
structure ShowsAlike (e e' : Engine σ) : Prop where
  mode : e.mode = e'.mode
  error : e.error.map StoryError.unlined = e'.error.map StoryError.unlined
  flags : e.session.flags = e'.session.flags
  scene : e.session.scene.unlined = e'.session.scene.unlined
  position : e.cursor.position = e'.cursor.position
  choiceSets : e.session.choiceSets = e'.session.choiceSets

theorem Relined.showsAlike {e e' : Engine σ} (h : e.Relined O e') : e.ShowsAlike e' where
  mode := h.mode
  error := h.error
  flags := h.stage.session.flags
  scene := h.stage.session.scene
  position := h.stage.session.cursor.position
  choiceSets := h.stage.session.choiceSets

end Engine

/-! ## The console does not look at lines -/

/-- The consoles have recorded the same but for lines. What they printed may differ, since errors
name lines. -/
structure Console.Relined (x y : Console) : Prop where
  echo : x.echo = y.echo
  intents : x.intents.toList.map Intent.unlined = y.intents.toList.map Intent.unlined
  prepared : x.prepared.map Scene.unlined = y.prepared.map Scene.unlined

namespace Console

theorem print_relined {x y : Console} (h : x.Relined y) (text text' : String) :
    (x.print text).Relined (y.print text') :=
  ⟨h.echo, h.intents, h.prepared⟩

theorem printing_agrees (text text' : String) :
    Tandem Eq Relined Eq (modify (print text) : Attempt Console PUnit) (modify (print text')) :=
  .modify fun _ _ h => print_relined h text text'

/-- Whether a row can be gone through is the same without the lines of its items. -/
theorem parts_unlinedRow (v : Value) :
    ((v.unlinedRow.orElse (.list [])).parts.map fun _ => ()) =
      (v.orElse (.list [])).parts.map fun _ => () := by
  cases v with
  | list items => cases items <;> rfl
  | record fs =>
    have hrow : (Value.record fs).unlinedRow = (Value.record fs).unlined := rfl
    rw [hrow, show Value.list [] = (Value.list []).unlined from rfl, ← Value.unlined_orElse,
      Value.parts_unlined]
    rfl
  | _ => rfl

theorem echoIntent_agrees {i j : Intent} (h : i.unlined = j.unlined) :
    Tandem Eq Relined Eq (echoIntent i) (echoIntent j) := by
  have hoptions : ((i.get "options").orElse (.list [])).parts.map (fun _ => ()) =
      ((j.get "options").orElse (.list [])).parts.map fun _ => () := by
    rw [← parts_unlinedRow, Intent.unlinedRow_get, h, ← Intent.unlinedRow_get, parts_unlinedRow]
  have hkind : i.kind = j.kind := (Intent.mk.inj h).1
  unfold echoIntent
  rw [hkind]
  split
  · exact printing_agrees _ _
  · refine (printing_agrees _ _).bind_eq fun _ => ?_
    generalize ((i.get "options").orElse (.list [])).parts = r at hoptions ⊢
    generalize ((j.get "options").orElse (.list [])).parts = r' at hoptions ⊢
    cases Both.of_map hoptions with
    | error hm => exact .throw hm
    | ok _ => exact printing_agrees _ _
  · exact .pure rfl
  · exact printing_agrees _ _

theorem apply_agrees {i j : Intent} (h : i.unlined = j.unlined) :
    Tandem Eq Relined Eq (apply i) (apply j) := by
  refine Tandem.bind_eq (.modify fun x y hxy => { hxy with intents := ?_ }) fun _ =>
    .get_bind fun x y hxy => .ite (by rw [hxy.echo]) (echoIntent_agrees h) (.pure rfl)
  rw [Tape.toList_push, Tape.toList_push, List.map_append, List.map_append, hxy.intents]
  exact congrArg (fun i => _ ++ [i]) h

theorem prepare_relined {scene scene' : Scene} (h : scene.unlined = scene'.unlined) {x y : Console}
    (hxy : x.Relined y) : (x.prepare scene).Relined (y.prepare scene') := by
  have hbackground : scene.background.truthy = scene'.background.truthy := by
    rw [← scene.background.truthy_unlined, ← scene'.background.truthy_unlined]
    exact congrArg (fun s : Scene => s.background.truthy) h
  have hshows : (x.echo && scene.background.truthy) = (y.echo && scene'.background.truthy) := by
    rw [hxy.echo, hbackground]
  have hprepared : Relined { x with prepared := some scene } { y with prepared := some scene' } :=
    { hxy with prepared := congrArg some h }
  unfold prepare
  dsimp only
  rw [hshows]
  split
  · exact print_relined hprepared _ _
  · exact hprepared

end Console

/-- Calls that every script knows are answered alike. -/
theorem Engine.answerCall_agrees {O : σ → σ → Prop} (args : List Value) :
    Agree O Eq (answerCall ({} : SystemCalls Empty) nofun args)
      (answerCall ({} : SystemCalls Empty) nofun args) := by
  refine .discard (Q := Eq) ?_
  unfold SystemCalls.send
  split
  · exact .pure rfl
  · dsimp only
    split
    · exact (note_agrees _ _ _).bind_eq fun _ => .pure rfl
    · refine Tandem.bind_eq ?_ fun _ => .pure rfl
      exact (saveToSlot_agrees _).bind_eq fun ok =>
        .ite .rfl ((note_agrees _ _ _).bind_eq fun _ => .pure rfl) (.pure rfl)
    · exact (note_agrees _ _ _).bind_eq fun _ => .pure rfl
    · next id _ => exact id.elim

/-- A console prints the lines of errors, but does not look at them. -/
theorem Collaborators.console_ignoresLines :
    (Collaborators.console .whole).IgnoresLines Console.Relined where
  prepare hscene := .modify fun _ _ h =>
    { h with outside := Console.prepare_relined hscene h.outside }
  apply {i i'} h := by
    have hsent : ∀ {i j : Intent}, i.unlined = j.unlined → Engine.Agree Console.Relined Eq
        (Action.attempt (Engine.outsidePlace.inside .whole) (Console.apply i))
        (Action.attempt (Engine.outsidePlace.inside .whole) (Console.apply j)) := fun h =>
      InTandem.attempt (S := Console.Relined) (fun _ _ h => h.outside)
        (fun _ _ _ _ h hconsole => { h with outside := hconsole }) (Console.apply_agrees h)
    have hnone : Engine.Agree Console.Relined Eq (throw (.mishap .noMember) : Play Console Unit)
        (throw (.mishap .noMember)) := .throw rfl
    cases rel_of_map h with
    | none => exact hnone
    | some hi => exact hsent hi
  showError _ := .modify fun _ _ h =>
    { h with outside := Console.print_relined h.outside _ _ }
  deliver _ _ _ _ := .pure rfl
  systemCall args := Engine.answerCall_agrees args
  finished := .pure rfl

end VisualNovel
