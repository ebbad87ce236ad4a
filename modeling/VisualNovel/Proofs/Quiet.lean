import VisualNovel.Engine.Persistence
import VisualNovel.Engine.Stepping
import VisualNovel.Proofs.Emissions
import VisualNovel.Proofs.Likeness

/-!
# Engines with quiet collaborators

Collaborators are *quiet* if they do not call back: a call of one changes nothing of the engine but
its surroundings, which are the files and the log, the listeners, the store of saves, the clock, and
what the collaborators themselves remember. A call may still meet a mishap.

With quiet collaborators every operation of the engine comes down to a plain function of its state,
and to the intents that it sends. Each operation has one theorem here that says which: the state
afterwards is that function's, up to the surroundings, and the renderer was sent these intents.
-/

namespace VisualNovel

open Script

variable {σ : Type}

/-! ## Surroundings -/

/-- All of an engine that its collaborators may change. -/
structure Surroundings (σ : Type) where
  disk : Disk
  bus : EventBus String Nat
  saves : Option SaveStore
  now : String
  outside : σ

/-- The engine in other surroundings. -/
def Engine.within (e : Engine σ) (x : Surroundings σ) : Engine σ :=
  { e with stage := { e.stage with disk := x.disk }, bus := x.bus, saves := x.saves, now := x.now
           outside := x.outside }

/-- The surroundings of an engine. -/
def Engine.surroundings (e : Engine σ) : Surroundings σ :=
  { disk := e.stage.disk, bus := e.bus, saves := e.saves, now := e.now, outside := e.outside }

/-- What is watched of the surroundings while an engine runs: which intents were sent between two
memories of the collaborators, and what stays of the files and the log. -/
structure Watch (σ : Type) where
  sent : σ → σ → List Intent → Prop
  kept : Disk → Disk → Prop
  sent_nil : ∀ o, sent o o []
  sent_append : ∀ {o o' o'' l l'}, sent o o' l → sent o' o'' l' → sent o o'' (l ++ l')
  kept_refl : ∀ d, kept d d
  kept_trans : ∀ {d d' d''}, kept d d' → kept d' d'' → kept d d''
  kept_note : ∀ d level text, kept d (d.note level text)

/-- Nothing is watched. -/
def Watch.nothing : Watch σ where
  sent _ _ _ := True
  kept _ _ := True
  sent_nil _ := trivial
  sent_append _ _ := trivial
  kept_refl _ := trivial
  kept_trans _ _ := trivial
  kept_note _ _ _ := trivial

/-- The second engine is the first one in other surroundings, and these intents were sent. -/
def Aside (w : Watch σ) (sent : List Intent) (e e' : Engine σ) : Prop :=
  ∃ x : Surroundings σ, e' = e.within x ∧ w.sent e.outside x.outside sent ∧
    w.kept e.stage.disk x.disk

/-- The collaborators do not call back. `may` says whether they can meet a mishap; a listener that
fails does no harm in any case. -/
structure Quiet (c : Collaborators σ) (w : Watch σ) (may : Prop) : Prop where
  prepare : ∀ scene e, Runs may (c.prepare scene) e fun _ e' => Aside w [] e e'
  apply : ∀ i e, Runs may (c.apply (some i)) e fun _ e' => Aside w [i] e e'
  showError : ∀ text e, Runs may (c.showError text) e fun _ e' => Aside w [] e e'
  deliver : ∀ id event e, Ends (c.deliver id event) e (fun _ e' => Aside w [] e e')
    fun _ e' => Aside w [] e e'
  systemCall : ∀ args e, Runs may (c.systemCall args) e fun _ e' => Aside w [] e e'
  finished : ∀ e, Runs may c.finished e fun _ e' => Aside w [] e e'

namespace Aside

variable {w : Watch σ} {e e' e'' : Engine σ} {l l' : List Intent}

theorem refl (w : Watch σ) (e : Engine σ) : Aside w [] e e :=
  ⟨e.surroundings, rfl, w.sent_nil _, w.kept_refl _⟩

theorem trans (h : Aside w l e e') (h' : Aside w l' e' e'') : Aside w (l ++ l') e e'' := by
  obtain ⟨x, rfl, hsent, hkept⟩ := h
  obtain ⟨y, rfl, hsent', hkept'⟩ := h'
  exact ⟨y, rfl, w.sent_append hsent hsent', w.kept_trans hkept hkept'⟩

/-- Nothing was sent in the first place. -/
theorem after (h : Aside w [] e e') (h' : Aside w l' e' e'') : Aside w l' e e'' :=
  h.trans h'

/-- Nothing more was sent. -/
theorem before (h : Aside w l e e') (h' : Aside w [] e' e'') : Aside w l e e'' := by
  have := h.trans h'
  rwa [List.append_nil] at this

end Aside

/-- A change of an engine that neither reads its surroundings nor touches them. -/
structure Apart (f : Engine σ → Engine σ) : Prop where
  within : ∀ e x, f (e.within x) = (f e).within x
  outside : ∀ e, (f e).outside = e.outside
  disk : ∀ e, (f e).stage.disk = e.stage.disk

theorem Aside.map {w : Watch σ} {f : Engine σ → Engine σ} (hf : Apart f) {e e' : Engine σ}
    {l : List Intent} (h : Aside w l e e') : Aside w l (f e) (f e') := by
  obtain ⟨x, rfl, hsent, hkept⟩ := h
  refine ⟨x, hf.within e x, ?_, ?_⟩
  · rw [hf.outside]
    exact hsent
  · rw [hf.disk]
    exact hkept

/-- Mishaps of collaborators may be allowed where there are none. -/
theorem Quiet.loosen {c : Collaborators σ} {w : Watch σ} {may may' : Prop} (h : Quiet c w may)
    (hmay : may → may') : Quiet c w may' where
  prepare scene e := (h.prepare scene e).loosen hmay
  apply i e := (h.apply i e).loosen hmay
  showError text e := (h.showError text e).loosen hmay
  deliver := h.deliver
  systemCall args e := (h.systemCall args e).loosen hmay
  finished e := (h.finished e).loosen hmay

/-- Collaborators that never meet a mishap. -/
theorem Quiet.any {c : Collaborators σ} {w : Watch σ} {may : Prop} (h : Quiet c w False) :
    Quiet c w may :=
  h.loosen False.elim

/-- Collaborators that write down the intents that they are sent, and do nothing else. -/
def Collaborators.recording : Collaborators (List Intent) where
  prepare _ := pure ()
  apply i := modify fun e => { e with outside := e.outside ++ i.toList }
  showError _ := pure ()
  deliver _ _ := pure ()
  systemCall _ := pure ()
  finished := pure ()

/-- The intents that a log shows are watched, and that no file changes. -/
def Watch.through (seen : σ → List Intent) : Watch σ where
  sent o o' l := seen o' = seen o ++ l
  kept d d' := d'.files = d.files
  sent_nil o := (List.append_nil _).symm
  sent_append h h' := by rw [h', h, List.append_assoc]
  kept_refl _ := rfl
  kept_trans h h' := h'.trans h
  kept_note _ _ _ := rfl

theorem Collaborators.recording_quiet : Quiet recording (Watch.through id) False where
  prepare _ e := Aside.refl _ e
  apply i e := ⟨{ e.surroundings with outside := e.outside ++ [i] }, rfl, rfl, rfl⟩
  showError _ e := Aside.refl _ e
  deliver _ _ e := Aside.refl _ e
  systemCall _ e := Aside.refl _ e
  finished e := Aside.refl _ e

/-! ## Telling listeners -/

section
variable {c : Collaborators σ} {w : Watch σ} {may : Prop}

/-- A computation that never stops, seen as an action. -/
theorem ends_lift {τ α : Type} {m : StateM τ α} {s : τ} {Q : α → τ → Prop}
    {E : Fault → τ → Prop} : Ends (ExceptT.lift m : Action τ α) s Q E ↔ Q (m.run s).1 (m.run s).2 :=
  Iff.rfl

theorem emit_runs (hc : Quiet c w may) (event : Event) (e : Engine σ) :
    Runs False (Engine.emit c event) e fun _ e' => Aside w [] e e' := by
  refine ends_lift.2 ?_
  show Aside w [] e ((Engine.emit c event).perform e).2
  refine Engine.emit_keeps (fun f e₁ h₁ => h₁.after ?bus) (fun id e₁ h₁ => h₁.after ?deliver)
    (fun text e₁ h₁ => h₁.after ?note) (Aside.refl w e)
  case bus => exact ⟨{ e₁.surroundings with bus := f e₁.bus }, rfl, w.sent_nil _, w.kept_refl _⟩
  case deliver => exact (hc.deliver id event e₁).state
  case note => exact ⟨{ e₁.surroundings with disk := _ }, rfl, w.sent_nil _, w.kept_note _ _ _⟩

end

/-! ## The life of a session -/

namespace Engine

section
variable {c : Collaborators σ} {w : Watch σ} {may : Prop}

theorem note_runs (w : Watch σ) (level : Level) (text : String) (e : Engine σ) :
    Runs False (note level text) e fun _ e' => Aside w [] e e' :=
  ⟨{ e.surroundings with disk := _ }, rfl, w.sent_nil _, w.kept_note _ _ _⟩

theorem setMode_runs (hc : Quiet c w may) (mode : Mode) (e : Engine σ) :
    Runs False (setMode c mode) e fun _ e' => Aside w [] { e with mode } e' := by
  unfold setMode
  refine Leads.get_bind ?_
  dsimp only
  split
  · exact Leads.modify_bind (emit_runs hc _ _)
  · next hsame =>
    have hmode : e.mode = mode := by simpa using hsame
    rw [← hmode]
    exact Aside.refl w e

theorem enterLoading_runs (hc : Quiet c w may) (e : Engine σ) :
    Runs may (enterLoading c) e fun _ e' => Aside w [] { e with mode := .loading } e' := by
  unfold enterLoading
  refine (setMode_runs hc .loading e).any.bind fun _ e₁ h₁ => Leads.get_bind ?_
  refine (emit_runs hc _ e₁).any.bind fun _ e₂ h₂ => Leads.get_bind ?_
  exact (hc.prepare _ e₂).mono fun _ e₃ h₃ => (h₁.after h₂).after h₃

/-- The engine when its session has ended. -/
def closed (e : Engine σ) : Engine σ :=
  { e with
    stage := Stage.mapTimedText TimedText.endLine (e.stage.mapSession Session.release)
    mode := .ended, effect := none, menu := none, awaiting := false }

theorem finish_runs (hc : Quiet c w may) {e : Engine σ} (h : e.mode ≠ .ended) :
    Runs may (finish c) e fun _ e' => Aside w [] e.closed e' := by
  unfold finish
  refine Leads.get_bind ?_
  have hgoes : e.finished = false := by simpa [finished] using h
  rw [hgoes]
  refine Leads.modify_bind (Leads.modify_bind ?_)
  refine (setMode_runs hc .ended _).any.bind fun _ e₁ h₁ => Leads.get_bind ?_
  refine (emit_runs hc _ e₁).any.bind fun _ e₂ h₂ => ?_
  exact (hc.finished e₂).mono fun _ e₃ h₃ => (Aside.after h₁ h₂).after h₃

/-- A session that has not ended is ended by an error, which only a strict engine passes on. -/
theorem fail_leads (hc : Quiet c w may) {e : Engine σ} (h : e.mode ≠ .ended) (error : StoryError) :
    Leads may (fail c error) e
      (fun _ e' => Aside w [] { e.closed with error := some error } e' ∧ e.strict = false)
      (fun error' e' => Aside w [] { e.closed with error := some error } e' ∧ e.strict = true ∧
        error' = error) := by
  unfold fail
  refine Leads.get_bind ?_
  have hgoes : e.finished = false := by simpa [finished] using h
  rw [hgoes]
  refine Leads.modify_bind ?_
  refine (note_runs w _ _ _).any.bind fun _ e₁ h₁ => ?_
  refine (emit_runs hc _ e₁).any.bind fun _ e₂ h₂ => ?_
  refine (hc.showError _ e₂).bind fun _ e₃ h₃ => ?_
  have hrest := (h₁.after h₂).after h₃
  have hmode : e₃.mode ≠ .ended := by
    obtain ⟨x, rfl, -⟩ := hrest
    exact h
  refine (finish_runs hc hmode).bind fun _ e₄ h₄ => ?_
  have hclosed : Aside w [] { e.closed with error := some error } e₃.closed :=
    hrest.map (f := closed) ⟨fun _ _ => rfl, fun _ => rfl, fun _ => rfl⟩
  have hstrict : e₄.strict = e.strict := by
    obtain ⟨x, rfl, -⟩ := hclosed.after h₄
    rfl
  refine Leads.get_bind ?_
  rw [hstrict]
  cases hs : e.strict with
  | false => exact ⟨hclosed.after h₄, rfl⟩
  | true => exact ⟨hclosed.after h₄, rfl, rfl⟩

/-! ## Lines, effects and menus -/

/-- Who speaks a line: the one that it names, else the speaker of the scene. -/
def speakerOf (speaker : Value) (e : Engine σ) : Value :=
  match speaker with
  | .null => e.session.scene.speaker
  | speaker => speaker

/-- The engine when a line has been displayed. -/
def spoken (text speaker : Value) (e : Engine σ) : Engine σ :=
  { e with
    stage := e.stage.mapScene fun s => { s with speech := text }
    backlog := e.backlog.push { name := speakerOf speaker e, text
                                conversation := .text e.cursor.conversation } }

/-- The intent that shows a line. -/
def showing (text speaker visible : Value) (e : Engine σ) : Intent :=
  { kind := .showText
    payload := [("speaker", speakerOf speaker e), ("text", text), ("visible", visible)] }

/-- A line that nobody has to advance past. -/
theorem display_runs (hc : Quiet c w may) (text speaker : Value) (e : Engine σ) :
    Runs may (display c text speaker false) e fun _ e' =>
      Aside w [showing text speaker text e] (e.spoken text speaker) e' := by
  unfold display
  refine Leads.get_bind (Leads.modify_bind (Leads.modify_bind ?_))
  refine (emit_runs hc _ _).any.bind fun _ e₁ h₁ => ?_
  exact (hc.apply _ e₁).mono fun _ e₂ h₂ => Aside.after h₁ h₂

/-- The timing of a line that has just been displayed. -/
structure Begun (text : Value) (t t' : TimedText) : Prop where
  showing : t'.showing = true
  fullText : t'.fullText = text
  frameRate : t'.frameRate = t.frameRate

theorem beginLine_ends (text : Value) (t : TimedText) :
    Ends (TimedText.beginLine text) t (fun _ t' => Begun text t t') fun _ _ => ¬text.IsText := by
  simp only [TimedText.beginLine, TimedText.revealAll, TimedText.step, Ends.bind_iff,
    Ends.modify_iff, Ends.get_iff, Ends.ite_iff, Ends.mk_pure_iff]
  split
  · refine ⟨fun n _ => ⟨rfl, rfl, rfl⟩, fun m hm => ?_⟩
    rintro ⟨s, rfl⟩
    cases hm
  · exact ⟨rfl, rfl, rfl⟩

/-- The engine when a line waits to be advanced past. -/
def waiting (t : TimedText) (e : Engine σ) : Engine σ :=
  { e.mapStage (Stage.mapTimedText fun _ => t) with awaiting := true }

/-- A line that has to be advanced past. -/
theorem display_waits (hc : Quiet c w may) {text : Value} (htext : may ∨ text.IsText)
    (speaker : Value) (e : Engine σ) :
    Runs may (display c text speaker true) e fun _ e' => ∃ t visible,
      Begun text e.stage.timedText t ∧
        Aside w [showing text speaker visible e] ((e.spoken text speaker).waiting t) e' := by
  unfold display
  refine Leads.get_bind (Leads.modify_bind (Leads.modify_bind ?_))
  refine (emit_runs hc _ _).any.bind fun _ e₁ h₁ => ?_
  have happear : Runs may (display.appear text) e₁ fun _ e₂ => ∃ t,
      Begun text e.stage.timedText t ∧ Aside w [] ((e.spoken text speaker).waiting t) e₂ := by
    unfold display.appear
    have hbegun : Ends (TimedText.beginLine text) e₁.stage.timedText
        (fun _ t => Begun text e.stage.timedText t) fun _ _ => ¬text.IsText := by
      obtain ⟨x, rfl, -⟩ := h₁
      exact beginLine_ends text e.stage.timedText
    rw [Runs, Leads, Ends.bind_iff, Ends.attempt_iff]
    refine Ends.mono hbegun ?_ ?_
    · rintro - t ht
      refine Leads.modify_bind (Leads.get_bind ?_)
      refine Ends.ofMishap_iff.2 ⟨fun visible _ => ⟨t, ht, ?_⟩, fun m hm => ?_⟩
      · exact Aside.map (f := waiting t) ⟨fun _ _ => rfl, fun _ => rfl, fun _ => rfl⟩ h₁
      · -- What is visible of a text is known.
        rcases htext with hmay | ⟨s, rfl⟩
        · exact hmay
        · have hfull : t.visible = (Value.text s).front t.revealed := by
            rw [TimedText.visible, ht.fullText]
          have hvisible : t.visible = .error m := hm
          rw [hfull] at hvisible
          cases hvisible
    · intro m t ht
      exact htext.resolve_right ht
  refine happear.bind fun visible e₂ ⟨t, ht, h₂⟩ => ?_
  exact (hc.apply _ e₂).mono fun _ e₃ h₃ => ⟨t, visible, ht, h₂.after h₃⟩

/-- The intent that starts an effect. -/
def effectOf (kind : IntentKind) (payload : Table String Value) (e : Engine σ) : Intent :=
  { kind, payload, effectId := some (.int ((e.effectCount + 1 : Nat) : Int)) }

/-- The engine when an effect is running. -/
def held (kind : IntentKind) (payload : Table String Value) (e : Engine σ) : Engine σ :=
  { e with effectCount := e.effectCount + 1, effect := some (effectOf kind payload e)
           mode := .effectRunning }

theorem hold_runs (hc : Quiet c w may) (kind : IntentKind) (payload : Table String Value)
    (e : Engine σ) :
    Runs may (hold c kind payload) e fun _ e' =>
      Aside w [effectOf kind payload e] (e.held kind payload) e' := by
  unfold hold
  refine Leads.modify_bind ?_
  refine (setMode_runs hc .effectRunning _).any.bind fun _ e₁ h₁ => Leads.get_bind ?_
  have heffect : e₁.effect = some (effectOf kind payload e) := by
    obtain ⟨x, rfl, -⟩ := h₁
    rfl
  rw [heffect]
  exact (hc.apply _ e₁).mono fun _ e₂ h₂ => Aside.after h₁ h₂

/-- The engine when a menu is set up, before it is shown. -/
def offering (options : List ChoiceOption) (e : Engine σ) : Engine σ :=
  { e.mapSession Session.capture with menu := some options, mode := .awaitingChoice }

/-- The engine when a menu waits for a choice. -/
def asked (options : List ChoiceOption) (line : Value) (e : Engine σ) : Engine σ :=
  match line with
  | .null => e.offering options
  | text => (e.offering options).spoken text .null

/-- The intent that shows a menu. -/
def menuOf (options : List ChoiceOption) (e : Engine σ) : Intent :=
  { kind := .showChoices
    payload := [("options", .list (options.map ChoiceOption.text)),
      ("offset", .list [e.session.overrides.choiceboxOffsetX,
        e.session.overrides.choiceboxOffsetY])] }

/-- The intents of a menu, under a line if there is one. -/
def asking (options : List ChoiceOption) (line : Value) (e : Engine σ) : List Intent :=
  match line with
  | .null => [menuOf options e]
  | text => [showing text .null text e, menuOf options e]

theorem present_runs (hc : Quiet c w may) (options : List ChoiceOption) (line : Value)
    (e : Engine σ) :
    Runs may (present c options line) e fun _ e' =>
      Aside w (asking options line e) (e.asked options line) e' := by
  -- Once the line is displayed, if there is one, the menu is shown.
  have hmenu : ∀ (l : List Intent) (e₁ e₂ : Engine σ), Aside w l e₁ e₂ →
      e₁.session.overrides = e.session.overrides →
      Runs may (do
        let o := (← get).session.overrides
        let texts := options.map ChoiceOption.text
        emit c (.choicesShown texts)
        send c .showChoices [("options", .list texts),
          ("offset", .list [o.choiceboxOffsetX, o.choiceboxOffsetY])]) e₂ fun _ e' =>
        Aside w (l ++ [menuOf options e]) e₁ e' := by
    intro l e₁ e₂ h₂ ho
    have hoverrides : e₂.session.overrides = e.session.overrides := by
      obtain ⟨x, rfl, -⟩ := h₂
      exact ho
    refine Leads.get_bind ?_
    refine (emit_runs hc _ e₂).any.bind fun _ e₃ h₃ => ?_
    rw [hoverrides]
    exact (hc.apply _ e₃).mono fun _ e₄ h₄ => (h₂.before h₃).trans h₄
  unfold present
  refine Leads.modify_bind (Leads.modify_bind ?_)
  refine (setMode_runs hc .awaitingChoice _).any.bind fun _ e₁ h₁ => ?_
  have hoffering : Aside w [] (e.offering options) e₁ := h₁
  have hspoken : ∀ text, Aside w [] ((e.offering options).spoken text .null)
      (e₁.spoken text .null) := fun text =>
    hoffering.map (f := spoken text .null) ⟨fun _ _ => rfl, fun _ => rfl, fun _ => rfl⟩
  obtain ⟨x, rfl, -⟩ := hoffering
  cases line with
  | null => exact hmenu [] _ _ h₁ rfl
  | _ =>
    refine (display_runs hc _ .null _).bind fun _ e₂ h₂ => ?_
    exact hmenu _ _ _ ((hspoken _).after h₂) rfl

/-! ## What a command leaves to do -/

/-- The engine when the beat at the cursor has been completed. -/
def completed (e : Engine σ) : Engine σ :=
  e.mapStage (Stage.mapCursor fun cursor => cursor.advance)

/-- The engine when what a command has left to do is done. -/
def settled (o : Outcome) (e : Engine σ) : Engine σ :=
  match o with
  | .proceed _ | .call _ => e.completed
  | .stay => e
  | .hold kind payload => e.held kind payload
  | .ask options line => e.asked options line

/-- The intents that are sent when what a command has left to do is done. -/
def sends (o : Outcome) (e : Engine σ) : List Intent :=
  match o with
  | .proceed intents => intents
  | .stay | .call _ => []
  | .hold kind payload => [effectOf kind payload e]
  | .ask options line => asking options line e

theorem settle_runs (hc : Quiet c w may) (o : Outcome) (e : Engine σ) :
    Runs may (settle c o) e fun _ e' => Aside w (sends o e) (e.settled o) e' := by
  have hcomplete : ∀ {l : List Intent} {e₁ : Engine σ}, Aside w l e e₁ →
      Aside w l e.completed e₁.completed := fun h =>
    Aside.map (f := completed) ⟨fun _ _ => rfl, fun _ => rfl, fun _ => rfl⟩ h
  have hall : ∀ (intents : List Intent) (l : List Intent) (e₁ : Engine σ), Aside w l e e₁ →
      Runs may (intents.forM fun i => c.apply (some i)) e₁ fun _ e' =>
        Aside w (l ++ intents) e e' := by
    intro intents
    induction intents with
    | nil =>
      intro l e₁ h₁
      rw [List.append_nil]
      exact h₁
    | cons i rest ih =>
      intro l e₁ h₁
      refine (hc.apply i e₁).bind fun _ e₂ h₂ => ?_
      have hrest := ih (l ++ [i]) e₂ (h₁.trans h₂)
      rw [List.append_assoc] at hrest
      exact hrest
  cases o with
  | proceed intents =>
    exact (hall intents [] e (Aside.refl w e)).bind fun _ e₁ h₁ => hcomplete h₁
  | stay => exact Aside.refl w e
  | hold kind payload => exact hold_runs hc kind payload e
  | ask options line => exact present_runs hc options line e
  | call args => exact (hc.systemCall args e).bind fun _ e₁ h₁ => hcomplete h₁

end

end Engine

end VisualNovel
