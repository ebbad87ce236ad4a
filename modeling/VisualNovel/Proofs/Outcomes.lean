import VisualNovel.Proofs.Oblivious
import VisualNovel.Proofs.Quiet

/-!
# What commands leave to do

A command leaves one of a few things to the engine. If it goes on at once, it sends no intent, or
one that nothing waits for, or the start of a fade together with its end; if it holds the story, it
is an effect that lasts, and the cursor still stands on it (`Command.perform_orderly`). Texts and
menus are left to the engine.
-/

namespace VisualNovel

open Script

/-- Whether an intent of this kind stands in no order with others. -/
def IntentKind.loose : IntentKind → Bool
  | .fadeBegin | .fadeEnd | .showText | .revealText | .showChoices | .clearChoices => false
  | _ => true

/-- Whether an intent of this kind can start an effect that lasts. -/
def IntentKind.lasting : IntentKind → Bool
  | .moveBackground | .scaleBackground | .moveSprite | .flipSprite | .scaleSprite
  | .fadeBegin => true
  | _ => false

/-- Whether an intent of this kind says something of a scene. -/
def IntentKind.scenic : IntentKind → Bool
  | .playSound | .playMusic | .stopMusic | .fadeEnd | .revealText | .uiOverride | .showChoices
  | .clearChoices => false
  | _ => true

/-- The intents of a command that goes on at once. -/
inductive Prompt : List Intent → Prop where
  | nothing : Prompt []
  | one {kind : IntentKind} {payload : Table String Value} : kind.loose →
    Prompt [{ kind, payload }]
  | fade (payload : Table String Value) :
    Prompt (Command.instantIntents .fadeBegin payload)

theorem Prompt.effectId {intents : List Intent} (h : Prompt intents) :
    ∀ i ∈ intents, i.effectId = none := by
  cases h with
  | nothing => simp
  | one _ => simp
  | fade payload => simp [Command.instantIntents]

namespace Outcome

/-- What a command may leave to do that has led from one stage to another. -/
def Orderly (cmd : Script.Command) (s : Stage) : Outcome → Stage → Prop
  | proceed intents, _ => Prompt intents
  | hold kind _, s' => kind.lasting ∧ Command.Lasts cmd ∧ s'.session.cursor = s.session.cursor
  | _, _ => True

/-- The story is not held, and the intents of the outcome are in order. -/
def Swift : Outcome → Prop
  | proceed intents => Prompt intents
  | hold _ _ => False
  | _ => True

theorem Swift.orderly {cmd : Script.Command} {s s' : Stage} {o : Outcome} (h : o.Swift) :
    o.Orderly cmd s s' := by
  cases o with
  | hold => exact h.elim
  | proceed => exact h
  | _ => trivial

end Outcome

/-- The action leaves only what `P` holds of. -/
def Leaves (act : Action Stage Outcome) (P : Outcome → Prop) : Prop :=
  ∀ s, Ends act s (fun o _ => P o) fun _ _ => True

namespace Leaves

variable {α : Type} {P : Outcome → Prop}

protected theorem pure {o : Outcome} (h : P o) : Leaves (pure o) P :=
  fun _ => h

protected theorem throw {f : Fault} : Leaves (throw f) P :=
  fun _ => trivial

/-- What an action leaves is what its last step leaves. -/
protected theorem bind {x : Action Stage α} {k : α → Action Stage Outcome}
    (h : ∀ a, Leaves (k a) P) : Leaves (x >>= k) P := by
  intro s
  refine Ends.bind_iff.2 (Ends.iff_perform.2 ⟨fun a s' _ => h a s', fun _ _ _ => trivial⟩)

protected theorem ite {p : Prop} [Decidable p] {x y : Action Stage Outcome} (hx : Leaves x P)
    (hy : Leaves y P) : Leaves (if p then x else y) P := by
  split
  · exact hx
  · exact hy

end Leaves

namespace Command

variable {kind : IntentKind} {payload : Table String Value} {duration : Value}

/-! ## Commands that go on at once -/

theorem send_swift (h : kind.loose) : (Outcome.send kind payload).Swift :=
  Prompt.one h

theorem next_swift : Outcome.next.Swift :=
  Prompt.nothing

theorem jumpOnFlag_leaves {flag : String} {groups : List (List Value)} :
    Leaves (jumpOnFlag flag groups) Outcome.Swift := by
  fun_induction jumpOnFlag flag groups with
  | case1 => exact .pure next_swift
  | case2 expected conversation rest ih =>
    exact .bind fun _ => .ite (.bind fun _ => .pure trivial) ih
  | case3 => exact .throw

/-! ## Effects -/

/-- The action leaves the cursor where it is. -/
def StandsStill {α : Type} (act : Action Stage α) : Prop :=
  ∀ s, Ends act s (fun _ s' => s'.session.cursor = s.session.cursor) fun _ _ => True

theorem StandsStill.bind {α β : Type} {x : Action Stage α} {k : α → Action Stage β}
    (hx : StandsStill x) (hk : ∀ a, StandsStill (k a)) : StandsStill (x >>= k) := by
  intro s
  refine Ends.bind_iff.2 (Ends.mono (hx s) (fun a s₁ h₁ => ?_) fun _ _ h => h)
  exact Ends.mono (hk a s₁) (fun _ s₂ h₂ => h₂.trans h₁) fun _ _ h => h

theorem standsStill_ofMishap {α : Type} {r : Except Mishap α} :
    StandsStill (Action.ofMishap r) :=
  fun _ => Ends.ofMishap_iff.2 ⟨fun _ _ => rfl, fun _ _ => trivial⟩

theorem standsStill_mapScene {f : Scene → Scene} : StandsStill (modify (Stage.mapScene f)) :=
  fun _ => Ends.modify_iff.2 rfl

theorem standsStill_changeSprite {name : Value} {f : Sprite → Sprite} :
    StandsStill (changeSprite name f) :=
  standsStill_mapScene

theorem standsStill_note {level : Level} {text : String} :
    StandsStill (modify (Stage.note level text)) :=
  fun _ => Ends.modify_iff.2 rfl

theorem standsStill_viewSetting {key : String} : StandsStill (viewSetting key) :=
  fun _ => Ends.bind_iff.2 (standsStill_ofMishap _)

theorem standsStill_sprite? {kind : CommandKind} {name : Value} :
    StandsStill (sprite? kind name) := by
  refine standsStill_ofMishap.bind fun key s => ?_
  simp only [Ends.bind_iff, Ends.get_iff]
  split
  · exact Ends.bind_iff.2 rfl
  · rfl

theorem standsStill_attempt {α : Type} {act : Attempt Scene α} :
    StandsStill (Action.attempt Stage.scenePlace act) := by
  intro s
  refine Ends.attempt_iff.2 (Ends.iff_attempted.2 ⟨fun _ _ _ => rfl, fun _ _ _ => trivial⟩)

/-- What an effect leaves to do: it goes on at once, or it lasts and the cursor has not moved. -/
def Effected (duration : Value) (s : Stage) : Outcome → Stage → Prop
  | .hold kind _, s' => kind.lasting ∧ duration.greater (.int 0) = .ok true ∧
      s'.session.cursor = s.session.cursor
  | o, _ => o.Swift

theorem Effected.orderly {cmd : Script.Command} {s s' : Stage} {o : Outcome}
    (hd : duration? cmd = some duration) (h : Effected duration s o s') : o.Orderly cmd s s' := by
  cases o with
  | hold => exact ⟨h.1, ⟨duration, hd, h.2.1⟩, h.2.2⟩
  | proceed => exact h
  | _ => trivial

theorem runEffect_ends {change : Action Stage Unit} (hkind : kind.lasting)
    (hchange : StandsStill change) (s : Stage) :
    Ends (runEffect kind duration payload change) s (Effected duration s) fun _ _ => True := by
  refine Ends.bind_iff.2 (Ends.ofMishap_iff.2 ⟨fun lasts hlasts => ?_, fun _ _ => trivial⟩)
  cases lasts with
  | true =>
    refine Ends.bind_iff.2 (Ends.modify_iff.2 (Ends.bind_iff.2 ?_))
    exact (hchange _).mono (fun _ s' h => ⟨hkind, hlasts, h⟩) fun _ _ h => h
  | false =>
    have hprompt : Prompt (instantIntents kind payload) := by
      cases kind with
      | fadeBegin => exact .fade payload
      | moveBackground | scaleBackground | moveSprite | flipSprite | scaleSprite => exact .one rfl
      | _ => cases hkind
    exact Ends.bind_iff.2 ((hchange s).mono (fun _ _ _ => hprompt) fun _ _ h => h)

/-- A command on a sprite of the screen. -/
theorem onSprite_ends {kind : CommandKind} {name : Value} {k : Sprite → Action Stage Outcome}
    (hk : ∀ sprite s, Ends (k sprite) s (Effected duration s) fun _ _ => True) (s : Stage) :
    Ends (do
      match ← sprite? kind name with
      | none => return .next
      | some sprite => k sprite) s (Effected duration s) fun _ _ => True := by
  refine Ends.bind_iff.2 ((standsStill_sprite? s).mono (fun found s₁ h₁ => ?_) fun _ _ h => h)
  cases found with
  | none => exact next_swift
  | some sprite =>
    refine (hk sprite s₁).mono (fun o s₂ h₂ => ?_) fun _ _ h => h
    cases o with
    | hold => exact ⟨h₂.1, h₂.2.1, h₂.2.2.trans h₁⟩
    | _ => exact h₂

/-- An effect after a look at the stage. -/
theorem look_ends {α : Type} {x : Action Stage α} {k : α → Action Stage Outcome}
    (hx : StandsStill x)
    (hk : ∀ a s, Ends (k a) s (Effected duration s) fun _ _ => True) (s : Stage) :
    Ends (x >>= k) s (Effected duration s) fun _ _ => True := by
  refine Ends.bind_iff.2 ((hx s).mono (fun a s₁ h₁ => ?_) fun _ _ h => h)
  refine (hk a s₁).mono (fun o s₂ h₂ => ?_) fun _ _ h => h
  cases o with
  | hold => exact ⟨h₂.1, h₂.2.1, h₂.2.2.trans h₁⟩
  | _ => exact h₂

theorem alignSprite_ends {name place : Value} (s : Stage) :
    Ends (alignSprite name place duration) s (Effected duration s) fun _ _ => True := by
  have hmove : ∀ (sprite : Sprite) (part : Float) (s : Stage), Ends (do
      let x ← Action.ofMishap ((← viewSetting "width").mul (.float part))
      runEffect .moveSprite duration [("name", name), ("x", x), ("y", sprite.y)]
        (changeSprite name fun s => { s with x })) s (Effected duration s) fun _ _ => True :=
    fun sprite part => look_ends standsStill_viewSetting fun _ =>
      look_ends standsStill_ofMishap fun _ => runEffect_ends rfl standsStill_changeSprite
  unfold alignSprite
  refine onSprite_ends (fun sprite s => ?_) s
  split
  · exact hmove sprite _ s
  · exact look_ends standsStill_note (fun _ => hmove sprite _) s

/-- What a command leaves to do is in order. -/
theorem perform_orderly (cmd : Script.Command) (s : Stage) :
    Ends (perform cmd) s (Outcome.Orderly cmd s) fun _ _ => True := by
  have hswift : ∀ {act : Action Stage Outcome}, Leaves act Outcome.Swift →
      Ends act s (Outcome.Orderly cmd s) fun _ _ => True := fun h =>
    (h s).mono (fun _ _ h => h.orderly) fun _ _ h => h
  have heffect : ∀ {act : Action Stage Outcome} {duration : Value}, duration? cmd = some duration →
      Ends act s (Effected duration s) (fun _ _ => True) →
      Ends act s (Outcome.Orderly cmd s) fun _ _ => True := fun hd h =>
    h.mono (fun _ _ h => h.orderly hd) fun _ _ h => h
  have hflag : ∀ {flag : String} {v : Value}, Leaves (setFlag flag v) Outcome.Swift := fun {_ _} =>
    .bind fun _ => .bind fun _ => .pure next_swift
  have hcondition : ∀ {kind : CommandKind} {v : Value} {rest : List Value},
      Leaves (do condition kind (← flagOf v) rest) Outcome.Swift := fun {_ _ _} =>
    .bind fun _ => .bind fun _ => .bind fun _ => .bind fun _ => .pure trivial
  have hask : ∀ {option : List Value → Action Stage ChoiceOption} {line : Value}
      {groups : List (List Value)}, Leaves (askFor option line groups) Outcome.Swift :=
    fun {_ _ _} => .bind fun _ => .pure trivial
  cases cmd using shapes with
  | addSprite =>
    refine hswift (.bind fun _ => .bind fun _ => ?_)
    split
    · exact .bind fun _ => .bind fun _ => .pure (send_swift rfl)
    · exact .bind fun _ => .bind fun _ => .bind fun _ => .bind fun _ => .bind fun _ =>
        .bind fun _ => .bind fun _ => .pure (send_swift rfl)
  | removeSprite =>
    refine hswift (.bind fun _ => .bind fun r => ?_)
    rcases r with ⟨_ | _, _⟩
    · exact .bind fun _ => .pure next_swift
    · exact .bind fun _ => .pure (send_swift rfl)
  | alignSprite => exact heffect rfl (alignSprite_ends s)
  | moveSprite =>
    exact heffect rfl (onSprite_ends (fun _ => look_ends standsStill_ofMishap fun _ =>
      look_ends standsStill_ofMishap fun _ => runEffect_ends rfl standsStill_changeSprite) s)
  | setSpritePosition =>
    refine hswift (.bind fun found => ?_)
    cases found with
    | none => exact .pure next_swift
    | some _ => exact .bind fun _ => .pure (send_swift rfl)
  | flipSprite | scaleSprite =>
    exact heffect rfl (onSprite_ends (fun _ => runEffect_ends rfl standsStill_changeSprite) s)
  | setSpriteAlias =>
    refine hswift (.bind fun _ => ?_)
    dsimp only
    split
    · exact .bind fun _ => .bind fun _ => .pure next_swift
    · exact .bind fun _ => .bind fun _ => .pure next_swift
  | setBackground | showSpeech | setSpeechbox | setSpeechFont | setSpeechFontSize | setSpeakerFont
  | setSpeakerFontSize => exact hswift (.bind fun _ => .pure (send_swift rfl))
  | moveBackground => exact heffect rfl (runEffect_ends rfl standsStill_attempt s)
  | scaleBackground | fadeIn | fadeOut =>
    exact heffect rfl (runEffect_ends rfl standsStill_mapScene s)
  | playSound => exact hswift (.pure (send_swift rfl))
  | playMusic =>
    refine hswift (.bind fun _ => ?_)
    split
    · exact .pure (send_swift rfl)
    · exact .pure (send_swift rfl)
  | setSpeaker => exact hswift (.bind fun _ => .pure next_swift)
  | setCinematicText | setTypewriterText =>
    exact hswift (.bind fun _ => .bind fun _ => .bind fun _ => .bind fun _ => .pure next_swift)
  | modifyChoiceboxOffset =>
    exact hswift (.bind fun _ => .bind fun _ => .bind fun _ => .bind fun _ => .bind fun _ =>
      .bind fun _ => .pure (send_swift rfl))
  | setConversation => exact hswift (.bind fun _ => .pure trivial)
  | switchScript =>
    exact hswift (.bind fun _ => .bind fun _ => .bind fun _ => .bind fun _ => .bind fun _ =>
      .pure trivial)
  | setFlag => exact hswift (.bind fun _ => hflag)
  | modifyFlag | increaseFlagByFlag | decreaseFlagByFlag =>
    exact hswift (.bind fun _ => .bind fun _ => .bind fun _ => .pure next_swift)
  | rollDice =>
    refine hswift (.bind fun _ => .ite ?_ ?_)
    · exact .bind fun _ => .bind fun _ => .bind fun _ => hflag
    · exact .bind fun _ => .bind fun _ => hflag
  | isFlag | isFlagMoreThan | isFlagLessThan | isFlagBetween | isFlagMoreThanFlag
  | isFlagLessThanFlag | isFlagEqualToFlag => exact hswift hcondition
  | jumpOnFlag => exact hswift (.bind fun _ => jumpOnFlag_leaves)
  | jumpOnChoice | modifyFlagByChoice | showChoiceAndJump | showChoiceAndModify =>
    exact hswift hask
  | addToChoiceSet | removeFromChoiceSet =>
    exact hswift (.bind fun _ => .bind fun _ => .pure next_swift)
  | wipeChoiceSet => exact hswift (.bind fun _ => .bind fun _ => .bind fun _ => .pure next_swift)
  | showChoiceSet =>
    refine hswift (.bind fun _ => .bind fun _ => ?_)
    split
    · exact .bind fun _ => .pure next_swift
    · exact .pure trivial
  | systemCall => exact hswift (.pure trivial)
  | misfit => exact hswift .throw

end Command

/-! ## Executing a command -/

/-- The command was performed and has left something to do, which is done. -/
def Engine.Performs {σ : Type} (w : Watch σ) (cmd : Script.Command) (o : Outcome)
    (e e' : Engine σ) : Prop :=
  ∃ e₁ s, Aside w [] e e₁ ∧ (Command.perform cmd).perform e₁.stage = (.ok o, s) ∧
    Aside w (sends o { e₁ with stage := s }) (settled o { e₁ with stage := s }) e'

/-- A command has been executed: it has left an outcome in order, which was settled. -/
def Engine.Executed {σ : Type} (w : Watch σ) (cmd : Script.Command) (e e' : Engine σ) : Prop :=
  ∃ e₁ s o, Aside w [] e e₁ ∧ Outcome.Orderly cmd e₁.stage o s ∧
    Aside w (Engine.sends o { e₁ with stage := s }) (Engine.settled o { e₁ with stage := s }) e'

/-- A command is performed, or it fails and has changed nothing but the stage, unless a collaborator
has met a mishap. -/
theorem Engine.execute_performs {σ : Type} {c : Collaborators σ} {w : Watch σ} {may : Prop}
    (hc : Quiet c w may) (cmd : Script.Command) (e : Engine σ) :
    Ends (execute c cmd) e
      (fun _ e' => Command.wellFormed cmd ∧ ∃ o, Performs w cmd o e e')
      fun _ e' => may ∨ ∃ e₁ s, Aside w [] e e₁ ∧ e' = { e₁ with stage := s } := by
  unfold execute
  cases hw : Command.wellFormed cmd with
  | false => exact .inr ⟨e, e.stage, Aside.refl w e, rfl⟩
  | true =>
    refine (emit_runs hc _ e).bind_ends fun _ e₁ h₁ => Ends.bind_iff.2 (Ends.onPart_iff.2 ?_)
    refine (Ends.iff_perform.2 ⟨fun o s hrun => ?_, fun f s hrun => .inr ⟨e₁, s, h₁, rfl⟩⟩)
    refine Ends.mono (settle_runs hc o { e₁ with stage := s })
      (fun _ e' h' => ⟨rfl, o, e₁, s, h₁, hrun, h'⟩) ?_
    rintro (_ | m) _ hstops
    · exact hstops.elim
    · exact .inl hstops

theorem Engine.execute_orderly {σ : Type} {c : Collaborators σ} {w : Watch σ} {may : Prop}
    (hc : Quiet c w may) (cmd : Script.Command) (e : Engine σ) :
    Ends (execute c cmd) e (fun _ e' => Executed w cmd e e')
      fun _ e' => may ∨ ∃ e₁ s, Aside w [] e e₁ ∧ e' = { e₁ with stage := s } := by
  refine (execute_performs hc cmd e).mono ?_ fun _ _ h => h
  rintro _ e' ⟨-, o, e₁, s, h₁, hrun, h'⟩
  exact ⟨e₁, s, o, h₁, (Ends.iff_perform.1 (Command.perform_orderly cmd e₁.stage)).1 o s hrun, h'⟩

end VisualNovel
