import VisualNovel.Proofs.Refusals
import VisualNovel.Proofs.Shapes
import VisualNovel.Proofs.Tracks

/-!
# Commands that fail

Most commands find out what they need before they change the session, so if they fail they leave it
as it was, and nothing of the stage has changed but the log, the dice and what the library remembers
(`Command.perform_steadfast`). The others time text, move the place of menus or move the background,
and no error of the story can stop them. So an error of the story always leaves the session as it
was (`Command.perform_refused`).
-/

namespace VisualNovel

open Script

variable {α β : Type}

namespace Stage

/-- No script that the library remembered is forgotten. -/
def Remembers (s s' : Stage) : Prop :=
  ∀ l key script, s.library = some l → Table.get? key l.compiled = some script →
    ∃ l', s'.library = some l' ∧ Table.get? key l'.compiled = some script

theorem Remembers.of_same {s s' : Stage} (h : s'.library = s.library) : s.Remembers s' :=
  fun l _ _ hl hfound => ⟨l, h.trans hl, hfound⟩

theorem Remembers.trans {s s' s'' : Stage} (h : s.Remembers s') (h' : s'.Remembers s'') :
    s.Remembers s'' := by
  intro l key script hl hfound
  obtain ⟨l', hl', hfound'⟩ := h l key script hl hfound
  exact h' l' key script hl' hfound'

/-- The settings and the files are the same, and the library has forgotten no script and remembers
typed scripts if it did. -/
structure Retains (s s' : Stage) : Prop where
  config : s'.config = s.config
  files : s'.disk.files = s.disk.files
  remembers : s.Remembers s'
  typed : (∀ l, s.library = some l → l.Typed) → ∀ l, s'.library = some l → l.Typed

theorem Retains.of_same {s s' : Stage} (hconfig : s'.config = s.config)
    (hfiles : s'.disk.files = s.disk.files) (hlibrary : s'.library = s.library) : s.Retains s' :=
  ⟨hconfig, hfiles, .of_same hlibrary, fun h => by rwa [hlibrary]⟩

instance : IsPreorder Stage Retains where
  refl _ := .of_same rfl rfl rfl
  trans _ _ _ h h' := ⟨h'.config.trans h.config, h'.files.trans h.files,
    h.remembers.trans h'.remembers, fun ht => h'.typed (h.typed ht)⟩

/-- The script and the session are the same, and of the stage nothing is lost. -/
structure Unmoved (s s' : Stage) : Prop where
  script : s'.script = s.script
  session : s'.session = s.session
  retains : s.Retains s'

instance : IsPreorder Stage Unmoved where
  refl s := ⟨rfl, rfl, refl_of Retains s⟩
  trans _ _ _ h h' := ⟨h'.script.trans h.script, h'.session.trans h.session,
    trans_of Retains h.retains h'.retains⟩

/-- Whether a script is found or not, none is forgotten. -/
theorem fetchScript_unmoved {missing : StoryError} {name : Value} :
    Tracks Unmoved (fetchScript missing name) := by
  refine Tracks.get_bind fun s => ?_
  cases hl : s.library with
  | none => exact refl_of Unmoved s
  | some l =>
    have hunmoved : s.Unmoved { s with library := some (l.get s.disk.files name).2 } := by
      refine ⟨rfl, rfl, rfl, rfl, fun l₀ key script hl₀ hfound => ⟨_, rfl, ?_⟩, ?_⟩
      · rw [hl] at hl₀
        cases hl₀
        exact Library.get_keeps hfound
      · rintro h _ ⟨⟩
        exact (Library.get_typed (h l hl)).1
    exact hunmoved

end Stage

open Stage (Unmoved)

/-- If the action fails, the stage has not moved. -/
def Steadfast (act : Action Stage α) : Prop :=
  ∀ s, Ends act s (fun _ _ => True) fun _ s' => Unmoved s s'

namespace Steadfast

protected theorem pure {a : α} : Steadfast (pure a) :=
  fun _ => trivial

protected theorem throw {f : Fault} : Steadfast (throw f : Action Stage α) :=
  refl_of Unmoved

/-- What cannot fail may change the session. -/
theorem modify_pure {f : Stage → Stage} {a : α} : Steadfast (do modify f; return a) :=
  fun _ => trivial

theorem get_bind {k : Stage → Action Stage β} (h : ∀ s, Steadfast (k s)) : Steadfast (get >>= k) :=
  fun s => h s s

protected theorem bind {x : Action Stage α} {k : α → Action Stage β} (hx : Tracks Unmoved x)
    (hk : ∀ a, Steadfast (k a)) : Steadfast (x >>= k) := by
  refine fun s => Ends.bind_iff.2 ((Tracks.iff_ends.1 hx s).mono (fun a s' h => ?_) fun _ _ h => h)
  exact (hk a s').mono (fun _ _ h => h) fun _ _ h' => trans_of Unmoved h h'

end Steadfast

/-! ## Looking things up -/

theorem Stage.note_unmoved {level : Level} {text : String} :
    Tracks Unmoved (modify (Stage.note level text)) :=
  fun _ => ⟨rfl, rfl, .of_same rfl rfl rfl⟩

theorem Stage.get_unmoved : Tracks Unmoved (get : Action Stage Stage) :=
  refl_of Unmoved

namespace Command

variable {kind : IntentKind} {duration : Value} {payload : Table String Value}

theorem flagOf_unmoved {v : Value} : Tracks Unmoved (flagOf v) :=
  .ofMishap

theorem keyOf_unmoved {v : Value} : Tracks Unmoved (keyOf v) :=
  .ofMishap

theorem viewSetting_unmoved {key : String} : Tracks Unmoved (viewSetting key) :=
  Stage.get_unmoved.bind fun _ => .ofMishap

theorem takeOut_unmoved {key : Value} {t : Table Value α} :
    Tracks Unmoved (takeOut key t) := by
  unfold takeOut
  split
  · exact .pure
  · exact keyOf_unmoved.bind fun _ => .pure

theorem sprite?_unmoved {kind : CommandKind} {name : Value} :
    Tracks Unmoved (sprite? kind name) := by
  refine keyOf_unmoved.bind fun _ => Stage.get_unmoved.bind fun _ => ?_
  dsimp only
  split
  · exact Stage.note_unmoved.bind fun _ => .pure
  · exact .pure

theorem pictureOf_unmoved {name : Value} : Tracks Unmoved (pictureOf name) :=
  Stage.get_unmoved.bind fun _ => Tracks.ofMishap.bind fun _ =>
    keyOf_unmoved.bind fun _ => .pure

theorem jumpOption_unmoved (group : List Value) : Tracks Unmoved (jumpOption group) := by
  unfold jumpOption
  split
  · exact .pure
  · exact refl_of Unmoved

theorem adjustOption_unmoved (group : List Value) :
    Tracks Unmoved (adjustOption group) := by
  unfold adjustOption
  split
  · exact flagOf_unmoved.bind fun _ => .pure
  · exact refl_of Unmoved

/-! ## Commands -/

/-- An effect whose change cannot fail. -/
theorem runEffect_steadfast {f : Stage → Stage} :
    Steadfast (runEffect kind duration payload (modify f)) := by
  refine .bind .ofMishap fun lasts => ?_
  split
  · exact fun _ => trivial
  · exact fun _ => trivial

theorem sprite?_steadfast {kind : CommandKind} {name : Value}
    {k : Option Sprite → Action Stage Outcome} (hsome : ∀ sprite, Steadfast (k (some sprite)))
    (hnone : Steadfast (k none)) : Steadfast (sprite? kind name >>= k) := by
  refine .bind sprite?_unmoved fun found => ?_
  cases found with
  | none => exact hnone
  | some sprite => exact hsome sprite

theorem addSprite_steadfast (name atOnce : Value) : Steadfast (addSprite name atOnce) := by
  refine .bind pictureOf_unmoved fun filename => .get_bind fun s => ?_
  split
  · exact .modify_pure
  · exact .bind viewSetting_unmoved fun _ => .bind .ofMishap fun _ =>
      .bind viewSetting_unmoved fun _ => .bind viewSetting_unmoved fun _ =>
        .bind .ofMishap fun _ => .modify_pure

theorem removeSprite_steadfast (name atOnce : Value) : Steadfast (removeSprite name atOnce) := by
  refine .get_bind fun s => .bind takeOut_unmoved ?_
  rintro ⟨_ | _, sprites⟩
  · exact .modify_pure
  · exact .modify_pure

theorem alignSprite_steadfast (name place : Value) :
    Steadfast (alignSprite name place duration) := by
  refine sprite?_steadfast (fun sprite => ?_) .pure
  have hmove : ∀ part : Float, Steadfast (do
      let x ← Action.ofMishap ((← viewSetting "width").mul (.float part))
      runEffect .moveSprite duration [("name", name), ("x", x), ("y", sprite.y)]
        (changeSprite name fun s => { s with x })) := fun _ =>
    .bind viewSetting_unmoved fun _ => .bind .ofMishap fun _ => runEffect_steadfast
  dsimp only
  split
  · exact hmove _
  · exact .bind Stage.note_unmoved fun _ => hmove _

theorem setSpriteAlias_steadfast (name filename : Value) :
    Steadfast (setSpriteAlias name filename) := by
  refine .get_bind fun s => ?_
  have hwithout : Tracks Unmoved (withoutAlias s.session.scene.spriteAliases name) := by
    unfold withoutAlias
    split
    · exact takeOut_unmoved.bind fun _ => .pure
    · exact refl_of Unmoved
    · exact refl_of Unmoved
  have hwith : ∀ filename, Tracks Unmoved
      (withAlias s.session.scene.spriteAliases name filename) := by
    intro filename
    unfold withAlias
    split
    · exact keyOf_unmoved.bind fun _ => .pure
    · exact Tracks.ofMishap.bind fun _ => .pure
    · exact refl_of Unmoved
  dsimp only
  split
  · exact .bind hwithout fun _ => .modify_pure
  · exact .bind (hwith _) fun _ => .modify_pure

theorem playMusic_steadfast (filename loop : Value) : Steadfast (playMusic filename loop) := by
  cases filename <;> exact fun _ => trivial

theorem switchConversation_steadfast (name : Value) : Steadfast (Stage.switchConversation name) :=
  .get_bind fun _ => .bind .ofExcept fun _ => .bind .ofStory fun _ _ => trivial

theorem setConversation_steadfast (name : Value) : Steadfast (setConversation name) := fun s =>
  Ends.bind_iff.2 ((switchConversation_steadfast name s).mono (fun _ _ _ => trivial) fun _ _ h => h)

theorem switchScript_steadfast (line name conversation : Value) :
    Steadfast (switchScript line name conversation) := by
  refine .bind Stage.fetchScript_unmoved fun script => ?_
  refine .bind .ofExcept fun _ => .bind .ofStory fun _ => ?_
  exact fun _ => trivial

theorem setFlag_steadfast (flag : String) (v : Value) : Steadfast (setFlag flag v) :=
  .bind .ofMishap fun _ => .modify_pure

theorem rollDice_steadfast (sides count flag : Value) : Steadfast (rollDice sides count flag) := by
  have hset : ∀ sum : Value, Steadfast (do setFlag (← flagOf flag) sum) := fun _ =>
    .bind flagOf_unmoved fun _ => setFlag_steadfast _ _
  have hleast : ∀ v, Tracks Unmoved (atLeastOne v) := fun _ => .ofMishap
  have hthrown : Tracks Unmoved (do
      if ← atLeastOne sides then atLeastOne count else return false) := by
    refine (hleast sides).bind fun some => ?_
    cases some with
    | true => exact hleast count
    | false => exact .pure
  refine .bind hthrown fun thrown => ?_
  cases thrown with
  | true =>
    have hthrow : ∀ s d, Unmoved s (Stage.dicePlace.set d s) := fun _ _ =>
      ⟨rfl, rfl, .of_same rfl rfl rfl⟩
    exact .bind .ofMishap fun _ => .bind (.attempt hthrow) fun sum => hset sum
  | false => exact hset _

theorem condition_steadfast (kind : CommandKind) (v : Value) (rest : List Value) :
    Steadfast (do condition kind (← flagOf v) rest) :=
  .bind flagOf_unmoved fun _ => .get_bind fun _ => .bind .ofMishap fun _ => .modify_pure

theorem jumpOnFlag_steadfast (flag : String) (groups : List (List Value)) :
    Steadfast (jumpOnFlag flag groups) := by
  fun_induction jumpOnFlag flag groups with
  | case1 => exact .pure
  | case2 expected conversation rest ih =>
    refine .get_bind fun s => ?_
    split
    · exact setConversation_steadfast conversation
    · exact ih
  | case3 => exact .throw

theorem askFor_steadfast {option : List Value → Action Stage ChoiceOption}
    (hoption : ∀ group, Tracks Unmoved (option group)) (line : Value)
    (groups : List (List Value)) : Steadfast (askFor option line groups) := by
  have hoptions : Tracks Unmoved (groups.mapM option) := by
    induction groups with
    | nil => exact .pure
    | cons group groups ih =>
      rw [List.mapM_cons]
      exact (hoption group).bind fun _ => ih.bind fun _ => .pure
  exact .bind hoptions fun _ => .pure

theorem showChoiceSet_steadfast (name : Value) : Steadfast (showChoiceSet name) := by
  refine .bind keyOf_unmoved fun _ => .get_bind fun s => ?_
  split
  · exact .modify_pure
  · exact .pure

/-- The command may fail after it has changed the session. -/
def Wavers : CommandKind → Bool
  | .moveBackground | .setCinematicText | .setTypewriterText | .modifyChoiceboxOffset => true
  | _ => false

/-- A command that fails leaves the session as it was, if it is not one of few. -/
theorem perform_steadfast {cmd : Script.Command} (hkind : Wavers cmd.kind = false) :
    Steadfast (perform cmd) := by
  have hsets : ∀ {f : ChoiceSets → ChoiceSets}, Steadfast (do
      changeSets f
      return Outcome.next) := fun {_ _} => trivial
  cases cmd using shapes with
  | addSprite => exact addSprite_steadfast _ _
  | removeSprite => exact removeSprite_steadfast _ _
  | alignSprite => exact alignSprite_steadfast _ _
  | moveSprite =>
    exact sprite?_steadfast (fun _ => .bind .ofMishap fun _ => .bind .ofMishap fun _ =>
      runEffect_steadfast) .pure
  | setSpritePosition => exact sprite?_steadfast (fun _ => .modify_pure) .pure
  | flipSprite | scaleSprite => exact sprite?_steadfast (fun _ => runEffect_steadfast) .pure
  | setSpriteAlias => exact setSpriteAlias_steadfast _ _
  | setBackground | setSpeaker | showSpeech | setSpeechbox | setSpeechFont | setSpeechFontSize
  | setSpeakerFont | setSpeakerFontSize => exact .modify_pure
  | scaleBackground | fadeIn | fadeOut => exact runEffect_steadfast
  | playMusic => exact playMusic_steadfast _ _
  | setConversation => exact setConversation_steadfast _
  | switchScript => exact switchScript_steadfast _ _ _
  | setFlag => exact .bind flagOf_unmoved fun _ => setFlag_steadfast _ _
  | modifyFlag => exact .bind flagOf_unmoved fun _ => .bind .ofMishap fun _ => .modify_pure
  | increaseFlagByFlag | decreaseFlagByFlag =>
    exact .bind flagOf_unmoved fun _ => .bind flagOf_unmoved fun _ => .modify_pure
  | rollDice => exact rollDice_steadfast _ _ _
  | isFlag | isFlagMoreThan | isFlagLessThan | isFlagBetween | isFlagMoreThanFlag
  | isFlagLessThanFlag | isFlagEqualToFlag => exact condition_steadfast _ _ _
  | jumpOnFlag => exact .bind flagOf_unmoved fun _ => jumpOnFlag_steadfast _ _
  | jumpOnChoice | showChoiceAndJump => exact askFor_steadfast jumpOption_unmoved _ _
  | modifyFlagByChoice | showChoiceAndModify => exact askFor_steadfast adjustOption_unmoved _ _
  | addToChoiceSet | removeFromChoiceSet => exact .bind keyOf_unmoved fun _ => hsets
  | wipeChoiceSet => exact .get_bind fun _ => .bind takeOut_unmoved fun _ => hsets
  | showChoiceSet => exact showChoiceSet_steadfast _
  | playSound | systemCall => exact .pure
  | misfit => exact .throw
  | moveBackground | setCinematicText | setTypewriterText | modifyChoiceboxOffset =>
    exact absurd hkind.symm Bool.false_ne_true

/-- No error of the story stops a command that may fail after it has changed the session. -/
theorem perform_wavers {cmd : Script.Command} (hkind : Wavers cmd.kind) (s : Stage) :
    Runs True (perform cmd) s fun _ _ => True := by
  have hmishap : ∀ {α : Type} {r : Except Mishap α} {s : Stage},
      Runs True (Action.ofMishap r) s fun _ _ => True := fun {_ _ _} =>
    Ends.ofMishap_iff.2 ⟨fun _ _ => trivial, fun _ _ => trivial⟩
  have hattempt : ∀ {τ : Type} {place : Place Stage τ} {act : Attempt τ Unit} {s : Stage},
      Runs True (Action.attempt place act) s fun _ _ => True := fun {_ _ _ _} =>
    Ends.attempt_iff.2 (Ends.iff_attempted.2 ⟨fun _ _ _ => trivial, fun _ _ _ => trivial⟩)
  cases cmd using shapes with
  | moveBackground =>
    refine hmishap.bind fun lasts _ _ => ?_
    split
    · exact Leads.modify_bind (hattempt.bind fun _ _ _ => trivial)
    · exact hattempt.bind fun _ _ _ => trivial
  | setCinematicText | setTypewriterText =>
    exact hmishap.bind fun _ _ _ => hmishap.bind fun _ _ _ => Leads.modify_bind
      (hattempt.bind fun _ _ _ => trivial)
  | modifyChoiceboxOffset =>
    exact Leads.get_bind (hmishap.bind fun _ _ _ => Leads.modify_bind (Leads.get_bind
      (hmishap.bind fun _ _ _ => Leads.modify_bind trivial)))
  | misfit => trivial
  | _ => exact absurd hkind Bool.false_ne_true

/-- A command that fails with an error of the story leaves the session as it was. -/
theorem perform_refused (cmd : Script.Command) (s : Stage) :
    Leads True (perform cmd) s (fun _ _ => True) fun _ s' => Unmoved s s' := by
  cases hkind : Wavers cmd.kind with
  | true => exact Leads.mono (perform_wavers hkind s) (fun _ _ h => h) fun _ _ h => h.elim
  | false =>
    refine (perform_steadfast hkind s).mono (fun _ _ h => h) ?_
    rintro (error | m) s' h
    · exact h
    · trivial

end Command

end VisualNovel
