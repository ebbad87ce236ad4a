import VisualNovel.Proofs.Failures
import VisualNovel.Proofs.Shapes

/-!
# What commands keep track of

A relation between stages that no *plain* change breaks is tracked by every command that does
nothing else: it changes the scene, the settings or the flags, asks the dice, or times text, and it
looks things up, which at most writes to the log (`Command.perform_plain`).

The other commands enter a conversation or a script, or change a set of options. A relation that has
nothing to do with the session and the library is tracked by them as well
(`Command.perform_tracks`).
-/

namespace VisualNovel

open Script

variable {α : Type}

/-- Whether a command weighs if the next beat is passed over. -/
def Script.CommandKind.conditional : CommandKind → Bool
  | .isFlag | .isFlagMoreThan | .isFlagLessThan | .isFlagBetween | .isFlagMoreThanFlag
  | .isFlagLessThanFlag | .isFlagEqualToFlag => true
  | _ => false

/-- Whether a command leaves the cursor and the sets of options alone. -/
def Script.CommandKind.straight : CommandKind → Bool
  | .setConversation | .switchScript | .jumpOnFlag | .addToChoiceSet | .removeFromChoiceSet
  | .wipeChoiceSet => false
  | kind => !kind.conditional

/-! ## Plain changes -/

/-- A relation between stages that no plain change breaks. -/
structure Stage.Plain (R : Stage → Stage → Prop) : Prop where
  noted : ∀ s level text, R s (s.note level text)
  scene : ∀ s f, R s (s.mapScene f)
  overrides : ∀ s f, R s (s.mapOverrides f)
  flags : ∀ s f, R s (s.mapFlags f)
  captured : ∀ s, R s (s.mapSession Session.capture)
  thrown : ∀ s dice, R s (Stage.dicePlace.set dice s)
  cinematic : ∀ seconds allowed, Tracks R (Stage.retime (TimedText.setCinematic seconds allowed))
  typewriter : ∀ rate canSkip, Tracks R (Stage.retime (TimedText.setTypewriter rate canSkip))

namespace Command

variable {R : Stage → Stage → Prop} [IsPreorder Stage R]

/-! ### Looking things up -/

theorem viewSetting_tracks {key : String} : Tracks R (viewSetting key) :=
  .get_bind fun s => Tracks.ofMishap (R := R) s

theorem pictureOf_tracks {name : Value} : Tracks R (pictureOf name) :=
  .get_bind fun s => Tracks.bind .ofMishap (fun _ => .bind .ofMishap fun _ => .pure) s

theorem takeOut_tracks {key : Value} {t : Table Value α} : Tracks R (takeOut key t) := by
  unfold takeOut
  split
  · exact .pure
  · exact .bind .ofMishap fun _ => .pure

theorem jumpOption_tracks (group : List Value) : Tracks R (jumpOption group) := by
  unfold jumpOption
  split
  · exact .pure
  · exact refl_of R

theorem adjustOption_tracks (group : List Value) : Tracks R (adjustOption group) := by
  unfold adjustOption
  split
  · exact .bind .ofMishap fun _ => .pure
  · exact refl_of R

theorem askFor_tracks {option : List Value → Action Stage ChoiceOption}
    (hoption : ∀ group, Tracks R (option group)) (line : Value) (groups : List (List Value)) :
    Tracks R (askFor option line groups) := by
  have hoptions : Tracks R (groups.mapM option) := by
    induction groups with
    | nil => exact .pure
    | cons group groups ih =>
      rw [List.mapM_cons]
      exact (hoption group).bind fun _ => ih.bind fun _ => .pure
  exact hoptions.bind fun _ => .pure

section
variable (hR : Stage.Plain R)
include hR

theorem onSprite_tracks {kind : CommandKind} {name : Value} {k : Sprite → Action Stage Outcome}
    (hk : ∀ sprite, Tracks R (k sprite)) :
    Tracks R (do
      match ← sprite? kind name with
      | none => return .next
      | some sprite => k sprite) := by
  have hfind : Tracks R (sprite? kind name) := by
    refine .bind .ofMishap fun _ => .get_bind fun s => ?_
    dsimp only
    split
    · exact hR.noted s _ _
    · exact refl_of R s
  refine hfind.bind fun found => ?_
  cases found with
  | none => exact .pure
  | some sprite => exact hk sprite

/-! ### Scenery -/

omit [IsPreorder Stage R] in
theorem mapScene_tracks {f : Scene → Scene} : Tracks R (modify (Stage.mapScene f)) :=
  .modify fun s => hR.scene s f

theorem runEffect_tracks {kind : IntentKind} {duration : Value} {payload : Table String Value}
    {change : Action Stage Unit} (h : Tracks R change) :
    Tracks R (runEffect kind duration payload change) := by
  refine Tracks.ofMishap.bind fun lasts => ?_
  cases lasts with
  | true => exact .bind (.modify hR.captured) fun _ => h.bind fun _ => .pure
  | false => exact h.bind fun _ => .pure

theorem addSprite_tracks (name atOnce : Value) : Tracks R (addSprite name atOnce) := by
  have hshow : ∀ {f : Scene → Scene} {o : Outcome}, Tracks R (do
      modify (Stage.mapScene f)
      return o) := fun {_ _} => (mapScene_tracks hR).bind fun _ => .pure
  refine pictureOf_tracks.bind fun filename => .get_bind fun s => ?_
  dsimp only
  split
  · exact hshow s
  · refine Tracks.bind viewSetting_tracks (fun _ => .bind .ofMishap fun _ => ?_) s
    refine viewSetting_tracks.bind fun _ => viewSetting_tracks.bind fun _ => ?_
    exact .bind .ofMishap fun _ => hshow

theorem removeSprite_tracks (name atOnce : Value) : Tracks R (removeSprite name atOnce) := by
  refine .get_bind fun s => Tracks.bind takeOut_tracks (fun r => ?_) s
  rcases r with ⟨_ | _, sprites⟩
  · exact .bind (.modify fun s => hR.noted s _ _) fun _ => .pure
  · exact (mapScene_tracks hR).bind fun _ => .pure

theorem alignSprite_tracks (name place duration : Value) :
    Tracks R (alignSprite name place duration) := by
  refine onSprite_tracks hR fun sprite => ?_
  have hmove : ∀ part : Float, Tracks R (do
      let x ← Action.ofMishap ((← viewSetting "width").mul (.float part))
      runEffect .moveSprite duration [("name", name), ("x", x), ("y", sprite.y)]
        (changeSprite name fun s => { s with x })) := fun _ =>
    viewSetting_tracks.bind fun _ => .bind .ofMishap fun _ =>
      runEffect_tracks hR (mapScene_tracks hR)
  split
  · exact hmove _
  · exact .bind (.modify fun s => hR.noted s _ _) fun _ => hmove _

theorem setSpriteAlias_tracks (name filename : Value) :
    Tracks R (setSpriteAlias name filename) := by
  refine .get_bind fun s => ?_
  have hset : ∀ {x : Action Stage Value}, Tracks R x → Tracks R (do
      let aliases ← x
      modify (Stage.mapScene fun s => { s with spriteAliases := aliases })
      return Outcome.next) := fun hx =>
    hx.bind fun _ => (mapScene_tracks hR).bind fun _ => .pure
  have hthrow : ∀ f : Fault, Tracks R (throw f : Action Stage Value) := fun _ => refl_of R
  have hkey : ∀ v, Tracks R (keyOf v) := fun _ => .ofMishap
  cases filename with
  | null =>
    refine hset ?_ s
    unfold withoutAlias
    split
    · exact takeOut_tracks.bind fun _ => .pure
    · exact hthrow _
    · exact hthrow _
  | _ =>
    refine hset ?_ s
    unfold withAlias
    split
    · exact (hkey _).bind fun _ => .pure
    · exact .bind .ofMishap fun _ => .pure
    · exact hthrow _

/-! ### Flags, settings and menus -/

theorem setFlag_tracks (flag : String) (v : Value) : Tracks R (setFlag flag v) :=
  .bind .ofMishap fun _ => .bind (.modify fun s => hR.flags s _) fun _ => .pure

theorem rollDice_tracks (sides count flag : Value) : Tracks R (rollDice sides count flag) := by
  have hset : ∀ sum : Value, Tracks R (do setFlag (← flagOf flag) sum) := fun _ =>
    .bind .ofMishap fun _ => setFlag_tracks hR _ _
  have hthrown : Tracks R (do
      if ← atLeastOne sides then atLeastOne count else return false) := by
    refine .bind .ofMishap fun some => ?_
    cases some with
    | true => exact .ofMishap
    | false => exact .pure
  refine hthrown.bind fun thrown => ?_
  cases thrown with
  | true => exact .bind .ofMishap fun _ => .bind (.attempt hR.thrown) fun sum => hset sum
  | false => exact hset _

theorem setCinematicText_tracks (seconds inputAllowed : Value) :
    Tracks R (setCinematicText seconds inputAllowed) :=
  .bind .ofMishap fun _ => .bind .ofMishap fun _ => .bind (.modify fun s => hR.overrides s _)
    fun _ => (hR.cinematic _ _).bind fun _ => .pure

theorem setTypewriterText_tracks (rate canSkip : Value) :
    Tracks R (setTypewriterText rate canSkip) :=
  .bind .ofMishap fun _ => .bind .ofMishap fun _ => .bind (.modify fun s => hR.overrides s _)
    fun _ => (hR.typewriter _ _).bind fun _ => .pure

theorem moveChoicebox_tracks (dx dy : Value) : Tracks R (moveChoicebox dx dy) := by
  have hmove : ∀ f, Tracks R (modify (Stage.mapOverrides f)) := fun f =>
    .modify fun s => hR.overrides s f
  refine .get_bind fun s => Tracks.bind .ofMishap (fun x => (hmove _).bind fun _ => ?_) s
  refine .get_bind fun s => Tracks.bind .ofMishap (fun y => ?_) s
  exact (hmove _).bind fun _ => .pure

theorem showChoiceSet_tracks (name : Value) : Tracks R (showChoiceSet name) := by
  refine .bind .ofMishap fun key => .get_bind fun s => ?_
  split
  · exact hR.noted s _ _
  · exact refl_of R s

/-! ### Straight commands -/

/-- A straight command tracks what no plain change breaks. -/
theorem perform_plain {cmd : Script.Command} (hstraight : cmd.kind.straight) :
    Tracks R (perform cmd) := by
  have hscene : ∀ {f : Scene → Scene} {o : Outcome}, Tracks R (do
      modify (Stage.mapScene f)
      return o) := fun {_ _} => (mapScene_tracks hR).bind fun _ => .pure
  have hoverrides : ∀ {f : Overrides → Overrides} {o : Outcome}, Tracks R (do
      modify (Stage.mapOverrides f)
      return o) := fun {_ _} => .bind (.modify fun s => hR.overrides s _) fun _ => .pure
  have hflags : ∀ {f : Flags → Flags} {o : Outcome}, Tracks R (do
      modify (Stage.mapFlags f)
      return o) := fun {_ _} => .bind (.modify fun s => hR.flags s _) fun _ => .pure
  have heffect : ∀ {kind : IntentKind} {duration : Value} {payload : Table String Value}
      {f : Scene → Scene}, Tracks R (runEffect kind duration payload (modify (Stage.mapScene f))) :=
    fun {_ _ _ _} => runEffect_tracks hR (mapScene_tracks hR)
  cases cmd using shapes with
  | addSprite => exact addSprite_tracks hR _ _
  | removeSprite => exact removeSprite_tracks hR _ _
  | alignSprite => exact alignSprite_tracks hR _ _ _
  | moveSprite =>
    exact onSprite_tracks hR fun _ => .bind .ofMishap fun _ => .bind .ofMishap fun _ => heffect
  | setSpritePosition => exact onSprite_tracks hR fun _ => hscene
  | flipSprite | scaleSprite => exact onSprite_tracks hR fun _ => heffect
  | setSpriteAlias => exact setSpriteAlias_tracks hR _ _
  | setBackground | setSpeaker | showSpeech | setSpeechbox => exact hscene
  | moveBackground => exact runEffect_tracks hR (.attempt fun s scene => hR.scene s fun _ => scene)
  | scaleBackground | fadeIn | fadeOut => exact heffect
  | playSound | systemCall => exact .pure
  | playMusic =>
    refine (mapScene_tracks hR).bind fun _ => ?_
    split
    · exact .pure
    · exact .pure
  | setSpeechFont | setSpeechFontSize | setSpeakerFont | setSpeakerFontSize => exact hoverrides
  | setCinematicText => exact setCinematicText_tracks hR _ _
  | setTypewriterText => exact setTypewriterText_tracks hR _ _
  | modifyChoiceboxOffset => exact moveChoicebox_tracks hR _ _
  | setFlag => exact .bind .ofMishap fun _ => setFlag_tracks hR _ _
  | modifyFlag | increaseFlagByFlag | decreaseFlagByFlag =>
    exact .bind .ofMishap fun _ => .bind .ofMishap fun _ => hflags
  | rollDice => exact rollDice_tracks hR _ _ _
  | jumpOnChoice | showChoiceAndJump => exact askFor_tracks jumpOption_tracks _ _
  | modifyFlagByChoice | showChoiceAndModify => exact askFor_tracks adjustOption_tracks _ _
  | showChoiceSet => exact showChoiceSet_tracks hR _
  | setConversation | switchScript | isFlag | isFlagMoreThan | isFlagLessThan | isFlagBetween
  | isFlagMoreThanFlag | isFlagLessThanFlag | isFlagEqualToFlag | jumpOnFlag | addToChoiceSet
  | removeFromChoiceSet | wipeChoiceSet => exact absurd hstraight Bool.false_ne_true
  | misfit => exact refl_of R

end

end Command

/-! ## All commands -/

/-- A relation between stages that has nothing to do with the script, the session and the library,
and that setting the timing of text does not break. -/
structure Stage.Offstage (R : Stage → Stage → Prop) : Prop where
  noted : ∀ s level text, R s (s.note level text)
  script : ∀ s script, R s { s with script }
  session : ∀ s f, R s (s.mapSession f)
  library : ∀ s library, R s { s with library }
  thrown : ∀ s dice, R s (Stage.dicePlace.set dice s)
  cinematic : ∀ seconds allowed, Tracks R (Stage.retime (TimedText.setCinematic seconds allowed))
  typewriter : ∀ rate canSkip, Tracks R (Stage.retime (TimedText.setTypewriter rate canSkip))

namespace Stage.Offstage

variable {R : Stage → Stage → Prop} (hR : Offstage R)
include hR

theorem plain : Plain R where
  noted := hR.noted
  scene s _ := hR.session s _
  overrides s _ := hR.session s _
  flags s _ := hR.session s _
  captured s := hR.session s _
  thrown := hR.thrown
  cinematic := hR.cinematic
  typewriter := hR.typewriter

variable [IsPreorder Stage R]

theorem enter (script : Script) (cursor : Cursor) (s : Stage) : R s (s.enter script cursor) :=
  trans_of R (hR.session s _) (hR.script _ script)

theorem fetchScript (missing : StoryError) (name : Value) :
    Tracks R (Stage.fetchScript missing name) := by
  refine .get_bind fun s => ?_
  cases s.library with
  | none => exact refl_of R s
  | some l => exact trans_of R (hR.library s _) (Tracks.ofExcept (R := R) _)

theorem switchConversation (name : Value) : Tracks R (Stage.switchConversation name) :=
  .get_bind fun s => Tracks.bind .ofExcept (fun _ => .bind .ofStory fun _ =>
    .modify fun s => hR.session s _) s

/-- Text is timed as the session wants it. -/
theorem retimeFromSession : Tracks R Stage.retimeFromSession := by
  refine .get_bind fun s => ?_
  refine Tracks.bind (hR.cinematic _ _) (fun _ => (hR.typewriter _ _).bind fun _ => ?_) s
  refine .bind .ofMishap fun on => ?_
  cases on with
  | true => exact hR.cinematic _ _
  | false => exact .pure

end Stage.Offstage

namespace Command

variable {R : Stage → Stage → Prop} [IsPreorder Stage R] (hR : Stage.Offstage R)
include hR

theorem setConversation_tracks (name : Value) : Tracks R (setConversation name) :=
  (hR.switchConversation name).bind fun _ => .pure

theorem switchScript_tracks (line name conversation : Value) :
    Tracks R (switchScript line name conversation) := by
  refine (hR.fetchScript _ name).bind fun script => .bind .ofExcept fun _ => ?_
  refine .bind .ofStory fun cursor => .bind (.modify (hR.enter script cursor)) fun _ => ?_
  refine .bind (.modify fun s => hR.session s _) fun _ => ?_
  exact .bind (.modify fun s => hR.noted s _ _) fun _ => .pure

theorem condition_tracks (kind : CommandKind) (flag : String) (rest : List Value) :
    Tracks R (condition kind flag rest) := by
  refine .get_bind fun s => Tracks.bind .ofMishap (fun ok => ?_) s
  exact .bind (.modify fun s => hR.session s _) fun _ => .pure

theorem jumpOnFlag_tracks (flag : String) (groups : List (List Value)) :
    Tracks R (jumpOnFlag flag groups) := by
  fun_induction jumpOnFlag flag groups with
  | case1 => exact .pure
  | case2 expected conversation rest ih =>
    refine .get_bind fun s => ?_
    split
    · exact setConversation_tracks hR conversation s
    · exact ih s
  | case3 => exact refl_of R

/-- Every command tracks a relation that has nothing to do with the session and the library. -/
theorem perform_tracks (cmd : Script.Command) : Tracks R (perform cmd) := by
  cases hstraight : cmd.kind.straight with
  | true => exact perform_plain hR.plain hstraight
  | false =>
    have hchange : ∀ f, Tracks R (do changeSets f; return Outcome.next) := fun f =>
      .bind (.modify fun s => hR.session s _) fun _ => .pure
    have hcondition : ∀ kind {flag : Value} {rest : List Value},
        Tracks R (do condition kind (← flagOf flag) rest) := fun kind {_ _} =>
      .bind .ofMishap fun _ => condition_tracks hR kind _ _
    cases cmd using shapes with
    | setConversation => exact setConversation_tracks hR _
    | switchScript => exact switchScript_tracks hR _ _ _
    | isFlag | isFlagMoreThan | isFlagLessThan | isFlagBetween | isFlagMoreThanFlag
    | isFlagLessThanFlag | isFlagEqualToFlag => exact hcondition _
    | jumpOnFlag => exact .bind .ofMishap fun _ => jumpOnFlag_tracks hR _ _
    | addToChoiceSet | removeFromChoiceSet => exact .bind .ofMishap fun _ => hchange _
    | wipeChoiceSet => exact .get_bind fun s => Tracks.bind takeOut_tracks (fun _ => hchange _) s
    | misfit => exact refl_of R
    | _ => exact absurd hstraight.symm Bool.false_ne_true

end Command

end VisualNovel
