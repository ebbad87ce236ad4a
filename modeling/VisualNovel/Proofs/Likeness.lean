import VisualNovel.Engine.Command.Perform
import VisualNovel.Proofs.Shapes
import VisualNovel.Proofs.Typing

/-!
# Commands on stages that are alike

What a command does is decided by the settings, the place in the script, the flags, the scene, the
settings that the script has made, and the menus. A `Likeness` is a relation between stages that
agree on these and that no edit of them breaks. `Likeness.perform`: a command does the same on two
stages that are alike, and leaves them alike. The command that throws dice and the one that asks the
library have to be looked at on their own.

A likeness need not be about two stages. If it says that two stages are one and the same, and that
this one has some property, then the theorem says that every command keeps the property.
-/

namespace VisualNovel

open Script

/-! ## Stages -/

/-- The cursor stands in a conversation of its script. -/
structure Cursor.Sound (c : Cursor) : Prop where
  beats : c.script.lookup c.conversation = .ok c.beats
  index : c.index ≤ c.beats.size

/-- The beat at a place of a script is one of the script. -/
theorem Cursor.Sound.current_mem {c : Cursor} (h : c.Sound) {beat : Beat}
    (hbeat : c.current = some beat) : ∃ e ∈ c.script.conversations, beat ∈ e.2 := by
  have hlookup := h.beats
  unfold Script.lookup at hlookup
  split at hlookup
  · next beats hfound =>
    cases hlookup
    obtain ⟨k, hk⟩ := Table.mem_of_get? hfound
    exact ⟨_, hk, Array.mem_of_getElem? hbeat⟩
  · cases hlookup

/-- Every beat of a conversation of a typed script is typed. -/
theorem Cursor.Sound.beat_typed {c : Cursor} (h : c.Sound) (hscript : c.script.Typed) {beat : Beat}
    (hbeat : c.current = some beat) : beat.Typed := by
  obtain ⟨e, he, hmem⟩ := h.current_mem hbeat
  exact hscript e he beat hmem

/-- The stage holds nothing that a save would lose. -/
structure Stage.Storable (s : Stage) : Prop where
  config : s.config.toValue.plain
  live : s.session.live.Storable

/-- The stage with a snapshot set aside. -/
def Stage.keeping (t : Snapshot) (s : Stage) : Stage :=
  s.mapSession fun x => { x with safe := some t }

/-- The sum of several throws of the stage's dice. -/
def Stage.throwDice (sides : Value) (throws : Nat) : Action Stage Value :=
  Action.attempt Stage.dicePlace (Dice.total sides throws (.int 0))

/-- Two groups of settings agree on the timing of text. -/
structure Overrides.SameTiming (o p : Overrides) : Prop where
  seconds : o.cinematicSeconds = p.cinematicSeconds
  inputAllowed : o.cinematicInputAllowed = p.cinematicInputAllowed
  rate : o.typewriterRate = p.typewriterRate
  canSkip : o.typewriterCanSkip = p.typewriterCanSkip

/-! ## What commands leave to do -/

/-- Whether the story goes on after a command without waiting for anybody. -/
def Outcome.passes : Outcome → Bool
  | proceed _ | stay | call _ => true
  | hold _ _ | ask _ _ => false

namespace Command

/-- The duration of a command that can be an effect. -/
def duration? (cmd : Script.Command) : Option Value :=
  match cmd.kind, cmd.args with
  | .alignSprite, [_, _, d] => some d
  | .moveSprite, [_, _, _, d] => some d
  | .flipSprite, [_, d, _] => some d
  | .scaleSprite, [_, _, d] => some d
  | .moveBackground, [_, _, d, _] => some d
  | .scaleBackground, [_, d] => some d
  | .fadeIn, [d] => some d
  | .fadeOut, [d] => some d
  | _, _ => none

/-- Whether a command asks for a choice. -/
def asks : CommandKind → Bool
  | .jumpOnChoice | .modifyFlagByChoice | .showChoiceAndJump | .showChoiceAndModify
  | .showChoiceSet => true
  | _ => false

/-- The command is an effect that takes time. -/
def Lasts (cmd : Script.Command) : Prop :=
  ∃ d, duration? cmd = some d ∧ d.greater (.int 0) = .ok true

/-- The command neither throws dice nor asks the library. -/
structure Settled (kind : CommandKind) : Prop where
  roll : kind ≠ .rollDice
  switch : kind ≠ .switchScript

theorem Lasts.settled {cmd : Script.Command} (h : Lasts cmd) : Settled cmd.kind := by
  obtain ⟨d, hd, -⟩ := h
  refine ⟨fun hk => ?_, fun hk => ?_⟩
  all_goals simp [duration?, hk] at hd

theorem settled_of_asks {cmd : Script.Command} (h : asks cmd.kind) : Settled cmd.kind := by
  refine ⟨fun hk => ?_, fun hk => ?_⟩
  all_goals simp [asks, hk] at h

end Command

/-- Two stages are alike but for the snapshots that were set aside on them. -/
def Held (R : Stage → Stage → Prop) (t u : Snapshot) (s' t' : Stage) : Prop :=
  ∃ s₁ t₁, R s₁ t₁ ∧ s' = s₁.keeping t ∧ t' = t₁.keeping u

/-- How two stages that were alike stand after a command, by what it leaves to do. -/
def Outcome.Suits (R : Stage → Stage → Prop) (cmd : Script.Command) (s t : Stage) :
    Outcome → Stage → Stage → Prop
  | .hold _ _, s', t' => Command.Lasts cmd ∧ Held R s.session.live t.session.live s' t'
  | .ask options line, s', t' =>
    s' = s ∧ t' = t ∧ Command.asks cmd.kind ∧ (line = .null ∨ cmd.args[0]? = some line) ∧
      options ≠ []
  | _, s', t' => R s' t'

/-! ## Likenesses -/

/-- A relation between stages on which commands do the same. If the commands are typed, the stages
also hold nothing that a save would lose. -/
structure Likeness (typed : Prop) (R : Stage → Stage → Prop) : Prop where
  config : ∀ {s t}, R s t → t.config = s.config
  cursor : ∀ {s t}, R s t → t.session.cursor = s.session.cursor
  flags : ∀ {s t}, R s t → t.session.flags = s.session.flags
  scene : ∀ {s t}, R s t → t.session.scene = s.session.scene
  overrides : ∀ {s t}, R s t → t.session.overrides = s.session.overrides
  choiceSets : ∀ {s t}, R s t → t.session.choiceSets = s.session.choiceSets
  storable : ∀ {s t}, R s t → typed → s.Storable
  note : ∀ {s t} level text, R s t → R (s.note level text) (t.note level text)
  setScene : ∀ {s t} scene, R s t → (typed → scene.Storable) →
    R (s.mapScene fun _ => scene) (t.mapScene fun _ => scene)
  setFlag : ∀ {s t} name n, R s t →
    R (s.mapFlags fun f => f.set name n) (t.mapFlags fun f => f.set name n)
  setOverrides : ∀ {s t} o, R s t → (typed → o.toValue.plain) → o.SameTiming s.session.overrides →
    R (s.mapOverrides fun _ => o) (t.mapOverrides fun _ => o)
  setChoiceSets : ∀ {s t} sets, R s t → (typed → ChoiceSets.Storable sets) →
    R (s.mapSession fun x => { x with choiceSets := sets })
      (t.mapSession fun x => { x with choiceSets := sets })
  setCursor : ∀ {s t} (c : Cursor), R s t → c.script = s.session.cursor.script →
    (s.session.cursor.Sound → c.Sound) →
    R (s.mapCursor fun _ => c) (t.mapCursor fun _ => c)
  setCinematicText : ∀ {s t} seconds inputAllowed, R s t →
    (typed → seconds.plain ∧ inputAllowed.plain) →
    Matches (Command.setCinematicText seconds inputAllowed)
      (Command.setCinematicText seconds inputAllowed) s t
      (fun o o' s' t' => o' = o ∧ o.passes ∧ R s' t') fun _ => R
  setTypewriterText : ∀ {s t} rate canSkip, R s t → (typed → rate.plain ∧ canSkip.plain) →
    Matches (Command.setTypewriterText rate canSkip) (Command.setTypewriterText rate canSkip) s t
      (fun o o' s' t' => o' = o ∧ o.passes ∧ R s' t') fun _ => R

/-! ## Edits of stages that are alike -/

/-- How two stages that were alike stand after a command that does not wait. -/
def Passed (R : Stage → Stage → Prop) (o o' : Outcome) (s' t' : Stage) : Prop :=
  o' = o ∧ o.passes ∧ R s' t'

namespace Likeness

variable {typed : Prop} {R : Stage → Stage → Prop} {s t : Stage}

/-- A likeness, and with it something else that no edit breaks. -/
theorem and {R' : Stage → Stage → Prop} (L : Likeness typed R) (L' : Likeness False R') :
    Likeness typed fun s t => R s t ∧ R' s t where
  config h := L.config h.1
  cursor h := L.cursor h.1
  flags h := L.flags h.1
  scene h := L.scene h.1
  overrides h := L.overrides h.1
  choiceSets h := L.choiceSets h.1
  storable h := L.storable h.1
  note level text h := ⟨L.note level text h.1, L'.note level text h.2⟩
  setScene scene h ht := ⟨L.setScene scene h.1 ht, L'.setScene scene h.2 False.elim⟩
  setFlag name n h := ⟨L.setFlag name n h.1, L'.setFlag name n h.2⟩
  setOverrides o h ht hsame :=
    ⟨L.setOverrides o h.1 ht hsame, L'.setOverrides o h.2 False.elim hsame⟩
  setChoiceSets sets h ht := ⟨L.setChoiceSets sets h.1 ht, L'.setChoiceSets sets h.2 False.elim⟩
  setCursor c h hscript hs := ⟨L.setCursor c h.1 hscript hs, L'.setCursor c h.2 hscript hs⟩
  setCinematicText seconds inputAllowed h ht := by
    refine ((L.setCinematicText seconds inputAllowed h.1 ht).and
      (L'.setCinematicText seconds inputAllowed h.2 False.elim)).mono ?_ fun _ _ _ h => h
    rintro o o' s' t' ⟨⟨ho, hp, hr⟩, -, -, hr'⟩
    exact ⟨ho, hp, hr, hr'⟩
  setTypewriterText rate canSkip h ht := by
    refine ((L.setTypewriterText rate canSkip h.1 ht).and
      (L'.setTypewriterText rate canSkip h.2 False.elim)).mono ?_ fun _ _ _ h => h
    rintro o o' s' t' ⟨⟨ho, hp, hr⟩, -, -, hr'⟩
    exact ⟨ho, hp, hr, hr'⟩

theorem storableScene (L : Likeness typed R) (h : R s t) (ht : typed) : s.session.scene.Storable :=
  (L.storable h ht).live.scene

theorem mapScene (L : Likeness typed R) (h : R s t) (f : Scene → Scene)
    (hf : typed → s.session.scene.Storable → (f s.session.scene).Storable) :
    R (s.mapScene f) (t.mapScene f) := by
  have hset := L.setScene (f s.session.scene) h fun ht => hf ht (L.storableScene h ht)
  have ht : t.mapScene f = t.mapScene fun _ => f s.session.scene := by
    rw [← L.scene h]
    rfl
  rw [ht]
  exact hset

theorem mapOverrides (L : Likeness typed R) (h : R s t) (f : Overrides → Overrides)
    (hf : typed → s.session.overrides.toValue.plain → (f s.session.overrides).toValue.plain)
    (htiming : (f s.session.overrides).SameTiming s.session.overrides) :
    R (s.mapOverrides f) (t.mapOverrides f) := by
  have hset := L.setOverrides (f s.session.overrides) h
    (fun ht => hf ht (L.storable h ht).live.overrides) htiming
  have ht : t.mapOverrides f = t.mapOverrides fun _ => f s.session.overrides := by
    rw [← L.overrides h]
    rfl
  rw [ht]
  exact hset

theorem mapCursor (L : Likeness typed R) (h : R s t) (f : Cursor → Cursor)
    (hscript : (f s.session.cursor).script = s.session.cursor.script)
    (hf : s.session.cursor.Sound → (f s.session.cursor).Sound) :
    R (s.mapCursor f) (t.mapCursor f) := by
  have hset := L.setCursor (f s.session.cursor) h hscript hf
  have ht : t.mapCursor f = t.mapCursor fun _ => f s.session.cursor := by
    rw [← L.cursor h]
    rfl
  rw [ht]
  exact hset

/-! ## Speech, fonts, background and sound -/

/-- A command that edits the scene, but no sprite, and goes on. -/
theorem editScene (L : Likeness typed R) (h : R s t) {f : Scene → Scene} {o : Outcome}
    (ho : o.passes) (hsprites : (f s.session.scene).sprites = s.session.scene.sprites)
    (hf : typed → s.session.scene.toValue.plain → (f s.session.scene).toValue.plain) :
    Matches (do modify (Stage.mapScene f); return o) (do modify (Stage.mapScene f); return o) s t
      (Passed R) fun _ => R := by
  rw [Matches.modify_bind_iff, Matches.pure_iff]
  exact ⟨rfl, ho, L.mapScene h f fun ht hs => hs.edit hsprites (hf ht hs.plain)⟩

theorem setSpeaker (L : Likeness typed R) (h : R s t) {name : Value} (hname : typed → name.plain) :
    Matches (Command.setSpeaker name) (Command.setSpeaker name) s t (Passed R) fun _ => R :=
  L.editScene h rfl rfl fun ht hs => by simp_all [Scene.plain_iff]

theorem showSpeech (L : Likeness typed R) (h : R s t) {visible : Value}
    (hvisible : typed → visible.plain) :
    Matches (Command.showSpeech visible) (Command.showSpeech visible) s t (Passed R) fun _ => R :=
  L.editScene h rfl rfl fun ht hs => by simp_all [Scene.plain_iff]

theorem setSpeechbox (L : Likeness typed R) (h : R s t) {filename duration : Value}
    (hfilename : typed → filename.plain) :
    Matches (Command.setSpeechbox filename duration) (Command.setSpeechbox filename duration) s t
      (Passed R) fun _ => R :=
  L.editScene h rfl rfl fun ht hs => by simp_all [Scene.plain_iff]

theorem setBackground (L : Likeness typed R) (h : R s t) {filename : Value}
    (hfilename : typed → filename.plain) :
    Matches (Command.setBackground filename) (Command.setBackground filename) s t (Passed R)
      fun _ => R :=
  L.editScene h rfl rfl fun ht hs => by simp_all [Scene.plain_iff]

theorem playMusic (L : Likeness typed R) (h : R s t) {filename loop : Value}
    (hfilename : typed → filename.plain) (hloop : typed → loop.plain) :
    Matches (Command.playMusic filename loop) (Command.playMusic filename loop) s t (Passed R)
      fun _ => R := by
  unfold Command.playMusic
  cases filename <;>
    exact L.editScene h rfl rfl fun ht hs => by simp_all [Scene.plain_iff]

theorem setFont (L : Likeness typed R) (h : R s t) {value : Value} {field : String}
    (hvalue : typed → value.plain)
    (hfield : field ∈ ["speech_font", "speech_font_size", "speaker_font", "speaker_font_size"]) :
    Matches (Command.setFont field value) (Command.setFont field value) s t (Passed R)
      fun _ => R := by
  simp only [Command.setFont, Matches.modify_bind_iff, Matches.pure_iff]
  simp only [List.mem_cons, List.not_mem_nil, or_false] at hfield
  have htiming : (s.session.overrides.setField field value).SameTiming s.session.overrides := by
    rcases hfield with rfl | rfl | rfl | rfl <;> exact ⟨rfl, rfl, rfl, rfl⟩
  refine ⟨rfl, rfl, L.mapOverrides h _ (fun ht ho => ?_) htiming⟩
  have := Overrides.plain_iff.1 ho
  rcases hfield with rfl | rfl | rfl | rfl <;>
    exact Overrides.plain_iff.2 (by simp_all [Overrides.setField])

theorem moveChoicebox (L : Likeness typed R) (h : R s t) {dx dy : Value} (hdx : typed → dx.plain)
    (hdy : typed → dy.plain) :
    Matches (Command.moveChoicebox dx dy) (Command.moveChoicebox dx dy) s t (Passed R)
      fun _ => R := by
  simp only [Command.moveChoicebox, Matches.get_bind_iff, L.overrides h,
    Matches.ofMishap_bind_iff, Matches.modify_bind_iff]
  intro x hx
  have hmoved := L.mapOverrides h (fun o => { o with choiceboxOffsetX := x })
    (fun ht ho => by
      have hplain := Value.plain_movedBy (Overrides.plain_iff.1 ho).2.2.2.2.2.2.2.2.1 (hdx ht) hx
      simp_all [Overrides.plain_iff])
    ⟨rfl, rfl, rfl, rfl⟩
  rw [L.overrides hmoved, Matches.ofMishap_bind_iff]
  intro y hy
  rw [Matches.modify_bind_iff, Matches.pure_iff]
  refine ⟨rfl, rfl, L.mapOverrides hmoved (fun o => { o with choiceboxOffsetY := y }) ?_
    ⟨rfl, rfl, rfl, rfl⟩⟩
  intro ht ho
  have hplain := Value.plain_movedBy (Overrides.plain_iff.1 ho).2.2.2.2.2.2.2.2.2 (hdy ht) hy
  simp_all [Overrides.plain_iff]

/-! ## Effects -/

/-- The action does nothing but give the scene another value. -/
def ChangesScene (ok : Scene → Prop) (scene : Scene) (change : Action Stage Unit) : Prop :=
  ∀ (s t : Stage) (E : StoryError → Stage → Stage → Prop), s.session.scene = scene →
    t.session.scene = scene →
    Matches change change s t (fun _ _ s' t' => ∃ scene', ok scene' ∧
      s' = s.mapScene (fun _ => scene') ∧ t' = t.mapScene fun _ => scene') E

theorem changesScene_modify {ok : Scene → Prop} {scene : Scene} {f : Scene → Scene}
    (hf : ok (f scene)) : ChangesScene ok scene (modify (Stage.mapScene f)) := by
  rintro s t E rfl ht
  refine Matches.modify_iff.2 ⟨_, hf, rfl, ?_⟩
  rw [← ht]
  rfl

theorem changesScene_attempt {ok : Scene → Prop} {scene : Scene} {act : Attempt Scene Unit}
    (h : Ends act scene (fun _ scene' => ok scene') fun _ _ => True) :
    ChangesScene ok scene (Action.attempt Stage.scenePlace act) := by
  rintro s t E rfl ht
  refine Matches.attempt_same ht fun _ scene' hrun => ⟨scene', ?_, rfl, rfl⟩
  have hrun' : ((ExceptT.run act).run s.session.scene : Except Mishap Unit × Scene) =
      (.ok (), scene') := hrun
  unfold Ends at h
  rw [hrun'] at h
  exact h

/-- How two stages that were alike stand after a command that can be an effect of a duration. -/
def Effected (R : Stage → Stage → Prop) (duration : Value) (s t : Stage) (o o' : Outcome)
    (s' t' : Stage) : Prop :=
  o' = o ∧ (o.passes ∧ R s' t' ∨ (∃ kind payload, o = .hold kind payload) ∧
    duration.greater (.int 0) = .ok true ∧ Held R s.session.live t.session.live s' t')

theorem runEffect (L : Likeness typed R) (h : R s t) {kind : IntentKind} {duration : Value}
    {payload : Table String Value} {change : Action Stage Unit}
    (hchange : ChangesScene (fun scene => typed → scene.Storable) s.session.scene change) :
    Matches (Command.runEffect kind duration payload change)
      (Command.runEffect kind duration payload change) s t (Effected R duration s t)
      fun _ => R := by
  unfold Command.runEffect
  rw [Matches.ofMishap_bind_iff]
  intro lasts hlasts
  cases lasts with
  | false =>
    refine Matches.bind (hchange s t _ rfl (L.scene h)) ?_
    rintro _ _ s' t' ⟨scene, hscene, rfl, rfl⟩
    exact Matches.pure_iff.2 ⟨rfl, .inl ⟨rfl, L.setScene scene h hscene⟩⟩
  | true =>
    -- The snapshots are set aside first, and the change leaves them alone.
    have hscene : (t.mapSession Session.capture).session.scene = s.session.scene := by
      show t.session.scene = _
      exact L.scene h
    refine Matches.modify_bind_iff.2 (Matches.bind (hchange _ _ _ rfl hscene) ?_)
    rintro _ _ s' t' ⟨scene, hscene, rfl, rfl⟩
    refine Matches.pure_iff.2 ⟨rfl, .inr ⟨⟨_, _, rfl⟩, hlasts, ?_⟩⟩
    exact ⟨_, _, L.setScene scene h hscene, rfl, rfl⟩

theorem fade (L : Likeness typed R) (h : R s t) {out : Bool} {duration : Value} :
    Matches (Command.fade out duration) (Command.fade out duration) s t (Effected R duration s t)
      fun _ => R := by
  refine L.runEffect h (changesScene_modify fun ht => ?_)
  have hs := L.storableScene h ht
  have := hs.plain
  exact hs.edit rfl (by simp_all [Scene.plain_iff])

theorem scaleBackground (L : Likeness typed R) (h : R s t) {scale duration : Value}
    (hscale : typed → scale.plain) :
    Matches (Command.scaleBackground scale duration) (Command.scaleBackground scale duration) s t
      (Effected R duration s t) fun _ => R := by
  refine L.runEffect h (changesScene_modify fun ht => ?_)
  have hs := L.storableScene h ht
  have := hs.plain
  exact hs.edit rfl (by simp_all [Scene.plain_iff])

end Likeness

/-! ## Moving the background -/

namespace Scene

theorem dragStep_storable {s : Scene} {value : Scene → Option Value}
    {distance : Except Mishap Value} {put : Value → Scene → Scene} (h : s.Storable)
    (hvalue : ∀ v, value s = some v → v.plain) (hdistance : ∀ d, distance = .ok d → d.plain)
    (hput : ∀ v, v.plain → (put v s).Storable) :
    Ends (dragStep value distance put) s (fun _ s' => s'.Storable) fun _ s' => s'.Storable := by
  simp only [dragStep, Ends.bind_iff, Ends.get_iff]
  split
  · exact h
  · next v hv =>
    split
    · next moved hmoved =>
      obtain ⟨d, hd, hmoved⟩ := bind_eq_ok.1 hmoved
      exact hput moved (Value.plain_movedBy (hvalue v hv) (hdistance d hd) hmoved)
    · exact h

theorem Storable.putX {s : Scene} (h : s.Storable) {x : Value} (hx : x.plain) :
    Scene.Storable { s with backgroundX := x } := by
  have hparts := Scene.plain_iff.1 h.plain
  exact h.edit rfl (Scene.plain_iff.2 ⟨hparts.1, hx, hparts.2.2⟩)

theorem Storable.putY {s : Scene} (h : s.Storable) {y : Value} (hy : y.plain) :
    Scene.Storable { s with backgroundY := y } := by
  have hparts := Scene.plain_iff.1 h.plain
  exact h.edit rfl (Scene.plain_iff.2 ⟨hparts.1, hparts.2.1, hy, hparts.2.2.2⟩)

theorem plain_putX {p : Sprite} (h : p.toValue.plain) {x : Value} (hx : x.plain) :
    (Sprite.toValue { p with x }).plain := by
  have hparts := Sprite.plain_iff.1 h
  exact Sprite.plain_iff.2 ⟨hparts.1, hx, hparts.2.2⟩

theorem plain_putY {p : Sprite} (h : p.toValue.plain) {y : Value} (hy : y.plain) :
    (Sprite.toValue { p with y }).plain := by
  have hparts := Sprite.plain_iff.1 h
  exact Sprite.plain_iff.2 ⟨hparts.1, hparts.2.1, hy, hparts.2.2.2⟩

theorem drag_storable {s : Scene} {dx dy parallax : Value} (h : s.Storable) (hdx : dx.plain)
    (hdy : dy.plain) (hparallax : parallax.plain) :
    Ends (drag (.ok dx) (.ok dy) (.ok parallax)) s (fun _ s' => s'.Storable)
      fun _ s' => s'.Storable := by
  have hpart : ∀ d : Value, d.plain → ∀ v, (do (← Except.ok d).mul (← Except.ok parallax)) =
      Except.ok v → v.plain := by
    intro d hd v hv
    exact Value.plain_mul hd hparallax hv
  have hsprite : ∀ {s : Scene} {name v : Value} {part : Sprite → Value}, s.Storable →
      (∀ p : Sprite, p.toValue.plain → (part p).plain) →
      (Table.get? name s.sprites).map part = some v → v.plain := by
    intro s name v part hs hpart hv
    obtain ⟨p, hp, rfl⟩ := Option.map_eq_some_iff.1 hv
    exact hpart p (hs.sprite_plain hp)
  unfold drag
  rw [Ends.bind_iff]
  refine Ends.mono (dragStep_storable h ?_ ?_ ?_) ?_ fun _ _ h => h
  · rintro v ⟨⟩
    exact (Scene.plain_iff.1 h.plain).2.1
  · rintro d ⟨⟩
    exact hdx
  · exact fun v hv => h.putX hv
  rintro - s hs
  rw [Ends.bind_iff]
  refine Ends.mono (dragStep_storable hs ?_ ?_ ?_) ?_ fun _ _ h => h
  · rintro v ⟨⟩
    exact (Scene.plain_iff.1 hs.plain).2.2.1
  · rintro d ⟨⟩
    exact hdy
  · exact fun v hv => hs.putY hv
  rintro - s hs
  rw [Ends.bind_iff, Ends.get_iff]
  -- The sprites are moved one by one.
  generalize Table.keys s.sprites = names
  induction names generalizing s with
  | nil => exact hs
  | cons name names ih =>
    rw [List.forM, Ends.bind_iff, Ends.bind_iff]
    refine Ends.mono (dragStep_storable hs ?_ (hpart dx hdx) ?_) ?_ fun _ _ h => h
    · exact fun v hv => hsprite hs (fun p hp => (Sprite.plain_iff.1 hp).2.1) hv
    · exact fun v hv => hs.changeSprite fun p hp => plain_putX hp hv
    rintro - s hs
    refine Ends.mono (dragStep_storable hs ?_ (hpart dy hdy) ?_) ?_ fun _ _ h => h
    · exact fun v hv => hsprite hs (fun p hp => (Sprite.plain_iff.1 hp).2.2.1) hv
    · exact fun v hv => hs.changeSprite fun p hp => plain_putY hp hv
    rintro - s hs
    exact ih s hs

end Scene

namespace Likeness

variable {typed : Prop} {R : Stage → Stage → Prop} {s t : Stage}

theorem moveBackground (L : Likeness typed R) (h : R s t) {dx dy duration parallax : Value}
    (hargs : typed → dx.plain ∧ dy.plain ∧ parallax.plain) :
    Matches (Command.moveBackground dx dy duration parallax)
      (Command.moveBackground dx dy duration parallax) s t (Effected R duration s t)
      fun _ => R := by
  refine L.runEffect h (changesScene_attempt ?_)
  by_cases ht : typed
  · obtain ⟨hdx, hdy, hparallax⟩ := hargs ht
    exact (Scene.drag_storable (L.storableScene h ht) hdx hdy hparallax).mono
      (fun _ _ hs _ => hs) fun _ _ _ => trivial
  · unfold Ends
    split
    · exact fun h => absurd h ht
    · trivial

/-! ## Sprites -/

/-- An action that only reads, and reads the same on both stages. -/
def Reads {α : Type} (act : Action Stage α) (s t : Stage) (P : α → Prop) : Prop :=
  ∀ E, Matches act act s t (fun a b s' t' => b = a ∧ P a ∧ s' = s ∧ t' = t) E

theorem Reads.bind {α β : Type} {act : Action Stage α} {P : α → Prop} {f : α → Action Stage β}
    {Q : β → β → Stage → Stage → Prop} {E : StoryError → Stage → Stage → Prop}
    (h : Reads act s t P) (hf : ∀ a, P a → Matches (f a) (f a) s t Q E) :
    Matches (act >>= f) (act >>= f) s t Q E := by
  refine Matches.bind (h E) ?_
  rintro a _ _ _ ⟨rfl, ha, rfl, rfl⟩
  exact hf _ ha

theorem reads_ofMishap {α : Type} {r : Except Mishap α} :
    Reads (Action.ofMishap r) s t fun a => r = .ok a :=
  fun _ => Matches.ofMishap_iff.2 fun _ ha => ⟨rfl, ha, rfl, rfl⟩

theorem reads_keyOf {key : Value} : Reads (Command.keyOf key) s t fun k => k = key := by
  refine fun E => Matches.ofMishap_iff.2 fun k hk => ⟨rfl, ?_, rfl, rfl⟩
  unfold Value.asKey at hk
  split at hk
  · cases hk
    rfl
  · cases hk

theorem reads_viewSetting (L : Likeness typed R) (h : R s t) {key : String} :
    Reads (Command.viewSetting key) s t fun v => typed → v.plain := by
  intro E
  unfold Command.viewSetting
  rw [Matches.get_bind_iff, L.config h, Matches.ofMishap_iff]
  refine fun v hv => ⟨rfl, fun ht => ?_, rfl, rfl⟩
  have hview : (Value.record s.config.view).plain := by
    have := (L.storable h ht).config
    rw [Config.toValue, Value.plain_ofFields_iff] at this
    exact this _ (List.mem_cons_self ..)
  unfold Fields.required at hv
  split at hv
  · next w hw =>
    cases hv
    exact Value.plain_get? hview hw
  · cases hv

theorem reads_pictureOf (L : Likeness typed R) (h : R s t) {name : Value}
    (hname : typed → name.plain) :
    Reads (Command.pictureOf name) s t fun v => typed → v.plain := by
  intro E
  unfold Command.pictureOf
  rw [Matches.get_bind_iff, L.scene h, Matches.ofMishap_bind_iff]
  intro aliases haliases
  refine reads_keyOf.bind ?_
  rintro key rfl
  refine Matches.pure_iff.2 ⟨rfl, fun ht => Value.plain_orElse ?_ (hname ht), rfl, rfl⟩
  have hplain := (Scene.plain_iff.1 (L.storableScene h ht).plain).2.2.2.2.2.1
  unfold Value.fields at haliases
  split at haliases
  · next fs hfs =>
    cases haliases
    rw [hfs] at hplain
    cases hv : Table.get? key aliases with
    | none => simp
    | some v => exact Value.plain_get? hplain hv
  · cases haliases

theorem addSprite (L : Likeness typed R) (h : R s t) {name atOnce : Value}
    (hname : typed → name.IsText) :
    Matches (Command.addSprite name atOnce) (Command.addSprite name atOnce) s t (Passed R)
      fun _ => R := by
  have hplain : typed → name.plain := fun ht => by
    obtain ⟨n, rfl⟩ := hname ht
    simp
  -- Whatever sprite is put there, it only has to be plain.
  have hput : ∀ sprite : Sprite, (typed → sprite.toValue.plain) → ∀ o : Outcome, o.passes →
      Matches (do
        modify (Stage.mapScene fun s => { s with sprites := Table.put name sprite s.sprites })
        return o) (do
        modify (Stage.mapScene fun s => { s with sprites := Table.put name sprite s.sprites })
        return o) s t (Passed R) fun _ => R := by
    intro sprite hsprite o ho
    rw [Matches.modify_bind_iff, Matches.pure_iff]
    refine ⟨rfl, ho, L.mapScene h _ fun ht hs => hs.setSprites ?_ ?_ (hs.distinct.put _ _)⟩
    · intro e he
      rcases Table.mem_put he with he | ⟨hv, hk⟩
      · exact (Scene.plain_iff.1 hs.plain).2.2.2.2.1 e he
      · refine ⟨?_, by rw [hv]; exact hsprite ht⟩
        rcases hk with hk | hk
        · rw [hk]
          exact hplain ht
        · obtain ⟨d, hd, hk⟩ := List.mem_map.1 hk
          rw [← hk]
          exact ((Scene.plain_iff.1 hs.plain).2.2.2.2.1 d hd).1
    · intro e he
      rcases Table.mem_put he with he | ⟨-, hk | hk⟩
      · exact hs.names e he
      · rw [hk]
        exact hname ht
      · obtain ⟨d, hd, hk⟩ := List.mem_map.1 hk
        rw [← hk]
        exact hs.names d hd
  unfold Command.addSprite
  refine (L.reads_pictureOf h hplain).bind fun filename hfilename => ?_
  rw [Matches.get_bind_iff, L.scene h]
  cases hfound : Table.get? name s.session.scene.sprites with
  | some sprite =>
    refine hput { sprite with filename } (fun ht => ?_) _ rfl
    have hsprite := (L.storableScene h ht).sprite_plain hfound
    have := hfilename ht
    simp_all [Sprite.plain_iff]
  | none =>
    refine (L.reads_viewSetting h).bind fun width hwidth => ?_
    refine reads_ofMishap.bind fun x hx => ?_
    refine (L.reads_viewSetting h).bind fun height hheight => ?_
    refine (L.reads_viewSetting h).bind fun part hpart => ?_
    refine reads_ofMishap.bind fun y hy => ?_
    refine hput { filename, x, y } (fun ht => ?_) _ rfl
    have hx' := Value.plain_mul (hwidth ht) (Value.plain_float _) hx
    have hy' := Value.plain_mul (hheight ht) (hpart ht) hy
    have := hfilename ht
    simp_all [Sprite.plain_iff]

/-- Taking a key out of a table that both stages have. -/
theorem reads_takeOut {α : Type} {key : Value} {table : Table Value α} :
    Reads (Command.takeOut key table) s t fun r => r.2 = table ∨ r.2 = Table.erase key table := by
  intro E
  unfold Command.takeOut
  cases table with
  | nil => exact Matches.pure_iff.2 ⟨rfl, .inl rfl, rfl, rfl⟩
  | cons e table =>
    refine reads_keyOf.bind ?_
    rintro key rfl
    exact Matches.pure_iff.2 ⟨rfl, .inr rfl, rfl, rfl⟩

theorem removeSprite (L : Likeness typed R) (h : R s t) {name atOnce : Value} :
    Matches (Command.removeSprite name atOnce) (Command.removeSprite name atOnce) s t (Passed R)
      fun _ => R := by
  unfold Command.removeSprite
  rw [Matches.get_bind_iff, L.scene h]
  refine reads_takeOut.bind ?_
  rintro ⟨found, sprites⟩ hsprites
  cases found with
  | none =>
    rw [Matches.modify_bind_iff, Matches.pure_iff]
    exact ⟨rfl, rfl, L.note _ _ h⟩
  | some sprite =>
    rw [Matches.modify_bind_iff, Matches.pure_iff]
    refine ⟨rfl, rfl, L.mapScene h (fun s => { s with sprites }) fun ht hs => ?_⟩
    rcases hsprites with rfl | rfl
    · exact hs
    · refine hs.setSprites ?_ ?_ (hs.distinct.erase name)
      · exact fun e he => (Scene.plain_iff.1 hs.plain).2.2.2.2.1 e (List.mem_filter.1 he).1
      · exact fun e he => hs.names e (List.mem_filter.1 he).1

/-- A command on a sprite that is passed over if there is none of the name. -/
theorem withSprite (L : Likeness typed R) (h : R s t) {kind : CommandKind} {name : Value}
    {body : Sprite → Action Stage Outcome} {Q : Outcome → Outcome → Stage → Stage → Prop}
    (hmissing : ∀ s' t', R s' t' → Q .next .next s' t')
    (hbody : ∀ sprite, (typed → sprite.toValue.plain) →
      Matches (body sprite) (body sprite) s t Q fun _ => R) :
    Matches (do
        match ← Command.sprite? kind name with
        | none => return .next
        | some sprite => body sprite)
      (do
        match ← Command.sprite? kind name with
        | none => return .next
        | some sprite => body sprite) s t Q fun _ => R := by
  unfold Command.sprite?
  simp only [bind_assoc]
  refine reads_keyOf.bind ?_
  rintro key rfl
  rw [Matches.get_bind_iff, L.scene h]
  cases hfound : Table.get? key s.session.scene.sprites with
  | none =>
    show Matches (pure _) (pure _) (Command.missing kind key s) (Command.missing kind key t) Q
      fun _ => R
    exact Matches.pure_iff.2 (hmissing _ _ (L.note _ _ h))
  | some sprite => exact hbody sprite fun ht => (L.storableScene h ht).sprite_plain hfound

/-- An effect that changes a sprite. -/
theorem spriteEffect (L : Likeness typed R) (h : R s t) {kind : IntentKind} {name duration : Value}
    {payload : Table String Value} {f : Sprite → Sprite}
    (hf : typed → ∀ p : Sprite, p.toValue.plain → (f p).toValue.plain) :
    Matches (Command.runEffect kind duration payload (Command.changeSprite name f))
      (Command.runEffect kind duration payload (Command.changeSprite name f)) s t
      (Effected R duration s t) fun _ => R :=
  L.runEffect h (changesScene_modify fun ht => (L.storableScene h ht).changeSprite (hf ht))

theorem effected_next {duration : Value} (s' t' : Stage) (h : R s' t') :
    Effected R duration s t .next .next s' t' :=
  ⟨rfl, .inl ⟨rfl, h⟩⟩

theorem alignSprite (L : Likeness typed R) (h : R s t) {name place duration : Value} :
    Matches (Command.alignSprite name place duration) (Command.alignSprite name place duration) s t
      (Effected R duration s t) fun _ => R := by
  refine L.withSprite h effected_next fun sprite hsprite => ?_
  -- Wherever the sprite goes, the rest is the same.
  have hmove : ∀ {s' t' : Stage} (part : Float), R s' t' →
      Matches (do
        let x ← Action.ofMishap ((← Command.viewSetting "width").mul (.float part))
        Command.runEffect .moveSprite duration [("name", name), ("x", x), ("y", sprite.y)]
          (Command.changeSprite name fun s => { s with x })) (do
        let x ← Action.ofMishap ((← Command.viewSetting "width").mul (.float part))
        Command.runEffect .moveSprite duration [("name", name), ("x", x), ("y", sprite.y)]
          (Command.changeSprite name fun s => { s with x })) s' t' (Effected R duration s' t')
        fun _ => R := by
    intro s' t' part h'
    refine (L.reads_viewSetting h').bind fun width hwidth => ?_
    refine reads_ofMishap.bind fun x hx => L.spriteEffect h' fun ht p hp => ?_
    have := Value.plain_mul (hwidth ht) (Value.plain_float _) hx
    simp_all [Sprite.plain_iff]
  split
  · exact hmove _ h
  · exact hmove _ (L.note _ _ h)

theorem moveSprite (L : Likeness typed R) (h : R s t) {name dx dy duration : Value}
    (hargs : typed → dx.plain ∧ dy.plain) :
    Matches (Command.moveSprite name dx dy duration) (Command.moveSprite name dx dy duration) s t
      (Effected R duration s t) fun _ => R := by
  refine L.withSprite h effected_next fun sprite hsprite => ?_
  refine reads_ofMishap.bind fun x hx => reads_ofMishap.bind fun y hy => ?_
  refine L.spriteEffect h fun ht p hp => ?_
  have hplain := Sprite.plain_iff.1 (hsprite ht)
  have hx' := Value.plain_add hplain.2.1 (hargs ht).1 hx
  have hy' := Value.plain_add hplain.2.2.1 (hargs ht).2 hy
  simp_all [Sprite.plain_iff]

theorem placeSprite (L : Likeness typed R) (h : R s t) {name x y : Value}
    (hargs : typed → x.plain ∧ y.plain) :
    Matches (Command.placeSprite name x y) (Command.placeSprite name x y) s t (Passed R)
      fun _ => R := by
  refine L.withSprite h (fun s' t' h' => ⟨rfl, rfl, h'⟩) fun sprite hsprite => ?_
  rw [Command.changeSprite, Matches.modify_bind_iff, Matches.pure_iff]
  refine ⟨rfl, rfl, L.mapScene h _ fun ht hs => hs.changeSprite fun p hp => ?_⟩
  have := hargs ht
  simp_all [Sprite.plain_iff]

theorem flipSprite (L : Likeness typed R) (h : R s t) {name duration horizontal : Value} :
    Matches (Command.flipSprite name duration horizontal)
      (Command.flipSprite name duration horizontal) s t (Effected R duration s t) fun _ => R := by
  refine L.withSprite h effected_next fun sprite hsprite => L.spriteEffect h fun ht p hp => ?_
  unfold Sprite.flip
  split <;> simp_all [Sprite.plain_iff]

theorem scaleSprite (L : Likeness typed R) (h : R s t) {name scale duration : Value}
    (hscale : typed → scale.plain) :
    Matches (Command.scaleSprite name scale duration) (Command.scaleSprite name scale duration) s t
      (Effected R duration s t) fun _ => R := by
  refine L.withSprite h effected_next fun sprite hsprite => L.spriteEffect h fun ht p hp => ?_
  simp_all [Sprite.plain_iff]

theorem reads_withAlias {aliases name filename : Value} :
    Reads (Command.withAlias aliases name filename) s t fun v =>
      aliases.plain → name.plain → filename.plain → v.plain := by
  intro E
  unfold Command.withAlias
  cases aliases with
  | record fs =>
    refine reads_keyOf.bind ?_
    rintro key rfl
    refine Matches.pure_iff.2 ⟨rfl, fun hfs hkey hvalue => ?_, rfl, rfl⟩
    rw [Value.plain_record_iff] at hfs ⊢
    intro e he
    rcases Table.mem_put he with he | ⟨hv, hk⟩
    · exact hfs e he
    · refine ⟨?_, by rw [hv]; exact hvalue⟩
      rcases hk with hk | hk
      · rw [hk]
        exact hkey
      · obtain ⟨d, hd, hk⟩ := List.mem_map.1 hk
        rw [← hk]
        exact (hfs d hd).1
  | list items =>
    rw [Matches.ofMishap_bind_iff]
    intro changed hchanged
    refine Matches.pure_iff.2 ⟨rfl, fun hitems _ hvalue => ?_, rfl, rfl⟩
    obtain ⟨n, -, hchanged⟩ := bind_eq_ok.1 hchanged
    obtain ⟨place, -, hchanged⟩ := bind_eq_ok.1 hchanged
    cases hchanged
    rw [Value.plain_list_iff] at hitems ⊢
    intro v hv
    rcases List.mem_or_eq_of_mem_set hv with hv | rfl
    · exact hitems v hv
    · exact hvalue
  | _ => exact Matches.throw_mishap

theorem reads_withoutAlias {aliases name : Value} :
    Reads (Command.withoutAlias aliases name) s t fun v => aliases.plain → v.plain := by
  intro E
  unfold Command.withoutAlias
  cases aliases with
  | record fs =>
    refine reads_takeOut.bind ?_
    rintro ⟨found, rest⟩ hrest
    refine Matches.pure_iff.2 ⟨rfl, fun hfs => ?_, rfl, rfl⟩
    rw [Value.plain_record_iff] at hfs ⊢
    rcases hrest with rfl | rfl
    · exact hfs
    · exact fun e he => hfs e (List.mem_filter.1 he).1
  | _ => exact Matches.throw_mishap

theorem setSpriteAlias (L : Likeness typed R) (h : R s t) {name filename : Value}
    (hargs : typed → name.plain ∧ filename.plain) :
    Matches (Command.setSpriteAlias name filename) (Command.setSpriteAlias name filename) s t
      (Passed R) fun _ => R := by
  have hset : ∀ aliases : Value,
      (typed → s.session.scene.spriteAliases.plain → aliases.plain) →
      Matches (do
        modify (Stage.mapScene fun s => { s with spriteAliases := aliases })
        return Outcome.next) (do
        modify (Stage.mapScene fun s => { s with spriteAliases := aliases })
        return Outcome.next) s t (Passed R) fun _ => R := by
    intro aliases haliases
    refine L.editScene h rfl rfl fun ht hs => ?_
    have := haliases ht (Scene.plain_iff.1 hs).2.2.2.2.2.1
    simp_all [Scene.plain_iff]
  unfold Command.setSpriteAlias
  rw [Matches.get_bind_iff, L.scene h]
  cases filename with
  | null => exact reads_withoutAlias.bind fun aliases haliases => hset aliases fun _ => haliases
  | _ =>
    exact reads_withAlias.bind fun aliases haliases =>
      hset aliases fun ht hplain => haliases hplain (hargs ht).1 (hargs ht).2

/-! ## Flags and conditions -/

theorem mapFlags (L : Likeness typed R) (h : R s t) (f : Flags → Flags)
    (hf : ∃ name n, f s.session.flags = s.session.flags.set name n) :
    R (s.mapFlags f) (t.mapFlags f) := by
  obtain ⟨name, n, hf⟩ := hf
  have hset := L.setFlag name n h
  have hs : s.mapFlags f = s.mapFlags fun g => g.set name n := by
    show { s with session := { s.session with flags := f s.session.flags } } = _
    rw [hf]
    rfl
  have ht : t.mapFlags f = t.mapFlags fun g => g.set name n := by
    show { t with session := { t.session with flags := f t.session.flags } } = _
    rw [L.flags h, hf, ← L.flags h]
    rfl
  rw [hs, ht]
  exact hset

theorem setFlagTo (L : Likeness typed R) (h : R s t) {flag : String} {value : Value} :
    Matches (Command.setFlag flag value) (Command.setFlag flag value) s t (Passed R)
      fun _ => R := by
  refine reads_ofMishap.bind fun n _ => ?_
  rw [Matches.modify_bind_iff, Matches.pure_iff]
  exact ⟨rfl, rfl, L.setFlag flag n h⟩

theorem modifyFlag (L : Likeness typed R) (h : R s t) {flag : String} {delta : Value} :
    Matches (Command.modifyFlag flag delta) (Command.modifyFlag flag delta) s t (Passed R)
      fun _ => R := by
  refine reads_ofMishap.bind fun n _ => ?_
  rw [Matches.modify_bind_iff, Matches.pure_iff]
  exact ⟨rfl, rfl, L.mapFlags h _ ⟨flag, _, rfl⟩⟩

theorem modifyFlagByFlag (L : Likeness typed R) (h : R s t) {up : Bool} {flag other : String} :
    Matches (Command.modifyFlagByFlag up flag other) (Command.modifyFlagByFlag up flag other) s t
      (Passed R) fun _ => R := by
  rw [Command.modifyFlagByFlag, Matches.modify_bind_iff, Matches.pure_iff]
  exact ⟨rfl, rfl, L.mapFlags h _ ⟨flag, _, rfl⟩⟩

theorem reads_atLeastOne {v : Value} : Reads (Command.atLeastOne v) s t fun _ => True :=
  fun _ => Matches.ofMishap_iff.2 fun _ _ => ⟨rfl, trivial, rfl, rfl⟩

theorem rollDice (L : Likeness typed R) (h : R s t)
    (hroll : ∀ sides throws, Matches (Stage.throwDice sides throws) (Stage.throwDice sides throws)
      s t (fun v w s' t' => w = v ∧ R s' t') fun _ => R) {sides count flag : Value} :
    Matches (Command.rollDice sides count flag) (Command.rollDice sides count flag) s t (Passed R)
      fun _ => R := by
  have hset : ∀ {s' t' : Stage} (sum : Value), R s' t' →
      Matches (do Command.setFlag (← Command.flagOf flag) sum)
        (do Command.setFlag (← Command.flagOf flag) sum) s' t' (Passed R) fun _ => R :=
    fun sum h' => reads_ofMishap.bind fun name _ => L.setFlagTo h'
  have hthrows : Reads (do
      if ← Command.atLeastOne sides then Command.atLeastOne count else return false) s t
      fun _ => True := by
    intro E
    refine reads_atLeastOne.bind fun some _ => ?_
    cases some with
    | false => exact Matches.pure_iff.2 ⟨rfl, trivial, rfl, rfl⟩
    | true => exact reads_atLeastOne E
  unfold Command.rollDice
  refine hthrows.bind fun thrown _ => ?_
  cases thrown with
  | false => exact hset _ h
  | true =>
    refine reads_ofMishap.bind fun throws _ => ?_
    refine Matches.bind (hroll sides _) ?_
    rintro sum _ s' t' ⟨rfl, h'⟩
    exact hset _ h'

theorem advance_sound {c : Cursor} {n : Int} (h : c.Sound) : (c.advance n).Sound := by
  refine ⟨h.beats, ?_⟩
  have hindex := h.index
  show c.index + (max 0 (min n ((c.beats.size : Int) - c.index))).toNat ≤ c.beats.size
  omega

theorem skip_sound {c : Cursor} (h : c.Sound) : c.skip.Sound := by
  unfold Cursor.skip
  split
  · exact h
  · next hleft =>
    refine ⟨h.beats, ?_⟩
    simp only [Cursor.exhausted, decide_eq_true_eq] at hleft
    show c.index + 1 ≤ c.beats.size
    omega

theorem condition (L : Likeness typed R) (h : R s t) {kind : CommandKind} {flag : String}
    {rest : List Value} :
    Matches (Command.condition kind flag rest) (Command.condition kind flag rest) s t (Passed R)
      fun _ => R := by
  unfold Command.condition
  rw [Matches.get_bind_iff, L.flags h]
  refine reads_ofMishap.bind fun ok _ => ?_
  rw [Matches.modify_bind_iff, Matches.pure_iff]
  refine ⟨rfl, rfl, L.mapCursor h _ ?_ fun hs => ?_⟩
  · cases ok with
    | true => rfl
    | false =>
      show (Cursor.skip _).script = _
      unfold Cursor.skip
      split <;> rfl
  · cases ok with
    | true => exact advance_sound hs
    | false => exact skip_sound (advance_sound hs)

/-! ## Conversations -/

theorem switchTo_sound {c d : Cursor} {name : String} (h : c.switchTo name = .ok d) :
    d.script = c.script ∧ d.Sound := by
  obtain ⟨beats, hbeats, h⟩ := bind_eq_ok.1 h
  cases h
  exact ⟨rfl, hbeats, Nat.zero_le _⟩

theorem switchConversation (L : Likeness typed R) (h : R s t) {name : Value} :
    Matches (Stage.switchConversation name) (Stage.switchConversation name) s t
      (fun _ _ => R) fun _ => R := by
  unfold Stage.switchConversation
  rw [Matches.get_bind_iff, L.cursor h]
  refine Matches.ofExcept_bind (fun name _ => ?_) fun _ _ => h
  refine Matches.ofStory_bind (fun cursor hcursor => ?_) fun _ _ => h
  obtain ⟨hscript, hsound⟩ := switchTo_sound hcursor
  exact Matches.modify_iff.2 (L.setCursor _ h hscript fun _ => hsound)

theorem setConversation (L : Likeness typed R) (h : R s t) {name : Value} :
    Matches (Command.setConversation name) (Command.setConversation name) s t (Passed R)
      fun _ => R := by
  refine Matches.bind (L.switchConversation h) ?_
  rintro _ _ s' t' h'
  exact Matches.pure_iff.2 ⟨rfl, rfl, h'⟩

theorem jumpOnFlag (L : Likeness typed R) (h : R s t) {flag : String}
    {groups : List (List Value)} :
    Matches (Command.jumpOnFlag flag groups) (Command.jumpOnFlag flag groups) s t (Passed R)
      fun _ => R := by
  induction groups with
  | nil => exact Matches.pure_iff.2 ⟨rfl, rfl, h⟩
  | cons group groups ih =>
    unfold Command.jumpOnFlag
    split
    · next heq => cases heq
    · next heq =>
      cases heq
      rw [Matches.get_bind_iff, L.flags h, Matches.ite_iff]
      split
      · exact L.setConversation h
      · exact ih
    · exact Matches.throw_mishap

/-! ## Menus -/

theorem reads_jumpOption {group : List Value} :
    Reads (Command.jumpOption group) s t fun _ => True := by
  intro E
  unfold Command.jumpOption
  split
  · exact Matches.pure_iff.2 ⟨rfl, trivial, rfl, rfl⟩
  · exact Matches.throw_mishap

theorem reads_adjustOption {group : List Value} :
    Reads (Command.adjustOption group) s t fun _ => True := by
  intro E
  unfold Command.adjustOption
  split
  · refine reads_ofMishap.bind fun flag _ => ?_
    exact Matches.pure_iff.2 ⟨rfl, trivial, rfl, rfl⟩
  · exact Matches.throw_mishap

theorem reads_mapM {α β : Type} {f : α → Action Stage β}
    (hf : ∀ a, Reads (f a) s t fun _ => True) (xs : List α) :
    Reads (xs.mapM f) s t fun ys => ys.length = xs.length := by
  induction xs with
  | nil => exact fun E => Matches.pure_iff.2 ⟨rfl, rfl, rfl, rfl⟩
  | cons x xs ih =>
    intro E
    rw [List.mapM_cons]
    refine (hf x).bind fun y _ => ih.bind fun ys hys => ?_
    exact Matches.pure_iff.2 ⟨rfl, by simp [hys], rfl, rfl⟩

/-- How two stages stand after a command that may ask: only if there are options. -/
def Asked (R : Stage → Stage → Prop) (line : Value) (s t : Stage) (o o' : Outcome)
    (s' t' : Stage) : Prop :=
  o' = o ∧ (o.passes ∧ R s' t' ∨ (∃ options, o = .ask options line ∧ options ≠ []) ∧
    s' = s ∧ t' = t)

theorem askFor {option : List Value → Action Stage ChoiceOption} {line : Value}
    {groups : List (List Value)} (hoption : ∀ group, Reads (option group) s t fun _ => True)
    (hgroups : groups ≠ []) :
    Matches (Command.askFor option line groups) (Command.askFor option line groups) s t
      (Asked R line s t) fun _ => R := by
  refine (reads_mapM hoption groups).bind fun options hlength => ?_
  refine Matches.pure_iff.2 ⟨rfl, .inr ⟨⟨options, rfl, ?_⟩, rfl, rfl⟩⟩
  rintro rfl
  exact hgroups (List.length_eq_zero_iff.1 hlength.symm)

theorem changeSets (L : Likeness typed R) (h : R s t) {f : ChoiceSets → ChoiceSets}
    (hf : typed → ChoiceSets.Storable s.session.choiceSets →
      ChoiceSets.Storable (f s.session.choiceSets)) :
    Matches (do Command.changeSets f; return Outcome.next)
      (do Command.changeSets f; return Outcome.next) s t (Passed R) fun _ => R := by
  rw [Command.changeSets, Matches.modify_bind_iff, Matches.pure_iff]
  have hset := L.setChoiceSets (f s.session.choiceSets) h fun ht =>
    hf ht (L.storable h ht).live.choiceSets
  have ht : t.mapSession (fun x => { x with choiceSets := f x.choiceSets }) =
      t.mapSession fun x => { x with choiceSets := f s.session.choiceSets } := by
    rw [← L.choiceSets h]
    rfl
  rw [ht]
  exact ⟨rfl, rfl, hset⟩

theorem addToChoiceSet (L : Likeness typed R) (h : R s t) {name text conversation : Value}
    (hargs : typed → name.IsText ∧ text.IsText ∧ conversation.IsText) :
    Matches (Command.addToChoiceSet name text conversation)
      (Command.addToChoiceSet name text conversation) s t (Passed R) fun _ => R := by
  refine reads_keyOf.bind ?_
  rintro key rfl
  refine L.changeSets h fun ht hs => ⟨fun e he => ?_, fun e he => ?_, hs.distinct.put _ _⟩
  · rcases Table.mem_put he with he | ⟨-, hk | hk⟩
    · exact hs.names e he
    · rw [hk]
      exact (hargs ht).1
    · obtain ⟨d, hd, hk⟩ := List.mem_map.1 hk
      rw [← hk]
      exact hs.names d hd
  · rcases Table.mem_put he with he | ⟨hv, -⟩
    · exact hs.options e he
    · rw [hv]
      intro o ho
      rcases List.mem_append.1 ho with ho | ho
      · have ho' := (List.mem_filter.1 ho).1
        cases hthere : Table.get? key s.session.choiceSets with
        | none => simp [hthere] at ho'
        | some there =>
          obtain ⟨k, hk⟩ := Table.mem_of_get? hthere
          rw [hthere] at ho'
          exact hs.options _ hk o ho'
      · rw [List.mem_singleton.1 ho]
        exact (hargs ht).2

theorem removeFromChoiceSet (L : Likeness typed R) (h : R s t) {name text : Value} :
    Matches (Command.removeFromChoiceSet name text) (Command.removeFromChoiceSet name text) s t
      (Passed R) fun _ => R := by
  refine reads_keyOf.bind ?_
  rintro key rfl
  refine L.changeSets h fun ht hs => ⟨fun e he => ?_, fun e he => ?_, hs.distinct.modify _ _⟩
  · obtain ⟨d, hd, rfl⟩ := List.mem_map.1 he
    have := hs.names d hd
    split <;> exact this
  · obtain ⟨d, hd, rfl⟩ := List.mem_map.1 he
    have := hs.options d hd
    split
    · exact fun o ho => this o (List.mem_filter.1 ho).1
    · exact this

theorem wipeChoiceSet (L : Likeness typed R) (h : R s t) {name : Value} :
    Matches (Command.wipeChoiceSet name) (Command.wipeChoiceSet name) s t (Passed R)
      fun _ => R := by
  unfold Command.wipeChoiceSet
  rw [Matches.get_bind_iff, L.choiceSets h]
  refine reads_takeOut.bind ?_
  rintro ⟨found, sets⟩ hsets
  refine L.changeSets h fun ht hs => ?_
  rcases hsets with rfl | rfl
  · exact hs
  · refine ⟨fun e he => ?_, fun e he => ?_, hs.distinct.erase name⟩
    · exact hs.names e (List.mem_filter.1 he).1
    · exact hs.options e (List.mem_filter.1 he).1

theorem showChoiceSet (L : Likeness typed R) (h : R s t) {name : Value} :
    Matches (Command.showChoiceSet name) (Command.showChoiceSet name) s t (Asked R .null s t)
      fun _ => R := by
  unfold Command.showChoiceSet
  refine reads_keyOf.bind ?_
  rintro key rfl
  rw [Matches.get_bind_iff, L.choiceSets h]
  split
  · rw [Matches.modify_bind_iff, Matches.pure_iff]
    exact ⟨rfl, .inl ⟨rfl, L.note _ _ h⟩⟩
  · next hsome =>
    refine Matches.pure_iff.2 ⟨rfl, .inr ⟨⟨_, rfl, ?_⟩, rfl, rfl⟩⟩
    intro hempty
    exact hsome (List.map_eq_nil_iff.1 hempty)

/-! ## All commands -/

theorem suits_of_passes {cmd : Script.Command} {o : Outcome} {s' t' : Stage} (ho : o.passes)
    (h : R s' t') : o.Suits R cmd s t s' t' := by
  cases o with
  | hold | ask => cases ho
  | _ => exact h

theorem passed {act : Action Stage Outcome} {cmd : Script.Command}
    (h : Matches act act s t (Passed R) fun _ => R) :
    Matches act act s t (fun o o' s' t' => o' = o ∧ o.Suits R cmd s t s' t') fun _ => R := by
  refine h.mono ?_ fun _ _ _ h => h
  rintro o _ s' t' ⟨rfl, hpasses, h⟩
  exact ⟨rfl, suits_of_passes hpasses h⟩

theorem effected {act : Action Stage Outcome} {cmd : Script.Command} {duration : Value}
    (hduration : Command.duration? cmd = some duration)
    (h : Matches act act s t (Effected R duration s t) fun _ => R) :
    Matches act act s t (fun o o' s' t' => o' = o ∧ o.Suits R cmd s t s' t') fun _ => R := by
  refine h.mono ?_ fun _ _ _ h => h
  rintro o _ s' t' ⟨rfl, ⟨hpasses, h⟩ | ⟨⟨kind, payload, rfl⟩, hlasts, h⟩⟩
  · exact ⟨rfl, suits_of_passes hpasses h⟩
  · exact ⟨rfl, ⟨duration, hduration, hlasts⟩, h⟩

theorem asked {act : Action Stage Outcome} {cmd : Script.Command} {line : Value}
    (hasks : Command.asks cmd.kind) (hline : line = .null ∨ cmd.args[0]? = some line)
    (h : Matches act act s t (Asked R line s t) fun _ => R) :
    Matches act act s t (fun o o' s' t' => o' = o ∧ o.Suits R cmd s t s' t') fun _ => R := by
  refine h.mono ?_ fun _ _ _ h => h
  rintro o _ s' t' ⟨rfl, ⟨hpasses, h⟩ | ⟨⟨options, rfl, hoptions⟩, hs, ht⟩⟩
  · exact ⟨rfl, suits_of_passes hpasses h⟩
  · exact ⟨rfl, hs, ht, hasks, hline, hoptions⟩

/-- A well-formed command with a repeated group has at least one group. -/
theorem groups_ne_nil {cmd : Script.Command} (hw : Command.wellFormed cmd) {start size : Nat}
    (hstart : (Layout.of cmd.kind).head.length = start)
    (hrepeated : (Layout.of cmd.kind).repeated ≠ []) : cmd.groups start size ≠ [] := by
  unfold Command.wellFormed at hw
  simp only [Bool.and_eq_true, Layout.accepts, List.isEmpty_iff, hrepeated, if_false,
    decide_eq_true_eq] at hw
  have hpos : 0 < (Layout.of cmd.kind).repeated.length := List.length_pos_iff.2 hrepeated
  have hlong : start < cmd.args.length := by omega
  unfold Script.Command.groups chunks
  cases hdrop : cmd.args.drop start with
  | nil =>
    have := List.drop_eq_nil_iff.1 hdrop
    omega
  | cons v vs => simp [chunksFrom]

end Likeness

namespace Script.Command.Typed

variable {cmd : Script.Command} {v : Value}

/-- A parameter that is no flag is plain. -/
theorem plain (h : cmd.Typed) (i : Nat) (hv : cmd.args[i]? = some v)
    (htype : ((Layout.of cmd.kind).paramAt? i).all fun p => p.type != .flag) : v.plain := by
  obtain ⟨p, hp, hadmits⟩ := h i v hv
  rw [hp] at htype
  exact Param.plain_of_admits hadmits (by simpa using htype)

/-- The line above a menu is plain. -/
theorem line_plain (h : cmd.Typed) (hasks : Command.asks cmd.kind)
    (hline : v = .null ∨ cmd.args[0]? = some v) : v.plain := by
  rcases hline with rfl | hv
  · simp
  · refine h.plain 0 hv ?_
    cases hk : cmd.kind <;> simp [hk, Command.asks] at hasks <;> rfl

/-- A parameter that has to be a text is one. -/
theorem isText (h : cmd.Typed) (i : Nat) (hv : cmd.args[i]? = some v)
    (htype : ((Layout.of cmd.kind).paramAt? i).all fun p => p.type == .text && !p.nullable) :
    v.IsText := by
  obtain ⟨p, hp, hadmits⟩ := h i v hv
  rw [hp] at htype
  simp only [Option.all_some, Bool.and_eq_true, beq_iff_eq, Bool.not_eq_true'] at htype
  exact Param.isText_of_admits hadmits htype.1 htype.2

end Script.Command.Typed

namespace Likeness

variable {typed : Prop} {R : Stage → Stage → Prop} {s t : Stage}

/-- A command does the same on two stages that are alike, if it throws the same dice and finds the
same scripts. -/
theorem perform (L : Likeness typed R) (h : R s t) {cmd : Script.Command}
    (hw : Command.wellFormed cmd) (htyped : typed → cmd.Typed)
    (hroll : cmd.kind = .rollDice → ∀ sides throws,
      Matches (Stage.throwDice sides throws) (Stage.throwDice sides throws) s t
        (fun v w s' t' => w = v ∧ R s' t') fun _ => R)
    (hswitch : cmd.kind = .switchScript → ∀ line name conversation, (typed → name.IsText) →
      Matches (Command.switchScript line name conversation)
        (Command.switchScript line name conversation) s t (Passed R) fun _ => R) :
    Matches (Command.perform cmd) (Command.perform cmd) s t
      (fun o o' s' t' => o' = o ∧ o.Suits R cmd s t s' t') fun _ => R := by
  cases cmd using Command.shapes with
  | addSprite => exact passed (L.addSprite h fun ht => (htyped ht).isText 0 rfl rfl)
  | removeSprite => exact passed (L.removeSprite h)
  | alignSprite => exact effected rfl (L.alignSprite h)
  | moveSprite =>
    exact effected rfl (L.moveSprite h fun ht =>
      ⟨(htyped ht).plain 1 rfl rfl, (htyped ht).plain 2 rfl rfl⟩)
  | setSpritePosition =>
    exact passed (L.placeSprite h fun ht =>
      ⟨(htyped ht).plain 1 rfl rfl, (htyped ht).plain 2 rfl rfl⟩)
  | flipSprite => exact effected rfl (L.flipSprite h)
  | scaleSprite => exact effected rfl (L.scaleSprite h fun ht => (htyped ht).plain 1 rfl rfl)
  | setSpriteAlias =>
    exact passed (L.setSpriteAlias h fun ht =>
      ⟨(htyped ht).plain 0 rfl rfl, (htyped ht).plain 1 rfl rfl⟩)
  | setBackground => exact passed (L.setBackground h fun ht => (htyped ht).plain 0 rfl rfl)
  | moveBackground =>
    exact effected rfl (L.moveBackground h fun ht => ⟨(htyped ht).plain 0 rfl rfl,
      (htyped ht).plain 1 rfl rfl, (htyped ht).plain 3 rfl rfl⟩)
  | scaleBackground =>
    exact effected rfl (L.scaleBackground h fun ht => (htyped ht).plain 0 rfl rfl)
  | fadeIn | fadeOut => exact effected rfl (L.fade h)
  | playSound | systemCall => exact passed (Matches.pure_iff.2 ⟨rfl, rfl, h⟩)
  | playMusic =>
    exact passed (L.playMusic h (fun ht => (htyped ht).plain 0 rfl rfl)
      fun ht => (htyped ht).plain 1 rfl rfl)
  | setSpeaker => exact passed (L.setSpeaker h fun ht => (htyped ht).plain 0 rfl rfl)
  | showSpeech => exact passed (L.showSpeech h fun ht => (htyped ht).plain 0 rfl rfl)
  | setSpeechbox => exact passed (L.setSpeechbox h fun ht => (htyped ht).plain 0 rfl rfl)
  | setSpeechFont | setSpeechFontSize | setSpeakerFont | setSpeakerFontSize =>
    exact passed (L.setFont h (fun ht => (htyped ht).plain 0 rfl rfl) (by simp))
  | setCinematicText =>
    exact passed (L.setCinematicText _ _ h fun ht =>
      ⟨(htyped ht).plain 0 rfl rfl, (htyped ht).plain 1 rfl rfl⟩)
  | setTypewriterText =>
    exact passed (L.setTypewriterText _ _ h fun ht =>
      ⟨(htyped ht).plain 0 rfl rfl, (htyped ht).plain 1 rfl rfl⟩)
  | modifyChoiceboxOffset =>
    exact passed (L.moveChoicebox h (fun ht => (htyped ht).plain 0 rfl rfl)
      fun ht => (htyped ht).plain 1 rfl rfl)
  | setConversation => exact passed (L.setConversation h)
  | switchScript => exact passed (hswitch rfl _ _ _ fun ht => (htyped ht).isText 0 rfl rfl)
  | setFlag => exact passed (reads_ofMishap.bind fun flag _ => L.setFlagTo h)
  | modifyFlag => exact passed (reads_ofMishap.bind fun flag _ => L.modifyFlag h)
  | increaseFlagByFlag | decreaseFlagByFlag =>
    exact passed (reads_ofMishap.bind fun flag _ => reads_ofMishap.bind fun other _ =>
      L.modifyFlagByFlag h)
  | rollDice => exact passed (L.rollDice h (hroll rfl))
  | isFlag | isFlagMoreThan | isFlagLessThan | isFlagBetween | isFlagMoreThanFlag
  | isFlagLessThanFlag | isFlagEqualToFlag =>
    exact passed (reads_ofMishap.bind fun flag _ => L.condition h)
  | jumpOnFlag => exact passed (reads_ofMishap.bind fun flag _ => L.jumpOnFlag h)
  | jumpOnChoice =>
    exact asked rfl (.inl rfl) (askFor (fun _ => reads_jumpOption)
      (groups_ne_nil hw rfl (List.cons_ne_nil _ _)))
  | modifyFlagByChoice =>
    exact asked rfl (.inl rfl) (askFor (fun _ => reads_adjustOption)
      (groups_ne_nil hw rfl (List.cons_ne_nil _ _)))
  | showChoiceAndJump =>
    exact asked rfl (.inr rfl) (askFor (fun _ => reads_jumpOption)
      (groups_ne_nil hw rfl (List.cons_ne_nil _ _)))
  | showChoiceAndModify =>
    exact asked rfl (.inr rfl) (askFor (fun _ => reads_adjustOption)
      (groups_ne_nil hw rfl (List.cons_ne_nil _ _)))
  | addToChoiceSet =>
    exact passed (L.addToChoiceSet h fun ht => ⟨(htyped ht).isText 0 rfl rfl,
      (htyped ht).isText 1 rfl rfl, (htyped ht).isText 2 rfl rfl⟩)
  | removeFromChoiceSet => exact passed (L.removeFromChoiceSet h)
  | wipeChoiceSet => exact passed (L.wipeChoiceSet h)
  | showChoiceSet => exact asked rfl (.inl rfl) (L.showChoiceSet h)
  | misfit => exact Matches.throw_mishap

end Likeness

end VisualNovel
