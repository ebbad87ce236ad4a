import VisualNovel.Proofs.Sanity

/-!
# Commands meet no mishap

A command that fits its layout, on a sane stage, does what it has to do or fails with an error of
the story, and leaves the stage sane (`Command.perform_sound`). It never meets parameters that it
cannot take apart or use: the only mishaps are a number of seconds that is no number of frames, and
one that the library meets.

Each command has a lemma of its own that asks of the parameters what the command asks of them; the
layouts give that, in one case for each kind of command.
-/

namespace VisualNovel

open Script

namespace Command

open Script.Param

variable {s : Stage} {α : Type}

/-- The action meets no mishap and leaves the stage sane, also if it ends with an error of the
story. -/
abbrev Safe (act : Action Stage α) (s : Stage) (Q : α → Prop) : Prop :=
  Leads False act s (fun a s' => s'.Sane ∧ Q a) fun _ s' => s'.Sane

/-! ## Parts of commands -/

theorem keyOf_text (n : String) : keyOf (.text n) = pure (.text n) :=
  rfl

theorem flagOf_flag (flag : String) : flagOf (.flag flag) = pure flag :=
  rfl

theorem runEffect_safe (h : s.Sane) {kind : IntentKind} {duration : Value}
    {payload : Table String Value} {change : Action Stage Unit} (hduration : duration.IsReal)
    (hchange : ∀ s', s'.Sane → Safe change s' fun _ => True) :
    Safe (runEffect kind duration payload change) s Outcome.Sane := by
  obtain ⟨on, hon⟩ := hduration.greater 0
  unfold runEffect
  refine Leads.ofMishap_bind hon ?_
  cases on with
  | true =>
    refine Leads.modify_bind (Leads.bind (hchange _ (h.keep _)) ?_)
    intro _ s' h'
    exact ⟨h'.1, trivial⟩
  | false =>
    refine Leads.bind (hchange s h) ?_
    intro _ s' h'
    exact ⟨h'.1, trivial⟩

/-- Nothing but what was in the table stays in it. -/
theorem takeOut_text (n : String) (t : Table Value α) : ∃ found rest,
    takeOut (.text n) t = (pure (found, rest) : Action Stage _) ∧ ∀ e ∈ rest, e ∈ t := by
  cases t with
  | nil => exact ⟨none, [], rfl, fun _ he => he⟩
  | cons e t =>
    exact ⟨_, Table.erase (.text n) (e :: t), rfl, fun _ he => (List.mem_filter.1 he).1⟩

/-! ## Sprites -/

/-- An effect that changes a sprite. -/
theorem spriteEffect_safe (h : s.Sane) {kind : IntentKind} {name duration : Value}
    {payload : Table String Value} {f : Sprite → Sprite} (hduration : duration.IsReal)
    (hf : ∀ p : Sprite, p.Sane → (f p).Sane) :
    Safe (runEffect kind duration payload (changeSprite name f)) s Outcome.Sane :=
  runEffect_safe h hduration fun _ h' => ⟨h'.mapScene (h'.scene.changeSprite name hf), trivial⟩

/-- A command on a sprite passes over one that is not there. -/
theorem withSprite_safe (h : s.Sane) (kind : CommandKind) {name : Value} (hname : name.IsText)
    {act : Sprite → Action Stage Outcome}
    (hact : ∀ sprite : Sprite, sprite.Sane → Safe (act sprite) s Outcome.Sane) :
    Safe (do
      match ← sprite? kind name with
      | none => return .next
      | some sprite => act sprite) s Outcome.Sane := by
  obtain ⟨n, rfl⟩ := hname
  unfold sprite?
  simp only [keyOf_text, pure_bind, bind_assoc]
  refine Leads.get_bind ?_
  cases hfound : Table.get? (.text n) s.session.scene.sprites with
  | none => exact ⟨h.disk _, trivial⟩
  | some sprite => exact hact sprite (h.scene.sprite hfound)

theorem viewSetting_bind {key : String} {v : Value} (hv : s.config.view.required key = .ok v)
    {f : Value → Action Stage α} {Q : α → Stage → Prop} {E : StoryError → Stage → Prop}
    (hf : Leads False (f v) s Q E) : Leads False (viewSetting key >>= f) s Q E := by
  unfold viewSetting
  rw [bind_assoc]
  exact Leads.get_bind (Leads.ofMishap_bind hv hf)

theorem pictureOf_bind (h : s.Sane) (n : String) {f : Value → Action Stage α}
    {Q : α → Stage → Prop} {E : StoryError → Stage → Prop}
    (hf : ∀ v, Leads False (f v) s Q E) : Leads False (pictureOf (.text n) >>= f) s Q E := by
  obtain ⟨fs, hfs⟩ := h.scene.aliases
  have hfields : s.session.scene.spriteAliases.fields = .ok fs := by
    rw [hfs]
    rfl
  unfold pictureOf
  rw [bind_assoc]
  refine Leads.get_bind ?_
  rw [bind_assoc]
  refine Leads.ofMishap_bind hfields ?_
  rw [keyOf_text, pure_bind, pure_bind]
  exact hf _

theorem addSprite_safe (h : s.Sane) {name atOnce : Value} (hname : name.IsText) :
    Safe (addSprite name atOnce) s Outcome.Sane := by
  obtain ⟨n, rfl⟩ := hname
  have hput : ∀ sprite : Sprite, sprite.Sane →
      (s.mapScene fun t => { t with sprites := Table.put (.text n) sprite t.sprites }).Sane := by
    intro sprite hsprite
    refine h.mapScene ⟨h.scene.backgroundX, h.scene.backgroundY, fun e he => ?_, h.scene.aliases⟩
    rcases Table.mem_put he with he | ⟨he, -⟩
    · exact h.scene.sprites e he
    · rw [he]
      exact hsprite
  obtain ⟨width, hwidth, hwidth'⟩ := h.config.width
  obtain ⟨height, hheight, hheight'⟩ := h.config.height
  obtain ⟨spriteY, hspriteY, hspriteY'⟩ := h.config.spriteY
  obtain ⟨x, hx, hx'⟩ := hwidth'.mul (.inl ⟨0.5, rfl⟩)
  obtain ⟨y, hy, hy'⟩ := hheight'.mul hspriteY'
  unfold addSprite
  refine pictureOf_bind h n fun filename => Leads.get_bind ?_
  cases hfound : Table.get? (.text n) s.session.scene.sprites with
  | some sprite =>
    have hsprite := h.scene.sprite hfound
    exact ⟨hput { sprite with filename } ⟨hsprite.x, hsprite.y⟩, trivial⟩
  | none =>
    refine viewSetting_bind hwidth (Leads.ofMishap_bind hx ?_)
    refine viewSetting_bind hheight (viewSetting_bind hspriteY (Leads.ofMishap_bind hy ?_))
    exact ⟨hput { filename, x, y } ⟨hx', hy'⟩, trivial⟩

theorem removeSprite_safe (h : s.Sane) {name atOnce : Value} (hname : name.IsText) :
    Safe (removeSprite name atOnce) s Outcome.Sane := by
  obtain ⟨n, rfl⟩ := hname
  obtain ⟨found, rest, htaken, hrest⟩ := takeOut_text n s.session.scene.sprites
  unfold removeSprite
  refine Leads.get_bind ?_
  rw [htaken, pure_bind]
  cases found with
  | none => exact ⟨h.disk _, trivial⟩
  | some sprite =>
    refine ⟨h.mapScene (f := fun t => { t with sprites := rest }) ?_, trivial⟩
    exact ⟨h.scene.backgroundX, h.scene.backgroundY, fun e he => h.scene.sprites e (hrest e he),
      h.scene.aliases⟩

theorem alignSprite_safe (h : s.Sane) {name duration : Value} (place : Value)
    (hname : name.IsText) (hduration : duration.IsReal) :
    Safe (alignSprite name place duration) s Outcome.Sane := by
  refine withSprite_safe h .alignSprite hname fun sprite _ => ?_
  have hmove : ∀ (s' : Stage) (part : Float), s'.Sane → Safe (do
      let x ← Action.ofMishap ((← viewSetting "width").mul (.float part))
      runEffect .moveSprite duration [("name", name), ("x", x), ("y", sprite.y)]
        (changeSprite name fun s => { s with x })) s' Outcome.Sane := by
    intro s' part h'
    obtain ⟨width, hwidth, hwidth'⟩ := h'.config.width
    obtain ⟨x, hx, hx'⟩ := hwidth'.mul (.inl ⟨part, rfl⟩)
    refine viewSetting_bind hwidth (Leads.ofMishap_bind hx ?_)
    exact spriteEffect_safe h' hduration fun _ hp => ⟨hx', hp.y⟩
  split
  · exact hmove s _ h
  · exact hmove _ _ (h.disk _)

theorem moveSprite_safe (h : s.Sane) {name dx dy duration : Value} (hname : name.IsText)
    (hdx : dx.IsReal) (hdy : dy.IsReal) (hduration : duration.IsReal) :
    Safe (moveSprite name dx dy duration) s Outcome.Sane := by
  refine withSprite_safe h .moveSprite hname fun sprite hsprite => ?_
  obtain ⟨x, hx, hx'⟩ := hsprite.x.add hdx
  obtain ⟨y, hy, hy'⟩ := hsprite.y.add hdy
  refine Leads.ofMishap_bind hx (Leads.ofMishap_bind hy ?_)
  exact spriteEffect_safe h hduration fun _ _ => ⟨hx', hy'⟩

theorem placeSprite_safe (h : s.Sane) {name x y : Value} (hname : name.IsText) (hx : x.IsReal)
    (hy : y.IsReal) : Safe (placeSprite name x y) s Outcome.Sane := by
  refine withSprite_safe h .setSpritePosition hname fun _ _ => Leads.modify_bind ⟨?_, trivial⟩
  exact h.mapScene (h.scene.changeSprite name fun _ _ => ⟨hx, hy⟩)

theorem flipSprite_safe (h : s.Sane) {name duration horizontal : Value} (hname : name.IsText)
    (hduration : duration.IsReal) : Safe (flipSprite name duration horizontal) s Outcome.Sane := by
  refine withSprite_safe h .flipSprite hname fun _ _ => ?_
  refine spriteEffect_safe h hduration fun p hp => ?_
  unfold Sprite.flip
  split
  · exact ⟨hp.x, hp.y⟩
  · exact ⟨hp.x, hp.y⟩

theorem scaleSprite_safe (h : s.Sane) {name scale duration : Value} (hname : name.IsText)
    (hduration : duration.IsReal) : Safe (scaleSprite name scale duration) s Outcome.Sane :=
  withSprite_safe h .scaleSprite hname fun _ _ =>
    spriteEffect_safe h hduration fun _ hp => ⟨hp.x, hp.y⟩

theorem setSpriteAlias_safe (h : s.Sane) {name filename : Value} (hname : name.IsText) :
    Safe (setSpriteAlias name filename) s Outcome.Sane := by
  obtain ⟨n, rfl⟩ := hname
  obtain ⟨fs, hfs⟩ := h.scene.aliases
  have hset : ∀ fs', (s.mapScene fun t => { t with spriteAliases := .record fs' }).Sane :=
    fun fs' => h.mapScene ⟨h.scene.backgroundX, h.scene.backgroundY, h.scene.sprites, fs', rfl⟩
  unfold setSpriteAlias
  refine Leads.get_bind ?_
  rw [hfs]
  cases filename with
  | null =>
    obtain ⟨found, rest, htaken, -⟩ := takeOut_text n fs
    simp only [withoutAlias, htaken, pure_bind]
    exact ⟨hset rest, trivial⟩
  | _ => exact ⟨hset _, trivial⟩

end Command

/-! ## Background, fades and sound -/

namespace Scene

/-- One number of the scene moved by a distance, if both are doubles. -/
theorem dragStep_sane {s : Scene} {value : Scene → Option Value} {distance : Except Mishap Value}
    {put : Value → Scene → Scene} (h : s.Sane) (hvalue : ∀ v, value s = some v → v.IsReal)
    (hdistance : ∃ d, distance = .ok d ∧ d.IsReal) (hput : ∀ v, v.IsReal → (put v s).Sane) :
    Ends (dragStep value distance put) s (fun _ s' => s'.Sane) fun _ _ => False := by
  obtain ⟨d, rfl, hd⟩ := hdistance
  simp only [dragStep, Ends.bind_iff, Ends.get_iff]
  cases hv : value s with
  | none => exact h
  | some v =>
    obtain ⟨moved, hmoved, hmoved'⟩ := (hvalue v hv).movedBy hd
    have hbind : (Except.ok d).bind v.movedBy = .ok moved := hmoved
    dsimp only
    rw [hbind]
    exact hput moved hmoved'

theorem drag_sane {s : Scene} {dx dy parallax : Value} (h : s.Sane) (hdx : dx.IsReal)
    (hdy : dy.IsReal) (hparallax : parallax.IsReal) :
    Ends (drag (.ok dx) (.ok dy) (.ok parallax)) s (fun _ s' => s'.Sane) fun _ _ => False := by
  have hpart : ∀ d : Value, d.IsReal → ∃ v,
      (do (← Except.ok d).mul (← Except.ok parallax)) = Except.ok v ∧ v.IsReal :=
    fun d hd => hd.isMeasure.mul hparallax
  have hsprite : ∀ {s : Scene} {name v : Value} {part : Sprite → Value}, s.Sane →
      (∀ p : Sprite, p.Sane → (part p).IsReal) →
      (Table.get? name s.sprites).map part = some v → v.IsReal := by
    intro s name v part hs hpart hv
    obtain ⟨p, hp, rfl⟩ := Option.map_eq_some_iff.1 hv
    exact hpart p (hs.sprite hp)
  unfold drag
  rw [Ends.bind_iff]
  refine Ends.mono (dragStep_sane h ?_ ⟨dx, rfl, hdx⟩ ?_) ?_ fun _ _ h => h
  · rintro v ⟨⟩
    exact h.backgroundX
  · exact fun v hv => ⟨hv, h.backgroundY, h.sprites, h.aliases⟩
  intro _ s hs
  rw [Ends.bind_iff]
  refine Ends.mono (dragStep_sane hs ?_ ⟨dy, rfl, hdy⟩ ?_) ?_ fun _ _ h => h
  · rintro v ⟨⟩
    exact hs.backgroundY
  · exact fun v hv => ⟨hs.backgroundX, hv, hs.sprites, hs.aliases⟩
  intro _ s hs
  rw [Ends.bind_iff, Ends.get_iff]
  -- The sprites are moved one by one.
  generalize Table.keys s.sprites = names
  induction names generalizing s with
  | nil => exact hs
  | cons name names ih =>
    rw [List.forM, Ends.bind_iff, Ends.bind_iff]
    refine Ends.mono (dragStep_sane hs ?_ (hpart dx hdx) ?_) ?_ fun _ _ h => h
    · exact fun v hv => hsprite hs (fun _ hp => hp.x) hv
    · exact fun v hv => hs.changeSprite _ fun _ hp => ⟨hv, hp.y⟩
    intro _ s hs
    refine Ends.mono (dragStep_sane hs ?_ (hpart dy hdy) ?_) ?_ fun _ _ h => h
    · exact fun v hv => hsprite hs (fun _ hp => hp.y) hv
    · exact fun v hv => hs.changeSprite _ fun _ hp => ⟨hp.x, hv⟩
    intro _ s hs
    exact ih s hs

end Scene

namespace Command

variable {s : Stage} {α : Type}

theorem setBackground_safe (h : s.Sane) (filename : Value) :
    Safe (setBackground filename) s Outcome.Sane :=
  ⟨h.mapScene ⟨.inl ⟨0.0, rfl⟩, .inl ⟨0.0, rfl⟩, h.scene.sprites, h.scene.aliases⟩, trivial⟩

theorem moveBackground_safe (h : s.Sane) {dx dy duration parallax : Value} (hdx : dx.IsReal)
    (hdy : dy.IsReal) (hduration : duration.IsReal) (hparallax : parallax.IsReal) :
    Safe (moveBackground dx dy duration parallax) s Outcome.Sane := by
  refine runEffect_safe h hduration fun s' h' => ?_
  refine Ends.attempt_iff.2 (Ends.mono (Scene.drag_sane h'.scene hdx hdy hparallax) ?_ ?_)
  · exact fun _ scene hscene => ⟨h'.mapScene (f := fun _ => scene) hscene, trivial⟩
  · exact fun _ _ h => h.elim

theorem scaleBackground_safe (h : s.Sane) {scale duration : Value} (hduration : duration.IsReal) :
    Safe (scaleBackground scale duration) s Outcome.Sane :=
  runEffect_safe h hduration fun _ h' => ⟨h'.editScene rfl rfl rfl rfl, trivial⟩

theorem fade_safe (h : s.Sane) (out : Bool) {duration : Value} (hduration : duration.IsReal) :
    Safe (fade out duration) s Outcome.Sane :=
  runEffect_safe h hduration fun _ h' => ⟨h'.editScene rfl rfl rfl rfl, trivial⟩

theorem playMusic_safe (h : s.Sane) (filename loop : Value) :
    Safe (playMusic filename loop) s Outcome.Sane := by
  have hscene := h.editScene (f := fun t => { t with music := filename, musicLoop := loop })
    rfl rfl rfl rfl
  unfold playMusic
  cases filename with
  | null => exact ⟨hscene, trivial⟩
  | _ => exact ⟨hscene, trivial⟩

/-! ## Text and menus -/

theorem setFont_safe (h : s.Sane) {field : String} (value : Value)
    (hfield : field ∈ ["speech_font", "speech_font_size", "speaker_font", "speaker_font_size"]) :
    Safe (setFont field value) s Outcome.Sane := by
  refine ⟨h.mapOverrides (f := fun o => o.setField field value) ?_ ?_, trivial⟩
  · simp only [List.mem_cons, List.not_mem_nil, or_false] at hfield
    rcases hfield with rfl | rfl | rfl | rfl <;> exact h.offsetX
  · simp only [List.mem_cons, List.not_mem_nil, or_false] at hfield
    rcases hfield with rfl | rfl | rfl | rfl <;> exact h.offsetY

theorem moveChoicebox_safe (h : s.Sane) {dx dy : Value} (hdx : dx.IsReal) (hdy : dy.IsReal) :
    Safe (moveChoicebox dx dy) s Outcome.Sane := by
  obtain ⟨x, hx, hx'⟩ := h.offsetX.movedBy hdx
  obtain ⟨y, hy, hy'⟩ := h.offsetY.movedBy hdy
  unfold moveChoicebox
  refine Leads.get_bind (Leads.ofMishap_bind hx (Leads.modify_bind ?_))
  refine Leads.get_bind (Leads.ofMishap_bind hy (Leads.modify_bind ?_))
  have hmoved := h.mapOverrides (f := fun o => { o with choiceboxOffsetX := x }) hx' h.offsetY
  exact ⟨hmoved.mapOverrides hx' hy', trivial⟩

theorem setTypewriterText_safe (h : s.Sane) (n : Int) (canSkip : Value) :
    Safe (setTypewriterText (.int n) canSkip) s Outcome.Sane := by
  obtain ⟨m, hm⟩ := Value.largest_int 0 n
  obtain ⟨on, hon⟩ := Value.less_int 0 m
  obtain ⟨line, hline⟩ := h.fullText
  unfold setTypewriterText
  refine Leads.ofMishap_bind hm (Leads.ofMishap_bind hon (Leads.modify_bind ?_))
  refine Leads.bind (P := fun _ s' => s'.Sane) ?_ fun _ s' h' => ⟨h', trivial⟩
  refine Ends.attempt_iff.2 (Ends.mono (TimedText.setTypewriter_ends _ _ _) ?_ ?_)
  · rintro _ t ⟨k, -, hpaced⟩
    exact Stage.Sane.timed (h.mapOverrides h.offsetX h.offsetY) hpaced.line.fullText
  · rintro e t (herror | herror)
    · cases herror
    · have hsize : s.timedText.fullText.size = .error e := herror
      rw [hline] at hsize
      cases hsize

end Command

/-- The mishaps that a command can meet on a sane stage. None of them comes from the number or the
types of its parameters. -/
inductive Command.Excused (cmd : Script.Command) (s : Stage) (m : Mishap) : Prop where
  /-- Cinematic text is to stay for so many seconds that they are no number of frames. -/
  | frames {seconds inputAllowed v : Value} : cmd.kind = .setCinematicText →
    cmd.args = [seconds, inputAllowed] → Value.largest (.float 0.0) seconds = .ok v →
    s.timedText.framesOf v = .error m → m = .overflow ∨ m = .badValue → Command.Excused cmd s m
  /-- The library has met a mishap. -/
  | library {name conversation : Value} {l : Library} : cmd.kind = .switchScript →
    cmd.args = [name, conversation] → s.library = some l →
    (l.get s.disk.files name).1 = .error (.mishap m) → Command.Excused cmd s m

/-- How a command can fail on a sane stage. -/
def Command.Fails (cmd : Script.Command) (s : Stage) : Fault → Stage → Prop
  | .story _, s' => s'.Sane
  | .mishap m, _ => Command.Excused cmd s m

theorem TimedText.framesOf_error {t : TimedText} {v : Value} {m : Mishap} (hv : v.IsReal)
    (h : t.framesOf v = .error m) : m = .overflow ∨ m = .badValue := by
  obtain ⟨on, hon⟩ := hv.greater 0
  obtain ⟨x, hx⟩ : ∃ x, v.toFloat = .ok x := by
    rcases hv with ⟨x, rfl⟩ | ⟨o, rfl⟩
    · exact ⟨x, rfl⟩
    · exact ⟨_, rfl⟩
  unfold framesOf at h
  rw [hon, hx] at h
  split at h
  · cases h
  · cases on with
    | false => cases h
    | true =>
      have hnearest : (Value.toReal t.frameRate >>= fun rate => Value.nearest (x * rate)) =
          .error m := h
      cases hrate : Value.toReal t.frameRate with
      | error e =>
        rw [hrate] at hnearest
        cases hnearest
        unfold Value.toReal at hrate
        split at hrate <;> cases hrate
        exact .inl rfl
      | ok rate =>
        rw [hrate] at hnearest
        have hnearest : Value.nearest (x * rate) = .error m := hnearest
        unfold Value.nearest at hnearest
        split at hnearest <;> cases hnearest
        · exact .inl rfl
        · exact .inr rfl

namespace Command

theorem setCinematicText_fails (h : s.Sane) {seconds inputAllowed line : Value}
    (hseconds : seconds.IsReal) : Ends (setCinematicText seconds inputAllowed) s
      (fun o s' => s'.Sane ∧ o.Sane)
      (Fails { kind := .setCinematicText, args := [seconds, inputAllowed], line } s) := by
  obtain ⟨v, hv, hv'⟩ := Value.IsReal.largest (.inl ⟨0.0, rfl⟩) hseconds
  obtain ⟨on, hon⟩ := hv'.greater 0
  unfold setCinematicText
  rw [hv]
  refine Ends.bind_iff.2 (Ends.ofMishap_iff.2 ⟨?_, fun _ h => by cases h⟩)
  rintro _ ⟨⟩
  rw [hon]
  refine Ends.bind_iff.2 (Ends.ofMishap_iff.2 ⟨?_, fun _ h => by cases h⟩)
  rintro _ ⟨⟩
  refine Ends.bind_iff.2 (Ends.modify_iff.2 (Ends.bind_iff.2 (Ends.attempt_iff.2 ?_)))
  refine Ends.mono (TimedText.setCinematic_ends v inputAllowed s.timedText) ?_ ?_
  · rintro _ _ ⟨frames, -, rfl⟩
    refine ⟨Stage.Sane.timed (h.mapOverrides ?_ ?_) rfl, trivial⟩
    · exact h.offsetX
    · exact h.offsetY
  · intro m t hm
    exact .frames rfl rfl hv hm (TimedText.framesOf_error hv' hm)

/-! ## Flow -/

theorem switchConversation_safe (h : s.Sane) {name : Value} (hname : name.IsText) :
    Safe (Stage.switchConversation name) s fun _ => True := by
  obtain ⟨n, rfl⟩ := hname
  unfold Stage.switchConversation
  refine Leads.get_bind (Ends.bind_iff.2 (Ends.ofExcept_iff.2 ⟨fun conversation _ => ?_, ?_⟩))
  · refine Ends.bind_iff.2 (Ends.ofStory_iff.2 ⟨fun cursor hcursor => ?_, fun _ _ => h⟩)
    obtain ⟨hscript, hsound⟩ := Likeness.switchTo_sound hcursor
    exact ⟨h.mapCursor (f := fun _ => cursor) hscript hsound, trivial⟩
  · intro f hf
    obtain ⟨error, rfl⟩ := Script.named_error hf
    exact h

theorem setConversation_safe (h : s.Sane) {name : Value} (hname : name.IsText) :
    Safe (setConversation name) s Outcome.Sane := by
  refine Leads.bind (switchConversation_safe h hname) ?_
  intro _ s' h'
  exact ⟨h'.1, trivial⟩

theorem switchScript_fails (h : s.Sane) {line name conversation : Value}
    (hconversation : conversation.IsText) : Ends (switchScript line name conversation) s
      (fun o s' => s'.Sane ∧ o.Sane)
      (Fails { kind := .switchScript, args := [name, conversation], line } s) := by
  refine Ends.mono (h.fits.switchScript line name conversation) ?_ ?_
  · rintro _ s' ⟨rfl, hswitched⟩
    exact ⟨h.switched hswitched, trivial⟩
  · rintro (error | m) s' ⟨⟨library, rfl, hfits⟩, hmishap⟩
    · exact ⟨h.config, h.scene, h.offsetX, h.offsetY, h.choiceSets, h.fullText, h.dice, h.cursor,
        hfits⟩
    · obtain ⟨l, hl, hget⟩ := hmishap m rfl hconversation
      exact .library rfl rfl hl hget

theorem setFlag_safe (h : s.Sane) (flag : String) (n : Int) :
    Safe (setFlag flag (.int n)) s Outcome.Sane :=
  ⟨h.mapFlags _, trivial⟩

end Command

theorem Dice.total_ends {d : Dice} (h : ∀ v ∈ d.rolls, ∃ n, v = .int n) (sides : Int) (throws : Nat)
    (sum : Int) : Ends (Dice.total (.int sides) throws (.int sum)) d
      (fun v d' => (∃ n, v = .int n) ∧ d'.rolls = d.rolls) fun _ _ => False := by
  induction throws generalizing d sum with
  | zero => exact ⟨⟨sum, rfl⟩, rfl⟩
  | succ throws ih =>
    obtain ⟨drawn, hdrawn⟩ : ∃ n, d.draw = .int n := by
      unfold Dice.draw
      rw [Array.getD_eq_getD_getElem?]
      cases hroll : d.rolls[d.used % d.rolls.size]? with
      | none => exact ⟨0, rfl⟩
      | some v => exact h v (Array.mem_of_getElem? hroll)
    unfold Dice.total
    refine Ends.bind_iff.2 ?_
    show Ends (ExceptT.mk (pure (Dice.face d.draw (.int sides)))) { d with used := d.used + 1 } _ _
    rw [hdrawn]
    exact ih (d := { d with used := d.used + 1 }) h _

namespace Command

open Script.Param

variable {s : Stage}

theorem atLeastOne_int (n : Int) : ∃ b, atLeastOne (.int n) = pure b :=
  ⟨_, rfl⟩

theorem rollDice_safe (h : s.Sane) (sides count : Int) (flag : String) :
    Safe (rollDice (.int sides) (.int count) (.flag flag)) s Outcome.Sane := by
  obtain ⟨some, hsome⟩ := atLeastOne_int sides
  obtain ⟨any, hany⟩ := atLeastOne_int count
  unfold rollDice
  rw [hsome, hany, pure_bind]
  have hset : ∀ (s' : Stage) (sum : Int), s'.Sane →
      Safe (do setFlag (← flagOf (.flag flag)) (.int sum)) s' Outcome.Sane :=
    fun s' sum h' => setFlag_safe h' flag sum
  cases some with
  | false => exact hset s 0 h
  | true =>
    rw [if_pos rfl, pure_bind]
    cases any with
    | false => exact hset s 0 h
    | true =>
      refine Leads.ofMishap_bind (b := count) rfl ?_
      refine Leads.bind (P := fun v s' => s'.Sane ∧ ∃ n, v = .int n) (Ends.attempt_iff.2 ?_) ?_
      · refine Ends.mono (Dice.total_ends h.dice sides count.toNat 0) ?_ fun _ _ h => h.elim
        rintro v d ⟨hn, hrolls⟩
        refine ⟨⟨h.config, h.scene, h.offsetX, h.offsetY, h.choiceSets, h.fullText, ?_, h.cursor,
          h.fits.congr rfl rfl rfl⟩, hn⟩
        show ∀ v ∈ d.rolls, _
        rw [hrolls]
        exact h.dice
      · rintro _ s' ⟨h', n, rfl⟩
        exact hset s' n h'

theorem condition_safe (h : s.Sane) (kind : CommandKind) (flag : String) (rest : List Value)
    (hholds : ∃ ok, holds kind s.session.flags flag rest = .ok ok) :
    Safe (condition kind flag rest) s Outcome.Sane := by
  obtain ⟨ok, hok⟩ := hholds
  unfold condition
  refine Leads.get_bind (Leads.ofMishap_bind hok (Leads.modify_bind ⟨?_, trivial⟩))
  cases ok with
  | true => exact h.mapCursor rfl (Likeness.advance_sound h.cursor)
  | false =>
    refine h.mapCursor ?_ (Likeness.skip_sound (Likeness.advance_sound h.cursor))
    show (Cursor.skip _).script = _
    unfold Cursor.skip
    split <;> rfl

theorem holds_between (flags : Flags) (flag : String) (low high : Int) :
    ∃ ok, holds .isFlagBetween flags flag [.int low, .int high] = .ok ok := by
  obtain ⟨swapped, hswapped⟩ := Value.less_int high low
  have hinside : ∀ a b : Int, ∃ ok, (do
      if ← (Value.int a).less (.int (flags.get flag)) then
        (Value.int (flags.get flag)).less (.int b)
      else return false : Except Mishap Bool) = .ok ok := by
    intro a b
    obtain ⟨above, habove⟩ := Value.less_int a (flags.get flag)
    obtain ⟨below, hbelow⟩ := Value.less_int (flags.get flag) b
    rw [habove, hbelow]
    cases above with
    | true => exact ⟨below, rfl⟩
    | false => exact ⟨false, rfl⟩
  simp only [holds, hswapped]
  cases swapped with
  | true => exact hinside high low
  | false => exact hinside low high

theorem jumpOnFlag_safe (h : s.Sane) (flag : String) {groups : List (List Value)}
    (hgroups : ∀ g ∈ groups, ∃ v name : Value, g = [v, name] ∧ name.IsText) :
    Safe (jumpOnFlag flag groups) s Outcome.Sane := by
  induction groups with
  | nil => exact ⟨h, trivial⟩
  | cons g groups ih =>
    obtain ⟨v, name, rfl, hname⟩ := hgroups g List.mem_cons_self
    unfold jumpOnFlag
    refine Leads.get_bind ?_
    split
    · exact setConversation_safe h hname
    · exact ih fun g' hg' => hgroups g' (List.mem_cons_of_mem _ hg')

/-! ## Menus -/

theorem jumpOption_pure {cmd : Script.Command} {start : Nat} (hfits : cmd.Fits)
    (hgrouped : Grouped cmd.kind start 2)
    (hrepeated : (Layout.of cmd.kind).repeated = [.text "text", .text "conversation"]) :
    ∀ g ∈ cmd.groups start 2, ∃ o, jumpOption g = pure o ∧ o.Sane := by
  intro g hg
  have hgiven := hfits.group_given hgrouped g hg
  rw [hrepeated] at hgiven
  match g, hgiven with
  | [text, conversation], .cons _ (.cons hconversation _) =>
    exact ⟨{ text, conversation }, rfl, .inl (isText_of_admits hconversation rfl rfl)⟩

theorem adjustOption_pure {cmd : Script.Command} {start : Nat} (hfits : cmd.Fits)
    (hgrouped : Grouped cmd.kind start 3)
    (hrepeated : (Layout.of cmd.kind).repeated = [.text "text", .flag "flag", .int "delta"]) :
    ∀ g ∈ cmd.groups start 3, ∃ o, adjustOption g = pure o ∧ o.Sane := by
  intro g hg
  have hgiven := hfits.group_given hgrouped g hg
  rw [hrepeated] at hgiven
  match g, hgiven with
  | [text, _, delta], .cons _ (.cons hflag (.cons hdelta _)) =>
    obtain ⟨flag, rfl⟩ := flag_of_admits hflag rfl rfl
    exact ⟨{ text, flag := .text flag, delta }, rfl, .inr ⟨rfl, int_of_admits hdelta rfl rfl⟩⟩

theorem askFor_safe (h : s.Sane) {option : List Value → Action Stage ChoiceOption} (line : Value)
    {groups : List (List Value)} (hoption : ∀ g ∈ groups, ∃ o, option g = pure o ∧ o.Sane) :
    Safe (askFor option line groups) s Outcome.Sane := by
  have hall : ∃ os, groups.mapM option = pure os ∧ ∀ o ∈ os, o.Sane := by
    induction groups with
    | nil => exact ⟨[], rfl, by simp⟩
    | cons g groups ih =>
      obtain ⟨o, ho, hsane⟩ := hoption g List.mem_cons_self
      obtain ⟨os, hos, hsanes⟩ := ih fun g' hg' => hoption g' (List.mem_cons_of_mem _ hg')
      refine ⟨o :: os, ?_, ?_⟩
      · rw [List.mapM_cons, ho, pure_bind, hos, pure_bind]
      · simpa using ⟨hsane, hsanes⟩
  obtain ⟨os, hos, hsanes⟩ := hall
  unfold askFor
  rw [hos, pure_bind]
  exact ⟨h, hsanes⟩

theorem addToChoiceSet_safe (h : s.Sane) {name text conversation : Value} (hname : name.IsText)
    (hconversation : conversation.IsText) :
    Safe (addToChoiceSet name text conversation) s Outcome.Sane := by
  obtain ⟨n, rfl⟩ := hname
  unfold addToChoiceSet
  rw [keyOf_text, pure_bind]
  refine Leads.modify_bind ⟨h.setChoiceSets fun e he => ?_, trivial⟩
  rcases Table.mem_put he with he | ⟨hv, -⟩
  · exact h.choiceSets e he
  · rw [hv]
    intro o ho
    rcases List.mem_append.1 ho with ho | ho
    · exact h.option_isText (List.mem_filter.1 ho).1
    · rw [List.mem_singleton.1 ho]
      exact hconversation

theorem removeFromChoiceSet_safe (h : s.Sane) {name text : Value} (hname : name.IsText) :
    Safe (removeFromChoiceSet name text) s Outcome.Sane := by
  obtain ⟨n, rfl⟩ := hname
  unfold removeFromChoiceSet
  rw [keyOf_text, pure_bind]
  refine Leads.modify_bind ⟨h.setChoiceSets fun e he => ?_, trivial⟩
  obtain ⟨d, hd, rfl⟩ := List.mem_map.1 he
  have hoptions := h.choiceSets d hd
  split
  · exact fun o ho => hoptions o (List.mem_filter.1 ho).1
  · exact hoptions

theorem wipeChoiceSet_safe (h : s.Sane) {name : Value} (hname : name.IsText) :
    Safe (wipeChoiceSet name) s Outcome.Sane := by
  obtain ⟨n, rfl⟩ := hname
  obtain ⟨found, rest, htaken, hrest⟩ := takeOut_text n s.session.choiceSets
  unfold wipeChoiceSet
  refine Leads.get_bind ?_
  rw [htaken, pure_bind]
  exact Leads.modify_bind ⟨h.setChoiceSets fun e he => h.choiceSets e (hrest e he), trivial⟩

theorem showChoiceSet_safe (h : s.Sane) {name : Value} (hname : name.IsText) :
    Safe (showChoiceSet name) s Outcome.Sane := by
  obtain ⟨n, rfl⟩ := hname
  unfold showChoiceSet
  rw [keyOf_text, pure_bind]
  refine Leads.get_bind ?_
  split
  · exact ⟨h.disk _, trivial⟩
  · refine ⟨h, fun o ho => ?_⟩
    obtain ⟨p, hp, rfl⟩ := List.mem_map.1 ho
    exact .inl (h.option_isText hp)

/-! ## All commands -/

theorem Safe.fails {act : Action Stage Outcome} {cmd : Script.Command}
    (h : Safe act s Outcome.Sane) :
    Ends act s (fun o s' => s'.Sane ∧ o.Sane) (Fails cmd s) := by
  refine Ends.mono h (fun _ _ h => h) ?_
  rintro (error | m) s' h
  · exact h
  · exact h.elim

/-- A command that fits, on a sane stage, does what it has to do, or fails with an error of the
story, or meets a mishap that has nothing to do with the number or the types of its parameters. -/
theorem perform_sound {cmd : Script.Command} (hfits : cmd.Fits) (h : s.Sane) :
    Ends (perform cmd) s (fun o s' => s'.Sane ∧ o.Sane) (Fails cmd s) := by
  obtain ⟨kind, args, line⟩ := cmd
  cases kind with
  | addSprite =>
    match args, hfits.given rfl with
    | [_, _], .cons hname _ => exact (addSprite_safe h (isText_of_admits hname rfl rfl)).fails
  | removeSprite =>
    match args, hfits.given rfl with
    | [_, _], .cons hname _ => exact (removeSprite_safe h (isText_of_admits hname rfl rfl)).fails
  | alignSprite =>
    match args, hfits.given rfl with
    | [_, place, _], .cons hname (.cons _ (.cons hduration _)) =>
      exact (alignSprite_safe h place (isText_of_admits hname rfl rfl)
        (isReal_of_admits hduration rfl rfl)).fails
  | moveSprite =>
    match args, hfits.given rfl with
    | [_, _, _, _], .cons hname (.cons hdx (.cons hdy (.cons hduration _))) =>
      exact (moveSprite_safe h (isText_of_admits hname rfl rfl) (isReal_of_admits hdx rfl rfl)
        (isReal_of_admits hdy rfl rfl) (isReal_of_admits hduration rfl rfl)).fails
  | setSpritePosition =>
    match args, hfits.given rfl with
    | [_, _, _], .cons hname (.cons hx (.cons hy _)) =>
      exact (placeSprite_safe h (isText_of_admits hname rfl rfl) (isReal_of_admits hx rfl rfl)
        (isReal_of_admits hy rfl rfl)).fails
  | flipSprite =>
    match args, hfits.given rfl with
    | [_, _, _], .cons hname (.cons hduration _) =>
      exact (flipSprite_safe h (isText_of_admits hname rfl rfl)
        (isReal_of_admits hduration rfl rfl)).fails
  | scaleSprite =>
    match args, hfits.given rfl with
    | [_, _, _], .cons hname (.cons _ (.cons hduration _)) =>
      exact (scaleSprite_safe h (isText_of_admits hname rfl rfl)
        (isReal_of_admits hduration rfl rfl)).fails
  | setSpriteAlias =>
    match args, hfits.given rfl with
    | [_, _], .cons hname _ => exact (setSpriteAlias_safe h (isText_of_admits hname rfl rfl)).fails
  | setBackground =>
    match args, hfits.given rfl with
    | [_], _ => exact (setBackground_safe h _).fails
  | moveBackground =>
    match args, hfits.given rfl with
    | [_, _, _, _], .cons hdx (.cons hdy (.cons hduration (.cons hparallax _))) =>
      exact (moveBackground_safe h (isReal_of_admits hdx rfl rfl) (isReal_of_admits hdy rfl rfl)
        (isReal_of_admits hduration rfl rfl) (isReal_of_admits hparallax rfl rfl)).fails
  | scaleBackground =>
    match args, hfits.given rfl with
    | [_, _], .cons _ (.cons hduration _) =>
      exact (scaleBackground_safe h (isReal_of_admits hduration rfl rfl)).fails
  | fadeIn | fadeOut =>
    match args, hfits.given rfl with
    | [_], .cons hduration _ => exact (fade_safe h _ (isReal_of_admits hduration rfl rfl)).fails
  | playSound =>
    match args, hfits.given rfl with
    | [_], _ => exact ⟨h, trivial⟩
  | playMusic =>
    match args, hfits.given rfl with
    | [_, _], _ => exact (playMusic_safe h _ _).fails
  | setSpeaker | showSpeech =>
    match args, hfits.given rfl with
    | [_], _ => exact ⟨h.editScene rfl rfl rfl rfl, trivial⟩
  | setSpeechbox =>
    match args, hfits.given rfl with
    | [_, _], _ => exact ⟨h.editScene rfl rfl rfl rfl, trivial⟩
  | setSpeechFont | setSpeechFontSize | setSpeakerFont | setSpeakerFontSize =>
    match args, hfits.given rfl with
    | [_], _ => exact (setFont_safe h _ (by simp)).fails
  | setCinematicText =>
    match args, hfits.given rfl with
    | [_, _], .cons hseconds _ =>
      exact setCinematicText_fails h (isReal_of_admits hseconds rfl rfl)
  | setTypewriterText =>
    match args, hfits.given rfl with
    | [_, _], .cons hrate _ =>
      obtain ⟨n, rfl⟩ := int_of_admits hrate rfl rfl
      exact (setTypewriterText_safe h n _).fails
  | modifyChoiceboxOffset =>
    match args, hfits.given rfl with
    | [_, _], .cons hdx (.cons hdy _) =>
      exact (moveChoicebox_safe h (isReal_of_admits hdx rfl rfl)
        (isReal_of_admits hdy rfl rfl)).fails
  | setConversation =>
    match args, hfits.given rfl with
    | [_], .cons hname _ => exact (setConversation_safe h (isText_of_admits hname rfl rfl)).fails
  | switchScript =>
    match args, hfits.given rfl with
    | [_, _], .cons _ (.cons hconversation _) =>
      exact switchScript_fails h (isText_of_admits hconversation rfl rfl)
  | setFlag =>
    match args, hfits.given rfl with
    | [_, _], .cons hflag (.cons hvalue _) =>
      obtain ⟨flag, rfl⟩ := flag_of_admits hflag rfl rfl
      obtain ⟨n, rfl⟩ := int_of_admits hvalue rfl rfl
      exact (setFlag_safe h flag n).fails
  | modifyFlag =>
    match args, hfits.given rfl with
    | [_, _], .cons hflag (.cons hdelta _) =>
      obtain ⟨flag, rfl⟩ := flag_of_admits hflag rfl rfl
      obtain ⟨n, rfl⟩ := int_of_admits hdelta rfl rfl
      exact ⟨h.mapFlags _, trivial⟩
  | increaseFlagByFlag | decreaseFlagByFlag =>
    match args, hfits.given rfl with
    | [_, _], .cons hflag (.cons hother _) =>
      obtain ⟨flag, rfl⟩ := flag_of_admits hflag rfl rfl
      obtain ⟨other, rfl⟩ := flag_of_admits hother rfl rfl
      exact ⟨h.mapFlags _, trivial⟩
  | rollDice =>
    match args, hfits.given rfl with
    | [_, _, _], .cons hsides (.cons hcount (.cons hflag _)) =>
      obtain ⟨sides, rfl⟩ := int_of_admits hsides rfl rfl
      obtain ⟨count, rfl⟩ := int_of_admits hcount rfl rfl
      obtain ⟨flag, rfl⟩ := flag_of_admits hflag rfl rfl
      exact (rollDice_safe h sides count flag).fails
  | isFlag | isFlagMoreThan | isFlagLessThan =>
    match args, hfits.given rfl with
    | [_, _], .cons hflag (.cons hvalue _) =>
      obtain ⟨flag, rfl⟩ := flag_of_admits hflag rfl rfl
      obtain ⟨n, rfl⟩ := int_of_admits hvalue rfl rfl
      simp only [perform, flagOf_flag, pure_bind]
      refine (condition_safe h _ flag [.int n] ?_).fails
      exact ⟨_, rfl⟩
  | isFlagBetween =>
    match args, hfits.given rfl with
    | [_, _, _], .cons hflag (.cons hlow (.cons hhigh _)) =>
      obtain ⟨flag, rfl⟩ := flag_of_admits hflag rfl rfl
      obtain ⟨low, rfl⟩ := int_of_admits hlow rfl rfl
      obtain ⟨high, rfl⟩ := int_of_admits hhigh rfl rfl
      exact (condition_safe h .isFlagBetween flag [.int low, .int high]
        (holds_between s.session.flags flag low high)).fails
  | isFlagMoreThanFlag | isFlagLessThanFlag | isFlagEqualToFlag =>
    match args, hfits.given rfl with
    | [_, _], .cons hflag (.cons hother _) =>
      obtain ⟨flag, rfl⟩ := flag_of_admits hflag rfl rfl
      obtain ⟨other, rfl⟩ := flag_of_admits hother rfl rfl
      simp only [perform, flagOf_flag, pure_bind]
      refine (condition_safe h _ flag [.flag other] ?_).fails
      exact ⟨_, rfl⟩
  | jumpOnFlag =>
    cases args with
    | nil => exact absurd hfits.wellFormed Bool.false_ne_true
    | cons v rest =>
      obtain ⟨p, hp, hflag⟩ := hfits.typed 0 v rfl
      cases hp
      obtain ⟨flag, rfl⟩ := flag_of_admits hflag rfl rfl
      refine (jumpOnFlag_safe h flag fun g hg => ?_).fails
      match g, hfits.group_given .jumpOnFlag g hg with
      | [v, target], .cons _ (.cons htarget _) =>
        exact ⟨v, target, rfl, isText_of_admits htarget rfl rfl⟩
  | jumpOnChoice => exact (askFor_safe h _ (jumpOption_pure hfits .jumpOnChoice rfl)).fails
  | modifyFlagByChoice =>
    exact (askFor_safe h _ (adjustOption_pure hfits .modifyFlagByChoice rfl)).fails
  | showChoiceAndJump =>
    cases args with
    | nil => exact absurd hfits.wellFormed Bool.false_ne_true
    | cons v rest => exact (askFor_safe h v (jumpOption_pure hfits .showChoiceAndJump rfl)).fails
  | showChoiceAndModify =>
    cases args with
    | nil => exact absurd hfits.wellFormed Bool.false_ne_true
    | cons v rest =>
      exact (askFor_safe h v (adjustOption_pure hfits .showChoiceAndModify rfl)).fails
  | addToChoiceSet =>
    match args, hfits.given rfl with
    | [_, _, _], .cons hname (.cons _ (.cons hconversation _)) =>
      exact (addToChoiceSet_safe h (isText_of_admits hname rfl rfl)
        (isText_of_admits hconversation rfl rfl)).fails
  | removeFromChoiceSet =>
    match args, hfits.given rfl with
    | [_, _], .cons hname _ =>
      exact (removeFromChoiceSet_safe h (isText_of_admits hname rfl rfl)).fails
  | wipeChoiceSet =>
    match args, hfits.given rfl with
    | [_], .cons hname _ => exact (wipeChoiceSet_safe h (isText_of_admits hname rfl rfl)).fails
  | showChoiceSet =>
    match args, hfits.given rfl with
    | [_], .cons hname _ => exact (showChoiceSet_safe h (isText_of_admits hname rfl rfl)).fails
  | systemCall => exact ⟨h, trivial⟩

/-! ## However commands end -/

theorem setCinematicText_sane (h : s.Sane) (seconds inputAllowed : Value) :
    Ends (setCinematicText seconds inputAllowed) s (fun _ s' => s'.Sane) fun _ s' => s'.Sane := by
  refine Ends.bind_iff.2 (Ends.ofMishap_iff.2 ⟨fun v _ => ?_, fun _ _ => h⟩)
  refine Ends.bind_iff.2 (Ends.ofMishap_iff.2 ⟨fun on _ => ?_, fun _ _ => h⟩)
  refine Ends.bind_iff.2 (Ends.modify_iff.2 (Ends.bind_iff.2 (Ends.attempt_iff.2 ?_)))
  have hoverrides := h.mapOverrides (f := fun o =>
    { o with cinematicSeconds := v, cinematicInputAllowed := inputAllowed
             typewriterRate := if on then .int 0 else o.typewriterRate }) h.offsetX h.offsetY
  exact (TimedText.setCinematic_keepsText v inputAllowed s.timedText).mono
    (fun _ _ ht => hoverrides.timed ht) fun _ _ ht => hoverrides.timed ht

theorem switchScript_sane (h : s.Sane) (line name conversation : Value) :
    Ends (switchScript line name conversation) s (fun _ s' => s'.Sane) fun _ s' => s'.Sane := by
  refine Ends.mono (h.fits.switchScript line name conversation) ?_ ?_
  · rintro _ s' ⟨rfl, hswitched⟩
    exact h.switched hswitched
  · rintro _ s' ⟨⟨library, rfl, hfits⟩, -⟩
    exact ⟨h.config, h.scene, h.offsetX, h.offsetY, h.choiceSets, h.fullText, h.dice, h.cursor,
      hfits⟩

/-- However a command that fits ends on a sane stage, it leaves the stage sane. -/
theorem perform_sane {cmd : Script.Command} (hfits : cmd.Fits) (h : s.Sane) :
    Ends (perform cmd) s (fun _ s' => s'.Sane) fun _ s' => s'.Sane := by
  have hsound := Ends.iff_perform.1 (perform_sound hfits h)
  refine Ends.iff_perform.2 ⟨fun o s' hrun => (hsound.1 o s' hrun).1, fun f s' hrun => ?_⟩
  have hfails := hsound.2 f s' hrun
  cases f with
  | story error => exact hfails
  | mishap m =>
    -- Only two commands can meet a mishap.
    have hexcused : Excused cmd s m := hfails
    obtain ⟨kind, args, line⟩ := cmd
    cases hexcused with
    | frames hkind hargs =>
      obtain rfl := hkind
      obtain rfl := hargs
      exact (Ends.iff_perform.1 (setCinematicText_sane h _ _)).2 _ s' hrun
    | library hkind hargs =>
      obtain rfl := hkind
      obtain rfl := hargs
      exact (Ends.iff_perform.1 (switchScript_sane h line _ _)).2 _ s' hrun

end Command

end VisualNovel
