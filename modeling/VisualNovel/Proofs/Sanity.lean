import VisualNovel.Proofs.Fitting
import VisualNovel.Proofs.Stepping

/-!
# Sane stages

A stage is *sane* if what commands read of it has the type that they expect: settings and places are
numbers, the targets of menus are texts, dice show whole numbers, and the scripts are made of
commands that fit. A session that was not restored from a damaged save is on such a stage. Each kind
of edit that commands make has a lemma here that says when it keeps a stage sane.
-/

namespace VisualNovel

open Script

/-! ## Numbers -/

namespace Value

/-- The value is a double. -/
def IsReal (v : Value) : Prop :=
  (∃ x, v = .float x) ∨ ∃ o, v = .nan o

/-- The value is a number, and not too large for a double. -/
def IsMeasure (v : Value) : Prop :=
  ∃ n x, v.numeric? = some n ∧ n.asReal = .ok x

variable {a b v : Value}

theorem isReal_ofFloat (x : Float) (o : Origin) : (ofFloat x o).IsReal := by
  unfold ofFloat
  split
  · exact .inr ⟨o, rfl⟩
  · exact .inl ⟨x, rfl⟩

theorem IsReal.numeric? (h : v.IsReal) : ∃ x, v.numeric? = some (.real x) := by
  rcases h with ⟨x, rfl⟩ | ⟨o, rfl⟩
  · exact ⟨x, rfl⟩
  · exact ⟨_, rfl⟩

theorem IsReal.isMeasure (h : v.IsReal) : v.IsMeasure := by
  obtain ⟨x, hx⟩ := h.numeric?
  exact ⟨.real x, x, hx, rfl⟩

/-- An operation on a number and a double gives a double. -/
theorem IsMeasure.combine (ha : a.IsMeasure) (hb : b.IsReal) (onInts : Int → Int → Int)
    (onFloats : Float → Float → Float) :
    ∃ v, combine onInts onFloats a b = .ok v ∧ v.IsReal := by
  obtain ⟨n, x, hn, hx⟩ := ha
  obtain ⟨y, hy⟩ := hb.numeric?
  refine ⟨ofFloat (onFloats x y) (originAfter a b), ?_, isReal_ofFloat _ _⟩
  cases n with
  | whole n =>
    simp only [Value.combine, hn, hy, hx]
    rfl
  | real z =>
    simp only [Value.combine, hn, hy, hx]
    rfl

theorem IsReal.add (ha : a.IsReal) (hb : b.IsReal) : ∃ v, a.add b = .ok v ∧ v.IsReal := by
  have hadd : a.add b = Value.combine (· + ·) (· + ·) a b := by
    rcases ha with ⟨x, rfl⟩ | ⟨o, rfl⟩ <;> rfl
  rw [hadd]
  exact ha.isMeasure.combine hb _ _

theorem IsReal.movedBy (ha : a.IsReal) (hb : b.IsReal) : ∃ v, a.movedBy b = .ok v ∧ v.IsReal := by
  have hmoved : a.movedBy b = a.add b := by
    rcases ha with ⟨x, rfl⟩ | ⟨o, rfl⟩ <;> rfl
  rw [hmoved]
  exact ha.add hb

theorem IsMeasure.mul (ha : a.IsMeasure) (hb : b.IsReal) : ∃ v, a.mul b = .ok v ∧ v.IsReal := by
  have hmul : a.mul b = Value.combine (· * ·) (· * ·) a b := by
    obtain ⟨n, x, hn, -⟩ := ha
    obtain ⟨y, hy⟩ := hb.numeric?
    simp only [Value.mul, hn, hy]
  rw [hmul]
  exact ha.combine hb _ _

theorem less_int (m n : Int) : ∃ b, (Value.int m).less (.int n) = .ok b :=
  ⟨_, rfl⟩

theorem largest_eq {c : Bool} (h : a.less b = .ok c) : largest a b = .ok (if c then b else a) := by
  simp only [largest, greater, h]
  cases c <;> rfl

theorem largest_int (m n : Int) : ∃ k, largest (.int m) (.int n) = .ok (.int k) := by
  obtain ⟨c, hc⟩ := less_int m n
  rw [largest_eq hc]
  cases c with
  | true => exact ⟨n, rfl⟩
  | false => exact ⟨m, rfl⟩

theorem IsReal.greater (h : v.IsReal) (n : Int) : ∃ b, v.greater (.int n) = .ok b := by
  obtain ⟨x, hx⟩ := h.numeric?
  have hn : (Value.int n).numeric? = some (.whole n) := rfl
  simp only [Value.greater, Value.less, hn, hx]
  exact ⟨_, rfl⟩

theorem IsReal.less (ha : a.IsReal) (hb : b.IsReal) : ∃ c, a.less b = .ok c := by
  obtain ⟨x, hx⟩ := ha.numeric?
  obtain ⟨y, hy⟩ := hb.numeric?
  simp only [Value.less, hx, hy]
  exact ⟨_, rfl⟩

theorem IsReal.largest (ha : a.IsReal) (hb : b.IsReal) : ∃ v, largest a b = .ok v ∧ v.IsReal := by
  obtain ⟨c, hc⟩ := ha.less hb
  refine ⟨_, largest_eq hc, ?_⟩
  split
  · exact hb
  · exact ha

end Value

namespace Script.Param

variable {p : Param} {v : Value}

/-- A parameter that is a double and not `nil` has a double. -/
theorem isReal_of_admits (h : p.admits v) (htype : p.type = .float) (hnil : p.nullable = false) :
    v.IsReal := by
  cases v with
  | float x => exact .inl ⟨x, rfl⟩
  | nan o => exact .inr ⟨o, rfl⟩
  | null => simp [Param.admits, hnil] at h
  | _ => simp [Param.admits, htype, ParamType.admits] at h

theorem int_of_admits (h : p.admits v) (htype : p.type = .int) (hnil : p.nullable = false) :
    ∃ n, v = .int n := by
  cases v with
  | int n => exact ⟨n, rfl⟩
  | null => simp [Param.admits, hnil] at h
  | _ => simp [Param.admits, htype, ParamType.admits] at h

theorem flag_of_admits (h : p.admits v) (htype : p.type = .flag) (hnil : p.nullable = false) :
    ∃ name, v = .flag name := by
  cases v with
  | flag name => exact ⟨name, rfl⟩
  | null => simp [Param.admits, hnil] at h
  | _ => simp [Param.admits, htype, ParamType.admits] at h

end Script.Param

/-! ## Scripts that fit -/

/-- The script that is played is the one that the cursor stands in. It fits, and so does every
script that the library remembers. -/
structure Stage.Fits (s : Stage) : Prop where
  script : s.script.Fits
  inStep : s.session.cursor.script = s.script
  library : ∀ l, s.library = some l → l.Fits

namespace Stage.Fits

variable {s s' : Stage}

theorem cursor (h : s.Fits) : s.session.cursor.script.Fits :=
  h.inStep ▸ h.script

theorem congr (h : s.Fits) (hscript : s'.script = s.script)
    (hcursor : s'.session.cursor.script = s.session.cursor.script)
    (hlibrary : s'.library = s.library) : s'.Fits :=
  ⟨hscript ▸ h.script, (hcursor.trans h.inStep).trans hscript.symm,
    fun l hl => h.library l (hlibrary ▸ hl)⟩

/-- A script that is fetched fits. Only the library can be what meets a mishap. -/
theorem fetchScript (h : s.Fits) (missing : StoryError) (name : Value) :
    Ends (Stage.fetchScript missing name) s
      (fun script s' => script.Fits ∧ ∃ library, s' = { s with library } ∧ s'.Fits)
      fun f s' => (∃ library, s' = { s with library } ∧ s'.Fits) ∧ ∀ m, f = .mishap m →
        ∃ l, s.library = some l ∧ (l.get s.disk.files name).1 = .error (.mishap m) := by
  unfold Stage.fetchScript
  refine Ends.bind_iff.2 (Ends.get_iff.2 ?_)
  cases hlibrary : s.library with
  | none => exact ⟨⟨s.library, rfl, h⟩, nofun⟩
  | some l =>
    obtain ⟨hremembers, hgives⟩ := Library.get_fits (h.library l hlibrary) s.disk.files name
    have h' : ({ s with library := some (l.get s.disk.files name).2 } : Stage).Fits := by
      refine ⟨h.script, h.inStep, ?_⟩
      rintro _ ⟨⟩
      exact hremembers
    refine Ends.bind_iff.2 (Ends.set_iff.2 (Ends.ofExcept_iff.2 ⟨?_, ?_⟩))
    · exact fun script hscript => ⟨hgives script hscript, _, rfl, h'⟩
    · rintro f hf
      refine ⟨⟨_, rfl, h'⟩, ?_⟩
      rintro m rfl
      exact ⟨l, rfl, hf⟩

end Stage.Fits

/-- A text can only fail to name a conversation because there is none of the name. -/
theorem Script.named_error {script : Script} {n : String} {f : Fault}
    (h : script.named (.text n) = .error f) : ∃ error, f = .story error := by
  simp only [Script.named] at h
  split at h
  · cases h
  · cases h
    exact ⟨_, rfl⟩

/-- The second stage is at the start of a conversation of another script. -/
structure Stage.Switched (s s' : Stage) : Prop where
  session : ∃ cursor scriptName, cursor.Sound ∧
    s'.session = { s.session with cursor, scriptName, choiceSets := [] }
  config : s'.config = s.config
  timedText : s'.timedText = s.timedText
  dice : s'.dice = s.dice
  fits : s'.Fits

theorem Stage.Fits.switchScript {s : Stage} (h : s.Fits) (line name conversation : Value) :
    Ends (Command.switchScript line name conversation) s
      (fun o s' => o = .stay ∧ s.Switched s')
      fun f s' => (∃ library, s' = { s with library } ∧ s'.Fits) ∧ ∀ m, f = .mishap m →
        conversation.IsText →
        ∃ l, s.library = some l ∧ (l.get s.disk.files name).1 = .error (.mishap m) := by
  unfold Command.switchScript
  refine Ends.bind_iff.2 (Ends.mono (h.fetchScript _ name) ?_ fun f s' ⟨hs', hm⟩ =>
    ⟨hs', fun m hf _ => hm m hf⟩)
  rintro script _ ⟨hscript, library, rfl, h'⟩
  refine Ends.bind_iff.2 (Ends.ofExcept_iff.2
    ⟨fun place _ => ?_, fun f hf => ⟨⟨library, rfl, h'⟩, ?_⟩⟩)
  · refine Ends.bind_iff.2 (Ends.ofStory_iff.2 ⟨fun cursor hcursor => ?_, fun _ _ => ⟨⟨library, rfl,
      h'⟩, nofun⟩⟩)
    obtain ⟨rfl, hsound⟩ := Cursor.rebind_sound hcursor
    exact ⟨rfl, ⟨cursor, _, hsound, rfl⟩, rfl, rfl, rfl, hscript, rfl, h'.library⟩
  · rintro m rfl ⟨n, rfl⟩
    -- The name of the conversation is a text, whether it was given or not.
    unfold Value.orElse at hf
    split at hf
    · obtain ⟨error, herror⟩ := Script.named_error hf
      cases herror
    · obtain ⟨error, herror⟩ := Script.named_error hf
      cases herror

/-! ## Stages whose parts have their types -/

/-- The view has a width and a height that a double can hold, and sprites stand at a double. -/
structure Config.Sane (c : Config) : Prop where
  width : ∃ v, c.view.required "width" = .ok v ∧ v.IsMeasure
  height : ∃ v, c.view.required "height" = .ok v ∧ v.IsMeasure
  spriteY : ∃ v, c.view.required "sprite_y" = .ok v ∧ v.IsReal

theorem Config.default_sane : Config.default.Sane := by
  have hmeasure : ∀ n : Int, (Number.ofInt? n).isSome → (Value.int n).IsMeasure := by
    intro n hn
    obtain ⟨x, hx⟩ := Option.isSome_iff_exists.1 hn
    refine ⟨.whole n, x, rfl, ?_⟩
    simp only [Value.Numeric.asReal, Value.toReal, hx]
  exact ⟨⟨.int 1024, rfl, hmeasure 1024 (by decide +kernel)⟩,
    ⟨.int 768, rfl, hmeasure 768 (by decide +kernel)⟩, ⟨.float 0.5, rfl, .inl ⟨0.5, rfl⟩⟩⟩

/-- The place of a sprite is a pair of doubles. -/
structure Sprite.Sane (p : Sprite) : Prop where
  x : p.x.IsReal
  y : p.y.IsReal

/-- The places of a scene are doubles, and the aliases are a record. -/
structure Scene.Sane (s : Scene) : Prop where
  backgroundX : s.backgroundX.IsReal
  backgroundY : s.backgroundY.IsReal
  sprites : ∀ e ∈ s.sprites, e.2.Sane
  aliases : ∃ fs, s.spriteAliases = .record fs

/-- All that commands read of a stage has the type that they expect, and the scripts are made of
commands that fit. -/
structure Stage.Sane (s : Stage) : Prop where
  config : s.config.Sane
  scene : s.session.scene.Sane
  offsetX : s.session.overrides.choiceboxOffsetX.IsReal
  offsetY : s.session.overrides.choiceboxOffsetY.IsReal
  choiceSets : ∀ e ∈ s.session.choiceSets, ∀ o ∈ e.2, o.2.IsText
  fullText : s.timedText.fullText.IsText
  dice : ∀ v ∈ s.dice.rolls, ∃ n, v = .int n
  cursor : s.session.cursor.Sound
  fits : s.Fits

/-- The option goes to a conversation, or adds a whole number to a flag. -/
def ChoiceOption.Sane (o : ChoiceOption) : Prop :=
  o.conversation.IsText ∨ o.conversation = .null ∧ ∃ n, o.delta = .int n

/-- What is left to do can be done. -/
def Outcome.Sane : Outcome → Prop
  | .ask options _ => ∀ o ∈ options, o.Sane
  | _ => True

namespace Scene.Sane

variable {s : Scene}

theorem sprite (h : s.Sane) {name : Value} {p : Sprite} (hp : Table.get? name s.sprites = some p) :
    p.Sane := by
  obtain ⟨k, hk⟩ := Table.mem_of_get? hp
  exact h.sprites _ hk

theorem changeSprite (h : s.Sane) (name : Value) {f : Sprite → Sprite}
    (hf : ∀ p : Sprite, p.Sane → (f p).Sane) : (s.changeSprite name f).Sane := by
  refine ⟨h.backgroundX, h.backgroundY, fun e he => ?_, h.aliases⟩
  obtain ⟨d, hd, rfl⟩ := List.mem_map.1 he
  split
  · exact hf d.2 (h.sprites d hd)
  · exact h.sprites d hd

end Scene.Sane

namespace Stage.Sane

variable {s : Stage}

theorem mapScene (h : s.Sane) {f : Scene → Scene} (hf : (f s.session.scene).Sane) :
    (s.mapScene f).Sane :=
  ⟨h.config, hf, h.offsetX, h.offsetY, h.choiceSets, h.fullText, h.dice, h.cursor,
    h.fits.congr rfl rfl rfl⟩

/-- A change of the scene that leaves its places and aliases as they are. -/
theorem editScene (h : s.Sane) {f : Scene → Scene}
    (hx : (f s.session.scene).backgroundX = s.session.scene.backgroundX)
    (hy : (f s.session.scene).backgroundY = s.session.scene.backgroundY)
    (hsprites : (f s.session.scene).sprites = s.session.scene.sprites)
    (haliases : (f s.session.scene).spriteAliases = s.session.scene.spriteAliases) :
    (s.mapScene f).Sane :=
  h.mapScene ⟨hx ▸ h.scene.backgroundX, hy ▸ h.scene.backgroundY, hsprites ▸ h.scene.sprites,
    haliases ▸ h.scene.aliases⟩

theorem mapOverrides (h : s.Sane) {f : Overrides → Overrides}
    (hx : (f s.session.overrides).choiceboxOffsetX.IsReal)
    (hy : (f s.session.overrides).choiceboxOffsetY.IsReal) : (s.mapOverrides f).Sane :=
  ⟨h.config, h.scene, hx, hy, h.choiceSets, h.fullText, h.dice, h.cursor,
    h.fits.congr rfl rfl rfl⟩

theorem mapFlags (h : s.Sane) (f : Flags → Flags) : (s.mapFlags f).Sane :=
  ⟨h.config, h.scene, h.offsetX, h.offsetY, h.choiceSets, h.fullText, h.dice, h.cursor,
    h.fits.congr rfl rfl rfl⟩

theorem disk (h : s.Sane) (d : Disk) : ({ s with disk := d } : Stage).Sane :=
  ⟨h.config, h.scene, h.offsetX, h.offsetY, h.choiceSets, h.fullText, h.dice, h.cursor,
    h.fits.congr rfl rfl rfl⟩

theorem keep (h : s.Sane) (x : Option Snapshot) :
    (s.mapSession fun t => { t with safe := x }).Sane :=
  ⟨h.config, h.scene, h.offsetX, h.offsetY, h.choiceSets, h.fullText, h.dice, h.cursor,
    h.fits.congr rfl rfl rfl⟩

theorem mapCursor (h : s.Sane) {f : Cursor → Cursor}
    (hscript : (f s.session.cursor).script = s.session.cursor.script)
    (hsound : (f s.session.cursor).Sound) : (s.mapCursor f).Sane :=
  ⟨h.config, h.scene, h.offsetX, h.offsetY, h.choiceSets, h.fullText, h.dice, hsound,
    h.fits.congr rfl hscript rfl⟩

theorem setChoiceSets (h : s.Sane) {sets : ChoiceSets}
    (hsets : ∀ e ∈ sets, ∀ o ∈ e.2, o.2.IsText) :
    (s.mapSession fun t => { t with choiceSets := sets }).Sane :=
  ⟨h.config, h.scene, h.offsetX, h.offsetY, hsets, h.fullText, h.dice, h.cursor,
    h.fits.congr rfl rfl rfl⟩

theorem option_isText (h : s.Sane) {name : Value} {o : Value × Value}
    (ho : o ∈ (Table.get? name s.session.choiceSets).getD []) : o.2.IsText := by
  cases hfound : Table.get? name s.session.choiceSets with
  | none => simp [hfound] at ho
  | some there =>
    obtain ⟨k, hk⟩ := Table.mem_of_get? hfound
    rw [hfound] at ho
    exact h.choiceSets _ hk o ho

theorem switched {s' : Stage} (h : s.Sane) (hs : s.Switched s') : s'.Sane := by
  obtain ⟨⟨cursor, scriptName, hsound, hsession⟩, hconfig, htimed, hdice, hfits⟩ := hs
  refine ⟨hconfig ▸ h.config, ?_, ?_, ?_, ?_, htimed ▸ h.fullText, hdice ▸ h.dice, ?_, hfits⟩
  all_goals rw [hsession]
  · exact h.scene
  · exact h.offsetX
  · exact h.offsetY
  · exact fun _ he => absurd he List.not_mem_nil
  · exact hsound

theorem timed (h : s.Sane) {t : TimedText} (ht : t.fullText = s.timedText.fullText) :
    ({ s with timedText := t } : Stage).Sane :=
  ⟨h.config, h.scene, h.offsetX, h.offsetY, h.choiceSets, ht ▸ h.fullText, h.dice, h.cursor,
    h.fits.congr rfl rfl rfl⟩

end Stage.Sane

end VisualNovel
