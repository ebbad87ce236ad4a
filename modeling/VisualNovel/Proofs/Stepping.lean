import VisualNovel.Proofs.Quiet
import VisualNovel.Proofs.TimedText

/-!
# Playing beats

An engine is `Steady` when its mode, its effect, its menu, the snapshot set aside, the displayed
line and the place in the script fit together. Every beat keeps an engine steady, also one that
fails, and a step only ends when the engine waits for somebody or the session has ended. The same
goes for every property of the stage that commands keep and that the engine's own edits do not
break: a `Keeps`.

A beat that starts an effect or shows a menu sets aside the session as it was before the beat:
`Engine.AfterBeat`.
-/

namespace VisualNovel

open Script

variable {σ : Type}

/-! ## Commands on a stage without a snapshot set aside -/

/-- The cursor is sound and no snapshot is set aside. -/
structure Stage.Open (s : Stage) : Prop where
  cursor : s.session.cursor.Sound
  safe : s.session.safe = none
  script : s.session.cursor.script = s.script

theorem Cursor.rebind_sound {script : Script} {p : Position} {c : Cursor}
    (h : Cursor.rebind script p = .ok c) : c.script = script ∧ c.Sound := by
  obtain ⟨beats, hbeats, h⟩ := bind_eq_ok.1 h
  cases h
  refine ⟨rfl, hbeats, ?_⟩
  show (max 0 (min p.index (beats.size : Int))).toNat ≤ beats.size
  omega

/-- A sound cursor is found again at its place. -/
theorem Cursor.rebind_position {c : Cursor} (h : c.Sound) :
    Cursor.rebind c.script c.position = .ok c := by
  have hbeats : c.script.lookup c.position.conversation = .ok c.beats := h.beats
  have hindex := h.index
  have hclamp : Cursor.clamp c.beats c.position.index = c.index := by
    show (max 0 (min (c.index : Int) (c.beats.size : Int))).toNat = c.index
    omega
  have hcompleted : (max 0 c.position.completed).toNat = c.completed := by
    show (max 0 (c.completed : Int)).toNat = c.completed
    omega
  rw [Cursor.rebind, hbeats]
  show Except.ok _ = _
  rw [hclamp, hcompleted]
  rfl

/-- A beat that is there is completed. -/
theorem Cursor.advance_of_current {cursor : Cursor} {beat : Beat} (h : cursor.current = some beat) :
    cursor.advance =
      { cursor with index := cursor.index + 1, completed := cursor.completed + 1 } := by
  have hlt : cursor.index < cursor.beats.size := (Array.getElem?_eq_some_iff.1 h).1
  have hone : (max 0 (min 1 ((cursor.beats.size : Int) - cursor.index))).toNat = 1 := by omega
  simp only [Cursor.advance, hone]

namespace Stage.Open

variable {s : Stage}

theorem switchScript (h : s.Open) (line name conversation : Value) :
    Leads True (Command.switchScript line name conversation) s
      (fun o s' => o.passes ∧ s'.Open) fun _ s' => s'.Open := by
  have hrest : ∀ (script : Script) (s : Stage), s.Open → Leads True (do
      let conversation ←
        Action.ofExcept (script.named (conversation.orElse (.text startConversation)))
      let cursor ← Action.ofStory (Cursor.rebind script { conversation })
      let scriptName := script.name.orElse name
      modify (Stage.enter script cursor)
      modify (Stage.mapSession fun s => { s with scriptName, choiceSets := [] })
      modify (Stage.note .info s!"switched to script {scriptName.shown} ({cursor.conversation})")
      return Outcome.stay) s (fun o s' => o.passes ∧ s'.Open) fun _ s' => s'.Open := by
    intro script s h
    simp only [Ends.bind_iff, Ends.ofExcept_iff, Ends.ofStory_iff, Ends.modify_iff, Ends.pure_iff,
      Leads]
    refine ⟨fun conversation _ => ⟨fun cursor hcursor => ?_, fun _ _ => h⟩, ?_⟩
    · obtain ⟨hscript, hsound⟩ := Cursor.rebind_sound hcursor
      exact ⟨rfl, hsound, h.safe, hscript⟩
    · rintro (e | m) _
      · exact h
      · trivial
  unfold Command.switchScript Stage.fetchScript
  rw [bind_assoc]
  refine Leads.get_bind ?_
  cases s.library with
  | none => exact h
  | some library =>
    simp only [bind_assoc]
    have h' : ({ s with library := some (library.get s.disk.files name).2 } : Stage).Open :=
      ⟨h.cursor, h.safe, h.script⟩
    show Leads True (Action.ofExcept (library.get s.disk.files name).1 >>= _)
      { s with library := some (library.get s.disk.files name).2 } _ _
    refine Ends.bind_iff.2 (Ends.ofExcept_iff.2 ⟨fun script _ => hrest script _ h', ?_⟩)
    rintro (e | m) _
    · exact h'
    · trivial

end Stage.Open

/-- Two stages play the same script, which they have from the same library, at the same settings. -/
structure Stage.SameRoots (s s' : Stage) : Prop where
  config : s'.config = s.config
  script : s'.script = s.script
  cursorScript : s'.session.cursor.script = s.session.cursor.script
  scriptName : s'.session.scriptName = s.session.scriptName
  library : s'.library = s.library
  frameRate : s'.timedText.frameRate = s.timedText.frameRate

theorem Stage.SameRoots.trans {s s' s'' : Stage} (h : s.SameRoots s') (h' : s'.SameRoots s'') :
    s.SameRoots s'' :=
  ⟨h'.config.trans h.config, h'.script.trans h.script, h'.cursorScript.trans h.cursorScript,
    h'.scriptName.trans h.scriptName, h'.library.trans h.library, h'.frameRate.trans h.frameRate⟩

/-- A stage with a sound cursor and no snapshot set aside is alike to itself, and commands keep what
only depends on the script and the settings. -/
theorem openLikeness {P : Stage → Prop} (hP : ∀ {s s'}, P s → s.SameRoots s' → P s') :
    Likeness False fun s t => t = s ∧ s.Open ∧ P s where
  config := fun ⟨h, _⟩ => by rw [h]
  cursor := fun ⟨h, _⟩ => by rw [h]
  flags := fun ⟨h, _⟩ => by rw [h]
  scene := fun ⟨h, _⟩ => by rw [h]
  overrides := fun ⟨h, _⟩ => by rw [h]
  choiceSets := fun ⟨h, _⟩ => by rw [h]
  storable := fun _ h => h.elim
  note := fun _ _ ⟨h, ho, hp⟩ => ⟨by rw [h], ⟨ho.cursor, ho.safe, ho.script⟩,
    hP hp ⟨rfl, rfl, rfl, rfl, rfl, rfl⟩⟩
  setScene := fun _ ⟨h, ho, hp⟩ _ =>
    ⟨by rw [h], ⟨ho.cursor, ho.safe, ho.script⟩, hP hp ⟨rfl, rfl, rfl, rfl, rfl, rfl⟩⟩
  setFlag := fun _ _ ⟨h, ho, hp⟩ =>
    ⟨by rw [h], ⟨ho.cursor, ho.safe, ho.script⟩, hP hp ⟨rfl, rfl, rfl, rfl, rfl, rfl⟩⟩
  setOverrides := fun _ ⟨h, ho, hp⟩ _ _ =>
    ⟨by rw [h], ⟨ho.cursor, ho.safe, ho.script⟩, hP hp ⟨rfl, rfl, rfl, rfl, rfl, rfl⟩⟩
  setChoiceSets := fun _ ⟨h, ho, hp⟩ _ =>
    ⟨by rw [h], ⟨ho.cursor, ho.safe, ho.script⟩, hP hp ⟨rfl, rfl, rfl, rfl, rfl, rfl⟩⟩
  setCursor := fun _ ⟨h, ho, hp⟩ hscript hs =>
    ⟨by rw [h], ⟨hs ho.cursor, ho.safe, hscript.trans ho.script⟩,
      hP hp ⟨rfl, rfl, hscript, rfl, rfl, rfl⟩⟩
  setCinematicText := by
    rintro s _ seconds inputAllowed ⟨rfl, ho, hp⟩ -
    refine Likeness.reads_ofMishap.bind fun seconds _ => Likeness.reads_ofMishap.bind fun on _ => ?_
    refine Matches.modify_bind_iff.2 (Matches.bind (P := fun _ _ s' t' => t' = s' ∧ s'.Open ∧ P s')
      (Matches.attempt_same rfl fun _ t hrun => ⟨rfl, ⟨ho.cursor, ho.safe, ho.script⟩, ?_⟩) ?_)
    · obtain ⟨frames, -, rfl⟩ :=
        (Ends.iff_attempted.1 (TimedText.setCinematic_ends _ _ _)).1 _ t hrun
      exact hP hp ⟨rfl, rfl, rfl, rfl, rfl, (TimedText.withCinematic_sameLine _ _ _).frameRate⟩
    · rintro _ _ s' _ ⟨rfl, ho, hp⟩
      exact Matches.pure_iff.2 ⟨rfl, rfl, rfl, ho, hp⟩
  setTypewriterText := by
    rintro s _ rate canSkip ⟨rfl, ho, hp⟩ -
    refine Likeness.reads_ofMishap.bind fun rate _ => Likeness.reads_ofMishap.bind fun on _ => ?_
    refine Matches.modify_bind_iff.2 (Matches.bind (P := fun _ _ s' t' => t' = s' ∧ s'.Open ∧ P s')
      (Matches.attempt_same rfl fun _ t hrun => ⟨rfl, ⟨ho.cursor, ho.safe, ho.script⟩, ?_⟩) ?_)
    · obtain ⟨n, -, hpaced⟩ :=
        (Ends.iff_attempted.1 (TimedText.setTypewriter_ends _ _ _)).1 _ t hrun
      exact hP hp ⟨rfl, rfl, rfl, rfl, rfl, hpaced.line.frameRate⟩
    · rintro _ _ s' _ ⟨rfl, ho, hp⟩
      exact Matches.pure_iff.2 ⟨rfl, rfl, rfl, ho, hp⟩

/-- A property of the stage that commands keep, and that the edits of the engine itself keep: those
of the files and the log, of the dice, of the timing, of the snapshot set aside, of the line that is
spoken, of flags, and of the place in the conversation. -/
structure Keeps (typed : Prop) (J : Stage → Prop) : Prop where
  likeness : Likeness typed fun s t => t = s ∧ s.Open ∧ J s
  switchScript : ∀ {s} line name conversation, s.Open → J s → (typed → name.IsText) →
    Leads True (Command.switchScript line name conversation) s
      (fun o s' => o.passes ∧ s'.Open ∧ J s') fun _ s' => s'.Open ∧ J s'
  beats : ∀ {s beat}, J s → typed → s.session.cursor.current = some beat → beat.Typed
  disk : ∀ {s} d, J s → J { s with disk := d }
  dice : ∀ {s} d, J s → J { s with dice := d }
  timedText : ∀ {s} t, J s → t.frameRate = s.timedText.frameRate →
    (typed → t.fullText = s.timedText.fullText ∨ t.fullText.IsText) → J { s with timedText := t }
  safe : ∀ {s} x, J s → J (s.mapSession fun t => { t with safe := x })
  speech : ∀ {s} text, J s → (typed → text.plain) →
    J (s.mapScene fun scene => { scene with speech := text })
  flag : ∀ {s} name n, J s → J (s.mapFlags fun f => f.set name n)
  cursor : ∀ {s} (c : Cursor), J s → c.script = s.session.cursor.script → c.Sound →
    J (s.mapCursor fun _ => c)

/-- Nothing but what is asked of every stage. -/
theorem Keeps.nothing : Keeps False fun _ => True where
  likeness := openLikeness fun h _ => h
  switchScript line name conversation ho _ _ := by
    refine (ho.switchScript line name conversation).mono ?_ ?_
    · rintro o s' ⟨hp, ho⟩
      exact ⟨hp, ho, trivial⟩
    · exact fun _ s' ho => ⟨ho, trivial⟩
  beats _ h := h.elim
  disk _ _ := trivial
  dice _ _ := trivial
  timedText _ _ _ _ := trivial
  safe _ _ := trivial
  speech _ _ _ := trivial
  flag _ _ _ := trivial
  cursor _ _ _ _ := trivial

/-! ## Steady engines -/

/-- The parts of an engine fit together. -/
structure Engine.Steady (e : Engine σ) : Prop where
  /-- An effect is there exactly while one is running. -/
  effect : e.effect.isSome ↔ e.mode = .effectRunning
  /-- A menu is there exactly while a choice is awaited. -/
  menu : e.menu.isSome ↔ e.mode = .awaitingChoice
  /-- A menu has options. -/
  options : ∀ options, e.menu = some options → options ≠ []
  /-- A snapshot is set aside exactly while an effect or a menu runs. -/
  safe : e.session.safe.isSome ↔ e.mode = .effectRunning ∨ e.mode = .awaitingChoice
  /-- A line that has to be advanced past is the one at the cursor, and is displayed. -/
  awaiting : e.awaiting → e.mode = .normal ∧ ∃ d, e.cursor.current = some (.dialogue d) ∧
    e.stage.timedText.showing ∧ e.stage.timedText.fullText = d.text
  /-- The cursor stands in a conversation of its script. -/
  cursor : e.cursor.Sound
  /-- The script of the cursor is the one that is played. -/
  script : e.cursor.script = e.script

/-- What is known after a beat. One that starts an effect or shows a menu is a command for it, and
has set aside the session as it was before. -/
structure Engine.AfterBeat (e e' : Engine σ) : Prop where
  goesOn : e'.running → ∃ cmd, e.cursor.current = some (.command cmd)
  effect : e'.mode = .effectRunning → ∃ cmd, e.cursor.current = some (.command cmd) ∧
    Command.Lasts cmd ∧ e'.session.safe = some e.session.live
  menu : e'.mode = .awaitingChoice → ∃ cmd, e.cursor.current = some (.command cmd) ∧
    Command.asks cmd.kind ∧ e'.session.safe = some e.session.live

/-- Plays the beat at the cursor. -/
def Engine.playBeat (c : Collaborators σ) : Play σ Unit := do
  match (← get).cursor.current with
  | none => finish c
  | some (.dialogue d) => display c d.text d.speaker true
  | some (.command cmd) => execute c cmd

/-- The engine is steady and its stage has a property. -/
structure Engine.Fit (J : Stage → Prop) (e : Engine σ) : Prop where
  steady : e.Steady
  stage : J e.stage

namespace Engine

variable {c : Collaborators σ} {w : Watch σ} {e e' : Engine σ} {typed : Prop} {J : Stage → Prop}

theorem Steady.within (h : e.Steady) (x : Surroundings σ) : (e.within x).Steady :=
  ⟨h.effect, h.menu, h.options, h.safe, h.awaiting, h.cursor, h.script⟩

/-- Other surroundings do no harm. -/
theorem Fit.aside (K : Keeps typed J) (h : e.Fit J) {l : List Intent} (ha : Aside w l e e') :
    e'.Fit J := by
  obtain ⟨x, rfl, -⟩ := ha
  exact ⟨h.steady.within x, K.disk _ h.stage⟩

theorem playBeat_of_none (hcur : e.cursor.current = none) :
    (playBeat c).perform e = (finish c).perform e := by
  rw [playBeat, Action.perform_get_bind, hcur]

theorem playBeat_of_dialogue {d : Dialogue} (hcur : e.cursor.current = some (.dialogue d)) :
    (playBeat c).perform e = (display c d.text d.speaker true).perform e := by
  rw [playBeat, Action.perform_get_bind, hcur]

theorem playBeat_of_command {cmd : Script.Command}
    (hcur : e.cursor.current = some (.command cmd)) :
    (playBeat c).perform e = (execute c cmd).perform e := by
  rw [playBeat, Action.perform_get_bind, hcur]

theorem running_iff : e.running ↔ e.mode = .normal ∧ e.awaiting = false := by
  simp [running]

theorem steady_of_open (hmode : e.mode = .normal) (hawaiting : e.awaiting = false)
    (heffect : e.effect = none) (hmenu : e.menu = none) (h : e.stage.Open) : e.Steady where
  effect := by simp [heffect, hmode]
  menu := by simp [hmenu, hmode]
  options := by simp [hmenu]
  safe := by
    have : e.session.safe = none := h.safe
    simp [this, hmode]
  awaiting := by simp [hawaiting]
  cursor := h.cursor
  script := h.script

theorem afterBeat_of_normal (hmode : e'.mode = .normal)
    (hgoes : e'.running → ∃ cmd, e.cursor.current = some (.command cmd)) : AfterBeat e e' where
  goesOn := hgoes
  effect h := by
    rw [hmode] at h
    cases h
  menu h := by
    rw [hmode] at h
    cases h

theorem closed_steady (h : e.cursor.Sound) (hscript : e.cursor.script = e.script) :
    e.closed.Steady where
  effect := by simp [closed]
  menu := by simp [closed]
  options := by simp [closed]
  safe := by simp [closed, session, Stage.mapTimedText, Stage.mapSession, Session.release]
  awaiting := by simp [closed]
  cursor := ⟨h.beats, h.index⟩
  script := hscript

/-- An engine that is ended by an error is fit. -/
theorem closed_fit (K : Keeps typed J) (h : e.cursor.Sound) (hscript : e.cursor.script = e.script)
    (hj : J e.stage) (error : StoryError) :
    ({ e.closed with error := some error } : Engine σ).Fit J := by
  have hs := closed_steady h hscript
  exact ⟨⟨hs.effect, hs.menu, hs.options, hs.safe, hs.awaiting, hs.cursor, hs.script⟩,
    K.timedText _ (K.safe none hj) rfl fun _ => .inl rfl⟩

namespace Steady

theorem effect_eq_none (h : e.Steady) (hmode : e.mode ≠ .effectRunning) : e.effect = none := by
  have := mt h.effect.1 hmode
  simpa using this

theorem menu_eq_none (h : e.Steady) (hmode : e.mode ≠ .awaitingChoice) : e.menu = none := by
  have := mt h.menu.1 hmode
  simpa using this

theorem safe_eq_none (h : e.Steady) (heffect : e.mode ≠ .effectRunning)
    (hmenu : e.mode ≠ .awaitingChoice) : e.session.safe = none := by
  have := mt h.safe.1 (fun hm => hm.elim heffect hmenu)
  simpa using this

theorem isOpen (h : e.Steady) (hr : e.running) : e.stage.Open := by
  obtain ⟨hmode, -⟩ := running_iff.1 hr
  exact ⟨h.cursor, h.safe_eq_none (by simp [hmode]) (by simp [hmode]), h.script⟩

end Steady

/-! ## One beat -/

/-- What a command leaves to do keeps the engine fit. -/
theorem settled_fit (K : Keeps typed J) (h : e.Fit J) (hr : e.running) {cmd : Script.Command}
    (hcmd : e.cursor.current = some (.command cmd)) {o : Outcome} {s' t' : Stage}
    (ho : o.Suits (fun s t => t = s ∧ s.Open ∧ J s) cmd e.stage e.stage s' t') :
    (({ e with stage := s' } : Engine σ).settled o).Fit J ∧
      AfterBeat e (({ e with stage := s' } : Engine σ).settled o) := by
  obtain ⟨hmode, hawaiting⟩ := running_iff.1 hr
  have heffect : e.effect = none := h.steady.effect_eq_none (by simp [hmode])
  have hmenu : e.menu = none := h.steady.menu_eq_none (by simp [hmode])
  have hadvance : s'.Open → J s' → (({ e with stage := s' } : Engine σ).completed).Fit J :=
    fun hs hj => ⟨steady_of_open hmode hawaiting heffect hmenu
      ⟨Likeness.advance_sound hs.cursor, hs.safe, hs.script⟩,
      K.cursor _ hj rfl (Likeness.advance_sound hs.cursor)⟩
  have hnormal : ∀ {e' : Engine σ}, e'.mode = .normal → AfterBeat e e' := fun hm =>
    afterBeat_of_normal hm fun _ => ⟨cmd, hcmd⟩
  cases o with
  | proceed intents => exact ⟨hadvance ho.2.1 ho.2.2, hnormal hmode⟩
  | call args => exact ⟨hadvance ho.2.1 ho.2.2, hnormal hmode⟩
  | stay =>
    exact ⟨⟨steady_of_open hmode hawaiting heffect hmenu ho.2.1, ho.2.2⟩, hnormal hmode⟩
  | hold kind payload =>
    obtain ⟨hlasts, s₁, -, ⟨-, hs₁, hj⟩, rfl, -⟩ := ho
    have hsteady : (({ e with stage := s₁.keeping e.stage.session.live } : Engine σ).settled
        (.hold kind payload)).Steady := by
      refine ⟨?_, ?_, ?_, ?_, ?_, ⟨hs₁.cursor.beats, hs₁.cursor.index⟩, hs₁.script⟩
      · simp [settled, held]
      · simp [settled, held, hmenu]
      · simp [settled, held, hmenu]
      · simp [settled, held, session, Stage.keeping, Stage.mapSession]
      · simp [settled, held, hawaiting]
    refine ⟨⟨hsteady, K.safe _ hj⟩, fun _ => ⟨cmd, hcmd⟩, fun _ => ?_, fun hm => ?_⟩
    · exact ⟨cmd, hcmd, hlasts, rfl⟩
    · cases hm
  | ask options line =>
    obtain ⟨rfl, -, hasks, hline, hoptions⟩ := ho
    have hoffer : (e.offering options).Fit J ∧ AfterBeat e (e.offering options) := by
      refine ⟨⟨⟨?_, ?_, ?_, ?_, ?_, h.steady.cursor, h.steady.script⟩, K.safe _ h.stage⟩,
        fun _ => ⟨cmd, hcmd⟩, fun hm => ?_, fun _ => ?_⟩
      · simp [offering, mapSession, mapStage, heffect]
      · simp [offering, mapSession, mapStage]
      · rintro _ ⟨⟩
        exact hoptions
      · simp [offering, session, mapSession, mapStage, Stage.mapSession, Session.capture]
      · simp [offering, mapSession, mapStage, hawaiting]
      · cases hm
      · exact ⟨cmd, hcmd, hasks, rfl⟩
    obtain ⟨⟨hs, hj⟩, hafter⟩ := hoffer
    have hplain : typed → line.plain := fun ht => (K.beats h.stage ht hcmd).line_plain hasks hline
    -- A line above the menu changes the scene and the backlog only.
    cases line with
    | null => exact ⟨⟨hs, hj⟩, hafter⟩
    | _ => exact ⟨⟨⟨hs.effect, hs.menu, hs.options, hs.safe, hs.awaiting, hs.cursor, hs.script⟩,
        K.speech _ hj hplain⟩, hafter.goesOn, hafter.effect, hafter.menu⟩

/-- What is known when a command has been executed: it has left an outcome, which was settled. -/
def Settles (J : Stage → Prop) (w : Watch σ) (cmd : Script.Command) (e e' : Engine σ) : Prop :=
  ∃ x o s' t' l, o.Suits (fun s t => t = s ∧ s.Open ∧ J s) cmd (e.within x).stage (e.within x).stage
    s' t' ∧ Aside w l (({ e.within x with stage := s' } : Engine σ).settled o) e'

/-- A command that fails has changed nothing but the stage. -/
theorem execute_settles (L : Likeness typed fun s t => t = s ∧ s.Open ∧ J s)
    (hdisk : ∀ {s} d, J s → J { s with disk := d }) (hc : Quiet c w True) (hopen : e.stage.Open)
    (hj : J e.stage) {cmd : Script.Command} (htyped : typed → cmd.Typed)
    (hroll : cmd.kind = .rollDice → ∀ {s} d, J s → J { s with dice := d })
    (hswitch : cmd.kind = .switchScript → ∀ {s} line name conversation, s.Open → J s →
      (typed → name.IsText) → Leads True (Command.switchScript line name conversation) s
        (fun o s' => o.passes ∧ s'.Open ∧ J s') fun _ s' => s'.Open ∧ J s') :
    Leads True (execute c cmd) e (fun _ e' => Settles J w cmd e e')
      fun _ e' => ∃ x s', e' = { e.within x with stage := s' } ∧ s'.Open ∧ J s' := by
  unfold execute
  cases hw : Command.wellFormed cmd with
  | false => exact Leads.get_bind ⟨e.surroundings, e.stage, rfl, hopen, hj⟩
  | true =>
    refine (emit_runs hc _ e).any.bind fun _ e₁ h₁ => ?_
    obtain ⟨x, rfl, -⟩ := h₁
    have hopen₁ : (e.within x).stage.Open := ⟨hopen.cursor, hopen.safe, hopen.script⟩
    have hj₁ : J (e.within x).stage := hdisk x.disk hj
    have hthrow : cmd.kind = .rollDice → ∀ sides throws, Matches (Stage.throwDice sides throws)
        (Stage.throwDice sides throws) (e.within x).stage (e.within x).stage
        (fun v w s' t' => w = v ∧ t' = s' ∧ s'.Open ∧ J s')
        fun _ s' t' => t' = s' ∧ s'.Open ∧ J s' :=
      fun hkind sides throws => Matches.attempt_same rfl fun _ d _ =>
        ⟨rfl, rfl, ⟨hopen.cursor, hopen.safe, hopen.script⟩, hroll hkind d hj₁⟩
    have hperform := L.perform ⟨rfl, hopen₁, hj₁⟩ hw htyped hthrow
      fun hkind line name conversation hname => by
        refine (Matches.diagonal (hswitch hkind line name conversation hopen₁ hj₁ hname)).mono ?_ ?_
        · rintro o _ s' _ ⟨rfl, rfl, hp, ho, hj⟩
          exact ⟨rfl, hp, rfl, ho, hj⟩
        · exact fun _ _ _ h => h
    refine Leads.bind (P := fun o e₂ => ∃ s' t', e₂ = { e.within x with stage := s' } ∧
      o.Suits (fun s t => t = s ∧ s.Open ∧ J s) cmd (e.within x).stage (e.within x).stage s' t')
      (Leads.onPart (Leads.mono hperform ?_ ?_)) ?_
    · rintro o s' ⟨_, t', -, rfl, hsuits⟩
      exact ⟨s', t', rfl, hsuits⟩
    · rintro error s' ⟨t', -, -, hopen', hj'⟩
      exact ⟨x, s', rfl, hopen', hj'⟩
    · rintro o _ ⟨s', t', rfl, hsuits⟩
      refine Leads.mono (settle_runs hc _ _) ?_ fun _ _ h => h.elim
      exact fun _ e₂ h₂ => ⟨x, o, s', t', _, hsuits, h₂⟩

theorem execute_leads (K : Keeps typed J) (hc : Quiet c w True) (h : e.Fit J) (hr : e.running)
    {cmd : Script.Command} (hcmd : e.cursor.current = some (.command cmd)) :
    Leads True (execute c cmd) e (fun _ e' => e'.Fit J ∧ AfterBeat e e')
      fun _ e' => e'.Fit J ∧ e'.mode = .normal := by
  obtain ⟨hmode, hawaiting⟩ := running_iff.1 hr
  refine Leads.mono (execute_settles K.likeness K.disk hc (h.steady.isOpen hr) h.stage
    (fun ht => K.beats h.stage ht hcmd) (fun _ => K.dice) fun _ => K.switchScript) ?_ ?_
  · rintro _ e' ⟨x, o, s', t', l, hsuits, ha⟩
    have hr₁ : (e.within x).running := hr
    have hfit : (e.within x).Fit J := ⟨h.steady.within x, K.disk _ h.stage⟩
    obtain ⟨hsettled, hafter⟩ := settled_fit K hfit hr₁ hcmd hsuits
    refine ⟨hsettled.aside K ha, ?_⟩
    obtain ⟨y, rfl, -⟩ := ha
    exact ⟨hafter.goesOn, hafter.effect, hafter.menu⟩
  · rintro _ _ ⟨x, s', rfl, hopen, hj⟩
    refine ⟨⟨steady_of_open hmode hawaiting ?_ ?_ hopen, hj⟩, hmode⟩
    · exact h.steady.effect_eq_none (by simp [hmode])
    · exact h.steady.menu_eq_none (by simp [hmode])

/-- A command that neither throws dice nor asks the library leaves the script as it was. -/
theorem execute_roots (hc : Quiet c w True) (hopen : e.stage.Open) {cmd : Script.Command}
    (hkind : Command.Settled cmd.kind) :
    Leads True (execute c cmd) e (fun _ e' => e.stage.SameRoots e'.stage ∧ e'.strict = e.strict)
      fun _ _ => True := by
  have hL : Likeness False fun s t => t = s ∧ s.Open ∧ e.stage.SameRoots s :=
    openLikeness fun h h' => h.trans h'
  refine Leads.mono (execute_settles hL (fun _ h => ⟨h.config, h.script, h.cursorScript,
    h.scriptName, h.library, h.frameRate⟩) hc hopen ⟨rfl, rfl, rfl, rfl, rfl, rfl⟩
    False.elim (fun h => absurd h hkind.roll) fun h => absurd h hkind.switch) ?_
    fun _ _ _ => trivial
  rintro _ e' ⟨x, o, s', t', l, hsuits, y, rfl, -⟩
  cases o with
  | proceed | call | stay =>
    obtain ⟨-, -, h⟩ := hsuits
    exact ⟨⟨h.config, h.script, h.cursorScript, h.scriptName, h.library, h.frameRate⟩, rfl⟩
  | hold =>
    obtain ⟨-, s₁, -, ⟨-, -, h⟩, rfl, -⟩ := hsuits
    exact ⟨⟨h.config, h.script, h.cursorScript, h.scriptName, h.library, h.frameRate⟩, rfl⟩
  | ask options line =>
    obtain ⟨rfl, -⟩ := hsuits
    cases line <;> exact ⟨⟨rfl, rfl, rfl, rfl, rfl, rfl⟩, rfl⟩

/-- A beat keeps an engine fit. -/
theorem playBeat_leads (K : Keeps typed J) (hc : Quiet c w True) (h : e.Fit J)
    (hr : e.running) :
    Leads True (playBeat c) e (fun _ e' => e'.Fit J ∧ AfterBeat e e')
      fun _ e' => e'.Fit J ∧ e'.mode = .normal := by
  obtain ⟨hmode, hawaiting⟩ := running_iff.1 hr
  unfold playBeat
  refine Leads.get_bind ?_
  split
  · refine Leads.mono (finish_runs hc (by simp [hmode])) ?_ fun _ _ h => h.elim
    intro _ e' h'
    have hclosed : e.closed.Fit J :=
      ⟨closed_steady h.steady.cursor h.steady.script,
        K.timedText _ (K.safe none h.stage) rfl fun _ => .inl rfl⟩
    refine ⟨hclosed.aside K h', ?_⟩
    obtain ⟨x, rfl, -⟩ := h'
    refine ⟨fun hr' => ?_, fun hm => ?_, fun hm => ?_⟩
    · cases (running_iff.1 hr').1
    · cases hm
    · cases hm
  · next d hd =>
    refine Leads.mono (display_waits hc (.inl trivial) d.speaker e) ?_ fun _ _ h => h.elim
    rintro _ e' ⟨t, visible, ht, h'⟩
    have htext : typed → d.text.IsText := fun htyped => K.beats h.stage htyped hd
    have hplain : typed → d.text.plain := fun htyped => by
      obtain ⟨s, hs⟩ := htext htyped
      simp [hs]
    have hs := h.steady
    have hwaits : ((e.spoken d.text d.speaker).waiting t).Fit J :=
      ⟨⟨hs.effect, hs.menu, hs.options, hs.safe, fun _ => ⟨hmode, d, hd, ht.showing, ht.fullText⟩,
        hs.cursor, hs.script⟩, K.timedText _ (K.speech _ h.stage hplain) ht.frameRate
        fun htyped => .inr (by
          rw [ht.fullText]
          exact htext htyped)⟩
    refine ⟨hwaits.aside K h', ?_⟩
    obtain ⟨x, rfl, -⟩ := h'
    refine afterBeat_of_normal hmode fun hr' => ?_
    cases (running_iff.1 hr').2
  · next cmd hcmd => exact execute_leads K hc h hr hcmd

/-! ## A step -/

/-- The second engine comes from the first by playing beats. -/
inductive Plays (c : Collaborators σ) : Engine σ → Engine σ → Prop where
  | refl (e : Engine σ) : Plays c e e
  | beat {e e₁ e₂ : Engine σ} : Plays c e e₁ → e₁.running →
    (playBeat c).perform e₁ = (.ok (), e₂) → Plays c e e₂

/-- The third engine comes from the first by playing beats, of which the last is played at the
second. -/
structure PlaysLast (c : Collaborators σ) (J : Stage → Prop) (e e₀ e' : Engine σ) : Prop where
  plays : Plays c e e₀
  fit : e₀.Fit J
  running : e₀.running
  perform : (playBeat c).perform e₀ = (.ok (), e')
  after : AfterBeat e₀ e'

/-- Playing beats ends in a steady engine that is not free to play another. The turns do not run
out, since every beat but the last takes from the budget. -/
theorem playBeats_leads (K : Keeps typed J) (hc : Quiet c w True) {turns budget : Nat}
    {start e : Engine σ} (hstart : Plays c start e)
    (hlast : e = start ∨ ∃ e₀, PlaysLast c J start e₀ e) (h : e.Fit J)
    (hturns : e.running → budget < turns) :
    Leads True (playBeats c turns budget) e
      (fun _ e' => e'.Fit J ∧ e'.running = false ∧
        (e' = start ∨ ∃ e₀, PlaysLast c J start e₀ e'))
      fun _ e' => e'.Fit J ∧ e'.mode = .normal := by
  induction turns generalizing budget e with
  | zero =>
    refine ⟨h, ?_, hlast⟩
    cases hr : e.running with
    | false => rfl
    | true => exact absurd (hturns hr) (Nat.not_lt_zero _)
  | succ turns ih =>
    unfold playBeats
    refine Leads.get_bind ?_
    cases hr : e.running with
    | false => exact ⟨h, hr, hlast⟩
    | true =>
      have hbudget := hturns hr
      have hbeat : Leads True (playBeat c) e
          (fun _ e' => e'.Fit J ∧ Plays c start e' ∧ PlaysLast c J start e e')
          fun _ e' => e'.Fit J ∧ e'.mode = .normal := by
        refine Leads.mono (Ends.recorded (playBeat_leads K hc h hr)) ?_ fun _ _ h => h
        rintro ⟨⟩ e' ⟨⟨hs, hb⟩, hrun⟩
        exact ⟨hs, hstart.beat hr hrun, hstart, h, hr, hrun, hb⟩
      have hstops : ∀ {e'}, (∀ cmd, e.cursor.current ≠ some (.command cmd)) →
          PlaysLast c J start e e' → e'.running = false := by
        intro e' hcur hlast'
        cases hr' : e'.running with
        | false => rfl
        | true =>
          obtain ⟨cmd, hcmd⟩ := hlast'.after.goesOn hr'
          exact absurd hcmd (hcur cmd)
      cases hcur : e.cursor.current with
      | none =>
        refine Ends.mono (.of_perform_eq (playBeat_of_none hcur).symm hbeat) ?_ fun _ _ h => h
        rintro _ e' ⟨hs, hplays, hlast'⟩
        exact ⟨hs, hstops (by simp [hcur]) hlast', .inr ⟨e, hlast'⟩⟩
      | some beat =>
        cases beat with
        | dialogue d =>
          refine Leads.bind (.of_perform_eq (playBeat_of_dialogue hcur).symm hbeat) ?_
          rintro _ e' ⟨hs, hplays, hlast'⟩
          refine ih hplays (.inr ⟨e, hlast'⟩) hs fun hr' => ?_
          rw [hstops (by simp [hcur]) hlast'] at hr'
          cases hr'
        | command cmd =>
          cases budget with
          | zero => exact ⟨h, (running_iff.1 hr).1⟩
          | succ budget =>
            refine Leads.bind (.of_perform_eq (playBeat_of_command hcur).symm hbeat) ?_
            rintro _ e' ⟨hs, hplays, hlast'⟩
            exact ih hplays (.inr ⟨e, hlast'⟩) hs fun _ => by omega

theorem orFail_leads {act : Play σ Unit} {P : Engine σ → Prop} {F : StoryError → Engine σ → Prop}
    (h : Leads True act e (fun _ e' => P e') F)
    (hfail : ∀ error e', F error e' → Leads True (fail c error) e' (fun _ e'' => P e'')
      fun _ e'' => P e'') :
    Leads True (orFail c act) e (fun _ e' => P e') fun _ e' => P e' := by
  unfold orFail
  refine Ends.bind_iff.2 (Ends.outcome_iff.2 (Ends.mono h ?_ ?_))
  · rintro ⟨⟩ e' hp
    exact hp
  · rintro (error | m) e' hf
    · exact hfail error e' hf
    · trivial

/-- The engine is fit, and it waits for somebody or has ended. -/
structure AtRest (J : Stage → Prop) (e : Engine σ) : Prop where
  fit : e.Fit J
  running : e.running = false
  stepping : e.stepping = false

/-- What is known of the second engine when a step of the first has ended: it is at rest, and if it
has not ended and is not the first one, a beat has brought it there. -/
structure Rested (c : Collaborators σ) (J : Stage → Prop) (e e' : Engine σ) : Prop where
  rest : e'.AtRest J
  last : e'.mode = .ended ∨ e' = e ∨ ∃ e₀ e₁, PlaysLast c J { e with stepping := true } e₀ e₁ ∧
    e' = { e₁ with stepping := false }

theorem Fit.withStepping (h : e.Fit J) (b : Bool) : ({ e with stepping := b } : Engine σ).Fit J :=
  have hs := h.steady
  ⟨⟨hs.effect, hs.menu, hs.options, hs.safe, hs.awaiting, hs.cursor, hs.script⟩, h.stage⟩

theorem step_leads (K : Keeps typed J) (hc : Quiet c w True) (h : e.Fit J)
    (hstepping : e.stepping = false) :
    Leads True (step c) e (fun _ e' => Rested c J e e') fun _ e' => Rested c J e e' := by
  unfold step
  refine Leads.get_bind ?_
  cases hr : e.running with
  | false => exact Leads.get_bind ⟨⟨h, hr, hstepping⟩, .inr (.inl rfl)⟩
  | true =>
    rw [hstepping]
    refine Leads.modify_bind ?_
    have hbeats : Leads True (playBeats c turnsPerStep commandBudget) { e with stepping := true }
        (fun _ e' => Rested c J e { e' with stepping := false })
        fun _ e' => e'.Fit J ∧ e'.mode = .normal := by
      refine Leads.mono (playBeats_leads K hc (.refl _) (.inl rfl) (h.withStepping true)
        fun _ => by decide) ?_ fun _ _ h => h
      rintro _ e' ⟨hs, hr', hlast⟩
      refine ⟨⟨hs.withStepping false, hr', rfl⟩, ?_⟩
      rcases hlast with rfl | ⟨e₀, hlast⟩
      · have hnot : e.running = false := hr'
        rw [hr] at hnot
        cases hnot
      · exact .inr (.inr ⟨e₀, e', hlast, rfl⟩)
    have hplay := orFail_leads (c := c) hbeats (by
      rintro error e' ⟨hs, hmode⟩
      refine Leads.mono (fail_leads hc (by simp [hmode]) error) ?_ ?_
      all_goals
        intro _ e'' h''
        have hfit := (closed_fit K hs.steady.cursor hs.steady.script hs.stage error).aside K h''.1
        obtain ⟨x, rfl, -⟩ := h''.1
        exact ⟨⟨hfit.withStepping false, rfl, rfl⟩, .inl rfl⟩)
    refine Ends.bind_iff.2 (Ends.outcome_iff.2 (Ends.mono hplay ?_ ?_))
    · rintro _ e' hrested
      exact Leads.modify_bind (Leads.get_bind hrested)
    · rintro (error | m) e' hrested
      · exact hrested
      · trivial

end Engine

end VisualNovel
