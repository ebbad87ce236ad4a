import VisualNovel.Proofs.Failures
import VisualNovel.Proofs.Replay

/-!
# What is saved can be found again

A session is *retrievable* if nothing of it would be lost by a save, and its script is the main
script or one that the library gives out by the name of the session. Whatever happens on a stage,
its session stays retrievable, and so does the snapshot that is set aside: commands keep that,
however they end (`Command.perform_kept`), and so does the restore of a snapshot that could have
been saved (`Stage.Kept.adopting`).

`Stage.Retrievable.scriptOf` says that the script of a retrievable session is found by its name,
also if the stage plays another script by then.
-/

namespace VisualNovel

open Script

namespace Stage

variable {main : Script} {s s' : Stage} {x : Session}

/-- The stage if it played a session. -/
def playing (x : Session) (s : Stage) : Stage :=
  { s with script := x.cursor.script, session := x }

/-- A session of which a save would lose nothing, and whose script can be found by its name. -/
structure Retrievable (main : Script) (s : Stage) (x : Session) : Prop where
  storable : x.live.Storable
  sound : x.cursor.Sound
  played : (s.playing x).Played main

/-- The session is retrievable, and so is the one that is set aside. Scripts and settings are such
that it stays so. -/
structure Kept (main : Script) (s : Stage) : Prop where
  config : s.config.toValue.plain
  script : s.script.Typed
  inStep : s.session.cursor.script = s.script
  library : ∀ l, s.library = some l → l.Typed
  live : s.Retrievable main s.session
  safe : ∀ t, s.session.safe = some t → ∃ x : Session, x.live = t ∧ s.Retrievable main x

/-- What the library remembers is all that counts. -/
theorem Retrievable.retained (h : s.Retrievable main x) (hr : s.Remembers s') :
    s'.Retrievable main x := by
  refine ⟨h.storable, h.sound, ?_⟩
  cases h.played with
  | main hscript hnamed => exact .main hscript hnamed
  | @found l n hl hfound hnamed =>
    obtain ⟨l', hl', hfound'⟩ := hr l _ _ hl hfound
    exact .found hl' hfound' hnamed

namespace Kept

/-- The script that is played is one that can be found. -/
theorem played (h : s.Kept main) : s.Played main :=
  h.live.played.congr h.inStep.symm rfl rfl

theorem of_retains (hr : s.Retains s') (h : s.Kept main) (hscript : s'.script.Typed)
    (hstep : s'.session.cursor.script = s'.script) (hlive : s'.Retrievable main s'.session)
    (hsafe : ∀ t, s'.session.safe = some t → ∃ x : Session, x.live = t ∧ s'.Retrievable main x) :
    s'.Kept main :=
  ⟨by rw [hr.config]; exact h.config, hscript, hstep, hr.typed h.library, hlive, hsafe⟩

/-- What is set aside stays retrievable. -/
theorem safe_retained (h : s.Kept main) (hr : s.Remembers s')
    (hsafe : s'.session.safe = s.session.safe) :
    ∀ t, s'.session.safe = some t → ∃ x : Session, x.live = t ∧ s'.Retrievable main x := by
  intro t ht
  rw [hsafe] at ht
  obtain ⟨x, hx, hretrievable⟩ := h.safe t ht
  exact ⟨x, hx, hretrievable.retained hr⟩

/-- An edit that leaves the script and its name alone. -/
theorem edit (h : s.Kept main) (hr : s.Retains s') (hscript : s'.script = s.script)
    (hcursor : s'.session.cursor.script = s.session.cursor.script)
    (hname : s'.session.scriptName = s.session.scriptName) (hlive : s'.session.live.Storable)
    (hsound : s'.session.cursor.Sound) (hsafe : s'.session.safe = s.session.safe) :
    s'.Kept main := by
  have hsession : s'.Retrievable main s.session := h.live.retained hr.remembers
  refine .of_retains hr h (by rw [hscript]; exact h.script) ?_ ⟨hlive, hsound, ?_⟩
    (h.safe_retained hr.remembers hsafe)
  · rw [hcursor, hscript]
    exact h.inStep
  · exact hsession.played.congr hcursor hname rfl

/-- An edit that leaves the session alone. -/
theorem unmoved (h : s.Kept main) (hu : s.Unmoved s') : s'.Kept main := by
  have hsame := hu.session
  refine h.edit hu.retains hu.script ?_ ?_ ?_ ?_ ?_
  · rw [hsame]
  · rw [hsame]
  · rw [hsame]
    exact h.live.storable
  · rw [hsame]
    exact h.live.sound
  · rw [hsame]

theorem disk (h : s.Kept main) (d : Disk) : ({ s with disk := d } : Stage).Kept main :=
  ⟨h.config, h.script, h.inStep, h.library, h.live.retained (.of_same rfl),
    h.safe_retained (.of_same rfl) rfl⟩

theorem timed (h : s.Kept main) (t : TimedText) : ({ s with timedText := t } : Stage).Kept main :=
  h.edit (.of_same rfl rfl rfl) rfl rfl rfl h.live.storable h.live.sound rfl

/-- The scene gets another value that a save would not lose. -/
theorem scene (h : s.Kept main) {scene : Scene} (hscene : scene.Storable) :
    (s.mapScene fun _ => scene).Kept main := by
  have hlive := h.live.storable
  exact h.edit (.of_same rfl rfl rfl) rfl rfl rfl
    ⟨hlive.flags, hlive.overrides, hscene, hlive.choiceSets⟩ h.live.sound rfl

theorem overrides (h : s.Kept main) {o : Overrides} (ho : o.toValue.plain) :
    (s.mapOverrides fun _ => o).Kept main := by
  have hlive := h.live.storable
  exact h.edit (.of_same rfl rfl rfl) rfl rfl rfl ⟨hlive.flags, ho, hlive.scene, hlive.choiceSets⟩
    h.live.sound rfl

theorem flag (h : s.Kept main) (name : String) (n : Int) :
    (s.mapFlags fun f => f.set name n).Kept main := by
  have hlive := h.live.storable
  have hflags : Flags.Storable (s.session.flags.set name n) := hlive.flags.put name n
  exact h.edit (.of_same rfl rfl rfl) rfl rfl rfl
    ⟨hflags, hlive.overrides, hlive.scene, hlive.choiceSets⟩ h.live.sound rfl

theorem choiceSets (h : s.Kept main) {sets : ChoiceSets} (hsets : ChoiceSets.Storable sets) :
    (s.mapSession fun x => { x with choiceSets := sets }).Kept main := by
  have hlive := h.live.storable
  exact h.edit (.of_same rfl rfl rfl) rfl rfl rfl
    ⟨hlive.flags, hlive.overrides, hlive.scene, hsets⟩ h.live.sound rfl

theorem cursor (h : s.Kept main) {cursor : Cursor}
    (hscript : cursor.script = s.session.cursor.script)
    (hsound : cursor.Sound) : (s.mapCursor fun _ => cursor).Kept main := by
  have hlive := h.live.storable
  exact h.edit (.of_same rfl rfl rfl) rfl hscript rfl
    ⟨hlive.flags, hlive.overrides, hlive.scene, hlive.choiceSets⟩ hsound rfl

theorem release (h : s.Kept main) : (s.mapSession Session.release).Kept main := by
  have hr : s.Retains (s.mapSession Session.release) := .of_same rfl rfl rfl
  refine of_retains hr h h.script h.inStep
    ⟨h.live.storable, h.live.sound, h.live.played.congr rfl rfl rfl⟩ ?_
  rintro t ⟨⟩

/-- What was the session is set aside, on a stage that remembers what that one did. -/
theorem keeping (h : s.Kept main) (hx : s.Retrievable main x) : (s.keeping x.live).Kept main := by
  have hr : s.Retains (s.keeping x.live) := .of_same rfl rfl rfl
  refine of_retains hr h h.script h.inStep
    ⟨h.live.storable, h.live.sound, h.live.played.congr rfl rfl rfl⟩ ?_
  rintro _ ⟨⟩
  exact ⟨x, rfl, hx.retained (.of_same rfl)⟩

/-- The beats of the conversation that is played are typed. -/
theorem beat_typed (h : s.Kept main) {beat : Beat} (hbeat : s.session.cursor.current = some beat) :
    beat.Typed :=
  h.live.sound.beat_typed (h.inStep ▸ h.script) hbeat

end Kept

/-! ## Commands -/

/-- The stage is kept, and nothing has been forgotten since it was the first one. -/
structure KeptSince (main : Script) (s₀ s : Stage) : Prop where
  kept : s.Kept main
  retains : s₀.Retains s

namespace KeptSince

variable {s₀ : Stage}

theorem edit (h : KeptSince main s₀ s) (hkept : s'.Kept main) (hr : s.Retains s') :
    KeptSince main s₀ s' :=
  ⟨hkept, trans_of Retains h.retains hr⟩

theorem unmoved (h : KeptSince main s₀ s) (hu : s.Unmoved s') : KeptSince main s₀ s' :=
  h.edit (h.kept.unmoved hu) hu.retains

theorem timed (h : KeptSince main s₀ s) (t : TimedText) :
    KeptSince main s₀ { s with timedText := t } :=
  h.edit (h.kept.timed t) (.of_same rfl rfl rfl)

theorem keeping (h : KeptSince main s₀ s) (hx : s₀.Retrievable main x) :
    KeptSince main s₀ (s.keeping x.live) :=
  h.edit (h.kept.keeping (hx.retained h.retains.remembers)) (.of_same rfl rfl rfl)

/-- Settings that time cinematic text. -/
theorem cinematic (h : KeptSince main s₀ s) {seconds allowed v : Value} (hseconds : seconds.plain)
    (hallowed : allowed.plain) (hv : Value.largest (.float 0.0) seconds = .ok v) (on : Bool) :
    KeptSince main s₀ (s.mapOverrides fun o =>
      { o with cinematicSeconds := v, cinematicInputAllowed := allowed
               typewriterRate := if on then .int 0 else o.typewriterRate }) := by
  have hplain := Value.plain_largest (Value.plain_float 0.0) hseconds hv
  exact h.edit
    (h.kept.overrides (Overrides.plain_cinematic h.kept.live.storable.overrides hplain hallowed on))
    (.of_same rfl rfl rfl)

/-- Settings that time typewriter text. -/
theorem typewriter (h : KeptSince main s₀ s) {rate canSkip v : Value} (hrate : rate.plain)
    (hskip : canSkip.plain) (hv : Value.largest (.int 0) rate = .ok v) (on : Bool) :
    KeptSince main s₀ (s.mapOverrides fun o =>
      { o with typewriterRate := v, typewriterCanSkip := canSkip
               cinematicSeconds := if on then .float 0.0 else o.cinematicSeconds }) := by
  have hplain := Value.plain_largest (Value.plain_int 0) hrate hv
  exact h.edit
    (h.kept.overrides (Overrides.plain_typewriter h.kept.live.storable.overrides hplain hskip on))
    (.of_same rfl rfl rfl)

/-- A stage of this kind is alike to itself. -/
theorem likeness : Likeness True fun s t => t = s ∧ KeptSince main s₀ s where
  config := fun ⟨h, _⟩ => by rw [h]
  cursor := fun ⟨h, _⟩ => by rw [h]
  flags := fun ⟨h, _⟩ => by rw [h]
  scene := fun ⟨h, _⟩ => by rw [h]
  overrides := fun ⟨h, _⟩ => by rw [h]
  choiceSets := fun ⟨h, _⟩ => by rw [h]
  storable := fun ⟨_, h⟩ _ => ⟨h.kept.config, h.kept.live.storable⟩
  note := fun _ _ ⟨h, hk⟩ => ⟨by rw [h], hk.edit (hk.kept.disk _) (.of_same rfl rfl rfl)⟩
  setScene := fun _ ⟨h, hk⟩ hscene =>
    ⟨by rw [h], hk.edit (hk.kept.scene (hscene trivial)) (.of_same rfl rfl rfl)⟩
  setFlag := fun name n ⟨h, hk⟩ => ⟨by rw [h], hk.edit (hk.kept.flag name n) (.of_same rfl rfl rfl)⟩
  setOverrides := fun _ ⟨h, hk⟩ ho _ =>
    ⟨by rw [h], hk.edit (hk.kept.overrides (ho trivial)) (.of_same rfl rfl rfl)⟩
  setChoiceSets := fun _ ⟨h, hk⟩ hsets =>
    ⟨by rw [h], hk.edit (hk.kept.choiceSets (hsets trivial)) (.of_same rfl rfl rfl)⟩
  setCursor := fun _ ⟨h, hk⟩ hscript hsound =>
    ⟨by rw [h], hk.edit (hk.kept.cursor hscript (hsound hk.kept.live.sound)) (.of_same rfl rfl rfl)⟩
  setCinematicText := by
    rintro s _ seconds inputAllowed ⟨rfl, h⟩ hplain
    refine Likeness.reads_ofMishap.bind fun v hv => Likeness.reads_ofMishap.bind fun on _ => ?_
    have hset := h.cinematic (hplain trivial).1 (hplain trivial).2 hv on
    refine Matches.modify_bind_iff.2 (Matches.bind (P := fun _ _ s' t' => t' = s' ∧
      KeptSince main s₀ s') (Matches.attempt_same rfl fun _ t _ => ⟨rfl, hset.timed t⟩) ?_)
    rintro _ _ s' _ ⟨rfl, h'⟩
    exact Matches.pure_iff.2 ⟨rfl, rfl, rfl, h'⟩
  setTypewriterText := by
    rintro s _ rate canSkip ⟨rfl, h⟩ hplain
    refine Likeness.reads_ofMishap.bind fun v hv => Likeness.reads_ofMishap.bind fun on _ => ?_
    have hset := h.typewriter (hplain trivial).1 (hplain trivial).2 hv on
    refine Matches.modify_bind_iff.2 (Matches.bind (P := fun _ _ s' t' => t' = s' ∧
      KeptSince main s₀ s') (Matches.attempt_same rfl fun _ t _ => ⟨rfl, hset.timed t⟩) ?_)
    rintro _ _ s' _ ⟨rfl, h'⟩
    exact Matches.pure_iff.2 ⟨rfl, rfl, rfl, h'⟩

end KeptSince

/-! ## Scripts from the library -/

theorem fetchScript_finds {missing : StoryError} {name : Value}
    (hlibrary : ∀ l, s.library = some l → l.Typed) :
    Ends (fetchScript missing name) s
      (fun script s' => s.Unmoved s' ∧ script.Typed ∧ ∃ l, s.library = some l ∧
        (l.get s.disk.files name).1 = .ok script ∧ s'.library = some (l.get s.disk.files name).2)
      fun _ s' => s.Unmoved s' := by
  have htracks : Tracks Unmoved (fetchScript missing name) := fetchScript_unmoved
  have hunmoved := Tracks.iff_ends.1 htracks s
  unfold fetchScript at hunmoved ⊢
  rw [Ends.bind_iff, Ends.get_iff] at hunmoved ⊢
  cases hl : s.library with
  | none =>
    rw [hl] at hunmoved
    exact hunmoved
  | some l =>
    rw [hl] at hunmoved
    have hfound := Ends.ofExcept_iff.1 hunmoved
    refine Ends.ofExcept_iff.2 ⟨fun script hscript => ?_, hfound.2⟩
    exact ⟨hfound.1 _ hscript, (Library.get_typed (hlibrary l hl)).2 _ hscript, l, rfl,
      hscript, rfl⟩

/-- The session of a script that was fetched by a name. -/
theorem Kept.fetched (h : s.Kept main) {n : String} {l : Library} {cursor : Cursor}
    (hlibrary : s.library = some l)
    (hfound : Table.get? (.text n) l.compiled = some cursor.script) (htyped : cursor.script.Typed)
    (hsound : cursor.Sound) :
    ((s.enter cursor.script cursor).mapSession fun x => { x with
      scriptName := cursor.script.name.orElse (.text n), choiceSets := [] }).Kept main := by
  have hlive := h.live.storable
  have hr : s.Retains ((s.enter cursor.script cursor).mapSession fun x => { x with
      scriptName := cursor.script.name.orElse (.text n), choiceSets := [] }) :=
    .of_same rfl rfl rfl
  refine of_retains hr h htyped rfl ⟨?_, hsound, ?_⟩ (h.safe_retained hr.remembers rfl)
  · exact ⟨hlive.flags, hlive.overrides, hlive.scene, ChoiceSets.storable_nil⟩
  · exact .fetched hlibrary hfound rfl

theorem KeptSince.switchScript {s₀ : Stage} (h : KeptSince main s₀ s) (line : Value) {name : Value}
    (hname : name.IsText) (conversation : Value) :
    Leads True (Command.switchScript line name conversation) s
      (fun o s' => o.passes ∧ KeptSince main s₀ s') fun _ s' => KeptSince main s₀ s' := by
  obtain ⟨n, rfl⟩ := hname
  refine Leads.bind ((fetchScript_finds h.kept.library).mono (fun _ _ h' => h') ?_) ?_
  · rintro (error | m) s' hu
    · exact h.unmoved hu
    · trivial
  rintro script s₁ ⟨hu, htyped, l, -, hget, hl⟩
  have h₁ := h.unmoved hu
  have hfound := Library.get_remembers hget
  refine Ends.bind_iff.2 (Ends.ofExcept_iff.2 ⟨fun conversation _ => ?_, ?_⟩)
  · refine Ends.bind_iff.2 (Ends.ofStory_iff.2 ⟨fun cursor hcursor => ?_, fun _ _ => h₁⟩)
    obtain ⟨rfl, hsound⟩ := Cursor.rebind_sound hcursor
    have hfetched := h₁.kept.fetched hl hfound htyped hsound
    exact Leads.modify_bind (Leads.modify_bind (Leads.modify_bind
      ⟨rfl, h₁.edit (hfetched.disk _) (.of_same rfl rfl rfl)⟩))
  · rintro (error | m) _
    · exact h₁
    · trivial

/-- What a command leaves the engine to say above a menu is plain. -/
def KeptWith (main : Script) (s₀ : Stage) (o : Outcome) (s : Stage) : Prop :=
  KeptSince main s₀ s ∧ ∀ options line, o = .ask options line → line.plain

end Stage

/-! ## Commands -/

namespace Command

variable {main : Script} {s : Stage} {cmd : Script.Command}

/-- A command that is not stopped by a mishap. -/
theorem perform_keptWith (h : s.Kept main) (hw : Command.wellFormed cmd) (htyped : cmd.Typed) :
    Leads True (perform cmd) s (fun o s' => s.KeptWith main o s')
      fun _ s' => Stage.KeptSince main s s' := by
  have hsince : Stage.KeptSince main s s := ⟨h, refl_of Stage.Retains s⟩
  have hperform := Stage.KeptSince.likeness.perform ⟨rfl, hsince⟩ hw
    (fun _ => htyped) ?_ ?_
  · refine Leads.mono hperform ?_ ?_
    · rintro o s' ⟨o', t', -, rfl, hsuits⟩
      cases o' with
      | hold kind payload =>
        obtain ⟨-, s₁, _, ⟨-, h₁⟩, rfl, -⟩ := hsuits
        exact ⟨h₁.keeping h.live, fun _ _ ho => nomatch ho⟩
      | ask options line =>
        obtain ⟨rfl, -, hasks, hline, -⟩ := hsuits
        refine ⟨hsince, ?_⟩
        rintro _ _ ⟨⟩
        exact htyped.line_plain hasks hline
      | _ => exact ⟨hsuits.2, fun _ _ ho => nomatch ho⟩
    · rintro error s' ⟨t', -, -, h'⟩
      exact h'
  · intro _ sides throws
    exact Matches.attempt_same rfl fun _ d _ =>
      ⟨rfl, rfl, hsince.unmoved ⟨rfl, rfl, .of_same rfl rfl rfl⟩⟩
  · intro _ line name conversation hname
    refine (Matches.diagonal (hsince.switchScript line (hname trivial) conversation)).mono ?_ ?_
    · rintro o _ s' _ ⟨rfl, rfl, hp, h'⟩
      exact ⟨rfl, hp, rfl, h'⟩
    · exact fun _ _ _ h' => h'

/-- An attempt at the scene that may be given up half-way. -/
theorem attempt_scene_kept {s₀ : Stage} (h : Stage.KeptSince main s₀ s) {act : Attempt Scene Unit}
    (hact : s.session.scene.Storable →
      Ends act s.session.scene (fun _ scene => scene.Storable) fun _ scene => scene.Storable) :
    Ends (Action.attempt Stage.scenePlace act) s (fun _ s' => Stage.KeptSince main s₀ s')
      fun _ s' => Stage.KeptSince main s₀ s' := by
  refine Ends.attempt_iff.2 ((hact h.kept.live.storable.scene).mono ?_ ?_)
  · exact fun _ scene hscene => h.edit (h.kept.scene hscene) (.of_same rfl rfl rfl)
  · exact fun _ scene hscene => h.edit (h.kept.scene hscene) (.of_same rfl rfl rfl)

theorem retime_kept {s₀ : Stage} (h : Stage.KeptSince main s₀ s) {act : Attempt TimedText Unit} :
    Ends (Stage.retime act) s (fun _ s' => Stage.KeptSince main s₀ s')
      fun _ s' => Stage.KeptSince main s₀ s' :=
  Ends.attempt_iff.2 (Ends.iff_attempted.2 ⟨fun _ t _ => h.timed t, fun _ t _ => h.timed t⟩)

/-- What a command that may fail half-way has done by then. -/
theorem perform_wavers_kept (h : s.Kept main) (hkind : Wavers cmd.kind) (htyped : cmd.Typed) :
    Ends (perform cmd) s (fun _ _ => True) fun _ s' => Stage.KeptSince main s s' := by
  have hsince : Stage.KeptSince main s s := ⟨h, refl_of Stage.Retains s⟩
  cases cmd using shapes with
  | moveBackground =>
    have hdrag {s₁ : Stage} (h₁ : Stage.KeptSince main s s₁) :=
      attempt_scene_kept h₁ fun hscene => Scene.drag_storable hscene
        (htyped.plain 0 rfl rfl) (htyped.plain 1 rfl rfl) (htyped.plain 3 rfl rfl)
    refine Ends.bind_iff.2 (Ends.ofMishap_iff.2 ⟨fun lasts _ => ?_, fun _ _ => hsince⟩)
    cases lasts with
    | true =>
      refine Ends.bind_iff.2 (Ends.modify_iff.2 (Ends.bind_iff.2 ?_))
      exact (hdrag (hsince.keeping h.live)).mono (fun _ _ _ => trivial) fun _ _ h' => h'
    | false =>
      exact Ends.bind_iff.2 ((hdrag hsince).mono (fun _ _ _ => trivial) fun _ _ h' => h')
  | setCinematicText =>
    refine Ends.bind_iff.2 (Ends.ofMishap_iff.2 ⟨fun v hv => ?_, fun _ _ => hsince⟩)
    refine Ends.bind_iff.2 (Ends.ofMishap_iff.2 ⟨fun on _ => ?_, fun _ _ => hsince⟩)
    have hset := hsince.cinematic (htyped.plain 0 rfl rfl) (htyped.plain 1 rfl rfl) hv on
    refine Ends.bind_iff.2 (Ends.modify_iff.2 (Ends.bind_iff.2 ?_))
    exact (retime_kept hset).mono (fun _ _ _ => trivial) fun _ _ h' => h'
  | setTypewriterText =>
    refine Ends.bind_iff.2 (Ends.ofMishap_iff.2 ⟨fun v hv => ?_, fun _ _ => hsince⟩)
    refine Ends.bind_iff.2 (Ends.ofMishap_iff.2 ⟨fun on _ => ?_, fun _ _ => hsince⟩)
    have hset := hsince.typewriter (htyped.plain 0 rfl rfl) (htyped.plain 1 rfl rfl) hv on
    refine Ends.bind_iff.2 (Ends.modify_iff.2 (Ends.bind_iff.2 ?_))
    exact (retime_kept hset).mono (fun _ _ _ => trivial) fun _ _ h' => h'
  | modifyChoiceboxOffset =>
    refine Ends.bind_iff.2 (Ends.get_iff.2 ?_)
    refine Ends.bind_iff.2 (Ends.ofMishap_iff.2 ⟨fun x hx => ?_, fun _ _ => hsince⟩)
    refine Ends.bind_iff.2 (Ends.modify_iff.2 (Ends.bind_iff.2 (Ends.get_iff.2 ?_)))
    have hoverrides : s.session.overrides.toValue.plain := h.live.storable.overrides
    have hplain := Overrides.plain_iff.1 hoverrides
    have hmoved := Value.plain_movedBy hplain.2.2.2.2.2.2.2.2.1 (htyped.plain 0 rfl rfl) hx
    refine Ends.bind_iff.2 (Ends.ofMishap_iff.2 ⟨fun _ _ => trivial, fun _ _ => ?_⟩)
    refine hsince.edit (h.overrides (Overrides.plain_iff.2 ?_)) (.of_same rfl rfl rfl)
    simp_all
  | misfit => exact hsince
  | _ => exact absurd hkind Bool.false_ne_true

/-- However a command ends, the stage stays kept, and nothing is forgotten. -/
theorem perform_kept (h : s.Kept main) (hw : Command.wellFormed cmd) (htyped : cmd.Typed) :
    Ends (perform cmd) s (fun o s' => s.KeptWith main o s')
      fun _ s' => Stage.KeptSince main s s' := by
  have hsince : Stage.KeptSince main s s := ⟨h, refl_of Stage.Retains s⟩
  have hfails : Ends (perform cmd) s (fun _ _ => True) fun _ s' => Stage.KeptSince main s s' := by
    cases hkind : Wavers cmd.kind with
    | true => exact perform_wavers_kept h hkind htyped
    | false =>
      exact (perform_steadfast hkind s).mono (fun _ _ h' => h') fun _ _ hu => hsince.unmoved hu
  exact (Ends.and (perform_keptWith h hw htyped) hfails).mono
    (fun _ _ h' => h'.1) fun _ _ h' => h'.2

end Command

namespace Stage

variable {main : Script} {s s' : Stage} {x : Session}

theorem switchConversation_kept {name : Value} :
    Tracks (fun s s' => s.Kept main → KeptSince main s s') (switchConversation name) := by
  refine Tracks.iff_ends.2 fun s => Ends.bind_iff.2 (Ends.get_iff.2 ?_)
  have hsame : s.Kept main → KeptSince main s s := fun h => ⟨h, refl_of Retains s⟩
  refine Ends.bind_iff.2 (Ends.ofExcept_iff.2 ⟨fun _ _ => ?_, fun _ _ => hsame⟩)
  refine Ends.bind_iff.2 (Ends.ofStory_iff.2 ⟨fun cursor hcursor h => ?_, fun _ _ => hsame⟩)
  obtain ⟨hscript, hsound⟩ := Likeness.switchTo_sound hcursor
  exact (hsame h).edit (h.cursor hscript hsound) (.of_same rfl rfl rfl)

/-! ## Taking over a snapshot -/

theorem retimeFromSession_timed :
    Tracks (fun s s' => ∃ t, s' = { s with timedText := t }) retimeFromSession := by
  have hpre : IsPreorder Stage fun s s' => ∃ t, s' = { s with timedText := t } :=
    { refl := fun s => ⟨s.timedText, rfl⟩
      trans := by
        rintro s _ _ ⟨t, rfl⟩ ⟨t', rfl⟩
        exact ⟨t', rfl⟩ }
  have hretime : ∀ {act : Attempt TimedText Unit},
      Tracks (fun s s' => ∃ t, s' = { s with timedText := t }) (retime act) :=
    .attempt fun s t => ⟨t, rfl⟩
  refine .get_bind fun s => ?_
  refine Tracks.bind hretime (fun _ => hretime.bind fun _ => Tracks.bind .ofMishap fun on => ?_) s
  cases on with
  | true => exact hretime
  | false => exact .pure

theorem Kept.scriptOf (h : s.Kept main) {t : Snapshot} (ht : t.script.IsText) :
    Ends (Engine.scriptOf t) s
      (fun script s' => s.Unmoved s' ∧ script.Typed ∧
        ∀ s'' : Stage, s''.library = s'.library → s''.script = script →
          s''.session.scriptName = script.name.orElse t.script → s''.Played main)
      fun _ s' => s.Unmoved s' := by
  have hfound : Ends (Engine.scriptOf t) s (fun script s' => s.Unmoved s' ∧ script.Typed)
      fun _ s' => s.Unmoved s' := by
    refine Ends.bind_iff.2 (Ends.get_iff.2 ?_)
    dsimp only
    split
    · exact ⟨refl_of Unmoved s, h.script⟩
    · exact (fetchScript_finds h.library).mono (fun _ _ h' => ⟨h'.1, h'.2.1⟩) fun _ _ h' => h'
  refine (Ends.and hfound (h.played.scriptOf ht)).mono ?_ fun _ _ h' => h'.1
  rintro script s' ⟨⟨hu, htyped⟩, hplayed⟩
  exact ⟨hu, htyped, hplayed⟩

/-- A stage that has taken over a snapshot which could have been saved. -/
theorem Kept.adopting (h : s.Kept main) {t : Snapshot} (ht : t.Storable) {cursor : Cursor}
    (htyped : cursor.script.Typed) (hsound : cursor.Sound)
    (hplayed : (s.adopting t cursor).Played main) : KeptSince main s (s.adopting t cursor) := by
  have hr : s.Retains (s.adopting t cursor) := .of_same rfl rfl rfl
  refine ⟨.of_retains hr h htyped rfl ⟨?_, hsound, hplayed⟩ ?_, hr⟩
  · exact ⟨ht.flags, ht.overrides, ht.scene, ht.choiceSets⟩
  · rintro _ ⟨⟩

/-! ## Finding the script again -/

/-- If the main script has a name, every script that is played has one and is known by it. -/
theorem Played.goesBy (h : s.Played main) (hnames : s.NamesTell main)
    (hmain : main.name ≠ .text "") :
    ∃ n, n ≠ "" ∧ s.script.name = .text n ∧ s.session.scriptName = .text n ∧
      (s.script = main ∨ main.name ≠ .text n ∧
        ∃ l, s.library = some l ∧ (l.get s.disk.files (.text n)).1 = .ok s.script) := by
  obtain ⟨k, hk⟩ := hnames.isText
  have hne : k ≠ "" := fun hempty => hmain (by rw [hk, hempty])
  have hshown : ∃ n, n ≠ "" ∧ s.script.name = .text n ∧
      (s.script = main ∨ main.name ≠ .text n ∧
        ∃ l, s.library = some l ∧ (l.get s.disk.files (.text n)).1 = .ok s.script) := by
    cases h with
    | main hscript => exact ⟨k, hne, by rw [hscript, hk], .inl hscript⟩
    | @found l n hl hfound =>
      rcases hnames.found l n _ hl hfound with hscript | ⟨m, hne, hm, hother, hget⟩
      · exact ⟨k, hne, by rw [hscript, hk], .inl hscript⟩
      · exact ⟨m, hne, hm, .inr ⟨hother, l, hl, hget⟩⟩
  obtain ⟨n, hne, hname, hscript⟩ := hshown
  refine ⟨n, hne, hname, ?_, hscript⟩
  cases h with
  | main _ hnamed => exact hnamed.scriptName_eq hname hne
  | found _ _ hnamed =>
    rcases hnamed with hnamed | ⟨hfalsy, -⟩
    · exact hnamed.scriptName_eq hname hne
    · rw [hname, truthy_text] at hfalsy
      exact absurd hfalsy hne

/-- Two scripts of one name are the same, also if one of them is no longer played. -/
theorem Played.script_eq {y : Session} (h : s.Played main)
    (hy : (s.playing y).Played main) (hnames : s.NamesTell main)
    (hmain : main.name ≠ .text "") (hname : s.script.name = y.cursor.script.name) :
    s.script = y.cursor.script := by
  obtain ⟨n, -, hn, -, hs⟩ := h.goesBy hnames hmain
  obtain ⟨m, -, hm, -, hy⟩ := hy.goesBy (hnames.congr rfl rfl) hmain
  have hm : y.cursor.script.name = .text m := hm
  obtain rfl : n = m := by
    rw [hn, hm, Value.text.injEq] at hname
    exact hname
  have hy : y.cursor.script = main ∨ main.name ≠ .text n ∧
      ∃ l, s.library = some l ∧ (l.get s.disk.files (.text n)).1 = .ok y.cursor.script := hy
  rcases hs with hs | ⟨hother, l, hl, hget⟩
  · rcases hy with hy | ⟨hother, -⟩
    · rw [hs, hy]
    · exact absurd (by rw [← hs, hn]) hother
  · rcases hy with hy | ⟨-, l', hl', hget'⟩
    · exact absurd (by rw [← hy, hm]) hother
    · rw [hl] at hl'
      cases hl'
      rw [hget] at hget'
      exact Except.ok.inj hget'

/-- The script of a retrievable session is the one that its snapshot leads to, whatever is played by
then. -/
theorem Retrievable.scriptOf (hx : s.Retrievable main x) (h : s.Kept main)
    (hnames : s.NamesTell main) (hmain : main.name ≠ .text "") {t : Snapshot}
    (ht : t.script = x.scriptName) :
    Ends (Engine.scriptOf t) s (fun script s' => script = x.cursor.script ∧ s.Unmoved s')
      fun _ _ => True := by
  obtain ⟨n, hne, hname, hknown, hscript⟩ := hx.played.goesBy (hnames.congr rfl rfl) hmain
  have hname : x.cursor.script.name = .text n := hname
  have hknown : x.scriptName = .text n := hknown
  have hscript : x.cursor.script = main ∨ main.name ≠ .text n ∧
      ∃ l, s.library = some l ∧ (l.get s.disk.files (.text n)).1 = .ok x.cursor.script := hscript
  rw [hknown] at ht
  refine Ends.bind_iff.2 (Ends.get_iff.2 ?_)
  dsimp only
  rw [ht]
  split
  · next hsame =>
    refine ⟨h.played.script_eq hx.played hnames hmain ?_, refl_of Unmoved s⟩
    rcases Bool.or_eq_true_iff.1 hsame with hfalsy | hequal
    · rw [Bool.not_eq_true', truthy_text] at hfalsy
      exact absurd hfalsy hne
    · rw [Value.text_equal_iff.1 hequal, hname]
  · refine (fetchScript_finds h.library).mono ?_ fun _ _ _ => trivial
    rintro script s' ⟨hu, -, l, hl, hget, -⟩
    refine ⟨?_, hu⟩
    rcases hscript with hscript | ⟨-, l', hl', hget'⟩
    · rw [hscript, hnames.unshared l n _ hl (by rw [← hscript, hname]) hget]
    · rw [hl] at hl'
      cases hl'
      rw [hget] at hget'
      exact Except.ok.inj hget'

end Stage

/-! ## Saves in memory -/

namespace SaveStore

/-- The saves of a store that holds them in memory. -/
def memory? : SaveStore → Option MemorySaves
  | memory saves => some saves
  | folder _ => none

theorem memory?_eq_some {store : SaveStore} {saves : MemorySaves} :
    store.memory? = some saves ↔ store = .memory saves := by
  cases store <;> simp [memory?]

end SaveStore

end VisualNovel
