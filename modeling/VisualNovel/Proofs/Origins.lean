import VisualNovel.Proofs.AlikeStages
import VisualNovel.Proofs.Reachable

/-!
# Where a session comes from

Whatever the host does, the settings of a stage are those of its setup, and the script that is
played is the main script or one that the library has given out; the session knows it by its name,
or by the name that it was asked for by. A stage that keeps to this and is regular is `Faithful`.
Commands and calls keep a stage faithful, as long as the snapshots that are taken over could have
been saved.
-/

namespace VisualNovel

open Script

/-- A text is equal to itself only. -/
theorem Value.text_equal_iff {x : String} {v : Value} : (Value.text x).equal v ↔ v = .text x := by
  cases v with
  | text y =>
    simp only [equal, same, beq_iff_eq, Value.text.injEq]
    exact eq_comm
  | _ => simp [equal, same, sameSize, numeric?]

namespace Stage

/-! ## The script that is played -/

/-- The session goes by the name of its script. -/
def Named (s : Stage) : Prop :=
  s.session.scriptName = s.script.name ∨
    s.script.name.truthy = false ∧ s.session.scriptName.truthy = false

/-- The script that is played is the main script, or the library has given it out. -/
inductive Played (main : Script) (s : Stage) : Prop where
  | main : s.script = main → s.Named → Played main s
  | found {l : Library} {n : String} : s.library = some l →
    Table.get? (.text n) l.compiled = some s.script →
    s.Named ∨ s.script.name.truthy = false ∧ s.session.scriptName = .text n → Played main s

/-- The stage belongs to a main script and to settings, which fix the frame rate. -/
structure Belongs (main : Script) (config : Config) (rate : Int) (s : Stage) : Prop where
  config : s.config = config
  frameRate : s.timedText.frameRate = rate
  played : s.Played main

variable {main : Script} {config : Config} {rate : Int} {s s' : Stage}

theorem Played.congr (h : s.Played main) (hscript : s'.script = s.script)
    (hname : s'.session.scriptName = s.session.scriptName) (hlibrary : s'.library = s.library) :
    s'.Played main := by
  have hnamed : s.Named → s'.Named := by
    unfold Named
    rw [hscript, hname]
    exact id
  cases h with
  | main h hn => exact .main (hscript.trans h) (hnamed hn)
  | @found l n hl hfound hn =>
    refine .found (hlibrary.trans hl) (hfound.trans (congrArg some hscript.symm)) (hn.imp hnamed ?_)
    rw [hscript, hname]
    exact id

theorem Belongs.congr (h : s.Belongs main config rate) (hsame : s.SameRoots s') :
    s'.Belongs main config rate :=
  ⟨hsame.config.trans h.config, hsame.frameRate.trans h.frameRate,
    h.played.congr hsame.script hsame.scriptName hsame.library⟩

/-- The second stage is the first one with a library that has forgotten no script. -/
def Recalls (s s' : Stage) : Prop :=
  ∃ library, s' = { s with library } ∧ ∀ l key script, s.library = some l →
    Table.get? key l.compiled = some script →
    ∃ l', library = some l' ∧ Table.get? key l'.compiled = some script

theorem Recalls.refl (s : Stage) : s.Recalls s :=
  ⟨s.library, rfl, fun l _ _ hl hfound => ⟨l, hl, hfound⟩⟩

theorem Belongs.recalls (h : s.Belongs main config rate) (hr : s.Recalls s') :
    s'.Belongs main config rate := by
  obtain ⟨library, rfl, hkeeps⟩ := hr
  refine ⟨h.config, h.frameRate, ?_⟩
  cases h.played with
  | main hscript hn => exact .main hscript hn
  | @found l n hl hfound hn =>
    obtain ⟨l', hl', hfound'⟩ := hkeeps l _ _ hl hfound
    exact .found hl' hfound' hn

/-- A script that was fetched is remembered, and none is forgotten. -/
theorem fetchScript_leads (missing : StoryError) (name : Value) (s : Stage) :
    Leads True (fetchScript missing name) s
      (fun script s' => s.Recalls s' ∧ ∃ l, s'.library = some l ∧
        Table.get? name l.compiled = some script)
      fun _ s' => s.Recalls s' := by
  unfold fetchScript
  refine Leads.get_bind ?_
  cases hl : s.library with
  | none => exact .refl s
  | some l =>
    have hrecalls : s.Recalls { s with library := some (l.get s.disk.files name).2 } := by
      refine ⟨_, rfl, fun l₀ key script hl₀ hfound => ⟨_, rfl, ?_⟩⟩
      rw [hl] at hl₀
      cases hl₀
      exact Library.get_keeps hfound
    show Leads True (Action.ofExcept (l.get s.disk.files name).1)
      { s with library := some (l.get s.disk.files name).2 } _ _
    refine Ends.ofExcept_iff.2 ⟨fun script hscript => ⟨hrecalls, _, rfl, ?_⟩, ?_⟩
    · exact Library.get_remembers hscript
    · rintro (error | m) _
      · exact hrecalls
      · trivial

/-- A script that was fetched by a name is played under its own name, or under that one. -/
theorem Played.fetched {n : String} {l : Library} (hlibrary : s.library = some l)
    (hfound : Table.get? (.text n) l.compiled = some s.script)
    (hname : s.session.scriptName = s.script.name.orElse (.text n)) : s.Played main := by
  refine .found hlibrary hfound ?_
  cases htruthy : s.script.name.truthy with
  | true =>
    refine .inl (.inl ?_)
    rw [hname, Value.orElse, if_pos htruthy]
  | false =>
    refine .inr ⟨rfl, ?_⟩
    rw [hname, Value.orElse, if_neg (by simp [htruthy])]

theorem Belongs.switchScript (h : s.Belongs main config rate) (line : Value) {name : Value}
    (hname : name.IsText) (conversation : Value) :
    Leads True (Command.switchScript line name conversation) s
      (fun _ s' => s'.Belongs main config rate) fun _ s' => s'.Belongs main config rate := by
  obtain ⟨n, rfl⟩ := hname
  unfold Command.switchScript
  refine Leads.bind (Leads.mono (fetchScript_leads _ _ s) (fun _ _ h => h)
    fun _ _ hr => h.recalls hr) ?_
  rintro script s₁ ⟨hr, l, hl, hfound⟩
  have h₁ := h.recalls hr
  refine Ends.bind_iff.2 (Ends.ofExcept_iff.2 ⟨fun conversation _ => ?_, ?_⟩)
  · refine Ends.bind_iff.2 (Ends.ofStory_iff.2 ⟨fun cursor hcursor => ?_, fun _ _ => h₁⟩)
    obtain ⟨rfl, -⟩ := Cursor.rebind_sound hcursor
    refine Leads.modify_bind (Leads.modify_bind ?_)
    exact ⟨h₁.config, h₁.frameRate, Played.fetched hl hfound rfl⟩
  · rintro (error | m) _
    · exact h₁
    · trivial

/-! ## Faithful stages -/

/-- The stage is regular, and belongs to a main script and to settings. -/
structure Faithful (main : Script) (config : Config) (rate : Int) (s : Stage) : Prop where
  regular : s.Regular
  belongs : s.Belongs main config rate

theorem Faithful.edit (h : s.Faithful main config rate) (hroots : s.SameRoots s')
    (hlive : s'.session.live.Storable) (hsound : s'.session.cursor.Sound)
    (htext : s'.timedText.fullText.IsText)
    (ho : s'.session.overrides.SameTiming s.session.overrides) : s'.Faithful main config rate :=
  ⟨h.regular.edit hroots.config hlive hsound hroots.script hroots.cursorScript
    hroots.library htext hroots.frameRate ho,
    h.belongs.congr hroots⟩

/-- Nothing is asked of what stages draw on. -/
theorem ofStock_true : OfStock fun _ _ => True :=
  fun _ _ _ => trivial

theorem faithfulLikeness :
    Likeness True fun s t => t = s ∧ s.Open ∧ s.Faithful main config rate := by
  have hboth := (likeness ofStock_true).and
    (openLikeness (P := Belongs main config rate) fun h hsame => h.congr hsame)
  have hsame : (fun s t => t = s ∧ s.Open ∧ s.Faithful main config rate) = fun s t =>
      Shares (fun _ _ => True) s t ∧ t = s ∧ s.Open ∧ s.Belongs main config rate := by
    funext s t
    refine propext ⟨?_, ?_⟩
    · rintro ⟨rfl, hopen, hf⟩
      exact ⟨⟨hf.regular, hf.regular.alike, trivial⟩, rfl, hopen, hf.belongs⟩
    · rintro ⟨hshares, rfl, hopen, hb⟩
      exact ⟨rfl, hopen, hshares.regular, hb⟩
  rw [hsame]
  exact hboth

theorem keepsFaithful : Keeps True (Faithful main config rate) where
  likeness := faithfulLikeness
  switchScript {s} line name conversation ho h hname := by
    have hregular : Leads True (Command.switchScript line name conversation) s
        (fun o s' => o.passes ∧ s'.Regular) fun _ s' => s'.Regular := by
      refine Leads.mono (Shares.switchScript ⟨h.regular, h.regular.alike, .refl s⟩ line
        (hname trivial) conversation) ?_ ?_
      · rintro o s' ⟨_, _, -, -, hp, hshares⟩
        exact ⟨hp, hshares.regular⟩
      · rintro _ s' ⟨_, -, hshares⟩
        exact hshares.regular
    have hbelongs := h.belongs.switchScript line (hname trivial) conversation
    refine Ends.mono (Ends.and hregular (Ends.and hbelongs
      (ho.switchScript line name conversation))) ?_ ?_
    · rintro o s' ⟨⟨hp, hr⟩, hb, -, ho'⟩
      exact ⟨hp, ho', hr, hb⟩
    · rintro (error | m) s' ⟨hr, hb, ho'⟩
      · exact ⟨ho', hr, hb⟩
      · trivial
  beats h _ hbeat := h.regular.beat_typed hbeat
  disk d h := h.edit ⟨rfl, rfl, rfl, rfl, rfl, rfl⟩ h.regular.storable.live h.regular.sound
    h.regular.text (.refl _)
  dice d h := h.edit ⟨rfl, rfl, rfl, rfl, rfl, rfl⟩ h.regular.storable.live h.regular.sound
    h.regular.text (.refl _)
  timedText t h hrate htext := by
    refine h.edit ⟨rfl, rfl, rfl, rfl, rfl, hrate⟩ h.regular.storable.live
      h.regular.sound ?_ (.refl _)
    rcases htext trivial with hsame | htext
    · show t.fullText.IsText
      rw [hsame]
      exact h.regular.text
    · exact htext
  safe x h := h.edit ⟨rfl, rfl, rfl, rfl, rfl, rfl⟩ h.regular.storable.live h.regular.sound
    h.regular.text (.refl _)
  speech {s} text h hplain := by
    have hlive := h.regular.storable.live
    have hscene := hlive.scene.speak (hplain trivial)
    exact h.edit ⟨rfl, rfl, rfl, rfl, rfl, rfl⟩
      ⟨hlive.flags, hlive.overrides, hscene, hlive.choiceSets⟩
      h.regular.sound h.regular.text (.refl _)
  flag {s} name n h := by
    have hlive := h.regular.storable.live
    have hflags : Flags.Storable (s.session.flags.set name n) := hlive.flags.put name n
    exact h.edit ⟨rfl, rfl, rfl, rfl, rfl, rfl⟩
      ⟨hflags, hlive.overrides, hlive.scene, hlive.choiceSets⟩
      h.regular.sound h.regular.text (.refl _)
  cursor c h hscript hsound := by
    have hlive := h.regular.storable.live
    exact h.edit ⟨rfl, rfl, hscript, rfl, rfl, rfl⟩
      ⟨hlive.flags, hlive.overrides, hlive.scene, hlive.choiceSets⟩ hsound h.regular.text (.refl _)

/-! ## Taking over a snapshot -/

/-- The script of a snapshot is the one that is played, or it is fetched. It will be known by its
name or by that of the snapshot. -/
theorem Played.scriptOf (h : s.Played main) {t : Snapshot} (ht : t.script.IsText) :
    Leads True (Engine.scriptOf t) s
      (fun script s' => ∀ s'' : Stage, s''.library = s'.library → s''.script = script →
        s''.session.scriptName = script.name.orElse t.script → s''.Played main)
      fun _ _ => True := by
  obtain ⟨n, hn⟩ := ht
  unfold Engine.scriptOf
  refine Leads.get_bind ?_
  dsimp only
  split
  · next hsame =>
    intro s'' hlibrary hscript hname
    -- A name that is equal to no name is no name.
    have hnamed : s''.Named := by
      unfold Named
      rw [hscript, hname, Value.orElse]
      cases htruthy : s.script.name.truthy with
      | true => exact .inl rfl
      | false =>
        refine .inr ⟨rfl, ?_⟩
        rw [if_neg Bool.false_ne_true]
        rcases Bool.or_eq_true_iff.1 hsame with hfalsy | hequal
        · simpa using hfalsy
        · rw [hn] at hequal ⊢
          rw [← Value.text_equal_iff.1 hequal]
          exact htruthy
    cases h with
    | main hmain _ => exact .main (hscript.trans hmain) hnamed
    | found hl hfound _ =>
      exact .found (hlibrary.trans hl) (hfound.trans (congrArg some hscript.symm)) (.inl hnamed)
  · rw [hn]
    refine Leads.mono (fetchScript_leads _ _ s) ?_ fun _ _ _ => trivial
    rintro script s' ⟨-, l, hl, hfound⟩ s'' hlibrary hscript hname
    exact .fetched (hlibrary.trans hl) (hfound.trans (congrArg some hscript.symm))
      (by rw [hname, hscript])

theorem Faithful.scriptOf (h : s.Faithful main config rate) {t : Snapshot} (ht : t.script.IsText) :
    Leads True (Engine.scriptOf t) s
      (fun script s' => s'.Faithful main config rate ∧ script.Typed ∧
        ∀ s'' : Stage, s''.library = s'.library → s''.script = script →
          s''.session.scriptName = script.name.orElse t.script → s''.Played main)
      fun _ s' => s'.Faithful main config rate := by
  have hfound : Leads True (Engine.scriptOf t) s
      (fun script s' => s'.Faithful main config rate ∧ script.Typed)
      fun _ s' => s'.Faithful main config rate := by
    obtain ⟨n, hn⟩ := ht
    unfold Engine.scriptOf
    refine Leads.get_bind ?_
    dsimp only
    split
    · exact ⟨h, h.regular.script⟩
    · rw [hn]
      have hregular : Leads True
          (fetchScript { cause := .noLibraryToRestore (.text n) } (.text n)) s
          (fun script s' => script.Typed ∧ s'.Regular) fun _ s' => s'.Regular := by
        refine Leads.mono (Shares.fetchScript ⟨h.regular, h.regular.alike, .refl s⟩ _ n) ?_ ?_
        · rintro script s' ⟨_, _, -, -, htyped, hshares⟩
          exact ⟨htyped, hshares.regular⟩
        · rintro _ s' ⟨_, -, hshares⟩
          exact hshares.regular
      refine Ends.mono (Ends.and hregular (fetchScript_leads _ _ s)) ?_ ?_
      · rintro script s' ⟨⟨htyped, hr⟩, hrecalls, -⟩
        exact ⟨⟨hr, h.belongs.recalls hrecalls⟩, htyped⟩
      · rintro (error | m) s' ⟨hr, hrecalls⟩
        · exact ⟨hr, h.belongs.recalls hrecalls⟩
        · trivial
  refine Ends.mono (Ends.and hfound (h.belongs.played.scriptOf ht)) ?_ ?_
  · rintro script s' ⟨⟨hs', htyped⟩, hplayed⟩
    exact ⟨hs', htyped, hplayed⟩
  · rintro (error | m) s' ⟨hs', -⟩
    · exact hs'
    · trivial

/-- A stage that has taken over a snapshot which could have been saved is regular, if the settings
of the snapshot make sense. -/
theorem Regular.adopting (h : s.Regular) {t : Snapshot} (ht : t.Storable) {cursor : Cursor}
    (hsound : cursor.Sound) (htyped : cursor.script.Typed) :
    Runs True retimeFromSession (s.adopting t cursor) fun _ s' => s'.Regular ∧
      ∃ u, s' = { s.adopting t cursor with timedText := u } ∧
        u.frameRate = s.timedText.frameRate := by
  refine Ends.mono (Ends.and (retimeFromSession_ends _) (retimeFromSession_leads _)) ?_ ?_
  · rintro _ s' ⟨⟨f, r, u, rfl, hline, hseconds, hframes, hrate, -⟩, -⟩
    have htext : u.fullText.IsText := by
      rw [hline.fullText]
      exact h.text
    refine ⟨⟨⟨h.storable.config, ht.flags, ht.overrides, ht.scene, ht.choiceSets⟩, hsound, htyped,
      rfl, h.library, htext, f, r, hseconds, ?_, hrate, ?_⟩, u, rfl, hline.frameRate⟩
    · show u.framesOf _ = _
      rw [TimedText.framesOf_congr hline.frameRate]
      exact hframes
    · obtain ⟨text, htext⟩ := htext
      show ∃ size, u.fullText.size = .ok size
      rw [htext]
      exact ⟨_, rfl⟩
  · rintro (error | m) s' ⟨-, hfalse⟩
    · exact hfalse
    · trivial

/-- A snapshot that could have been saved can be taken over. -/
theorem admits_of_storable {t : Snapshot} (ht : t.Storable) (hname : t.script.IsText) :
    Admits (Faithful main config rate) t := by
  intro s h
  refine Leads.mono (h.scriptOf hname) ?_ fun _ _ h => h
  rintro script s' ⟨hs', htyped, hplayed⟩
  refine ⟨hs', fun cursor hcursor => ?_⟩
  obtain ⟨rfl, hsound⟩ := Cursor.rebind_sound hcursor
  refine Runs.mono (hs'.regular.adopting ht hsound htyped) ?_
  rintro _ _ ⟨hr, u, rfl, hrate⟩
  exact ⟨hr, hs'.belongs.config, hrate.trans hs'.belongs.frameRate, hplayed _ rfl rfl rfl⟩

/-! ## The start -/

/-- The settings of a session that starts hold no reference to a flag, if those of the setup
do not. -/
theorem Overrides.plain_initial {config : Config} {o : Overrides} (h : config.toValue.plain)
    (ho : Engine.initialOverrides config = .ok o) : o.toValue.plain := by
  have hfields := Value.plain_ofFields_iff.1 h
  have hfonts : (Value.record config.fonts).plain := hfields ("fonts", _) (by simp)
  obtain ⟨n, hn, ho⟩ := bind_eq_ok.1 ho
  obtain ⟨x, hx, ho⟩ := bind_eq_ok.1 ho
  cases ho
  have hseconds := Value.plain_asFloat hx
  refine Overrides.plain_iff.2 ⟨Value.plain_field hfonts, Value.plain_field hfonts,
    Value.plain_field hfonts, Value.plain_field hfonts, hseconds, ?_⟩
  simp

theorem initial_faithful {setup : Engine.Setup} {σ : Type} {outside : σ} {e : Engine σ}
    (hsetup : Engine.ofSetup setup outside = .ok e) (hscript : setup.script.Typed)
    (hconfig : setup.config.toValue.plain) (hlibrary : ∀ l, setup.library = some l → l.Typed) :
    e.stage.Faithful setup.script setup.config e.stage.timedText.frameRate := by
  obtain ⟨s, hs, h⟩ := bind_eq_ok.1 hsetup
  cases h
  obtain ⟨cursor, overrides, t₀, t, hcursor, hoverrides, ht₀, hrun, rfl, htext⟩ :=
    Engine.initialStage_ok hs
  obtain ⟨hmain, hsound⟩ := Engine.start_sound hcursor
  have hplain := Overrides.plain_initial hconfig hoverrides
  have hblank : t.fullText = .text "" := by
    obtain ⟨v, -, hnew⟩ := bind_eq_ok.1 ht₀
    obtain ⟨n, -, hnew⟩ := bind_eq_ok.1 hnew
    cases hnew
    exact htext.fullText
  obtain ⟨f, r, u, hu, hline, hseconds, hframes, hrate, -⟩ :=
    (Ends.iff_perform.1 (retimeFromSession_ends _)).1 _ _ hrun
  refine ⟨⟨⟨hconfig, Table.distinct_nil, hplain, Scene.storable_empty, ChoiceSets.storable_nil⟩,
    hsound, ?_, rfl, hlibrary, ⟨_, hblank⟩, f, r, hseconds, ?_, hrate, ?_⟩, rfl, rfl,
    .main hmain (.inl rfl)⟩
  · show cursor.script.Typed
    rw [hmain]
    exact hscript
  · rw [← hframes]
    exact TimedText.framesOf_congr htext.frameRate _
  · show ∃ size, t.fullText.size = .ok size
    rw [hblank]
    exact ⟨_, rfl⟩

end Stage

end VisualNovel
