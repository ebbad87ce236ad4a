import VisualNovel.Proofs.Chronicle
import VisualNovel.Proofs.Directions
import VisualNovel.Proofs.WellTyped

/-!
# Collaborators that know the scene

A renderer is shown the scene when a session starts to load, and an intent whenever a command or a
line changes it. If collaborators keep a relation between what they remember and a scene that is
told in this way, the relation holds of the scene of the session after every call, however the calls
end (`Viewing.shown`). It is lost when a call takes over a snapshot and is stopped before the
renderer is asked to prepare it, and it comes back with the next snapshot that is taken over.
-/

namespace VisualNovel

open Script

variable {σ : Type}

/-! ## Collaborators that keep a relation to a scene -/

section
variable {J : Scene → σ → Prop}

/-- Only the surroundings have changed, and what is remembered stands in the relation to every scene
that it stood in it to. -/
def Beside (J : Scene → σ → Prop) (e e' : Engine σ) : Prop :=
  Within e e' ∧ ∀ s, J s e.outside → J s e'.outside

instance : IsPreorder (Engine σ) (Beside J) where
  refl e := ⟨refl_of Within e, fun _ h => h⟩
  trans _ _ _ h h' := ⟨trans_of Within h.1 h'.1, fun s hs => h'.2 s (h.2 s hs)⟩

theorem Beside.unconcerned : Unconcerned (Beside J) where
  disk e d := ⟨Within.unconcerned.disk e d, fun _ h => h⟩
  saves e saves := ⟨Within.unconcerned.saves e saves, fun _ h => h⟩
  bus e bus := ⟨Within.unconcerned.bus e bus, fun _ h => h⟩

/-- The collaborators do not call back, and what they remember stands in a relation to the scene
that they are told of: it depends on what intents tell of a scene, and no two sprites share a
name. -/
structure Collaborators.Regards (c : Collaborators σ) (J : Scene → σ → Prop) : Prop where
  looks : ∀ {s s' o}, s'.seen true = s.seen true → J s o → J s' o
  distinct : ∀ {s o}, J s o → Table.Distinct s.sprites
  prepare : ∀ scene, Table.Distinct scene.sprites →
    Tracks (fun e e' => Within e e' ∧ J scene e'.outside) (c.prepare scene)
  apply : ∀ i : Intent, i.Whole →
    Tracks (fun e e' => Within e e' ∧ ∀ s, J s e.outside → J (s.told i) e'.outside)
      (c.apply (some i))
  showError : ∀ text, Tracks (Beside J) (c.showError text)
  deliver : ∀ id event, Tracks (Beside J) (c.deliver id event)
  systemCall : ∀ args, Tracks (Beside J) (c.systemCall args)
  finished : Tracks (Beside J) c.finished

/-- The stage is sane, and what the collaborators remember stands in the relation to the scene. -/
structure Engine.Shown (J : Scene → σ → Prop) (e : Engine σ) : Prop where
  stage : e.stage.Sane
  scene : J e.session.scene e.outside

/-- The stage is sane, and no two sprites share a name. -/
structure Stage.Tidy (s : Stage) : Prop where
  sane : s.Sane
  distinct : Table.Distinct s.session.scene.sprites

namespace Stage.Tidy

variable {s s' : Stage}

theorem disk (h : s.Tidy) (d : Disk) : ({ s with disk := d } : Stage).Tidy :=
  ⟨h.sane.disk d, h.distinct⟩

theorem of_sameScene (h : s.Tidy) (hs : s'.Sane) (hscene : SameScene s s') : s'.Tidy := by
  refine ⟨hs, ?_⟩
  rw [hscene]
  exact h.distinct

end Stage.Tidy

/-- What is shown stays so. -/
def KeepsShown (J : Scene → σ → Prop) (e e' : Engine σ) : Prop :=
  e.Shown J → e'.Shown J

instance : IsPreorder (Engine σ) (KeepsShown J) where
  refl _ h := h
  trans _ _ _ h h' hs := h' (h hs)

namespace Engine

variable {c : Collaborators σ} {e e' : Engine σ}

theorem Shown.withStage (h : e.Shown J) {s : Stage} (hs : s.Sane) (hscene : SameScene e.stage s) :
    ({ e with stage := s } : Engine σ).Shown J := by
  refine ⟨hs, ?_⟩
  show J s.session.scene e.outside
  rw [hscene]
  exact h.scene

theorem Shown.beside (h : e.Shown J) (hbeside : Beside J e e') : e'.Shown J := by
  obtain ⟨⟨x, rfl⟩, hscene⟩ := hbeside
  exact ⟨h.stage.disk x.disk, hscene _ h.scene⟩

end Engine

/-- A conversation is switched to on a sane stage, or not, and the stage stays sane. -/
theorem Stage.switchConversation_sane (name : Value) :
    Tracks (fun s s' => s.Sane → s'.Sane ∧ SameScene s s') (Stage.switchConversation name) := by
  refine Tracks.iff_ends.2 fun s => Ends.bind_iff.2 (Ends.get_iff.2 ?_)
  refine Ends.bind_iff.2 (Ends.ofExcept_iff.2 ⟨fun _ _ => ?_, fun _ _ h => ⟨h, rfl⟩⟩)
  refine Ends.bind_iff.2 (Ends.ofStory_iff.2 ⟨fun cursor hcursor h => ?_, fun _ _ h => ⟨h, rfl⟩⟩)
  obtain ⟨hscript, hsound⟩ := Likeness.switchTo_sound hcursor
  exact ⟨h.mapCursor (f := fun _ => cursor) hscript hsound, rfl⟩

theorem KeepsShown.incidental : Incidental (KeepsShown J) where
  disk _ d h := h.withStage (h.stage.disk d) rfl
  saves _ _ h := ⟨h.stage, h.scene⟩

theorem KeepsShown.calm : Calm (KeepsShown J) where
  noted := KeepsShown.incidental.noted
  bus _ _ h := ⟨h.stage, h.scene⟩
  timed _ _ ht h := h.withStage (h.stage.timed ht) rfl
  completed _ h := h.withStage (h.stage.mapCursor (f := fun cursor => cursor.advance) rfl
    (Likeness.advance_sound h.stage.cursor)) rfl
  flagged _ _ _ h := h.withStage (h.stage.mapFlags _) rfl
  captured _ h := h.withStage (h.stage.keep _) rfl
  released _ h := h.withStage (h.stage.keep none) rfl
  conversation name := .onPart_of (Stage.switchConversation_sane name) fun _ _ hs h =>
    h.withStage (hs h.stage).1 (hs h.stage).2
  awaiting _ _ h := ⟨h.stage, h.scene⟩
  menu _ _ h := ⟨h.stage, h.scene⟩
  dropped _ h := ⟨h.stage, h.scene⟩
  mode _ _ h := ⟨h.stage, h.scene⟩
  cleared _ h := ⟨h.stage, h.scene⟩

namespace Collaborators.Regards

variable {c : Collaborators σ} (hc : c.Regards J)
include hc

theorem backstage : c.Backstage (KeepsShown J) where
  apply i hid hkind e h := by
    obtain ⟨⟨x, hx⟩, hscene⟩ := hc.apply i (.of_not_scenic hkind hid) e
    have htold := hscene _ h.scene
    rw [Scene.told_of_not_scenic hkind] at htold
    rw [hx] at htold ⊢
    exact ⟨h.stage.disk x.disk, htold⟩
  showError text e h := h.beside (hc.showError text e)
  deliver id event e h := h.beside (hc.deliver id event e)
  systemCall args e h := h.beside (hc.systemCall args e)
  finished e h := h.beside (hc.finished e)

theorem emit_beside (event : Event) : Tracks (Beside J) (Engine.emit c event) :=
  Engine.emit_tracks Beside.unconcerned.unheard hc.deliver event

theorem emit_ends {event : Event} {e : Engine σ} {Q : Unit → Engine σ → Prop}
    {E : Fault → Engine σ → Prop} (h : ∀ e', Beside J e e' → Q () e') :
    Ends (Engine.emit c event) e Q E :=
  Ends.of_perform (Engine.emit_perform c event e) (h _ (hc.emit_beside event e))

theorem setMode_ends {mode : Mode} {e : Engine σ} {Q : Unit → Engine σ → Prop}
    {E : Fault → Engine σ → Prop} (h : ∀ e', Beside J { e with mode } e' → Q () e') :
    Ends (Engine.setMode c mode) e Q E := by
  by_cases hsame : e.mode = mode
  · refine Ends.of_perform (Engine.setMode_same hsame c) (h e ?_)
    rw [← hsame]
    exact refl_of (Beside J) e
  · unfold Engine.setMode
    refine Ends.bind_iff.2 (Ends.get_iff.2 ?_)
    rw [if_pos (by simpa using hsame)]
    exact Ends.bind_iff.2 (hc.emit_ends (E := E) h)

/-- The intent that tells of a change is sent after the change. -/
theorem apply_shown {e : Engine σ} {s : Scene} {i : Intent} (hstage : e.stage.Sane)
    (hs : J s e.outside) (hi : i.Whole) (htold : e.session.scene.seen true = (s.told i).seen true) :
    Ends (c.apply (some i)) e (fun _ e' => e'.Shown J) fun _ e' => e'.Shown J := by
  refine Ends.state_iff.2 ?_
  obtain ⟨⟨x, hx⟩, hscene⟩ := hc.apply i hi e
  have hsent := hc.looks htold (hscene s hs)
  rw [hx] at hsent ⊢
  exact ⟨hstage.disk x.disk, hsent⟩

/-! ## Lines and commands -/

/-- A line is displayed. One that has to be advanced past is a text. -/
theorem display_shown {text speaker : Value} {wait : Bool} (hwait : wait → text.IsText)
    {e : Engine σ} (h : e.Shown J) : Ends (Engine.display c text speaker wait) e
      (fun _ e' => e'.Shown J) fun _ e' => e'.Shown J := by
  have hsend : ∀ (who visible : Value) (e' : Engine σ), e'.stage.Sane →
      e'.session.scene = { e.session.scene with speech := text } → J e.session.scene e'.outside →
      Ends (Engine.send c .showText [("speaker", who), ("text", text), ("visible", visible)]) e'
        (fun _ e' => e'.Shown J) fun _ e' => e'.Shown J := by
    intro who visible e' hstage hscene hj
    refine hc.apply_shown hstage hj ⟨by simp [IntentKind.parts],
      by simp [IntentKind.parts, Intent.blocking]⟩ ?_
    rw [hscene]
    rfl
  refine Ends.bind_iff.2 (Ends.bind_iff.2 (Ends.bind_iff.2 (Ends.bind_iff.2 (hc.emit_ends ?_))))
  rintro _ ⟨⟨x, rfl⟩, hbeside⟩
  have hspoken : (e.stage.mapScene fun s => { s with speech := text }).Sane :=
    h.stage.editScene rfl rfl rfl rfl
  cases wait with
  | false => exact hsend _ _ _ (hspoken.disk x.disk) rfl (hbeside _ h.scene)
  | true =>
    obtain ⟨line, rfl⟩ := hwait rfl
    refine Ends.bind_iff.2 (Ends.bind_iff.2 (Ends.attempt_iff.2 ((Engine.beginLine_ends _ _).mono
      (fun _ t ht => ?_) fun _ _ hnone => (hnone ⟨line, rfl⟩).elim)))
    refine Ends.bind_iff.2 (Ends.modify_iff.2 (Ends.bind_iff.2 (Ends.get_iff.2
      (Ends.ofMishap_iff.2 ⟨fun visible _ => ?_, fun m hm => ?_⟩))))
    · have hs := hspoken.disk x.disk
      have hline : t.fullText.IsText := ⟨line, ht.fullText⟩
      exact hsend _ visible _ ⟨hs.config, hs.scene, hs.offsetX, hs.offsetY, hs.choiceSets, hline,
        hs.dice, hs.cursor, hs.fits.congr rfl rfl rfl⟩ rfl (hbeside _ h.scene)
    · have hvisible : (Value.text line).front t.revealed = .error m := by
        rw [← ht.fullText]
        exact hm
      cases hvisible

theorem present_shown (options : List ChoiceOption) (line : Value) :
    Tracks (KeepsShown J) (Engine.present c options line) :=
  KeepsShown.calm.present hc.backstage options
    fun _ h => Ends.state_iff.1 (hc.display_shown (fun hwait => by cases hwait) h)

theorem settle_shown {o : Outcome} {e : Engine σ} {s : Scene} (hstage : e.stage.Sane)
    (hs : J s e.outside) (ho : o.Tells s e.session.scene) :
    Ends (Engine.settle c o) e (fun _ e' => e'.Shown J) fun _ e' => e'.Shown J := by
  have hcomplete : Tracks (KeepsShown J) (Engine.completeBeat : Play σ Unit) :=
    KeepsShown.calm.completeBeat
  have hquiet : e.session.scene.seen true = s.seen true → ∀ {act : Play σ Unit},
      Tracks (KeepsShown J) act →
      Ends act e (fun _ e' => e'.Shown J) fun _ e' => e'.Shown J := fun hsame act hact =>
    Ends.state_iff.2 (hact e ⟨hstage, hc.looks hsame hs⟩)
  cases o with
  | proceed intents =>
    cases intents with
    | nil => exact hquiet ho hcomplete
    | cons i rest =>
      obtain ⟨hi, htold, hrest⟩ := ho
      have hrest : Tracks (KeepsShown J) (do
          rest.forM fun i => c.apply (some i)
          Engine.completeBeat) :=
        Tracks.bind (.forM fun i hmem => hc.backstage.apply i (hrest i hmem).1 (hrest i hmem).2)
          fun _ => hcomplete
      have hall : (Engine.settle c (.proceed (i :: rest))) = (do
          c.apply (some i)
          rest.forM fun i => c.apply (some i)
          Engine.completeBeat) := by
        simp [Engine.settle, List.forM_cons]
      rw [hall]
      refine Ends.bind_iff.2 ((hc.apply_shown hstage hs hi htold).mono (fun _ e' h' => ?_)
        fun _ _ h' => h')
      exact Ends.state_iff.2 (hrest e' h')
  | stay => exact hquiet ho .pure
  | hold kind payload =>
    obtain ⟨hwhole, htold⟩ := ho
    refine Ends.bind_iff.2 (Ends.modify_iff.2 (Ends.bind_iff.2 (hc.setMode_ends ?_)))
    rintro _ ⟨⟨x, rfl⟩, hbeside⟩
    refine Ends.bind_iff.2 (Ends.get_iff.2 ?_)
    exact hc.apply_shown (hstage.disk x.disk) (hbeside _ hs) (hwhole _) htold
  | ask options line => exact hquiet ho (hc.present_shown options line)
  | call args => exact hquiet ho ((hc.backstage.systemCall args).bind fun _ => hcomplete)

theorem execute_shown {cmd : Script.Command} (hfits : cmd.Fits) {e : Engine σ} (h : e.Shown J) :
    Ends (Engine.execute c cmd) e (fun _ e' => e'.Shown J) fun _ e' => e'.Shown J := by
  rw [hfits.performable.executed]
  refine Ends.bind_iff.2 (hc.emit_ends fun e₁ h₁ => ?_)
  have h' := h.beside h₁
  refine Ends.bind_iff.2 (Ends.onPart_iff.2 ?_)
  refine ((Command.perform_sane hfits h'.stage).and
    (Command.perform_directs hfits h'.stage (hc.distinct h'.scene))).mono ?_ ?_
  · rintro o s ⟨hs, htells⟩
    exact hc.settle_shown hs h'.scene htells
  · rintro _ s ⟨hs, hsame⟩
    exact h'.withStage hs hsame

/-- A call that takes over no snapshot keeps the relation, however it ends. -/
theorem run_shown {call : HostCall} (hcall : call.loads = false) :
    Tracks (KeepsShown J) (call.run c) := by
  refine KeepsShown.calm.run hc.backstage (fun _ _ h => ⟨h.stage, h.scene⟩)
    (fun _ _ h => ⟨h.stage, h.scene⟩) (fun e d hd h => ?_) (fun e cmd hcmd h => ?_)
    (Engine.saves_tracks KeepsShown.incidental c) hcall
  · have htext : d.text.IsText := h.stage.cursor.current_fits h.stage.fits.cursor hd
    exact Ends.state_iff.1 (hc.display_shown (fun _ => htext) h)
  · exact Ends.state_iff.1
      (hc.execute_shown (h.stage.cursor.current_fits h.stage.fits.cursor hcmd) h)

/-! ## Loading -/

/-- The scene that is prepared is known from then on. -/
theorem prepare_shown {e : Engine σ} (h : e.stage.Tidy) :
    Ends (c.prepare e.session.scene) e (fun _ e' => e'.Shown J) fun _ e' => e'.Shown J := by
  refine Ends.state_iff.2 ?_
  obtain ⟨⟨x, hx⟩, hprepared⟩ := hc.prepare e.session.scene h.distinct e
  rw [hx] at hprepared ⊢
  exact ⟨h.sane.disk x.disk, hprepared⟩

theorem enterLoading_shown {e : Engine σ} (h : e.stage.Tidy) :
    Ends (Engine.enterLoading c) e (fun _ e' => e'.Shown J) fun _ e' => e'.Shown J := by
  refine Ends.bind_iff.2 (hc.setMode_ends fun e₁ h₁ => Ends.bind_iff.2 (Ends.get_iff.2 ?_))
  refine Ends.bind_iff.2 (hc.emit_ends fun e₂ h₂ => Ends.bind_iff.2 (Ends.get_iff.2 ?_))
  obtain ⟨⟨x, rfl⟩, -⟩ := trans_of (Beside J) h₁ h₂
  exact hc.prepare_shown (h.disk x.disk)

end Collaborators.Regards

end

/-- A snapshot whose parts have their types, with no two sprites of one name. -/
structure Snapshot.Sane (t : Snapshot) : Prop where
  scene : t.scene.Sane
  distinct : Table.Distinct t.scene.sprites
  offsetX : t.overrides.choiceboxOffsetX.IsReal
  offsetY : t.overrides.choiceboxOffsetY.IsReal
  choiceSets : ∀ e ∈ t.choiceSets, ∀ o ∈ e.2, o.2.IsText

namespace Stage

theorem Sane.adopting {s : Stage} (h : s.Sane) {t : Snapshot} (ht : t.Sane) {cursor : Cursor}
    (hsound : cursor.Sound) (hscript : cursor.script.Fits) : (s.adopting t cursor).Tidy :=
  ⟨⟨h.config, ht.scene, ht.offsetX, ht.offsetY, ht.choiceSets, h.fullText, h.dice, hsound,
    ⟨hscript, rfl, h.fits.library⟩⟩, ht.distinct⟩

/-- A sane stage stays sane when its text is timed anew, even if that cannot be done. -/
theorem retimeFromSession_sane :
    Tracks (fun s s' => s.Sane → s'.Sane ∧ SameScene s s') retimeFromSession := by
  have htrans : IsPreorder Stage fun s s' => s.Sane → s'.Sane ∧ SameScene s s' :=
    { refl := fun _ h => ⟨h, rfl⟩
      trans := fun _ _ _ h h' hs => ⟨(h' (h hs).1).1, (h' (h hs).1).2.trans (h hs).2⟩ }
  have hretime : ∀ {act : Attempt TimedText Unit}, TimedText.KeepsText act →
      Tracks (fun s s' => s.Sane → s'.Sane ∧ SameScene s s') (retime act) := fun hact =>
    Tracks.iff_ends.2 fun s => Ends.attempt_iff.2
      ((hact s.timedText).mono (fun _ _ ht h => ⟨h.timed ht, rfl⟩)
        fun _ _ ht h => ⟨h.timed ht, rfl⟩)
  refine Tracks.get_bind fun s => ?_
  refine (hretime (TimedText.setCinematic_keepsText _ _)).bind (fun _ => ?_) s
  refine (hretime (TimedText.setTypewriter_keepsText _ _)).bind fun _ => ?_
  refine Tracks.bind .ofMishap fun on => ?_
  cases on with
  | true => exact hretime (TimedText.setCinematic_keepsText _ _)
  | false => exact .pure

theorem scriptOf_sane {s : Stage} (h : s.Sane) (t : Snapshot) :
    Ends (Engine.scriptOf t) s (fun script s' => script.Fits ∧ s'.Sane ∧ s'.session = s.session)
      fun _ s' => s'.Sane ∧ s'.session = s.session := by
  have hlibrary : ∀ {library : Option Library}, ({ s with library } : Stage).Fits →
      ({ s with library } : Stage).Sane := fun hfits =>
    ⟨h.config, h.scene, h.offsetX, h.offsetY, h.choiceSets, h.fullText, h.dice, h.cursor, hfits⟩
  refine Ends.bind_iff.2 (Ends.get_iff.2 ?_)
  dsimp only
  split
  · exact ⟨h.fits.script, h, rfl⟩
  · refine (h.fits.fetchScript _ _).mono ?_ ?_
    · rintro script _ ⟨hscript, library, rfl, hfits⟩
      exact ⟨hscript, hlibrary hfits, rfl⟩
    · rintro _ _ ⟨⟨library, rfl, hfits⟩, -⟩
      exact ⟨hlibrary hfits, rfl⟩

end Stage

/-- The restore of a snapshot stops because the text cannot be timed as the snapshot says. All of
the snapshot has been taken over then, but the renderer has not been asked to prepare its scene. -/
def Engine.Tears (t : Snapshot) (e : Engine σ) (f : Fault) (e' : Engine σ) : Prop :=
  ∃ (cursor : Cursor) (s : Stage), s.session = e.session ∧
    Stage.retimeFromSession.perform (s.adopting t cursor) = (.error f, e'.stage)

namespace HostCall

/-- The call takes over a snapshot and is stopped before the renderer is asked to prepare it. -/
def Torn (c : Collaborators σ) (e : Engine σ) (call : HostCall) : Prop :=
  ∃ t f e', call.Brings e t ∧ (call.load c).perform e = (.error f, e') ∧ e.Tears t f e'

end HostCall

section
variable {J : Scene → σ → Prop} {c : Collaborators σ} (hc : c.Regards J)
include hc

namespace Collaborators.Regards

open Engine

theorem tidy {e : Engine σ} (h : e.Shown J) : e.stage.Tidy :=
  ⟨h.stage, hc.distinct h.scene⟩

/-- Whatever the collaborators know of a scene, it has no two sprites of one name. -/
theorem distinctly : c.Regards fun s (_ : σ) => Table.Distinct s.sprites where
  looks hseen h := Scene.distinct_of_seen hseen h
  distinct h := h
  prepare scene h e := ⟨(hc.prepare scene h e).1, h⟩
  apply i hi e := ⟨(hc.apply i hi e).1, fun _ h => Scene.told_distinct h i⟩
  showError text e := ⟨(hc.showError text e).1, fun _ h => h⟩
  deliver id event e := ⟨(hc.deliver id event e).1, fun _ h => h⟩
  systemCall args e := ⟨(hc.systemCall args e).1, fun _ h => h⟩
  finished e := ⟨(hc.finished e).1, fun _ h => h⟩

/-- However a call ends that takes over no snapshot, it leaves the stage tidy. -/
theorem run_tidy {e : Engine σ} (h : e.stage.Tidy) {call : HostCall} (hcall : call.loads = false) :
    ((call.run c).perform e).2.stage.Tidy :=
  hc.distinctly.tidy (hc.distinctly.run_shown hcall e ⟨h.sane, h.distinct⟩)

theorem restore_shown {t : Snapshot} (ht : t.Sane) {e : Engine σ} (h : e.stage.Tidy) :
    Ends (Engine.restore c t) e (fun _ e' => e'.Shown J)
      fun f e' => e'.stage.Tidy ∧ (KeepsShown J e e' ∨ e.Tears t f e') := by
  have hfound : ∀ s : Stage, s.Sane → s.session = e.session →
      s.Tidy ∧ KeepsShown J e (stagePlace.set s e) := by
    intro s hs hsession
    have hscene : SameScene e.stage s := congrArg Session.scene hsession
    exact ⟨h.of_sameScene hs hscene, fun hshown => hshown.withStage hs hscene⟩
  refine restore_ends ((Stage.scriptOf_sane h.sane t).mono (fun _ _ h => h) ?_) ?_ ?_
  · exact fun _ s hs => (hfound s hs.1 hs.2).imp_right .inl
  · exact fun _ s _ hs _ => (hfound s hs.2.1 hs.2.2).imp_right .inl
  · rintro cursor s ⟨hscript, hs, hsession⟩ hcursor
    have hadopted := hs.adopting ht (Cursor.rebind_sound hcursor).2 hscript
    have hretimed := Stage.retimeFromSession_sane (s.adopting t cursor) hadopted.sane
    refine Ends.iff_perform.2 ⟨fun _ s' hrun => ?_, fun f s' hrun => ?_⟩
    · rw [hrun] at hretimed
      exact (hc.enterLoading_shown (hadopted.of_sameScene hretimed.1 hretimed.2)).mono
        (fun _ _ h' => h') fun _ _ h' => ⟨hc.tidy h', .inl fun _ => h'⟩
    · rw [hrun] at hretimed
      exact ⟨hadopted.of_sameScene hretimed.1 hretimed.2, .inr ⟨cursor, s, hsession, hrun⟩⟩

theorem loadFrom_shown {read : Attempt Disk (Option Value)} {e : Engine σ} (h : e.stage.Tidy)
    (ht : ∀ t, Holds read e.stage.disk t → t.Sane) :
    Ends (loadFrom c read) e
      (fun loaded e' => e'.stage.Tidy ∧ KeepsShown J e e' ∧ (loaded → e'.Shown J))
      fun f e' => e'.stage.Tidy ∧
        (KeepsShown J e e' ∨ ∃ t, Holds read e.stage.disk t ∧ e.Tears t f e') := by
  have hdisk : ∀ d, KeepsShown J e (diskPlace.set d e) := KeepsShown.incidental.disk e
  refine loadFrom_ends (fun _ d _ _ => ⟨h.disk d, .inl (hdisk d)⟩)
    (fun _ d _ => ⟨h.disk d, hdisk d, nofun⟩) fun data t d hread hof => ?_
  have hheld : Holds read e.stage.disk t := ⟨data, d, hread, hof⟩
  refine Ends.mono (hc.restore_shown (ht t hheld) (h.disk d)) ?_ ?_
  · exact fun _ e' h' => ⟨hc.tidy h', fun _ => h', fun _ => h'⟩
  · rintro f e' ⟨hs', hkept | htears⟩
    · exact ⟨hs', .inl (trans_of (KeepsShown J) (hdisk d) hkept)⟩
    · exact ⟨hs', .inr ⟨t, hheld, htears⟩⟩

omit hc in
/-- Without a store nothing is loaded. -/
theorem withStore_shown {k : SaveStore → Play σ Bool} {Held : Snapshot → Prop} {e : Engine σ}
    (h : e.stage.Tidy)
    (hk : ∀ store, e.saves = some store → Ends (k store) e
      (fun loaded e' => e'.stage.Tidy ∧ KeepsShown J e e' ∧ (loaded → e'.Shown J))
      fun f e' => e'.stage.Tidy ∧ (KeepsShown J e e' ∨ ∃ t, Held t ∧ e.Tears t f e')) :
    Ends (do
      match ← requireStore with
      | none => return false
      | some store => k store) e
      (fun loaded e' => e'.stage.Tidy ∧ KeepsShown J e e' ∧ (loaded → e'.Shown J))
      fun f e' => e'.stage.Tidy ∧ (KeepsShown J e e' ∨ ∃ t, Held t ∧ e.Tears t f e') :=
  withStore_ends (fun _ => ⟨h.disk _, KeepsShown.incidental.disk e _, nofun⟩) hk

/-- A call that may take over a snapshot keeps the relation, unless it is torn. If it has taken one
over, the relation holds whether it held before or not. -/
theorem load_shown {e : Engine σ} (h : e.stage.Tidy) {call : HostCall} (hcall : call.loads)
    (ht : ∀ t, call.Brings e t → t.Sane) :
    Ends (call.load c) e
      (fun loaded e' => e'.stage.Tidy ∧ KeepsShown J e e' ∧ (loaded → e'.Shown J))
      fun f e' => e'.stage.Tidy ∧
        (KeepsShown J e e' ∨ ∃ t, call.Brings e t ∧ e.Tears t f e') := by
  cases call with
  | loadFromSlot slot =>
    refine withStore_shown h fun store hstore => Ends.bind_iff.2 (Ends.ofMishap_iff.2
      ⟨fun n hn => ?_, fun _ _ => ⟨h, .inl (refl_of (KeepsShown J) e)⟩⟩)
    refine (hc.loadFrom_shown h fun t hheld => ht t ⟨store, n, hstore, hn, hheld⟩).mono
      (fun _ _ h' => h') fun f e' h' => ⟨h'.1, h'.2.imp_right ?_⟩
    exact fun ⟨t, hheld, htears⟩ => ⟨t, ⟨store, n, hstore, hn, hheld⟩, htears⟩
  | quickload =>
    refine withStore_shown h fun store hstore => ?_
    refine (hc.loadFrom_shown h fun t hheld => ht t ⟨store, hstore, hheld⟩).mono
      (fun _ _ h' => h') fun f e' h' => ⟨h'.1, h'.2.imp_right ?_⟩
    exact fun ⟨t, hheld, htears⟩ => ⟨t, ⟨store, hstore, hheld⟩, htears⟩
  | restore t =>
    refine Ends.bind_iff.2 ((hc.restore_shown (ht t rfl) h).mono
      (fun _ e' h' => ⟨hc.tidy h', fun _ => h', fun _ => h'⟩)
      fun f e' h' => ⟨h'.1, h'.2.imp_right ?_⟩)
    exact fun htears => ⟨t, rfl, htears⟩
  | _ => cases hcall

end Collaborators.Regards

end

/-! ## Runs -/

/-- A run of a session that somebody watches: it is set up and starts to load, the host makes calls
of it however they end, and its surroundings change in between without a change of the view. The
snapshots that are taken over have parts of their types. The flag is up from a torn call on, until a
snapshot is taken over again. -/
inductive Viewing {β : Type} (c : Collaborators σ) (view : σ → β) (setup : Engine.Setup)
    (outside : σ) : Bool → Engine σ → Prop where
  | start {e : Engine σ} : Engine.ofSetup setup outside = .ok e →
    Viewing c view setup outside false ((Engine.enterLoading c).perform e).2
  | call {torn : Bool} {e : Engine σ} (call : HostCall) : Viewing c view setup outside torn e →
    (∀ t, call.Brings e t → t.Sane) → ¬call.Torn c e →
    Viewing c view setup outside torn ((call.run c).perform e).2
  | torn {torn : Bool} {e : Engine σ} (call : HostCall) : Viewing c view setup outside torn e →
    (∀ t, call.Brings e t → t.Sane) → call.Torn c e →
    Viewing c view setup outside true ((call.run c).perform e).2
  | loaded {torn : Bool} {e e' : Engine σ} (call : HostCall) : Viewing c view setup outside torn e →
    (∀ t, call.Brings e t → t.Sane) → (call.load c).perform e = (.ok true, e') →
    Viewing c view setup outside false e'
  | around {torn : Bool} {e : Engine σ} (x : Surroundings σ) : Viewing c view setup outside torn e →
    view x.outside = view e.outside → Viewing c view setup outside torn (e.within x)

namespace Viewing

variable {β : Type} {c : Collaborators σ} {view : σ → β} {setup : Engine.Setup} {outside : σ}
  {J : Scene → β → Prop} {torn : Bool} {e : Engine σ}

/-- A call that takes over no snapshot goes on with the run. -/
theorem play (h : Viewing c view setup outside torn e) {call : HostCall}
    (hcall : call.loads = false) :
    Viewing c view setup outside torn ((call.run c).perform e).2 := by
  have hbrings : ∀ t, ¬call.Brings e t := fun t ht => by
    cases call <;> first | exact ht | cases hcall
  exact h.call call (fun t ht => (hbrings t ht).elim) fun ⟨t, _, _, ht, _⟩ => hbrings t ht

/-- A call leaves the stage tidy, and keeps the relation unless it is torn. -/
theorem call_shown (hc : c.Regards fun s o => J s (view o)) (h : e.stage.Tidy) (call : HostCall)
    (ht : ∀ t, call.Brings e t → t.Sane) :
    ((call.run c).perform e).2.stage.Tidy ∧
      (¬call.Torn c e → KeepsShown (fun s o => J s (view o)) e ((call.run c).perform e).2) ∧
      ∀ e', (call.load c).perform e = (.ok true, e') → e'.Shown fun s o => J s (view o) := by
  cases hcall : call.loads with
  | false =>
    refine ⟨hc.run_tidy h hcall, fun _ => hc.run_shown hcall e, fun e' hload => ?_⟩
    have hfalse : Ends (call.load c) e (fun loaded _ => loaded = false) fun _ _ => True := by
      rw [HostCall.load_of_not_loads hcall]
      exact Ends.bind_iff.2 (Ends.iff_perform.2 ⟨fun _ _ _ => rfl, fun _ _ _ => trivial⟩)
    exact absurd ((Ends.iff_perform.1 hfalse).1 true e' hload) (by decide)
  | true =>
    have hload := Ends.iff_perform.1 (hc.load_shown h hcall ht)
    rcases hrun : (call.load c).perform e with ⟨f | loaded, e'⟩
    · have hstate : ((call.run c).perform e).2 = e' := by
        rw [call.run_eq_discard_load c, HostCall.discard_eq, Action.perform_bind_error hrun]
      obtain ⟨htidy, hend⟩ := hload.2 f e' hrun
      rw [hstate]
      refine ⟨htidy, fun htorn => hend.resolve_right ?_, fun _ h' => by cases h'⟩
      exact fun ⟨t, hbrings, htears⟩ => htorn ⟨t, f, e', hbrings, hrun, htears⟩
    · have hstate : ((call.run c).perform e).2 = e' := by
        rw [call.run_eq_discard_load c, HostCall.discard_eq, Action.perform_bind_ok hrun]
        rfl
      obtain ⟨htidy, hkept, hshown⟩ := hload.1 loaded e' hrun
      rw [hstate]
      refine ⟨htidy, fun _ => hkept, ?_⟩
      rintro _ ⟨⟩
      exact hshown rfl

/-- The relation holds all along a run, as long as no call was torn since a snapshot was taken
over. -/
theorem shown (hc : c.Regards fun s o => J s (view o)) (hscript : setup.script.Fits)
    (hlibrary : ∀ l, setup.library = some l → l.Compiles) (hconfig : setup.config.Sane)
    (hdice : ∀ v ∈ setup.dice.rolls, ∃ n, v = .int n) (h : Viewing c view setup outside torn e) :
    e.stage.Tidy ∧ (torn = false → J e.session.scene (view e.outside)) := by
  induction h with
  | @start e hsetup =>
    have hstage := Engine.ofSetup_sane hscript hlibrary hconfig hdice hsetup
    have hdistinct : Table.Distinct e.session.scene.sprites := by
      obtain ⟨s, hs, hsetup⟩ := bind_eq_ok.1 hsetup
      cases hsetup
      obtain ⟨_, _, _, _, _, _, _, _, rfl, _⟩ := Engine.initialStage_ok hs
      exact Table.distinct_nil
    have hshown := Ends.state_iff.1 (hc.enterLoading_shown ⟨hstage, hdistinct⟩)
    exact ⟨hc.tidy hshown, fun _ => hshown.scene⟩
  | @call torn e call _ ht htorn ih =>
    obtain ⟨hs, hkept, -⟩ := call_shown hc ih.1 call ht
    exact ⟨hs, fun h => (hkept htorn ⟨ih.1.sane, ih.2 h⟩).scene⟩
  | torn call _ ht _ ih => exact ⟨(call_shown hc ih.1 call ht).1, nofun⟩
  | loaded call _ ht hrun ih =>
    have hshown := (call_shown hc ih.1 call ht).2.2 _ hrun
    exact ⟨hc.tidy hshown, fun _ => hshown.scene⟩
  | around x _ hview ih =>
    refine ⟨ih.1.disk x.disk, fun h => ?_⟩
    show J _ (view x.outside)
    rw [hview]
    exact ih.2 h

end Viewing

end VisualNovel
