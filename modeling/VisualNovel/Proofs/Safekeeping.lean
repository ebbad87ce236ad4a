import VisualNovel.Proofs.Lifecycle
import VisualNovel.Proofs.Retrieval
import VisualNovel.Proofs.Slots

/-!
# What calls leave alone

However a call ends, the stage stays kept, no script is forgotten, and what stands in a slot that
the call does not write stays there: `HostCall.run_guards`. The collaborators may fail, and they may
call back, as long as they keep to that themselves.
-/

namespace VisualNovel

open Script

variable {σ : Type} {main : Script} {P : Int → Prop}

theorem Action.perform_ofMishap {α : Type} {r : Except Mishap α} {a : α} {s s' : σ}
    (h : (Action.ofMishap r).perform s = (.ok a, s')) : r = .ok a ∧ s' = s := by
  have hread : Ends (Action.ofMishap r) s (fun a s' => r = .ok a ∧ s' = s) fun _ _ => True :=
    Ends.ofMishap_iff.2 ⟨fun _ ha => ⟨ha, rfl⟩, fun _ _ => trivial⟩
  exact (Ends.iff_perform.1 hread).1 a s' h

/-! ## Slots of an engine -/

namespace Engine

/-- A record stands in a slot of the engine's store. -/
def Stands (n : Int) (v : Value) (e : Engine σ) : Prop :=
  ∃ store, e.saves = some store ∧ store.Stands e.stage.disk.files n v

/-- What stands in some slots stays there. -/
def Spares (P : Int → Prop) (e e' : Engine σ) : Prop :=
  ∀ n v, P n → e.Stands n v → e'.Stands n v

instance : IsPreorder (Engine σ) (Spares P) where
  refl _ _ _ _ h := h
  trans _ _ _ h h' n v hn hv := h' n v hn (h n v hn hv)

/-- Whatever snapshot the saves give out could have been saved. -/
def Recoverable (e : Engine σ) : Prop :=
  ∀ store, e.saves = some store → store.Recoverable

/-- The stage is kept, and so it stays if a save is loaded. -/
structure Kept (main : Script) (e : Engine σ) : Prop where
  stage : e.stage.Kept main
  saves : e.Recoverable

variable {e e' : Engine σ}

theorem Recoverable.of_same (h : e.Recoverable) (hsaves : e'.saves = e.saves) : e'.Recoverable :=
  fun store hstore => h store (hsaves.symm.trans hstore)

theorem Spares.of_same (hfiles : e'.stage.disk.files = e.stage.disk.files)
    (hsaves : e'.saves = e.saves) : Spares P e e' := by
  rintro n v - ⟨store, hstore, hv⟩
  refine ⟨store, hsaves.trans hstore, ?_⟩
  rwa [hfiles]

/-- Only the surroundings have changed, and what stands in the slots stays. -/
structure Aloof (P : Int → Prop) (e e' : Engine σ) : Prop where
  within : Within e e'
  spares : Spares P e e'
  recoverable : e.Recoverable → e'.Recoverable

/-- What stays so from an engine that is kept. -/
structure Guarded (main : Script) (P : Int → Prop) (e e' : Engine σ) : Prop where
  kept : e'.Kept main
  remembers : e.stage.Remembers e'.stage
  spares : Spares P e e'

def Guards (main : Script) (P : Int → Prop) (e e' : Engine σ) : Prop :=
  e.Kept main → Guarded main P e e'

instance : IsPreorder (Engine σ) (Guards main P) where
  refl e h := ⟨h, .of_same rfl, refl_of (Spares P) e⟩
  trans _ _ _ h h' hk :=
    have h₁ := h hk
    have h₂ := h' h₁.kept
    ⟨h₂.kept, h₁.remembers.trans h₂.remembers, trans_of (Spares P) h₁.spares h₂.spares⟩

theorem Aloof.guards (h : Aloof P e e') : Guards main P e e' := by
  obtain ⟨⟨x, rfl⟩, hspares, hrecoverable⟩ := h
  exact fun hk => ⟨⟨hk.stage.disk x.disk, hrecoverable hk.saves⟩, .of_same rfl, hspares⟩

theorem Guarded.of_since (hk : e.Kept main) (hs : Stage.KeptSince main e.stage e'.stage)
    (hsaves : e'.saves = e.saves) : Guarded main P e e' :=
  ⟨⟨hs.kept, hk.saves.of_same hsaves⟩, hs.retains.remembers, .of_same hs.retains.files hsaves⟩

/-- What is neither of the stage nor of the saves has changed. -/
theorem guards_of_same (hstage : e'.stage = e.stage) (hsaves : e'.saves = e.saves) :
    Guards main P e e' := by
  refine fun hk => .of_since hk ?_ hsaves
  rw [hstage]
  exact ⟨hk.stage, refl_of Stage.Retains e.stage⟩

/-- The stage has been edited. -/
theorem guards_of_edit {s : Stage} (hs : e.stage.Kept main → s.Kept main)
    (hr : e.stage.Retains s) : Guards main P e { e with stage := s } :=
  fun hk => .of_since hk ⟨hs hk.stage, hr⟩ rfl

theorem Guards.calm : Calm (Guards main P : Engine σ → Engine σ → Prop) where
  noted _ _ _ := guards_of_edit (fun hk => hk.disk _) (.of_same rfl rfl rfl)
  timed _ t _ := guards_of_edit (fun hk => hk.timed t) (.of_same rfl rfl rfl)
  completed _ := guards_of_edit
    (fun hk => hk.cursor rfl (Likeness.advance_sound hk.live.sound)) (.of_same rfl rfl rfl)
  flagged _ name n := guards_of_edit (fun hk => hk.flag name n) (.of_same rfl rfl rfl)
  captured _ := guards_of_edit (fun hk => hk.keeping hk.live) (.of_same rfl rfl rfl)
  released _ := guards_of_edit (fun hk => hk.release) (.of_same rfl rfl rfl)
  conversation _ := .onPart_of Stage.switchConversation_kept fun _ _ hs hk =>
    .of_since hk (hs hk.stage) rfl
  awaiting _ _ := guards_of_same rfl rfl
  menu _ _ := guards_of_same rfl rfl
  dropped _ := guards_of_same rfl rfl
  bus _ _ := guards_of_same rfl rfl
  mode _ _ := guards_of_same rfl rfl
  cleared _ := guards_of_same rfl rfl

end Engine

open Engine

/-- Whatever the collaborators do, and however it ends, is in a relation. -/
structure Collaborators.Heeds (c : Collaborators σ) (R : Engine σ → Engine σ → Prop) : Prop where
  prepare : ∀ scene, Tracks R (c.prepare scene)
  apply : ∀ i, Tracks R (c.apply i)
  showError : ∀ text, Tracks R (c.showError text)
  deliver : ∀ id event, Tracks R (c.deliver id event)
  systemCall : ∀ args, Tracks R (c.systemCall args)
  finished : Tracks R c.finished

section
variable {c : Collaborators σ}

namespace Collaborators.Heeds

theorem mono {R S : Engine σ → Engine σ → Prop} (h : c.Heeds R)
    (hRS : ∀ {e e'}, R e e' → S e e') : c.Heeds S where
  prepare scene := (h.prepare scene).mono hRS
  apply i := (h.apply i).mono hRS
  showError text := (h.showError text).mono hRS
  deliver id event := (h.deliver id event).mono hRS
  systemCall args := (h.systemCall args).mono hRS
  finished := h.finished.mono hRS

theorem backstage {R : Engine σ → Engine σ → Prop} (h : c.Heeds R) : c.Backstage R where
  apply i _ _ := h.apply i
  showError := h.showError
  deliver := h.deliver
  systemCall := h.systemCall
  finished := h.finished

end Collaborators.Heeds

theorem Collaborators.recording_heeds : recording.Heeds Within where
  prepare _ e := refl_of Within e
  apply i e := ⟨{ e.surroundings with outside := e.outside ++ i.toList }, rfl⟩
  showError _ e := refl_of Within e
  deliver _ _ e := refl_of Within e
  systemCall _ e := refl_of Within e
  finished e := refl_of Within e

variable (hc : c.Heeds (Guards main P))
include hc

namespace Engine

/-! ## Lines and commands -/

theorem emit_guards (event : Event) : Tracks (Guards main P) (emit c event) :=
  emit_tracks Guards.calm.unheard hc.deliver event

theorem display_guards {text : Value} (htext : text.plain) (speaker : Value) (wait : Bool) :
    Tracks (Guards main P) (display c text speaker wait) := by
  have happear : Tracks (Guards main P) (display.appear text : Play σ Value) :=
    appear_tracks_of
      (.attempt fun e t => guards_of_edit (fun hk => hk.timed t) (.of_same rfl rfl rfl))
      fun e => Guards.calm.awaiting e _
  refine display_tracks_of (fun _ => hc.apply _) (fun _ => emit_guards hc _)
    (fun _ _ => guards_of_same rfl rfl)
    (fun e => guards_of_edit (fun hk => ?_) (.of_same rfl rfl rfl)) (fun _ => happear) speaker
  exact hk.scene (hk.live.storable.scene.speak htext)

theorem settle_guards {o : Outcome} (ho : ∀ options line, o = .ask options line → line.plain) :
    Tracks (Guards main P) (settle c o) := by
  cases o with
  | proceed intents =>
    have hsends : Tracks (Guards main P) (intents.forM fun i => c.apply (some i)) :=
      .forM fun i _ => hc.apply (some i)
    exact hsends.bind fun _ => Guards.calm.completeBeat
  | stay => exact .pure
  | hold kind payload =>
    refine .bind (.modify fun e => guards_of_same rfl rfl) fun _ => ?_
    exact (Guards.calm.setMode hc.backstage _).bind fun _ => .get_bind fun e => hc.apply _ e
  | ask options line =>
    exact Guards.calm.present hc.backstage options (display_guards hc (ho options line rfl) _ _)
  | call args => exact (hc.backstage.systemCall args).bind fun _ => Guards.calm.completeBeat

theorem execute_guards {cmd : Script.Command} (htyped : cmd.Typed) :
    Tracks (Guards main P) (execute c cmd) := by
  unfold execute
  cases hw : Command.wellFormed cmd with
  | false => exact refl_of (Guards main P)
  | true =>
    refine Tracks.bind (emit_guards hc _) fun _ e hk => ?_
    have hperform : Ends (onStage (Command.perform cmd)) e
        (fun o e' => Guarded main P e e' ∧ ∀ options line, o = .ask options line → line.plain)
        fun _ e' => Guarded main P e e' :=
      Ends.onPart_iff.2 ((Command.perform_kept hk.stage hw htyped).mono
        (fun _ _ h => ⟨.of_since hk h.1 rfl, h.2⟩) fun _ _ h => .of_since hk h rfl)
    refine Tracks.bind_at (R := Guards main P) (fun _ => ?_) (fun o e' hrun => ?_) hk
    · exact Ends.state_iff.1 (hperform.mono (fun _ _ h => h.1) fun _ _ h => h)
    · exact settle_guards hc ((Ends.iff_perform.1 hperform).1 o e' hrun).2 e'

end Engine

end

/-! ## Saving -/

namespace HostCall

/-- Whether the call is one that saves to a slot. -/
def writes (n : Int) : HostCall → Prop
  | saveToSlot slot => slot.toInt = .ok n
  | autosave => n = autosaveSlot
  | _ => False

/-- The call saves to none of some slots. -/
def Avoids (P : Int → Prop) (call : HostCall) : Prop :=
  ∀ n, P n → ¬call.writes n

end HostCall

namespace Engine

variable {e : Engine σ}

/-- The snapshot to save is one of a session whose script can be found again. -/
theorem persistent_retrievable (h : e.stage.Kept main) :
    ∃ x : Session, x.live = e.session.persistent ∧ e.stage.Retrievable main x := by
  unfold Session.persistent
  cases hsafe : e.session.safe with
  | none => exact ⟨e.session, rfl, h.live⟩
  | some t => exact h.safe t hsafe

theorem withStore_guards {k : SaveStore → Play σ Bool}
    (hk : ∀ store, e.saves = some store → Guards main P e ((k store).perform e).2) :
    Guards main P e ((do
      match ← requireStore with
      | none => return false
      | some store => k store : Play σ Bool).perform e).2 := by
  refine fun h => Ends.state_iff.1 (withStore_ends (fun _ => Guards.calm.noted e _ _ h) ?_)
  exact fun store hsaves => Ends.state_iff.2 (hk store hsaves h)

theorem saveTo_guards {write : String → Value → Attempt Disk (Bool × SaveStore)} {store : SaveStore}
    (hwrite : ∀ now payload (d : Disk) n v, P n → store.Stands d.files n v →
      Ends (write now payload) d (fun r d' => r.2.Stands d'.files n v)
        fun _ d' => store.Stands d'.files n v)
    (hrecoverable : ∀ now payload (d : Disk), store.Recoverable →
      (∀ kept, stamp now payload = .ok kept → (Value.record kept).Recoverable) →
      Ends (write now payload) d (fun r _ => r.2.Recoverable) fun _ _ => True)
    (hsaves : e.saves = some store) :
    Guards main P e ((saveTo write : Play σ Bool).perform e).2 := by
  intro hk
  obtain ⟨x, hx, hretrievable⟩ := persistent_retrievable hk.stage
  have hstorable : e.session.persistent.Storable := hx ▸ hretrievable.storable
  have hdisk : ∀ d saves, Engine.Recoverable { e with saves } →
      Spares P e { diskPlace.set d e with saves } →
      Guarded main P e { diskPlace.set d e with saves } :=
    fun d saves hr hs => ⟨⟨hk.stage.disk d, hr⟩, .of_same rfl, hs⟩
  refine Ends.state_iff.1 (Ends.bind_iff.2 (Ends.get_iff.2 (Ends.bind_iff.2
    (Ends.ofMishap_iff.2 ⟨fun payload hpayload => ?_, fun _ _ => refl_of (Guards main P) e hk⟩))))
  have hspares : Ends (write e.now payload) e.stage.disk
      (fun r d => Spares P e { diskPlace.set d e with saves := some r.2 })
      fun _ d => Spares P e (diskPlace.set d e) := by
    refine Ends.iff_attempted.2 ⟨?_, ?_⟩
    · rintro r d hrun n v hn ⟨store₁, hstore₁, hv⟩
      cases hsaves.symm.trans hstore₁
      have hends := Ends.iff_attempted.1 (hwrite e.now payload _ n v hn hv)
      exact ⟨r.2, rfl, hends.1 r d hrun⟩
    · rintro m d hrun n v hn ⟨store₁, hstore₁, hv⟩
      cases hsaves.symm.trans hstore₁
      have hends := Ends.iff_attempted.1 (hwrite e.now payload _ n v hn hv)
      exact ⟨store, hsaves, hends.2 m d hrun⟩
  have hends := Ends.and hspares (hrecoverable e.now payload e.stage.disk (hk.saves store hsaves)
    fun kept hkept => Snapshot.recoverable_stamped hstorable hpayload hkept)
  refine Ends.bind_iff.2 (Ends.attempt_iff.2 (hends.mono ?_ ?_))
  · rintro ⟨ok, store'⟩ d ⟨hspared, hrec⟩
    refine Ends.bind_iff.2 (Ends.modify_iff.2 (hdisk d (some store') ?_ hspared))
    rintro _ ⟨⟩
    exact hrec
  · rintro m d ⟨hspared, -⟩
    exact hdisk d e.saves hk.saves hspared

theorem saveToSlot_guards {slot : Value} (hslot : ∀ n, P n → slot.toInt ≠ .ok n) :
    Tracks (Guards main P : Engine σ → Engine σ → Prop) (saveToSlot slot) := by
  refine fun e => withStore_guards fun store hsaves => ?_
  refine Tracks.bind_at (R := Guards main P) (Tracks.ofMishap e) fun m e' hrun => ?_
  obtain ⟨hm, rfl⟩ := Action.perform_ofMishap hrun
  refine saveTo_guards (fun now payload d n v hn hv => ?_)
    (fun now payload d h hkept => SaveStore.writeSlot_recoverable h hkept _ d) hsaves
  refine SaveStore.writeSlot_spares hv now payload fun hint => hslot n hn ?_
  rw [hm]
  exact hint

theorem quicksave_guards : Tracks (Guards main P : Engine σ → Engine σ → Prop) quicksave :=
  fun _ => withStore_guards fun _ hsaves =>
    saveTo_guards (fun now payload _ _ _ _ hv => SaveStore.writeQuick_spares hv now payload)
      (fun _ _ d h hkept => SaveStore.writeQuick_recoverable h hkept d) hsaves

theorem saves_guards (c : Collaborators σ) {call : HostCall} (hsaves : call.saves)
    (hcall : call.Avoids P) : Tracks (Guards main P) (call.run c) := by
  cases call with
  | saveToSlot slot => exact (saveToSlot_guards hcall).discard
  | quicksave => exact quicksave_guards.discard
  | autosave =>
    have hslot : ∀ n, P n → (Value.int autosaveSlot).toInt ≠ .ok n := fun n hn hint =>
      hcall n hn (Except.ok.inj hint).symm
    exact (saveToSlot_guards hslot).discard
  | _ => cases hsaves

/-! ## Loading -/

variable {c : Collaborators σ} (hc : c.Heeds (Guards main P))
include hc

theorem enterLoading_guards : Tracks (Guards main P) (enterLoading c) :=
  Guards.calm.enterLoading hc.backstage fun e => hc.prepare _ e

theorem restore_guards {t : Snapshot} (ht : t.Storable) (hname : t.script.IsText) :
    Tracks (Guards main P) (restore c t) := by
  intro e hk
  have hfound : ∀ {s}, e.stage.Unmoved s → Stage.KeptSince main e.stage s := fun hu =>
    ⟨hk.stage.unmoved hu, hu.retains⟩
  refine Ends.state_iff.1 (restore_ends
    ((hk.stage.scriptOf hname).mono (fun _ _ h => h) fun _ s hu => .of_since hk (hfound hu) rfl)
    (fun _ s _ hs _ => .of_since hk (hfound hs.1) rfl) ?_)
  rintro cursor s ⟨hu, htyped, hplayed⟩ hcursor
  have hsound : cursor.Sound := (Cursor.rebind_sound hcursor).2
  have hadopted := (hfound hu).kept.adopting ht htyped hsound (hplayed _ rfl rfl rfl)
  have hsince := (hfound hu).edit hadopted.kept hadopted.retains
  refine (Tracks.iff_ends.1 Stage.retimeFromSession_timed _).mono ?_ ?_
  · rintro _ _ ⟨u, rfl⟩
    refine Ends.state_iff.2 (trans_of (Guards main P) (fun _ => ?_) (enterLoading_guards hc _) hk)
    exact .of_since hk (hsince.timed u) rfl
  · rintro _ _ ⟨u, rfl⟩
    exact .of_since hk (hsince.timed u) rfl

theorem loadFrom_guards {read : Attempt Disk (Option Value)} {store : SaveStore} {e : Engine σ}
    (hsaves : e.saves = some store)
    (hread : ∀ n v, P n → store.Stands e.stage.disk.files n v →
      Ends read e.stage.disk (fun _ d' => store.Stands d'.files n v)
        fun _ d' => store.Stands d'.files n v)
    (hfound : store.Recoverable → Ends read e.stage.disk
      (fun found _ => ∀ v, found = some v → v.Recoverable) fun _ _ => True) :
    Guards main P e ((loadFrom c read).perform e).2 := by
  intro hk
  have hdisk :
      ∀ r d, read.perform e.stage.disk = (r, d) → Guarded main P e (diskPlace.set d e) := by
    intro r d hrun
    refine ⟨⟨hk.stage.disk d, hk.saves.of_same rfl⟩, .of_same rfl, ?_⟩
    rintro n v hn ⟨store₁, hstore₁, hv⟩
    cases hsaves.symm.trans hstore₁
    refine ⟨store, hsaves, ?_⟩
    obtain ⟨hok, herror⟩ := Ends.iff_attempted.1 (hread n v hn hv)
    cases r with
    | ok found => exact hok found d hrun
    | error m => exact herror m d hrun
  refine Ends.state_iff.1 (loadFrom_ends (fun r d _ hrun => hdisk r d hrun)
    (fun r d hrun => hdisk r d hrun) fun data t d hrun hof => ?_)
  have hrecoverable := (Ends.iff_attempted.1 (hfound (hk.saves store hsaves))).1 _ d hrun
  obtain ⟨hstorable, hname⟩ : t.Storable ∧ t.script.IsText := hrecoverable data rfl t hof
  exact Ends.state_iff.2 (trans_of (Guards main P) (fun _ => hdisk _ d hrun)
    (restore_guards hc hstorable hname _) hk)

end Engine

/-! ## All calls -/

variable {c : Collaborators σ} (hc : c.Heeds (Guards main P))
include hc

/-- A call that takes over no snapshot. -/
theorem HostCall.play_guards {call : HostCall} (hloads : call.loads = false)
    (hcall : call.Avoids P) : Tracks (Guards main P) (call.run c) := by
  refine Guards.calm.run hc.backstage (fun _ _ => guards_of_same rfl rfl)
    (fun _ _ => guards_of_same rfl rfl) (fun e d hd hk => ?_) (fun e cmd hcmd hk => ?_)
    (fun hsaves => saves_guards c hsaves hcall) hloads
  · have htext : d.text.IsText := hk.stage.beat_typed hd
    exact display_guards hc htext.plain _ _ e hk
  · exact execute_guards hc (hk.stage.beat_typed hcmd) e hk

/-- However a call ends, the engine stays kept, and what stands in a slot that the call does not
write stays there, if a snapshot that the host restores could have been saved. -/
theorem HostCall.run_guards {call : HostCall} (hcall : call.Avoids P)
    (ht : ∀ t, call = .restore t → t.Storable ∧ t.script.IsText) :
    Tracks (Guards main P) (call.run c) := by
  cases call with
  | loadFromSlot slot =>
    refine Tracks.discard fun e => withStore_guards fun store hsaves => ?_
    refine Tracks.bind_at (R := Guards main P) (Tracks.ofMishap e) fun n e' hrun => ?_
    obtain ⟨hn, rfl⟩ := Action.perform_ofMishap hrun
    exact loadFrom_guards hc hsaves (fun m v _ hv => SaveStore.readSlot_spares hv _)
      fun h => SaveStore.readSlot_recoverable h _ _
  | quickload =>
    exact Tracks.discard fun e => withStore_guards fun store hsaves =>
      loadFrom_guards hc hsaves (fun m v _ hv => SaveStore.readQuick_spares hv)
        fun h => SaveStore.readQuick_recoverable h _
  | restore t => exact restore_guards hc (ht t rfl).1 (ht t rfl).2
  | _ => exact play_guards hc rfl hcall

end VisualNovel
