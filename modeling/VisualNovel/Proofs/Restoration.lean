import VisualNovel.Proofs.Safekeeping

/-!
# A save brings the session back

A session is saved to a slot, the host goes on in any way that leaves the slot alone, and then it
loads the slot. If the load works, the session is the one that was saved, nothing of what came in
between is pending, and the renderer has been asked to prepare the scene that was saved:
`Engine.Course.brings_back`.

In between the collaborators may call back, as deep as they like. While the engine starts to load
they must leave it alone: a listener that sets a flag then has set it in the session that comes back
(`Engine.flagging_changes_load`).
-/

namespace VisualNovel

open Script

variable {σ : Type} {main : Script} {P Q : Int → Prop} {c : Collaborators σ}

/-- Whether listeners hear of an event when an engine starts to load. -/
def Event.loads : Event → Bool
  | modeChanged _ new => new == .loading
  | loaded _ _ => true
  | _ => false

/-! ## Who calls back -/

/-- Listeners and renderer leave an engine alone that starts to load. -/
structure Collaborators.Still (c : Collaborators σ) : Prop where
  prepare : ∀ scene, Tracks Within (c.prepare scene)
  deliver : ∀ id event, event.loads → Tracks Within (c.deliver id event)

namespace Engine

variable {e e' : Engine σ}

/-! ## Runs -/

/-- A run of calls, however they end, and of other surroundings in between. What stands in some
slots stays there: the call and the collaborators leave them alone, or have done so. The snapshots
that the host restores could have been saved. -/
inductive Course (c : Collaborators σ) (main : Script) (P : Int → Prop) :
    Engine σ → Engine σ → Prop where
  | refl (e : Engine σ) : Course c main P e e
  | call {e e' : Engine σ} (call : HostCall) : Course c main P e e' →
    (∀ t, call = .restore t → t.Storable ∧ t.script.IsText) →
    c.Heeds (Guards main P) ∧ call.Avoids P ∨ Spares P e' ((call.run c).perform e').2 →
    Course c main P e ((call.run c).perform e').2
  | around {e e' : Engine σ} (x : Surroundings σ) : Course c main P e e' →
    Aloof P e' (e'.within x) → Course c main P e (e'.within x)

theorem Course.guards (hc : c.Heeds (Guards main fun _ => False)) (h : Course c main P e e') :
    Guards main P e e' := by
  induction h with
  | refl => exact refl_of (Guards main P) e
  | @call e' call _ ht hleaves ih =>
    refine trans_of (Guards main P) ih ?_
    rcases hleaves with ⟨hheeds, havoids⟩ | hspares
    · exact HostCall.run_guards hheeds havoids ht e'
    · intro hk
      have hguarded : Guarded main (fun _ => False) e' ((call.run c).perform e').2 :=
        HostCall.run_guards hc (fun _ hn => hn.elim) ht e' hk
      exact ⟨hguarded.kept, hguarded.remembers, hspares⟩
  | around x _ haloof ih => exact trans_of (Guards main P) ih haloof.guards

/-- An engine that has not started is kept, if what its saves give out could have been saved. -/
theorem start_kept {setup : Setup} {outside : σ} (hsetup : ofSetup setup outside = .ok e)
    (hscript : setup.script.Typed) (hconfig : setup.config.toValue.plain)
    (hlibrary : ∀ l, setup.library = some l → l.Typed)
    (hsaves : ∀ store, setup.saves = some store → store.Recoverable) : e.Kept setup.script := by
  have hfaithful := Stage.initial_faithful hsetup hscript hconfig hlibrary
  have hregular := hfaithful.regular
  obtain ⟨s, hs, h⟩ := bind_eq_ok.1 hsetup
  cases h
  refine ⟨⟨hregular.storable.config, hregular.script, hregular.inStep, hregular.library,
    ⟨hregular.storable.live, hregular.sound,
      hfaithful.belongs.played.congr hregular.inStep rfl rfl⟩, ?_⟩, hsaves⟩
  obtain ⟨cursor, overrides, t₀, t, -, -, -, -, rfl, -⟩ := initialStage_ok hs
  intro t ht
  cases ht

/-! ## The save -/

/-- What a save would write of the session is read back as it was written. -/
def ReadsBack (e : Engine σ) : Prop :=
  ∀ v kept text, e.session.persistent.toValue = .ok v → stamp e.now v = .ok kept →
    Json.write Json.indented (.record kept) = .ok text → Json.read text = .ok (.record kept)

/-- A save that worked has left the snapshot in the slot. -/
theorem saveToSlot_leaves {slot : Value} {n : Int} (hslot : slot.toInt = .ok n)
    (hjson : ∀ base, e.saves = some (.folder base) → e.ReadsBack) :
    Ends (saveToSlot slot) e
      (fun ok e' => ok → ∃ v kept, e.session.persistent.toValue = .ok v ∧
        stamp e.now v = .ok kept ∧ e'.Stands n (.record kept))
      fun _ _ => True := by
  refine withStore_ends (fun _ => nofun) fun store hsaves => ?_
  refine Ends.bind_iff.2 (Ends.ofMishap_iff.2 ⟨fun m hm => ?_, fun _ _ => trivial⟩)
  cases hslot.symm.trans hm
  refine Ends.bind_iff.2 (Ends.get_iff.2 (Ends.bind_iff.2 (Ends.ofMishap_iff.2
    ⟨fun v hv => ?_, fun _ _ => trivial⟩)))
  have hleaves := store.writeSlot_leaves e.now n v e.stage.disk
    fun base kept text hstore hkept htext => hjson base (hstore ▸ hsaves) v kept text hv hkept htext
  refine Ends.bind_iff.2 (Ends.attempt_iff.2 (hleaves.mono ?_ fun _ _ _ => trivial))
  rintro ⟨ok, store'⟩ d hdone hok
  obtain ⟨kept, hkept, hstands⟩ := hdone hok
  exact ⟨v, kept, hv, hkept, store', rfl, hstands⟩

/-- In memory a save always works. -/
theorem saveToSlot_works {saves : MemorySaves} (hsaves : e.saves = some (.memory saves))
    (h : e.stage.Kept main) {slot : Value} {n : Int} (hslot : slot.toInt = .ok n) :
    ((saveToSlot slot).perform e).1 = .ok true := by
  obtain ⟨x, hx, hretrievable⟩ := persistent_retrievable h
  have hpayload : ∃ fs, e.session.persistent.toValue = .ok (.record fs) := by
    rw [← hx, Snapshot.toValue_of_storable hretrievable.storable]
    exact ⟨_, rfl⟩
  obtain ⟨fs, hfs⟩ := hpayload
  have hworks : Ends (saveToSlot slot) e (fun ok _ => ok = true) fun _ _ => False := by
    refine withStore_ends (fun hnone => ?_) fun store hstore => ?_
    · rw [hsaves] at hnone
      cases hnone
    cases hsaves.symm.trans hstore
    refine Ends.bind_iff.2 (Ends.ofMishap_iff.2 ⟨fun m _ => ?_, fun f hf => ?_⟩)
    · refine Ends.bind_iff.2 (Ends.get_iff.2 (Ends.bind_iff.2 (Ends.ofMishap_iff.2
        ⟨fun v hv => ?_, fun f hf => ?_⟩)))
      · cases hfs.symm.trans hv
        exact Ends.bind_iff.2 (Ends.attempt_iff.2 rfl)
      · cases hfs.symm.trans hf
    · cases hslot.symm.trans hf
  obtain ⟨ok, e', hrun, hok⟩ := hworks.performs fun _ _ h => h
  rw [hrun, hok]

/-! ## The load -/

/-- The engine has started to load a snapshot: its session is the one of the snapshot, nothing is
pending, and the renderer has prepared the scene. -/
structure Returned (c : Collaborators σ) (t : Snapshot) (e : Engine σ) : Prop where
  mode : e.mode = .loading
  session : e.session.persistent = t
  effect : e.effect = none
  menu : e.menu = none
  awaiting : e.awaiting = false
  error : e.error = none
  prepared : ∃ f, (c.prepare t.scene).perform f = (.ok (), e)

theorem emit_still (hc : c.Still) {event : Event} (hloads : event.loads) :
    Tracks Within (emit c event) := by
  let told : Collaborators σ := { c with deliver := fun id _ => c.deliver id event }
  have htold : Tracks Within (emit told event) :=
    emit_within (fun id _ => hc.deliver id event hloads) event
  exact htold

/-- An engine starts to load and is otherwise left alone. -/
theorem enterLoading_still (hc : c.Still) (e : Engine σ) :
    Ends (enterLoading c) e
      (fun _ e' => Within { e with mode := .loading } e' ∧
        ∃ f, (c.prepare e.session.scene).perform f = (.ok (), e'))
      fun _ _ => True := by
  have hmode : Within { e with mode := .loading } ((setMode c .loading).perform e).2 := by
    by_cases hsame : e.mode = .loading
    · rw [setMode_same hsame, ← hsame]
      exact refl_of Within e
    · unfold setMode
      rw [Action.perform_get_bind]
      dsimp only
      rw [if_pos (by simpa using hsame), Action.perform_modify_bind]
      exact emit_still hc rfl _
  refine Ends.bind_iff.2 ((Ends.state_iff.2 hmode).mono ?_ fun _ _ _ => trivial)
  rintro _ e₁ hmode
  refine Ends.bind_iff.2 (Ends.get_iff.2 (Ends.bind_iff.2 ?_))
  have hloaded := trans_of Within hmode
    (emit_still hc (show (Event.loaded e₁.script.name e₁.cursor.conversation).loads from rfl) e₁)
  refine (Ends.state_iff.2 hloaded).mono ?_ fun _ _ _ => trivial
  rintro _ e₂ ⟨x, rfl⟩
  refine Ends.bind_iff.2 (Ends.get_iff.2 (Ends.iff_perform.2 ⟨fun _ e₃ hprepare => ?_,
    fun _ _ _ => trivial⟩))
  have hprepared := hc.prepare e.session.scene ({ e with mode := .loading }.within x)
  have hprepare : (c.prepare e.session.scene).perform ({ e with mode := .loading }.within x) =
      (.ok (), e₃) := hprepare
  rw [hprepare] at hprepared
  exact ⟨trans_of Within ⟨x, rfl⟩ hprepared, _, hprepare⟩

/-- A session whose script gave it its name is the one that its snapshot leads to. -/
theorem adopting_live {s : Stage} {x : Session}
    (hname : x.cursor.script.name.orElse x.scriptName = x.scriptName) :
    (s.adopting x.live x.cursor).session.persistent = x.live := by
  show ({ x.live with script := x.cursor.script.name.orElse x.scriptName } : Snapshot) = x.live
  rw [hname]
  rfl

/-- A snapshot is taken over as it is, if it leads to the script that it was made of. -/
theorem restore_returns (hc : c.Still) {t : Snapshot} {x : Session} (hx : x.live = t)
    (hsound : x.cursor.Sound) (hname : x.cursor.script.name.orElse x.scriptName = x.scriptName)
    (hscript : Ends (scriptOf t) e.stage
      (fun script s => script = x.cursor.script ∧ e.stage.Unmoved s) fun _ _ => True) :
    Ends (restore c t) e (fun _ e' => Returned c t e') fun _ _ => True := by
  subst hx
  have hposition : Cursor.rebind x.cursor.script x.live.cursor = .ok x.cursor :=
    Cursor.rebind_position hsound
  refine restore_ends hscript (fun _ _ _ _ _ => trivial) fun cursor s hs hcursor => ?_
  rw [hs.1] at hcursor
  cases hposition.symm.trans hcursor
  refine (Tracks.iff_ends.1 Stage.retimeFromSession_timed _).mono ?_ fun _ _ _ => trivial
  rintro _ _ ⟨u, rfl⟩
  refine (enterLoading_still hc _).mono ?_ fun _ _ _ => trivial
  rintro _ _ ⟨⟨y, rfl⟩, hprepared⟩
  exact ⟨rfl, adopting_live hname, rfl, rfl, rfl, rfl, hprepared⟩

/-- A load of a slot in which a save stands takes over its snapshot. -/
theorem loadFromSlot_returns {slot : Value} {n : Int} (hslot : slot.toInt = .ok n) {t : Snapshot}
    {v : Value} (hstands : e.Stands n v) (hread : Snapshot.ofValue v = .ok t)
    (hrestore : Ends (restore c t) e (fun _ e' => Returned c t e') fun _ _ => True) :
    Ends (loadFromSlot c slot) e (fun ok e' => ok → Returned c t e') fun _ _ => True := by
  obtain ⟨store, hsaves, hstands⟩ := hstands
  refine withStore_ends (fun _ => nofun) fun store' hstore' => ?_
  cases hsaves.symm.trans hstore'
  refine Ends.bind_iff.2 (Ends.ofMishap_iff.2 ⟨fun m hm => ?_, fun _ _ => trivial⟩)
  cases hslot.symm.trans hm
  refine loadFrom_ends (fun _ _ _ _ => trivial) (fun _ _ _ => nofun) fun v' t' d hfound ht' => ?_
  cases (SaveStore.readSlot_found hstands).symm.trans hfound
  cases hread.symm.trans ht'
  exact hrestore.mono (fun _ _ h _ => h) fun _ _ _ => trivial

/-- A snapshot that has been saved comes back, if its script can still be found. -/
theorem Kept.reloads (hk : e.Kept main) (hc : c.Still) (hnames : e.stage.NamesTell main)
    (hmain : main.name ≠ .text "") {x : Session} (hx : e.stage.Retrievable main x) {slot : Value}
    {n : Int} (hslot : slot.toInt = .ok n) {now : String} {v : Value} {kept : Fields}
    (hv : x.live.toValue = .ok v) (hkept : stamp now v = .ok kept)
    (hstands : e.Stands n (.record kept)) :
    Ends (loadFromSlot c slot) e (fun ok e' => ok → Returned c x.live e') fun _ _ => True := by
  obtain ⟨name, hne, hname, hknown, -⟩ := hx.played.goesBy (hnames.congr rfl rfl) hmain
  have hname : x.cursor.script.name = .text name := hname
  have hknown : x.scriptName = .text name := hknown
  have hread := Snapshot.read_back hx.storable ⟨name, hknown⟩ hv hkept
  have hfound := hx.scriptOf hk.stage hnames hmain (show x.live.script = x.scriptName from rfl)
  have hown : x.cursor.script.name.orElse x.scriptName = x.scriptName := by
    rw [hname, hknown]
    simp [Value.orElse, Value.truthy, hne]
  exact loadFromSlot_returns hslot hstands hread (restore_returns hc rfl hx.sound hown hfound)

/-- **A save brings the session back.** A session was saved, to the memory or so that it can be read
from its file. Whatever the host has done since then, if a load of the slot works, the engine loads
the session that was saved, with nothing pending. -/
theorem Course.brings_back {setup : Setup} {outside : σ} {e₀ e e₁ e₂ e₃ : Engine σ}
    {store : SaveStore} {slot slot' : Value} {n : Int} {ok : Bool} (hscript : setup.script.Typed)
    (hconfig : setup.config.toValue.plain) (hlibrary : ∀ l, setup.library = some l → l.Typed)
    (hsaves : ∀ store, setup.saves = some store → store.Recoverable)
    (hsetup : ofSetup setup outside = .ok e₀)
    (hc : c.Heeds (Guards setup.script fun _ => False)) (hstill : c.Still)
    (hbefore : Course c setup.script (fun _ => False) ((enterLoading c).perform e₀).2 e)
    (hstore : e.saves = some store) (hslot : slot.toInt = .ok n)
    (hsave : (saveToSlot slot).perform e = (.ok ok, e₁))
    (hfolder : ∀ base, store = .folder base → ok ∧ e.ReadsBack)
    (hafter : Course c setup.script (fun m => m = n) e₁ e₂)
    (hnames : e₂.stage.NamesTell setup.script) (hmain : setup.script.name ≠ .text "")
    (hslot' : slot'.toInt = .ok n) (hload : (loadFromSlot c slot').perform e₂ = (.ok true, e₃)) :
    Returned c e.session.persistent e₃ := by
  have hk₀ := start_kept hsetup hscript hconfig hlibrary hsaves
  have hk : e.Kept setup.script :=
    (hbefore.guards hc (enterLoading_guards hc e₀ hk₀).kept).kept
  obtain ⟨x, hx, hretrievable⟩ := persistent_retrievable hk.stage
  -- In memory a save works; in a folder it is said to have worked.
  have hworked : ok = true := by
    cases store with
    | memory saves =>
      have hworks := saveToSlot_works hstore hk.stage hslot
      rw [hsave] at hworks
      exact Except.ok.inj hworks
    | folder base => exact (hfolder base rfl).1
  have hleaves := saveToSlot_leaves hslot fun base hbase => by
    cases hstore.symm.trans hbase
    exact (hfolder base rfl).2
  obtain ⟨v, kept, hv, hkept, hstands⟩ := (Ends.iff_perform.1 hleaves).1 ok e₁ hsave hworked
  have hsaved : Guarded setup.script (fun _ => False) e ((saveToSlot slot).perform e).2 :=
    saveToSlot_guards (fun _ hn => hn.elim) e hk
  rw [hsave] at hsaved
  have hplayed := hafter.guards hc hsaved.kept
  rw [← hx] at hv ⊢
  have hreturns := hplayed.kept.reloads hstill hnames hmain
    ((hretrievable.retained hsaved.remembers).retained hplayed.remembers) hslot' hv hkept
    (hplayed.spares n _ rfl hstands)
  exact (Ends.iff_perform.1 hreturns).1 true e₃ hload rfl

/-! ## A story that is saved while it fades -/

theorem Course.runAll (hc : c.Heeds (Guards main P)) (calls : List HostCall)
    (hcalls : ∀ call ∈ calls, call.Avoids P ∧ ∀ t, call ≠ .restore t) (h : Course c main P e e') :
    Course c main P e (HostCall.runAll c calls e') := by
  induction calls generalizing e' with
  | nil => exact h
  | cons call calls ih =>
    obtain ⟨havoids, hrestores⟩ := hcalls call (by simp)
    exact ih (fun other hother => hcalls other (by simp [hother]))
      (h.call call (fun t ht => absurd ht (hrestores t)) (.inl ⟨hc, havoids⟩))

theorem Aloof.refl (e : Engine σ) : Aloof P e e :=
  ⟨refl_of Within e, refl_of (Spares P) e, id⟩

theorem recording_heeds : Collaborators.recording.Heeds (Aloof P) where
  prepare _ e := .refl e
  apply i e := ⟨⟨{ e.surroundings with outside := e.outside ++ i.toList }, rfl⟩,
    .of_same rfl rfl, fun h => h.of_same rfl⟩
  showError _ e := .refl e
  deliver _ _ e := .refl e
  systemCall _ e := .refl e
  finished e := .refl e

theorem recording_still : Collaborators.recording.Still where
  prepare _ e := refl_of Within e
  deliver _ _ _ e := refl_of Within e

/-- A story that fades out, and a store in memory. -/
def storing : Setup :=
  { fading with saves := some (.memory {}) }

theorem storing_typed : storing.script.Typed :=
  compile_typed compile_fadingDocument

theorem storing_recoverable : ∀ store, storing.saves = some store → store.Recoverable := by
  rintro _ ⟨⟩
  exact ⟨nofun, nofun⟩

/-- The story is saved while it fades out, goes on to its line, a flag is set, and the quick save
and the autosave are made; then the fade is loaded. -/
theorem Course.brings_back_fading : ∃ e e₁ e₂ e₃ : Engine (List Intent),
    e.mode = .effectRunning ∧ (saveToSlot (.int 1)).perform e = (.ok true, e₁) ∧
    Course .recording storing.script (fun m => m = 1) e₁ e₂ ∧ e₂.mode = .normal ∧
    (loadFromSlot .recording (.int 1)).perform e₂ = (.ok true, e₃) ∧
    Returned .recording e.session.persistent e₃ := by
  let start (e₀ : Engine (List Intent)) := ((enterLoading .recording).perform e₀).2
  let faded (e₀ : Engine (List Intent)) := HostCall.runAll .recording [.resourcesReady] (start e₀)
  let saved (e₀ : Engine (List Intent)) := (saveToSlot (.int 1)).perform (faded e₀)
  let calls : List HostCall :=
    [.effectFinished (.int 1), .setFlag (.text "met") (.int 1), .quicksave, .autosave]
  let played (e₀ : Engine (List Intent)) := HostCall.runAll .recording calls (saved e₀).2
  let loaded (e₀ : Engine (List Intent)) := (loadFromSlot .recording (.int 1)).perform (played e₀)
  have hfacts : (ofSetup storing []).toOption.map (fun e₀ =>
      (faded e₀).mode == .effectRunning && ((faded e₀).saves.bind SaveStore.memory?).isSome &&
        (saved e₀).1.toOption == some true && (played e₀).mode == .normal &&
        (played e₀).stage.library.isNone && (loaded e₀).1.toOption == some true) = some true := by
    decide +kernel
  obtain ⟨e₀, he₀, hfacts⟩ := Option.map_eq_some_iff.1 hfacts
  simp only [Bool.and_eq_true, beq_iff_eq, Option.isNone_iff_eq_none] at hfacts
  obtain ⟨⟨⟨⟨⟨hfading, hstore⟩, hsaved⟩, hnormal⟩, hlibrary⟩, hloaded⟩ := hfacts
  obtain ⟨saves, hmemory⟩ := Option.isSome_iff_exists.1 hstore
  obtain ⟨store, hstore, hmemory⟩ := Option.bind_eq_some_iff.1 hmemory
  have hsave : (saveToSlot (.int 1)).perform (faded e₀) = (.ok true, (saved e₀).2) :=
    Prod.ext (toOption_eq_some.1 hsaved) rfl
  have hload : (loadFromSlot .recording (.int 1)).perform (played e₀) = (.ok true, (loaded e₀).2) :=
    Prod.ext (toOption_eq_some.1 hloaded) rfl
  have hbefore : Course .recording storing.script (fun _ => False) (start e₀) (faded e₀) :=
    .runAll (recording_heeds.mono Aloof.guards) _ (by simp [HostCall.Avoids]) (.refl _)
  have hafter : Course .recording storing.script (fun m => m = 1) (saved e₀).2 (played e₀) :=
    .runAll (recording_heeds.mono Aloof.guards) _
      (by simp [calls, HostCall.Avoids, HostCall.writes, autosaveSlot]) (.refl _)
  have hnames : (played e₀).stage.NamesTell storing.script := .of_none ⟨_, rfl⟩ hlibrary
  have hfolder : ∀ base, store = .folder base → true ∧ (faded e₀).ReadsBack := by
    rintro base rfl
    cases hmemory
  have hnamed : fading.script.name ≠ .text "" := by
    rw [compile_name compile_fadingDocument]
    simp
  refine ⟨faded e₀, (saved e₀).2, played e₀, (loaded e₀).2, hfading, hsave, hafter, hnormal,
    hload, ?_⟩
  exact Course.brings_back storing_typed (by decide +kernel) (fun _ h => by cases h)
    storing_recoverable (toOption_eq_some.1 he₀) (recording_heeds.mono Aloof.guards)
    recording_still hbefore hstore rfl hsave hfolder hafter hnames hnamed rfl hload

/-! ## A listener that calls back -/

/-- Collaborators that set a flag when they hear that an engine loads. -/
def flagging : Collaborators (List Intent) :=
  { Collaborators.recording with
    deliver := fun _ event => match event with
      | .loaded _ _ => HostCall.run .recording (.setFlag (.text "met") (.int 1))
      | _ => pure () }

/-- The story that fades out is in its own library. -/
def shelved : Setup :=
  { storing with library := some { compiled := [(.text "fading", storing.script)] } }

theorem shelved_namesTell {s : Stage} (h : s.library = shelved.library) :
    s.NamesTell shelved.script := by
  refine ⟨⟨_, rfl⟩, fun l n script hl hn hget => ?_, fun l n script hl hfound => ?_⟩
  · cases hl.symm.trans h
    cases hn
    exact (Except.ok.inj hget).symm
  · cases hl.symm.trans h
    rw [Table.get?, Value.text_beq_text] at hfound
    split at hfound
    · exact .inl (Option.some.inj hfound).symm
    · cases hfound

/-- A listener sets a flag when it hears that the engine loads: the session that comes back is not
the one that was saved. -/
theorem flagging_changes_load : ∃ e₀ e e₁ e₂ : Engine (List Intent),
    ofSetup shelved [] = .ok e₀ ∧
    Course flagging shelved.script (fun _ => False) ((enterLoading flagging).perform e₀).2 e ∧
    e.stage.NamesTell shelved.script ∧ (saveToSlot (.int 1)).perform e = (.ok true, e₁) ∧
    (loadFromSlot flagging (.int 1)).perform e₁ = (.ok true, e₂) ∧
    e₂.session.persistent ≠ e.session.persistent := by
  let start (e₀ : Engine (List Intent)) := ((enterLoading flagging).perform e₀).2
  let attended (e : Engine (List Intent)) : Surroundings (List Intent) :=
    { e.surroundings with bus := e.bus.subscribe "engine.load" 0 }
  let heeded (e : Engine (List Intent)) := e.within (attended e)
  let saved (e₀ : Engine (List Intent)) := (saveToSlot (.int 1)).perform (heeded (start e₀))
  let loaded (e₀ : Engine (List Intent)) := (loadFromSlot flagging (.int 1)).perform (saved e₀).2
  have hfacts : (ofSetup shelved []).toOption.map (fun e₀ =>
      (saved e₀).1.toOption == some true && (loaded e₀).1.toOption == some true &&
        (heeded (start e₀)).session.persistent.flags.values == [] &&
        (loaded e₀).2.session.persistent.flags.values == [("met", 1)]) = some true := by
    decide +kernel
  obtain ⟨e₀, he₀, hfacts⟩ := Option.map_eq_some_iff.1 hfacts
  simp only [Bool.and_eq_true, beq_iff_eq] at hfacts
  obtain ⟨⟨⟨hsaved, hloaded⟩, hnone⟩, hmet⟩ := hfacts
  have haround : Aloof (fun _ => False) (start e₀) (heeded (start e₀)) :=
    ⟨⟨attended (start e₀), rfl⟩, .of_same rfl rfl, fun h => h.of_same rfl⟩
  have hlibrary : (heeded (start e₀)).stage.library = shelved.library := by
    obtain ⟨s, -, h⟩ := bind_eq_ok.1 (toOption_eq_some.1 he₀)
    cases h
    rfl
  refine ⟨e₀, heeded (start e₀), (saved e₀).2, (loaded e₀).2, toOption_eq_some.1 he₀,
    .around (attended (start e₀)) (.refl _) haround, shelved_namesTell hlibrary,
    Prod.ext (toOption_eq_some.1 hsaved) rfl, Prod.ext (toOption_eq_some.1 hloaded) rfl,
    fun hsame => ?_⟩
  rw [hsame, hnone] at hmet
  cases hmet

end Engine

end VisualNovel
