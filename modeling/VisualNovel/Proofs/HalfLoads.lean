import VisualNovel.Proofs.Chronicle
import VisualNovel.Proofs.Refusals
import VisualNovel.Proofs.Replay
import VisualNovel.Proofs.Retrieval

/-!
# Loads that stop half way

What a store keeps need not be what a save wrote. It is decoded before anything is taken over, but
its settings are taken as they stand, and whether text can be timed by them is found out last. So a
load of a place that exists ends in one of three ways (`HostCall.LoadEnds`): what is kept is no
snapshot, and nothing has changed; or text can be timed, and the engine loads; or it cannot, and the
session is that of the snapshot while the mode is the one from before, in which nothing is waited
for any more. `HostCall.load_ends` says that there is no other way.
-/

namespace VisualNovel

open Script

variable {σ : Type}

theorem exists_of_isOk {ε α : Type} {r : Except ε α} (h : r.isOk) : ∃ a, r = .ok a := by
  cases r with
  | error _ => cases h
  | ok a => exact ⟨a, rfl⟩

/-- Text can be timed by the settings. -/
structure Overrides.Timeable (t : TimedText) (o : Overrides) : Prop where
  seconds : ∃ on, o.cinematicSeconds.greater (.int 0) = .ok on
  frames : ∃ f, t.framesOf o.cinematicSeconds = .ok f
  rate : ∃ r, o.typewriterRate.toInt = .ok r

theorem Overrides.Timeable.congr {t t' : TimedText} {o : Overrides} (h : o.Timeable t)
    (hrate : t'.frameRate = t.frameRate) : o.Timeable t' := by
  refine ⟨h.seconds, ?_, h.rate⟩
  rw [TimedText.framesOf_congr hrate]
  exact h.frames

/-- Only settings that text can be timed by are taken over, if the line can be revealed. -/
theorem Stage.retimes_iff {s : Stage} (hsized : ∃ size, s.timedText.fullText.size = .ok size) :
    (∃ s', retimeFromSession.perform s = (.ok (), s')) ↔
      s.session.overrides.Timeable s.timedText := by
  constructor
  · rintro ⟨s', hrun⟩
    obtain ⟨f, r, -, -, -, hseconds, hframes, hrate, -⟩ :=
      (Ends.iff_perform.1 s.retimeFromSession_ends).1 _ _ hrun
    exact ⟨hseconds, ⟨f, hframes⟩, ⟨r, hrate⟩⟩
  · rintro ⟨hseconds, ⟨f, hframes⟩, ⟨r, hrate⟩⟩
    have hwants : s.Wants f r := ⟨hseconds, hframes, hrate, hsized⟩
    obtain ⟨s', hrun, -⟩ := hwants.retimes
    exact ⟨s', hrun⟩

namespace Engine

variable {c : Collaborators σ} {w : Watch σ} {e : Engine σ} {t : Snapshot} {cursor : Cursor}

/-- The engine with a snapshot taken over, and text timed as far as it went. -/
def torn (t : Snapshot) (cursor : Cursor) (u : TimedText) (e : Engine σ) : Engine σ :=
  { e with
    stage := { e.stage.adopting t cursor with timedText := u }
    effect := none, menu := none, awaiting := false, error := none }

/-- Settings that text cannot be timed by stop a restore when all of the snapshot is taken over. -/
theorem restore_tears (hhere : ¬t.Elsewhere e.stage)
    (hcursor : Cursor.rebind e.script t.cursor = .ok cursor)
    (hsized : ∃ size, e.stage.timedText.fullText.size = .ok size)
    (htimes : ¬t.overrides.Timeable e.stage.timedText) (c : Collaborators σ) :
    Ends (restore c t) e (fun _ _ => False)
      fun f e' => ∃ m u, f = .mishap m ∧ e' = e.torn t cursor u := by
  have hscript : ∀ script s, script = e.script ∧ s = e.stage →
      Cursor.rebind script t.cursor = .ok cursor := by
    rintro _ _ ⟨rfl, -⟩
    exact hcursor
  refine restore_ends (R := fun script s => script = e.script ∧ s = e.stage)
    (Ends.of_perform (scriptOf_here hhere) ⟨rfl, rfl⟩) ?_ ?_
  · intro script s error hs herror
    cases (hscript script s hs).symm.trans herror
  · intro cursor' s hs hcursor'
    cases (hscript _ s hs).symm.trans hcursor'
    obtain rfl : s = e.stage := hs.2
    refine Ends.iff_perform.2 ⟨fun _ s hrun => ?_, fun f s hrun => ?_⟩
    · have htimed := (Stage.retimes_iff (s := e.stage.adopting t cursor) hsized).1 ⟨s, hrun⟩
      exact (htimes (htimed.congr rfl)).elim
    · obtain ⟨u, rfl⟩ := (Ends.iff_perform.1
        (Tracks.iff_ends.1 Stage.retimeFromSession_timed _)).2 _ _ hrun
      cases f with
      | story error =>
        exact ((Ends.iff_perform.1 (Stage.retimeFromSession_leads _)).2 _ _ hrun).elim
      | mishap m => exact ⟨m, u, rfl, rfl⟩

/-- The place of a snapshot is found in the script that is played, and text can be timed by the
settings: the restore goes through. -/
theorem restore_loads (hc : Quiet c w False) (hhere : ¬t.Elsewhere e.stage)
    (hcursor : Cursor.rebind e.script t.cursor = .ok cursor)
    (hsized : ∃ size, e.stage.timedText.fullText.size = .ok size)
    (htimes : t.overrides.Timeable e.stage.timedText) :
    ∃ e', (restore c t).perform e = (.ok (), e') ∧ e'.mode = .loading ∧
      e'.session = (e.stage.adopting t cursor).session := by
  obtain ⟨_, hretime⟩ :=
    (Stage.retimes_iff (s := e.stage.adopting t cursor) hsized).2 (htimes.congr rfl)
  obtain ⟨u, rfl, -⟩ := (Ends.iff_perform.1 (Stage.retimeFromSession_leads _)).1 _ _ hretime
  obtain ⟨⟨⟩, e', hrun, x, rfl, -⟩ :=
    (restore_runs hc (scriptOf_here hhere) hcursor hretime).performs
  exact ⟨_, hrun, rfl, rfl⟩

end Engine

namespace HostCall

open Engine

variable {c : Collaborators σ} {w : Watch σ} {call : HostCall} {e : Engine σ} {v : Value} {d : Disk}

/-- The call finds this in the store; the disk is the second one then. -/
def Fetches (e : Engine σ) (v : Value) (d : Disk) : HostCall → Prop
  | loadFromSlot slot => ∃ store n, e.saves = some store ∧ slot.toInt = .ok n ∧
    (store.readSlot (.int n)).perform e.stage.disk = (.ok (some v), d)
  | quickload => ∃ store, e.saves = some store ∧
    store.readQuick.perform e.stage.disk = (.ok (some v), d)
  | _ => False

theorem loadFrom_fetched {read : Attempt Disk (Option Value)} {Q : Bool → Engine σ → Prop}
    {E : Fault → Engine σ → Prop} (hread : read.perform e.stage.disk = (.ok (some v), d))
    (hv : v.truthy)
    (hundecoded : ∀ m, Snapshot.ofValue v = .error m → E (.mishap m) (diskPlace.set d e))
    (hdecoded : ∀ t, Snapshot.ofValue v = .ok t →
      Ends (Engine.restore c t) (diskPlace.set d e) (fun _ => Q true) E) :
    Ends (loadFrom c read) e Q E := by
  refine Ends.bind_iff.2 (Ends.attempt_iff.2 (Ends.iff_attempted.2 ⟨fun found d' hfound => ?_,
    fun _ _ hfault => ?_⟩))
  · cases hread.symm.trans hfound
    simp only [Option.getD_some, hv, Bool.not_true, Bool.false_eq_true, if_false]
    exact Ends.bind_iff.2 (Ends.ofMishap_iff.2
      ⟨fun t ht => Ends.bind_iff.2 (hdecoded t ht), hundecoded⟩)
  · cases hread.symm.trans hfault

/-- A load decodes what it finds, and restores it. -/
theorem load_fetched {Q : Bool → Engine σ → Prop} {E : Fault → Engine σ → Prop}
    (h : call.Fetches e v d) (hv : v.truthy)
    (hundecoded : ∀ m, Snapshot.ofValue v = .error m → E (.mishap m) (diskPlace.set d e))
    (hdecoded : ∀ t, Snapshot.ofValue v = .ok t →
      Ends (Engine.restore c t) (diskPlace.set d e) (fun _ => Q true) E) :
    Ends (call.load c) e Q E := by
  cases call with
  | loadFromSlot slot =>
    obtain ⟨store, n, hsaves, hslot, hread⟩ := h
    refine withStore_ends (fun hnone => ?_) fun store' hstore' => ?_
    · cases hsaves.symm.trans hnone
    · cases hsaves.symm.trans hstore'
      refine Ends.bind_iff.2 (Ends.ofMishap_iff.2 ⟨fun n' hn' => ?_, fun _ hm => ?_⟩)
      · cases hslot.symm.trans hn'
        exact loadFrom_fetched hread hv hundecoded hdecoded
      · cases hslot.symm.trans hm
  | quickload =>
    obtain ⟨store, hsaves, hread⟩ := h
    refine withStore_ends (fun hnone => ?_) fun store' hstore' => ?_
    · cases hsaves.symm.trans hnone
    · cases hsaves.symm.trans hstore'
      exact loadFrom_fetched hread hv hundecoded hdecoded
  | _ => exact h.elim

/-- How a load ends that has found something, from the engine that has read it. -/
inductive LoadEnds (e : Engine σ) (v : Value) : Except Fault Bool → Engine σ → Prop
  /-- What was found is no snapshot. -/
  | undecoded {m : Mishap} : Snapshot.ofValue v = .error m → LoadEnds e v (.error (.mishap m)) e
  /-- The session is that of the snapshot, and the engine loads. -/
  | loaded {t : Snapshot} {cursor : Cursor} {e' : Engine σ} : Snapshot.ofValue v = .ok t →
    Cursor.rebind e.script t.cursor = .ok cursor → t.overrides.Timeable e.stage.timedText →
    e'.mode = .loading → e'.session = (e.stage.adopting t cursor).session →
    LoadEnds e v (.ok true) e'
  /-- The session is that of the snapshot, but the engine does not load. -/
  | torn {t : Snapshot} {cursor : Cursor} {m : Mishap} {u : TimedText} :
    Snapshot.ofValue v = .ok t → Cursor.rebind e.script t.cursor = .ok cursor →
    ¬t.overrides.Timeable e.stage.timedText →
    LoadEnds e v (.error (.mishap m)) (e.torn t cursor u)

/-- A load of a place that the script has is refused as a whole, goes through, or stops half way,
and the settings of the snapshot decide between the last two. -/
theorem load_ends (hc : Quiet c w False) (h : call.Fetches e v d) (hv : v.truthy)
    (hplace : ∀ t, Snapshot.ofValue v = .ok t →
      ¬t.Elsewhere e.stage ∧ ∃ cursor, Cursor.rebind e.script t.cursor = .ok cursor)
    (hsized : ∃ size, e.stage.timedText.fullText.size = .ok size) :
    LoadEnds (diskPlace.set d e) v ((call.load c).perform e).1 ((call.load c).perform e).2 := by
  have hends : Ends (call.load c) e (fun loaded => LoadEnds (diskPlace.set d e) v (.ok loaded))
      fun f => LoadEnds (diskPlace.set d e) v (.error f) := by
    refine load_fetched h hv (fun m hm => .undecoded hm) fun t ht => ?_
    obtain ⟨hhere, cursor, hcursor⟩ := hplace t ht
    by_cases htimes : t.overrides.Timeable e.stage.timedText
    · obtain ⟨e', hrun, hmode, hsession⟩ := restore_loads (e := diskPlace.set d e) hc hhere hcursor
        hsized htimes
      exact Ends.of_perform hrun (.loaded ht hcursor htimes hmode hsession)
    · refine (restore_tears (e := diskPlace.set d e) hhere hcursor hsized htimes c).mono
        (fun _ _ h => h.elim) ?_
      rintro _ _ ⟨m, u, rfl, rfl⟩
      exact .torn ht hcursor htimes
  obtain ⟨hok, herror⟩ := Ends.iff_perform.1 hends
  rcases hrun : (call.load c).perform e with ⟨f | loaded, e'⟩
  · exact herror f e' hrun
  · exact hok loaded e' hrun

/-- A save of the fading story, with a number of seconds after which lines give way. -/
def keptSave (seconds : Value) : Value :=
  .ofFields [("cursor", .ofFields [("conversation", .text "start")]),
    ("flags", .ofFields [("x", .int 1)]), ("ui", .ofFields [("cinematic_seconds", seconds)])]

/-- The fading story, with such a save in its store. -/
def keeping (seconds : Value) : Setup :=
  { fading with saves := some (.memory { slots := [(1, keptSave seconds)] }) }

/-- Two seconds are a time after which lines can give way, so the load goes through. -/
theorem load_ends_loaded : ∃ e e' : Engine (List Intent),
    (started .recording (keeping (.float 2.0)) []).bind (after .recording [resourcesReady]) =
      some e ∧
    ((loadFromSlot (.int 1)).load .recording).perform e = (.ok true, e') ∧
    e'.mode = .loading ∧ e'.session.flags = { values := [("x", 1)] } := by
  have hfacts : ((started .recording (keeping (.float 2.0)) []).bind
      (after .recording [resourcesReady])).map (fun e => e.stage.timedText.fullText.size.isOk &&
        (e.saves.bind SaveStore.memory?).any fun saves =>
          (Table.get? 1 saves.slots).any fun v => v.truthy &&
            (Snapshot.ofValue v).toOption.any fun t => !t.script.truthy &&
              (Cursor.rebind e.script t.cursor).isOk &&
              (t.overrides.cinematicSeconds.greater (.int 0)).isOk &&
              (e.stage.timedText.framesOf t.overrides.cinematicSeconds).isOk &&
              t.overrides.typewriterRate.toInt.isOk && t.flags == { values := [("x", 1)] }) =
        some true := by
    decide +kernel
  obtain ⟨e, he, hfacts⟩ := Option.map_eq_some_iff.1 hfacts
  obtain ⟨hsized, hfacts⟩ := Bool.and_eq_true_iff.1 hfacts
  obtain ⟨saves, hmemory, hfacts⟩ := (Option.any_eq_true _ _).1 hfacts
  obtain ⟨v, hslot, hfacts⟩ := (Option.any_eq_true _ _).1 hfacts
  obtain ⟨hv, hfacts⟩ := Bool.and_eq_true_iff.1 hfacts
  obtain ⟨t, ht, hfacts⟩ := (Option.any_eq_true _ _).1 hfacts
  have ht : Snapshot.ofValue v = .ok t := toOption_eq_some.1 ht
  simp only [Bool.and_eq_true, beq_iff_eq, Bool.not_eq_true'] at hfacts
  obtain ⟨⟨⟨⟨⟨hscript, hcursor⟩, hseconds⟩, hframes⟩, hrate⟩, hflags⟩ := hfacts
  have hfetches : (loadFromSlot (.int 1)).Fetches e v e.stage.disk := by
    obtain ⟨store, hstore, hmemory⟩ := Option.bind_eq_some_iff.1 hmemory
    cases SaveStore.memory?_eq_some.1 hmemory
    refine ⟨_, 1, hstore, rfl, ?_⟩
    show (Except.ok (Table.get? 1 saves.slots), e.stage.disk) = _
    rw [hslot]
  have hplace : ∀ t, Snapshot.ofValue v = .ok t →
      ¬t.Elsewhere e.stage ∧ ∃ cursor, Cursor.rebind e.script t.cursor = .ok cursor := by
    intro t' ht'
    cases ht.symm.trans ht'
    exact ⟨fun helse => by simp [helse.1] at hscript, exists_of_isOk hcursor⟩
  have htimes : t.overrides.Timeable e.stage.timedText :=
    ⟨exists_of_isOk hseconds, exists_of_isOk hframes, exists_of_isOk hrate⟩
  have hends := load_ends Collaborators.recording_quiet hfetches hv hplace (exists_of_isOk hsized)
  rcases hrun : ((loadFromSlot (.int 1)).load .recording).perform e with ⟨r, e'⟩
  rw [hrun] at hends
  cases hends with
  | undecoded hm => cases ht.symm.trans hm
  | loaded ht' _ _ hmode hsession =>
    cases ht.symm.trans ht'
    exact ⟨e, e', he, hrun, hmode, (congrArg Session.flags hsession).trans hflags⟩
  | torn ht' _ htears =>
    cases ht.symm.trans ht'
    exact absurd htimes htears

/-- The second save says soon, and no number of seconds. The load fails, and the effect that ran is
gone while the engine is still in its mode; the flags are those of the save. -/
theorem load_of_soon : ∃ e e' : Engine (List Intent),
    (started .recording (keeping (.text "soon")) []).bind (after .recording [resourcesReady]) =
      some e ∧
    ((loadFromSlot (.int 1)).load .recording).perform e = (.error (.mishap .wrongType), e') ∧
    e.mode = .effectRunning ∧ e'.mode = .effectRunning ∧ e.effect.isSome ∧ e'.effect = none ∧
    e.session.flags = {} ∧ e'.session.flags = { values := [("x", 1)] } := by
  let loaded (e : Engine (List Intent)) := ((loadFromSlot (.int 1)).load .recording).perform e
  have hplays : ((started .recording (keeping (.text "soon")) []).bind
      (after .recording [resourcesReady])).map (fun e =>
        Mishap.wrongType.isResult (loaded e).1 && decide (e.mode = .effectRunning ∧
          (loaded e).2.mode = .effectRunning ∧ e.effect.isSome ∧ (loaded e).2.effect.isNone ∧
          e.session.flags = {} ∧ (loaded e).2.session.flags = { values := [("x", 1)] })) =
        some true := by
    decide +kernel
  obtain ⟨e, he, hplays⟩ := Option.map_eq_some_iff.1 hplays
  obtain ⟨hrun, hplays⟩ := Bool.and_eq_true_iff.1 hplays
  obtain ⟨hmode, hmode', heffect, heffect', hflags, hflags'⟩ := of_decide_eq_true hplays
  exact ⟨e, (loaded e).2, he, Prod.ext (Mishap.isResult_iff.1 hrun) rfl, hmode, hmode', heffect,
    Option.isNone_iff_eq_none.1 heffect', hflags, hflags'⟩

end HostCall

end VisualNovel
