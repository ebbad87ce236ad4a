import VisualNovel.Proofs.HostCalls
import VisualNovel.Proofs.TimedText

/-!
# What calls come to

What the opening of each call does to an engine, and from it what a call can come to
(`HostCall.run_leads`): either nothing was played, and the engine waits for what it waited for, has
ended, or is loading; or the opening has made it free to play, and a step has brought it to rest.

An engine that waits for what it waited for has the session that it had, but for flags.
-/

namespace VisualNovel

open Script

variable {σ : Type}

/-! ## What an opening does -/

namespace Engine

section
variable {c : Collaborators σ} {w : Watch σ} {may : Prop} {e : Engine σ}

/-- The engine when it has been told of an end of what it waited for. -/
def freed (e : Engine σ) : Engine σ :=
  { e.mapSession Session.release with effect := none, menu := none, mode := .normal }

/-- The intents of the end of an effect. -/
def leaving (effect : Intent) : List Intent :=
  if effect.kind == .fadeBegin then
    [{ kind := .fadeEnd, payload := [("direction", effect.get "direction")] }]
  else []

/-- The engine when a line has been taken away. -/
def passed (e : Engine σ) : Engine σ :=
  ({ e.mapStage (Stage.mapTimedText TimedText.endLine) with awaiting := false } :
    Engine σ).completed

/-- What an option says to do on the stage. -/
def followOn (option : ChoiceOption) : Action Stage Unit :=
  match option.conversation with
  | .null => do
    let delta ← Action.ofMishap option.delta.toInt
    modify (Stage.mapFlags fun f => f.modify option.flag.shown delta)
    modify (Stage.mapCursor fun cursor => cursor.advance)
  | conversation => Stage.switchConversation conversation

theorem follow_eq (option : ChoiceOption) :
    (follow option : Play σ Unit) = onStage (followOn option) := by
  unfold follow followOn
  cases option.conversation with
  | null =>
    refine funext fun e => ?_
    cases option.delta.toInt with
    | ok n => rfl
    | error m => rfl
  | _ => rfl

end

end Engine

namespace HostCall

open Engine

section
variable {c : Collaborators σ} {w : Watch σ} {may : Prop} {e : Engine σ}

theorem passLine_runs (h : e.showsLine) :
    Runs may passLine e fun go e' => go = true ∧ e' = e.passed := by
  unfold passLine
  refine Leads.get_bind ?_
  rw [h]
  exact ⟨rfl, rfl⟩

theorem sendReveal_runs (hc : Quiet c w may) (hmay : may) (e : Engine σ) :
    Runs may (sendReveal c) e fun _ e' => ∃ l t, e.stage.timedText.SameLine t ∧
      Aside w l (e.mapStage (Stage.mapTimedText fun _ => t)) e' := by
  unfold sendReveal
  refine Leads.get_bind ?_
  dsimp only
  split
  · refine Leads.modify_bind ?_
    refine Ends.bind_iff.2 (Ends.ofMishap_iff.2 ⟨fun visible _ => ?_, fun _ _ => hmay⟩)
    refine Ends.bind_iff.2 (Ends.ofMishap_iff.2 ⟨fun complete _ => ?_, fun _ _ => hmay⟩)
    exact (hc.apply _ _).mono fun _ e' h' =>
      ⟨_, { e.stage.timedText with changed := false }, ⟨rfl, rfl, rfl⟩, h'⟩
  · exact ⟨[], _, .refl _, Aside.refl w e⟩

theorem endEffect_runs (hc : Quiet c w may) {effect : Intent} (heffect : e.effect = some effect)
    (hmode : e.mode = .effectRunning) (hmenu : e.menu = none) {id : Value}
    (hid : isEffect id effect) :
    Runs may (endEffect c id) e fun go e' => go = true ∧
      Aside w (leaving effect) e.freed.completed e' := by
  unfold endEffect
  refine Leads.get_bind ?_
  rw [heffect, hmode]
  simp only [Option.filter, hid, beq_self_eq_true, Bool.and_self, if_true]
  refine Leads.modify_bind ?_
  have hend : ∀ e₁ : Engine σ, Aside w (leaving effect) { e with effect := none } e₁ →
      Runs may (do
        modify (mapSession Session.release)
        setMode c .normal
        completeBeat
        return true) e₁ fun go e' => go = true ∧
          Aside w (leaving effect) e.freed.completed e' := by
    intro e₁ h₁
    refine Leads.modify_bind ((setMode_runs hc .normal _).any.bind fun _ e₂ h₂ => ?_)
    refine Leads.modify_bind ⟨rfl, ?_⟩
    have hfreed : Aside w (leaving effect) e.freed
        { e₁.mapSession Session.release with mode := .normal } := by
      obtain ⟨x, rfl, hsent, hkept⟩ := h₁
      refine ⟨x, ?_, hsent, hkept⟩
      rw [freed, ← hmenu]
      rfl
    exact Aside.map (f := completed) ⟨fun _ _ => rfl, fun _ => rfl, fun _ => rfl⟩
      (hfreed.before h₂)
  cases hfade : effect.kind == .fadeBegin with
  | true =>
    refine (hc.apply _ _).bind fun _ e₁ h₁ => hend e₁ ?_
    simpa [leaving, hfade] using h₁
  | false =>
    refine hend _ ?_
    simpa [leaving, hfade] using Aside.refl w _

theorem placeOf_lt {index : Value} {count place : Nat} (h : placeOf index count = .ok place) :
    place < count := by
  unfold placeOf at h
  split at h
  · next n hn =>
    split at h
    · next hrange =>
      cases h
      simp only [Bool.and_eq_true, decide_eq_true_eq] at hrange
      omega
    · cases h
  all_goals cases h

/-- The intent that takes a menu away. -/
def clearing : Intent :=
  { kind := .clearChoices }

theorem pick_leads (hc : Quiet c w may) {options : List ChoiceOption} {index : Value} {place : Nat}
    (hplace : placeOf index options.length = .ok place) {option : ChoiceOption}
    (hoption : options[place]? = some option) (heffect : e.effect = none)
    {S : Stage → Prop} {F : StoryError → Stage → Prop}
    (hfollow : ∀ d, w.kept e.stage.disk d →
      Leads may (followOn option) { e.stage with disk := d } (fun _ s => S s) F) :
    Leads may (pick c options index) e
      (fun _ e' => ∃ s, S s ∧ Aside w [clearing] ({ e with stage := s } : Engine σ).freed e')
      fun error e' => ∃ s, F error s ∧
        Aside w [clearing] { e with stage := s, menu := none } e' := by
  unfold pick
  refine Ends.bind_iff.2 (Ends.ofExcept_iff.2 ⟨?_, fun f hf => by rw [hplace] at hf; cases hf⟩)
  intro place' hplace'
  rw [hplace] at hplace'
  cases hplace'
  rw [hoption]
  refine Leads.modify_bind ((emit_runs hc _ _).any.bind fun _ e₁ h₁ => ?_)
  refine (hc.apply _ e₁).bind fun _ e₂ h₂ => ?_
  have hcleared : Aside w [clearing] { e with menu := none } e₂ := h₁.after h₂
  obtain ⟨x, rfl, hsent, hkept⟩ := hcleared
  rw [follow_eq]
  refine Leads.bind (P := fun _ e₃ => ∃ s, S s ∧
    e₃ = { ({ e with menu := none } : Engine σ).within x with stage := s }) ?_ ?_
  · refine Leads.onPart (Leads.mono (hfollow x.disk hkept) (fun _ s hs => ⟨s, hs, rfl⟩) ?_)
    exact fun error s hs => ⟨s, hs, ⟨{ x with disk := s.disk }, rfl, hsent, w.kept_refl _⟩⟩
  · rintro _ _ ⟨s, hs, rfl⟩
    refine Leads.modify_bind (Leads.mono (setMode_runs hc .normal _).any ?_ fun _ _ h => h.elim)
    intro _ e₄ h₄
    refine ⟨s, hs, Aside.before ?_ h₄⟩
    refine ⟨{ x with disk := s.disk }, ?_, hsent, w.kept_refl _⟩
    simp only [freed, ← heffect]
    rfl

end

end HostCall

/-! ## What is left as it was -/

/-- The story stands where it stood. Flags may have been set, unless they are `fixed`, and more of
the line may be visible. -/
structure Stage.Stays (fixed : Prop) (s s' : Stage) : Prop where
  session : ∃ flags, s'.session = { s.session with flags } ∧ (fixed → flags = s.session.flags)
  script : s'.script = s.script
  config : s'.config = s.config
  dice : s'.dice = s.dice
  line : s.timedText.SameLine s'.timedText

theorem Stage.Stays.refl {fixed : Prop} (s : Stage) : s.Stays fixed s :=
  ⟨⟨s.session.flags, rfl, fun _ => rfl⟩, rfl, rfl, rfl, .refl _⟩

/-- The engine waits for what it waited for. -/
def Engine.Stays (fixed : Prop) (e e' : Engine σ) : Prop :=
  ∃ s x, e' = ({ e with stage := s } : Engine σ).within x ∧ e.stage.Stays fixed s

/-- The stage when a snapshot has been taken over, before its text is timed. -/
def Stage.adopting (t : Snapshot) (cursor : Cursor) (s : Stage) : Stage :=
  Stage.mapTimedText TimedText.endLine ((s.enter cursor.script cursor).mapSession fun x =>
    { x.adopt t with scriptName := cursor.script.name.orElse t.script })

/-- A snapshot that can be taken over without breaking a property of the stage. -/
def Admits (J : Stage → Prop) (t : Snapshot) : Prop :=
  ∀ s, J s → Leads True (Engine.scriptOf t) s
    (fun script s' => J s' ∧ ∀ cursor, Cursor.rebind script t.cursor = .ok cursor →
      Runs True Stage.retimeFromSession (s'.adopting t cursor) fun _ s'' => J s'')
    fun _ s' => J s'

theorem Admits.nothing (t : Snapshot) : Admits (fun _ => True) t := by
  intro s _
  refine Ends.iff_perform.2 ⟨fun _ _ _ => ⟨trivial, fun _ _ => ?_⟩, ?_⟩
  · exact Runs.mono (Stage.retimeFromSession_leads _) fun _ _ _ => trivial
  · rintro (e | m) s' - <;> trivial

namespace Engine

variable {c : Collaborators σ} {w : Watch σ} {e e' e'' : Engine σ} {typed : Prop} {J : Stage → Prop}
  {fixed : Prop}

/-- The engine is free to play the next beat. -/
structure Starts (J : Stage → Prop) (e : Engine σ) : Prop where
  fit : e.Fit J
  running : e.running
  stepping : e.stepping = false

/-- What is known after the opening of a call. -/
def Opened (J : Stage → Prop) (fixed : Prop) (e : Engine σ) : Bool → Engine σ → Prop
  | true, e' => e'.Starts J
  | false, e' => e'.AtRest J ∧ (e.Stays fixed e' ∨ e'.mode = .ended ∨ e'.mode = .loading)

theorem Stays.within (h : e.Stays fixed e') (x : Surroundings σ) : e.Stays fixed (e'.within x) := by
  obtain ⟨s, y, rfl, hs⟩ := h
  exact ⟨s, x, rfl, hs⟩

theorem Stays.refl (e : Engine σ) : e.Stays fixed e :=
  ⟨e.stage, e.surroundings, rfl, .refl _⟩

theorem Stays.trans {fixed' : Prop} (h : e.Stays fixed e') (h' : e'.Stays fixed' e'')
    (hfixed : fixed → fixed') : e.Stays fixed e'' := by
  obtain ⟨s, x, rfl, ⟨⟨flags, hsession, hflags⟩, hscript, hconfig, hdice, hline⟩⟩ := h
  obtain ⟨s', x', rfl, ⟨⟨flags', hsession', hflags'⟩, hscript', hconfig', hdice', hline'⟩⟩ := h'
  refine ⟨s', x', rfl, ⟨flags', ?_, fun hf => ?_⟩, hscript'.trans hscript, hconfig'.trans hconfig,
    hdice'.trans hdice, hline.trans hline'⟩
  · rw [hsession']
    show { s.session with flags := flags' } = _
    rw [hsession]
  · have hsame : flags' = s.session.flags := hflags' (hfixed hf)
    rw [hsame, hsession]
    exact hflags hf

theorem Stays.script_eq (h : e.Stays fixed e') : e'.script = e.script := by
  obtain ⟨s, x, rfl, hs⟩ := h
  exact hs.script

/-- An engine that waits for what it waited for is steady if it was. -/
theorem Stays.steady (h : e.Steady) (hs : e.Stays fixed e') : e'.Steady := by
  obtain ⟨s, x, rfl, ⟨⟨flags, hsession, -⟩, hscript, -, -, hline⟩⟩ := hs
  refine ⟨h.effect, h.menu, h.options, ?_, ?_, ?_, ?_⟩
  · show s.session.safe.isSome ↔ _
    rw [hsession]
    exact h.safe
  · intro hawaiting
    obtain ⟨hmode, d, hd, hshowing, htext⟩ := h.awaiting hawaiting
    refine ⟨hmode, d, ?_, ?_, ?_⟩
    · show s.session.cursor.current = _
      rw [hsession]
      exact hd
    · show s.timedText.showing
      rw [hline.showing]
      exact hshowing
    · show s.timedText.fullText = _
      rw [hline.fullText]
      exact htext
  · show s.session.cursor.Sound
    rw [hsession]
    exact h.cursor
  · show s.session.cursor.script = s.script
    rw [hsession, hscript]
    exact h.script

/-- Waiting for an effect or a menu means that a snapshot is set aside, so the live session does not
matter. -/
theorem Stays.persistent (h : e.Stays fixed e') (hsafe : e.session.safe.isSome) :
    e'.session.persistent = e.session.persistent := by
  obtain ⟨s, x, rfl, ⟨flags, hsession, -⟩, -⟩ := h
  obtain ⟨t, ht⟩ := Option.isSome_iff_exists.1 hsafe
  have hsafe' : s.session.safe = some t := by
    rw [hsession]
    exact ht
  show s.session.safe.getD _ = e.session.safe.getD _
  rw [hsafe', ht]
  rfl

theorem Stays.atRest (h : e.AtRest J) (hs : e.Stays fixed e') (hj : J e'.stage) : e'.AtRest J := by
  have hsteady := hs.steady h.fit.steady
  obtain ⟨s, x, rfl, -⟩ := hs
  exact ⟨⟨hsteady, hj⟩, h.running, h.stepping⟩

theorem AtRest.within (K : Keeps typed J) (h : e.AtRest J) (x : Surroundings σ) :
    (e.within x).AtRest J :=
  ⟨⟨h.fit.steady.within x, K.disk _ h.fit.stage⟩, h.running, h.stepping⟩

/-- Nothing was played, and the engine waits for what it waited for. -/
theorem opened_of_stays (h : e.AtRest J) (hs : e.Stays fixed e') (hj : J e'.stage) :
    e.Opened J fixed false e' :=
  ⟨hs.atRest h hj, .inl hs⟩

theorem opened_of_within (K : Keeps typed J) (h : e.AtRest J) (x : Surroundings σ) :
    e.Opened J fixed false (e.within x) :=
  opened_of_stays h ((Stays.refl e).within x) (K.disk _ h.fit.stage)

/-- An action that changes only the surroundings plays nothing. -/
theorem opened_of_runs {α : Type} {act : Play σ α} (K : Keeps typed J) (h : e.AtRest J)
    (hact : Runs True act e fun _ e' => ∃ x, e' = e.within x) :
    Leads True act e (fun _ e' => e.Opened J fixed false e')
      fun _ e' => e.Opened J fixed false e' := by
  refine Leads.mono hact ?_ fun _ _ h => h.elim
  rintro _ _ ⟨x, rfl⟩
  exact opened_of_within K h x

theorem note_opened (K : Keeps typed J) (h : e.AtRest J) (level : Level) (text : String) :
    Leads True (do note level text; return false) e (e.Opened J fixed)
      fun _ e' => e.Opened J fixed false e' := by
  refine Leads.bind (opened_of_runs K h ?_) fun _ _ h => h
  exact (note_runs Watch.nothing level text e).any.mono fun _ e' ⟨x, he', _⟩ => ⟨x, he'⟩

/-- An engine in mode normal with nothing running on an open stage is free to play. -/
theorem starts_of_open (hmode : e.mode = .normal) (hawaiting : e.awaiting = false)
    (heffect : e.effect = none) (hmenu : e.menu = none) (h : e.stage.Open) (hj : J e.stage)
    (hstepping : e.stepping = false) : e.Starts J :=
  ⟨⟨steady_of_open hmode hawaiting heffect hmenu h, hj⟩, running_iff.2 ⟨hmode, hawaiting⟩,
    hstepping⟩

theorem Starts.aside (K : Keeps typed J) (h : e.Starts J) {l : List Intent} (ha : Aside w l e e') :
    e'.Starts J := by
  have hfit := h.fit.aside K ha
  obtain ⟨x, rfl, -⟩ := ha
  exact ⟨hfit, h.running, h.stepping⟩

/-- An engine that waits for an effect or a menu is free to play when it does not any more. -/
theorem freed_starts (K : Keeps typed J) (hawaiting : e.awaiting = false) (h : e.cursor.Sound)
    (hscript : e.cursor.script = e.script) (hj : J e.stage) (hstepping : e.stepping = false) :
    e.freed.Starts J :=
  starts_of_open rfl hawaiting rfl rfl ⟨⟨h.beats, h.index⟩, rfl, hscript⟩ (K.safe none hj) hstepping

theorem completed_starts (K : Keeps typed J) (h : e.Starts J) : e.completed.Starts J := by
  obtain ⟨hmode, hawaiting⟩ := running_iff.1 h.running
  have hs := h.fit.steady
  have hopen := hs.isOpen h.running
  exact starts_of_open hmode hawaiting (hs.effect_eq_none (by simp [hmode]))
    (hs.menu_eq_none (by simp [hmode]))
    ⟨Likeness.advance_sound hopen.cursor, hopen.safe, hopen.script⟩
    (K.cursor _ h.fit.stage rfl (Likeness.advance_sound hopen.cursor)) h.stepping

theorem Steady.awaiting_eq_false (h : e.Steady) (hmode : e.mode ≠ .normal) :
    e.awaiting = false := by
  cases ha : e.awaiting with
  | false => rfl
  | true => exact absurd (h.awaiting ha).1 hmode

/-- A line that is taken away leaves the engine free to play, whatever its timing has become. -/
theorem passed_starts (K : Keeps typed J) (h : e.AtRest J) (hshows : e.showsLine) {t : TimedText}
    (ht : e.stage.timedText.SameText t) :
    ((e.mapStage (Stage.mapTimedText fun _ => t)).passed).Starts J := by
  have hmode : e.mode = .normal := by
    have := hshows
    simp only [showsLine, Bool.and_eq_true, beq_iff_eq] at this
    exact this.1
  have hs := h.fit.steady
  have hsafe := hs.safe_eq_none (by simp [hmode]) (by simp [hmode])
  refine completed_starts K (starts_of_open hmode rfl (hs.effect_eq_none (by simp [hmode]))
    (hs.menu_eq_none (by simp [hmode])) ⟨hs.cursor, hsafe, hs.script⟩ ?_ h.stepping)
  exact K.timedText _ (K.timedText t h.fit.stage ht.frameRate fun _ => .inl ht.fullText) rfl
    fun _ => .inl rfl

/-- A session that is ended by an error. -/
theorem fail_opened (K : Keeps typed J) (hc : Quiet c w True) {e₀ : Engine σ}
    (h : e.cursor.Sound) (hscript : e.cursor.script = e.script) (hj : J e.stage)
    (hmode : e.mode ≠ .ended) (hstepping : e.stepping = false) (error : StoryError) :
    Leads True (fail c error) e (fun _ e' => e₀.Opened J fixed false e')
      fun _ e' => e₀.Opened J fixed false e' := by
  have hend : ∀ {e' l}, Aside w l ({ e.closed with error := some error } : Engine σ) e' →
      e₀.Opened J fixed false e' := by
    intro e' l ha
    have hfit := (closed_fit K h hscript hj error).aside K ha
    obtain ⟨x, rfl, -⟩ := ha
    exact ⟨⟨hfit, rfl, hstepping⟩, .inr (.inl rfl)⟩
  exact Leads.mono (fail_leads hc hmode error) (fun _ _ h => hend h.1) fun _ _ h => hend h.1


/-! ## Taking over a snapshot -/

/-- Looking for a script changes nothing but the library. -/
theorem scriptOf_ends (t : Snapshot) (s : Stage) :
    Ends (scriptOf t) s (fun _ s' => ∃ library, s' = { s with library }) fun _ s' =>
      ∃ library, s' = { s with library } := by
  unfold scriptOf
  refine Ends.bind_iff.2 (Ends.get_iff.2 ?_)
  dsimp only
  split
  · exact ⟨s.library, rfl⟩
  · unfold Stage.fetchScript
    refine Ends.bind_iff.2 (Ends.get_iff.2 ?_)
    cases s.library with
    | none => exact ⟨s.library, rfl⟩
    | some library =>
      exact Ends.bind_iff.2 (Ends.set_iff.2 (Ends.ofExcept_iff.2
        ⟨fun _ _ => ⟨_, rfl⟩, fun _ _ => ⟨_, rfl⟩⟩))

/-- The engine on this stage, when nothing is under way. -/
def cleared (s : Stage) (e : Engine σ) : Engine σ :=
  { e with stage := s, effect := none, menu := none, awaiting := false, error := none }

/-- An engine that loads on an open stage is steady. -/
theorem cleared_steady {s : Stage} (h : s.Open) :
    ({ e.cleared s with mode := .loading } : Engine σ).Steady where
  effect := by simp [cleared]
  menu := by simp [cleared]
  options := by simp [cleared]
  safe := by
    have : ({ e.cleared s with mode := .loading } : Engine σ).session.safe = none := h.safe
    simp [this]
  awaiting := by simp [cleared]
  cursor := h.cursor
  script := h.script

/-- A restore fails when the script is not found, when the place is not found in it, and when text
cannot be timed by the settings of the snapshot. The stage is taken over before the text is timed.
-/
theorem restore_ends {t : Snapshot} {R : Script → Stage → Prop} {Q : Unit → Engine σ → Prop}
    {E : Fault → Engine σ → Prop}
    (hscript : Ends (scriptOf t) e.stage R fun f s => E f { e with stage := s })
    (hmissing : ∀ script s error, R script s → Cursor.rebind script t.cursor = .error error →
      E (.story error) { e with stage := s })
    (htaken : ∀ cursor s, R cursor.script s → Cursor.rebind cursor.script t.cursor = .ok cursor →
      Ends Stage.retimeFromSession (s.adopting t cursor)
        (fun _ s' => Ends (enterLoading c) (e.cleared s') Q E) fun f s' => E f (e.cleared s')) :
    Ends (restore c t) e Q E := by
  refine Ends.bind_iff.2 (Ends.onPart_iff.2 (hscript.mono ?_ fun _ _ h => h))
  intro script s hs
  refine Ends.bind_iff.2 (Ends.ofStory_iff.2 ⟨fun cursor hcursor => ?_, (hmissing script s · hs)⟩)
  obtain ⟨rfl, -⟩ := Cursor.rebind_sound hcursor
  refine Ends.bind_iff.2 (Ends.bind_iff.2 (Ends.bind_iff.2 (Ends.bind_iff.2 ?_)))
  exact Ends.bind_iff.2 (Ends.onPart_iff.2 (htaken cursor s hs hcursor))

theorem Opened.of_within {x : Surroundings σ} {go : Bool}
    (h : (e.within x).Opened J fixed go e') : e.Opened J fixed go e' := by
  cases go with
  | true => exact h
  | false =>
    obtain ⟨hrest, ⟨s, y, he', hs⟩ | hend⟩ := h
    · exact ⟨hrest, .inl ⟨s, y, he', ⟨hs.session, hs.script, hs.config, hs.dice, hs.line⟩⟩⟩
    · exact ⟨hrest, .inr hend⟩

/-- A snapshot that is taken over leaves the engine loading. One that cannot be leaves it waiting
for what it waited for. -/
theorem restore_opened (K : Keeps typed J) (hc : Quiet c w True) (h : e.AtRest J) {t : Snapshot}
    (ht : Admits J t) :
    Leads True (restore c t) e (fun _ e' => e.Opened J fixed false e')
      fun _ e' => e.Opened J fixed false e' := by
  -- Looking for the script changes nothing but the library.
  have hstays : ∀ {s'}, (∃ library, s' = { e.stage with library }) → J s' →
      e.Opened J fixed false ({ e with stage := s' } : Engine σ) := by
    rintro _ ⟨library, rfl⟩ hj
    have hs : e.Stays fixed ({ e with stage := { e.stage with library } } : Engine σ) :=
      ⟨{ e.stage with library }, e.surroundings, rfl, ⟨_, rfl, fun _ => rfl⟩, rfl, rfl, rfl,
        .refl _⟩
    exact opened_of_stays h hs hj
  refine restore_ends (Ends.mono (Ends.and (scriptOf_ends t e.stage) (ht e.stage h.fit.stage))
    (fun _ _ h => h) ?_) ?_ ?_
  · rintro (error | m) s' ⟨hlibrary, hj⟩
    · exact hstays hlibrary hj
    · trivial
  · rintro script s' error ⟨hlibrary, hj, -⟩ -
    exact hstays hlibrary hj
  · rintro cursor s' ⟨-, -, hadopt⟩ hcursor
    have hsound : cursor.Sound := (Cursor.rebind_sound hcursor).2
    refine Ends.mono (Ends.and (Stage.retimeFromSession_leads (s'.adopting t cursor))
      (hadopt cursor hcursor)) ?_ ?_
    · rintro _ _ ⟨⟨u, rfl, -⟩, hj⟩
      refine Leads.mono (enterLoading_runs hc _) ?_ fun _ _ h => h.elim
      intro _ e₁ h₁
      have hfit := Fit.aside (w := w) K ⟨cleared_steady ⟨hsound, rfl, rfl⟩, hj⟩ h₁
      obtain ⟨x, rfl, -⟩ := h₁
      exact ⟨⟨hfit, rfl, h.stepping⟩, .inr (.inr rfl)⟩
    · rintro (error | m) _ ⟨hfalse, -⟩
      · exact hfalse.elim
      · trivial

/-- What is done with a store is only done if there is one. -/
theorem requireStore_bind {α : Type} {f : Option SaveStore → Play σ α} {Q : α → Engine σ → Prop}
    {E : StoryError → Engine σ → Prop} (hnone : ∀ x, Leads True (f none) (e.within x) Q E)
    (hsome : ∀ store, e.saves = some store → Leads True (f (some store)) e Q E) :
    Leads True (requireStore >>= f) e Q E := by
  unfold requireStore
  rw [bind_assoc]
  refine Leads.get_bind ?_
  cases hsaves : e.saves with
  | none =>
    simp only [Option.isNone_none, if_true, bind_assoc, pure_bind]
    refine (note_runs Watch.nothing _ _ e).any.bind ?_
    rintro _ _ ⟨x, rfl, -⟩
    exact hnone x
  | some store => exact hsome store hsaves

/-- Saving changes nothing but the files and the store. -/
theorem saveTo_runs (write : String → Value → Attempt Disk (Bool × SaveStore)) (e : Engine σ) :
    Runs True (saveTo write) e fun _ e' => ∃ x, e' = e.within x := by
  unfold saveTo onDisk
  refine Leads.get_bind (Ends.bind_iff.2 (Ends.ofMishap_iff.2 ⟨fun v _ => ?_, fun _ _ => trivial⟩))
  refine Ends.bind_iff.2 (Ends.attempt_iff.2 (Ends.iff_attempted.2 ⟨?_, fun _ _ _ => trivial⟩))
  rintro ⟨ok, store⟩ d -
  exact ⟨{ e.surroundings with disk := d, saves := some store }, rfl⟩

theorem saveToSlot_runs (slot : Value) (e : Engine σ) :
    Runs True (saveToSlot slot) e fun _ e' => ∃ x, e' = e.within x := by
  refine requireStore_bind (fun x => ⟨x, rfl⟩) fun store _ => ?_
  refine Ends.bind_iff.2 (Ends.ofMishap_iff.2 ⟨fun n _ => ?_, fun _ _ => trivial⟩)
  exact saveTo_runs _ e

theorem quicksave_runs (e : Engine σ) :
    Runs True quicksave e fun _ e' => ∃ x, e' = e.within x :=
  requireStore_bind (fun x => ⟨x, rfl⟩) fun _ _ => saveTo_runs _ e

/-- A snapshot is kept where it is looked for. -/
def Holds (read : Attempt Disk (Option Value)) (d : Disk) (t : Snapshot) : Prop :=
  ∃ data d', read.perform d = (.ok (some data), d') ∧ Snapshot.ofValue data = .ok t

/-- A load that fails to read a snapshot, or finds none, changes only the disk. What it has read is
restored. -/
theorem loadFrom_ends {read : Attempt Disk (Option Value)} {Q : Bool → Engine σ → Prop}
    {E : Fault → Engine σ → Prop}
    (hfailed : ∀ r d m, read.perform e.stage.disk = (r, d) → E (.mishap m) (diskPlace.set d e))
    (hnothing : ∀ r d, read.perform e.stage.disk = (r, d) → Q false (diskPlace.set d e))
    (hkept : ∀ data t d, read.perform e.stage.disk = (.ok (some data), d) →
      Snapshot.ofValue data = .ok t →
        Ends (restore c t) (diskPlace.set d e) (fun _ e' => Q true e') E) :
    Ends (loadFrom c read) e Q E := by
  unfold loadFrom onDisk
  refine Ends.bind_iff.2 (Ends.attempt_iff.2 (Ends.iff_attempted.2 ⟨fun found d hread => ?_,
    fun m d hread => hfailed _ d m hread⟩))
  dsimp only
  split
  · exact hnothing _ d hread
  · next hdata =>
    cases found with
    | none => simp [Value.truthy] at hdata
    | some data =>
      exact Ends.bind_iff.2 (Ends.ofMishap_iff.2 ⟨fun t hof =>
        Ends.bind_iff.2 (hkept data t d hread hof), fun m _ => hfailed _ d m hread⟩)

theorem loadFrom_opened (K : Keeps typed J) (hc : Quiet c w True) (h : e.AtRest J)
    {read : Attempt Disk (Option Value)} (ht : ∀ t, Holds read e.stage.disk t → Admits J t) :
    Leads True (loadFrom c read) e (fun _ e' => e.Opened J fixed false e')
      fun _ e' => e.Opened J fixed false e' := by
  refine loadFrom_ends (fun _ _ _ _ => trivial) (fun _ d _ =>
    opened_of_within K h { e.surroundings with disk := d }) fun data t d hread hof => ?_
  have hrest := h.within K { e.surroundings with disk := d }
  have hrestored : Leads True (restore c t) (e.within { e.surroundings with disk := d })
      (fun _ e' => Opened J fixed _ false e') fun _ e' => Opened J fixed _ false e' :=
    restore_opened K hc hrest (ht t ⟨data, d, hread, hof⟩)
  exact Leads.mono hrestored (fun _ _ h => h.of_within) fun _ _ h => h.of_within

/-! ## Taking an option -/

/-- What an option says leaves the cursor sound and in the script that is played. -/
theorem followOn_leads (K : Keeps typed J) (option : ChoiceOption) {s : Stage}
    (h : s.session.cursor.Sound) (hs : s.session.cursor.script = s.script) (hj : J s) :
    Leads True (followOn option) s
      (fun _ s' => s'.session.cursor.Sound ∧ s'.session.cursor.script = s'.script ∧ J s')
      fun _ s' => s'.session.cursor.Sound ∧ s'.session.cursor.script = s'.script ∧ J s' := by
  have hswitch : ∀ name, Leads True (Stage.switchConversation name) s
      (fun _ s' => s'.session.cursor.Sound ∧ s'.session.cursor.script = s'.script ∧ J s')
      fun _ s' => s'.session.cursor.Sound ∧ s'.session.cursor.script = s'.script ∧ J s' := by
    intro name
    refine Leads.get_bind (Ends.bind_iff.2 (Ends.ofExcept_iff.2 ⟨fun name _ => ?_, ?_⟩))
    · refine Ends.bind_iff.2
        (Ends.ofStory_iff.2 ⟨fun cursor hcursor => ?_, fun _ _ => ⟨h, hs, hj⟩⟩)
      obtain ⟨hscript, hsound⟩ := Likeness.switchTo_sound hcursor
      exact ⟨hsound, hscript.trans hs, K.cursor cursor hj hscript hsound⟩
    · rintro (error | m) _
      · exact ⟨h, hs, hj⟩
      · trivial
  unfold followOn
  split
  · refine Ends.bind_iff.2 (Ends.ofMishap_iff.2 ⟨fun delta _ => ?_, fun _ _ => trivial⟩)
    refine Leads.modify_bind ⟨Likeness.advance_sound h, hs, ?_⟩
    exact K.cursor _ (K.flag option.flag.shown _ hj) rfl (Likeness.advance_sound h)
  · exact hswitch _

theorem takeOption_opened (K : Keeps typed J) (hc : Quiet c w True) (h : e.AtRest J)
    (index : Value) :
    Leads True (HostCall.takeOption c index) e (e.Opened J fixed)
      fun _ e' => e.Opened J fixed false e' := by
  have hs := h.fit.steady
  unfold HostCall.takeOption
  refine Leads.get_bind ?_
  split
  · exact note_opened K h _ _
  · next options hmenu =>
    obtain ⟨hmenu, hmode⟩ := Option.filter_eq_some_iff.1 hmenu
    have hmode : e.mode = .awaitingChoice := by simpa using hmode
    have heffect := hs.effect_eq_none (by simp [hmode])
    have hawaiting := hs.awaiting_eq_false (by simp [hmode])
    have hpick : Leads True (pick c options index) e (fun _ e' => e'.Starts J)
        fun _ e' => e'.cursor.Sound ∧ e'.cursor.script = e'.script ∧ J e'.stage ∧
          e'.mode ≠ .ended ∧ e'.stepping = false := by
      cases hplace : placeOf index options.length with
      | error f =>
        refine Ends.bind_iff.2 (Ends.ofExcept_iff.2 ⟨fun _ h => ?_, fun f' hf => ?_⟩)
        · rw [hplace] at h
          cases h
        · rcases f' with error | m
          · exact ⟨hs.cursor, hs.script, h.fit.stage, by simp [hmode], h.stepping⟩
          · trivial
      | ok place =>
        have hlt := HostCall.placeOf_lt hplace
        refine Leads.mono (HostCall.pick_leads hc hplace (List.getElem?_eq_getElem hlt) heffect
          fun d _ => followOn_leads K _ hs.cursor hs.script (K.disk d h.fit.stage)) ?_ ?_
        · rintro _ e' ⟨s, ⟨hsound, hscript, hj⟩, h'⟩
          have hstarts : ({ e with stage := s } : Engine σ).freed.Starts J :=
            freed_starts K hawaiting hsound hscript hj h.stepping
          exact hstarts.aside K h'
        · rintro _ _ ⟨s, ⟨hsound, hscript, hj⟩, ⟨x, rfl, -⟩⟩
          exact ⟨hsound, hscript, K.disk _ hj, by simp [within, hmode], h.stepping⟩
    refine Ends.bind_iff.2 (Ends.outcome_iff.2 (Ends.mono hpick ?_ ?_))
    · exact fun _ e' h' => h'
    · rintro (error | m) e' h'
      · obtain ⟨hsound, hscript, hj, hmode', hstepping⟩ := h'
        exact (fail_opened K hc hsound hscript hj hmode' hstepping error).bind fun _ _ h => h
      · trivial

end Engine

namespace HostCall

open Engine

variable {c : Collaborators σ} {w : Watch σ} {e e' : Engine σ} {typed : Prop} {J : Stage → Prop}

/-- The call takes over a snapshot. -/
def Brings (e : Engine σ) (t : Snapshot) : HostCall → Prop
  | restore t' => t' = t
  | loadFromSlot slot => ∃ store n, e.saves = some store ∧ slot.toInt = .ok n ∧
    Holds (store.readSlot (.int n)) e.stage.disk t
  | quickload => ∃ store, e.saves = some store ∧ Holds store.readQuick e.stage.disk t
  | _ => False

/-- Whether the call sets a flag. -/
def setsFlag : HostCall → Bool
  | setFlag _ _ => true
  | _ => false

/-- A call that plays nothing is all of its opening. -/
theorem opened_of_run {fixed : Prop} {act : Play σ Unit}
    (h : Leads True act e (fun _ e' => e.Opened J fixed false e')
      fun _ e' => e.Opened J fixed false e') :
    Leads True (do act; return false) e (e.Opened J fixed)
      fun _ e' => e.Opened J fixed false e' :=
  h.bind fun _ _ h => h

section
variable (K : Keeps typed J) (h : e.AtRest J)
include K h

/-- A line that is displayed is passed, whatever has become of its timing. -/
theorem passLine_opened {fixed : Prop} {l : List Intent} {t : TimedText} {e₁ : Engine σ}
    (hshows : e.showsLine) (htext : e.stage.timedText.SameText t)
    (h₁ : Aside w l (e.mapStage (Stage.mapTimedText fun _ => t)) e₁) :
    Leads True passLine e₁ (e.Opened J fixed) fun _ e' => e.Opened J fixed false e' := by
  obtain ⟨x, rfl, hsent, hkept⟩ := h₁
  have hshows₁ : ((e.mapStage (Stage.mapTimedText fun _ => t)).within x).showsLine := hshows
  refine Leads.mono (passLine_runs hshows₁) ?_ fun _ _ h => h.elim
  rintro _ _ ⟨rfl, rfl⟩
  exact (passed_starts K h hshows htext).aside K ⟨x, rfl, hsent, hkept⟩

/-- More of the line may have become visible: the engine waits on. -/
theorem opened_of_sameLine {fixed : Prop} {l : List Intent} {t : TimedText} {e₁ : Engine σ}
    (hline : e.stage.timedText.SameLine t)
    (h₁ : Aside w l (e.mapStage (Stage.mapTimedText fun _ => t)) e₁) :
    e.Opened J fixed false e₁ := by
  obtain ⟨x, rfl, -⟩ := h₁
  have hstays : e.Stays fixed (e.mapStage (Stage.mapTimedText fun _ => t)) :=
    ⟨{ e.stage with timedText := t }, e.surroundings, rfl, ⟨_, rfl, fun _ => rfl⟩, rfl, rfl,
      rfl, hline⟩
  exact opened_of_stays h (hstays.within x)
    (K.disk _ (K.timedText t h.fit.stage hline.frameRate fun _ => .inl hline.fullText))

omit K in
theorem opened_self {fixed : Prop} : e.Opened J fixed false e :=
  opened_of_stays h (.refl e) h.fit.stage

theorem resourcesReady_opened {fixed : Prop} (hc : Quiet c w True) :
    Leads True (resourcesReady.opening c) e (e.Opened J fixed)
      fun _ e' => e.Opened J fixed false e' := by
  have hs := h.fit.steady
  refine Leads.get_bind ?_
  dsimp only
  split
  · exact note_opened K h _ _
  · next hmode =>
    have hmode : e.mode = .loading := by simpa using hmode
    refine (setMode_runs hc .normal e).any.bind fun _ e₁ h₁ => ?_
    refine Starts.aside K ?_ h₁
    exact starts_of_open rfl (hs.awaiting_eq_false (by simp [hmode]))
      (hs.effect_eq_none (by simp [hmode])) (hs.menu_eq_none (by simp [hmode]))
      ⟨hs.cursor, hs.safe_eq_none (by simp [hmode]) (by simp [hmode]), hs.script⟩ h.fit.stage
      h.stepping

theorem requestAdvance_opened {fixed : Prop} (hc : Quiet c w True) :
    Leads True (requestAdvance.opening c) e (e.Opened J fixed)
      fun _ e' => e.Opened J fixed false e' := by
  refine Leads.get_bind ?_
  cases hshows : e.showsLine with
  | false => exact opened_self h
  | true =>
    refine Ends.bind_iff.2 (Ends.attempt_iff.2 (Ends.mono (TimedText.input_ends _) ?_
      fun _ _ _ => trivial))
    intro fired t hline
    cases fired with
    | true => exact passLine_opened K h hshows hline.text (Aside.refl w _)
    | false =>
      refine (sendReveal_runs hc trivial _).bind ?_
      rintro _ e₁ ⟨l, t', hline', h₁⟩
      exact opened_of_sameLine K h (hline.trans hline') h₁

theorem tick_opened {fixed : Prop} (hc : Quiet c w True) (dt : Value) :
    Leads True ((tick dt).opening c) e (e.Opened J fixed)
      fun _ e' => e.Opened J fixed false e' := by
  refine Leads.get_bind ?_
  cases hshows : e.showsLine with
  | false => exact opened_self h
  | true =>
    refine Ends.bind_iff.2 (Ends.attempt_iff.2 (Ends.mono (TimedText.tick_ends dt _) ?_
      fun _ _ _ => trivial))
    rintro fired t ⟨htext, hline⟩
    refine (sendReveal_runs hc trivial _).bind ?_
    rintro _ e₁ ⟨l, t', hline', h₁⟩
    cases fired with
    | true => exact passLine_opened K h hshows (htext.trans hline'.text) h₁
    | false => exact opened_of_sameLine K h ((hline rfl).trans hline') h₁

/-- The end of the effect that is running frees the engine. Any other is only logged. -/
theorem endEffect_opened {fixed : Prop} (hc : Quiet c w True) (id : Value) :
    Leads True (endEffect c id) e (e.Opened J fixed) fun _ e' => e.Opened J fixed false e' := by
  have hs := h.fit.steady
  cases heffect : e.effect.filter fun i => e.mode == .effectRunning && isEffect id i with
  | none =>
    unfold endEffect
    refine Leads.get_bind ?_
    rw [heffect]
    exact note_opened K h _ _
  | some effect =>
    obtain ⟨heffect, hid⟩ := Option.filter_eq_some_iff.1 heffect
    simp only [Bool.and_eq_true, beq_iff_eq] at hid
    have hmenu := hs.menu_eq_none (by simp [hid.1])
    refine Leads.mono (endEffect_runs hc heffect hid.1 hmenu hid.2) ?_ fun _ _ h => h.elim
    rintro _ e₁ ⟨rfl, h₁⟩
    refine Starts.aside K (completed_starts K ?_) h₁
    exact freed_starts K (hs.awaiting_eq_false (by simp [hid.1])) hs.cursor hs.script h.fit.stage
      h.stepping

end

/-- What the opening of a call of an engine at rest comes to. -/
theorem opening_leads (K : Keeps typed J) (hc : Quiet c w True) (h : e.AtRest J) {call : HostCall}
    (ht : ∀ t, call.Brings e t → Admits J t) :
    Leads True (call.opening c) e (e.Opened J (call.setsFlag = false))
      fun _ e' => e.Opened J (call.setsFlag = false) false e' := by
  cases call with
  | resourcesReady => exact resourcesReady_opened K h hc
  | step =>
    refine Leads.get_bind ?_
    rw [h.running]
    exact opened_self h
  | advance =>
    cases hshows : e.showsLine with
    | false =>
      refine Leads.get_bind ?_
      rw [hshows]
      exact opened_self h
    | true => exact passLine_opened K h hshows ⟨rfl, rfl⟩ (Aside.refl w e)
  | requestAdvance => exact requestAdvance_opened K h hc
  | tick dt => exact tick_opened K h hc dt
  | choose index => exact takeOption_opened K hc h index
  | effectFinished id => exact endEffect_opened K h hc id
  | reportResourceError message =>
    refine opened_of_run (Leads.get_bind ?_)
    by_cases hmode : e.mode = .ended
    · have hdone : e.finished = true := by simpa [finished] using hmode
      refine Leads.get_bind ?_
      rw [hdone]
      exact opened_self h
    · have hs := h.fit.steady
      exact fail_opened K hc hs.cursor hs.script h.fit.stage hmode h.stepping _
  | setFlag name value =>
    refine opened_of_run (Ends.bind_iff.2 (Ends.ofMishap_iff.2 ⟨fun n _ => ?_, fun _ _ => trivial⟩))
    refine Ends.bind_iff.2 (Ends.ofMishap_iff.2 ⟨fun name _ => ?_, fun _ _ => trivial⟩)
    refine opened_of_stays h ?_ (K.flag name n h.fit.stage)
    exact ⟨e.stage.mapFlags fun f => f.set name n, e.surroundings, rfl,
      ⟨⟨_, rfl, fun hfixed => by cases hfixed⟩, rfl, rfl, rfl, .refl _⟩⟩
  | saveToSlot slot =>
    exact opened_of_run (Ends.discard_iff.2 (opened_of_runs K h (saveToSlot_runs slot e)))
  | loadFromSlot slot =>
    refine opened_of_run
      (Ends.discard_iff.2 (requireStore_bind (fun x => ?_) fun store hstore => ?_))
    · exact opened_of_within K h x
    · refine Ends.bind_iff.2 (Ends.ofMishap_iff.2 ⟨fun n hn => ?_, fun _ _ => trivial⟩)
      exact loadFrom_opened K hc h fun t hheld => ht t ⟨store, n, hstore, hn, hheld⟩
  | quicksave => exact opened_of_run (Ends.discard_iff.2 (opened_of_runs K h (quicksave_runs e)))
  | quickload =>
    refine opened_of_run
      (Ends.discard_iff.2 (requireStore_bind (fun x => ?_) fun store hstore => ?_))
    · exact opened_of_within K h x
    · exact loadFrom_opened K hc h fun t hheld => ht t ⟨store, hstore, hheld⟩
  | autosave => exact opened_of_run (Ends.discard_iff.2 (opened_of_runs K h (saveToSlot_runs _ e)))
  | restore t => exact opened_of_run (restore_opened K hc h (ht t rfl))

/-- The call has something to play. -/
def PlaysOn (c : Collaborators σ) (call : HostCall) (e : Engine σ) : Prop :=
  ((call.opening c).perform e).1 = .ok true

/-- What is known when a call has been carried out: its opening has left nothing to play, or it has
made the engine free to play, and a step has brought it to rest. -/
inductive Ran (c : Collaborators σ) (J : Stage → Prop) (call : HostCall) (e e' : Engine σ) :
    Prop where
  | opened : ¬call.PlaysOn c e → e.Opened J (call.setsFlag = false) false e' → Ran c J call e e'
  | played {e₁ : Engine σ} : (call.opening c).perform e = (.ok true, e₁) → e₁.Starts J →
    Rested c J e₁ e' → Ran c J call e e'

/-- What a call of an engine at rest comes to. -/
theorem run_leads (K : Keeps typed J) (hc : Quiet c w True) (h : e.AtRest J) {call : HostCall}
    (ht : ∀ t, call.Brings e t → Admits J t) :
    Leads True (call.run c) e (fun _ e' => Ran c J call e e') fun _ e' => Ran c J call e e' := by
  obtain ⟨hok, herror⟩ := Ends.iff_perform.1 (opening_leads K hc h ht)
  rw [run_eq]
  refine Ends.bind_iff.2 (Ends.iff_perform.2 ⟨fun go e₁ hrun => ?_, ?_⟩)
  · have hopened := hok go e₁ hrun
    cases go with
    | false => exact .opened (by simp [PlaysOn, hrun]) hopened
    | true =>
      have hstarts : e₁.Starts J := hopened
      refine Ends.discard_iff.2 (Leads.mono (step_leads K hc hstarts.fit hstarts.stepping) ?_ ?_)
      all_goals exact fun _ e' h' => .played hrun hstarts h'
  · rintro (error | m) e₁ hrun
    · exact .opened (by simp [PlaysOn, hrun]) (herror _ e₁ hrun)
    · trivial

/-- A call that is over without a mishap leaves the engine at rest. -/
theorem Ran.atRest {call : HostCall} (h : Ran c J call e e') : e'.AtRest J := by
  cases h with
  | opened _ h => exact h.1
  | played _ _ h => exact h.rest

end HostCall

end VisualNovel
