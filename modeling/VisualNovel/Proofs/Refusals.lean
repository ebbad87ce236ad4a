import VisualNovel.Proofs.Origins
import VisualNovel.Proofs.Reachable

/-!
# Snapshots that are refused

A snapshot is refused if its script cannot be found, or its conversation cannot be found in the
script. Both are looked up before anything is taken over. So a refusal changes nothing but what the
library remembers, and no collaborator hears of it: `Engine.restore_refused`.
-/

namespace VisualNovel

open Script

variable {σ : Type}

/-- The snapshot names a script, and another one than the stage plays. -/
def Snapshot.Elsewhere (t : Snapshot) (s : Stage) : Prop :=
  t.script.truthy = true ∧ t.script.equal s.script.name = false

/-- The script of the snapshot is found, and the stage is the second one then. -/
inductive Snapshot.Finds (t : Snapshot) (s : Stage) : Script → Stage → Prop where
  | here : ¬t.Elsewhere s → Finds t s s.script s
  | inLibrary {library : Library} {script : Script} : t.Elsewhere s → s.library = some library →
    (library.get s.disk.files t.script).1 = .ok script →
    Finds t s script { s with library := some (library.get s.disk.files t.script).2 }

/-- Why a snapshot is refused: there is no library to look for its script in, the library does not
know the script or cannot compile it, or the script lacks the conversation. -/
inductive Snapshot.Refused (t : Snapshot) (s : Stage) : StoryError → Stage → Prop where
  | noLibrary : t.Elsewhere s → s.library = none →
    Refused t s { cause := .noLibraryToRestore t.script } s
  | noScript {library : Library} {error : StoryError} : t.Elsewhere s → s.library = some library →
    (library.get s.disk.files t.script).1 = .error (.story error) → Refused t s error s
  | noConversation {script : Script} {s' : Stage} {error : StoryError} : t.Finds s script s' →
    script.lookup t.cursor.conversation = .error error → Refused t s error s'

/-- A library that does not find a script stays as it is. -/
theorem Library.get_of_error {l : Library} {files : Files.Tree} {name : Value} {f : Fault}
    (h : (l.get files name).1 = .error f) : (l.get files name).2 = l := by
  unfold get at h ⊢
  split at h
  · next hkey =>
    rw [if_pos hkey]
    split at h
    · cases h
    · split at h
      · cases h
      · rfl
  · next hkey => rw [if_neg hkey]

/-- A place is not taken up exactly if its conversation is missing. -/
theorem Cursor.rebind_eq_error {script : Script} {p : Position} {error : StoryError} :
    Cursor.rebind script p = .error error ↔ script.lookup p.conversation = .error error := by
  unfold Cursor.rebind
  cases script.lookup p.conversation with
  | error e =>
    constructor
    · intro h
      cases h
      rfl
    · intro h
      cases h
      rfl
  | ok beats =>
    constructor
    · intro h
      cases h
    · intro h
      cases h

/-- Looking for the script forgets none. -/
theorem Snapshot.Refused.recalls {t : Snapshot} {s s' : Stage} {error : StoryError}
    (h : t.Refused s error s') : s.Recalls s' := by
  cases h with
  | noLibrary _ _ => exact .refl s
  | noScript _ _ _ => exact .refl s
  | noConversation hfinds _ =>
    cases hfinds with
    | here _ => exact .refl s
    | @inLibrary l _ _ hl _ =>
      refine ⟨_, rfl, fun l' key found hl' hfound => ⟨_, rfl, ?_⟩⟩
      rw [hl] at hl'
      cases hl'
      exact Library.get_keeps hfound

namespace Engine

variable {c : Collaborators σ} {e e' : Engine σ} {t : Snapshot} {s s' : Stage} {script : Script}
  {error : StoryError}

/-! ## Looking for the script -/

theorem elsewhere_iff :
    t.Elsewhere s ↔ ¬(!t.script.truthy || t.script.equal s.script.name) = true := by
  simp [Snapshot.Elsewhere]

theorem scriptOf_here (h : ¬t.Elsewhere s) : (scriptOf t).perform s = (.ok s.script, s) := by
  have htest := Decidable.not_not.1 (mt elsewhere_iff.2 h)
  show (if _ then pure s.script else _ : Action Stage Script).perform s = _
  rw [if_pos htest]
  rfl

theorem scriptOf_elsewhere (h : t.Elsewhere s) : (scriptOf t).perform s =
    match s.library with
    | none => (.error (.story { cause := .noLibraryToRestore t.script }), s)
    | some l => ((l.get s.disk.files t.script).1,
        { s with library := some (l.get s.disk.files t.script).2 }) := by
  show (if _ then _ else Stage.fetchScript _ _ : Action Stage Script).perform s = _
  rw [if_neg (elsewhere_iff.1 h)]
  show (match s.library with | none => _ | some l => _ : Action Stage Script).perform s = _
  cases s.library with
  | none => rfl
  | some l => rfl

theorem scriptOf_eq_ok : (scriptOf t).perform s = (.ok script, s') ↔ t.Finds s script s' := by
  by_cases helse : t.Elsewhere s
  · rw [scriptOf_elsewhere helse]
    constructor
    · intro h
      split at h
      · cases h
      · next l hl =>
        obtain ⟨hget, rfl⟩ := Prod.mk.inj h
        exact .inLibrary helse hl hget
    · intro h
      cases h with
      | here hhere => exact absurd helse hhere
      | inLibrary _ hl hget => rw [hl, ← hget]
  · rw [scriptOf_here helse]
    constructor
    · intro h
      cases h
      exact .here helse
    · intro h
      cases h with
      | here _ => rfl
      | inLibrary h _ _ => exact absurd h helse

/-- A snapshot whose script is not found is refused. -/
theorem refused_of_scriptOf (h : (scriptOf t).perform s = (.error (.story error), s')) :
    t.Refused s error s' := by
  by_cases helse : t.Elsewhere s
  · rw [scriptOf_elsewhere helse] at h
    split at h
    · next hl =>
      cases h
      exact .noLibrary helse hl
    · next l hl =>
      obtain ⟨hget, rfl⟩ := Prod.mk.inj h
      rw [Library.get_of_error hget, ← hl]
      exact .noScript helse hl hget
  · rw [scriptOf_here helse] at h
    cases h

/-! ## Restoring -/

theorem onStage_perform {α : Type} {act : Action Stage α} {r : Except Fault α}
    (h : act.perform e.stage = (r, s')) :
    (onStage act : Play σ α).perform e = (r, { e with stage := s' }) := by
  rw [onStage, Action.perform_onPart]
  erw [h]
  rfl

/-- A snapshot is refused before anybody is asked. -/
theorem restore_of_refused (h : t.Refused e.stage error s') (c : Collaborators σ) :
    (restore c t).perform e = (.error (.story error), { e with stage := s' }) := by
  unfold restore
  cases h with
  | noLibrary helse hl =>
    refine Action.perform_bind_error (onStage_perform ?_)
    rw [scriptOf_elsewhere helse, hl]
  | @noScript l _ helse hl hget =>
    refine Action.perform_bind_error (onStage_perform ?_)
    rw [scriptOf_elsewhere helse, hl]
    show ((l.get e.stage.disk.files t.script).1, _) = _
    rw [hget, Library.get_of_error hget, ← hl]
  | noConversation hfinds hmissing =>
    refine (Action.perform_bind_ok (onStage_perform (scriptOf_eq_ok.2 hfinds))).trans ?_
    refine Action.perform_bind_error ?_
    rw [Cursor.rebind_eq_error.2 hmissing]
    rfl

/-- Listeners do not stop an engine that starts to load, so only the renderer does. -/
theorem enterLoading_leads (c : Collaborators σ) (e : Engine σ) :
    Leads True (enterLoading c) e (fun _ _ => True) fun error e' =>
      ∃ scene e₁, (c.prepare scene).perform e₁ = (.error (.story error), e') := by
  have hemit : ∀ event e₁, Runs True (emit c event) e₁ fun _ _ => True :=
    fun event e₁ => ends_lift.2 trivial
  have hmode : Runs True (setMode c .loading) e fun _ _ => True := by
    unfold setMode
    refine Leads.get_bind ?_
    dsimp only
    split
    · exact Leads.modify_bind (hemit _ _)
    · trivial
  unfold enterLoading
  refine hmode.bind fun _ e₁ _ => Leads.get_bind ?_
  refine (hemit _ e₁).bind fun _ e₂ _ => Leads.get_bind ?_
  refine Ends.iff_perform.2 ⟨fun _ _ _ => trivial, fun f e₃ hrun => ?_⟩
  cases f with
  | story error => exact ⟨_, e₂, hrun⟩
  | mishap m => trivial

/-- An error of the story is a refusal, or the renderer has come with it. -/
theorem restore_leads (c : Collaborators σ) (t : Snapshot) (e : Engine σ) :
    Leads True (restore c t) e (fun _ _ => True) fun error e' =>
      (∃ s', t.Refused e.stage error s') ∨
        ∃ scene e₁, (c.prepare scene).perform e₁ = (.error (.story error), e') := by
  refine restore_ends (Ends.iff_perform.2 ⟨fun script s' hrun => hrun, ?_⟩) ?_ ?_
  · intro f s' hrun
    cases f with
    | story error => exact .inl ⟨s', refused_of_scriptOf hrun⟩
    | mishap m => trivial
  · intro script s' error hrun herror
    exact .inl ⟨s', .noConversation (scriptOf_eq_ok.1 hrun) (Cursor.rebind_eq_error.1 herror)⟩
  · intro cursor s' _ _
    refine Ends.mono (Stage.retimeFromSession_leads _) (fun _ s₁ _ => ?_) ?_
    · exact Leads.mono (enterLoading_leads c _) (fun _ _ h => h) fun _ _ h => .inr h
    · rintro (error | m) _ h
      · exact h.elim
      · trivial

/-- A restore that fails with an error of the story changes nothing but what the library remembers,
and nobody hears of it: it ends the same way whoever works with the engine. An error that the
renderer itself comes with, when it is told to load, stands apart. -/
theorem restore_refused (h : (restore c t).perform e = (.error (.story error), e')) :
    (∃ s', t.Refused e.stage error s' ∧ e.stage.Recalls s' ∧ e' = { e with stage := s' } ∧
      ∀ c' : Collaborators σ, (restore c' t).perform e = (.error (.story error), e')) ∨
    ∃ scene e₁, (c.prepare scene).perform e₁ = (.error (.story error), e') := by
  rcases (Ends.iff_perform.1 (restore_leads c t e)).2 _ e' h with ⟨s', hrefused⟩ | hrenderer
  · have hsame := restore_of_refused hrefused
    obtain ⟨-, rfl⟩ := Prod.mk.inj (h.symm.trans (hsame c))
    exact .inl ⟨s', hrefused, hrefused.recalls, rfl, hsame⟩
  · exact .inr hrenderer

/-- A snapshot of a conversation that no story here has. -/
def astray : Snapshot :=
  { cursor := { conversation := "nowhere" } }

/-- The snapshot is refused while a story fades out, and nobody hears of it. -/
theorem restore_refused_fading : ∃ (e : Engine (List Intent)) (error : StoryError),
    e.mode = .effectRunning ∧ ∀ c', (restore c' astray).perform e = (.error (.story error), e) := by
  have hreached : ((started .recording fading []).bind (after .recording [.resourcesReady])).map
      (fun e => (e.mode, (Table.get? "nowhere" e.script.conversations).isNone)) =
        some (.effectRunning, true) := by
    decide +kernel
  obtain ⟨e, -, he⟩ := Option.map_eq_some_iff.1 hreached
  obtain ⟨hmode, hnowhere⟩ := Prod.mk.inj he
  have hmissing : Table.get? astray.cursor.conversation e.stage.script.conversations = none :=
    Option.isNone_iff_eq_none.1 hnowhere
  have hlookup : e.stage.script.lookup astray.cursor.conversation = .error
      { cause := .unknownConversation (.text "nowhere"), context := contextOf e.script.name } := by
    rw [Script.lookup, hmissing]
    rfl
  have hhere : ¬astray.Elsewhere e.stage := by
    simp [Snapshot.Elsewhere, astray, Value.truthy]
  have hrefused : astray.Refused e.stage _ e.stage := .noConversation (.here hhere) hlookup
  rcases restore_refused (restore_of_refused hrefused .recording) with
    ⟨s', -, -, -, hsame⟩ | ⟨scene, e₁, hrun⟩
  · exact ⟨e, _, hmode, hsame⟩
  · cases hrun

end Engine

end VisualNovel
