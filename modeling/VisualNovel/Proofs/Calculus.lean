import VisualNovel.Action

/-!
# What an action ends in

`Ends act s Q E` says of a computation on a state how it ends: with a value and a state of which `Q`
holds, or with an error and a state of which `E` holds. Every operation that the engine is written
with has an equation for it, so a statement about a whole function unfolds into one about its tests
and its updates.

A mishap lies outside of what is promised about a story. `Leads may act s Q E` is `Ends` with
nothing asked of the state after a mishap: only values and errors of the story count, and `may` says
whether there can be a mishap at all.

`Matches act act' s t Q E` compares two actions on two states: as long as the first meets no mishap,
the second ends the same way.
-/

namespace VisualNovel

open Script

variable {ε σ τ υ ω α β γ : Type}

/-! ## Plain results -/

/-- A result that depends on another one is a value if both are. -/
theorem bind_eq_ok {x : Except ε α} {f : α → Except ε β} {b : β} :
    (x >>= f) = .ok b ↔ ∃ a, x = .ok a ∧ f a = .ok b := by
  cases x with
  | error e => exact ⟨fun h => (by cases h), fun ⟨_, h, _⟩ => by cases h⟩
  | ok a => exact ⟨fun h => ⟨a, rfl, h⟩, fun ⟨_, h, hf⟩ => by cases h; exact hf⟩

@[simp] theorem mapError_ok {ε' : Type} (f : ε → ε') (a : α) :
    (Except.ok a : Except ε α).mapError f = .ok a := rfl

@[simp] theorem mapError_error {ε' : Type} (f : ε → ε') (e : ε) :
    (Except.error e : Except ε α).mapError f = .error (f e) := rfl

theorem mapError_eq_ok {ε' : Type} {x : Except ε α} {f : ε → ε'} {a : α} :
    x.mapError f = .ok a ↔ x = .ok a := by
  cases x <;> simp

theorem toOption_eq_some {x : Except ε α} {a : α} : x.toOption = some a ↔ x = .ok a := by
  cases x <;> simp [Except.toOption]

/-- Whether a result is this mishap. -/
def Mishap.isResult (m : Mishap) : Except Fault α → Bool
  | .error (.mishap m') => decide (m' = m)
  | _ => false

theorem Mishap.isResult_iff {m : Mishap} {r : Except Fault α} :
    m.isResult r = true ↔ r = .error (.mishap m) := by
  rcases r with (_ | _) | _ <;> simp [Mishap.isResult]

/-! ## One computation -/

theorem run_bind (x : ExceptT ε (StateM σ) α) (f : α → ExceptT ε (StateM σ) β) (s : σ) :
    ((ExceptT.run (x >>= f)).run s : Except ε β × σ) =
      match ((ExceptT.run x).run s : Except ε α × σ) with
      | (.ok a, s') => (ExceptT.run (f a)).run s'
      | (.error e, s') => (.error e, s') := by
  simp only [bind, ExceptT.bind, ExceptT.mk, ExceptT.run, StateT.run, StateT.bind,
    ExceptT.bindCont]
  cases x s with
  | mk r s' => cases r <;> rfl

/-- The computation ends with a value and `Q`, or with an error and `E`. -/
def Ends (act : ExceptT ε (StateM σ) α) (s : σ) (Q : α → σ → Prop) (E : ε → σ → Prop) : Prop :=
  match ((ExceptT.run act).run s : Except ε α × σ) with
  | (.ok a, s') => Q a s'
  | (.error e, s') => E e s'

namespace Ends

variable {act : ExceptT ε (StateM σ) α} {s : σ} {Q Q' : α → σ → Prop} {E E' : ε → σ → Prop}

theorem mono (h : Ends act s Q E) (hQ : ∀ a s', Q a s' → Q' a s')
    (hE : ∀ e s', E e s' → E' e s') : Ends act s Q' E' := by
  unfold Ends at h ⊢
  split at h
  · exact hQ _ _ h
  · exact hE _ _ h

/-- Two facts about how a computation ends hold together. -/
theorem and (h : Ends act s Q E) (h' : Ends act s Q' E') :
    Ends act s (fun a s' => Q a s' ∧ Q' a s') (fun e s' => E e s' ∧ E' e s') := by
  unfold Ends at h h' ⊢
  split at h
  · next heq =>
    rw [heq] at h'
    exact ⟨h, h'⟩
  · next heq =>
    rw [heq] at h'
    exact ⟨h, h'⟩

@[simp] theorem pure_iff {a : α} : Ends (pure a : ExceptT ε (StateM σ) α) s Q E ↔ Q a s :=
  Iff.rfl

@[simp] theorem bind_iff {x : ExceptT ε (StateM σ) β} {f : β → ExceptT ε (StateM σ) α} :
    Ends (x >>= f) s Q E ↔ Ends x s (fun b s' => Ends (f b) s' Q E) E := by
  unfold Ends
  rw [run_bind]
  rcases ((ExceptT.run x).run s : Except ε β × σ) with ⟨_ | _, _⟩ <;> rfl

@[simp] theorem map_iff {x : ExceptT ε (StateM σ) β} {f : β → α} :
    Ends (f <$> x) s Q E ↔ Ends x s (fun b s' => Q (f b) s') E := by
  rw [map_eq_pure_bind]
  exact bind_iff

@[simp] theorem get_iff {Q : σ → σ → Prop} :
    Ends (get : ExceptT ε (StateM σ) σ) s Q E ↔ Q s s :=
  Iff.rfl

@[simp] theorem set_iff {t : σ} {Q : PUnit → σ → Prop} :
    Ends (set t : ExceptT ε (StateM σ) PUnit) s Q E ↔ Q ⟨⟩ t :=
  Iff.rfl

@[simp] theorem modify_iff {f : σ → σ} {Q : PUnit → σ → Prop} :
    Ends (modify f : ExceptT ε (StateM σ) PUnit) s Q E ↔ Q ⟨⟩ (f s) :=
  Iff.rfl

@[simp] theorem modifyGet_iff {f : σ → α × σ} :
    Ends (modifyGet f : ExceptT ε (StateM σ) α) s Q E ↔ Q (f s).1 (f s).2 :=
  Iff.rfl

@[simp] theorem throw_iff {e : ε} :
    Ends (throw e : ExceptT ε (StateM σ) α) s Q E ↔ E e s :=
  Iff.rfl

@[simp] theorem discard_iff {Q : PUnit → σ → Prop} :
    Ends (discard act) s Q E ↔ Ends act s (fun _ s' => Q ⟨⟩ s') E := by
  show Ends (Function.const α PUnit.unit <$> act) s Q E ↔ _
  exact map_iff

@[simp] theorem ite_iff {p : Prop} [Decidable p] {x y : ExceptT ε (StateM σ) α} :
    Ends (if p then x else y) s Q E ↔ if p then Ends x s Q E else Ends y s Q E := by
  split <;> rfl

/-- A computation that yields what a plain result is. -/
@[simp] theorem mk_pure_iff {r : Except ε α} :
    Ends (ExceptT.mk (pure r) : ExceptT ε (StateM σ) α) s Q E ↔
      (∀ a, r = .ok a → Q a s) ∧ ∀ e, r = .error e → E e s := by
  cases r with
  | ok a =>
    have h : Ends (ExceptT.mk (pure (.ok a)) : ExceptT ε (StateM σ) α) s Q E ↔ Q a s := Iff.rfl
    simp [h]
  | error e =>
    have h : Ends (ExceptT.mk (pure (.error e)) : ExceptT ε (StateM σ) α) s Q E ↔ E e s := Iff.rfl
    simp [h]

end Ends

/-! ## Actions -/

namespace Ends

variable {s : σ} {Q : α → σ → Prop} {E : Fault → σ → Prop}

/-- The run itself, beside what is known of its end. -/
theorem traced {act : Action σ α} (h : Ends act s Q E) :
    Ends act s (fun a s' => Q a s' ∧ act.perform s = (.ok a, s'))
      fun f s' => E f s' ∧ act.perform s = (.error f, s') := by
  unfold Ends Action.perform at *
  split at h
  · next heq => exact ⟨h, heq⟩
  · next heq => exact ⟨h, heq⟩

theorem recorded {act : Action σ α} (h : Ends act s Q E) :
    Ends act s (fun a s' => Q a s' ∧ act.perform s = (.ok a, s')) E :=
  h.traced.mono (fun _ _ h => h) fun _ _ h => h.1

theorem iff_perform {act : Action σ α} :
    Ends act s Q E ↔ (∀ a s', act.perform s = (.ok a, s') → Q a s') ∧
      ∀ f s', act.perform s = (.error f, s') → E f s' := by
  unfold Ends Action.perform
  split
  · next h => simp [h]
  · next h => simp [h]

theorem of_perform {act : Action σ α} {a : α} {s' : σ} (hrun : act.perform s = (.ok a, s'))
    (h : Q a s') : Ends act s Q E := by
  refine iff_perform.2 ⟨fun b t ht => ?_, fun f t ht => ?_⟩
  · rw [hrun] at ht
    cases ht
    exact h
  · rw [hrun] at ht
    cases ht

/-- An action ends as another one that does the same from where it starts. -/
theorem of_perform_eq {x y : Action σ α} {t : σ} (hrun : x.perform s = y.perform t)
    (h : Ends y t Q E) : Ends x s Q E := by
  rw [iff_perform] at *
  rwa [hrun]

/-- What holds however the action ends holds of the state that it leaves. -/
theorem state {act : Action σ α} {P : σ → Prop} (h : Ends act s (fun _ => P) fun _ => P) :
    P (act.perform s).2 := by
  obtain ⟨hok, herror⟩ := iff_perform.1 h
  rcases hrun : act.perform s with ⟨f | a, s'⟩
  · exact herror f s' hrun
  · exact hok a s' hrun

/-- An action that cannot end with an error ends with a value. -/
theorem performs {act : Action σ α} (h : Ends act s Q E) (herror : ∀ f s', ¬E f s') :
    ∃ a s', act.perform s = (.ok a, s') ∧ Q a s' := by
  obtain ⟨hok, hfault⟩ := iff_perform.1 h
  rcases hrun : act.perform s with ⟨f | a, s'⟩
  · exact absurd (hfault f s' hrun) (herror f s')
  · exact ⟨a, s', rfl, hok a s' hrun⟩

theorem iff_attempted {act : Attempt σ α} {E : Mishap → σ → Prop} :
    Ends act s Q E ↔ (∀ a s', act.perform s = (.ok a, s') → Q a s') ∧
      ∀ m s', act.perform s = (.error m, s') → E m s' := by
  unfold Ends Attempt.perform
  split
  · next h => simp [h]
  · next h => simp [h]

@[simp] theorem ofExcept_iff {r : Except Fault α} :
    Ends (Action.ofExcept r : Action σ α) s Q E ↔
      (∀ a, r = .ok a → Q a s) ∧ ∀ f, r = .error f → E f s :=
  mk_pure_iff

@[simp] theorem ofMishap_iff {r : Except Mishap α} :
    Ends (Action.ofMishap r : Action σ α) s Q E ↔
      (∀ a, r = .ok a → Q a s) ∧ ∀ m, r = .error m → E (.mishap m) s := by
  cases r <;> simp [Action.ofMishap]

@[simp] theorem ofStory_iff {r : Except StoryError α} :
    Ends (Action.ofStory r : Action σ α) s Q E ↔
      (∀ a, r = .ok a → Q a s) ∧ ∀ e, r = .error e → E (.story e) s := by
  cases r <;> simp [Action.ofStory]

@[simp] theorem outcome_iff {act : Action σ α} {Q : Except Fault α → σ → Prop} :
    Ends (Action.outcome act) s Q E ↔
      Ends act s (fun a s' => Q (.ok a) s') (fun f s' => Q (.error f) s') := by
  have hrun : ((ExceptT.run (Action.outcome act)).run s : Except Fault (Except Fault α) × σ) =
      (.ok ((ExceptT.run act).run s : Except Fault α × σ).1,
        ((ExceptT.run act).run s : Except Fault α × σ).2) := rfl
  unfold Ends
  rw [hrun]
  rcases ((ExceptT.run act).run s : Except Fault α × σ) with ⟨_ | _, _⟩ <;> rfl

@[simp] theorem onPart_iff {place : Place σ τ} {act : Action τ α} :
    Ends (Action.onPart place act) s Q E ↔
      Ends act (place.get s) (fun a t => Q a (place.set t s)) (fun f t => E f (place.set t s)) := by
  simp only [Action.onPart, bind_iff, get_iff, Action.perform]
  unfold Ends
  rcases ((ExceptT.run act).run (place.get s) : Except Fault α × τ) with ⟨_ | _, _⟩ <;> rfl

@[simp] theorem attempt_iff {place : Place σ τ} {act : Attempt τ α} :
    Ends (Action.attempt place act) s Q E ↔
      Ends act (place.get s) (fun a t => Q a (place.set t s))
        (fun m t => E (.mishap m) (place.set t s)) := by
  simp only [Action.attempt, bind_iff, get_iff, Attempt.perform]
  unfold Ends
  rcases ((ExceptT.run act).run (place.get s) : Except Mishap α × τ) with ⟨_ | _, _⟩ <;> rfl

end Ends

/-! ## Leaving mishaps aside -/

/-- What is asked of a fault: `E` of an error of the story, and of a mishap only that there may be
one. -/
def Stops (may : Prop) (E : StoryError → σ → Prop) : Fault → σ → Prop
  | .story e, s => E e s
  | .mishap _, _ => may

@[simp] theorem stops_story {may : Prop} {E : StoryError → σ → Prop} {e : StoryError} {s : σ} :
    Stops may E (.story e) s ↔ E e s :=
  Iff.rfl

@[simp] theorem stops_mishap {may : Prop} {E : StoryError → σ → Prop} {m : Mishap} {s : σ} :
    Stops may E (.mishap m) s ↔ may :=
  Iff.rfl

/-- The action ends with a value and `Q`, or with an error of the story and `E`, or with a mishap if
there may be one. -/
abbrev Leads (may : Prop) (act : Action σ α) (s : σ) (Q : α → σ → Prop)
    (E : StoryError → σ → Prop) : Prop :=
  Ends act s Q (Stops may E)

/-- The action ends with a value and `Q`, or with a mishap if there may be one. -/
abbrev Runs (may : Prop) (act : Action σ α) (s : σ) (Q : α → σ → Prop) : Prop :=
  Leads may act s Q fun _ _ => False

namespace Leads

variable {may : Prop} {act : Action σ α} {s : σ} {Q Q' : α → σ → Prop}
  {E E' : StoryError → σ → Prop}

theorem mono (h : Leads may act s Q E) (hQ : ∀ a s', Q a s' → Q' a s')
    (hE : ∀ e s', E e s' → E' e s') : Leads may act s Q' E' := by
  refine Ends.mono h hQ ?_
  rintro (e | m) s' h
  · exact hE e s' h
  · exact h

theorem bind {x : Action σ β} {f : β → Action σ α} {P : β → σ → Prop} (hx : Leads may x s P E)
    (hf : ∀ b s', P b s' → Leads may (f b) s' Q E) : Leads may (x >>= f) s Q E :=
  Ends.bind_iff.2 (hx.mono hf fun _ _ h => h)

theorem onPart {place : Place σ τ} {act : Action τ α}
    (h : Leads may act (place.get s) (fun a t => Q a (place.set t s))
      fun e t => E e (place.set t s)) :
    Leads may (Action.onPart place act) s Q E := by
  refine Ends.onPart_iff.2 (Ends.mono h (fun _ _ h => h) ?_)
  rintro (e | m) t h
  · exact h
  · exact h

/-- What follows a look at the state sees the state. -/
theorem get_bind {f : σ → Action σ α} (h : Leads may (f s) s Q E) : Leads may (get >>= f) s Q E :=
  h

/-- What follows an update starts at the updated state. -/
theorem modify_bind {g : σ → σ} {f : PUnit → Action σ α} (h : Leads may (f ⟨⟩) (g s) Q E) :
    Leads may (modify g >>= f) s Q E :=
  h

/-- What follows a result that is known to be a value. -/
theorem ofMishap_bind {r : Except Mishap β} {b : β} {f : β → Action σ α} (hr : r = .ok b)
    (h : Leads may (f b) s Q E) : Leads may (Action.ofMishap r >>= f) s Q E := by
  rw [hr]
  exact h

end Leads

namespace Runs

variable {may : Prop} {x : Action σ β} {s : σ} {P : β → σ → Prop}

theorem performs (h : Runs False x s P) : ∃ b s', x.perform s = (.ok b, s') ∧ P b s' := by
  refine Ends.performs h ?_
  rintro (e | m) s' h
  · exact h
  · exact h

/-- An action that no error of the story stops, followed by another one. -/
theorem bind {f : β → Action σ α} {Q : α → σ → Prop} {E : StoryError → σ → Prop}
    (hx : Runs may x s P) (hf : ∀ b s', P b s' → Leads may (f b) s' Q E) :
    Leads may (x >>= f) s Q E :=
  Ends.bind_iff.2 (Leads.mono hx hf fun _ _ h => h.elim)

/-- Mishaps may be allowed where there are none. -/
theorem loosen {may' : Prop} (h : Runs may x s P) (hmay : may → may') : Runs may' x s P := by
  refine Ends.mono h (fun _ _ h => h) ?_
  rintro (e | m) s' h
  · exact h
  · exact hmay h

/-- An action that never meets a mishap. -/
theorem any (h : Runs False x s P) : Runs may x s P :=
  h.loosen False.elim

theorem mono {P' : β → σ → Prop} (h : Runs may x s P) (hP : ∀ b s', P b s' → P' b s') :
    Runs may x s P' :=
  Leads.mono h hP fun _ _ h => h

/-- An action that never fails. -/
theorem ends {E : Fault → σ → Prop} (h : Runs False x s P) : Ends x s P E := by
  refine Ends.mono h (fun _ _ h => h) ?_
  rintro (e | m) s' h
  · exact h.elim
  · exact h.elim

/-- An action that never fails, followed by another one that may. -/
theorem bind_ends {f : β → Action σ α} {Q : α → σ → Prop} {E : Fault → σ → Prop}
    (hx : Runs False x s P) (hf : ∀ b s', P b s' → Ends (f b) s' Q E) : Ends (x >>= f) s Q E :=
  Ends.bind_iff.2 (Ends.mono hx.ends hf fun _ _ h => h)

end Runs

/-! ## Two actions -/

namespace Action

variable {x : Action σ α} {f : α → Action σ β} {s s' : σ}

theorem perform_bind_ok {a : α} (h : x.perform s = (.ok a, s')) :
    (x >>= f).perform s = (f a).perform s' := by
  have h' : ((ExceptT.run x).run s : Except Fault α × σ) = (.ok a, s') := h
  show ((ExceptT.run (x >>= f)).run s : Except Fault β × σ) = _
  rw [run_bind, h']
  rfl

theorem perform_bind_error {e : Fault} (h : x.perform s = (.error e, s')) :
    (x >>= f).perform s = (.error e, s') := by
  have h' : ((ExceptT.run x).run s : Except Fault α × σ) = (.error e, s') := h
  show ((ExceptT.run (x >>= f)).run s : Except Fault β × σ) = _
  rw [run_bind, h']

theorem perform_get_bind {g : σ → Action σ α} : (get >>= g).perform s = (g s).perform s :=
  rfl

theorem perform_modify_bind {g : σ → σ} {k : PUnit → Action σ α} :
    (modify g >>= k).perform s = (k ⟨⟩).perform (g s) :=
  rfl

theorem perform_map {g : α → β} :
    (g <$> x).perform s = ((x.perform s).1.map g, (x.perform s).2) := by
  rw [map_eq_pure_bind]
  rcases h : x.perform s with ⟨_ | a, s'⟩
  · exact perform_bind_error h
  · exact perform_bind_ok h

theorem perform_onPart {place : Place σ τ} {act : Action τ α} :
    (onPart place act).perform s =
      ((act.perform (place.get s)).1, place.set (act.perform (place.get s)).2 s) :=
  rfl

theorem perform_outcome : (outcome x).perform s = (.ok (x.perform s).1, (x.perform s).2) :=
  rfl

end Action

/-- Unless the first action meets a mishap, the second ends the same way: with a value, and then `Q`
holds of the two values and states, or with the same error of the story, and then `E` does. -/
def Matches (act : Action σ α) (act' : Action τ β) (s : σ) (t : τ) (Q : α → β → σ → τ → Prop)
    (E : StoryError → σ → τ → Prop) : Prop :=
  Leads True act s (fun a s' => ∃ b t', act'.perform t = (.ok b, t') ∧ Q a b s' t')
    (fun e s' => ∃ t', act'.perform t = (.error (.story e), t') ∧ E e s' t')

namespace Matches

variable {s : σ} {t : τ} {E E' : StoryError → σ → τ → Prop}

theorem mono {act : Action σ α} {act' : Action τ β} {Q Q' : α → β → σ → τ → Prop}
    (h : Matches act act' s t Q E) (hQ : ∀ a b s' t', Q a b s' t' → Q' a b s' t')
    (hE : ∀ e s' t', E e s' t' → E' e s' t') : Matches act act' s t Q' E' := by
  refine Leads.mono h ?_ ?_
  · rintro a s' ⟨b, t', ht, hq⟩
    exact ⟨b, t', ht, hQ _ _ _ _ hq⟩
  · rintro e s' ⟨t', ht, he⟩
    exact ⟨t', ht, hE _ _ _ he⟩

/-- Two comparisons of the same actions hold together. -/
theorem and {act : Action σ α} {act' : Action τ β} {Q Q' : α → β → σ → τ → Prop}
    (h : Matches act act' s t Q E) (h' : Matches act act' s t Q' E') :
    Matches act act' s t (fun a b s' t' => Q a b s' t' ∧ Q' a b s' t')
      (fun e s' t' => E e s' t' ∧ E' e s' t') := by
  refine Ends.mono (Ends.and h h') ?_ ?_
  · rintro a s' ⟨⟨b, t', ht, hq⟩, b', t'', ht', hq'⟩
    rw [ht] at ht'
    cases ht'
    exact ⟨b, t', ht, hq, hq'⟩
  · rintro (e | m) s' ⟨hs, hs'⟩
    · obtain ⟨t', ht, he⟩ := hs
      obtain ⟨t'', ht', he'⟩ := hs'
      rw [ht] at ht'
      cases ht'
      exact ⟨t', ht, he, he'⟩
    · trivial

/-- A comparison of two actions, and what is known of each of them. -/
theorem and_leads {act : Action σ α} {act' : Action τ β} {Q : α → β → σ → τ → Prop}
    {R : α → σ → Prop} {R' : β → τ → Prop} {F : StoryError → σ → Prop} {F' : StoryError → τ → Prop}
    (h : Matches act act' s t Q E) (hl : Leads True act s R F) (hl' : Leads True act' t R' F') :
    Matches act act' s t (fun a b s' t' => Q a b s' t' ∧ R a s' ∧ R' b t')
      fun e s' t' => E e s' t' ∧ F e s' ∧ F' e t' := by
  obtain ⟨hok, herror⟩ := Ends.iff_perform.1 hl'
  refine Ends.mono (Ends.and h hl) ?_ ?_
  · rintro a s' ⟨⟨b, t', ht, hq⟩, hr⟩
    exact ⟨b, t', ht, hq, hr, hok b t' ht⟩
  · rintro (e | m) s' ⟨hs, hf⟩
    · obtain ⟨t', ht, he⟩ := hs
      exact ⟨t', ht, he, hf, herror _ t' ht⟩
    · trivial

@[simp] theorem pure_iff {a : α} {b : β} {Q : α → β → σ → τ → Prop} :
    Matches (pure a) (pure b) s t Q E ↔ Q a b s t := by
  refine ⟨fun h => ?_, fun h => ⟨b, t, rfl, h⟩⟩
  obtain ⟨b', t', ht, hq⟩ := h
  cases ht
  exact hq

theorem bind {x : Action σ α} {x' : Action τ β} {f : α → Action σ γ} {f' : β → Action τ υ}
    {P : α → β → σ → τ → Prop} {Q : γ → υ → σ → τ → Prop} (hx : Matches x x' s t P E)
    (hf : ∀ a b s' t', P a b s' t' → Matches (f a) (f' b) s' t' Q E) :
    Matches (x >>= f) (x' >>= f') s t Q E := by
  refine Ends.bind_iff.2 (Leads.mono hx ?_ ?_)
  · rintro a s' ⟨b, t', ht, hp⟩
    refine Leads.mono (hf a b s' t' hp) ?_ ?_
    · rintro c s'' ⟨d, t'', ht', hq⟩
      exact ⟨d, t'', (Action.perform_bind_ok ht).trans ht', hq⟩
    · rintro e s'' ⟨t'', ht', he⟩
      exact ⟨t'', (Action.perform_bind_ok ht).trans ht', he⟩
  · rintro e s' ⟨t', ht, he⟩
    exact ⟨t', Action.perform_bind_error ht, he⟩

@[simp] theorem get_bind_iff {f : σ → Action σ α} {f' : τ → Action τ β}
    {Q : α → β → σ → τ → Prop} :
    Matches (get >>= f) (get >>= f') s t Q E ↔ Matches (f s) (f' t) s t Q E :=
  Iff.rfl

@[simp] theorem modify_bind_iff {g : σ → σ} {g' : τ → τ} {f : PUnit → Action σ α}
    {f' : PUnit → Action τ β} {Q : α → β → σ → τ → Prop} :
    Matches (modify g >>= f) (modify g' >>= f') s t Q E ↔
      Matches (f ⟨⟩) (f' ⟨⟩) (g s) (g' t) Q E :=
  Iff.rfl

@[simp] theorem modify_iff {g : σ → σ} {g' : τ → τ} {Q : PUnit → PUnit → σ → τ → Prop} :
    Matches (modify g) (modify g') s t Q E ↔ Q ⟨⟩ ⟨⟩ (g s) (g' t) :=
  pure_iff (E := E) (s := g s) (t := g' t) (a := PUnit.unit) (b := PUnit.unit)

@[simp] theorem map_iff {x : Action σ γ} {x' : Action τ υ} {f : γ → α} {f' : υ → β}
    {Q : α → β → σ → τ → Prop} :
    Matches (f <$> x) (f' <$> x') s t Q E ↔
      Matches x x' s t (fun a b => Q (f a) (f' b)) E := by
  have hval : ∀ b t', (f' <$> x').perform t = (.ok b, t') ↔
      ∃ d, x'.perform t = (.ok d, t') ∧ b = f' d := by
    intro b t'
    rw [Action.perform_map]
    rcases x'.perform t with ⟨_ | d, t''⟩
    · simp [Except.map]
    · simp only [Except.map, Prod.mk.injEq, Except.ok.injEq]
      exact ⟨fun ⟨hb, ht⟩ => ⟨d, ⟨rfl, ht⟩, hb.symm⟩, fun ⟨_, ⟨hd, ht⟩, hb⟩ => ⟨hd ▸ hb.symm, ht⟩⟩
  have herr : ∀ e t', (f' <$> x').perform t = (.error e, t') ↔ x'.perform t = (.error e, t') := by
    intro e t'
    rw [Action.perform_map]
    rcases x'.perform t with ⟨_ | d, t''⟩ <;> simp [Except.map]
  unfold Matches Leads
  rw [Ends.map_iff]
  simp only [hval, herr]
  constructor
  · intro h
    refine Leads.mono h ?_ fun _ _ h => h
    rintro a s' ⟨_, t', ⟨d, hd, rfl⟩, hq⟩
    exact ⟨d, t', hd, hq⟩
  · intro h
    refine Leads.mono h ?_ fun _ _ h => h
    rintro a s' ⟨d, t', hd, hq⟩
    exact ⟨_, t', ⟨d, hd, rfl⟩, hq⟩

/-- Two actions that only read the same plain result. -/
theorem ofExcept_iff {r : Except Fault α} {Q : α → α → σ → τ → Prop} :
    Matches (Action.ofExcept r) (Action.ofExcept r) s t Q E ↔
      (∀ a, r = .ok a → Q a a s t) ∧ ∀ e, r = .error (.story e) → E e s t := by
  rcases r with (e | m) | a
  · constructor
    · rintro ⟨t', ht, he⟩
      cases ht
      exact ⟨fun _ h => (by cases h), fun _ h => by cases h; exact he⟩
    · intro h
      exact ⟨t, rfl, h.2 e rfl⟩
  · exact ⟨fun _ => ⟨fun _ h => (by cases h), fun _ h => by cases h⟩, fun _ => trivial⟩
  · constructor
    · rintro ⟨b, t', ht, hq⟩
      cases ht
      exact ⟨fun _ h => (by cases h; exact hq), fun _ h => by cases h⟩
    · intro h
      exact ⟨a, t, rfl, h.1 a rfl⟩

theorem ofExcept_bind {r : Except Fault γ} {f : γ → Action σ α} {f' : γ → Action τ β}
    {Q : α → β → σ → τ → Prop} (hok : ∀ a, r = .ok a → Matches (f a) (f' a) s t Q E)
    (herror : ∀ e, r = .error (.story e) → E e s t) :
    Matches (Action.ofExcept r >>= f) (Action.ofExcept r >>= f') s t Q E := by
  have hread : Matches (Action.ofExcept r) (Action.ofExcept r) s t
      (fun a b s' t' => b = a ∧ r = .ok a ∧ s' = s ∧ t' = t) E :=
    ofExcept_iff.2 ⟨fun a ha => ⟨rfl, ha, rfl, rfl⟩, herror⟩
  refine bind hread ?_
  rintro a b s' t' ⟨rfl, ha, hs, ht⟩
  rw [hs, ht]
  exact hok _ ha

theorem ofStory_bind {r : Except StoryError γ} {f : γ → Action σ α} {f' : γ → Action τ β}
    {Q : α → β → σ → τ → Prop} (hok : ∀ a, r = .ok a → Matches (f a) (f' a) s t Q E)
    (herror : ∀ e, r = .error e → E e s t) :
    Matches (Action.ofStory r >>= f) (Action.ofStory r >>= f') s t Q E := by
  refine ofExcept_bind (fun a ha => hok a ?_) fun e he => herror e ?_
  · cases r <;> cases ha
    rfl
  · cases r <;> cases he
    rfl

theorem ofMishap_iff {r : Except Mishap α} {Q : α → α → σ → τ → Prop} :
    Matches (Action.ofMishap r) (Action.ofMishap r) s t Q E ↔ ∀ a, r = .ok a → Q a a s t := by
  simp only [Action.ofMishap, ofExcept_iff]
  cases r <;> simp

@[simp] theorem ofMishap_bind_iff {r : Except Mishap γ} {f : γ → Action σ α} {f' : γ → Action τ β}
    {Q : α → β → σ → τ → Prop} :
    Matches (Action.ofMishap r >>= f) (Action.ofMishap r >>= f') s t Q E ↔
      ∀ a, r = .ok a → Matches (f a) (f' a) s t Q E := by
  cases r with
  | ok a =>
    have h : Matches (Action.ofMishap (.ok a) >>= f) (Action.ofMishap (.ok a) >>= f') s t Q E ↔
        Matches (f a) (f' a) s t Q E := Iff.rfl
    simp [h]
  | error m =>
    have h : Matches (Action.ofMishap (.error m) >>= f) (Action.ofMishap (.error m) >>= f') s t Q
        E :=
      trivial
    simp [h]

/-- A mishap in the first action asks nothing of the second. -/
@[simp] theorem throw_mishap {m : Mishap} {act' : Action τ β} {Q : α → β → σ → τ → Prop} :
    Matches (throw (.mishap m) : Action σ α) act' s t Q E :=
  trivial

@[simp] theorem throw_story {error : StoryError} {Q : α → β → σ → τ → Prop} :
    Matches (throw (.story error)) (throw (.story error)) s t Q E ↔ E error s t := by
  refine ⟨fun ⟨t', ht, he⟩ => ?_, fun he => ⟨t, rfl, he⟩⟩
  cases ht
  exact he

theorem onPart {place : Place σ υ} {place' : Place τ ω} {act : Action υ α} {act' : Action ω β}
    {Q : α → β → σ → τ → Prop}
    (h : Matches act act' (place.get s) (place'.get t)
      (fun a b u v => Q a b (place.set u s) (place'.set v t))
      fun e u v => E e (place.set u s) (place'.set v t)) :
    Matches (Action.onPart place act) (Action.onPart place' act') s t Q E := by
  refine Leads.onPart (Leads.mono h ?_ ?_)
  · rintro a u ⟨b, v, hv, hq⟩
    refine ⟨b, place'.set v t, ?_, hq⟩
    rw [Action.perform_onPart, hv]
  · rintro e u ⟨v, hv, he⟩
    refine ⟨place'.set v t, ?_, he⟩
    rw [Action.perform_onPart, hv]

/-- What follows the results of two actions, if it passes a mishap on. -/
theorem outcome_bind {act : Action σ α} {act' : Action τ β} {f : Except Fault α → Action σ γ}
    {f' : Except Fault β → Action τ υ} {P : α → β → σ → τ → Prop} {F : StoryError → σ → τ → Prop}
    {Q : γ → υ → σ → τ → Prop} (h : Matches act act' s t P F)
    (hok : ∀ a b s' t', P a b s' t' → Matches (f (.ok a)) (f' (.ok b)) s' t' Q E)
    (hstory : ∀ e s' t', F e s' t' →
      Matches (f (.error (.story e))) (f' (.error (.story e))) s' t' Q E)
    (hmishap : ∀ m s', Runs True (f (.error (.mishap m))) s' fun _ _ => False) :
    Matches (Action.outcome act >>= f) (Action.outcome act' >>= f') s t Q E := by
  have hcarry : ∀ {r r' s' t'}, act'.perform t = (r', t') → Matches (f r) (f' r') s' t' Q E →
      Leads True (f r) s'
        (fun c s'' => ∃ d t'', (Action.outcome act' >>= f').perform t = (.ok d, t'') ∧
        Q c d s'' t'') fun e s'' => ∃ t'', (Action.outcome act' >>= f').perform t =
          (.error (.story e), t'') ∧ E e s'' t'' := by
    intro r r' s' t' hrun hm
    have hbind : (Action.outcome act' >>= f').perform t = (f' r').perform t' := by
      refine Action.perform_bind_ok ?_
      rw [Action.perform_outcome, hrun]
    rw [hbind]
    exact hm
  refine Ends.bind_iff.2 (Ends.outcome_iff.2 (Ends.mono h ?_ ?_))
  · rintro a s' ⟨b, t', hrun, hp⟩
    exact hcarry hrun (hok a b s' t' hp)
  · rintro (e | m) s' hs
    · obtain ⟨t', hrun, hf⟩ := hs
      exact hcarry hrun (hstory e s' t' hf)
    · exact Leads.mono (hmishap m s') (fun _ _ h => h.elim) fun _ _ h => h.elim

@[simp] theorem ite_iff {p : Prop} [Decidable p] {x y : Action σ α} {x' y' : Action τ β}
    {Q : α → β → σ → τ → Prop} :
    Matches (if p then x else y) (if p then x' else y') s t Q E ↔
      if p then Matches x x' s t Q E else Matches y y' s t Q E := by
  split <;> rfl

/-- An attempt on parts that are the same gives the same. -/
theorem attempt_same {place : Place σ υ} {place' : Place τ υ} {act : Attempt υ α}
    {Q : α → α → σ → τ → Prop} (hsame : place'.get t = place.get s)
    (h : ∀ a u, act.perform (place.get s) = (.ok a, u) → Q a a (place.set u s) (place'.set u t)) :
    Matches (Action.attempt place act) (Action.attempt place' act) s t Q E := by
  have hrun : ∀ {ρ : Type} (p : Place ρ υ) (r : ρ) (x : Except Mishap α × υ),
      act.perform (p.get r) = x →
      (Action.attempt p act).perform r = (x.1.mapError .mishap, p.set x.2 r) := by
    rintro ρ p r x rfl
    rfl
  have hs := hrun place s _ rfl
  have ht := hrun place' t _ (by rw [hsame])
  rcases hx : act.perform (place.get s) with ⟨m | a, u⟩
  · rw [hx] at hs
    refine Ends.iff_perform.2 ⟨fun a s' h' => ?_, fun f s' h' => ?_⟩
    · rw [hs] at h'
      cases h'
    · rw [hs] at h'
      cases h'
      trivial
  · rw [hx] at hs ht
    refine Ends.iff_perform.2 ⟨fun b s' h' => ?_, fun f s' h' => ?_⟩
    · rw [hs] at h'
      cases h'
      exact ⟨a, _, ht, h a u hx⟩
    · rw [hs] at h'
      cases h'

/-- What holds of one run holds of the run beside itself. -/
theorem diagonal {act : Action σ α} {s : σ} {Q : α → σ → Prop} {E : StoryError → σ → Prop}
    (h : Leads True act s Q E) :
    Matches act act s s (fun a b s' t' => b = a ∧ t' = s' ∧ Q a s')
      fun e s' t' => t' = s' ∧ E e s' := by
  obtain ⟨hok, herror⟩ := Ends.iff_perform.1 h
  refine Ends.iff_perform.2 ⟨fun a s' hrun => ?_, fun f s' hrun => ?_⟩
  · exact ⟨a, s', hrun, rfl, rfl, hok a s' hrun⟩
  · cases f with
    | story e => exact ⟨s', hrun, rfl, herror _ s' hrun⟩
    | mishap m => trivial

/-- Two actions that no error of the story stops, of which the second always ends with a value. -/
theorem of_runs {act : Action σ α} {act' : Action τ β} {P : α → σ → Prop} {P' : β → τ → Prop}
    (h : Runs True act s P) (h' : Runs False act' t P') :
    Matches act act' s t (fun a b s' t' => P a s' ∧ P' b t') E := by
  obtain ⟨hok, herr⟩ := Ends.iff_perform.1 h'
  rcases hrun : act'.perform t with ⟨f | b, t'⟩
  · cases f with
    | story e => exact (herr _ _ hrun).elim
    | mishap m => exact (herr _ _ hrun).elim
  · refine Leads.mono h ?_ fun _ _ h => h.elim
    intro a s' hp
    exact ⟨b, t', hrun, hp, hok b t' hrun⟩

end Matches

end VisualNovel
