import VisualNovel.Engine.Basic

/-!
# Emissions

How one listener is told of an event, said once: a subscription for one delivery is gone before the
listener is called (`serving`), and however the listener ends the next one has its turn
(`EventBus.deliverTo_run`). What is kept by all that an emission does to an engine is kept by the
emission (`Engine.emit_keeps`), and what is kept between two engines is kept by an emission in both
(`Engine.emit_keeps_both`).
-/

namespace VisualNovel

namespace EventBus

variable {κ ι σ ε δ : Type} [BEq κ] [DecidableEq ι]

/-- The state in which a subscription is served: one for one delivery is gone before. -/
def serving (place : Place σ (EventBus κ ι)) (event : κ) (s : Subscription ι) (x : σ) : σ :=
  match s with
  | .always _ => x
  | .once _ _ => place.update (·.remove event s) x

/-- However a listener ends, and whatever it makes of its payload, the emission goes on. -/
theorem deliverTo_run (place : Place σ (EventBus κ ι)) (event : κ) (payload : δ)
    (call : Subscription ι → δ → StateM σ (Except ε Unit × δ)) (failed : StateM σ Unit)
    (s : Subscription ι) (x : σ) :
    (deliverTo place event payload call failed s).run x =
      match (call s payload).run (serving place event s x) with
      | ((.ok _, _), x') => ((), x')
      | ((.error _, _), x') => failed.run x' := by
  cases s with
  | always l =>
    rcases hrun : (call (.always l) payload).run x with ⟨⟨_ | _, _⟩, x'⟩ <;>
      simp only [deliverTo, serving, StateT.run_bind, hrun] <;> rfl
  | once number l =>
    rcases hrun : (call (.once number l) payload).run
        (place.update (·.remove event (.once number l)) x) with ⟨⟨_ | _, _⟩, x'⟩ <;>
      simp only [deliverTo, serving, StateT.run_bind, StateT.run_modify, pure_bind, hrun] <;> rfl

end EventBus

namespace Engine

variable {σ τ : Type}

/-- Tells one listener of an event. -/
def tell (c : Collaborators σ) (event : Event) : Subscription Nat → StateM (Engine σ) Unit :=
  EventBus.deliverTo busPlace event.name event (hear c)
    (modify (mapStage (Stage.note .error s!"listener for {Text.quoted event.name} failed")))

/-- The engine when a subscription is served. -/
def serving (name : String) (sub : Subscription Nat) (e : Engine σ) : Engine σ :=
  EventBus.serving busPlace name sub e

theorem hear_run (c : Collaborators σ) (event : Event) (sub : Subscription Nat) (e : Engine σ) :
    (hear c sub event).run e =
      ((((c.deliver sub.listener event).perform e).1, event),
        ((c.deliver sub.listener event).perform e).2) :=
  rfl

/-- A listener is told of an event, and it is logged if it fails. -/
theorem tell_run (c : Collaborators σ) (event : Event) (sub : Subscription Nat) (e : Engine σ) :
    ((tell c event sub).run e).2 =
      match (c.deliver sub.listener event).perform (e.serving event.name sub) with
      | (.ok _, e') => e'
      | (.error _, e') => e'.mapStage (Stage.note .error
          s!"listener for {Text.quoted event.name} failed") := by
  unfold tell
  rw [EventBus.deliverTo_run, hear_run]
  unfold serving
  rcases (c.deliver sub.listener event).perform (EventBus.serving busPlace event.name sub e) with
    ⟨_ | _, e'⟩ <;> rfl

/-- An event is counted, and told to all who are subscribed at that moment. -/
theorem emit_run (c : Collaborators σ) (event : Event) (e : Engine σ) :
    (emit c event).perform e = (.ok (), (StateT.run
      (((e.bus.countEmission event.name).listeners event.name).forM (tell c event))
      (busPlace.update (·.countEmission event.name) e)).2) :=
  rfl

/-- An emission never stops. -/
theorem emit_result (c : Collaborators σ) (event : Event) (e : Engine σ) :
    ((emit c event).perform e).1 = .ok () := by
  rw [emit_run]

/-- What is kept when the bus changes, when a listener is called and when a line is logged is kept
by an emission. -/
theorem emit_keeps {P : Engine σ → Prop} {c : Collaborators σ} {event : Event}
    (hbus : ∀ f e, P e → P (busPlace.update f e))
    (hdeliver : ∀ id e, P e → P ((c.deliver id event).perform e).2)
    (hnote : ∀ text e, P e → P (e.mapStage (Stage.note .error text))) {e : Engine σ} (h : P e) :
    P ((emit c event).perform e).2 := by
  have htell : ∀ sub e, P e → P ((tell c event sub).run e).2 := by
    intro sub e h
    have hserving : P (e.serving event.name sub) := by
      cases sub with
      | always _ => exact h
      | once number l => exact hbus (·.remove event.name (.once number l)) e h
    have hafter := hdeliver sub.listener _ hserving
    rw [tell_run]
    generalize (c.deliver sub.listener event).perform (e.serving event.name sub) = out at hafter ⊢
    obtain ⟨_ | _, e₁⟩ := out
    · exact hnote _ _ hafter
    · exact hafter
  have hall : ∀ (subs : List (Subscription Nat)) e, P e →
      P ((subs.forM (tell c event)).run e).2 := by
    intro subs
    induction subs with
    | nil => exact fun _ h => h
    | cons sub subs ih => exact fun e h => ih _ (htell sub e h)
  exact hall _ _ (hbus (·.countEmission event.name) e h)

/-- What is kept between two engines when both buses change, when a listener is called in both and
when a line is logged in both is kept by an emission in both. -/
theorem emit_keeps_both {R : Engine σ → Engine τ → Prop} {c : Collaborators σ}
    {c' : Collaborators τ} {event event' : Event} (hname : event'.name = event.name)
    (hsame : ∀ e e', R e e' → e'.bus = e.bus)
    (hbus : ∀ f e e', R e e' → R (busPlace.update f e) (busPlace.update f e'))
    (hdeliver : ∀ id e e', R e e' →
      ((c'.deliver id event').perform e').1.isOk = ((c.deliver id event).perform e).1.isOk ∧
        R ((c.deliver id event).perform e).2 ((c'.deliver id event').perform e').2)
    (hnote : ∀ text e e', R e e' →
      R (e.mapStage (Stage.note .error text)) (e'.mapStage (Stage.note .error text)))
    {e : Engine σ} {e' : Engine τ} (h : R e e') :
    R ((emit c event).perform e).2 ((emit c' event').perform e').2 := by
  have htell : ∀ sub e e', R e e' →
      R ((tell c event sub).run e).2 ((tell c' event' sub).run e').2 := by
    intro sub e e' h
    have hserving : R (e.serving event.name sub) (e'.serving event.name sub) := by
      cases sub with
      | always _ => exact h
      | once number l => exact hbus (·.remove event.name (.once number l)) e e' h
    obtain ⟨hresult, hafter⟩ := hdeliver sub.listener _ _ hserving
    rw [tell_run, tell_run, hname]
    generalize (c.deliver sub.listener event).perform (e.serving event.name sub) = out
      at hresult hafter ⊢
    generalize (c'.deliver sub.listener event').perform (e'.serving event.name sub) = out'
      at hresult hafter ⊢
    obtain ⟨_ | _, e₁⟩ := out <;> obtain ⟨_ | _, e₁'⟩ := out'
    · exact hnote _ _ _ hafter
    · cases hresult
    · cases hresult
    · exact hafter
  have hall : ∀ (subs : List (Subscription Nat)) e e', R e e' →
      R ((subs.forM (tell c event)).run e).2 ((subs.forM (tell c' event')).run e').2 := by
    intro subs
    induction subs with
    | nil => exact fun _ _ h => h
    | cons sub subs ih => exact fun e e' h => ih _ _ (htell sub e e' h)
  rw [emit_run, emit_run, hname, hsame e e' h]
  exact hall _ _ _ (hbus (·.countEmission event.name) e e' h)

end Engine

end VisualNovel
