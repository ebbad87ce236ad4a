import VisualNovel.Proofs.Calculus

/-!
# Computations in tandem

Two computations run in *tandem* if from related states they end in the same way: both with a value,
and then the values are related, or both with an error, and then the errors are; and the states are
related again. The computations need not be the same, and neither need the values be. A row of steps
in tandem with another row is in tandem with it, so two functions are if their steps are.

Values are mostly related by what a function shows of them, which is `InvImage Eq`.
-/

namespace VisualNovel

open Script

variable {ε σ τ α β γ δ ω : Type}

/-- Two results are both values or both errors, and related. -/
inductive Both (F : ε → ε → Prop) (Q : α → β → Prop) : Except ε α → Except ε β → Prop where
  | ok {a : α} {b : β} : Q a b → Both F Q (.ok a) (.ok b)
  | error {e f : ε} : F e f → Both F Q (.error e) (.error f)

namespace Both

variable {F : ε → ε → Prop} {Q : α → β → Prop} {r : Except ε α} {r' : Except ε β}

theorem mono {Q' : α → β → Prop} (h : Both F Q r r') (hQ : ∀ a b, Q a b → Q' a b) :
    Both F Q' r r' := by
  cases h with
  | ok hq => exact .ok (hQ _ _ hq)
  | error hf => exact .error hf

theorem isOk_eq (h : Both F Q r r') : r'.isOk = r.isOk := by
  cases h with
  | ok _ => rfl
  | error _ => rfl

/-- Results that show the same have the same errors. -/
theorem of_map {r r' : Except ε α} {f : α → γ} (h : r.map f = r'.map f) :
    Both Eq (InvImage Eq f) r r' := by
  cases r with
  | error e => cases r' with
    | error e' => exact .error (Except.error.inj h)
    | ok a' => cases h
  | ok a => cases r' with
    | error e' => cases h
    | ok a' => exact .ok (Except.ok.inj h)

theorem refl {r : Except ε α} (hF : ∀ e, F e e) : Both F Eq r r := by
  cases r with
  | error e => exact .error (hF e)
  | ok a => exact .ok rfl

/-- What shows the same as a third shows the same. -/
theorem trans_symm {r r' : Except ε α} {t : Except ε β} {f : ε → τ} {g : α → γ} {g' : β → γ}
    (h : Both (InvImage Eq f) (fun a b => g a = g' b) r t)
    (h' : Both (InvImage Eq f) (fun a b => g a = g' b) r' t) :
    Both (InvImage Eq f) (InvImage Eq g) r r' := by
  cases h with
  | ok hab => cases h' with
    | ok hab' => exact .ok (hab.trans hab'.symm)
  | error hef => cases h' with
    | error hef' => exact .error (Eq.trans hef (Eq.symm hef'))

theorem bind {P : γ → δ → Prop} {k : α → Except ε γ} {l : β → Except ε δ} (h : Both F Q r r')
    (hk : ∀ a b, Q a b → Both F P (k a) (l b)) : Both F P (r >>= k) (r' >>= l) := by
  cases h with
  | ok hq => exact hk _ _ hq
  | error hf => exact .error hf

theorem mapError {ε' : Type} {G : ε' → ε' → Prop} {g : ε → ε'} (h : Both F Q r r')
    (hG : ∀ e f, F e f → G (g e) (g f)) : Both G Q (r.mapError g) (r'.mapError g) := by
  cases h with
  | ok hq => exact .ok hq
  | error hf => exact .error (hG _ _ hf)

end Both

/-- What two options show is the same if both are empty, or both hold what shows the same. -/
theorem rel_of_map {o o' : Option α} {f : α → γ} (h : o.map f = o'.map f) :
    Option.Rel (InvImage Eq f) o o' := by
  cases o with
  | none => cases o' with
    | none => exact .none
    | some a' => cases h
  | some a => cases o' with
    | none => cases h
    | some a' => exact .some (Option.some.inj h)

/-- From states related by `R` the computations end with values related by `Q` or with errors
related by `F`, and leave the states related. -/
def Tandem (F : ε → ε → Prop) (R : σ → σ → Prop) (Q : α → β → Prop)
    (x : ExceptT ε (StateM σ) α) (y : ExceptT ε (StateM σ) β) : Prop :=
  ∀ s t, R s t →
    Both F Q ((ExceptT.run x).run s : Except ε α × σ).1
      ((ExceptT.run y).run t : Except ε β × σ).1 ∧
    R ((ExceptT.run x).run s : Except ε α × σ).2 ((ExceptT.run y).run t : Except ε β × σ).2

namespace Tandem

variable {F : ε → ε → Prop} {R : σ → σ → Prop} {Q : α → β → Prop} {P : γ → δ → Prop}
  {x : ExceptT ε (StateM σ) α} {y : ExceptT ε (StateM σ) β}

/-! ## Steps and rows of steps -/

theorem of_value {r : Except ε α} {r' : Except ε β} (h : Both F Q r r') :
    Tandem F R Q (ExceptT.mk (pure r)) (ExceptT.mk (pure r')) :=
  fun _ _ hst => ⟨h, hst⟩

protected theorem pure {a : α} {b : β} (h : Q a b) :
    Tandem F R Q (pure a : ExceptT ε (StateM σ) α) (pure b) :=
  of_value (.ok h)

protected theorem throw {e f : ε} (h : F e f) :
    Tandem F R Q (throw e : ExceptT ε (StateM σ) α) (throw f : ExceptT ε (StateM σ) β) :=
  of_value (.error h)

protected theorem modify {g g' : σ → σ} (h : ∀ s t, R s t → R (g s) (g' t)) :
    Tandem F R Eq (modify g : ExceptT ε (StateM σ) PUnit) (modify g') :=
  fun s t hst => ⟨.ok rfl, h s t hst⟩

theorem mono {Q' : α → β → Prop} (h : Tandem F R Q x y) (hQ : ∀ a b, Q a b → Q' a b) :
    Tandem F R Q' x y :=
  fun s t hst => ⟨(h s t hst).1.mono hQ, (h s t hst).2⟩

protected theorem bind {k : α → ExceptT ε (StateM σ) γ} {l : β → ExceptT ε (StateM σ) δ}
    (hx : Tandem F R Q x y) (hk : ∀ a b, Q a b → Tandem F R P (k a) (l b)) :
    Tandem F R P (x >>= k) (y >>= l) := by
  intro s t hst
  have hrun := hx s t hst
  rw [run_bind, run_bind]
  generalize ((ExceptT.run x).run s : Except ε α × σ) = out at hrun
  generalize ((ExceptT.run y).run t : Except ε β × σ) = out' at hrun
  obtain ⟨r, s'⟩ := out
  obtain ⟨r', t'⟩ := out'
  obtain ⟨hboth, hstate⟩ : Both F Q r r' ∧ R s' t' := hrun
  cases hboth with
  | error hf => exact ⟨.error hf, hstate⟩
  | ok hq => exact hk _ _ hq s' t' hstate

/-- What follows a result that is the same on both sides. -/
theorem bind_eq {y : ExceptT ε (StateM σ) α} {k : α → ExceptT ε (StateM σ) γ}
    {l : α → ExceptT ε (StateM σ) δ} (hx : Tandem F R Eq x y)
    (hk : ∀ a, Tandem F R P (k a) (l a)) : Tandem F R P (x >>= k) (y >>= l) :=
  hx.bind fun a _ hab => hab ▸ hk a

/-- What follows a look at the states may use that they are related. -/
theorem get_bind {k : σ → ExceptT ε (StateM σ) α} {l : σ → ExceptT ε (StateM σ) β}
    (h : ∀ s t, R s t → Tandem F R Q (k s) (l t)) : Tandem F R Q (get >>= k) (get >>= l) :=
  fun s t hst => h s t hst s t hst

protected theorem map {f : α → γ} {g : β → δ} (hx : Tandem F R Q x y)
    (h : ∀ a b, Q a b → P (f a) (g b)) : Tandem F R P (f <$> x) (g <$> y) := by
  rw [map_eq_pure_bind, map_eq_pure_bind]
  exact hx.bind fun a b hab => .pure (h a b hab)

protected theorem discard (hx : Tandem F R Q x y) : Tandem F R Eq (discard x) (discard y) :=
  hx.map fun _ _ _ => rfl

protected theorem ite {p q : Prop} [Decidable p] [Decidable q] (hpq : p ↔ q)
    {x' : ExceptT ε (StateM σ) α} {y' : ExceptT ε (StateM σ) β} (hx : Tandem F R Q x y)
    (hy : Tandem F R Q x' y') : Tandem F R Q (if p then x else x') (if q then y else y') := by
  by_cases hp : p
  · rw [if_pos hp, if_pos (hpq.1 hp)]
    exact hx
  · rw [if_neg hp, if_neg (fun hq => hp (hpq.2 hq))]
    exact hy

protected theorem forM {f : γ → ω} {as bs : List γ} {k l : γ → ExceptT ε (StateM σ) PUnit}
    (h : as.map f = bs.map f) (hk : ∀ a b, f a = f b → Tandem F R Eq (k a) (l b)) :
    Tandem F R Eq (as.forM k) (bs.forM l) := by
  induction as generalizing bs with
  | nil =>
    cases bs with
    | nil => exact .pure rfl
    | cons b bs => cases h
  | cons a as ih =>
    cases bs with
    | nil => cases h
    | cons b bs =>
      obtain ⟨hab, h⟩ := List.cons.inj h
      exact (hk a b hab).bind_eq fun _ => ih h

/-- A computation that does not look at the states. -/
theorem mapM_same {as : List γ} {k : γ → ExceptT ε (StateM σ) α}
    (hk : ∀ a, Tandem F R Eq (k a) (k a)) : Tandem F R Eq (as.mapM k) (as.mapM k) := by
  induction as with
  | nil =>
    rw [List.mapM_nil]
    exact .pure rfl
  | cons a as ih =>
    rw [List.mapM_cons]
    exact (hk a).bind_eq fun _ => ih.bind_eq fun _ => .pure rfl

/-- The outcomes of two attempts, taken as values. -/
theorem outcome_attempt {x : Attempt σ α} {y : Attempt σ β} {F : Mishap → Mishap → Prop}
    (h : Tandem F R Q x y) : Tandem F R (Both F Q) (Attempt.outcome x) (Attempt.outcome y) :=
  fun s t hst => ⟨.ok (h s t hst).1, (h s t hst).2⟩

end Tandem

/-! ## Actions -/

namespace Script

/-- The error without the line that it names. -/
def StoryError.unlined (e : StoryError) : StoryError :=
  { e with line := .null }

end Script

/-- The fault without the line that it names. -/
def Fault.unlined : Fault → Fault
  | .story e => .story e.unlined
  | .mishap m => .mishap m

/-- Faults that are the same without lines are errors of the story that are, or one mishap. -/
theorem Fault.cases_of_unlined_eq {f f' : Fault} (h : f.unlined = f'.unlined) :
    (∃ e e', f = .story e ∧ f' = .story e' ∧ e.unlined = e'.unlined) ∨
      ∃ m, f = .mishap m ∧ f' = .mishap m := by
  cases f with
  | story e => cases f' with
    | story e' => exact .inl ⟨e, e', rfl, rfl, Fault.story.inj h⟩
    | mishap m => cases h
  | mishap m => cases f' with
    | story e' => cases h
    | mishap m' => exact .inr ⟨m, rfl, congrArg Fault.mishap (Fault.mishap.inj h).symm⟩

/-- Two actions in tandem. If they stop, then with faults that may only name different lines. -/
abbrev InTandem (R : σ → σ → Prop) (Q : α → β → Prop) (act : Action σ α) (act' : Action σ β) :
    Prop :=
  Tandem (InvImage Eq Fault.unlined) R Q act act'

namespace InTandem

variable {R : σ → σ → Prop} {Q : α → β → Prop}

theorem ofExcept {r : Except Fault α} {r' : Except Fault β}
    (h : Both (InvImage Eq Fault.unlined) Q r r') :
    InTandem R Q (Action.ofExcept r) (Action.ofExcept r') :=
  .of_value h

theorem ofExcept_same {r : Except Fault α} :
    InTandem R Eq (Action.ofExcept r) (Action.ofExcept r) :=
  ofExcept (.refl fun _ => rfl)

theorem ofMishap {r : Except Mishap α} {r' : Except Mishap β} (h : Both Eq Q r r') :
    InTandem R Q (Action.ofMishap r) (Action.ofMishap r') :=
  .of_value (h.mapError fun _ _ hef => congrArg (Fault.unlined <| .mishap ·) hef)

theorem ofMishap_same {r : Except Mishap α} :
    InTandem R Eq (Action.ofMishap r) (Action.ofMishap r) :=
  ofMishap (.refl fun _ => rfl)

/-- Results that show the same. -/
theorem ofMishap_map {r r' : Except Mishap α} {f : α → γ} (h : r.map f = r'.map f) :
    InTandem R (InvImage Eq f) (Action.ofMishap r) (Action.ofMishap r') :=
  ofMishap (.of_map h)

theorem ofStory {r : Except StoryError α} {r' : Except StoryError β}
    (h : Both (InvImage Eq StoryError.unlined) Q r r') :
    InTandem R Q (Action.ofStory r) (Action.ofStory r') :=
  .of_value (h.mapError fun _ _ hef => congrArg Fault.story hef)

theorem outcome {act : Action σ α} {act' : Action σ β} (h : InTandem R Q act act') :
    InTandem R (Both (InvImage Eq Fault.unlined) Q) (Action.outcome act) (Action.outcome act') :=
  fun s t hst => ⟨.ok (h s t hst).1, (h s t hst).2⟩

section
variable {place : Place σ τ} {S : τ → τ → Prop}
  (hget : ∀ s t, R s t → S (place.get s) (place.get t))
  (hset : ∀ s t p q, R s t → S p q → R (place.set p s) (place.set q t))
include hget hset

/-- Actions on a part of the state, where `S` relates the parts of related states. -/
theorem onPart {act : Action τ α} {act' : Action τ β} (h : InTandem S Q act act') :
    InTandem R Q (Action.onPart place act) (Action.onPart place act') := by
  intro s t hst
  obtain ⟨hresult, hpart⟩ := h _ _ (hget s t hst)
  exact ⟨hresult, hset s t _ _ hst hpart⟩

/-- Attempts on a part of the state. -/
theorem attempt {act : Attempt τ α} {act' : Attempt τ β} (h : Tandem Eq S Q act act') :
    InTandem R Q (Action.attempt place act) (Action.attempt place act') := by
  intro s t hst
  obtain ⟨hresult, hpart⟩ := h _ _ (hget s t hst)
  refine ⟨hresult.mapError fun _ _ hef => ?_, hset s t _ _ hst hpart⟩
  exact congrArg (Fault.unlined <| .mishap ·) hef

end

end InTandem

/-- An attempt is in tandem with itself on equal states. -/
theorem Tandem.self {x : ExceptT ε (StateM σ) α} : Tandem Eq Eq Eq x x := by
  rintro s _ rfl
  exact ⟨.refl fun _ => rfl, rfl⟩

end VisualNovel
