import VisualNovel.EventBus
import VisualNovel.Proofs.AlikeStages

/-!
# Subscriptions

Who is subscribed to what can be said without a bus, from the calls that were made of it and the
deliveries alone (`Roll`). A subscription is entered behind those that stand there, unless it is one
of them. It is struck off by `unsubscribe`, by what was handed out for it, by `clear`, or, if it is
for one delivery, by that.

The lists of a bus are those of the roll, whatever call is made (`Roll.Matches.call`) and whenever a
listener is called (`Roll.Matches.heard`).
-/

namespace VisualNovel

variable {ι : Type}

/-! ## Calls and deliveries -/

/-- Calls of a bus. `withdraw` calls what an earlier `subscribe` or `once` has given back: these are
numbered in order. -/
inductive BusCall (ι : Type) where
  | subscribe (event : String) (listener : ι)
  | once (event : String) (listener : ι)
  | unsubscribe (event : String) (listener : ι)
  | withdraw (handle : Nat)
  | emit (event : String) (payload : Table String Value)
  | clear

/-- What is written down: a call, and what a listener finds in the payload that it is handed. An
emission goes by the number of its call in the minutes. -/
inductive Occurrence (ι : Type) where
  | called (call : BusCall ι)
  | heard (emission : Nat) (event : String) (subscription : Subscription ι)
    (payload : Table String Value)

/-! ## The roll -/

/-- Whether the subscription is for one delivery. -/
def Subscription.isOnce : Subscription ι → Bool
  | always _ => false
  | once _ _ => true

/-- What was given back for subscriptions, and the subscriptions that stand, each with its event and
in the order in which they were made. -/
structure Roll (ι : Type) where
  handles : List (String × Subscription ι) := []
  entries : List (String × Subscription ι) := []

namespace Roll

/-- How many subscriptions for one delivery were made; this numbers them. -/
def onces (r : Roll ι) : Nat :=
  r.handles.countP (·.2.isOnce)

/-- Who is subscribed to an event, in order. -/
def subscribed (r : Roll ι) (event : String) : List (Subscription ι) :=
  (r.entries.filter (·.1 == event)).map (·.2)

variable [DecidableEq ι]

/-- A subscription is made. -/
def enter (r : Roll ι) (entry : String × Subscription ι) : Roll ι :=
  { handles := r.handles ++ [entry]
    entries := if entry ∈ r.entries then r.entries else r.entries ++ [entry] }

/-- A subscription is taken back, or is over. -/
def strike (r : Roll ι) (entry : String × Subscription ι) : Roll ι :=
  { r with entries := r.entries.filter (· != entry) }

/-- The roll after this. -/
def after (r : Roll ι) : Occurrence ι → Roll ι
  | .called (.subscribe event l) => r.enter (event, .always l)
  | .called (.once event l) => r.enter (event, .once r.onces l)
  | .called (.unsubscribe event l) => r.strike (event, .always l)
  | .called (.withdraw handle) => (r.handles[handle]?).elim r r.strike
  | .called (.emit _ _) => r
  | .called .clear => { r with entries := [] }
  | .heard _ event s _ => if s.isOnce then r.strike (event, s) else r

/-- The roll after all of this. -/
def of (occurrences : List (Occurrence ι)) : Roll ι :=
  occurrences.foldl after {}

end Roll

/-! ## Changes of a bus -/

namespace EventBus

variable {b b' : EventBus String ι} {event name : String} {s t : Subscription ι}

/-- Nobody is listed twice, and each subscription for one delivery has its own number and event. -/
structure InOrder (b : EventBus String ι) : Prop where
  nodup : ∀ event, (b.listeners event).Nodup
  numbered : ∀ event n l, .once n l ∈ b.listeners event → n < b.numbered
  single : ∀ event event' n l l', .once n l ∈ b.listeners event → .once n l' ∈ b.listeners event' →
    event = event' ∧ l = l'

/-- What may become of a bus: subscriptions for one delivery that were made before may be gone, but
none of them comes back. -/
structure Becomes (b b' : EventBus String ι) : Prop where
  numbered : b.numbered ≤ b'.numbered
  lasting : ∀ event n l, n < b.numbered → .once n l ∈ b'.listeners event →
    .once n l ∈ b.listeners event

theorem inOrder_empty : InOrder ({} : EventBus String ι) where
  nodup _ := List.nodup_nil
  numbered _ _ _ h := nomatch h
  single _ _ _ _ _ h := nomatch h

namespace Becomes

theorem refl (b : EventBus String ι) : b.Becomes b :=
  ⟨Nat.le_refl _, fun _ _ _ _ h => h⟩

theorem trans {b'' : EventBus String ι} (h : b.Becomes b') (h' : b'.Becomes b'') :
    b.Becomes b'' where
  numbered := Nat.le_trans h.numbered h'.numbered
  lasting event n l hn hmem :=
    h.lasting event n l hn (h'.lasting event n l (Nat.lt_of_lt_of_le hn h.numbered) hmem)

end Becomes

/-- A change that keeps a bus in order. -/
def Change (f : EventBus String ι → EventBus String ι) : Prop :=
  ∀ b, b.InOrder → (f b).InOrder ∧ b.Becomes (f b)

/-- Subscriptions may be removed. -/
theorem Change.of_sublist {f : EventBus String ι → EventBus String ι}
    (hnumbered : ∀ b, (f b).numbered = b.numbered)
    (hsub : ∀ b event, ((f b).listeners event).Sublist (b.listeners event)) : Change f := by
  intro b hb
  refine ⟨⟨fun event => (hb.nodup event).sublist (hsub b event), fun event n l h => ?_,
    fun event event' n l l' h h' => ?_⟩, Nat.le_of_eq (hnumbered b).symm,
    fun event _ _ _ h => (hsub b event).subset h⟩
  · rw [hnumbered]
    exact hb.numbered event n l ((hsub b event).subset h)
  · exact hb.single event event' n l l' ((hsub b event).subset h) ((hsub b event').subset h')

theorem Change.nothing : Change (ι := ι) id :=
  fun b hb => ⟨hb, .refl b⟩

theorem Change.clear : Change (EventBus.clear (κ := String) (ι := ι)) :=
  .of_sublist (fun _ => rfl) fun _ _ => List.nil_sublist _

theorem Change.countEmission (event : String) :
    Change fun b : EventBus String ι => b.countEmission event :=
  .of_sublist (fun _ => rfl) fun _ _ => List.Sublist.refl _

theorem emitCount_countEmission (b : EventBus String ι) (event name : String) :
    (b.countEmission event).emitCount name =
      if event == name then b.emitCount name + 1 else b.emitCount name := by
  simp only [countEmission, emitCount, Table.get?_put]
  split
  · next heq => rw [beq_iff_eq.1 heq, Option.getD_some]
  · rfl

variable [DecidableEq ι]

theorem listeners_remove (b : EventBus String ι) (event name : String) (s : Subscription ι) :
    (b.remove event s).listeners name =
      if event == name then (b.listeners event).erase s else b.listeners name := by
  simp only [listeners, remove, Table.get?_put]
  split <;> rfl

theorem Change.remove (event : String) (s : Subscription ι) : Change (·.remove event s) := by
  refine .of_sublist (fun _ => rfl) fun b name => ?_
  rw [listeners_remove]
  split
  · next heq =>
    rw [beq_iff_eq.1 heq]
    exact List.erase_sublist
  · exact List.Sublist.refl _

theorem numbered_add : (b.add event s).numbered = b.numbered := by
  unfold add
  dsimp only
  split <;> rfl

theorem listeners_add : (b.add event s).listeners name =
      if event = name ∧ s ∉ b.listeners event then b.listeners event ++ [s]
      else b.listeners name := by
  unfold add
  by_cases hs : s ∈ b.listeners event
  · simp [hs]
  · have hadd : (b.listeners event).contains s = false := by simpa using hs
    simp only [hadd, Bool.false_eq_true, if_false]
    by_cases hname : event = name <;> simp [listeners, Table.get?_put, hname]
    exact fun h => absurd (hname ▸ h) hs

theorem mem_add (h : t ∈ (b.add event s).listeners name) :
    t ∈ b.listeners name ∨ event = name ∧ t = s := by
  rw [listeners_add] at h
  split at h
  · next hadd =>
    rcases List.mem_append.1 h with hold | hnew
    · exact .inl (hadd.1 ▸ hold)
    · exact .inr ⟨hadd.1, List.mem_singleton.1 hnew⟩
  · exact .inl h

theorem nodup_add (h : ∀ name, (b.listeners name).Nodup) :
    ((b.add event s).listeners name).Nodup := by
  rw [listeners_add]
  split
  · next hadd => exact List.nodup_append.2 ⟨h event, by simp, by grind⟩
  · exact h name

theorem Change.subscribe (event : String) (l : ι) : Change (·.subscribe event l) := by
  intro b hb
  have hold : ∀ name n l', .once n l' ∈ (b.subscribe event l).listeners name →
      .once n l' ∈ b.listeners name := by
    intro name n l' h
    rcases mem_add h with h | ⟨-, h⟩
    · exact h
    · cases h
  have hnumbered : (b.subscribe event l).numbered = b.numbered := numbered_add
  refine ⟨⟨fun _ => nodup_add hb.nodup, fun name n l' h => ?_, fun name name' n l₁ l₂ h h' => ?_⟩,
    Nat.le_of_eq hnumbered.symm, fun name n l' _ h => hold name n l' h⟩
  · exact hnumbered ▸ hb.numbered name n l' (hold name n l' h)
  · exact hb.single name name' n l₁ l₂ (hold name n l₁ h) (hold name' n l₂ h')

theorem emitCount_add : (b.add event s).emitCount name = b.emitCount name := by
  unfold add
  dsimp only
  split <;> rfl

theorem Change.once (event : String) (l : ι) : Change fun b => (b.once event l).2 := by
  intro b hb
  have hnumbered : (b.once event l).2.numbered = b.numbered + 1 := numbered_add
  -- The new subscription has a number that none had before.
  have hold : ∀ name n l', .once n l' ∈ (b.once event l).2.listeners name →
      .once n l' ∈ b.listeners name ∨ event = name ∧ n = b.numbered ∧ l' = l := by
    intro name n l' h
    rcases mem_add h with h | ⟨hname, h⟩
    · exact .inl h
    · cases h
      exact .inr ⟨hname, rfl, rfl⟩
  have hnew : ∀ name l', .once b.numbered l' ∉ b.listeners name := fun name l' h =>
    Nat.lt_irrefl _ (hb.numbered name _ l' h)
  refine ⟨⟨fun _ => nodup_add hb.nodup, fun name n l' h => ?_, fun name name' n l₁ l₂ h h' => ?_⟩,
    hnumbered ▸ Nat.le_succ _, fun name n l' hn h => ?_⟩
  · rw [hnumbered]
    rcases hold name n l' h with h | ⟨-, rfl, -⟩
    · exact Nat.lt_succ_of_lt (hb.numbered name n l' h)
    · exact Nat.lt_succ_self _
  · rcases hold name n l₁ h with h | ⟨hname, hn, hl⟩ <;>
      rcases hold name' n l₂ h' with h' | ⟨hname', hn', hl'⟩
    · exact hb.single name name' n l₁ l₂ h h'
    · exact absurd (hn' ▸ h) (hnew name l₁)
    · exact absurd (hn ▸ h') (hnew name' l₂)
    · exact ⟨hname.symm.trans hname', hl.trans hl'.symm⟩
  · rcases hold name n l' h with h | ⟨-, rfl, -⟩
    · exact h
    · exact absurd hn (Nat.lt_irrefl _)

end EventBus

/-! ## The lists of a bus are those of the roll -/

/-- What a call that is no emission does to a bus that has given back these handles. -/
def BusCall.change [DecidableEq ι] (handles : List (String × Subscription ι)) (call : BusCall ι)
    (b : EventBus String ι) : EventBus String ι :=
  match call with
  | subscribe event l => b.subscribe event l
  | once event l => (b.once event l).2
  | unsubscribe event l => b.remove event (.always l)
  | withdraw handle => (handles[handle]?).elim b fun entry => b.remove entry.1 entry.2
  | emit _ _ => b
  | clear => b.clear

/-- What a call of a bus gives back. -/
def BusCall.handedOut [DecidableEq ι] (b : EventBus String ι) :
    BusCall ι → List (String × Subscription ι)
  | subscribe event l => [(event, .always l)]
  | once event l => [(event, (b.once event l).1)]
  | _ => []

namespace Roll

variable {r : Roll ι} {b : EventBus String ι} {handles : List (String × Subscription ι)}
  {event name : String} {s : Subscription ι}

/-- The bus lists those on the roll, and has given back what the roll says. -/
structure Matches (r : Roll ι) (b : EventBus String ι) (handles : List (String × Subscription ι)) :
    Prop where
  lists : ∀ event, b.listeners event = r.subscribed event
  numbered : b.numbered = r.onces
  handles : handles = r.handles

theorem Matches.empty : Matches ({} : Roll ι) {} [] :=
  ⟨fun _ => rfl, rfl, rfl⟩

theorem Matches.countEmission (h : r.Matches b handles) (event : String) :
    r.Matches (b.countEmission event) handles :=
  ⟨h.lists, h.numbered, h.handles⟩

@[simp] theorem mem_subscribed : s ∈ r.subscribed event ↔ (event, s) ∈ r.entries := by
  simp [subscribed]

variable [DecidableEq ι]

theorem subscribed_enter : (r.enter (event, s)).subscribed name =
    if event = name ∧ s ∉ r.subscribed event then r.subscribed event ++ [s]
    else r.subscribed name := by
  simp only [mem_subscribed]
  by_cases hmem : (event, s) ∈ r.entries
  · simp [subscribed, enter, hmem]
  · by_cases hname : event = name
    · subst hname
      simp [subscribed, enter, hmem]
    · simp [subscribed, enter, hmem, hname]

theorem subscribed_strike : (r.strike (event, s)).subscribed name =
    if event = name then (r.subscribed event).filter (· != s) else r.subscribed name := by
  unfold subscribed strike
  by_cases hname : event = name
  · subst hname
    rw [if_pos rfl, List.filter_map, List.filter_filter, List.filter_filter]
    congr 1
    refine List.filter_congr fun entry _ => ?_
    grind
  · rw [if_neg hname, List.filter_filter]
    congr 1
    refine List.filter_congr fun entry _ => ?_
    grind

namespace Matches

/-- A subscription is made. -/
theorem add (h : r.Matches b handles) {n : Nat} (hn : n = (r.enter (event, s)).onces) :
    (r.enter (event, s)).Matches (({ b with numbered := n } : EventBus String ι).add event s)
      (handles ++ [(event, s)]) where
  lists name := by
    rw [EventBus.listeners_add, subscribed_enter, ← h.lists, ← h.lists]
    rfl
  numbered := EventBus.numbered_add.trans hn
  handles := congrArg (· ++ _) h.handles

/-- A subscription is taken back. -/
theorem remove (h : r.Matches b handles) (hb : b.InOrder) (event : String) (s : Subscription ι) :
    (r.strike (event, s)).Matches (b.remove event s) handles where
  lists name := by
    rw [EventBus.listeners_remove, subscribed_strike, ← h.lists, ← h.lists,
      (hb.nodup event).erase_eq_filter]
    by_cases hname : event = name <;> simp [hname]
  numbered := h.numbered
  handles := h.handles

/-- Whatever call is made, the bus lists those on the roll. -/
theorem call (h : r.Matches b handles) (hb : b.InOrder) (call : BusCall ι) :
    (r.after (.called call)).Matches (call.change handles b) (handles ++ call.handedOut b) := by
  cases call with
  | subscribe event l =>
    exact h.add (h.numbered.trans (by simp [onces, enter, Subscription.isOnce]))
  | once event l =>
    have hnumber : (b.once event l).1 = .once r.onces l := by
      rw [← h.numbered]
      rfl
    show (r.enter (event, .once r.onces l)).Matches _ (handles ++ [(event, (b.once event l).1)])
    rw [hnumber, ← hnumber]
    exact h.add (by rw [hnumber, h.numbered]; simp [onces, enter, Subscription.isOnce])
  | unsubscribe event l =>
    show Matches _ _ (handles ++ [])
    rw [List.append_nil]
    exact h.remove hb event (.always l)
  | withdraw handle =>
    show Matches ((r.handles[handle]?).elim r r.strike)
      ((handles[handle]?).elim b fun entry => b.remove entry.1 entry.2) (handles ++ [])
    rw [List.append_nil, ← h.handles]
    cases handles[handle]? with
    | none => exact h
    | some entry => exact h.remove hb entry.1 entry.2
  | emit event payload =>
    show Matches _ _ (handles ++ [])
    rw [List.append_nil]
    exact h
  | clear =>
    show Matches _ _ (handles ++ [])
    rw [List.append_nil]
    exact ⟨fun _ => rfl, h.numbered, h.handles⟩

end Matches

end Roll

/-- Every call keeps a bus in order. -/
theorem BusCall.change_change [DecidableEq ι] (handles : List (String × Subscription ι))
    (call : BusCall ι) : EventBus.Change (call.change handles) := by
  cases call with
  | subscribe event l => exact .subscribe event l
  | once event l => exact .once event l
  | unsubscribe event l => exact .remove event (.always l)
  | withdraw handle =>
    show EventBus.Change fun b => (handles[handle]?).elim b fun entry => b.remove entry.1 entry.2
    cases handles[handle]? with
    | none => exact .nothing
    | some entry => exact .remove entry.1 entry.2
  | emit _ _ => exact .nothing
  | clear => exact .clear

end VisualNovel
