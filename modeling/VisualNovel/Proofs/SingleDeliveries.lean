import VisualNovel.Proofs.Deliveries

/-!
# Subscriptions for one delivery

A subscription for one delivery is removed when its turn comes, but an emission that started before
that still serves it: it goes by the list that it took at its start. So a listener that emits the
same event again can have another one's subscription served twice
(`Conduct.served_twice_from_within`), first by the inner emission and then by the outer one. No
emission serves a subscription twice, and one that starts after the first delivery never serves it
again (`Conduct.serves_again_only_begun`).
-/

namespace VisualNovel

variable {ι : Type}

/-! ## Whose turn it is -/

namespace Exchange

/-- The minute is a delivery of an emission to the subscription whose turn it was, of those that the
bus listed when the emission started. -/
def Served (x : Exchange ι) (p i : Nat) (s : Subscription ι) : Prop :=
  ∃ event payload bus m, x.minutes[p]? = some m ∧ m.isOf i ∧
    x.minutes[i]? = some ⟨.called (.emit event payload), bus⟩ ∧
    (bus.listeners event)[(Minute.heardOf i (x.minutes.take p)).length]? = some s

end Exchange

namespace Minute

variable {minutes : List (Minute ι)} {m : Minute ι} {p q i : Nat}

theorem take_append_drop_of_getElem? (h : minutes[p]? = some m) :
    minutes = minutes.take p ++ m :: minutes.drop (p + 1) := by
  obtain ⟨hp, rfl⟩ := List.getElem?_eq_some_iff.1 h
  rw [← List.drop_eq_getElem_cons hp, List.take_append_drop]

/-- The delivery has its place among those of its emission. -/
theorem heardOf_getElem? (h : minutes[p]? = some m) (hm : m.isOf i) :
    (heardOf i minutes)[(heardOf i (minutes.take p)).length]? = some m := by
  have hsplit : heardOf i minutes =
      heardOf i (minutes.take p) ++ m :: heardOf i (minutes.drop (p + 1)) := by
    conv_lhs => rw [take_append_drop_of_getElem? h]
    rw [heardOf_append]
    exact congrArg _ (List.filter_cons_of_pos hm)
  rw [hsplit, List.getElem?_append_right (Nat.le_refl _), Nat.sub_self, List.getElem?_cons_zero]

/-- A later delivery has a later place. -/
theorem heardOf_take_lt (h : minutes[p]? = some m) (hm : m.isOf i) (hpq : p < q) :
    (heardOf i (minutes.take p)).length < (heardOf i (minutes.take q)).length := by
  have hq : (minutes.take q)[p]? = some m := by rw [List.getElem?_take_of_lt hpq, h]
  have hplace := heardOf_getElem? hq hm
  rw [List.take_take, Nat.min_eq_left (Nat.le_of_lt hpq)] at hplace
  exact (List.getElem?_eq_some_iff.1 hplace).1

theorem exists_heard {i : Nat} (h : m.isOf i) :
    ∃ event s payload bus, m = ⟨.heard i event s payload, bus⟩ := by
  obtain ⟨_ | ⟨j, event, s, payload⟩, bus⟩ := m
  · simp [isOf] at h
  · obtain rfl : j = i := by simpa [isOf] using h
    exact ⟨event, s, payload, bus, rfl⟩

end Minute

/-! ## Sound minutes that are settled -/

namespace Exchange

variable [DecidableEq ι] {x : Exchange ι} {p q i j n : Nat} {m m' : Minute ι} {l : ι}

/-- The buses of the minutes have become of each other. -/
theorem Sound.minutes_becomes (h : x.Sound) (hi : x.minutes[i]? = some m)
    (hj : x.minutes[j]? = some m') (hij : i < j) : m.bus.Becomes m'.bus := by
  have hall := List.pairwise_map.1 (List.pairwise_append.1 h.becomes).1
  obtain ⟨hlt, rfl⟩ := List.getElem?_eq_some_iff.1 hi
  obtain ⟨hlt', rfl⟩ := List.getElem?_eq_some_iff.1 hj
  exact List.pairwise_iff_getElem.1 hall i j hlt hlt' hij

theorem Sound.minutes_inOrder (h : x.Sound) (hi : x.minutes[i]? = some m) : m.bus.InOrder :=
  h.inOrder _ (List.mem_append_left _ (List.mem_map_of_mem (List.mem_of_getElem? hi)))

/-- A subscription for one delivery is listed for one event only. -/
theorem Sound.once_single (h : x.Sound) {event event' : String} (hi : x.minutes[i]? = some m)
    (hj : x.minutes[j]? = some m') (hmem : .once n l ∈ m.bus.listeners event)
    (hmem' : .once n l ∈ m'.bus.listeners event') : event = event' := by
  rcases Nat.lt_trichotomy i j with hlt | rfl | hlt
  · have hn := (h.minutes_inOrder hi).numbered _ _ _ hmem
    have hback := (h.minutes_becomes hi hj hlt).lasting _ _ _ hn hmem'
    exact ((h.minutes_inOrder hi).single _ _ _ _ _ hmem hback).1
  · obtain rfl : m = m' := Option.some.inj (hi.symm.trans hj)
    exact ((h.minutes_inOrder hi).single _ _ _ _ _ hmem hmem').1
  · have hn := (h.minutes_inOrder hj).numbered _ _ _ hmem'
    have hback := (h.minutes_becomes hj hi hlt).lasting _ _ _ hn hmem
    exact ((h.minutes_inOrder hj).single _ _ _ _ _ hback hmem').1

omit [DecidableEq ι] in
/-- Whoever is served finds the payload, and is listed no more if the subscription is for one
delivery. -/
theorem serves_of_turn (h : Settled none 0 x.minutes) {event : String}
    {payload : Table String Value} {bus : EventBus String ι} {s : Subscription ι}
    (hp : x.minutes[p]? = some m) (hm : m.isOf i)
    (hi : x.minutes[i]? = some ⟨.called (.emit event payload), bus⟩)
    (hs : (bus.listeners event)[(Minute.heardOf i (x.minutes.take p)).length]? = some s) :
    Serves i event payload s m := by
  have hserved := h.served i event payload bus hi
  rw [Nat.zero_add] at hserved
  obtain ⟨hk, hs⟩ := List.getElem?_eq_some_iff.1 hs
  obtain ⟨hk', hm⟩ := List.getElem?_eq_some_iff.1 (Minute.heardOf_getElem? hp hm)
  exact hs ▸ hm ▸ hserved.get hk hk'

end Exchange

/-! ## How often a subscription for one delivery is served -/

namespace Conduct

variable [DecidableEq ι] (behaviour : ι → Table String Value → Exchange ι → Conduct ι)
  (levels : Nat) (owner : Conduct ι) {p q i j n : Nat} {l : ι}

/-- If a subscription for one delivery is served again, then by another emission, and one that had
started before the first delivery. -/
theorem serves_again_only_begun (hp : (owner.outcome behaviour levels).Served p i (.once n l))
    (hq : (owner.outcome behaviour levels).Served q j (.once n l)) (hpq : p < q) :
    j ≠ i ∧ j < p := by
  have hsound := outcome_sound behaviour levels owner
  have hsettled := outcome_settled behaviour levels owner
  obtain ⟨event, payload, bus, m, hp, hm, hi, hturn⟩ := hp
  obtain ⟨event', payload', bus', m', hq, hm', hj, hturn'⟩ := hq
  have hmem := List.mem_of_getElem? hturn
  have hmem' := List.mem_of_getElem? hturn'
  obtain rfl : event = event' := hsound.once_single hi hj hmem hmem'
  refine ⟨?_, ?_⟩
  · rintro rfl
    -- One list would hold the subscription in two places.
    obtain rfl : bus = bus' := by
      have hsame := hi.symm.trans hj
      simp only [Option.some.injEq, Minute.mk.injEq] at hsame
      exact hsame.2
    have hnodup := (hsound.minutes_inOrder hi).nodup event
    obtain ⟨hk, hturn⟩ := List.getElem?_eq_some_iff.1 hturn
    obtain ⟨hk', hturn'⟩ := List.getElem?_eq_some_iff.1 hturn'
    exact absurd ((List.getElem_inj hnodup).1 (hturn.trans hturn'.symm))
      (Nat.ne_of_lt (Minute.heardOf_take_lt hp hm hpq))
  · refine Nat.lt_of_not_le fun hle => ?_
    have hne : p ≠ j := by
      rintro rfl
      obtain ⟨_, s, heard, b, rfl⟩ := Minute.exists_heard hm
      cases hp.symm.trans hj
    have hbegun : i < p := by
      obtain ⟨event', s, heard, b, rfl⟩ := Minute.exists_heard hm
      simpa using hsettled.begun p i event' s heard b hp
    -- The subscription was numbered when it was removed, and does not come back.
    have hn : n < m.bus.numbered := Nat.lt_of_lt_of_le
      ((hsound.minutes_inOrder hi).numbered _ _ _ hmem)
      (hsound.minutes_becomes hi hp hbegun).numbered
    have hback := (hsound.minutes_becomes hp hj (by omega)).lasting event n l hn hmem'
    exact (Exchange.serves_of_turn hsettled hp hm hi hturn).2 n l rfl hback

/-- Listener 0 emits the event again when it hears of the first emission. -/
def echoing : Nat → Table String Value → Exchange Nat → Conduct Nat
  | 0, [("n", .int 1)], _ => .call (.emit "x" [("n", .int 2)]) fun _ => .done
  | _, _, _ => .done

/-- Someone who subscribes two listeners for one delivery and emits the event once. -/
def emittingOnce : Conduct Nat :=
  .call (.once "x" 0) fun _ => .call (.once "x" 1) fun _ =>
    .call (.emit "x" [("n", .int 1)]) fun _ => .done

theorem echoing_serves_inside : (emittingOnce.outcome echoing 1).Served 5 4 (.once 1 1) :=
  ⟨"x", [("n", .int 2)], _, _, rfl, rfl, rfl, rfl⟩

theorem echoing_serves_after : (emittingOnce.outcome echoing 1).Served 6 2 (.once 1 1) :=
  ⟨"x", [("n", .int 1)], _, _, rfl, rfl, rfl, rfl⟩

/-- Of two subscriptions for one delivery, the second one is served by the emission that the first
listener makes, and then by the one that this listener was called for. -/
theorem serves_again_only_begun_echoing :
    (emittingOnce.outcome echoing 1).Served 5 4 (.once 1 1) ∧
      (emittingOnce.outcome echoing 1).Served 6 2 (.once 1 1) ∧ 5 < 6 ∧ 2 ≠ 4 ∧ 2 < 5 :=
  ⟨echoing_serves_inside, echoing_serves_after, by decide, serves_again_only_begun echoing 1
    emittingOnce echoing_serves_inside echoing_serves_after (by decide)⟩

/-- A subscription for one delivery may be served twice. -/
theorem served_twice_from_within :
    ¬ ∀ (behaviour : Nat → Table String Value → Exchange Nat → Conduct Nat) (levels : Nat)
        (owner : Conduct Nat) (p q i j n l : Nat),
      (owner.outcome behaviour levels).Served p i (.once n l) →
      (owner.outcome behaviour levels).Served q j (.once n l) → p = q := fun h =>
  absurd (h echoing 1 emittingOnce 5 6 4 2 1 1 echoing_serves_inside echoing_serves_after)
    (by decide)

end Conduct

end VisualNovel
