import Mathlib.Data.List.Forall2
import VisualNovel.Proofs.Emissions
import VisualNovel.Proofs.Subscriptions
import VisualNovel.Proofs.Tracks

/-!
# Deliveries of a bus

Whoever a bus calls may call it in turn, put values into the payload that it was handed, and fail.
Minutes are taken of every call and every delivery, each with the bus as it was at that moment. What
the owner of a bus and its listeners do is any `Conduct`, which may depend on all that has happened;
emissions lie inside of each other as deep as they like.

However that goes, each emission was heard by those who were subscribed when it started, once for
each subscription and in the order in which these were made, with the payload that was emitted
(`Conduct.delivers_exactly`). Who was subscribed is said by the roll, which knows of the calls and
the deliveries alone. What carries it is that the bus always lists those on the roll
(`Exchange.Sound`), and that the minutes of a call settle what was emitted in them and have nothing
to do with any other emission (`Settled`).
-/

namespace VisualNovel

variable {ι : Type}

/-! ## Minutes and conducts -/

/-- Something that has occurred, and the bus as it was then. -/
structure Minute (ι : Type) where
  what : Occurrence ι
  bus : EventBus String ι

/-- A bus, what it has given back for subscriptions, and the minutes. -/
structure Exchange (ι : Type) where
  bus : EventBus String ι := {}
  handles : List (String × Subscription ι) := []
  minutes : List (Minute ι) := []

/-- What someone does: calls of the bus and changes of the payload at hand, one after the other,
with a failure at the end or not. What comes next may depend on all that has happened. -/
inductive Conduct (ι : Type) where
  | done
  | fail
  | call (call : BusCall ι) (next : Exchange ι → Conduct ι)
  | put (key : String) (value : Value) (next : Exchange ι → Conduct ι)

namespace Exchange

def busPlace : Place (Exchange ι) (EventBus String ι) where
  get x := x.bus
  set bus x := { x with bus }

/-- Writes something down. -/
def note (what : Occurrence ι) (x : Exchange ι) : Exchange ι :=
  { x with minutes := x.minutes ++ [⟨what, x.bus⟩] }

end Exchange

/-- How a listener ends, and what it makes of the payload that it is handed. -/
abbrev Answer :=
  Except Fault Unit × Table String Value

/-- How the listener of a subscription is called for an emission of an event. -/
abbrev Hearing (ι : Type) :=
  (emission : Nat) → (event : String) → Subscription ι → Table String Value →
    StateM (Exchange ι) Answer

section
variable [DecidableEq ι]

/-- What a call that is no emission does. -/
def BusCall.carryOut (call : BusCall ι) (x : Exchange ι) : Exchange ι :=
  { x with bus := call.change x.handles x.bus, handles := x.handles ++ call.handedOut x.bus }

/-- Makes a call of a bus. -/
def BusCall.make (hear : Hearing ι) (call : BusCall ι) : StateM (Exchange ι) Unit := do
  let emission := (← get).minutes.length
  modify (Exchange.note (.called call))
  match call with
  | emit event payload =>
    EventBus.emit Exchange.busPlace event payload (hear emission event) (pure ())
  | _ => modify call.carryOut

namespace Conduct

/-- Does what the conduct lays down, with a payload at hand. -/
def follow (hear : Hearing ι) : Conduct ι → (own : Table String Value) → StateM (Exchange ι) Answer
  | done, own => pure (.ok (), own)
  | fail, own => pure (.error (.mishap .gaveUp), own)
  | call c next, own => do
    c.make hear
    (next (← get)).follow hear own
  | put key value next, own => do
    (next (← get)).follow hear (Table.put key value own)

/-- Listeners that behave as is laid down for each and the payload that it is handed. So many levels
of emissions lie inside of each other; at the last one listeners only listen. -/
def hearing (behaviour : ι → Table String Value → Exchange ι → Conduct ι) :
    (levels : Nat) → Hearing ι
  | 0, emission, event, s, payload => do
    modify (Exchange.note (.heard emission event s payload))
    return (.ok (), payload)
  | levels + 1, emission, event, s, payload => do
    modify (Exchange.note (.heard emission event s payload))
    (behaviour s.listener payload (← get)).follow (hearing behaviour levels) payload

/-- What has become of a new bus when its owner is done with it. -/
def outcome (behaviour : ι → Table String Value → Exchange ι → Conduct ι) (levels : Nat)
    (owner : Conduct ι) : Exchange ι :=
  ((owner.follow (hearing behaviour levels) []).run {}).2

end Conduct

end

/-! ## What the minutes say -/

namespace Minute

/-- A delivery of this emission. -/
def isOf (emission : Nat) (m : Minute ι) : Bool :=
  match m.what with
  | .heard i _ _ _ => i == emission
  | .called _ => false

/-- What was heard of an emission, in order. -/
def heardOf (emission : Nat) (minutes : List (Minute ι)) : List (Minute ι) :=
  minutes.filter (isOf emission)

/-- How often an event was emitted since all was forgotten, if it was so often before. -/
def count (event : String) (n : Nat) (m : Minute ι) : Nat :=
  match m.what with
  | .called .clear => 0
  | .called (.emit name _) => if name == event then n + 1 else n
  | _ => n

/-- How often an event was emitted since all was forgotten for the last time. -/
def emissions (event : String) (minutes : List (Minute ι)) : Nat :=
  minutes.foldl (count event) 0

/-- The roll by what was written down. -/
def roll [DecidableEq ι] (minutes : List (Minute ι)) : Roll ι :=
  .of (minutes.map (·.what))

end Minute

/-! ## Minutes that hang together -/

section
variable {event : String} {payload : Table String Value} {m : Minute ι}
  {rest later : List (Minute ι)} {busy : Option Nat} {i n : Nat}

namespace Minute

theorem heardOf_append : heardOf i (rest ++ later) = heardOf i rest ++ heardOf i later :=
  List.filter_append ..

theorem emissions_append :
    emissions event (rest ++ [m]) = count event (emissions event rest) m := by
  simp [emissions]

theorem roll_append [DecidableEq ι] : roll (rest ++ [m]) = (roll rest).after m.what := by
  simp [roll, Roll.of]

end Minute

/-- A subscription is served: its listener finds the payload of the emission, and if it was for one
delivery, it is listed no more. -/
def Serves (i : Nat) (event : String) (payload : Table String Value) (s : Subscription ι)
    (m : Minute ι) : Prop :=
  m.what = .heard i event s payload ∧
    ∀ number l, s = .once number l → s ∉ m.bus.listeners event

/-- What follows on the first `n` minutes is of emissions that have started before it is heard, and
of none of the first `n` minutes but perhaps a busy one. Those that start in it are over at its end,
and all who were listed are served. -/
structure Settled (busy : Option Nat) (n : Nat) (rest : List (Minute ι)) : Prop where
  apart : ∀ i < n, busy ≠ some i → Minute.heardOf i rest = []
  begun : ∀ k i event s payload bus, rest[k]? = some ⟨.heard i event s payload, bus⟩ → i < n + k
  served : ∀ k event payload bus, rest[k]? = some ⟨.called (.emit event payload), bus⟩ →
    List.Forall₂ (Serves (n + k) event payload) (bus.listeners event) (Minute.heardOf (n + k) rest)

namespace Settled

theorem nil : Settled busy n ([] : List (Minute ι)) :=
  ⟨fun _ _ _ => rfl, fun _ _ _ _ _ _ h => by simp at h, fun _ _ _ _ h => by simp at h⟩

theorem loosen (h : Settled none n rest) : Settled busy n rest :=
  ⟨fun i hi _ => h.apart i hi nofun, h.begun, h.served⟩

/-- Nothing is heard of an emission that has not started. -/
theorem later_unheard (h : Settled busy n rest) (hi : n + rest.length ≤ i) :
    Minute.heardOf i rest = [] := by
  refine List.filter_eq_nil_iff.2 fun m hm hof => ?_
  obtain ⟨k, hk, hget⟩ := List.mem_iff_getElem.1 hm
  obtain ⟨_ | ⟨j, event, s, payload⟩, bus⟩ := m
  · simp [Minute.isOf] at hof
  · obtain rfl : j = i := by simpa [Minute.isOf] using hof
    have hbegun := h.begun k j event s payload bus (List.getElem?_eq_some_iff.2 ⟨hk, hget⟩)
    omega

theorem append (h : Settled busy n rest) (h' : Settled busy (n + rest.length) later)
    (hbusy : ∀ i, busy = some i → i < n) : Settled busy n (rest ++ later) where
  apart i hi hfree := by
    rw [Minute.heardOf_append, h.apart i hi hfree, h'.apart i (by omega) hfree, List.append_nil]
  begun k i event s payload bus hk := by
    rcases Nat.lt_or_ge k rest.length with hlt | hge
    · rw [List.getElem?_append_left hlt] at hk
      exact h.begun k i event s payload bus hk
    · rw [List.getElem?_append_right hge] at hk
      have hbegun := h'.begun _ i event s payload bus hk
      omega
  served k event payload bus hk := by
    have hfree : busy ≠ some (n + k) := fun hb => by grind
    rw [Minute.heardOf_append]
    rcases Nat.lt_or_ge k rest.length with hlt | hge
    · rw [List.getElem?_append_left hlt] at hk
      rw [h'.apart _ (by omega) hfree, List.append_nil]
      exact h.served k event payload bus hk
    · rw [List.getElem?_append_right hge] at hk
      rw [h.later_unheard (by omega), List.nil_append]
      have hlater := h'.served _ event payload bus hk
      rwa [Nat.add_assoc, Nat.add_sub_cancel' hge] at hlater

/-- A call that is no emission. -/
theorem called {call : BusCall ι} {bus : EventBus String ι}
    (h : ∀ event payload, call ≠ .emit event payload) : Settled busy n [⟨.called call, bus⟩] where
  apart _ _ _ := rfl
  begun k i event s payload bus hk := by cases k <;> simp at hk
  served k event payload bus hk := by
    cases k <;> simp at hk
    exact absurd hk.1 (h event payload)

/-- A delivery of the busy emission. -/
theorem heard {s : Subscription ι} {bus : EventBus String ι} (hi : i < n) :
    Settled (some i) n [⟨.heard i event s payload, bus⟩] where
  apart j _ hj := by
    have hne : ¬i = j := fun h => hj (congrArg some h)
    simp [Minute.heardOf, Minute.isOf, hne]
  begun k j event s payload bus hk := by
    cases k <;> simp at hk
    exact hk.1.1 ▸ hi
  served k event payload bus hk := by
    cases k <;> simp at hk

/-- An emission is over when all who were listed are served. -/
theorem emitted {bus : EventBus String ι} (h : Settled (some n) (n + 1) rest)
    (hall : List.Forall₂ (Serves n event payload) (bus.listeners event) (Minute.heardOf n rest)) :
    Settled none n (⟨.called (.emit event payload), bus⟩ :: rest) where
  apart i hi _ := h.apart i (by omega) (by grind)
  begun k i event s payload bus hk := by
    cases k with
    | zero => simp at hk
    | succ k =>
      have hbegun := h.begun k i event s payload bus (by simpa using hk)
      omega
  served k event' payload' bus' hk := by
    cases k with
    | zero =>
      simp only [List.getElem?_cons_zero, Option.some.injEq, Minute.mk.injEq,
        Occurrence.called.injEq, BusCall.emit.injEq] at hk
      obtain ⟨⟨rfl, rfl⟩, rfl⟩ := hk
      exact hall
    | succ k =>
      have hrest := h.served k event' payload' bus' (by simpa using hk)
      rwa [Nat.add_assoc, Nat.add_comm 1] at hrest

end Settled

end

/-! ## Sound exchanges -/

variable [DecidableEq ι]

namespace Exchange

/-- The buses that there were, one after the other. -/
def buses (x : Exchange ι) : List (EventBus String ι) :=
  x.minutes.map (·.bus) ++ [x.bus]

/-- Every bus was in order and became the ones after it, counted what was emitted before, and, when
a call was made, listed those on the roll. -/
structure Sound (x : Exchange ι) : Prop where
  inOrder : ∀ b ∈ x.buses, b.InOrder
  becomes : x.buses.Pairwise EventBus.Becomes
  counts : ∀ event, x.bus.emitCount event = Minute.emissions event x.minutes
  counted : ∀ i m, x.minutes[i]? = some m → ∀ event,
    m.bus.emitCount event = Minute.emissions event (x.minutes.take i)
  enrolled : (Minute.roll x.minutes).Matches x.bus x.handles
  listed : ∀ i call bus, x.minutes[i]? = some ⟨.called call, bus⟩ → ∀ event,
    bus.listeners event = (Minute.roll (x.minutes.take i)).subscribed event

namespace Sound

variable {x x' : Exchange ι} {f : EventBus String ι → EventBus String ι} {m : Minute ι}

theorem bus (h : x.Sound) : x.bus.InOrder :=
  h.inOrder _ (by simp [buses])

theorem empty : Sound ({} : Exchange ι) where
  inOrder b hb := by
    rw [List.mem_singleton.1 hb]
    exact EventBus.inOrder_empty
  becomes := List.pairwise_singleton _ _
  counts _ := rfl
  counted _ _ h := by simp at h
  enrolled := .empty
  listed _ _ _ h := by simp at h

/-- The bus is changed, and something is written down, before that or after it. -/
theorem noted (h : x.Sound) (hf : EventBus.Change f) (hbus : x'.bus = f x.bus)
    (hminutes : x'.minutes = x.minutes ++ [m]) (hm : m.bus = x.bus ∨ m.bus = f x.bus)
    (hsame : ∀ event, m.bus.emitCount event = x.bus.emitCount event)
    (hcount : ∀ event, (f x.bus).emitCount event = Minute.count event (x.bus.emitCount event) m)
    (henrolled : ((Minute.roll x.minutes).after m.what).Matches x'.bus x'.handles)
    (hlisted : ∀ call, m.what = .called call → m.bus = x.bus) : x'.Sound := by
  have hold := List.pairwise_append.1 h.becomes
  have hafter : (f x.bus).InOrder ∧ x.bus.Becomes (f x.bus) := hf _ h.bus
  have hmid : m.bus.InOrder ∧ x.bus.Becomes m.bus ∧ m.bus.Becomes (f x.bus) := by
    rcases hm with hm | hm <;> rw [hm]
    · exact ⟨h.bus, .refl _, hafter.2⟩
    · exact ⟨hafter.1, hafter.2, .refl _⟩
  have hbuses : x'.buses = x.minutes.map (·.bus) ++ [m.bus, f x.bus] := by
    simp [buses, hbus, hminutes]
  constructor
  case inOrder =>
    intro b hb
    rw [hbuses] at hb
    rcases List.mem_append.1 hb with hb | hb
    · exact h.inOrder b (List.mem_append_left _ hb)
    · rcases List.mem_pair.1 hb with rfl | rfl
      · exact hmid.1
      · exact hafter.1
  case becomes =>
    rw [hbuses]
    refine List.pairwise_append.2 ⟨hold.1, List.pairwise_pair.2 hmid.2.2, fun b hb b' hb' => ?_⟩
    have hlast := hold.2.2 b hb x.bus (List.mem_singleton_self _)
    rcases List.mem_pair.1 hb' with rfl | rfl
    · exact hlast.trans hmid.2.1
    · exact hlast.trans hafter.2
  case counts =>
    intro event
    rw [hbus, hminutes, hcount, Minute.emissions_append, h.counts]
  case counted =>
    intro i m' hm' event
    rw [hminutes] at hm' ⊢
    rcases Nat.lt_or_ge i x.minutes.length with hlt | hge
    · rw [List.getElem?_append_left hlt] at hm'
      rw [List.take_append_of_le_length (Nat.le_of_lt hlt)]
      exact h.counted i m' hm' event
    · obtain ⟨rfl, rfl⟩ : i = x.minutes.length ∧ m' = m := by grind
      rw [List.take_left, hsame, h.counts]
  case enrolled =>
    rw [hminutes, Minute.roll_append]
    exact henrolled
  case listed =>
    intro i call bus hi event
    rw [hminutes] at hi ⊢
    rcases Nat.lt_or_ge i x.minutes.length with hlt | hge
    · rw [List.getElem?_append_left hlt] at hi
      rw [List.take_append_of_le_length (Nat.le_of_lt hlt)]
      exact h.listed i call bus hi event
    · obtain ⟨rfl, rfl⟩ : i = x.minutes.length ∧ m = ⟨.called call, bus⟩ := by grind
      obtain rfl : bus = x.bus := hlisted call rfl
      rw [List.take_left]
      exact h.enrolled.lists event

/-- A call that is no emission. -/
theorem called (h : x.Sound) {call : BusCall ι}
    (hcall : ∀ event payload, call ≠ .emit event payload) :
    (call.carryOut (x.note (.called call))).Sound := by
  refine h.noted (call.change_change x.handles) rfl rfl (.inl rfl) (fun _ => rfl) (fun event => ?_)
    (h.enrolled.call h.bus call) fun _ _ => rfl
  cases call with
  | subscribe _ _ => exact EventBus.emitCount_add
  | once _ _ => exact EventBus.emitCount_add
  | unsubscribe _ _ => rfl
  | withdraw handle =>
    show EventBus.emitCount ((x.handles[handle]?).elim x.bus fun entry =>
      x.bus.remove entry.1 entry.2) event = _
    cases x.handles[handle]? <;> rfl
  | emit event payload => exact absurd rfl (hcall event payload)
  | clear => rfl

/-- An emission starts. -/
theorem started (h : x.Sound) (event : String) (payload : Table String Value) :
    (busPlace.update (·.countEmission event) (x.note (.called (.emit event payload)))).Sound :=
  h.noted (.countEmission event) rfl rfl (.inl rfl) (fun _ => rfl)
    (EventBus.emitCount_countEmission x.bus event) (h.enrolled.countEmission event) fun _ _ => rfl

/-- A listener is called. -/
theorem heard (h : x.Sound) (i : Nat) (event : String) (s : Subscription ι)
    (payload : Table String Value) :
    ((EventBus.serving busPlace event s x).note (.heard i event s payload)).Sound := by
  cases s with
  | always l =>
    exact h.noted .nothing rfl rfl (.inl rfl) (fun _ => rfl)
      (fun _ => rfl) h.enrolled fun _ _ => rfl
  | once number l =>
    exact h.noted (.remove event (.once number l)) rfl rfl (.inr rfl) (fun _ => rfl) (fun _ => rfl)
      (h.enrolled.remove h.bus event (.once number l)) nofun

end Sound

/-- What becomes of an exchange: it stays sound, and what is written down is settled. -/
def Advances (x x' : Exchange ι) : Prop :=
  x.Sound → x'.Sound ∧
    ∃ rest, x'.minutes = x.minutes ++ rest ∧ Settled none x.minutes.length rest

instance : IsPreorder (Exchange ι) Advances where
  refl _ h := ⟨h, [], (List.append_nil _).symm, .nil⟩
  trans x y z hxy hyz hx := by
    obtain ⟨hy, rest, hrest, hsettled⟩ := hxy hx
    obtain ⟨hz, later, hlater, hsettled'⟩ := hyz hy
    rw [hrest, List.length_append] at hsettled'
    refine ⟨hz, rest ++ later, ?_, hsettled.append hsettled' nofun⟩
    rw [hlater, hrest, List.append_assoc]

end Exchange

/-! ## Runs -/

/-- A delivery is written down at its start, and what is written down after that is settled. -/
def Delivers (hear : Hearing ι) : Prop :=
  ∀ i event s payload (x : Exchange ι), x.Sound →
    let x₁ := EventBus.serving Exchange.busPlace event s x
    let x' := ((hear i event s payload).run x₁).2
    x'.Sound ∧ ∃ rest, x'.minutes = x.minutes ++ ⟨.heard i event s payload, x₁.bus⟩ :: rest ∧
      Settled none (x.minutes.length + 1) rest

section
variable {hear : Hearing ι} (hhear : Delivers hear)
include hhear

/-- One subscription is served. -/
theorem deliverTo_serves (i : Nat) (event : String) (payload : Table String Value)
    (s : Subscription ι) {x : Exchange ι} (hx : x.Sound) :
    let x' :=
      ((EventBus.deliverTo Exchange.busPlace event payload (hear i event) (pure ()) s).run x).2
    x'.Sound ∧ ∃ m rest, x'.minutes = x.minutes ++ m :: rest ∧ Serves i event payload s m ∧
      Settled none (x.minutes.length + 1) rest := by
  obtain ⟨hsound, rest, hminutes, hsettled⟩ := hhear i event s payload x hx
  have hgone : ∀ number l, s = .once number l →
      s ∉ (EventBus.serving Exchange.busPlace event s x).bus.listeners event := by
    rintro number l rfl
    show _ ∉ (x.bus.remove event _).listeners event
    rw [EventBus.listeners_remove, if_pos (BEq.refl event)]
    exact (hx.bus.nodup event).not_mem_erase
  rw [EventBus.deliverTo_run]
  generalize (hear i event s payload).run (EventBus.serving Exchange.busPlace event s x) = out
    at hsound hminutes ⊢
  -- However the listener ends, the next one has its turn.
  obtain ⟨⟨_ | _, own⟩, x'⟩ := out <;>
    exact ⟨hsound, _, rest, hminutes, ⟨rfl, hgone⟩, hsettled⟩

/-- All who were listed are served, one after the other. -/
theorem deliveries_serve (i : Nat) (event : String) (payload : Table String Value)
    (subs : List (Subscription ι)) {x : Exchange ι} (hx : x.Sound) (hi : i < x.minutes.length) :
    let x' := ((subs.forM
      (EventBus.deliverTo Exchange.busPlace event payload (hear i event) (pure ()))).run x).2
    x'.Sound ∧ ∃ rest, x'.minutes = x.minutes ++ rest ∧
      Settled (some i) x.minutes.length rest ∧
      List.Forall₂ (Serves i event payload) subs (Minute.heardOf i rest) := by
  induction subs generalizing x with
  | nil => exact ⟨hx, [], (List.append_nil _).symm, .nil, .nil⟩
  | cons s subs ih =>
    obtain ⟨hy, m, rest, hrest, hserves, hsettled⟩ := deliverTo_serves hhear i event payload s hx
    have hlength := congrArg List.length hrest
    rw [List.length_append, List.length_cons, ← Nat.add_assoc, Nat.add_right_comm] at hlength
    obtain ⟨hz, later, hlater, hsettled', hall⟩ := ih hy (by omega)
    rw [hlength] at hsettled'
    have hone : Settled (some i) x.minutes.length [m] := by
      obtain ⟨what, bus⟩ := m
      obtain rfl : what = _ := hserves.1
      exact .heard hi
    refine ⟨hz, m :: (rest ++ later), ?_, ?_, ?_⟩
    · exact hlater.trans (by rw [hrest, List.append_assoc, List.cons_append])
    · refine hone.append (hsettled.loosen.append hsettled' ?_) ?_ <;> grind
    · have hown : Minute.isOf i m = true := by simp [Minute.isOf, hserves.1]
      have hrest := hsettled.apart i (by omega) (Option.some_ne_none i).symm
      rw [Minute.heardOf, List.filter_cons_of_pos hown, List.filter_append]
      exact .cons hserves (by rwa [← Minute.heardOf, hrest, List.nil_append])

/-- What a call writes down is settled when it is over. -/
theorem BusCall.make_advances (call : BusCall ι) (x : Exchange ι) :
    Exchange.Advances x ((call.make hear).run x).2 := by
  intro hx
  have hplain : (∀ event payload, call ≠ .emit event payload) →
      (call.carryOut (x.note (.called call))).Sound ∧ ∃ rest,
        x.minutes ++ [⟨.called call, x.bus⟩] = x.minutes ++ rest ∧
          Settled none x.minutes.length rest :=
    fun hcall => ⟨hx.called hcall, _, rfl, .called hcall⟩
  cases call with
  | subscribe _ _ => exact hplain nofun
  | once _ _ => exact hplain nofun
  | unsubscribe _ _ => exact hplain nofun
  | withdraw _ => exact hplain nofun
  | clear => exact hplain nofun
  | emit event payload =>
    have hlength :
        (x.note (.called (.emit event payload))).minutes.length = x.minutes.length + 1 := by
      simp [Exchange.note]
    obtain ⟨hsound, rest, hrest, hsettled, hall⟩ := deliveries_serve hhear x.minutes.length event
      payload (x.bus.listeners event) (hx.started event payload) (hlength ▸ Nat.lt_succ_self _)
    refine ⟨hsound, _, hrest.trans (List.append_assoc ..), .emitted ?_ hall⟩
    exact hlength ▸ hsettled

/-- What a conduct writes down is settled when it is over. -/
theorem Conduct.follow_advances (conduct : Conduct ι) (own : Table String Value) (x : Exchange ι) :
    Exchange.Advances x ((conduct.follow hear own).run x).2 := by
  induction conduct generalizing own x with
  | done => exact refl_of Exchange.Advances x
  | fail => exact refl_of Exchange.Advances x
  | call c next ih =>
    exact trans_of Exchange.Advances (c.make_advances hhear x)
      (ih ((c.make hear).run x).2 own ((c.make hear).run x).2)
  | put key value next ih => exact ih x (Table.put key value own) x

end

namespace Conduct

variable (behaviour : ι → Table String Value → Exchange ι → Conduct ι) (levels : Nat)

/-- Listeners may behave as they like. -/
theorem hearing_delivers : Delivers (hearing behaviour levels) := by
  have hserving : ∀ event s (x : Exchange ι),
      (EventBus.serving Exchange.busPlace event s x).minutes = x.minutes := by
    intro event s x
    cases s <;> rfl
  induction levels with
  | zero =>
    intro i event s payload x hx
    refine ⟨hx.heard i event s payload, [], ?_, .nil⟩
    exact congrArg (· ++ _) (hserving event s x)
  | succ levels ih =>
    intro i event s payload x hx
    obtain ⟨hsound, rest, hrest, hsettled⟩ :=
      follow_advances ih (behaviour s.listener payload _) payload _ (hx.heard i event s payload)
    refine ⟨hsound, rest, hrest.trans ?_, ?_⟩
    · simp [Exchange.note, hserving]
    · simpa [Exchange.note, hserving] using hsettled

theorem outcome_sound (owner : Conduct ι) : (owner.outcome behaviour levels).Sound :=
  (follow_advances (hearing_delivers behaviour levels) owner [] {} .empty).1

theorem outcome_settled (owner : Conduct ι) :
    Settled none 0 (owner.outcome behaviour levels).minutes := by
  obtain ⟨-, rest, hrest, hsettled⟩ :=
    follow_advances (hearing_delivers behaviour levels) owner [] {} .empty
  have hminutes : (owner.outcome behaviour levels).minutes = rest := hrest
  exact hminutes ▸ hsettled

/-- What is heard of an emission is what was emitted, by those who were subscribed when it started:
once for each subscription, and in the order in which these were made. Who is subscribed is said by
the calls and deliveries before. At no time does the bus list anyone twice or anyone who is not
subscribed, and it has always counted the emissions since all was forgotten for the last time. -/
theorem delivers_exactly (owner : Conduct ι) :
    let x := owner.outcome behaviour levels
    (∀ i event payload bus, x.minutes[i]? = some ⟨.called (.emit event payload), bus⟩ →
      (Minute.heardOf i x.minutes).map (·.what) =
        ((Minute.roll (x.minutes.take i)).subscribed event).map fun s =>
          .heard i event s payload) ∧
    (∀ b ∈ x.buses, ∀ event, (b.listeners event).Nodup) ∧
    (∀ i call bus, x.minutes[i]? = some ⟨.called call, bus⟩ → ∀ event,
      bus.listeners event = (Minute.roll (x.minutes.take i)).subscribed event ∧
      bus.emitCount event = Minute.emissions event (x.minutes.take i)) ∧
    ∀ event, x.bus.listeners event = (Minute.roll x.minutes).subscribed event ∧
      x.bus.emitCount event = Minute.emissions event x.minutes := by
  have hsound := outcome_sound behaviour levels owner
  refine ⟨fun i event payload bus hi => ?_, fun b hb => (hsound.inOrder b hb).nodup,
    fun i call bus hi event => ⟨hsound.listed i call bus hi event, hsound.counted i _ hi event⟩,
    fun event => ⟨hsound.enrolled.lists event, hsound.counts event⟩⟩
  have hserved := (outcome_settled behaviour levels owner).served i event payload bus hi
  rw [Nat.zero_add, hsound.listed i _ bus hi event] at hserved
  refine List.ext_getElem (by simp [hserved.length_eq]) fun k hk hk' => ?_
  simp only [List.length_map] at hk hk'
  simpa using (hserved.get hk' hk).1

/-- Listener 0 spoils what it is handed, has the first subscription withdrawn, emits the event again
and fails. -/
def meddling : Nat → Table String Value → Exchange Nat → Conduct Nat
  | 0, _, _ => .put "n" .null fun _ => .call (.withdraw 0) fun _ =>
      .call (.emit "x" []) fun _ => .fail
  | _, _, _ => .done

/-- Someone who subscribes listener 2, listener 0 for one delivery and listener 1, and emits an
event twice. -/
def emitting : Conduct Nat :=
  .call (.subscribe "x" 2) fun _ => .call (.once "x" 0) fun _ => .call (.subscribe "x" 1) fun _ =>
    .call (.emit "x" [("n", .int 1)]) fun _ => .call (.emit "x" [("n", .int 2)]) fun _ => .done

/-- The first emission reaches its three listeners unspoiled, in order. The one inside of it and the
one after it reach listener 1 alone: listener 2 was withdrawn, and listener 0 has had its
delivery. -/
theorem delivers_exactly_meddling :
    let x := emitting.outcome meddling 1
    (Minute.heardOf 3 x.minutes).map (·.what) =
      [.heard 3 "x" (.always 2) [("n", .int 1)], .heard 3 "x" (.once 0 0) [("n", .int 1)],
        .heard 3 "x" (.always 1) [("n", .int 1)]] ∧
    (Minute.heardOf 7 x.minutes).map (·.what) = [.heard 7 "x" (.always 1) []] ∧
    (Minute.heardOf 10 x.minutes).map (·.what) =
      [.heard 10 "x" (.always 1) [("n", .int 2)]] ∧
    x.bus.emitCount "x" = 3 := by
  obtain ⟨hheard, -, -, hcounts⟩ := delivers_exactly meddling 1 emitting
  exact ⟨hheard 3 "x" [("n", .int 1)] _ rfl, hheard 7 "x" [] _ rfl,
    hheard 10 "x" [("n", .int 2)] _ rfl, (hcounts "x").2⟩

end Conduct

end VisualNovel
