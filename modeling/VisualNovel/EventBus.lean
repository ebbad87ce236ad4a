import VisualNovel.Place
import VisualNovel.Table

/-!
# The event bus

Listeners subscribe to events by name. An emission goes to the listeners that are subscribed when it
starts, in the order of their subscription, and each of them is handed a copy of the payload. A
listener may subscribe, unsubscribe or emit while it is called; it may also fail, which stops
nothing.
-/

namespace VisualNovel

/-- A subscription of a listener: for good, or for one delivery. Each of the second kind has a
number of its own, so that subscribing twice makes two of them. -/
inductive Subscription (ι : Type) where
  | always (listener : ι)
  | once (number : Nat) (listener : ι)
  deriving Repr, DecidableEq

namespace Subscription

variable {ι : Type}

/-- The listener that is called. -/
def listener : Subscription ι → ι
  | always l => l
  | once _ l => l

end Subscription

/-- Who listens to what, and how often each event was emitted. Events go by names of the type
`κ`. -/
structure EventBus (κ ι : Type) where
  subscribers : Table κ (List (Subscription ι)) := []
  emitted : Table κ Nat := []
  /-- How many subscriptions for one delivery were made. -/
  numbered : Nat := 0

namespace EventBus

variable {κ ι : Type} [BEq κ] [DecidableEq ι]

/-- The subscriptions to an event, in order. -/
def listeners (b : EventBus κ ι) (event : κ) : List (Subscription ι) :=
  (Table.get? event b.subscribers).getD []

/-- Adds a subscription, unless it is there already. -/
def add (b : EventBus κ ι) (event : κ) (s : Subscription ι) : EventBus κ ι :=
  let there := b.listeners event
  if there.contains s then b
  else { b with subscribers := Table.put event (there ++ [s]) b.subscribers }

/-- Subscribes a listener for good. -/
def subscribe (b : EventBus κ ι) (event : κ) (listener : ι) : EventBus κ ι :=
  b.add event (.always listener)

/-- Subscribes a listener for one delivery; its subscription is given back. -/
def once (b : EventBus κ ι) (event : κ) (listener : ι) : Subscription ι × EventBus κ ι :=
  let s := .once b.numbered listener
  (s, ({ b with numbered := b.numbered + 1 } : EventBus κ ι).add event s)

/-- Removes a subscription, if it is there. -/
def remove (b : EventBus κ ι) (event : κ) (s : Subscription ι) : EventBus κ ι :=
  { b with subscribers := Table.put event ((b.listeners event).erase s) b.subscribers }

/-- How often an event was emitted. -/
def emitCount (b : EventBus κ ι) (event : κ) : Nat :=
  (Table.get? event b.emitted).getD 0

/-- How many subscriptions an event has. -/
def listenerCount (b : EventBus κ ι) (event : κ) : Nat :=
  (b.listeners event).length

/-- Counts an emission. -/
def countEmission (b : EventBus κ ι) (event : κ) : EventBus κ ι :=
  { b with emitted := Table.put event (b.emitCount event + 1) b.emitted }

/-- Forgets all subscriptions and counts. -/
def clear (b : EventBus κ ι) : EventBus κ ι :=
  { b with subscribers := [], emitted := [] }

variable {σ ε δ : Type}

/-- Delivers an event to one subscription. One that is for one delivery is removed first. `call`
says what the listener does: how it ends, and what it makes of the payload that it is handed. -/
def deliverTo (place : Place σ (EventBus κ ι)) (event : κ) (payload : δ)
    (call : Subscription ι → δ → StateM σ (Except ε Unit × δ)) (failed : StateM σ Unit)
    (s : Subscription ι) : StateM σ Unit := do
  match s with
  | .always _ => pure ()
  | .once _ _ => modify (place.update (·.remove event s))
  -- The listener has a copy of the payload: what it makes of that goes no further.
  let (result, _) ← call s payload
  match result with
  | .ok () => pure ()
  | .error _ => failed

/-- Emits an event: it is counted, and then delivered to all who are subscribed at this moment, to
each with a copy of the payload. `failed` is done for a listener that fails. -/
def emit (place : Place σ (EventBus κ ι)) (event : κ) (payload : δ)
    (call : Subscription ι → δ → StateM σ (Except ε Unit × δ)) (failed : StateM σ Unit) :
    StateM σ Unit := do
  modify (place.update (·.countEmission event))
  let subscribed := (place.get (← get)).listeners event
  subscribed.forM (deliverTo place event payload call failed)

end EventBus

end VisualNovel
