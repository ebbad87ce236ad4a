import VisualNovel.EventBus
import VisualNovel.Remote.Call
import VisualNovel.Value.Display

/-!
# The event bus from afar

Events and listeners go by values. A listener notes each delivery, marks its copy of the payload as
touched, and then makes the calls that are laid down for it. The calls: `subscribe`, `once`, `off`,
`unsubscribe`, `emit`, `emit_count`, `listener_count`, `clear`, and `raise`, which only fails.
-/

namespace VisualNovel.Remote

/-- A bus, the subscriptions that were made, and what was delivered. -/
structure BusBoard where
  bus : EventBus Value Nat := {}
  /-- The listeners, each with the value that it goes by. -/
  listeners : List Value := []
  /-- The subscriptions that were handed out, each with its event. -/
  handles : List (Value × Subscription Nat) := []
  /-- The deliveries since the last call: the listener and what it heard. -/
  deliveries : Tape Value := {}
  log : Tape Note := {}
  deriving Inhabited

namespace BusBoard

/-- The place of the bus. -/
def busPlace : Place BusBoard (EventBus Value Nat) where
  get b := b.bus
  set bus b := { b with bus }

/-- The number of the listener that a value stands for; a new one gets the next number. -/
def listenerOf (id : Value) : Action BusBoard Nat := do
  let id ← Action.ofMishap id.asKey
  let b ← get
  match b.listeners.findIdx? (· == id) with
  | some n => return n
  | none =>
    set { b with listeners := b.listeners ++ [id] }
    return b.listeners.length

/-- Hands out a subscription. -/
def handOut (event : Value) (s : Subscription Nat) : Action BusBoard Value := do
  let b ← get
  set { b with handles := b.handles ++ [(event, s)] }
  return .int b.handles.length

/-- Changes the bus. -/
def changeBus (f : EventBus Value Nat → EventBus Value Nat) : Action BusBoard Value :=
  quietly (modify (busPlace.update f))

/-- The most deliveries that listeners answer by calls of their own. -/
def answered : Nat := 50

/-- Notes a delivery to a listener; the value that the listener goes by, if it answers. -/
def noteDelivery (data : Value) (n : Nat) : Action BusBoard (Option Value) := do
  let b ← get
  let id := b.listeners.getD n .null
  let deliveries := b.deliveries.push (.list [id, data])
  set { b with deliveries }
  return if deliveries.size ≤ answered then some id else none

/-- A call that is no emission. -/
def callPlain (c : Call) : Action BusBoard Value := do
  let event ← if c.name == "off" then pure .null else Action.ofMishap (c.arg 0).asKey
  match c.name with
  | "subscribe" =>
    let n ← listenerOf (c.arg 1)
    discard (changeBus (·.subscribe event n))
    handOut event (.always n)
  | "once" =>
    let n ← listenerOf (c.arg 1)
    let (s, bus) := (← get).bus.once event n
    discard (changeBus fun _ => bus)
    handOut event s
  | "off" =>
    let handles := (← get).handles
    let place ← Action.ofMishap (do Value.placeIn handles.length (← (c.arg 0).asWhole))
    match handles[place]? with
    | some (event, s) => changeBus (·.remove event s)
    | none => throw (.mishap .badIndex)
  | "unsubscribe" =>
    let n ← listenerOf (c.arg 1)
    changeBus (·.remove event (.always n))
  | "emit_count" => return .int ((← get).bus.emitCount event)
  | "listener_count" => return .int ((← get).bus.listenerCount event)
  | "clear" => changeBus (·.clear)
  | _ => throw (.mishap .gaveUp)

/-- A call of a bus. `actions` are the calls that the listeners make, and so many levels of them are
left. -/
def call (actions : Value) : (levels : Nat) → Call → Action BusBoard Value
  | 0, _ => return .null
  | levels + 1, c => do
    if c.name == "clear" then return ← changeBus (·.clear)
    if c.name != "emit" then return ← callPlain c
    let data ← match c.argOr 1 (.record []) with
      | .record fs => pure fs
      | _ => throw (.mishap .wrongType)
    let event ← Action.ofMishap (c.arg 0).asKey
    let answer (n : Nat) (data : Table Value Value) : Action BusBoard Unit := do
      match ← noteDelivery (.record data) n with
      | none => return
      | some id =>
        match (id.text?.map actions.field).getD .null with
        | .list rows => rows.forM fun row => discard (call actions levels (.ofRow row))
        | _ => return
    let hear (s : Subscription Nat) (data : Table Value Value) :
        StateM BusBoard (Except Fault Unit × Table Value Value) := do
      return (← (answer s.listener data).run, Table.put (.text "touched") (.bool true) data)
    let failed : StateM BusBoard Unit :=
      modify fun b => { b with log := b.log.push ⟨.error, s!"listener for {event.quote} failed"⟩ }
    quietly (ExceptT.lift (EventBus.emit busPlace event data hear failed))

/-- How deep deliveries can lie inside of each other: all that answer, and one that does not. -/
def depth : Nat := answered + 2

end BusBoard

/-- A call of a bus whose listeners make calls of their own. -/
def callBus (actions : Value) (c : Call) : Action BusBoard Value :=
  BusBoard.call actions BusBoard.depth c

end VisualNovel.Remote
