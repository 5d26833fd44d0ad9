import Ecommerce.Checkout.World

set_option autoImplicit false

/-!
# The outbox relay

Relay processes poll one outbox table. A drain reads a batch of unpublished rows, publishes one
after the other, and marks each row when the broker has acknowledged it. A process can die
between any two of these steps.
-/

namespace Ecommerce.Outbox

structure StoredEvent where
  id : Uuid
  row : OutboxEvent
  deriving DecidableEq

/-- An awaited call of `drainBatch`. -/
inductive Drain where
  | reading
  | publishing (row : StoredEvent) (rest : List StoredEvent)
  | marking (row : StoredEvent) (now : Timestamp) (rest : List StoredEvent)
  deriving DecidableEq

structure Relay where
  running : Bool
  stopped : Bool
  drains : List Drain
  deriving DecidableEq

def Relay.started : Relay :=
  { running := false, stopped := false, drains := [] }

/-- A request that nobody awaits any more. It may still arrive. -/
inductive Request where
  | publish (row : StoredEvent)
  | update (rowId : Uuid) (now : Timestamp)
  deriving DecidableEq

structure Acknowledgement where
  rowId : Uuid
  message : Message
  deriving DecidableEq

structure State where
  -- The committed rows, in the order of their commits.
  table : List StoredEvent
  -- What the broker has acknowledged, and the row that it was sent for.
  broker : List Acknowledgement
  relays : Nat → Relay
  adrift : List Request

inductive Progress where
  | read (sorted : List StoredEvent)
  | acknowledged (now : Timestamp)
  | updated
  | failed

inductive Action where
  | enqueue (rowId : Uuid) (aggregateType : String) (now : Timestamp) (topic : Topic)
      (event : EventEnvelope)
  | tick (relay : Nat)
  | progress (relay drain : Nat) (progress : Progress)
  | stop (relay : Nat)
  | crash (relay : Nat)
  | arrive (request : Nat)

def unpublished (table : List StoredEvent) : List StoredEvent :=
  table.filter fun stored => stored.row.publishedAt = none

def markPublished (rowId : Uuid) (now : Timestamp) (table : List StoredEvent) : List StoredEvent :=
  table.map fun stored =>
    if stored.id = rowId then { stored with row := { stored.row with publishedAt := some now } }
    else stored

def StoredEvent.acknowledgement (stored : StoredEvent) : Acknowledgement :=
  { rowId := stored.id, message := stored.row.message }

def Drain.pending : Drain → Option Request
  | .reading => none
  | .publishing row _ => some (.publish row)
  | .marking row now _ => some (.update row.id now)

/-- The loop over the batch; a drain that has no row left is over. -/
def publishAll : List StoredEvent → Option Drain
  | [] => none
  | row :: rest => some (.publishing row rest)

def Relay.tick (relay : Relay) : Relay :=
  if relay.running || relay.stopped then relay
  else { relay with running := true, drains := relay.drains ++ [.reading] }

/-- What a drain awaits next; the `finally` of a drain that is over clears `running`. -/
def Relay.resume (relay : Relay) (drain : Nat) : Option Drain → Relay
  | some next => { relay with drains := relay.drains.set drain next }
  | none => { relay with running := false, drains := relay.drains.eraseIdx drain }

namespace State

def initial : State :=
  { table := [], broker := [], relays := fun _ => .started, adrift := [] }

def resume (state : State) (relay drain : Nat) (next : Option Drain) : State :=
  { state with
    relays := Function.update state.relays relay ((state.relays relay).resume drain next) }

def acknowledge (state : State) (row : StoredEvent) : State :=
  { state with broker := state.broker ++ [row.acknowledgement] }

def mark (state : State) (rowId : Uuid) (now : Timestamp) : State :=
  { state with table := markPublished rowId now state.table }

def serve (state : State) : Request → State
  | .publish row => state.acknowledge row
  | .update rowId now => state.mark rowId now

def proceed (batchSize : Nat) (state : State) (relay drain : Nat) :
    Drain → Progress → Option State
  | .reading, .read sorted =>
      -- Rows with the same `createdAt` come in any order.
      if sorted.Perm (unpublished state.table) ∧
          sorted.Pairwise (fun one two => one.row.createdAt ≤ two.row.createdAt) then
        some (state.resume relay drain (publishAll (sorted.take batchSize)))
      else none
  | .publishing row rest, .acknowledged now =>
      some ((state.acknowledge row).resume relay drain (some (.marking row now rest)))
  | .marking row now rest, .updated =>
      some ((state.mark row.id now).resume relay drain (publishAll rest))
  | awaited, .failed =>
      some ({ state with adrift := state.adrift ++ awaited.pending.toList }.resume relay drain none)
  | _, _ => none

def step (batchSize : Nat) (state : State) : Action → Option State
  | .enqueue id aggregateType now topic event =>
      if id ∈ state.table.map StoredEvent.id then none
      else
        let row := outboxRow aggregateType now topic event
        some { state with table := state.table ++ [{ id, row }] }
  | .tick relay =>
      some { state with
        relays := Function.update state.relays relay (state.relays relay).tick }
  | .progress relay drain progress =>
      match (state.relays relay).drains[drain]? with
      | some awaited => state.proceed batchSize relay drain awaited progress
      | none => none
  | .stop relay =>
      some { state with
        relays := Function.update state.relays relay { state.relays relay with stopped := true } }
  | .crash relay =>
      some { state with
        relays := Function.update state.relays relay .started
        adrift := state.adrift ++ (state.relays relay).drains.filterMap Drain.pending }
  | .arrive index =>
      match state.adrift[index]? with
      | some request =>
          some { state.serve request with adrift := state.adrift.eraseIdx index }
      | none => none

end State

end Ecommerce.Outbox
