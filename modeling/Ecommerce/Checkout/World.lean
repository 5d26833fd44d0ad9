import Ecommerce.InventoryService.EventsConsumer
import Ecommerce.Machine.Run
import Ecommerce.NotificationService.NotificationEventsConsumer
import Ecommerce.OrderService.CreateEffect
import Ecommerce.PaymentService.OrderEventsConsumer

set_option autoImplicit false

/-!
# The whole system

Four services with a database each, and the topics between them. A relay publishes any row of
its outbox any number of times, and any published message is delivered to any service that
subscribes to its topic, any number of times and in any order.
-/

namespace Ecommerce

open Transaction

structure Config where
  orders : OrderService.Config
  payments : PaymentService.Config
  inventory : InventoryService.Config
  notifications : NotificationService.Config

structure Message where
  topic : Topic
  key : Uuid
  event : EventEnvelope
  deriving DecidableEq

/-- What the relay publishes of a row. -/
def OutboxEvent.message (row : OutboxEvent) : Message :=
  { topic := row.topic, key := row.partitionKey, event := row.payload }

inductive Producer where
  | order
  | payment
  | inventory
  deriving DecidableEq

inductive Service where
  | order
  | payment
  | inventory
  | notification
  deriving DecidableEq

structure World where
  orders : OrderService.OrderDb
  payments : PaymentService.PaymentDb
  inventory : InventoryService.InventoryDb
  notifications : NotificationService.NotificationDb
  messages : List Message
  -- Every UUID drawn so far is below this one.
  nextUuid : Uuid

inductive Action where
  | createOrder (request : OrderService.Request) (fault : Fault TxError)
  | publish (producer : Producer) (rowId : Uuid)
  | mark (producer : Producer) (rowId : Uuid) (now : Timestamp)
  | deliver (service : Service) (message : Message) (now : Timestamp) (fault : Fault TxError)

namespace World

def initial (products : Uuid → Option InventoryService.Product) : World :=
  -- Only the stock is there at the start.
  { orders := fun _ => none
    payments := fun _ => none
    inventory := fun
      | .row (.product productId) => products productId
      | _ => none
    notifications := fun _ => none
    messages := []
    nextUuid := 0 }

def outbox (world : World) : Producer → Uuid → Option OutboxEvent
  | .order, rowId => world.orders (OrderService.outboxKey rowId)
  | .payment, rowId => world.payments (PaymentService.outboxKey rowId)
  | .inventory, rowId => world.inventory (InventoryService.outboxKey rowId)

def processed (world : World) : Service → Uuid → Bool
  | .order, eventId => (world.orders (OrderService.marker eventId)).isSome
  | .payment, eventId => (world.payments (PaymentService.marker eventId)).isSome
  | .inventory, eventId => (world.inventory (InventoryService.marker eventId)).isSome
  | .notification, eventId => (world.notifications (NotificationService.marker eventId)).isSome

def subscribes (config : Config) : Service → Topic → Bool
  | .order, topic => (OrderService.routes topic).isSome
  | .payment, topic => (PaymentService.routes config.payments topic).isSome
  | .inventory, topic => (InventoryService.routes config.inventory topic).isSome
  | .notification, topic => (NotificationService.routes config.notifications topic).isSome

def commit {D : Type} (world : World) (store : D → World) :
    Except TxError (Unit × D × Nat) → World
  | .ok (_, database, nextUuid) => { store database with nextUuid }
  -- A transaction that does not commit leaves the world as it was.
  | .error _ => world

section Transactions

variable (world : World) (fault : Fault TxError)

def onOrders (body : Prog (TableKey OrderService.Key) (TableRow OrderService.Row) TxError Unit) :
    World :=
  world.commit (fun orders => { world with orders })
    (body.transaction fault world.orders world.nextUuid)

def onPayments
    (body : Prog (TableKey PaymentService.Key) (TableRow PaymentService.Row) TxError Unit) :
    World :=
  world.commit (fun payments => { world with payments })
    (body.transaction fault world.payments world.nextUuid)

def onInventory
    (body : Prog (TableKey InventoryService.Key) (TableRow InventoryService.Row) TxError Unit) :
    World :=
  world.commit (fun inventory => { world with inventory })
    (body.transaction fault world.inventory world.nextUuid)

def onNotifications
    (body : Prog (TableKey NotificationService.Key) (TableRow NotificationService.Row) TxError
      Unit) : World :=
  world.commit (fun notifications => { world with notifications })
    (body.transaction fault world.notifications world.nextUuid)

end Transactions

def mark (world : World) (rowId : Uuid) (now : Timestamp) : Producer → World
  | .order => world.onOrders none (onRows (OrderService.markPublished rowId now))
  | .payment => world.onPayments none (onRows (PaymentService.markPublished rowId now))
  | .inventory => world.onInventory none (onRows (InventoryService.markPublished rowId now))

def deliver (config : Config) (world : World) (message : Message) (now : Timestamp)
    (fault : Fault TxError) : Service → Option World
  | .order =>
      (OrderService.routes message.topic).map fun handler =>
        world.onOrders fault (handler now message.event)
  | .payment =>
      (PaymentService.routes config.payments message.topic).map fun handler =>
        world.onPayments fault (handler now message.event)
  | .inventory =>
      (InventoryService.routes config.inventory message.topic).map fun handler =>
        world.onInventory fault (handler now message.event)
  | .notification =>
      (NotificationService.routes config.notifications message.topic).map fun handler =>
        world.onNotifications fault (handler now message.event)

def step (config : Config) (world : World) : Action → Option World
  | .createOrder request fault => some (world.onOrders fault (request.body config.orders))
  | .publish producer rowId =>
      (world.outbox producer rowId).map fun row =>
        { world with messages := world.messages ++ [row.message] }
  | .mark producer rowId now =>
      match world.outbox producer rowId with
      -- A row is marked only after the broker has acknowledged it.
      | some row => if row.message ∈ world.messages then some (world.mark rowId now producer) else none
      | none => none
  | .deliver service message now fault =>
      if message ∈ world.messages then world.deliver config message now fault service else none

/-- Every outbox row is published, and every published message is processed by each service that
subscribes to its topic. -/
structure Quiescent (config : Config) (world : World) : Prop where
  published : ∀ producer rowId row, world.outbox producer rowId = some row →
    row.publishedAt ≠ none
  processed : ∀ message ∈ world.messages, ∀ service, subscribes config service message.topic →
    world.processed service message.event.eventId

def isQuiescent (config : Config) (world : World) : Bool :=
  ([.order, .payment, .inventory] : List Producer).all (fun producer =>
    (List.range world.nextUuid).all fun rowId =>
      (world.outbox producer rowId).all fun row => row.publishedAt.isSome) &&
  world.messages.all fun message =>
    ([.order, .payment, .inventory, .notification] : List Service).all fun service =>
      !subscribes config service message.topic || world.processed service message.event.eventId

end World

end Ecommerce
