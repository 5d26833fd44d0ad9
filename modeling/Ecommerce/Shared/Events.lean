import Ecommerce.Transaction.Program

set_option autoImplicit false

namespace Ecommerce

open Transaction

abbrev Uuid := Nat

/-- Milliseconds since the epoch. -/
abbrev Timestamp := Nat

inductive Topic where
  | ordersCreated
  | ordersConfirmed
  | ordersCancelled
  | paymentsCompleted
  | paymentsFailed
  | inventoryReserved
  | inventoryRejected
  deriving DecidableEq

def Topic.name : Topic → String
  | .ordersCreated => "orders.created"
  | .ordersConfirmed => "orders.confirmed"
  | .ordersCancelled => "orders.cancelled"
  | .paymentsCompleted => "payments.completed"
  | .paymentsFailed => "payments.failed"
  | .inventoryReserved => "inventory.reserved"
  | .inventoryRejected => "inventory.rejected"

structure OrderLineItem where
  productId : Uuid
  quantity : Nat
  unitPriceCents : Nat
  deriving DecidableEq

structure OrderCreatedPayload where
  orderId : Uuid
  customerId : Uuid
  items : List OrderLineItem
  totalAmountCents : Nat
  currency : String
  deriving DecidableEq

structure OrderConfirmedPayload where
  orderId : Uuid
  customerId : Uuid
  totalAmountCents : Nat
  deriving DecidableEq

inductive CancelReason where
  | paymentFailed
  | outOfStock
  | customerCancelled
  deriving DecidableEq

structure OrderCancelledPayload where
  orderId : Uuid
  customerId : Uuid
  reason : CancelReason
  deriving DecidableEq

structure PaymentCompletedPayload where
  orderId : Uuid
  customerId : Uuid
  paymentId : Uuid
  amountChargedCents : Nat
  deriving DecidableEq

inductive DeclineReason where
  | cardDeclined
  | insufficientFunds
  | gatewayError
  deriving DecidableEq

structure PaymentFailedPayload where
  orderId : Uuid
  customerId : Uuid
  reason : DeclineReason
  deriving DecidableEq

structure ReservedItem where
  productId : Uuid
  quantity : Nat
  deriving DecidableEq

structure InventoryReservedPayload where
  orderId : Uuid
  reservationId : Uuid
  items : List ReservedItem
  deriving DecidableEq

structure Shortfall where
  productId : Uuid
  requested : Nat
  available : Int
  deriving DecidableEq

-- The reason of a rejection is always OUT_OF_STOCK.
structure InventoryRejectedPayload where
  orderId : Uuid
  shortfalls : List Shortfall
  deriving DecidableEq

inductive Payload where
  | orderCreated (payload : OrderCreatedPayload)
  | orderConfirmed (payload : OrderConfirmedPayload)
  | orderCancelled (payload : OrderCancelledPayload)
  | paymentCompleted (payload : PaymentCompletedPayload)
  | paymentFailed (payload : PaymentFailedPayload)
  | inventoryReserved (payload : InventoryReservedPayload)
  | inventoryRejected (payload : InventoryRejectedPayload)
  deriving DecidableEq

def Payload.topic : Payload → Topic
  | .orderCreated _ => .ordersCreated
  | .paymentCompleted _ => .paymentsCompleted
  | .paymentFailed _ => .paymentsFailed
  | .inventoryReserved _ => .inventoryReserved
  | .inventoryRejected _ => .inventoryRejected
  | .orderConfirmed _ => .ordersConfirmed
  | .orderCancelled _ => .ordersCancelled

def Payload.orderId : Payload → Uuid
  | .orderCreated payload => payload.orderId
  | .orderConfirmed payload => payload.orderId
  | .orderCancelled payload => payload.orderId
  | .paymentCompleted payload => payload.orderId
  | .paymentFailed payload => payload.orderId
  | .inventoryReserved payload => payload.orderId
  | .inventoryRejected payload => payload.orderId

structure NewEvent where
  eventType : Topic
  correlationId : Uuid
  aggregateId : Uuid
  producer : String
  payload : Payload
  deriving DecidableEq

structure EventEnvelope extends NewEvent where
  eventId : Uuid
  version : Nat
  occurredAt : Timestamp
  deriving DecidableEq

def NewEvent.envelope (input : NewEvent) (now : Timestamp) (eventId : Uuid) : EventEnvelope :=
  { input with eventId, version := 1, occurredAt := now }

variable {K : Type} {V : K → Type} {E : Type}

def randomUUID : Prog K V E Uuid := .fresh .pure

def createEvent (now : Timestamp) (input : NewEvent) : Prog K V E EventEnvelope := do
  let eventId ← randomUUID
  return input.envelope now eventId

end Ecommerce
