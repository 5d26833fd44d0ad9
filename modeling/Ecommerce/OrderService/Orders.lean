import Ecommerce.OrderService.Schema

set_option autoImplicit false

namespace Ecommerce.OrderService

open Transaction

def producer : String := "order-service"

def enqueue (now : Timestamp) (topic : Topic) (event : EventEnvelope) : Tx Unit :=
  enqueueAs (fun id row => create (V := Row) (.outboxEvent id) row) "Order" now topic event

def toResponse (order : Order) : OrderResponse :=
  { id := order.id
    customerId := order.customerId
    status := order.status
    paymentStatus := order.paymentStatus
    inventoryStatus := order.inventoryStatus
    totalAmountCents := order.totalAmountCents
    currency := order.currency
    correlationId := order.correlationId
    createdAt := order.createdAt
    items := order.items }

def CreateOrderItemDto.lineItem (item : CreateOrderItemDto) : OrderLineItem :=
  { productId := item.productId
    quantity := item.quantity
    unitPriceCents := item.unitPriceCents }

def CreateOrderDto.totalAmountCents (dto : CreateOrderDto) : Nat :=
  dto.items.foldl (fun sum item => sum + item.quantity * item.unitPriceCents) 0

def CreateOrderDto.lineItems (dto : CreateOrderDto) : List OrderLineItem :=
  dto.items.map CreateOrderItemDto.lineItem

def Order.fitsColumns (order : Order) : Bool :=
  fitsInteger order.totalAmountCents &&
    order.items.all fun item => fitsInteger item.quantity && fitsInteger item.unitPriceCents

def createOrderRow (order : Order) : Tx Order :=
  if order.fitsColumns then create (V := Row) (.order order.id) order
  else .throw (.other "value out of range for INTEGER")

/-- The work `createOrder` hands to the idempotency service. -/
def createOrderWork (now : Timestamp) (dto : CreateOrderDto) : Tx (OrderResponse × Nat) := do
  let orderId ← randomUUID
  let correlationId ← randomUUID
  let currency := dto.currency.getD "USD"
  let order ← createOrderRow
    { id := orderId
      customerId := dto.customerId
      status := .pending
      paymentStatus := .pending
      inventoryStatus := .pending
      totalAmountCents := dto.totalAmountCents
      currency
      correlationId
      createdAt := now
      items := dto.lineItems }
  let event ← createEvent now
    { eventType := .ordersCreated
      correlationId
      aggregateId := orderId
      producer
      payload := .orderCreated
        { orderId
          customerId := dto.customerId
          items := dto.lineItems
          totalAmountCents := dto.totalAmountCents
          currency } }
  enqueue now .ordersCreated event
  return (toResponse order, 201)

inductive Leg where
  | payment
  | inventory
  deriving DecidableEq

inductive Outcome where
  | succeeded
  | failed
  deriving DecidableEq

def Outcome.legStatus : Outcome → LegStatus
  | .succeeded => .succeeded
  | .failed => .failed

def Order.recordLeg (leg : Leg) (outcome : Outcome) (order : Order) : Order :=
  match leg with
  | .payment => { order with paymentStatus := outcome.legStatus }
  | .inventory => { order with inventoryStatus := outcome.legStatus }

/-- `settleConfirmed` and `settleCancelled` but for the status, the topic and the payload. -/
def settle (status : OrderStatus) (topic : Topic) (payload : Order → Payload) (now : Timestamp)
    (orderId : Uuid) : Tx Unit := do
  let order : Order ← update (V := Row) (.order orderId) fun (order : Order) =>
    { order with status }
  let event ← createEvent now
    { eventType := topic
      correlationId := order.correlationId
      aggregateId := orderId
      producer
      payload := payload order }
  enqueue now topic event

def settleConfirmed (now : Timestamp) (orderId customerId : Uuid) (totalAmountCents : Nat) :
    Tx Unit :=
  settle .confirmed .ordersConfirmed
    (fun _ => .orderConfirmed { orderId, customerId, totalAmountCents }) now orderId

def cancelReason (order : Order) : CancelReason :=
  if order.paymentStatus = .failed then .paymentFailed else .outOfStock

def settleCancelled (now : Timestamp) (orderId customerId : Uuid) : Tx Unit :=
  settle .cancelled .ordersCancelled
    (fun order => .orderCancelled { orderId, customerId, reason := cancelReason order }) now orderId

def applyLegOutcome (now : Timestamp) (orderId : Uuid) (leg : Leg) (outcome : Outcome) :
    Tx Unit := do
  let found : Option Order ← findUnique (V := Row) (.order orderId)
  match found with
  | none => return
  | some order =>
    if order.status ≠ .pending then return
    let updated : Order ← update (V := Row) (.order orderId) (Order.recordLeg leg outcome)
    if updated.paymentStatus = .failed ∨ updated.inventoryStatus = .failed then
      settleCancelled now orderId updated.customerId
    else if updated.paymentStatus = .succeeded ∧ updated.inventoryStatus = .succeeded then
      settleConfirmed now orderId updated.customerId updated.totalAmountCents

end Ecommerce.OrderService
