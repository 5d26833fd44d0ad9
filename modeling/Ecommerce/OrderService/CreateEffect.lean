import Ecommerce.OrderService.Idempotency
import Ecommerce.OrderService.OutcomeEffect

set_option autoImplicit false

/-!
# What a createOrder transaction does to the order database
-/

namespace Ecommerce.OrderService

open Transaction

abbrev idempotencyKey (key : Uuid) : TableKey Key := .row (.idempotencyKey key)

def itemsTotal : List OrderLineItem → Nat
  | [] => 0
  | item :: rest => item.quantity * item.unitPriceCents + itemsTotal rest

theorem totalAmountCents_eq (dto : CreateOrderDto) :
    dto.totalAmountCents = itemsTotal dto.lineItems := by
  have total (items : List CreateOrderItemDto) (sum : Nat) :
      items.foldl (fun sum item => sum + item.quantity * item.unitPriceCents) sum =
        sum + itemsTotal (items.map CreateOrderItemDto.lineItem) := by
    induction items generalizing sum with
    | nil => simp [itemsTotal]
    | cons item rest ih =>
        simp only [List.foldl_cons, ih, List.map_cons, itemsTotal, CreateOrderItemDto.lineItem]
        omega
  simpa [CreateOrderDto.totalAmountCents, CreateOrderDto.lineItems] using total dto.items 0

structure Request where
  key : Uuid
  dto : CreateOrderDto
  now : Timestamp

def Request.body (config : Config) (request : Request) :
    Prog (TableKey Key) (TableRow Row) TxError Unit := do
  let _ ← onRows (createOrderTx config request.key request.now request.dto)

def Request.order (request : Request) (orderId correlationId : Uuid) : Order :=
  { id := orderId
    customerId := request.dto.customerId
    status := .pending
    paymentStatus := .pending
    inventoryStatus := .pending
    totalAmountCents := request.dto.totalAmountCents
    currency := request.dto.currency.getD "USD"
    correlationId
    createdAt := request.now
    items := request.dto.lineItems }

def Request.completed (config : Config) (request : Request) (orderId correlationId : Uuid) :
    IdempotencyKey :=
  { requestHash := config.hashBody request.dto
    status := .completed
    response := some (toResponse (request.order orderId correlationId))
    statusCode := some 201
    expiresAt := some (request.now + config.idempotencyTtlSeconds * 1000) }

def Request.createdRow (request : Request) (orderId correlationId eventId : Uuid) : OutboxEvent :=
  outboxRow "Order" request.now .ordersCreated <| NewEvent.envelope
    { eventType := .ordersCreated
      correlationId
      aggregateId := orderId
      producer
      payload := .orderCreated
        { orderId
          customerId := request.dto.customerId
          items := request.dto.lineItems
          totalAmountCents := request.dto.totalAmountCents
          currency := request.dto.currency.getD "USD" } } request.now eventId

inductive CreateEffect (config : Config) (drawn : Uuid → Prop) (request : Request)
    (rows : OrderDb) : Writes (TableKey Key) (TableRow Row) → Prop
  | created (unclaimed : rows (idempotencyKey request.key) = none)
      (orderId correlationId eventId rowId : Uuid) (orderDrawn : drawn orderId)
      (eventDrawn : drawn eventId) (rowDrawn : drawn rowId)
      (unknown : rows (orderKey orderId) = none) (free : rows (outboxKey rowId) = none) :
      CreateEffect config drawn request rows
        (((Writes.none.put (idempotencyKey request.key)
          (some (request.completed config orderId correlationId))).put (orderKey orderId)
            (some (request.order orderId correlationId))).put (outboxKey rowId)
              (some (request.createdRow orderId correlationId eventId)))

section Wp

variable {inv : OrderDb → Prop} {rely : OrderDb → OrderDb → Prop} {drawn : Uuid → Prop}

theorem Request.wp_body (config : Config) (request : Request) (rows : OrderDb) :
    wp inv rely drawn (request.body config)
      (Commits inv rely (fun request _ => CreateEffect config drawn request) request) .none rows := by
  simp only [Request.body, createOrderTx, executeTx, createOrderWork, createOrderRow, onRows_bind,
    onRows_create, onRows_randomUUID, onRows_ite, onRows_throw, onRows_createEvent, onRows_update,
    onRows_pure, wp_bind, wp_create, wp_randomUUID]
  intro claiming one unclaimed orderId orderDrawn correlationId _
  split
  · rw [wp_create]
    intro ordering two unknown
    simp only [wp_bind, wp_createEvent, wp_enqueue, wp_update, wp_pure]
    intro eventId eventDrawn rowId rowDrawn inserting three free completing four claimed found last five
    have unclaimedNow : last (idempotencyKey request.key) = none := by
      rw [five.frame _ (by simp [Writes.put_written]), four.frame _ (by simp [Writes.put_written]),
        three.frame _ (by simp [Writes.put_written]), two.frame _ (by simp [Writes.put_written])]
      exact unclaimed
    have unknownNow : last (orderKey orderId) = none := by
      rw [five.frame _ (by simp [Writes.put_written]), four.frame _ (by simp [Writes.put_written]),
        three.frame _ (by simp [Writes.put_written])]
      simpa [Store.set_other] using unknown
    have freeNow : last (outboxKey rowId) = none := by
      rw [five.frame _ (by simp [Writes.put_written]), four.frame _ (by simp [Writes.put_written])]
      simpa [Store.set_other] using free
    -- The completion updates the row that the claim has inserted.
    have claimedIs : claimed =
        { requestHash := config.hashBody request.dto
          status := .inProgress
          response := none
          statusCode := none
          expiresAt := none } := by
      simpa [Writes.over, Writes.put, eq_comm] using found
    rw [claimedIs, Writes.put_comm _ (show outboxKey rowId ≠ idempotencyKey request.key by simp),
      Writes.put_comm _ (show orderKey orderId ≠ idempotencyKey request.key by simp), Writes.put_put]
    exact .created unclaimedNow orderId correlationId eventId rowId orderDrawn eventDrawn rowDrawn
      unknownNow freeNow
  · trivial

end Wp

end Ecommerce.OrderService
